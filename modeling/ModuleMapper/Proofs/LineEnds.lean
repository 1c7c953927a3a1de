import ModuleMapper.Proofs.Reading

/-!
# Line ends — where a reader stands behind a block

  A reader takes whole lines, and a block ends with a line.  So behind a block the reader holds nothing,
  the last byte that it took is the newline that ended the block, and it has not asked for more since
  (`Reader.BehindNewline`).  This is so on every stream, with faults in the middle of lines, and for every
  reader that was called before, whatever came of these calls (`Reader.Reached`).

  The invariant is `Reader.Lined`: in what a reader holds, a newline is the last byte, or it stands inside
  a quote.  A quote that is not closed yet may hold newlines, and the line that closes it brings one more,
  at its end; behind the closing quote only a part of that line is left (`scan_append_of_unclosed`).
-/

namespace ModuleMapper

namespace Wire

/-! ## Lines -/

/-- A line, or a part of one: a newline is its last byte, if it holds one. -/
def IsLine (bytes : Bytes) : Prop := Byte.newline ∉ bytes.dropLast

theorem IsLine.nil : IsLine [] := List.not_mem_nil

/-- An end of a line is a part of it. -/
theorem IsLine.of_suffix {short bytes : Bytes} (h : IsLine bytes) (hshort : short <:+ bytes) :
    IsLine short := by
  obtain ⟨front, rfl⟩ := hshort
  by_cases hne : short = []
  · rw [hne]
    exact IsLine.nil
  · intro hmem
    refine h ?_
    rw [List.dropLast_append_of_ne_nil hne]
    exact List.mem_append_right front hmem

/-- What follows bytes without a newline makes a line of them if it is one. -/
theorem IsLine.append {front bytes : Bytes} (hfront : Byte.newline ∉ front) (h : IsLine bytes) :
    IsLine (front ++ bytes) := by
  intro hmem
  by_cases hne : bytes = []
  · rw [hne, List.append_nil] at hmem
    exact hfront (List.dropLast_subset front hmem)
  · rw [List.dropLast_append_of_ne_nil hne] at hmem
    exact (List.mem_append.mp hmem).elim hfront h

/-- A line that does not end in a newline holds none. -/
theorem IsLine.newline_not_mem {bytes : Bytes} (h : IsLine bytes)
    (hlast : bytes.getLast? ≠ some Byte.newline) : Byte.newline ∉ bytes := by
  intro hmem
  cases hend : bytes.getLast? with
  | none =>
      rw [List.getLast?_eq_none_iff.mp hend] at hmem
      cases hmem
  | some last =>
      obtain ⟨front, rfl⟩ := List.getLast?_eq_some_iff.mp hend
      rw [IsLine, List.dropLast_concat] at h
      rcases List.mem_append.mp hmem with hfront | hsame
      · exact h hfront
      · exact hlast (by rw [hend, List.mem_singleton.mp hsame])

/-! ## Newlines and open quotes -/

/-- Nothing but blanks stands in front of a newline that is a token. -/
theorem eq_append_of_scan_newline {buffer rest : Bytes} (h : scan buffer = .token .newline rest) :
    ∃ blanks, buffer = blanks ++ Byte.newline :: rest := by
  induction buffer with
  | nil => cases h
  | cons b buffer ih =>
      rcases Byte.starts b with hblank | rfl | rfl | rfl | hbare | hstray
      · rw [scan_cons_of_isBlank hblank] at h
        obtain ⟨blanks, rfl⟩ := ih h
        exact ⟨b :: blanks, rfl⟩
      · injection h with _ hrest
        exact ⟨[], by rw [hrest, List.nil_append]⟩
      · cases h
      · cases hq : quotedBody? buffer with
        | none =>
            rw [scan_quote_of_none hq] at h
            cases h
        | some found =>
            rw [scan_quote_of_some hq] at h
            cases h
      · rw [scan_cons_of_isBare hbare] at h
        cases h
      · rw [scan_cons_of_isStray hstray] at h
        cases h

/-- Behind the newline of a line there is nothing. -/
theorem IsLine.eq_nil_of_scan_newline {buffer rest : Bytes} (h : IsLine buffer)
    (hscan : scan buffer = .token .newline rest) : rest = [] := by
  obtain ⟨blanks, rfl⟩ := eq_append_of_scan_newline hscan
  by_contra hne
  refine h ?_
  rw [List.dropLast_append_of_ne_nil (List.cons_ne_nil _ _), List.dropLast_cons_of_ne_nil hne]
  exact List.mem_append_right blanks List.mem_cons_self

/-- **What closes a quote ends inside the bytes that close it**, and is a word. -/
theorem scan_append_of_unclosed {buffer more rest : Bytes} {token : Token}
    (hopen : scan buffer = .unclosed) (h : scan (buffer ++ more) = .token token rest) :
    rest <:+ more ∧ token ≠ .newline := by
  induction buffer with
  | nil => cases hopen
  | cons b buffer ih =>
      rw [List.cons_append] at h
      rcases Byte.starts b with hblank | rfl | rfl | rfl | hbare | hstray
      · rw [scan_cons_of_isBlank hblank] at hopen h
        exact ih hopen h
      · cases hopen
      · cases hopen
      · cases hq : quotedBody? buffer with
        | some found =>
            rw [scan_quote_of_some hq] at hopen
            cases hopen
        | none =>
            cases hmore : quotedBody? (buffer ++ more) with
            | none =>
                rw [scan_quote_of_none hmore] at h
                cases h
            | some found =>
                rw [scan_quote_of_some hmore] at h
                injection h with htoken hrest
                refine ⟨hrest ▸ quotedBody?_append_of_none hq hmore, ?_⟩
                rw [← htoken]
                exact Token.noConfusion
      · rw [scan_cons_of_isBare hbare] at hopen
        cases hopen
      · rw [scan_cons_of_isStray hstray] at hopen
        cases hopen

end Wire

/-! ## What one call takes from any stream -/

namespace InputStream

open Wire

/-- The stream has not been asked for more since the last byte was taken from it. -/
def Unasked (s : InputStream) : Prop := ∃ asked, s.lastAsked = some asked ∧ asked < s.position

theorem position_ask (s : InputStream) : s.ask.2.position = s.position := by
  simp only [ask]
  split
  · rfl
  · split <;> rfl

theorem lastAsked_ask (s : InputStream) : s.ask.2.lastAsked = some s.position := by
  simp only [ask]
  split
  · rfl
  · split <;> rfl

/-- A window yields a line, or a part of one. -/
theorem isLine_lineWithin (size : Nat) (bytes : Bytes) : IsLine (lineWithin size bytes).1 := by
  induction bytes generalizing size with
  | nil => cases size <;> exact IsLine.nil
  | cons b rest ih =>
      cases size with
      | zero => exact IsLine.nil
      | succ size =>
          simp only [lineWithin]
          by_cases hb : b = Byte.newline
          · rw [if_pos hb]
            exact List.not_mem_nil
          · rw [if_neg hb]
            have hfront : Byte.newline ∉ [b] := fun hmem => hb (List.mem_singleton.mp hmem).symm
            exact (ih size).append hfront

/-- The position counts the bytes that are taken. -/
theorem position_readLine (s : InputStream) :
    s.readLine.stream.position = s.position + s.readLine.taken.length := by
  fun_induction readLine s with
  | case1 s fault hask _ ih => rw [ih, position_ask]
  | case2 s fault hask _ => exact position_ask s
  | case3 s size hask step _ =>
      show s.ask.2.position + step.1.length = _
      rw [position_ask]
  | case4 s size hask step _ more ih =>
      have hstep : step.2.position = s.position + step.1.length := by
        show s.ask.2.position + step.1.length = _
        rw [position_ask]
      rw [ih, hstep, List.length_append, Nat.add_assoc]

/-- **A call takes no more than a line**, and does not ask again once it has the newline. -/
theorem isLine_readLine (s : InputStream) : IsLine s.readLine.taken
    ∧ (s.readLine.taken.getLast? = some Byte.newline → s.readLine.stream.Unasked) := by
  fun_induction readLine s with
  | case1 s fault hask _ ih => exact ih
  | case2 s fault hask _ =>
      refine ⟨IsLine.nil, ?_⟩
      intro hlast
      cases hlast
  | case3 s size hask step hstop =>
      refine ⟨isLine_lineWithin size s.ask.2.rest, ?_⟩
      intro hlast
      have hne : step.1 ≠ [] := by
        intro hnil
        rw [hnil] at hlast
        cases hlast
      refine ⟨s.position, lastAsked_ask s, ?_⟩
      show s.position < s.ask.2.position + step.1.length
      have := List.length_pos_iff.mpr hne
      rw [position_ask]
      omega
  | case4 s size hask step hgo more ih =>
      obtain ⟨hline, hunasked⟩ := ih
      -- the window ended inside the line, so that it yielded no newline
      have hopen : step.1.getLast? ≠ some Byte.newline := fun hlast => hgo (Or.inr hlast)
      have hfront : Byte.newline ∉ step.1 :=
        (isLine_lineWithin size s.ask.2.rest).newline_not_mem hopen
      refine ⟨hline.append hfront, ?_⟩
      intro hlast
      refine hunasked ?_
      rw [List.getLast?_append] at hlast
      cases hmore : more.taken.getLast? with
      | none =>
          rw [hmore] at hlast
          exact absurd hlast hopen
      | some last =>
          rw [hmore] at hlast
          exact hlast

end InputStream

/-! ## What a reader holds -/

namespace Wire.Reader

/-- A reader that was made for a stream and has been called any number of times, whatever came of it. -/
inductive Reached (s : InputStream) : Reader → Prop where
  | start : Reached s { stream := s }
  | readBlock {r : Reader} : Reached s r → Reached s r.readBlock.2
  | iterate {r : Reader} : Reached s r → Reached s r.iterate.2

/-- A reader that holds the end of what was taken from its stream, and no line behind the one whose tokens
    it delivers. -/
structure Lined (s : InputStream) (r : Reader) : Prop where
  taken : ∃ taken, s.rest = taken ++ r.stream.rest
    ∧ r.stream.position = s.position + taken.length ∧ r.pending <:+ taken
  /-- Behind a token only a part of one line is left, and behind a newline nothing. -/
  line : ∀ token rest, scan r.pending = .token token rest →
    IsLine rest ∧ (token = .newline → rest = [])
  /-- The newline that ends the line of a token was the last byte that was asked for. -/
  unasked : ∀ token rest, scan r.pending = .token token rest →
    r.pending.getLast? = some Byte.newline → r.stream.Unasked

variable {s : InputStream} {r : Reader}

/-- Only the stream and what is held count. -/
theorem Lined.congr {other : Reader} (h : r.Lined s) (hstream : other.stream = r.stream)
    (hpending : other.pending = r.pending) : other.Lined s where
  taken := by
    rw [hstream, hpending]
    exact h.taken
  line := by
    rw [hpending]
    exact h.line
  unasked := by
    rw [hstream, hpending]
    exact h.unasked

theorem Lined.start (s : InputStream) : Lined s { stream := s } where
  taken := ⟨[], rfl, rfl, List.suffix_rfl⟩
  line := by
    intro token rest hscan
    cases hscan
  unasked := by
    intro token rest hscan
    cases hscan

/-- Blanks may be thrown away. -/
theorem Lined.clear (h : r.Lined s) : Lined s { r with pending := [] } where
  taken := by
    obtain ⟨taken, hrest, hposition, -⟩ := h.taken
    exact ⟨taken, hrest, hposition, List.nil_suffix⟩
  line := by
    intro token rest hscan
    cases hscan
  unasked := by
    intro token rest hscan
    cases hscan

/-- A token may be taken off. -/
theorem Lined.drop (h : r.Lined s) {token : Token} {rest : Bytes}
    (hscan : scan r.pending = .token token rest) : Lined s { r with pending := rest } where
  taken := by
    obtain ⟨taken, hrest, hposition, hpending⟩ := h.taken
    exact ⟨taken, hrest, hposition, (scan_rest_suffix hscan).trans hpending⟩
  line := by
    intro next more hnext
    have hline := (h.line token rest hscan).1
    refine ⟨hline.of_suffix (scan_rest_suffix hnext), ?_⟩
    rintro rfl
    exact hline.eq_nil_of_scan_newline hnext
  unasked := by
    intro next more hnext hlast
    refine h.unasked token rest hscan ?_
    have hne : rest ≠ [] := by
      rintro rfl
      cases hlast
    rw [getLast?_of_suffix (scan_rest_suffix hscan) hne]
    exact hlast

/-- Another line may be taken behind an open quote, or where nothing is held, whether or not it comes to
    its end. -/
theorem Lined.readLine (h : r.Lined s) (hopen : r.pending = [] ∨ scan r.pending = .unclosed) :
    r.readLine.2.Lined s := by
  obtain ⟨hline, hunasked⟩ := InputStream.isLine_readLine r.stream
  have hheld : Lined s
      { r with stream := r.stream.readLine.stream, pending := r.pending ++ r.stream.readLine.taken } := by
    refine ⟨?_, ?_, ?_⟩
    · obtain ⟨taken, hrest, hposition, hpending⟩ := h.taken
      refine ⟨taken ++ r.stream.readLine.taken, ?_, ?_, ?_⟩
      · rw [List.append_assoc, InputStream.readLine_append, hrest]
      · show r.stream.readLine.stream.position = _
        rw [InputStream.position_readLine, hposition, List.length_append, Nat.add_assoc]
      · obtain ⟨front, rfl⟩ := hpending
        exact ⟨front, (List.append_assoc _ _ _).symm⟩
    · intro token rest hscan
      rcases hopen with hnil | hunclosed
      · rw [hnil, List.nil_append] at hscan
        refine ⟨hline.of_suffix (scan_rest_suffix hscan), ?_⟩
        rintro rfl
        exact hline.eq_nil_of_scan_newline hscan
      · obtain ⟨hsuffix, hword⟩ := scan_append_of_unclosed hunclosed hscan
        exact ⟨hline.of_suffix hsuffix, fun hnewline => absurd hnewline hword⟩
    · intro token rest hscan hlast
      -- without a byte more there would still be no token
      have hne : r.stream.readLine.taken ≠ [] := by
        intro hnil
        simp only [hnil, List.append_nil] at hscan
        rcases hopen with hempty | hunclosed
        · rw [hempty] at hscan
          cases hscan
        · cases hunclosed.symm.trans hscan
      refine hunasked ?_
      rw [getLast?_of_suffix (List.suffix_append _ _) hne] at hlast
      exact hlast
  unfold Reader.readLine
  by_cases hended : r.ended = true
  · rw [if_pos hended]
    exact h
  · rw [if_neg hended]
    simp only
    split
    · exact hheld
    · split
      · exact hheld.congr rfl rfl
      · exact hheld

/-- The invariant is kept by every attempt to make a token. -/
theorem Lined.readToken (h : r.Lined s) : r.readToken.2.Lined s := by
  fun_induction Reader.readToken r with
  | case1 r token rest hscan => exact h.drop hscan
  | case2 r line hscan => exact h
  | case3 r hscan blank failure hline | case4 r hscan blank hline =>
      exact h.clear.readLine (Or.inl rfl)
  | case5 r hscan blank hline ih => exact ih (h.clear.readLine (Or.inl rfl))
  | case6 r hscan failure hline | case7 r hscan hline => exact h.readLine (Or.inr hscan)
  | case8 r hscan hline ih => exact ih (h.readLine (Or.inr hscan))

/-- … and by every attempt to make a block. -/
theorem Lined.complete (h : r.Lined s) (draft : Draft) : (Reader.complete draft r).2.Lined s := by
  fun_induction Reader.complete draft r with
  | case1 draft r failure htoken | case2 draft r htoken | case3 draft r token htoken block hfeed =>
      exact h.readToken
  | case4 draft r token htoken next hfeed ih => exact ih h.readToken

theorem Lined.iterate (h : r.Lined s) : r.iterate.2.Lined s := by
  have hblock : r.readBlock.2.Lined s := h.complete {}
  unfold Reader.iterate
  split
  · exact h
  · split
    · next hread =>
        rw [hread] at hblock
        exact hblock.congr rfl rfl
    · next hread =>
        rw [hread] at hblock
        exact hblock
    · next hread =>
        rw [hread] at hblock
        exact hblock.congr rfl rfl

/-- **Every reader is lined**, whatever its stream does and however it was called. -/
theorem Reached.lined (h : r.Reached s) : r.Lined s := by
  induction h with
  | start => exact Lined.start s
  | readBlock _ ih => exact ih.complete {}
  | iterate _ ih => exact ih.iterate

/-! ## Behind a block -/

/-- A reader right behind a newline: the newline is the last byte that was taken from the stream, nothing
    is held, and the stream has not been asked for more since. -/
structure BehindNewline (s : InputStream) (r : Reader) : Prop where
  pending : r.pending = []
  taken : ∃ bytes, s.rest = bytes ++ Byte.newline :: r.stream.rest
    ∧ r.stream.position = s.position + bytes.length + 1
  unasked : r.stream.Unasked

/-- **Behind a newline that it delivers a reader holds nothing.** -/
theorem behindNewline_readToken (h : r.Lined s) (htoken : r.readToken.1 = .ok (some .newline)) :
    r.readToken.2.BehindNewline s := by
  fun_induction Reader.readToken r with
  | case1 r token rest hscan =>
      injection htoken with hsome
      injection hsome with hnewline
      subst hnewline
      have hnil : rest = [] := (h.line _ _ hscan).2 rfl
      subst hnil
      obtain ⟨blanks, hpending⟩ := eq_append_of_scan_newline hscan
      have hlast : r.pending.getLast? = some Byte.newline := by
        rw [hpending, List.getLast?_concat]
      obtain ⟨taken, hrest, hposition, front, rfl⟩ := h.taken
      refine ⟨rfl, ⟨front ++ blanks, ?_, ?_⟩, h.unasked _ _ hscan hlast⟩
      · rw [hrest, hpending]
        simp only [List.append_assoc, List.cons_append, List.nil_append]
      · rw [hposition, hpending]
        simp only [List.length_append, List.length_cons, List.length_nil]
        omega
  | case2 | case3 | case4 | case6 | case7 => cases htoken
  | case5 r hscan blank hline ih => exact ih (h.clear.readLine (Or.inl rfl)) htoken
  | case8 r hscan hline ih => exact ih (h.readLine (Or.inr hscan)) htoken

/-- The tokens that a reader delivers, one after another, up to another reader. -/
inductive Yields : Reader → List Token → Reader → Prop where
  | nil (r : Reader) : Yields r [] r
  | cons {r last : Reader} {token : Token} {tokens : List Token} :
      r.readToken.1 = .ok (some token) → Yields r.readToken.2 tokens last →
      Yields r (token :: tokens) last

/-- **A block ends with a newline, and the reader stands right behind it.**  Induction on the tokens of the
    block. -/
theorem behindNewline_complete {draft : Draft} {block : Block} (h : r.Lined s)
    (hblock : (Reader.complete draft r).1 = .ok block) (hne : block ≠ []) :
    (Reader.complete draft r).2.BehindNewline s
      ∧ ∃ tokens, r.Yields (tokens ++ [.newline]) (Reader.complete draft r).2
        ∧ draft.assemble (tokens ++ [.newline]) = ([block], {}) := by
  fun_induction Reader.complete draft r with
  | case1 draft r failure htoken => cases hblock
  | case2 draft r htoken =>
      simp only at hblock
      split at hblock
      · injection hblock with hnil
        exact absurd hnil.symm hne
      · cases hblock
  | case3 draft r token htoken closed hfeed =>
      injection hblock with hsame
      subst hsame
      cases token with
      | newline =>
          refine ⟨behindNewline_readToken h htoken, [], .cons htoken (.nil _), ?_⟩
          rw [List.nil_append, Draft.assemble_of_closed hfeed]
          rfl
      | continuation => cases hfeed
      | word value => cases hfeed
  | case4 draft r token htoken next hfeed ih =>
      obtain ⟨hbehind, tokens, hyields, hassemble⟩ := ih h.readToken hblock
      refine ⟨hbehind, token :: tokens, .cons htoken hyields, ?_⟩
      rw [List.cons_append, Draft.assemble_of_open hfeed, hassemble]

theorem behindNewline_readBlock {block : Block} (h : r.Reached s)
    (hblock : r.readBlock.1 = .ok block) (hne : block ≠ []) :
    r.readBlock.2.BehindNewline s
      ∧ ∃ tokens, r.Yields (tokens ++ [.newline]) r.readBlock.2
        ∧ Draft.assemble {} (tokens ++ [.newline]) = ([block], {}) :=
  behindNewline_complete h.lined hblock hne

end Wire.Reader

end ModuleMapper
