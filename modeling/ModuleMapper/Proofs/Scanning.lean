import Mathlib.Data.List.TakeWhile
import ModuleMapper.Proofs.Lines
import ModuleMapper.Proofs.Quoting

/-!
# Scanning — what more input can change

  `scan` looks at the front of a buffer, and a reader calls it while the rest of the input has not
  arrived.  Here is what that rest cannot change: a token stays what it is (`scan_append_of_token`),
  unless it is a bare word that reaches the end of the buffer; blanks are skipped now or later
  (`scan_append_of_blank`); and what is malformed stays so, with the same text once its line is over
  (`scan_append_of_malformed`).
-/

namespace ModuleMapper

/-! ## Bytes by what they start -/

namespace Byte

/-- A byte that starts no token and separates none. -/
def isStray (b : UInt8) : Bool :=
  !(isBlank b || b == newline || b == semicolon || b == quote || isBare b)

/-- Every byte is a blank, starts one of the four kinds of token, or is stray. -/
theorem starts (b : UInt8) : isBlank b = true ∨ b = newline ∨ b = semicolon ∨ b = quote
    ∨ isBare b = true ∨ isStray b = true := by
  cases hstray : isStray b with
  | true => exact Or.inr (Or.inr (Or.inr (Or.inr (Or.inr rfl))))
  | false =>
      simp only [isStray, Bool.not_eq_false', Bool.or_eq_true, beq_iff_eq] at hstray
      rcases hstray with (((hblank | hnewline) | hsemicolon) | hquote) | hbare
      · exact Or.inl hblank
      · exact Or.inr (Or.inl hnewline)
      · exact Or.inr (Or.inr (Or.inl hsemicolon))
      · exact Or.inr (Or.inr (Or.inr (Or.inl hquote)))
      · exact Or.inr (Or.inr (Or.inr (Or.inr (Or.inl hbare))))

theorem isBlank_of_isBare {b : UInt8} (h : isBare b = true) : isBlank b = false := by
  cases hb : isBlank b with
  | false => rfl
  | true =>
      simp only [isBlank, Bool.or_eq_true, beq_iff_eq] at hb
      rcases hb with hspace | htab
      · subst hspace
        cases h
      · subst htab
        cases h

theorem ne_of_isBare {b c : UInt8} (h : isBare b = true) (hc : isBare c = false) : b ≠ c := by
  intro heq
  rw [heq, hc] at h
  cases h

end Byte

namespace Wire

/-! ## One byte at a time -/

@[simp] theorem scan_nil : scan [] = .blank := rfl

theorem scan_cons_of_isBlank {b : UInt8} (h : Byte.isBlank b = true) (rest : Bytes) :
    scan (b :: rest) = scan rest := by
  unfold scan
  rw [List.dropWhile_cons_of_pos h]

@[simp] theorem scan_newline (rest : Bytes) :
    scan (Byte.newline :: rest) = .token .newline rest := rfl

@[simp] theorem scan_semicolon (rest : Bytes) :
    scan (Byte.semicolon :: rest) = .token .continuation rest := rfl

theorem scan_quote_of_some {bytes body rest : Bytes} (h : quotedBody? bytes = some (body, rest)) :
    scan (Byte.quote :: bytes) = .token (.word (unquote body)) rest := by
  unfold scan
  rw [List.dropWhile_cons_of_neg Bool.false_ne_true]
  simp only [if_true, h]
  rfl

theorem scan_quote_of_none {bytes : Bytes} (h : quotedBody? bytes = none) :
    scan (Byte.quote :: bytes) = .unclosed := by
  unfold scan
  rw [List.dropWhile_cons_of_neg Bool.false_ne_true]
  simp only [if_true, h]
  rfl

theorem scan_cons_of_isBare {b : UInt8} (h : Byte.isBare b = true) (rest : Bytes) :
    scan (b :: rest)
      = .token (.word ((b :: rest).takeWhile Byte.isBare)) ((b :: rest).dropWhile Byte.isBare) := by
  have hblank : ¬ Byte.isBlank b = true := by simp [Byte.isBlank_of_isBare h]
  unfold scan
  rw [List.dropWhile_cons_of_neg hblank]
  simp only [if_neg (Byte.ne_of_isBare (c := Byte.newline) h rfl),
    if_neg (Byte.ne_of_isBare (c := Byte.semicolon) h rfl),
    if_neg (Byte.ne_of_isBare (c := Byte.quote) h rfl), if_pos h]

theorem scan_cons_of_isStray {b : UInt8} (h : Byte.isStray b = true) (rest : Bytes) :
    scan (b :: rest) = .malformed (lineOf (b :: rest)) := by
  simp only [Byte.isStray, Bool.not_eq_true', Bool.or_eq_false_iff, beq_eq_false_iff_ne] at h
  obtain ⟨⟨⟨⟨hblank, hnewline⟩, hsemicolon⟩, hquote⟩, hbare⟩ := h
  unfold scan
  rw [List.dropWhile_cons_of_neg (by simp [hblank])]
  simp only [if_neg hnewline, if_neg hsemicolon, if_neg hquote, hbare, if_false, Bool.false_eq_true]

/-- What the first byte of a buffer means: it is skipped, or malformed with its line, or opens a quote
    that is not closed, or starts a token. -/
theorem scan_cons (b : UInt8) (buffer : Bytes) :
    (Byte.isBlank b = true ∧ scan (b :: buffer) = scan buffer)
      ∨ (Byte.isStray b = true ∧ scan (b :: buffer) = .malformed (lineOf (b :: buffer)))
      ∨ scan (b :: buffer) = .unclosed
      ∨ ∃ token rest, scan (b :: buffer) = .token token rest := by
  rcases Byte.starts b with hblank | rfl | rfl | rfl | hbare | hstray
  · exact Or.inl ⟨hblank, scan_cons_of_isBlank hblank buffer⟩
  · exact Or.inr (Or.inr (Or.inr ⟨_, _, scan_newline buffer⟩))
  · exact Or.inr (Or.inr (Or.inr ⟨_, _, scan_semicolon buffer⟩))
  · cases hq : quotedBody? buffer with
    | none => exact Or.inr (Or.inr (Or.inl (scan_quote_of_none hq)))
    | some found => exact Or.inr (Or.inr (Or.inr ⟨_, _, scan_quote_of_some hq⟩))
  · exact Or.inr (Or.inr (Or.inr ⟨_, _, scan_cons_of_isBare hbare buffer⟩))
  · exact Or.inr (Or.inl ⟨hstray, scan_cons_of_isStray hstray buffer⟩)

/-! ## Ends of buffers -/

/-- A nonempty end of a byte string has its last byte. -/
theorem getLast?_of_suffix {short bytes : Bytes} (h : short <:+ bytes) (hne : short ≠ []) :
    bytes.getLast? = short.getLast? := by
  obtain ⟨front, rfl⟩ := h
  rw [List.getLast?_append, List.getLast?_eq_some_getLast hne]
  rfl

/-- What `scan` leaves behind a token is the end of the buffer. -/
theorem scan_rest_suffix {buffer rest : Bytes} {token : Token}
    (h : scan buffer = .token token rest) : rest <:+ buffer := by
  induction buffer with
  | nil => cases h
  | cons b buffer ih =>
      rcases Byte.starts b with hblank | rfl | rfl | rfl | hbare | hstray
      · rw [scan_cons_of_isBlank hblank] at h
        exact (ih h).trans (List.suffix_cons b buffer)
      · injection h with _ hrest
        exact hrest ▸ List.suffix_cons _ buffer
      · injection h with _ hrest
        exact hrest ▸ List.suffix_cons _ buffer
      · cases hq : quotedBody? buffer with
        | none =>
            rw [scan_quote_of_none hq] at h
            cases h
        | some found =>
            rw [scan_quote_of_some hq] at h
            injection h with _ hrest
            exact hrest ▸ (quotedBody?_rest_suffix hq).trans (List.suffix_cons _ buffer)
      · rw [scan_cons_of_isBare hbare] at h
        injection h with _ hrest
        exact hrest ▸ List.dropWhile_suffix _
      · rw [scan_cons_of_isStray hstray] at h
        cases h

/-! ## Longer buffers -/

/-- A run of bare bytes that stops inside a buffer stops there in every longer one. -/
theorem bareRun_append {bytes : Bytes} (h : bytes.dropWhile Byte.isBare ≠ []) (more : Bytes) :
    (bytes ++ more).takeWhile Byte.isBare = bytes.takeWhile Byte.isBare
      ∧ (bytes ++ more).dropWhile Byte.isBare = bytes.dropWhile Byte.isBare ++ more := by
  constructor
  · rw [List.takeWhile_append, if_neg]
    intro hlength
    have hall := (List.takeWhile_prefix Byte.isBare).eq_of_length hlength
    exact h (List.dropWhile_eq_nil_iff.mpr (List.takeWhile_eq_self_iff.mp hall))
  · rw [List.dropWhile_append, if_neg]
    intro hempty
    exact h (List.isEmpty_iff.mp hempty)

/-- A run of bare bytes is a word as far as it goes. -/
theorem scan_bare_append {word : Word} (hne : word ≠ []) (hall : ∀ b ∈ word, Byte.isBare b = true)
    (rest : Bytes) :
    scan (word ++ rest)
      = .token (.word (word ++ rest.takeWhile Byte.isBare)) (rest.dropWhile Byte.isBare) := by
  cases word with
  | nil => exact absurd rfl hne
  | cons b word =>
      rw [List.cons_append, scan_cons_of_isBare (hall b List.mem_cons_self), ← List.cons_append,
        List.takeWhile_append_of_pos hall, List.dropWhile_append_of_pos hall]

/-- A run of bare bytes ends where a byte follows that is not bare. -/
theorem scan_bare_append_of_head? {word rest : Bytes} (hne : word ≠ [])
    (hall : ∀ b ∈ word, Byte.isBare b = true) (hrest : ∀ b ∈ rest.head?, Byte.isBare b = false) :
    scan (word ++ rest) = .token (.word word) rest := by
  rw [scan_bare_append hne hall]
  cases rest with
  | nil => rw [List.takeWhile_nil, List.dropWhile_nil, List.append_nil]
  | cons b rest =>
      have hb : ¬ Byte.isBare b = true := by simp [hrest b rfl]
      rw [List.takeWhile_cons_of_neg hb, List.dropWhile_cons_of_neg hb, List.append_nil]

/-- **A token stays what it is** when more input arrives, unless it is a bare word that reaches the
    end of the buffer: only then is the last byte one that a bare word may hold. -/
theorem scan_append_of_token {buffer rest : Bytes} {token : Token}
    (h : scan buffer = .token token rest)
    (hend : rest = [] → ∀ b ∈ buffer.getLast?, Byte.isBare b = false) (more : Bytes) :
    scan (buffer ++ more) = .token token (rest ++ more) := by
  induction buffer with
  | nil => cases h
  | cons b buffer ih =>
      rw [List.cons_append]
      rcases Byte.starts b with hblank | rfl | rfl | rfl | hbare | hstray
      · rw [scan_cons_of_isBlank hblank] at h ⊢
        refine ih h ?_
        intro hrest last hlast
        refine hend hrest last ?_
        rw [List.getLast?_cons, Option.mem_def.mp hlast]
        exact rfl
      · injection h with htoken hrest
        rw [scan_newline, htoken, hrest]
      · injection h with htoken hrest
        rw [scan_semicolon, htoken, hrest]
      · cases hq : quotedBody? buffer with
        | none =>
            rw [scan_quote_of_none hq] at h
            cases h
        | some found =>
            rw [scan_quote_of_some hq] at h
            injection h with htoken hrest
            rw [scan_quote_of_some (quotedBody?_append hq more), htoken, hrest]
      · rw [scan_cons_of_isBare hbare] at h ⊢
        injection h with htoken hrest
        -- the bare word stops inside the buffer, at a byte that is not bare
        have hstops : (b :: buffer).dropWhile Byte.isBare ≠ [] := by
          intro hall
          have hne : b :: buffer ≠ [] := List.cons_ne_nil b buffer
          have hlast := List.dropWhile_eq_nil_iff.mp hall _ (List.getLast_mem hne)
          have hnot := hend (hrest ▸ hall) _ (List.getLast?_eq_some_getLast hne)
          rw [hnot] at hlast
          cases hlast
        obtain ⟨htake, hdrop⟩ := bareRun_append hstops more
        rw [← List.cons_append, htake, hdrop, htoken, hrest]
      · rw [scan_cons_of_isStray hstray] at h
        cases h

/-- Blanks in front of what arrives later make no difference. -/
theorem scan_append_of_blank {buffer : Bytes} (h : scan buffer = .blank) (more : Bytes) :
    scan (buffer ++ more) = scan more := by
  induction buffer with
  | nil => rfl
  | cons b buffer ih =>
      rcases scan_cons b buffer with ⟨hblank, hskip⟩ | ⟨-, hstray⟩ | hopen | ⟨token, rest, htoken⟩
      · rw [hskip] at h
        rw [List.cons_append, scan_cons_of_isBlank hblank, ih h]
      · cases hstray.symm.trans h
      · cases hopen.symm.trans h
      · cases htoken.symm.trans h

/-- What is malformed is the line from the first stray byte on. -/
theorem exists_of_scan_malformed {buffer line : Bytes} (h : scan buffer = .malformed line) :
    ∃ b bytes, Byte.isStray b = true ∧ line = lineOf (b :: bytes) ∧ b :: bytes <:+ buffer
      ∧ ∀ more, scan (buffer ++ more) = .malformed (lineOf (b :: bytes ++ more)) := by
  induction buffer with
  | nil => cases h
  | cons b buffer ih =>
      rcases scan_cons b buffer with ⟨hblank, hskip⟩ | ⟨hstray, hline⟩ | hopen | ⟨token, rest, htoken⟩
      · rw [hskip] at h
        obtain ⟨stray, bytes, hstray, hline, hsuffix, hmore⟩ := ih h
        refine ⟨stray, bytes, hstray, hline, hsuffix.trans (List.suffix_cons b buffer), ?_⟩
        intro more
        rw [List.cons_append, scan_cons_of_isBlank hblank, hmore more]
      · rw [hline] at h
        injection h with hsame
        refine ⟨b, buffer, hstray, hsame.symm, List.suffix_rfl, ?_⟩
        intro more
        rw [List.cons_append, scan_cons_of_isStray hstray]
      · cases hopen.symm.trans h
      · cases htoken.symm.trans h

/-- **What is malformed stays so**, and its text with it once the buffer ends in a newline. -/
theorem scan_append_of_malformed {buffer line : Bytes} (h : scan buffer = .malformed line)
    (hlast : buffer.getLast? = some Byte.newline) (more : Bytes) :
    scan (buffer ++ more) = .malformed line := by
  obtain ⟨b, bytes, -, hline, hsuffix, hmore⟩ := exists_of_scan_malformed h
  have hnewline : Byte.newline ∈ b :: bytes := by
    rw [getLast?_of_suffix hsuffix (List.cons_ne_nil b bytes)] at hlast
    exact List.mem_of_getLast? hlast
  rw [hmore more, lineOf_append hnewline, hline]

end Wire

end ModuleMapper
