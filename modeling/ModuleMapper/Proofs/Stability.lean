import ModuleMapper.Proofs.Conservation
import ModuleMapper.Proofs.RoundTrip

/-!
# Stability — what later bytes leave as it is

  A reader scans what it holds before the rest of its input has arrived, so what it finds must not hang on
  that rest.  A token does not, and neither does the number of bytes that it uses up (`Uses.append`); nor do
  bytes that are no token, and once their line is over their text does not either (`malformed_append`).

  There are three exceptions: blanks, which any token may follow; an open quote, which can always be closed
  (`exists_closing`), also where the buffer ends right behind a backslash; and a bare word that reaches the
  end of the buffer, which can always go on (`EndsBare`).  `scan_is_stable` says that these are all.
-/

namespace ModuleMapper.Wire

open QuotedUnit

variable {buffer rest : Bytes} {token : Token} {used : Nat}

/-! ## Tokens -/

/-- A bare word reaches the end of the buffer. -/
def EndsBare (buffer : Bytes) : Prop :=
  ∃ blanks word, Blank blanks ∧ Word.isBare word = true ∧ buffer = blanks ++ word

/-- What a bare word at the end of a buffer becomes. -/
theorem scan_append_of_endsBare {blanks word : Bytes} (hblanks : Blank blanks)
    (hword : Word.isBare word = true) (more : Bytes) :
    scan (blanks ++ word ++ more)
      = .token (.word (word ++ more.takeWhile Byte.isBare)) (more.dropWhile Byte.isBare) := by
  obtain ⟨hne, hall⟩ := isBare_iff.mp hword
  rw [List.append_assoc, scan_append_of_blank (scan_of_blank hblanks), scan_bare_append hne hall]

/-- Only a bare word can reach the end of a buffer and go on there. -/
theorem not_isBare_of_not_endsBare (h : scan buffer = .token token []) (hend : ¬ EndsBare buffer) :
    ∀ b ∈ buffer.getLast?, Byte.isBare b = false := by
  obtain ⟨blanks, spelled, hblanks, hspells, hbuffer⟩ := exists_of_scan_token h
  rw [List.append_nil] at hbuffer
  have hlast : ∀ last, spelled.getLast? = some last → Byte.isBare last = false →
      ∀ b ∈ buffer.getLast?, Byte.isBare b = false := by
    intro last hlast hbare b hb
    rw [hbuffer, List.getLast?_append, hlast] at hb
    rw [← Option.some.inj hb]
    exact hbare
  cases hspells with
  | newline => exact hlast _ rfl rfl
  | continuation => exact hlast _ rfl rfl
  | bare hne hall => exact absurd ⟨blanks, spelled, hblanks, isBare_iff.mpr ⟨hne, hall⟩, hbuffer⟩ hend
  | quoted units =>
      refine hlast Byte.quote ?_ rfl
      rw [← List.cons_append, List.getLast?_concat]

theorem scan_append_of_not_endsBare (h : scan buffer = .token token rest) (hend : ¬ EndsBare buffer)
    (more : Bytes) : scan (buffer ++ more) = .token token (rest ++ more) := by
  refine scan_append_of_token h ?_ more
  rintro rfl
  exact not_isBare_of_not_endsBare h hend

/-- **A token stays, and uses up as many bytes**, unless it is a bare word that may go on. -/
theorem Uses.append (h : Uses buffer token used) (hend : ¬ EndsBare buffer) (more : Bytes) :
    Uses (buffer ++ more) token used where
  found := by
    rw [scan_append_of_not_endsBare h.found hend, List.drop_append_of_le_length h.within]
  positive := h.positive
  within := h.within.trans (List.prefix_append buffer more).length_le
  covers := by
    rw [List.take_append_of_le_length h.within]
    exact h.covers

/-- Counting finds a token just where so many bytes are used up for it. -/
theorem locate_eq_token_iff : locate buffer = .token token used ↔ Uses buffer token used := by
  obtain ⟨hseen, hwithin⟩ := seen_locate buffer
  constructor
  · intro hlocate
    rw [hlocate] at hseen hwithin
    obtain ⟨blanks, spelled, hblanks, hspells, hfront⟩ := Cursor.sound_of_locate hlocate
    have hscan : scan (buffer.take used ++ buffer.drop used) = .token token (buffer.drop used) := by
      rw [List.take_append_drop]
      exact hseen.symm
    rw [hfront] at hscan
    have huses := uses_of_scan hblanks hspells hscan
    rw [← hfront, List.take_append_drop, List.length_take, Nat.min_eq_left hwithin] at huses
    exact huses
  · intro huses
    rw [huses.found] at hseen
    cases hlocate : locate buffer with
    | token found count =>
        rw [hlocate] at hseen hwithin
        injection hseen with hfound hrest
        have hlength := congrArg List.length hrest
        have hcount : count ≤ buffer.length := hwithin
        have hused := huses.within
        rw [List.length_drop, List.length_drop] at hlength
        rw [hfound, show count = used by omega]
    | blank | unclosed | malformed line =>
        rw [hlocate] at hseen
        cases hseen

/-! ## Bytes that are no token -/

/-- **Bytes that are no token stay none**, and their line goes on only as long as it has not ended. -/
theorem malformed_append {line : Bytes} (h : scan buffer = .malformed line) :
    ∃ blanks b bytes, Blank blanks ∧ Byte.isStray b = true ∧ buffer = blanks ++ b :: bytes
      ∧ line = lineOf (b :: bytes)
      ∧ ∀ more, scan (buffer ++ more) = .malformed (lineOf (b :: bytes ++ more)) := by
  have hscan : ∀ (blanks : Bytes) (b : UInt8) (bytes : Bytes), Blank blanks → Byte.isStray b = true →
      ∀ more, scan (blanks ++ b :: bytes ++ more) = .malformed (lineOf (b :: bytes ++ more)) := by
    intro blanks b bytes hblanks hstray more
    rw [List.append_assoc, scan_append_of_blank (scan_of_blank hblanks), List.cons_append,
      scan_cons_of_isStray hstray]
  obtain ⟨blanks, bytes, hblanks, rfl, hbegins⟩ := scan_eq_iff.mp h
  cases hbegins with
  | @malformed b line more hstray hline =>
      refine ⟨blanks, b, line ++ Byte.newline :: more, hblanks, hstray, by rw [List.cons_append], ?_,
        hscan _ _ _ hblanks hstray⟩
      rw [← List.cons_append, lineOf_append_newline (newline_not_mem_of_isStray hstray hline)]
  | @malformedLast b line hstray hline =>
      refine ⟨blanks, b, line, hblanks, hstray, rfl, ?_, hscan _ _ _ hblanks hstray⟩
      rw [lineOf_of_not_mem (newline_not_mem_of_isStray hstray hline)]

/-! ## Open quotes -/

/-- Whatever stands behind an opening quote, it can be closed.  Induction on the bytes, two at a time behind
    a backslash: one at their end needs a byte to escape first. -/
theorem exists_closing (bytes : Bytes) : ∃ more found, quotedBody? (bytes ++ more) = some found := by
  fun_induction quotedBody? bytes with
  | case1 => exact ⟨[Byte.quote], _, quotedBody?_quote []⟩
  | case2 tail => exact ⟨[], _, by rw [List.append_nil]; exact quotedBody?_quote tail⟩
  | case3 => exact ⟨[Byte.quote, Byte.quote], _, quotedBody?_backslash Byte.quote [Byte.quote]⟩
  | case4 escaped tail hquote ih =>
      obtain ⟨more, found, hfound⟩ := ih
      refine ⟨more, (Byte.backslash :: escaped :: found.1, found.2), ?_⟩
      rw [List.cons_append, List.cons_append, quotedBody?_backslash, hfound]
      rfl
  | case5 b tail hquote hbackslash ih =>
      obtain ⟨more, found, hfound⟩ := ih
      refine ⟨more, (b :: found.1, found.2), ?_⟩
      rw [List.cons_append, quotedBody?_plain _ hquote hbackslash, hfound]
      rfl

/-- An open quote becomes a word with the right bytes behind it. -/
theorem exists_append_of_unclosed (h : scan buffer = .unclosed) :
    ∃ more token rest, scan (buffer ++ more) = .token token rest := by
  obtain ⟨blanks, bytes, hblanks, rfl, hbegins⟩ := scan_eq_iff.mp h
  cases hbegins with
  | @unclosed bytes _ =>
      obtain ⟨more, found, hfound⟩ := exists_closing bytes
      refine ⟨more, .word (unquote found.1), found.2, ?_⟩
      rw [List.append_assoc, scan_append_of_blank (scan_of_blank hblanks), List.cons_append,
        scan_quote_of_some hfound]

/-! ## What can change -/

/-- What is found in a buffer is found again where more bytes stand behind it: the same token, with the same
    bytes used up; or again that there is no token, or nothing, or an open quote. -/
inductive Again (more : Bytes) : Scanned → Scanned → Prop
  | token {token : Token} {rest : Bytes} : Again more (.token token rest) (.token token (rest ++ more))
  | malformed {line longer : Bytes} : Again more (.malformed line) (.malformed longer)
  | blank : Again more .blank .blank
  | unclosed : Again more .unclosed .unclosed

theorem Again.eq_of_token {more : Bytes} {found : Scanned} (h : Again more (.token token rest) found) :
    found = .token token (rest ++ more) := by
  cases h
  rfl

/-- **But for blanks, an open quote and a bare word at the end, what is found is found again.** -/
theorem again_append (hblank : scan buffer ≠ .blank) (hunclosed : scan buffer ≠ .unclosed)
    (hend : ¬ EndsBare buffer) (more : Bytes) : Again more (scan buffer) (scan (buffer ++ more)) := by
  cases hscan : scan buffer with
  | token token rest =>
      rw [scan_append_of_not_endsBare hscan hend]
      exact .token
  | malformed line =>
      obtain ⟨-, b, bytes, -, -, -, -, hmore⟩ := malformed_append hscan
      rw [hmore more]
      exact .malformed
  | blank => exact absurd hscan hblank
  | unclosed => exact absurd hscan hunclosed

theorem exists_not_again_of_blank (h : scan buffer = .blank) :
    ∃ more, ¬ Again more (scan buffer) (scan (buffer ++ more)) := by
  refine ⟨[Byte.newline], fun hagain => ?_⟩
  rw [h, scan_append_of_blank h, scan_newline] at hagain
  cases hagain

theorem exists_not_again_of_unclosed (h : scan buffer = .unclosed) :
    ∃ more, ¬ Again more (scan buffer) (scan (buffer ++ more)) := by
  obtain ⟨more, token, rest, hmore⟩ := exists_append_of_unclosed h
  refine ⟨more, fun hagain => ?_⟩
  rw [h, hmore] at hagain
  cases hagain

theorem exists_not_again_of_endsBare (h : EndsBare buffer) :
    ∃ more, ¬ Again more (scan buffer) (scan (buffer ++ more)) := by
  obtain ⟨blanks, word, hblanks, hword, rfl⟩ := h
  refine ⟨[Byte.letterN], fun hagain => ?_⟩
  have hscan := scan_append_of_endsBare hblanks hword []
  rw [List.append_nil] at hscan
  rw [hscan, scan_append_of_endsBare hblanks hword] at hagain
  -- the word takes the byte that follows, and it is not left behind it
  injection hagain.eq_of_token with _ hrest
  cases hrest

/-- What a buffer holds, and what may come behind it. -/
structure Stable (buffer : Bytes) : Prop where
  /-- A token stays the same and uses up as many bytes, unless it is a bare word up to the end of the buffer. -/
  token : ∀ token used, Uses buffer token used → ¬ EndsBare buffer →
    ∀ more, Uses (buffer ++ more) token used
  /-- This is so for a scanner that counts, too. -/
  located : ∀ token used, locate buffer = .token token used → ¬ EndsBare buffer →
    ∀ more, locate (buffer ++ more) = .token token used
  /-- Bytes that are no token stay none, with the same text if a newline follows the first of them. -/
  malformed : ∀ line, scan buffer = .malformed line →
    ∃ blanks b bytes, Blank blanks ∧ Byte.isStray b = true ∧ buffer = blanks ++ b :: bytes
      ∧ ∀ more, ∃ longer, scan (buffer ++ more) = .malformed longer
        ∧ (Byte.newline ∈ bytes → longer = line)
  /-- Only blanks, an open quote and a bare word at the end can become something else, and each of them can. -/
  changes : (∃ more, ¬ Again more (scan buffer) (scan (buffer ++ more)))
    ↔ scan buffer = .blank ∨ scan buffer = .unclosed ∨ EndsBare buffer

/-- **What a scanner has found stands, whatever comes later**, for every buffer and all that may follow it,
    but for blanks, an open quote and a bare word at the end. -/
theorem scan_is_stable (buffer : Bytes) : Stable buffer where
  token := fun _ _ huses hend more => huses.append hend more
  located := by
    intro token used hlocate hend more
    exact locate_eq_token_iff.mpr ((locate_eq_token_iff.mp hlocate).append hend more)
  malformed := by
    intro line hscan
    obtain ⟨blanks, b, bytes, hblanks, hstray, hbuffer, hline, hmore⟩ := malformed_append hscan
    refine ⟨blanks, b, bytes, hblanks, hstray, hbuffer, fun more => ⟨_, hmore more, fun hnewline => ?_⟩⟩
    rw [lineOf_append (List.mem_cons_of_mem b hnewline), hline]
  changes := by
    constructor
    · rintro ⟨more, hchanged⟩
      by_contra hstands
      obtain ⟨hblank, hunclosed, hend⟩ : scan buffer ≠ .blank ∧ scan buffer ≠ .unclosed ∧ ¬ EndsBare buffer := by
        rw [← not_or, ← not_or]
        exact hstands
      exact hchanged (again_append hblank hunclosed hend more)
    · rintro (hblank | hunclosed | hend)
      · exact exists_not_again_of_blank hblank
      · exact exists_not_again_of_unclosed hunclosed
      · exact exists_not_again_of_endsBare hend

/-- A quote that stays open behind a backslash at the end of a buffer, closed by what comes later. -/
example : scan (Bytes.ofString "'a\\") = .unclosed
    ∧ scan (Bytes.ofString "'a\\" ++ Bytes.ofString "'b' c")
      = .token (.word (Bytes.ofString "a'b")) (Bytes.ofString " c") := by
  decide +kernel

end ModuleMapper.Wire
