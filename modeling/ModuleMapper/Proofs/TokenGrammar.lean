import ModuleMapper.Proofs.Scanning
import ModuleMapper.Wire.Encoding

/-!
# Token grammar — what a token is, said without a scanner

  A token is spelled by a newline, by a semicolon, by a run of bare bytes, or by units between two
  quotes (`Spells`).  Blanks may stand in front of a token, and a bare word goes as far as it can.
  `Finds` says with this what is at the front of any buffer, and a scanner finds exactly that
  (`scan_eq_iff`).

  So a token uses up at least one byte and no more than there are: the blanks in front of it and the bytes
  that spell it (`Uses`).  And a byte string can be decoded just if it is blanks and one word.
-/

namespace ModuleMapper

namespace Wire

open QuotedUnit

/-- A quoted word is read up to the closing quote. -/
theorem scan_quoted (units : List QuotedUnit) (rest : Bytes) :
    scan (Byte.quote :: (writtenAll units ++ Byte.quote :: rest))
      = .token (.word (units.map value)) rest := by
  have hbody : quotedBody? (writtenAll units ++ Byte.quote :: rest) = some (writtenAll units, rest) :=
    quotedBody?_eq_some_iff.mpr ⟨units, rfl, rfl⟩
  rw [scan_quote_of_some hbody, unquote_writtenAll]

/-! ## Tokens -/

/-- Nothing but spaces and tabs. -/
def Blank (bytes : Bytes) : Prop := ∀ b ∈ bytes, Byte.isBlank b = true

theorem Blank.nil : Blank [] := fun _ hb => absurd hb List.not_mem_nil

/-- The bytes that spell a token. -/
inductive Spells : Bytes → Token → Prop
  | newline : Spells [Byte.newline] .newline
  | continuation : Spells [Byte.semicolon] .continuation
  | bare {word : Word} : word ≠ [] → (∀ b ∈ word, Byte.isBare b = true) → Spells word (.word word)
  | quoted (units : List QuotedUnit) :
      Spells (Byte.quote :: (writtenAll units ++ [Byte.quote])) (.word (units.map value))

/-- Bytes end where they do: what follows does not go on with a bare word at their end. -/
def Parts (spelled rest : Bytes) : Prop :=
  ∀ last ∈ spelled.getLast?, Byte.isBare last = true → ∀ b ∈ rest.head?, Byte.isBare b = false

/-- What bytes begin with, if no blank is in front of it. -/
inductive Begins : Bytes → Scanned → Prop
  | nothing : Begins [] .blank
  | token {spelled rest : Bytes} {token : Token} : Spells spelled token → Parts spelled rest →
      Begins (spelled ++ rest) (.token token rest)
  /-- Whatever units are read behind an opening quote, no closing quote follows them. -/
  | unclosed {bytes : Bytes} :
      (∀ units rest, bytes ≠ writtenAll units ++ Byte.quote :: rest) →
      Begins (Byte.quote :: bytes) .unclosed
  /-- What begins no token is malformed with the rest of its line, the newline included … -/
  | malformed {b : UInt8} {line more : Bytes} : Byte.isStray b = true → Byte.newline ∉ line →
      Begins (b :: line ++ Byte.newline :: more) (.malformed (b :: line ++ [Byte.newline]))
  /-- … if there is one. -/
  | malformedLast {b : UInt8} {line : Bytes} : Byte.isStray b = true → Byte.newline ∉ line →
      Begins (b :: line) (.malformed (b :: line))

/-- What a buffer begins with behind its blanks. -/
def Finds (buffer : Bytes) (found : Scanned) : Prop :=
  ∃ blanks bytes, Blank blanks ∧ buffer = blanks ++ bytes ∧ Begins bytes found

/-! ## A scanner finds what the grammar says -/

/-- Blanks are no token. -/
theorem scan_of_blank {blanks : Bytes} (h : Blank blanks) : scan blanks = .blank := by
  induction blanks with
  | nil => rfl
  | cons b blanks ih =>
      rw [scan_cons_of_isBlank (h b List.mem_cons_self)]
      exact ih fun other hother => h other (List.mem_cons_of_mem b hother)

theorem newline_not_mem_of_isStray {b : UInt8} {line : Bytes} (h : Byte.isStray b = true)
    (hline : Byte.newline ∉ line) : Byte.newline ∉ b :: line := by
  refine List.not_mem_cons_of_ne_of_not_mem ?_ hline
  rintro rfl
  cases h

/-- What bytes begin with is what a scanner finds at their front. -/
theorem Begins.scan_eq {bytes : Bytes} {found : Scanned} (h : Begins bytes found) :
    scan bytes = found := by
  cases h with
  | nothing => rfl
  | token hspells hparts =>
      cases hspells with
      | newline => exact scan_newline _
      | continuation => exact scan_semicolon _
      | @bare word hne hall =>
          refine scan_bare_append_of_head? hne hall fun b hb => ?_
          have hlast := List.getLast?_eq_some_getLast hne
          exact hparts _ hlast (hall _ (List.getLast_mem hne)) b hb
      | quoted units =>
          rw [List.cons_append, List.append_assoc]
          exact scan_quoted units _
  | @unclosed bytes hopen =>
      cases hbody : quotedBody? bytes with
      | none => exact scan_quote_of_none hbody
      | some found =>
          obtain ⟨units, -, hbytes⟩ := quotedBody?_eq_some_iff.mp hbody
          exact absurd hbytes (hopen units found.2)
  | malformed hstray hline =>
      rw [List.cons_append, scan_cons_of_isStray hstray, ← List.cons_append,
        lineOf_append_newline (newline_not_mem_of_isStray hstray hline)]
  | malformedLast hstray hline =>
      rw [scan_cons_of_isStray hstray, lineOf_of_not_mem (newline_not_mem_of_isStray hstray hline)]

/-- What ends in a byte that is not bare is parted from whatever follows. -/
theorem parts_of_getLast? {spelled : Bytes} {last : UInt8} (h : spelled.getLast? = some last)
    (hlast : Byte.isBare last = false) (rest : Bytes) : Parts spelled rest := by
  intro b hb hbare
  rw [h] at hb
  rw [← Option.some.inj hb, hlast] at hbare
  cases hbare

theorem begins_quote (rest : Bytes) : Begins (Byte.quote :: rest) (scan (Byte.quote :: rest)) := by
  cases hbody : quotedBody? rest with
  | none =>
      rw [scan_quote_of_none hbody]
      refine .unclosed fun units behind hrest => ?_
      have hclosed := quotedBody?_eq_some_iff.mpr ⟨units, rfl, hrest⟩
      cases hbody.symm.trans hclosed
  | some found =>
      obtain ⟨units, -, rfl⟩ := quotedBody?_eq_some_iff.mp hbody
      have hlast : (Byte.quote :: (writtenAll units ++ [Byte.quote])).getLast? = some Byte.quote := by
        rw [← List.cons_append, List.getLast?_concat]
      have hbegins := Begins.token (.quoted units) (parts_of_getLast? hlast rfl found.2)
      rw [List.cons_append, List.append_assoc] at hbegins
      rw [scan_quoted]
      exact hbegins

theorem begins_of_isBare {b : UInt8} (hbare : Byte.isBare b = true) (rest : Bytes) :
    Begins (b :: rest) (scan (b :: rest)) := by
  have hne : (b :: rest).takeWhile Byte.isBare ≠ [] := by
    rw [List.takeWhile_cons_of_pos hbare]
    exact List.cons_ne_nil _ _
  have hparts : Parts ((b :: rest).takeWhile Byte.isBare) ((b :: rest).dropWhile Byte.isBare) := by
    intro last _ _ next hnext
    have hstop := List.head?_dropWhile_not Byte.isBare (b :: rest)
    rw [Option.mem_def.mp hnext] at hstop
    simpa using hstop
  have hbegins := Begins.token (.bare hne fun next hnext => List.mem_takeWhile_imp hnext) hparts
  rw [List.takeWhile_append_dropWhile] at hbegins
  rw [scan_cons_of_isBare hbare]
  exact hbegins

theorem begins_of_isStray {b : UInt8} (hstray : Byte.isStray b = true) (rest : Bytes) :
    Begins (b :: rest) (scan (b :: rest)) := by
  rw [scan_cons_of_isStray hstray]
  by_cases hmem : Byte.newline ∈ rest
  · obtain ⟨line, more, rfl, hline⟩ := List.eq_append_cons_of_mem hmem
    rw [← List.cons_append, lineOf_append_newline (newline_not_mem_of_isStray hstray hline)]
    exact .malformed hstray hline
  · rw [lineOf_of_not_mem (newline_not_mem_of_isStray hstray hmem)]
    exact .malformedLast hstray hmem

/-- What a scanner finds at the front of bytes is what they begin with, if no blank is in front. -/
theorem begins_scan {b : UInt8} (hb : Byte.isBlank b = false) (rest : Bytes) :
    Begins (b :: rest) (scan (b :: rest)) := by
  rcases Byte.starts b with hblank | rfl | rfl | rfl | hbare | hstray
  · cases hb.symm.trans hblank
  · exact .token .newline (parts_of_getLast? rfl rfl rest)
  · exact .token .continuation (parts_of_getLast? rfl rfl rest)
  · exact begins_quote rest
  · exact begins_of_isBare hbare rest
  · exact begins_of_isStray hstray rest

/-- What a scanner finds is what the grammar says.  Induction on the blanks in front. -/
theorem finds_scan (buffer : Bytes) : Finds buffer (scan buffer) := by
  induction buffer with
  | nil => exact ⟨[], [], .nil, rfl, .nothing⟩
  | cons b buffer ih =>
      cases hblank : Byte.isBlank b with
      | true =>
          obtain ⟨blanks, bytes, hblanks, hbuffer, hbegins⟩ := ih
          rw [scan_cons_of_isBlank hblank]
          refine ⟨b :: blanks, bytes, ?_, by rw [hbuffer]; rfl, hbegins⟩
          exact List.forall_mem_cons.mpr ⟨hblank, hblanks⟩
      | false =>
          exact ⟨[], b :: buffer, .nil, rfl, begins_scan hblank buffer⟩

/-- **A scanner finds exactly what the grammar says**, for every buffer. -/
theorem scan_eq_iff {buffer : Bytes} {found : Scanned} : scan buffer = found ↔ Finds buffer found := by
  constructor
  · rintro rfl
    exact finds_scan buffer
  · rintro ⟨blanks, bytes, hblanks, rfl, hbegins⟩
    rw [scan_append_of_blank (scan_of_blank hblanks), hbegins.scan_eq]

/-- A token that is found is spelled behind the blanks. -/
theorem exists_of_scan_token {buffer rest : Bytes} {token : Token} (h : scan buffer = .token token rest) :
    ∃ blanks spelled, Blank blanks ∧ Spells spelled token ∧ buffer = blanks ++ spelled ++ rest := by
  obtain ⟨blanks, bytes, hblanks, hbuffer, hbegins⟩ := scan_eq_iff.mp h
  cases hbegins with
  | @token spelled _ _ hspells hparts =>
      exact ⟨blanks, spelled, hblanks, hspells, by rw [hbuffer, List.append_assoc]⟩

/-- Where nothing is found, there are only blanks. -/
theorem blank_of_scan {buffer : Bytes} (h : scan buffer = .blank) : Blank buffer := by
  obtain ⟨blanks, bytes, hblanks, rfl, hbegins⟩ := scan_eq_iff.mp h
  cases hbegins with
  | nothing =>
      rw [List.append_nil]
      exact hblanks

/-- What is malformed stands behind the blanks, as it is. -/
theorem front_of_scan_malformed {buffer line : Bytes} (h : scan buffer = .malformed line) :
    ∃ blanks more, Blank blanks ∧ buffer = blanks ++ line ++ more := by
  obtain ⟨blanks, bytes, hblanks, rfl, hbegins⟩ := scan_eq_iff.mp h
  cases hbegins with
  | @malformed b line more hstray hline => exact ⟨blanks, more, hblanks, by simp⟩
  | malformedLast hstray hline => exact ⟨blanks, [], hblanks, by simp⟩

/-- A token at the end of a buffer is found, whatever it is. -/
theorem scan_of_spells {blanks spelled : Bytes} {token : Token} (hblanks : Blank blanks)
    (hspells : Spells spelled token) : scan (blanks ++ spelled) = .token token [] := by
  have hparts : Parts spelled [] := fun last _ _ b hb => by cases hb
  have hbegins := Begins.token hspells hparts
  rw [List.append_nil] at hbegins
  exact scan_eq_iff.mpr ⟨blanks, spelled, hblanks, rfl, hbegins⟩

theorem Spells.ne_nil {spelled : Bytes} {token : Token} (h : Spells spelled token) : spelled ≠ [] := by
  cases h with
  | bare hne _ => exact hne
  | _ => exact List.cons_ne_nil _ _

/-! ## What scanning comes to -/

/-- A token is found in a buffer, and so many bytes are used up: the blanks in front of it and the bytes that
    spell it. -/
structure Uses (buffer : Bytes) (token : Token) (used : Nat) : Prop where
  found : scan buffer = .token token (buffer.drop used)
  positive : 1 ≤ used
  within : used ≤ buffer.length
  covers : ∃ blanks spelled, Blank blanks ∧ Spells spelled token ∧ buffer.take used = blanks ++ spelled

theorem uses_of_scan {blanks spelled rest : Bytes} {token : Token} (hblanks : Blank blanks)
    (hspells : Spells spelled token) (h : scan (blanks ++ spelled ++ rest) = .token token rest) :
    Uses (blanks ++ spelled ++ rest) token (blanks ++ spelled).length where
  found := by rw [h, List.drop_left]
  positive := List.length_pos_iff.mpr (List.append_ne_nil_of_right_ne_nil _ hspells.ne_nil)
  within := (List.prefix_append _ rest).length_le
  covers := ⟨blanks, spelled, hblanks, hspells, List.take_left⟩

/-- Decoding takes one word and nothing behind it. -/
theorem decode_eq_ok_iff {bytes : Bytes} {word : Word} :
    Word.decode bytes = .ok word ↔ scan bytes = .token (.word word) [] := by
  rw [Word.decode]
  constructor
  · intro h
    split at h
    · next hscan => rw [hscan, Except.ok.inj h]
    · cases h
    · cases h
  · intro h
    rw [h]

/-- What scanning a buffer and decoding it come to. -/
structure Recognised (buffer : Bytes) : Prop where
  found : ∀ found, scan buffer = found ↔ Finds buffer found
  used : ∀ token rest, scan buffer = .token token rest →
    ∃ used, rest = buffer.drop used ∧ Uses buffer token used
  /-- Behind an opening quote, the search stops where the body ends. -/
  searched : ∀ blanks bytes, Blank blanks → buffer = blanks ++ Byte.quote :: bytes →
    closingQuote? buffer (blanks.length + 1)
      = (quotedBody? bytes).map fun found => blanks.length + 1 + found.1.length
  /-- What is unquoted then is made of whole units: no backslash at its end is left without a byte. -/
  unquoted : ∀ blanks bytes body rest, Blank blanks → buffer = blanks ++ Byte.quote :: bytes →
    quotedBody? bytes = some (body, rest) →
    unescape false body = (unquote body, false) ∧ ∀ units, body ≠ writtenAll units ++ [Byte.backslash]
  decoded : ∀ word, Word.decode buffer = .ok word
    ↔ ∃ blanks spelled, Blank blanks ∧ Spells spelled (.word word) ∧ buffer = blanks ++ spelled

/-- **A scanner recognises exactly the tokens of the grammar**, for every buffer: what it finds, how much it
    uses up, where the two passes over a quoted word end, and what can be decoded. -/
theorem scan_recognises (buffer : Bytes) : Recognised buffer where
  found := fun _ => scan_eq_iff
  used := by
    intro token rest hscan
    obtain ⟨blanks, spelled, hblanks, hspells, rfl⟩ := exists_of_scan_token hscan
    exact ⟨_, List.drop_left.symm, uses_of_scan hblanks hspells hscan⟩
  searched := by
    rintro blanks bytes - rfl
    have hsearch := closingQuote?_append (blanks ++ [Byte.quote]) bytes
    rw [List.append_assoc, List.length_append] at hsearch
    exact hsearch
  unquoted := by
    rintro blanks bytes body rest - - hbody
    obtain ⟨units, rfl, -⟩ := quotedBody?_eq_some_iff.mp hbody
    refine ⟨by rw [unescape_writtenAll, unquote_writtenAll], fun others hdangling => ?_⟩
    -- behind such a backslash the flag would be up
    have hpass := unescape_writtenAll_append others [Byte.backslash]
    rw [← hdangling, unescape_writtenAll] at hpass
    cases congrArg Prod.snd hpass
  decoded := by
    intro word
    rw [decode_eq_ok_iff]
    constructor
    · intro hscan
      obtain ⟨blanks, spelled, hblanks, hspells, hbuffer⟩ := exists_of_scan_token hscan
      exact ⟨blanks, spelled, hblanks, hspells, hbuffer.trans (List.append_nil _)⟩
    · rintro ⟨blanks, spelled, hblanks, hspells, rfl⟩
      exact scan_of_spells hblanks hspells

end Wire

end ModuleMapper
