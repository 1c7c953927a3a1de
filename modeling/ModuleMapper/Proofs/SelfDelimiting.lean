import ModuleMapper.Proofs.RoundTrip

/-!
# Self-delimiting words — where a written word ends is seen from it alone

  A word that is written between quotes ends at its closing quote, whatever follows.  One that is written
  bare ends where a byte follows that is not bare, and only there (`scan_encode_append_iff`).  Writing a
  word behind what a buffer holds leaves that as it is (`encodeOnto_eq`), and what is behind it then can be
  decoded (`decode_encode`).
-/

namespace ModuleMapper

open Wire QuotedUnit

namespace Word

/-- A word is written bare just if it is a bare word. -/
theorem encode_eq_self_iff {word : Word} : word.encode = word ↔ word.isBare = true := by
  rcases encode_cases word with ⟨hbare, hencode⟩ | ⟨hquoted, units, hvalue, hencode⟩
  · exact ⟨fun _ => hbare, fun _ => hencode⟩
  · refine ⟨fun hsame => ?_, fun hbare => by cases hquoted.symm.trans hbare⟩
    -- the quotes make it longer
    have hlength := congrArg List.length (hencode.symm.trans hsame)
    have hunits := length_le_writtenAll units
    rw [← hvalue, List.length_cons, List.length_append, List.length_singleton, List.length_map] at hlength
    omega

/-- Escaped bytes are put behind one another. -/
theorem foldl_escape (word : Word) (buffer : Bytes) :
    word.foldl (fun written b => written ++ Byte.escape b) buffer
      = buffer ++ word.flatMap Byte.escape := by
  induction word generalizing buffer with
  | nil => exact (List.append_nil buffer).symm
  | cons b word ih => rw [List.foldl_cons, ih, List.flatMap_cons, List.append_assoc]

/-- **Writing a word appends what is written of it**, and leaves what the buffer held. -/
theorem encodeOnto_eq (word : Word) (buffer : Bytes) : word.encodeOnto buffer = buffer ++ word.encode := by
  rw [encodeOnto, encode]
  by_cases hbare : word.isBare = true
  · rw [if_pos hbare, if_pos hbare]
  · rw [if_neg hbare, if_neg hbare, foldl_escape]
    rw [List.append_assoc, List.append_assoc]
    rfl

/-- **A written word is read up to its end just if nothing goes on with it.**  A bare byte behind a bare word
    would make the word longer. -/
theorem scan_encode_append_iff (word : Word) (rest : Bytes) :
    scan (word.encode ++ rest) = .token (.word word) rest
      ↔ (word.isBare = true → ∀ b ∈ rest.head?, Byte.isBare b = false) := by
  constructor
  · intro hscan hbare b hb
    rw [encode_eq_self_iff.mpr hbare,
      scan_bare_append (isBare_iff.mp hbare).1 (isBare_iff.mp hbare).2] at hscan
    injection hscan with hword
    injection hword with hlonger
    have hnone : rest.takeWhile Byte.isBare = [] := List.append_right_eq_self.mp hlonger
    cases rest with
    | nil => cases hb
    | cons first rest =>
        cases hfirst : Byte.isBare first with
        | true =>
            rw [List.takeWhile_cons_of_pos hfirst] at hnone
            cases hnone
        | false => rw [← Option.some.inj hb, hfirst]
  · exact scan_encode_append word rest

/-- What is written of a word is decoded as that word. -/
theorem decode_encode (word : Word) : Word.decode word.encode = .ok word := by
  have hscan := scan_encode_append word [] fun _ b hb => by cases hb
  rw [List.append_nil] at hscan
  exact decode_eq_ok_iff.mpr hscan

/-- A word that is written in a way that shows where it ends. -/
structure SelfDelimits (word : Word) : Prop where
  /-- It is written as it is, or in units between quotes. -/
  form : word.encode = word ∨ ∃ units : List QuotedUnit, units.map value = word
    ∧ word.encode = Byte.quote :: (writtenAll units ++ [Byte.quote])
  bare : word.encode = word ↔ word ≠ [] ∧ ∀ b ∈ word, Byte.isBare b = true
  /-- In front of anything it is read, and what is written of it is used up, unless it is written as it is and
      a bare byte follows. -/
  read : ∀ rest, Uses (word.encode ++ rest) (.word word) word.encode.length
    ↔ (word.encode = word → ∀ b ∈ rest.head?, Byte.isBare b = false)
  appended : ∀ buffer, word.encodeOnto buffer = buffer ++ word.encode
  decoded : ∀ buffer, Word.decode ((word.encodeOnto buffer).drop buffer.length) = .ok word

/-- **Every word is written in a way that shows where it ends**, whatever its bytes are and whatever
    follows. -/
theorem selfDelimits (word : Word) : word.SelfDelimits where
  form := by
    rcases encode_cases word with ⟨-, hencode⟩ | ⟨-, hquoted⟩
    · exact Or.inl hencode
    · exact Or.inr hquoted
  bare := encode_eq_self_iff.trans isBare_iff
  read := by
    intro rest
    rw [encode_eq_self_iff, ← scan_encode_append_iff]
    constructor
    · intro huses
      have hscan := huses.found
      rw [List.drop_left] at hscan
      exact hscan
    · intro hscan
      exact uses_of_scan .nil (spells_encode word) hscan
  appended := word.encodeOnto_eq
  decoded := by
    intro buffer
    rw [encodeOnto_eq, List.drop_left, decode_encode]

end Word

end ModuleMapper
