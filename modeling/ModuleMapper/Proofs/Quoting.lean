import ModuleMapper.Wire.Token

/-!
# Quoting — what stands between two quotes

  A quoted word is written in units: a plain byte stands for itself, and behind a backslash any byte may
  follow (`QuotedUnit`).  The closing quote is the first one that is not part of a unit
  (`quotedBody?_eq_some_iff`).  So more bytes behind it make no difference, and a quote that only more bytes
  close is closed inside these.

  A quoted word is gone over twice.  A search for the closing quote steps over whatever follows a
  backslash, also where the buffer ends right behind it (`closingQuote?`).  Then one pass with a flag takes
  the escapes back (`unescape`).  Both see the same units, so the pass never ends behind a backslash with
  nothing to escape (`closingQuote?_append`, `unescape_writtenAll`).
-/

namespace ModuleMapper

/-! ## Between quotes -/

/-- What stands for one byte between quotes. -/
inductive QuotedUnit where
  /-- A byte that is neither a quote nor a backslash stands for itself. -/
  | plain (b : UInt8) (hquote : b ≠ Byte.quote) (hbackslash : b ≠ Byte.backslash)
  /-- Any byte may follow a backslash. -/
  | escape (b : UInt8)

namespace QuotedUnit

/-- The bytes that a unit is written with. -/
def written : QuotedUnit → Bytes
  | plain b _ _ => [b]
  | escape b => [Byte.backslash, b]

/-- The byte that a unit stands for. -/
def value : QuotedUnit → UInt8
  | plain b _ _ => b
  | escape b =>
      if b = Byte.letterN then Byte.newline
      else if b = Byte.letterT then Byte.tab
      else b

/-- What units are written with, one after another. -/
def writtenAll (units : List QuotedUnit) : Bytes := units.flatMap written

theorem writtenAll_cons (unit : QuotedUnit) (units : List QuotedUnit) :
    writtenAll (unit :: units) = unit.written ++ writtenAll units := List.flatMap_cons

/-- Every unit takes up a byte at least. -/
theorem length_le_writtenAll (units : List QuotedUnit) : units.length ≤ (writtenAll units).length := by
  induction units with
  | nil => exact Nat.le_refl 0
  | cons unit units ih =>
      have hunit : 0 < unit.written.length := by
        cases unit with
        | plain b _ _ => exact Nat.zero_lt_one
        | escape b => exact Nat.zero_lt_two
      rw [writtenAll_cons, List.length_append, List.length_cons]
      omega

end QuotedUnit

namespace Wire

open QuotedUnit

@[simp] theorem quotedBody?_quote (rest : Bytes) :
    quotedBody? (Byte.quote :: rest) = some ([], rest) := by
  rw [quotedBody?.eq_def]
  simp only [if_true]

@[simp] theorem quotedBody?_backslash (escaped : UInt8) (rest : Bytes) :
    quotedBody? (Byte.backslash :: escaped :: rest)
      = (quotedBody? rest).map fun (body, rest) => (Byte.backslash :: escaped :: body, rest) := by
  rw [quotedBody?.eq_def]
  simp only [if_true]
  rfl

theorem quotedBody?_plain {b : UInt8} (rest : Bytes) (hquote : b ≠ Byte.quote)
    (hbackslash : b ≠ Byte.backslash) :
    quotedBody? (b :: rest) = (quotedBody? rest).map fun (body, rest) => (b :: body, rest) := by
  rw [quotedBody?.eq_def]
  simp only [if_neg hquote, if_neg hbackslash]

/-- Units in front of a closing quote are all in the body. -/
theorem quotedBody?_writtenAll_append (units : List QuotedUnit) (more : Bytes) :
    quotedBody? (writtenAll units ++ more)
      = (quotedBody? more).map fun (body, rest) => (writtenAll units ++ body, rest) := by
  induction units with
  | nil =>
      cases hmore : quotedBody? more with
      | none => exact hmore
      | some found => exact hmore
  | cons unit units ih =>
      rw [writtenAll_cons, List.append_assoc]
      cases unit with
      | plain b hquote hbackslash =>
          show quotedBody? (b :: (writtenAll units ++ more)) = _
          rw [quotedBody?_plain _ hquote hbackslash, ih, Option.map_map]
          rfl
      | escape b =>
          show quotedBody? (Byte.backslash :: b :: (writtenAll units ++ more)) = _
          rw [quotedBody?_backslash, ih, Option.map_map]
          rfl

/-- **The body of a quoted word is made of units**, and the closing quote is the first that is not in one.
    Induction on the bytes, two at a time behind a backslash. -/
theorem quotedBody?_eq_some_iff {bytes body rest : Bytes} :
    quotedBody? bytes = some (body, rest)
      ↔ ∃ units, body = writtenAll units ∧ bytes = writtenAll units ++ Byte.quote :: rest := by
  constructor
  · intro h
    fun_induction quotedBody? bytes generalizing body rest with
    | case1 => cases h
    | case2 tail =>
        injection h with hpair
        injection hpair with hbody hrest
        exact ⟨[], hbody.symm, by rw [hrest]; rfl⟩
    | case3 => cases h
    | case4 escaped tail hquote ih =>
        obtain ⟨⟨body', rest'⟩, hq, heq⟩ := Option.map_eq_some_iff.mp h
        injection heq with hbody hrest
        obtain ⟨units, rfl, rfl⟩ := ih hq
        exact ⟨.escape escaped :: units, hbody.symm, by rw [← hrest]; rfl⟩
    | case5 b tail hquote hback ih =>
        obtain ⟨⟨body', rest'⟩, hq, heq⟩ := Option.map_eq_some_iff.mp h
        injection heq with hbody hrest
        obtain ⟨units, rfl, rfl⟩ := ih hq
        exact ⟨.plain b hquote hback :: units, hbody.symm, by rw [← hrest]; rfl⟩
  · rintro ⟨units, rfl, rfl⟩
    rw [quotedBody?_writtenAll_append, quotedBody?_quote]
    show some (writtenAll units ++ [], rest) = _
    rw [List.append_nil]

/-- A closed quote stays closed where it is. -/
theorem quotedBody?_append {bytes body rest : Bytes} (h : quotedBody? bytes = some (body, rest))
    (more : Bytes) : quotedBody? (bytes ++ more) = some (body, rest ++ more) := by
  obtain ⟨units, rfl, rfl⟩ := quotedBody?_eq_some_iff.mp h
  exact quotedBody?_eq_some_iff.mpr ⟨units, rfl, by rw [List.append_assoc, List.cons_append]⟩

/-- What stands behind a closing quote is the end of the buffer. -/
theorem quotedBody?_rest_suffix {bytes body rest : Bytes}
    (h : quotedBody? bytes = some (body, rest)) : rest <:+ bytes := by
  obtain ⟨units, rfl, rfl⟩ := quotedBody?_eq_some_iff.mp h
  exact (List.suffix_cons Byte.quote rest).trans (List.suffix_append _ _)

/-- A quote that more bytes close is closed inside these. -/
theorem quotedBody?_append_of_none {bytes more body rest : Bytes} (hopen : quotedBody? bytes = none)
    (h : quotedBody? (bytes ++ more) = some (body, rest)) : rest <:+ more := by
  obtain ⟨units, -, hbytes⟩ := quotedBody?_eq_some_iff.mp h
  rcases List.append_eq_append_iff.mp hbytes with ⟨front, -, hmore⟩ | ⟨behind, hfront, hrest⟩
  · exact hmore ▸ (List.suffix_cons Byte.quote rest).trans (List.suffix_append front _)
  · cases behind with
    | nil =>
        rw [List.nil_append] at hrest
        exact hrest ▸ List.suffix_cons Byte.quote rest
    | cons b behind =>
        -- the closing quote would be one of the bytes that leave the quote open
        injection hrest with hb hbehind
        rw [← hb] at hfront
        have hclosed := quotedBody?_eq_some_iff.mpr ⟨units, rfl, hfront⟩
        cases hopen.symm.trans hclosed

@[simp] theorem unquote_backslash (escaped : UInt8) (rest : Bytes) :
    unquote (Byte.backslash :: escaped :: rest) = escapedByte escaped :: unquote rest := by
  rw [unquote.eq_def]
  simp only [if_true]

theorem unquote_plain {b : UInt8} (rest : Bytes) (h : b ≠ Byte.backslash) :
    unquote (b :: rest) = b :: unquote rest := by
  rw [unquote.eq_def]
  simp only [if_neg h]

/-- Unquoting gives the values of the units. -/
theorem unquote_writtenAll (units : List QuotedUnit) :
    unquote (writtenAll units) = units.map value := by
  induction units with
  | nil => rfl
  | cons unit units ih =>
      rw [writtenAll_cons, List.map_cons]
      cases unit with
      | plain b hquote hbackslash =>
          show unquote (b :: writtenAll units) = _
          rw [unquote_plain _ hbackslash, ih]
          rfl
      | escape b =>
          show unquote (Byte.backslash :: b :: writtenAll units) = _
          rw [unquote_backslash, ih]
          rfl

/-! ## The two passes over a quoted word -/

/-- Look for the closing quote from a position on.  The byte behind a backslash is stepped over unseen,
    whether the buffer has one there or not. -/
def closingQuote? (buffer : Bytes) (position : Nat) : Option Nat :=
  match _ : buffer[position]? with
  | none => none
  | some b =>
      if b = Byte.backslash then closingQuote? buffer (position + 2)
      else if b = Byte.quote then some position
      else closingQuote? buffer (position + 1)
termination_by buffer.length - position
decreasing_by
  all_goals
    have := (List.getElem?_eq_some_iff.mp (by assumption)).1
    omega

/-- Take the escapes back in one pass.  The flag says that a backslash came last; with the word, what the
    flag is at the end. -/
def unescape : Bool → Bytes → Word × Bool
  | escaping, [] => ([], escaping)
  | true, b :: rest => (escapedByte b :: (unescape false rest).1, (unescape false rest).2)
  | false, b :: rest =>
      if b = Byte.backslash then unescape true rest
      else (b :: (unescape false rest).1, (unescape false rest).2)

theorem closingQuote?_of_none {buffer : Bytes} {position : Nat} (h : buffer[position]? = none) :
    closingQuote? buffer position = none := by
  rw [closingQuote?]
  split
  · rfl
  · next b hb => cases h.symm.trans hb

theorem closingQuote?_of_some {buffer : Bytes} {position : Nat} {b : UInt8}
    (h : buffer[position]? = some b) :
    closingQuote? buffer position
      = if b = Byte.backslash then closingQuote? buffer (position + 2)
        else if b = Byte.quote then some position
        else closingQuote? buffer (position + 1) := by
  rw [closingQuote?]
  split
  · next hnone => cases h.symm.trans hnone
  · next b' hb => rw [Option.some.inj (h.symm.trans hb)]

/-- **The search stops at the end of the body**, or nowhere if there is none.  Induction on the bytes, for
    every front that has been passed already. -/
theorem closingQuote?_append (front bytes : Bytes) :
    closingQuote? (front ++ bytes) front.length
      = (quotedBody? bytes).map fun found => front.length + found.1.length := by
  fun_induction quotedBody? bytes generalizing front with
  | case1 =>
      rw [closingQuote?_of_none (by simp)]
      rfl
  | case2 tail =>
      rw [closingQuote?_of_some (b := Byte.quote) (by simp)]
      rfl
  | case3 =>
      -- two bytes on is behind the end of the buffer
      rw [closingQuote?_of_some (b := Byte.backslash) (by simp), if_pos rfl,
        closingQuote?_of_none (by simp)]
      rfl
  | case4 escaped tail hquote ih =>
      have hnext := ih (front ++ [Byte.backslash, escaped])
      rw [List.append_assoc, List.length_append] at hnext
      rw [closingQuote?_of_some (b := Byte.backslash) (by simp), if_pos rfl]
      refine hnext.trans ?_
      rw [Option.map_map]
      refine congrArg (Option.map · (quotedBody? tail)) (funext fun found => ?_)
      show front.length + 2 + found.1.length = front.length + (found.1.length + 1 + 1)
      omega
  | case5 b tail hquote hback ih =>
      have hnext := ih (front ++ [b])
      rw [List.append_assoc, List.length_append] at hnext
      rw [closingQuote?_of_some (b := b) (by simp), if_neg hback, if_neg hquote]
      refine hnext.trans ?_
      rw [Option.map_map]
      refine congrArg (Option.map · (quotedBody? tail)) (funext fun found => ?_)
      show front.length + 1 + found.1.length = front.length + (found.1.length + 1)
      omega

/-- The pass goes over units as a whole, whatever follows them. -/
theorem unescape_writtenAll_append (units : List QuotedUnit) (more : Bytes) :
    unescape false (writtenAll units ++ more)
      = (units.map value ++ (unescape false more).1, (unescape false more).2) := by
  induction units with
  | nil => rfl
  | cons unit units ih =>
      rw [writtenAll_cons, List.append_assoc, List.map_cons]
      cases unit with
      | plain b hquote hbackslash =>
          show unescape false (b :: (writtenAll units ++ more)) = _
          rw [unescape, if_neg hbackslash, ih]
          rfl
      | escape b =>
          show unescape false (Byte.backslash :: b :: (writtenAll units ++ more)) = _
          rw [unescape, if_pos rfl, unescape, ih]
          rfl

/-- **The pass gives the values of the units**, and the flag is down behind them. -/
theorem unescape_writtenAll (units : List QuotedUnit) :
    unescape false (writtenAll units) = (units.map value, false) := by
  have hpass := unescape_writtenAll_append units []
  rw [List.append_nil] at hpass
  rw [hpass]
  exact congrArg (·, false) (List.append_nil _)

end Wire

end ModuleMapper
