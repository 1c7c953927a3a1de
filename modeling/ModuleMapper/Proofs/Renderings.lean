import Mathlib.Data.List.TakeWhile
import ModuleMapper.Proofs.Texts
import ModuleMapper.Session

/-!
# Renderings — a word is known by how it is shown

  A word is shown between double quotes: as the characters that it spells if it is a text, else byte for
  byte.  The two have escapes of their own, and nothing at the front says which one it is.  Yet both can be
  read unit by unit, up to the closing quote, and with one reader for both (`readUnit`): a unit is a character,
  or a byte that its two digits tell.  So what is shown has one reading only (`Shows.unique`), and the units
  of a word tell it: a word that is no text has a byte above ASCII, whose digits no text is read to have
  (`units_injective`).

  Which characters a text spells out by their code points is up to a table.  The reading does not depend on
  it; and as long as the table has the controls, no control is shown (`plain_quoteBytesBy`).
-/

namespace ModuleMapper

namespace Text

variable {α : Type} {spelled : Char → Bool} {chars rest : List Char}

/-! ## Words by any table -/

/-- One character inside a quoted text, where a table says which characters are spelled out. -/
def escapeCharBy (spelled : Char → Bool) (c : Char) : List Char :=
  if c = '"' ∨ c = '\\' then ['\\', c]
  else if c = '\x00' then ['\\', '0']
  else if c = '\t' then ['\\', 't']
  else if c = '\r' then ['\\', 'r']
  else if c = '\n' then ['\\', 'n']
  else if spelled c then ['\\', 'u', '{'] ++ hexDigits c.toNat ++ ['}']
  else [c]

/-- What stands between the quotes of a word. -/
def bodyBy (spelled : Char → Bool) (word : Bytes) : List Char :=
  match word.toString? with
  | some text => text.toList.flatMap (escapeCharBy spelled)
  | none => word.flatMap escapeByte

/-- A word between double quotes, by a table. -/
def quoteBytesBy (spelled : Char → Bool) (word : Bytes) : String :=
  String.ofList ('"' :: (bodyBy spelled word ++ ['"']))

/-- A word is shown by the table of the hidden characters. -/
theorem quoteBytesBy_hidden (word : Bytes) : quoteBytesBy hidden.contains word = quoteBytes word := by
  unfold quoteBytesBy quoteBytes bodyBy
  cases word.toString? <;> rfl

/-! ## Digits -/

/-- The number that a hexadecimal digit stands for. -/
def digitValue (c : Char) : Nat := if c.toNat < 0x3A then c.toNat - 0x30 else c.toNat - 0x57

/-- The number that hexadecimal digits stand for. -/
def hexValue (digits : List Char) : Nat := digits.foldl (fun n c => 16 * n + digitValue c) 0

theorem digitValue_hexDigit : ∀ n < 16, digitValue (hexDigit n) = n := by decide

theorem hexValue_concat (digits : List Char) (c : Char) :
    hexValue (digits ++ [c]) = 16 * hexValue digits + digitValue c := by
  rw [hexValue, List.foldl_concat]
  rfl

/-- The digits of a number stand for it.  Induction on the digits, from the last one. -/
theorem hexValue_hexDigits (n : Nat) : hexValue (hexDigits n) = n := by
  fun_induction hexDigits n with
  | case1 n hn => exact (Nat.zero_add _).trans (digitValue_hexDigit n hn)
  | case2 n hn ih => rw [hexValue_concat, ih, digitValue_hexDigit _ (Nat.mod_lt n (by decide)), Nat.div_add_mod]

theorem exists_of_mem_hexDigits {c : Char} {n : Nat} (h : c ∈ hexDigits n) : ∃ d < 16, c = hexDigit d := by
  fun_induction hexDigits n with
  | case1 n hn => exact ⟨n, hn, List.mem_singleton.mp h⟩
  | case2 n hn ih =>
      rcases List.mem_append.mp h with hfront | hlast
      · exact ih hfront
      · exact ⟨n % 16, Nat.mod_lt n (by decide), List.mem_singleton.mp hlast⟩

theorem hexValue_two (b : UInt8) :
    hexValue [hexDigit (b.toNat / 16), hexDigit (b.toNat % 16)] = b.toNat := by
  have hhigh : b.toNat / 16 < 16 := Nat.div_lt_of_lt_mul b.toNat_lt
  have hlow : b.toNat % 16 < 16 := Nat.mod_lt _ (by decide)
  calc hexValue [hexDigit (b.toNat / 16), hexDigit (b.toNat % 16)]
      = 16 * (16 * 0 + digitValue (hexDigit (b.toNat / 16))) + digitValue (hexDigit (b.toNat % 16)) := rfl
    _ = 16 * (b.toNat / 16) + b.toNat % 16 := by
        rw [digitValue_hexDigit _ hhigh, digitValue_hexDigit _ hlow, Nat.mul_zero, Nat.zero_add]
    _ = b.toNat := Nat.div_add_mod b.toNat 16

/-! ## Reading what is shown -/

/-- What is shown by one escape, or by one character that needs none. -/
inductive Shown where
  | char (c : Char)
  | byte (n : Nat)

/-- The character that an escape of one letter stands for. -/
def unescaped (letter : Char) : Char :=
  if letter = '0' then '\x00'
  else if letter = 't' then '\t'
  else if letter = 'r' then '\r'
  else if letter = 'n' then '\n'
  else letter

/-- Read on behind a backslash. -/
def readEscape : List Char → Option (Shown × List Char)
  | 'u' :: '{' :: rest =>
    some (.char (Char.ofNat (hexValue (rest.takeWhile (· ≠ '}')))), (rest.dropWhile (· ≠ '}')).drop 1)
  | 'x' :: high :: low :: rest => some (.byte (hexValue [high, low]), rest)
  | letter :: rest => some (.char (unescaped letter), rest)
  | [] => none

/-- Read one unit off the front, unless the closing quote is there. -/
def readUnit : List Char → Option (Shown × List Char)
  | [] => none
  | c :: rest =>
    if c = '"' then none
    else if c = '\\' then readEscape rest
    else some (.char c, rest)

/-- Characters up to a closing quote show these units. -/
inductive Shows : List Char → List Shown → Prop
  | done : Shows ['"'] []
  | unit {chars rest : List Char} {unit : Shown} {units : List Shown} (hread : readUnit chars = some (unit, rest))
      (hrest : Shows rest units) : Shows chars (unit :: units)

/-- **There is one reading only.** -/
theorem Shows.unique {units others : List Shown} (h : Shows chars units) (hother : Shows chars others) :
    units = others := by
  induction h generalizing others with
  | done =>
      cases hother with
      | done => rfl
      | unit hread => cases hread
  | unit hread _ ih =>
      cases hother with
      | done => cases hread
      | unit hother hrest =>
          rw [hread] at hother
          injection hother with hpair
          injection hpair with hunit htail
          subst htail
          rw [hunit, ih hrest]

/-- Each piece is read as one unit, whatever stands behind it. -/
def Reads (piece : α → List Char) (unit : α → Shown) : Prop :=
  ∀ a rest, readUnit (piece a ++ rest) = some (unit a, rest)

/-- Pieces one behind the other show their units. -/
theorem Reads.shows {piece : α → List Char} {unit : α → Shown} (h : Reads piece unit) (as : List α) :
    Shows (as.flatMap piece ++ ['"']) (as.map unit) := by
  induction as with
  | nil => exact .done
  | cons a as ih =>
      rw [List.flatMap_cons, List.append_assoc]
      exact .unit (h a _) ih

theorem readUnit_plain {c : Char} (hquote : c ≠ '"') (hbackslash : c ≠ '\\') (rest : List Char) :
    readUnit (c :: rest) = some (.char c, rest) := by
  rw [readUnit, if_neg hquote, if_neg hbackslash]

theorem readUnit_code (n : Nat) (rest : List Char) :
    readUnit (['\\', 'u', '{'] ++ hexDigits n ++ ['}'] ++ rest) = some (.char (Char.ofNat n), rest) := by
  have hbrace : ∀ d < 16, hexDigit d ≠ '}' := by decide
  have hdigits : ∀ c ∈ hexDigits n, decide (c ≠ '}') = true := by
    intro c hc
    obtain ⟨d, hd, rfl⟩ := exists_of_mem_hexDigits hc
    exact decide_eq_true (hbrace d hd)
  have hsplit : ['\\', 'u', '{'] ++ hexDigits n ++ ['}'] ++ rest
      = '\\' :: 'u' :: '{' :: (hexDigits n ++ '}' :: rest) := by
    rw [List.append_assoc, List.append_assoc]
    rfl
  have hvalue : (hexDigits n ++ '}' :: rest).takeWhile (· ≠ '}') = hexDigits n := by
    rw [List.takeWhile_append_of_pos hdigits, List.takeWhile_cons_of_neg (by decide), List.append_nil]
  have hbehind : (hexDigits n ++ '}' :: rest).dropWhile (· ≠ '}') = '}' :: rest := by
    rw [List.dropWhile_append_of_pos hdigits, List.dropWhile_cons_of_neg (by decide)]
  rw [hsplit, readUnit, if_neg (by decide), if_pos rfl, readEscape, hvalue, hbehind, hexValue_hexDigits]
  rfl

/-- A character of a text is read back, by any table. -/
theorem reads_escapeCharBy (spelled : Char → Bool) : Reads (escapeCharBy spelled) .char := by
  intro c rest
  unfold escapeCharBy
  split_ifs with hquoted hnul htab hreturn hnewline hspelled
  · rcases hquoted with rfl | rfl <;> rfl
  · rw [hnul]; rfl
  · rw [htab]; rfl
  · rw [hreturn]; rfl
  · rw [hnewline]; rfl
  · rw [readUnit_code, Char.ofNat_toNat]
  · obtain ⟨hquote, hbackslash⟩ := not_or.mp hquoted
    exact readUnit_plain hquote hbackslash rest

/-- A byte that is shown as the character of its code point. -/
def IsCharacter (b : UInt8) : Prop :=
  b = Byte.tab ∨ b = Byte.carriageReturn ∨ b = Byte.newline ∨ 0x20 ≤ b ∧ b ≤ 0x7E

instance (b : UInt8) : Decidable (IsCharacter b) := inferInstanceAs (Decidable (_ ∨ _))

/-- What a byte shows in a word that is no text. -/
def shownByte (b : UInt8) : Shown := if IsCharacter b then .char (Byte.char b) else .byte b.toNat

/-- A byte is read back. -/
theorem reads_escapeByte : Reads escapeByte shownByte := by
  intro b rest
  unfold escapeByte
  split_ifs with hquoted htab hreturn hnewline hprintable
  · rcases hquoted with rfl | rfl | rfl <;> rfl
  · rw [htab]; rfl
  · rw [hreturn]; rfl
  · rw [hnewline]; rfl
  · have hcharacter : IsCharacter b := .inr (.inr (.inr hprintable))
    have hne : ∀ other : UInt8, b ≠ other → Byte.char b ≠ Byte.char other :=
      fun other hb h => hb (Byte.char_injective h)
    obtain ⟨hquote, hrest⟩ := not_or.mp hquoted
    rw [shownByte, if_pos hcharacter]
    exact readUnit_plain (hne _ hquote) (hne _ (not_or.mp hrest).2) rest
  · have hbyte : ¬ IsCharacter b := by
      rintro (h | h | h | h)
      exacts [htab h, hreturn h, hnewline h, hprintable h]
    have hread : readUnit (['\\', 'x', hexDigit (b.toNat / 16), hexDigit (b.toNat % 16)] ++ rest)
        = some (.byte (hexValue [hexDigit (b.toNat / 16), hexDigit (b.toNat % 16)]), rest) := rfl
    rw [hread, hexValue_two, shownByte, if_neg hbyte]

/-! ## The units of a word -/

/-- The units that a word is shown by: its characters if it is a text, else its bytes. -/
def units (word : Bytes) : List Shown :=
  match word.toString? with
  | some text => text.toList.map .char
  | none => word.map shownByte

/-- **A word is read back from how it is shown**, up to the closing quote and by any table. -/
theorem shows_units (spelled : Char → Bool) (word : Bytes) : Shows (bodyBy spelled word ++ ['"']) (units word) := by
  unfold bodyBy units
  cases word.toString? with
  | some text => exact (reads_escapeCharBy spelled).shows text.toList
  | none => exact reads_escapeByte.shows word

theorem shownByte_injective : Function.Injective shownByte := by
  intro b other h
  unfold shownByte at h
  split_ifs at h with hb hother hother
  · exact Byte.char_injective (Shown.char.inj h)
  · exact UInt8.toNat_inj.mp (Shown.byte.inj h)

/-- Bytes that show characters only are a text. -/
theorem exists_text_of_characters {word : Bytes} (h : ∀ b ∈ word, IsCharacter b) :
    ∃ text, Bytes.ofString text = word := by
  refine Bytes.exists_text_of_ascii fun b hb => ?_
  rcases h b hb with rfl | rfl | rfl | ⟨-, hhigh⟩
  · decide
  · decide
  · decide
  · exact UInt8.lt_of_le_of_lt hhigh (by decide)

/-- A word that is no text shows a byte by its digits, as no text does. -/
theorem map_shownByte_ne {word : Bytes} (h : word.toString? = none) (text : List Char) :
    word.map shownByte ≠ text.map .char := by
  intro heq
  obtain ⟨spelling, hspelling⟩ : ∃ text, Bytes.ofString text = word := by
    refine exists_text_of_characters fun b hb => ?_
    have hmem : shownByte b ∈ text.map .char := heq ▸ List.mem_map_of_mem hb
    obtain ⟨c, -, hc⟩ := List.mem_map.mp hmem
    by_contra hbyte
    rw [shownByte, if_neg hbyte] at hc
    cases hc
  rw [← hspelling, Bytes.toString?_ofString] at h
  cases h

/-- **The units of a word tell it**, and whether it is a text. -/
theorem units_injective : Function.Injective units := by
  intro word other h
  unfold units at h
  cases hword : word.toString? with
  | some text =>
      cases hother : other.toString? with
      | some otherText =>
          rw [hword, hother] at h
          have htext : text.toList = otherText.toList :=
            List.map_injective_iff.mpr (fun _ _ => Shown.char.inj) h
          rw [← Bytes.ofString_of_toString? hword, ← Bytes.ofString_of_toString? hother,
            String.toList_inj.mp htext]
      | none =>
          rw [hword, hother] at h
          exact absurd h.symm (map_shownByte_ne hother text.toList)
  | none =>
      cases hother : other.toString? with
      | some otherText =>
          rw [hword, hother] at h
          exact absurd h (map_shownByte_ne hword otherText.toList)
      | none =>
          rw [hword, hother] at h
          exact List.map_injective_iff.mpr shownByte_injective h

theorem quoteBytesBy_injective (spelled : Char → Bool) : Function.Injective (quoteBytesBy spelled) := by
  intro word other h
  have hchars : bodyBy spelled word ++ ['"'] = bodyBy spelled other ++ ['"'] :=
    (List.cons.inj (String.ofList_injective h)).2
  have hshows := shows_units spelled word
  rw [hchars] at hshows
  exact units_injective (hshows.unique (shows_units spelled other))

/-- A text that spells out an escape, and the byte that has this escape. -/
example : quoteBytes (Bytes.ofString "\\xff") = "\"\\\\xff\"" ∧ quoteBytes [0xFF] = "\"\\xff\"" := by
  decide +kernel

/-! ## Controls -/

/-- The control characters of ASCII. -/
def isControl (c : Char) : Bool := c.toNat < 0x20 || c.toNat == 0x7F

/-- No control is among the characters. -/
def Plain (chars : List Char) : Prop := ∀ c ∈ chars, isControl c = false

instance (chars : List Char) : Decidable (Plain chars) := List.decidableBAll _ chars

theorem plain_singleton_iff {c : Char} : Plain [c] ↔ isControl c = false := List.forall_mem_singleton

theorem Plain.append {front back : List Char} (hfront : Plain front) (hback : Plain back) : Plain (front ++ back) :=
  fun c hc => (List.mem_append.mp hc).elim (hfront c) (hback c)

theorem Plain.flatMap {piece : α → List Char} {as : List α} (h : ∀ a ∈ as, Plain (piece a)) :
    Plain (as.flatMap piece) := by
  intro c hc
  obtain ⟨a, ha, hmem⟩ := List.mem_flatMap.mp hc
  exact h a ha c hmem

theorem plain_hexDigit : ∀ n < 16, Plain [hexDigit n] := by decide

theorem plain_hexDigits (n : Nat) : Plain (hexDigits n) := by
  intro c hc
  obtain ⟨d, hd, rfl⟩ := exists_of_mem_hexDigits hc
  exact plain_singleton_iff.mp (plain_hexDigit d hd)

/-- The table spells out every control. -/
def SpellsControls (spelled : Char → Bool) : Prop := ∀ c, isControl c = true → spelled c = true

theorem plain_escapeCharBy (hspelled : SpellsControls spelled) (c : Char) : Plain (escapeCharBy spelled c) := by
  unfold escapeCharBy
  split_ifs with hquoted hnul htab hreturn hnewline hc
  · rcases hquoted with rfl | rfl <;> decide
  · decide
  · decide
  · decide
  · decide
  · exact .append (.append (by decide) (plain_hexDigits _)) (by decide)
  · exact plain_singleton_iff.mpr (Bool.eq_false_iff.mpr fun hcontrol => hc (hspelled c hcontrol))

theorem plain_escapeByte (b : UInt8) : Plain (escapeByte b) := by
  unfold escapeByte
  split_ifs with hquoted htab hreturn hnewline hprintable
  · rcases hquoted with rfl | rfl | rfl <;> decide
  · decide
  · decide
  · decide
  · have hlow : 0x20 ≤ b.toNat := UInt8.le_iff_toNat_le.mp hprintable.1
    have hhigh : b.toNat ≤ 0x7E := UInt8.le_iff_toNat_le.mp hprintable.2
    rw [plain_singleton_iff, isControl, ← Byte.char, Byte.char_toNat, Bool.or_eq_false_iff]
    exact ⟨decide_eq_false (by omega), beq_false_of_ne (by omega)⟩
  · have hhigh : b.toNat / 16 < 16 := Nat.div_lt_of_lt_mul b.toNat_lt
    have hlow : b.toNat % 16 < 16 := Nat.mod_lt _ (by decide)
    have hfront : Plain ['\\', 'x'] := by decide
    exact hfront.append ((plain_hexDigit _ hhigh).append (plain_hexDigit _ hlow))

theorem plain_quoteBytesBy (hspelled : SpellsControls spelled) (word : Bytes) :
    Plain (quoteBytesBy spelled word).toList := by
  have hbody : Plain (bodyBy spelled word) := by
    unfold bodyBy
    cases word.toString? with
    | some text => exact .flatMap fun c _ => plain_escapeCharBy hspelled c
    | none => exact .flatMap fun b _ => plain_escapeByte b
  have hquote : Plain ['"'] := by decide
  rw [quoteBytesBy, String.toList_ofList, ← List.singleton_append]
  exact hquote.append (hbody.append hquote)

theorem spellsControls_hidden : SpellsControls hidden.contains := by
  intro c hc
  obtain hlow | hdelete := Bool.or_eq_true_iff.mp hc
  · refine List.any_eq_true.mpr ⟨(0x0, 0x1F), List.mem_cons_self, ?_⟩
    have hbound : c.toNat < 0x20 := of_decide_eq_true hlow
    exact Bool.and_eq_true_iff.mpr ⟨decide_eq_true (Nat.zero_le _), decide_eq_true (by omega)⟩
  · refine List.any_eq_true.mpr ⟨(0x7F, 0xA0), List.mem_cons_of_mem _ List.mem_cons_self, ?_⟩
    rw [eq_of_beq hdelete]
    rfl

/-- The UTF-8 form of a text has no control where the text has none. -/
theorem plain_ofString {text : String} (h : Plain text.toList) : Plain ((Bytes.ofString text).map Byte.char) := by
  intro c hc
  obtain ⟨b, hb, rfl⟩ := List.mem_map.mp hc
  rw [Bool.eq_false_iff]
  intro hcontrol
  have hascii : b < 0x80 := by
    rw [isControl, Byte.char_toNat, Bool.or_eq_true_iff, decide_eq_true_iff, beq_iff_eq] at hcontrol
    refine UInt8.lt_iff_toNat_lt.mpr (show b.toNat < 128 from ?_)
    omega
  rw [h _ (Bytes.char_mem_of_mem_ofString hb hascii)] at hcontrol
  cases hcontrol

end Text

namespace Session

open Text

variable {σ : Type}

/-- The reply to a request whose tag is not known. -/
def unsupported (tag : Word) : Response := .error ("unsupported message type " ++ quoteBytes tag)

/-- A tag that is not known is answered by showing it, and leaves the session as it is. -/
theorem answer_of_unknown (mapper : Mapper σ) {s : Session σ} {tag : Word} (arguments : List Word)
    (hready : s.phase = .ready) (hunknown : RequestKind.ofTag? tag = none) :
    answer mapper (tag :: arguments) s = (.ok (unsupported tag), s) := by
  have hrequest : Request.ofMessage? (tag :: arguments) = some (.unknown tag) := by
    rw [Request.ofMessage?, hunknown]
  rw [answer, hrequest]
  exact if_pos hready

theorem unsupported_injective {tag other : Word}
    (h : (unsupported tag).toMessage = (unsupported other).toMessage) : tag = other := by
  have htext := Bytes.ofString_injective (List.cons.inj (List.cons.inj h).2).1
  have hshown := (String.append_right_inj _).mp htext
  rw [← quoteBytesBy_hidden, ← quoteBytesBy_hidden] at hshown
  exact quoteBytesBy_injective _ hshown

theorem plain_unsupported (tag : Word) : ∀ word ∈ (unsupported tag).toMessage, Plain (word.map Byte.char) := by
  have hfront : Plain "unsupported message type ".toList := by decide +kernel
  have htext : Plain ("unsupported message type " ++ quoteBytes tag).toList := by
    rw [String.toList_append, ← quoteBytesBy_hidden]
    exact hfront.append (plain_quoteBytesBy spellsControls_hidden tag)
  have hmark : Plain "ERROR".toList := by decide +kernel
  intro word hword
  rcases List.mem_pair.mp hword with rfl | rfl
  · exact plain_ofString hmark
  · exact plain_ofString htext

/-- What is shown of words tells them apart, and so do the replies that show them. -/
structure TellsApart : Prop where
  /-- Different words are shown differently, whatever characters a table spells out. -/
  words : ∀ spelled word other, word ≠ other → quoteBytesBy spelled word ≠ quoteBytesBy spelled other
  /-- No control is shown, whatever characters a table spells out besides the controls. -/
  plain : ∀ spelled, SpellsControls spelled → ∀ word, Plain (quoteBytesBy spelled word).toList
  /-- The table of the hidden characters is one of these, so all this holds of what is shown by it. -/
  table : SpellsControls hidden.contains ∧ quoteBytesBy hidden.contains = quoteBytes
  /-- A tag that is not known is answered by showing it. -/
  answered : ∀ {σ : Type} (mapper : Mapper σ) (s : Session σ) (tag : Word) (arguments : List Word),
    s.phase = .ready → RequestKind.ofTag? tag = none →
      answer mapper (tag :: arguments) s = (.ok (unsupported tag), s)
  /-- Different tags have different answers, as messages too. -/
  tags : ∀ tag other, tag ≠ other → (unsupported tag).toMessage ≠ (unsupported other).toMessage
  /-- These answers have no control in any byte. -/
  replies : ∀ tag, ∀ word ∈ (unsupported tag).toMessage, Plain (word.map Byte.char)

/-- **A word is known by how it is shown**, so tags that are not known get different answers, and no control
    comes back with them. -/
theorem unknown_tags_told_apart : TellsApart where
  words := fun spelled _ _ hne h => hne (quoteBytesBy_injective spelled h)
  plain := fun _ hspelled word => plain_quoteBytesBy hspelled word
  table := ⟨spellsControls_hidden, funext quoteBytesBy_hidden⟩
  answered := fun mapper _ _ arguments hready hunknown => answer_of_unknown mapper arguments hready hunknown
  tags := fun _ _ hne h => hne (unsupported_injective h)
  replies := plain_unsupported

end Session

end ModuleMapper
