import ModuleMapper.Wire.Block

/-!
# Tokens — what a line is made of

  Spaces and tabs separate tokens. A token is a newline, a semicolon, a word between single quotes or
  a bare word. Inside quotes a backslash makes the next byte stand for itself, but for `n` and `t`,
  which stand for newline and tab. Everything else is malformed, through the end of its line.

  `scan` takes one token off the front of a buffer. `scan_rest_lt` says that it takes something, so
  that readers may call it again and again.
-/

namespace ModuleMapper

/-- May the byte stand in a word that is not quoted? -/
def Byte.isBare (b : UInt8) : Bool :=
  isAlphanumeric b || [0x2D, 0x2B, 0x5F, 0x2F, 0x25, 0x2E].contains b

/-- Can the word be written without quotes? -/
def Word.isBare (word : Word) : Bool := !word.isEmpty && word.all Byte.isBare

namespace Wire

/-- A lexical token. -/
inductive Token where
  /-- The end of a line. -/
  | newline
  /-- A semicolon. -/
  | continuation
  | word (value : Word)
  deriving Repr, DecidableEq

/-- What stands at the front of a buffer. -/
inductive Scanned where
  /-- A token, and the bytes behind it. -/
  | token (token : Token) (rest : Bytes)
  /-- Nothing but blanks. -/
  | blank
  /-- A quoted word whose closing quote is not there yet. -/
  | unclosed
  /-- Bytes that start no token, through the end of their line. -/
  | malformed (line : Bytes)
  deriving Repr, DecidableEq

/-- Split what follows an opening quote at the closing one: the body as it is written, and the bytes
    behind the closing quote. -/
def quotedBody? : Bytes → Option (Bytes × Bytes)
  | [] => none
  | b :: rest =>
    if b = Byte.quote then some ([], rest)
    else if b = Byte.backslash then
      match rest with
      | [] => none
      | escaped :: rest => (quotedBody? rest).map fun (body, rest) => (b :: escaped :: body, rest)
    else (quotedBody? rest).map fun (body, rest) => (b :: body, rest)

/-- What an escaped byte stands for. -/
def escapedByte (b : UInt8) : UInt8 :=
  if b = Byte.letterN then Byte.newline else if b = Byte.letterT then Byte.tab else b

/-- The word that the body of a quoted word stands for. -/
def unquote : Bytes → Word
  | [] => []
  | b :: rest =>
    if b = Byte.backslash then
      match rest with
      | [] => []
      | escaped :: rest => escapedByte escaped :: unquote rest
    else b :: unquote rest

/-- The bytes through the first newline, or all of them when there is none. -/
def lineOf : Bytes → Bytes
  | [] => []
  | b :: rest => if b = Byte.newline then [b] else b :: lineOf rest

/-- Take one token off the front of a buffer. -/
def scan (buffer : Bytes) : Scanned :=
  match buffer.dropWhile Byte.isBlank with
  | [] => .blank
  | b :: rest =>
    if b = Byte.newline then .token .newline rest
    else if b = Byte.semicolon then .token .continuation rest
    else if b = Byte.quote then
      match quotedBody? rest with
      | some (body, rest) => .token (.word (unquote body)) rest
      | none => .unclosed
    else if Byte.isBare b then
      .token (.word ((b :: rest).takeWhile Byte.isBare)) ((b :: rest).dropWhile Byte.isBare)
    else .malformed (lineOf (b :: rest))

/-! ## A token is never empty -/

theorem quotedBody?_rest_lt {bytes body rest : Bytes} (h : quotedBody? bytes = some (body, rest)) :
    rest.length < bytes.length := by
  fun_induction quotedBody? bytes generalizing body rest with
  | case1 => cases h
  | case2 tail => cases h; simp
  | case3 => cases h
  | case4 escaped tail _ ih =>
    obtain ⟨⟨body', rest'⟩, hq, he⟩ := Option.map_eq_some_iff.1 h
    cases he
    have := ih hq
    simp only [List.length_cons]
    omega
  | case5 b tail _ _ ih =>
    obtain ⟨⟨body', rest'⟩, hq, he⟩ := Option.map_eq_some_iff.1 h
    cases he
    have := ih hq
    simp only [List.length_cons]
    omega

theorem length_dropWhile_le (p : UInt8 → Bool) (bytes : Bytes) :
    (bytes.dropWhile p).length ≤ bytes.length :=
  (List.dropWhile_suffix p).length_le

/-- What is left behind a token is shorter than the buffer. -/
theorem scan_rest_lt {buffer rest : Bytes} {token : Token} (h : scan buffer = .token token rest) :
    rest.length < buffer.length := by
  have hle := length_dropWhile_le Byte.isBlank buffer
  unfold scan at h
  split at h
  · cases h
  · next b tail hd =>
    rw [hd, List.length_cons] at hle
    split at h
    · cases h; omega
    · split at h
      · cases h; omega
      · split at h
        · split at h
          · next hq => cases h; have := quotedBody?_rest_lt hq; omega
          · cases h
        · split at h
          · next hb =>
            cases h
            have := length_dropWhile_le Byte.isBare tail
            simp only [List.dropWhile_cons, hb, if_true]
            omega
          · cases h

end Wire

end ModuleMapper
