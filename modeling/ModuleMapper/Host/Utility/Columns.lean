import ModuleMapper.Host.Shell.Pattern
import ModuleMapper.Host.Utility.Lines

/-!
# Utilities for columns — sorting, merging, cutting and replacing

  These utilities work inside of lines: they compare them by fields, leave out those that repeat, cut
  pieces out of them, or put other bytes in.
-/

namespace ModuleMapper.Utility

open scoped Bytes

/-! ## Sorting -/

/-- How lines are compared. -/
structure SortKey where
  /-- The first and the last field, from 1 on; the whole line without them. -/
  fields : Option (Nat × Option Nat) := none
  numeric : Bool := false
  reversed : Bool := false
  folded : Bool := false
  blanks : Bool := false

/-- The fields of a line. Without a separator, a field starts with the blanks before it. -/
def fieldsOf (separator : Option UInt8) (line : Bytes) : List Bytes :=
  match separator with
  | some b => Bytes.splitAt b line
  | none =>
    let (fields, current) := line.foldl
      (fun (fields, current) b =>
        let blank := Byte.isBlank b
        let ends := blank && !current.all Byte.isBlank
        if ends then (fields ++ [current], [b]) else (fields, current ++ [b]))
      (([], []) : List Bytes × Bytes)
    fields ++ [current]

/-- The part of a line that a key compares. -/
def SortKey.part (key : SortKey) (separator : Option UInt8) (line : Bytes) : Bytes :=
  let part := match key.fields with
    | none => line
    | some (first, last) =>
      let fields := (fieldsOf separator line).drop (first - 1)
      let fields := match last with
        | some last => fields.take (last + 1 - first)
        | none => fields
      match separator with
      | some b => [b].intercalate fields
      | none => fields.flatten
  let part := if key.blanks then part.dropWhile Byte.isBlank else part
  if key.folded then part.map Byte.toUpper else part

/-- The number at the front of a text, in units of a millionth. -/
def numberAt (bytes : Bytes) : Int :=
  let bytes := bytes.dropWhile Byte.isBlank
  let negative := bytes.head? == some Byte.dash
  let bytes := if negative then bytes.tail else bytes
  let whole := bytes.takeWhile Byte.isDigit
  let fraction := match bytes.drop whole.length with
    | dot :: rest => if dot = Byte.dot then rest.takeWhile Byte.isDigit else []
    | [] => []
  let places := (fraction ++ List.replicate 6 Byte.digitZero).take 6
  let number : Int := Integer.ofDigits 10 (whole ++ places)
  if negative then -number else number

/-- How two lines compare by a key. -/
def SortKey.compare (key : SortKey) (separator : Option UInt8) (a b : Bytes) : Ordering :=
  let a := key.part separator a
  let b := key.part separator b
  let order := if key.numeric then Ord.compare (numberAt a) (numberAt b)
    else if a < b then .lt else if a = b then .eq else .gt
  if key.reversed then order.swap else order

/-- Read a key such as `2,3n`. -/
def SortKey.ofBytes? (usual : SortKey) (bytes : Bytes) : Option SortKey :=
  let letters := bytes.filter fun b => !Byte.isDigit b && b != Byte.comma && b != Byte.dot
  let has (char : Char) : Bool := letters.any fun b => Byte.char b == char
  let position (part : Bytes) : Option Nat :=
    Integer.ofPlainDigits? (part.takeWhile Byte.isDigit)
  let key := { usual with
    numeric := usual.numeric || has 'n', reversed := usual.reversed || has 'r'
    folded := usual.folded || has 'f', blanks := usual.blanks || has 'b' }
  match Bytes.splitAt Byte.comma bytes with
  | [first] => (position first).map fun first => { key with fields := some (first, none) }
  | [first, last] => do
    let first ← position first
    let last ← position last
    return { key with fields := some (first, some last) }
  | _ => none

/-- Print sorted lines to where the options say. -/
def putSorted (arguments : Arguments) (shown : Bytes) : Action Nat := do
  match arguments.value? 'o' with
  | none => do
    if shown = [] then return 0
    match ← Process.write 1 shown with
    | .ok () => return 0
    | .error cause => do
      complainAbout "fflush failed: " (Text.Safe.quoted "standard output") cause
      complain "write error"
      return 2
  | some path =>
    match (← get).openFile path .write with
    | .error cause => do
      complainAbout "open failed: " path cause
      return 2
    | .ok (number, process) => do
      set (process.attach 1 number)
      emit shown

/-- Find the first line that is not in order. -/
def checkSorted (path : Bytes) (inOrder : Bytes → Bytes → Bool) : List Bytes → Nat → Action Nat
  | a :: b :: others, number =>
    if inOrder a b then checkSorted path inOrder (b :: others) (number + 1)
    else do
      complain (path ++ ":" ++ Integer.toBytes (number + 1) ++ ": disorder: " ++ b)
      return 1
  | _, _ => return 0

/-- Sort the lines of files. -/
def sortLines (arguments : Arguments) : Action Nat := do
  let usual : SortKey :=
    { numeric := arguments.has 'n', reversed := arguments.has 'r'
      folded := arguments.has 'f', blanks := arguments.has 'b' }
  let separator := (arguments.value? 't').bind List.head?
  let keys := (arguments.options.filter fun option => option.1 == 'k').filterMap fun option =>
    usual.ofBytes? option.2
  let keys := if keys.isEmpty then [usual] else keys
  if let some (path, cause) := unopened? (← get) (sources arguments.operands) then
    complainAbout "cannot read: " (Text.Safe.shown path) cause
    return 2
  let (lines, fine) ← allLines "read failed: " arguments.operands
  if !fine then return 2
  else
    let byKeys (a b : Bytes) : Ordering :=
      keys.foldl (fun order key => order.then (key.compare separator a b)) .eq
    let whole : SortKey := { reversed := usual.reversed }
    let compared (a b : Bytes) : Ordering :=
      if arguments.has 'u' || arguments.has 's' then byKeys a b
      else (byKeys a b).then (whole.compare separator a b)
    if arguments.has 'c' then
      let inOrder (a b : Bytes) : Bool :=
        if arguments.has 'u' then compared a b == .lt else compared a b != .gt
      return ← checkSorted (arguments.operands.headD dashName) inOrder (lines.map chomp) 1
    let sorted := (lines.map chomp).mergeSort fun a b => compared a b != .gt
    let kept := if arguments.has 'u' then
        sorted.foldl
          (fun kept line =>
            match kept.getLast? with
            | some last => if byKeys last line == .eq then kept else kept ++ [line]
            | none => [line])
          []
      else sorted
    putSorted arguments (kept.flatMap ended)

/-- Sort lines. -/
def sort (arguments : List Bytes) : Action Nat :=
  let known : Known :=
    { flags := "bcCdfghimMnrRsuVz", valued := "koStTy"
      long := [("check", 'c'), ("dictionary-order", 'd'), ("field-separator", 't'), ("ignore-case", 'f'),
               ("ignore-leading-blanks", 'b'), ("key", 'k'), ("merge", 'm'), ("numeric-sort", 'n'),
               ("output", 'o'), ("reverse", 'r'), ("stable", 's'), ("unique", 'u')]
      objection? := fun letter value =>
        let problem? : Option Bytes := match letter with
          | 't' =>
            if value = [] then some "empty tab"
            else if value.length > 1 && value != "\\0" then
              some ("multi-character tab " ++ Text.Safe.literal value)
            else none
          | 'k' =>
            if value.head?.any Byte.isDigit then none
            else
              some ("invalid number at field start: invalid count at start of "
                ++ Text.Safe.literal value)
          | _ => none
        problem?.map fun text => { text, offersHelp := false } }
  withOptions known arguments sortLines 2

/-! ## Lines that repeat -/

/-- Leave out lines that repeat the one before. -/
def uniq (arguments : List Bytes) : Action Nat :=
  let known : Known :=
    { flags := "Dcdiuz", valued := "fsw"
      long := [("count", 'c'), ("repeated", 'd'), ("ignore-case", 'i'), ("unique", 'u'),
               ("skip-fields", 'f'), ("skip-chars", 's'), ("check-chars", 'w'), ("zero-terminated", 'z')]
      objection? := fun letter value =>
        let what? : Option Bytes := match letter with
          | 'f' => some "fields to skip"
          | 's' => some "bytes to skip"
          | 'w' => some "bytes to compare"
          | _ => none
        what?.bind fun what =>
          if (Integer.ofPlainDigits? value).isSome then none
          else some { text := value ++ ": invalid number of " ++ what, offersHelp := false } }
  withOptions known arguments fun arguments => do
    if let some extra := arguments.operands[2]? then
      return ← refuse ("extra operand " ++ Text.Safe.literal extra)
    let (lines, fine) ← allLines [] (arguments.operands.take 1)
    if !fine then return 1
    else
      let key (line : Bytes) : Bytes :=
        if arguments.has 'i' then ({ folded := true : SortKey }).part none line else line
      let groups := (lines.map chomp).foldl
        (fun (groups : List (Bytes × Nat)) line =>
          match groups.getLast? with
          | some (last, count) =>
            if key last = key line then groups.dropLast ++ [(last, count + 1)]
            else groups ++ [(line, 1)]
          | none => [(line, 1)])
        []
      let kept := groups.filter fun (_, count) =>
        if arguments.has 'd' && arguments.has 'u' then false
        else if arguments.has 'd' then count > 1
        else if arguments.has 'u' then count = 1
        else true
      let shown := kept.flatMap fun (line, count) =>
        (if arguments.has 'c' then padded 7 count ++ [Byte.space] else []) ++ line ++ [Byte.newline]
      emit shown

/-! ## Replacing bytes -/

/-- The bytes that a set of `tr` lists, read from its front. -/
def trSet : Nat → Bytes → Bytes
  | 0, _ => []
  | _, [] => []
  | fuel + 1, bytes =>
    let all := (List.range 256).map Nat.toUInt8
    match classAt bytes with
    | some (name, rest) => all.filter (Shell.Member.inClass name) ++ trSet fuel rest
    | none =>
      let (first, rest) := byteAt bytes
      match rest with
      | dash :: last :: others =>
        if dash = Byte.dash then
          let (last, rest) := byteAt (last :: others)
          (all.filter fun b => first ≤ b && b ≤ last) ++ trSet fuel rest
        else first :: trSet fuel rest
      | _ => first :: trSet fuel rest
where
  /-- The name of a class in brackets. -/
  classAt (bytes : Bytes) : Option (Bytes × Bytes) :=
    match bytes with
    | bracket :: colon :: rest =>
      let name := rest.takeWhile Byte.isAlphanumeric
      match rest.drop name.length with
      | colon2 :: bracket2 :: rest =>
        if bracket = Byte.leftBracket ∧ colon = Byte.colon ∧ colon2 = Byte.colon ∧ bracket2 = Byte.rightBracket then some (name, rest)
        else none
      | _ => none
    | _ => none
  /-- The byte at the front, where a backslash starts a code. -/
  byteAt (bytes : Bytes) : UInt8 × Bytes :=
    match bytes with
    | [] => (0, [])
    | [b] => (b, [])
    | b :: code :: rest =>
      if b ≠ Byte.backslash then (b, code :: rest)
      else
        let octal := ((code :: rest).take 3).takeWhile Byte.isOctal
        if octal ≠ [] then ((Integer.ofDigits 8 octal).toUInt8, (code :: rest).drop octal.length)
        else
          let byte := match Byte.char code with
            | 'a' => Byte.alert
            | 'b' => Byte.backspace
            | 'f' => Byte.formFeed
            | 'n' => Byte.newline
            | 'r' => Byte.carriageReturn
            | 't' => Byte.tab
            | 'v' => Byte.verticalTab
            | _ => code
          (byte, rest)

/-- Leave out bytes of a set that repeat the one before. -/
def squeezed (set : Bytes) (bytes : Bytes) : Bytes :=
  (bytes.foldl
    (fun (kept : Bytes) b => if set.contains b && kept.head? == some b then kept else b :: kept)
    []).reverse

/-- Replace, remove or squeeze bytes of the input. -/
def tr (arguments : List Bytes) : Action Nat :=
  let known : Known :=
    { flags := "AcCdst", inFront := true
      long := [("complement", 'c'), ("delete", 'd'), ("squeeze-repeats", 's'), ("truncate-set1", 't')] }
  withOptions known arguments fun arguments =>
    let squeezes := arguments.has 's'
    let deletes := arguments.has 'd'
    let complemented := arguments.has 'c' || arguments.has 'C'
    let read (set : Bytes) : Bytes := trSet (set.length + 1) set
    let first (set : Bytes) : Bytes :=
      if complemented then
        ((List.range 256).map Nat.toUInt8).filter fun b => !(read set).contains b
      else read set
    let content : Action Bytes := do
      match ← Process.readAll 0 with
      | .ok content => return content
      | .error _ => return []
    let most := if deletes && !squeezes then 1 else 2
    match arguments.operands, arguments.operands.drop most with
    | [], _ => refuse "missing operand"
    | _, extra :: _ => do
      complain ("extra operand " ++ Text.Safe.literal extra)
      if arguments.operands.length = 2 then
        Process.say "Only one string may be given when deleting without squeezing repeats."
      offerHelp
      return 1
    | [one], _ => do
      if deletes && !squeezes then
        let set := first one
        emit ((← content).filter fun b => !set.contains b)
      else if squeezes && !deletes then emit (squeezed (first one) (← content))
      else
        complain ("missing operand after " ++ Text.Safe.literal one)
        let why : Bytes := if deletes then
            "Two strings must be given when both deleting and squeezing repeats."
          else "Two strings must be given when translating."
        Process.say why
        offerHelp
        return 1
    | one :: two :: _, _ => do
      if deletes then
        let set := first one
        let kept := (← content).filter fun b => !set.contains b
        emit (if squeezes then squeezed (read two) kept else kept)
      else
        let set := first one
        let other := read two
        let last := other.getLast?.getD 0
        let put (b : UInt8) : UInt8 :=
          match set.reverse.idxOf? b with
          | some place => other[set.length - 1 - place]?.getD last
          | none => b
        let replaced := (← content).map put
        emit (if squeezes then squeezed other replaced else replaced)

/-! ## Cutting -/

/-- Positions such as `1,3-5,7-`. -/
def positions? (bytes : Bytes) : Option (List (Nat × Option Nat)) :=
  (Bytes.splitAt Byte.comma bytes).mapM fun part =>
    match Bytes.splitAt Byte.dash part with
    | [one] => (Integer.ofPlainDigits? one).map fun n => (n, some n)
    | [first, last] =>
      if first = [] && last = [] then none
      else
        let first? := if first = [] then some 1 else Integer.ofPlainDigits? first
        let last? := if last = [] then some none else (Integer.ofPlainDigits? last).map some
        match first?, last? with
        | some first, some last => some (first, last)
        | _, _ => none
    | _ => none

/-- The items at some positions. -/
def chosen {α : Type} (positions : List (Nat × Option Nat)) (items : List α) : List α :=
  (items.zipIdx 1).filterMap fun (item, place) =>
    if positions.any fun (first, last) => first ≤ place && last.all (place ≤ ·) then some item
    else none

/-- The items that are not at some positions. -/
def others {α : Type} (positions : List (Nat × Option Nat)) (items : List α) : List α :=
  (items.zipIdx 1).filterMap fun (item, place) =>
    if positions.any fun (first, last) => first ≤ place && last.all (place ≤ ·) then none
    else some item

/-- What is cut out of every line. -/
structure Cutting where
  /-- The delimiter of fields; bytes are cut without one. -/
  delimiter : Option UInt8
  positions : List (Nat × Option Nat)
  /-- Is what lies at the positions left out? -/
  inverted : Bool
  between : Bytes
  /-- Are lines without a delimiter left out? -/
  delimitedOnly : Bool

/-- What is left of a line. -/
def Cutting.line (cutting : Cutting) (line : Bytes) : Bytes :=
  let pick {α : Type} (items : List α) : List α :=
    if cutting.inverted then others cutting.positions items else chosen cutting.positions items
  match cutting.delimiter with
  | none => pick line ++ [Byte.newline]
  | some delimiter =>
    if !line.contains delimiter then if cutting.delimitedOnly then [] else line ++ [Byte.newline]
    else cutting.between.intercalate (pick (Bytes.splitAt delimiter line)) ++ [Byte.newline]

/-- Find out what to cut. -/
def Cutting.ofArguments (arguments : Arguments) : Except Bytes Cutting :=
  let fields? := arguments.value? 'f'
  let bytes? := (arguments.value? 'c').orElse fun _ => arguments.value? 'b'
  let delimiter := (arguments.value? 'd').getD [Byte.tab]
  match fields?.orElse fun _ => bytes? with
  | none => .error "you must specify a list of bytes, characters, or fields"
  | some list =>
    match if list = [] then some [(0, none)] else positions? list with
    | none =>
      let what : Bytes := if fields?.isSome then "invalid field value " else
        "invalid byte/character position "
      .error (what ++ Text.Safe.literal list)
    | some positions =>
      if positions.any fun position => position.1 = 0 || position.2 = some 0 then
        let what : Bytes := if fields?.isSome then "fields" else "byte/character positions"
        .error (what ++ " are numbered from 1")
      else if delimiter.length > 1 then .error "the delimiter must be a single character"
      else
        .ok
          { delimiter := if fields?.isSome then some (delimiter.headD Byte.nul) else none
            positions, inverted := arguments.has 'C', delimitedOnly := arguments.has 's'
            between := (arguments.value? 'O').getD delimiter }

/-- Cut bytes or fields out of every line. -/
def cut (arguments : List Bytes) : Action Nat :=
  let known : Known :=
    { flags := "nsz", valued := "bcdf"
      long := [("bytes", 'b'), ("characters", 'c'), ("fields", 'f'), ("delimiter", 'd'),
               ("only-delimited", 's'), ("output-delimiter", 'O'), ("complement", 'C'),
               ("zero-terminated", 'z')] }
  withOptions known arguments fun arguments =>
    match Cutting.ofArguments arguments with
    | .error text => refuse text
    | .ok cutting =>
      forEach (sources arguments.operands) fun path => do
        match ← contentOf path with
        | .ok content => return (← emit ((linesOf content).flatMap (cutting.line ∘ chomp))) = 0
        | .error cause => do
          complainAbout [] (Text.Safe.shown path) cause
          return false

end ModuleMapper.Utility
