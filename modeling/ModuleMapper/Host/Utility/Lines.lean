import ModuleMapper.Host.Text.Integer
import ModuleMapper.Host.Utility.Options

/-!
# Utilities for lines — showing, counting and choosing them

  These utilities read files, or their input where no file is named, and print what they make of the
  lines. A line keeps the end that it has.
-/

namespace ModuleMapper.Utility

open scoped Bytes

/-- The lines of a text, each with its end; the last may have none. -/
def linesOf (bytes : Bytes) : List Bytes :=
  let (whole, rest) := bytes.foldr
    (fun b (lines, current) => if b = Byte.newline then
        (if current = [] then lines else current :: lines, [b])
      else (lines, b :: current))
    (([], []) : List Bytes × Bytes)
  if rest = [] then whole else rest :: whole

/-- A line without its end. -/
def chomp (line : Bytes) : Bytes :=
  if line.getLast? = some Byte.newline then line.dropLast else line

/-- A line with an end. -/
def ended (line : Bytes) : Bytes := chomp line ++ [Byte.newline]

/-- The name of the input itself. -/
def dashName : Bytes := "-"

/-- All of a file, or of the input. -/
def contentOf (path : Path) : Action (Except SystemError Bytes) :=
  if path = dashName then Process.readAll 0 else Process.readFile path

/-- The files that are named; the input if there are none. -/
def sources (operands : List Bytes) : List Bytes :=
  if operands = [] then [dashName] else operands

/-- All lines of some files, and whether all could be read. -/
def allLines (what : Bytes) (operands : List Bytes) : Action (List Bytes × Bool) := do
  let mut lines := []
  let mut fine := true
  for path in sources operands do
    match ← contentOf path with
    | .ok content => lines := lines ++ linesOf content
    | .error cause =>
      fine := false
      complainAbout what (Text.Safe.shown path) cause
  return (lines, fine)

/-- The first of some files that cannot be opened, and why. -/
def unopened? (p : Process) (paths : List Path) : Option (Path × SystemError) :=
  paths.findSome? fun path =>
    if path = dashName then none
    else
      match (Process.readFile path p).1 with
      | .ok _ | .error .isDirectory => none
      | .error cause => some (path, cause)

/-- A number with blanks in front. -/
def padded (width : Nat) (number : Nat) : Bytes :=
  let digits := Integer.toBytes number
  List.replicate (width - digits.length) Byte.space ++ digits

/-! ## Showing whole files -/

/-- How a text is made visible. -/
structure Marking where
  /-- Are lines numbered? -/
  numbers : Bool
  /-- Is that so only for lines that are not empty? -/
  filledOnly : Bool
  /-- Is only the first of several empty lines shown? -/
  squeezes : Bool
  ends : Bool
  tabs : Bool
  /-- Do control bytes and bytes that are no ASCII get letters? -/
  control : Bool

namespace Marking

/-- How far a text has been shown. -/
structure Progress where
  /-- The number of the next line. -/
  number : Nat := 1
  atStart : Bool := true
  /-- Was the line before empty? -/
  behindEmpty : Bool := false

/-- The marking that options ask for. -/
def ofArguments (arguments : Arguments) : Marking :=
  let has (letters : String) : Bool := letters.toList.any arguments.has
  { numbers := has "nb", filledOnly := has "b", squeezes := has "s", ends := has "EAe"
    tabs := has "TAt", control := has "vAet" }

/-- Does the marking leave a text as it is? -/
def isPlain (marking : Marking) : Bool :=
  !(marking.numbers || marking.squeezes || marking.ends || marking.tabs || marking.control)

/-- A control byte, or another one below 128, with letters. -/
def caret (b : UInt8) : Bytes :=
  if b < 0x20 then [Byte.caret, b + 0x40] else if b = Byte.delete then [Byte.caret, Byte.question] else [b]

/-- How a byte inside of a line is shown. -/
def shown (marking : Marking) (b : UInt8) : Bytes :=
  if b = Byte.tab then if marking.tabs then caret b else [b]
  else if !marking.control then [b]
  else if b < 0x80 then caret b
  else ("M-" : Bytes) ++ caret (b - 0x80)

/-- The number in front of a line. -/
def label (progress : Progress) : Bytes := padded 6 progress.number ++ [Byte.tab]

/-- How the rest of a text is shown. -/
def render (marking : Marking) (progress : Progress) : Bytes → Bytes × Progress
  | [] => ([], progress)
  | b :: rest =>
    let isEnd := b == Byte.newline
    let isEmpty := isEnd && progress.atStart
    if isEmpty && marking.squeezes && progress.behindEmpty then marking.render progress rest
    else
      let labelled := progress.atStart && marking.numbers && !(isEmpty && marking.filledOnly)
      let front := if labelled then label progress else []
      let body := if isEnd then (if marking.ends then [Byte.dollar, b] else [b])
        else if b == Byte.carriageReturn && marking.ends && rest.head? == some Byte.newline then caret b
        else marking.shown b
      let next : Progress :=
        { number := if labelled then progress.number + 1 else progress.number
          atStart := isEnd, behindEmpty := isEmpty }
      let (others, last) := marking.render next rest
      (front ++ body ++ others, last)

end Marking

/-- Show files one after the other. -/
def cat (arguments : List Bytes) : Action Nat :=
  let known : Known :=
    { flags := "nbsETAetuv"
      long := [("number", 'n'), ("number-nonblank", 'b'), ("squeeze-blank", 's'), ("show-all", 'A'),
               ("show-ends", 'E'), ("show-tabs", 'T'), ("show-nonprinting", 'v')] }
  withOptions known arguments fun arguments => do
    if !(← get).isOpen 1 then
      complainAbout [] "standard output" .badDescriptor
      return 1
    let marking := Marking.ofArguments arguments
    let paths := sources arguments.operands
    let mut progress : Marking.Progress := {}
    let mut status := 0
    for path in paths do
      match ← contentOf path with
      | .error cause =>
        complainAbout [] (Text.Safe.shown path) cause
        status := 1
      | .ok content =>
        let (shown, next) := if marking.isPlain then (content, progress)
          else marking.render progress content
        progress := next
        if shown ≠ [] then
          match ← Process.write 1 shown with
          | .ok () => pure ()
          | .error cause =>
            complain (Bytes.ofString ("standard output: " ++ cause.text))
            status := 1
    if paths.contains dashName && !(← get).isOpen 0 then
      complainAbout [] "closing standard input" .badDescriptor
    return status

/-- Show the lines from the last to the first, behind what there is to say about files. -/
def tac (arguments : List Bytes) : Action Nat :=
  let known : Known :=
    { flags := "br", valued := "s", long := [("before", 'b'), ("regex", 'r'), ("separator", 's')] }
  withOptions known arguments fun arguments => do
    let mut shown := []
    let mut status := 0
    for path in sources arguments.operands do
      match ← contentOf path with
      | .ok content => shown := shown ++ (linesOf content).reverse.flatten
      | .error cause =>
        status := 1
        complainAbout "failed to open " (Text.Safe.quoted path ++ " for reading") cause
    emit shown status

/-- Turn every line around, behind what there is to say about files. A dash names a file like any other. -/
def rev (arguments : List Bytes) : Action Nat := do
  let program := (← get).program
  let shortName := (program.reverse.takeWhile (· ≠ Byte.slash)).reverse
  match ({} : Known).read {} arguments with
  | .error complaint => do
    complain complaint.text
    Process.say ("Try '" ++ shortName ++ " --help' for more information.")
    return 1
  | .ok arguments => do
    let mut shown := []
    let mut status := 0
    for path in arguments.operands do
      match ← Process.readFile path with
      | .ok content => shown := shown ++ turned content
      | .error cause =>
        status := 1
        Process.say (shortName ++ ": cannot open " ++ path ++ Bytes.ofString (": " ++ cause.text))
    if arguments.operands = [] then
      match ← Process.readAll 0 with
      | .ok content => shown := turned content
      | .error _ => pure ()
    let _ ← Process.write 1 shown
    return status
where
  /-- A text whose lines are turned around. -/
  turned (content : Bytes) : Bytes :=
    (linesOf content).flatMap fun line => (chomp line).reverse ++ line.drop (chomp line).length

/-- Copy the input to the output and to files. -/
def tee (arguments : List Bytes) : Action Nat :=
  let known : Known := { flags := "aip", long := [("append", 'a'), ("ignore-interrupts", 'i')] }
  withOptions known arguments fun arguments => do
    let opening := if arguments.has 'a' then Opening.append else .write
    let mut status := 0
    let mut channels := []
    for path in arguments.operands do
      match (← get).openFile path opening with
      | .ok (number, process) =>
        set process
        channels := channels ++ [number]
      | .error cause =>
        status := 1
        complainAbout [] (Text.Safe.shown path) cause
    let content := match ← Process.readAll 0 with
      | .ok content => content
      | .error _ => []
    if content ≠ [] then
      match ← Process.write 1 content with
      | .ok () => pure ()
      | .error cause =>
        status := 1
        complainAbout [] (Text.Safe.quoted "standard output") cause
    let before := (← get).descriptors
    for number in channels do
      modify fun p => p.attach 3 number
      let _ ← Process.write 3 content
    modify fun p => { p with descriptors := before }
    return status

/-! ## Front and back -/

/-- A count of lines or bytes; a sign in front changes what it means. -/
structure Count where
  number : Nat
  sign : Option UInt8 := none

/-- Read a count. -/
def Count.ofBytes? (bytes : Bytes) : Option Count :=
  match bytes with
  | [] => none
  | b :: rest =>
    if b = Byte.dash ∨ b = Byte.plus then
      (Integer.ofPlainDigits? rest).map fun number => { number, sign := some b }
    else (Integer.ofPlainDigits? bytes).map fun number => { number }

/-- Arguments where a number behind a sign counts lines. -/
def withOldCount (signs : String) (arguments : List Bytes) : List Bytes :=
  match arguments with
  | (sign :: digits) :: others =>
    if Byte.isOneOf sign signs && (Integer.ofPlainDigits? digits).isSome then
      let count := if sign = Byte.dash then digits else sign :: digits
      ("-n" : Bytes) :: count :: others
    else arguments
  | _ => arguments

/-- What is wrong with the value of an option that counts lines or bytes. -/
def countObjection? (letter : Char) (value : Bytes) : Option Complaint :=
  let what? : Option Bytes := match letter with
    | 'n' => if (Count.ofBytes? value).isNone then some "lines" else none
    | 'c' => if (Count.ofBytes? value).isNone then some "bytes" else none
    | 's' =>
      if value ≠ [] && value.all fun b => Byte.isDigit b || b == Byte.dot then none else some "seconds"
    | _ => none
  what?.map fun what =>
    { text := "invalid number of " ++ what ++ ": " ++ Text.Safe.literal value, offersHelp := false }

/-- What is counted, and how far. -/
def countOf (arguments : Arguments) : Bool × Count :=
  match arguments.options.reverse.find? fun option => option.1 == 'n' || option.1 == 'c' with
  | none => (true, { number := 10 })
  | some (letter, value) => (letter == 'n', (Count.ofBytes? value).getD { number := 10 })

/-- The front of a text. -/
def front (ofLines : Bool) (count : Count) (content : Bytes) : Bytes :=
  let units := if ofLines then linesOf content else content.map fun b => [b]
  let kept := if count.sign = some Byte.dash then units.length - count.number else count.number
  (units.take kept).flatten

/-- The back of a text. -/
def back (ofLines : Bool) (count : Count) (content : Bytes) : Bytes :=
  let units := if ofLines then linesOf content else content.map fun b => [b]
  let dropped := if count.sign = some Byte.plus then count.number - 1 else units.length - count.number
  (units.drop dropped).flatten

/-- The heading of a file among others. -/
def heading (position : Nat) (path : Path) : Bytes :=
  let shown : Bytes := if path = dashName then "standard input" else path
  (if position = 0 then ([] : Bytes) else [Byte.newline]) ++ "==> " ++ shown ++ " <==\n"

/-- Show a part of every file. The input is read only as far as it is shown, if that is possible. -/
def showParts (known : Known) (signs : String) (leavesRest : Bool)
    (part : Bool → Count → Bytes → Bytes) (arguments : List Bytes) : Action Nat :=
  withOptions known (withOldCount signs arguments) fun arguments => do
    let (ofLines, count) := countOf arguments
    let paths := sources arguments.operands
    let headed := (paths.length > 1 || arguments.has 'v') && !arguments.has 'q'
    let mut position := 0
    let mut status := 0
    for path in paths do
      let before ← get
      match ← contentOf path with
      | .error cause =>
        status := 1
        match cause with
        | .code 21 =>
          let title := if headed then heading position path else []
          let _ ← emit title
          position := position + 1
          complainAbout "error reading " (Text.Safe.quoted path) cause
        | _ => complainAbout "cannot open " (Text.Safe.quoted path ++ " for reading") cause
      | .ok content =>
        let chosen := part ofLines count content
        if path = dashName && leavesRest then
          match before.channel? 0 with
          | some (_, .file ..) => set (before.consume 0 chosen.length)
          | _ => pure ()
        let title := if headed then heading position path else []
        let printed ← emit (title ++ chosen)
        status := max status printed
        position := position + 1
    return status

/-- Show the front of files. -/
def head : List Bytes → Action Nat :=
  let known : Known :=
    { flags := "qvz", valued := "cn", objection? := countObjection?
      long := [("bytes", 'c'), ("lines", 'n'), ("quiet", 'q'), ("silent", 'q'), ("verbose", 'v'),
               ("zero-terminated", 'z')] }
  showParts known "-" true front

/-- Show the back of files. -/
def tail : List Bytes → Action Nat :=
  let known : Known :=
    { flags := "fFqvz", valued := "cns", objection? := countObjection?
      long := [("bytes", 'c'), ("lines", 'n'), ("quiet", 'q'), ("silent", 'q'), ("sleep-interval", 's'),
               ("verbose", 'v'), ("zero-terminated", 'z')] }
  showParts known "-+" false back

/-! ## Counting -/

/-- How many lines, words and bytes a text has. -/
def counts (content : Bytes) : List Nat :=
  let words := content.foldl
    (fun (count, inside) b =>
      if Integer.isSpace b then (count, false) else (if inside then count else count + 1, true))
    ((0, false) : Nat × Bool)
  let longest := (linesOf content).foldl (fun most line => max most (chomp line).length) 0
  [content.count Byte.newline, words.1, content.length, content.length, longest]

/-- How many bytes the file that a path names has; none if it is not a file whose size is known. -/
def sizeOf? (p : Process) (path : Path) : Option Nat :=
  if path = dashName then
    match p.channel? 0 with
    | some (_, .file location ..) => (p.files.find? location).map fun entry => entry.content.length
    | _ => none
  else
    match p.files.stat path with
    | .ok (.file content ..) => some content.length
    | .ok (.directory _) => none
    | .error _ => some 0

/-- Count the lines, words and bytes of files. -/
def wc (arguments : List Bytes) : Action Nat :=
  let letters := ['l', 'w', 'm', 'c', 'L']
  let known : Known :=
    { flags := "lwmcL"
      long := [("lines", 'l'), ("words", 'w'), ("chars", 'm'), ("bytes", 'c'),
               ("max-line-length", 'L')] }
  withOptions known arguments fun arguments => do
    let chosen := letters.filter arguments.has
    let chosen := if chosen = [] then ['l', 'w', 'c'] else chosen
    let paths := sources arguments.operands
    let p ← get
    let total : Option Nat := paths.foldlM (fun total path => (sizeOf? p path).map (total + ·)) 0
    let width := if paths.length = 1 && chosen.length = 1 then 1
      else total.elim 7 fun total => (Integer.toBytes total).length
    let row (numbers : List Nat) (path : Bytes) : Bytes :=
      let shown := (letters.zip numbers).filterMap fun (letter, number) =>
        if chosen.contains letter then some (padded width number) else none
      [Byte.space].intercalate shown
        ++ (if path = [] then [] else Byte.space :: path) ++ [Byte.newline]
    let mut status := 0
    let mut total := [0, 0, 0, 0, 0]
    for path in paths do
      if path = [] then
        status := 1
        complain "invalid zero-length file name"
        continue
      let outcome ← contentOf path
      match outcome with
      | .ok _ => pure ()
      | .error cause =>
        status := 1
        complainAbout [] (Text.Safe.shown path) cause
      let content? := match outcome with
        | .ok content => some content
        | .error .isDirectory => some []
        | .error _ => none
      match content? with
      | none => pure ()
      | some content =>
        let numbers := counts content
        let sums := (total.zip numbers).map fun (a, b) => a + b
        total := sums.dropLast ++ [max (total.getLastD 0) (numbers.getLastD 0)]
        let printed ← emit (row numbers (if arguments.operands = [] then [] else path))
        status := max status printed
    if paths.length > 1 then
      let printed ← emit (row total "total")
      status := max status printed
    return status

end ModuleMapper.Utility
