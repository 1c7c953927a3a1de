import ModuleMapper.FileSystem.Tree
import ModuleMapper.Host.Utility.Lines

/-!
# Utilities for files — making, removing, copying and listing them

  These utilities take paths, and go on with the next path when one cannot be dealt with.
-/

namespace ModuleMapper.Utility

open scoped Bytes

/-- Change the files, or say why that cannot be done. -/
def change (what path : Bytes) (attempt : FileSystem → Except SystemError FileSystem)
    (name : Bytes → Bytes := Text.Safe.quoted) : Action Bool := do
  match attempt (← get).files with
  | .ok files => do
    modify fun p => { p with files }
    return true
  | .error cause => do
    complainAbout what (name path) cause
    return false

/-- The last name of a path. -/
def lastName (path : Path) : Bytes := ((FileSystem.steps path).getLast?).getD [Byte.slash]

/-! ## Modes -/

/-- Are the bytes octal digits? -/
def isOctal (bytes : Bytes) : Bool := bytes ≠ [] && bytes.all Byte.isOctal

/-- Whether a file can be executed behind signs and permissions, given whether it could be before; for
    everyone or only for some. None if something else stands there. -/
def permitted? (everyone : Bool) : Nat → Bytes → Bool → Option Bool
  | 0, _, _ => none
  | _, [], before => some before
  | fuel + 1, sign :: rest, before =>
    let permissions := rest.takeWhile fun b => Byte.isOneOf b "rwxXstugo"
    let named := permissions.any fun b => Byte.isOneOf b "x"
    let after? := match Byte.char sign with
      | '+' => some (before || named)
      | '-' => some (before && !(named && everyone))
      | '=' => some (if everyone then named else before || named)
      | _ => none
    after?.bind (permitted? everyone fuel (rest.drop permissions.length))

/-- Whether a mode lets a file be executed, given whether it could be before; none if it is no mode. -/
def executableBy (mode : Bytes) (before : Bool) : Option Bool :=
  if isOctal mode then
    if mode.length > 5 then none else some (mode.any fun b => (b.toNat - 0x30) % 2 == 1)
  else
    (Bytes.splitAt Byte.comma mode).foldlM
      (fun before part =>
        let who := part.takeWhile fun b => Byte.isOneOf b "ugoa"
        let change := part.drop who.length
        let everyone := who.isEmpty || who.any fun b => Byte.isOneOf b "a"
        if change = [] then none else permitted? everyone (change.length + 1) change before)
      before

/-! ## Directories -/

/-- A path and the paths of the directories above it, from the top. -/
def withAncestors (path : Path) : List Path :=
  let names := path.names
  (List.range names.length).filterMap fun count =>
    let front := Path.ofNames (names.take (count + 1))
    if names[count]? = some [] then none else some front

/-- Create one directory, and say so if that is asked for. -/
def makeOne (announces : Bool) (path : Path) : Action Bool := do
  let made ← change "cannot create directory " path (·.makeDirectory path) Text.Safe.literal
  if made && announces then
    let program := (← get).program
    announce (program ++ ": created directory " ++ Text.Safe.quoted path ++ [Byte.newline])
  else return made

/-- Create a directory and those above it that are missing. -/
def makePath (announces : Bool) (path : Path) : Action Bool := do
  let paths := withAncestors path
  let mut fine := true
  for place in paths do
    if fine then
      let files := (← get).files
      if !files.isDirectory place then
        if files.holds place && place != paths.getLast?.getD [] then
          complainAbout "cannot create directory " (Text.Safe.literal place) .notDirectory
          fine := false
        else fine ← makeOne announces place
  return fine

/-- Create directories. -/
def mkdir (arguments : List Bytes) : Action Nat :=
  let known : Known :=
    { flags := "pvZ", valued := "m", long := [("mode", 'm'), ("parents", 'p'), ("verbose", 'v')] }
  withOptions known arguments fun arguments =>
    match arguments.operands, arguments.value? 'm' with
    | [], _ => refuse "missing operand"
    | operands, mode? => do
      let mode := mode?.getD "755"
      if (executableBy mode false).isNone then
        complain ("invalid mode " ++ Text.Safe.literal mode)
        return 1
      else
        let announces := arguments.has 'v'
        forEach operands fun path =>
          if arguments.has 'p' && path ≠ [] then makePath announces path
          else makeOne announces path

/-- Remove empty directories. -/
def rmdir (arguments : List Bytes) : Action Nat :=
  let known : Known := { flags := "pv", long := [("parents", 'p'), ("verbose", 'v')] }
  withOptions known arguments fun arguments =>
    if arguments.operands = [] then refuse "missing operand"
    else
      forEach arguments.operands fun path => do
        let paths := if arguments.has 'p' then (withAncestors path).reverse else [path]
        let mut fine := true
        for place in paths do
          if fine then
            if arguments.has 'v' then
              let _ ← announce
                ((← get).program ++ ": removing directory, " ++ Text.Safe.quoted place ++ "\n")
            let what := if place = path then "failed to remove " else "failed to remove directory "
            fine ← change what place (·.removeDirectory place)
        return fine

/-! ## Removing and touching -/

/-- The paths of what lies below a path, and the path itself, in the order in which they are removed. -/
def removalOrder (files : FileSystem) : Nat → Path → List Path
  | 0, path => [path]
  | fuel + 1, path =>
    match files.namesAt path with
    | .ok names => (names.flatMap fun name => removalOrder files fuel (path.join name)) ++ [path]
    | .error _ => [path]

/-- Say what has been removed. -/
def reportRemoval (before : FileSystem) (path : Path) : Action Bool :=
  let paths := removalOrder before (before.entries.length + 1) path
  let lines := paths.map fun path =>
    let what : Bytes := if before.isDirectory path then "removed directory " else "removed "
    what ++ Text.Safe.quoted path ++ [Byte.newline]
  announce lines.flatten

/-- Remove one file, or a directory with all that lies in it. -/
def removeOne (arguments : Arguments) (path : Path) : Action Bool := do
  let files := (← get).files
  let deep := arguments.has 'r' || arguments.has 'R'
  match files.lookup path with
  | .error cause => do
    if arguments.has 'f' && (cause = .notFound || cause = .notDirectory) then return true
    else
      complainAbout "cannot remove " (Text.Safe.quoted path) cause
      return false
  | .ok .adrift => return false
  | .ok (.entry location) =>
    let isDirectory := (files.find? location).any Entry.isDirectory
    if isDirectory && deep && FileSystem.endsInDots path then
      complain ("refusing to remove '.' or '..' directory: skipping " ++ Text.Safe.quoted path)
      return false
    else if isDirectory && deep then
      modify fun p => { p with files := files.removeAt location }
      return true
    else if isDirectory && arguments.has 'd' then
      change "cannot remove " path (·.removeDirectory path)
    else change "cannot remove " path (·.unlink path)

/-- Remove files. -/
def rm (arguments : List Bytes) : Action Nat :=
  let known : Known :=
    { flags := "dfirvIR"
      long := [("force", 'f'), ("interactive", 'i'), ("recursive", 'r'), ("dir", 'd'), ("verbose", 'v')] }
  withOptions known arguments fun arguments =>
    if arguments.operands = [] then
      if arguments.has 'f' then return 0 else refuse "missing operand"
    else
      forEach arguments.operands fun path => do
        let before := (← get).files
        let removed ← removeOne arguments path
        if removed && before.holds path && arguments.has 'v' then reportRemoval before path
        else return removed

/-- Set the time of files, and create those that are missing. -/
def touch (arguments : List Bytes) : Action Nat :=
  let known : Known :=
    { flags := "acfhm", valued := "drt"
      long := [("no-create", 'c'), ("date", 'd'), ("reference", 'r'), ("no-dereference", 'h')] }
  withOptions known arguments fun arguments =>
    if arguments.operands = [] then refuse "missing file operand"
    else
      forEach arguments.operands fun path => do
        let files := (← get).files
        let time := match (arguments.value? 'r').map files.stat with
          | some (.ok entry) => entry.modified
          | _ => files.now
        if path = dashName then return true
        else if files.holds path then
          modify fun p => { p with files := files.setTime path time }
          return true
        else if arguments.has 'c' then return true
        else if path.getLast? = some Byte.slash then do
          let cause := match files.stat path with
            | .error cause => cause
            | .ok _ => .notDirectory
          complainAbout "setting times of " (Text.Safe.quoted path) cause
          return false
        else
          change "cannot touch " path fun files =>
            match files.openFile path with
            | .ok (_, files) => .ok (files.setTime path time)
            | .error cause => .error cause

/-! ## Copying and moving -/

/-- A copy of a file, or of a directory with all that lies in it. -/
structure Copy where
  /-- The path that is copied, as the arguments name it. -/
  source : Path
  /-- Where it goes. -/
  target : Path
  /-- Does a copy have the time of what it is a copy of? -/
  preserves : Bool
  /-- Is every copy announced? -/
  announces : Bool

/-- How far a copy has got. -/
structure Progress where
  /-- The first directory that was made. It is never copied itself: that would have no end. -/
  made : Option Place := none
  /-- Did the copy come upon that directory? -/
  isAround : Bool := false
  /-- Did every step succeed? -/
  isFine : Bool := true

/-- The progress after a step that may have failed. -/
def Progress.after (progress : Progress) (fine : Bool) : Progress :=
  { progress with isFine := progress.isFine && fine }

/-- Say that one path becomes another. -/
def tellCopy (copy : Copy) (source target : Path) : Action Bool :=
  if copy.announces then
    announce (Text.Safe.quoted source ++ " -> " ++ Text.Safe.quoted target ++ "\n")
  else return true

/-- Say that two paths are one file. -/
def complainSame (source target : Path) : Action Bool := do
  complain (Text.Safe.quoted source ++ " and " ++ Text.Safe.quoted target ++ " are the same file")
  return false

/-- May an entry take a path, as far as what lies there is concerned? If not, say why. -/
def mayTake (source target : Path) (entry : Entry) : Action Bool := do
  match (← get).files.stat target, entry with
  | .error .notFound, _ => return true
  | .error cause, _ => do
    complainAbout "cannot stat " (Text.Safe.quoted target) cause
    return false
  | .ok (.file ..), .directory _ => do
    complain ("cannot overwrite non-directory " ++ Text.Safe.quoted target
      ++ " with directory " ++ Text.Safe.quoted source)
    return false
  | .ok (.directory _), .file .. => do
    complain ("cannot overwrite directory " ++ Text.Safe.quoted target ++ " with non-directory")
    return false
  | .ok _, _ => return true

/-- Copy a file to a path. -/
def copyFile (copy : Copy) (source target : Path) (entry : Entry) : Action Bool := do
  let files := (← get).files
  if (files.lookup source).toOption = (files.lookup target).toOption then
    complainSame source target
  else if !(← mayTake source target entry) then return false
  else
    let told ← tellCopy copy source target
    let fresh := !files.holds target
    let ready : Except SystemError (Location × FileSystem) :=
      if fresh && target.getLast? = some Byte.slash then .error .notDirectory
      else files.openFile target
    match ready, entry with
    | .error cause, _ => do
      complainAbout "cannot create regular file " (Text.Safe.quoted target) cause
      return false
    | .ok (location, files), .file content modified executable => do
      let files := files.modifyFile location fun _ => content
      let files := match fresh || copy.preserves, files.find? location with
        | true, some (.file content now _) =>
          files.put location
            (.file content (if copy.preserves then modified else now) executable)
        | _, _ => files
      modify fun p => { p with files }
      return told
    | .ok _, .directory _ => return false

/-- Make the directory that takes the copies of what lies in another. -/
def copyDirectory (copy : Copy) (source target : Path) (progress : Progress) :
    Action Progress := do
  if (← get).files.isDirectory target then return progress
  else if !(← change "cannot create directory " target (·.makeDirectory target)) then
    return progress.after false
  else
    let made := progress.made <|> ((← get).files.lookup target).toOption
    return { progress with made }.after (← tellCopy copy source target)

/-- Copy what lies at a path to another path. -/
def copyTree (copy : Copy) : Nat → Path → Path → Progress → Action Progress
  | 0, _, _, progress => return progress.after false
  | fuel + 1, source, target, progress => do
    let files := (← get).files
    match files.stat source with
    | .error cause => do
      complainAbout "cannot stat " (Text.Safe.quoted source) cause
      return progress.after false
    | .ok (.file content modified executable) =>
      return progress.after (← copyFile copy source target (.file content modified executable))
    | .ok (.directory modified) => do
      if progress.made.isSome && progress.made = (files.lookup source).toOption then
        complain ("cannot copy a directory, " ++ Text.Safe.quoted copy.source
          ++ ", into itself, " ++ Text.Safe.quoted copy.target)
        return { progress with isAround := true }.after false
      else if !(← mayTake source target (.directory modified)) then return progress.after false
      else
        let before := progress.isFine
        let progress ← copyDirectory copy source target { progress with isFine := true }
        if !progress.isFine then return progress
        else
          let names := ((← get).files.namesAt source).toOption.getD []
          let progress ← names.foldlM (fun progress name => do
              if progress.isAround then return progress
              else copyTree copy fuel (source.join name) (target.join name) progress) progress
          return { progress with isFine := before && progress.isFine }

/-- Where one of some files goes. -/
def destination (files : FileSystem) (flat : Bool) (source target : Path) : Path :=
  if files.isDirectory target && !flat then target.join (lastName source) else target

/-- Apply `move` to each source and its destination. -/
def toTarget (arguments : Arguments) (move : Path → Path → Action Bool) :
    Action Nat := do
  let operands := match arguments.value? 't' with
    | some target => arguments.operands ++ [target]
    | none => arguments.operands
  match operands.reverse with
  | [] => refuse "missing file operand"
  | [one] => refuse ("missing destination file operand after " ++ Text.Safe.quoted one)
  | target :: sources => do
    let files := (← get).files
    if sources.length > 1 && !files.isDirectory target then
      let cause := match files.stat target with
        | .error cause => cause
        | .ok _ => .notDirectory
      complainAbout "target " (Text.Safe.quoted target) cause
      return 1
    else
      forEach sources.reverse fun source => do
        let files := (← get).files
        match files.stat source with
        | .error cause => do
          complainAbout "cannot stat " (Text.Safe.quoted source) cause
          return false
        | .ok _ => move source (destination files (arguments.has 'T') source target)

/-- Copy files. -/
def cp (arguments : List Bytes) : Action Nat :=
  let known : Known :=
    { flags := "abdfHilLnprsuvxPRTZ", valued := "tS"
      long := [("archive", 'a'), ("force", 'f'), ("no-clobber", 'n'), ("no-target-directory", 'T'),
               ("recursive", 'R'), ("target-directory", 't'), ("verbose", 'v')] }
  withOptions known arguments fun arguments =>
    toTarget arguments fun source target => do
      let files := (← get).files
      let deep := "rRa".toList.any arguments.has
      let preserves := "pa".toList.any arguments.has
      if arguments.has 'n' && files.holds target then
        complain ("warning: behavior of -n is non-portable and may change in future; "
          ++ "use --update=none instead")
        return true
      else
        match files.stat source with
        | .error _ => return false
        | .ok entry => do
          if entry.isDirectory && !deep then
            complain ("-r not specified; omitting directory " ++ Text.Safe.quoted source)
            return false
          else
            let copy : Copy := { source, target, preserves, announces := arguments.has 'v' }
            return (← copyTree copy (files.entries.length + 2) source target {}).isFine

/-- Give files other paths. -/
def mv (arguments : List Bytes) : Action Nat :=
  let known : Known :=
    { flags := "bfinuvTZ", valued := "tS"
      long := [("force", 'f'), ("no-clobber", 'n'), ("no-target-directory", 'T'),
               ("target-directory", 't'), ("verbose", 'v')] }
  withOptions known arguments fun arguments =>
    toTarget arguments fun source target => do
      let files := (← get).files
      if arguments.has 'n' && files.holds target then
        complain ("not replacing " ++ Text.Safe.quoted target)
        return false
      else if (files.lookup source).toOption = (files.lookup target).toOption then
        complainSame source target
      else
        match files.stat source with
        | .error _ => return false
        | .ok entry => do
          if !(← mayTake source target entry) then return false
          else
            match files.rename source target with
            | .ok files => do
              modify fun p => { p with files }
              if arguments.has 'v' then
                announce ("renamed " ++ Text.Safe.quoted source ++ " -> "
                  ++ Text.Safe.quoted target ++ "\n")
              else return true
            | .error .invalidArgument => do
              complain ("cannot move " ++ Text.Safe.quoted source
                ++ " to a subdirectory of itself, " ++ Text.Safe.quoted target)
              return false
            | .error .notEmpty => do
              complainAbout "cannot overwrite " (Text.Safe.quoted target) .notEmpty
              return false
            | .error cause => do
              complainAbout ("cannot move " ++ Text.Safe.quoted source ++ " to ")
                (Text.Safe.quoted target) cause
              return false

/-! ## Listing -/

/-- A name as a listing shows it. -/
def listed (arguments : Arguments) (entry : Option Entry) (name : Bytes) : Bytes :=
  let mark : Bytes := match entry with
    | some (.directory _) => if arguments.has 'F' || arguments.has 'p' then "/" else ""
    | some (.file _ _ true) => if arguments.has 'F' then "*" else ""
    | _ => ""
  name ++ mark ++ [Byte.newline]

/-- Put names into the order that is asked for. -/
def inOrder (arguments : Arguments) (entryOf : Bytes → Option Entry) (names : List Bytes) :
    List Bytes :=
  let newer (a b : Bytes) : Bool :=
    match entryOf a, entryOf b with
    | some a, some b => !a.modified.before b.modified
    | _, _ => true
  let larger (a b : Bytes) : Bool :=
    match entryOf a, entryOf b with
    | some a, some b => b.content.length ≤ a.content.length
    | _, _ => true
  let sorted := names.mergeSort fun a b => decide (a ≤ b)
  let sorted := if arguments.has 't' then sorted.mergeSort newer
    else if arguments.has 'S' then sorted.mergeSort larger
    else sorted
  if arguments.has 'r' then sorted.reverse else sorted

/-- List directories, each behind the ones before it, and what lies below them if that is asked for. -/
def listDirectories (arguments : Arguments) (headed : Bool) :
    Nat → Bool → List Path → Action Bytes
  | 0, _, _ => return []
  | _, _, [] => return []
  | fuel + 1, first, path :: others => do
    let files := (← get).files
    let names := match files.namesAt path with
      | .ok names => names
      | .error _ => []
    let names := if arguments.has 'a' then Path.here :: Path.up :: names
      else if arguments.has 'A' then names
      else names.filter fun name => name.head? != some Byte.dot
    let entryOf (name : Bytes) : Option Entry := (Fixture.stat files (path.join name)).toOption
    let names := inOrder arguments entryOf names
    let shown := names.flatMap fun name => listed arguments (entryOf name) name
    let title := if headed then
        (if first then [] else [Byte.newline]) ++ path ++ (":\n" : Bytes)
      else []
    let below := if arguments.has 'R' then
        (names.filter fun name =>
          name != Path.here && name != Path.up && (entryOf name).any Entry.isDirectory).map path.join
      else []
    return title ++ shown ++ (← listDirectories arguments headed fuel false (below ++ others))

/-- List files and directories. -/
def ls (arguments : List Bytes) : Action Nat :=
  let known : Known :=
    { flags := "abcdfghiklmnopqrstuvxABCDFGHLNQRSUXZ1", valued := "wIT"
      long := [("all", 'a'), ("almost-all", 'A'), ("classify", 'F'), ("directory", 'd'), ("reverse", 'r'),
               ("recursive", 'R')] }
  let list (arguments : Arguments) : Action Nat := do
    let files := (← get).files
    let operands := if arguments.operands = [] then [Path.here] else arguments.operands
    let mut found := []
    let mut status := 0
    for path in operands do
      match Fixture.stat files path with
      | .ok _ => found := found ++ [path]
      | .error cause =>
        status := 2
        complainAbout "cannot access " (Text.Safe.quoted path) cause
    let entryOf (path : Bytes) : Option Entry := (Fixture.stat files path).toOption
    let sorted := inOrder arguments entryOf found
    let isListed (path : Path) : Bool := (entryOf path).any Entry.isDirectory && !arguments.has 'd'
    let plain := sorted.filter fun path => !isListed path
    let directories := sorted.filter isListed
    let shown := plain.flatMap fun path => listed arguments (entryOf path) path
    let headed := operands.length > 1 || arguments.has 'R'
    let below ← listDirectories arguments headed (files.entries.length + operands.length + 1)
      plain.isEmpty directories
    emit (shown ++ below) status 2
  withOptions known arguments list 2

/-! ## Permissions -/

/-- Say who may execute files. -/
def chmod (arguments : List Bytes) : Action Nat :=
  let run (mode : Bytes) (paths : List Bytes) : Action Nat :=
    if paths = [] then refuse ("missing operand after " ++ Text.Safe.literal mode)
    else if (executableBy mode false).isNone then
      refuse ("invalid mode: " ++ Text.Safe.literal mode)
    else
      forEach paths fun path => do
        let files := (← get).files
        match files.stat path with
        | .error cause => do
          complainAbout "cannot access " (Text.Safe.quoted path) cause
          return false
        | .ok entry => do
          let before := match entry with
            | .file _ _ executable => executable
            | .directory _ => true
          let after := (executableBy mode before).getD before
          change "changing permissions of " path (·.setExecutable path after)
  let modeLetters := "rwxXstugoa,+=01234567"
  let known : Known :=
    { flags := "Rcfv", attached := modeLetters
      long := [("changes", 'c'), ("recursive", 'R'), ("quiet", 'f'), ("silent", 'f'), ("verbose", 'v')] }
  withOptions known arguments fun arguments =>
    let modes := (arguments.options.filter fun option => modeLetters.toList.contains option.1).map
      fun option => Byte.dash :: option.1.toNat.toUInt8 :: option.2
    match modes, arguments.operands with
    | [], [] => refuse "missing operand"
    | [], mode :: paths => run mode paths
    | _, [] => refuse "missing operand"
    | modes, paths => run ([Byte.comma].intercalate modes) paths

end ModuleMapper.Utility
