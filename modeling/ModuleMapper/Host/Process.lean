import ModuleMapper.Host.Fixture
import ModuleMapper.Host.Process.Channel
import ModuleMapper.Host.Signal

/-!
# Processes — what a running program sees

  A process has the files, descriptors that lead to channels, and variables. The files, the channels
  and what has been printed are shared by all processes; the rest is each one's own. A process that
  another starts begins with a copy of it, and leaves it as it was.
-/

namespace ModuleMapper

open scoped Bytes

/-- What a running program sees. -/
structure Process where
  files : FileSystem
  /-- The name that the program was started by. -/
  program : Bytes := []
  /-- What children have printed. -/
  printed : Queue := {}
  channels : Array Channel := #[.null, .printed]
  /-- The channels of the descriptors, by their numbers. -/
  descriptors : List (Nat × Nat) := [(0, 0), (1, 1), (2, 1)]
  environment : List (Bytes × Bytes) := []
  /-- The signals that the process has been started to ignore. -/
  ignored : List Nat := []

/-- What a process does. -/
abbrev Action := StateM Process

namespace Process

/-! ## Descriptors -/

/-- The channel of a descriptor. -/
def channel? (p : Process) (descriptor : Nat) : Option (Nat × Channel) := do
  let number ← p.descriptors.lookup descriptor
  let channel ← p.channels[number]?
  return (number, channel)

/-- Is something open under the descriptor? -/
def isOpen (p : Process) (descriptor : Nat) : Bool := (p.descriptors.lookup descriptor).isSome

/-- Lead a descriptor to a channel. -/
def attach (p : Process) (descriptor number : Nat) : Process :=
  { p with
    descriptors := (descriptor, number) :: p.descriptors.filter fun old => old.1 != descriptor }

/-- Close a descriptor. -/
def close (p : Process) (descriptor : Nat) : Process :=
  { p with descriptors := p.descriptors.filter fun old => old.1 != descriptor }

/-- Add a channel; with its number. -/
def addChannel (p : Process) (channel : Channel) : Nat × Process :=
  (p.channels.size, { p with channels := p.channels.push channel })

/-- Open the file at a location; with the number of its channel. -/
def openAt (p : Process) (location : Location) (opening : Opening) : Nat × Process :=
  let files := match opening with
    | .write | .overwrite => p.files.modifyFile location fun _ => []
    | _ => p.files
  { p with files }.addChannel (.file location 0 opening)

/-- Open what a descriptor leads to once more. A file is opened anew. -/
def reopen (p : Process) (descriptor : Nat) (opening : Opening) :
    Except SystemError (Nat × Process) :=
  match p.channel? descriptor with
  | none => .error .notFound
  | some (_, .file location ..) => .ok (p.openAt location opening)
  | some (number, .directory) => if opening = .read then .ok (number, p) else .error .isDirectory
  | some (number, _) => .ok (number, p)

/-- Open a file or a device; with the number of its channel. -/
def openFile (p : Process) (path : Path) (opening : Opening) : Except SystemError (Nat × Process) :=
  match Fixture.lookup? p.files path with
  | some (.error cause) => .error cause
  | some (.ok (.device .null)) => .ok (p.addChannel .null)
  | some (.ok (.device (.descriptor number))) => p.reopen number opening
  | some (.ok (.directory _)) =>
    if opening = .read then .ok (p.addChannel .directory) else .error .isDirectory
  | some (.ok fixture) =>
    if opening = .read then
      .ok (p.addChannel (.pipe (Queue.ofBytes (fixture.entry p.files.now).content)))
    else .error .textFileBusy
  | none =>
    if opening = .read then
      match p.files.lookup path with
      | .error cause => .error cause
      | .ok .adrift => .ok (p.addChannel .directory)
      | .ok (.entry location) =>
        match p.files.find? location with
        | some (.file ..) => .ok (p.openAt location opening)
        | _ => .ok (p.addChannel .directory)
    else
      match p.files.openFile path with
      | .error cause => .error cause
      | .ok (location, files) => .ok ({ p with files }.openAt location opening)

/-! ## Reading and writing -/

/-- Write to a descriptor. -/
def write (descriptor : Nat) (bytes : Bytes) : Action (Except SystemError Unit) := fun p =>
  match p.channel? descriptor with
  | none => (.error .badDescriptor, p)
  | some (number, channel) =>
    match channel with
    | .null => (.ok (), p)
    | .printed => (.ok (), { p with printed := p.printed.push bytes })
    | .directory => (.error .badDescriptor, p)
    | .pipe waiting =>
      (.ok (), { p with channels := p.channels.setIfInBounds number (.pipe (waiting.push bytes)) })
    | .file location offset opening =>
      if !opening.writes then (.error .badDescriptor, p)
      else if bytes = [] then (.ok (), p)
      else if opening = .append then
        (.ok (), { p with files := p.files.modifyFile location (· ++ bytes) })
      else
        let files := p.files.modifyFile location fun content =>
          Channel.overlay content offset bytes
        let moved := Channel.file location (offset + bytes.length) opening
        (.ok (), { p with files, channels := p.channels.setIfInBounds number moved })

/-- What could be read from a descriptor. -/
def input (p : Process) (descriptor : Nat) : Except SystemError Bytes :=
  match p.channel? descriptor with
  | none => .error .badDescriptor
  | some (_, .null) => .ok []
  | some (_, .printed) => .ok []
  | some (_, .directory) => .error .isDirectory
  | some (_, .pipe waiting) => .ok waiting.toBytes
  | some (_, .file location offset opening) =>
    if opening.reads then .ok (((p.files.find? location).elim [] Entry.content).drop offset)
    else .error .badDescriptor

/-- Go on behind bytes that were read. -/
def consume (p : Process) (descriptor count : Nat) : Process :=
  match p.channel? descriptor with
  | some (number, .pipe waiting) =>
    { p with channels := p.channels.setIfInBounds number (.pipe (waiting.drop count)) }
  | some (number, .file location offset opening) =>
    { p with channels := p.channels.setIfInBounds number (.file location (offset + count) opening) }
  | _ => p

/-- Read all that is left. -/
def readAll (descriptor : Nat) : Action (Except SystemError Bytes) := fun p =>
  match p.input descriptor with
  | .error cause => (.error cause, p)
  | .ok bytes => (.ok bytes, p.consume descriptor bytes.length)

/-- Read a line with its end, if it has one. -/
def readLine (descriptor : Nat) : Action (Except SystemError Bytes) := fun p =>
  match p.input descriptor with
  | .error cause => (.error cause, p)
  | .ok bytes =>
    let text := bytes.takeWhile (· ≠ Byte.newline)
    let line := bytes.take (text.length + 1)
    (.ok line, p.consume descriptor line.length)

/-- All that can be read from a path. -/
def readFile (path : Path) : Action (Except SystemError Bytes) := fun p =>
  match Fixture.lookup? p.files path with
  | none => (p.files.contentOf path, p)
  | some (.error cause) => (.error cause, p)
  | some (.ok (.directory _)) => (.error .isDirectory, p)
  | some (.ok (.device (.descriptor number))) =>
    match p.channel? number with
    | none => (.error .notFound, p)
    | some (_, .file location ..) => (.ok ((p.files.find? location).elim [] Entry.content), p)
    | some _ => readAll number p
  | some (.ok fixture) => (.ok (fixture.entry p.files.now).content, p)

/-! ## Processes that others start -/

/-- A process as it was, with what all processes share as another has left it. -/
def resume (before after : Process) : Process :=
  let own := before.files
  let gone := (after.files.find? own.workingDir).isNone && (Fixture.find? own.workingDir).isNone
  { before with
    files := { after.files with workingDir := own.workingDir, adrift := own.adrift || gone }
    printed := after.printed
    channels := after.channels }

/-- Do something in a process of its own. -/
def apart {α : Type} (action : Action α) : Action α := fun before =>
  let (result, after) := action before
  (result, resume before after)

/-! ## Diagnostics -/

/-- Say something on the descriptor for diagnostics. -/
def say (text : Bytes) : Action Unit := do
  let _ ← write 2 (text ++ [Byte.newline])

end Process

end ModuleMapper
