import ModuleMapper.Host.Shell.Expansion
import ModuleMapper.Host.Shell.Session

/-!
# Redirections — where the descriptors of a command lead

  The words of redirections are expanded first. Then the redirections are made in order, and the first
  that fails stops the others. They are taken back when the command has ended.
-/

namespace ModuleMapper.Shell

open scoped Bytes
open Run

variable (evaluator : Evaluator)

/-- A redirection whose words have been expanded. -/
inductive Redirected where
  | file (descriptor : Nat) (opening : Opening) (path : Path)
  /-- To what another descriptor leads to; closed without one. -/
  | duplicate (descriptor : Nat) (target : Option Nat)
  | document (descriptor : Nat) (term : Term)

/-- A word stands for no descriptor. That is an error of the script, where its reading has come to. -/
def refuseDescriptor {α : Type} : Run α := do
  modify fun m => { m with line := m.lineRead }
  fail "Syntax error: Bad fd number"

/-- Expand the words of a redirection. -/
def expandRedirection : Redirection → Run Redirected
  | .file descriptor opening target => do
    return .file descriptor opening (← Expansion.value evaluator.capture target)
  | .document descriptor number => do
    return .document descriptor (((← get).documents.lookup number).getD [])
  | .duplicate descriptor target => do
    match ← Expansion.value evaluator.capture target with
    | [b] =>
      if Byte.isDigit b then return .duplicate descriptor (some (b - Byte.digitZero).toNat)
      else if b = Byte.dash then return .duplicate descriptor none
      else refuseDescriptor
    | _ => refuseDescriptor

/-- Why a file cannot be opened. -/
def openError (opening : Opening) (path : Path) (cause : SystemError) : Bytes :=
  let missing := cause = .notFound ∨ cause = .notDirectory
  match opening with
  | .read =>
    "cannot open " ++ path
      ++ Bytes.ofString (": " ++ if missing then "No such file" else cause.text)
  | _ =>
    "cannot create " ++ path
      ++ Bytes.ofString (": " ++ if missing then "Directory nonexistent" else cause.text)

/-- Make a redirection. -/
def redirect : Redirected → Run Unit
  | .file descriptor opening path => do
    let p := (← get).process
    let taken := opening = .write && (← hasOption 'C') && (Fixture.lookup? p.files path).isNone
      && p.files.holds path && !p.files.isDirectory path
    match if taken then .error .alreadyExists else p.openFile path opening with
    | .error cause => fail (openError opening path cause)
    | .ok (number, p) => modifyProcess fun _ => p.attach descriptor number
  | .duplicate descriptor none => modifyProcess fun p => p.close descriptor
  | .duplicate descriptor (some target) => do
    match (← get).process.descriptors.lookup target with
    | some number => modifyProcess fun p => p.attach descriptor number
    | none => fail (Bytes.ofString (toString target ++ ": " ++ SystemError.badDescriptor.text))
  | .document descriptor term => do
    let text ← Expansion.document evaluator.capture term
    modifyProcess fun p =>
      let (number, p) := p.addChannel (.pipe (.ofBytes text))
      p.attach descriptor number

/-- Make redirections, and report whether they could be made. -/
def redirectAll (redirections : List Redirected) : Run Bool := fun m =>
  match (redirections.forM (redirect evaluator)) m with
  | (.ok (), m) => (.ok true, m)
  | (.error .error, m) => (.ok false, m)
  | (.error stop, m) => (.error stop, m)

/-- Do something with redirections, which are taken back afterwards. Where they cannot be made,
    nothing is done. -/
def withRedirections (redirections : List Redirection) (action : Run Unit) : Run Unit := do
  let expanded ← redirections.mapM (expandRedirection evaluator)
  let before := (← get).process.descriptors
  afterwards (do if ← redirectAll evaluator expanded then action)
    fun m => { m with process.descriptors := before }

end ModuleMapper.Shell
