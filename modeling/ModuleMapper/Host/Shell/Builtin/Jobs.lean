import ModuleMapper.Host.Shell.Builtin.Arguments

/-!
# Jobs — commands in the background

  A job is named by its place behind a percent sign. The current job is the last one that was started,
  the previous job the one before. Nobody can bring a job to the foreground.
-/

namespace ModuleMapper.Shell.Builtin.Jobs

open scoped Bytes
open Run

/-- The job at an index of the list, or why there is none. -/
def atIndex (index : Nat) (complaint : Bytes) : Run Job := do
  match (← get).jobs[index]? with
  | some job => return job
  | none => fail complaint

/-- The current job. -/
def current : Run Job := atIndex 0 "No current job"

/-- The job that a word names. -/
def find (word : Bytes) : Run Job := do
  let unknown : Bytes := "No such job: " ++ word
  match word with
  | [] => fail unknown
  | sign :: name =>
    if sign ≠ Byte.percent then fail unknown
    else if name = [] ∨ name = ("+" : Bytes) ∨ name = ("%" : Bytes) then current
    else if name = ("-" : Bytes) then atIndex 1 "No previous job"
    else
      match Integer.ofPlainDigits? name with
      | none => fail unknown
      | some place =>
        match (← get).jobs.find? fun job => job.place == place with
        | some job => return job
        | none => fail unknown

/-- Mark jobs as waited for. -/
def markWaited (chosen : Job → Bool) : Run Unit :=
  modify fun m =>
    { m with jobs := m.jobs.map fun job => if chosen job then { job with waited := true } else job }

/-- Wait for jobs; they have ended already. -/
def wait (arguments : List Bytes) : Run Nat := do
  let (_, operands) ← options "" arguments
  if operands = [] then markWaited fun _ => true
  let mut status := 0
  for operand in operands do
    let found ←
      if operand.head? = some Byte.percent then some <$> find operand
      else do
        let process ← number operand
        pure ((← get).jobs.find? fun job => job.process == process)
    match found with
    | none => status := 127
    | some found =>
      status := found.ending.status
      if !found.waited then report found.ending
      markWaited (· == found)
  return status

/-! ## Showing -/

/-- The width of the column with the states of jobs. -/
def width : Nat := 33

/-- A job as it is shown. -/
def row (letters : List Char) (sign : String) (job : Job) : Bytes :=
  if letters.contains 'p' then Bytes.ofString (toString job.process ++ "\n")
  else
    let state :=
      if !job.waited then "Running"
      else
        match job.ending with
        | .killed signal => Signal.describe signal
        | .exited 0 => "Done"
        | .exited status => "Done(" ++ toString status ++ ")"
    let front := "[" ++ toString job.place ++ "] " ++ sign ++ " "
      ++ (if letters.contains 'l' then toString job.process ++ " " else "") ++ state
    let others := String.join (List.replicate (job.size - 1) " | ")
    Bytes.ofString (front.pushn ' ' (width - front.length) ++ others ++ "\n")

/-- The sign in front of the state of a job. -/
def signOf (jobs : List Job) (job : Job) : String :=
  if jobs.head? = some job then "+" else if jobs[1]? = some job then "-" else " "

/-- Show a job. One that has been waited for is forgotten. -/
def describe (letters : List Char) (job : Job) : Run Bytes :=
  modifyGet fun m =>
    let kept := if job.waited then m.jobs.filter (· ≠ job) else m.jobs
    (row letters (signOf m.jobs job) job, { m with jobs := kept })

/-- Show jobs. -/
def list (arguments : List Bytes) : Run Nat := do
  let (letters, operands) ← options "lp" arguments
  let jobs := (← get).jobs
  let shown ←
    if operands = [] then jobs.mapM (describe letters)
    else operands.mapM fun operand => do
      let job ← find operand
      describe letters job
  put shown.flatten

/-- Bring a job to the foreground, or let it go on in the background. -/
def goOn (arguments : List Bytes) : Run Nat := do
  match arguments with
  | [] => do
    let _ ← current
    fail "job (null) not created under job control"
  | word :: _ => do
    let _ ← find word
    fail ("job " ++ word ++ (" not created under job control" : Bytes))

end ModuleMapper.Shell.Builtin.Jobs
