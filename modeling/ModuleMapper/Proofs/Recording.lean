import ModuleMapper.Workspace

/-!
# Recording — which calls of a compiler are made

  Any compiler can be made to record its calls: it then keeps them in a list beside what it keeps for itself,
  and does everything else as before (`Compiler.recording`).  So the calls that an import makes are those that
  it leaves on the record, when its mapper works with the recording compiler (`Mapper.Calls`).

  The journal of a workspace has an entry for each of them.  An entry says what the compiler was called
  with and what came of it, and is made from the call itself (`Compiler.entry`).
-/

namespace ModuleMapper

variable {σ : Type}

/-- What a compiler is called with. -/
structure Compiler.Call (σ : Type) where
  name : String
  invocation : Invocation
  /-- What the compiler keeps for itself by then. -/
  state : σ
  files : FileSystem

namespace Compiler

/-- What a compiler makes of a call. -/
def answer (compiler : Compiler σ) (call : Call σ) : Except Failure Unit × σ × FileSystem :=
  compiler.compile call.name call.invocation call.state call.files

/-- What a journal says of a call. -/
def entry (compiler : Compiler σ) (call : Call σ) : Compilation where
  name := call.name
  invocation := call.invocation
  failure := match (compiler.answer call).1 with
    | .ok () => none
    | .error failure => some failure

/-- The same compiler, with a record of its calls. -/
def recording (compiler : Compiler σ) : Compiler (σ × List (Call σ)) where
  compile name invocation kept files :=
    let call : Call σ := ⟨name, invocation, kept.1, files⟩
    let answered := compiler.answer call
    (answered.1, (answered.2.1, kept.2 ++ [call]), answered.2.2)

end Compiler

/-- The same workspace, with some calls on the record. -/
def Workspace.recording (w : Workspace σ) (calls : List (Compiler.Call σ)) :
    Workspace (σ × List (Compiler.Call σ)) where
  files := w.files
  compilerState := (w.compilerState, calls)
  journal := w.journal

/-- The same mapper, with a compiler that records its calls. -/
def Mapper.recording (mapper : Mapper σ) : Mapper (σ × List (Compiler.Call σ)) where
  settings := mapper.settings
  compiler := mapper.compiler.recording

namespace Workspace

variable (w : Workspace σ) (compiler : Compiler σ) (name : String) (invocation : Invocation)

/-- What the compiler is called with when a workspace compiles. -/
def call : Compiler.Call σ := ⟨name, invocation, w.compilerState, w.files⟩

/-- Compiling succeeds as the call does. -/
theorem fst_compile : (w.compile compiler name invocation).1
    = (compiler.answer (w.call name invocation)).1 := by
  show _ = (compiler.compile name invocation w.compilerState w.files).1
  rw [compile]
  split
  · next h => rw [h]
  · next h => rw [h]

/-- **Compiling is one call**, and is noted as such. -/
theorem noted_compile : (w.compile compiler name invocation).2.journal
    = w.journal ++ [compiler.entry (w.call name invocation)] := by
  rw [Compiler.entry, Compiler.answer, compile]
  simp only [call]
  split
  · next h => rw [h]
  · next h => rw [h]

/-- The record gets that call, and nothing else changes by it. -/
theorem compile_recording (calls : List (Compiler.Call σ)) :
    (w.recording calls).compile compiler.recording name invocation
      = ((w.compile compiler name invocation).1,
        (w.compile compiler name invocation).2.recording (calls ++ [w.call name invocation])) := by
  -- the recording compiler makes the same call, and keeps it
  have hanswer : compiler.recording.compile name invocation (w.recording calls).compilerState
        (w.recording calls).files
      = ((compiler.compile name invocation w.compilerState w.files).1,
        ((compiler.compile name invocation w.compilerState w.files).2.1,
          calls ++ [w.call name invocation]),
        (compiler.compile name invocation w.compilerState w.files).2.2) := rfl
  rw [compile, compile, hanswer]
  obtain ⟨outcome, state, files⟩ := compiler.compile name invocation w.compilerState w.files
  cases outcome with
  | ok done => rfl
  | error failure => rfl

end Workspace

/-- **The calls of the compiler that an import makes.** -/
structure Mapper.Calls (mapper : Mapper σ) (client : Client) (name : Word) (w : Workspace σ)
    (made : List (Compiler.Call σ)) : Prop where
  /-- They are added to the record, and the import goes as it does without one. -/
  recorded : ∀ earlier, mapper.recording.importModule client name (w.recording earlier)
    = ((mapper.importModule client name w).1,
      (mapper.importModule client name w).2.recording (earlier ++ made))
  /-- The journal gets an entry for each. -/
  noted : (mapper.importModule client name w).2.journal = w.journal ++ made.map mapper.compiler.entry

end ModuleMapper
