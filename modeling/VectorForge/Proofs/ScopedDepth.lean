import VectorForge.Proofs.Relocation

/-! Steps that put a body one level deeper. However the body moves the level, and wherever it is
left, the level of the entry comes back, the step reports what the body reports, and the body
adds what it would add on that level to any other text. -/

namespace VectorForge.Proofs.ScopedDepth
open Relocation

def indented (body : Program) : Program := .scoped .indented false body .done

/-- A run that begins without any text. -/
def alone (program : Program) (depth : Nat) (region : Option String) : Outcome :=
  program.run { depth, region }

/-- What follows a step in a program: the rest, unless the step failed and nothing catches it. -/
def resumed (guarded : Bool) (rest : Program) (step : Outcome) : Outcome :=
  match step.result, guarded with
  | .error _, false => step
  | _, _ =>
    let after := rest.run step.writer
    { after with trace := step.trace ++ after.trace }

/-- The step that is over has `added` these lines to the text before it and brought the level
back. All else is as `inner`, the run of its body, left it. -/
structure Returns (before : Writer) (inner : Outcome) (added : List Line) (step : Outcome) :
    Prop where
  depth : step.writer.depth = before.depth
  result : step.result = inner.result
  region : step.writer.region = inner.writer.region
  lines : step.writer.lines = before.lines ++ added
  text : ∀ style : Style,
    style.layout step.writer.lines = style.layout before.lines ++ style.layout added

/-- The lines of a block around a body that ran one level deeper. The closing brace follows only
a body that succeeded. -/
def blockLines (depth : Nat) (ending : String) (inner : Outcome) : List Line :=
  ⟨depth, "\x7b", 1⟩ :: inner.writer.lines ++
    match inner.result with
    | .ok _ => [⟨depth, "\x7d" ++ ending, 1⟩]
    | .error _ => []

variable {before start : Writer} {inner step : Outcome} {added : List Line}

theorem run_scoped (body : Program) {scope : Scope} (entered : scope.enter before = .ok start) :
    ((Program.scoped scope false body .done).run before).result =
        (scope.leave before (body.run start).result (body.run start).writer).1 ∧
      ((Program.scoped scope false body .done).run before).writer =
        (scope.leave before (body.run start).result (body.run start).writer).2 := by
  rcases ended : scope.leave before (body.run start).result (body.run start).writer with
    ⟨result, next⟩
  cases result <;> simp [Program.run, entered, ended]

/-- A step that holds a body does the same wherever it stands in a program. -/
theorem run_resumed (scope : Scope) (guarded : Bool) (body rest : Program) (before : Writer) :
    (Program.scoped scope guarded body rest).run before =
      resumed guarded rest ((Program.scoped scope false body .done).run before) := by
  cases entered : scope.enter before with
  | error fault => cases guarded <;> simp [Program.run, entered, resumed]
  | ok start =>
    rcases ended : scope.leave before (body.run start).result (body.run start).writer with
      ⟨result, next⟩
    cases result with
    | ok value => simp [Program.run, entered, ended, resumed]
    | error fault => cases guarded <;> simp [Program.run, entered, ended, resumed]

/-- What stands before a program has no part in what it reports and adds. -/
theorem run_behind (body : Program) (lines : List Line) (depth : Nat) (region : Option String) :
    (body.run ⟨lines, depth, region⟩).result = (alone body depth region).result ∧
      (body.run ⟨lines, depth, region⟩).writer =
        { (alone body depth region).writer with
          lines := lines ++ (alone body depth region).writer.lines } := by
  have level : Line.deepen 0 = id := rfl
  rw [run_emptied body ⟨lines, depth, region⟩]
  simp [movedOutcome, moved, level, alone, emptied]

theorem Returns.of_writer (result : step.result = inner.result)
    (writer : step.writer = ⟨before.lines ++ added, before.depth, inner.writer.region⟩) :
    Returns before inner added step where
  depth := by rw [writer]
  result := result
  region := by rw [writer]
  lines := by rw [writer]
  text style := by
    rw [writer]
    exact Style.layout_append ..

theorem indented_returns (body : Program) (before : Writer) :
    Returns before (alone body (before.depth + 1) before.region)
      (alone body (before.depth + 1) before.region).writer.lines ((indented body).run before) := by
  have entered : Scope.indented.enter before =
      .ok ⟨before.lines, before.depth + 1, before.region⟩ := rfl
  obtain ⟨reported, left⟩ := run_scoped body entered
  obtain ⟨result, writer⟩ := run_behind body before.lines (before.depth + 1) before.region
  rw [result, writer] at reported left
  exact Returns.of_writer reported left

theorem block_returns (body : Program) (before : Writer) (ending : String) :
    Returns before (alone body (before.depth + 1) before.region)
      (blockLines before.depth ending (alone body (before.depth + 1) before.region))
      ((Program.block body ending).run before) := by
  have entered : (Scope.block ending).enter before =
      .ok ⟨before.lines ++ [⟨before.depth, "\x7b", 1⟩], before.depth + 1, before.region⟩ := rfl
  obtain ⟨reported, left⟩ := run_scoped body entered
  obtain ⟨result, writer⟩ := run_behind body
    (before.lines ++ [⟨before.depth, "\x7b", 1⟩]) (before.depth + 1) before.region
  rw [result, writer] at reported left
  cases ended : (alone body (before.depth + 1) before.region).result with
  | ok _ | error _ =>
    rw [ended] at reported left
    apply Returns.of_writer
    · exact reported.trans ended.symm
    · rw [Program.block, left]
      simp [Scope.leave, Writer.write, blockLines, ended]

/-- Wherever in a program the two steps stand and whatever their body does, they return on the
level on which they were entered. What they add is what the body adds one level deeper, to any
text, and for a block its braces on the level of the entry. -/
theorem scopes_keep_depth (body : Program) (before : Writer) (ending : String) :
    let inner := alone body (before.depth + 1) before.region
    (∀ lines : List Line,
      (body.run ⟨lines, before.depth + 1, before.region⟩).result = inner.result ∧
        (body.run ⟨lines, before.depth + 1, before.region⟩).writer.lines =
          lines ++ inner.writer.lines) ∧
    Returns before inner inner.writer.lines ((indented body).run before) ∧
    Returns before inner (blockLines before.depth ending inner)
      ((Program.block body ending).run before) ∧
    ∀ (guarded : Bool) (rest : Program),
      (Program.scoped .indented guarded body rest).run before =
          resumed guarded rest ((indented body).run before) ∧
        (Program.scoped (.block ending) guarded body rest).run before =
          resumed guarded rest ((Program.block body ending).run before) := by
  intro inner
  refine ⟨?_, indented_returns body before, block_returns body before ending, ?_⟩
  · intro lines
    obtain ⟨result, writer⟩ := run_behind body lines (before.depth + 1) before.region
    exact ⟨result, congrArg Writer.lines writer⟩
  · intro guarded rest
    exact ⟨run_resumed .indented guarded body rest before,
      run_resumed (.block ending) guarded body rest before⟩

/-- A body that goes out below the level of its block and fails inside another scope. -/
example :
    let body : Program := indented (.act .unindent false <| .act .unindent false <|
      .act (.write "a" 1) false <| .act (.fail .noOpenRegion) false .done)
    ((Program.block body ";").run { depth := 1 }).writer =
      { lines := [⟨1, "\x7b", 1⟩, ⟨1, "a", 1⟩], depth := 1 } := rfl

end VectorForge.Proofs.ScopedDepth
