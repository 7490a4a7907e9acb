import Mathlib.Data.List.Forall2
import VectorForge.Program

/-! Where a program runs does not matter for what it does. Text from before is never looked at,
and a run that never unindents too far does the same on a deeper level, with all it writes
standing deeper by as much. -/

namespace VectorForge.Proofs.Relocation

/-- All actions in a program, those in the bodies of its scopes too. -/
def actions : Program → List Action
  | .done => []
  | .act action _ rest => action :: actions rest
  | .scoped _ _ body rest => actions body ++ actions rest

/-- No step that goes one level out was asked to leave the outermost one. -/
def NeverUnderflows (trace : List Entry) : Prop :=
  ∀ entry ∈ trace, entry.step = .inl .unindent → entry.result ≠ .error .indentUnderflow

section Moved
variable (earlier : List Line) (levels : Nat)

/-- The same state, behind earlier text and this many levels deeper. -/
def moved (writer : Writer) : Writer where
  lines := earlier ++ writer.lines.map (Line.deepen levels)
  depth := writer.depth + levels
  region := writer.region

def movedEntry (entry : Entry) : Entry := { entry with writer := moved earlier levels entry.writer }

def movedOutcome (outcome : Outcome) : Outcome where
  result := outcome.result
  writer := moved earlier levels outcome.writer
  trace := outcome.trace.map (movedEntry earlier levels)

/-- What a program must not do where its level is to change: ask whether the text could end,
or unindent too far. -/
def Free (program : Program) (writer : Writer) : Prop :=
  levels = 0 ∨ .check ∉ actions program ∧ NeverUnderflows (program.run writer).trace

variable {earlier levels} {writer next : Writer}

theorem moved_write (text : String) (breaks : Nat) :
    (moved earlier levels writer).write text breaks =
      moved earlier levels (writer.write text breaks) := by
  simp [moved, Writer.write, Line.deepen]

theorem moved_append (lines : List Line) :
    (moved earlier levels writer).append lines = moved earlier levels (writer.append lines) := by
  have deeper : Line.deepen (writer.depth + levels) =
      Line.deepen levels ∘ Line.deepen writer.depth := by
    funext line
    simp [Line.deepen, Nat.add_assoc]
  simp [moved, Writer.append, deeper]

theorem moved_indent :
    (moved earlier levels writer).indent = moved earlier levels writer.indent := by
  simp only [moved, Writer.indent, Nat.add_right_comm]

theorem moved_openRegion (name : String) :
    (moved earlier levels writer).openRegion name =
      (writer.openRegion name).map (moved earlier levels) := by
  cases opened : writer.region with
  | some other =>
    have there : (moved earlier levels writer).region = some other := opened
    simp only [Writer.openRegion, opened, there, Except.map]
  | none =>
    have there : (moved earlier levels writer).region = none := opened
    simp only [Writer.openRegion, opened, there, Except.map, moved_write]
    rfl

theorem moved_closeRegion :
    (moved earlier levels writer).closeRegion = writer.closeRegion.map (moved earlier levels) := by
  cases opened : writer.region with
  | none =>
    have there : (moved earlier levels writer).region = none := opened
    simp only [Writer.closeRegion, opened, there, Except.map]
  | some name =>
    have there : (moved earlier levels writer).region = some name := opened
    simp only [Writer.closeRegion, opened, there, Except.map, moved_write]
    rfl

theorem moved_unindent (free : levels = 0 ∨ writer.unindent ≠ .error .indentUnderflow) :
    (moved earlier levels writer).unindent = writer.unindent.map (moved earlier levels) := by
  cases deep : writer.depth with
  | succ depth =>
    have there : (moved earlier levels writer).depth = (depth + levels) + 1 := by
      simp only [moved, deep]
      omega
    simp only [Writer.unindent, deep, there, Except.map]
    rfl
  | zero =>
    rcases free with rfl | kept
    · have there : (moved earlier 0 writer).depth = 0 := deep
      simp only [Writer.unindent, deep, there, Except.map]
    · simp [Writer.unindent, deep] at kept

theorem moved_check (earlier : List Line) :
    (moved earlier 0 writer).finish.map (fun _ => moved earlier 0 writer) =
      (writer.finish.map fun _ => writer).map (moved earlier 0) := by
  obtain ⟨lines, depth, region⟩ := writer
  cases depth <;> cases region <;> rfl

theorem moved_perform {action : Action}
    (free : levels = 0 ∨ action ≠ .check ∧
      (action = .unindent → action.perform writer ≠ .error .indentUnderflow)) :
    action.perform (moved earlier levels writer) =
      (action.perform writer).map (moved earlier levels) := by
  cases action with
  | write text breaks => exact congrArg Except.ok (moved_write text breaks)
  | member | spread | insert => exact congrArg Except.ok (moved_append _)
  | indent => exact congrArg Except.ok moved_indent
  | openRegion name => exact moved_openRegion name
  | closeRegion => exact moved_closeRegion
  | fail fault => rfl
  | unindent => exact moved_unindent (free.imp_right fun kept => kept.2 rfl)
  | check =>
    rcases free with rfl | ⟨kept, -⟩
    · exact moved_check earlier
    · contradiction

theorem moved_enter (scope : Scope) :
    scope.enter (moved earlier levels writer) =
      (scope.enter writer).map (moved earlier levels) := by
  cases scope with
  | indented => exact congrArg Except.ok moved_indent
  | block ending =>
    simp only [Scope.enter, moved_write, moved_indent]
    rfl
  | region name => exact moved_openRegion name

/-- A scope that is left restores the depth from where it was entered, which has moved too. -/
theorem moved_leave (scope : Scope) (outside inside : Writer) (result : Except Fault Unit) :
    scope.leave (moved earlier levels outside) result (moved earlier levels inside) =
      ((scope.leave outside result inside).1,
        moved earlier levels (scope.leave outside result inside).2) := by
  cases scope with
  | indented => rfl
  | block ending =>
    cases result with
    | error fault => rfl
    | ok value =>
      exact congrArg (Prod.mk _) (@moved_write _ _ { inside with depth := outside.depth } _ _)
  | region name =>
    simp only [Scope.leave, moved_closeRegion]
    cases inside.closeRegion <;> rfl

theorem Free.part {program part : Program} {state : Writer} (free : Free levels program writer)
    (fewer : actions part ⊆ actions program)
    (shorter : (part.run state).trace ⊆ (program.run writer).trace) : Free levels part state := by
  rcases free with same | ⟨unasked, kept⟩
  · exact .inl same
  · exact .inr ⟨fun asked => unasked (fewer asked), fun entry member => kept entry (shorter member)⟩

theorem Free.action {action : Action} {guarded : Bool} {rest : Program}
    (free : Free levels (.act action guarded rest) writer) :
    levels = 0 ∨ action ≠ .check ∧
      (action = .unindent → action.perform writer ≠ .error .indentUnderflow) := by
  rcases free with same | ⟨unasked, kept⟩
  · exact .inl same
  · refine .inr ⟨?_, ?_⟩
    · rintro rfl
      exact unasked (List.mem_cons_self ..)
    · rintro rfl failed
      have told : ⟨.inl .unindent, .error .indentUnderflow, writer⟩ ∈
          ((Program.act .unindent guarded rest).run writer).trace := by
        cases guarded <;> simp [Program.run, failed]
      exact kept _ told rfl rfl

theorem run_moved {program : Program} (free : Free levels program writer) :
    program.run (moved earlier levels writer) =
      movedOutcome earlier levels (program.run writer) := by
  induction program generalizing writer with
  | done => rfl
  | act action guarded rest ih =>
    have step := @moved_perform earlier levels writer action free.action
    have fewer : actions rest ⊆ actions (.act action guarded rest) := List.subset_cons_self ..
    cases performed : action.perform writer with
    | ok next =>
      have onward : Free levels rest next := free.part fewer (by simp [Program.run, performed])
      rw [performed] at step
      simp only [Program.run, step, performed, Except.map, ih onward]
      rfl
    | error fault =>
      rw [performed] at step
      cases guarded with
      | false =>
        simp only [Program.run, step, performed, Except.map]
        rfl
      | true =>
        have onward : Free levels rest writer := free.part fewer (by simp [Program.run, performed])
        simp only [Program.run, step, performed, Except.map, ih onward]
        rfl
  | «scoped» scope guarded body rest bodyMoved ih =>
    have step := @moved_enter earlier levels writer scope
    have fewer : actions rest ⊆ actions (.scoped scope guarded body rest) :=
      List.subset_append_right ..
    have inner : actions body ⊆ actions (.scoped scope guarded body rest) :=
      List.subset_append_left ..
    cases entered : scope.enter writer with
    | error fault =>
      rw [entered] at step
      cases guarded with
      | false =>
        simp only [Program.run, step, entered, Except.map]
        rfl
      | true =>
        have onward : Free levels rest writer := free.part fewer (by simp [Program.run, entered])
        simp only [Program.run, step, entered, Except.map, ih onward]
        rfl
    | ok start =>
      rw [entered] at step
      have left := @moved_leave earlier levels scope writer (body.run start).writer
        (body.run start).result
      rcases ended : scope.leave writer (body.run start).result (body.run start).writer with
        ⟨result, next⟩
      rw [ended] at left
      have within : Free levels body start := free.part inner fun entry member => by
        simp only [Program.run, entered, ended]
        cases result <;> cases guarded <;> simp [member]
      cases result with
      | ok value =>
        have onward : Free levels rest next :=
          free.part fewer (by simp [Program.run, entered, ended])
        simp only [Program.run, step, entered, ended, Except.map, bodyMoved within, movedOutcome,
          left, ih onward]
        simp [movedEntry]
      | error fault =>
        cases guarded with
        | false =>
          simp only [Program.run, step, entered, ended, Except.map, bodyMoved within, movedOutcome,
            left]
          simp [movedEntry]
        | true =>
          have onward : Free levels rest next :=
            free.part fewer (by simp [Program.run, entered, ended])
          simp only [Program.run, step, entered, ended, Except.map, bodyMoved within, movedOutcome,
            left, ih onward]
          simp [movedEntry]

end Moved

variable {first second : Writer} {levels : Nat} {program : Program}

/-- A writer with the state of another one, but without its text. -/
def emptied (writer : Writer) : Writer := { writer with lines := [] }

theorem moved_emptied (deeper : second.depth = first.depth + levels)
    (opened : second.region = first.region) :
    moved second.lines levels (emptied first) = second := by
  obtain ⟨lines, depth, region⟩ := second
  obtain rfl : depth = _ := deeper
  obtain rfl : region = _ := opened
  simp [moved, emptied]

theorem run_emptied (program : Program) (writer : Writer) :
    program.run writer = movedOutcome writer.lines 0 (program.run (emptied writer)) := by
  conv_lhs => rw [← @moved_emptied writer writer 0 rfl rfl]
  exact run_moved (.inl rfl)

/-- An unbalanced body that is left early, behind a step that fails and is caught. -/
def unbalanced : Program :=
  .scoped .indented true
    (.act (.openRegion "B") true <| .act .unindent false <| .act (.write "a" 1) false <|
      .act .unindent false <| .act (.fail .noOpenRegion) false .done)
    (.act .closeRegion false <| .act (.write "b" 2) false .done)

end VectorForge.Proofs.Relocation
