import VectorForge.Proofs.RegionMarkers
import VectorForge.Proofs.ScopedDepth

/-! The step that puts a body between region markers. It always closes its region, and its
closing marker stands on the level where the body was left: only a body that ends on the level
on which it began gives the writer back as it was. -/

namespace VectorForge.Proofs.RegionDepth
open Relocation WriterCalls ScopedDepth

variable {program : Program} {writer start next : Writer} {name : String}

theorem perform_keeps_region {action : Action} (opened : writer.region = some name)
    (other : action ≠ .closeRegion) (performed : action.perform writer = .ok next) :
    next.region = some name := by
  rcases RegionMarkers.marking_or_unmarked (.act action) with ⟨requested, same⟩ | same | unmarked
  · obtain rfl := Call.act.inj same
    simp [Action.perform, Writer.openRegion, opened] at performed
  · exact absurd (Call.act.inj same) other
  · have after : Call.after writer (.act action) = next := after_ok (.act action) performed
    rw [← after, RegionMarkers.region_kept unmarked, opened]

/-- While a region is open no other can be entered, and the other scopes do not touch it. -/
theorem scope_keeps_region {scope : Scope} (opened : writer.region = some name)
    (entered : scope.enter writer = .ok start) :
    start.region = some name ∧
      ∀ result inside, (scope.leave writer result inside).2.region = inside.region := by
  cases scope with
  | indented =>
    obtain rfl := Except.ok.inj entered
    exact ⟨opened, fun _ _ => rfl⟩
  | block ending =>
    obtain rfl := Except.ok.inj entered
    refine ⟨opened, fun result inside => ?_⟩
    cases result <;> rfl
  | region requested => simp [Scope.enter, Writer.openRegion, opened] at entered

/-- Only a step that closes the region can end it. One that would open another fails. -/
theorem run_keeps_region (opened : writer.region = some name)
    (kept : .closeRegion ∉ actions program) : (program.run writer).writer.region = some name := by
  induction program generalizing writer with
  | done => exact opened
  | act action guarded rest ih =>
    simp only [actions, List.mem_cons, not_or] at kept
    cases performed : action.perform writer with
    | ok next =>
      have onward := ih (perform_keeps_region opened (Ne.symm kept.1) performed) kept.2
      simpa only [Program.run, performed] using onward
    | error fault =>
      cases guarded with
      | true => simpa only [Program.run, performed, if_true] using ih opened kept.2
      | false => simpa [Program.run, performed] using opened
  | «scoped» scope guarded body rest bodyKeeps ih =>
    simp only [actions, List.mem_append, not_or] at kept
    cases entered : scope.enter writer with
    | error fault =>
      cases guarded with
      | true => simpa only [Program.run, entered, if_true] using ih opened kept.2
      | false => simpa [Program.run, entered] using opened
    | ok start =>
      obtain ⟨inside, untouched⟩ := scope_keeps_region opened entered
      rcases ended : scope.leave writer (body.run start).result (body.run start).writer with
        ⟨result, next⟩
      have left : next.region = some name := by
        have same := untouched (body.run start).result (body.run start).writer
        rw [ended] at same
        exact same.trans (bodyKeeps inside kept.1)
      have onward := ih left kept.2
      cases result with
      | ok value => simpa only [Program.run, entered, ended] using onward
      | error fault =>
        cases guarded with
        | true => simpa only [Program.run, entered, ended] using onward
        | false => simpa only [Program.run, entered, ended] using left

/-- The writer is back as it was before a region with this name: no region is open, the level is
that of the entry, and the closing marker stands last, on the level of the opening one. -/
structure Restored (name : String) (before after : Writer) : Prop where
  region : after.region = none
  depth : after.depth = before.depth
  last : after.lines.getLast? = some ⟨before.depth, "#endregion " ++ name, 1⟩

/-- What a region does around a body that closes none itself. -/
structure Closes (name : String) (before : Writer) (inner step : Outcome) : Prop where
  result : step.result = inner.result
  region : step.writer.region = none
  depth : step.writer.depth = inner.writer.depth
  lines : step.writer.lines = before.lines ++ ⟨before.depth, "#region " ++ name, 1⟩ ::
    inner.writer.lines ++ [⟨inner.writer.depth, "#endregion " ++ name, 1⟩]
  /-- The level of the entry comes back only if the body has brought it back. -/
  restored : Restored name before step.writer ↔ inner.writer.depth = before.depth

theorem Closes.of_writer {before : Writer} {inner step : Outcome}
    (result : step.result = inner.result)
    (writer : step.writer = ⟨before.lines ++ ⟨before.depth, "#region " ++ name, 1⟩ ::
      inner.writer.lines ++ [⟨inner.writer.depth, "#endregion " ++ name, 1⟩],
      inner.writer.depth, none⟩) : Closes name before inner step where
  result := result
  region := by rw [writer]
  depth := by rw [writer]
  lines := by rw [writer]
  restored := by
    rw [writer]
    constructor
    · exact Restored.depth
    · intro same
      refine ⟨rfl, same, ?_⟩
      rw [same]
      exact List.getLast?_concat

/-- However its body moves the level and however it ends, a region is closed behind it. The
closing marker stands where the body was left, and so does the writer. -/
theorem region_closes (name : String) (body : Program) (before : Writer)
    (unopened : before.region = none) (kept : .closeRegion ∉ actions body) :
    Closes name before (alone body before.depth (some name))
      ((Program.region name body).run before) := by
  have entered : (Scope.region name).enter before =
      .ok ⟨before.lines ++ [⟨before.depth, "#region " ++ name, 1⟩], before.depth, some name⟩ := by
    simp [Scope.enter, Writer.openRegion, Writer.write, unopened]
  obtain ⟨reported, left⟩ := run_scoped body entered
  obtain ⟨result, writer⟩ := run_behind body
    (before.lines ++ [⟨before.depth, "#region " ++ name, 1⟩]) before.depth (some name)
  have still : (alone body before.depth (some name)).writer.region = some name :=
    run_keeps_region rfl kept
  rw [result, writer] at reported left
  apply Closes.of_writer
  · rw [Program.region, reported]
    simp [Scope.leave, Writer.closeRegion, still]
  · rw [Program.region, left]
    simp [Scope.leave, Writer.closeRegion, Writer.write, still]

/-- A body that goes one level out, where it writes a line, and then fails. -/
def leaving : Program :=
  .act .unindent false <| .act (.write "a" 1) false <| .act (.fail .noOpenRegion) false .done

theorem leaving_closes :
    let before : Writer := { lines := [⟨2, "x", 1⟩], depth := 2 }
    before.region = none ∧ .closeRegion ∉ actions leaving ∧
      ((Program.region "A" leaving).run before).writer.lines =
        [⟨2, "x", 1⟩, ⟨2, "#region A", 1⟩, ⟨1, "a", 1⟩, ⟨1, "#endregion A", 1⟩] ∧
      Closes "A" before (alone leaving 2 (some "A")) ((Program.region "A" leaving).run before) :=
  ⟨rfl, by decide, rfl, region_closes "A" leaving _ rfl (by decide)⟩

/-- A body that goes one level deeper and stays there. -/
def staying : Program := .act .indent false <| .act (.write "a" 1) false .done

/-- The writer is not restored behind a body that stays on another level, neither where the body
succeeds nor where it fails. -/
theorem level_not_restored :
    actions staying = [.indent, .write "a" 1] ∧
      ((Program.region "A" staying).run {}).result = .ok () ∧
      ((Program.region "A" staying).run {}).writer =
        ⟨[⟨0, "#region A", 1⟩, ⟨1, "a", 1⟩, ⟨1, "#endregion A", 1⟩], 1, none⟩ ∧
      ¬ Restored "A" {} ((Program.region "A" staying).run {}).writer ∧
      ¬ Restored "A" { depth := 2 } ((Program.region "A" leaving).run { depth := 2 }).writer := by
  refine ⟨rfl, rfl, rfl, ?_, ?_⟩
  · intro restored
    exact absurd restored.depth (by decide)
  · intro restored
    exact absurd restored.depth (by decide)

end VectorForge.Proofs.RegionDepth
