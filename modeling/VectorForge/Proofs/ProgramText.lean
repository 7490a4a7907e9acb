import VectorForge.Program
import VectorForge.Proofs.CodeSyntax

/-! What a program writes, whatever stands before it. The rules follow the ways in which
programs are put together, so a section's lines come from the lines of its members. -/

namespace VectorForge.Proofs.ProgramText
open CodeSyntax (braced listed marked deepened)

/-- Run while this region is open, the program adds these lines at the current depth and
changes nothing else, and none of its steps fails. -/
def Writes (region : Option String) (program : Program) (lines : List Line) : Prop :=
  ∀ writer : Writer, writer.region = region → ∃ trace,
    program.run writer = ⟨.ok (), writer.append lines, trace⟩ ∧
      ∀ entry ∈ trace, entry.result = .ok ()

variable {region : Option String} {program next : Program} {lines more : List Line}

theorem append_nil (writer : Writer) : writer.append [] = writer := by
  simp [Writer.append]

theorem append_append (writer : Writer) (first second : List Line) :
    (writer.append first).append second = writer.append (first ++ second) := by
  simp [Writer.append, List.append_assoc]

theorem fresh_append (lines : List Line) : ({} : Writer).append lines = { lines } := by
  have same : Line.deepen 0 = id := rfl
  simp [Writer.append, same]

/-- A program that succeeds hands its writer on to what follows it. -/
theorem run_append {writer : Writer} (succeeds : (program.run writer).result = .ok ()) :
    (program ++ next).run writer =
      { next.run (program.run writer).writer with
        trace := (program.run writer).trace ++ (next.run (program.run writer).writer).trace } := by
  show (program.append next).run writer = _
  induction program generalizing writer with
  | done => rfl
  | act action guarded rest ih =>
    simp only [Program.run, Program.append] at succeeds ⊢
    cases performed : action.perform writer with
    | ok after =>
      simp only [performed] at succeeds ⊢
      simp [ih succeeds]
    | error fault =>
      cases guarded with
      | false => simp [performed] at succeeds
      | true =>
        simp only [performed, if_true] at succeeds ⊢
        simp [ih succeeds]
  | «scoped» scope guarded body rest _ ih =>
    simp only [Program.run, Program.append] at succeeds ⊢
    cases entered : scope.enter writer with
    | error fault =>
      cases guarded with
      | false => simp [entered] at succeeds
      | true =>
        simp only [entered, if_true] at succeeds ⊢
        simp [ih succeeds]
    | ok start =>
      rcases ended : scope.leave writer (body.run start).result (body.run start).writer with
        ⟨result, after⟩
      cases result with
      | ok value =>
        simp only [entered, ended] at succeeds ⊢
        simp [ih succeeds]
      | error fault =>
        cases guarded with
        | false => simp [entered, ended] at succeeds
        | true =>
          simp only [entered, ended] at succeeds ⊢
          simp [ih succeeds]

namespace Writes

theorem done : Writes region .done [] := fun writer _ =>
  ⟨[], by simp [Program.run, append_nil], by simp⟩

theorem one {action : Action}
    (performed : ∀ writer : Writer, action.perform writer = .ok (writer.append lines)) :
    Writes region (.one action) lines := fun writer _ =>
  ⟨[⟨.inl action, .ok (), writer.append lines⟩],
    by simp [Program.one, Program.run, performed], by simp⟩

theorem append (first : Writes region program lines) (second : Writes region next more) :
    Writes region (program ++ next) (lines ++ more) := by
  intro writer opened
  obtain ⟨earlier, ran, succeeded⟩ := first writer opened
  obtain ⟨later, ended, finished⟩ := second (writer.append lines) opened
  refine ⟨earlier ++ later, ?_, ?_⟩
  · rw [run_append (by rw [ran]), ran]
    simp [ended, append_append]
  · intro entry member
    rcases List.mem_append.mp member with before | after
    · exact succeeded entry before
    · exact finished entry after

/-- Programs joined together write what each of them writes, in order. -/
theorem join {items : List α} {form : α → Program} {text : α → List Line}
    (each : ∀ item ∈ items, Writes region (form item) (text item)) :
    Writes region (.join (items.map form)) (items.flatMap text) := by
  induction items with
  | nil => exact .done
  | cons item items ih =>
    rw [List.flatMap_cons]
    exact (each item (by simp)).append (ih fun other member => each other (by simp [member]))

theorem write (text : String) (breaks : Nat := 1) :
    Writes region (.write text breaks) [⟨0, text, breaks⟩] :=
  one fun writer => by simp [Action.perform, Writer.write, Writer.append, Line.deepen]

theorem writeAll (texts : List String) : Writes region (.writeAll texts) (listed texts) := by
  have written : Writes region (Program.writeAll texts) (texts.flatMap fun text => [⟨0, text, 1⟩]) :=
    join fun text _ => write text
  rwa [← List.map_eq_flatMap] at written

theorem member (declared : Member) : Writes region (.member declared) declared.lines :=
  one fun _ => rfl

theorem members (declared : List Member) :
    Writes region (.members declared) (declared.flatMap Member.lines) :=
  join fun declared _ => member declared

theorem spread (declared : Member) (items : List String) :
    Writes region (.spread declared items) (declared.spreadLines items) :=
  one fun _ => rfl

theorem block (inner : Writes region program lines) (ending : String := "") :
    Writes region (.block program ending) (braced lines ending) := by
  intro writer opened
  obtain ⟨trace, ran, succeeded⟩ := inner (writer.write "\x7b").indent opened
  refine ⟨trace ++ [⟨.inr (.block ending), .ok (), writer.append (braced lines ending)⟩], ?_, ?_⟩
  · simp only [Program.block, Program.run, Scope.enter, Scope.leave, ran]
    simp [Writer.append, Writer.write, Writer.indent, braced, deepened, Line.deepen]
    omega
  · simpa [or_imp, forall_and] using succeeded

/-- A body between region markers stands on the same level as they do. -/
theorem marked_region {name : String} (inner : Writes (some name) program lines) :
    Writes none (.region name program) (marked name lines) := by
  intro writer opened
  let start : Writer := { writer.write ("#region " ++ name) with region := some name }
  have entered : writer.openRegion name = .ok start := by simp [Writer.openRegion, opened, start]
  obtain ⟨trace, ran, succeeded⟩ := inner start rfl
  have closed : (start.append lines).closeRegion = .ok (writer.append (marked name lines)) := by
    simp [Writer.closeRegion, start, Writer.append, Writer.write, marked, Line.deepen, opened]
  refine ⟨trace ++ [⟨.inr (.region name), .ok (), writer.append (marked name lines)⟩], ?_, ?_⟩
  · simp [Program.region, Program.run, Scope.enter, Scope.leave, entered, ran, closed]
  · simpa [or_imp, forall_and] using succeeded

end Writes

end VectorForge.Proofs.ProgramText
