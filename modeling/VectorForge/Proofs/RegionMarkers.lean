import Mathlib.Data.List.Induction
import VectorForge.Proofs.WriterCalls

/-! What every state of a run has in common, whatever its program nests, fails at or catches.
Text is only added, and the markers of regions take turns: the writer's open region is always
the one whose opening marker stands last. -/

namespace VectorForge.Proofs.RegionMarkers
open WriterCalls

inductive Marker where
  | opened (text : String)
  | closed (text : String)
  deriving DecidableEq

def openingMarker (name : String) : Marker := .opened ("#region " ++ name)

def closingMarker (name : String) : Marker := .closed ("#endregion " ++ name)

def marker (text : String) : Call → Option Marker
  | .act (.openRegion _) => some (.opened text)
  | .act .closeRegion => some (.closed text)
  | _ => none

/-- The lines a call adds, if it is one that opens or closes a region. -/
def marks (writer : Writer) (call : Call) : List Marker :=
  ((call.after writer).lines.drop writer.lines.length).filterMap fun line => marker line.text call

/-- The marker lines that calls have added, in order. Lines that only look like markers
are written by other calls and are not among them. -/
def markers (writer : Writer) : List Call → List Marker
  | [] => []
  | call :: rest => marks writer call ++ markers (call.after writer) rest

theorem markers_append (writer : Writer) (first second : List Call) :
    markers writer (first ++ second) =
      markers writer first ++ markers (reached writer first) second := by
  induction first generalizing writer with
  | nil => rfl
  | cons call rest ih =>
    simp only [List.cons_append, markers, ih, List.append_assoc]
    rfl

/-- The turns that markers take with the open region. -/
inductive Turn : Option String → List Marker → Option String → Prop where
  | keeps (region : Option String) : Turn region [] region
  | opens (name : String) : Turn none [openingMarker name] (some name)
  | closes (name : String) : Turn (some name) [closingMarker name] none

theorem marks_unmarked {writer : Writer} {call : Call}
    (unmarked : ∀ text, marker text call = none) : marks writer call = [] := by
  simp [marks, unmarked]

theorem openRegion_turn (writer : Writer) (name : String) :
    Turn writer.region (marks writer (.act (.openRegion name)))
      (Call.after writer (.act (.openRegion name))).region := by
  cases opened : writer.region with
  | none =>
    have made : Call.after writer (.act (.openRegion name)) =
        { writer.write ("#region " ++ name) with region := some name } :=
      after_ok _ (by simp [Call.perform, Action.perform, Writer.openRegion, opened])
    simpa [marks, made, Writer.write, marker, openingMarker] using Turn.opens name
  | some other =>
    have refused : Call.perform writer (.act (.openRegion name)) =
        .error (.nestedRegion other name) := by
      simp [Call.perform, Action.perform, Writer.openRegion, opened]
    have made := after_error _ refused
    simpa [marks, made, opened] using Turn.keeps (some other)

theorem closeRegion_turn (writer : Writer) :
    Turn writer.region (marks writer (.act .closeRegion))
      (Call.after writer (.act .closeRegion)).region := by
  cases opened : writer.region with
  | none =>
    have refused : Call.perform writer (.act .closeRegion) = .error .noOpenRegion := by
      simp [Call.perform, Action.perform, Writer.closeRegion, opened]
    have made := after_error _ refused
    simpa [marks, made, opened] using Turn.keeps none
  | some name =>
    have made : Call.after writer (.act .closeRegion) =
        { writer.write ("#endregion " ++ name) with region := none } :=
      after_ok _ (by simp [Call.perform, Action.perform, Writer.closeRegion, opened])
    simpa [marks, made, Writer.write, marker, closingMarker] using Turn.closes name

/-- All other calls leave the open region alone and write no markers. -/
theorem region_kept {writer : Writer} {call : Call} (unmarked : ∀ text, marker text call = none) :
    (call.after writer).region = writer.region := by
  cases call with
  | restore depth => rfl
  | act action =>
    cases action with
    | write | indent | member | spread | insert | fail => rfl
    | openRegion | closeRegion => cases unmarked ""
    | unindent =>
      cases deep : writer.depth with
      | zero => simp [Call.after, Call.perform, Action.perform, Writer.unindent, deep]
      | succ depth => simp [Call.after, Call.perform, Action.perform, Writer.unindent, deep]
    | check =>
      cases ended : writer.finish with
      | ok lines => simp [Call.after, Call.perform, Action.perform, ended, Except.map]
      | error fault => simp [Call.after, Call.perform, Action.perform, ended, Except.map]

theorem marking_or_unmarked (call : Call) :
    (∃ name, call = .act (.openRegion name)) ∨ call = .act .closeRegion ∨
      ∀ text, marker text call = none := by
  cases call with
  | restore depth => exact .inr (.inr fun _ => rfl)
  | act action =>
    cases action with
    | openRegion name => exact .inl ⟨name, rfl⟩
    | closeRegion => exact .inr (.inl rfl)
    | write | indent | unindent | member | spread | insert | check | fail =>
      exact .inr (.inr fun _ => rfl)

theorem call_turn (writer : Writer) (call : Call) :
    Turn writer.region (marks writer call) (call.after writer).region := by
  rcases marking_or_unmarked call with ⟨name, rfl⟩ | rfl | unmarked
  · exact openRegion_turn writer name
  · exact closeRegion_turn writer
  · rw [marks_unmarked unmarked, region_kept unmarked]
    exact .keeps _

/-- The markers of regions opened and closed one after another, and of one left open. -/
def inTurn (past : List String) (region : Option String) : List Marker :=
  past.flatMap (fun name => [openingMarker name, closingMarker name])
    ++ region.toList.map openingMarker

theorem Turn.inTurn {region next : Option String} {added : List Marker}
    (turn : Turn region added next) (past : List String) :
    ∃ later, inTurn past region ++ added = inTurn later next := by
  cases turn with
  | keeps => exact ⟨past, List.append_nil _⟩
  | opens name => exact ⟨past, by simp [RegionMarkers.inTurn]⟩
  | closes name => exact ⟨past ++ [name], by simp [RegionMarkers.inTurn]⟩

theorem markers_inTurn (made : List Call) :
    ∃ past, markers {} made = inTurn past (reached {} made).region := by
  induction made using List.reverseRecOn with
  | nil => exact ⟨[], rfl⟩
  | append_singleton made call ih =>
    obtain ⟨past, earlier⟩ := ih
    obtain ⟨later, same⟩ := (call_turn (reached {} made) call).inTurn past
    refine ⟨later, ?_⟩
    rw [markers_append, earlier, reached_append]
    simp only [markers, List.append_nil]
    exact same

theorem openingMarker_inj {name other : String} :
    openingMarker name = openingMarker other ↔ name = other := by
  simp [openingMarker]

/-- The marker that stands last tells whether a region is open, and which. -/
theorem getLast_inTurn (past : List String) (region : Option String) (name : String) :
    (inTurn past region).getLast? = some (openingMarker name) ↔ region = some name := by
  cases region with
  | some other => simp [inTurn, openingMarker_inj]
  | none =>
    cases past using List.reverseRecOn with
    | nil => simp [inTurn]
    | append_singleton past last => simp [inTurn, openingMarker, closingMarker]

theorem perform_extends {action : Action} {writer next : Writer}
    (performed : action.perform writer = .ok next) : writer.lines <+: next.lines := by
  cases action with
  | write | member | spread | insert =>
    obtain rfl := Except.ok.inj performed
    exact List.prefix_append _ _
  | indent =>
    obtain rfl := Except.ok.inj performed
    exact List.prefix_rfl
  | unindent =>
    simp only [Action.perform, Writer.unindent] at performed
    split at performed
    · contradiction
    · obtain rfl := Except.ok.inj performed
      exact List.prefix_rfl
  | openRegion name =>
    simp only [Action.perform, Writer.openRegion] at performed
    split at performed
    · contradiction
    · obtain rfl := Except.ok.inj performed
      exact List.prefix_append _ _
  | closeRegion =>
    simp only [Action.perform, Writer.closeRegion] at performed
    split at performed
    · obtain rfl := Except.ok.inj performed
      exact List.prefix_append _ _
    · contradiction
  | check =>
    cases ended : writer.finish with
    | ok lines =>
      simp only [Action.perform, ended, Except.map, Except.ok.injEq] at performed
      exact performed ▸ List.prefix_rfl
    | error fault => simp [Action.perform, ended, Except.map] at performed
  | fail fault => contradiction

theorem after_extends (writer : Writer) (call : Call) :
    writer.lines <+: (call.after writer).lines := by
  cases call with
  | restore depth => exact List.prefix_rfl
  | act action =>
    cases performed : action.perform writer with
    | error fault =>
      have same : Call.after writer (.act action) = writer := after_error _ performed
      exact same.symm ▸ List.prefix_rfl
    | ok next =>
      rw [after_ok (.act action) performed]
      exact perform_extends performed

theorem reached_extends (writer : Writer) (made : List Call) :
    writer.lines <+: (reached writer made).lines := by
  induction made generalizing writer with
  | nil => exact List.prefix_rfl
  | cons call rest ih => exact (after_extends writer call).trans (ih _)

/-- Text that is only added to is never taken back, however it is laid out. -/
theorem layout_extends (style : Style) {earlier later : List Line} (grown : earlier <+: later) :
    ∃ more, style.layout later = style.layout earlier ++ more := by
  obtain ⟨added, rfl⟩ := grown
  exact ⟨style.layout added, Style.layout_append style earlier added⟩

/-- What is true of a fresh writer after the calls `past`. -/
structure Consistent (past : List Call) (writer : Writer) : Prop where
  extended : ∀ earlier, earlier <+: past → ∀ style : Style, ∃ more,
    style.layout writer.lines = style.layout (reached {} earlier).lines ++ more
  turns : ∃ closed : List String, markers {} past =
    closed.flatMap (fun name => [openingMarker name, closingMarker name])
      ++ writer.region.toList.map openingMarker
  opened : ∀ name, writer.region = some name ↔
    (markers {} past).getLast? = some (openingMarker name)
  /-- A failure changes nothing. -/
  unchanged : ∀ earlier call fault, past = earlier ++ [call] →
    call.perform (reached {} earlier) = .error fault → writer = reached {} earlier
  finished : writer.depth = 0 → writer.region = none → writer.finish = .ok writer.lines
  unbalanced : writer.depth ≠ 0 → writer.finish = .error (.unbalancedIndent writer.depth)
  unclosed : ∀ name, writer.depth = 0 → writer.region = some name →
    writer.finish = .error (.unclosedRegion name)

theorem reached_consistent (past : List Call) : Consistent past (reached {} past) where
  extended := by
    rintro earlier ⟨later, rfl⟩ style
    rw [reached_append]
    exact layout_extends style (reached_extends _ later)
  turns := markers_inTurn past
  opened := by
    intro name
    obtain ⟨closed, turns⟩ := markers_inTurn past
    rw [turns]
    exact (getLast_inTurn closed _ name).symm
  unchanged := by
    rintro earlier call fault rfl failed
    rw [reached_append]
    exact after_error call failed
  finished := by
    intro outermost closed
    simp [Writer.finish, outermost, closed]
  unbalanced := by
    intro deep
    obtain ⟨depth, same⟩ := Nat.exists_eq_succ_of_ne_zero deep
    simp [Writer.finish, same]
  unclosed := by
    intro name outermost opened
    simp [Writer.finish, outermost, opened]

/-- Every state of every run is consistent: the calls of a program pass through all the states
that its trace records and end where it ends. -/
theorem runs_consistent (program : Program) :
    (program.run {}).writer = reached {} (calls program {}) ∧
      (∀ entry ∈ (program.run {}).trace, Recorded {} (calls program {}) entry) ∧
      ∀ past, past <+: calls program {} → Consistent past (reached {} past) := by
  have followed := run_follows program {}
  exact ⟨followed.last, followed.trace, fun past _ => reached_consistent past⟩

/-- A region whose body closes it, opens another and fails. -/
def reopening : Program :=
  .scoped (.region "A") true
    (.act .closeRegion false <| .act (.openRegion "B") false <| .act .unindent true <|
      .act (.fail .noOpenRegion) false .done)
    .done

theorem reopening_consistent :
    calls reopening {} = [.act (.openRegion "A"), .act .closeRegion, .act (.openRegion "B"),
        .act .unindent, .act (.fail .noOpenRegion), .act .closeRegion] ∧
      markers {} (calls reopening {}) = [openingMarker "A", closingMarker "A", openingMarker "B",
        closingMarker "B"] ∧
      Consistent ((calls reopening {}).take 4) (reached {} ((calls reopening {}).take 4)) :=
  ⟨rfl, rfl, (runs_consistent reopening).2.2 _ (List.take_prefix 4 _)⟩

end VectorForge.Proofs.RegionMarkers
