import VectorForge.Program

/-! A run of a program as the calls it makes of its writer, in order. A scope is a few calls
in front of its body and a few behind it, so the states that a writer passes through, those
inside a scope and those behind a failure too, are the states after the first of these calls. -/

namespace VectorForge.Proofs.WriterCalls

inductive Call where
  | act (action : Action)
  /-- The depth from before a scope comes back. -/
  | restore (depth : Nat)
  deriving DecidableEq

def Call.perform (writer : Writer) : Call → Except Fault Writer
  | .act action => action.perform writer
  | .restore depth => .ok { writer with depth }

/-- The writer behind a call, which is the one before it where the call fails. -/
def Call.after (writer : Writer) (call : Call) : Writer :=
  match call.perform writer with
  | .ok next => next
  | .error _ => writer

def reached (writer : Writer) (made : List Call) : Writer := made.foldl Call.after writer

def opening : Scope → List Call
  | .indented => [.act .indent]
  | .block _ => [.act (.write "\x7b" 1), .act .indent]
  | .region name => [.act (.openRegion name)]

/-- What follows a body that started from the writer `outside` and reported `result`. -/
def closing (outside : Writer) (result : Except Fault Unit) : Scope → List Call
  | .indented => [.restore outside.depth]
  | .block ending => .restore outside.depth ::
    match result with
    | .ok _ => [.act (.write ("\x7d" ++ ending) 1)]
    | .error _ => []
  | .region _ => [.act .closeRegion]

/-- The calls that a program makes, those that fail included. -/
def calls : Program → Writer → List Call
  | .done, _ => []
  | .act action guarded rest, writer =>
    match action.perform writer, guarded with
    | .ok next, _ => .act action :: calls rest next
    | .error _, true => .act action :: calls rest writer
    | .error _, false => [.act action]
  | .scoped scope guarded body rest, writer =>
    match scope.enter writer, guarded with
    | .error _, true => opening scope ++ calls rest writer
    | .error _, false => opening scope
    | .ok start, _ =>
      let inner := body.run start
      let within := opening scope ++ calls body start ++ closing writer inner.result scope
      match scope.leave writer inner.result inner.writer, guarded with
      | (.error _, _), false => within
      | (_, next), _ => within ++ calls rest next

variable {start writer next : Writer} {made before more : List Call}

theorem reached_append (first second : List Call) :
    reached writer (first ++ second) = reached (reached writer first) second :=
  List.foldl_append

theorem after_ok (call : Call) (performed : call.perform writer = .ok next) :
    call.after writer = next := by
  rw [Call.after, performed]

theorem after_error (call : Call) {fault : Fault} (failed : call.perform writer = .error fault) :
    call.after writer = writer := by
  rw [Call.after, failed]

theorem reached_opening {scope : Scope} (entered : scope.enter writer = .ok next) :
    reached writer (opening scope) = next := by
  cases scope with
  | indented | block => exact Except.ok.inj entered
  | region name => exact after_ok (.act (.openRegion name)) entered

theorem reached_opening_refused {scope : Scope} {fault : Fault}
    (refused : scope.enter writer = .error fault) : reached writer (opening scope) = writer := by
  cases scope with
  | indented | block => contradiction
  | region name => exact after_error (.act (.openRegion name)) refused

theorem reached_closing (outside inside : Writer) (result : Except Fault Unit) (scope : Scope) :
    reached inside (closing outside result scope) = (scope.leave outside result inside).2 := by
  cases scope with
  | indented => rfl
  | block ending => cases result <;> rfl
  | region name =>
    show Call.after inside (.act .closeRegion) = _
    cases closed : inside.closeRegion with
    | ok next => simp [Call.after, Call.perform, Action.perform, Scope.leave, closed]
    | error fault => simp [Call.after, Call.perform, Action.perform, Scope.leave, closed]

/-- What a trace tells of an action on the writer `before`. -/
def Told (before : Writer) (action : Action) (entry : Entry) : Prop :=
  match action.perform before with
  | .ok next => entry.result = .ok () ∧ entry.writer = next
  | .error fault => entry.result = .error fault ∧ entry.writer = before

/-- The entry tells a state on the way. That of an action tells what its call did there. -/
structure Recorded (start : Writer) (made : List Call) (entry : Entry) : Prop where
  state : ∃ past, past <+: made ∧ entry.writer = reached start past
  action : ∀ action, entry.step = .inl action →
    ∃ past, past ++ [.act action] <+: made ∧ Told (reached start past) action entry

theorem Recorded.append {entry : Entry} (recorded : Recorded start made entry) :
    Recorded start (made ++ more) entry := by
  constructor
  · obtain ⟨past, early, same⟩ := recorded.state
    exact ⟨past, early.trans (List.prefix_append _ _), same⟩
  · intro action step
    obtain ⟨past, early, told⟩ := recorded.action action step
    exact ⟨past, early.trans (List.prefix_append _ _), told⟩

theorem Recorded.behind {entry : Entry} (recorded : Recorded (reached start before) made entry) :
    Recorded start (before ++ made) entry := by
  constructor
  · obtain ⟨past, early, same⟩ := recorded.state
    refine ⟨before ++ past, (List.prefix_append_right_inj _).mpr early, ?_⟩
    rw [reached_append, same]
  · intro action step
    obtain ⟨past, early, told⟩ := recorded.action action step
    refine ⟨before ++ past, ?_, ?_⟩
    · rw [List.append_assoc]
      exact (List.prefix_append_right_inj _).mpr early
    · rwa [reached_append]

theorem Recorded.performed {action : Action} (performed : action.perform start = .ok next) :
    Recorded start [.act action] ⟨.inl action, .ok (), next⟩ := by
  constructor
  · exact ⟨_, List.prefix_rfl, (after_ok (.act action) performed).symm⟩
  · rintro _ ⟨⟩
    refine ⟨[], List.prefix_rfl, ?_⟩
    simp [Told, reached, performed]

theorem Recorded.failed {action : Action} {fault : Fault}
    (failed : action.perform start = .error fault) :
    Recorded start [.act action] ⟨.inl action, .error fault, start⟩ := by
  constructor
  · exact ⟨_, List.prefix_rfl, (after_error (.act action) failed).symm⟩
  · rintro _ ⟨⟩
    refine ⟨[], List.prefix_rfl, ?_⟩
    simp [Told, reached, failed]

theorem Recorded.scope (scope : Scope) (result : Except Fault Unit) :
    Recorded start made ⟨.inr scope, result, reached start made⟩ :=
  ⟨⟨made, List.prefix_rfl, rfl⟩, fun _ step => nomatch step⟩

/-- The calls lead to the writer that a run ends with, and its trace tells their states. -/
structure Follows (start : Writer) (made : List Call) (outcome : Outcome) : Prop where
  last : outcome.writer = reached start made
  trace : ∀ entry ∈ outcome.trace, Recorded start made entry

/-- A run goes on from where its first calls have led. -/
theorem Follows.after {outcome : Outcome} {entries : List Entry}
    (recorded : ∀ entry ∈ entries, Recorded start before entry)
    (rest : Follows (reached start before) made outcome) :
    Follows start (before ++ made) { outcome with trace := entries ++ outcome.trace } := by
  constructor
  · rw [reached_append]
    exact rest.last
  · intro entry member
    rcases List.mem_append.mp member with early | late
    · exact (recorded entry early).append
    · exact (rest.trace entry late).behind

theorem Follows.step {outcome : Outcome} {entry : Entry} (recorded : Recorded start before entry)
    (rest : Follows (reached start before) made outcome) :
    Follows start (before ++ made) { outcome with trace := entry :: outcome.trace }  := by
  have all : ∀ other ∈ [entry], Recorded start before other :=
    List.forall_mem_singleton.mpr recorded
  exact .after all rest

theorem Follows.ends {result : Except Fault Unit} {entries : List Entry}
    (recorded : ∀ entry ∈ entries, Recorded start made entry) :
    Follows start made ⟨result, reached start made, entries⟩ := ⟨rfl, recorded⟩

/-- A scope that is entered is followed from its first call to its last. -/
theorem scope_followed {scope : Scope} {inside : Writer} {inner : Outcome}
    {result : Except Fault Unit} (entered : scope.enter writer = .ok inside)
    (body : Follows inside made inner)
    (ended : scope.leave writer inner.result inner.writer = (result, next)) :
    Follows writer (opening scope ++ made ++ closing writer inner.result scope)
      ⟨result, next, inner.trace ++ [⟨.inr scope, result, next⟩]⟩ := by
  have there : reached writer (opening scope ++ made ++ closing writer inner.result scope) =
      next := by
    rw [reached_append, reached_append, reached_opening entered, ← body.last, reached_closing,
      ended]
  refine ⟨there.symm, ?_⟩
  intro entry member
  rcases List.mem_append.mp member with early | last
  · have told := reached_opening entered ▸ body.trace entry early
    exact told.behind.append
  · obtain rfl := List.mem_singleton.mp last
    rw [← there]
    exact .scope scope result

theorem run_follows (program : Program) (writer : Writer) :
    Follows writer (calls program writer) (program.run writer) := by
  induction program generalizing writer with
  | done => exact .ends (List.forall_mem_nil _)
  | act action guarded rest ih =>
    cases performed : action.perform writer with
    | ok next =>
      have there : reached writer [.act action] = next := after_ok (.act action) performed
      simp only [Program.run, calls, performed]
      exact .step (.performed performed) (there ▸ ih next)
    | error fault =>
      have there : reached writer [.act action] = writer := after_error (.act action) performed
      cases guarded with
      | true =>
        simp only [Program.run, calls, performed, if_true]
        exact .step (.failed performed) (there.symm ▸ ih writer)
      | false =>
        simp only [Program.run, calls, performed]
        exact ⟨there.symm, List.forall_mem_singleton.mpr (.failed performed)⟩
  | «scoped» scope guarded body rest bodyFollows ih =>
    cases entered : scope.enter writer with
    | error fault =>
      have there := reached_opening_refused entered
      have recorded : Recorded writer (opening scope) ⟨.inr scope, .error fault, writer⟩ := by
        have told : Recorded writer (opening scope)
            ⟨.inr scope, .error fault, reached writer (opening scope)⟩ :=
          .scope scope (.error fault)
        rwa [there] at told
      cases guarded with
      | true =>
        simp only [Program.run, calls, entered, if_true]
        exact .step recorded (there.symm ▸ ih writer)
      | false =>
        simp only [Program.run, calls, entered]
        exact ⟨there.symm, List.forall_mem_singleton.mpr recorded⟩
    | ok inside =>
      rcases ended : scope.leave writer (body.run inside).result (body.run inside).writer with
        ⟨result, next⟩
      have followed := scope_followed entered (bodyFollows inside) ended
      have there : next = reached writer _ := followed.last
      simp only [Program.run, calls, entered, ended]
      cases result with
      | ok value => exact .after followed.trace (there ▸ ih next)
      | error fault =>
        cases guarded with
        | true => exact .after followed.trace (there ▸ ih next)
        | false => exact followed

end VectorForge.Proofs.WriterCalls
