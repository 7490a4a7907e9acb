import VectorForge.Proofs.FamilyMembers

/-! Value equality and hash codes, which are the same code for every kind: what they need of
a component is that two of them can be compared. -/

namespace VectorForge.Proofs.EqualityMeaning
open CodeSyntax MemberCode CodeMeaning StructCode EvaluationRules FamilyMembers
open AcceptedNames OperatorCode

/-- The vectors have the same components. -/
def Same (type : VectorType) (first second : Component → β) : Prop :=
  ∀ component ∈ type.dimension.components, first component = second component

instance [DecidableEq β] (type : VectorType) (first second : Component → β) :
    Decidable (Same type first second) :=
  inferInstanceAs (Decidable (∀ component ∈ type.dimension.components, _))

theorem every_same [LinearOrder β] (type : VectorType) (first second : Component → β) :
    (type.dimension.components.all fun component =>
        related "==" (first component) (second component)) =
      decide (Same type first second) := by
  rw [Bool.eq_iff_iff, decide_eq_true_iff]
  simp [related, Same]

theorem some_different [LinearOrder β] (type : VectorType) (first second : Component → β) :
    (type.dimension.components.any fun component =>
        related "!=" (first component) (second component)) =
      !decide (Same type first second) := by
  rw [Bool.eq_iff_iff, Bool.not_eq_true', decide_eq_false_iff_not]
  simp [related, Same]

variable [LinearOrder α] {library : Library α} {calls : Call α → Result (Datum α)}
  {options : Options} {type : VectorType}

/-- A kind of components: the values that stand for them, and what `==` says of two. -/
structure Comparable (library : Library α) [LinearOrder β] (embed : β → Datum α) : Prop where
  injective : Function.Injective embed
  equal : ∀ calls first second, applied library calls "==" (embed first) (embed second) =
    .ok (.truth (related "==" first second))

theorem numbers_comparable (library : Library α) : Comparable library (.number : α → Datum α) := by
  constructor
  · intro first second same
    exact Datum.number.inj same
  · intro calls first second
    exact applied_numbers (by decide) first second

theorem truths_comparable (library : Library α) : Comparable library (.truth : Bool → Datum α) := by
  constructor
  · intro first second same
    exact Datum.truth.inj same
  · intro calls first second
    exact applied_truths (by decide) first second

theorem not_object (type : VectorType) : type.name ≠ "object" := by
  obtain ⟨kind, dimension⟩ := type
  cases kind <;> cases dimension <;> decide

section Equality
variable [LinearOrder β] {embed : β → Datum α} (comparable : Comparable library embed)
  (accepted : Accepted options.arguments) (first second : Component → β)
include comparable accepted

theorem equalsVector_returned :
    returned library calls "bool"
        { locals := [(options.arguments.single, vectorOf type (embed ∘ second))]
          self := some (vectorOf type (embed ∘ first)) }
        (equalsVector type options.arguments).body =
      .ok (.truth (decide (Same type first second))) := by
  rw [← every_same]
  apply returned_every
  · intro component
    exact comparison_joins (by decide) ⟨rfl, rfl⟩ ⟨rfl, rfl⟩
  intro component inside
  let frame : Frame α := {
    locals := [(options.arguments.single, vectorOf type (embed ∘ second))]
    self := some (vectorOf type (embed ∘ first)) }
  have shown : component.name ≠ options.arguments.single := accepted.single.ne_component component
  have one : evaluate library calls frame (own component) = .ok (embed (first component)) :=
    evaluate_name (find_own (by simp [List.lookup_cons, beq_false_of_ne shown]) inside _)
  have found : frame.find? options.arguments.single =
      some (vectorOf type (embed ∘ second)) := by simp [frame, Frame.find?]
  have other : evaluate library calls frame (part options.arguments.single component) =
      .ok (embed (second component)) := evaluate_part found inside
  exact (evaluate_pair (by decide) (by decide) one other).trans (comparable.equal _ _ _)

theorem run_equals :
    run library (family options) calls
        (.method (vectorOf type (embed ∘ first)) "Equals" [vectorOf type (embed ∘ second)]) =
      .ok (.truth (decide (Same type first second))) := by
  have refused (value : Component → Datum α) : bound? (fun _ => none)
      (equalsObject type options.arguments).parameters [vectorOf type value] = none := by
    simp [equalsObject, bound?, vectorOf, Datum.isA, (not_object type).symm]
  have given (value : Component → Datum α) : bound? (fun _ => none)
      (equalsVector type options.arguments).parameters [vectorOf type value] =
        some [(options.arguments.single, vectorOf type value)] := by
    simp [equalsVector, bound?, isA_vectorOf]
  rw [run_method (overload?_second (equals_selected type options) (refused _) (given _))]
  exact equalsVector_returned comparable accepted first second

end Equality

/-- The body of `Equals` for objects, where what is tested is known by its own name. -/
theorem equalsObject_returned (value : Datum α) (self : Component → Datum α) :
    returned library calls "bool"
        { locals := [("obj", .boxed value)], self := some (vectorOf type self) }
        (equalsObject type options.arguments).body =
      if value.isA type.name then do
        return .truth (← everyHolds library calls
          { locals := [(options.arguments.single, value), ("obj", .boxed value)]
            self := some (vectorOf type self) }
          [.call "Equals" [.name options.arguments.single]])
      else .ok (.truth false) := by
  have whole : intact (equalsObject type options.arguments).body = true := rfl
  have found : evaluate library calls
      { locals := [("obj", .boxed value)], self := some (vectorOf type self) } (.name "obj") =
        .ok (.boxed value) := rfl
  rw [returned_value whole (fun _ built => by cases built), equalsObject, pair, evaluate, if_pos rfl,
    everyHolds, found]
  cases typed : value.isA type.name <;> simp only [bind, Except.bind, Datum.unboxed?, typed] <;> rfl

theorem run_equals_object (free : options.arguments.single ≠ "Equals") {value : Datum α}
    {self : Component → Datum α} {truth : Bool}
    (answered : value.isA type.name = true →
      calls (.method (vectorOf type self) "Equals" [value]) = .ok (.truth truth)) :
    run library (family options) calls (.method (vectorOf type self) "Equals" [.boxed value]) =
      .ok (.truth (value.isA type.name && truth)) := by
  have given : bound? (fun _ => none) (equalsObject type options.arguments).parameters
      [Datum.boxed value] = some [("obj", .boxed value)] := rfl
  rw [run_method (overload?_first (equals_selected type options) given)]
  refine (equalsObject_returned value self).trans ?_
  cases typed : value.isA type.name with
  | false => rfl
  | true =>
    let frame : Frame α := {
      locals := [(options.arguments.single, value), ("obj", .boxed value)]
      self := some (vectorOf type self) }
    have argument : evaluate library calls frame (.name options.arguments.single) = .ok value :=
      evaluate_name (by simp [frame, Frame.find?])
    have absent : (vectorOf type self).field? "Equals" = none :=
      field_absent (by rintro ⟨⟩ <;> decide) self
    have hidden : frame.find? "Equals" = none := by
      simp [frame, Frame.find?, List.lookup_cons, beq_false_of_ne free.symm, absent]
    have called : evaluate library calls frame (.call "Equals" [.name options.arguments.single]) =
        .ok (.truth truth) := by
      rw [evaluate, hidden]
      simp only [evaluateAll, argument]
      exact answered typed
    rw [if_pos rfl, everyHolds_cons called]
    cases truth <;> rfl

theorem run_hashCode (self : Component → Datum α) :
    run library (family options) calls (.method (vectorOf type self) "GetHashCode" []) =
      library.routine "HashCode" "Combine" (each type self) := by
  have given : bound? (fun _ => none) (hashCode type).parameters ([] : List (Datum α)) = some [] :=
    rfl
  rw [run_method (overload?_first (hashCode_selected type options) given)]
  have whole : intact (hashCode type).body = true := allIntact_map fun _ _ => rfl
  let frame : Frame α := { self := some (vectorOf type self) }
  have absent : (vectorOf type self).field? "HashCode" = none :=
    field_absent (by rintro ⟨⟩ <;> decide) self
  have static : frame.class? (.name "HashCode") = some "HashCode" := by
    simp [frame, Frame.class?, Frame.find?, absent]
  have listed : evaluateAll library calls frame (each type own) = .ok (each type self) :=
    evaluateAll_map fun _ => evaluate_own
  rw [returned_value whole (fun _ built => by cases built), hashCode, evaluate, static, listed]
  rfl

/-- Code outside of the structs that has two values at hand. -/
def client (first second : Datum α) : Frame α where
  locals := [("a", first), ("b", second)]

/-- The expressions of a client for its two values. -/
def left : Expression := .name "a"

def right : Expression := .name "b"

section Results
variable (library : Library α) (options : Options) (type : VectorType)

/-- Value equality of two vectors and the hash code of the first. -/
structure EqualityAgrees {β : Type} [DecidableEq β] (embed : β → Datum α)
    (first second : Component → β) : Prop where
  equals : Evaluates library (family options)
    (client (vectorOf type (embed ∘ first)) (vectorOf type (embed ∘ second)))
    (.invoke left "Equals" [right]) (.ok (.truth (decide (Same type first second))))
  equalsObject : Evaluates library (family options)
    (client (vectorOf type (embed ∘ first)) (vectorOf type (embed ∘ second)))
    (.invoke left "Equals" [.cast "object" right]) (.ok (.truth (decide (Same type first second))))
  /-- No object of another type is equal. -/
  stranger : ∀ value : Datum α, value.isA type.name = false →
    Evaluates library (family options) (client (vectorOf type (embed ∘ first)) value)
      (.invoke left "Equals" [.cast "object" right]) (.ok (.truth false))
  hashCode : Evaluates library (family options)
    (client (vectorOf type (embed ∘ first)) (vectorOf type (embed ∘ second)))
    (.invoke left "GetHashCode" [])
    (library.routine "HashCode" "Combine" (each type (embed ∘ first)))
  /-- The arguments of the hash code name every component, so they are the same for equal
  vectors only. -/
  hashed : each type (embed ∘ first) = each type (embed ∘ second) ↔ Same type first second

end Results

theorem each_injective {embed : β → γ} (injective : Function.Injective embed)
    (first second : Component → β) :
    each type (embed ∘ first) = each type (embed ∘ second) ↔ Same type first second := by
  rw [each, each, List.map_inj_left]
  exact forall₂_congr fun component _ => injective.eq_iff

theorem equality_agrees {β : Type} [LinearOrder β] {embed : β → Datum α}
    (comparable : Comparable library embed) (accepted : Accepted options.arguments)
    (free : options.arguments.single ≠ "Equals") (first second : Component → β) :
    EqualityAgrees library options type embed first second := by
  have answered (depth : Nat) : answer library (family options) (depth + 1)
      (.method (vectorOf type (embed ∘ first)) "Equals" [vectorOf type (embed ∘ second)]) =
        .ok (.truth (decide (Same type first second))) :=
    run_equals comparable accepted first second
  constructor
  · exact .of_depth 1 answered
  · have boxed (depth : Nat) : answer library (family options) (depth + 2)
        (.method (vectorOf type (embed ∘ first)) "Equals" [.boxed (vectorOf type (embed ∘ second))]) =
          .ok (.truth ((vectorOf type (embed ∘ second)).isA type.name &&
            decide (Same type first second))) :=
      run_equals_object free fun _ => answered depth
    simp only [isA_vectorOf, Bool.true_and] at boxed
    exact .of_depth 2 boxed
  · intro value foreign
    have boxed (depth : Nat) : answer library (family options) (depth + 1)
        (.method (vectorOf type (embed ∘ first)) "Equals" [.boxed value]) =
          .ok (.truth (value.isA type.name && false)) :=
      run_equals_object free fun typed => by simp [foreign] at typed
    simp only [Bool.and_false] at boxed
    exact .of_depth 1 boxed
  · exact .of_depth 1 fun _ => run_hashCode (embed ∘ first)
  · exact each_injective comparable.injective first second

end VectorForge.Proofs.EqualityMeaning
