import VectorForge.Proofs.ComparisonMeaning

/-! Members whose result is a numeric vector with one part of the body for each component. -/

namespace VectorForge.Proofs.NumericVectors
open CodeSyntax MemberCode CodeMeaning StructCode EvaluationRules FamilyMembers ConstructedVectors
open ComparisonMeaning (numbers)
open FamilyTyping (two_le_size)

variable {type target : VectorType}

theorem take_size (dimension : Dimension) :
    dimension.components.take dimension.size = dimension.components := by
  rw [Dimension.components, List.take_take, Nat.min_self]

theorem isA_element (numeric : type.kind.isNumeric) (value : α) :
    (Datum.number value).isA type.kind.element = true := by
  obtain ⟨kind, dimension⟩ := type
  cases kind <;> first | rfl | cases numeric

/-- No vector type bears the name of a type of numbers. -/
theorem isA_name (type : VectorType) (value : α) : (Datum.number value).isA type.name = false := by
  have other : type.name ∉ Kind.numeric.map Kind.element := by
    obtain ⟨kind, dimension⟩ := type
    cases kind <;> cases dimension <;> decide
  exact decide_eq_false other

/-- What is neither a variable nor a component has no value of its own. -/
theorem find_free {locals : List (String × Datum α)} {name : String}
    (unbound : locals.lookup name = none) (absent : ∀ component : Component, component.name ≠ name)
    (self : Component → α) : (Frame.mk locals (some (numbers type self))).find? name = none := by
  simp [Frame.find?, unbound, numbers, field_absent absent]

theorem find_beside {single name : String} (other : single ≠ name)
    (absent : ∀ component : Component, component.name ≠ name) (value : Datum α)
    (self : Component → α) :
    (Frame.mk [(single, value)] (some (numbers type self))).find? name = none :=
  find_free (by simp [List.lookup_cons, beq_false_of_ne other.symm]) absent self

variable [LinearOrder α]

/-- A call gives a vector of such numbers. Where a number cannot be computed, neither can the
vector. -/
structure Computes (library : Library α) (structs : List Struct) (target : VectorType)
    (call : Call α) (outcome : Component → Result α) : Prop where
  computed : ∀ value : Component → α,
    (∀ component ∈ target.dimension.components, outcome component = .ok (value component)) →
    Answers library structs call (.ok (numbers target value))
  failed : ∀ halt : Halt,
    (∀ component ∈ target.dimension.components,
      outcome component = .error halt ∨ ∃ value, outcome component = .ok value) →
    (∃ component ∈ target.dimension.components, outcome component = .error halt) →
    Answers library structs call (.error halt)

variable {library : Library α} {structs : List Struct} {options : Options}
  [included : Includes structs options] {calls : Call α → Result (Datum α)}
include included

theorem build_numbers (numeric : type.kind.isNumeric) (value : Component → α) :
    run library structs calls (.build type.name (each type (Datum.number ∘ value))) =
      .ok (numbers type value) := by
  have arguments : each type (Datum.number ∘ value) =
      (type.dimension.components.take type.dimension.size).map (Datum.number ∘ value) := by
    rw [take_size, each]
  have several : type.dimension.size ≠ 1 := by
    have two := two_le_size type
    omega
  rw [arguments]
  refine build_componentwise ?_ ?_ several
  · intro component _
    exact isA_element numeric (value component)
  · simp [Dimension.components]

section Bodies
variable {call : Call α} {frame : Frame α} {form : Component → Expression}
  {outcome : Component → Result α}

/-- A vector is built of the parts of a body if calls that are nested once more than not at all
answer what the parts ask. -/
theorem computes_of_answers (numeric : target.kind.isNumeric)
    (runs : ∀ calls, run library structs calls call =
      returned library calls target.name frame (.build (each target form)))
    (whole : ∀ component, intact (form component) = true)
    (evaluates : ∀ depth, ∀ component ∈ target.dimension.components,
      evaluate library (answer library structs (depth + 1)) frame (form component) =
        .number <$> outcome component) :
    Computes library structs target call outcome := by
  have unbroken : allIntact (each target form) = true :=
    allIntact_map fun component _ => whole component
  constructor
  · intro value computed
    refine .of_run 1 fun depth deep => ?_
    obtain ⟨further, rfl⟩ := Nat.exists_eq_add_of_le' deep
    have values : evaluateAll library (answer library structs (further + 1)) frame
        (each target form) = .ok (each target (Datum.number ∘ value)) := by
      apply evaluateAll_map
      intro component inside
      rw [evaluates _ component inside, computed component inside]
      rfl
    rw [runs, returned_build unbroken values]
    exact build_numbers numeric value
  · intro halt either fails
    refine .of_run 1 fun depth deep => ?_
    obtain ⟨further, rfl⟩ := Nat.exists_eq_add_of_le' deep
    rw [runs]
    apply returned_fails unbroken
    apply evaluateAll_fails
    · intro component inside
      rw [evaluates _ component inside]
      rcases either component inside with failed | ⟨value, computed⟩
      · rw [failed]
        exact .inl rfl
      · rw [computed]
        exact .inr ⟨.number value, rfl⟩
    · obtain ⟨component, inside, failed⟩ := fails
      refine ⟨component, inside, ?_⟩
      rw [evaluates _ component inside, failed]
      rfl

/-- Parts that call nothing have the same values at any depth. -/
theorem computes_of_body (numeric : target.kind.isNumeric)
    (runs : ∀ calls, run library structs calls call =
      returned library calls target.name frame (.build (each target form)))
    (whole : ∀ component, intact (form component) = true)
    (evaluates : ∀ calls, ∀ component ∈ target.dimension.components,
      evaluate library calls frame (form component) = .number <$> outcome component) :
    Computes library structs target call outcome :=
  computes_of_answers numeric runs whole fun _ => evaluates _

end Bodies

end VectorForge.Proofs.NumericVectors
