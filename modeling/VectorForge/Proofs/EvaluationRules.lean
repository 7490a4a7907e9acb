import VectorForge.Proofs.AcceptedNames
import VectorForge.Proofs.CodeMeaning
import VectorForge.Proofs.FamilyTyping

/-! How the forms evaluate that members are made of: components of vectors, pairs of them,
and sequences with one part for each component. -/

namespace VectorForge.Proofs.EvaluationRules
open CodeSyntax MemberCode CodeMeaning

/-- A vector with these components. -/
def vectorOf (type : VectorType) (component : Component → Datum α) : Datum α :=
  .vector type.name (each type fun position => (position.name, component position))

theorem component_name_iff {first second : Component} :
    first.name = second.name ↔ first = second := by
  cases first <;> cases second <;> simp [Component.name]

theorem lookup_keyed {key : Component → String} (distinct : Function.Injective key)
    {components : List Component} {component : Component} (inside : component ∈ components)
    (value : Component → β) :
    (components.map fun position => (key position, value position)).lookup (key component) =
      some (value component) := by
  induction components with
  | nil => cases inside
  | cons first rest ih =>
    by_cases same : component = first
    · simp [same]
    · have different : key component ≠ key first := distinct.ne same
      rcases List.mem_cons.mp inside with rfl | further
      · exact absurd rfl same
      · simpa [List.lookup_cons, beq_false_of_ne different] using ih further

theorem lookup_component {components : List Component} {component : Component}
    (inside : component ∈ components) (value : Component → β) :
    (components.map fun position => (position.name, value position)).lookup component.name =
      some (value component) :=
  lookup_keyed (fun _ _ => component_name_iff.mp) inside value

theorem lookup_absent {components : List Component} {name : String}
    (absent : ∀ component : Component, component.name ≠ name) (value : Component → β) :
    (components.map fun position => (position.name, value position)).lookup name = none := by
  rw [List.lookup_eq_none_iff]
  intro entry member
  obtain ⟨component, -, rfl⟩ := List.mem_map.mp member
  simpa using (absent component).symm

section Fields
variable {type : VectorType} {component : Component}

theorem field_vectorOf (inside : component ∈ type.dimension.components)
    (value : Component → Datum α) :
    (vectorOf type value).field? component.name = some (value component) :=
  lookup_component inside value

theorem field_absent {name : String} (absent : ∀ component : Component, component.name ≠ name)
    (value : Component → Datum α) : (vectorOf type value).field? name = none :=
  lookup_absent absent value

theorem isA_vectorOf (value : Component → Datum α) : (vectorOf type value).isA type.name = true := by
  simp [vectorOf, Datum.isA]

end Fields

section Names
variable {names : ArgumentNames}

theorem find_first (first second : Datum α) :
    (Frame.mk [(names.first, first), (names.second, second)] none).find? names.first =
      some first := by
  simp [Frame.find?]

theorem find_second (accepted : AcceptedNames.Accepted names) (first second : Datum α) :
    (Frame.mk [(names.first, first), (names.second, second)] none).find? names.second =
      some second := by
  simp [Frame.find?, List.lookup_cons, beq_false_of_ne accepted.second_ne_first]

theorem find_single (value : Datum α) (self : Option (Datum α)) :
    (Frame.mk [(names.single, value)] self).find? names.single = some value := by
  simp [Frame.find?]

theorem find_own {type : VectorType} {component : Component} {locals : List (String × Datum α)}
    (shown : locals.lookup component.name = none) (inside : component ∈ type.dimension.components)
    (self : Component → Datum α) :
    (Frame.mk locals (some (vectorOf type self))).find? component.name = some (self component) := by
  simp [Frame.find?, shown, field_vectorOf inside]

end Names

variable [LinearOrder α] {library : Library α} {calls : Call α → Result (Datum α)}
  {frame : Frame α} {type : VectorType} {component : Component}

theorem evaluate_name {name : String} {value : Datum α} (found : frame.find? name = some value) :
    evaluate library calls frame (.name name) = .ok value := by
  rw [evaluate, found]
  rfl

theorem evaluate_part {vector : String} {value : Component → Datum α}
    (found : frame.find? vector = some (vectorOf type value))
    (inside : component ∈ type.dimension.components) :
    evaluate library calls frame (part vector component) = .ok (value component) := by
  rw [part, evaluate, evaluate_name found]
  simp only [bind, Except.bind, selected, field_vectorOf inside]
  rfl

theorem evaluate_own {self : Component → Datum α} (inside : component ∈ type.dimension.components) :
    evaluate library calls { self := some (vectorOf type self) } (own component) =
      .ok (self component) := evaluate_name (find_own rfl inside self)

/-- A symbol between two values, when it is not one that may leave out its second operand. -/
theorem evaluate_pair {symbol : String} {left right : Expression} {first second : Datum α}
    (both : symbol ≠ "&&") (either : symbol ≠ "||")
    (one : evaluate library calls frame left = .ok first)
    (other : evaluate library calls frame right = .ok second) :
    evaluate library calls frame (pair symbol left right) =
      applied library calls symbol first second := by
  simp only [pair, evaluate, evaluateAll, one, other, both, either, bind, Except.bind, pure,
    Except.pure, if_false, List.foldlM_cons, List.foldlM_nil]
  cases applied library calls symbol first second <;> rfl

theorem comparison_ne {symbol : String} (compares : symbol ∈ comparisonSymbols) :
    symbol ≠ "&&" ∧ symbol ≠ "||" := by
  constructor <;> rintro rfl <;> revert compares <;> decide

theorem applied_numbers {symbol : String} (compares : symbol ∈ comparisonSymbols)
    (first second : α) :
    applied library calls symbol (.number first) (.number second) =
      .ok (.truth (related symbol first second)) := by
  simp only [applied, compares, if_true]
  rfl

theorem applied_truths {symbol : String} (compares : symbol ∈ ["==", "!="]) (first second : Bool) :
    applied library calls symbol (.truth first) (.truth second) =
      .ok (.truth (related symbol first second)) := by
  simp only [applied, compares, if_true]
  rfl

theorem applied_arithmetic {symbol : String} (calculates : symbol ∈ arithmeticSymbols)
    (first second : α) :
    applied library calls symbol (.number first) (.number second) =
      .number <$> library.arithmetic symbol first second := by
  have compares : symbol ∉ comparisonSymbols := by
    revert symbol
    decide
  simp only [applied, compares, if_false]

theorem applied_vectors {symbol : String} (first second : Component → Datum α) :
    applied library calls symbol (vectorOf type first) (vectorOf type second) =
      calls (.operator symbol [vectorOf type first, vectorOf type second]) := rfl

theorem evaluateAll_map {items : List ι} {form : ι → Expression} {value : ι → Datum α}
    (evaluates : ∀ item ∈ items, evaluate library calls frame (form item) = .ok (value item)) :
    evaluateAll library calls frame (items.map form) = .ok (items.map value) := by
  induction items with
  | nil => rfl
  | cons item items ih =>
    simp only [List.map_cons, evaluateAll, evaluates item (by simp),
      ih fun other member => evaluates other (by simp [member])]
    rfl

theorem evaluateAll_nil : evaluateAll library calls frame [] = .ok [] := rfl

theorem evaluateAll_cons {first : Expression} {rest : List Expression} {value : Datum α}
    {values : List (Datum α)} (one : evaluate library calls frame first = .ok value)
    (others : evaluateAll library calls frame rest = .ok values) :
    evaluateAll library calls frame (first :: rest) = .ok (value :: values) := by
  rw [evaluateAll, one, others]
  rfl

/-- Parts that can all fail in one way only do so as a whole if one of them does. -/
theorem evaluateAll_fails {items : List ι} {form : ι → Expression} {halt : Halt}
    (evaluates : ∀ item ∈ items, evaluate library calls frame (form item) = .error halt ∨
      ∃ value, evaluate library calls frame (form item) = .ok value)
    (fails : ∃ item ∈ items, evaluate library calls frame (form item) = .error halt) :
    evaluateAll library calls frame (items.map form) = .error halt := by
  induction items with
  | nil => simp at fails
  | cons item items ih =>
    rcases evaluates item (by simp) with failed | ⟨value, succeeded⟩
    · simp only [List.map_cons, evaluateAll, failed]
      rfl
    · have further : ∃ other ∈ items, evaluate library calls frame (form other) = .error halt := by
        obtain ⟨other, member, failed⟩ := fails
        rcases List.mem_cons.mp member with rfl | member
        · simp [succeeded] at failed
        · exact ⟨other, member, failed⟩
      simp only [List.map_cons, evaluateAll, succeeded,
        ih (fun other member => evaluates other (by simp [member])) further]
      rfl

theorem evaluate_chain {symbol : String} {operands : List Expression} {first : Datum α}
    {rest : List (Datum α)} (both : symbol ≠ "&&") (either : symbol ≠ "||")
    (values : evaluateAll library calls frame operands = .ok (first :: rest)) :
    evaluate library calls frame (.chain symbol operands) =
      rest.foldlM (applied library calls symbol) first := by
  rw [evaluate, if_neg both, if_neg either, values]
  rfl

theorem everyHolds_cons {first : Expression} {truth : Bool}
    (evaluates : evaluate library calls frame first = .ok (.truth truth))
    (rest : List Expression) :
    everyHolds library calls frame (first :: rest) =
      if truth then everyHolds library calls frame rest else .ok false := by
  cases first with
  | test object type bound => cases evaluates
  | _ =>
    rw [everyHolds, evaluates]
    · rfl
    · intro object type bound test
      cases test

theorem everyHolds_map {items : List ι} {form : ι → Expression} {holds : ι → Bool}
    (evaluates : ∀ item ∈ items,
      evaluate library calls frame (form item) = .ok (.truth (holds item))) :
    everyHolds library calls frame (items.map form) = .ok (items.all holds) := by
  induction items with
  | nil => rfl
  | cons item items ih =>
    rw [List.map_cons, everyHolds_cons (evaluates item (by simp)), List.all_cons,
      ih fun other member => evaluates other (by simp [member])]
    cases holds item <;> rfl

theorem someHolds_map {items : List ι} {form : ι → Expression} {holds : ι → Bool}
    (evaluates : ∀ item ∈ items,
      evaluate library calls frame (form item) = .ok (.truth (holds item))) :
    someHolds library calls frame (items.map form) = .ok (items.any holds) := by
  induction items with
  | nil => rfl
  | cons item items ih =>
    have further := ih fun other member => evaluates other (by simp [member])
    simp only [List.map_cons, someHolds, evaluates item (by simp), bind, Except.bind, Datum.holds,
      pure, Except.pure, further, List.any_cons]
    cases holds item <;> rfl

theorem evaluate_every {conditions : List Expression} {truth : Bool}
    (holds : everyHolds library calls frame conditions = .ok truth) :
    evaluate library calls frame (.chain "&&" conditions) = .ok (.truth truth) := by
  rw [evaluate, if_pos rfl, holds]
  rfl

theorem evaluate_some {conditions : List Expression} {truth : Bool}
    (holds : someHolds library calls frame conditions = .ok truth) :
    evaluate library calls frame (.chain "||" conditions) = .ok (.truth truth) := by
  rw [evaluate, if_neg (by decide), if_pos rfl, holds]
  rfl

/-- A routine of a static class, unless a variable or a field hides the class. -/
theorem evaluate_routine {holder method : String} {arguments : List Expression}
    {values : List (Datum α)} (free : frame.find? holder = none)
    (evaluates : evaluateAll library calls frame arguments = .ok values) :
    evaluate library calls frame (routine holder method arguments) =
      library.routine holder method values := by
  have static : frame.class? (.name holder) = some holder := by simp [Frame.class?, free]
  rw [routine, evaluate, static, evaluates]
  rfl

/-- A method of the struct itself, unless a variable hides it. -/
theorem evaluate_call {method : String} {arguments : List Expression} {self : Datum α}
    {values : List (Datum α)} (free : frame.find? method = none) (own : frame.self = some self)
    (evaluates : evaluateAll library calls frame arguments = .ok values) :
    evaluate library calls frame (.call method arguments) = calls (.method self method values) := by
  rw [evaluate, free, own, evaluates]
  rfl

/-- A method of the value of an expression that is not the name of a class. -/
theorem evaluate_invoke {object : Expression} {method : String} {arguments : List Expression}
    {self : Datum α} {values : List (Datum α)} (dynamic : frame.class? object = none)
    (one : evaluate library calls frame object = .ok self)
    (others : evaluateAll library calls frame arguments = .ok values) :
    evaluate library calls frame (.invoke object method arguments) =
      calls (.method self method values) := by
  rw [evaluate, dynamic]
  simp only [one, others]
  rfl

theorem allIntact_map {items : List ι} {form : ι → Expression}
    (whole : ∀ item ∈ items, intact (form item) = true) : allIntact (items.map form) = true := by
  induction items with
  | nil => rfl
  | cons item items ih =>
    rw [List.map_cons, allIntact, whole item (by simp),
      ih fun other member => whole other (by simp [member])]
    rfl

theorem strength_comparison {symbol : String} (compares : symbol ∈ comparisonSymbols) :
    3 < strength symbol ∧ strength symbol < 9 := by
  simp only [comparisonSymbols, List.mem_cons, List.not_mem_nil, or_false] at compares
  rcases compares with rfl | rfl | rfl | rfl | rfl | rfl <;> decide

theorem pair_intact {symbol : String} (weaker : strength symbol < 9) {left right : Expression}
    (first : cohesion left = 9) (second : cohesion right = 9) (whole : intact left = true)
    (other : intact right = true) : intact (pair symbol left right) = true := by
  simp [pair, intact, allIntact, first, second, whole, other, weaker]

theorem chain_intact {symbol : String} {items : List ι} {form : ι → Expression}
    (weaker : ∀ item, strength symbol < cohesion (form item))
    (whole : ∀ item, intact (form item) = true) :
    intact (.chain symbol (items.map form)) = true := by
  simp [intact, allIntact_map fun item _ => whole item, weaker]

/-- A comparison can stand between connectives. -/
theorem comparison_joins {symbol : String} (compares : symbol ∈ comparisonSymbols)
    {left right : Expression} (first : cohesion left = 9 ∧ intact left = true)
    (second : cohesion right = 9 ∧ intact right = true) :
    3 < cohesion (pair symbol left right) ∧ intact (pair symbol left right) = true := by
  obtain ⟨stronger, weaker⟩ := strength_comparison compares
  exact ⟨stronger, pair_intact weaker first.1 second.1 first.2 second.2⟩

theorem returned_build {arguments : List Expression} {values : List (Datum α)} {result : String}
    (whole : allIntact arguments = true)
    (evaluates : evaluateAll library calls frame arguments = .ok values) :
    returned library calls result frame (.build arguments) = calls (.build result values) := by
  simp only [returned, intact, whole, if_true, evaluates]
  rfl

theorem returned_fails {arguments : List Expression} {halt : Halt} {result : String}
    (whole : allIntact arguments = true)
    (fails : evaluateAll library calls frame arguments = .error halt) :
    returned library calls result frame (.build arguments) = .error halt := by
  simp only [returned, intact, whole, if_true, fails]
  rfl

theorem returned_value {body : Expression} {result : String} (whole : intact body = true)
    (plain : ∀ arguments, body ≠ .build arguments) :
    returned library calls result frame body = evaluate library calls frame body := by
  cases body with
  | build arguments => exact absurd rfl (plain arguments)
  | _ => exact if_pos whole

section Connectives
variable {items : List ι} {form : ι → Expression} {holds : ι → Bool} {result : String}
  (joins : ∀ item, 3 < cohesion (form item) ∧ intact (form item) = true)
  (evaluates : ∀ item ∈ items,
    evaluate library calls frame (form item) = .ok (.truth (holds item)))
include joins evaluates

theorem returned_every :
    returned library calls result frame (.chain "&&" (items.map form)) =
      .ok (.truth (items.all holds)) := by
  have stronger (item : ι) : strength "&&" < cohesion (form item) := (joins item).1
  have whole : intact (.chain "&&" (items.map form)) = true :=
    chain_intact stronger fun item => (joins item).2
  rw [returned_value whole (fun _ built => by cases built)]
  exact evaluate_every (everyHolds_map evaluates)

theorem returned_some :
    returned library calls result frame (.chain "||" (items.map form)) =
      .ok (.truth (items.any holds)) := by
  have stronger (item : ι) : strength "||" < cohesion (form item) :=
    Nat.lt_trans (by decide) (joins item).1
  have whole : intact (.chain "||" (items.map form)) = true :=
    chain_intact stronger fun item => (joins item).2
  rw [returned_value whole (fun _ built => by cases built)]
  exact evaluate_some (someHolds_map evaluates)

end Connectives

end VectorForge.Proofs.EvaluationRules
