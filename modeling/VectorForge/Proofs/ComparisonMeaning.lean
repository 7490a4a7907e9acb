import Mathlib.Data.Int.Order.Basic
import VectorForge.Proofs.ConstructedVectors
import VectorForge.Proofs.EqualityMeaning

/-! What comparisons of vectors compute. Numeric vectors compare to a mask, which is built by
the constructor of a struct from another file; boolean ones compare to a single truth. -/

namespace VectorForge.Proofs.ComparisonMeaning
open CodeSyntax MemberCode CodeMeaning StructCode EvaluationRules FamilyMembers ConstructedVectors
open AcceptedNames OperatorCode EqualityMeaning
open FamilyTyping (two_le_size)

def numbers (type : VectorType) (value : Component → α) : Datum α :=
  vectorOf type (.number ∘ value)

def truths (type : VectorType) (value : Component → Bool) : Datum α :=
  vectorOf type (.truth ∘ value)

variable [LinearOrder α] {library : Library α} {calls : Call α → Result (Datum α)}
  {options : Options} {type mask : VectorType}

theorem compared_inside {component : Component} (both : component ∈ compared type mask) :
    component ∈ type.dimension.components := by
  rw [compared, Nat.min_comm, ← List.take_take] at both
  exact List.mem_of_mem_take both

theorem evaluate_operands (accepted : Accepted options.arguments) {symbol : String}
    (compares : symbol ∈ comparisonSymbols) {first second : Component → Datum α}
    {component : Component} (inside : component ∈ type.dimension.components) :
    evaluate library calls
        { locals := [(options.arguments.first, vectorOf type first),
            (options.arguments.second, vectorOf type second)] }
        (pair symbol (part options.arguments.first component)
          (part options.arguments.second component)) =
      applied library calls symbol (first component) (second component) := by
  obtain ⟨both, either⟩ := comparison_ne compares
  exact evaluate_pair both either (evaluate_part (find_first _ _) inside)
    (evaluate_part (find_second accepted _ _) inside)

theorem operands_join {symbol : String} (compares : symbol ∈ comparisonSymbols)
    (names : ArgumentNames) (component : Component) :
    3 < cohesion (pair symbol (part names.first component) (part names.second component)) ∧
      intact (pair symbol (part names.first component) (part names.second component)) = true :=
  comparison_joins compares ⟨rfl, rfl⟩ ⟨rfl, rfl⟩

/-- The body of a comparison compares the components that the operands and the mask share. -/
theorem comparison_returned (accepted : Accepted options.arguments) {symbol : String}
    (compares : symbol ∈ comparisonSymbols) (result : String) (first second : Component → α) :
    returned library calls result
        { locals := [(options.arguments.first, numbers type first),
            (options.arguments.second, numbers type second)] }
        (comparison type mask options.arguments symbol).body =
      calls (.build result ((compared type mask).map fun component =>
        .truth (related symbol (first component) (second component)))) := by
  apply returned_build (allIntact_map fun component _ => (operands_join compares _ component).2)
  apply evaluateAll_map
  intro component both
  exact (evaluate_operands accepted compares (compared_inside both)).trans
    (applied_numbers compares _ _)

theorem index_of_take {component : Component} {count : Nat} :
    component ∈ Component.all.take count ↔ component.index < count := by
  rcases count with _ | _ | _ | _ | _ | further <;>
    cases component <;> simp [Component.all, Component.index]

theorem index_of_drop {component : Component} {count : Nat}
    (member : component ∈ Component.all.drop count) : count ≤ component.index := by
  have distinct : Component.all.Nodup := by decide
  by_contra below
  have early := index_of_take.mpr (Nat.not_le.mp below)
  exact List.disjoint_take_drop distinct (Nat.le_refl count) early member

/-- What a comparison says of the components: nothing holds of those that are not shared. -/
def shared (type mask : VectorType) (symbol : String) (first second : Component → α) :
    Component → Bool := fun component =>
  component.index < min type.dimension.size mask.dimension.size &&
    related symbol (first component) (second component)

theorem build_mask (boolean : mask.kind = .bool) (symbol : String) (first second : Component → α) :
    run library (family options) calls (.build mask.name ((compared type mask).map fun component =>
        .truth (related symbol (first component) (second component)))) =
      .ok (truths mask (shared type mask symbol first second)) := by
  have several : 2 ≤ min type.dimension.size mask.dimension.size :=
    Nat.le_min.mpr ⟨two_le_size type, two_le_size mask⟩
  have arguments : (compared type mask).map (fun component =>
        (.truth (related symbol (first component) (second component)) : Datum α)) =
      (mask.dimension.components.take (min type.dimension.size mask.dimension.size)).map
        fun component => .truth (shared type mask symbol first second component) := by
    rw [Dimension.components, List.take_take, Nat.min_assoc, Nat.min_self, compared]
    apply List.map_congr_left
    intro component both
    simp [shared, index_of_take.mp both]
  rw [arguments]
  refine build_componentwise ?_ ?_ (by omega)
  · intro component _
    simp [Datum.isA, boolean]
  · intro component omitted
    rw [Dimension.components, List.drop_take] at omitted
    have beyond := index_of_drop (List.mem_of_mem_take omitted)
    simp [shared, Nat.not_lt.mpr beyond, zero, boolean]

/-- The type of a mask: three truth values, or one for each component of the operands. -/
def maskOf (options : Options) (type : VectorType) : VectorType where
  kind := .bool
  dimension := if options.mask = .fixed3 then .three else type.dimension

theorem maskType_eq (options : Options) (type : VectorType) :
    options.mask.maskType type = maskOf options type := by
  rw [maskOf]
  cases options.mask <;> rfl

theorem answer_comparison (numeric : type.kind.isNumeric) (accepted : Accepted options.arguments)
    {symbol : String} (compares : symbol ∈ comparisonSymbols) (first second : Component → α)
    (depth : Nat) :
    answer library (family options) (depth + 2)
        (.operator symbol [numbers type first, numbers type second]) =
      .ok (truths (maskOf options type) (shared type (maskOf options type) symbol first second)) := by
  rw [answer, numbers, numbers, run_operator (comparison_selected numeric compares) rfl, maskType_eq]
  refine (comparison_returned accepted compares _ first second).trans ?_
  exact build_mask rfl symbol first second

theorem own_joins (component : Component) :
    3 < cohesion (own component) ∧ intact (own component) = true :=
  ⟨of_decide_eq_true rfl, rfl⟩

section Boolean
variable (boolean : mask.kind = .bool) (value : Component → Bool)
include boolean

theorem run_allTrue :
    run library (family options) calls (.property (truths mask value) "AllTrue") =
      .ok (.truth (mask.dimension.components.all value)) := by
  rw [truths, run_property (all_selected boolean) rfl]
  exact returned_every own_joins fun _ => evaluate_own

theorem run_anyTrue :
    run library (family options) calls (.property (truths mask value) "AnyTrue") =
      .ok (.truth (mask.dimension.components.any value)) := by
  rw [truths, run_property (any_selected boolean) rfl]
  exact returned_some own_joins fun _ => evaluate_own

theorem run_equal (accepted : Accepted options.arguments) (first second : Component → Bool) :
    run library (family options) calls (.operator "==" [truths mask first, truths mask second]) =
      .ok (.truth (decide (Same mask first second))) := by
  rw [truths, truths, run_operator (equal_selected boolean) rfl, ← every_same]
  apply returned_every
  · exact operands_join (by decide) options.arguments
  · intro component inside
    exact (evaluate_operands accepted (by decide) inside).trans (applied_truths (by decide) _ _)

theorem run_different (accepted : Accepted options.arguments) (first second : Component → Bool) :
    run library (family options) calls (.operator "!=" [truths mask first, truths mask second]) =
      .ok (.truth (!decide (Same mask first second))) := by
  rw [truths, truths, run_operator (different_selected boolean) rfl, ← some_different]
  apply returned_some
  · exact operands_join (by decide) options.arguments
  · intro component inside
    exact (evaluate_operands accepted (by decide) inside).trans (applied_truths (by decide) _ _)

end Boolean

section Results
variable (library : Library α) (options : Options) (type : VectorType)

/-- Comparisons of two numeric vectors, and how they go with equality. -/
structure ComparisonAgrees (first second : Component → α) : Prop where
  compared : ∀ symbol ∈ comparisonSymbols,
    Evaluates library (family options) (client (numbers type first) (numbers type second))
      (pair symbol left right)
      (.ok (truths (maskOf options type) (shared type (maskOf options type) symbol first second)))
  /-- A mask of the operands' dimension says all that equality says. -/
  all : (maskOf options type).dimension = type.dimension →
    Evaluates library (family options) (client (numbers type first) (numbers type second))
      (.select (.group (pair "==" left right)) "AllTrue")
      (.ok (.truth (decide (Same type first second))))
  any : (maskOf options type).dimension = type.dimension →
    Evaluates library (family options) (client (numbers type first) (numbers type second))
      (.select (.group (pair "!=" left right)) "AnyTrue")
      (.ok (.truth (!decide (Same type first second))))
  equality : EqualityAgrees library options type .number first second

/-- Comparisons of two boolean vectors, which are equality and its negation. -/
structure BooleanAgrees (first second : Component → Bool) : Prop where
  equal : Evaluates library (family options) (client (truths type first) (truths type second))
    (pair "==" left right) (.ok (.truth (decide (Same type first second))))
  different : Evaluates library (family options) (client (truths type first) (truths type second))
    (pair "!=" left right) (.ok (.truth (!decide (Same type first second))))
  equality : EqualityAgrees library options type .truth first second

end Results

section Shared
variable (sized : mask.dimension = type.dimension)
include sized

theorem shared_inside (symbol : String) (first second : Component → α) {component : Component}
    (inside : component ∈ type.dimension.components) :
    shared type mask symbol first second component =
      related symbol (first component) (second component) := by
  simp [shared, sized, index_of_take.mp inside]

theorem all_shared (first second : Component → α) :
    mask.dimension.components.all (shared type mask "==" first second) =
      decide (Same type first second) := by
  rw [← every_same, sized, Bool.eq_iff_iff, List.all_eq_true, List.all_eq_true]
  exact forall₂_congr fun component inside => by rw [shared_inside sized _ _ _ inside]

theorem any_shared (first second : Component → α) :
    mask.dimension.components.any (shared type mask "!=" first second) =
      !decide (Same type first second) := by
  rw [← some_different, sized, Bool.eq_iff_iff, List.any_eq_true, List.any_eq_true]
  exact exists_congr fun component => and_congr_right fun inside => by
    rw [shared_inside sized _ _ _ inside]

end Shared

theorem evaluate_client {symbol : String} (compares : symbol ∈ comparisonSymbols)
    (first second : Component → Datum α) :
    evaluate library calls (client (vectorOf type first) (vectorOf type second))
        (pair symbol left right) =
      calls (.operator symbol [vectorOf type first, vectorOf type second]) := by
  obtain ⟨both, either⟩ := comparison_ne compares
  have one : evaluate library calls (client (vectorOf type first) (vectorOf type second)) left =
      .ok (vectorOf type first) := rfl
  have other : evaluate library calls (client (vectorOf type first) (vectorOf type second)) right =
      .ok (vectorOf type second) := rfl
  exact (evaluate_pair both either one other).trans (applied_vectors first second)

/-- A property of what an expression in parentheses evaluates to. -/
theorem evaluate_property {frame : Frame α} {inner : Expression} {property : String}
    {value : Component → Datum α}
    (evaluates : evaluate library calls frame inner = .ok (vectorOf type value))
    (absent : ∀ component : Component, component.name ≠ property) :
    evaluate library calls frame (.select (.group inner) property) =
      calls (.property (vectorOf type value) property) := by
  rw [evaluate, evaluate, evaluates]
  simp only [bind, Except.bind, selected, field_absent absent]

theorem comparison_agrees (numeric : type.kind.isNumeric) (accepted : Accepted options.arguments)
    (free : options.arguments.single ≠ "Equals") (first second : Component → α) :
    ComparisonAgrees library options type first second := by
  have masked {symbol : String} (compares : symbol ∈ comparisonSymbols) (depth : Nat) :
      evaluate library (answer library (family options) (depth + 2))
        (client (numbers type first) (numbers type second)) (pair symbol left right) =
      .ok (truths (maskOf options type) (shared type (maskOf options type) symbol first second)) :=
    (evaluate_client compares _ _).trans
      (answer_comparison numeric accepted compares first second depth)
  constructor
  · intro symbol compares
    exact .of_depth 2 (masked compares)
  · intro sized
    apply Evaluates.of_depth 2
    intro depth
    rw [evaluate_property (masked (by decide) depth) (by rintro ⟨⟩ <;> decide),
      ← all_shared sized]
    exact run_allTrue rfl _
  · intro sized
    apply Evaluates.of_depth 2
    intro depth
    rw [evaluate_property (masked (by decide) depth) (by rintro ⟨⟩ <;> decide),
      ← any_shared sized]
    exact run_anyTrue rfl _
  · exact equality_agrees (numbers_comparable library) accepted free first second

theorem boolean_agrees (boolean : type.kind = .bool) (accepted : Accepted options.arguments)
    (free : options.arguments.single ≠ "Equals") (first second : Component → Bool) :
    BooleanAgrees library options type first second := by
  constructor
  · exact .of_depth 1 fun _ => (evaluate_client (by decide) _ _).trans
      (run_equal boolean accepted first second)
  · exact .of_depth 1 fun _ => (evaluate_client (by decide) _ _).trans
      (run_different boolean accepted first second)
  · exact equality_agrees (truths_comparable library) accepted free first second

/-- Comparison, equality and hashing agree in all files. Of the identifiers that the checks
leave open for the single argument, only the name of the method itself would hide it. -/
theorem vectors_agree (accepted : Config.checkNames [] options.arguments.toList = .ok ())
    (free : options.arguments.single ≠ "Equals") (library : Library α) :
    (∀ type : VectorType,
      generate type options = .ok (fileText options (declared type options))) ∧
    (∀ type : VectorType, type.kind.isNumeric = true → ∀ first second : Component → α,
      ComparisonAgrees library options type first second) ∧
    ∀ type : VectorType, type.kind = .bool → ∀ first second : Component → Bool,
      BooleanAgrees library options type first second := by
  have names := accepted_of_checkNames accepted
  refine ⟨?_, ?_, ?_⟩
  · intro type
    exact generate_eq type options
  · intro type numeric first second
    exact comparison_agrees numeric names free first second
  · intro type boolean first second
    exact boolean_agrees boolean names free first second

/-- Integers with their own arithmetic, and routines that count their arguments. -/
def integers : Library Int where
  literal number := number
  negated number := -number
  cast _ number := number
  arithmetic symbol first second :=
    match symbol with
    | "+" => .ok (first + second)
    | "-" => .ok (first - second)
    | "*" => .ok (first * second)
    | _ => .error .stuck
  routine _ _ arguments := .ok (.number arguments.length)

theorem integers_agree :
    Config.checkNames [] ({} : Options).arguments.toList = .ok () ∧
      ({} : Options).arguments.single ≠ "Equals" ∧
      Evaluates integers (family {})
        (client (numbers ⟨.int, .two⟩ fun component => component.index) (numbers ⟨.int, .two⟩ fun _ => 1))
        (pair "<" left right) (.ok (truths ⟨.bool, .three⟩ fun component => component = .x)) ∧
      BooleanAgrees integers {} ⟨.bool, .five⟩ (fun _ => true) (fun component => component = .c4) := by
  have accepted : Config.checkNames [] ({} : Options).arguments.toList = .ok () := by decide
  have free : ({} : Options).arguments.single ≠ "Equals" := by decide
  obtain ⟨-, numeric, boolean⟩ := vectors_agree accepted free integers
  refine ⟨accepted, free, ?_, boolean ⟨.bool, .five⟩ rfl _ _⟩
  have compared := (numeric ⟨.int, .two⟩ rfl (fun component => component.index) fun _ => 1).compared
    "<" (by decide)
  have mask : truths ⟨.bool, .three⟩ (shared ⟨.int, .two⟩ ⟨.bool, .three⟩ "<"
      (fun component => (component.index : Int)) fun _ => 1) =
        (truths ⟨.bool, .three⟩ fun component => component = .x : Datum Int) := by
    apply vectorOf_congr
    rintro ⟨⟩ inside <;> rfl
  rwa [← mask]

end VectorForge.Proofs.ComparisonMeaning
