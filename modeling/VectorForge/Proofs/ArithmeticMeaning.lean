import VectorForge.Proofs.ExactNumbers
import VectorForge.Proofs.NumericVectors

/-! What arithmetic on numeric vectors computes: the same operation in each component. -/

namespace VectorForge.Proofs.ArithmeticMeaning
open CodeSyntax MemberCode CodeMeaning StructCode EvaluationRules FamilyMembers NumericVectors
open AcceptedNames OperatorCode ExactNumbers
open ComparisonMeaning (numbers)

variable {options : Options} {type : VectorType} {symbol : String}

theorem arithmetic_ne (calculates : symbol ∈ arithmeticSymbols) :
    symbol ≠ "&&" ∧ symbol ≠ "||" := by
  constructor <;> rintro rfl <;> revert calculates <;> decide

theorem strength_arithmetic (calculates : symbol ∈ arithmeticSymbols) :
    strength symbol < 9 := by
  revert symbol
  decide

/-- The operators with a symbol, in the order of their declaration. -/
theorem arithmetic_selected (numeric : type.kind.isNumeric)
    (calculates : symbol ∈ arithmeticSymbols) :
    having (isOperator symbol) (operations (declared type options)) =
      vectorArithmetic type options.arguments symbol
        :: scalarArithmetic type options.arguments symbol
        :: (if symbol = "-" then [negation type options.arguments] else []) := by
  rw [having_numeric numeric (conversion_not_operator symbol options.arguments)]
  simp only [arithmeticSymbols, List.mem_cons, List.not_mem_nil, or_false] at calculates
  rcases calculates with rfl | rfl | rfl | rfl | rfl <;> rfl

variable [LinearOrder α] {library : Library α} {structs : List Struct}
  [included : Includes structs options]

/-- Operands that are both whole numbers of components. -/
theorem evaluate_arithmetic {calls : Call α → Result (Datum α)} {frame : Frame α}
    {left right : Expression} {first second : α} (calculates : symbol ∈ arithmeticSymbols)
    (one : evaluate library calls frame left = .ok (.number first))
    (other : evaluate library calls frame right = .ok (.number second)) :
    evaluate library calls frame (pair symbol left right) =
      .number <$> library.arithmetic symbol first second := by
  obtain ⟨both, either⟩ := arithmetic_ne calculates
  exact (evaluate_pair both either one other).trans (applied_arithmetic calculates first second)

section Operators
variable (numeric : type.kind.isNumeric) (accepted : Accepted options.arguments)
include included numeric accepted

theorem vectors_computed (calculates : symbol ∈ arithmeticSymbols)
    (first second : Component → α) :
    Computes library structs type (.operator symbol [numbers type first, numbers type second])
      fun component => library.arithmetic symbol (first component) (second component) := by
  apply computes_of_body numeric
  · intro calls
    exact run_operator (arithmetic_selected numeric calculates) rfl _ _
  · intro component
    exact pair_intact (strength_arithmetic calculates) rfl rfl rfl rfl
  · intro calls component inside
    exact evaluate_arithmetic calculates (evaluate_part (find_first _ _) inside)
      (evaluate_part (find_second accepted _ _) inside)

theorem scalar_computed (calculates : symbol ∈ arithmeticSymbols)
    (vector : Component → α) (scalar : α) :
    Computes library structs type (.operator symbol [numbers type vector, .number scalar])
      fun component => library.arithmetic symbol (vector component) scalar := by
  have candidates : having (isOperator symbol)
      ([numbers type vector, .number scalar].flatMap (operationsOf structs)) =
        having (isOperator symbol) (operations (declared type options)) := by
    rw [numbers, List.flatMap_cons, List.flatMap_cons, List.flatMap_nil, operationsOf_vectorOf]
    exact congrArg _ (List.append_nil _)
  have refused : bound? (fun _ => none) (vectorArithmetic type options.arguments symbol).parameters
      [numbers type vector, .number scalar] = none := by
    simp [vectorArithmetic, vectorPair, bound?, numbers, isA_vectorOf, isA_name]
  have given : bound? (fun _ => none) (scalarArithmetic type options.arguments symbol).parameters
      [numbers type vector, .number scalar] =
        some [(options.arguments.single, numbers type vector),
          (options.arguments.scalar, .number scalar)] := by
    simp [scalarArithmetic, bound?, numbers, isA_vectorOf, isA_element numeric]
  let frame : Frame α := { locals := [(options.arguments.single, numbers type vector),
    (options.arguments.scalar, .number scalar)] }
  have single : frame.find? options.arguments.single = some (numbers type vector) := by
    simp [frame, Frame.find?]
  have second : frame.find? options.arguments.scalar = some (.number scalar) := by
    simp [frame, Frame.find?, List.lookup_cons, beq_false_of_ne accepted.scalar_ne_single]
  apply computes_of_body numeric
  · intro calls
    rw [run, overload?_second (candidates.trans (arithmetic_selected numeric calculates)) refused given]
    rfl
  · intro component
    exact pair_intact (strength_arithmetic calculates) rfl rfl rfl rfl
  · intro calls component inside
    exact evaluate_arithmetic calculates (evaluate_part single inside) (evaluate_name second)

omit accepted in
theorem negation_computed (vector : Component → α) :
    Computes library structs type (.operator "-" [numbers type vector])
      fun component => .ok (library.negated (vector component)) := by
  have candidates : having (isOperator "-") ([numbers type vector].flatMap (operationsOf structs)) =
      [vectorArithmetic type options.arguments "-", scalarArithmetic type options.arguments "-",
        negation type options.arguments] := by
    rw [numbers, List.flatMap_cons, List.flatMap_nil, operationsOf_vectorOf, List.append_nil]
    exact arithmetic_selected numeric (by decide)
  have chosen : overload? ([numbers type vector].flatMap (operationsOf structs)) (isOperator "-")
      [numbers type vector] =
        some (negation type options.arguments, [(options.arguments.single, numbers type vector)]) := by
    apply overload?_only
    · rw [candidates]
      simp
    · simp [negation, sourceVector, bound?, numbers, isA_vectorOf]
    · intro other declared different
      rw [candidates] at declared
      simp only [List.mem_cons, List.not_mem_nil, or_false, different] at declared
      rcases declared with rfl | rfl
      · simp [vectorArithmetic, vectorPair, bound?]
      · simp [scalarArithmetic, bound?]
  let frame : Frame α := { locals := [(options.arguments.single, numbers type vector)] }
  have single : frame.find? options.arguments.single = some (numbers type vector) := by
    simp [frame, Frame.find?]
  apply computes_of_body numeric
  · intro calls
    rw [run, chosen]
    rfl
  · intro component
    rfl
  · intro calls component inside
    rw [evaluate, evaluate_part single inside]
    rfl

end Operators

variable [CommRing α] {given : Routines α} {call : Call α} {first second : Component → α}

/-- A call computes a value for each component, unless one of them is divided by zero. -/
structure Operates (given : Routines α) (structs : List Struct) (type : VectorType)
    (symbol : String) (call : Call α) (first second : Component → α) : Prop where
  computed : (∀ component ∈ type.dimension.components, ¬Undefined symbol (second component)) →
    Answers (exact given) structs call
      (.ok (numbers type fun component => given.value symbol (first component) (second component)))
  thrown : (∃ component ∈ type.dimension.components, Undefined symbol (second component)) →
    Answers (exact given) structs call (.error (.thrown "DivideByZeroException"))

omit included in
theorem operates_of_computes (calculates : symbol ∈ arithmeticSymbols)
    (computes : Computes (exact given) structs type call fun component =>
      (exact given).arithmetic symbol (first component) (second component)) :
    Operates given structs type symbol call first second := by
  constructor
  · intro defined
    apply computes.computed
    intro component inside
    exact exact_defined calculates (defined component inside) _
  · intro ⟨component, inside, undefined⟩
    apply computes.failed
    · intro other _
      by_cases divided : Undefined symbol (second other)
      · exact .inl (exact_undefined divided _)
      · exact .inr ⟨_, exact_defined calculates divided _⟩
    · exact ⟨component, inside, exact_undefined undefined _⟩

end VectorForge.Proofs.ArithmeticMeaning
