import VectorForge.Proofs.EvaluationRules

/-! The members that calls select among the structs of all files. -/

namespace VectorForge.Proofs.FamilyMembers
open CodeSyntax MemberCode CodeMeaning StructCode EvaluationRules
open FamilyTyping (mem_all name_injective)

/-- The structs of all files. -/
def family (options : Options) : List Struct := VectorType.all.map fun type => declared type options

variable {options : Options} {type : VectorType}

theorem struct?_family (options : Options) (type : VectorType) :
    struct? (family options) type.name = some (declared type options) := by
  rw [struct?, family, List.find?_map]
  cases found : VectorType.all.find? _ with
  | none => exact absurd (decide_eq_true rfl) (List.find?_eq_none.mp found type (mem_all type))
  | some other =>
    have named := List.find?_some found
    have same : other = type := name_injective (of_decide_eq_true named)
    rw [same]
    rfl

/-- Structs among which those of all files are found. -/
class Includes (structs : List Struct) (options : outParam Options) : Prop where
  found : ∀ type : VectorType, struct? structs type.name = some (declared type options)

instance (options : Options) : Includes (family options) options := ⟨struct?_family options⟩

variable {structs : List Struct} [Includes structs options]

theorem operationsOf_vectorOf (value : Component → Datum α) :
    operationsOf structs (vectorOf type value) = operations (declared type options) := by
  simp only [operationsOf, vectorOf, Datum.structName?, Option.bind_some, Includes.found]
  rfl

theorem operations_declared : operations (declared type options) =
    (Plan.ofKind type.kind).sections.flatMap fun part =>
      (sectionCode type (options.mask.maskType type) options.arguments part).filterMap operation? := by
  simp only [operations, Struct.declarations, declared, structCode, List.flatMap_map,
    List.filterMap_flatMap]

theorem operations_map (operations : List Operation) :
    (operations.map Declaration.operation).filterMap operation? = operations := by
  rw [List.filterMap_map]
  exact List.filterMap_some

/-- What is no operation stands apart: fields, constants, constructors and indexers. -/
theorem operations_none {declarations : List Declaration}
    (apart : ∀ declaration ∈ declarations, operation? declaration = none) :
    declarations.filterMap operation? = [] := List.filterMap_eq_nil_iff.mpr apart

theorem numericProperties_apart : (FieldCode.numericProperties type).filterMap operation? = [] := by
  apply operations_none
  simp [FieldCode.numericProperties, FieldCode.fields, Members.namedConstants, operation?]

theorem indexers_apart : (FieldCode.indexers type).filterMap operation? = [] := by
  apply operations_none
  simp [FieldCode.indexers, FieldCode.componentIndexer, FieldCode.swizzle, operation?]

theorem constructors_apart (names : ArgumentNames) :
    (FieldCode.constructors type names).filterMap operation? = [] := by
  apply operations_none
  simp [FieldCode.constructors, operation?]

theorem numeric_or_boolean (kind : Kind) : kind.isNumeric = true ∨ kind = .bool := by
  cases kind <;> simp [Kind.isNumeric]

theorem planned_numeric {kind : Kind} (numeric : kind.isNumeric) : Plan.ofKind kind = .numeric := by
  cases kind <;> first | rfl | cases numeric

theorem operations_numeric (numeric : type.kind.isNumeric) :
    operations (declared type options) =
      OperatorCode.arithmetic type options.arguments
        ++ OperatorCode.comparisons type (options.mask.maskType type) options.arguments
        ++ OperatorCode.equality type options.arguments
        ++ (FunctionCode.functions type options.arguments).filterMap operation?
        ++ ConversionCode.conversions type options.arguments := by
  simp only [operations_declared, sectionCode, planned_numeric numeric, Plan.sections, Section.all, numericSection,
    List.flatMap_cons, List.flatMap_nil, operations_map, numericProperties_apart, indexers_apart,
    constructors_apart, List.nil_append, List.append_nil, List.append_assoc]

theorem operations_boolean (boolean : type.kind = .bool) :
    operations (declared type options) =
      FieldCode.maskProperties type
        ++ OperatorCode.booleanComparisons type options.arguments
        ++ OperatorCode.equality type options.arguments := by
  have planned : Plan.ofKind type.kind = .boolean := by rw [boolean]; rfl
  have properties : (FieldCode.booleanProperties type).filterMap operation? =
      FieldCode.maskProperties type := operations_map _
  simp only [operations_declared, sectionCode, planned, Plan.sections, booleanSection,
    List.flatMap_cons, List.flatMap_nil, operations_map, properties, constructors_apart,
    List.nil_append, List.append_nil, List.append_assoc]

/-- The operations with a role. -/
def having (hasRole : Role → Bool) (operations : List Operation) : List Operation :=
  operations.filter fun operation => hasRole operation.role

/-- Apart from conversions, the operations of a numeric struct are the same for all kinds. -/
theorem having_numeric (numeric : type.kind.isNumeric) {hasRole : Role → Bool}
    (other : ∀ step, hasRole (ConversionCode.conversion type options.arguments step).role = false) :
    having hasRole (operations (declared type options)) =
      having hasRole (OperatorCode.arithmetic type options.arguments
        ++ OperatorCode.comparisons type (options.mask.maskType type) options.arguments
        ++ OperatorCode.equality type options.arguments
        ++ (FunctionCode.functions type options.arguments).filterMap operation?) := by
  rw [operations_numeric numeric, having, List.filter_append, ConversionCode.conversions]
  have none : (type.conversions.map (ConversionCode.conversion type options.arguments)).filter
      (fun operation => hasRole operation.role) = [] := by
    simp [other]
  rw [none, List.append_nil]
  rfl

theorem conversion_not_operator (symbol : String) (names : ArgumentNames) (step : Conversion) :
    isOperator symbol (ConversionCode.conversion type names step).role = false := by
  cases step <;> rfl

theorem conversion_not_method {name : String} (other : ∀ mode : Rounding, mode.verb ++ "ToInt" ≠ name)
    (names : ArgumentNames) (step : Conversion) :
    isMethod name (ConversionCode.conversion type names step).role = false := by
  cases step with
  | rounding mode => exact decide_eq_false (other mode)
  | _ => rfl

theorem comparison_selected (numeric : type.kind.isNumeric) {symbol : String}
    (compares : symbol ∈ comparisonSymbols) :
    having (isOperator symbol) (operations (declared type options)) =
      [OperatorCode.comparison type (options.mask.maskType type) options.arguments symbol] := by
  rw [having_numeric numeric (conversion_not_operator symbol options.arguments)]
  simp only [comparisonSymbols, List.mem_cons, List.not_mem_nil, or_false] at compares
  rcases compares with rfl | rfl | rfl | rfl | rfl | rfl <;> rfl

theorem equals_selected (type : VectorType) (options : Options) :
    having (isMethod "Equals") (operations (declared type options)) =
      [OperatorCode.equalsObject type options.arguments,
        OperatorCode.equalsVector type options.arguments] := by
  rcases numeric_or_boolean type.kind with numeric | boolean
  · rw [having_numeric numeric (conversion_not_method (by rintro ⟨⟩ <;> decide) options.arguments)]
    rfl
  · rw [operations_boolean boolean]
    rfl

theorem hashCode_selected (type : VectorType) (options : Options) :
    having (isMethod "GetHashCode") (operations (declared type options)) =
      [OperatorCode.hashCode type] := by
  rcases numeric_or_boolean type.kind with numeric | boolean
  · rw [having_numeric numeric (conversion_not_method (by rintro ⟨⟩ <;> decide) options.arguments)]
    rfl
  · rw [operations_boolean boolean]
    rfl

section Boolean
variable (boolean : type.kind = .bool)
include boolean

theorem all_selected :
    having (isProperty "AllTrue") (operations (declared type options)) =
      [{ role := .property "AllTrue" "bool", body := .chain "&&" (each type own) }] := by
  rw [operations_boolean boolean]
  rfl

theorem any_selected :
    having (isProperty "AnyTrue") (operations (declared type options)) =
      [{ role := .property "AnyTrue" "bool", body := .chain "||" (each type own) }] := by
  rw [operations_boolean boolean]
  rfl

theorem equal_selected :
    having (isOperator "==") (operations (declared type options)) =
      [OperatorCode.booleanComparison type options.arguments "==" "&&"] := by
  rw [operations_boolean boolean]
  rfl

theorem different_selected :
    having (isOperator "!=") (operations (declared type options)) =
      [OperatorCode.booleanComparison type options.arguments "!=" "||"] := by
  rw [operations_boolean boolean]
  rfl

end Boolean

section Overloads
variable {candidates : List Operation} {hasRole : Role → Bool} {operation other : Operation}
  {rest : List Operation} {arguments : List (Datum α)} {locals : List (String × Datum α)}

theorem overload?_first (selected : having hasRole candidates = operation :: rest)
    (given : bound? (fun _ => none) operation.parameters arguments = some locals) :
    overload? candidates hasRole arguments = some (operation, locals) := by
  rw [having] at selected
  simp [overload?, selected, given]

theorem overload?_second (selected : having hasRole candidates = other :: operation :: rest)
    (refused : bound? (fun _ => none) other.parameters arguments = none)
    (given : bound? (fun _ => none) operation.parameters arguments = some locals) :
    overload? candidates hasRole arguments = some (operation, locals) := by
  rw [having] at selected
  simp [overload?, selected, refused, given]

/-- When only one of the operations takes the arguments, their order does not matter. -/
theorem overload?_only (member : operation ∈ having hasRole candidates)
    (given : bound? (fun _ => none) operation.parameters arguments = some locals)
    (refused : ∀ other ∈ having hasRole candidates, other ≠ operation →
      bound? (fun _ => none) other.parameters arguments = none) :
    overload? candidates hasRole arguments = some (operation, locals) := by
  rw [overload?, ← having]
  generalize having hasRole candidates = declared at member refused
  induction declared with
  | nil => cases member
  | cons first rest ih =>
    rw [List.findSome?_cons]
    by_cases same : first = operation
    · rw [same, given]
      rfl
    · rw [refused first (by simp) same]
      apply ih
      · simpa [Ne.symm same] using member
      · intro other further
        exact refused other (by simp [further])

end Overloads

section Calls
variable [LinearOrder α] {library : Library α} {calls : Call α → Result (Datum α)}
  {operation : Operation} {rest : List Operation} {locals : List (String × Datum α)}

/-- The body of an operator on two vectors is evaluated with the vectors as its operands. -/
theorem run_operator {symbol : String}
    (selected : having (isOperator symbol) (operations (declared type options)) = operation :: rest)
    (taken : operation.parameters = vectorPair type options.arguments)
    (first second : Component → Datum α) :
    run library structs calls
        (.operator symbol [vectorOf type first, vectorOf type second]) =
      returned library calls operation.role.result
        { locals := [(options.arguments.first, vectorOf type first),
            (options.arguments.second, vectorOf type second)] } operation.body := by
  have candidates : having (isOperator symbol)
      ([vectorOf type first, vectorOf type second].flatMap (operationsOf structs)) =
        operation :: (rest ++ operation :: rest) := by
    simp only [List.flatMap_cons, List.flatMap_nil, operationsOf_vectorOf, having,
      List.filter_append, List.append_nil]
    rw [having] at selected
    rw [selected]
    rfl
  have given : bound? (fun _ => none) operation.parameters
      [vectorOf type first, vectorOf type second] =
        some [(options.arguments.first, vectorOf type first),
          (options.arguments.second, vectorOf type second)] := by
    simp [taken, vectorPair, bound?, isA_vectorOf]
  rw [run, overload?_first candidates given]
  rfl

/-- The body of a method is evaluated for the vector that it belongs to. -/
theorem run_method {name : String} {arguments : List (Datum α)}
    (chosen : overload? (operations (declared type options)) (isMethod name) arguments =
      some (operation, locals)) (self : Component → Datum α) :
    run library structs calls (.method (vectorOf type self) name arguments) =
      returned library calls operation.role.result { locals, self := some (vectorOf type self) }
        operation.body := by
  rw [run, operationsOf_vectorOf, chosen]
  rfl

theorem run_property {name : String}
    (selected : having (isProperty name) (operations (declared type options)) = [operation])
    (taken : operation.parameters = []) (self : Component → Datum α) :
    run library structs calls (.property (vectorOf type self) name) =
      returned library calls operation.role.result { self := some (vectorOf type self) }
        operation.body := by
  have given : bound? (fun _ => none) operation.parameters ([] : List (Datum α)) = some [] := by
    rw [taken]
    rfl
  rw [run, operationsOf_vectorOf, overload?_first selected given]
  rfl

end Calls

end VectorForge.Proofs.FamilyMembers
