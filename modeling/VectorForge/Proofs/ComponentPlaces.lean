import VectorForge.Proofs.ArithmeticMeaning
import VectorForge.Proofs.ConversionMeaning
import VectorForge.Proofs.FunctionFits

/-! Components keep their places: in constructors, in arithmetic and in conversions, what stands
at a component of the result is made of the same component of the arguments. -/

namespace VectorForge.Proofs.ComponentPlaces
open CodeSyntax MemberCode CodeMeaning StructCode EvaluationRules FamilyMembers ConstructedVectors
open NumericVectors AcceptedNames ExactNumbers ArithmeticMeaning ConversionMeaning
open ComparisonMeaning (numbers index_of_drop)
open FunctionFits (engine_of_conversion)

variable {options : Options} {type : VectorType}

/-- The arguments of the components, with a preset behind the last one. -/
def placed (preset : Datum α) (arguments : List (Datum α)) (component : Component) : Datum α :=
  arguments[component.index]?.getD preset

theorem placed_take (preset : Datum α) {arguments : List (Datum α)}
    (few : arguments.length ≤ type.dimension.size) :
    (type.dimension.components.take arguments.length).map (placed preset arguments) = arguments := by
  have five : arguments.length ≤ 5 := few.trans (by cases type.dimension <;> decide)
  rw [Dimension.components, List.take_take, Nat.min_eq_left few]
  rcases arguments with _ | ⟨first, _ | ⟨second, _ | ⟨third, _ | ⟨fourth, _ | ⟨fifth, _ | _⟩⟩⟩⟩⟩
  · rfl
  · rfl
  · rfl
  · rfl
  · rfl
  · rfl
  · simp only [List.length_cons] at five
    omega

theorem placed_typed (preset : Datum α) {arguments : List (Datum α)}
    (few : arguments.length ≤ type.dimension.size) {element : String}
    (typed : ∀ argument ∈ arguments, argument.isA element = true) :
    ∀ component ∈ type.dimension.components.take arguments.length,
      (placed preset arguments component).isA element = true := by
  intro component member
  have listed : placed preset arguments component ∈
      (type.dimension.components.take arguments.length).map (placed preset arguments) :=
    List.mem_map_of_mem member
  rw [placed_take preset few] at listed
  exact typed _ listed

theorem placed_left (preset : Datum α) (arguments : List (Datum α)) :
    ∀ component ∈ type.dimension.components.drop arguments.length,
      placed preset arguments component = preset := by
  intro component omitted
  rw [Dimension.components, List.drop_take] at omitted
  have beyond := index_of_drop (List.mem_of_mem_take omitted)
  rw [placed, List.getElem?_eq_none beyond]
  rfl

variable [CommRing α] [LinearOrder α]

section Results
variable (given : Routines α) (options : Options) (structs : List Struct) (type : VectorType)

/-- The two constructors of a struct, and which of them `new` runs. -/
structure Constructs : Prop where
  declared : constructors (declared type options) =
    [([FieldCode.broadcastParameter type options.arguments],
        FieldCode.broadcastBody type options.arguments),
      (each type (FieldCode.componentParameter type), FieldCode.componentwiseBody type)]
  componentwise : ∀ arguments : List (Datum α), arguments.length ≤ type.dimension.size →
    (∀ argument ∈ arguments, argument.isA type.kind.element = true) → ∀ calls,
    constructed (exact given) calls (StructCode.declared type options)
        (each type (FieldCode.componentParameter type), FieldCode.componentwiseBody type) arguments =
      .ok (vectorOf type (placed (zero (exact given) type.kind.element) arguments))
  broadcast : ∀ argument : Datum α, argument.isA type.kind.element = true → ∀ calls,
    constructed (exact given) calls (StructCode.declared type options)
        ([FieldCode.broadcastParameter type options.arguments],
          FieldCode.broadcastBody type options.arguments) [argument] =
      .ok (vectorOf type fun _ => argument)
  new : ∀ arguments : List (Datum α), arguments.length ≤ type.dimension.size →
    arguments.length ≠ 1 → (∀ argument ∈ arguments, argument.isA type.kind.element = true) →
    Answers (exact given) structs (.build type.name arguments)
      (.ok (vectorOf type (placed (zero (exact given) type.kind.element) arguments)))
  newShared : ∀ argument : Datum α, argument.isA type.kind.element = true →
    Answers (exact given) structs (.build type.name [argument]) (.ok (vectorOf type fun _ => argument))

/-- The operators with arithmetic. -/
structure Calculates : Prop where
  vectors : ∀ symbol ∈ arithmeticSymbols, ∀ first second : Component → α,
    Operates given structs type symbol
      (.operator symbol [numbers type first, numbers type second]) first second
  scalar : ∀ symbol ∈ arithmeticSymbols, ∀ (vector : Component → α) (scalar : α),
    Operates given structs type symbol
      (.operator symbol [numbers type vector, .number scalar]) vector fun _ => scalar
  negation : ∀ vector : Component → α,
    Answers (exact given) structs (.operator "-" [numbers type vector])
      (.ok (numbers type fun component => -vector component))

/-- The engine has vectors of two to four integers or floats. -/
def EngineHas (engine : String) : Prop :=
  type.dimension.size ≤ 4 ∧
    (type.kind = .int ∧ engine = "Vector" ++ toString type.dimension.size ++ "I" ∨
      type.kind = .float ∧ engine = "Vector" ++ toString type.dimension.size)

/-- The conversions that a type should have. Numbers that may have a fraction are rounded, the
engine's vectors go both ways, and each kind of numbers is made of the other two. -/
def Due : Conversion → Prop
  | .rounding _ => type.kind = .float ∨ type.kind = .double
  | .toEngine engine isImplicit => EngineHas type engine ∧ isImplicit = true
  | .fromEngine engine isImplicit => EngineHas type engine ∧ (isImplicit = true ↔ type.kind = .int)
  | .fromKind source isImplicit => source ≠ type.kind ∧ source ≠ .bool ∧ type.kind ≠ .bool ∧
      (isImplicit = true ↔ type.kind ≠ .int ∧ source ≠ .double)

/-- What a conversion makes of a vector. -/
def Converts : Conversion → Prop
  | .rounding mode => ∀ vector : Component → α,
    Answers (exact given) structs (.method (numbers type vector) (mode.verb ++ "ToInt") [])
      (.ok (numbers ⟨.int, type.dimension⟩ fun component => given.rounded mode (vector component)))
  | .toEngine engine _ => ∀ vector : Component → α,
    Answers (exact given) structs (.convert engine (numbers type vector))
      (.ok (engineOf engine type vector))
  | .fromEngine engine _ => ∀ vector : Component → α,
    Answers (exact given) structs (.convert type.name (engineOf engine type vector))
      (.ok (numbers type vector))
  | .fromKind source isImplicit => ∀ vector : Component → α,
    Answers (exact given) structs (.convert type.name (numbers ⟨source, type.dimension⟩ vector))
      (.ok (numbers type fun component => if isImplicit then vector component
        else given.cast type.kind.element (vector component)))

end Results

section Members
variable {structs : List Struct} [included : Includes structs options]
include included

theorem constructs (given : Routines α) (accepted : Accepted options.arguments) (type : VectorType) :
    Constructs given options structs type := by
  constructor
  · exact constructors_declared type options
  · intro arguments few typed calls
    have made : constructed (exact given) calls (declared type options) _ _ = _ :=
      constructed_componentwise (placed_typed (zero (exact given) type.kind.element) few typed)
        (placed_left _ arguments)
    rwa [placed_take _ few] at made
  · intro argument typed calls
    exact constructed_broadcast accepted typed
  · intro arguments few several typed
    refine .of_run 0 fun depth _ => ?_
    have made : run (exact given) structs (answer (exact given) structs depth) _ = _ :=
      build_componentwise (placed_typed (zero (exact given) type.kind.element) few typed)
        (placed_left _ arguments) several
    rwa [placed_take _ few] at made
  · intro argument typed
    exact .of_run 0 fun depth _ => build_broadcast accepted typed

theorem calculates (given : Routines α) (accepted : Accepted options.arguments)
    (numeric : type.kind.isNumeric) : Calculates given structs type := by
  constructor
  · intro symbol known first second
    exact operates_of_computes known (vectors_computed numeric accepted known first second)
  · intro symbol known vector scalar
    exact operates_of_computes known (scalar_computed numeric accepted known vector scalar)
  · intro vector
    exact (negation_computed numeric vector).computed _ fun _ _ => rfl

end Members

theorem engineVector_iff {engine : String} :
    type.engineVector? = some engine ↔ EngineHas type engine := by
  obtain ⟨kind, dimension⟩ := type
  rw [EngineHas, VectorType.engineVector?]
  by_cases small : dimension.size ≤ 4
  · cases kind <;> simp [small, eq_comm]
  · simp [small]

theorem due_iff {step : Conversion} : Due type step ↔ step ∈ type.conversions := by
  have engine {engine : String} : EngineHas type engine ↔ type.engineVector? = some engine :=
    engineVector_iff.symm
  unfold VectorType.conversions
  obtain ⟨kind, dimension⟩ := type
  cases step with
  | rounding mode =>
    simp only [Due]
    cases VectorType.engineVector? ⟨kind, dimension⟩ <;> cases kind <;> cases mode <;>
      simp [Kind.isFloating, VectorType.kindSources, Rounding.all]
  | toEngine name isImplicit =>
    simp only [Due, engine]
    cases VectorType.engineVector? ⟨kind, dimension⟩ <;> cases kind <;>
      simp [Kind.isFloating, VectorType.kindSources, eq_comm]
  | fromEngine name isImplicit =>
    have whole : isImplicit = (kind == .int) ↔ (isImplicit = true ↔ kind = .int) := by
      rw [Bool.eq_iff_iff, beq_iff_eq]
    simp only [Due, engine, ← whole]
    cases VectorType.engineVector? ⟨kind, dimension⟩ <;> cases kind <;>
      simp [Kind.isFloating, VectorType.kindSources, eq_comm]
  | fromKind source isImplicit =>
    simp only [Due]
    cases VectorType.engineVector? ⟨kind, dimension⟩ <;> cases kind <;> cases source <;>
      simp [Kind.isFloating, VectorType.kindSources]

theorem converts {given : Routines α} {engines : List Struct} (own : Engine (exact given) engines)
    (options : Options) {step : Conversion} (declares : step ∈ type.conversions) :
    Converts given (family options ++ engines) type step := by
  have numeric := numeric_of_conversion declares
  cases step with
  | rounding mode =>
    intro vector
    exact (rounding_computed declares vector).computed _ fun _ _ => rfl
  | toEngine engine isImplicit =>
    intro vector
    exact toEngine_answered own declares (engine_of_conversion (.inl declares)) vector
  | fromEngine engine isImplicit =>
    intro vector
    exact (fromEngine_computed own declares (engine_of_conversion (.inr declares)) numeric
      vector).computed _ fun _ _ => rfl
  | fromKind source isImplicit =>
    intro vector
    exact (fromKind_computed declares numeric vector).computed _ fun _ _ => rfl

/-- There and back again. Both directions are declared wherever the engine has such a vector. -/
theorem engine_returns {given : Routines α} {engines : List Struct}
    (own : Engine (exact given) engines) (options : Options) {engine : String}
    (emitted : type.engineVector? = some engine) (vector : Component → α) :
    ∃ there, Answers (exact given) (family options ++ engines)
        (.convert engine (numbers type vector)) (.ok there) ∧
      Answers (exact given) (family options ++ engines) (.convert type.name there)
        (.ok (numbers type vector)) := by
  have leaving : .toEngine engine true ∈ type.conversions := by
    simp [VectorType.conversions, emitted]
  have returning : .fromEngine engine (type.kind == .int) ∈ type.conversions := by
    simp [VectorType.conversions, emitted]
  exact ⟨engineOf engine type vector, converts own options leaving vector,
    converts own options returning vector⟩

/-- Whatever the argument names are, as long as they pass the checks, no component is lost,
repeated or moved by a constructor, by arithmetic or by a conversion. -/
theorem components_placed (accepted : Config.checkNames [] options.arguments.toList = .ok ())
    (given : Routines α) {engines : List Struct} (own : Engine (exact given) engines) :
    (∀ type : VectorType,
      generate type options = .ok (fileText options (declared type options))) ∧
    (∀ type, Constructs given options (family options ++ engines) type) ∧
    (∀ type : VectorType, type.kind.isNumeric = true →
      Calculates given (family options ++ engines) type) ∧
    (∀ (type : VectorType) (step : Conversion), Due type step ↔ step ∈ type.conversions) ∧
    (∀ type : VectorType, ∀ step ∈ type.conversions,
      ConversionCode.conversion type options.arguments step ∈ operations (declared type options) ∧
      Converts given (family options ++ engines) type step) ∧
    ∀ (type : VectorType) (engine : String), EngineHas type engine →
      ∀ vector : Component → α, ∃ there,
        Answers (exact given) (family options ++ engines)
          (.convert engine (numbers type vector)) (.ok there) ∧
        Answers (exact given) (family options ++ engines) (.convert type.name there)
          (.ok (numbers type vector)) := by
  have names := accepted_of_checkNames accepted
  refine ⟨fun type => generate_eq type options, ?_, ?_, ?_, ?_, ?_⟩
  · intro type
    exact constructs given names type
  · intro type numeric
    exact calculates given names numeric
  · intro type step
    exact due_iff
  · intro type step declares
    exact ⟨conversion_declared declares options, converts own options declares⟩
  · intro type engine has vector
    exact engine_returns own options (engineVector_iff.mpr has) vector

/-- A struct of the engine, with the constructor that assigns its arguments in order. -/
def engineStruct (type : VectorType) (engine : String) : Struct where
  name := engine
  regions := [("", [.fields type.kind.element (each type ConversionCode.engineField),
    .constructor engine
      (each type fun component =>
        { type := type.kind.element, name := component.name, isReference := false })
      (each type fun component =>
        ⟨.name (ConversionCode.engineField component), own component⟩)])]

def engineStructs : List Struct :=
  VectorType.all.filterMap fun type => type.engineVector?.map (engineStruct type)

theorem engineStructs_keep (given : Routines α) : Engine (exact given) engineStructs := by
  constructor
  · intro type engine emitted calls value
    obtain ⟨kind, dimension⟩ := type
    cases kind <;> cases dimension <;> cases emitted <;> rfl
  · intro struct listed operation declares
    obtain ⟨type, -, made⟩ := List.mem_filterMap.mp listed
    obtain ⟨engine, -, rfl⟩ := Option.map_eq_some_iff.mp made
    cases declares

theorem integers_placed :
    Config.checkNames [] ({} : Options).arguments.toList = .ok () ∧
      Engine (exact whole) engineStructs ∧
      Answers (exact whole) (family {} ++ engineStructs)
        (.operator "%" [numbers ⟨.int, .two⟩ fun component => component.index, .number 0])
        (.error (.thrown "DivideByZeroException")) ∧
      Answers (exact whole) (family {} ++ engineStructs)
        (.convert "Vector3I" (numbers ⟨.int, .three⟩ fun component => component.index))
        (.ok (engineOf "Vector3I" ⟨.int, .three⟩ fun component => component.index)) := by
  have accepted : Config.checkNames [] ({} : Options).arguments.toList = .ok () := by decide
  have own : Engine (exact whole) engineStructs := engineStructs_keep whole
  obtain ⟨-, -, calculate, -, convert, -⟩ := components_placed accepted whole own
  refine ⟨accepted, own, ?_, ?_⟩
  · have remainder := (calculate ⟨.int, .two⟩ rfl).scalar "%" (by decide)
      (fun component => component.index) 0
    exact remainder.thrown ⟨.x, by decide, by decide, rfl⟩
  · exact (convert ⟨.int, .three⟩ (.toEngine "Vector3I" true) (by decide)).2 _

end VectorForge.Proofs.ComponentPlaces
