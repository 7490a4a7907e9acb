import VectorForge.Proofs.BracketedCode
import VectorForge.Proofs.StructCode

/-! The words of the generated members, section by section. Those that are fixed have no
brackets, apart from one message that names an interval, so only the argument names can bring
in others. -/

namespace VectorForge.Proofs.BracketedMembers
open CodeSyntax MemberCode StructCode BracketReading BracketedCode

theorem element_nested (kind : Kind) : Nested kind.element := by
  cases kind <;> exact fun _ => rfl

theorem default_nested (kind : Kind) : Nested kind.defaultLiteral := by
  cases kind <;> exact fun _ => rfl

theorem component_nested (component : Component) : Nested component.name := by
  cases component <;> exact fun _ => rfl

theorem type_plain (type : VectorType) : brackets type.name = [] := by
  obtain ⟨kind, dimension⟩ := type
  cases kind <;> cases dimension <;> decide

theorem type_nested (type : VectorType) : Nested type.name := nested_of_plain (type_plain type)

/-- Argument names that close what they open. -/
structure NestedNames (names : ArgumentNames) : Prop where
  first : Nested names.first
  second : Nested names.second
  single : Nested names.single
  scalar : Nested names.scalar

variable {type mask : VectorType} {names : ArgumentNames}

theorem own_spelled (component : Component) : Spelled Nested (own component) :=
  component_nested component

theorem part_spelled {vector : String} (named : Nested vector) (component : Component) :
    Spelled Nested (part vector component) := ⟨named, component_nested component⟩

theorem pair_spelled {symbol : String} {left right : Expression} (infixed : Nested symbol)
    (first : Spelled Nested left) (second : Spelled Nested right) :
    Spelled Nested (pair symbol left right) := ⟨infixed, first, second, trivial⟩

theorem each_spelled {form : Component → Expression}
    (spelled : ∀ component, Spelled Nested (form component)) :
    SpelledIn Nested (each type form) := spelledIn_map fun component _ => spelled component

theorem parameter_spelled {type name : String} {isReference : Bool} (typed : Nested type)
    (named : Nested name) : SpelledParameter Nested { type, name, isReference } :=
  ⟨typed, named, nofun⟩

theorem fields_spelled : SpelledDeclaration Nested (FieldCode.fields type) := by
  refine ⟨element_nested type.kind, ?_⟩
  rw [each, List.forall_mem_map]
  exact fun component _ => component_nested component

theorem numericProperties_spelled :
    ∀ declaration ∈ FieldCode.numericProperties type, SpelledDeclaration Nested declaration := by
  have named : ∀ constant ∈ Members.namedConstants, brackets constant.1 = [] := by decide
  rw [FieldCode.numericProperties, List.forall_mem_append, List.forall_mem_map,
    List.forall_mem_singleton]
  refine ⟨fun constant member => ?_, fields_spelled⟩
  exact ⟨type_nested type, nested_of_plain (named constant member), trivial, trivial, trivial⟩

theorem adjacent_spelled (components : List Component) :
    SpelledIn Nested (FieldCode.adjacent components) := by
  induction components with
  | nil => trivial
  | cons first rest ih =>
    cases rest with
    | nil => trivial
    | cons second rest =>
      exact ⟨pair_spelled (fun _ => rfl) (own_spelled first) (own_spelled second), ih⟩

theorem counted_spelled (component : Component) : Spelled Nested (FieldCode.counted component) :=
  ⟨own_spelled component, trivial, trivial⟩

/-- A property that has its operands joined by one symbol. -/
theorem joined_spelled {name returns symbol : String} {operands : List Expression}
    (named : Nested name) (returned : Nested returns) (infixed : Nested symbol)
    (spelled : SpelledIn Nested operands) :
    SpelledDeclaration Nested (.operation
      { role := .property name returns, body := .chain symbol operands }) :=
  ⟨⟨⟨named, returned⟩, List.forall_mem_nil _⟩, infixed, spelled⟩

theorem booleanProperties_spelled :
    ∀ declaration ∈ FieldCode.booleanProperties type, SpelledDeclaration Nested declaration := by
  rw [FieldCode.booleanProperties, List.forall_mem_cons, List.forall_mem_map]
  simp only [FieldCode.maskProperties, List.forall_mem_cons]
  refine ⟨fields_spelled, ?_, ?_, ?_, ?_, List.forall_mem_nil _⟩
  · exact joined_spelled (fun _ => rfl) (fun _ => rfl) (fun _ => rfl) (each_spelled own_spelled)
  · exact joined_spelled (fun _ => rfl) (fun _ => rfl) (fun _ => rfl) (each_spelled own_spelled)
  · exact joined_spelled (fun _ => rfl) (fun _ => rfl) (fun _ => rfl) (adjacent_spelled _)
  · exact joined_spelled (fun _ => rfl) (fun _ => rfl) (fun _ => rfl) (each_spelled counted_spelled)

theorem constructors_spelled (named : NestedNames names) :
    ∀ declaration ∈ FieldCode.constructors type names, SpelledDeclaration Nested declaration := by
  simp only [FieldCode.constructors, List.forall_mem_cons]
  refine ⟨⟨type_nested type, ?_, ?_⟩, ⟨type_nested type, ?_, ?_⟩, List.forall_mem_nil _⟩
  · exact List.forall_mem_singleton.mpr
      (parameter_spelled (element_nested type.kind) named.scalar)
  · rw [FieldCode.broadcastBody, each, List.forall_mem_map]
    exact fun component _ => ⟨own_spelled component, named.scalar⟩
  · rw [each, List.forall_mem_map]
    refine fun component _ => ⟨element_nested type.kind, component_nested component, ?_⟩
    rintro value ⟨⟩
    exact default_nested type.kind
  · rw [FieldCode.componentwiseBody, each, List.forall_mem_map]
    exact fun component _ => ⟨⟨trivial, component_nested component⟩, own_spelled component⟩

/-- The message speaks of an interval, so it has a pair of brackets of its own. -/
theorem message_nested (size : Nat) : Nested (type.name ++ " component index must be in [0, "
    ++ toString size ++ "]") := by
  intro opened
  simp only [after_append, after_nested (type_nested type), after_nested (natural_nested size)]
  rfl

theorem componentIndexer_spelled : SpelledDeclaration Nested (FieldCode.componentIndexer type) := by
  have index : Nested "ix" := fun _ => rfl
  refine ⟨element_nested type.kind, parameter_spelled (fun _ => rfl) index, ?_, ?_⟩
  · rw [each, List.forall_mem_map]
    exact fun component _ => own_spelled component
  · exact ⟨fun _ => rfl, ⟨fun _ => rfl, index, trivial⟩, index, message_nested _, trivial⟩

theorem place_nested (component : Component) : Nested ("i" ++ component.name) := by
  have letter : Nested "i" := fun _ => rfl
  exact letter.append (component_nested component)

theorem swizzle_spelled (size : Dimension) :
    SpelledDeclaration Nested (FieldCode.swizzle type size) := by
  refine ⟨type_nested _, ?_, ?_, ?_⟩
  · rw [each, List.forall_mem_map]
    exact fun component _ => parameter_spelled (fun _ => rfl) (place_nested component)
  · exact each_spelled fun component => ⟨place_nested component, trivial⟩
  · intro body given
    split at given
    · obtain rfl := Option.some.inj given
      rw [each, List.forall_mem_map]
      exact fun component _ =>
        ⟨⟨place_nested component, trivial⟩, part_spelled (fun _ => rfl) component⟩
    · cases given

theorem indexers_spelled :
    ∀ declaration ∈ FieldCode.indexers type, SpelledDeclaration Nested declaration := by
  rw [FieldCode.indexers, List.forall_mem_cons, List.forall_mem_map]
  exact ⟨componentIndexer_spelled, fun size _ => swizzle_spelled size⟩

theorem vectorPair_spelled (named : NestedNames names) :
    ∀ parameter ∈ vectorPair type names, SpelledParameter Nested parameter :=
  List.forall_mem_cons.mpr ⟨parameter_spelled (type_nested type) named.first,
    List.forall_mem_singleton.mpr (parameter_spelled (type_nested type) named.second)⟩

theorem sourceVector_spelled {source : String} (typed : Nested source) (named : NestedNames names) :
    ∀ parameter ∈ sourceVector source names, SpelledParameter Nested parameter :=
  List.forall_mem_singleton.mpr (parameter_spelled typed named.single)

/-- The same infix symbol between the components of the two vector arguments. -/
theorem operands_spelled {symbol : String} (infixed : Nested symbol) (named : NestedNames names)
    (component : Component) : Spelled Nested
      (pair symbol (part names.first component) (part names.second component)) :=
  pair_spelled infixed (part_spelled named.first component) (part_spelled named.second component)

theorem arithmetic_spelled (named : NestedNames names) :
    ∀ operation ∈ OperatorCode.arithmetic type names,
      SpelledDeclaration Nested (.operation operation) := by
  have symbols : ∀ symbol ∈ arithmeticSymbols, brackets symbol = [] := by decide
  rw [OperatorCode.arithmetic, List.forall_mem_append, List.forall_mem_append, List.forall_mem_map,
    List.forall_mem_map, List.forall_mem_singleton]
  refine ⟨⟨fun symbol member => ?_, fun symbol member => ?_⟩, ?_⟩
  · have infixed := nested_of_plain (symbols symbol member)
    exact ⟨⟨⟨infixed, type_nested type⟩, vectorPair_spelled named⟩,
      each_spelled (operands_spelled infixed named)⟩
  · have infixed := nested_of_plain (symbols symbol member)
    refine ⟨⟨⟨infixed, type_nested type⟩, List.forall_mem_cons.mpr ⟨?_, ?_⟩⟩, ?_⟩
    · exact parameter_spelled (type_nested type) named.single
    · exact List.forall_mem_singleton.mpr
        (parameter_spelled (element_nested type.kind) named.scalar)
    · exact each_spelled fun component =>
        pair_spelled infixed (part_spelled named.single component) named.scalar
  · exact ⟨⟨⟨fun _ => rfl, type_nested type⟩, sourceVector_spelled (type_nested type) named⟩,
      each_spelled (part_spelled named.single)⟩

theorem comparisons_spelled (named : NestedNames names) :
    ∀ operation ∈ OperatorCode.comparisons type mask names,
      SpelledDeclaration Nested (.operation operation) := by
  have symbols : ∀ symbol ∈ comparisonSymbols, brackets symbol = [] := by decide
  rw [OperatorCode.comparisons, List.forall_mem_map]
  intro symbol member
  have infixed := nested_of_plain (symbols symbol member)
  exact ⟨⟨⟨infixed, type_nested mask⟩, vectorPair_spelled named⟩,
    spelledIn_map fun component _ => operands_spelled infixed named component⟩

theorem booleanComparison_spelled {symbol connective : String} (compared : Nested symbol)
    (joined : Nested connective) (named : NestedNames names) : SpelledDeclaration Nested
      (.operation (OperatorCode.booleanComparison type names symbol connective)) :=
  ⟨⟨⟨compared, fun _ => rfl⟩, vectorPair_spelled named⟩, joined,
    each_spelled (operands_spelled compared named)⟩

theorem booleanComparisons_spelled (named : NestedNames names) :
    ∀ operation ∈ OperatorCode.booleanComparisons type names,
      SpelledDeclaration Nested (.operation operation) :=
  List.forall_mem_cons.mpr
    ⟨booleanComparison_spelled (fun _ => rfl) (fun _ => rfl) named, List.forall_mem_singleton.mpr
      (booleanComparison_spelled (fun _ => rfl) (fun _ => rfl) named)⟩

theorem equality_spelled (named : NestedNames names) :
    ∀ operation ∈ OperatorCode.equality type names,
      SpelledDeclaration Nested (.operation operation) := by
  have equals : Nested "Equals" := fun _ => rfl
  have truth : Nested "bool" := fun _ => rfl
  have object : Nested "obj" := fun _ => rfl
  have both : Nested "&&" := fun _ => rfl
  simp only [OperatorCode.equality, List.forall_mem_cons]
  refine ⟨?_, ?_, ?_, ?_, List.forall_mem_nil _⟩
  · refine ⟨⟨⟨equals, truth⟩, List.forall_mem_singleton.mpr ?_⟩, ?_⟩
    · exact parameter_spelled (fun _ => rfl) object
    · exact pair_spelled both ⟨object, type_nested type, named.single⟩
        ⟨equals, named.single, trivial⟩
  · refine ⟨⟨⟨equals, truth⟩, List.forall_mem_singleton.mpr ?_⟩, both, ?_⟩
    · exact parameter_spelled (type_nested type) named.single
    · exact each_spelled fun component =>
        pair_spelled (fun _ => rfl) (own_spelled component) (part_spelled named.single component)
  · exact ⟨⟨⟨fun _ => rfl, fun _ => rfl⟩, List.forall_mem_nil _⟩, fun _ => rfl, fun _ => rfl,
      each_spelled own_spelled⟩
  · exact ⟨⟨⟨fun _ => rfl, fun _ => rfl⟩, List.forall_mem_nil _⟩, type_nested type,
      each_spelled own_spelled⟩

theorem routine_spelled {holder method : String} {arguments : List Expression}
    (owned : Nested holder) (called : Nested method) (spelled : SpelledIn Nested arguments) :
    Spelled Nested (routine holder method arguments) := ⟨owned, called, spelled⟩

theorem engine_nested : Nested "Mathf" := fun _ => rfl

theorem rootHolder_nested (kind : Kind) : Nested (FunctionCode.rootHolder kind) := by
  cases kind <;> exact fun _ => rfl

theorem rootMethod_nested (kind : Kind) : Nested (FunctionCode.rootMethod kind) := by
  cases kind <;> exact fun _ => rfl

theorem nested_spelled {method : String} (called : Nested method) (components : List Component) :
    Spelled Nested (FunctionCode.nested method components) := by
  induction components with
  | nil => exact fun _ => rfl
  | cons component rest ih =>
    cases rest with
    | nil => exact own_spelled component
    | cons next rest =>
      exact routine_spelled engine_nested called ⟨own_spelled component, ih, trivial⟩

/-- A method without parameters that returns a single component. -/
theorem measure_spelled {name : String} {body : Expression} (named : Nested name)
    (spelled : Spelled Nested body) : SpelledDeclaration Nested (.operation
      { role := .method name type.kind.element, body, isInline := true }) :=
  ⟨⟨⟨named, element_nested type.kind⟩, List.forall_mem_nil _⟩, spelled⟩

theorem measures_spelled : ∀ operation ∈ FunctionCode.measures type,
    SpelledDeclaration Nested (.operation operation.inlined) := by
  have magnitude : Nested "Magnitude" := fun _ => rfl
  simp only [FunctionCode.measures, List.forall_mem_cons]
  refine ⟨?_, ?_, ?_, ?_, ?_, ?_, List.forall_mem_nil _⟩
  · exact measure_spelled (fun _ => rfl) ⟨fun _ => rfl, each_spelled fun component =>
      pair_spelled (fun _ => rfl) (own_spelled component) (own_spelled component)⟩
  · exact measure_spelled magnitude (routine_spelled (rootHolder_nested type.kind)
      (rootMethod_nested type.kind) ⟨⟨fun _ => rfl, trivial⟩, trivial⟩)
  · exact ⟨⟨⟨fun _ => rfl, type_nested type⟩, List.forall_mem_nil _⟩,
      pair_spelled (fun _ => rfl) trivial ⟨magnitude, trivial⟩⟩
  · exact ⟨⟨⟨fun _ => rfl, type_nested type⟩, List.forall_mem_nil _⟩, each_spelled fun component =>
      routine_spelled engine_nested (fun _ => rfl) ⟨own_spelled component, trivial⟩⟩
  · exact measure_spelled (fun _ => rfl) (nested_spelled (fun _ => rfl) _)
  · exact measure_spelled (fun _ => rfl) (nested_spelled (fun _ => rfl) _)

theorem distances_spelled (named : NestedNames names) :
    ∀ operation ∈ FunctionCode.distances type names,
      SpelledDeclaration Nested (.operation operation.inlined) := by
  have other : Nested "other" := fun _ => rfl
  have squared : Nested "SqrDistance" := fun _ => rfl
  simp only [FunctionCode.distances, List.forall_mem_cons]
  refine ⟨?_, ?_, List.forall_mem_nil _⟩
  · refine ⟨⟨⟨squared, element_nested type.kind⟩, List.forall_mem_singleton.mpr ?_⟩, ?_⟩
    · exact parameter_spelled (type_nested type) other
    · exact ⟨pair_spelled (fun _ => rfl) other trivial, fun _ => rfl, trivial⟩
  · refine ⟨⟨⟨fun _ => rfl, element_nested type.kind⟩,
      sourceVector_spelled (type_nested type) named⟩, ?_⟩
    exact routine_spelled (rootHolder_nested type.kind) (rootMethod_nested type.kind)
      ⟨⟨squared, named.single, trivial⟩, trivial⟩

theorem each_nonempty (type : VectorType) (form : Component → α) : each type form ≠ [] := by
  obtain ⟨kind, dimension⟩ := type
  cases dimension <;> exact List.cons_ne_nil _ _

theorem componentCalls_spelled {name : String} {parameters : List Parameter}
    {form : Component → Expression} (named : Nested name)
    (taken : ∀ parameter ∈ parameters, SpelledParameter Nested parameter)
    (spelled : ∀ component, Spelled Nested (form component)) :
    SpelledDeclaration Nested (FunctionCode.componentCalls type name parameters form) :=
  ⟨⟨⟨named, type_nested type⟩, taken⟩, each_spelled spelled, each_nonempty type form⟩

theorem chosen_spelled {method : String} (called : Nested method) (named : NestedNames names)
    (component : Component) : Spelled Nested (FunctionCode.chosen names method component) :=
  routine_spelled engine_nested called
    ⟨own_spelled component, part_spelled named.single component, trivial⟩

theorem clamp_spelled : SpelledDeclaration Nested
    (FunctionCode.componentCalls type "Clamp" (FunctionCode.range type) FunctionCode.clamped) := by
  have least : Nested "min" := fun _ => rfl
  have greatest : Nested "max" := fun _ => rfl
  have clamp : Nested "Clamp" := fun _ => rfl
  refine componentCalls_spelled clamp (List.forall_mem_cons.mpr ⟨?_, ?_⟩) fun component => ?_
  · exact parameter_spelled (type_nested type) least
  · exact List.forall_mem_singleton.mpr (parameter_spelled (type_nested type) greatest)
  · exact routine_spelled engine_nested clamp ⟨own_spelled component, part_spelled least component,
      part_spelled greatest component, trivial⟩

theorem functions_spelled (named : NestedNames names) :
    ∀ declaration ∈ FunctionCode.functions type names, SpelledDeclaration Nested declaration := by
  have least : Nested "Min" := fun _ => rfl
  have greatest : Nested "Max" := fun _ => rfl
  have source := sourceVector_spelled (type_nested type) named
  simp only [FunctionCode.functions, List.map_map, List.forall_mem_append, List.forall_mem_map,
    List.forall_mem_singleton]
  refine ⟨⟨⟨⟨measures_spelled, distances_spelled named⟩, ?_⟩, ?_⟩, clamp_spelled⟩
  · exact componentCalls_spelled least source (chosen_spelled least named)
  · exact componentCalls_spelled greatest source (chosen_spelled greatest named)

theorem engineField_nested (component : Component) :
    Nested (ConversionCode.engineField component) := by
  cases component <;> exact fun _ => rfl

theorem engineVector_nested {engine : String} (known : type.engineVector? = some engine) :
    Nested engine := by
  have vector : Nested "Vector" := fun _ => rfl
  have sized := vector.append (natural_nested type.dimension.size)
  have integral : Nested "I" := fun _ => rfl
  unfold VectorType.engineVector? at known
  split at known
  · split at known <;> cases known
    · exact sized.append integral
    · exact sized
  · cases known

theorem rounding_spelled (mode : Rounding) :
    SpelledDeclaration Nested (.operation (ConversionCode.rounding type mode)) := by
  have verb : Nested (mode.verb ++ "ToInt") := by
    cases mode <;> exact fun _ => rfl
  exact ⟨⟨⟨verb, type_nested _⟩, List.forall_mem_nil _⟩, each_spelled fun component =>
    routine_spelled engine_nested verb ⟨own_spelled component, trivial⟩⟩

theorem castPart_spelled (named : NestedNames names) (isImplicit : Bool) (component : Component) :
    Spelled Nested (ConversionCode.castPart type names isImplicit component) := by
  have plain := part_spelled named.single component
  unfold ConversionCode.castPart
  split
  · exact plain
  · exact ⟨element_nested type.kind, plain⟩

theorem fromKind_spelled (named : NestedNames names) (source : Kind) (isImplicit : Bool) :
    SpelledDeclaration Nested
      (.operation (ConversionCode.fromKind type names source isImplicit)) :=
  ⟨⟨type_nested type, sourceVector_spelled (type_nested _) named⟩,
    each_spelled (castPart_spelled named isImplicit)⟩

theorem conversions_spelled (named : NestedNames names) :
    ∀ operation ∈ ConversionCode.conversions type names,
      SpelledDeclaration Nested (.operation operation) := by
  rw [ConversionCode.conversions, List.forall_mem_map, VectorType.conversions,
    List.forall_mem_append, List.forall_mem_append]
  refine ⟨⟨?_, ?_⟩, ?_⟩
  · split
    · exact List.forall_mem_map.mpr fun mode _ => rounding_spelled mode
    · exact List.forall_mem_nil _
  · split
    next engine known =>
      have typed := engineVector_nested known
      refine List.forall_mem_cons.mpr ⟨?_, List.forall_mem_singleton.mpr ?_⟩
      · exact ⟨⟨typed, sourceVector_spelled (type_nested type) named⟩,
          each_spelled (part_spelled named.single)⟩
      · exact ⟨⟨type_nested type, sourceVector_spelled typed named⟩,
          each_spelled fun component => ⟨named.single, engineField_nested component⟩⟩
    next => exact List.forall_mem_nil _
  · cases type.kind with
    | int | float | double =>
      exact List.forall_mem_cons.mpr ⟨fromKind_spelled named _ _,
        List.forall_mem_singleton.mpr (fromKind_spelled named _ _)⟩
    | bool => exact List.forall_mem_nil _

theorem numericSection_spelled (named : NestedNames names) (part : Section) :
    ∀ declaration ∈ numericSection type mask names part,
      SpelledDeclaration Nested declaration := by
  cases part with
  | properties => exact numericProperties_spelled
  | swizzles => exact indexers_spelled
  | constructors => exact constructors_spelled named
  | mathOperators => exact List.forall_mem_map.mpr (arithmetic_spelled named)
  | logicalOperators => exact List.forall_mem_map.mpr (comparisons_spelled named)
  | objectOperators => exact List.forall_mem_map.mpr (equality_spelled named)
  | functions => exact functions_spelled named
  | converters => exact List.forall_mem_map.mpr (conversions_spelled named)

theorem booleanSection_spelled (named : NestedNames names) (part : Section) :
    ∀ declaration ∈ booleanSection type names part, SpelledDeclaration Nested declaration := by
  cases part with
  | properties => exact booleanProperties_spelled
  | constructors => exact constructors_spelled named
  | logicalOperators => exact List.forall_mem_map.mpr (booleanComparisons_spelled named)
  | objectOperators => exact List.forall_mem_map.mpr (equality_spelled named)
  | swizzles | mathOperators | functions | converters => exact List.forall_mem_nil _

theorem sectionCode_spelled (named : NestedNames names) (part : Section) :
    ∀ declaration ∈ sectionCode type mask names part, SpelledDeclaration Nested declaration := by
  unfold sectionCode
  cases Plan.ofKind type.kind with
  | numeric => exact numericSection_spelled named part
  | boolean => exact booleanSection_spelled named part

end VectorForge.Proofs.BracketedMembers
