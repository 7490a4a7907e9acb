import VectorForge.Proofs.FieldFits
import VectorForge.Proofs.FunctionFits
import VectorForge.Proofs.OperatorFits
import VectorForge.Proofs.StructCode

/-! The structs of one choice of options form a family whose members fit together. -/

namespace VectorForge.Proofs.FamilyFits
open CodeSyntax MemberCode AcceptedNames FamilyTyping StructCode

variable {type mask : VectorType} {names : ArgumentNames}

theorem numericProperties_fit :
    ∀ declaration ∈ FieldCode.numericProperties type, DeclarationFits type mask declaration := by
  rw [FieldCode.numericProperties, List.forall_mem_append, List.forall_mem_map]
  constructor
  · intro (name, x, y) _
    exact FieldFits.constant_fits name x y
  · exact List.forall_mem_singleton.mpr FieldFits.fields_fit

theorem booleanProperties_fit :
    ∀ declaration ∈ FieldCode.booleanProperties type, DeclarationFits type mask declaration := by
  rw [FieldCode.booleanProperties, List.forall_mem_cons, List.forall_mem_map]
  exact ⟨FieldFits.fields_fit, FieldFits.maskProperties_fit⟩

theorem indexers_fit :
    ∀ declaration ∈ FieldCode.indexers type, DeclarationFits type mask declaration := by
  rw [FieldCode.indexers, List.forall_mem_cons, List.forall_mem_map]
  constructor
  · exact FieldFits.componentIndexer_fits
  · exact fun size _ => FieldFits.swizzle_fits size

theorem constructors_fit (accepted : Accepted names) :
    ∀ declaration ∈ FieldCode.constructors type names, DeclarationFits type mask declaration :=
  List.forall_mem_cons.mpr ⟨FieldFits.broadcast_fits accepted,
    List.forall_mem_singleton.mpr FieldFits.componentwise_fits⟩

theorem arithmetic_fits (accepted : Accepted names) :
    ∀ operation ∈ OperatorCode.arithmetic type names,
      DeclarationFits type mask (.operation operation) := by
  simp only [OperatorCode.arithmetic, List.forall_mem_append, List.forall_mem_map,
    List.forall_mem_singleton]
  refine ⟨⟨?_, ?_⟩, OperatorFits.negation_fits accepted⟩
  · intro symbol listed
    exact OperatorFits.vectorArithmetic_fits accepted listed
  · intro symbol listed
    exact OperatorFits.scalarArithmetic_fits accepted listed

theorem equality_fits (accepted : Accepted names) :
    ∀ operation ∈ OperatorCode.equality type names,
      DeclarationFits type mask (.operation operation) := by
  simp only [OperatorCode.equality, List.forall_mem_cons]
  exact ⟨OperatorFits.equalsObject_fits accepted, OperatorFits.equalsVector_fits accepted,
    OperatorFits.hashCode_fits, OperatorFits.display_fits, List.forall_mem_nil _⟩

theorem functions_fit (accepted : Accepted names) :
    ∀ declaration ∈ FunctionCode.functions type names, DeclarationFits type mask declaration := by
  have measures : ∀ operation ∈ FunctionCode.measures type,
      DeclarationFits type mask (.operation operation.inlined) := by
    simp only [FunctionCode.measures, List.forall_mem_cons]
    exact ⟨FunctionFits.sqrMagnitude_fits, FunctionFits.magnitude_fits, FunctionFits.normalized_fits,
      FunctionFits.absolute_fits, FunctionFits.extreme_fits _ _, FunctionFits.extreme_fits _ _,
      List.forall_mem_nil _⟩
  have distances : ∀ operation ∈ FunctionCode.distances type names,
      DeclarationFits type mask (.operation operation.inlined) :=
    List.forall_mem_cons.mpr ⟨FunctionFits.sqrDistance_fits,
      List.forall_mem_singleton.mpr (FunctionFits.distance_fits accepted)⟩
  simp only [FunctionCode.functions, List.forall_mem_append, List.forall_mem_map,
    List.forall_mem_singleton]
  exact ⟨⟨⟨⟨measures, distances⟩, FunctionFits.chosen_fits accepted _ _⟩,
    FunctionFits.chosen_fits accepted _ _⟩, FunctionFits.clamped_fits⟩

theorem numericSection_fits (accepted : Accepted names) (part : Section) :
    ∀ declaration ∈ numericSection type mask names part, DeclarationFits type mask declaration := by
  cases part with
  | properties => exact numericProperties_fit
  | swizzles => exact indexers_fit
  | constructors => exact constructors_fit accepted
  | mathOperators => exact List.forall_mem_map.mpr (arithmetic_fits accepted)
  | logicalOperators =>
    rw [numericSection, OperatorCode.comparisons, List.forall_mem_map, List.forall_mem_map]
    intro symbol listed
    exact OperatorFits.comparison_fits accepted listed
  | objectOperators => exact List.forall_mem_map.mpr (equality_fits accepted)
  | functions => exact functions_fit accepted
  | converters =>
    rw [numericSection, ConversionCode.conversions, List.forall_mem_map, List.forall_mem_map]
    intro step listed
    exact FunctionFits.conversion_fits accepted listed

theorem booleanSection_fits (accepted : Accepted names) (part : Section) :
    ∀ declaration ∈ booleanSection type names part, DeclarationFits type mask declaration := by
  cases part with
  | properties => exact booleanProperties_fit
  | constructors => exact constructors_fit accepted
  | logicalOperators =>
    rw [booleanSection, OperatorCode.booleanComparisons, List.forall_mem_map, List.forall_mem_cons,
      List.forall_mem_singleton]
    exact ⟨OperatorFits.booleanComparison_fits accepted, OperatorFits.booleanComparison_fits accepted⟩
  | objectOperators => exact List.forall_mem_map.mpr (equality_fits accepted)
  | swizzles | mathOperators | functions | converters => exact List.forall_mem_nil _

theorem declarations_fit (accepted : Accepted names) :
    ∀ declaration ∈ (structCode type mask names).declarations,
      DeclarationFits type mask declaration := by
  intro declaration member
  simp only [Struct.declarations, structCode, List.flatMap_map, List.mem_flatMap] at member
  obtain ⟨part, -, inside⟩ := member
  cases plan : Plan.ofKind type.kind with
  | numeric =>
    rw [sectionCode, plan] at inside
    exact numericSection_fits accepted part declaration inside
  | boolean =>
    rw [sectionCode, plan] at inside
    exact booleanSection_fits accepted part declaration inside

theorem mem_declarations {part : Section} {declaration : Declaration}
    (planned : part ∈ (Plan.ofKind type.kind).sections)
    (inside : declaration ∈ sectionCode type mask names part) :
    declaration ∈ (structCode type mask names).declarations := by
  simp only [Struct.declarations, structCode, List.flatMap_map, List.mem_flatMap]
  exact ⟨part, planned, inside⟩

theorem constructors_planned (kind : Kind) : .constructors ∈ (Plan.ofKind kind).sections := by
  cases kind <;> decide

theorem constructors_code (type mask : VectorType) (names : ArgumentNames) :
    sectionCode type mask names .constructors = FieldCode.constructors type names := by
  obtain ⟨kind, dimension⟩ := type
  cases kind <;> rfl

theorem constructed (type mask : VectorType) (names : ArgumentNames) :
    ∃ parameters body, .constructor type.name parameters body ∈
        (structCode type mask names).declarations ∧
      parameters.map Parameter.name = each type Component.name := by
  refine ⟨each type (FieldCode.componentParameter type), FieldCode.componentwiseBody type,
    mem_declarations (constructors_planned type.kind) ?_, ?_⟩
  · rw [constructors_code]
    exact List.mem_cons_of_mem _ (List.mem_singleton_self _)
  · simp [each, FieldCode.componentParameter, Function.comp_def]

/-- The signatures of a declaration and the types it converts between. -/
def outline (declaration : Declaration) : List (String × List String) × Option (String × String) :=
  (signatures declaration, conversion? declaration)

theorem conversion_outline (names : ArgumentNames) (step : Conversion) :
    outline (.operation (ConversionCode.conversion type names step)) =
      outline (.operation (ConversionCode.conversion type {} step)) := by
  cases step <;> rfl

theorem section_outline (type mask : VectorType) (names : ArgumentNames) (part : Section) :
    (sectionCode type mask names part).map outline =
      (sectionCode type type {} part).map outline := by
  obtain ⟨kind, dimension⟩ := type
  cases part with
  | converters =>
    cases kind with
    | bool => rfl
    | int | float | double =>
      simp only [sectionCode, Plan.ofKind, numericSection, ConversionCode.conversions, List.map_map,
        Function.comp_def, conversion_outline]
  | _ => cases kind <;> rfl

theorem struct_outline (type mask : VectorType) (names : ArgumentNames) :
    (structCode type mask names).declarations.map outline =
      (structCode type type {}).declarations.map outline := by
  simp only [Struct.declarations, structCode, List.flatMap_map, List.map_flatMap, section_outline]

theorem signatures_eq (type mask : VectorType) (names : ArgumentNames) :
    (structCode type mask names).declarations.flatMap signatures =
      (structCode type type {}).declarations.flatMap signatures := by
  have same := congrArg (List.flatMap Prod.fst) (struct_outline type mask names)
  rwa [List.flatMap_map, List.flatMap_map] at same

theorem conversions_eq (type mask : VectorType) (names : ArgumentNames) :
    (structCode type mask names).declarations.filterMap conversion? =
      (structCode type type {}).declarations.filterMap conversion? := by
  have same := congrArg (List.filterMap Prod.snd) (struct_outline type mask names)
  rwa [List.filterMap_map, List.filterMap_map] at same

theorem signatures_nodup :
    ∀ type ∈ VectorType.all, ((structCode type type {}).declarations.flatMap signatures).Nodup := by
  decide +kernel

theorem conversions_nodup : (VectorType.all.flatMap fun type =>
    (structCode type type {}).declarations.filterMap conversion?).Nodup := by
  decide +kernel

/-- Under accepted names, every struct of the family fits the types it names, and over the
whole family no two conversions lead from the same type to the same type. -/
theorem family_fits {options : Options}
    (accepted : Config.checkNames [] options.arguments.toList = .ok ()) :
    (∀ type, generate type options = .ok (fileText options (declared type options)) ∧
      StructFits type (options.mask.maskType type) (declared type options)) ∧
    (VectorType.all.flatMap fun type =>
      (declared type options).declarations.filterMap conversion?).Nodup := by
  refine ⟨fun type => ⟨generate_eq type options, rfl,
    declarations_fit (accepted_of_checkNames accepted), ?_, ?_⟩, ?_⟩
  · exact constructed type _ _
  · rw [declared, signatures_eq]
    exact signatures_nodup type (mem_all type)
  · simp only [declared, conversions_eq]
    exact conversions_nodup

/-- A choice of names and of the mask other than the default. -/
def plainNames : Options where
  arguments := { first := "left", second := "right", single := "vector", scalar := "factor" }
  mask := .operand

theorem plainNames_fit :
    Config.checkNames [] plainNames.arguments.toList = .ok () ∧
      (∀ type, generate type plainNames = .ok (fileText plainNames (declared type plainNames)) ∧
        StructFits type (plainNames.mask.maskType type) (declared type plainNames)) ∧
      (VectorType.all.flatMap fun type =>
        (declared type plainNames).declarations.filterMap conversion?).Nodup :=
  ⟨rfl, family_fits rfl⟩

end VectorForge.Proofs.FamilyFits
