import Mathlib.Data.List.Forall2
import VectorForge.Proofs.RestoredMembers
import VectorForge.Proofs.StructCode

/-! Which argument names leave the rest of the generated code alone. -/

namespace VectorForge.Proofs.ArgumentHygiene
open CodeSyntax MemberCode AcceptedNames Renaming RestoredMembers StructCode

variable {type mask : VectorType} {names : ArgumentNames}

/-- Every member is restored by the names of its own variables. -/
def Hygienic (names : ArgumentNames) (struct original : Struct) : Prop :=
  List.Forall₂ (fun region first =>
    region.1 = first.1 ∧ List.Forall₂ (Restored names) region.2 first.2)
    struct.regions original.regions

/-- The names that generated bodies use next to the only vector argument of a member. -/
def shared (type : VectorType) : List String :=
  [type.name, "Equals"]
    ++ if type.kind.isNumeric then ["SqrDistance", FunctionCode.rootHolder type.kind, "Mathf"] else []

def Unnamed (declaration : Declaration) : Prop :=
  ∀ name ∈ variableNames declaration, name ∉ ({} : ArgumentNames).toList

theorem Unnamed.restored {declaration : Declaration} (unnamed : Unnamed declaration) :
    Restored names declaration declaration := by
  have nothing : restoring names (variableNames declaration) = id := by
    funext word
    apply restoring_other
    intro spelling given used
    exact absurd (mem_spellings given).2 (unnamed spelling.2 used)
  rw [Restored, nothing, renamedDeclaration_id]

theorem unnamed_operation {declared : Operation} (plain : declared.body.tested = [])
    (parameters : ∀ parameter ∈ declared.parameters, parameter.name ∉ ({} : ArgumentNames).toList) :
    Unnamed (.operation declared) := by
  rw [Unnamed, variableNames, Declaration.scope, plain, List.append_nil, parameterVariables,
    List.map_map, List.forall_mem_map]
  exact parameters

theorem numericProperties_unnamed :
    ∀ declaration ∈ FieldCode.numericProperties type, Unnamed declaration := by
  rw [FieldCode.numericProperties, List.forall_mem_append, List.forall_mem_map]
  constructor
  · exact fun _ _ => List.forall_mem_nil _
  · exact List.forall_mem_singleton.mpr (List.forall_mem_nil _)

theorem booleanProperties_unnamed :
    ∀ declaration ∈ FieldCode.booleanProperties type, Unnamed declaration := by
  rw [FieldCode.booleanProperties, List.forall_mem_cons, List.forall_mem_map]
  simp only [FieldCode.maskProperties, List.forall_mem_cons]
  refine ⟨List.forall_mem_nil _, ?_, ?_, ?_, ?_, List.forall_mem_nil _⟩
  · exact unnamed_operation (testedIn_map fun _ => rfl) (List.forall_mem_nil _)
  · exact unnamed_operation (testedIn_map fun _ => rfl) (List.forall_mem_nil _)
  · exact unnamed_operation (FieldCode.adjacent_tested _) (List.forall_mem_nil _)
  · exact unnamed_operation (testedIn_map fun _ => rfl) (List.forall_mem_nil _)

theorem component_unnamed (component : Component) :
    component.name ∉ ({} : ArgumentNames).toList := by
  cases component <;> decide

theorem index_unnamed (component : Component) :
    "i" ++ component.name ∉ ({} : ArgumentNames).toList := by
  cases component <;> decide

theorem componentwise_unnamed :
    Unnamed (.constructor type.name (each type (FieldCode.componentParameter type))
      (FieldCode.componentwiseBody type)) := by
  rw [Unnamed, variableNames, Declaration.scope, parameterVariables, each, List.map_map,
    List.map_map, List.forall_mem_map]
  exact fun component _ => component_unnamed component

theorem swizzle_unnamed (size : Dimension) : Unnamed (FieldCode.swizzle type size) := by
  rw [Unnamed, variableNames, FieldCode.swizzle, Declaration.scope, parameterVariables,
    List.map_append, List.forall_mem_append, each, List.map_map, List.map_map, List.forall_mem_map]
  constructor
  · exact fun component _ => index_unnamed component
  · split
    · exact List.forall_mem_singleton.mpr (by decide : "value" ∉ ({} : ArgumentNames).toList)
    · exact List.forall_mem_nil _

theorem indexers_unnamed : ∀ declaration ∈ FieldCode.indexers type, Unnamed declaration := by
  rw [FieldCode.indexers, List.forall_mem_cons, List.forall_mem_map]
  constructor
  · exact (by decide : ∀ name ∈ ["ix", "value"], name ∉ ({} : ArgumentNames).toList)
  · exact fun size _ => swizzle_unnamed size

theorem hashCode_unnamed : Unnamed (.operation (OperatorCode.hashCode type)) :=
  unnamed_operation (testedIn_map fun _ => rfl) (List.forall_mem_nil _)

theorem display_unnamed : Unnamed (.operation (OperatorCode.display type)) :=
  unnamed_operation (testedIn_map fun _ => rfl) (List.forall_mem_nil _)

theorem rounding_unnamed (mode : Rounding) :
    Unnamed (.operation (ConversionCode.rounding type mode)) :=
  unnamed_operation (testedIn_map fun _ => rfl) (List.forall_mem_nil _)

theorem measures_unnamed :
    ∀ operation ∈ FunctionCode.measures type, Unnamed (.operation operation.inlined) := by
  simp only [FunctionCode.measures, List.forall_mem_cons]
  refine ⟨?_, ?_, ?_, ?_, ?_, ?_, List.forall_mem_nil _⟩
  · exact unnamed_operation (testedIn_map fun _ => rfl) (List.forall_mem_nil _)
  · exact unnamed_operation rfl (List.forall_mem_nil _)
  · exact unnamed_operation rfl (List.forall_mem_nil _)
  · exact unnamed_operation (testedIn_map fun _ => rfl) (List.forall_mem_nil _)
  · exact unnamed_operation (FunctionCode.nested_tested _ _) (List.forall_mem_nil _)
  · exact unnamed_operation (FunctionCode.nested_tested _ _) (List.forall_mem_nil _)

theorem sqrDistance_unnamed : Unnamed (.operation (FunctionCode.sqrDistance type).inlined) :=
  unnamed_operation rfl
    (List.forall_mem_singleton.mpr (by decide : "other" ∉ ({} : ArgumentNames).toList))

theorem clamp_unnamed :
    Unnamed (FunctionCode.componentCalls type "Clamp" (FunctionCode.range type)
      FunctionCode.clamped) := by
  have plain : Expression.testedIn (each type FunctionCode.clamped) = [] :=
    testedIn_map fun _ => rfl
  rw [Unnamed, variableNames, FunctionCode.componentCalls, Declaration.scope, plain]
  exact (by decide : ∀ name ∈ ["min", "max"], name ∉ ({} : ArgumentNames).toList)

theorem restored_map {items : List α} {before after : α → Declaration}
    (restored : ∀ item ∈ items, Restored names (before item) (after item)) :
    List.Forall₂ (Restored names) (items.map before) (items.map after) := by
  rw [List.forall₂_map_left_iff, List.forall₂_map_right_iff, List.forall₂_same]
  exact restored

theorem unnamed_restored {declarations : List Declaration}
    (unnamed : ∀ declaration ∈ declarations, Unnamed declaration) :
    List.Forall₂ (Restored names) declarations declarations :=
  List.forall₂_same.mpr fun declaration member => (unnamed declaration member).restored

section Sections
variable (accepted : Accepted names)
include accepted

theorem constructors_restored :
    List.Forall₂ (Restored names) (FieldCode.constructors type names)
      (FieldCode.constructors type {}) :=
  .cons (broadcast_restored accepted) (.cons componentwise_unnamed.restored .nil)

theorem arithmetic_restored :
    List.Forall₂ (Restored names) ((OperatorCode.arithmetic type names).map .operation)
      ((OperatorCode.arithmetic type {}).map .operation) := by
  simp only [OperatorCode.arithmetic, List.map_append, List.map_map]
  apply List.rel_append
  · apply List.rel_append
    · exact restored_map fun symbol _ => vectorArithmetic_restored accepted symbol
    · exact restored_map fun symbol _ => scalarArithmetic_restored accepted symbol
  · exact .cons (negation_restored accepted) .nil

theorem comparisons_restored :
    List.Forall₂ (Restored names) ((OperatorCode.comparisons type mask names).map .operation)
      ((OperatorCode.comparisons type mask {}).map .operation) := by
  simp only [OperatorCode.comparisons, List.map_map]
  exact restored_map fun symbol _ => comparison_restored accepted symbol

theorem booleanComparisons_restored :
    List.Forall₂ (Restored names) ((OperatorCode.booleanComparisons type names).map .operation)
      ((OperatorCode.booleanComparisons type {}).map .operation) :=
  .cons (booleanComparison_restored accepted _ _)
    (.cons (booleanComparison_restored accepted _ _) .nil)

theorem conversions_restored :
    List.Forall₂ (Restored names) ((ConversionCode.conversions type names).map .operation)
      ((ConversionCode.conversions type {}).map .operation) := by
  simp only [ConversionCode.conversions, List.map_map]
  apply restored_map
  intro step _
  cases step with
  | rounding mode => exact (rounding_unnamed mode).restored
  | toEngine engine isImplicit => exact toEngine_restored accepted engine isImplicit
  | fromEngine engine isImplicit => exact fromEngine_restored accepted engine isImplicit
  | fromKind source isImplicit => exact fromKind_restored accepted source isImplicit

theorem equality_restored :
    List.Forall₂ (Restored names) ((OperatorCode.equality type names).map .operation)
        ((OperatorCode.equality type {}).map .operation) ↔
      names.single ≠ type.name ∧ names.single ≠ "Equals" := by
  simp only [OperatorCode.equality, List.map_cons, List.map_nil, List.forall₂_cons,
    equalsObject_restored accepted, equalsVector_restored accepted, hashCode_unnamed.restored,
    display_unnamed.restored, List.Forall₂.nil, and_true]

theorem functions_restored :
    List.Forall₂ (Restored names) (FunctionCode.functions type names)
        (FunctionCode.functions type {}) ↔
      (names.single ≠ FunctionCode.rootHolder type.kind ∧ names.single ≠ "SqrDistance") ∧
        names.single ≠ "Mathf" := by
  have measures (operation : Operation) (member : operation ∈ FunctionCode.measures type) :
      Restored names (.operation operation.inlined) (.operation operation.inlined) :=
    (measures_unnamed operation member).restored
  simp only [FunctionCode.measures, List.forall_mem_cons] at measures
  simp only [FunctionCode.functions, FunctionCode.measures, FunctionCode.distances,
    List.map_cons, List.map_nil, List.cons_append, List.nil_append, List.forall₂_cons, measures,
    sqrDistance_unnamed.restored, distance_restored accepted, chosen_restored accepted,
    clamp_unnamed.restored, List.Forall₂.nil, and_true, true_and, and_self]

end Sections

theorem hygienic_iff_sections :
    Hygienic names (structCode type mask names) (structCode type mask {}) ↔
      ∀ part ∈ (Plan.ofKind type.kind).sections,
        List.Forall₂ (Restored names) (sectionCode type mask names part)
          (sectionCode type mask {} part) := by
  rw [Hygienic, structCode, structCode, List.forall₂_map_left_iff, List.forall₂_map_right_iff,
    List.forall₂_same]
  simp only [true_and]

theorem numeric_hygienic (accepted : Accepted names) :
    (∀ part ∈ Plan.numeric.sections, List.Forall₂ (Restored names)
        (numericSection type mask names part) (numericSection type mask {} part)) ↔
      (names.single ≠ type.name ∧ names.single ≠ "Equals") ∧
        (names.single ≠ FunctionCode.rootHolder type.kind ∧ names.single ≠ "SqrDistance") ∧
          names.single ≠ "Mathf" := by
  constructor
  · intro restored
    constructor
    · exact (equality_restored accepted).mp (restored .objectOperators (by decide))
    · exact (functions_restored accepted).mp (restored .functions (by decide))
  · intro ⟨equality, functions⟩ part _
    cases part with
    | properties => exact unnamed_restored numericProperties_unnamed
    | swizzles => exact unnamed_restored indexers_unnamed
    | constructors => exact constructors_restored accepted
    | mathOperators => exact arithmetic_restored accepted
    | logicalOperators => exact comparisons_restored accepted
    | objectOperators => exact (equality_restored accepted).mpr equality
    | functions => exact (functions_restored accepted).mpr functions
    | converters => exact conversions_restored accepted

theorem boolean_hygienic (accepted : Accepted names) :
    (∀ part ∈ Plan.boolean.sections, List.Forall₂ (Restored names)
        (booleanSection type names part) (booleanSection type {} part)) ↔
      names.single ≠ type.name ∧ names.single ≠ "Equals" := by
  constructor
  · intro restored
    exact (equality_restored accepted).mp (restored .objectOperators (by decide))
  · intro equality part _
    cases part with
    | properties => exact unnamed_restored booleanProperties_unnamed
    | constructors => exact constructors_restored accepted
    | logicalOperators => exact booleanComparisons_restored accepted
    | objectOperators => exact (equality_restored accepted).mpr equality
    | swizzles | mathOperators | functions | converters => exact .nil

theorem struct_hygienic (accepted : Accepted names) :
    Hygienic names (structCode type mask names) (structCode type mask {}) ↔
      names.single ∉ shared type := by
  obtain ⟨kind, dimension⟩ := type
  rw [hygienic_iff_sections]
  cases kind with
  | bool =>
    refine (boolean_hygienic accepted).trans ?_
    simp [shared, Kind.isNumeric]
  | int | float | double =>
    refine (numeric_hygienic accepted).trans ?_
    simp [shared, Kind.isNumeric]
    tauto

def defaultNamed (options : Options) : Options := { options with arguments := {} }

theorem names_checked {config : Config} (accepted : config.validate = .ok ()) :
    Config.checkNames [] config.emit.arguments.toList = .ok () := by
  rw [Config.validate] at accepted
  repeat' split at accepted
  · contradiction
  · contradiction
  · contradiction
  · contradiction
  · exact accepted

/-- For accepted names, renaming them back in each member gives the members with the default
names, unless the name of the only vector argument is also that of something else in a body.
None of the other names can be. -/
theorem accepted_hygienic {config : Config} (accepted : config.validate = .ok ())
    (type : VectorType) :
    generate type config.emit = .ok (fileText config.emit (declared type config.emit)) ∧
      generate type (defaultNamed config.emit) =
        .ok (fileText config.emit (declared type (defaultNamed config.emit))) ∧
      (Hygienic config.emit.arguments (declared type config.emit)
          (declared type (defaultNamed config.emit)) ↔
        config.emit.arguments.single ∉ shared type) := by
  refine ⟨generate_eq type config.emit, generate_eq type (defaultNamed config.emit), ?_⟩
  exact struct_hygienic (accepted_of_checkNames (names_checked accepted))

/-- A configuration that gives the only vector argument this name. -/
def calling (single : String) : Config where
  emit := { arguments := { single } }

theorem vector_hygienic :
    (calling "vector").validate = .ok () ∧
      generate ⟨.float, .three⟩ (calling "vector").emit = .ok (fileText (calling "vector").emit
        (declared ⟨.float, .three⟩ (calling "vector").emit)) ∧
      generate ⟨.float, .three⟩ (defaultNamed (calling "vector").emit) =
        .ok (fileText (calling "vector").emit
          (declared ⟨.float, .three⟩ (defaultNamed (calling "vector").emit))) ∧
      (Hygienic (calling "vector").emit.arguments (declared ⟨.float, .three⟩ (calling "vector").emit)
          (declared ⟨.float, .three⟩ (defaultNamed (calling "vector").emit)) ↔
        "vector" ∉ shared ⟨.float, .three⟩) :=
  ⟨rfl, accepted_hygienic rfl ⟨.float, .three⟩⟩

/-- An argument can be called like the engine's static class and then hides it. -/
theorem class_hidden :
    (calling "Mathf").validate = .ok () ∧
      ¬Hygienic (calling "Mathf").emit.arguments (declared ⟨.float, .three⟩ (calling "Mathf").emit)
        (declared ⟨.float, .three⟩ (defaultNamed (calling "Mathf").emit)) := by
  have valid : (calling "Mathf").validate = .ok () := rfl
  refine ⟨valid, fun hygienic => ?_⟩
  have apart := (struct_hygienic (accepted_of_checkNames (names_checked valid))).mp hygienic
  exact apart (by decide)

end VectorForge.Proofs.ArgumentHygiene
