import VectorForge.Proofs.ConversionCode
import VectorForge.Proofs.FamilyTyping
import VectorForge.Proofs.FunctionCode

/-! The functions and the conversions fit the types they name. -/

namespace VectorForge.Proofs.FunctionFits
open CodeSyntax MemberCode AcceptedNames FamilyTyping

variable {type mask : VectorType} {names : ArgumentNames}

theorem rootHolder_static (kind : Kind) : FunctionCode.rootHolder kind ∈ staticClasses := by
  cases kind <;> decide

theorem sqrMagnitude_fits : DeclarationFits type mask (.operation (FunctionCode.sqrMagnitude type).inlined) := by
  refine operation_fits (testedIn_map fun _ => rfl) (named_element _) noParameters_fit
    (.nothing (fields_element _)) ?_
  apply Context.Fits.chain
  apply forall_each
  intro component inside
  exact pair_fits (own_alone inside) (own_alone inside)

theorem magnitude_fits : DeclarationFits type mask (.operation (FunctionCode.magnitude type).inlined) := by
  refine operation_fits rfl (named_element _) noParameters_fit (.nothing (fields_element _)) ?_
  apply Context.Fits.routine (rootHolder_static _)
  exact List.forall_mem_singleton.mpr (.call (List.forall_mem_nil _))

theorem normalized_fits : DeclarationFits type mask (.operation (FunctionCode.normalized type).inlined) :=
  operation_fits rfl (named_generated _) noParameters_fit (takes_generated rfl rfl)
    (pair_fits .this (.call (List.forall_mem_nil _)))

theorem absolute_fits : DeclarationFits type mask (.operation (FunctionCode.absolute type).inlined) := by
  refine operation_fits (testedIn_map fun _ => rfl) (named_generated _) noParameters_fit
    (takes_generated rfl rfl) ?_
  apply build_fits
  intro component inside
  apply Context.Fits.routine (by decide)
  exact List.forall_mem_singleton.mpr (own_alone inside)

theorem nested_fits {context : Context} {count : Option Nat} (method : String)
    {components : List Component} (some : components ≠ [])
    (fits : ∀ component ∈ components, ∀ count, context.Fits count (own component)) :
    context.Fits count (FunctionCode.nested method components) := by
  induction components generalizing count with
  | nil => contradiction
  | cons component rest ih =>
    cases rest with
    | nil => exact fits component (by simp) count
    | cons next rest =>
      have further : context.Fits none (FunctionCode.nested method (next :: rest)) :=
        ih (by simp) fun other member => fits other (by simp [member])
      apply Context.Fits.routine (by decide)
      rw [List.forall_mem_cons, List.forall_mem_singleton]
      exact ⟨fits component (by simp) none, further⟩

theorem components_ne_nil (dimension : Dimension) : dimension.components ≠ [] := by
  cases dimension <;> decide

theorem extreme_fits (name method : String) :
    DeclarationFits type mask (.operation (FunctionCode.extreme type name method).inlined) := by
  refine operation_fits (FunctionCode.nested_tested method _) (named_element _) noParameters_fit
    (.nothing (fields_element _)) ?_
  apply nested_fits method (components_ne_nil _)
  exact fun _ inside _ => own_alone inside

theorem sqrDistance_fits : DeclarationFits type mask (.operation (FunctionCode.sqrDistance type).inlined) := by
  refine operation_fits rfl (named_element _) ?_ (.nothing (fields_element _))
    (.invoke (.group (pair_fits (name_fits type.name rfl) .this)) (by simp))
  constructor
  · simp [Operation.inlined, FunctionCode.sqrDistance, named_generated]
  · simp [Operation.inlined, FunctionCode.sqrDistance]
    decide
  · simp [Operation.inlined, FunctionCode.sqrDistance]

theorem distance_fits (accepted : Accepted names) :
    DeclarationFits type mask (.operation (FunctionCode.distance type names).inlined) := by
  have argument : Context.Fits ⟨each type Component.name,
      parameterVariables (sourceVector type.name names)⟩ none (.name names.single) := by
    apply name_fits type.name
    simp [parameterVariables, sourceVector]
  refine operation_fits rfl (named_element _) (sourceVector_fits accepted (named_generated _))
    (.nothing (fields_element _)) ?_
  apply Context.Fits.routine (rootHolder_static _)
  rw [List.forall_mem_singleton]
  exact .call (List.forall_mem_singleton.mpr argument)

theorem componentCalls_fits {name : String} {parameters : List Parameter}
    {form : Component → Expression} (plain : ∀ component, (form component).tested = [])
    (given : ParametersFit parameters)
    (fits : ∀ component ∈ type.dimension.components,
      Context.Fits ⟨each type Component.name, parameterVariables parameters⟩ none (form component)) :
    DeclarationFits type mask (FunctionCode.componentCalls type name parameters form) := by
  have scope : (FunctionCode.componentCalls type name parameters form).scope =
      parameterVariables parameters := by
    simp [FunctionCode.componentCalls, Declaration.scope, each, testedIn_map plain]
  constructor
  · simpa [signatureTypes, FunctionCode.componentCalls, Role.result, named_generated] using given.named
  · rw [scope, names_of_variables]
    exact given.identifiers
  · rw [scope, names_of_variables]
    exact given.distinct
  · rw [scope]
    exact ⟨some type.dimension.size, takes_generated rfl rfl, build_fits fits⟩

theorem chosen_fits (accepted : Accepted names) (name method : String) :
    DeclarationFits type mask (FunctionCode.componentCalls type name
      (sourceVector type.name names) (FunctionCode.chosen names method)) := by
  apply componentCalls_fits (fun _ => rfl) (sourceVector_fits accepted (named_generated _))
  intro component inside
  apply Context.Fits.routine (by decide)
  rw [List.forall_mem_cons, List.forall_mem_singleton]
  exact ⟨own_beside accepted.single inside, single_fits inside⟩

theorem range_fits : ParametersFit (FunctionCode.range type) := by
  constructor
  · simp [FunctionCode.range, named_generated]
  · simp only [FunctionCode.range, List.map_cons, List.map_nil]
    decide
  · simp [FunctionCode.range]

theorem clamped_fits : DeclarationFits type mask
    (FunctionCode.componentCalls type "Clamp" (FunctionCode.range type) FunctionCode.clamped) := by
  apply componentCalls_fits (fun _ => rfl) range_fits
  intro component inside
  apply Context.Fits.routine (by decide)
  rw [List.forall_mem_cons, List.forall_mem_cons, List.forall_mem_singleton]
  refine ⟨own_fits ?_ (List.mem_map_of_mem inside), part_fits rfl inside, part_fits rfl inside⟩
  cases component <;> rfl

theorem rounding_fits (mode : Rounding) :
    DeclarationFits type mask (.operation (ConversionCode.rounding type mode)) := by
  have fits : Context.Fits ⟨each type Component.name, []⟩ (some type.dimension.size)
      (ConversionCode.rounding type mode).body := by
    apply build_fits
    intro component inside
    apply Context.Fits.routine (by decide)
    exact List.forall_mem_singleton.mpr (own_alone inside)
  exact operation_fits (testedIn_map fun _ => rfl) (named_generated _) noParameters_fit
    (takes_generated rfl rfl) fits

theorem fields_engine {engine : String} (matching : type.engineVector? = some engine) :
    fields? engine = some (each type ConversionCode.engineField) := by
  obtain ⟨kind, dimension⟩ := type
  cases kind <;> cases dimension <;> cases matching <;> rfl

theorem named_engine {engine : String} (matching : type.engineVector? = some engine) :
    Named engine := by
  refine .inr (.inl ?_)
  obtain ⟨kind, dimension⟩ := type
  cases kind <;> cases dimension <;> cases matching <;> decide

theorem toEngine_fits (accepted : Accepted names) {engine : String} (isImplicit : Bool)
    (matching : type.engineVector? = some engine) :
    DeclarationFits type mask (.operation (ConversionCode.toEngine type names engine isImplicit)) := by
  have takes : Takes type mask (.conversion engine isImplicit) _ :=
    .components rfl (fields_engine matching)
  rw [length_each] at takes
  exact operation_fits (testedIn_map fun _ => rfl) (named_engine matching)
    (sourceVector_fits accepted (named_generated _)) takes
    (build_fits fun _ inside => single_fits inside)

theorem fromEngine_fits (accepted : Accepted names) {engine : String} (isImplicit : Bool)
    (matching : type.engineVector? = some engine) :
    DeclarationFits type mask
      (.operation (ConversionCode.fromEngine type names engine isImplicit)) := by
  have found : (parameterVariables (sourceVector engine names)).lookup names.single = some engine := by
    simp [parameterVariables, sourceVector]
  exact operation_fits (testedIn_map fun _ => rfl) (named_generated _)
    (sourceVector_fits accepted (named_engine matching)) (takes_generated rfl rfl)
    (build_fits fun _ inside =>
      .selectVariable found (fields_engine matching) (List.mem_map_of_mem inside))

theorem fromKind_fits (accepted : Accepted names) (source : Kind) (isImplicit : Bool) :
    DeclarationFits type mask
      (.operation (ConversionCode.fromKind type names source isImplicit)) := by
  have plain (component : Component) :
      (ConversionCode.castPart type names isImplicit component).tested = [] := by
    cases isImplicit <;> rfl
  refine operation_fits (testedIn_map plain) (named_generated _)
    (sourceVector_fits accepted (named_generated _)) (takes_generated rfl rfl)
    (build_fits fun component inside => ?_)
  have fits : Context.Fits ⟨each type Component.name,
      parameterVariables (sourceVector (VectorType.mk source type.dimension).name names)⟩ none
      (part names.single component) := single_fits inside
  cases isImplicit with
  | true => exact fits
  | false => exact .cast (by cases type.kind <;> decide) fits

/-- An engine type that a conversion names is the one that matches the struct. -/
theorem engine_of_conversion {engine : String} {isImplicit : Bool}
    (declared : .toEngine engine isImplicit ∈ type.conversions ∨
      .fromEngine engine isImplicit ∈ type.conversions) : type.engineVector? = some engine := by
  obtain ⟨kind, dimension⟩ := type
  cases matching : VectorType.engineVector? ⟨kind, dimension⟩ with
  | none =>
    cases kind <;> simp [VectorType.conversions, matching, VectorType.kindSources, Kind.isFloating,
      Rounding.all] at declared
  | some found =>
    cases kind <;> simp [VectorType.conversions, matching, VectorType.kindSources, Kind.isFloating,
      Rounding.all] at declared ⊢ <;> grind

theorem conversion_fits (accepted : Accepted names) {step : Conversion}
    (declared : step ∈ type.conversions) :
    DeclarationFits type mask (.operation (ConversionCode.conversion type names step)) := by
  cases step with
  | rounding mode => exact rounding_fits mode
  | toEngine engine isImplicit =>
    exact toEngine_fits accepted isImplicit (engine_of_conversion (.inl declared))
  | fromEngine engine isImplicit =>
    exact fromEngine_fits accepted isImplicit (engine_of_conversion (.inr declared))
  | fromKind source isImplicit => exact fromKind_fits accepted source isImplicit

end VectorForge.Proofs.FunctionFits
