import VectorForge.Proofs.ExactNumbers
import VectorForge.Proofs.NumericVectors

/-! What conversions of vectors compute. The source and the target of a conversion decide which
one it is, over all files; the engine's own structs are only known by what they promise. -/

namespace VectorForge.Proofs.ConversionMeaning
open CodeSyntax MemberCode CodeMeaning StructCode EvaluationRules FamilyMembers NumericVectors
open ConversionCode ExactNumbers
open ComparisonMeaning (numbers)
open FamilyTyping (mem_all)

variable {options : Options} {type : VectorType}

/-- What a conversion leads from and to. Rounding is a method. -/
def ends (type : VectorType) : Conversion → Option (String × String)
  | .rounding _ => none
  | .toEngine engine _ => some (type.name, engine)
  | .fromEngine engine _ => some (engine, type.name)
  | .fromKind source _ => some ((VectorType.mk source type.dimension).name, type.name)

theorem ends_unique : ∀ type ∈ VectorType.all, ∀ step ∈ type.conversions,
    ∀ other ∈ VectorType.all, ∀ further ∈ other.conversions,
      (ends type step).isSome → ends type step = ends other further →
        type = other ∧ step = further := by
  decide +kernel

theorem engine_other : ∀ type ∈ VectorType.all, ∀ generated ∈ VectorType.all,
    type.engineVector? ≠ some generated.name := by
  decide +kernel

theorem conversion_shape {names : ArgumentNames} {step : Conversion} {source target : String}
    (leads : ends type step = some (source, target)) :
    (∃ isImplicit, (conversion type names step).role = .conversion target isImplicit) ∧
      (conversion type names step).parameters = sourceVector source names := by
  cases step <;> cases leads <;> exact ⟨⟨_, rfl⟩, rfl⟩

theorem ends_of_role {names : ArgumentNames} {step : Conversion} {target : String}
    (converts : isConversion target (conversion type names step).role = true) :
    ∃ source, ends type step = some (source, target) := by
  cases step <;> simp_all [isConversion, conversion, rounding, toEngine, fromEngine, fromKind, ends]

/-- Only the conversions of a struct are conversions. -/
theorem conversions_selected (target : String) (type : VectorType) (options : Options) :
    having (isConversion target) (operations (declared type options)) =
      having (isConversion target) (conversions type options.arguments) := by
  rcases numeric_or_boolean type.kind with numeric | boolean
  · rw [operations_numeric numeric, having, List.filter_append]
    rfl
  · have none : type.conversions = [] := by
      obtain ⟨kind, dimension⟩ := type
      subst boolean
      cases dimension <;> rfl
    rw [operations_boolean boolean, conversions, none]
    rfl

theorem numeric_of_conversion {step : Conversion} (declares : step ∈ type.conversions) :
    type.kind.isNumeric = true := by
  obtain ⟨kind, dimension⟩ := type
  cases kind with
  | bool => cases dimension <;> cases declares
  | _ => rfl

theorem conversion_declared {step : Conversion} (declares : step ∈ type.conversions)
    (options : Options) :
    conversion type options.arguments step ∈ operations (declared type options) := by
  rw [operations_numeric (numeric_of_conversion declares)]
  exact List.mem_append_right _ (List.mem_map_of_mem declares)

section Candidates
variable {candidates : List Operation} {names : ArgumentNames} {step : Conversion}
  {source target : String} {value : Datum α}

theorem bound?_source (typed : value.isA source = true) :
    bound? (fun _ => none) (sourceVector source names) [value] = some [(names.single, value)] := by
  simp [sourceVector, bound?, typed]

theorem bound?_foreign {parameters : List Parameter}
    (foreign : ∀ parameter ∈ parameters, value.isA parameter.type = false) :
    bound? (fun _ => none) parameters [value] = none := by
  cases parameters with
  | nil => rfl
  | cons parameter rest => simp [bound?, foreign parameter (by simp)]

/-- A conversion is chosen wherever it is declared, if all others that lead to its target are
of generated types or take something else. -/
theorem conversion_chosen (declares : step ∈ type.conversions)
    (leads : ends type step = some (source, target)) (typed : ∀ name, value.isA name = true ↔ name = source)
    (present : conversion type names step ∈ candidates)
    (origin : ∀ other ∈ having (isConversion target) candidates,
      (∃ generated : VectorType, other ∈ conversions generated names) ∨
        ∀ parameter ∈ other.parameters, parameter.type ≠ source) :
    overload? candidates (isConversion target) [value] =
      some (conversion type names step, [(names.single, value)]) := by
  obtain ⟨⟨isImplicit, role⟩, parameters⟩ := @conversion_shape type names step source target leads
  apply overload?_only
  · exact List.mem_filter.mpr ⟨present, by simp [role, isConversion]⟩
  · rw [parameters]
    exact bound?_source ((typed source).mpr rfl)
  · intro other listed different
    rcases origin other listed with ⟨generated, member⟩ | foreign
    · obtain ⟨further, also, rfl⟩ := List.mem_map.mp member
      obtain ⟨start, there⟩ := ends_of_role (List.mem_filter.mp listed).2
      rw [(conversion_shape there).2]
      apply bound?_foreign
      intro parameter taken
      obtain rfl : parameter = { type := start, name := names.single } := by
        simpa [sourceVector] using taken
      rw [Bool.eq_false_iff, ne_eq, typed]
      rintro rfl
      obtain ⟨rfl, rfl⟩ := ends_unique type (mem_all type) step declares generated
        (mem_all generated) further also (by simp [leads]) (leads.trans there.symm)
      exact different rfl
    · apply bound?_foreign
      intro parameter taken
      rw [Bool.eq_false_iff, ne_eq, typed]
      exact foreign parameter taken

end Candidates

/-- A vector of the engine, which has its own names for the components. -/
def engineOf (engine : String) (type : VectorType) (value : Component → α) : Datum α :=
  .vector engine (each type fun component => (engineField component, .number (value component)))

theorem engineField_injective : Function.Injective engineField := by
  intro first second same
  cases first <;> cases second <;> first | rfl | simp [engineField] at same

variable [LinearOrder α]

/-- What the engine promises of its structs: a constructor assigns its arguments in the order of
the fields, and no member has to do with a generated type. -/
structure Engine (library : Library α) (engines : List Struct) : Prop where
  built : ∀ (type : VectorType) (engine : String), type.engineVector? = some engine →
    ∀ (calls : Call α → Result (Datum α)) (value : Component → α),
      run library engines calls (.build engine (each type fun component => .number (value component))) =
        .ok (engineOf engine type value)
  foreign : ∀ struct ∈ engines, ∀ operation ∈ operations struct, ∀ generated : VectorType,
    operation.role.result ≠ generated.name ∧
      ∀ parameter ∈ operation.parameters, parameter.type ≠ generated.name

instance (options : Options) (engines : List Struct) : Includes (family options ++ engines) options where
  found type := by
    rw [struct?, List.find?_append, ← struct?, struct?_family]
    rfl

section Engines
variable {library : Library α} {engines : List Struct} {engine : String}
  (emitted : type.engineVector? = some engine)
include emitted

theorem struct?_engine (options : Options) :
    struct? (family options ++ engines) engine = struct? engines engine := by
  have unknown : (family options).find? (fun struct => struct.name = engine) = none := by
    rw [List.find?_eq_none]
    intro struct member
    obtain ⟨generated, listed, rfl⟩ := List.mem_map.mp member
    have other := engine_other type (mem_all type) generated listed
    rw [emitted] at other
    simpa [declared, structCode, eq_comm] using other
  rw [struct?, List.find?_append, unknown]
  rfl

theorem build_engine (own : Engine library engines) (calls : Call α → Result (Datum α))
    (value : Component → α) :
    run library (family options ++ engines) calls
        (.build engine (each type fun component => .number (value component))) =
      .ok (engineOf engine type value) := by
  rw [← own.built type engine emitted calls value, run, run, struct?_engine emitted]

/-- The operations of a struct with a name. -/
def operationsNamed (structs : List Struct) (name : String) : List Operation :=
  ((struct? structs name).map operations).getD []

theorem engine_foreign (own : Engine library engines) {operation : Operation}
    (declares : operation ∈ operationsNamed (family options ++ engines) engine)
    (generated : VectorType) : operation.role.result ≠ generated.name ∧
      ∀ parameter ∈ operation.parameters, parameter.type ≠ generated.name := by
  rw [operationsNamed, struct?_engine emitted] at declares
  cases found : struct? engines engine with
  | none => simp [found] at declares
  | some struct =>
    have listed : struct ∈ engines := List.mem_of_find?_eq_some found
    simp only [found, Option.map_some, Option.getD_some] at declares
    exact own.foreign struct listed operation declares generated

end Engines

theorem conversion_of_generated {target : String} {generated : VectorType} {operation : Operation}
    (listed : operation ∈ having (isConversion target) (operations (declared generated options))) :
    operation ∈ conversions generated options.arguments := by
  rw [conversions_selected] at listed
  exact List.mem_of_mem_filter listed

theorem operationsNamed_generated (structs : List Struct) [Includes structs options]
    (type : VectorType) : operationsNamed structs type.name = operations (declared type options) := by
  rw [operationsNamed, Includes.found]
  rfl

section Runs
variable {library : Library α} {structs : List Struct} {step : Conversion} {source target : String}
  {value : Datum α} {calls : Call α → Result (Datum α)}

/-- The body of a conversion, with the source as its only variable. -/
theorem run_conversion (declares : step ∈ type.conversions)
    (leads : ends type step = some (source, target))
    (typed : ∀ name, value.isA name = true ↔ name = source)
    (present : conversion type options.arguments step ∈
      operationsOf structs value ++ operationsNamed structs target)
    (origin : ∀ other ∈ having (isConversion target)
        (operationsOf structs value ++ operationsNamed structs target),
      (∃ generated : VectorType, other ∈ conversions generated options.arguments) ∨
        ∀ parameter ∈ other.parameters, parameter.type ≠ source) :
    run library structs calls (.convert target value) =
      returned library calls target { locals := [(options.arguments.single, value)] }
        (conversion type options.arguments step).body := by
  have chosen := conversion_chosen declares leads typed present origin
  obtain ⟨⟨isImplicit, role⟩, -⟩ := @conversion_shape type options.arguments step source target leads
  rw [operationsNamed] at chosen
  simp only [run, chosen, perform, role]
  rfl

end Runs

section Conversions
variable {library : Library α} {engines : List Struct} (own : Engine library engines)
include own

theorem toEngine_answered {engine : String} {isImplicit : Bool}
    (declares : .toEngine engine isImplicit ∈ type.conversions)
    (emitted : type.engineVector? = some engine) (value : Component → α) :
    Answers library (family options ++ engines) (.convert engine (numbers type value))
      (.ok (engineOf engine type value)) := by
  have runs (calls : Call α → Result (Datum α)) :
      run library (family options ++ engines) calls (.convert engine (numbers type value)) =
        returned library calls engine { locals := [(options.arguments.single, numbers type value)] }
          (toEngine type options.arguments engine isImplicit).body := by
    apply run_conversion declares rfl (by simp [numbers, vectorOf, Datum.isA])
    · rw [numbers, operationsOf_vectorOf]
      exact List.mem_append_left _ (conversion_declared declares options)
    · intro other listed
      rw [numbers, operationsOf_vectorOf, having, List.filter_append, List.mem_append] at listed
      rcases listed with listed | listed
      · exact .inl ⟨type, conversion_of_generated listed⟩
      · exact .inr (engine_foreign emitted own (List.mem_of_mem_filter listed) type).2
  refine .of_run 1 fun depth deep => ?_
  obtain ⟨further, rfl⟩ := Nat.exists_eq_add_of_le' deep
  have parts : evaluateAll library (answer library (family options ++ engines) (further + 1))
      { locals := [(options.arguments.single, numbers type value)] }
      (each type (part options.arguments.single)) =
        .ok (each type fun component => .number (value component)) := by
    apply evaluateAll_map
    intro component inside
    exact evaluate_part (find_single _ none) inside
  rw [runs]
  refine (returned_build (allIntact_map fun _ _ => rfl) parts).trans ?_
  exact build_engine emitted own _ value

theorem fromEngine_computed {engine : String} {isImplicit : Bool}
    (declares : .fromEngine engine isImplicit ∈ type.conversions)
    (emitted : type.engineVector? = some engine) (numeric : type.kind.isNumeric)
    (value : Component → α) :
    Computes library (family options ++ engines) type
      (.convert type.name (engineOf engine type value)) fun component => .ok (value component) := by
  have own_operations : operationsOf (family options ++ engines) (engineOf engine type value) =
      operationsNamed (family options ++ engines) engine := rfl
  have generated := operationsNamed_generated (family options ++ engines) type
  apply computes_of_body numeric
  · intro calls
    apply run_conversion declares rfl (by simp [engineOf, Datum.isA])
    · rw [generated]
      exact List.mem_append_right _ (conversion_declared declares options)
    · intro other listed
      rw [own_operations, generated, having, List.filter_append, List.mem_append] at listed
      rcases listed with listed | listed
      · obtain ⟨member, converts⟩ := List.mem_filter.mp listed
        have foreign := (engine_foreign emitted own member type).1
        cases role : other.role <;> simp_all [isConversion, Role.result]
      · exact .inl ⟨type, conversion_of_generated listed⟩
  · intro component
    rfl
  · intro calls component inside
    rw [evaluate, evaluate_name (find_single _ none)]
    have field : (engineOf engine type value).field? (engineField component) =
        some (.number (value component)) := lookup_keyed engineField_injective inside _
    simp only [bind, Except.bind, selected, field]
    rfl

end Conversions

section Generated
variable {library : Library α} {structs : List Struct} [included : Includes structs options]
include included

theorem fromKind_computed {source : Kind} {isImplicit : Bool}
    (declares : .fromKind source isImplicit ∈ type.conversions) (numeric : type.kind.isNumeric)
    (value : Component → α) :
    Computes library structs type (.convert type.name (numbers ⟨source, type.dimension⟩ value))
      fun component => .ok (if isImplicit then value component
        else library.cast type.kind.element (value component)) := by
  have generated := operationsNamed_generated structs type
  apply computes_of_body numeric
  · intro calls
    apply run_conversion declares rfl (by simp [numbers, vectorOf, Datum.isA])
    · rw [generated]
      exact List.mem_append_right _ (conversion_declared declares options)
    · intro other listed
      rw [generated, numbers, operationsOf_vectorOf, having, List.filter_append,
        List.mem_append] at listed
      rcases listed with listed | listed
      · exact .inl ⟨⟨source, type.dimension⟩, conversion_of_generated listed⟩
      · exact .inl ⟨type, conversion_of_generated listed⟩
  · intro component
    cases isImplicit <;> rfl
  · intro calls component inside
    have read : evaluate library calls { locals := [(options.arguments.single,
        numbers ⟨source, type.dimension⟩ value)] } (part options.arguments.single component) =
          .ok (.number (value component)) := evaluate_part (find_single _ none) inside
    cases isImplicit with
    | true => exact read
    | false =>
      have plain : type.kind.element ≠ "object" := by cases type.kind <;> decide
      simp only [castPart, Bool.false_eq_true, if_false, evaluate, read, bind, Except.bind, converted,
        plain]
      rfl

end Generated

theorem floating_of_rounding {mode : Rounding} (declares : .rounding mode ∈ type.conversions) :
    type.kind.isFloating = true := by
  obtain ⟨kind, dimension⟩ := type
  cases kind with
  | float | double => rfl
  | int | bool =>
    cases dimension <;> simp [VectorType.conversions, VectorType.engineVector?,
      VectorType.kindSources, Kind.isFloating, Dimension.size] at declares

theorem rounding_selected {mode : Rounding} (declares : .rounding mode ∈ type.conversions)
    (options : Options) :
    having (isMethod (mode.verb ++ "ToInt")) (operations (declared type options)) =
      [rounding type mode] := by
  have floating := floating_of_rounding declares
  rw [operations_numeric (numeric_of_conversion declares)]
  obtain ⟨kind, dimension⟩ := type
  cases kind with
  | int | bool => cases floating
  | float | double => cases dimension <;> cases mode <;> rfl

theorem rounding_computed [CommRing α] {given : Routines α} {structs : List Struct}
    [Includes structs options] {mode : Rounding} (declares : .rounding mode ∈ type.conversions)
    (value : Component → α) :
    Computes (exact given) structs ⟨.int, type.dimension⟩
      (.method (numbers type value) (mode.verb ++ "ToInt") [])
      fun component => .ok (given.rounded mode (value component)) := by
  apply computes_of_body rfl
  · intro calls
    exact run_method (overload?_first (rounding_selected declares options) rfl) (.number ∘ value)
  · intro component
    rfl
  · intro calls component inside
    have read : evaluate (exact given) calls { self := some (numbers type value) } (own component) =
        .ok (.number (value component)) := evaluate_own inside
    have free : (Frame.mk [] (some (numbers type value))).find? "Mathf" = none :=
      find_free rfl (by rintro ⟨⟩ <;> decide) value
    refine (evaluate_routine free (evaluateAll_cons read evaluateAll_nil)).trans ?_
    exact exact_rounded mode (value component)

end VectorForge.Proofs.ConversionMeaning
