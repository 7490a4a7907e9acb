import VectorForge.Proofs.FamilyMembers

/-! What the constructors of generated structs make. -/

namespace VectorForge.Proofs.ConstructedVectors
open CodeSyntax MemberCode CodeMeaning StructCode EvaluationRules FamilyMembers AcceptedNames

variable {options : Options} {type : VectorType}

def isState : Declaration → Bool
  | .fields .. | .constructor .. => true
  | _ => false

theorem state_operations (operations : List Operation) :
    (operations.map Declaration.operation).filter isState = [] := by
  simp [isState]

theorem state_declared (type : VectorType) (options : Options) :
    (declared type options).declarations.filter isState =
      FieldCode.fields type :: FieldCode.constructors type options.arguments := by
  have properties : (FieldCode.booleanProperties type).filter isState = [FieldCode.fields type] := by
    rw [FieldCode.booleanProperties, List.filter_cons_of_pos rfl, state_operations]
  simp only [Struct.declarations, declared, structCode, List.flatMap_map, List.filter_flatMap]
  rcases numeric_or_boolean type.kind with numeric | boolean
  · simp only [sectionCode, planned_numeric numeric, Plan.sections, Section.all, numericSection, List.flatMap_cons,
      List.flatMap_nil, state_operations]
    rfl
  · have planned : Plan.ofKind type.kind = .boolean := by rw [boolean]; rfl
    simp only [sectionCode, planned, Plan.sections, booleanSection, List.flatMap_cons,
      List.flatMap_nil, state_operations, properties]
    rfl

/-- Only the declarations of fields and constructors matter to what says nothing of others. -/
theorem filterMap_declared {select : Declaration → Option β} (type : VectorType) (options : Options)
    (other : ∀ declaration, isState declaration = false → select declaration = none) :
    (declared type options).declarations.filterMap select =
      (FieldCode.fields type :: FieldCode.constructors type options.arguments).filterMap select := by
  rw [← state_declared, List.filterMap_filter]
  congr 1
  funext declaration
  cases state : isState declaration with
  | true => rfl
  | false => exact other declaration state

theorem constructors_declared (type : VectorType) (options : Options) :
    constructors (declared type options) =
      [([FieldCode.broadcastParameter type options.arguments],
          FieldCode.broadcastBody type options.arguments),
        (each type (FieldCode.componentParameter type), FieldCode.componentwiseBody type)] := by
  rw [constructors, filterMap_declared type options (by rintro ⟨⟩ _ <;> first | rfl | contradiction)]
  rfl

variable {library : Library α}

theorem blank_declared (type : VectorType) (options : Options) :
    blank library (declared type options) = vectorOf type fun _ => zero library type.kind.element := by
  have fields : (declared type options).declarations.filterMap fields? =
      [each type fun component => (component.name, type.kind.element)] := by
    rw [filterMap_declared type options (by rintro ⟨⟩ _ <;> first | rfl | contradiction)]
    simp only [FieldCode.fields, FieldCode.constructors, fields?, List.filterMap_cons,
      List.filterMap_nil, each, List.map_map]
    rfl
  rw [blank, fields, vectorOf]
  simp only [List.flatten_cons, List.flatten_nil, List.append_nil, each, List.map_map]
  rfl

/-- What is filled in only adds to what was given. -/
theorem bound?_filled {fill : Parameter → Option (Datum α)} {parameters : List Parameter}
    {arguments : List (Datum α)} {locals : List (String × Datum α)}
    (exact : bound? (fun _ => none) parameters arguments = some locals) :
    bound? fill parameters arguments = some locals := by
  induction parameters generalizing arguments locals with
  | nil =>
    cases arguments with
    | nil => exact exact
    | cons argument arguments => cases exact
  | cons parameter parameters ih =>
    cases arguments with
    | nil => cases exact
    | cons argument arguments =>
      rw [bound?] at exact ⊢
      by_cases typed : argument.isA parameter.type = true
      · rw [if_pos typed] at exact ⊢
        obtain ⟨rest, given, rfl⟩ := Option.map_eq_some_iff.mp exact
        rw [ih given]
        rfl
      · rw [if_neg typed] at exact
        cases exact

/-- Each parameter gets its argument or else what is filled in for it. -/
theorem bound?_components {fill : Parameter → Option (Datum α)} {form : Component → Parameter}
    {supplied : Component → Datum α} {components : List Component} {count : Nat}
    (typed : ∀ component ∈ components.take count,
      (supplied component).isA (form component).type = true)
    (filled : ∀ component ∈ components.drop count, fill (form component) = some (supplied component)) :
    bound? fill (components.map form) ((components.take count).map supplied) =
      some (components.map fun component => ((form component).name, supplied component)) := by
  induction components generalizing count with
  | nil => simp [bound?]
  | cons component components ih =>
    cases count with
    | zero =>
      have rest := @ih 0 (by simp) fun other member => filled other (by simp_all)
      rw [List.take_zero, List.map_nil] at rest
      simp only [List.take_zero, List.map_nil, List.map_cons, bound?, filled component (by simp), rest]
      rfl
    | succ count =>
      have rest := @ih count (fun other member => typed other (by simp [member]))
        fun other member => filled other member
      simp only [List.take_succ_cons, List.map_cons, bound?, typed component (by simp), if_true, rest]
      rfl

theorem preset_componentwise (type : VectorType) (component : Component) :
    preset? library (FieldCode.componentParameter type component) =
      some (zero library type.kind.element) := by
  obtain ⟨kind, dimension⟩ := type
  cases kind <;> rfl

/-- The broadcast takes exactly one argument. -/
theorem broadcast_refused {fill : Parameter → Option (Datum α)} {names : ArgumentNames}
    {arguments : List (Datum α)} (unfilled : fill (FieldCode.broadcastParameter type names) = none)
    (other : arguments.length ≠ 1) :
    bound? fill [FieldCode.broadcastParameter type names] arguments = none := by
  cases arguments with
  | nil => simp [bound?, unfilled]
  | cons first rest =>
    cases rest with
    | nil => simp at other
    | cons second rest =>
      rw [bound?]
      split <;> rfl

section Componentwise
variable {supplied : Component → Datum α} {count : Nat}
  (typed : ∀ component ∈ type.dimension.components.take count,
    (supplied component).isA type.kind.element = true)
  (left : ∀ component ∈ type.dimension.components.drop count,
    supplied component = zero library type.kind.element)
include typed left

theorem bound?_componentwise :
    bound? (preset? library) (each type (FieldCode.componentParameter type))
        ((type.dimension.components.take count).map supplied) =
      some (each type fun component => (component.name, supplied component)) := by
  apply bound?_components typed
  intro component omitted
  rw [preset_componentwise, left component omitted]

/-- Unless there is one argument the broadcast is out of the question, and it does not matter
whether any component is left to its preset. -/
theorem constructor_componentwise (other : count ≠ 1) :
    constructor? library (declared type options)
        ((type.dimension.components.take count).map supplied) =
      some (each type fun component => (component.name, supplied component),
        FieldCode.componentwiseBody type) := by
  have filled := bound?_componentwise typed left
  have several : ((type.dimension.components.take count).map supplied).length ≠ 1 := by
    have size : type.dimension.components.length ≠ 1 := by cases type.dimension <;> decide
    rw [List.length_map, List.length_take]
    omega
  have refused (fill : Parameter → Option (Datum α))
      (unfilled : fill (FieldCode.broadcastParameter type options.arguments) = none) :=
    broadcast_refused unfilled several
  simp only [constructor?, constructors_declared, List.findSome?_cons, List.findSome?_nil,
    refused (fun _ => none) rfl, refused (preset? library) rfl, Option.map_none, filled,
    Option.map_some]
  cases exact : bound? (fun _ => none) (each type (FieldCode.componentParameter type))
      ((type.dimension.components.take count).map supplied) with
  | none => rfl
  | some locals =>
    have same := (bound?_filled exact).symm.trans filled
    rw [Option.some.inj same]
    rfl

end Componentwise

theorem constructor_broadcast {value : Datum α} (typed : value.isA type.kind.element = true) :
    constructor? library (declared type options) [value] =
      some ([(options.arguments.scalar, value)],
        FieldCode.broadcastBody type options.arguments) := by
  simp only [constructor?, constructors_declared, List.findSome?_cons, bound?,
    FieldCode.broadcastParameter, typed, if_true, Option.map_some]
  rfl

theorem vectorOf_congr {first second : Component → Datum α}
    (same : ∀ component ∈ type.dimension.components, first component = second component) :
    vectorOf type first = vectorOf type second := by
  rw [vectorOf, vectorOf, each, each]
  congr 1
  exact List.map_congr_left fun component inside => by rw [same component inside]

theorem assigned_vectorOf {component : Component} (inside : component ∈ type.dimension.components)
    (value : Datum α) (current : Component → Datum α) :
    (vectorOf type current).assigned? component.name value =
      some (vectorOf type fun other => if other = component then value else current other) := by
  have known : component.name ∈ (each type fun other => (other.name, current other)).map Prod.fst := by
    simp only [each, List.map_map]
    exact List.mem_map_of_mem inside
  rw [vectorOf, Datum.assigned?, if_pos known, vectorOf, each, each, List.map_map]
  simp only [Function.comp_def, component_name_iff]

variable [LinearOrder α] {calls : Call α → Result (Datum α)}

theorem assign_own {component : Component} (inside : component ∈ type.dimension.components)
    {locals : List (String × Datum α)} {value : Datum α}
    (given : locals.lookup component.name = some value) (current : Component → Datum α) :
    assign library calls locals (vectorOf type current)
        ⟨.select .this component.name, own component⟩ =
      .ok (vectorOf type fun other => if other = component then value else current other) := by
  have found : (Frame.mk locals (some (vectorOf type current))).find? component.name =
      some value := by simp [Frame.find?, given]
  have read : returned library calls "" ⟨locals, some (vectorOf type current)⟩ (own component) =
      .ok value := (returned_value rfl (by simp [own])).trans (evaluate_name found)
  rw [assign, read]
  simp only [bind, Except.bind, assigned_vectorOf inside]
  rfl

/-- Assigning one field after another leaves every field with its own value. -/
theorem assign_in_turn {locals : List (String × Datum α)} {form : Component → Assignment}
    {value : Component → Datum α} {components : List Component}
    (assigns : ∀ component ∈ components, ∀ current : Component → Datum α,
      assign library calls locals (vectorOf type current) (form component) =
        .ok (vectorOf type fun other => if other = component then value component else current other))
    (current : Component → Datum α) :
    (components.map form).foldlM (assign library calls locals) (vectorOf type current) =
      .ok (vectorOf type fun other => if other ∈ components then value other else current other) := by
  induction components generalizing current with
  | nil => simp; rfl
  | cons component components ih =>
    rw [List.map_cons, List.foldlM_cons, assigns component (by simp)]
    simp only [bind, Except.bind]
    rw [ih fun other member => assigns other (by simp [member])]
    congr 2
    funext other
    by_cases first : other = component <;> simp [first]

/-- When every field has been assigned, nothing is left of what was there before. -/
theorem assign_all {locals : List (String × Datum α)} {form : Component → Assignment}
    {value : Component → Datum α}
    (assigns : ∀ component ∈ type.dimension.components, ∀ current : Component → Datum α,
      assign library calls locals (vectorOf type current) (form component) =
        .ok (vectorOf type fun other => if other = component then value component else current other))
    (current : Component → Datum α) :
    (each type form).foldlM (assign library calls locals) (vectorOf type current) =
      .ok (vectorOf type value) := by
  refine (assign_in_turn assigns current).trans (congrArg _ (vectorOf_congr ?_))
  intro component inside
  exact if_pos inside

/-- A field that no variable hides takes the value of a variable. -/
theorem assign_shared {component : Component} (inside : component ∈ type.dimension.components)
    {locals : List (String × Datum α)} {source : String} {value : Datum α}
    (shown : locals.lookup component.name = none) (given : locals.lookup source = some value)
    (current : Component → Datum α) :
    assign library calls locals (vectorOf type current) ⟨own component, .name source⟩ =
      .ok (vectorOf type fun other => if other = component then value else current other) := by
  have found : (Frame.mk locals (some (vectorOf type current))).find? source = some value := by
    simp [Frame.find?, given]
  have read : returned library calls "" ⟨locals, some (vectorOf type current)⟩ (.name source) =
      .ok value := (returned_value rfl (by simp)).trans (evaluate_name found)
  rw [assign, read]
  simp only [own, bind, Except.bind, shown, Option.isSome_none, assigned_vectorOf inside]
  rfl

section Bodies
variable (library calls) (struct : Struct)

/-- What one of the constructors of a struct makes of its arguments. -/
def constructed (constructor : List Parameter × List Assignment) (arguments : List (Datum α)) :
    Result (Datum α) := do
  let locals ← orStuck (bound? (preset? library) constructor.1 arguments)
  constructor.2.foldlM (assign library calls locals) (blank library struct)

end Bodies

section Componentwise
variable {supplied : Component → Datum α} {count : Nat}
  (typed : ∀ component ∈ type.dimension.components.take count,
    (supplied component).isA type.kind.element = true)
  (left : ∀ component ∈ type.dimension.components.drop count,
    supplied component = zero library type.kind.element)
include typed left

/-- The components get the arguments in their order. Those for which none is left have their
preset. -/
theorem constructed_componentwise :
    constructed library calls (declared type options)
        (each type (FieldCode.componentParameter type), FieldCode.componentwiseBody type)
        ((type.dimension.components.take count).map supplied) =
      .ok (vectorOf type supplied) := by
  simp only [constructed, bound?_componentwise typed left, orStuck_some, bind, Except.bind, blank_declared]
  apply assign_all
  intro component inside current
  exact assign_own inside (lookup_component inside supplied) current

/-- `new` runs this constructor unless it is given exactly one argument. -/
theorem build_componentwise {structs : List Struct} [Includes structs options] (other : count ≠ 1) :
    run library structs calls
        (.build type.name ((type.dimension.components.take count).map supplied)) =
      .ok (vectorOf type supplied) := by
  simp only [run, Includes.found, orStuck_some, bind, Except.bind,
    constructor_componentwise typed left other, blank_declared]
  apply assign_all
  intro component inside current
  exact assign_own inside (lookup_component inside supplied) current

end Componentwise

section Broadcast
variable (accepted : Accepted options.arguments) {value : Datum α}
include accepted

theorem broadcast_assigned (current : Component → Datum α) :
    (FieldCode.broadcastBody type options.arguments).foldlM
        (assign library calls [(options.arguments.scalar, value)]) (vectorOf type current) =
      .ok (vectorOf type fun _ => value) := by
  apply assign_all
  intro component inside current
  have apart := accepted.scalar.ne_component component
  have shown : [(options.arguments.scalar, value)].lookup component.name = none := by
    simp [List.lookup_cons, beq_false_of_ne apart]
  exact assign_shared inside shown (by simp) current

variable (typed : value.isA type.kind.element = true)
include typed

theorem constructed_broadcast :
    constructed library calls (declared type options)
        ([FieldCode.broadcastParameter type options.arguments],
          FieldCode.broadcastBody type options.arguments) [value] =
      .ok (vectorOf type fun _ => value) := by
  have given : bound? (preset? library) [FieldCode.broadcastParameter type options.arguments] [value] =
      some [(options.arguments.scalar, value)] := by
    simp [bound?, FieldCode.broadcastParameter, typed]
  simp only [constructed, given, orStuck_some, bind, Except.bind, blank_declared]
  exact broadcast_assigned accepted _

theorem build_broadcast {structs : List Struct} [Includes structs options] :
    run library structs calls (.build type.name [value]) = .ok (vectorOf type fun _ => value) := by
  simp only [run, Includes.found, orStuck_some, bind, Except.bind, constructor_broadcast typed,
    blank_declared]
  exact broadcast_assigned accepted _

end Broadcast

end VectorForge.Proofs.ConstructedVectors
