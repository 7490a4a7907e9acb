import VectorForge.Proofs.FamilyTyping
import VectorForge.Proofs.FieldCode

/-! Fields, constants, constructors and indexers fit the types they name. -/

namespace VectorForge.Proofs.FieldFits
open CodeSyntax MemberCode AcceptedNames FamilyTyping

variable {type mask : VectorType} {names : ArgumentNames}

theorem constant_fits (name : String) (x y : Int) :
    DeclarationFits type mask (.constant type.name name (FieldCode.constantValue x y)) := by
  constructor
  · simp [signatureTypes, named_generated]
  · simp [Declaration.scope]
  · simp [Declaration.scope]
  · refine ⟨⟨_, fields_generated type, ?_⟩, arguments_fit rfl ?_⟩
    · rw [length_each]
      exact two_le_size type
    · exact List.forall_mem_cons.mpr ⟨.number, List.forall_mem_singleton.mpr .number⟩

theorem fields_fit : DeclarationFits type mask (FieldCode.fields type) := by
  constructor
  · simp [signatureTypes, FieldCode.fields, named_element]
  · simp [Declaration.scope, FieldCode.fields]
  · simp [Declaration.scope, FieldCode.fields]
  · rfl

theorem adjacent_fits {context : Context} {components : List Component}
    (fits : ∀ component ∈ components, context.Fits none (own component)) :
    ∀ operand ∈ FieldCode.adjacent components, context.Fits none operand := by
  induction components with
  | nil => exact List.forall_mem_nil _
  | cons first rest ih =>
    cases rest with
    | nil => exact List.forall_mem_nil _
    | cons second rest =>
      exact List.forall_mem_cons.mpr ⟨pair_fits (fits first (by simp)) (fits second (by simp)),
        ih fun other member => fits other (by simp [member])⟩

theorem maskProperties_fit :
    ∀ operation ∈ FieldCode.maskProperties type, DeclarationFits type mask (.operation operation) := by
  have all : ∀ operand ∈ each type own, Context.Fits ⟨each type Component.name, []⟩ none operand :=
    forall_each fun _ inside => own_alone inside
  simp only [FieldCode.maskProperties, List.forall_mem_cons]
  refine ⟨?_, ?_, ?_, ?_, List.forall_mem_nil _⟩
  · exact operation_fits (testedIn_map fun _ => rfl) named_bool noParameters_fit (.nothing rfl)
      (.chain all)
  · exact operation_fits (testedIn_map fun _ => rfl) named_bool noParameters_fit (.nothing rfl)
      (.chain all)
  · exact operation_fits (FieldCode.adjacent_tested _) named_bool noParameters_fit (.nothing rfl)
      (.chain (adjacent_fits fun _ inside => own_alone inside))
  · exact operation_fits (testedIn_map fun _ => rfl) named_int noParameters_fit (.nothing rfl)
      (.chain (forall_each fun _ inside => .group (.choice (own_alone inside) .number .number)))

theorem component_identifier (component : Component) :
    Config.isIdentifier component.name = true ∧ component.name ∉ Config.keywords := by
  cases component <;> decide

theorem names_nodup (dimension : Dimension) : (dimension.components.map Component.name).Nodup := by
  cases dimension <;> decide

theorem broadcast_fits (accepted : Accepted names) :
    DeclarationFits type mask (.constructor type.name [FieldCode.broadcastParameter type names]
      (FieldCode.broadcastBody type names)) := by
  have scalar := accepted.scalar
  constructor
  · simp [signatureTypes, FieldCode.broadcastParameter, named_generated, named_element]
  · simp [Declaration.scope, parameterVariables, FieldCode.broadcastParameter,
      scalar.identifier, scalar.keyword]
  · simp [Declaration.scope, parameterVariables]
  · refine forall_each fun component inside => ⟨own_beside scalar inside,
      name_fits type.kind.element ?_⟩
    simp [Declaration.scope, parameterVariables, FieldCode.broadcastParameter]

theorem lookup_uniform {items : List α} {item : α} (name : α → String) (type : String)
    (inside : item ∈ items) :
    (items.map fun item => (name item, type)).lookup (name item) = some type := by
  induction items with
  | nil => cases inside
  | cons first rest ih =>
    rw [List.map_cons, List.lookup_cons]
    split
    · rfl
    · next different =>
      rcases List.mem_cons.mp inside with rfl | further
      · simp at different
      · exact ih further

theorem componentwise_fits :
    DeclarationFits type mask (.constructor type.name
      (each type (FieldCode.componentParameter type)) (FieldCode.componentwiseBody type)) := by
  have scope : parameterVariables (each type (FieldCode.componentParameter type)) =
      type.dimension.components.map fun component => (component.name, type.kind.element) := by
    simp [parameterVariables, each, FieldCode.componentParameter, Function.comp_def]
  have bound : (parameterVariables (each type (FieldCode.componentParameter type))).map Prod.fst =
      type.dimension.components.map Component.name := by
    simp [scope, Function.comp_def]
  constructor
  · refine List.forall_mem_cons.mpr ⟨named_generated type, ?_⟩
    intro name member
    simp only [each, List.map_map, List.mem_map] at member
    obtain ⟨component, -, rfl⟩ := member
    exact named_element _
  · simp only [Declaration.scope, bound]
    intro name member
    obtain ⟨component, -, rfl⟩ := List.mem_map.mp member
    exact component_identifier component
  · simp only [Declaration.scope, bound]
    exact names_nodup _
  · refine forall_each fun component inside => ⟨.selectThis (List.mem_map_of_mem inside),
      name_fits type.kind.element ?_⟩
    simp only [Declaration.scope, scope]
    exact lookup_uniform Component.name _ inside

theorem componentIndexer_fits : DeclarationFits type mask (FieldCode.componentIndexer type) := by
  have scope : (FieldCode.componentIndexer type).scope =
      [("ix", "int"), ("value", type.kind.element)] := rfl
  have index : ∀ count, Context.Fits ⟨each type Component.name,
      [("ix", "int"), ("value", type.kind.element)]⟩ count (.name "ix") :=
    fun _ => name_fits "int" rfl
  constructor
  · simp [signatureTypes, FieldCode.componentIndexer, FieldCode.index, named_element, named_int]
  · rw [scope]
    simp only [List.map_cons, List.map_nil]
    decide
  · rw [scope]
    simp only [List.map_cons, List.map_nil]
    decide
  · rw [scope]
    refine ⟨forall_each fun component inside => own_fits ?_ (List.mem_map_of_mem inside), .raise ?_⟩
    · cases component <;> rfl
    · exact List.forall_mem_cons.mpr ⟨.call (List.forall_mem_singleton.mpr (index _)),
        List.forall_mem_cons.mpr ⟨index _, List.forall_mem_singleton.mpr .literal⟩⟩

/-- The numbers that choose the components of a sub-vector. -/
def numbers (size : Dimension) : List (String × String) :=
  size.components.map fun component => ("i" ++ component.name, "int")

theorem numbers_distinct (size : Dimension) : ((numbers size).map Prod.fst ++ ["value"]).Nodup := by
  cases size <;> decide

theorem numbers_identifiers (size : Dimension) : ∀ name ∈ (numbers size).map Prod.fst ++ ["value"],
    Config.isIdentifier name = true ∧ name ∉ Config.keywords := by
  cases size <;> decide

theorem numbers_value (size : Dimension) : (numbers size).lookup "value" = none := by
  cases size <;> rfl

theorem swizzle_variables (type : VectorType) (size : Dimension) :
    (FieldCode.swizzle type size).scope = numbers size ++
      (if size.size ≤ type.dimension.size then [("value", (VectorType.mk type.kind size).name)]
      else []) := by
  simp only [FieldCode.swizzle, Declaration.scope, parameterVariables, each, List.map_map]
  split <;> rfl

theorem numbers_sublist (type : VectorType) (size : Dimension) :
    ((FieldCode.swizzle type size).scope.map Prod.fst).Sublist
      ((numbers size).map Prod.fst ++ ["value"]) := by
  rw [swizzle_variables, List.map_append]
  split
  · exact List.Sublist.refl _
  · simp

theorem chosen_fits {context : Context} {count : Option Nat} {size : Dimension}
    {more : List (String × String)} {component : Component}
    (scope : context.scope = numbers size ++ more) (inside : component ∈ size.components) :
    context.Fits count (FieldCode.chosen component) := by
  refine .entry (List.forall_mem_singleton.mpr (name_fits "int" ?_))
  rw [scope, List.lookup_append, numbers,
    lookup_uniform (fun component : Component => "i" ++ component.name) "int" inside]
  rfl

theorem swizzle_fits (size : Dimension) : DeclarationFits type mask (FieldCode.swizzle type size) := by
  let part : VectorType := ⟨type.kind, size⟩
  constructor
  · refine List.forall_mem_cons.mpr ⟨named_generated part, ?_⟩
    intro name member
    simp only [each, List.map_map, List.mem_map] at member
    obtain ⟨component, -, rfl⟩ := member
    exact named_int
  · exact fun name member => numbers_identifiers size name ((numbers_sublist type size).subset member)
  · exact (numbers_distinct size).sublist (numbers_sublist type size)
  · refine ⟨_, fields_generated part, arguments_fit ?_ (forall_each fun component inside =>
      chosen_fits (swizzle_variables type size) inside), ?_⟩
    · rw [length_each, length_each]
    · intro assignments assigned
      split at assigned
      · next small =>
        obtain rfl := Option.some.inj assigned
        refine forall_each fun component inside =>
          ⟨chosen_fits (swizzle_variables type size) inside, part_fits ?_ inside⟩
        show (FieldCode.swizzle type size).scope.lookup "value" = some part.name
        rw [swizzle_variables, if_pos small, List.lookup_append, numbers_value]
        rfl
      · cases assigned

end VectorForge.Proofs.FieldFits
