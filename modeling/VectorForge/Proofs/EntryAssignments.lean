import VectorForge.Proofs.IndexerMeaning

/-! What becomes of a numeric vector that is assigned to through its indexers. -/

namespace VectorForge.Proofs.EntryAssignments
open CodeSyntax MemberCode CodeMeaning StructCode EvaluationRules FamilyMembers ConstructedVectors
open ComparisonMeaning (numbers)
open NumericVectors SetterMeaning IndexerMeaning

variable {options : Options} {type : VectorType} {size : Dimension}

/-- A vector of which one component after another has become what was given for it. -/
def overwritten (place : Component → Component) (given : Component → α)
    (positions : List Component) (vector : Component → α) : Component → α :=
  positions.foldl (fun current position => Function.update current (place position) (given position))
    vector

section Overwriting
variable {place : Component → Component} {given : Component → α} {vector : Component → α}
  {positions : List Component} {component : Component}

theorem overwritten_other (untouched : ∀ position ∈ positions, place position ≠ component) :
    overwritten place given positions vector component = vector component := by
  induction positions generalizing vector with
  | nil => rfl
  | cons position positions ih =>
    have further := @ih (Function.update vector (place position) (given position))
      fun other member => untouched other (by simp [member])
    have apart := untouched position (by simp)
    exact further.trans (Function.update_of_ne apart.symm _ _)

/-- What has been given last is what stays. -/
theorem overwritten_last {position : Component} (inside : position ∈ size.components)
    (last : ∀ later ∈ size.components, position.index < later.index →
      place later ≠ place position) :
    overwritten place given size.components vector (place position) = given position := by
  have ascending : size.components.Pairwise fun first second => first.index < second.index := by
    cases size <;> decide
  obtain ⟨before, after, split⟩ := List.append_of_mem inside
  have untouched : ∀ later ∈ after, place later ≠ place position := by
    intro later member
    apply last later (by simp [split, member])
    rw [split] at ascending
    exact List.rel_of_pairwise_cons (List.pairwise_append.mp ascending).2.1 member
  rw [split, overwritten, List.foldl_append]
  refine (overwritten_other untouched).trans ?_
  exact Function.update_self _ _ _

theorem overwritten_kept : overwritten place (vector ∘ place) positions vector = vector := by
  induction positions with
  | nil => rfl
  | cons position positions ih =>
    have same : Function.update vector (place position) ((vector ∘ place) position) = vector :=
      Function.update_eq_self _ _
    rw [overwritten, List.foldl_cons, same]
    exact ih

end Overwriting

variable {library : Library α}

/-- The variables of a setter for sub-vectors. -/
def assigning (library : Library α) (part : VectorType) (indices : Component → Int)
    (given : Component → α) : List (String × Datum α) :=
  numbered library part.dimension indices ++ [("value", numbers part given)]

theorem find_index (part : VectorType) {component : Component}
    (inside : component ∈ part.dimension.components) (indices : Component → Int)
    (given : Component → α) (self : Datum α) :
    (Frame.mk (assigning library part indices given) (some self)).find? ("i" ++ component.name) =
      some (position library (indices component)) := by
  rw [Frame.find?, assigning, List.lookup_append, lookup_numbered inside]
  rfl

theorem find_value (part : VectorType) (indices : Component → Int) (given : Component → α)
    (self : Datum α) :
    (Frame.mk (assigning library part indices given) (some self)).find? "value" =
      some (numbers part given) := by
  have free : (numbered library part.dimension indices).lookup "value" = none := by
    rw [numbered, List.lookup_eq_none_iff]
    intro entry member
    obtain ⟨component, -, rfl⟩ := List.mem_map.mp member
    cases component <;> rfl
  rw [Frame.find?, assigning, List.lookup_append, free]
  rfl

variable [LinearOrder α]

section Storing
variable {calls : Call α → Result (Datum α)} {setters : List (Datum α) → Datum α → Mutation α}

theorem stored?_refused {indices : List (Datum α)} {value : Datum α} {declaration : Declaration}
    (other : takes indices.length declaration = false) :
    stored? library calls setters indices value declaration = none := by
  cases declaration with
  | numbered | indexer =>
    rw [stored?, bound?_refused rfl other]
    rfl
  | _ => rfl

theorem written_own {locals : List (String × Datum α)} {component : Component} {value : Datum α}
    (inside : component ∈ type.dimension.components)
    (shown : locals.lookup component.name = none) (given : locals.lookup "value" = some value)
    (current : Component → Datum α) :
    written library calls setters locals ⟨own component, .name "value"⟩ (vectorOf type current) =
      (.ok (), vectorOf type fun other => if other = component then value else current other) :=
  congrArg (fun outcome => becoming outcome (vectorOf type current))
    (assign_shared inside shown given current)

theorem stored?_single (numeric : type.kind.isNumeric)
    (distinct : Function.Injective library.literal) (index : Int) (value : α) :
    stored? library calls setters [position library index] (.number value)
        (FieldCode.componentIndexer type) =
      some fun self =>
        let locals := [("ix", position library index), ("value", .number value)]
        match named? type index with
        | some component => written library calls setters locals ⟨own component, .name "value"⟩ self
        | none => (.error (.thrown "ArgumentOutOfRangeException"), self) := by
  have bound : bound? (fun _ => none) [FieldCode.index] [position library index] =
      some [("ix", position library index)] := rfl
  simp only [FieldCode.componentIndexer, stored?, bound, Option.map_some, isA_element numeric,
    arm?_single distinct, if_true]
  cases named? type index <;> rfl

theorem stored?_subvector (small : size.size ≤ type.dimension.size) (indices : Component → Int)
    (given : Component → α) :
    stored? library calls setters (positions library size indices)
        (numbers ⟨type.kind, size⟩ given) (FieldCode.swizzle type size) =
      some (inTurn ((size.components.map FieldCode.taken).map
        (written library calls setters (assigning library ⟨type.kind, size⟩ indices given)))) := by
  have typed : (numbers ⟨type.kind, size⟩ given).isA (VectorType.mk type.kind size).name = true :=
    isA_vectorOf _
  simp only [FieldCode.swizzle, stored?, each, bound?_positions, Option.map_some, if_pos small, typed,
    if_true]
  rfl

/-- A sub-vector that is larger than the vector can only be read. -/
theorem stored?_large (large : type.dimension.size < size.size) (indices : Component → Int)
    (value : Datum α) :
    stored? library calls setters (positions library size indices) value
        (FieldCode.swizzle type size) = some (failing .stuck) := by
  simp only [FieldCode.swizzle, stored?, each, bound?_positions, Option.map_some,
    if_neg (Nat.not_le.mpr large)]

/-- One assignment of a setter for sub-vectors is one to the indexer of single components. -/
theorem written_taken {component : Component} (inside : component ∈ size.components)
    (indices : Component → Int) (given current : Component → α) :
    written library calls setters (assigning library ⟨type.kind, size⟩ indices given)
        (FieldCode.taken component) (numbers type current) =
      setters [position library (indices component)] (.number (given component))
        (numbers type current) := by
  apply written_entry rfl
  · exact evaluateAll_cons (evaluate_name (find_index _ inside indices given _)) evaluateAll_nil
  · refine (returned_value rfl (by simp [part])).trans ?_
    exact evaluate_part (find_value _ indices given _) inside

variable {structs : List Struct} [included : Includes structs options]
include included

theorem store_entry {depth : Nat} {indices : List (Datum α)} {value : Datum α}
    {declaration : Declaration} {mutation : Mutation α} {current : Component → Datum α}
    {count : Nat} (counted : indices.length = count)
    (declares : (declared type options).declarations.filter (takes count) = [declaration])
    (stored : stored? library (answer library structs depth) (store library structs depth) indices
      value declaration = some mutation) :
    store library structs (depth + 1) indices value (vectorOf type current) =
      mutation (vectorOf type current) := by
  have chosen : (declared type options).declarations.findSome?
      (stored? library (answer library structs depth) (store library structs depth) indices value) =
        some mutation := by
    subst counted
    exact (findSome?_taking (fun _ => stored?_refused) declares).trans stored
  have found : (vectorOf type current).structName?.bind (struct? structs) =
      some (declared type options) := Includes.found type
  simp only [store, found, Option.elim_some, chosen, Option.getD_some]

section Single
variable (numeric : type.kind.isNumeric) (distinct : Function.Injective library.literal)
  {index : Int}
include numeric distinct

theorem store_named {component : Component} (named : Names type index component)
    (vector : Component → α) (value : α) (depth : Nat) :
    store library structs (depth + 1) [position library index] (.number value)
        (numbers type vector) =
      (.ok (), numbers type (Function.update vector component value)) := by
  refine (store_entry (by rfl) (single_declared numeric options)
    (stored?_single numeric distinct index value)).trans ?_
  have shown : [("ix", position library index), ("value", .number value)].lookup component.name =
      none := by cases component <;> rfl
  simp only [named?_of_names named]
  refine (written_own named.1 shown rfl _).trans ?_
  rw [numbers, Function.comp_update]
  congr 2
  funext other
  exact (Function.update_apply _ _ _ _).symm

theorem store_beyond (beyond : ∀ component, ¬Names type index component)
    (vector : Component → α) (value : α) (depth : Nat) :
    store library structs (depth + 1) [position library index] (.number value)
        (numbers type vector) =
      (.error (.thrown "ArgumentOutOfRangeException"), numbers type vector) := by
  refine (store_entry (by rfl) (single_declared numeric options)
    (stored?_single numeric distinct index value)).trans ?_
  simp only [named?_of_beyond beyond]
  rfl

end Single

section Swizzles
variable (numeric : type.kind.isNumeric) (distinct : Function.Injective library.literal)
  {indices : Component → Int} {place : Component → Component} {given : Component → α}
include numeric distinct

theorem inTurn_taken {components : List Component}
    (inside : ∀ component ∈ components, component ∈ size.components)
    (named : ∀ component ∈ components, Names type (indices component) (place component))
    (vector : Component → α) (depth : Nat) :
    inTurn ((components.map FieldCode.taken).map
        (written library calls (store library structs (depth + 1))
          (assigning library ⟨type.kind, size⟩ indices given))) (numbers type vector) =
      (.ok (), numbers type (overwritten place given components vector)) := by
  induction components generalizing vector with
  | nil => rfl
  | cons component components ih =>
    rw [List.map_cons, List.map_cons]
    refine Eq.trans (inTurn_cons ?_ _) (ih (fun other member => inside other (by simp [member]))
      (fun other member => named other (by simp [member])) _)
    rw [written_taken (inside component (by simp))]
    exact store_named numeric distinct (named component (by simp)) vector (given component) depth

variable (sized : size ∈ Members.swizzleSizes) (small : size.size ≤ type.dimension.size)
include sized small

theorem store_subvector
    (named : ∀ component ∈ size.components, Names type (indices component) (place component))
    (vector : Component → α) (depth : Nat) :
    store library structs (depth + 2) (positions library size indices)
        (numbers ⟨type.kind, size⟩ given) (numbers type vector) =
      (.ok (), numbers type (overwritten place given size.components vector)) := by
  refine Eq.trans (store_entry (positions_length library size indices)
    (swizzle_declared numeric options sized) (stored?_subvector small indices given)) ?_
  exact inTurn_taken numeric distinct (fun _ inside => inside) named vector depth

/-- The first index that names no component ends the setter. What stands before it has been
assigned by then. -/
theorem store_subvector_stops {before after : List Component} {component : Component}
    (split : size.components = before ++ component :: after)
    (named : ∀ earlier ∈ before, Names type (indices earlier) (place earlier))
    (beyond : ∀ other, ¬Names type (indices component) other)
    (vector : Component → α) (depth : Nat) :
    store library structs (depth + 2) (positions library size indices)
        (numbers ⟨type.kind, size⟩ given) (numbers type vector) =
      (.error (.thrown "ArgumentOutOfRangeException"),
        numbers type (overwritten place given before vector)) := by
  have inside : ∀ earlier ∈ before, earlier ∈ size.components := fun _ member => by
    simp [split, member]
  have last : component ∈ size.components := by simp [split]
  refine Eq.trans (store_entry (positions_length library size indices)
    (swizzle_declared numeric options sized) (stored?_subvector small indices given)) ?_
  rw [split, List.map_append, List.map_append]
  refine Eq.trans (inTurn_append (inTurn_taken numeric distinct inside named vector depth) _) ?_
  apply inTurn_stops
  rw [written_taken last]
  exact store_beyond numeric distinct beyond _ _ depth

end Swizzles

end Storing

end VectorForge.Proofs.EntryAssignments
