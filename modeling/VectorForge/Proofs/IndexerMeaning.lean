import Mathlib.Logic.Function.Basic
import VectorForge.Proofs.NumericVectors
import VectorForge.Proofs.SetterMeaning

/-! The indexers of numeric structs: which of them takes the indices, which component an index
means, and what is read there. -/

namespace VectorForge.Proofs.IndexerMeaning
open CodeSyntax MemberCode CodeMeaning StructCode EvaluationRules FamilyMembers ConstructedVectors
open ComparisonMeaning (numbers index_of_take)
open NumericVectors SetterMeaning

variable {options : Options} {type : VectorType} {size : Dimension}

def indices? : Declaration → Option (List Parameter)
  | .numbered _ index _ _ => some [index]
  | .indexer _ parameters _ _ => some parameters
  | _ => none

/-- Whether a declaration is an indexer for so many indices. -/
def takes (count : Nat) (declaration : Declaration) : Bool :=
  (indices? declaration).map List.length = some count

section Declared
variable (numeric : type.kind.isNumeric) (options : Options)
include numeric

theorem indexers_declared (count : Nat) :
    (declared type options).declarations.filter (takes count) =
      (FieldCode.indexers type).filter (takes count) := by
  have operations (operations : List Operation) :
      (operations.map Declaration.operation).filter (takes count) = [] := by simp [takes, indices?]
  have properties : (FieldCode.numericProperties type).filter (takes count) = [] := rfl
  have constructors :
      (FieldCode.constructors type options.arguments).filter (takes count) = [] := rfl
  have functions : (FunctionCode.functions type options.arguments).filter (takes count) = [] := rfl
  simp only [Struct.declarations, declared, structCode, List.flatMap_map, List.flatMap_cons,
    List.flatMap_nil, List.filter_append, sectionCode, planned_numeric numeric, Plan.sections,
    Section.all, numericSection, operations, properties, constructors, functions, List.nil_append,
    List.append_nil]

theorem single_declared : (declared type options).declarations.filter (takes 1) =
    [FieldCode.componentIndexer type] := by
  rw [indexers_declared numeric options]
  rfl

theorem swizzle_declared (sized : size ∈ Members.swizzleSizes) :
    (declared type options).declarations.filter (takes size.size) = [FieldCode.swizzle type size] := by
  rw [indexers_declared numeric options]
  simp only [Members.swizzleSizes, List.mem_cons, List.not_mem_nil, or_false] at sized
  rcases sized with rfl | rfl | rfl <;> rfl

end Declared

theorem bound?_length {parameters : List Parameter} {arguments : List (Datum α)}
    {locals : List (String × Datum α)}
    (given : bound? (fun _ => none) parameters arguments = some locals) :
    parameters.length = arguments.length := by
  induction parameters generalizing arguments locals with
  | nil =>
    cases arguments with
    | nil => rfl
    | cons argument arguments => cases given
  | cons parameter parameters ih =>
    cases arguments with
    | nil => cases given
    | cons argument arguments =>
      rw [bound?] at given
      by_cases typed : argument.isA parameter.type = true
      · rw [if_pos typed] at given
        obtain ⟨rest, further, -⟩ := Option.map_eq_some_iff.mp given
        rw [List.length_cons, List.length_cons, ih further]
      · rw [if_neg typed] at given
        cases given

/-- What only concerns indexers for so many indices is left to the one there is. -/
theorem findSome?_taking {select : Declaration → Option β} {declarations : List Declaration}
    {declaration : Declaration} {count : Nat}
    (other : ∀ declaration, takes count declaration = false → select declaration = none)
    (declares : declarations.filter (takes count) = [declaration]) :
    declarations.findSome? select = select declaration := by
  have same : declarations.findSome? select =
      (declarations.filter (takes count)).findSome? select := by
    rw [← List.head?_filterMap, ← List.head?_filterMap, List.filterMap_filter]
    congr 2
    funext declaration
    cases taken : takes count declaration with
    | true => rfl
    | false => exact other declaration taken
  rw [same, declares, List.findSome?_singleton]

theorem bound?_refused {indices : List (Datum α)} {declaration : Declaration}
    {parameters : List Parameter} (shape : indices? declaration = some parameters)
    (other : takes indices.length declaration = false) :
    bound? (fun _ => none) parameters indices = none := by
  cases given : bound? (fun _ => none) parameters indices with
  | none => rfl
  | some locals => simp [takes, shape, bound?_length given] at other

/-- The index is the number of the component. -/
def Names (type : VectorType) (index : Int) (component : Component) : Prop :=
  component ∈ type.dimension.components ∧ (component.index : Int) = index

def named? (type : VectorType) (index : Int) : Option Component :=
  type.dimension.components.find? fun component => (component.index : Int) = index

section Names
variable {index : Int} {component : Component}

theorem Names.unique {other : Component} (one : Names type index component)
    (another : Names type index other) : component = other := by
  have same : component.index = other.index := Int.ofNat_inj.mp (one.2.trans another.2.symm)
  cases component <;> cases other <;> first | rfl | cases same

theorem exists_named_iff :
    (∃ component, Names type index component) ↔ 0 ≤ index ∧ index < type.dimension.size := by
  constructor
  · rintro ⟨component, inside, rfl⟩
    have below := index_of_take.mp inside
    omega
  · rintro ⟨positive, below⟩
    have known : ∀ number < type.dimension.size, ∃ component ∈ type.dimension.components,
        component.index = number := by cases type.dimension <;> decide
    obtain ⟨component, inside, same⟩ := known index.toNat (by omega)
    exact ⟨component, inside, by omega⟩

theorem names_of_named? (found : named? type index = some component) : Names type index component := by
  rw [named?] at found
  exact ⟨List.mem_of_find?_eq_some found, by simpa using List.find?_some found⟩

theorem named?_of_names (named : Names type index component) : named? type index = some component := by
  cases found : named? type index with
  | none => simpa [named.2] using List.find?_eq_none.mp found component named.1
  | some other => rw [named.unique (names_of_named? found)]

theorem named?_of_beyond (beyond : ∀ component, ¬Names type index component) :
    named? type index = none := by
  rw [named?, List.find?_eq_none]
  intro component inside same
  exact beyond component ⟨inside, of_decide_eq_true same⟩

end Names

/-- What an entry holds. -/
def entry (type : VectorType) (vector : Component → α) (index : Int) : Result α :=
  match named? type index with
  | some component => .ok (vector component)
  | none => .error (.thrown "ArgumentOutOfRangeException")

theorem entry_of_names {index : Int} {component : Component} (named : Names type index component)
    (vector : Component → α) : entry type vector index = .ok (vector component) := by
  rw [entry, named?_of_names named]

theorem entry_of_beyond {index : Int} (beyond : ∀ component, ¬Names type index component)
    (vector : Component → α) :
    entry type vector index = .error (.thrown "ArgumentOutOfRangeException") := by
  rw [entry, named?_of_beyond beyond]

theorem entry_either (type : VectorType) (vector : Component → α) (index : Int) :
    entry type vector index = .error (.thrown "ArgumentOutOfRangeException") ∨
      ∃ value, entry type vector index = .ok value := by
  rw [entry]
  cases named? type index with
  | none => exact .inl rfl
  | some component => exact .inr ⟨vector component, rfl⟩

def position (library : Library α) (index : Int) : Datum α := .number (library.literal index)

def positions (library : Library α) (size : Dimension) (indices : Component → Int) : List (Datum α) :=
  size.components.map fun component => position library (indices component)

/-- The variables of an indexer for sub-vectors. -/
def numbered (library : Library α) (size : Dimension) (indices : Component → Int) :
    List (String × Datum α) :=
  size.components.map fun component => ("i" ++ component.name, position library (indices component))

theorem positions_length (library : Library α) (size : Dimension) (indices : Component → Int) :
    (positions library size indices).length = size.size := by
  cases size <;> rfl

theorem bound?_positions (library : Library α) (size : Dimension) (indices : Component → Int) :
    bound? (fun _ => none) (size.components.map FieldCode.swizzleParameter)
        (positions library size indices) = some (numbered library size indices) := by
  have whole : (size.components.take size.components.length).map
      (fun component => position library (indices component)) = positions library size indices := by
    rw [List.take_length, positions]
  rw [← whole]
  refine bound?_components ?_ ?_
  · intro component _
    rfl
  · intro component omitted
    simp at omitted

theorem lookup_numbered {library : Library α} {component : Component}
    (inside : component ∈ size.components) (indices : Component → Int) :
    (numbered library size indices).lookup ("i" ++ component.name) =
      some (position library (indices component)) := by
  have distinct : Function.Injective fun component : Component => "i" ++ component.name := by
    intro first second
    cases first <;> cases second <;> decide
  exact lookup_keyed distinct inside _

theorem find_numbered {library : Library α} {component : Component}
    (inside : component ∈ size.components) (indices : Component → Int) (self : Option (Datum α)) :
    (Frame.mk (numbered library size indices) self).find? ("i" ++ component.name) =
      some (position library (indices component)) := by
  rw [Frame.find?, lookup_numbered inside]
  rfl

variable [LinearOrder α] {library : Library α}

/-- Integers are distinct numbers, so the switch finds the component that an index names. -/
theorem arm?_single (distinct : Function.Injective library.literal) (index : Int) :
    arm? library (each type fun component => (component.index, own component))
        [position library index] = (named? type index).map own := by
  simp only [arm?, position, each, named?, List.find?_map, Option.map_map, Function.comp_def,
    distinct.eq_iff]

section Reading
variable {calls : Call α → Result (Datum α)}

theorem entered?_refused {self : Datum α} {indices : List (Datum α)} {declaration : Declaration}
    (other : takes indices.length declaration = false) :
    entered? library calls self indices declaration = none := by
  cases declaration with
  | numbered | indexer =>
    rw [entered?, bound?_refused rfl other]
    rfl
  | _ => rfl

theorem entered?_single (distinct : Function.Injective library.literal) (self : Datum α)
    (index : Int) :
    entered? library calls self [position library index] (FieldCode.componentIndexer type) =
      some (returned library calls type.kind.element
        { locals := [("ix", position library index)], self := some self }
        (((named? type index).map own).getD (FieldCode.outOfRange type))) := by
  rw [← arm?_single distinct, FieldCode.componentIndexer, entered?]
  simp only [arm?, position]
  cases (each type fun component => (component.index, own component)).find? _ <;> rfl

theorem returned_single (vector : Component → α) (index : Int) :
    returned library calls type.kind.element
        { locals := [("ix", position library index)], self := some (numbers type vector) }
        (((named? type index).map own).getD (FieldCode.outOfRange type)) =
      .number <$> entry type vector index := by
  cases found : named? type index with
  | none =>
    rw [entry, found]
    rfl
  | some component =>
    have inside := (names_of_named? found).1
    have shown : [("ix", position library index)].lookup component.name = none := by
      cases component <;> rfl
    rw [entry, found]
    exact (returned_value rfl (by simp [own])).trans (evaluate_name (find_own shown inside _))

theorem evaluate_chosen {frame : Frame α} {self index : Datum α} {component : Component}
    (own : frame.self = some self) (given : frame.find? ("i" ++ component.name) = some index) :
    evaluate library calls frame (FieldCode.chosen component) = calls (.entry self [index]) := by
  rw [FieldCode.chosen, evaluate, own, evaluateAll_cons (evaluate_name given) evaluateAll_nil]
  rfl

variable {structs : List Struct} [included : Includes structs options]
include included

theorem run_entry {value : Component → Datum α} {indices : List (Datum α)}
    {declaration : Declaration} {outcome : Result (Datum α)} {count : Nat}
    (counted : indices.length = count)
    (declares : (declared type options).declarations.filter (takes count) = [declaration])
    (entered : entered? library calls (vectorOf type value) indices declaration = some outcome) :
    run library structs calls (.entry (vectorOf type value) indices) = outcome := by
  have chosen : (declared type options).declarations.findSome?
      (entered? library calls (vectorOf type value) indices) = some outcome := by
    subst counted
    exact (findSome?_taking (fun _ => entered?_refused) declares).trans entered
  have found : (vectorOf type value).structName?.bind (struct? structs) =
      some (declared type options) := Includes.found type
  rw [run, found]
  simp only [orStuck_some, bind, Except.bind]
  rw [chosen]
  rfl

theorem run_single (numeric : type.kind.isNumeric) (distinct : Function.Injective library.literal)
    (vector : Component → α) (index : Int) :
    run library structs calls (.entry (numbers type vector) [position library index]) =
      .number <$> entry type vector index := by
  refine run_entry rfl (single_declared numeric options) ?_
  rw [entered?_single distinct]
  exact congrArg some (returned_single vector index)

theorem run_swizzle (numeric : type.kind.isNumeric) (sized : size ∈ Members.swizzleSizes)
    (vector : Component → α) (indices : Component → Int) :
    run library structs calls (.entry (numbers type vector) (positions library size indices)) =
      returned library calls (VectorType.mk type.kind size).name
        { locals := numbered library size indices, self := some (numbers type vector) }
        (.build (each ⟨type.kind, size⟩ FieldCode.chosen)) :=
  run_entry (positions_length library size indices)
    (swizzle_declared numeric options sized)
    (congrArg (Option.map _) (bound?_positions library size indices))

/-- The parts of a sub-vector are what the indexer of single components reads. -/
theorem subvector_computed (numeric : type.kind.isNumeric)
    (distinct : Function.Injective library.literal) (sized : size ∈ Members.swizzleSizes)
    (vector : Component → α) (indices : Component → Int) :
    Computes library structs ⟨type.kind, size⟩
      (.entry (numbers type vector) (positions library size indices))
      (fun component => entry type vector (indices component)) := by
  have same : (VectorType.mk type.kind size).kind.isNumeric := numeric
  apply computes_of_answers same
  · intro calls
    exact run_swizzle numeric sized vector indices
  · intro component
    rfl
  · intro depth component inside
    rw [evaluate_chosen rfl (find_numbered inside _ _), answer]
    exact run_single numeric distinct vector (indices component)

end Reading

end VectorForge.Proofs.IndexerMeaning
