import VectorForge.Proofs.EntryAssignments
import VectorForge.Proofs.ExactNumbers

/-! The laws of indexers. What has been assigned is what is read afterwards, and nothing else
changes; indices that name no component are refused. -/

namespace VectorForge.Proofs.IndexerLaws
open CodeSyntax CodeMeaning StructCode FamilyMembers ConstructedVectors
open ComparisonMeaning (numbers)
open NumericVectors SetterMeaning IndexerMeaning EntryAssignments ExactNumbers

variable {options : Options} {type : VectorType} {size : Dimension}

def InRange (type : VectorType) (index : Int) : Prop := 0 ≤ index ∧ index < type.dimension.size

theorem not_names_of_beyond {index : Int} (beyond : ¬InRange type index) :
    ∀ component, ¬Names type index component :=
  fun component named => beyond (exists_named_iff.mp ⟨component, named⟩)

/-- Each index of a sub-vector names a component, its place. -/
def Placed (type : VectorType) (size : Dimension) (indices : Component → Int)
    (place : Component → Component) : Prop :=
  ∀ component ∈ size.components, Names type (indices component) (place component)

def Distinct (size : Dimension) (indices : Component → Int) : Prop :=
  ∀ first ∈ size.components, ∀ second ∈ size.components,
    indices first = indices second → first = second

theorem placed_or_beyond (type : VectorType) (size : Dimension) (indices : Component → Int) :
    (∃ place, Placed type size indices place) ∨
      ∃ component ∈ size.components, ¬InRange type (indices component) := by
  by_cases range : ∀ component ∈ size.components, InRange type (indices component)
  · have named (component : Component) : ∃ place, component ∈ size.components →
        Names type (indices component) place := by
      by_cases inside : component ∈ size.components
      · obtain ⟨place, names⟩ := exists_named_iff.mpr (range component inside)
        exact ⟨place, fun _ => names⟩
      · exact ⟨component, fun member => absurd member inside⟩
    choose place placed using named
    exact .inl ⟨place, placed⟩
  · push Not at range
    exact .inr range

theorem Placed.apart {indices : Component → Int} {place : Component → Component}
    (placed : Placed type size indices place) (distinct : Distinct size indices)
    {first second : Component} (one : first ∈ size.components) (other : second ∈ size.components)
    (same : place first = place second) : first = second := by
  apply distinct first one second other
  rw [← (placed first one).2, ← (placed second other).2, same]

variable [LinearOrder α]

section Laws
variable (library : Library α) (structs : List Struct) (type : VectorType) (size : Dimension)

/-- The indexer of single components. -/
structure Single : Prop where
  named : ∀ index : Int, InRange type index ↔ ∃! component, Names type index component
  read : ∀ (vector : Component → α) (index : Int) (component : Component),
    Names type index component →
      Answers library structs (.entry (numbers type vector) [position library index])
        (.ok (.number (vector component)))
  unread : ∀ (vector : Component → α) (index : Int), ¬InRange type index →
    Answers library structs (.entry (numbers type vector) [position library index])
      (.error (.thrown "ArgumentOutOfRangeException"))
  assigned : ∀ (vector : Component → α) (index : Int) (component : Component) (value : α),
    Names type index component →
      Assigns library structs (numbers type vector) [position library index] (.number value)
        (.ok ()) (numbers type (Function.update vector component value))
  refused : ∀ (vector : Component → α) (index : Int) (value : α), ¬InRange type index →
    Assigns library structs (numbers type vector) [position library index] (.number value)
      (.error (.thrown "ArgumentOutOfRangeException")) (numbers type vector)

/-- What the getter for sub-vectors of one size returns. -/
structure Readable : Prop where
  read : ∀ (vector : Component → α) (indices : Component → Int) (place : Component → Component),
    Placed type size indices place →
      Answers library structs (.entry (numbers type vector) (positions library size indices))
        (.ok (numbers ⟨type.kind, size⟩ (vector ∘ place)))
  unread : ∀ (vector : Component → α) (indices : Component → Int),
    (∃ component ∈ size.components, ¬InRange type (indices component)) →
      Answers library structs (.entry (numbers type vector) (positions library size indices))
        (.error (.thrown "ArgumentOutOfRangeException"))

/-- What the setter for sub-vectors of one size leaves behind. -/
structure Settable : Prop where
  assigned : ∀ (vector given : Component → α) (indices : Component → Int)
    (place : Component → Component), Placed type size indices place →
      ∃ next : Component → α,
        Assigns library structs (numbers type vector) (positions library size indices)
          (numbers ⟨type.kind, size⟩ given) (.ok ()) (numbers type next) ∧
        (∀ component, (∀ part ∈ size.components, place part ≠ component) →
          next component = vector component) ∧
        (∀ part ∈ size.components,
          (∀ later ∈ size.components, part.index < later.index → place later ≠ place part) →
            next (place part) = given part) ∧
        (Distinct size indices →
          Answers library structs (.entry (numbers type next) (positions library size indices))
            (.ok (numbers ⟨type.kind, size⟩ given)))
  kept : ∀ (vector : Component → α) (indices : Component → Int) (read : Datum α),
    Answers library structs (.entry (numbers type vector) (positions library size indices))
      (.ok read) →
        Assigns library structs (numbers type vector) (positions library size indices) read
          (.ok ()) (numbers type vector)
  stopped : ∀ (vector given : Component → α) (indices : Component → Int)
    (place : Component → Component) (before after : List Component) (component : Component),
    size.components = before ++ component :: after →
    (∀ earlier ∈ before, Names type (indices earlier) (place earlier)) →
    ¬InRange type (indices component) →
      Assigns library structs (numbers type vector) (positions library size indices)
        (numbers ⟨type.kind, size⟩ given) (.error (.thrown "ArgumentOutOfRangeException"))
        (numbers type (overwritten place given before vector))

end Laws

section Proofs
variable {library : Library α} {structs : List Struct} [included : Includes structs options]
  (numeric : type.kind.isNumeric) (distinct : Function.Injective library.literal)
include included numeric distinct

theorem single : Single library structs type := by
  constructor
  · intro index
    constructor
    · intro range
      obtain ⟨component, named⟩ := exists_named_iff.mpr range
      exact ⟨component, named, fun other another => another.unique named⟩
    · rintro ⟨component, named, -⟩
      exact exists_named_iff.mp ⟨component, named⟩
  · intro vector index component named
    refine .of_run 0 fun depth _ => ?_
    rw [run_single numeric distinct, entry_of_names named]
    rfl
  · intro vector index beyond
    refine .of_run 0 fun depth _ => ?_
    rw [run_single numeric distinct, entry_of_beyond (not_names_of_beyond beyond)]
    rfl
  · intro vector index component value named
    exact .of_depth 1 (store_named numeric distinct named vector value)
  · intro vector index value beyond
    exact .of_depth 1 (store_beyond numeric distinct (not_names_of_beyond beyond) vector value)

variable (sized : size ∈ Members.swizzleSizes)
include sized

theorem readable : Readable library structs type size := by
  constructor
  · intro vector indices place placed
    apply (subvector_computed numeric distinct sized vector indices).computed
    intro component inside
    exact entry_of_names (placed component inside) vector
  · intro vector indices beyond
    apply (subvector_computed numeric distinct sized vector indices).failed
    · intro component _
      exact entry_either type vector (indices component)
    · obtain ⟨component, inside, outside⟩ := beyond
      exact ⟨component, inside, entry_of_beyond (not_names_of_beyond outside) vector⟩

theorem settable (small : size.size ≤ type.dimension.size) :
    Settable library structs type size := by
  have reads : Readable library structs type size := readable numeric distinct sized
  constructor
  · intro vector given indices place placed
    refine ⟨overwritten place given size.components vector, ?_, ?_, ?_, ?_⟩
    · exact .of_depth 2 (store_subvector numeric distinct sized small placed vector)
    · intro component untouched
      exact overwritten_other untouched
    · intro part inside last
      exact overwritten_last inside last
    · intro apart
      have back := reads.read (overwritten place given size.components vector) indices place placed
      have same : numbers ⟨type.kind, size⟩
          (overwritten place given size.components vector ∘ place) =
            numbers ⟨type.kind, size⟩ given := by
        apply vectorOf_congr
        intro part inside
        refine congrArg Datum.number (overwritten_last inside ?_)
        intro later member behind clash
        rw [placed.apart apart member inside clash] at behind
        exact lt_irrefl _ behind
      rwa [same] at back
  · intro vector indices read answered
    rcases placed_or_beyond type size indices with ⟨place, placed⟩ | beyond
    · cases answered.unique (reads.read vector indices place placed)
      refine .of_depth 2 fun further => ?_
      rw [store_subvector numeric distinct sized small placed vector, overwritten_kept]
    · cases answered.unique (reads.unread vector indices beyond)
  · intro vector given indices place before after component split named beyond
    exact .of_depth 2 (store_subvector_stops numeric distinct sized small split named
      (not_names_of_beyond beyond) vector)

end Proofs

theorem unsettable {library : Library α} {structs : List Struct} [Includes structs options]
    (numeric : type.kind.isNumeric) (sized : size ∈ Members.swizzleSizes)
    (large : type.dimension.size < size.size) (vector : Component → α)
    (indices : Component → Int) (value : Datum α) :
    Assigns library structs (numbers type vector) (positions library size indices) value
      (.error .stuck) (numbers type vector) := by
  refine .of_depth 1 fun further => ?_
  exact store_entry (positions_length library size indices)
    (swizzle_declared numeric options sized) (stored?_large large indices value)

theorem setter_declared (numeric : type.kind.isNumeric) (options : Options)
    (sized : size ∈ Members.swizzleSizes) :
    ∃ parameters getter setter,
      (declared type options).declarations.filter (takes size.size) =
        [.indexer (VectorType.mk type.kind size).name parameters getter setter] ∧
      (setter.isSome ↔ size.size ≤ type.dimension.size) := by
  refine ⟨_, _, _, swizzle_declared numeric options sized, ?_⟩
  split <;> simp_all

/-- Whatever the options are, indices are the places of components, and what is assigned to them
is what they hold afterwards. Sub-vectors can be assigned to where they are not larger than the
vector itself. -/
theorem indexers_lawful {library : Library α} (distinct : Function.Injective library.literal)
    (options : Options) (type : VectorType) (numeric : type.kind.isNumeric = true) :
    generate type options = .ok (fileText options (declared type options)) ∧
    Single library (family options) type ∧
    ∀ size ∈ [Dimension.two, .three, .four],
      (∃ parameters getter setter,
        (declared type options).declarations.filter (takes size.size) =
          [.indexer (VectorType.mk type.kind size).name parameters getter setter] ∧
        (setter.isSome ↔ size.size ≤ type.dimension.size)) ∧
      Readable library (family options) type size ∧
      (size.size ≤ type.dimension.size → Settable library (family options) type size) ∧
      (type.dimension.size < size.size →
        ∀ (vector : Component → α) (indices : Component → Int) (value : Datum α),
          Assigns library (family options) (numbers type vector) (positions library size indices)
            value (.error .stuck) (numbers type vector)) := by
  refine ⟨generate_eq type options, single numeric distinct, ?_⟩
  intro size sized
  exact ⟨setter_declared numeric options sized, readable numeric distinct sized,
    settable numeric distinct sized, unsettable numeric sized⟩

theorem integers_overwritten :
    Function.Injective (exact whole).literal ∧
      ∃ next : Component → Int,
        Assigns (exact whole) (family {}) (numbers ⟨.int, .three⟩ fun _ => 0)
          (positions (exact whole) .two fun _ => 1)
          (numbers ⟨.int, .two⟩ fun component => component.index + 5) (.ok ())
          (numbers ⟨.int, .three⟩ next) ∧
        next .x = 0 ∧ next .y = 6 := by
  have distinct : Function.Injective (exact whole).literal := fun _ _ same => same
  have placed : Placed ⟨.int, .three⟩ .two (fun _ => 1) (fun _ => .y) := by
    intro component _
    exact ⟨List.mem_of_elem_eq_true rfl, rfl⟩
  obtain ⟨-, -, swizzles⟩ := indexers_lawful distinct {} ⟨.int, .three⟩ rfl
  obtain ⟨-, -, settable, -⟩ := swizzles .two (by decide)
  obtain ⟨next, assigned, untouched, last, -⟩ := (settable (by decide)).assigned (fun _ => 0)
    (fun component => component.index + 5) (fun _ => 1) (fun _ => .y) placed
  exact ⟨distinct, next, assigned, untouched .x (by decide), last .y (by decide) (by decide)⟩

end VectorForge.Proofs.IndexerLaws
