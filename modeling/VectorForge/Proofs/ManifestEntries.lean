import Mathlib.Data.List.Sort
import Mathlib.Data.String.Basic
import VectorForge.Manifest

/-! What a manifest says about a name, after any number of entries and beside another
manifest. -/

namespace VectorForge.Proofs.ManifestEntries
open Manifest

theorem mem_keys {entries : List (String × String)} {name : String} :
    name ∈ entries.map Prod.fst ↔ entries.lookup name ≠ none := by
  induction entries with
  | nil => simp
  | cons entry rest ih =>
    rw [lookup_cons_ite, List.map_cons, List.mem_cons, ih]
    by_cases same : name = entry.1
    · simp [same]
    · simp [same]

theorem lookup_of_mem {entries : List (String × String)} (distinct : (entries.map Prod.fst).Nodup)
    {name digest : String} (member : (name, digest) ∈ entries) :
    entries.lookup name = some digest := by
  induction entries with
  | nil => cases member
  | cons entry rest ih =>
    obtain ⟨fresh, further⟩ := List.nodup_cons.mp distinct
    rw [lookup_cons_ite]
    rcases List.mem_cons.mp member with rfl | later
    · simp
    · rw [if_neg, ih further later]
      rintro rfl
      exact fresh (List.mem_map.mpr ⟨(entry.1, digest), later, rfl⟩)

/-- Where no name stands twice, being found and being there is the same. -/
theorem lookup_eq_some_iff {entries : List (String × String)}
    (distinct : (entries.map Prod.fst).Nodup) {name digest : String} :
    entries.lookup name = some digest ↔ (name, digest) ∈ entries := by
  constructor
  · intro found
    obtain ⟨before, after, rfl, -⟩ := List.lookup_eq_some_iff.mp found
    simp
  · exact lookup_of_mem distinct

theorem lookup_reverse {entries : List (String × String)}
    (distinct : (entries.map Prod.fst).Nodup) (name : String) :
    entries.reverse.lookup name = entries.lookup name := by
  have backwards : (entries.reverse.map Prod.fst).Nodup := by
    rw [List.map_reverse]
    exact List.nodup_reverse.mpr distinct
  apply Option.ext
  intro digest
  rw [lookup_eq_some_iff backwards, lookup_eq_some_iff distinct, List.mem_reverse]

theorem mem_names {manifest : Manifest} {name : String} :
    name ∈ manifest.names ↔ manifest.get? name ≠ none :=
  mem_keys

theorem nodup_of_ascending {names : List String} (ascending : names.Pairwise (· < ·)) :
    names.Nodup :=
  ascending.imp String.ne_of_lt

theorem names_nodup (manifest : Manifest) : manifest.names.Nodup :=
  nodup_of_ascending (List.pairwise_map.mpr manifest.ascending)

def insertAll (manifest : Manifest) (entries : List (String × String)) : Manifest :=
  entries.foldl (fun manifest entry => manifest.insert entry.1 entry.2) manifest

/-- The digest that a name was given last. -/
def latest (entries : List (String × String)) (name : String) : Option String :=
  entries.reverse.lookup name

/-- Only what a name was given last counts, however often it comes. -/
theorem get?_insertAll (entries : List (String × String)) (manifest : Manifest)
    (name : String) :
    (insertAll manifest entries).get? name = (latest entries name).or (manifest.get? name) := by
  induction entries generalizing manifest with
  | nil => rfl
  | cons entry rest ih =>
    have later := ih (manifest.insert entry.1 entry.2)
    rw [get?_insert] at later
    refine later.trans ?_
    rw [latest, latest, List.reverse_cons, List.lookup_append, lookup_cons_ite, Option.or_assoc]
    split <;> rfl

theorem get?_recorded (entries : List (String × String)) (name : String) :
    (insertAll {} entries).get? name = latest entries name := by
  rw [get?_insertAll]
  exact Option.or_none

theorem get?_insertAll_empty {entries : List (String × String)}
    (distinct : (entries.map Prod.fst).Nodup) (name : String) :
    (insertAll {} entries).get? name = entries.lookup name := by
  rw [get?_recorded, latest, lookup_reverse distinct]

theorem length_insertAll {entries : List (String × String)}
    (distinct : (entries.map Prod.fst).Nodup) :
    (insertAll {} entries).entries.length = entries.length := by
  have same : ∀ name, name ∈ (insertAll {} entries).names ↔ name ∈ entries.map Prod.fst := by
    intro name
    rw [mem_names, mem_keys, get?_insertAll_empty distinct]
  have permuted := (List.perm_ext_iff_of_nodup (names_nodup _) distinct).mpr same
  simpa [names] using permuted.length_eq

theorem mergeSort_ascending {names : List String} (distinct : names.Nodup) :
    (names.mergeSort fun one other => decide (one ≤ other)).Pairwise (· < ·) := by
  have sorted : (names.mergeSort fun one other => decide (one ≤ other)).Pairwise
      fun one other => decide (one ≤ other) = true := by
    apply List.pairwise_mergeSort
    · intro one other last below above
      exact decide_eq_true (String.le_trans (of_decide_eq_true below) (of_decide_eq_true above))
    · intro one other
      simpa using String.le_total one other
  have apart := (List.mergeSort_perm names fun one other => decide (one ≤ other)).nodup_iff.mpr
    distinct
  refine (sorted.and apart).imp ?_
  intro one other ⟨below, different⟩
  exact String.not_le.mp fun above =>
    different (String.le_antisymm (of_decide_eq_true below) above)

theorem mem_differences {first second : Manifest} {name : String} :
    name ∈ first.differences second ↔ first.get? name ≠ second.get? name := by
  rw [differences, List.mem_mergeSort, List.mem_append, List.mem_filter, List.mem_filter,
    mem_names, mem_names]
  cases first.get? name with
  | none => simpa using ne_comm
  | some digest => simp

theorem differences_ascending (first second : Manifest) :
    (first.differences second).Pairwise (· < ·) := by
  apply mergeSort_ascending
  refine List.nodup_append'.mpr
    ⟨(names_nodup first).filter _, (names_nodup second).filter _, ?_⟩
  intro name changed added
  have present := mem_names.mp (List.mem_filter.mp changed).1
  have absent := (List.mem_filter.mp added).2
  exact present (Option.isNone_iff_eq_none.mp absent)

end VectorForge.Proofs.ManifestEntries
