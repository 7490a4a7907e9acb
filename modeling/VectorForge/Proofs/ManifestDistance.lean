import VectorForge.Proofs.ManifestEntries

/-! The differences of two manifests as a distance between them: the same from both sides, empty
only between equal manifests, and never more than on a way over a third one. -/

namespace VectorForge.Proofs.ManifestDistance
open Manifest ManifestEntries

variable {first second : Manifest}

/-- A manifest is what it says about the names. -/
theorem eq_of_get? (same : ∀ name, first.get? name = second.get? name) : first = second := by
  have entries : first.entries = second.entries := by
    have ordered : ∀ manifest : Manifest,
        manifest.entries.Pairwise (InvImage (· < ·) Prod.fst) := Manifest.ascending
    apply (ordered first).eq_of_mem_iff (ordered second)
    rintro ⟨name, digest⟩
    have found := same name
    simp only [get?] at found
    rw [← lookup_eq_some_iff (names_nodup first), ← lookup_eq_some_iff (names_nodup second), found]
  cases first
  cases second
  simpa using entries

theorem differences_symmetric (first second : Manifest) :
    first.differences second = second.differences first := by
  apply (differences_ascending first second).eq_of_mem_iff (differences_ascending second first)
  intro name
  rw [mem_differences, mem_differences, ne_comm]

theorem differences_eq_nil_iff : first.differences second = [] ↔ first = second := by
  have agree : first.differences second = [] ↔ ∀ name, first.get? name = second.get? name := by
    simp [List.eq_nil_iff_forall_not_mem, mem_differences]
  rw [agree]
  constructor
  · exact eq_of_get?
  · rintro rfl name
    rfl

/-- A name on which two manifests agree with a third one is no difference between them. -/
theorem differences_subset (first second third : Manifest) :
    first.differences third ⊆ first.differences second ++ second.differences third := by
  intro name listed
  rw [List.mem_append, mem_differences, mem_differences]
  by_contra neither
  obtain ⟨near, far⟩ := not_or.mp neither
  exact mem_differences.mp listed ((not_not.mp near).trans (not_not.mp far))

/-- These names are the distance between two manifests. -/
structure Distance (first second : Manifest) (names : List String) : Prop where
  ascending : names.Pairwise (· < ·)
  distinct : names.Nodup
  apart : ∀ name, name ∈ names ↔ first.get? name ≠ second.get? name
  symmetric : second.differences first = names
  zero : names = [] ↔ first = second
  detour : ∀ third : Manifest, first.differences third ⊆ names ++ second.differences third

/-- However two manifests have come about, and however often a name was entered, they differ in
the names whose last digests differ, and these names are a distance between them. -/
theorem differences_measure (one other : List (String × String)) :
    let first := insertAll {} one
    let second := insertAll {} other
    Distance first second (first.differences second) ∧
      ∀ name, first.get? name = latest one name ∧ second.get? name = latest other name := by
  intro first second
  refine ⟨?_, fun name => ⟨get?_recorded one name, get?_recorded other name⟩⟩
  exact {
    ascending := differences_ascending first second
    distinct := nodup_of_ascending (differences_ascending first second)
    apart := fun name => mem_differences
    symmetric := differences_symmetric second first
    zero := differences_eq_nil_iff
    detour := differences_subset first second }

/-- A name that is entered twice counts once, with the later digest. -/
example :
    (insertAll {} [("B", "x"), ("A", "y"), ("B", "z")]).differences
      (insertAll {} [("C", "w"), ("A", "y"), ("B", "x")]) = ["B", "C"] := by
  cbv

end VectorForge.Proofs.ManifestDistance
