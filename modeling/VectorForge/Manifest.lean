import VectorForge.Lookup

/-! Digests by type name. The entries stand in ascending order of their names, so two
manifests with the same content are equal. -/

namespace VectorForge

structure Manifest where
  entries : List (String × String) := []
  ascending : entries.Pairwise (fun first second => first.1 < second.1) := by simp

namespace Manifest

/-- Puts an entry in its place; an entry with the same name is replaced. -/
def place (name digest : String) : List (String × String) → List (String × String)
  | [] => [(name, digest)]
  | (other, kept) :: rest =>
    if name < other then (name, digest) :: (other, kept) :: rest
    else if name = other then (name, digest) :: rest
    else (other, kept) :: place name digest rest

theorem mem_place {name digest : String} {entries : List (String × String)}
    {entry : String × String} (member : entry ∈ place name digest entries) :
    entry = (name, digest) ∨ entry ∈ entries := by
  induction entries with
  | nil => simpa [place] using member
  | cons head rest ih =>
    simp only [place] at member
    split at member
    · simpa using member
    · split at member
      · rcases List.mem_cons.mp member with same | rest
        · exact Or.inl same
        · exact Or.inr (List.mem_cons_of_mem _ rest)
      · rcases List.mem_cons.mp member with same | rest
        · exact Or.inr (same ▸ List.mem_cons_self)
        · exact (ih rest).imp_right (List.mem_cons_of_mem _)

theorem place_ascending (name digest : String) {entries : List (String × String)}
    (ascending : entries.Pairwise (fun first second => first.1 < second.1)) :
    (place name digest entries).Pairwise (fun first second => first.1 < second.1) := by
  induction entries with
  | nil => simp [place]
  | cons head rest ih =>
    obtain ⟨above, sorted⟩ := List.pairwise_cons.mp ascending
    simp only [place]
    split
    next below =>
      refine List.pairwise_cons.mpr ⟨?_, ascending⟩
      intro entry member
      rcases List.mem_cons.mp member with same | later
      · exact same ▸ below
      · exact String.lt_trans below (above entry later)
    next notBelow =>
      split
      next same =>
        refine List.pairwise_cons.mpr ⟨?_, sorted⟩
        intro entry member
        exact same ▸ above entry member
      next different =>
        refine List.pairwise_cons.mpr ⟨?_, ih sorted⟩
        intro entry member
        rcases mem_place member with same | later
        · subst same
          exact Decidable.byContradiction fun notAbove =>
            different (String.le_antisymm (String.not_lt.mp notAbove) (String.not_lt.mp notBelow))
        · exact above entry later

def insert (manifest : Manifest) (name digest : String) : Manifest where
  entries := place name digest manifest.entries
  ascending := place_ascending name digest manifest.ascending

def get? (manifest : Manifest) (name : String) : Option String := manifest.entries.lookup name

theorem lookup_place (name digest other : String) (entries : List (String × String)) :
    (place name digest entries).lookup other =
      if other = name then some digest else entries.lookup other := by
  induction entries with
  | nil => simp [place, lookup_cons_ite]
  | cons head rest ih =>
    simp only [place]
    split
    · rw [lookup_cons_ite]
    · split
      next same => by_cases found : other = name <;> simp [lookup_cons_ite, ← same, found]
      next different =>
        by_cases found : other = name
        · subst found
          simp [lookup_cons_ite, ih, different]
        · simp [lookup_cons_ite, ih, found]

/-- An entry hides the earlier one of its name and no other. -/
theorem get?_insert (manifest : Manifest) (name digest other : String) :
    (manifest.insert name digest).get? other =
      if other = name then some digest else manifest.get? other :=
  lookup_place name digest other manifest.entries

def names (manifest : Manifest) : List String := manifest.entries.map Prod.fst

/-- The names whose digests differ or that only one of the two manifests has, in
ascending order. -/
def differences (first second : Manifest) : List String :=
  let changed := first.names.filter fun name => first.get? name != second.get? name
  let added := second.names.filter fun name => (first.get? name).isNone
  (changed ++ added).mergeSort fun one other => decide (one ≤ other)

end Manifest

end VectorForge
