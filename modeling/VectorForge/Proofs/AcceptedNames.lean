import VectorForge.Proofs.ConfigRules

/-! What a choice of argument names satisfies once it has passed the checks. -/

namespace VectorForge.Proofs.AcceptedNames
open Config

/-- A name that generated code can use for a variable of its own. -/
structure Usable (name : String) : Prop where
  identifier : isIdentifier name = true
  keyword : name ∉ keywords
  reserved : name ∉ reservedNames

instance (name : String) : Decidable (Usable name) :=
  decidable_of_iff (isIdentifier name = true ∧ name ∉ keywords ∧ name ∉ reservedNames)
    ⟨fun ⟨identifier, keyword, reserved⟩ => ⟨identifier, keyword, reserved⟩,
      fun usable => ⟨usable.identifier, usable.keyword, usable.reserved⟩⟩

theorem Usable.of_free {name : String} (free : ConfigRules.Free name) : Usable name where
  identifier := (ConfigRules.isIdentifier_iff name).mpr free.identifier
  keyword := free.keyword
  reserved taken := (List.mem_append.mp taken).elim free.component free.parameter

/-- The four argument names as a caller may choose them. -/
structure Accepted (names : ArgumentNames) : Prop where
  usable : ∀ name ∈ names.toList, Usable name
  distinct : names.toList.Nodup

theorem accepted_of_checkNames {names : ArgumentNames}
    (accepted : checkNames [] names.toList = .ok ()) : Accepted names := by
  have answers : ConfigRules.Answers (ConfigRules.namesRules [] names.toList)
      (checkNames [] names.toList) := ConfigRules.checkNames_answers (fun _ => .rfl) names.toList
  rw [accepted] at answers
  obtain ⟨free, distinct, -⟩ := ConfigRules.namesRules_kept.mp answers
  exact ⟨fun name member => .of_free (free name member), distinct⟩

namespace Accepted
variable {names : ArgumentNames} (accepted : Accepted names)
include accepted

theorem first : Usable names.first := accepted.usable _ (by simp [ArgumentNames.toList])

theorem second : Usable names.second := accepted.usable _ (by simp [ArgumentNames.toList])

theorem single : Usable names.single := accepted.usable _ (by simp [ArgumentNames.toList])

theorem scalar : Usable names.scalar := accepted.usable _ (by simp [ArgumentNames.toList])

theorem second_ne_first : names.second ≠ names.first := by
  have distinct := accepted.distinct
  simp only [ArgumentNames.toList, List.nodup_cons, List.mem_cons, not_or] at distinct
  exact Ne.symm distinct.1.1

theorem scalar_ne_single : names.scalar ≠ names.single := by
  have distinct := accepted.distinct
  simp only [ArgumentNames.toList, List.nodup_cons, List.mem_cons, not_or] at distinct
  exact Ne.symm distinct.2.2.1.1

end Accepted

theorem Usable.ne_component {name : String} (usable : Usable name) (component : Component) :
    component.name ≠ name := by
  rintro rfl
  exact usable.reserved (List.mem_append_left _ (List.mem_map_of_mem (by cases component <;> decide)))

theorem Usable.ne_reserved {name taken : String} (usable : Usable name)
    (member : taken ∈ ["min", "max", "other", "obj", "ix", "value"]) : taken ≠ name := by
  rintro rfl
  exact usable.reserved (List.mem_append_right _ member)

end VectorForge.Proofs.AcceptedNames
