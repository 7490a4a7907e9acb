/-! Looking a key up in a list of pairs, said with equality of keys. -/

namespace VectorForge

variable {κ β : Type}

/-- The first pair with the key decides. -/
theorem lookup_cons_ite [BEq κ] [LawfulBEq κ] [DecidableEq κ] (key : κ) (pair : κ × β)
    (rest : List (κ × β)) :
    (pair :: rest).lookup key = if key = pair.1 then some pair.2 else rest.lookup key := by
  obtain ⟨other, value⟩ := pair
  by_cases same : key = other
  · simp [same]
  · have different : (key == other) = false := beq_false_of_ne same
    simp [List.lookup_cons, different, same]

end VectorForge
