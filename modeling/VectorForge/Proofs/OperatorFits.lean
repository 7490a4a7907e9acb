import VectorForge.Proofs.FamilyTyping
import VectorForge.Proofs.OperatorCode

/-! The operators and the members for value equality fit the types they name. -/

namespace VectorForge.Proofs.OperatorFits
open CodeSyntax MemberCode AcceptedNames FamilyTyping

variable {type mask : VectorType} {names : ArgumentNames}

theorem arithmetic_plain {symbol : String} (listed : symbol ∈ arithmeticSymbols)
    (returns : String) : isComparison (.operator symbol returns) = false := by
  simp only [isComparison, decide_eq_false_iff_not]
  revert symbol
  decide

theorem vectorArithmetic_fits (accepted : Accepted names) {symbol : String}
    (listed : symbol ∈ arithmeticSymbols) :
    DeclarationFits type mask (.operation (OperatorCode.vectorArithmetic type names symbol)) :=
  operation_fits (testedIn_map fun _ => rfl) (named_generated type) (vectorPair_fits accepted)
    (takes_generated (arithmetic_plain listed _) rfl)
    (build_fits fun _ inside => operands_fit accepted inside)

theorem scalarArithmetic_fits (accepted : Accepted names) {symbol : String}
    (listed : symbol ∈ arithmeticSymbols) :
    DeclarationFits type mask (.operation (OperatorCode.scalarArithmetic type names symbol)) := by
  have single := accepted.single
  have scalar := accepted.scalar
  refine operation_fits (testedIn_map fun _ => rfl) (named_generated type) ?_
    (takes_generated (arithmetic_plain listed _) rfl)
    (build_fits fun component inside =>
      pair_fits (part_fits ?_ inside) (name_fits type.kind.element ?_))
  · constructor
    · simp [OperatorCode.scalarArithmetic, named_generated, named_element]
    · simp [OperatorCode.scalarArithmetic, single.identifier, single.keyword, scalar.identifier,
        scalar.keyword]
    · simpa [OperatorCode.scalarArithmetic] using accepted.scalar_ne_single.symm
  · simp [parameterVariables, OperatorCode.scalarArithmetic]
  · simp [parameterVariables, OperatorCode.scalarArithmetic, List.lookup_cons,
      beq_false_of_ne accepted.scalar_ne_single]

theorem negation_fits (accepted : Accepted names) :
    DeclarationFits type mask (.operation (OperatorCode.negation type names)) :=
  operation_fits (testedIn_map fun _ => rfl) (named_generated type)
    (sourceVector_fits accepted (named_generated type))
    (takes_generated (arithmetic_plain (by decide) _) rfl)
    (build_fits fun _ inside => .negative (single_fits inside))

theorem comparison_fits (accepted : Accepted names) {symbol : String}
    (listed : symbol ∈ comparisonSymbols) :
    DeclarationFits type mask (.operation (OperatorCode.comparison type mask names symbol)) := by
  have compares : isComparison (.operator symbol mask.name) = true := by simp [isComparison, listed]
  refine operation_fits (testedIn_map fun _ => rfl) (named_generated mask) (vectorPair_fits accepted)
    (.shared compares rfl (fields_generated mask) ?_) (arguments_fit ?_ ?_)
  · rw [length_each]
    exact Nat.min_le_right _ _
  · rw [List.length_map, OperatorCode.compared, List.length_take]
    exact Nat.min_eq_left (Nat.le_trans (Nat.min_le_left _ _) (TemplateText.size_le _))
  · intro argument member
    obtain ⟨component, inside, rfl⟩ := List.mem_map.mp member
    exact operands_fit accepted
      (List.take_subset_take_left Component.all (Nat.min_le_left _ _) inside)

theorem booleanComparison_fits (accepted : Accepted names) {symbol connective : String} :
    DeclarationFits type mask
      (.operation (OperatorCode.booleanComparison type names symbol connective)) :=
  operation_fits (testedIn_map fun _ => rfl) named_bool (vectorPair_fits accepted)
    (.nothing rfl) (.chain (forall_each fun _ inside => operands_fit accepted inside))

theorem equalsObject_fits (accepted : Accepted names) :
    DeclarationFits type mask (.operation (OperatorCode.equalsObject type names)) := by
  have single := accepted.single
  have fresh : names.single ≠ "obj" := (single.ne_reserved (by decide)).symm
  have scope : (Declaration.operation (OperatorCode.equalsObject type names)).scope =
      [("obj", "object"), (names.single, type.name)] := rfl
  constructor
  · simp [signatureTypes, OperatorCode.equalsObject, Role.result, named_bool, named_object]
  · rw [scope]
    simp [single.identifier, single.keyword]
    decide
  · rw [scope]
    simpa using fresh.symm
  · refine ⟨none, .nothing rfl, ?_⟩
    rw [scope]
    refine pair_fits (.test (name_fits "object" rfl) (named_generated type)) (.call ?_)
    intro argument member
    rw [List.mem_singleton.mp member]
    refine name_fits type.name ?_
    simp [List.lookup_cons, beq_false_of_ne fresh]

theorem equalsVector_fits (accepted : Accepted names) :
    DeclarationFits type mask (.operation (OperatorCode.equalsVector type names)) := by
  have single := accepted.single
  refine operation_fits (testedIn_map fun _ => rfl) named_bool ?_ (.nothing rfl)
    (.chain (forall_each fun component inside => pair_fits (own_beside single inside) (part_fits ?_ inside)))
  · constructor <;> simp [OperatorCode.equalsVector, named_generated, single.identifier, single.keyword]
  · simp [parameterVariables, OperatorCode.equalsVector]

theorem hashCode_fits :
    DeclarationFits type mask (.operation (OperatorCode.hashCode type)) :=
  operation_fits (testedIn_map fun _ => rfl) named_int noParameters_fit (.nothing rfl)
    (.routine (by decide) (forall_each fun _ inside => own_alone inside))

theorem display_fits : DeclarationFits type mask (.operation (OperatorCode.display type)) :=
  operation_fits (testedIn_map fun _ => rfl) named_string noParameters_fit (.nothing rfl)
    (.shown (forall_each fun _ inside => own_alone inside))

end VectorForge.Proofs.OperatorFits
