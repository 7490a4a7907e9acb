import VectorForge.Proofs.AcceptedNames
import VectorForge.Proofs.ConversionCode
import VectorForge.Proofs.FieldCode
import VectorForge.Proofs.FunctionCode
import VectorForge.Proofs.OperatorCode
import VectorForge.Proofs.Renaming

/-! A member under chosen argument names is judged by renaming them back to the default
ones. That gives the default member unless a chosen name is also the name of something else
in the body. -/

namespace VectorForge.Proofs.RestoredMembers
open CodeSyntax MemberCode AcceptedNames Renaming

variable {type mask : VectorType} {names : ArgumentNames}

/-- The default spelling of each chosen name. -/
def spellings (names : ArgumentNames) : List (String × String) :=
  names.toList.zip ({} : ArgumentNames).toList

/-- Renames the chosen names of a member's variables, given as the default ones, back. -/
def restoring (names : ArgumentNames) (bound : List String) (word : String) : String :=
  (((spellings names).filter fun (_, default) => default ∈ bound).lookup word).getD word

def variableNames (declaration : Declaration) : List String := declaration.scope.map Prod.fst

/-- In the member, the chosen names stand only where the default member has its own. -/
def Restored (names : ArgumentNames) (member original : Declaration) : Prop :=
  renamedDeclaration (restoring names (variableNames original)) member = original

section Restoring
variable {bound : List String} {word chosen default : String} {declared : Operation}

theorem mem_spellings (given : (chosen, default) ∈ spellings names) :
    chosen ∈ names.toList ∧ default ∈ ({} : ArgumentNames).toList :=
  List.of_mem_zip given

theorem restoring_other
    (other : ∀ spelling ∈ spellings names, spelling.2 ∈ bound → spelling.1 ≠ word) :
    restoring names bound word = word := by
  have absent : ((spellings names).filter fun (_, default) => default ∈ bound).lookup word = none := by
    rw [List.lookup_eq_none_iff]
    intro spelling member
    obtain ⟨given, used⟩ := List.mem_filter.mp member
    have different := other spelling given (by simpa using used)
    simpa [bne_iff_ne] using different.symm
  rw [restoring, absent]
  rfl

theorem restoring_chosen (accepted : Accepted names) (given : (chosen, default) ∈ spellings names)
    (used : default ∈ bound) : restoring names bound chosen = default := by
  let restored := (spellings names).filter fun (_, default) => default ∈ bound
  have distinct : (restored.map Prod.fst).Nodup := by
    have all : (spellings names).map Prod.fst = names.toList := rfl
    have part : (restored.map Prod.fst).Sublist names.toList := all ▸ List.filter_sublist.map Prod.fst
    exact part.nodup accepted.distinct
  have member : (chosen, default) ∈ restored := List.mem_filter.mpr ⟨given, by simpa using used⟩
  obtain ⟨before, after, split⟩ := List.append_of_mem member
  have found : restored.lookup chosen = some default := by
    rw [List.lookup_eq_some_iff]
    refine ⟨before, after, split, ?_⟩
    intro spelling earlier
    rw [split, List.map_append, List.map_cons, List.nodup_append] at distinct
    rw [bne_iff_ne]
    exact (distinct.2.2 _ (List.mem_map_of_mem earlier) chosen (by simp)).symm
  rw [restoring, found]
  rfl

theorem parameter_used (given : word ∈ declared.parameters.map Parameter.name) :
    word ∈ variableNames (.operation declared) := by
  rw [variableNames, Declaration.scope, List.map_append]
  apply List.mem_append_left
  rw [parameterVariables, List.map_map]
  exact given

theorem restoring_first (accepted : Accepted names) (used : "v1" ∈ bound) :
    restoring names bound names.first = "v1" :=
  restoring_chosen accepted (List.mem_cons_self) used

theorem restoring_second (accepted : Accepted names) (used : "v2" ∈ bound) :
    restoring names bound names.second = "v2" :=
  restoring_chosen accepted (List.mem_cons_of_mem _ List.mem_cons_self) used

theorem restoring_single (accepted : Accepted names) (used : "v" ∈ bound) :
    restoring names bound names.single = "v" :=
  restoring_chosen accepted (List.mem_cons_of_mem _ (List.mem_cons_of_mem _ List.mem_cons_self)) used

theorem restoring_scalar (accepted : Accepted names) (used : "n" ∈ bound) :
    restoring names bound names.scalar = "n" :=
  restoring_chosen accepted (List.mem_of_mem_getLast? rfl) used

theorem restoring_unusable (accepted : Accepted names) (unusable : ¬Usable word) :
    restoring names bound word = word := by
  apply restoring_other
  intro spelling given used same
  obtain ⟨chosen, -⟩ := mem_spellings given
  exact unusable (same ▸ accepted.usable _ chosen)

theorem restoring_component (accepted : Accepted names) (component : Component) :
    restoring names bound component.name = component.name :=
  restoring_unusable accepted fun usable => usable.ne_component component rfl

/-- Where a member has no other argument, only that one is restored. -/
theorem restoring_alone
    (alone : ∀ default ∈ bound, default ∈ ({} : ArgumentNames).toList → default = "v")
    (different : word ≠ names.single) : restoring names bound word = word := by
  apply restoring_other
  intro spelling given used same
  have only := alone spelling.2 used (mem_spellings given).2
  simp only [spellings, ArgumentNames.toList, List.zip_cons_cons, List.zip_nil_right, List.mem_cons,
    List.not_mem_nil, or_false] at given
  obtain rfl | rfl | rfl | rfl := given
  · simp at only
  · simp at only
  · exact different same.symm
  · simp at only

end Restoring

section Pairs
variable {rename : String → String} (first : rename names.first = "v1") (second : rename names.second = "v2")
include first second

theorem vectorPair_renamed :
    renamedParameters rename (vectorPair type names) = vectorPair type {} := by
  simp only [vectorPair, renamedParameters, List.map_cons, List.map_nil, first, second]

theorem pairs_renamed (symbol : String) (components : List Component) :
    renamedIn rename (components.map fun component =>
        pair symbol (part names.first component) (part names.second component)) =
      components.map fun component => pair symbol (part "v1" component) (part "v2" component) := by
  apply renamedIn_map
  intro component
  rw [renamed_pair, renamed_part, renamed_part, first, second]

end Pairs

theorem restored_by_pair {declared original : Operation} (accepted : Accepted names)
    (parameters : original.parameters = vectorPair type {})
    (renames : ∀ rename : String → String, rename names.first = "v1" → rename names.second = "v2" →
      renamedDeclaration rename (.operation declared) = .operation original) :
    Restored names (.operation declared) (.operation original) := by
  apply renames
  · apply restoring_first accepted
    apply parameter_used
    rw [parameters]
    exact List.mem_cons_self
  · apply restoring_second accepted
    apply parameter_used
    rw [parameters]
    exact List.mem_cons_of_mem _ List.mem_cons_self

theorem vectorArithmetic_restored (accepted : Accepted names) (symbol : String) :
    Restored names (.operation (OperatorCode.vectorArithmetic type names symbol))
      (.operation (OperatorCode.vectorArithmetic type {} symbol)) := by
  apply restored_by_pair accepted rfl
  intro rename first second
  simp only [OperatorCode.vectorArithmetic, renamedDeclaration, renamedHeading, renamed, each,
    vectorPair_renamed first second, pairs_renamed first second]

theorem comparison_restored (accepted : Accepted names) (symbol : String) :
    Restored names (.operation (OperatorCode.comparison type mask names symbol))
      (.operation (OperatorCode.comparison type mask {} symbol)) := by
  apply restored_by_pair accepted rfl
  intro rename first second
  simp only [OperatorCode.comparison, renamedDeclaration, renamedHeading, renamed,
    vectorPair_renamed first second, pairs_renamed first second]

theorem booleanComparison_restored (accepted : Accepted names) (symbol connective : String) :
    Restored names (.operation (OperatorCode.booleanComparison type names symbol connective))
      (.operation (OperatorCode.booleanComparison type {} symbol connective)) := by
  apply restored_by_pair accepted rfl
  intro rename first second
  simp only [OperatorCode.booleanComparison, renamedDeclaration, renamedHeading, renamed, each,
    vectorPair_renamed first second, pairs_renamed first second]

theorem scalarArithmetic_restored (accepted : Accepted names) (symbol : String) :
    Restored names (.operation (OperatorCode.scalarArithmetic type names symbol))
      (.operation (OperatorCode.scalarArithmetic type {} symbol)) := by
  let rename := restoring names
    (variableNames (.operation (OperatorCode.scalarArithmetic type {} symbol)))
  have single : rename names.single = "v" :=
    restoring_single accepted (parameter_used List.mem_cons_self)
  have scalar : rename names.scalar = "n" :=
    restoring_scalar accepted (parameter_used (List.mem_cons_of_mem _ List.mem_cons_self))
  have operands (component : Component) :
      renamed rename (pair symbol (part names.single component) (.name names.scalar)) =
        pair symbol (part "v" component) (.name "n") := by
    rw [renamed_pair, renamed_part, renamed, single, scalar]
  change renamedDeclaration rename _ = _
  simp only [OperatorCode.scalarArithmetic, renamedDeclaration, renamedHeading, renamedParameters,
    renamed, each, List.map_cons, List.map_nil, single, scalar, renamedIn_map operands]

theorem restored_by_single {declared original : Operation} (accepted : Accepted names)
    (parameters : original.parameters.map Parameter.name = ["v"])
    (renames : ∀ rename : String → String, rename names.single = "v" →
      (∀ word, ¬Usable word → rename word = word) →
      renamedDeclaration rename (.operation declared) = .operation original) :
    Restored names (.operation declared) (.operation original) := by
  apply renames
  · apply restoring_single accepted
    apply parameter_used
    rw [parameters]
    exact List.mem_cons_self
  · intro word unusable
    exact restoring_unusable accepted unusable

theorem sourceVector_renamed {rename : String → String} (single : rename names.single = "v")
    (source : String) :
    renamedParameters rename (sourceVector source names) = sourceVector source {} := by
  simp only [sourceVector, renamedParameters, List.map_cons, List.map_nil, single]

theorem negation_restored (accepted : Accepted names) :
    Restored names (.operation (OperatorCode.negation type names))
      (.operation (OperatorCode.negation type {})) := by
  apply restored_by_single accepted rfl
  intro rename single _
  have operand (component : Component) : renamed rename (.negative (part names.single component)) =
      .negative (part "v" component) := by
    rw [renamed, renamed_part, single]
  simp only [OperatorCode.negation, renamedDeclaration, renamedHeading, renamed, each,
    sourceVector_renamed single, renamedIn_map operand]

theorem equalsVector_restored (accepted : Accepted names) :
    Restored names (.operation (OperatorCode.equalsVector type names))
      (.operation (OperatorCode.equalsVector type {})) := by
  apply restored_by_single accepted rfl
  intro rename single kept
  have operands (component : Component) :
      renamed rename (pair "==" (own component) (part names.single component)) =
        pair "==" (own component) (part "v" component) := by
    have field : rename component.name = component.name :=
      kept _ fun usable => usable.ne_component component rfl
    rw [renamed_pair, renamed_part, own, renamed, single, field]
  simp only [OperatorCode.equalsVector, renamedDeclaration, renamedHeading, renamedParameters,
    renamed, each, List.map_cons, List.map_nil, single, renamedIn_map operands]

theorem toEngine_restored (accepted : Accepted names) (engine : String) (isImplicit : Bool) :
    Restored names (.operation (ConversionCode.toEngine type names engine isImplicit))
      (.operation (ConversionCode.toEngine type {} engine isImplicit)) := by
  apply restored_by_single accepted rfl
  intro rename single _
  have component (component : Component) :
      renamed rename (part names.single component) = part "v" component := by
    rw [renamed_part, single]
  simp only [ConversionCode.toEngine, renamedDeclaration, renamedHeading, renamed, each,
    sourceVector_renamed single, renamedIn_map component]

theorem fromEngine_restored (accepted : Accepted names) (engine : String) (isImplicit : Bool) :
    Restored names (.operation (ConversionCode.fromEngine type names engine isImplicit))
      (.operation (ConversionCode.fromEngine type {} engine isImplicit)) := by
  apply restored_by_single accepted rfl
  intro rename single _
  have field (component : Component) :
      renamed rename (.select (.name names.single) (ConversionCode.engineField component)) =
        .select (.name "v") (ConversionCode.engineField component) := by
    rw [renamed, renamed, single]
  simp only [ConversionCode.fromEngine, renamedDeclaration, renamedHeading, renamed, each,
    sourceVector_renamed single, renamedIn_map field]

theorem fromKind_restored (accepted : Accepted names) (source : Kind) (isImplicit : Bool) :
    Restored names (.operation (ConversionCode.fromKind type names source isImplicit))
      (.operation (ConversionCode.fromKind type {} source isImplicit)) := by
  apply restored_by_single accepted rfl
  intro rename single kept
  have element : rename type.kind.element = type.kind.element :=
    kept _ fun usable => usable.keyword (by cases type.kind <;> decide)
  have component (component : Component) :
      renamed rename (ConversionCode.castPart type names isImplicit component) =
        ConversionCode.castPart type {} isImplicit component := by
    cases isImplicit with
    | true => exact congrArg (part · component) single
    | false =>
      change Expression.cast (rename type.kind.element) (part (rename names.single) component) = _
      rw [element, single]
      rfl
  simp only [ConversionCode.fromKind, renamedDeclaration, renamedHeading, renamed, each,
    sourceVector_renamed single, renamedIn_map component]

theorem broadcast_restored (accepted : Accepted names) :
    Restored names
      (.constructor type.name [FieldCode.broadcastParameter type names] (FieldCode.broadcastBody type names))
      (.constructor type.name [FieldCode.broadcastParameter type {}] (FieldCode.broadcastBody type {})) := by
  let rename := restoring names ["n"]
  have scalar : rename names.scalar = "n" := restoring_scalar accepted List.mem_cons_self
  have assigned (component : Component) :
      (⟨renamed rename (own component), renamed rename (.name names.scalar)⟩ : Assignment) =
        ⟨own component, .name "n"⟩ := by
    have field : rename component.name = component.name := restoring_component accepted component
    rw [own, renamed, renamed, field, scalar]
  change renamedDeclaration rename _ = _
  simp only [FieldCode.broadcastParameter, FieldCode.broadcastBody, renamedDeclaration,
    renamedParameters, renamedAssignments, each, List.map_cons, List.map_nil, List.map_map,
    Function.comp_def, scalar, assigned]

theorem restoring_shared (accepted : Accepted names) (used : "v" ∈ bound)
    (alone : ∀ default ∈ bound, default ∈ ({} : ArgumentNames).toList → default = "v")
    (different : word ≠ "v") : restoring names bound word = word ↔ names.single ≠ word := by
  constructor
  · rintro kept rfl
    rw [restoring_single accepted used] at kept
    exact different kept.symm
  · intro apart
    exact restoring_alone alone apart.symm

theorem only_single : ∀ default ∈ ["v"], default ∈ ({} : ArgumentNames).toList → default = "v" :=
  fun _ member _ => List.mem_singleton.mp member

theorem equalsObject_restored (accepted : Accepted names) :
    Restored names (.operation (OperatorCode.equalsObject type names))
        (.operation (OperatorCode.equalsObject type {})) ↔
      names.single ≠ type.name ∧ names.single ≠ "Equals" := by
  let rename := restoring names ["obj", "v"]
  have alone : ∀ default ∈ ["obj", "v"], default ∈ ({} : ArgumentNames).toList → default = "v" := by
    decide
  have used : "v" ∈ ["obj", "v"] := by decide
  have single : rename names.single = "v" := restoring_single accepted used
  have object : rename "obj" = "obj" :=
    restoring_unusable accepted fun usable => usable.ne_reserved (by decide) rfl
  have named : type.name ≠ "v" := by
    obtain ⟨kind, dimension⟩ := type
    cases kind <;> cases dimension <;> decide
  rw [← restoring_shared accepted used alone named,
    ← restoring_shared accepted used alone (by decide : "Equals" ≠ "v")]
  change renamedDeclaration rename _ = _ ↔ rename _ = _ ∧ rename _ = _
  simp only [OperatorCode.equalsObject, renamedDeclaration, renamedHeading, renamedParameters,
    renamed_pair, renamed, renamedIn, List.map_cons, List.map_nil, single, object]
  simp [pair]

theorem distance_restored (accepted : Accepted names) :
    Restored names (.operation (FunctionCode.distance type names).inlined)
        (.operation (FunctionCode.distance type {}).inlined) ↔
      names.single ≠ FunctionCode.rootHolder type.kind ∧ names.single ≠ "SqrDistance" := by
  let rename := restoring names ["v"]
  have used : "v" ∈ ["v"] := List.mem_cons_self
  have single : rename names.single = "v" := restoring_single accepted used
  have holder : FunctionCode.rootHolder type.kind ≠ "v" := by
    cases type.kind <;> decide
  rw [← restoring_shared accepted used only_single holder,
    ← restoring_shared accepted used only_single (by decide : "SqrDistance" ≠ "v")]
  change renamedDeclaration rename _ = _ ↔ rename _ = _ ∧ rename _ = _
  simp only [FunctionCode.distance, Operation.inlined, renamedDeclaration, renamedHeading,
    sourceVector_renamed single, renamed_routine, renamed, renamedIn, single]
  simp [routine]

theorem first_component (dimension : Dimension) : .x ∈ dimension.components := by
  cases dimension <;> exact List.mem_cons_self

theorem chosen_variables (method : String) :
    variableNames (FunctionCode.componentCalls type method (sourceVector type.name {})
      (FunctionCode.chosen {} method)) = ["v"] := by
  have plain : Expression.testedIn (each type (FunctionCode.chosen {} method)) = [] :=
    testedIn_map fun _ => rfl
  rw [variableNames, FunctionCode.componentCalls, Declaration.scope, plain]
  rfl

theorem chosen_restored (accepted : Accepted names) (method : String) :
    Restored names
        (FunctionCode.componentCalls type method (sourceVector type.name names)
          (FunctionCode.chosen names method))
        (FunctionCode.componentCalls type method (sourceVector type.name {})
          (FunctionCode.chosen {} method)) ↔
      names.single ≠ "Mathf" := by
  let rename := restoring names ["v"]
  have used : "v" ∈ ["v"] := List.mem_cons_self
  have single : rename names.single = "v" := restoring_single accepted used
  have call (component : Component) : renamed rename (FunctionCode.chosen names method component) =
      routine (rename "Mathf") method [own component, part "v" component] := by
    have field : rename component.name = component.name := restoring_component accepted component
    rw [FunctionCode.chosen, renamed_routine, renamedIn, renamedIn, renamedIn, renamed_part, own,
      renamed, field, single]
  rw [← restoring_shared accepted used only_single (by decide : "Mathf" ≠ "v"), Restored,
    chosen_variables]
  change renamedDeclaration rename _ = _ ↔ rename _ = _
  simp only [FunctionCode.componentCalls, renamedDeclaration, renamedHeading,
    sourceVector_renamed single, each, renamedIn_map call, Declaration.spread.injEq, true_and,
    List.map_inj_left]
  constructor
  · intro same
    have holder := same .x (first_component type.dimension)
    simpa [FunctionCode.chosen, routine] using holder
  · intro same component _
    rw [same]
    rfl

end VectorForge.Proofs.RestoredMembers
