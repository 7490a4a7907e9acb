import VectorForge.Proofs.BracketReading
import VectorForge.Proofs.MemberCode

/-! Code whose brackets match. The syntax writes its own brackets in pairs, so the words that a
declaration is spelled with decide alone whether its lines are well nested. -/

namespace VectorForge.Proofs.BracketedCode
open CodeSyntax BracketReading MemberCode

section Words
variable (sort : String → Prop)

mutual

/-- Names, types, symbols and the texts of literals are of this sort. -/
def Spelled : Expression → Prop
  | .this | .number _ => True
  | .name word | .literal word => sort word
  | .shown word parts | .call word parts | .raise word parts | .chain word parts =>
    sort word ∧ SpelledIn parts
  | .select object component => Spelled object ∧ sort component
  | .entry parts | .build parts => SpelledIn parts
  | .invoke object method arguments => Spelled object ∧ sort method ∧ SpelledIn arguments
  | .group operand | .negative operand => Spelled operand
  | .cast type operand => sort type ∧ Spelled operand
  | .choice condition first second => Spelled condition ∧ Spelled first ∧ Spelled second
  | .test object type bound => Spelled object ∧ sort type ∧ sort bound

def SpelledIn : List Expression → Prop
  | [] => True
  | first :: rest => Spelled first ∧ SpelledIn rest

end

def SpelledParameter (parameter : Parameter) : Prop :=
  sort parameter.type ∧ sort parameter.name ∧ ∀ value ∈ parameter.preset, sort value

def SpelledAssignment (assignment : Assignment) : Prop :=
  Spelled sort assignment.target ∧ Spelled sort assignment.value

def SpelledRole : Role → Prop
  | .property word returns | .method word returns | .operator word returns =>
    sort word ∧ sort returns
  | .conversion target _ => sort target

def SpelledHeading (heading : Heading) : Prop :=
  SpelledRole sort heading.role ∧ ∀ parameter ∈ heading.parameters, SpelledParameter sort parameter

/-- The words of a declaration are of this sort, and a call that is spread over lines has a last
argument, whose line closes it. -/
def SpelledDeclaration : Declaration → Prop
  | .constant type name value => sort type ∧ sort name ∧ Spelled sort value
  | .fields type names => sort type ∧ ∀ name ∈ names, sort name
  | .constructor type parameters body =>
    sort type ∧ (∀ parameter ∈ parameters, SpelledParameter sort parameter) ∧
      ∀ assignment ∈ body, SpelledAssignment sort assignment
  | .numbered type index arms otherwise =>
    sort type ∧ SpelledParameter sort index ∧ (∀ arm ∈ arms, Spelled sort arm.2) ∧
      Spelled sort otherwise
  | .indexer type indices getter setter =>
    sort type ∧ (∀ index ∈ indices, SpelledParameter sort index) ∧ Spelled sort getter ∧
      ∀ body ∈ setter, ∀ assignment ∈ body, SpelledAssignment sort assignment
  | .operation declared => SpelledHeading sort declared.toHeading ∧ Spelled sort declared.body
  | .spread heading arguments =>
    SpelledHeading sort heading ∧ SpelledIn sort arguments ∧ arguments ≠ []

variable {sort}

theorem spelledIn_map {items : List α} {form : α → Expression}
    (spelled : ∀ item ∈ items, Spelled sort (form item)) : SpelledIn sort (items.map form) := by
  induction items with
  | nil => trivial
  | cons item items ih =>
    rw [List.forall_mem_cons] at spelled
    exact ⟨spelled.1, ih spelled.2⟩

end Words

theorem comma_nested : Nested ", " := fun _ => rfl

mutual

-- The parts of a text that are not fixed are read first, each by what is known about it; the
-- fixed parts that are left between them are then evaluated.
theorem text_nested : (code : Expression) → Spelled Nested code → Nested code.text
  | .name _, spelled => spelled
  | .this, _ => fun _ => rfl
  | .number value, _ => integer_nested value
  | .literal text, (spelled : Nested text) => by
    intro opened
    simp only [Expression.text, after_append, after_nested spelled]
    rfl
  | .shown label parts, ⟨spelled, within⟩ => by
    have holes := comma_nested.intercalate (holes_nested parts within)
    intro opened
    simp only [Expression.text, after_append, after_nested spelled, after_nested holes]
    rfl
  | .select object component, ⟨within, spelled⟩ => by
    have inner := text_nested object within
    intro opened
    simp only [Expression.text, after_append, after_nested spelled, after_nested inner]
    rfl
  | .entry indices, within => by
    have inner := comma_nested.intercalate (texts_nested indices within)
    intro opened
    simp only [Expression.text, after_append, after_nested inner]
    rfl
  | .call method arguments, ⟨spelled, within⟩ => by
    have inner := comma_nested.intercalate (texts_nested arguments within)
    intro opened
    simp only [Expression.text, after_append, after_nested spelled, after_nested inner]
    rfl
  | .invoke object method arguments, ⟨owner, spelled, within⟩ => by
    have front := text_nested object owner
    have inner := comma_nested.intercalate (texts_nested arguments within)
    intro opened
    simp only [Expression.text, after_append, after_nested front, after_nested spelled,
      after_nested inner]
    rfl
  | .build arguments, within => by
    have inner := comma_nested.intercalate (texts_nested arguments within)
    intro opened
    simp only [Expression.text, after_append, after_nested inner]
    rfl
  | .raise fault arguments, ⟨spelled, within⟩ => by
    have inner := comma_nested.intercalate (texts_nested arguments within)
    intro opened
    simp only [Expression.text, after_append, after_nested spelled, after_nested inner]
    rfl
  | .group operand, within => by
    have inner := text_nested operand within
    intro opened
    simp only [Expression.text, after_append, after_nested inner]
    rfl
  | .negative operand, within => by
    have inner := text_nested operand within
    intro opened
    simp only [Expression.text, after_append, after_nested inner]
    rfl
  | .cast type operand, ⟨spelled, within⟩ => by
    have inner := text_nested operand within
    intro opened
    simp only [Expression.text, after_append, after_nested spelled, after_nested inner]
    rfl
  | .chain symbol operands, ⟨spelled, within⟩ => by
    have space : Nested " " := fun _ => rfl
    exact ((space.append spelled).append space).intercalate (texts_nested operands within)
  | .choice condition first second, ⟨asked, left, right⟩ => by
    have condition := text_nested condition asked
    have first := text_nested first left
    have second := text_nested second right
    intro opened
    simp only [Expression.text, after_append, after_nested condition, after_nested first,
      after_nested second]
    rfl
  | .test object type bound, ⟨within, spelled, named⟩ => by
    have inner := text_nested object within
    intro opened
    simp only [Expression.text, after_append, after_nested inner, after_nested spelled,
      after_nested named]
    rfl

theorem texts_nested : (code : List Expression) → SpelledIn Nested code →
    ∀ text ∈ Expression.texts code, Nested text
  | [], _ => List.forall_mem_nil _
  | first :: rest, ⟨spelled, within⟩ =>
    List.forall_mem_cons.mpr ⟨text_nested first spelled, texts_nested rest within⟩

theorem holes_nested : (code : List Expression) → SpelledIn Nested code →
    ∀ text ∈ Expression.holes code, Nested text
  | [], _ => List.forall_mem_nil _
  | first :: rest, ⟨spelled, within⟩ => by
    have inner := text_nested first spelled
    refine List.forall_mem_cons.mpr ⟨fun opened => ?_, holes_nested rest within⟩
    simp only [after_append, after_nested inner]
    rfl

end

theorem parameter_nested {parameter : Parameter} (spelled : SpelledParameter Nested parameter) :
    Nested parameter.text := by
  obtain ⟨type, name, value⟩ := spelled
  have modifier : Nested (if parameter.isReference then "in " else "") := by
    split <;> exact fun _ => rfl
  have front : Nested ((if parameter.isReference then "in " else "") ++ parameter.type ++ " "
      ++ parameter.name) := by
    intro opened
    simp only [after_append, after_nested modifier, after_nested type, after_nested name]
    rfl
  cases preset : parameter.preset with
  | none =>
    have nothing : Nested "" := fun _ => rfl
    simpa only [Parameter.text, preset] using front.append nothing
  | some text =>
    have equals : Nested " = " := fun _ => rfl
    simpa only [Parameter.text, preset] using front.append (equals.append (value text preset))

theorem parameters_nested {parameters : List Parameter}
    (spelled : ∀ parameter ∈ parameters, SpelledParameter Nested parameter) :
    Nested (parametersText parameters) := by
  apply comma_nested.intercalate
  rw [List.forall_mem_map]
  exact fun parameter member => parameter_nested (spelled parameter member)

theorem assignments_nested {assignments : List Assignment}
    (spelled : ∀ assignment ∈ assignments, SpelledAssignment Nested assignment) :
    Nested (assignmentsText assignments) := by
  have space : Nested " " := fun _ => rfl
  apply space.intercalate
  rw [List.forall_mem_map]
  intro assignment member opened
  have target := text_nested _ (spelled assignment member).1
  have value := text_nested _ (spelled assignment member).2
  simp only [Assignment.text, after_append, after_nested target, after_nested value]
  rfl

theorem heading_nested {heading : Heading} (spelled : SpelledHeading Nested heading) :
    Nested heading.text := by
  obtain ⟨role, parameters⟩ := spelled
  have inner := parameters_nested parameters
  have override : Nested (if heading.isOverride then "override " else "") := by
    split <;> exact fun _ => rfl
  intro opened
  unfold Heading.text
  cases declared : heading.role with
  | property name returns | method name returns | operator symbol returns =>
    rw [declared] at role
    simp only [after_append, after_nested override, after_nested role.1, after_nested role.2,
      after_nested inner]
    rfl
  | conversion target isImplicit =>
    rw [declared] at role
    have word : Nested (if isImplicit then "implicit" else "explicit") := by
      split <;> exact fun _ => rfl
    have named : Nested target := role
    simp only [after_append, after_nested override, after_nested word, after_nested named,
      after_nested inner]
    rfl

theorem hidden_nested : Nested hiddenAttribute := fun _ => rfl

theorem attributes_nested (heading : Heading) : NestedLines heading.attributes := by
  rw [Heading.attributes]
  split <;> exact fun _ => rfl

theorem operation_nested {operation : Operation}
    (spelled : SpelledHeading Nested operation.toHeading)
    (body : Spelled Nested operation.body) :
    NestedLines (Declaration.operation operation).lines := by
  have heading := heading_nested spelled
  have inner := text_nested operation.body body
  refine (attributes_nested _).append (.line fun opened => ?_)
  simp only [after_append, after_nested heading, after_nested inner]
  rfl

/-- The arguments of an open call close it, when there are any: all but the last leave it open. -/
theorem argumentLines_closing {items : List String} (nested : ∀ item ∈ items, Nested item)
    (nonempty : items ≠ []) (opened : List Shape) :
    afterLines (.round :: opened) (argumentLines items) = some opened := by
  induction items with
  | nil => contradiction
  | cons item rest ih =>
    rw [List.forall_mem_cons] at nested
    cases rest with
    | nil =>
      simp only [argumentLines, afterLines_cons, afterLines_nil, after_append,
        after_nested nested.1]
      rfl
    | cons next rest =>
      have further := ih nested.2 (List.cons_ne_nil _ _)
      simp only [argumentLines, afterLines_cons, after_append, after_nested nested.1,
        Option.bind_some]
      exact further

theorem spread_nested {heading : Heading} {arguments : List Expression}
    (spelled : SpelledHeading Nested heading) (within : SpelledIn Nested arguments)
    (nonempty : arguments ≠ []) : NestedLines (Declaration.spread heading arguments).lines := by
  have front := heading_nested spelled
  have given : Expression.texts arguments ≠ [] := by
    cases arguments with
    | nil => contradiction
    | cons first rest => exact List.cons_ne_nil _ _
  rw [Declaration.lines, List.append_assoc]
  refine (attributes_nested heading).append fun opened => ?_
  simp only [listed, List.map_cons, List.map_nil, List.singleton_append, afterLines_cons,
    after_append, after_nested front]
  exact argumentLines_closing (texts_nested arguments within) given opened

theorem indexerText_nested {modifier type : String} {indices : List Parameter}
    (modified : Nested modifier) (typed : Nested type)
    (spelled : ∀ index ∈ indices, SpelledParameter Nested index) :
    Nested (indexerText modifier type indices) := by
  have inner := parameters_nested spelled
  intro opened
  unfold indexerText
  simp only [after_append, after_nested modified, after_nested typed, after_nested inner]
  rfl

theorem constantText_nested {type name : String} {value : Expression} (typed : Nested type)
    (named : Nested name) (given : Spelled Nested value) :
    Nested (constantText type name value) := by
  have inner := text_nested value given
  intro opened
  unfold constantText
  simp only [after_append, after_nested typed, after_nested named, after_nested inner]
  rfl

theorem fieldsText_nested {type : String} {names : List String} (typed : Nested type)
    (named : ∀ name ∈ names, Nested name) : Nested (fieldsText type names) := by
  have inner := comma_nested.intercalate named
  intro opened
  unfold fieldsText
  simp only [after_append, after_nested typed, after_nested inner]
  rfl

theorem constructorText_nested {type : String} {parameters : List Parameter}
    {body : List Assignment} (typed : Nested type)
    (spelled : ∀ parameter ∈ parameters, SpelledParameter Nested parameter)
    (assigned : ∀ assignment ∈ body, SpelledAssignment Nested assignment) :
    Nested (constructorText type parameters body) := by
  have outer := parameters_nested spelled
  have inner := assignments_nested assigned
  intro opened
  unfold constructorText
  simp only [after_append, after_nested typed, after_nested outer, after_nested inner]
  rfl

theorem arms_nested {arms : List α} {form : α → String} {last : String}
    (chosen : ∀ arm ∈ arms, Nested (form arm)) (ended : Nested last) :
    NestedLines (listed (arms.map form ++ [last])) := by
  apply NestedLines.listed
  rw [List.forall_mem_append, List.forall_mem_map, List.forall_mem_singleton]
  exact ⟨chosen, ended⟩

theorem numbered_nested {type : String} {index : Parameter} {arms : List (Nat × Expression)}
    {otherwise : Expression} (typed : Nested type) (named : SpelledParameter Nested index)
    (chosen : ∀ arm ∈ arms, Spelled Nested arm.2) (other : Spelled Nested otherwise) :
    NestedLines (Declaration.numbered type index arms otherwise).lines := by
  have nothing : Nested "" := fun _ => rfl
  have ending : Nested ";" := fun _ => rfl
  have header := indexerText_nested nothing typed (List.forall_mem_singleton.mpr named)
  have name := named.2.1
  have fault := text_nested otherwise other
  have getter : Nested ("return " ++ index.name ++ " switch") := by
    intro opened
    simp only [after_append, after_nested name]
    rfl
  have setter : Nested ("switch (" ++ index.name ++ ")") := by
    intro opened
    simp only [after_append, after_nested name]
    rfl
  have get : NestedLines (listed ["readonly get"]) := .line fun _ => rfl
  have set : NestedLines (listed ["set"]) := .line fun _ => rfl
  -- no line with a brace is nested alone, so the blocks are taken from the outside in
  refine (NestedLines.pair hidden_nested header).append (.braced ?_ nothing)
  refine ((get.append (.braced ?_ nothing)).append set).append (.braced ?_ nothing)
  · refine (NestedLines.line getter).append (.braced (arms_nested ?_ fun opened => ?_) ending)
    · intro (number, field) member opened
      have inner := text_nested field (chosen _ member)
      simp only [after_append, after_nested (natural_nested number), after_nested inner]
      rfl
    · simp only [after_append, after_nested fault]
      rfl
  · refine (NestedLines.line setter).append (.braced (arms_nested ?_ fun opened => ?_) nothing)
    · intro (number, field) member opened
      have inner := text_nested field (chosen _ member)
      simp only [after_append, after_nested (natural_nested number), after_nested inner]
      rfl
    · simp only [after_append, after_nested fault]
      rfl

theorem declaration_nested {declaration : Declaration}
    (spelled : SpelledDeclaration Nested declaration) : NestedLines declaration.lines := by
  cases declaration with
  | constant type name value =>
    obtain ⟨typed, named, given⟩ := spelled
    exact .line (constantText_nested typed named given)
  | fields type names =>
    obtain ⟨typed, named⟩ := spelled
    exact .line (fieldsText_nested typed named)
  | constructor type parameters body =>
    obtain ⟨typed, outer, inner⟩ := spelled
    exact .line (constructorText_nested typed outer inner)
  | numbered type index arms otherwise =>
    obtain ⟨typed, named, chosen, other⟩ := spelled
    exact numbered_nested typed named chosen other
  | indexer type indices getter setter =>
    obtain ⟨typed, named, got, assigned⟩ := spelled
    have result := text_nested getter got
    cases setter with
    | none =>
      have modifier : Nested "readonly " := fun _ => rfl
      have header := indexerText_nested modifier typed named
      refine .pair hidden_nested fun opened => ?_
      simp only [after_append, after_nested header, after_nested result]
      rfl
    | some body =>
      have nothing : Nested "" := fun _ => rfl
      have header := indexerText_nested nothing typed named
      have inner := assignments_nested (assigned body rfl)
      refine (NestedLines.pair hidden_nested header).append
        (.braced (.pair (fun opened => ?_) fun opened => ?_) nothing)
      · simp only [after_append, after_nested result]
        rfl
      · simp only [after_append, after_nested inner]
        rfl
  | operation declared => exact operation_nested spelled.1 spelled.2
  | spread heading arguments =>
    obtain ⟨spelled, within, nonempty⟩ := spelled
    exact spread_nested spelled within nonempty

end VectorForge.Proofs.BracketedCode
