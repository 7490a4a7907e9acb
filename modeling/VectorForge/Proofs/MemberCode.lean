import VectorForge.Members.Conversions
import VectorForge.Proofs.ProgramText
import VectorForge.Proofs.TemplateText

/-! The code of members, written down without templates. Here and in the modules for the
single sections, a definition bears the name of the generator function whose result it
describes. It depends on the type and on the argument names, never on the layout. -/

namespace VectorForge.Proofs.CodeSyntax

/-- The member that is generated for a role, before anything is said about its body. -/
def Role.member : Role → Member
  | .property name returns => .property name returns
  | .method name returns => .method name returns
  | .operator symbol returns => .operator symbol returns
  | .conversion target isImplicit => .conversion target isImplicit

def Heading.member (heading : Heading) (body : String) : Member :=
  { (heading.role.member.taking (parametersText heading.parameters)).giving body with
    isOverride := heading.isOverride
    isInline := heading.isInline }

def Operation.member (operation : Operation) : Member :=
  operation.toHeading.member operation.body.text

end VectorForge.Proofs.CodeSyntax

namespace VectorForge.Proofs.MemberCode
open CodeSyntax ProgramText TemplateText
open Formatter (comma)

theorem signature_eq (heading : Heading) (body : String) :
    (heading.member body).signature = heading.text := by
  have static : "public static " = "public " ++ "static " := rfl
  have operator : " operator " = " " ++ "operator " := rfl
  obtain ⟨role, parameters, isOverride, isInline⟩ := heading
  cases role with
  | property name returns | method name returns =>
    cases isOverride <;>
      simp [Member.signature, Heading.member, Role.member, Member.property, Member.method,
        Member.taking, Member.giving, Heading.text]
  | operator symbol returns =>
    cases isOverride <;>
      simp [Member.signature, Heading.member, Role.member, Member.operator, Member.taking,
        Member.giving, Heading.text, static, operator, String.append_assoc, -String.reduceAppend]
  | conversion target isImplicit =>
    cases isOverride <;> cases isImplicit <;>
      simp [Member.signature, Heading.member, Role.member, Member.operator, Member.conversion,
        Member.taking, Member.giving, Heading.text, static, operator, String.append_assoc,
        -String.reduceAppend]

theorem hints_eq (heading : Heading) (body : String) :
    (heading.member body).hints = heading.attributes := rfl

theorem operation_lines (operation : Operation) :
    operation.member.lines = (Declaration.operation operation).lines := by
  have signature := signature_eq operation.toHeading operation.body.text
  have hints := hints_eq operation.toHeading operation.body.text
  rw [Operation.member, Member.lines, Member.line, signature, hints]
  rfl

theorem itemLines_eq (items : List String) : Member.itemLines items = argumentLines items := by
  induction items with
  | nil => rfl
  | cons first rest ih =>
    cases rest with
    | nil => rfl
    | cons second rest => rw [Member.itemLines, argumentLines, ih] <;> simp

theorem spread_lines (heading : Heading) (arguments : List Expression) :
    (heading.member "new(").spreadLines (Expression.texts arguments) =
      (Declaration.spread heading arguments).lines := by
  have opening : " => new(" = " => " ++ "new(" := rfl
  rw [Member.spreadLines, signature_eq, hints_eq, itemLines_eq, Declaration.lines, opening,
    ← String.append_assoc, List.append_assoc]
  rfl

/-- One form for every component of a type, in ascending order. -/
def each (type : VectorType) (form : Component → α) : List α :=
  type.dimension.components.map form

def own (component : Component) : Expression := .name component.name

def part (vector : String) (component : Component) : Expression :=
  .select (.name vector) component.name

def pair (symbol : String) (left right : Expression) : Expression := .chain symbol [left, right]

theorem pair_text (symbol : String) (left right : Expression) :
    (pair symbol left right).text = left.text ++ " " ++ symbol ++ " " ++ right.text := by
  simp [pair, Expression.text, Expression.texts, String.append_assoc]

/-- A call of a routine of a static class. -/
def routine (holder method : String) (arguments : List Expression) : Expression :=
  .invoke (.name holder) method arguments

theorem testedIn_map {items : List α} {form : α → Expression}
    (plain : ∀ item, (form item).tested = []) : Expression.testedIn (items.map form) = [] := by
  induction items with
  | nil => rfl
  | cons item items ih => simp [Expression.testedIn, plain, ih]

/-- The generator function succeeds, and its program writes exactly these declarations. -/
def Generates (generated : Except Fault Program) (declarations : List Declaration) : Prop :=
  ∃ program, generated = .ok program ∧
    ∀ region, Writes region program (declarations.flatMap Declaration.lines)

theorem operations_written (region : Option String) (operations : List Operation) :
    Writes region (.members (operations.map Operation.member))
      ((operations.map .operation).flatMap Declaration.lines) := by
  have written : Writes region _ _ := Writes.members (operations.map Operation.member)
  simp only [List.flatMap_map, operation_lines] at written ⊢
  exact written

theorem Generates.operations {generated : Except Fault (List Member)} {operations : List Operation}
    (succeeds : generated = .ok (operations.map Operation.member)) :
    Generates (.members <$> generated) (operations.map .operation) :=
  ⟨.members (operations.map Operation.member), by rw [succeeds]; rfl,
    fun region => operations_written region operations⟩

theorem Generates.all {items : List α} {step : α → Except Fault Program} {form : α → Declaration}
    (generated : ∀ item ∈ items, Generates (step item) [form item]) :
    ∃ programs, items.mapM step = .ok programs ∧
      ∀ region, Writes region (.join programs) ((items.map form).flatMap Declaration.lines) := by
  induction items with
  | nil => exact ⟨[], rfl, fun _ => .done⟩
  | cons item items ih =>
    obtain ⟨first, firstMade, firstWrites⟩ := generated item (by simp)
    obtain ⟨rest, restMade, restWrites⟩ := ih fun other member => generated other (by simp [member])
    refine ⟨first :: rest, ?_, fun region => ?_⟩
    · simp [firstMade, restMade, bind, Except.bind, pure, Except.pure]
    · have written := (firstWrites region).append (restWrites region)
      rwa [← List.flatMap_append] at written

theorem mapM_ok {items : List α} {step : α → Except ε β} {result : α → β}
    (succeeds : ∀ item ∈ items, step item = .ok (result item)) :
    items.mapM step = .ok (items.map result) := by
  induction items with
  | nil => rfl
  | cons item items ih =>
    simp [succeeds item (by simp), ih fun other member => succeeds other (by simp [member]), bind,
      Except.bind, pure, Except.pure]

variable (formatter : Formatter)

section Sequences
variable {template : String} {overrides : List (String × String)} {form : Component → Expression}

/-- A sequence of arguments, when its template gives one argument for each component. -/
theorem arguments_eq (filled : ∀ component,
      formatter.formatAt component template overrides = .ok (form component).text) :
    formatter.sequence template comma overrides =
      .ok (comma.intercalate (Expression.texts (each formatter.target form))) := by
  rw [each, Expression.texts_map]
  exact sequence_eq formatter filled comma

/-- A sequence of operands, when its template gives one operand for each component. -/
theorem chain_eq (symbol : String) (filled : ∀ component,
      formatter.formatAt component template overrides = .ok (form component).text) :
    formatter.sequence template (" " ++ symbol ++ " ") overrides =
      .ok (Expression.chain symbol (each formatter.target form)).text := by
  rw [Expression.text, each, Expression.texts_map]
  exact sequence_eq formatter filled _

end Sequences

theorem own_filled (component : Component) :
    formatter.formatAt component "{L}" = .ok (own component).text :=
  render_of_segments [.slot "L"] rfl rfl

theorem names_eq (separator : String) :
    formatter.names separator =
      .ok (separator.intercalate (each formatter.target Component.name)) :=
  sequence_eq formatter (own_filled formatter) separator

theorem reference_text (type name : String) :
    parametersText [{ type, name }] = "in " ++ type ++ " " ++ name := by
  simp [parametersText, Parameter.text]

theorem references_text (type first second : String) :
    parametersText [{ type, name := first }, { type, name := second }] =
      "in " ++ type ++ " " ++ first ++ ", " ++ "in " ++ type ++ " " ++ second := by
  simp [parametersText, Parameter.text, String.append_assoc, -String.reduceAppend]

def vectorPair (type : VectorType) (names : ArgumentNames) : List Parameter :=
  [{ type := type.name, name := names.first }, { type := type.name, name := names.second }]

theorem vectorPair_eq :
    Members.vectorPair formatter =
      .ok (parametersText (vectorPair formatter.target formatter.options.arguments)) := by
  rw [vectorPair, references_text]
  exact render_of_segments [.text "in ", .slot "T", .text " ", .slot "VA1", .text ", ", .text "in ",
    .slot "T", .text " ", .slot "VA2"] rfl rfl

def sourceVector (source : String) (names : ArgumentNames) : List Parameter :=
  [{ type := source, name := names.single }]

theorem sourceVector_eq (source : String) :
    Members.sourceVector formatter source =
      .ok (parametersText (sourceVector source formatter.options.arguments)) := by
  rw [sourceVector, reference_text]
  exact render_of_segments [.text "in ", .slot "SOURCE", .text " ", .slot "VA"] rfl rfl

theorem singleVector_eq :
    Members.singleVector formatter =
      .ok (parametersText (sourceVector formatter.target.name formatter.options.arguments)) := by
  rw [sourceVector, reference_text]
  exact render_of_segments [.text "in ", .slot "T", .text " ", .slot "VA"] rfl rfl

end VectorForge.Proofs.MemberCode
