import VectorForge.Proofs.MemberCode

/-! Renaming the identifiers of a declaration. What a dot selects is not an identifier of
the body, and neither is what a signature says about types. -/

namespace VectorForge.Proofs.Renaming
open CodeSyntax MemberCode

mutual

def renamed (rename : String → String) : Expression → Expression
  | .name word => .name (rename word)
  | .this => .this
  | .number value => .number value
  | .literal text => .literal text
  | .shown label parts => .shown label (renamedIn rename parts)
  | .select object component => .select (renamed rename object) component
  | .entry indices => .entry (renamedIn rename indices)
  | .call method arguments => .call (rename method) (renamedIn rename arguments)
  | .invoke object method arguments =>
    .invoke (renamed rename object) method (renamedIn rename arguments)
  | .build arguments => .build (renamedIn rename arguments)
  | .raise fault arguments => .raise (rename fault) (renamedIn rename arguments)
  | .group inner => .group (renamed rename inner)
  | .negative operand => .negative (renamed rename operand)
  | .cast type operand => .cast (rename type) (renamed rename operand)
  | .chain symbol operands => .chain symbol (renamedIn rename operands)
  | .choice condition first second =>
    .choice (renamed rename condition) (renamed rename first) (renamed rename second)
  | .test object type bound => .test (renamed rename object) (rename type) (rename bound)

def renamedIn (rename : String → String) : List Expression → List Expression
  | [] => []
  | first :: rest => renamed rename first :: renamedIn rename rest

end

def renamedParameters (rename : String → String) (parameters : List Parameter) : List Parameter :=
  parameters.map fun parameter => { parameter with name := rename parameter.name }

def renamedAssignments (rename : String → String) (assignments : List Assignment) :
    List Assignment :=
  assignments.map fun assignment =>
    ⟨renamed rename assignment.target, renamed rename assignment.value⟩

def renamedHeading (rename : String → String) (heading : Heading) : Heading :=
  { heading with parameters := renamedParameters rename heading.parameters }

/-- A declaration with the identifiers in its body and the variables it declares renamed. -/
def renamedDeclaration (rename : String → String) : Declaration → Declaration
  | .constant type name value => .constant type name (renamed rename value)
  | .fields type names => .fields type names
  | .constructor type parameters body =>
    .constructor type (renamedParameters rename parameters) (renamedAssignments rename body)
  | .numbered type index arms otherwise =>
    .numbered type { index with name := rename index.name }
      (arms.map fun (number, field) => (number, renamed rename field)) (renamed rename otherwise)
  | .indexer type indices getter setter =>
    .indexer type (renamedParameters rename indices) (renamed rename getter)
      (setter.map (renamedAssignments rename))
  | .operation declared =>
    .operation { renamedHeading rename declared.toHeading with body := renamed rename declared.body }
  | .spread heading arguments =>
    .spread (renamedHeading rename heading) (renamedIn rename arguments)

mutual

theorem renamed_id : (code : Expression) → renamed id code = code
  | .name _ | .this | .number _ | .literal _ => rfl
  | .shown label parts => congrArg (Expression.shown label) (renamedIn_id parts)
  | .select object component => congrArg (Expression.select · component) (renamed_id object)
  | .entry indices => congrArg Expression.entry (renamedIn_id indices)
  | .call method arguments => congrArg (Expression.call method) (renamedIn_id arguments)
  | .invoke object method arguments => by rw [renamed, renamed_id object, renamedIn_id arguments]
  | .build arguments => congrArg Expression.build (renamedIn_id arguments)
  | .raise fault arguments => congrArg (Expression.raise fault) (renamedIn_id arguments)
  | .group inner => congrArg Expression.group (renamed_id inner)
  | .negative operand => congrArg Expression.negative (renamed_id operand)
  | .cast type operand => congrArg (Expression.cast type) (renamed_id operand)
  | .chain symbol operands => congrArg (Expression.chain symbol) (renamedIn_id operands)
  | .choice condition first second => by
    rw [renamed, renamed_id condition, renamed_id first, renamed_id second]
  | .test object type bound => congrArg (Expression.test · type bound) (renamed_id object)

theorem renamedIn_id : (code : List Expression) → renamedIn id code = code
  | [] => rfl
  | first :: rest => by rw [renamedIn, renamed_id first, renamedIn_id rest]

end

theorem renamedParameters_id (parameters : List Parameter) :
    renamedParameters id parameters = parameters := List.map_id parameters

theorem renamedAssignments_id (assignments : List Assignment) :
    renamedAssignments id assignments = assignments := by
  rw [renamedAssignments]
  simp only [renamed_id]
  exact List.map_id assignments

theorem renamedDeclaration_id (declaration : Declaration) :
    renamedDeclaration id declaration = declaration := by
  cases declaration with
  | constant type name value => rw [renamedDeclaration, renamed_id]
  | fields type names => rfl
  | constructor type parameters body =>
    rw [renamedDeclaration, renamedParameters_id, renamedAssignments_id]
  | numbered type index arms otherwise =>
    rw [renamedDeclaration, renamed_id]
    simp only [renamed_id]
    exact congrArg (Declaration.numbered type index · otherwise) (List.map_id arms)
  | indexer type indices getter setter =>
    rw [renamedDeclaration, renamedParameters_id, renamed_id]
    cases setter with
    | none => rfl
    | some setter => rw [Option.map_some, renamedAssignments_id]
  | operation declared =>
    rw [renamedDeclaration, renamed_id, renamedHeading, renamedParameters_id]
  | spread heading arguments =>
    rw [renamedDeclaration, renamedIn_id, renamedHeading, renamedParameters_id]

section Components
variable {rename : String → String}

theorem renamedIn_map {items : List α} {before after : α → Expression}
    (same : ∀ item, renamed rename (before item) = after item) :
    renamedIn rename (items.map before) = items.map after := by
  induction items with
  | nil => rfl
  | cons item items ih =>
    rw [List.map_cons, renamedIn, same, ih]
    rfl

theorem renamed_part (vector : String) (component : Component) :
    renamed rename (part vector component) = part (rename vector) component := rfl

theorem renamed_pair (symbol : String) (left right : Expression) :
    renamed rename (pair symbol left right) =
      pair symbol (renamed rename left) (renamed rename right) := rfl

theorem renamed_routine (holder method : String) (arguments : List Expression) :
    renamed rename (routine holder method arguments) =
      routine (rename holder) method (renamedIn rename arguments) := rfl

end Components

end VectorForge.Proofs.Renaming
