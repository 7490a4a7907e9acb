import VectorForge.Options
import VectorForge.Template.Token

/-! Filling in a template. A value is inserted as it is and never read again, so
what a caller binds cannot change how the rest of the template is understood. -/

namespace VectorForge.Template

structure Bindings where
  vectorType : String := "Float3"
  maskType : String := "Bool3"
  element : String := "float"
  /-- The component at hand, inside a sequence. -/
  component : Option Component := none
  arguments : ArgumentNames := {}
  newline : String := "\n"
  /-- Bindings of one call. A later one hides an earlier one and all the names above. -/
  overrides : List (String × String) := []

def Bindings.reserved (bindings : Bindings) (name : String) : Option String :=
  match name with
  | "T" => some bindings.vectorType
  | "BT" => some bindings.maskType
  | "NT" => some bindings.element
  | "L" => bindings.component.map Component.name
  | "VA1" => some bindings.arguments.first
  | "VA2" => some bindings.arguments.second
  | "VA" => some bindings.arguments.single
  | "NA" => some bindings.arguments.scalar
  | "NL" => some bindings.newline
  | _ => none

def Bindings.resolve (bindings : Bindings) (name : String) : Option String :=
  match bindings.overrides.reverse.lookup name with
  | some value => some value
  | none => bindings.reserved name

def Token.render (template : String) (bindings : Bindings) : Token → Except Fault String
  | .literal char => .ok (String.singleton char)
  | .placeholder name =>
    match bindings.resolve name with
    | some value => .ok value
    | none => .error (.unresolvedPlaceholder name template)
  | .malformed position => .error (.malformedTemplate template position)

/-- The template with every placeholder filled in, or the fault of its first bad token. -/
def render (template : String) (bindings : Bindings) : Except Fault String := do
  let pieces ← (scan template).mapM (Token.render template bindings)
  return String.join pieces

end VectorForge.Template
