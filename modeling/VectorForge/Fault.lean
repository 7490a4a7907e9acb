import VectorForge.Kind

/-! The causes for which emission stops. A fault names what went wrong; its text
is made in one place, `Fault.message`. -/

namespace VectorForge

inductive Fault where
  | unresolvedPlaceholder (name template : String)
  /-- The template has a stray or unfinished brace at this byte. -/
  | malformedTemplate (template : String) (position : Nat)
  | dimensionOutOfRange (size : Nat)
  | componentOutOfRange (index : Nat)
  /-- The writer was asked to go above its outermost level. -/
  | indentUnderflow
  /-- The text ended with this many levels still open. -/
  | unbalancedIndent (depth : Nat)
  | nestedRegion (opened requested : String)
  | noOpenRegion
  | unclosedRegion (name : String)
  | unsupportedKind (kind operation : String)
  deriving DecidableEq

namespace Fault

def message : Fault → String
  | .unresolvedPlaceholder name template =>
    "unresolved placeholder `" ++ name ++ "` in template: " ++ template
  | .malformedTemplate template position =>
    "malformed template at byte " ++ toString position ++ ": " ++ template
  | .dimensionOutOfRange size =>
    "dimension " ++ toString size ++ " is outside the supported range 2..=5"
  | .componentOutOfRange index => "component index " ++ toString index ++ " has no name"
  | .indentUnderflow => "unindent below depth zero"
  | .unbalancedIndent depth =>
    "unbalanced indentation: " ++ toString depth ++ " level(s) left open"
  | .nestedRegion opened requested =>
    "region `" ++ requested ++ "` opened while `" ++ opened ++ "` is still open"
  | .noOpenRegion => "no region is open"
  | .unclosedRegion name => "region `" ++ name ++ "` was never closed"
  | .unsupportedKind kind operation => operation ++ " is not defined for kind " ++ kind

/-- Whether the fault lies in a template's text rather than in the writer's state. -/
def isTemplateFault : Fault → Bool
  | .unresolvedPlaceholder .. | .malformedTemplate .. => true
  | _ => false

end Fault

def Kind.squareRoot (kind : Kind) : Except Fault String :=
  match kind with
  | .int => .ok "Toolbox.ISqrt"
  | .float | .double => .ok "Mathf.Sqrt"
  | .bool => .error (.unsupportedKind kind.element "square root")

end VectorForge
