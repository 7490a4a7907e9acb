import VectorForge.Template.Render

/-! Templates seen from one vector type. A formatter fills a template in once, or
once per component, and joins the pieces in ascending order of the components. -/

namespace VectorForge

structure Formatter where
  target : VectorType
  options : Options

namespace Formatter

/-- What separates the items of a parameter or argument list. -/
def comma : String := ", "

def typeName (formatter : Formatter) : String := formatter.target.name

def element (formatter : Formatter) : String := formatter.target.kind.element

def dimension (formatter : Formatter) : Dimension := formatter.target.dimension

def maskType (formatter : Formatter) : VectorType :=
  formatter.options.mask.maskType formatter.target

/-- The target with another kind or dimension; what is not given stays. -/
def related (formatter : Formatter) (kind : Option Kind) (dimension : Option Dimension) : VectorType :=
  ⟨kind.getD formatter.target.kind, dimension.getD formatter.target.dimension⟩

def bindings (formatter : Formatter) (component : Option Component)
    (overrides : List (String × String)) : Template.Bindings where
  vectorType := formatter.typeName
  maskType := formatter.maskType.name
  element := formatter.element
  component := component
  arguments := formatter.options.arguments
  newline := formatter.options.style.newline
  overrides := overrides

def format (formatter : Formatter) (template : String) (overrides : List (String × String) := []) :
    Except Fault String :=
  Template.render template (formatter.bindings none overrides)

def formatAt (formatter : Formatter) (component : Component) (template : String)
    (overrides : List (String × String) := []) : Except Fault String :=
  Template.render template (formatter.bindings (some component) overrides)

/-- The pieces for `count` components from position `start` on. The first fault
ends the list, so a huge count stops at the first position without a name. -/
def pieces (formatter : Formatter) (template : String) (overrides : List (String × String)) :
    (start count : Nat) → Except Fault (List String)
  | _, 0 => .ok []
  | start, count + 1 => do
    let component ← Component.ofIndex start
    let piece ← formatter.formatAt component template overrides
    let rest ← formatter.pieces template overrides (start + 1) count
    return piece :: rest

/-- Fills in a template for each of the first `count` components. -/
def sequenceN (formatter : Formatter) (template separator : String) (count : Nat)
    (overrides : List (String × String) := []) : Except Fault String := do
  let pieces ← formatter.pieces template overrides 0 count
  return separator.intercalate pieces

def sequence (formatter : Formatter) (template : String) (separator : String := comma)
    (overrides : List (String × String) := []) : Except Fault String :=
  formatter.sequenceN template separator formatter.dimension.size overrides

def names (formatter : Formatter) (separator : String := comma) : Except Fault String :=
  formatter.sequence "{L}" separator

/-- Nested calls of a function of two arguments. The first name is the outermost argument. -/
def nest (function : String) : List String → String
  | [] => ""
  | [name] => name
  | name :: rest => function ++ "(" ++ name ++ ", " ++ nest function rest ++ ")"

/-- A function of two arguments folded over the components: `f(x, f(y, z))`. -/
def nestedCall (formatter : Formatter) (function : String) : String :=
  nest function (formatter.dimension.components.map Component.name)

end Formatter

end VectorForge
