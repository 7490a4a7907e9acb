import VectorForge.Formatter
import VectorForge.Program

/-! Fields, named constants and the derived properties of boolean vectors. -/

namespace VectorForge.Members

/-- The constants of a numeric vector with their first two components. All further
components keep the default of the constructor's parameters. -/
def namedConstants : List (String × Int × Int) :=
  [("Zero", 0, 0), ("One", 1, 1), ("Up", 0, 1), ("Down", 0, -1), ("Left", -1, 0), ("Right", 1, 0)]

def constant (formatter : Formatter) (name : String) (x y : Int) : Except Fault String :=
  formatter.format "public static readonly {T} {NAME} = new({X}, {Y});"
    [("NAME", name), ("X", toString x), ("Y", toString y)]

def fields (formatter : Formatter) : Except Fault String := do
  let names ← formatter.names
  formatter.format "public {NT} {FIELDS};" [("FIELDS", names)]

def numericProperties (formatter : Formatter) : Except Fault Program := do
  let constants ← namedConstants.mapM fun (name, x, y) => constant formatter name x y
  let declaration ← fields formatter
  return .writeAll (constants ++ [declaration])

def adjacent : List String → List String
  | first :: second :: rest => (first ++ " == " ++ second) :: adjacent (second :: rest)
  | _ => []

/-- Whether all components of a boolean vector hold, any, all or none, and how many. -/
def maskProperties (formatter : Formatter) : Except Fault (List Member) := do
  let conjunction ← formatter.names " && "
  let disjunction ← formatter.names " || "
  let equal := " && ".intercalate (adjacent (formatter.dimension.components.map Component.name))
  let count ← formatter.sequence "({L} ? 1 : 0)" " + "
  return [
    (Member.property "AllTrue" "bool").giving conjunction,
    (Member.property "AnyTrue" "bool").giving disjunction,
    (Member.property "AllEqual" "bool").giving equal,
    (Member.property "TrueCount" "int").giving count]

def booleanProperties (formatter : Formatter) : Except Fault Program := do
  let declaration ← fields formatter
  let properties ← maskProperties formatter
  return .write declaration ++ .members properties

end VectorForge.Members
