/-! The four element kinds a generated vector can have. Everything that differs
from kind to kind is decided here by cases, never by a position in a table. -/

namespace VectorForge

inductive Kind where
  | int
  | float
  | double
  | bool
  deriving DecidableEq

namespace Kind

/-- The kinds with arithmetic, in generation order. -/
def numeric : List Kind := [.int, .float, .double]

def all : List Kind := numeric ++ [.bool]

def element : Kind → String
  | .int => "int"
  | .float => "float"
  | .double => "double"
  | .bool => "bool"

/-- The part of a vector type's name that stands for its kind. -/
def stem : Kind → String
  | .int => "Int"
  | .float => "Float"
  | .double => "Double"
  | .bool => "Bool"

def isNumeric : Kind → Bool
  | .bool => false
  | _ => true

def isFloating : Kind → Bool
  | .float | .double => true
  | _ => false

def defaultLiteral : Kind → String
  | .bool => "false"
  | _ => "0"

/-- The kind whose element type has this name; the match is exact. -/
def ofElement? (name : String) : Option Kind :=
  all.find? (·.element == name)

/-- The position of a kind among all kinds, which is the order types sort by. -/
def rank : Kind → Nat
  | .int => 0
  | .float => 1
  | .double => 2
  | .bool => 3

end Kind

end VectorForge
