/-! Structured values: what a configuration is when it is data rather than text. An
object keeps its entries in order; looking a name up finds the first entry with it. -/

namespace VectorForge

inductive Value where
  | null
  | boolean (value : Bool)
  | integer (value : Int)
  /-- A number written with a fraction: its digits and how many of them follow the point. -/
  | fraction (digits : Int) (places : Nat)
  | text (value : String)
  | list (items : List Value)
  | object (entries : List (String × Value))
  deriving Inhabited

namespace Value

def text? : Value → Option String
  | .text value => some value
  | _ => none

def texts? : Value → Option (List String)
  | .list items => items.mapM text?
  | _ => none

/-- A name chosen from a fixed set: a text, or an object with that name as its only key
and nothing under it. -/
def choice? : Value → Option String
  | .text name => some name
  | .object [(name, .null)] => some name
  | _ => none

def nat? : Value → Option Nat
  | .integer (.ofNat value) => some value
  | _ => none

/-- The entries of a record with the given fields. A record is an object, or the list
of its first fields' values in order. -/
def record? (fields : List String) : Value → Option (List (String × Value))
  | .object entries => some entries
  | .list items => if items.length ≤ fields.length then some (fields.zip items) else none
  | _ => none

end Value

end VectorForge
