import VectorForge.VectorType

/-! Which conversions a type declares. Each direction between two kinds is declared
on exactly one of the two types; the engine's own vectors exist up to four components. -/

namespace VectorForge

inductive Rounding where
  | round
  | ceil
  | floor
  deriving DecidableEq

namespace Rounding

def all : List Rounding := [.round, .ceil, .floor]

def verb : Rounding → String
  | .round => "Round"
  | .ceil => "Ceil"
  | .floor => "Floor"

end Rounding

inductive Conversion where
  /-- A method that gives the integer vector of the same dimension. -/
  | rounding (mode : Rounding)
  /-- From this type to the engine's vector. -/
  | toEngine (engine : String) (isImplicit : Bool)
  /-- From the engine's vector to this type. -/
  | fromEngine (engine : String) (isImplicit : Bool)
  /-- From another kind of the same dimension to this type. -/
  | fromKind (source : Kind) (isImplicit : Bool)
  deriving DecidableEq

namespace VectorType

def engineVector? (type : VectorType) : Option String :=
  if type.dimension.size ≤ 4 then
    match type.kind with
    | .int => some ("Vector" ++ toString type.dimension.size ++ "I")
    | .float => some ("Vector" ++ toString type.dimension.size)
    | .double | .bool => none
  else none

/-- The kinds a kind is converted from, with whether that happens implicitly. -/
def kindSources : Kind → List Conversion
  | .int => [.fromKind .float false, .fromKind .double false]
  | .float => [.fromKind .double false, .fromKind .int true]
  | .double => [.fromKind .float true, .fromKind .int true]
  | .bool => []

def conversions (type : VectorType) : List Conversion :=
  (if type.kind.isFloating then Rounding.all.map .rounding else [])
    ++ (match type.engineVector? with
      | some engine => [.toEngine engine true, .fromEngine engine (type.kind == .int)]
      | none => [])
    ++ kindSources type.kind

end VectorType

/-- A conversion from another kind casts each component unless it is implicit. -/
def Conversion.casts : Conversion → Bool
  | .fromKind _ isImplicit => !isImplicit
  | _ => false

end VectorForge
