import VectorForge.VectorType

/-! What a caller may choose about the emitted text. The defaults give the
standard family of types. -/

namespace VectorForge

/-- The parameter names that generated members use. -/
structure ArgumentNames where
  /-- The left operand of a binary operator. -/
  first : String := "v1"
  /-- The right operand of a binary operator. -/
  second : String := "v2"
  /-- The only vector argument of a member. -/
  single : String := "v"
  /-- A scalar argument. -/
  scalar : String := "n"
  deriving DecidableEq

/-- The four names in the order in which they are checked. -/
def ArgumentNames.toList (names : ArgumentNames) : List String :=
  [names.first, names.second, names.single, names.scalar]

/-- Which boolean vector a comparison of two vectors returns. -/
inductive ComparisonMask where
  /-- Always the three-component one. -/
  | fixed3
  /-- The one with as many components as the operands. -/
  | operand
  deriving DecidableEq

namespace ComparisonMask

def all : List ComparisonMask := [.fixed3, .operand]

def name : ComparisonMask → String
  | .fixed3 => "fixed3"
  | .operand => "operand"

def ofName? (name : String) : Option ComparisonMask :=
  all.find? (·.name == name)

/-- The type of `a < b` for operands of the given type. -/
def maskType (mask : ComparisonMask) (operand : VectorType) : VectorType :=
  match mask with
  | .fixed3 => ⟨.bool, .three⟩
  | .operand => ⟨.bool, operand.dimension⟩

end ComparisonMask

structure Style where
  indent : String := "    "
  newline : String := "\n"
  deriving DecidableEq

structure Options where
  namespaceName : String := "Support.Numerics"
  usings : List String := ["Godot", "System", "System.Diagnostics", "System.Runtime.CompilerServices"]
  style : Style := {}
  arguments : ArgumentNames := {}
  mask : ComparisonMask := .fixed3
  deriving DecidableEq

end VectorForge
