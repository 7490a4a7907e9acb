import VectorForge.Fault

/-! Component positions and dimensions. Both are finite types, so a value of
either is in range by construction and the checks stand where numbers come in. -/

namespace VectorForge

/-- One position of a vector. The first four carry an axis letter. -/
inductive Component where
  | x
  | y
  | z
  | w
  | c4
  deriving DecidableEq

namespace Component

def all : List Component := [.x, .y, .z, .w, .c4]

def index : Component → Nat
  | .x => 0
  | .y => 1
  | .z => 2
  | .w => 3
  | .c4 => 4

/-- The field of this position in a generated struct. -/
def name : Component → String
  | .x => "x"
  | .y => "y"
  | .z => "z"
  | .w => "w"
  | .c4 => "c4"

def letter? : Component → Option Char
  | .x => some 'x'
  | .y => some 'y'
  | .z => some 'z'
  | .w => some 'w'
  | .c4 => none

def letterCount : Nat := all.countP (·.letter?.isSome)

def ofIndex (index : Nat) : Except Fault Component :=
  match all[index]? with
  | some component => .ok component
  | none => .error (.componentOutOfRange index)

/-- The field as the engine's own vector types spell it. -/
def engineName (component : Component) : Except Fault String :=
  match component.letter? with
  | some letter => .ok (String.singleton letter.toUpper)
  | none => .error (.componentOutOfRange component.index)

end Component

inductive Dimension where
  | two
  | three
  | four
  | five
  deriving DecidableEq

namespace Dimension

def all : List Dimension := [.two, .three, .four, .five]

def size : Dimension → Nat
  | .two => 2
  | .three => 3
  | .four => 4
  | .five => 5

def ofSize (size : Nat) : Except Fault Dimension :=
  match all.find? (·.size == size) with
  | some dimension => .ok dimension
  | none => .error (.dimensionOutOfRange size)

/-- The components of a vector of this dimension, in ascending order. -/
def components (dimension : Dimension) : List Component :=
  Component.all.take dimension.size

end Dimension

end VectorForge
