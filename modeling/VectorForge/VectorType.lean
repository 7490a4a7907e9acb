import VectorForge.Component

/-! A generated type is a kind and a dimension, and nothing else. -/

namespace VectorForge

structure VectorType where
  kind : Kind
  dimension : Dimension
  deriving DecidableEq

namespace VectorType

/-- The name of the generated struct, such as `Float3`. -/
def name (type : VectorType) : String :=
  type.kind.stem ++ toString type.dimension.size

/-- Every generated type, in the order its file is written: all kinds of one
dimension before the next dimension. -/
def all : List VectorType :=
  Dimension.all.flatMap fun dimension => Kind.all.map fun kind => ⟨kind, dimension⟩

/-- The sorting order: by kind, then by dimension. -/
def le (first second : VectorType) : Bool :=
  first.kind.rank < second.kind.rank ||
    (first.kind.rank == second.kind.rank && first.dimension.size ≤ second.dimension.size)

/-- The types in sorting order, each one once. -/
def sort (types : List VectorType) : List VectorType :=
  (types.mergeSort le).eraseReps

end VectorType

end VectorForge
