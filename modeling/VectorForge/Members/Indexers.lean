import VectorForge.Formatter
import VectorForge.Program

/-! Access to components by number: one indexer for a single component and one for
each size of sub-vector. -/

namespace VectorForge.Members

def outOfRange (formatter : Formatter) : String :=
  "throw new ArgumentOutOfRangeException(nameof(ix), ix, \"" ++ formatter.typeName
    ++ " component index must be in [0, " ++ toString (formatter.dimension.size - 1) ++ "]\")"

def readArm (component : Component) : String :=
  toString component.index ++ " => " ++ component.name ++ ","

def writeArm (component : Component) : String :=
  "case " ++ toString component.index ++ ": " ++ component.name ++ " = value; break;"

def componentIndexer (formatter : Formatter) : Except Fault Program := do
  let header ← formatter.format "public {NT} this[int ix]"
  let components := formatter.dimension.components
  let reading : Program := .block
    (.write "return ix switch" ++
      .block (.writeAll (components.map readArm ++ ["_ => " ++ outOfRange formatter])) ";")
  let writing : Program := .block
    (.write "switch (ix)" ++
      .block (.writeAll (components.map writeArm ++ ["default: " ++ outOfRange formatter ++ ";"])))
  return .writeAll [hiddenHint, header] ++
    .block (.write "readonly get" ++ reading ++ .write "set" ++ writing)

def swizzleSizes : List Dimension := [.two, .three, .four]

/-- The indexer of sub-vectors of one size. It can be assigned to only where the
sub-vector is not larger than the vector itself. -/
def swizzle (formatter : Formatter) (size : Dimension) : Except Fault Program := do
  let part := (formatter.related none (some size)).name
  let parameters ← formatter.sequenceN "int i{L}" Formatter.comma size.size
  let getter ← formatter.sequenceN "this[i{L}]" Formatter.comma size.size
  if size.size ≤ formatter.dimension.size then
    let setter ← formatter.sequenceN "this[i{L}] = value.{L};" " " size.size
    return .writeAll [hiddenHint, "public " ++ part ++ " this[" ++ parameters ++ "]"] ++
      .block (.writeAll
        ["readonly get => new(" ++ getter ++ ");", "set \x7b " ++ setter ++ " \x7d"])
  else
    return .writeAll [hiddenHint,
      "public readonly " ++ part ++ " this[" ++ parameters ++ "] => new(" ++ getter ++ ");"]

def indexers (formatter : Formatter) : Except Fault Program := do
  let single ← componentIndexer formatter
  let parts ← swizzleSizes.mapM (swizzle formatter)
  return single ++ .join parts

end VectorForge.Members
