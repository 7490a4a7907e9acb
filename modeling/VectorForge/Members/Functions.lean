import VectorForge.Members.Operators

/-! The functions of a numeric vector: lengths, extremes, distances and the functions
that work component by component. -/

namespace VectorForge.Members

def measures (formatter : Formatter) (squareRoot : String) : Except Fault (List Member) := do
  let element := formatter.element
  let squares ← formatter.sequence "{L} * {L}" " + "
  let absolute ← formatter.sequence "Mathf.Abs({L})"
  return [
    (Member.method "SqrMagnitude" element).giving squares,
    (Member.method "Magnitude" element).giving (squareRoot ++ "(SqrMagnitude())"),
    (Member.method "Normalized" formatter.typeName).giving "this / Magnitude()",
    (Member.method "Abs" formatter.typeName).giving (construct absolute),
    (Member.method "MinValue" element).giving (formatter.nestedCall "Mathf.Min"),
    (Member.method "MaxValue" element).giving (formatter.nestedCall "Mathf.Max")]

def distances (formatter : Formatter) (squareRoot : String) : Except Fault (List Member) := do
  let other ← formatter.format "in {T} other"
  let single ← singleVector formatter
  let body ← formatter.format "{SQRT}(SqrDistance({VA}))" [("SQRT", squareRoot)]
  return [
    ((Member.method "SqrDistance" formatter.element).taking other).giving
      "(other - this).SqrMagnitude()",
    ((Member.method "Distance" formatter.element).taking single).giving body]

/-- A method that builds a vector from one call for each component, each on its own line. -/
def componentCalls (formatter : Formatter) (name parameters call : String) : Except Fault Program := do
  let items ← formatter.dimension.components.mapM fun component => formatter.formatAt component call
  let declared := ((Member.method name formatter.typeName).taking parameters).giving "new("
  return .spread declared.inlined items

def functions (formatter : Formatter) : Except Fault Program := do
  let squareRoot ← formatter.target.kind.squareRoot
  let alone ← measures formatter squareRoot
  let apart ← distances formatter squareRoot
  let single ← singleVector formatter
  let range ← formatter.format "in {T} min, in {T} max"
  let least ← componentCalls formatter "Min" single "Mathf.Min({L}, {VA}.{L})"
  let greatest ← componentCalls formatter "Max" single "Mathf.Max({L}, {VA}.{L})"
  let clamped ← componentCalls formatter "Clamp" range "Mathf.Clamp({L}, min.{L}, max.{L})"
  return .members ((alone ++ apart).map Member.inlined) ++ least ++ greatest ++ clamped

end VectorForge.Members
