import VectorForge.Formatter
import VectorForge.Program

/-! The two constructors of every vector: all components from one value, and each
component from a value of its own. -/

namespace VectorForge.Members

def broadcast (formatter : Formatter) : Except Fault String := do
  let body ← formatter.sequence "{L} = {NA};" " "
  formatter.format "public {T}({NT} {NA}) \x7b\x7b {BODY} \x7d\x7d" [("BODY", body)]

def componentwise (formatter : Formatter) : Except Fault String := do
  let parameters ← formatter.sequence "{NT} {L} = {DEFAULT}" Formatter.comma
    [("DEFAULT", formatter.target.kind.defaultLiteral)]
  let body ← formatter.sequence "this.{L} = {L};" " "
  formatter.format "public {T}({PARAMS}) \x7b\x7b {BODY} \x7d\x7d"
    [("PARAMS", parameters), ("BODY", body)]

def constructors (formatter : Formatter) : Except Fault Program := do
  let one ← broadcast formatter
  let each ← componentwise formatter
  return .writeAll [one, each]

end VectorForge.Members
