import VectorForge.Fault
import VectorForge.Layout

/-! The state of a text under way: the lines so far, the current depth and the open
region. A step that fails leaves the state as it was. -/

namespace VectorForge

structure Writer where
  lines : List Line := []
  depth : Nat := 0
  /-- The name of the open region; regions do not nest. -/
  region : Option String := none
  deriving DecidableEq

namespace Writer

def write (writer : Writer) (text : String) (breaks : Nat := 1) : Writer :=
  { writer with lines := writer.lines ++ [⟨writer.depth, text, breaks⟩] }

/-- Writes lines that were made at depth zero. -/
def append (writer : Writer) (lines : List Line) : Writer :=
  { writer with lines := writer.lines ++ lines.map (Line.deepen writer.depth) }

def indent (writer : Writer) : Writer := { writer with depth := writer.depth + 1 }

def unindent (writer : Writer) : Except Fault Writer :=
  match writer.depth with
  | 0 => .error .indentUnderflow
  | depth + 1 => .ok { writer with depth }

def openRegion (writer : Writer) (name : String) : Except Fault Writer :=
  match writer.region with
  | some opened => .error (.nestedRegion opened name)
  | none => .ok { writer.write ("#region " ++ name) with region := some name }

def closeRegion (writer : Writer) : Except Fault Writer :=
  match writer.region with
  | some name => .ok { writer.write ("#endregion " ++ name) with region := none }
  | none => .error .noOpenRegion

/-- The lines of a finished text: every level and every region must be closed. -/
def finish (writer : Writer) : Except Fault (List Line) :=
  match writer.depth, writer.region with
  | 0, none => .ok writer.lines
  | 0, some name => .error (.unclosedRegion name)
  | depth, _ => .error (.unbalancedIndent depth)

end Writer

end VectorForge
