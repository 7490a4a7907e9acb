import VectorForge.Options

/-! Written text before it is laid out. A line knows how deep it stands and how many
terminators follow it; only the layout knows what a level and a terminator look like. -/

namespace VectorForge

structure Line where
  depth : Nat
  text : String
  /-- How many line terminators follow the text. -/
  breaks : Nat := 1
  deriving DecidableEq

def repeated (count : Nat) (text : String) : String :=
  String.join (List.replicate count text)

namespace Line

def deepen (levels : Nat) (line : Line) : Line :=
  { line with depth := line.depth + levels }

def render (style : Style) (line : Line) : String :=
  repeated line.depth style.indent ++ line.text ++ repeated line.breaks style.newline

end Line

def Style.layout (style : Style) (lines : List Line) : String :=
  String.join (lines.map (Line.render style))

theorem Style.layout_append (style : Style) (first second : List Line) :
    style.layout (first ++ second) = style.layout first ++ style.layout second := by
  simp [layout]

end VectorForge
