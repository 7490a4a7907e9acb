/-! How a template is read. A doubled brace stands for itself, a name in braces is a
placeholder, and everything else but a brace is literal text. Reading goes on from
left to right and stops at the first brace that is none of these. -/

namespace VectorForge.Template

inductive Token where
  | literal (char : Char)
  | placeholder (name : String)
  /-- Nothing can be read from this byte on; always the last token. -/
  | malformed (position : Nat)
  deriving DecidableEq

/-- The characters a placeholder's name is made of. -/
def isWord (char : Char) : Bool := char.isAlphanum || char == '_'

mutual

/-- Reads literal text that starts at byte `position`. -/
def scanText (position : Nat) : List Char → List Token
  | [] => []
  | '{' :: '{' :: rest => .literal '{' :: scanText (position + 2) rest
  | '}' :: '}' :: rest => .literal '}' :: scanText (position + 2) rest
  | '{' :: rest => scanName position [] rest
  | '}' :: _ => [.malformed position]
  | char :: rest => .literal char :: scanText (position + char.utf8Size) rest

/-- Reads a placeholder whose brace stands at byte `opened`. The name so far is
kept in reverse; its characters take one byte each. -/
def scanName (opened : Nat) (name : List Char) : List Char → List Token
  | [] => [.malformed opened]
  | '}' :: rest =>
    if name.isEmpty then [.malformed opened]
    else .placeholder (String.ofList name.reverse) :: scanText (opened + name.length + 2) rest
  | char :: rest =>
    if isWord char then scanName opened (char :: name) rest else [.malformed opened]

end

/-- The tokens of a template, up to its end or to the first malformed place. -/
def scan (template : String) : List Token := scanText 0 template.toList

/-- The template that stands for a text: every brace is doubled. -/
def escape (text : String) : String :=
  String.ofList (text.toList.flatMap fun char =>
    if char == '{' || char == '}' then [char, char] else [char])

end VectorForge.Template
