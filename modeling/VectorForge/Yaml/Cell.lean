/-! The characters of a document with their places. Carriage return, line feed, both
together and the next-line character all become one line feed here, so that what
follows knows a single ordinary line break. -/

namespace VectorForge.Yaml

structure Cell where
  char : Char
  line : Nat
  column : Nat
  /-- How many bytes of its line stand before it. -/
  offset : Nat

/-- The line separators that are kept as they are when lines are folded. -/
def isSeparator (char : Char) : Bool := char == '\u2028' || char == '\u2029'

def Cell.isBreak (cell : Cell) : Bool := cell.char == '\n' || isSeparator cell.char

def Cell.isBlank (cell : Cell) : Bool := cell.char == ' ' || cell.char == '\t'

/-- A byte order mark at the start of a line, which stands for nothing there. It takes up
a column like any other character. -/
def Cell.isLineMark (cell : Cell) : Bool := cell.char == '\uFEFF' && cell.column == 0

/-- Whether a token that needs an end behind it may end here: before white space or at
the end of the text. -/
def endsAt : List Cell → Bool
  | [] => true
  | cell :: _ => cell.isBlank || cell.isBreak

def isAllowed (char : Char) : Bool :=
  let code := char.toNat
  code == 0x9 || code == 0xA || code == 0xD || (0x20 ≤ code && code ≤ 0x7E) || code == 0x85
    || (0xA0 ≤ code && code ≤ 0xD7FF) || (0xE000 ≤ code && code ≤ 0xFFFD) || 0x10000 ≤ code

def cellsFrom (line column offset : Nat) : List Char → List Cell
  | [] => []
  | '\r' :: '\n' :: rest => ⟨'\n', line, column, offset⟩ :: cellsFrom (line + 1) 0 0 rest
  | char :: rest =>
    if char == '\n' || char == '\r' || char == '\u0085' then
      ⟨'\n', line, column, offset⟩ :: cellsFrom (line + 1) 0 0 rest
    else if isSeparator char then
      ⟨char, line, column, offset⟩ :: cellsFrom (line + 1) 0 0 rest
    else ⟨char, line, column, offset⟩ :: cellsFrom line (column + 1) (offset + char.utf8Size) rest

def cells? (document : String) : Option (List Cell) :=
  let chars := document.toList
  if chars.all isAllowed then some (cellsFrom 0 0 0 chars) else none

/-- Whether a line starts here with three times this character and nothing right behind
them, which separates documents. -/
def isDivider (mark : Char) : List Cell → Bool
  | first :: second :: third :: rest =>
    first.column == 0 && first.char == mark && second.char == mark && third.char == mark
      && endsAt rest
  | _ => false

end VectorForge.Yaml
