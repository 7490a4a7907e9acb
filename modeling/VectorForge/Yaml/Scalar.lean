import VectorForge.Yaml.Cell

/-! Scalars: plain ones and quoted ones, over one or more lines. A line break inside a
scalar is folded to a space, and blank lines after it to as many line breaks. -/

namespace VectorForge.Yaml

/-- White space inside a scalar: the blanks before the first line break, and the breaks. -/
structure Gap where
  blanks : List Char := []
  breaks : List Char := []
  rest : List Cell

/-- Reads white space. Once a break was met, blanks no longer count; a tab among them
may then not stand left of column `margin`. -/
def readGap (margin : Nat) (broken : Bool) : List Cell → Option Gap
  | [] => some { rest := [] }
  | cell :: rest =>
    if cell.isBlank then
      if broken then
        if cell.char == '\t' && cell.column < margin then none else readGap margin true rest
      else do
        let gap ← readGap margin false rest
        return { gap with blanks := cell.char :: gap.blanks }
    else if cell.isBreak then do
      let gap ← readGap margin true rest
      return { gap with blanks := [], breaks := cell.char :: gap.breaks }
    else some { rest := cell :: rest }

def Gap.folded (gap : Gap) : List Char :=
  match gap.breaks with
  | [] => gap.blanks
  | ['\n'] => [' ']
  | '\n' :: more => more
  | breaks => breaks

/-- The part of a plain scalar up to the next white space or indicator. Inside brackets
more characters end it, and a colon right before one of them is an error. -/
def plainPart (inFlow : Bool) : List Cell → Option (List Char × List Cell)
  | [] => some ([], [])
  | cell :: rest =>
    let next := (rest.head?.map Cell.char).getD ' '
    if cell.isBlank || cell.isBreak then some ([], cell :: rest)
    else if inFlow && cell.char == ':' && ",?[]\x7b\x7d".toList.contains next then none
    else if cell.char == ':' && endsAt rest then some ([], cell :: rest)
    else if inFlow && ",[]\x7b\x7d".toList.contains cell.char then some ([], cell :: rest)
    else do
      let (chars, rest) ← plainPart inFlow rest
      return (cell.char :: chars, rest)

/-- A scalar that was read: its text, whether the white space behind it has a line
break, and what follows. -/
structure Reading where
  chars : List Char
  broken : Bool
  rest : List Cell

/-- Reads a plain scalar. `pending` is the white space since its last part. Each part
takes at least one character, so `fuel` characters are enough. -/
def plainFrom (inFlow : Bool) (margin : Nat) : (fuel : Nat) → (pending : List Char) →
    (broken : Bool) → List Cell → Option Reading
  | 0, _, broken, cells => some ⟨[], broken, cells⟩
  | fuel + 1, pending, broken, cells => do
    if isDivider '-' cells || isDivider '.' cells || (cells.head?.map Cell.char) == some '#' then
      return ⟨[], broken, cells⟩
    let (part, rest) ← plainPart inFlow cells
    if part.isEmpty then
      return ⟨[], broken, rest⟩
    let gap ← readGap margin false rest
    let gapBroken := !gap.breaks.isEmpty
    let outdented := match gap.rest with
      | cell :: _ => !inFlow && cell.column < margin
      | [] => true
    if (gap.blanks.isEmpty && !gapBroken) || outdented then
      return ⟨pending ++ part, gapBroken, gap.rest⟩
    let more ← plainFrom inFlow margin fuel gap.folded gapBroken gap.rest
    return { more with chars := pending ++ part ++ more.chars }

def plain? (inFlow : Bool) (margin : Nat) (cells : List Cell) : Option Reading :=
  plainFrom inFlow margin (cells.length + 1) [] false cells

def hexValue? (char : Char) : Option Nat :=
  if char.isDigit then some (char.toNat - 48)
  else if 'a' ≤ char && char ≤ 'f' then some (char.toNat - 87)
  else if 'A' ≤ char && char ≤ 'F' then some (char.toNat - 55)
  else none

/-- The character with the code point that `digits` cells write in hexadecimal. -/
def codePoint? (digits : Nat) (cells : List Cell) : Option Char := do
  let written := cells.take digits
  guard (written.length = digits)
  let values ← written.mapM fun cell => hexValue? cell.char
  let code := values.foldl (fun total value => 16 * total + value) 0
  if code.isValidChar then some (Char.ofNat code) else none

def shortEscape? : Char → Option Char
  | '0' => some '\x00'
  | 'a' => some '\x07'
  | 'b' => some '\x08'
  | 't' | '\t' => some '\t'
  | 'n' => some '\n'
  | 'v' => some '\x0B'
  | 'f' => some '\x0C'
  | 'r' => some '\r'
  | 'e' => some '\x1B'
  | ' ' => some ' '
  | '"' => some '"'
  | '/' => some '/'
  | '\\' => some '\\'
  | 'N' => some '\u0085'
  | '_' => some '\u00A0'
  | 'L' => some '\u2028'
  | 'P' => some '\u2029'
  | _ => none

def escapeDigits? : Char → Option Nat
  | 'x' => some 2
  | 'u' => some 4
  | 'U' => some 8
  | _ => none

/-- The part of a quoted scalar up to white space, to its closing quote or to an escaped
line break; the flag tells whether it ended with the last of these. -/
def quotedPart (quote : Char) : List Cell → Option (List Char × Bool × List Cell)
  | [] => some ([], false, [])
  | cell :: rest =>
    if cell.isBlank || cell.isBreak then some ([], false, cell :: rest)
    else if cell.char == quote then
      match rest with
      | second :: after =>
        if quote == '\'' && second.char == quote then do
          let (chars, escaped, rest) ← quotedPart quote after
          return (quote :: chars, escaped, rest)
        else some ([], false, cell :: rest)
      | [] => some ([], false, cell :: rest)
    else if quote == '"' && cell.char == '\\' then
      match rest with
      | [] => none
      | letter :: after =>
        if letter.isBreak then some ([], true, after)
        else
          match shortEscape? letter.char, escapeDigits? letter.char with
          | some char, _ => do
            let (chars, escaped, rest) ← quotedPart quote after
            return (char :: chars, escaped, rest)
          | none, some digits => do
            let char ← codePoint? digits after
            let (chars, escaped, rest) ← quotedPart quote (after.drop digits)
            return (char :: chars, escaped, rest)
          | none, none => none
    else do
      let (chars, escaped, rest) ← quotedPart quote rest
      return (cell.char :: chars, escaped, rest)
termination_by cells => cells.length
decreasing_by
  all_goals simp only [List.length_cons, List.length_drop]
  all_goals omega

/-- Reads a quoted scalar behind its opening quote. Each round takes at least one
character, so `fuel` characters are enough. -/
def quotedFrom (quote : Char) : (fuel : Nat) → List Cell → Option Reading
  | 0, _ => none
  | fuel + 1, cells => do
    if isDivider '-' cells || isDivider '.' cells then none
    let (part, escaped, rest) ← quotedPart quote cells
    match rest with
    | [] => none
    | cell :: after =>
      if cell.char == quote then return ⟨part, false, after⟩
      let gap ← readGap 0 escaped rest
      let joined := if escaped then gap.breaks else gap.folded
      let more ← quotedFrom quote fuel gap.rest
      return { more with chars := part ++ joined ++ more.chars }

def quoted? : List Cell → Option Reading
  | [] => none
  | cell :: rest => quotedFrom cell.char (rest.length + 1) rest

end VectorForge.Yaml
