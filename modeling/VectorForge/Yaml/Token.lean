import VectorForge.Yaml.Scalar

/-! Tokens of a document. Indentation becomes explicit: a token opens a block and another
one closes it. Whether a token is the key of a mapping shows only at the colon behind
it, so places where a key may begin are remembered until then. -/

namespace VectorForge.Yaml

inductive Token where
  | documentStart
  | documentEnd
  | sequenceOpen
  | mappingOpen
  | blockClose
  | flowSequenceOpen
  | flowSequenceClose
  | flowMappingOpen
  | flowMappingClose
  | blockEntry
  | flowEntry
  | key
  | value
  | scalar (text : String) (isPlain : Bool)
  deriving DecidableEq

/-- A place where a key may have begun. -/
structure Candidate where
  position : Nat
  line : Nat
  column : Nat
  /-- How many bytes of its line stand before it. -/
  offset : Nat
  /-- In a block nothing else can stand here. -/
  isRequired : Bool

structure Scanner where
  rest : List Cell
  tokens : Array Token := #[]
  /-- The columns of the open blocks, the innermost first. -/
  blocks : List Nat := []
  /-- The candidates of the enclosing levels, one for each open bracket. -/
  outer : List (Option Candidate) := []
  candidate : Option Candidate := none
  keyAllowed : Bool := true

namespace Scanner

def inFlow (scanner : Scanner) : Bool := !scanner.outer.isEmpty

def push (scanner : Scanner) (token : Token) : Scanner :=
  { scanner with tokens := scanner.tokens.push token }

/-- The least column that continues a scalar of the innermost block. -/
def margin (scanner : Scanner) : Nat :=
  match scanner.blocks with
  | [] => 0
  | column :: _ => column + 1

/-- Skips white space, comments and byte order marks. At the start of a line in a block
a tab is not white space, and every new line there may begin a key. -/
def skipGap (inFlow : Bool) : (keyAllowed inComment : Bool) → List Cell → Bool × List Cell
  | keyAllowed, _, [] => (keyAllowed, [])
  | keyAllowed, inComment, cell :: rest =>
    if cell.isLineMark then skipGap inFlow keyAllowed false rest
    else if cell.isBreak then skipGap inFlow (keyAllowed || !inFlow) false rest
    else if inComment || cell.char == '#' then skipGap inFlow keyAllowed true rest
    else if cell.char == ' ' || (cell.char == '\t' && (inFlow || !keyAllowed)) then
      skipGap inFlow keyAllowed false rest
    else (keyAllowed, cell :: rest)

def longestKey : Nat := 1024

/-- A candidate seen from a later cell: a key stands on one line and is not too long.
Fails if the key was required. -/
def Candidate.refresh (cell : Cell) (candidate : Option Candidate) : Option (Option Candidate) :=
  match candidate with
  | some place =>
    if place.line < cell.line || place.offset + longestKey < cell.offset then
      if place.isRequired then none else some none
    else some candidate
  | none => some none

def refresh (scanner : Scanner) (cell : Cell) : Option Scanner := do
  let candidate ← Candidate.refresh cell scanner.candidate
  let outer ← scanner.outer.mapM (Candidate.refresh cell)
  return { scanner with candidate, outer }

def dropCandidate (scanner : Scanner) : Option Scanner :=
  match scanner.candidate with
  | some place => if place.isRequired then none else some { scanner with candidate := none }
  | none => some scanner

def saveCandidate (scanner : Scanner) (cell : Cell) : Option Scanner :=
  if scanner.keyAllowed then do
    let scanner ← scanner.dropCandidate
    let isRequired := !scanner.inFlow && scanner.blocks.head? == some cell.column
    return { scanner with
      candidate := some ⟨scanner.tokens.size, cell.line, cell.column, cell.offset, isRequired⟩ }
  else some scanner

/-- Closes the blocks for which `isInner` holds, from the innermost one on. -/
def closeBlocks (isInner : Nat → Bool) (tokens : Array Token) : List Nat → Array Token × List Nat
  | [] => (tokens, [])
  | column :: outer =>
    if isInner column then closeBlocks isInner (tokens.push .blockClose) outer
    else (tokens, column :: outer)

def outdent (scanner : Scanner) (column : Nat) : Scanner :=
  if scanner.inFlow then scanner
  else
    let (tokens, blocks) := closeBlocks (column < ·) scanner.tokens scanner.blocks
    { scanner with tokens, blocks }

def outdentAll (scanner : Scanner) : Scanner :=
  if scanner.inFlow then scanner
  else
    let (tokens, blocks) := closeBlocks (fun _ => true) scanner.tokens scanner.blocks
    { scanner with tokens, blocks }

/-- Opens a block at a column that lies right of the innermost one. Its token goes in
front of the token at `position`. -/
def openBlock (scanner : Scanner) (column position : Nat) (token : Token) : Scanner :=
  if !scanner.inFlow && scanner.blocks.head?.all (· < column) then
    { scanner with
      blocks := column :: scanner.blocks
      tokens := scanner.tokens.insertIdxIfInBounds position token }
  else scanner

/-- A separator of documents, three characters long. -/
def readDivider (scanner : Scanner) (token : Token) : Option Scanner := do
  let scanner ← scanner.outdentAll.dropCandidate
  return { scanner.push token with rest := scanner.rest.drop 3, keyAllowed := false }

def openBracket (scanner : Scanner) (cell : Cell) (rest : List Cell) (token : Token) :
    Option Scanner := do
  let scanner ← scanner.saveCandidate cell
  return { scanner.push token with
    rest, outer := scanner.candidate :: scanner.outer, candidate := none, keyAllowed := true }

def closeBracket (scanner : Scanner) (rest : List Cell) (token : Token) : Option Scanner := do
  let scanner ← scanner.dropCandidate
  let scanner := match scanner.outer with
    | candidate :: outer => { scanner with candidate, outer }
    | [] => scanner
  return { scanner.push token with rest, keyAllowed := false }

def readFlowEntry (scanner : Scanner) (rest : List Cell) : Option Scanner := do
  let scanner ← scanner.dropCandidate
  return { scanner.push .flowEntry with rest, keyAllowed := true }

def readBlockEntry (scanner : Scanner) (cell : Cell) (rest : List Cell) : Option Scanner := do
  guard (scanner.inFlow || scanner.keyAllowed)
  let scanner := scanner.openBlock cell.column scanner.tokens.size .sequenceOpen
  let scanner ← scanner.dropCandidate
  return { scanner.push .blockEntry with rest, keyAllowed := true }

def readKey (scanner : Scanner) (cell : Cell) (rest : List Cell) : Option Scanner := do
  guard (scanner.inFlow || scanner.keyAllowed)
  let scanner := scanner.openBlock cell.column scanner.tokens.size .mappingOpen
  let scanner ← scanner.dropCandidate
  return { scanner.push .key with rest, keyAllowed := !scanner.inFlow }

/-- A colon. The candidate of this level, if any, turns out to be its key. -/
def readValue (scanner : Scanner) (cell : Cell) (rest : List Cell) : Option Scanner :=
  match scanner.candidate with
  | some place =>
    let scanner := { scanner with
      tokens := scanner.tokens.insertIdxIfInBounds place.position .key, candidate := none }
    let scanner := scanner.openBlock place.column place.position .mappingOpen
    some { scanner.push .value with rest, keyAllowed := false }
  | none => do
    guard (scanner.inFlow || scanner.keyAllowed)
    let scanner := scanner.openBlock cell.column scanner.tokens.size .mappingOpen
    return { scanner.push .value with rest, keyAllowed := !scanner.inFlow }

def readQuoted (scanner : Scanner) (cell : Cell) : Option Scanner := do
  let scanner ← scanner.saveCandidate cell
  let reading ← quoted? scanner.rest
  return { scanner.push (.scalar (String.ofList reading.chars) false) with
    rest := reading.rest, keyAllowed := false }

def readPlain (scanner : Scanner) (cell : Cell) : Option Scanner := do
  let scanner ← scanner.saveCandidate cell
  let reading ← plain? scanner.inFlow scanner.margin scanner.rest
  return { scanner.push (.scalar (String.ofList reading.chars) true) with
    rest := reading.rest, keyAllowed := reading.broken }

def startsPlain (inFlow : Bool) (char : Char) (rest : List Cell) : Bool :=
  if char == '-' then !(rest.head?.any Cell.isBlank)
  else if char == '?' || char == ':' then !inFlow && !endsAt rest
  else char != '\t' && !(",[]\x7b\x7d#&*!|>'\"%@`".toList.contains char)

/-- Reads the token at the front. White space has been skipped before. -/
def readToken (scanner : Scanner) (cell : Cell) (rest : List Cell) : Option Scanner :=
  if cell.column == 0 && cell.char == '%' then none
  else if isDivider '-' scanner.rest then scanner.readDivider .documentStart
  else if isDivider '.' scanner.rest then scanner.readDivider .documentEnd
  else if cell.char == '[' then scanner.openBracket cell rest .flowSequenceOpen
  else if cell.char == '\x7b' then scanner.openBracket cell rest .flowMappingOpen
  else if cell.char == ']' then scanner.closeBracket rest .flowSequenceClose
  else if cell.char == '\x7d' then scanner.closeBracket rest .flowMappingClose
  else if cell.char == ',' then scanner.readFlowEntry rest
  else if cell.char == '-' && endsAt rest then scanner.readBlockEntry cell rest
  else if cell.char == '?' && (scanner.inFlow || endsAt rest) then scanner.readKey cell rest
  else if cell.char == ':' && (scanner.inFlow || endsAt rest) then scanner.readValue cell rest
  else if cell.char == '\'' || cell.char == '"' then scanner.readQuoted cell
  else if startsPlain scanner.inFlow cell.char rest then scanner.readPlain cell
  else none

/-- Reads all tokens. Each one takes at least one character, so `fuel` characters are
enough. -/
def tokensFrom : (fuel : Nat) → Scanner → Option (List Token)
  | 0, _ => none
  | fuel + 1, scanner =>
    let (keyAllowed, rest) := skipGap scanner.inFlow scanner.keyAllowed false scanner.rest
    let scanner := { scanner with keyAllowed, rest }
    match rest with
    | [] => do
      let scanner ← scanner.outdentAll.dropCandidate
      return scanner.tokens.toList
    | cell :: after => do
      let scanner ← scanner.refresh cell
      let scanner ← (scanner.outdent cell.column).readToken cell after
      tokensFrom fuel scanner

end Scanner

/-- The tokens of a document, or nothing where a character cannot be read. -/
def tokens? (document : String) : Option (List Token) := do
  let cells ← cells? document
  Scanner.tokensFrom (cells.length + 1) { rest := cells }

end VectorForge.Yaml
