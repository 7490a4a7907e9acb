import VectorForge.Yaml.Token

/-! Documents as trees. The tokens of a well-formed document have exactly one reading;
where a value is missing it is the empty plain scalar. -/

namespace VectorForge.Yaml

inductive Node where
  | scalar (text : String) (isPlain : Bool)
  | sequence (items : List Node)
  | mapping (entries : List (Node × Node))

namespace Node

def empty : Node := .scalar "" true

def isNext (choices tokens : List Token) : Bool := tokens.head?.any (choices.contains ·)

mutual

/-- Reads one node. `inBlock` tells whether blocks can open here, and `bare` whether
a sequence may stand without being indented, as the value of a key. The depth of calls
is bounded by `fuel`. -/
def read (fuel : Nat) (inBlock bare : Bool) (tokens : List Token) : Option (Node × List Token) :=
  match fuel, tokens with
  | 0, _ => none
  | fuel + 1, .blockEntry :: _ => do
    guard bare
    let (items, rest) ← readBare fuel tokens
    return (.sequence items, rest)
  | _, .scalar text isPlain :: rest => some (.scalar text isPlain, rest)
  | fuel + 1, .flowSequenceOpen :: rest => do
    let (items, rest) ← readFlowItems fuel true rest
    return (.sequence items, rest)
  | fuel + 1, .flowMappingOpen :: rest => do
    let (entries, rest) ← readFlowPairs fuel true rest
    return (.mapping entries, rest)
  | fuel + 1, .sequenceOpen :: rest => do
    guard inBlock
    let (items, rest) ← readItems fuel rest
    return (.sequence items, rest)
  | fuel + 1, .mappingOpen :: rest => do
    guard inBlock
    let (entries, rest) ← readPairs fuel rest
    return (.mapping entries, rest)
  | _, _ => none

/-- Reads a node, or takes the empty one if what follows shows that none was written. -/
def readUnless (fuel : Nat) (absent : List Token) (inBlock bare : Bool) (tokens : List Token) :
    Option (Node × List Token) :=
  match fuel with
  | 0 => none
  | fuel + 1 =>
    if isNext absent tokens then some (empty, tokens) else read fuel inBlock bare tokens

/-- The items of a sequence that is a block of its own. -/
def readItems (fuel : Nat) (tokens : List Token) : Option (List Node × List Token) :=
  match fuel, tokens with
  | fuel + 1, .blockEntry :: rest => do
    let (item, rest) ← readUnless fuel [.blockEntry, .blockClose] true false rest
    let (items, rest) ← readItems fuel rest
    return (item :: items, rest)
  | _, .blockClose :: rest => some ([], rest)
  | _, _ => none

/-- The items of a sequence that shares the block of its key. -/
def readBare (fuel : Nat) (tokens : List Token) : Option (List Node × List Token) :=
  match fuel, tokens with
  | 0, _ => none
  | fuel + 1, .blockEntry :: rest => do
    let (item, rest) ← readUnless fuel [.blockEntry, .key, .value, .blockClose] true false rest
    let (items, rest) ← readBare fuel rest
    return (item :: items, rest)
  | _, tokens => some ([], tokens)

def readPairs (fuel : Nat) (tokens : List Token) : Option (List (Node × Node) × List Token) :=
  match fuel, tokens with
  | fuel + 1, .key :: rest => do
    let (key, rest) ← readUnless fuel [.key, .value, .blockClose] true true rest
    let (value, rest) ← match rest with
      | .value :: rest => readUnless fuel [.key, .value, .blockClose] true true rest
      | rest => some (empty, rest)
    let (entries, rest) ← readPairs fuel rest
    return ((key, value) :: entries, rest)
  | _, .blockClose :: rest => some ([], rest)
  | _, _ => none

/-- The items of a sequence in brackets. An item with a key is a mapping of one entry. -/
def readFlowItems (fuel : Nat) (isFirst : Bool) (tokens : List Token) :
    Option (List Node × List Token) :=
  match fuel with
  | 0 => none
  | fuel + 1 =>
    match tokens with
    | .flowSequenceClose :: rest => some ([], rest)
    | tokens => do
      let tokens ← match isFirst, tokens with
        | true, tokens => some tokens
        | false, .flowEntry :: rest => some rest
        | false, _ => none
      match tokens with
      | .flowSequenceClose :: rest => return ([], rest)
      | .key :: rest =>
        let (key, rest) ←
          if isNext [.value, .flowEntry, .flowSequenceClose] rest then some (empty, rest.drop 1)
          else read fuel false false rest
        let (value, rest) ← match rest with
          | .value :: rest => readUnless fuel [.flowEntry, .flowSequenceClose] false false rest
          | rest => some (empty, rest)
        let (items, rest) ← readFlowItems fuel false rest
        return (.mapping [(key, value)] :: items, rest)
      | tokens =>
        let (item, rest) ← read fuel false false tokens
        let (items, rest) ← readFlowItems fuel false rest
        return (item :: items, rest)

def readFlowPairs (fuel : Nat) (isFirst : Bool) (tokens : List Token) :
    Option (List (Node × Node) × List Token) :=
  match fuel with
  | 0 => none
  | fuel + 1 =>
    match tokens with
    | .flowMappingClose :: rest => some ([], rest)
    | tokens => do
      let tokens ← match isFirst, tokens with
        | true, tokens => some tokens
        | false, .flowEntry :: rest => some rest
        | false, _ => none
      match tokens with
      | .flowMappingClose :: rest => return ([], rest)
      | .key :: rest =>
        let (key, rest) ← readUnless fuel [.value, .flowEntry, .flowMappingClose] false false rest
        let (value, rest) ← match rest with
          | .value :: rest => readUnless fuel [.flowEntry, .flowMappingClose] false false rest
          | rest => some (empty, rest)
        let (entries, rest) ← readFlowPairs fuel false rest
        return ((key, value) :: entries, rest)
      | tokens =>
        let (key, rest) ← read fuel false false tokens
        let (entries, rest) ← readFlowPairs fuel false rest
        return ((key, empty) :: entries, rest)

end

/-- The content of a document; what was read last and the tokens behind it. -/
def readDocument (fuel : Nat) : List Token → Option (Node × List Token)
  | [] => some (empty, [])
  | .documentStart :: rest =>
    if rest.isEmpty || isNext [.documentStart, .documentEnd] rest then some (empty, rest)
    else read fuel true false rest
  | tokens => read fuel true false tokens

/-- The only document of a text. A text without any content is the empty scalar; a
text with more than one document is refused. -/
def ofText? (text : String) : Option Node := do
  let tokens ← tokens? text
  let (node, rest) ← readDocument (3 * tokens.length + 3) tokens
  guard (rest.all (· == .documentEnd))
  return node

end Node

end VectorForge.Yaml
