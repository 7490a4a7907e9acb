/-! The compression step of BLAKE3: seven rounds that mix a block of sixteen words into
a chaining value of eight. -/

namespace VectorForge.Digest

/-- Eight words that stand for everything hashed so far. -/
abbrev Chain := Vector UInt32 8

/-- Sixteen words: a block of the message or the state while it is mixed. -/
abbrev Block := Vector UInt32 16

/-- The chaining value that a digest starts from. -/
def initial : Chain :=
  #v[0x6A09E667, 0xBB67AE85, 0x3C6EF372, 0xA54FF53A, 0x510E527F, 0x9B05688C, 0x1F83D9AB, 0x5BE0CD19]

def rotateRight (word : UInt32) (count : UInt32) : UInt32 :=
  (word >>> count) ||| (word <<< (32 - count))

/-- Mixes two message words into four words of the state. -/
def quarter (state : Block) (a b c d : Fin 16) (first second : UInt32) : Block :=
  let state := state.set a (state[a] + state[b] + first)
  let state := state.set d (rotateRight (state[d] ^^^ state[a]) 16)
  let state := state.set c (state[c] + state[d])
  let state := state.set b (rotateRight (state[b] ^^^ state[c]) 12)
  let state := state.set a (state[a] + state[b] + second)
  let state := state.set d (rotateRight (state[d] ^^^ state[a]) 8)
  let state := state.set c (state[c] + state[d])
  state.set b (rotateRight (state[b] ^^^ state[c]) 7)

/-- One round: the columns of the state, then its diagonals. -/
def mix (state block : Block) : Block :=
  let state := quarter state 0 4 8 12 block[0] block[1]
  let state := quarter state 1 5 9 13 block[2] block[3]
  let state := quarter state 2 6 10 14 block[4] block[5]
  let state := quarter state 3 7 11 15 block[6] block[7]
  let state := quarter state 0 5 10 15 block[8] block[9]
  let state := quarter state 1 6 11 12 block[10] block[11]
  let state := quarter state 2 7 8 13 block[12] block[13]
  quarter state 3 4 9 14 block[14] block[15]

/-- Where each word of the next round's message comes from. -/
def permutation : Vector (Fin 16) 16 := #v[2, 6, 3, 10, 7, 0, 4, 13, 1, 11, 12, 5, 9, 14, 15, 8]

def permute (block : Block) : Block := permutation.map fun source => block[source]

def rounds : Nat → Block → Block → Block
  | 0, state, _ => state
  | count + 1, state, block => rounds count (mix state block) (permute block)

/-- The chaining value after a block. The counter, the number of message bytes in the
block and the flags say where the block stands. -/
def compress (chain : Chain) (block : Block) (counter : UInt64) (length flags : UInt32) : Chain :=
  let start : Block :=
    #v[chain[0], chain[1], chain[2], chain[3], chain[4], chain[5], chain[6], chain[7],
      initial[0], initial[1], initial[2], initial[3],
      counter.toUInt32, (counter >>> 32).toUInt32, length, flags]
  let state := rounds 7 start block
  #v[state[0] ^^^ state[8], state[1] ^^^ state[9], state[2] ^^^ state[10], state[3] ^^^ state[11],
    state[4] ^^^ state[12], state[5] ^^^ state[13], state[6] ^^^ state[14], state[7] ^^^ state[15]]

end VectorForge.Digest
