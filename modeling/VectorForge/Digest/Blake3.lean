import VectorForge.Digest.Compression

/-! BLAKE3 in its plain mode. The bytes are cut into chunks of 1024, each chunk into
blocks of 64, and the chunks are joined in a binary tree whose left part is always a
full one. -/

namespace VectorForge.Digest

def chunkStart : UInt32 := 1
def chunkEnd : UInt32 := 2
def parent : UInt32 := 4
def root : UInt32 := 8

def chunkSize : Nat := 1024
def blockSize : Nat := 64

def byteAt (bytes : ByteArray) (index : Nat) : UInt8 :=
  if inside : index < bytes.size then bytes[index] else 0

/-- Four bytes as a word, the lowest first. Bytes from `limit` on count as zero. -/
def wordAt (bytes : ByteArray) (limit start : Nat) : UInt32 :=
  let byte (offset : Nat) : UInt32 :=
    if start + offset < limit then (byteAt bytes (start + offset)).toUInt32 else 0
  byte 0 ||| (byte 1 <<< 8) ||| (byte 2 <<< 16) ||| (byte 3 <<< 24)

def blockAt (bytes : ByteArray) (limit start : Nat) : Block :=
  Vector.ofFn fun index => wordAt bytes limit (start + 4 * index.val)

/-- A compression not yet carried out: the last one of a tree is done differently. -/
structure Node where
  chain : Chain
  block : Block
  counter : UInt64
  length : UInt32
  flags : UInt32

def Node.chainingValue (node : Node) : Chain :=
  compress node.chain node.block node.counter node.length node.flags

def Node.rootValue (node : Node) : Chain :=
  compress node.chain node.block 0 node.length (node.flags ||| root)

/-- The node of a chunk: its last block, after all earlier ones have been mixed in.
`rest` bytes of the chunk are left from `start` on. -/
def chunkFrom (bytes : ByteArray) (counter : UInt64) (flags : UInt32) (chain : Chain)
    (start rest : Nat) : Node :=
  if rest ≤ blockSize then
    ⟨chain, blockAt bytes (start + rest) start, counter, rest.toUInt32, flags ||| chunkEnd⟩
  else
    let block := blockAt bytes (start + blockSize) start
    let next := compress chain block counter blockSize.toUInt32 flags
    chunkFrom bytes counter 0 next (start + blockSize) (rest - blockSize)
termination_by rest
decreasing_by
  simp only [blockSize] at *
  omega

def join (left right : Chain) : Node :=
  ⟨initial, left ++ right, 0, blockSize.toUInt32, parent⟩

/-- How many bytes go to the left subtree: the most whole chunks, in a power of two,
that leave something for the right. -/
def leftSize (size : Nat) : Nat := chunkSize <<< ((size - 1) / chunkSize).log2

theorem leftSize_eq (size : Nat) :
    leftSize size = chunkSize * Nat.pow 2 ((size - 1) / chunkSize).log2 :=
  Nat.shiftLeft_eq _ _

theorem leftSize_pos (size : Nat) : 0 < leftSize size := by
  rw [leftSize_eq]
  exact Nat.mul_pos (by decide) (Nat.two_pow_pos _)

theorem leftSize_lt {size : Nat} (large : chunkSize < size) : leftSize size < size := by
  have chunks : (size - 1) / chunkSize ≠ 0 := by
    simp only [chunkSize] at *
    omega
  have power : Nat.pow 2 ((size - 1) / chunkSize).log2 ≤ (size - 1) / chunkSize :=
    Nat.log2_self_le chunks
  have whole := Nat.mul_le_mul_left chunkSize power
  have bound := Nat.mul_div_le (size - 1) chunkSize
  rw [leftSize_eq]
  simp only [chunkSize] at *
  omega

/-- The node of the `size` bytes from `start` on. -/
def subtree (bytes : ByteArray) (start size : Nat) : Node :=
  if _large : chunkSize < size then
    join (subtree bytes start (leftSize size)).chainingValue
      (subtree bytes (start + leftSize size) (size - leftSize size)).chainingValue
  else chunkFrom bytes (start / chunkSize).toUInt64 chunkStart initial start size
termination_by size
decreasing_by
  · exact leftSize_lt _large
  · have positive := leftSize_pos size
    have smaller := leftSize_lt _large
    omega

def hexDigit (value : Nat) : Char :=
  if value < 10 then Char.ofNat (48 + value) else Char.ofNat (87 + value)

/-- The eight hexadecimal digits of a word, its lowest byte first. -/
def hexWord (word : UInt32) : List Char :=
  [0, 8, 16, 24].flatMap fun shift =>
    let byte := (word.toNat >>> shift) % 256
    [hexDigit (byte / 16), hexDigit (byte % 16)]

/-- The digest of some bytes in lowercase hexadecimal. -/
def blake3 (bytes : ByteArray) : String :=
  String.ofList ((subtree bytes 0 bytes.size).rootValue.toList.flatMap hexWord)

end VectorForge.Digest
