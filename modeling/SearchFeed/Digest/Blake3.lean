/-! # BLAKE3 digests

The unkeyed hash with a result of 32 bytes. The input is cut into chunks,
every chunk into blocks, and the chaining values of the chunks are joined in a
binary tree whose left halves are as large as a power of two allows.
-/

namespace SearchFeed

/-- A digest of 32 bytes. -/
structure Digest where
  bytes : List UInt8
deriving DecidableEq, Repr

namespace Digest

/-- The two lower-case hexadecimal digits of a byte. -/
def byteHex (b : UInt8) : List Char :=
  let digit (n : Nat) : Char := "0123456789abcdef".toList.getD n '0'
  [digit (b.toNat / 16), digit (b.toNat % 16)]

/-- The digest in hexadecimal. -/
def hex (digest : Digest) : String := String.ofList (digest.bytes.flatMap byteHex)

end Digest

namespace Blake3

/-- The initial chaining value. -/
def startValue : List UInt32 :=
  [0x6A09E667, 0xBB67AE85, 0x3C6EF372, 0xA54FF53A, 0x510E527F, 0x9B05688C, 0x1F83D9AB, 0x5BE0CD19]

/-- Where each message word of the next round comes from. -/
def wordOrder : List Nat := [2, 6, 3, 10, 7, 0, 4, 13, 1, 11, 12, 5, 9, 14, 15, 8]

/-- Marks the first block of a chunk. -/
def chunkStart : UInt32 := 1

/-- Marks the last block of a chunk. -/
def chunkEnd : UInt32 := 2

/-- Marks a node that joins two chaining values. -/
def parent : UInt32 := 4

/-- Marks the last compression of all. -/
def root : UInt32 := 8

/-- The number of bytes in a block. -/
def blockSize : Nat := 64

/-- The number of bytes in a chunk. -/
def chunkSize : Nat := 1024

/-- Turns a word to the right. -/
def rotateRight (word count : UInt32) : UInt32 := (word >>> count) ||| (word <<< (32 - count))

/-- Mixes two message words into four words of the state. -/
def mix (state : Array UInt32) (a b c d : Nat) (x y : UInt32) : Array UInt32 :=
  let word (i : Nat) : UInt32 := state.getD i 0
  let va := word a + word b + x
  let vd := rotateRight (word d ^^^ va) 16
  let vc := word c + vd
  let vb := rotateRight (word b ^^^ vc) 12
  let va := va + vb + y
  let vd := rotateRight (vd ^^^ va) 8
  let vc := vc + vd
  let vb := rotateRight (vb ^^^ vc) 7
  (((state.setIfInBounds a va).setIfInBounds b vb).setIfInBounds c vc).setIfInBounds d vd

/-- One round: the columns of the state first, the diagonals afterwards. -/
def round (state words : Array UInt32) : Array UInt32 :=
  let w (i : Nat) : UInt32 := words.getD i 0
  let state := mix state 0 4 8 12 (w 0) (w 1)
  let state := mix state 1 5 9 13 (w 2) (w 3)
  let state := mix state 2 6 10 14 (w 4) (w 5)
  let state := mix state 3 7 11 15 (w 6) (w 7)
  let state := mix state 0 5 10 15 (w 8) (w 9)
  let state := mix state 1 6 11 12 (w 10) (w 11)
  let state := mix state 2 7 8 13 (w 12) (w 13)
  mix state 3 4 9 14 (w 14) (w 15)

/-- The message words in the order of the next round. -/
def reorder (words : Array UInt32) : Array UInt32 :=
  (wordOrder.map fun i => words.getD i 0).toArray

/-- That many rounds, with the message words put into a new order between them. -/
def rounds : Nat → Array UInt32 → Array UInt32 → Array UInt32
  | 0, state, _ => state
  | n + 1, state, words => rounds n (round state words) (reorder words)

/-- What one compression takes in. -/
structure Node where
  chaining : List UInt32
  words : List UInt32
  counter : UInt64
  size : UInt32
  flags : UInt32

namespace Node

/-- The chaining value that a node yields. -/
def compress (node : Node) : List UInt32 :=
  let state : Array UInt32 :=
    (node.chaining ++ startValue.take 4 ++
      [node.counter.toUInt32, (node.counter >>> 32).toUInt32, node.size, node.flags]).toArray
  let final := rounds 7 state node.words.toArray
  (List.range 8).map fun i => final.getD i 0 ^^^ final.getD (i + 8) 0

end Node

/-- The word of four bytes, lowest first. -/
def wordOfBytes (bytes : List UInt8) : UInt32 :=
  bytes.foldr (fun byte word => (word <<< 8) ||| byte.toUInt32) 0

/-- The bytes of a word, lowest first. -/
def bytesOfWord (word : UInt32) : List UInt8 :=
  [word.toUInt8, (word >>> 8).toUInt8, (word >>> 16).toUInt8, (word >>> 24).toUInt8]

/-- The sixteen words of a block, which is filled up with zeros. -/
def blockWords (block : List UInt8) : List UInt32 :=
  let full := block ++ List.replicate (blockSize - block.length) 0
  (List.range 16).map fun i => wordOfBytes ((full.drop (4 * i)).take 4)

/-- The last node of a chunk, the blocks before it being compressed into its chaining value. -/
def chunkNode (counter : UInt64) (chaining : List UInt32) (start : UInt32)
    (bytes : List UInt8) : Node :=
  if blockSize < bytes.length then
    let node : Node := ⟨chaining, blockWords (bytes.take blockSize), counter, 64, start⟩
    chunkNode counter node.compress 0 (bytes.drop blockSize)
  else ⟨chaining, blockWords bytes, counter, bytes.length.toUInt32, start ||| chunkEnd⟩
termination_by bytes.length
decreasing_by simp only [List.length_drop, blockSize] at *; omega

/-- The node that joins two chaining values. -/
def parentNode (left right : List UInt32) : Node := ⟨startValue, left ++ right, 0, 64, parent⟩

/-- The number of bytes in the left half of more than one chunk: the greatest power of two of
chunks that leaves something for the right half. -/
def leftSize (length : Nat) : Nat := chunkSize <<< ((length - 1) / chunkSize).log2

theorem leftSize_pos (length : Nat) : 0 < leftSize length := by
  rw [leftSize, Nat.shiftLeft_eq]
  exact Nat.mul_pos (by decide) (Nat.two_pow_pos _)

theorem leftSize_lt {length : Nat} (h : chunkSize < length) : leftSize length < length := by
  have positive : (length - 1) / chunkSize ≠ 0 := by
    simp only [chunkSize] at *
    omega
  have product := Nat.mul_le_mul_left chunkSize (Nat.log2_self_le positive)
  have whole := Nat.mul_div_le (length - 1) chunkSize
  rw [leftSize, Nat.shiftLeft_eq]
  omega

/-- The topmost node over the bytes whose first chunk has this number. -/
def topNode (bytes : List UInt8) (counter : Nat) : Node :=
  if chunkSize < bytes.length then
    let size := leftSize bytes.length
    parentNode (topNode (bytes.take size) counter).compress
      (topNode (bytes.drop size) (counter + size / chunkSize)).compress
  else chunkNode counter.toUInt64 startValue chunkStart bytes
termination_by bytes.length
decreasing_by
  all_goals
    have shorter : leftSize bytes.length < bytes.length := leftSize_lt (by assumption)
    have positive := leftSize_pos bytes.length
    simp only [List.length_take, List.length_drop]
    omega

/-- The digest of a sequence of bytes. -/
def hash (bytes : List UInt8) : Digest :=
  let top := topNode bytes 0
  ⟨({ top with flags := top.flags ||| root }.compress).flatMap bytesOfWord⟩

end Blake3

end SearchFeed
