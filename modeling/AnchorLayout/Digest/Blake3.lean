/-!
# BLAKE3

The hash of a sequence of bytes to 256 bits. The input is cut into chunks of 1024 bytes, the chunks
into blocks of 64 bytes; a chunk chains its blocks through the compression function, and the chunks
are the leaves of a binary tree in which the left half of a node is the largest whole power of two
of chunks that leaves something to the right.
-/

namespace AnchorLayout.Blake3

/-- Eight words that one compression hands to the next. -/
abbrev Chaining := Vector UInt32 8

/-- Sixteen words: a block of the input, or the state of a compression. -/
abbrev Words := Vector UInt32 16

/-- The initial chaining value. -/
def initial : Chaining :=
  #v[0x6A09E667, 0xBB67AE85, 0x3C6EF372, 0xA54FF53A, 0x510E527F, 0x9B05688C, 0x1F83D9AB, 0x5BE0CD19]

def chunkStart : UInt32 := 1
def chunkEnd : UInt32 := 2
def parentNode : UInt32 := 4
def rootNode : UInt32 := 8

/-- Rotates a word to the right by fewer than 32 places. -/
def rotate (x : UInt32) (n : UInt32) : UInt32 := (x >>> n) ||| (x <<< (32 - n))

/-- Mixes two words of the input into four words of the state. -/
def mix (v : Words) (a b c d : Fin 16) (x y : UInt32) : Words :=
  let va := v[a] + v[b] + x
  let vd := rotate (v[d] ^^^ va) 16
  let vc := v[c] + vd
  let vb := rotate (v[b] ^^^ vc) 12
  let va := va + vb + y
  let vd := rotate (vd ^^^ va) 8
  let vc := vc + vd
  let vb := rotate (vb ^^^ vc) 7
  (((v.set a va).set b vb).set c vc).set d vd

/-- One round: the four columns, then the four diagonals. -/
def round (v m : Words) : Words :=
  let v := mix v 0 4 8 12 m[0] m[1]
  let v := mix v 1 5 9 13 m[2] m[3]
  let v := mix v 2 6 10 14 m[4] m[5]
  let v := mix v 3 7 11 15 m[6] m[7]
  let v := mix v 0 5 10 15 m[8] m[9]
  let v := mix v 1 6 11 12 m[10] m[11]
  let v := mix v 2 7 8 13 m[12] m[13]
  mix v 3 4 9 14 m[14] m[15]

/-- The order in which the next round reads the words of the input. -/
def permute (m : Words) : Words :=
  #v[m[2], m[6], m[3], m[10], m[7], m[0], m[4], m[13],
    m[1], m[11], m[12], m[5], m[9], m[14], m[15], m[8]]

/-- Some more rounds. -/
def rounds : Nat → Words → Words → Words
  | 0, v, _ => v
  | n + 1, v, m => rounds n (round v m) (permute m)

/-- A compression that is still to be done; its flags depend on where it stands in the tree. -/
structure Node where
  chaining : Chaining
  block : Words
  counter : UInt64
  length : UInt32
  flags : UInt32

namespace Node

/-- The chaining value of a node, with additional flags. -/
def compress (n : Node) (flags : UInt32) : Chaining :=
  let h := n.chaining
  let start : Words :=
    #v[h[0], h[1], h[2], h[3], h[4], h[5], h[6], h[7],
      initial[0], initial[1], initial[2], initial[3],
      n.counter.toUInt32, (n.counter >>> 32).toUInt32, n.length, n.flags ||| flags]
  let v := rounds 7 start n.block
  #v[v[0] ^^^ v[8], v[1] ^^^ v[9], v[2] ^^^ v[10], v[3] ^^^ v[11],
    v[4] ^^^ v[12], v[5] ^^^ v[13], v[6] ^^^ v[14], v[7] ^^^ v[15]]

end Node

/-- The word at a place of a block, the first byte lowest; bytes beyond the end are zero. -/
def wordAt (bytes : List UInt8) (i : Nat) : UInt32 :=
  let byte (k : Nat) : UInt32 := (bytes[4 * i + k]?.getD 0).toUInt32
  byte 0 ||| (byte 1 <<< 8) ||| (byte 2 <<< 16) ||| (byte 3 <<< 24)

/-- The words of a block. -/
def words (bytes : List UInt8) : Words := Vector.ofFn fun i => wordAt bytes i

/-- The last block of a chunk, after the compression of all blocks before it. -/
def chunkNode (counter : Nat) (chaining : Chaining) (flags : UInt32) (bytes : List UInt8) : Node :=
  let block := bytes.take 64
  let node : Node :=
    { chaining, block := words block, counter := .ofNat counter, length := .ofNat block.length, flags }
  if _h : bytes.length ≤ 64 then { node with flags := flags ||| chunkEnd }
  else chunkNode counter (node.compress 0) 0 (bytes.drop 64)
termination_by bytes.length
decreasing_by simp only [List.length_drop]; omega

/-- The node above two subtrees. -/
def parent (left right : Chaining) : Node where
  chaining := initial
  block := left ++ right
  counter := 0
  length := 64
  flags := parentNode

/-- The number of bytes of the left subtree, for an input of more than one chunk. -/
def leftLength (length : Nat) : Nat := 1024 <<< Nat.log2 ((length - 1) / 1024)

theorem leftLength_pos (length : Nat) : 0 < leftLength length := by
  rw [leftLength, Nat.shiftLeft_eq]
  have := Nat.two_pow_pos (Nat.log2 ((length - 1) / 1024))
  omega

theorem leftLength_lt {length : Nat} (h : 1024 < length) : leftLength length < length := by
  rw [leftLength, Nat.shiftLeft_eq]
  have hne : (length - 1) / 1024 ≠ 0 := by omega
  have := Nat.log2_self_le hne
  omega

/-- The topmost node over a piece of the input that begins with the chunk of a given number. -/
def tree (counter : Nat) (bytes : List UInt8) : Node :=
  if _h : bytes.length ≤ 1024 then chunkNode counter initial chunkStart bytes
  else
    let n := leftLength bytes.length
    parent ((tree counter (bytes.take n)).compress 0)
      ((tree (counter + n / 1024) (bytes.drop n)).compress 0)
termination_by bytes.length
decreasing_by
  · have : leftLength bytes.length < bytes.length := leftLength_lt (by omega)
    simp only [List.length_take]; omega
  · have := leftLength_pos bytes.length
    simp only [List.length_drop]; omega

/-- The bytes of a word, the lowest first. -/
def wordBytes (w : UInt32) : List UInt8 :=
  [w.toUInt8, (w >>> 8).toUInt8, (w >>> 16).toUInt8, (w >>> 24).toUInt8]

/-- The hash of some bytes. -/
def hash (bytes : List UInt8) : List UInt8 :=
  ((tree 0 bytes).compress rootNode).toList.flatMap wordBytes

/-- An input of one block is hashed by one compression. -/
theorem hash_of_length_le {bytes : List UInt8} (h : bytes.length ≤ 64) :
    hash bytes = (Node.compress ⟨initial, words bytes, 0, .ofNat bytes.length,
      chunkStart ||| chunkEnd⟩ rootNode).toList.flatMap wordBytes := by
  have htake : bytes.take 64 = bytes := List.take_of_length_le h
  rw [hash, tree, dif_pos (by omega), chunkNode, dif_pos h, htake]
  rfl

end AnchorLayout.Blake3
