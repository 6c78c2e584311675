/-!
# BLAKE3 digests

States and snapshots are identified by the BLAKE3 hash of their compact text,
written as 64 lower-case hexadecimal digits. The input is cut into chunks of
1024 bytes and each chunk into blocks of 64; a chunk chains its blocks, and
the chunks are the leaves of a binary tree whose left branches are complete.
Only the last compression of all carries the root flag, so the tree is built
from `Node`s: compressions that are still to be run, either for a chaining
value or for the digest itself.
-/

namespace SpawnForest.Digest

/-- Eight words that chain one compression to the next. -/
abbrev Chaining := Vector UInt32 8

/-- The sixteen words of a block of input, or of the state of a compression. -/
abbrev Block := Vector UInt32 16

def initial : Chaining := #v[
  0x6a09e667, 0xbb67ae85, 0x3c6ef372, 0xa54ff53a, 0x510e527f, 0x9b05688c, 0x1f83d9ab, 0x5be0cd19]

/-! ## Compression -/

def rotateRight (x : UInt32) (n : UInt32) : UInt32 := (x >>> n) ||| (x <<< (32 - n))

/-- Mixes two words of input into one column or diagonal of the state. -/
def quarter (s : Block) (a b c d : Fin 16) (x y : UInt32) : Block :=
  let va := s[a] + s[b] + x
  let vd := rotateRight (s[d] ^^^ va) 16
  let vc := s[c] + vd
  let vb := rotateRight (s[b] ^^^ vc) 12
  let va := va + vb + y
  let vd := rotateRight (vd ^^^ va) 8
  let vc := vc + vd
  let vb := rotateRight (vb ^^^ vc) 7
  (((s.set a va).set b vb).set c vc).set d vd

/-- Columns, then diagonals. -/
def mixAll (s m : Block) : Block :=
  let s := quarter s 0 4 8 12 m[0] m[1]
  let s := quarter s 1 5 9 13 m[2] m[3]
  let s := quarter s 2 6 10 14 m[4] m[5]
  let s := quarter s 3 7 11 15 m[6] m[7]
  let s := quarter s 0 5 10 15 m[8] m[9]
  let s := quarter s 1 6 11 12 m[10] m[11]
  let s := quarter s 2 7 8 13 m[12] m[13]
  quarter s 3 4 9 14 m[14] m[15]

/-- The order in which the next round takes the words of input. -/
def permute (m : Block) : Block := #v[
  m[2], m[6], m[3], m[10], m[7], m[0], m[4], m[13],
  m[1], m[11], m[12], m[5], m[9], m[14], m[15], m[8]]

def rounds : Nat → Block → Block → Block
  | 0, s, _ => s
  | n + 1, s, m => rounds n (mixAll s m) (permute m)

/-- The first eight words of the compressed state, which serve both as the next
chaining value and as the digest. -/
def compress (cv : Chaining) (m : Block) (counter : UInt64) (length flags : UInt32) : Chaining :=
  let s : Block := #v[
    cv[0], cv[1], cv[2], cv[3], cv[4], cv[5], cv[6], cv[7],
    0x6a09e667, 0xbb67ae85, 0x3c6ef372, 0xa54ff53a,
    counter.toUInt32, (counter >>> 32).toUInt32, length, flags]
  let s := rounds 7 s m
  #v[s[0] ^^^ s[8], s[1] ^^^ s[9], s[2] ^^^ s[10], s[3] ^^^ s[11],
    s[4] ^^^ s[12], s[5] ^^^ s[13], s[6] ^^^ s[14], s[7] ^^^ s[15]]

def chunkStart : UInt32 := 1
def chunkEnd : UInt32 := 2
def parent : UInt32 := 4
def root : UInt32 := 8

/-! ## Blocks and chunks -/

def word (bytes : Nat → UInt8) (i : Nat) : UInt32 :=
  (bytes (4 * i)).toUInt32 ||| ((bytes (4 * i + 1)).toUInt32 <<< 8)
    ||| ((bytes (4 * i + 2)).toUInt32 <<< 16) ||| ((bytes (4 * i + 3)).toUInt32 <<< 24)

def blockOf (bytes : Array UInt8) : Block :=
  Vector.ofFn (fun i => word (fun j => bytes.getD j 0) i.val)

/-- A compression that is still to be run. -/
structure Node where
  chaining : Chaining
  block : Block
  counter : UInt64
  length : UInt32
  flags : UInt32

namespace Node

def value (n : Node) : Chaining := compress n.chaining n.block n.counter n.length n.flags

/-- The words of the digest, if the node is the root. -/
def digest (n : Node) : Chaining :=
  compress n.chaining n.block 0 n.length (n.flags ||| root)

/-- Chains the blocks of a chunk up to the last. `first` is the flag of the first block. -/
def chain (counter : UInt64) : Chaining → UInt32 → List (Array UInt8) → Node
  | cv, first, [] => ⟨cv, blockOf #[], counter, 0, first ||| chunkEnd⟩
  | cv, first, [last] => ⟨cv, blockOf last, counter, last.size.toUInt32, first ||| chunkEnd⟩
  | cv, first, bytes :: next :: rest =>
    chain counter (compress cv (blockOf bytes) counter 64 first) 0 (next :: rest)

def join (left right : Node) : Node :=
  ⟨initial, left.value ++ right.value, 0, 64, parent⟩

end Node

/-- The pieces of `size` bytes, the last one shorter; `count` bounds their number. -/
def pieces (size : Nat) : Nat → Array UInt8 → List (Array UInt8)
  | 0, _ => []
  | count + 1, bytes =>
    if bytes.size ≤ size then [bytes]
    else bytes.extract 0 size :: pieces size count (bytes.extract size bytes.size)

def chunkNode (counter : Nat) (chunk : Array UInt8) : Node :=
  Node.chain counter.toUInt64 initial chunkStart (pieces 64 16 chunk)

/-- The tree over chunks counted from `counter`. The left branch holds the
greatest power of two of chunks that leaves some for the right one. -/
def tree : Nat → Nat → List (Array UInt8) → Node
  | _, counter, [] => chunkNode counter #[]
  | _, counter, [chunk] => chunkNode counter chunk
  | 0, counter, chunk :: _ => chunkNode counter chunk
  | height + 1, counter, chunks =>
    let half := Nat.pow 2 (chunks.length - 1).log2
    Node.join (tree height counter (chunks.take half))
      (tree height (counter + half) (chunks.drop half))

/-! ## Text of a digest -/

def hexByte (b : UInt8) : List Char :=
  [Nat.digitChar (b.toNat / 16), Nat.digitChar (b.toNat % 16)]

def hexWord (w : UInt32) : List Char :=
  hexByte w.toUInt8 ++ hexByte (w >>> 8).toUInt8 ++ hexByte (w >>> 16).toUInt8
    ++ hexByte (w >>> 24).toUInt8

def hexOfBytes (bytes : Array UInt8) : String :=
  let chunks := pieces 1024 (bytes.size / 1024 + 1) bytes
  let top := tree chunks.length 0 chunks
  String.ofList (top.digest.toList.flatMap hexWord)

/-- The digest of a text, through its UTF-8 form. -/
def hex (s : String) : String := hexOfBytes s.toUTF8.data

end SpawnForest.Digest
