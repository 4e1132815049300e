/-! # BLAKE3

The 256-bit BLAKE3 hash, unkeyed. The input is cut into chunks of 1024 bytes, each
chunk into blocks of 64 bytes, and the chunks' chaining values are merged pairwise in a
binary tree whose left subtrees are complete: a node over `n > 1` chunks puts the largest
power of two below `n` of them on its left. The root's last compression carries the root
flag, and its first eight words are the hash.
-/

namespace StridedBuffer.Blake3

/-- The initial chaining value. -/
def iv : Array UInt32 :=
  #[0x6A09E667, 0xBB67AE85, 0x3C6EF372, 0xA54FF53A, 0x510E527F, 0x9B05688C, 0x1F83D9AB,
    0x5BE0CD19]

/-- The message word order of the next round. -/
def permutation : Array Nat := #[2, 6, 3, 10, 7, 0, 4, 13, 1, 11, 12, 5, 9, 14, 15, 8]

def chunkStart : UInt32 := 1
def chunkEnd : UInt32 := 2
def parent : UInt32 := 4
def root : UInt32 := 8

/-- The bytes of a chunk and of a block. -/
def chunkLen : Nat := 1024
def blockLen : Nat := 64

/-- Rotation to the right. -/
@[inline] def rotr (x : UInt32) (n : UInt32) : UInt32 := (x >>> n) ||| (x <<< (32 - n))

/-- The quarter-round on state words `a b c d` with message words `x y`. -/
def mix (s : Array UInt32) (a b c d : Nat) (x y : UInt32) : Array UInt32 :=
  let va := s.getD a 0 + s.getD b 0 + x
  let vd := rotr (s.getD d 0 ^^^ va) 16
  let vc := s.getD c 0 + vd
  let vb := rotr (s.getD b 0 ^^^ vc) 12
  let va := va + vb + y
  let vd := rotr (vd ^^^ va) 8
  let vc := vc + vd
  let vb := rotr (vb ^^^ vc) 7
  (((s.setIfInBounds a va).setIfInBounds b vb).setIfInBounds c vc).setIfInBounds d vd

/-- One round: the four columns, then the four diagonals. -/
def round (s : Array UInt32) (m : Array UInt32) : Array UInt32 :=
  let g := fun (s : Array UInt32) (a b c d i : Nat) => mix s a b c d (m.getD (2 * i) 0) (m.getD (2 * i + 1) 0)
  let s := g s 0 4 8 12 0
  let s := g s 1 5 9 13 1
  let s := g s 2 6 10 14 2
  let s := g s 3 7 11 15 3
  let s := g s 0 5 10 15 4
  let s := g s 1 6 11 12 5
  let s := g s 2 7 8 13 6
  g s 3 4 9 14 7

/-- The message words in the next round's order. -/
def permute (m : Array UInt32) : Array UInt32 :=
  permutation.map fun i => m.getD i 0

/-- The compression function: sixteen output words. -/
def compress (cv block : Array UInt32) (counter : Nat) (len flags : UInt32) : Array UInt32 :=
  let s0 := cv ++ iv.extract 0 4 ++
    #[UInt32.ofNat counter, UInt32.ofNat (counter / Nat.pow 2 32), len, flags]
  let s := ((List.range 7).foldl (fun (acc : Array UInt32 × Array UInt32) _ =>
    (round acc.1 acc.2, permute acc.2)) (s0, block)).1
  (Array.range 16).map fun i =>
    if i < 8 then s.getD i 0 ^^^ s.getD (i + 8) 0 else s.getD i 0 ^^^ cv.getD (i - 8) 0

/-- The sixteen little-endian words of the block of `data` at `start`, `len` bytes long,
padded with zeros. -/
def blockWords (data : ByteArray) (start len : Nat) : Array UInt32 :=
  (Array.range 16).map fun w =>
    (List.range 4).foldr (fun k acc =>
      let i := 4 * w + k
      let b : UInt32 := if i < len then (data[start + i]?.getD 0).toUInt32 else 0
      (acc <<< 8) ||| b) 0

/-- The last compression of a node, held back until it is known whether the node is
the root. -/
structure Output where
  cv : Array UInt32
  block : Array UInt32
  counter : Nat
  len : UInt32
  flags : UInt32

/-- The chaining value of a non-root node. -/
def Output.chainingValue (o : Output) : Array UInt32 :=
  (compress o.cv o.block o.counter o.len o.flags).extract 0 8

/-- The hash of a root node: its first eight words as little-endian bytes. -/
def Output.rootBytes (o : Output) : ByteArray :=
  let words := (compress o.cv o.block o.counter o.len (o.flags ||| root)).extract 0 8
  ⟨words.flatMap fun (w : UInt32) => #[w.toUInt8, (w >>> 8).toUInt8, (w >>> 16).toUInt8, (w >>> 24).toUInt8]⟩

/-- The output of chunk number `index`, which holds the `len` bytes of `data` at `start`. -/
def chunkOutput (data : ByteArray) (start len index : Nat) : Output :=
  let blocks := max 1 ((len + blockLen - 1) / blockLen)
  let blockAt := fun (b : Nat) => blockWords data (start + b * blockLen) (min blockLen (len - b * blockLen))
  let flagsOf := fun (b : Nat) => (if b = 0 then chunkStart else 0)
  let cv := (List.range (blocks - 1)).foldl (fun cv b =>
    (compress cv (blockAt b) index (UInt32.ofNat blockLen) (flagsOf b)).extract 0 8) iv
  let last := blocks - 1
  { cv := cv, block := blockAt last, counter := index,
    len := UInt32.ofNat (len - last * blockLen), flags := flagsOf last ||| chunkEnd }

/-- The chunks on the left of a node over `n > 1` chunks. -/
def leftChunks (n : Nat) : Nat := Nat.pow 2 (Nat.log2 (n - 1))

theorem leftChunks_pos (n : Nat) : 0 < leftChunks n := Nat.two_pow_pos _

theorem leftChunks_lt (n : Nat) (h : 1 < n) : leftChunks n < n := by
  unfold leftChunks
  have := Nat.log2_self_le (n := n - 1) (by omega)
  rw [Nat.pow_eq]
  omega

/-- The output of the node over `n` chunks starting with chunk `first`, for input of
`total` bytes. -/
def subtree (data : ByteArray) (total first n : Nat) : Output :=
  if h : n ≤ 1 then
    let start := first * chunkLen
    chunkOutput data start (min chunkLen (total - start)) first
  else
    let l := leftChunks n
    have hl : l < n := leftChunks_lt n (by omega)
    have hp : 0 < l := leftChunks_pos n
    let left := (subtree data total first l).chainingValue
    let right := (subtree data total (first + l) (n - l)).chainingValue
    { cv := iv, block := left ++ right, counter := 0, len := UInt32.ofNat blockLen,
      flags := parent }
termination_by n
decreasing_by
  · exact hl
  · exact Nat.sub_lt (by omega) hp

/-- The 32-byte hash of `data`. -/
def hash (data : ByteArray) : ByteArray :=
  let chunks := max 1 ((data.size + chunkLen - 1) / chunkLen)
  (subtree data data.size 0 chunks).rootBytes

end StridedBuffer.Blake3
