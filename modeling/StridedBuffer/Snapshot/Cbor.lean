/-! # CBOR items

The concise binary object representation: every item starts with a head byte holding a
major type and either a small argument or the width of the argument that follows in
big-endian order. Strings, arrays and maps may also be of indefinite length, closed by a
break byte.

Reading accepts exactly one well-formed item spanning the whole input, nested at most
`Limits.depth` arrays, maps and inner tags deep, with arrays of at most
`Limits.arrayItems` items and maps of at most `Limits.mapPairs` pairs. Writing uses the
shortest head for every argument.
-/

namespace StridedBuffer.Cbor

/-- A decoded item. Text is kept as the bytes of its chunks, one chunk for a text of
definite length; it is checked for UTF-8 only where it is used as text, and then chunk
by chunk. -/
inductive Item where
  | unsigned (n : Nat)
  /-- The integer `-1 - n`. -/
  | negative (n : Nat)
  | bytes (b : ByteArray)
  | text (chunks : List ByteArray)
  | array (items : List Item)
  | map (entries : List (Item × Item))
  | tag (n : Nat) (content : Item)
  /-- A simple value: 20 false, 21 true, 22 null, 23 undefined. -/
  | simple (n : Nat)
  /-- A float of 16, 32 or 64 bits, by its bit pattern. -/
  | float (width : Nat) (bits : Nat)
  deriving Inhabited

/-- Bounds on what a reader accepts. -/
structure Limits where
  depth : Nat := 32
  arrayItems : Nat := 64
  mapPairs : Nat := 131072

/-- The big-endian value of `n` bytes at `pos`. -/
def bigEndian (bs : ByteArray) (pos n : Nat) : Nat :=
  (List.range n).foldl (fun acc i => acc * 256 + (bs[pos + i]?.getD 0).toNat) 0

/-- A head: the major type, the additional information, the argument (none for an
indefinite length) and the position after the head. -/
structure Head where
  major : Nat
  info : Nat
  arg : Option Nat
  next : Nat

/-- The head at `pos`, if it is complete and well formed. -/
def readHead (bs : ByteArray) (pos : Nat) : Option Head :=
  match bs[pos]? with
  | none => none
  | some b =>
      let major := b.toNat / 32
      let info := b.toNat % 32
      let width := if info = 24 then 1 else if info = 25 then 2 else if info = 26 then 4
        else if info = 27 then 8 else 0
      if info < 24 then some ⟨major, info, some info, pos + 1⟩
      else if info ≤ 27 then
        if pos + 1 + width ≤ bs.size then
          some ⟨major, info, some (bigEndian bs (pos + 1) width), pos + 1 + width⟩
        else none
      else if info = 31 then some ⟨major, info, none, pos + 1⟩
      else none

/-- The break byte that closes an indefinite-length item. -/
def breakByte : UInt8 := 0xFF

/-- Whether the byte at `pos` is a break. -/
def isBreak (bs : ByteArray) (pos : Nat) : Bool := bs[pos]? == some breakByte

mutual

/-- The item at `pos` and the position after it; `depth` containers enclose it. -/
def item (bs : ByteArray) (lim : Limits) : Nat → Nat → Nat → Option (Item × Nat)
  | 0, _, _ => none
  | fuel + 1, depth, pos => do
      let h ← readHead bs pos
      match h.major, h.arg with
      | 0, some n => some (.unsigned n, h.next)
      | 1, some n => some (.negative n, h.next)
      | 2, some n => if h.next + n ≤ bs.size then some (.bytes (bs.extract h.next (h.next + n)), h.next + n) else none
      | 3, some n => if h.next + n ≤ bs.size then some (.text [bs.extract h.next (h.next + n)], h.next + n) else none
      | 2, none => do
          let (b, p) ← chunks bs 2 fuel h.next []
          some (.bytes (b.foldl (· ++ ·) ByteArray.empty), p)
      | 3, none => do
          let (b, p) ← chunks bs 3 fuel h.next []
          some (.text b, p)
      | 4, arg =>
          if depth + 1 > lim.depth then none
          else match arg with
            | some n =>
                if n > lim.arrayItems then none
                else do
                  let (xs, p) ← items bs lim fuel (depth + 1) n h.next
                  some (.array xs, p)
            | none => do
                let (xs, p) ← itemsUntilBreak bs lim fuel (depth + 1) 0 h.next
                some (.array xs, p)
      | 5, arg =>
          if depth + 1 > lim.depth then none
          else match arg with
            | some n =>
                if n > lim.mapPairs then none
                else do
                  let (kvs, p) ← pairs bs lim fuel (depth + 1) n h.next
                  some (.map kvs, p)
            | none => do
                let (kvs, p) ← pairsUntilBreak bs lim fuel (depth + 1) 0 h.next
                some (.map kvs, p)
      | 6, some n => do
          let inner := if (bs[h.next]?.map (·.toNat / 32)) == some 6 then depth + 1 else depth
          if inner > lim.depth then none
          else
            let (x, p) ← item bs lim fuel inner h.next
            some (.tag n x, p)
      | 7, some n =>
          if h.info < 24 then some (.simple n, h.next)
          else if h.info = 24 then (if n < 32 then none else some (.simple n, h.next))
          else if h.info = 25 then some (.float 16 n, h.next)
          else if h.info = 26 then some (.float 32 n, h.next)
          else some (.float 64 n, h.next)
      | _, _ => none

/-- Exactly `n` items from `pos`. -/
def items (bs : ByteArray) (lim : Limits) : Nat → Nat → Nat → Nat → Option (List Item × Nat)
  | 0, _, _, _ => none
  | _ + 1, _, 0, pos => some ([], pos)
  | fuel + 1, depth, n + 1, pos => do
      let (x, p) ← item bs lim fuel depth pos
      let (xs, q) ← items bs lim fuel depth n p
      some (x :: xs, q)

/-- Items from `pos` up to a break, at most `Limits.arrayItems` of them; `count` were
read before. -/
def itemsUntilBreak (bs : ByteArray) (lim : Limits) : Nat → Nat → Nat → Nat → Option (List Item × Nat)
  | 0, _, _, _ => none
  | fuel + 1, depth, count, pos =>
      if pos ≥ bs.size then none
      else if isBreak bs pos then some ([], pos + 1)
      else do
        let (x, p) ← item bs lim fuel depth pos
        if count + 1 > lim.arrayItems then none
        else
          let (xs, q) ← itemsUntilBreak bs lim fuel depth (count + 1) p
          some (x :: xs, q)

/-- Exactly `n` key-value pairs from `pos`. -/
def pairs (bs : ByteArray) (lim : Limits) : Nat → Nat → Nat → Nat → Option (List (Item × Item) × Nat)
  | 0, _, _, _ => none
  | _ + 1, _, 0, pos => some ([], pos)
  | fuel + 1, depth, n + 1, pos => do
      let (k, p) ← item bs lim fuel depth pos
      let (v, p) ← item bs lim fuel depth p
      let (kvs, q) ← pairs bs lim fuel depth n p
      some ((k, v) :: kvs, q)

/-- Key-value pairs from `pos` up to a break, at most `Limits.mapPairs` of them. -/
def pairsUntilBreak (bs : ByteArray) (lim : Limits) : Nat → Nat → Nat → Nat →
    Option (List (Item × Item) × Nat)
  | 0, _, _, _ => none
  | fuel + 1, depth, count, pos =>
      if pos ≥ bs.size then none
      else if isBreak bs pos then some ([], pos + 1)
      else do
        let (k, p) ← item bs lim fuel depth pos
        let (v, p) ← item bs lim fuel depth p
        if count + 1 > lim.mapPairs then none
        else
          let (kvs, q) ← pairsUntilBreak bs lim fuel depth (count + 1) p
          some ((k, v) :: kvs, q)

/-- The definite-length chunks of an indefinite string of major type `major`, in order,
after the chunks `acc` already read. -/
def chunks (bs : ByteArray) (major : Nat) : Nat → Nat → List ByteArray → Option (List ByteArray × Nat)
  | 0, _, _ => none
  | fuel + 1, pos, acc =>
      if pos ≥ bs.size then none
      else if isBreak bs pos then some (acc, pos + 1)
      else do
        let h ← readHead bs pos
        if h.major ≠ major then none
        else match h.arg with
          | none => none
          | some n =>
              if h.next + n ≤ bs.size then chunks bs major fuel (h.next + n) (acc ++ [bs.extract h.next (h.next + n)])
              else none

end

/-- The single item that makes up the whole input, if it is well formed. An item takes
at least one byte and each level of nesting two units of fuel, so twice the size is
always enough. -/
def decode (bs : ByteArray) (lim : Limits := {}) : Option Item := do
  let (x, p) ← item bs lim (2 * bs.size + 1) 0 0
  if p = bs.size then some x else none

/-- The head of an item of major type `major` with argument `n`, in its shortest form. -/
def head (major n : Nat) : ByteArray :=
  let top := UInt8.ofNat (major * 32)
  let be := fun (w : Nat) => (List.range w).reverse.map fun i => UInt8.ofNat (n / Nat.pow 256 i)
  if n < 24 then ⟨#[top + UInt8.ofNat n]⟩
  else if n < Nat.pow 2 8 then ⟨(#[top + 24] ++ (be 1).toArray)⟩
  else if n < Nat.pow 2 16 then ⟨(#[top + 25] ++ (be 2).toArray)⟩
  else if n < Nat.pow 2 32 then ⟨(#[top + 26] ++ (be 4).toArray)⟩
  else ⟨(#[top + 27] ++ (be 8).toArray)⟩

/-- An integer. -/
def encodeInt (i : Int) : ByteArray :=
  if i ≥ 0 then head 0 i.toNat else head 1 (-1 - i).toNat

/-- A byte string. -/
def encodeBytes (b : ByteArray) : ByteArray := head 2 b.size ++ b

/-- A text string. -/
def encodeText (s : String) : ByteArray := head 3 s.utf8ByteSize ++ s.toUTF8

/-- An array of integers. -/
def encodeInts (xs : List Int) : ByteArray :=
  xs.foldl (fun acc x => acc ++ encodeInt x) (head 4 xs.length)

/-- A map from its encoded keys and values, in the given order. -/
def encodeMap (entries : List (ByteArray × ByteArray)) : ByteArray :=
  entries.foldl (fun acc kv => acc ++ kv.1 ++ kv.2) (head 5 entries.length)

end StridedBuffer.Cbor
