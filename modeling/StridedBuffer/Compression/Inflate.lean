/-! # Inflating DEFLATE streams

A DEFLATE stream is a run of blocks, the last one flagged. A block is stored (a byte-
aligned length, its complement and the bytes), or Huffman-coded with the fixed codes or
with codes sent at its start. A coded block is literals and back-references (a length
and a distance into the output so far) up to an end-of-block symbol.

Code sets are canonical: each symbol has a code length, and codes of one length are
consecutive in symbol order. A set must use every code of its longest length, except
that a single code of length one is allowed; an empty set is allowed until a symbol is
read with it. A back-reference may not reach before the start of the output. Bits are
read least significant first, one byte at a time, so the stream ends at the byte after
the last bit it used.

A failure keeps the output produced before it.
-/

namespace StridedBuffer.Inflate

/-- A canonical code set: how many codes there are of each length `1..15`, and the
symbols in code order. -/
structure Code where
  counts : Array Nat
  symbols : Array Nat

/-- The longest code length. -/
def maxBits : Nat := 15

/-- The code set of a list of code lengths (length `0` leaves a symbol out); `none`
when the lengths over- or under-fill the code space. -/
def Code.ofLengths (lengths : Array Nat) : Option Code :=
  let counts := lengths.foldl (fun acc n => if n == 0 then acc else acc.modify n (· + 1))
    (Array.replicate (maxBits + 1) 0)
  let longest := (List.range (maxBits + 1)).foldl (fun m i => if counts.getD i 0 > 0 then i else m) 0
  let symbols := (List.range (maxBits + 1)).foldl (fun acc len =>
      (List.range lengths.size).foldl (fun acc s => if lengths.getD s 0 == len && len > 0 then acc.push s else acc) acc)
    #[]
  if longest == 0 then some ⟨counts, symbols⟩
  else
    let used := (List.range (longest + 1)).foldl (fun code i => if i == 0 then 0 else code * 2 + counts.getD i 0) 0
    if used == Nat.pow 2 longest || (used == 1 && longest == 1) then some ⟨counts, symbols⟩ else none

/-- The reader's state: the input, the next bit to read, and the output so far. -/
structure Reader where
  input : ByteArray
  bit : Nat
  output : ByteArray

/-- Decoding steps; a failure keeps the output produced before it. -/
abbrev InflateM := StateT Reader (Except ByteArray)

/-- Fails, keeping the output. -/
def fail {α : Type} : InflateM α := do throw (← get).output

/-- Reads one bit. -/
def readBit : InflateM Nat := do
  let r ← get
  match r.input[r.bit / 8]? with
  | some b =>
      set { r with bit := r.bit + 1 }
      return (b.toNat >>> (r.bit % 8)) % 2
  | none => fail

/-- Reads `n` bits, the first one least significant. -/
def readBits : Nat → InflateM Nat
  | 0 => pure 0
  | n + 1 => do
    let low ← readBit
    let high ← readBits n
    return low + 2 * high

/-- Decodes one symbol: the code is read a bit at a time, most significant first, and
compared with the codes of each length in turn. -/
def decodeSymbol (c : Code) : InflateM Nat := do
  let rec go : Nat → Nat → Nat → Nat → InflateM Nat
    | 0, _, _, _ => fail
    | len + 1, code, first, index => do
      let code := code + (← readBit)
      let count := c.counts.getD (maxBits - len) 0
      if code < first + count then
        match c.symbols[index + (code - first)]? with
        | some s => return s
        | none => fail
      else go len ((code) * 2) ((first + count) * 2) (index + count)
  go maxBits 0 0 0

/-- Appends one byte to the output. -/
def emitByte (b : UInt8) : InflateM Unit :=
  modify fun r => { r with output := r.output.push b }

/-- Copies `len` bytes from `dist` back, one at a time so that the copy may overlap
itself. -/
def copyBack (dist : Nat) : Nat → InflateM Unit
  | 0 => pure ()
  | n + 1 => do
    let r ← get
    emitByte (r.output[r.output.size - dist]?.getD 0)
    copyBack dist n

/-- The base length and extra bits of a length symbol `257..285`. -/
def lengthCode (sym : Nat) : Option (Nat × Nat) :=
  if sym < 265 then some (sym - 254, 0)
  else if sym < 269 then some (sym * 2 - 519, 1)
  else if sym < 273 then some (sym * 4 - 1057, 2)
  else if sym < 277 then some (sym * 8 - 2149, 3)
  else if sym < 281 then some (sym * 16 - 4365, 4)
  else if sym < 285 then some (sym * 32 - 8861, 5)
  else if sym == 285 then some (258, 0)
  else none

/-- The distance of a distance symbol `0..29`, reading its extra bits. -/
def readDistance (sym : Nat) : InflateM Nat := do
  if sym < 4 then return sym + 1
  else if sym < 30 then
    let extraBits := (sym - 2) / 2
    let base := Nat.pow 2 (extraBits + 1) + 1 + (sym % 2) * Nat.pow 2 extraBits
    return base + (← readBits extraBits)
  else fail

/-- The distance symbol of a fixed-code block: five bits, most significant first. -/
def fixedDistanceSymbol : InflateM Nat := do
  let v ← readBits 5
  return (List.range 5).foldl (fun acc i => acc * 2 + (v >>> i) % 2) 0

/-- Decodes the symbols of a coded block up to its end; `dist` is `none` for the fixed
distance codes. -/
def codedBlock (lit : Code) (dist : Option Code) : Nat → InflateM Unit
  | 0 => fail
  | fuel + 1 => do
    let sym ← decodeSymbol lit
    if sym < 256 then
      emitByte (UInt8.ofNat sym)
      codedBlock lit dist fuel
    else if sym == 256 then pure ()
    else
      let some (base, extra) := lengthCode sym | fail
      let len := base + (← readBits extra)
      let dsym ← match dist with
        | some d => decodeSymbol d
        | none => fixedDistanceSymbol
      let distance ← readDistance dsym
      if distance > (← get).output.size then fail
      copyBack distance len
      codedBlock lit dist fuel

/-- The fixed literal/length code lengths. -/
def fixedLengths : Array Nat :=
  (Array.range 288).map fun s => if s < 144 then 8 else if s < 256 then 9 else if s < 280 then 7 else 8

/-- The order in which code-length code lengths are sent. -/
def codeLengthOrder : List Nat := [16, 17, 18, 0, 8, 7, 9, 6, 10, 5, 11, 4, 12, 3, 13, 2, 14, 1, 15]

/-- Reads `n` code lengths with the code-length code: `16` repeats the previous length
3 to 6 times, `17` and `18` give 3 to 10 and 11 to 138 zeros. -/
def readLengths (c : Code) (n : Nat) (acc : Array Nat) : Nat → InflateM (Array Nat)
  | 0 => fail
  | fuel + 1 => do
    if acc.size ≥ n then return acc
    let sym ← decodeSymbol c
    if sym < 16 then readLengths c n (acc.push sym) fuel
    else
      let (value, times) ← match sym with
        | 16 => do
            let some prev := acc.back? | fail
            pure (prev, 3 + (← readBits 2))
        | 17 => do pure (0, 3 + (← readBits 3))
        | _ => do pure (0, 11 + (← readBits 7))
      if acc.size + times > n then fail
      readLengths c n (acc ++ Array.replicate times value) fuel

/-- Reads the code sets sent at the start of a dynamic block. -/
def dynamicCodes : InflateM (Code × Code) := do
  let nlit := (← readBits 5) + 257
  if nlit > 286 then fail
  let ndist := (← readBits 5) + 1
  if ndist > 30 then fail
  let nclen := (← readBits 4) + 4
  let mut clens := Array.replicate 19 0
  for i in codeLengthOrder.take nclen do
    clens := clens.set! i (← readBits 3)
  let some clc := Code.ofLengths clens | fail
  let lengths ← readLengths clc (nlit + ndist) #[] (nlit + ndist + 1)
  let some lit := Code.ofLengths (lengths.extract 0 nlit) | fail
  let some dist := Code.ofLengths (lengths.extract nlit (nlit + ndist)) | fail
  return (lit, dist)

/-- A stored block: skips to a byte boundary and copies `LEN` bytes after `LEN` and its
complement. A short input copies what is there before failing. -/
def storedBlock : InflateM Unit := do
  let r ← get
  let pos := (r.bit + 7) / 8
  if pos + 4 > r.input.size then
    set { r with bit := r.input.size * 8 }
    fail
  let byte := fun i => (r.input[pos + i]?.getD 0).toNat
  let len := byte 0 + 256 * byte 1
  let complement := byte 2 + 256 * byte 3
  if len + complement != 65535 then fail
  let start := pos + 4
  let stop := min (start + len) r.input.size
  set { r with bit := stop * 8, output := r.output ++ r.input.extract start stop }
  if start + len > r.input.size then fail

/-- Reads blocks until the last one. -/
def blocks (fixed : Code) : Nat → InflateM Unit
  | 0 => fail
  | fuel + 1 => do
    let last := (← readBit) == 1
    let kind ← readBits 2
    if kind == 0 then storedBlock
    else if kind == 1 then codedBlock fixed none ((← get).input.size * 8 + 1)
    else if kind == 2 then
      let (lit, dist) ← dynamicCodes
      codedBlock lit (some dist) ((← get).input.size * 8 + 1)
    else fail
    if !last then blocks fixed fuel

/-- What inflating gives: the output, the byte position just past the stream, and
whether the stream was broken (the output then being what came before the break). -/
structure Inflated where
  output : ByteArray
  next : Nat
  failed : Bool

/-- Inflates the DEFLATE stream starting at byte `start`. -/
def inflate (input : ByteArray) (start : Nat) : Inflated :=
  match Code.ofLengths fixedLengths with
  | none => ⟨ByteArray.empty, start, true⟩
  | some fixed =>
      match (blocks fixed (input.size * 8 + 1)).run ⟨input, start * 8, ByteArray.empty⟩ with
      | .ok (_, r) => ⟨r.output, (r.bit + 7) / 8, false⟩
      | .error out => ⟨out, input.size, true⟩

end StridedBuffer.Inflate
