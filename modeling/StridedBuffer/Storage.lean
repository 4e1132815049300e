import StridedBuffer.Fault
import StridedBuffer.Digest.Blake3

/-! # Reference-counted storage

A storage is a byte buffer shared by views and exported descriptors. Each holder counts
one reference, exported descriptors are also counted as pins, and dropping the last
reference releases the storage for good. Misuse stops with a panic; the counters move
before the check, so a panicking release or unpin leaves its decrement behind. Both
counters are 32-bit words and wrap around.
-/

namespace StridedBuffer

/-- A byte buffer with its reference and pin counts. -/
structure Storage where
  bytes : ByteArray
  refs : Int32
  exports : Int32
  released : Bool

namespace Storage

/-- A fresh storage holding a copy of the bytes, with no references. -/
def ofBytes (bytes : ByteArray) : Storage := ⟨bytes, 0, 0, false⟩

/-- The panic of any access to a released storage. -/
def usePanic : Fault := .panic "tensor: use of released storage"

/-- The byte count. -/
def len (s : Storage) : Nat := s.bytes.size

/-- Whether some exported descriptor still pins the storage. -/
def pinned (s : Storage) : Bool := decide (s.exports > 0)

/-- The bytes, available while the storage is live. -/
def data (s : Storage) : Outcome ByteArray :=
  if s.released then .error usePanic else .ok s.bytes

/-- The BLAKE3 digest of the bytes, available while the storage is live. -/
def digest (s : Storage) : Outcome ByteArray :=
  if s.released then .error usePanic else .ok (Blake3.hash s.bytes)

/-- One more reference. -/
def retain (s : Storage) : Outcome Storage :=
  if s.released then .error usePanic else .ok { s with refs := s.refs + 1 }

/-- One reference less; the last one releases the storage. -/
def release (s : Storage) : Storage × Option Fault :=
  let n := s.refs - 1
  if n < 0 then
    ({ s with refs := n }, some (.panic "tensor: storage released more times than retained"))
  else if n = 0 then ({ s with refs := n, released := true }, none)
  else ({ s with refs := n }, none)

/-- A reference taken for an exported descriptor. -/
def pin (s : Storage) : Outcome Storage := do
  let s ← s.retain
  return { s with exports := s.exports + 1 }

/-- Gives back a pin and its reference. -/
def unpin (s : Storage) : Storage × Option Fault :=
  let s := { s with exports := s.exports - 1 }
  if s.exports < 0 then (s, some (.panic "tensor: storage unpinned more times than pinned"))
  else s.release

theorem retain_refs (s : Storage) (h : s.released = false) :
    (s.retain.map Storage.refs) = .ok (s.refs + 1) := by
  simp [retain, h, Except.map]

end Storage

end StridedBuffer
