import Mathlib
import StridedBuffer.Proofs.SnapshotRoundTrip

/-! # Reading a snapshot safely

The reader of a snapshot file is taken apart into its steps, with the reads of the source
and the decompression as parameters (`readIn`); the reader itself is `readIn` over the
source and LZ4 (`read_eq_readIn`). Over this form:

* the reader never fails with a panic when its reads and its decompression do not;
* capping the header read at the header limit and the payload read and the decompression
  at the payload limit changes nothing, so no buffer beyond a limit is ever asked for;
* a successful read returns a view that is the only holder of a fresh storage of exactly
  the header's byte length, with the header's type, shape and strides, and with the
  header's checksum unless the check is skipped;
* whatever a level accepts, a less strict level accepts with the same answer.
-/

namespace StridedBuffer.Snapshot

/-- A read of `n` bytes from position `pos`, with the position after them. -/
abbrev ByteRead := Nat → Nat → Outcome (ByteArray × Nat)

/-- A decompression of a payload to a wanted number of bytes. -/
abbrev Decompress := ByteArray → Nat → Outcome ByteArray

/-! ## The reader over given reads -/

/-- The header read over given reads of the fixed prefix and of the header bytes. -/
def readHeaderIn (fetchPrefix fetchHeader : ByteRead) (level : Level) :
    Outcome (Header × UInt32 × Nat) := do
  let (fixed, pos) ← fetchPrefix 0 prefixSize
  if fixed.toList.take 4 ≠ magic then throw (.sentinel .invalidMagic "")
  let ver := Lz4.word fixed 4 4
  if ver ≠ version then
    throw (.sentinel .unsupportedVersion ("got " ++ toString ver ++ ", expected " ++ toString version))
  let flags := UInt32.ofNat (Lz4.word fixed 8 4)
  let size := Lz4.word fixed 12 8
  if size > maxHeaderSize then throw (.sentinel .headerTooLarge "")
  let (raw, pos) ← fetchHeader pos size
  let some h := Header.decode raw | throw (.context "failed to unmarshal header" (.codec .cbor))
  match h.validate flags level with
  | .error f => throw (.context "validation failed" f)
  | .ok () => return (h, flags, pos)

/-- The storage bytes of a payload over a given decompression. -/
def unpackIn (inflate : Decompress) (payload : ByteArray) (flags : UInt32) (h : Header) :
    Outcome ByteArray :=
  if flags &&& flagCompressed ≠ 0 then
    let want := h.byteLen.toInt.toNat
    match inflate payload want with
    | .error f => .error f
    | .ok data =>
        if data.size ≠ want then
          .error (.plain ("lz4 decompress: got " ++ toString data.size ++ " bytes, expected " ++
            toString want))
        else .ok data
  else if (payload.size : Int) ≠ h.byteLen.toInt then
    .error (.plain ("payload is " ++ toString payload.size ++ " bytes, header says " ++
      toString h.byteLen.toInt))
  else .ok payload

/-- Reading a snapshot over given reads of the prefix, the header and the payload and a
given decompression. -/
def readIn (fetchPrefix fetchHeader fetchPayload : ByteRead) (inflate : Decompress)
    (skipChecksum : Bool) (level : Level) (id : Nat) : Outcome (View × Storage × Header) := do
  let (h, flags, pos) ← readHeaderIn fetchPrefix fetchHeader level
  let t ← DataType.parseFormat h.format.toUTF8.toList
  let lens := "byte_len=" ++ toString h.byteLen.toInt ++ ", payload_len=" ++ toString h.payloadLen.toInt
  if h.payloadLen < 0 ∨ h.payloadLen.toInt > maxPayloadSize ∨ h.byteLen < 0 ∨
      h.byteLen.toInt > maxPayloadSize then
    throw (.sentinel .payloadTooLarge lens)
  let (payload, _) ← fetchPayload pos h.payloadLen.toInt.toNat
  let data ← unpackIn inflate payload flags h
  if !skipChecksum then checkDigest data h.checksum
  let (v, s) ← newView (some (id, Storage.ofBytes data)) h.shape h.strides t.code
  return (v, s, h)

/-- The read of `n` bytes from `pos` of a source, failing in the context `what`. -/
def Source.fetch (src : Source) (what : String) : ByteRead := fun pos n =>
  step what (readFull src pos n)

/-- LZ4 decompression to a wanted length, failing as a codec fault. -/
def inflateLz4 : Decompress := fun payload want =>
  match Lz4.decompress payload want with
  | none => .error (.context "lz4 decompress" (.codec .lz4))
  | some data => .ok data

theorem readHeader_eq_readHeaderIn (src : Source) (level : Level) :
    readHeader src level = readHeaderIn (src.fetch "failed to read fixed header")
      (src.fetch "failed to read header") level := rfl

theorem unpack_eq_unpackIn (payload : ByteArray) (flags : UInt32) (h : Header) :
    unpack payload flags h = unpackIn inflateLz4 payload flags h := by
  unfold unpack unpackIn inflateLz4
  split
  · simp only [Codecs.linked]
    cases Lz4.decompress payload h.byteLen.toInt.toNat <;> rfl
  · rfl

theorem read_eq_readIn (src : Source) (skipChecksum : Bool) (level : Level) (id : Nat) :
    read src skipChecksum level id = readIn (src.fetch "failed to read fixed header")
      (src.fetch "failed to read header") (src.fetch "failed to read payload") inflateLz4
      skipChecksum level id := by
  unfold read readIn
  simp only [readHeader_eq_readHeaderIn, unpack_eq_unpackIn]
  rfl

section Reads

variable {fetchPrefix fetchHeader fetchPayload : ByteRead} {inflate : Decompress}

/-! ## Buffers stay within the limits

A capped read refuses, with a fault no step of the reader makes, to take more than its
limit. The reader fails at its first fault and never recovers from one, so a reader over
capped reads that answers as the reader over the plain ones never asked beyond a limit. -/

/-- A read that refuses to take more than `limit` bytes. -/
def capRead (limit : Nat) (fetch : ByteRead) : ByteRead := fun pos n =>
  if n ≤ limit then fetch pos n
  else .error (.plain ("buffer of " ++ toString n ++ " bytes over the limit of " ++ toString limit))

/-- A decompression that refuses to make more than `limit` bytes. -/
def capInflate (limit : Nat) (inflate : Decompress) : Decompress := fun payload want =>
  if want ≤ limit then inflate payload want
  else .error (.plain ("buffer of " ++ toString want ++ " bytes over the limit of " ++ toString limit))

theorem readHeaderIn_capRead (level : Level) :
    readHeaderIn fetchPrefix (capRead maxHeaderSize fetchHeader) level =
      readHeaderIn fetchPrefix fetchHeader level := by
  unfold readHeaderIn
  simp only [bind, Except.bind, throw, throwThe, MonadExceptOf.throw]
  cases fetchPrefix 0 prefixSize with
  | error e => rfl
  | ok p =>
      obtain ⟨fixed, pos⟩ := p
      dsimp only
      split_ifs with hmagic hver hsize
      · rfl
      · rfl
      · rfl
      rw [capRead, if_pos (Nat.le_of_not_lt hsize)]

theorem unpackIn_capInflate {limit : Nat} (payload : ByteArray) (flags : UInt32) {h : Header}
    (hbyte : h.byteLen.toInt.toNat ≤ limit) :
    unpackIn (capInflate limit inflate) payload flags h = unpackIn inflate payload flags h := by
  unfold unpackIn
  simp only [capInflate, if_pos hbyte]

theorem sizes_of_not_tooLarge {h : Header}
    (hsize : ¬(h.payloadLen < 0 ∨ h.payloadLen.toInt > maxPayloadSize ∨ h.byteLen < 0 ∨
      h.byteLen.toInt > maxPayloadSize)) :
    0 ≤ h.payloadLen.toInt ∧ h.payloadLen.toInt ≤ maxPayloadSize ∧
      0 ≤ h.byteLen.toInt ∧ h.byteLen.toInt ≤ maxPayloadSize := by
  simp only [Int64.lt_iff_toInt_lt, Int64.toInt_zero, not_or, not_lt, gt_iff_lt] at hsize
  omega

theorem readIn_capped (skipChecksum : Bool) (level : Level) (id : Nat) :
    readIn fetchPrefix (capRead maxHeaderSize fetchHeader)
        (capRead maxPayloadSize.toNat fetchPayload) (capInflate maxPayloadSize.toNat inflate)
        skipChecksum level id =
      readIn fetchPrefix fetchHeader fetchPayload inflate skipChecksum level id := by
  unfold readIn
  rw [readHeaderIn_capRead]
  simp only [bind, Except.bind, throw, throwThe, MonadExceptOf.throw]
  cases readHeaderIn fetchPrefix fetchHeader level with
  | error e => rfl
  | ok p =>
      obtain ⟨h, flags, pos⟩ := p
      dsimp only
      cases DataType.parseFormat h.format.toUTF8.toList with
      | error e => rfl
      | ok t =>
          dsimp only
          by_cases hlarge : h.payloadLen < 0 ∨ h.payloadLen.toInt > maxPayloadSize ∨
              h.byteLen < 0 ∨ h.byteLen.toInt > maxPayloadSize
          · simp only [if_pos hlarge]
          · -- past the check both buffers are within the limit
            obtain ⟨-, hpay, -, hbyte⟩ := sizes_of_not_tooLarge hlarge
            replace hpay := Int.toNat_le_toNat hpay
            replace hbyte := Int.toNat_le_toNat hbyte
            simp only [if_neg hlarge, capRead, if_pos hpay, unpackIn_capInflate _ _ hbyte]

/-! ## What a successful read returns -/

theorem readHeaderIn_eq_ok {level : Level} {h : Header} {flags : UInt32} {pos : Nat} :
    readHeaderIn fetchPrefix fetchHeader level = .ok (h, flags, pos) ↔
      ∃ fixed pos₀ raw, fetchPrefix 0 prefixSize = .ok (fixed, pos₀) ∧
        fixed.toList.take 4 = magic ∧ Lz4.word fixed 4 4 = version ∧
        Lz4.word fixed 12 8 ≤ maxHeaderSize ∧ flags = UInt32.ofNat (Lz4.word fixed 8 4) ∧
        fetchHeader pos₀ (Lz4.word fixed 12 8) = .ok (raw, pos) ∧ Header.decode raw = some h ∧
        h.validate flags level = .ok () := by
  constructor
  · intro hr
    unfold readHeaderIn at hr
    simp only [bind, Except.bind, throw, throwThe, MonadExceptOf.throw, pure, Except.pure] at hr
    split at hr
    · cases hr
    rename_i p hp
    split_ifs at hr with hmagic hver hsize
    split at hr
    · cases hr
    rename_i q hh
    split at hr
    · rename_i h' hd
      split at hr
      · cases hr
      · rename_i hv
        cases hr
        exact ⟨p.1, p.2, q.1, hp, not_not.mp hmagic, not_not.mp hver, Nat.le_of_not_lt hsize, rfl,
          hh, hd, hv⟩
    · cases hr
  · rintro ⟨fixed, pos₀, raw, hp, hmagic, hver, hsize, rfl, hh, hd, hv⟩
    unfold readHeaderIn
    simp [hp, hmagic, hver, Nat.not_lt.mpr hsize, hh, hd, hv, bind, Except.bind, pure, Except.pure]

theorem readIn_eq_ok {skipChecksum : Bool} {level : Level} {id : Nat} {v : View} {s : Storage}
    {h : Header}
    (hr : readIn fetchPrefix fetchHeader fetchPayload inflate skipChecksum level id = .ok (v, s, h)) :
    ∃ flags pos t payload pos' data,
      readHeaderIn fetchPrefix fetchHeader level = .ok (h, flags, pos) ∧
      DataType.parseFormat h.format.toUTF8.toList = .ok t ∧
      0 ≤ h.payloadLen.toInt ∧ h.payloadLen.toInt ≤ maxPayloadSize ∧
      0 ≤ h.byteLen.toInt ∧ h.byteLen.toInt ≤ maxPayloadSize ∧
      fetchPayload pos h.payloadLen.toInt.toNat = .ok (payload, pos') ∧
      unpackIn inflate payload flags h = .ok data ∧
      (skipChecksum = false → checkDigest data h.checksum = .ok ()) ∧
      newView (some (id, Storage.ofBytes data)) h.shape h.strides t.code = .ok (v, s) := by
  unfold readIn at hr
  simp only [bind, Except.bind, pure, Except.pure, throw, throwThe, MonadExceptOf.throw] at hr
  split at hr
  · cases hr
  rename_i x hx
  split at hr
  · cases hr
  rename_i t ht
  split at hr
  · cases hr
  rename_i hsize
  split at hr
  · cases hr
  rename_i q hq
  split at hr
  · cases hr
  rename_i data hu
  obtain ⟨h', flags, pos⟩ := x
  obtain ⟨payload, pos'⟩ := q
  obtain ⟨hp₀, hp, hb₀, hb⟩ := sizes_of_not_tooLarge hsize
  split at hr
  · split at hr
    · cases hr
    rename_i u hsum
    split at hr
    · cases hr
    rename_i w hw
    cases hr
    exact ⟨flags, pos, t, payload, pos', data, hx, ht, hp₀, hp, hb₀, hb, hq, hu, fun _ => hsum, hw⟩
  · rename_i hskip
    split at hr
    · cases hr
    rename_i w hw
    cases hr
    refine ⟨flags, pos, t, payload, pos', data, hx, ht, hp₀, hp, hb₀, hb, hq, hu, ?_, hw⟩
    intro hfalse
    simp [hfalse] at hskip

theorem unpackIn_size {payload data : ByteArray} {flags : UInt32} {h : Header}
    (hu : unpackIn inflate payload flags h = .ok data) (hb : 0 ≤ h.byteLen.toInt) :
    (data.size : Int) = h.byteLen.toInt := by
  unfold unpackIn at hu
  split at hu
  · dsimp only at hu
    split at hu
    · cases hu
    split at hu
    · cases hu
    · rename_i hsize
      cases hu
      omega
  · split at hu
    · cases hu
    · rename_i hsize
      cases hu
      exact not_not.mp hsize

theorem checkDigest_eq_ok {data stored : ByteArray} :
    checkDigest data stored = .ok () ↔ Blake3.hash data = stored := by
  have hlist : (Blake3.hash data).toList = stored.toList ↔ Blake3.hash data = stored := by
    rw [toList_eq, toList_eq, Array.toList_inj, ByteArray.ext_iff]
  unfold checkDigest
  dsimp only
  split_ifs with heq
  · simpa using hlist.mp heq
  · simpa using mt hlist.mpr heq

/-- What a read returns for header `h`: a view that is the only holder of a fresh storage
holding exactly the header's byte length, with the header's type, shape and strides. -/
structure Loaded (id : Nat) (h : Header) (v : View) (s : Storage) : Prop where
  fresh : FreshView id v s
  size : (s.bytes.size : Int) = h.byteLen.toInt
  dtype : DataType.parseFormat h.format.toUTF8.toList = .ok v.dtype
  shape : v.shape = h.shape
  strides : v.strides = h.strides

theorem readIn_loaded {skipChecksum : Bool} {level : Level} {id : Nat} {v : View} {s : Storage}
    {h : Header}
    (hr : readIn fetchPrefix fetchHeader fetchPayload inflate skipChecksum level id = .ok (v, s, h)) :
    Loaded id h v s ∧ (skipChecksum = false → Blake3.hash s.bytes = h.checksum) := by
  obtain ⟨flags, pos, t, payload, pos', data, -, ht, -, -, hb₀, -, -, hu, hsum, hview⟩ :=
    readIn_eq_ok hr
  have hfresh := newView_fresh hview
  obtain ⟨rfl, rfl⟩ := newView_ofBytes_eq_ok hview
  exact ⟨⟨hfresh, unpackIn_size hu hb₀, ht, rfl, rfl⟩, fun hskip => checkDigest_eq_ok.mp (hsum hskip)⟩

/-! ## Levels

The level reaches the reader only through the header's validation, and every level
accepts what the strict one accepts, the level `none` everything. -/

theorem validate_none (h : Header) (flags : UInt32) : h.validate flags .none = .ok () := by
  unfold Header.validate
  rw [if_pos rfl]

theorem validate_of_strict {h : Header} {flags : UInt32} (hv : h.validate flags .strict = .ok ())
    (level : Level) : h.validate flags level = .ok () := by
  cases level with
  | strict => exact hv
  | none => exact validate_none h flags
  | normal =>
    unfold Header.validate at hv ⊢
    revert hv
    simp only [reduceCtorEq, if_false]
    cases DataType.parseFormat h.format.toUTF8.toList with
    | error f => intro hv; cases hv
    | ok t =>
      -- the normal level makes the strict level's checks but the metadata limits
      dsimp only
      split_ifs <;> simp

theorem readHeaderIn_relax {l l' : Level}
    (hrel : ∀ (h : Header) flags, h.validate flags l = .ok () → h.validate flags l' = .ok ())
    {x : Header × UInt32 × Nat} (hr : readHeaderIn fetchPrefix fetchHeader l = .ok x) :
    readHeaderIn fetchPrefix fetchHeader l' = .ok x := by
  obtain ⟨h, flags, pos⟩ := x
  obtain ⟨fixed, pos₀, raw, hp, hmagic, hver, hsize, hflags, hh, hd, hv⟩ := readHeaderIn_eq_ok.mp hr
  exact readHeaderIn_eq_ok.mpr
    ⟨fixed, pos₀, raw, hp, hmagic, hver, hsize, hflags, hh, hd, hrel h flags hv⟩

theorem readIn_relax {skipChecksum : Bool} {id : Nat} {l l' : Level}
    (hrel : ∀ (h : Header) flags, h.validate flags l = .ok () → h.validate flags l' = .ok ())
    {r : View × Storage × Header}
    (hr : readIn fetchPrefix fetchHeader fetchPayload inflate skipChecksum l id = .ok r) :
    readIn fetchPrefix fetchHeader fetchPayload inflate skipChecksum l' id = .ok r := by
  unfold readIn at hr ⊢
  cases hx : readHeaderIn fetchPrefix fetchHeader l with
  | error e =>
    rw [hx] at hr
    cases hr
  | ok x =>
    rw [hx] at hr
    rw [readHeaderIn_relax hrel hx]
    exact hr

/-! ## Faults

Each step fails with a fault of its own kind, and none of them is a panic: the storage a
read builds its view over is fresh, so the view's reference to it is always taken. -/

/-- Whether a computation that fails never fails with a panic. -/
def NoPanic {α : Type} (o : Outcome α) : Prop := ∀ f, o = .error f → f.kind ≠ .panic

theorem parseFormat_error_kind {bs : List UInt8} {f : Fault}
    (h : DataType.parseFormat bs = .error f) : f.kind = .unsupportedFormat := by
  unfold DataType.parseFormat DataType.fromTag at h
  split at h
  · split at h
    · cases h
    · cases h
      rfl
  · cases h
    rfl

theorem metadataProblem_kind {entries : List (String × String)} {f : Fault}
    (h : metadataProblem entries = some f) : f.kind = .validation := by
  unfold metadataProblem at h
  dsimp only at h
  split_ifs at h
  · obtain rfl := Option.some.inj h
    rfl
  · obtain rfl := Option.some.inj h
    rfl

theorem validate_error_kind {h : Header} {flags : UInt32} {level : Level} {f : Fault}
    (hv : h.validate flags level = .error f) :
    f.kind = .validation ∨ f.kind = .payloadTooLarge := by
  unfold Header.validate at hv
  split at hv
  · cases hv
  split at hv
  · cases hv
    exact .inl rfl
  split_ifs at hv with hrank hmax hneg hlarge hpay hsum hstrict
  · cases hv
    exact .inl rfl
  · cases hv
    exact .inl rfl
  · cases hv
    exact .inl rfl
  · cases hv
    exact .inr rfl
  · cases hv
    exact .inl rfl
  · cases hv
    exact .inl rfl
  · split at hv
    · rename_i f' hf'
      cases hv
      exact .inl (metadataProblem_kind hf')
    · cases hv

theorem checkDigest_error_kind {data stored : ByteArray} {f : Fault}
    (h : checkDigest data stored = .error f) : f.kind = .checksumMismatch := by
  unfold checkDigest at h
  dsimp only at h
  split_ifs at h
  cases h
  rfl

theorem readHeaderIn_noPanic (hp : ∀ pos n, NoPanic (fetchPrefix pos n))
    (hh : ∀ pos n, NoPanic (fetchHeader pos n)) (level : Level) :
    NoPanic (readHeaderIn fetchPrefix fetchHeader level) := by
  intro f h
  unfold readHeaderIn at h
  simp only [bind, Except.bind, throw, throwThe, MonadExceptOf.throw, pure, Except.pure] at h
  split at h
  · rename_i e he
    cases h
    exact hp _ _ _ he
  split_ifs at h
  · cases h
    simp [Fault.kind, Sentinel.kind]
  · cases h
    simp [Fault.kind, Sentinel.kind]
  · cases h
    simp [Fault.kind, Sentinel.kind]
  split at h
  · rename_i e he
    cases h
    exact hh _ _ _ he
  split at h
  · split at h
    · rename_i hv
      cases h
      rcases validate_error_kind hv with hk | hk <;> simp [Fault.kind, hk]
    · cases h
  · cases h
    simp [Fault.kind]

theorem unpackIn_noPanic (hi : ∀ payload want, NoPanic (inflate payload want))
    (payload : ByteArray) (flags : UInt32) (h : Header) :
    NoPanic (unpackIn inflate payload flags h) := by
  intro f hu
  unfold unpackIn at hu
  split at hu
  · dsimp only at hu
    split at hu
    · rename_i e he
      cases hu
      exact hi _ _ _ he
    split at hu
    · cases hu
      simp [Fault.kind]
    · cases hu
  · split at hu
    · cases hu
      simp [Fault.kind]
    · cases hu

theorem newView_ofBytes_noPanic {id : Nat} {data : ByteArray} {shape : Shape}
    {strides : List Int64} {code : Int} :
    NoPanic (newView (some (id, Storage.ofBytes data)) shape strides code) := by
  intro e he
  rcases newView_ofBytes_error_kind he with hk | hk <;> simp [hk]

theorem readIn_noPanic (hp : ∀ pos n, NoPanic (fetchPrefix pos n))
    (hh : ∀ pos n, NoPanic (fetchHeader pos n)) (hd : ∀ pos n, NoPanic (fetchPayload pos n))
    (hi : ∀ payload want, NoPanic (inflate payload want)) (skipChecksum : Bool) (level : Level)
    (id : Nat) : NoPanic (readIn fetchPrefix fetchHeader fetchPayload inflate skipChecksum level id) := by
  intro f hr
  unfold readIn at hr
  simp only [bind, Except.bind, pure, Except.pure, throw, throwThe, MonadExceptOf.throw] at hr
  split at hr
  · rename_i e he
    cases hr
    exact readHeaderIn_noPanic hp hh level _ he
  split at hr
  · rename_i e he
    cases hr
    simp [parseFormat_error_kind he]
  split at hr
  · cases hr
    simp [Fault.kind, Sentinel.kind]
  split at hr
  · rename_i e he
    cases hr
    exact hd _ _ _ he
  split at hr
  · rename_i e he
    cases hr
    exact unpackIn_noPanic hi _ _ _ _ he
  split at hr
  · split at hr
    · rename_i e he
      cases hr
      simp [checkDigest_error_kind he]
    split at hr
    · rename_i e he
      cases hr
      exact newView_ofBytes_noPanic _ he
    · cases hr
  · split at hr
    · rename_i e he
      cases hr
      exact newView_ofBytes_noPanic _ he
    · cases hr

end Reads

theorem fetch_noPanic (src : Source) (what : String) (pos n : Nat) :
    NoPanic (src.fetch what pos n) := by
  intro f hf
  unfold Source.fetch step at hf
  split at hf
  · cases hf
  · cases hf
    simp [Fault.kind]

theorem inflateLz4_noPanic (payload : ByteArray) (want : Nat) :
    NoPanic (inflateLz4 payload want) := by
  intro f hf
  unfold inflateLz4 at hf
  split at hf
  · cases hf
    simp [Fault.kind]
  · cases hf

/-- Reading a snapshot, from any source, at any level and with the checksum compared or
skipped, never panics; it asks for no header buffer beyond the header limit and no payload
or decompression buffer beyond the payload limit; a successful read returns the view over
a fresh storage of exactly the header's byte length, with the header's type, shape and
strides, and with the header's checksum unless the check is skipped; and an answer of the
strict level is the answer of the normal one and of none, and one of the normal level the
answer of none. -/
theorem read_safe_bounded_and_monotone (src : Source) (skip : Bool) (level : Level) (id : Nat) :
    NoPanic (read src skip level id) ∧
    read src skip level id = readIn (src.fetch "failed to read fixed header")
      (capRead maxHeaderSize (src.fetch "failed to read header"))
      (capRead maxPayloadSize.toNat (src.fetch "failed to read payload"))
      (capInflate maxPayloadSize.toNat inflateLz4) skip level id ∧
    (∀ v s h, read src skip level id = .ok (v, s, h) →
      Loaded id h v s ∧ (skip = false → Blake3.hash s.bytes = h.checksum)) ∧
    (∀ r, read src skip .strict id = .ok r →
      read src skip .normal id = .ok r ∧ read src skip .none id = .ok r) ∧
    (∀ r, read src skip .normal id = .ok r → read src skip .none id = .ok r) := by
  simp only [read_eq_readIn]
  refine ⟨?safe, readIn_capped skip level id |>.symm, fun v s h hr => readIn_loaded hr, ?strict,
    ?normal⟩
  case safe =>
    exact readIn_noPanic (fetch_noPanic src _) (fetch_noPanic src _) (fetch_noPanic src _)
      inflateLz4_noPanic skip level id
  case strict =>
    intro r hr
    exact ⟨readIn_relax (fun h flags hv => validate_of_strict hv .normal) hr,
      readIn_relax (fun h flags hv => validate_of_strict hv .none) hr⟩
  case normal =>
    intro r hr
    exact readIn_relax (fun h flags _ => validate_none h flags) hr

end StridedBuffer.Snapshot
