import Mathlib
import StridedBuffer.Snapshot.File
import StridedBuffer.Proofs.HeaderRead
import StridedBuffer.Proofs.LayoutFit
import StridedBuffer.Proofs.Constructors

/-! # Snapshot files read back

A file is the fixed prefix, the encoded header and the payload, one after another. The
main result, `written_file_reads_back`, follows a successful write through every step of
a strict read of that file, with any bytes after it: the prefix gives the flags and the
header size, the header decodes and validates, exactly the payload is read, unpacked and
checked against the digest, and the view comes back over a fresh storage with the
written bytes.

The write checks less than the reader asks for. `ReadableWrite` collects what is left: a
rank the decoder's arrays can hold, metadata within the strict limits, storage within
the payload limit and a four-digit year. `rank_beyond_decoder_unreadable` is a written
file that does not read back.
-/

namespace StridedBuffer.Blake3

theorem compress_size (cv block : Array UInt32) (counter : Nat) (len flags : UInt32) :
    (compress cv block counter len flags).size = 16 := by
  simp only [compress, Array.size_map, Array.size_range]

theorem rootBytes_size (o : Output) : o.rootBytes.size = 32 := by
  unfold Output.rootBytes
  have h8 : ((compress o.cv o.block o.counter o.len (o.flags ||| root)).extract 0 8).size = 8 := by
    simp [compress_size]
  simp only [ByteArray.size, Array.size_flatMap, List.size_toArray, List.length_cons,
    List.length_nil]
  rw [Array.map_const', h8]
  rfl

theorem hash_size (data : ByteArray) : (hash data).size = 32 :=
  rootBytes_size _

end StridedBuffer.Blake3

namespace StridedBuffer.Snapshot

open Cbor

section Bytes

theorem toList_loop (bs : ByteArray) (i : Nat) (r : List UInt8) :
    ByteArray.toList.loop bs i r = r.reverse ++ bs.data.toList.drop i := by
  fun_induction ByteArray.toList.loop bs i r with
  | case1 i r hi ih =>
    rw [ih, List.reverse_cons, List.append_assoc, List.singleton_append]
    congr 1
    have hlen : i < bs.data.toList.length := by rw [Array.length_toList]; exact hi
    rw [List.drop_eq_getElem_cons hlen]
    simp [ByteArray.get!, getElem!_pos, hi]
  | case2 i r hi =>
    rw [List.drop_eq_nil_of_le (by rw [Array.length_toList]; exact Nat.le_of_not_lt hi),
      List.append_nil]

theorem toList_eq (bs : ByteArray) : bs.toList = bs.data.toList := by
  unfold ByteArray.toList
  rw [toList_loop]
  simp

theorem word_of_bytes {bs : ByteArray} : ∀ {w pos n : Nat},
    (∀ i < w, bs[pos + i]? = some (UInt8.ofNat (n / 256 ^ i))) → Lz4.word bs pos w = n % 256 ^ w
  | 0, _, n, _ => by simp [Lz4.word, Nat.mod_one]
  | w + 1, pos, n, h => by
    have hrest : Lz4.word bs (pos + 1) w = n / 256 % 256 ^ w := by
      refine word_of_bytes fun i hi => ?_
      rw [Nat.add_assoc, Nat.add_comm 1 i, h (i + 1) (by omega), Nat.div_div_eq_div_mul,
        ← Nat.pow_succ']
    have h0 := h 0 (by omega)
    simp only [Nat.add_zero, Nat.pow_zero, Nat.div_one] at h0
    unfold Lz4.word at hrest ⊢
    rw [List.range_succ_eq_map, List.foldr_cons, List.foldr_map]
    simp only [Nat.succ_eq_add_one, Nat.add_assoc, Nat.add_comm 1] at hrest ⊢
    rw [hrest, Nat.add_zero, h0, Option.getD_some, UInt8.toNat_ofNat',
      show 256 ^ (w + 1) = 256 * 256 ^ w from Nat.pow_succ', Nat.mod_mul]
    omega

@[simp] theorem size_littleBytes (w n : Nat) :
    (⟨(littleBytes w n).toArray⟩ : ByteArray).size = w := by
  show (littleBytes w n).length = w
  simp [littleBytes]

theorem word_littleBytes {bs : ByteArray} {pos w n : Nat}
    (h : Within bs pos ⟨(littleBytes w n).toArray⟩) : Lz4.word bs pos w = n % 256 ^ w := by
  refine word_of_bytes fun i hi => ?_
  rw [h.2 i (by simpa using hi)]
  simp [ByteArray.getElem_eq_getElem_data, littleBytes, Nat.pow_eq]

theorem within_four (a b c d : ByteArray) :
    Within (a ++ b ++ c ++ d) 0 a ∧ Within (a ++ b ++ c ++ d) a.size b ∧
      Within (a ++ b ++ c ++ d) (a.size + b.size) c ∧
      Within (a ++ b ++ c ++ d) (a.size + b.size + c.size) d := by
  obtain ⟨habc, hd⟩ := within_append.mp (within_self (a ++ b ++ c ++ d))
  obtain ⟨hab, hc⟩ := within_append.mp habc
  obtain ⟨ha, hb⟩ := within_append.mp hab
  simp only [ByteArray.size_append, Nat.zero_add] at hb hc hd
  exact ⟨ha, hb, hc, hd⟩

theorem readFull_of_within {bs x : ByteArray} {pos : Nat} (h : Within bs pos x) :
    readFull ⟨bs, none⟩ pos x.size = .ok (x, pos + x.size) := by
  have hle := h.1
  unfold readFull
  by_cases hx : x.size = 0
  · have hempty : x = ByteArray.empty :=
      ByteArray.ext (Array.eq_empty_of_size_eq_zero hx)
    rw [if_pos hx, hempty, ByteArray.size_empty, Nat.add_zero]
  · simp only [hx, if_false]
    rw [if_neg (by omega), if_neg (by omega), h.extract]

end Bytes

section Written

variable {c : Codecs}

/-- The header a write of `data` through `c` puts before its payload when the clock reads
`now`. -/
def writtenHeader (v : View) (data : ByteArray) (opts : WriteOptions) (now : Clock.Instant)
    (c : Codecs) : Header :=
  { format := v.dtype.tagText, shape := v.shape, strides := v.strides,
    byteLen := Int64.ofNat data.size, payloadLen := Int64.ofNat (pack data opts c).1.size,
    checksum := c.digest data, createdAt := (opts.stamp now).utc, metadata := opts.metadata }

/-- The fixed prefix of a file with these flags and this header size. -/
def fixedPrefix (flags : UInt32) (size : Nat) : ByteArray :=
  ⟨(magic ++ littleBytes 4 version ++ littleBytes 4 flags.toNat ++ littleBytes 8 size).toArray⟩

theorem write_eq_ok {v : View} {s : Storage} {opts : WriteOptions} {now : Clock.Instant}
    {file : ByteArray} (hw : write v s opts now c = .ok file) :
    v.released = false ∧ s.released = false ∧
      (c.encodeHeader (writtenHeader v s.bytes opts now c)).size ≤ maxHeaderSize ∧
      file = fixedPrefix (pack s.bytes opts c).2
          (c.encodeHeader (writtenHeader v s.bytes opts now c)).size ++
        c.encodeHeader (writtenHeader v s.bytes opts now c) ++ (pack s.bytes opts c).1 := by
  unfold write at hw
  cases hv : v.released <;> cases hs : s.released <;>
    simp [hv, hs, Storage.data, bind, Except.bind, pure, Except.pure] at hw
  split at hw
  · cases hw
  rename_i hsize
  refine ⟨rfl, rfl, Nat.le_of_not_lt hsize, ?_⟩
  split at hw
  · split at hw
    · cases hw
    split at hw
    · cases hw
    split at hw
    · cases hw
    cases hw
    simp only [fixedPrefix, List.append_assoc]
    rfl
  · cases hw
    simp only [fixedPrefix, List.append_assoc]
    rfl

theorem fixedPrefix_eq (flags : UInt32) (size : Nat) :
    fixedPrefix flags size = ⟨magic.toArray⟩ ++ ⟨(littleBytes 4 version).toArray⟩ ++
      ⟨(littleBytes 4 flags.toNat).toArray⟩ ++ ⟨(littleBytes 8 size).toArray⟩ := by
  simp only [fixedPrefix, ← List.append_toArray, mk_append]

theorem size_fixedPrefix (flags : UInt32) (size : Nat) :
    (fixedPrefix flags size).size = prefixSize := by
  rw [fixedPrefix_eq]
  simp only [ByteArray.size_append, size_littleBytes]
  rfl

theorem metadataFlag_compressed (empty : Bool) {f : UInt32} (hf : f = 0 ∨ f = flagCompressed) :
    (if empty then f else f ||| flagHasMetadata) &&& flagCompressed = f &&& flagCompressed := by
  rcases hf with rfl | rfl <;> cases empty <;> decide

theorem pack_spec (data : ByteArray) (opts : WriteOptions) (c : Codecs) :
    ((pack data opts c).1 = data ∧ (pack data opts c).2 &&& flagCompressed = 0) ∨
      (opts.compress = true ∧ (pack data opts c).1 = c.compress data ∧
        (c.compress data).size < data.size ∧ (pack data opts c).2 &&& flagCompressed ≠ 0) := by
  have plain := metadataFlag_compressed opts.metadata.isEmpty (f := 0) (.inl rfl)
  have packed := metadataFlag_compressed opts.metadata.isEmpty (.inr rfl)
  unfold pack
  cases hc : opts.compress
  · exact .inl ⟨rfl, plain⟩
  · by_cases hs : 0 < (c.compress data).size ∧ (c.compress data).size < data.size
    · refine .inr ⟨rfl, by simp [hs], hs.2, ?_⟩
      simp only [hs, and_self, if_true]
      rw [packed]
      decide
    · rw [if_neg hs]
      exact .inl ⟨rfl, plain⟩

theorem pack_size_le (data : ByteArray) (opts : WriteOptions) (c : Codecs) :
    (pack data opts c).1.size ≤ data.size := by
  rcases pack_spec data opts c with ⟨hp, -⟩ | ⟨-, hp, hlt, -⟩
  · rw [hp]
  · rw [hp]
    exact hlt.le

theorem pack_eq_of_plain {data : ByteArray} {opts : WriteOptions}
    (h : (pack data opts c).2 &&& flagCompressed = 0) : (pack data opts c).1 = data := by
  rcases pack_spec data opts c with ⟨hp, -⟩ | ⟨-, -, -, hf⟩
  · exact hp
  · exact absurd h hf

theorem compressed_iff_shorter (data : ByteArray) (opts : WriteOptions) (c : Codecs) :
    (pack data opts c).2 &&& flagCompressed ≠ 0 ↔ (pack data opts c).1.size < data.size := by
  rcases pack_spec data opts c with ⟨hp, hf⟩ | ⟨-, hp, hlt, hf⟩
  · simp [hf, hp]
  · rw [hp]
    exact ⟨fun _ => hlt, fun _ => hf⟩

end Written

section Reading

variable {c : Codecs}

theorem fixedPrefix_reads (flags : UInt32) {size : Nat} (hsize : size < 2 ^ 64) :
    (fixedPrefix flags size).toList.take 4 = magic ∧
      Lz4.word (fixedPrefix flags size) 4 4 = version ∧
      UInt32.ofNat (Lz4.word (fixedPrefix flags size) 8 4) = flags ∧
      Lz4.word (fixedPrefix flags size) 12 8 = size := by
  obtain ⟨-, hver, hflags, hsz⟩ := fixedPrefix_eq flags size ▸ within_four _ _ _ _
  simp only [size_littleBytes, show (⟨magic.toArray⟩ : ByteArray).size = 4 from rfl] at hver hflags hsz
  refine ⟨?_, ?_, ?_, ?_⟩
  · rw [toList_eq]
    rfl
  · rw [word_littleBytes hver]
    rfl
  · rw [word_littleBytes hflags, Nat.mod_eq_of_lt (show flags.toNat < 256 ^ 4 from flags.toNat_lt),
      UInt32.ofNat_toNat]
  · rw [word_littleBytes hsz, Nat.mod_eq_of_lt (by simpa using hsize)]

theorem readHeader_framed {bs cbor : ByteArray} {flags : UInt32} {D : Header} {level : Level}
    (hpre : Within bs 0 (fixedPrefix flags cbor.size)) (hc : Within bs prefixSize cbor)
    (hmax : cbor.size ≤ maxHeaderSize) (hdec : c.decodeHeader cbor = some D)
    (hval : D.validate flags level = .ok ()) :
    readHeader ⟨bs, none⟩ level c = .ok (D, flags, prefixSize + cbor.size) := by
  have hfixed := readFull_of_within hpre
  rw [size_fixedPrefix, Nat.zero_add] at hfixed
  obtain ⟨hmagic, hver, hflags, hsize⟩ :=
    fixedPrefix_reads flags (show cbor.size < 2 ^ 64 by unfold maxHeaderSize at hmax; omega)
  unfold readHeader
  simp [hfixed, step, bind, Except.bind, pure, Except.pure, hmagic, hver, hflags, hsize,
    Nat.not_lt.mpr hmax, readFull_of_within hc, hdec, hval]

theorem unpack_pack {data : ByteArray} {opts : WriteOptions} {D : Header}
    (hlen : D.byteLen.toInt = data.size)
    (hlz4 : opts.compress = true → c.decompress (c.compress data) data.size = some data) :
    unpack (pack data opts c).1 (pack data opts c).2 D c = .ok data := by
  rcases pack_spec data opts c with ⟨hp, hf⟩ | ⟨hc, hp, -, hf⟩
  · simp [unpack, hp, hf, hlen]
  · simp [unpack, hp, hf, hlen, hlz4 hc]

theorem parseFormat_tagText (t : DataType) :
    DataType.parseFormat t.tagText.toUTF8.toList = .ok t := by
  rw [toList_eq]
  cases t <;> rfl

theorem metadataProblem_perm {l l' : List (String × String)} (h : l.Perm l') :
    metadataProblem l = metadataProblem l' := by
  unfold metadataProblem
  rw [h.length_eq, h.foldl_eq' (fun _ _ _ _ _ => by omega)]

theorem length_le_of_metadataProblem {entries : List (String × String)}
    (h : metadataProblem entries = none) : entries.length ≤ maxMetadataKeys := by
  unfold metadataProblem at h
  split_ifs at h with hlen
  omega

theorem validate_eq_ok {D : Header} {flags : UInt32} {level : Level} {t : DataType}
    (hfmt : D.format = t.tagText) (hrank : D.shape.length = D.strides.length)
    (hmax : D.shape.length ≤ maxRank) (hbyte : 0 ≤ D.byteLen.toInt)
    (hbyteMax : D.byteLen.toInt ≤ maxPayloadSize) (hpay : 0 ≤ D.payloadLen.toInt)
    (hpayMax : D.payloadLen.toInt ≤ maxPayloadSize)
    (hflag : flags &&& flagCompressed = 0 → D.payloadLen = D.byteLen)
    (hsum : D.checksum.size = 32) (hmeta : metadataProblem D.metadata = none) :
    D.validate flags level = .ok () := by
  have hlens : ¬(flags &&& flagCompressed = 0 ∧ D.payloadLen ≠ D.byteLen) :=
    fun h => h.2 (hflag h.1)
  have hstrides : ¬maxRank < D.strides.length := by omega
  unfold Header.validate
  rw [hfmt, parseFormat_tagText]
  simp [hrank, hstrides, Int64.lt_iff_toInt_lt, Int.not_lt.mpr hbyte, Int.not_lt.mpr hpay,
    Int.not_lt.mpr hbyteMax, Int.not_lt.mpr hpayMax, hlens, hsum, hmeta]

theorem length_eq_of_problem {shape strides : List Int64} {itemSize storageLen : Nat}
    (h : Layout.problem shape strides itemSize storageLen = none) :
    shape.length = strides.length := by
  by_contra hne
  simp [Layout.problem, hne] at h

theorem read_eq_ok {src : Source} {level : Level} {id : Nat} {D : Header} {flags : UInt32}
    {pos pos' : Nat} {t : DataType} {payload data : ByteArray} {r : View × Storage}
    (hhdr : readHeader src level c = .ok (D, flags, pos))
    (hfmt : DataType.parseFormat D.format.toUTF8.toList = .ok t)
    (hbyte : 0 ≤ D.byteLen.toInt) (hbyteMax : D.byteLen.toInt ≤ maxPayloadSize)
    (hpay : 0 ≤ D.payloadLen.toInt) (hpayMax : D.payloadLen.toInt ≤ maxPayloadSize)
    (hfull : readFull src pos D.payloadLen.toInt.toNat = .ok (payload, pos'))
    (hunpack : unpack payload flags D c = .ok data) (hsum : c.digest data = D.checksum)
    (hview : newView (some (id, Storage.ofBytes data)) D.shape D.strides t.code = .ok r) :
    read src false level id c = .ok (r.1, r.2, D) := by
  simp only [String.toUTF8_eq_toByteArray] at hfmt
  simp only [Int64.toNat_toInt] at hfull
  unfold read
  simp [hhdr, hfmt, Int64.lt_iff_toInt_lt, Int.not_lt.mpr hbyte, Int.not_lt.mpr hpay,
    Int.not_lt.mpr hbyteMax, Int.not_lt.mpr hpayMax, step, hfull, hunpack, checkDigest, hsum,
    hview, bind, Except.bind, pure, Except.pure]

end Reading

/-- A header within the limits the header decoder is configured with: arrays of at most 64
items, at most 131072 metadata entries with distinct keys, and a time in a year of four
digits. -/
structure Header.WithinLimits (h : Header) : Prop where
  shape : h.shape.length ≤ 64
  strides : h.strides.length ≤ 64
  metadata : h.metadata.length ≤ 131072
  keys : (h.metadata.map Prod.fst).Nodup
  after : -62167219200 ≤ h.createdAt.seconds
  before : h.createdAt.seconds < 253402300800
  nanos : h.createdAt.nanos < 1000000000

/-- What a file asks of its codecs: the header decoder inverts the encoder on headers
within its limits, giving the time in UTC and the metadata in key order, and a digest is
32 bytes long. -/
structure Codecs.Lawful (c : Codecs) : Prop where
  decodeHeader_encodeHeader : ∀ h : Header, h.WithinLimits → (c.encodeHeader h).size < 2 ^ 64 →
    c.decodeHeader (c.encodeHeader h) =
      some { h with createdAt := h.createdAt.utc, metadata := h.metadata.mergeSort metadataOrder }
  digest_size : ∀ data, (c.digest data).size = 32

theorem Codecs.linked_lawful : Codecs.linked.Lawful where
  decodeHeader_encodeHeader h hl hsize := by
    simp only [Codecs.linked] at hsize ⊢
    exact decode_encode h hl.shape hl.strides hl.metadata hl.keys hl.after hl.before hl.nanos hsize
  digest_size := Blake3.hash_size

/-- What a strict reader asks of a written file beyond what the write checks itself: a
rank the decoder's arrays can hold, metadata within the strict limits and with distinct
keys, storage within the payload limit, and a recorded time, the given one or the clock's,
whose UTC year has four digits. -/
structure ReadableWrite (v : View) (s : Storage) (opts : WriteOptions) (now : Clock.Instant) :
    Prop where
  rank : v.shape.length ≤ maxRank
  size : (s.len : Int) ≤ maxPayloadSize
  metadata : metadataProblem opts.metadata = none
  keys : (opts.metadata.map Prod.fst).Nodup
  after : -62167219200 ≤ (opts.stamp now).seconds
  before : (opts.stamp now).seconds < 253402300800
  nanos : (opts.stamp now).nanos < 1000000000

/-- A file written from a view that fits its storage reads back strictly, with anything
after it: the reader stops at the file's end and returns the view over a fresh storage
holding the written bytes, and the header records the storage length, a payload no
longer than it and shorter exactly when compressed, the metadata, and in UTC the given
time or, when none is given, the clock's. This holds when the write is `ReadableWrite`,
the codecs are lawful and the block codec decompresses its own block of the storage. -/
theorem written_file_reads_back {c : Codecs} (laws : c.Lawful) {v : View} {s : Storage}
    {opts : WriteOptions} {now : Clock.Instant} {file : ByteArray}
    (hw : write v s opts now c = .ok file)
    (hfit : Layout.problem v.shape v.strides v.itemSize s.len = none)
    (hok : ReadableWrite v s opts now)
    (hlz4 : opts.compress = true → c.decompress (c.compress s.bytes) s.len = some s.bytes)
    (id : Nat) (rest : ByteArray) :
    ∃ h flags pos,
      readHeader ⟨file ++ rest, none⟩ .strict c = .ok (h, flags, pos) ∧
      pos + h.payloadLen.toInt.toNat = file.size ∧
      read ⟨file ++ rest, none⟩ false .strict id c =
        .ok (⟨id, v.shape, v.strides, v.dtype, false⟩, ⟨s.bytes, 1, 0, false⟩, h) ∧
      h.byteLen.toInt = s.len ∧ h.payloadLen.toInt ≤ h.byteLen.toInt ∧
      (flags &&& flagCompressed ≠ 0 ↔ h.payloadLen.toInt < h.byteLen.toInt) ∧
      (opts.createdAt.isZero = false → h.createdAt = opts.createdAt.utc) ∧
      (opts.createdAt.isZero = true → h.createdAt = now.utc) ∧ h.metadata.Perm opts.metadata := by
  obtain ⟨-, -, hmax, rfl⟩ := write_eq_ok hw
  have hcap : (s.bytes.size : Int) ≤ maxPayloadSize := hok.size
  have hsize : s.bytes.size < 2 ^ 62 := by
    simp only [maxPayloadSize, Nat.pow_eq] at hcap
    omega
  have hpackSize := pack_size_le s.bytes opts c
  set H := writtenHeader v s.bytes opts now c
  set D : Header := { H with metadata := opts.metadata.mergeSort metadataOrder }
  have hbyteLen : D.byteLen.toInt = s.bytes.size := Layout.toInt_ofNat_small hsize
  have hpayLen : D.payloadLen.toInt = (pack s.bytes opts c).1.size :=
    Layout.toInt_ofNat_small (by omega)
  have hbyteMax : D.byteLen.toInt ≤ maxPayloadSize := by rw [hbyteLen]; exact hcap
  have hpayMax : D.payloadLen.toInt ≤ maxPayloadSize := by rw [hpayLen]; omega
  have hlens := length_eq_of_problem hfit
  have hlimits : H.WithinLimits :=
    ⟨hok.rank, show v.strides.length ≤ maxRank from hlens ▸ hok.rank,
      (length_le_of_metadataProblem hok.metadata).trans (by decide),
      hok.keys, hok.after, hok.before, hok.nanos⟩
  have hdec : c.decodeHeader (c.encodeHeader H) = some D :=
    laws.decodeHeader_encodeHeader H hlimits (by unfold maxHeaderSize at hmax; omega)
  have hval : D.validate (pack s.bytes opts c).2 .strict = .ok () := by
    refine validate_eq_ok rfl hlens hok.rank (by omega) hbyteMax (by omega) hpayMax
      (fun hf => by simp [D, H, writtenHeader, pack_eq_of_plain hf]) (laws.digest_size _) ?_
    rw [metadataProblem_perm (List.mergeSort_perm _ _)]
    exact hok.metadata
  obtain ⟨hpre, hcbor, hpay, -⟩ :=
    within_four (fixedPrefix (pack s.bytes opts c).2 (c.encodeHeader H).size)
      (c.encodeHeader H) (pack s.bytes opts c).1 rest
  rw [size_fixedPrefix] at hcbor hpay
  have hhdr := readHeader_framed hpre hcbor hmax hdec hval
  refine ⟨D, _, _, hhdr, ?_, ?_, hbyteLen, by omega, ?_,
    fun hz => by rw [← WriteOptions.stamp_of_given hz now]; rfl,
    fun hz => by rw [← WriteOptions.stamp_of_zero hz now]; rfl, List.mergeSort_perm _ _⟩
  · simp [hpayLen, ByteArray.size_append, size_fixedPrefix]
  · have hfull := readFull_of_within hpay
    rw [← Int.toNat_natCast (pack s.bytes opts c).1.size, ← hpayLen] at hfull
    exact read_eq_ok hhdr (parseFormat_tagText _) (by omega) hbyteMax (by omega) hpayMax
      hfull (unpack_pack hbyteLen hlz4) rfl (newView_ofBytes hfit)
  · rw [hpayLen, hbyteLen, Nat.cast_lt]
    exact compressed_iff_shorter s.bytes opts c

/-- Written with the default options, the file records the clock's time. -/
theorem one_byte_file_reads_back :
    ∃ file h,
      write ⟨0, [1], [1], .uint8, false⟩ ⟨⟨#[42]⟩, 1, 0, false⟩ {} ⟨1700000000, 0, 0⟩ =
        .ok file ∧
      read ⟨file ++ ByteArray.empty, none⟩ false .strict 7 =
        .ok (⟨7, [1], [1], .uint8, false⟩, ⟨⟨#[42]⟩, 1, 0, false⟩, h) ∧
      h.createdAt = (⟨1700000000, 0, 0⟩ : Clock.Instant).utc := by
  have hrun : (write ⟨0, [1], [1], .uint8, false⟩ ⟨⟨#[42]⟩, 1, 0, false⟩ {}
      ⟨1700000000, 0, 0⟩).toBool = true := by decide +kernel
  cases hw : write ⟨0, [1], [1], .uint8, false⟩ ⟨⟨#[42]⟩, 1, 0, false⟩ {}
      ⟨1700000000, 0, 0⟩ with
  | error e =>
    rw [hw] at hrun
    cases hrun
  | ok file =>
    obtain ⟨h, -, -, -, -, hread, -, -, -, -, hclock, -⟩ :=
      written_file_reads_back Codecs.linked_lawful hw (by decide)
      ⟨by decide, by decide, rfl, List.nodup_nil, by decide, by decide, by decide⟩
      (fun h => absurd h Bool.false_ne_true) 7 ByteArray.empty
    exact ⟨file, h, rfl, hread, hclock (by decide)⟩

/-- The rank limit is the reader's alone: a view of rank 65 fits its one-byte storage and
is written, but its file does not read back, since the header's shape is an array of more
items than the decoder takes. -/
theorem rank_beyond_decoder_unreadable :
    Layout.problem (List.replicate 65 1) (List.replicate 65 1) 1 1 = none ∧
      ∃ file, write ⟨0, List.replicate 65 1, List.replicate 65 1, .uint8, false⟩
          ⟨⟨#[42]⟩, 1, 0, false⟩ { createdAt := ⟨0, 0, 0⟩ } ⟨0, 0, 0⟩ = .ok file ∧
        ∃ f, read ⟨file, none⟩ false .strict 1 = .error f := by
  have hrun : (match write ⟨0, List.replicate 65 1, List.replicate 65 1, .uint8, false⟩
      ⟨⟨#[42]⟩, 1, 0, false⟩ { createdAt := ⟨0, 0, 0⟩ } ⟨0, 0, 0⟩ with
    | .ok file => (read ⟨file, none⟩ false .strict 1).toBool
    | .error _ => true) = false := by decide +kernel
  refine ⟨by decide, ?_⟩
  split at hrun
  · rename_i file hw
    refine ⟨file, hw, ?_⟩
    cases hr : read ⟨file, none⟩ false .strict 1 with
    | error f => exact ⟨f, rfl⟩
    | ok r =>
      rw [hr] at hrun
      cases hrun
  · cases hrun

end StridedBuffer.Snapshot
