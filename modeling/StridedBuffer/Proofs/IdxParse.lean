import Mathlib
import StridedBuffer.Proofs.Contiguous
import StridedBuffer.Proofs.WorkSplit

/-! # Parsing IDX files

An IDX file that passes every check becomes a row-major view over a fresh storage: the
type byte names the element type, the big-endian words after the magic are the extents,
and the storage holds exactly the elements the extents count, each with its bytes
reversed, so that the view reads every element as its big-endian decoding. Bytes after
those elements are ignored.

Every other file is refused with an `invalidIdx` fault, but one: a rank-zero file whose
body is shorter than its single element. The extents are checked one by one against the
elements present, and with no extents there is no check, so the body is cut past its end
and the parse panics.
-/

namespace StridedBuffer

/-- The element of type `t` stored big-endian from byte `start`: its bytes decoded in
reverse order. -/
def Value.readBig (t : DataType) (bs : ByteArray) (start : Nat) : Value :=
  Value.read t ⟨(bs.extract start (start + t.size)).data.reverse⟩ 0

/-! ## Bytes -/

theorem ByteArray.getElem?_append_left' {a b : ByteArray} {i : Nat} (h : i < a.size) :
    (a ++ b)[i]? = a[i]? := by
  change (a ++ b).data[i]? = a.data[i]?
  rw [ByteArray.data_append, Array.getElem?_append_left h]

theorem ByteArray.extract_append_left' {a b : ByteArray} {i j : Nat} (h : j ≤ a.size) :
    (a ++ b).extract i j = a.extract i j := by
  apply ByteArray.ext
  rw [ByteArray.data_extract, ByteArray.data_append, ByteArray.data_extract,
    Array.extract_append_of_stop_le_size_left h]

namespace Dataset

/-! ## Elements reversed in place -/

theorem data_reverseElement (size : Nat) (acc : ByteArray) (e : Nat) :
    (reverseElement size acc e).data = acc.data.extract 0 (e * size) ++
      (acc.data.extract (e * size) (e * size + size)).reverse ++
        acc.data.extract (e * size + size) acc.size := by
  simp [reverseElement, ByteArray.data_append, ByteArray.data_extract]

theorem getElem?_reverseElement {size e q : Nat} {acc : ByteArray}
    (hin : e * size + size ≤ acc.size) :
    (reverseElement size acc e)[q]? =
      if e * size ≤ q ∧ q < e * size + size then acc[e * size + (size - 1 - (q - e * size))]?
      else acc[q]? := by
  have hS : acc.data.size = acc.size := rfl
  change (reverseElement size acc e).data[q]? = if e * size ≤ q ∧ q < e * size + size then
    acc.data[e * size + (size - 1 - (q - e * size))]? else acc.data[q]?
  rw [data_reverseElement]
  by_cases hlow : q < e * size
  · rw [if_neg (by omega), Array.getElem?_append_left (by simp; omega),
      Array.getElem?_append_left (by simp; omega), Array.getElem?_extract, if_pos (by simp; omega)]
    simp
  by_cases hmid : q < e * size + size
  · rw [if_pos ⟨by omega, hmid⟩, Array.getElem?_append_left (by simp; omega),
      Array.getElem?_append_right (by simp; omega), Array.getElem?_reverse (by simp; omega),
      Array.getElem?_extract, if_pos (by simp; omega)]
    congr 1
    simp
    omega
  · rw [if_neg (by omega), Array.getElem?_append_right (by simp; omega), Array.getElem?_extract]
    simp only [Array.size_append, Array.size_extract, Array.size_reverse, hS]
    split
    · congr 1
      omega
    · rw [Array.getElem?_eq_none (by omega)]

theorem size_reverseElement (size : Nat) (acc : ByteArray) (e : Nat) :
    (reverseElement size acc e).size = acc.size := by
  change (reverseElement size acc e).data.size = acc.data.size
  rw [data_reverseElement]
  simp only [Array.size_append, Array.size_extract, Array.size_reverse, ByteArray.size_data]
  omega

theorem div_eq_iff_block {q size e : Nat} (hsize : 0 < size) :
    q / size = e ↔ e * size ≤ q ∧ q < e * size + size := by
  rw [Nat.div_eq_iff hsize]
  omega

theorem getElem?_foldl_reverseElement {size : Nat} (hsize : 0 < size) :
    ∀ (es : List Nat) (acc : ByteArray), es.Nodup → (∀ e ∈ es, e * size + size ≤ acc.size) →
      ∀ q, (es.foldl (reverseElement size) acc)[q]? =
        if q / size ∈ es then acc[q / size * size + (size - 1 - q % size)]? else acc[q]?
  | [], acc, _, _, q => by simp
  | e :: es, acc, hnd, hin, q => by
      obtain ⟨hnot, hnd'⟩ := List.nodup_cons.mp hnd
      have he := hin e (by simp)
      have hin' : ∀ e' ∈ es, e' * size + size ≤ (reverseElement size acc e).size := by
        intro e' he'
        rw [size_reverseElement]
        exact hin e' (List.mem_cons_of_mem _ he')
      have hq := Nat.div_add_mod q size
      have hr := Nat.mod_lt q hsize
      rw [List.foldl_cons, getElem?_foldl_reverseElement hsize es _ hnd' hin' q]
      by_cases hqe : q / size ∈ es
      · -- the element of `q` is reversed later, from bytes this step left alone
        have hne : q / size ≠ e := fun h => hnot (h ▸ hqe)
        rw [if_pos hqe, if_pos (List.mem_cons_of_mem _ hqe), getElem?_reverseElement he, if_neg]
        refine fun hb => hne ?_
        calc q / size = (q / size * size + (size - 1 - q % size)) / size :=
              ((div_eq_iff_block hsize).mpr ⟨by omega, by omega⟩).symm
          _ = e := (div_eq_iff_block hsize).mpr hb
      · rw [if_neg hqe, getElem?_reverseElement he]
        by_cases hb : q / size = e
        · rw [if_pos ((div_eq_iff_block hsize).mp hb), if_pos (by simp [hb])]
          subst hb
          congr 1
          rw [Nat.mul_comm] at hq
          omega
        · rw [if_neg (mt (div_eq_iff_block hsize).mpr hb), if_neg (by simp [hb, hqe])]

/-- Below `2^62` bytes the split of the elements finishes, and its ranges, one after another,
reverse the elements in order. -/
theorem swapElements_eq_foldl {data : ByteArray} {size : Nat} (h : 2 ≤ size)
    (hsmall : data.size < 2 ^ 62) :
    swapElements data size = (List.range (data.size / size)).foldl (reverseElement size) data := by
  have hdiv : data.size / size < 2 ^ 62 := lt_of_le_of_lt (Nat.div_le_self _ _) hsmall
  have hn : (Int64.ofNat (data.size / size)).toInt = (data.size / size : Nat) :=
    Layout.toInt_ofNat_small hdiv
  obtain ⟨rs, hrs, hsplit⟩ := Parallel.ranges_isSplit (Parallel.defaultConfig swapProcessors)
    (Int64.ofNat (data.size / size)) (by omega)
  have hitems := hsplit.tiling.items
  rw [Parallel.span_zero, hn, Int.toNat_natCast] at hitems
  have hrange : reverseRange size = fun acc r =>
      (Parallel.span r.1 r.2).foldl (fun acc e => reverseElement size acc e.toInt.toNat) acc := rfl
  rw [swapElements, if_neg (by omega), hrs]
  dsimp only
  rw [hrange, ← List.foldl_flatMap, hitems, List.foldl_map]
  refine List.foldl_ext _ _ _ fun acc e he => ?_
  rw [Layout.toInt_ofNat_small (by have := List.mem_range.mp he; omega), Int.toNat_natCast]

theorem getElem?_swapElements {data : ByteArray} {size e i : Nat} (hsize : 0 < size)
    (hsmall : data.size < 2 ^ 62) (he : e < data.size / size) (hi : i < size) :
    (swapElements data size)[size * e + i]? = data[size * e + (size - 1 - i)]? := by
  by_cases h1 : size = 1
  · subst h1
    obtain rfl : i = 0 := by omega
    simp [swapElements]
  have hin : ∀ e' ∈ List.range (data.size / size), e' * size + size ≤ data.size := by
    intro e' he'
    have h1 : (e' + 1) * size ≤ data.size :=
      le_trans (Nat.mul_le_mul_right size (List.mem_range.mp he')) (Nat.div_mul_le_self _ _)
    rw [Nat.add_mul, Nat.one_mul] at h1
    exact h1
  have hq : (size * e + i) / size = e := by
    rw [Nat.add_comm, Nat.add_mul_div_left _ _ hsize, Nat.div_eq_of_lt hi, Nat.zero_add]
  have hm : (size * e + i) % size = i := by
    rw [Nat.add_comm, Nat.add_mul_mod_self_left, Nat.mod_eq_of_lt hi]
  rw [swapElements_eq_foldl (by omega) hsmall,
    getElem?_foldl_reverseElement hsize _ _ List.nodup_range hin, hq, hm,
    if_pos (List.mem_range.mpr he), Nat.mul_comm e size]

theorem size_foldl {β : Type} {f : ByteArray → β → ByteArray}
    (hf : ∀ acc x, (f acc x).size = acc.size) :
    ∀ (l : List β) (acc : ByteArray), (l.foldl f acc).size = acc.size
  | [], _ => rfl
  | x :: l, acc => by rw [List.foldl_cons, size_foldl hf l, hf]

theorem size_swapElements (data : ByteArray) (size : Nat) :
    (swapElements data size).size = data.size := by
  unfold swapElements
  split
  · rfl
  · split
    · exact size_foldl (fun acc r => size_foldl (fun acc e => size_reverseElement _ _ _) _ acc) _ _
    · rfl

/-! ## The header -/

def idxRank (data : ByteArray) : Nat := (data[3]?.getD 0).toNat

/-- Where the elements start: after the magic and one word per extent. -/
def idxBodyStart (data : ByteArray) : Nat := 4 + 4 * idxRank data

/-- The extents, one big-endian 32-bit word each. -/
def idxDims (data : ByteArray) : List Nat :=
  (List.range (idxRank data)).map fun i => bigWord data (4 + 4 * i)

theorem bigWord_lt (bs : ByteArray) (pos : Nat) : bigWord bs pos < 2 ^ 32 := by
  have h := fun i => (bs[pos + i]?.getD 0).toNat_lt
  have := h 0
  have := h 1
  have := h 2
  have := h 3
  simp only [bigWord, List.range_succ, List.range_zero, List.nil_append, List.foldl_append,
    List.foldl_cons, List.foldl_nil]
  omega

theorem bigWord_append {bs : ByteArray} {pos : Nat} (h : pos + 4 ≤ bs.size) (extra : ByteArray) :
    bigWord (bs ++ extra) pos = bigWord bs pos := by
  unfold bigWord
  apply List.foldl_ext
  intro acc i hi
  rw [ByteArray.getElem?_append_left' (by simp at hi; omega)]

theorem idxRank_append {data : ByteArray} (h : 4 ≤ data.size) (extra : ByteArray) :
    idxRank (data ++ extra) = idxRank data := by
  rw [idxRank, ByteArray.getElem?_append_left' (by omega), idxRank]

theorem idxDims_append {data : ByteArray} (h4 : 4 ≤ data.size)
    (h : idxBodyStart data ≤ data.size) (extra : ByteArray) :
    idxDims (data ++ extra) = idxDims data := by
  unfold idxDims
  rw [idxRank_append h4]
  apply List.map_congr_left
  intro i hi
  rw [bigWord_append (by simp [idxBodyStart] at h hi ⊢; omega)]

theorem length_idxDims (data : ByteArray) : (idxDims data).length = idxRank data := by
  simp [idxDims]

theorem idxDims_toInt (data : ByteArray) :
    ((idxDims data).map Int64.ofNat).map Int64.toInt = (idxDims data).map Nat.cast := by
  simp only [List.map_map]
  apply List.map_congr_left
  intro d hd
  obtain ⟨i, -, rfl⟩ := List.mem_map.mp hd
  exact Layout.toInt_ofNat_small (by have := bigWord_lt data (4 + 4 * i); omega)

/-! ## Counting the elements -/

theorem checkExtents_ok {avail : Nat} : ∀ {dims : List Nat} {count : Nat} {seen : List Nat}
    {c : Nat}, checkExtents avail dims count seen = .ok c →
      c = count * dims.prod ∧ (dims = [] ∨ c ≤ avail) := by
  intro dims
  induction dims with
  | nil =>
      intro count seen c h
      cases h
      simp
  | cons d rest ih =>
      intro count seen c h
      simp only [checkExtents] at h
      split at h
      · cases h
      rename_i hcheck
      obtain ⟨hc, hle⟩ := ih h
      refine ⟨by rw [hc, List.prod_cons, Nat.mul_assoc], .inr ?_⟩
      rcases hle with rfl | hle
      · -- the last extent: either zero, or at most the quotient the check compared with
        rw [hc, List.prod_nil, Nat.mul_one]
        by_cases hd : d = 0
        · simp [hd]
        · have : count ≤ avail / d := by omega
          exact (Nat.le_div_iff_mul_le (by omega)).mp this
      · exact hle

theorem checkExtents_mono {avail avail' : Nat} (hle : avail ≤ avail') :
    ∀ {dims : List Nat} {count : Nat} {seen : List Nat} {c : Nat},
      checkExtents avail dims count seen = .ok c → checkExtents avail' dims count seen = .ok c := by
  intro dims
  induction dims with
  | nil => exact fun h => h
  | cons d rest ih =>
      intro count seen c h
      simp only [checkExtents] at h ⊢
      split at h
      · cases h
      rename_i hcheck
      have hdiv : avail / d ≤ avail' / d := Nat.div_le_div_right hle
      rw [if_neg (by omega)]
      exact ih h

/-! ## Files that pass -/

/-- An IDX file that passes every check, with elements of type `t` and `count` of them. -/
structure IdxHeader (data : ByteArray) (t : DataType) (count : Nat) : Prop where
  size : 4 ≤ data.size
  magic : data[0]?.getD 0 = 0 ∧ data[1]?.getD 0 = 0
  type : idxType? (data[2]?.getD 0) = some t
  extents : idxBodyStart data ≤ data.size
  counted : checkExtents ((data.size - idxBodyStart data) / t.size) (idxDims data) 1 [] = .ok count
  body : count * t.size ≤ data.size - idxBodyStart data

/-- The elements of a file that passes, each with its bytes reversed. -/
def idxStorage (data : ByteArray) (t : DataType) (count : Nat) : ByteArray :=
  swapElements (data.extract (idxBodyStart data) (idxBodyStart data + count * t.size)) t.size

theorem parseIdx_of_header {data : ByteArray} {t : DataType} {count : Nat}
    (h : IdxHeader data t count) (id : Nat) :
    parseIdx data id = newContiguous (some (id, Storage.ofBytes (idxStorage data t count)))
      ((idxDims data).map Int64.ofNat) t.code := by
  obtain ⟨hsize, ⟨h0, h1⟩, htype, hext, hcount, hbody⟩ := h
  simp only [idxBodyStart, idxRank, idxDims] at hext hcount hbody
  unfold parseIdx idxStorage idxBodyStart idxDims idxRank
  simp [bind, Except.bind, pure, Except.pure, Nat.not_lt.mpr hsize, h0, h1, htype,
    Nat.not_lt.mpr hext, hcount, Nat.not_lt.mpr hbody]

theorem IdxHeader.append {data : ByteArray} {t : DataType} {count : Nat}
    (h : IdxHeader data t count) (extra : ByteArray) : IdxHeader (data ++ extra) t count := by
  obtain ⟨hsize, ⟨h0, h1⟩, htype, hext, hcount, hbody⟩ := h
  have hstart : idxBodyStart (data ++ extra) = idxBodyStart data := by
    rw [idxBodyStart, idxRank_append hsize, idxBodyStart]
  have hlen : (data ++ extra).size = data.size + extra.size := ByteArray.size_append
  refine ⟨by omega, ?_, ?_, by omega, ?_, by omega⟩
  · rw [ByteArray.getElem?_append_left' (by omega), ByteArray.getElem?_append_left' (by omega)]
    exact ⟨h0, h1⟩
  · rwa [ByteArray.getElem?_append_left' (by omega)]
  · rw [hstart, idxDims_append hsize hext]
    exact checkExtents_mono (Nat.div_le_div_right (by omega)) hcount

theorem parseIdx_append {data : ByteArray} {t : DataType} {count : Nat}
    (h : IdxHeader data t count) (id : Nat) (extra : ByteArray) :
    parseIdx (data ++ extra) id = parseIdx data id := by
  have hstart : idxBodyStart (data ++ extra) = idxBodyStart data := by
    rw [idxBodyStart, idxRank_append h.size, idxBodyStart]
  rw [parseIdx_of_header (h.append extra), parseIdx_of_header h, idxStorage, idxStorage, hstart,
    ByteArray.extract_append_left' (by have := h.body; have := h.extents; omega),
    idxDims_append h.size h.extents]

/-! ## Every file -/

/-- A rank-zero file whose body is shorter than its one element. -/
def MissingScalar (data : ByteArray) : Prop :=
  4 ≤ data.size ∧ data[0]?.getD 0 = 0 ∧ data[1]?.getD 0 = 0 ∧ idxRank data = 0 ∧
    ∃ t, idxType? (data[2]?.getD 0) = some t ∧ data.size < 4 + t.size

theorem parseIdx_of_missingScalar {data : ByteArray} {t : DataType} (h4 : 4 ≤ data.size)
    (h0 : data[0]?.getD 0 = 0) (h1 : data[1]?.getD 0 = 0) (hrank : idxRank data = 0)
    (htype : idxType? (data[2]?.getD 0) = some t) (hshort : data.size < 4 + t.size) (id : Nat) :
    parseIdx data id = .error (.panic ("runtime error: slice bounds out of range [:" ++
      toString t.size ++ "] with capacity " ++ toString (data.size - 4))) := by
  simp only [idxRank] at hrank
  unfold parseIdx
  simp [bind, Except.bind, pure, Except.pure, throw, throwThe, MonadExceptOf.throw,
    Nat.not_lt.mpr h4, h0, h1, htype, hrank, checkExtents, show data.size - 4 < t.size by omega]

theorem MissingScalar.panics {data : ByteArray} (h : MissingScalar data) (id : Nat) :
    ∃ msg, parseIdx data id = .error (.panic msg) := by
  obtain ⟨h4, h0, h1, hrank, t, htype, hshort⟩ := h
  exact ⟨_, parseIdx_of_missingScalar h4 h0 h1 hrank htype hshort id⟩

theorem parseIdx_header_or_fault (data : ByteArray) (id : Nat) :
    (∃ t count, IdxHeader data t count) ∨
      (∃ f, parseIdx data id = .error f ∧ f.kind = .invalidIdx) ∨
      (MissingScalar data ∧ ∃ msg, parseIdx data id = .error (.panic msg)) := by
  by_cases hh : ∃ t count, IdxHeader data t count
  · exact .inl hh
  right
  unfold parseIdx
  simp only [bind, Except.bind, pure, Except.pure, throw, throwThe, MonadExceptOf.throw]
  split
  · exact .inl ⟨_, rfl, rfl⟩
  split
  · exact .inl ⟨_, rfl, rfl⟩
  split
  · rename_i h4 hmagic code t htype
    split
    · exact .inl ⟨_, rfl, rfl⟩
    split
    · rename_i hhead _ c hc
      have hzero : data[0]?.getD 0 = 0 ∧ data[1]?.getD 0 = 0 := by
        simpa only [not_or, ne_eq, not_not] using hmagic
      have hstart : idxBodyStart data ≤ data.size := by
        simp only [idxBodyStart, idxRank]
        omega
      have hcount : checkExtents ((data.size - idxBodyStart data) / t.size) (idxDims data) 1 [] =
          .ok c := hc
      obtain ⟨hprod, hnil | hle⟩ := checkExtents_ok hcount
      · -- no extents: one element, which the body may lack
        have hrank : idxRank data = 0 := by rw [← length_idxDims, hnil, List.length_nil]
        rw [hnil, List.prod_nil, Nat.mul_one] at hprod
        subst hprod
        have hrank' : (data[3]?.getD 0).toNat = 0 := hrank
        simp only [hrank', Nat.mul_zero, Nat.add_zero, Nat.one_mul]
        split
        · exact .inr ⟨⟨by omega, hzero.1, hzero.2, hrank, t, htype, by omega⟩, _, rfl⟩
        · exact absurd ⟨t, 1, by omega, hzero, htype, hstart, hcount,
            by simp only [idxBodyStart, hrank]; omega⟩ hh
      · -- a checked extent keeps the elements within the body
        have hwithin : c * t.size ≤ data.size - idxBodyStart data :=
          le_trans (Nat.mul_le_mul_right t.size hle) (Nat.div_mul_le_self _ _)
        exact absurd ⟨t, c, by omega, hzero, htype, hstart, hcount, hwithin⟩ hh
    · exact .inl ⟨_, rfl, rfl⟩
  · exact .inl ⟨_, rfl, rfl⟩

/-! ## What a parsed file is -/

/-- A view read from an IDX file: the only holder of a fresh storage, of the file's
element type, with the file's extents taken exactly and row-major strides, over a storage
of exactly the elements the extents count, each with its bytes reversed. The view reads
each element as the big-endian decoding of its bytes in the file, and bytes after the
elements do not change the result. -/
structure IdxRead (data : ByteArray) (id : Nat) (v : View) (s : Storage) : Prop where
  fresh : FreshView id v s
  dtype : idxType? (data[2]?.getD 0) = some v.dtype
  shape : v.shape.map Int64.toInt = (idxDims data).map Nat.cast
  contiguous : v.strides = v.shape.contiguousStrides (Int64.ofNat v.itemSize) ∧
    v.isContiguous = true
  size : s.bytes.size = (idxDims data).prod * v.itemSize
  reversed : ∀ k < (idxDims data).prod, ∀ i < v.itemSize,
    s.bytes[v.itemSize * k + i]? = data[idxBodyStart data + v.itemSize * k + (v.itemSize - 1 - i)]?
  elements : ∀ idx : List Int64, Layout.InBounds v.shape (idx.map Int64.toInt) →
    v.element s idx = .ok (Value.readBig v.dtype data
      (idxBodyStart data + v.itemSize * (Layout.rowMajor v.shape (idx.map Int64.toInt)).toNat))
  trailing : ∀ extra, parseIdx (data ++ extra) id = .ok (v, s)

theorem read_eq_readBig {t : DataType} {bs data : ByteArray} {start' start : Nat}
    (hend : start + t.size ≤ data.size)
    (h : ∀ i < t.size, bs[start' + i]? = data[start + (t.size - 1 - i)]?) :
    Value.read t bs start' = Value.readBig t data start := by
  unfold Value.readBig
  apply Value.read_congr
  intro i hi
  have hsize : (data.extract start (start + t.size)).data.size = t.size := by
    rw [ByteArray.size_data, ByteArray.size_extract]
    omega
  change _ = (data.extract start (start + t.size)).data.reverse[0 + i]?
  rw [h i hi, Nat.zero_add, Array.getElem?_reverse (by omega), hsize]
  exact (ByteArray.getElem?_extract' (by omega) hend).symm

theorem getElem?_idxStorage {data : ByteArray} {t : DataType} {count : Nat}
    (h : IdxHeader data t count) (hsize : data.size < 2 ^ 62) {k i : Nat} (hk : k < count)
    (hi : i < t.size) :
    (idxStorage data t count)[t.size * k + i]? =
      data[idxBodyStart data + t.size * k + (t.size - 1 - i)]? := by
  have hpos := Layout.size_pos t
  have hbody := h.body
  have hext := h.extents
  have hlast : t.size * k + t.size ≤ count * t.size := by
    have := Nat.mul_le_mul_left t.size (show k + 1 ≤ count by omega)
    rw [Nat.mul_succ, Nat.mul_comm t.size count] at this
    exact this
  have hextract : (data.extract (idxBodyStart data) (idxBodyStart data + count * t.size)).size =
      count * t.size := by
    rw [ByteArray.size_extract]
    omega
  rw [idxStorage, getElem?_swapElements hpos (by omega)
    (by rw [hextract, Nat.mul_div_cancel _ hpos]; exact hk) hi,
    ByteArray.getElem?_extract' (by omega) (by omega), Nat.add_assoc]

theorem parseIdx_read {data : ByteArray} {t : DataType} {count : Nat} (h : IdxHeader data t count)
    (hsize : data.size < 2 ^ 62) (id : Nat) :
    ∃ v s, parseIdx data id = .ok (v, s) ∧ IdxRead data id v s := by
  have hcount : count = (idxDims data).prod := by
    rw [(checkExtents_ok h.counted).1, Nat.one_mul]
  have hbody := h.body
  have hext := h.extents
  have hpos := Layout.size_pos t
  have hstorage : (idxStorage data t count).size = count * t.size := by
    have hextract : (data.extract (idxBodyStart data) (idxBodyStart data + count * t.size)).size =
        count * t.size := by
      rw [ByteArray.size_extract]
      omega
    rw [idxStorage, size_swapElements, hextract]
  have hshape := idxDims_toInt data
  have hprod : (((idxDims data).map Int64.ofNat).map Int64.toInt).prod = (idxDims data).prod := by
    rw [hshape, Nat.cast_list_prod]
  have hnonneg : ∀ d ∈ (idxDims data).map Int64.ofNat, 0 ≤ d.toInt := by
    intro d hd
    have : d.toInt ∈ (idxDims data).map Nat.cast := hshape ▸ List.mem_map_of_mem hd
    obtain ⟨n, -, hn⟩ := List.mem_map.mp this
    omega
  have hp := (parseIdx_of_header h id).trans (newContiguous_ofBytes hnonneg
    (by rw [hprod, hstorage, hcount]; exact le_refl _) (by rw [hstorage]; omega))
  have hfresh := parseIdx_fresh hp
  refine ⟨_, _, hp, ⟨hfresh, h.type, hshape, ⟨rfl, Shape.isContiguous_contiguousStrides _ _⟩,
    hstorage.trans (by rw [hcount]; rfl), fun k hk i hi => ?_, fun idx hidx => ?_,
    fun extra => by rw [parseIdx_append h id extra, hp]⟩⟩
  · exact getElem?_idxStorage h hsize (by omega) hi
  · -- the element's number in row-major order is below the count
    change Layout.InBounds ((idxDims data).map Int64.ofNat) (idx.map Int64.toInt) at hidx
    have hr := Layout.rowMajor_bounds hidx
    rw [hprod] at hr
    have hk : (Layout.rowMajor ((idxDims data).map Int64.ofNat) (idx.map Int64.toInt)).toNat <
        count := by omega
    have hlast := Nat.mul_le_mul_left t.size (show _ + 1 ≤ count from hk)
    rw [Nat.mul_succ] at hlast
    rw [View.element_contiguous hfresh.live hfresh.storage_live rfl hfresh.fits
      (by change (idxStorage data t count).size < 2 ^ 62; omega) hidx]
    dsimp only [View.itemSize]
    exact congrArg Except.ok
      (read_eq_readBig (by rw [Nat.mul_comm t.size count] at hlast; omega)
        fun i hi => getElem?_idxStorage h hsize hk hi)

/-- Parsing an IDX file ends in one of three ways: a view read from the file, a refusal
as invalid IDX data, or a panic; and it panics exactly on a rank-zero file whose body
lacks its one element. -/
theorem parseIdx_outcome (data : ByteArray) (id : Nat) (hsize : data.size < 2 ^ 62) :
    ((∃ v s, parseIdx data id = .ok (v, s) ∧ IdxRead data id v s) ∨
      (∃ f, parseIdx data id = .error f ∧ f.kind = .invalidIdx) ∨
      (∃ msg, parseIdx data id = .error (.panic msg))) ∧
    ((∃ msg, parseIdx data id = .error (.panic msg)) ↔ MissingScalar data) := by
  rcases parseIdx_header_or_fault data id with ⟨t, count, h⟩ | ⟨f, hf, hkind⟩ | ⟨hmissing, hpanic⟩
  · obtain ⟨v, s, hp, hread⟩ := parseIdx_read h hsize id
    refine ⟨.inl ⟨v, s, hp, hread⟩, ⟨fun ⟨msg, hm⟩ => ?_, fun hm => hm.panics id⟩⟩
    rw [hp] at hm
    cases hm
  · refine ⟨.inr (.inl ⟨f, hf, hkind⟩), ⟨fun ⟨msg, hm⟩ => ?_, fun hm => hm.panics id⟩⟩
    rw [hf] at hm
    cases hm
    cases hkind
  · exact ⟨.inr (.inr hpanic), ⟨fun _ => hmissing, fun _ => hpanic⟩⟩

theorem parseIdx_outcome_two_bytes :
    (⟨#[0, 0, 8, 1, 0, 0, 0, 2, 7, 9]⟩ : ByteArray).size < 2 ^ 62 ∧
    ((∃ v s, parseIdx ⟨#[0, 0, 8, 1, 0, 0, 0, 2, 7, 9]⟩ 0 = .ok (v, s) ∧
          IdxRead ⟨#[0, 0, 8, 1, 0, 0, 0, 2, 7, 9]⟩ 0 v s) ∨
        (∃ f, parseIdx ⟨#[0, 0, 8, 1, 0, 0, 0, 2, 7, 9]⟩ 0 = .error f ∧ f.kind = .invalidIdx) ∨
        (∃ msg, parseIdx ⟨#[0, 0, 8, 1, 0, 0, 0, 2, 7, 9]⟩ 0 = .error (.panic msg))) ∧
      ((∃ msg, parseIdx ⟨#[0, 0, 8, 1, 0, 0, 0, 2, 7, 9]⟩ 0 = .error (.panic msg)) ↔
        MissingScalar ⟨#[0, 0, 8, 1, 0, 0, 0, 2, 7, 9]⟩) :=
  ⟨by decide, parseIdx_outcome _ 0 (by decide)⟩

/-- A rank-zero file of one-byte elements with no element panics instead of being refused
as invalid IDX data. -/
theorem scalar_without_element_panics :
    parseIdx ⟨#[0, 0, 8, 0]⟩ 0 =
      .error (.panic "runtime error: slice bounds out of range [:1] with capacity 0") := by
  rfl

end Dataset

end StridedBuffer
