import Mathlib
import StridedBuffer.Proofs.Contiguous

/-! # Host buffers read back their elements

A container a host hands over stands, in a format, for a list of elements
(`HostData.values`): raw bytes for the elements a view of the format reads from them one
after another; a typed container of the format's own type for its elements, floats by
their bit patterns; host integers for themselves when each lies in the range of an
integer format; doubles for their roundings to each float format; and sixteen-bit
patterns for a half, a brain float or a signed sixteen-bit integer. Every other pairing
stands for nothing.

The encoder that packs a container and the decoder that reads a view are written
separately, one case per container and per format. The main result,
`construct_reads_values`, says they agree: a buffer built with no strides over a shape that
counts exactly the container's elements reads, at each index tuple within the extents, the
element that the tuple's row-major number picks. A container that stands for nothing is
refused with an extraction fault, and no other construction fails that way.
-/

namespace StridedBuffer

open Binary Layout

namespace HostData

/-- Whether a host integer lies in the range of an integer format. -/
def wordFits (t : DataType) (x : Int64) : Bool :=
  match t with
  | .bool => x.toInt == 0 || x.toInt == 1
  | .uint8 => decide (0 ≤ x.toInt ∧ x.toInt ≤ 255)
  | .int8 => decide (-128 ≤ x.toInt ∧ x.toInt ≤ 127)
  | .int16 => decide (-32768 ≤ x.toInt ∧ x.toInt ≤ 32767)
  | .int32 => decide (-2147483648 ≤ x.toInt ∧ x.toInt ≤ 2147483647)
  | _ => true

/-- The element an in-range host integer stands for in an integer format: the integer
itself, and for the boolean format whether it is one. -/
def wordValue (t : DataType) (x : Int64) : Value :=
  match t with
  | .bool => .bool (x.toInt == 1)
  | .uint8 => .uint8 (UInt8.ofNat x.toInt.toNat)
  | .int8 => .int8 (Int8.ofInt x.toInt)
  | .int16 => .int16 (Int16.ofInt x.toInt)
  | .int32 => .int32 (Int32.ofInt x.toInt)
  | _ => .int64 x

/-- The elements a container stands for in format `t`, or `none` when it does not fit the
format. -/
def values (t : DataType) : HostData → Option (List Value)
  | bytes b =>
      if b.size % t.size = 0 then
        some ((List.range (b.size / t.size)).map fun k => Value.read t b (t.size * k))
      else none
  | bools xs => if t = .bool then some (xs.map .bool) else none
  | int8s xs => if t = .int8 then some (xs.map .int8) else none
  | int16s xs => if t = .int16 then some (xs.map .int16) else none
  | uint16s xs =>
      match t with
      | .int16 => some (xs.map fun b => .int16 b.toInt16)
      | .float16 => some (xs.map fun b => .float32 (halfToSingle b))
      | .bfloat16 => some (xs.map fun (b : UInt16) => .float32 (b.toUInt32 <<< 16))
      | _ => none
  | int32s xs => if t = .int32 then some (xs.map .int32) else none
  | int64s xs => if t = .int64 then some (xs.map .int64) else none
  | words xs =>
      if t.isFloat = false ∧ xs.all (wordFits t) then some (xs.map (wordValue t)) else none
  | float32s xs => if t = .float32 then some (xs.map .float32) else none
  | float64s xs =>
      match t with
      | .float16 => some (xs.map fun x => .float32 (halfToSingle (singleToHalf (doubleToSingle x))))
      | .bfloat16 => some (xs.map fun x => .float32 (doubleToSingle x >>> 16 <<< 16))
      | .float32 => some (xs.map fun x => .float32 (doubleToSingle x))
      | .float64 => some (xs.map .float64)
      | _ => none
  | uint32s _ | text _ | nothing => none

end HostData

/-! ## One element -/

theorem littleEndian_single (w n : Nat) : littleEndian (packWords w [n]) 0 w = n % 256 ^ w := by
  simpa using @littleEndian_packWords w [n] 0 (by simp)

theorem ofNat_low_eq_toInt8 (x : Int64) : Int8.ofNat (x.toUInt64.toNat % 256) = x.toInt8 := by
  apply Int8.toBitVec_inj.mp
  rw [Int64.toBitVec_toInt8, BitVec.signExtend_eq_setWidth_of_le _ (by omega)]
  apply BitVec.eq_of_toNat_eq
  simp
  rfl

theorem ofNat_low_eq_toInt16 (x : Int64) :
    Int16.ofNat (x.toUInt64.toNat % 65536) = x.toInt16 := by
  apply Int16.toBitVec_inj.mp
  rw [Int64.toBitVec_toInt16, BitVec.signExtend_eq_setWidth_of_le _ (by omega)]
  apply BitVec.eq_of_toNat_eq
  simp
  rfl

theorem ofNat_low_eq_toInt32 (x : Int64) :
    Int32.ofNat (x.toUInt64.toNat % 4294967296) = x.toInt32 := by
  apply Int32.toBitVec_inj.mp
  rw [Int64.toBitVec_toInt32, BitVec.signExtend_eq_setWidth_of_le _ (by omega)]
  apply BitVec.eq_of_toNat_eq
  simp
  rfl

theorem toNat_toUInt64_of_toInt {x : Int64} (h : 0 ≤ x.toInt) :
    x.toUInt64.toNat = x.toInt.toNat := by
  rw [Int64.toNat_toUInt64_of_le (Int64.le_iff_toInt_le.mpr (by simpa using h)),
    Int64.toNat_toInt]

theorem brainToSingle_singleToBrain (y : UInt32) :
    brainToSingle (singleToBrain y) = y >>> 16 <<< 16 := by
  apply UInt32.toNat_inj.mp
  have hy := y.toNat_lt
  simp [brainToSingle, singleToBrain, UInt32.toNat_shiftLeft, UInt32.toNat_shiftRight]
  omega

namespace HostData

theorem read_word {t : DataType} {x : Int64} (ht : t.isFloat = false)
    (hx : wordFits t x = true) :
    Value.read t (packWords t.size [x.toUInt64.toNat]) 0 = wordValue t x := by
  cases t
  case bool =>
    have h : x.toInt = 0 ∨ x.toInt = 1 := by simpa [wordFits] using hx
    rcases h with h | h <;>
      simp [Value.read, DataType.size, littleEndian_single, wordValue,
        toNat_toUInt64_of_toInt (show 0 ≤ x.toInt by omega), h]
  case uint8 =>
    have h : 0 ≤ x.toInt ∧ x.toInt ≤ 255 := by simpa [wordFits] using hx
    have hlow : x.toNatClampNeg % 256 = x.toNatClampNeg := by
      rw [← Int64.toNat_toInt]
      omega
    simp [Value.read, DataType.size, littleEndian_single, wordValue, toNat_toUInt64_of_toInt h.1,
      hlow]
  case int8 => simp [Value.read, DataType.size, littleEndian_single, wordValue, ofNat_low_eq_toInt8]
  case int16 => simp [Value.read, DataType.size, littleEndian_single, wordValue, ofNat_low_eq_toInt16]
  case int32 => simp [Value.read, DataType.size, littleEndian_single, wordValue, ofNat_low_eq_toInt32]
  case int64 => simp [Value.read, DataType.size, littleEndian_single, wordValue]
  all_goals simp [DataType.isFloat] at ht

theorem wordFits_iff_range {t : DataType} {lo hi : Int} (h : intRange? t = some (lo, hi))
    (x : Int64) : wordFits t x = true ↔ lo ≤ x.toInt ∧ x.toInt ≤ hi := by
  have hlo := Int64.le_toInt x
  have hhi := Int64.toInt_lt x
  cases t <;> simp [intRange?] at h <;> obtain ⟨rfl, rfl⟩ := h <;> simp [wordFits] <;> omega

theorem intRange_isSome (t : DataType) : (intRange? t).isSome = !t.isFloat := by
  cases t <;> rfl

theorem encodeWords_eq_ok {t : DataType} {fail : String → Fault} {xs : List Int64}
    (ht : t.isFloat = false) (hfit : xs.all (wordFits t) = true) :
    encodeWords t fail xs = .ok (packWords t.size (xs.map fun v => v.toUInt64.toNat)) := by
  have hsome : (intRange? t).isSome := by simp [intRange_isSome, ht]
  obtain ⟨⟨lo, hi⟩, hr⟩ := Option.isSome_iff_exists.mp hsome
  have hnone : xs.zipIdx.find? (fun p => p.1.toInt < lo ∨ p.1.toInt > hi) = none := by
    rw [List.find?_eq_none]
    intro p hp
    have := (wordFits_iff_range hr p.1).mp (List.all_eq_true.mp hfit _ (List.fst_mem_of_mem_zipIdx hp))
    simp only [decide_eq_true_eq]
    omega
  simp only [encodeWords, hr, hnone]

theorem encodeWords_error {t : DataType} {fail : String → Fault} {xs : List Int64}
    (h : ¬(t.isFloat = false ∧ xs.all (wordFits t) = true)) :
    ∃ r, encodeWords t fail xs = .error (fail r) := by
  unfold encodeWords
  split
  · exact ⟨_, rfl⟩
  · rename_i lo hi hr
    have ht : t.isFloat = false := by simpa [hr] using intRange_isSome t
    split
    · exact ⟨_, rfl⟩
    · rename_i hfind
      refine absurd ⟨ht, List.all_eq_true.mpr fun x hx => ?_⟩ h
      rw [← List.zipIdx_map_fst 0 xs, List.mem_map] at hx
      obtain ⟨p, hp, rfl⟩ := hx
      have := List.find?_eq_none.mp hfind p hp
      simp only [decide_eq_true_eq] at this
      exact (wordFits_iff_range hr p.1).mpr (by omega)

end HostData

/-! ## Packing and reading back -/

theorem read_packWords_map {α : Type} {t : DataType} {enc : α → Nat} {conv : α → Value}
    {xs : List α} (hconv : ∀ x ∈ xs, Value.read t (packWords t.size [enc x]) 0 = conv x) :
    (∀ k (hk : k < (xs.map conv).length),
        Value.read t (packWords t.size (xs.map enc)) (t.size * k) = (xs.map conv)[k]) ∧
      (packWords t.size (xs.map enc)).size = (xs.map conv).length * t.size := by
  refine ⟨fun k hk => ?_, by simp [size_packWords]⟩
  rw [List.length_map] at hk
  rw [Value.read_packWords (by simpa using hk), List.getElem_map, List.getElem_map]
  exact hconv _ (List.getElem_mem hk)

namespace HostData

theorem extract_values {d : HostData} {t : DataType} {vals : List Value}
    (h : d.values t = some vals) :
    ∃ raw, extract d t = .ok raw ∧
      (∀ k (hk : k < vals.length), Value.read t raw (t.size * k) = vals[k]) ∧
      raw.size = vals.length * t.size := by
  cases d
  case bytes b =>
    simp only [values] at h
    split_ifs at h with hdiv
    cases h
    refine ⟨b, by simp [extract, hdiv], fun k hk => by simp, ?_⟩
    simp [Nat.div_mul_cancel (Nat.dvd_of_mod_eq_zero hdiv)]
  case bools xs =>
    simp only [values] at h
    split_ifs at h with ht
    cases h; subst ht
    exact ⟨_, rfl, read_packWords_map fun b _ => by
      cases b <;> simp [Value.read, DataType.size, littleEndian_single]⟩
  case int8s xs | int16s xs | int32s xs | int64s xs | float32s xs =>
    simp only [values] at h
    split_ifs at h with ht
    cases h; subst ht
    exact ⟨_, rfl, read_packWords_map fun x _ => by
      simp [Value.read, DataType.size, littleEndian_single]⟩
  case uint16s xs =>
    cases t <;> simp only [values, reduceCtorEq] at h <;> cases h
    all_goals
      exact ⟨_, rfl, read_packWords_map fun x _ => by
        simp [Value.read, DataType.size, littleEndian_single, brainToSingle]⟩
  case words xs =>
    simp only [values] at h
    split_ifs at h with hfit
    cases h
    exact ⟨_, encodeWords_eq_ok hfit.1 hfit.2, read_packWords_map fun x hx =>
      read_word hfit.1 (List.all_eq_true.mp hfit.2 x hx)⟩
  case float64s xs =>
    cases t <;> simp only [values, reduceCtorEq] at h <;> cases h
    all_goals
      exact ⟨_, rfl, read_packWords_map fun x _ => by
        simp [Value.read, DataType.size, littleEndian_single, doubleTo,
          brainToSingle_singleToBrain]⟩
  all_goals simp [values] at h

theorem values_eq_none_iff {d : HostData} {t : DataType} :
    d.values t = none ↔ ∃ f, extract d t = .error f := by
  constructor
  · intro h
    cases d
    case words xs =>
      simp only [values] at h
      split_ifs at h with hfit
      simp only [extract]
      exact ⟨_, (encodeWords_error hfit).choose_spec⟩
    case uint16s xs => cases t <;> simp_all [values, extract]
    case float64s xs => cases t <;> simp_all [values, extract, DataType.isFloat]
    all_goals simp_all [values, extract]
  · intro ⟨f, hf⟩
    cases hv : d.values t with
    | none => rfl
    | some vals =>
        obtain ⟨raw, hraw, -⟩ := extract_values hv
        rw [hraw] at hf
        cases hf

theorem extract_error_kind {d : HostData} {t : DataType} {f : Fault}
    (h : extract d t = .error f) : f.kind = .extraction := by
  cases d <;> simp only [extract] at h
  case words xs =>
    unfold encodeWords at h
    split at h
    · cases h
      rfl
    · split at h <;> cases h
      rfl
  case uint32s | text | nothing =>
    cases h
    rfl
  all_goals split at h <;> cases h
  all_goals rfl

end HostData

theorem decodeElement_extract {t : DataType} {b : ByteArray} {start : Nat}
    (h : start + t.size ≤ b.size) :
    decodeElement t.code (b.extract start b.size) = .ok (Value.read t b start) := by
  unfold decodeElement
  rw [DataType.ofCode_code]
  have hsize : (b.extract start b.size).size = b.size - start := by simp
  simp only [hsize, show ¬b.size - start < t.size by omega, if_false]
  exact congrArg Except.ok (Value.read_congr fun i hi => by
    rw [Nat.zero_add, ByteArray.getElem?_extract' (by omega) le_rfl])

theorem construct_tag {d : HostData} {shape : Shape} {strides : Option (List Int64)}
    {t : DataType} {id : Nat} :
    construct d shape strides [t.tag.toNat.toUInt8] id =
      (extract d t).bind fun raw => newView (some (id, Storage.ofBytes raw)) shape
        (strides.getD (shape.contiguousStrides (Int64.ofNat t.size))) t.code := by
  unfold construct
  rw [DataType.parseFormat_tag]
  rfl

/-- A buffer built over a host container with no strides is the row-major view of the
shape, and it reads at every index tuple within the extents the element of the container
that the tuple's row-major number picks, whenever the shape counts exactly the container's
elements. Whatever the strides, a construction fails with an extraction fault exactly when
the container does not fit the format. -/
theorem construct_reads_values (d : HostData) (t : DataType) (shape : Shape) (id : Nat) :
    (∀ strides, d.values t = none ↔
      ∃ f, construct d shape strides [t.tag.toNat.toUInt8] id = .error f ∧
        f.kind = .extraction) ∧
    ∀ vals, d.values t = some vals → (∀ e ∈ shape, 0 ≤ e.toInt) →
      (shape.map Int64.toInt).prod = vals.length → vals.length * t.size < 2 ^ 62 →
      ∃ v s, construct d shape none [t.tag.toNat.toUInt8] id = .ok (v, s) ∧
        ∀ idx : List Int64, InBounds shape (idx.map Int64.toInt) →
          ∃ x, vals[(rowMajor shape (idx.map Int64.toInt)).toNat]? = some x ∧
            v.element s idx = .ok x := by
  refine ⟨fun strides => ⟨fun hnone => ?refused, fun ⟨f, hf, hkind⟩ => ?extraction⟩, ?reads⟩
  case refused =>
    obtain ⟨f, hf⟩ := HostData.values_eq_none_iff.mp hnone
    exact ⟨f, by rw [construct_tag, hf]; rfl, HostData.extract_error_kind hf⟩
  case extraction =>
    rw [construct_tag] at hf
    cases hx : extract d t with
    | error f' => exact HostData.values_eq_none_iff.mpr ⟨f', hx⟩
    | ok raw =>
        rw [hx] at hf
        rcases newView_ofBytes_error_kind hf with hk | hk <;> rw [hk] at hkind <;> cases hkind
  case reads =>
    intro vals hvals hnonneg hcount hbound
    obtain ⟨raw, hraw, hread, hsize⟩ := HostData.extract_values hvals
    have hroom : (shape.map Int64.toInt).prod * t.size ≤ raw.size := by
      rw [hsize, hcount]
      push_cast
      rfl
    have hlen : raw.size < 2 ^ 62 := by rw [hsize]; exact hbound
    have hfit := problem_contiguous hnonneg (size_pos t) (by have := size_le_eight t; omega)
      hroom hlen
    refine ⟨_, _, by rw [construct_tag, hraw]; exact newView_ofBytes hfit, fun idx hidx => ?_⟩
    obtain ⟨hr0, hrlt⟩ := rowMajor_bounds hidx
    have hk : (rowMajor shape (idx.map Int64.toInt)).toNat < vals.length := by omega
    refine ⟨vals[_], List.getElem?_eq_getElem hk, ?_⟩
    exact (@View.element_contiguous ⟨id, shape, _, t, false⟩ ⟨raw, 1, 0, false⟩ rfl rfl rfl hfit
      hlen idx hidx).trans (congrArg Except.ok (hread _ hk))

theorem construct_reads_values_square :
    (HostData.int16s [1, -2, 3, 4]).values .int16 =
        some [.int16 1, .int16 (-2), .int16 3, .int16 4] ∧
      (∀ e ∈ ([2, 2] : Shape), 0 ≤ e.toInt) ∧
      (([2, 2] : Shape).map Int64.toInt).prod = 4 ∧ 4 * DataType.int16.size < 2 ^ 62 ∧
      ∃ v s, construct (.int16s [1, -2, 3, 4]) [2, 2] none [DataType.int16.tag.toNat.toUInt8] 0 =
          .ok (v, s) ∧
        ∀ idx : List Int64, InBounds [2, 2] (idx.map Int64.toInt) →
          ∃ x, [Value.int16 1, .int16 (-2), .int16 3, .int16 4][(rowMajor [2, 2]
            (idx.map Int64.toInt)).toNat]? = some x ∧ v.element s idx = .ok x :=
  ⟨rfl, by simp, by simp, by simp [DataType.size],
    (construct_reads_values _ _ _ 0).2 _ rfl (by simp) (by simp) (by simp [DataType.size])⟩

end StridedBuffer
