import Mathlib
import StridedBuffer.Proofs.LayoutFit
import StridedBuffer.Buffer.Descriptor

/-! # Offsets and counts of layouts that pass the check

A layout that passes the check is read with word arithmetic that never wraps. The
running offset of an index tuple within the extents is, after each dimension, the
offset of an element (the tuple with the remaining indices at zero), so on a storage
below `2^62` bytes every partial sum and every step stays far inside the words and the
final offset is the exact sum of index times stride. The element and byte counts are the
exact products of the extents, on any storage, since the check bounds the byte count by
the largest word.
-/

namespace StridedBuffer.Layout

/-! ## Index tuples -/

section Tuples

variable {shape : List Int64} {idx : List Int}

theorem inBounds_length (h : InBounds shape idx) : idx.length = shape.length :=
  List.Forall₂.length_eq h

theorem inBounds_pos (h : InBounds shape idx) : ∀ d ∈ shape, 1 ≤ d.toInt := by
  induction h with
  | nil => simp
  | cons hd _ ih =>
      intro e he
      rcases List.mem_cons.mp he with rfl | he
      · omega
      · exact ih e he

theorem inBounds_zeros (hpos : ∀ d ∈ shape, 1 ≤ d.toInt) :
    InBounds shape (List.replicate shape.length 0) := by
  induction shape with
  | nil => exact .nil
  | cons d rest ih =>
      have hd : 1 ≤ d.toInt := hpos d (by simp)
      exact .cons ⟨le_refl 0, by omega⟩ (ih fun e he => hpos e (by simp [he]))

end Tuples

@[simp] theorem byteOffset_zeros (n : Nat) (strides : List Int64) :
    byteOffset (List.replicate n 0) strides = 0 := by
  induction n generalizing strides with
  | zero => rfl
  | succ n ih =>
      cases strides with
      | nil => rfl
      | cons s rest => simp [List.replicate_succ, ih]

/-! ## The running offset -/

/-- The walk over the dimensions keeps its running offset exact so long as every element
reached from it lies in `[0, M]`: the offset after one more dimension is again such a
running offset, and both the step and the new sum are differences of element offsets. -/
theorem offset_go_exact {M : Int} (hM : M < 2 ^ 62) {idx : List Int64} :
    ∀ {shape strides : List Int64} (i : Nat) (acc : Int64),
      InBounds shape (idx.map Int64.toInt) → shape.length = strides.length →
      (∀ t, InBounds shape t →
        0 ≤ acc.toInt + byteOffset t strides ∧ acc.toInt + byteOffset t strides ≤ M) →
      ∃ o, offset.go i acc (idx.zip (shape.zip strides)) = .ok o ∧
        o.toInt = acc.toInt + byteOffset (idx.map Int64.toInt) strides := by
  induction idx with
  | nil =>
      intro shape strides i acc _ _ _
      exact ⟨acc, rfl, by simp⟩
  | cons x xs ih =>
      intro shape strides i acc hidx hlen hacc
      obtain ⟨d, ds, ⟨hx0, hxd⟩, hrest, rfl⟩ := List.forall₂_cons_left_iff.mp hidx
      obtain _ | ⟨s, ss⟩ := strides
      · cases hlen
      have hzeros := inBounds_zeros (inBounds_pos hrest)
      have h₀ := hacc (0 :: List.replicate ds.length 0) (.cons ⟨le_refl 0, by omega⟩ hzeros)
      have h₁ := hacc (x.toInt :: List.replicate ds.length 0) (.cons ⟨hx0, hxd⟩ hzeros)
      simp only [byteOffset_cons, byteOffset_zeros, zero_mul, add_zero] at h₀ h₁
      have hmul : (x * s).toInt = x.toInt * s.toInt :=
        toInt_mul_exact (by omega) (by omega)
      have hadd : (acc + x * s).toInt = acc.toInt + x.toInt * s.toInt := by
        rw [toInt_add_exact] <;> rw [hmul] <;> omega
      have hin : ¬ (x < 0 ∨ x ≥ d) := by
        rw [Int64.lt_iff_toInt_lt, GE.ge, Int64.le_iff_toInt_le, Int64.toInt_zero]
        omega
      obtain ⟨o, hgo, ho⟩ := ih (i + 1) (acc + x * s) hrest (by simpa using hlen)
        fun t ht => by
          have := hacc (x.toInt :: t) (.cons ⟨hx0, hxd⟩ ht)
          rw [byteOffset_cons] at this
          rw [hadd]
          constructor <;> linarith
      refine ⟨o, ?_, ?_⟩
      · simp only [List.zip_cons_cons, offset.go, hin, if_false, hgo]
      · rw [ho, hadd, List.map_cons, byteOffset_cons]
        ring

/-- On a storage below `2^62` bytes, a layout that fits gives each index tuple within
the extents its exact offset, and the element lies within the storage. -/
theorem offset_exact {shape strides : List Int64} {itemSize storageLen : Nat}
    (hfits : Fits shape strides itemSize storageLen) (hlen : storageLen < 2 ^ 62)
    {idx : List Int64} (hidx : InBounds shape (idx.map Int64.toInt)) :
    ∃ o, offset shape strides idx = .ok o ∧
      o.toInt = byteOffset (idx.map Int64.toInt) strides ∧
      0 ≤ o.toInt ∧ o.toInt + itemSize ≤ storageLen := by
  obtain ⟨hrank, -, hzero | ⟨-, hall⟩⟩ := hfits
  · obtain ⟨d, hd, h0⟩ := hzero
    have := inBounds_pos hidx d hd
    omega
  have hcount : idx.length = shape.length := by
    rw [← inBounds_length hidx, List.length_map]
  obtain ⟨o, hgo, ho⟩ := offset_go_exact (M := (storageLen : Int) - itemSize) (by omega) 0 0
    hidx hrank fun t ht => by simpa using hall t ht
  have hbounds := hall _ hidx
  refine ⟨o, ?_, by simpa using ho, ?_⟩
  · simp only [offset, hcount, ne_eq, not_true_eq_false, if_false, hgo]
  · simp only [Int64.toInt_zero, zero_add] at ho
    omega

/-! ## Counts -/

theorem foldl_mul_zero (ds : List Int64) : ds.foldl (· * ·) 0 = 0 := by
  induction ds with
  | nil => rfl
  | cons d rest ih => simpa using ih

theorem foldl_mul_eq_zero {ds : List Int64} (h : ∃ d ∈ ds, d.toInt = 0) (a : Int64) :
    ds.foldl (· * ·) a = 0 := by
  induction ds generalizing a with
  | nil => simp at h
  | cons d rest ih =>
      rw [List.foldl_cons]
      by_cases hd : d.toInt = 0
      · rw [eq_zero_iff_toInt.mpr hd, Int64.mul_zero, foldl_mul_zero]
      · obtain ⟨e, he, h0⟩ := h
        rcases List.mem_cons.mp he with rfl | he
        · exact absurd h0 hd
        · exact ih ⟨e, he, h0⟩ _

theorem toInt_foldl_mul {ds : List Int64} {a : Int64} (hpos : ∀ d ∈ ds, 1 ≤ d.toInt)
    (ha : 0 ≤ a.toInt) (hle : a.toInt * (ds.map Int64.toInt).prod ≤ maxWord) :
    (ds.foldl (· * ·) a).toInt = a.toInt * (ds.map Int64.toInt).prod := by
  induction ds generalizing a with
  | nil => simp
  | cons d rest ih =>
      have hd : 1 ≤ d.toInt := hpos d (by simp)
      have hrest : 1 ≤ (rest.map Int64.toInt).prod :=
        prod_toInt_pos fun e he => hpos e (by simp [he])
      have hmax : maxWord = 2 ^ 63 - 1 := by simp [maxWord, Nat.pow_eq]
      simp only [List.map_cons, List.prod_cons] at hle ⊢
      have hstep : a.toInt * d.toInt ≤ a.toInt * (d.toInt * (rest.map Int64.toInt).prod) :=
        mul_le_mul_of_nonneg_left (le_mul_of_one_le_right (by omega) hrest) ha
      have had : (a * d).toInt = a.toInt * d.toInt :=
        toInt_mul_exact (by nlinarith) (by omega)
      rw [List.foldl_cons, ih (fun e he => hpos e (by simp [he])) (by rw [had]; nlinarith)
        (by rw [had, mul_assoc]; exact hle), had, mul_assoc]

section Counts

variable {shape : List Int64} {itemSize : Nat}
  (hnonneg : ∀ d ∈ shape, 0 ≤ d.toInt)
  (hcount : (∃ d ∈ shape, d.toInt = 0) ∨ (itemSize : Int) * (shape.map Int64.toInt).prod ≤ maxWord)
  (hsize : 0 < itemSize)
include hnonneg hcount hsize

theorem numElements_exact : (Shape.numElements shape).toInt = (shape.map Int64.toInt).prod := by
  by_cases hzero : ∃ d ∈ shape, d.toInt = 0
  · obtain ⟨d, hd, h0⟩ := hzero
    rw [Shape.numElements, foldl_mul_eq_zero ⟨d, hd, h0⟩,
      List.prod_eq_zero (List.mem_map.mpr ⟨d, hd, h0⟩)]
    rfl
  have hle := hcount.resolve_left hzero
  have hpos := extents_pos hnonneg hzero
  have hprod := prod_toInt_pos hpos
  rw [Shape.numElements, toInt_foldl_mul hpos (by decide) (by
    rw [Int64.toInt_one, one_mul]
    nlinarith)]
  simp

theorem byteCount_exact (hsmall : itemSize < 2 ^ 62) :
    (Shape.numElements shape * Int64.ofNat itemSize).toInt =
      (shape.map Int64.toInt).prod * itemSize := by
  have hn := numElements_exact hnonneg hcount hsize
  have hs : (Int64.ofNat itemSize).toInt = itemSize := toInt_ofNat_small hsmall
  have hprod := prod_toInt_nonneg hnonneg
  have hmax : maxWord = 2 ^ 63 - 1 := by simp [maxWord, Nat.pow_eq]
  have hbound : (shape.map Int64.toInt).prod * itemSize ≤ maxWord := by
    rcases hcount with ⟨d, hd, h0⟩ | hle
    · rw [List.prod_eq_zero (List.mem_map.mpr ⟨d, hd, h0⟩), zero_mul, hmax]
      norm_num
    · linarith
  rw [toInt_mul_exact, hn, hs] <;> rw [hn, hs] <;> nlinarith

end Counts

theorem count_of_problem_eq_none {shape strides : List Int64} {itemSize storageLen : Nat}
    (hp : problem shape strides itemSize storageLen = none) (hsize : itemSize < 2 ^ 62) :
    (∀ d ∈ shape, 0 ≤ d.toInt) ∧
      ((∃ d ∈ shape, d.toInt = 0) ∨ (itemSize : Int) * (shape.map Int64.toInt).prod ≤ maxWord) := by
  have hsz : (Int64.ofNat itemSize).toInt = itemSize := toInt_ofNat_small hsize
  unfold problem at hp
  dsimp only at hp
  split at hp
  · cases hp
  split at hp
  · cases hp
  rename_i hval
  have hnonneg := shapeProblem_eq_none_iff.mp hval
  refine ⟨hnonneg, ?_⟩
  split at hp
  · exact .inl (any_zero_iff.mp ‹_›)
  rename_i hzero
  have hpos := extents_pos hnonneg fun h => hzero (any_zero_iff.mpr h)
  split at hp
  · cases hp
  rename_i hcount
  right
  rw [← hsz]
  exact (countFits_iff (by omega) hpos).mp (by simpa using hcount)

end StridedBuffer.Layout

namespace StridedBuffer

open Layout

/-! ## Views and descriptors -/

namespace View

variable {v : View} {s : Storage}

theorem counts_exact (hp : problem v.shape v.strides v.itemSize s.len = none) :
    v.numElements.toInt = (v.shape.map Int64.toInt).prod ∧
      v.byteLen.toInt = (v.shape.map Int64.toInt).prod * v.itemSize := by
  have hsize : v.itemSize ≤ 8 := size_le_eight v.dtype
  obtain ⟨hnonneg, hcount⟩ := count_of_problem_eq_none hp (by omega)
  exact ⟨numElements_exact hnonneg hcount (size_pos v.dtype),
    byteCount_exact hnonneg hcount (size_pos v.dtype) (by omega)⟩

section Elements

variable (hp : problem v.shape v.strides v.itemSize s.len = none) (hlen : s.len < 2 ^ 62)
  {idx : List Int64} (hidx : InBounds v.shape (idx.map Int64.toInt))
include hp hlen hidx

theorem offset_exact :
    ∃ o, v.offset idx = .ok o ∧ o.toInt = byteOffset (idx.map Int64.toInt) v.strides ∧
      0 ≤ o.toInt ∧ o.toInt + v.itemSize ≤ s.len := by
  have hsize : v.itemSize ≤ 8 := size_le_eight v.dtype
  obtain ⟨o, ho, hrest⟩ :=
    Layout.offset_exact ((problem_eq_none_iff (by omega) hlen).mp hp) hlen hidx
  exact ⟨o, by simp [View.offset, ho], hrest⟩

end Elements

theorem element_of_offset {idx : List Int64} {o : Int64} (hv : v.released = false)
    (hs : s.released = false) (ho : v.offset idx = .ok o) (h0 : 0 ≤ o.toInt)
    (hend : o.toInt + v.itemSize ≤ s.len) :
    v.element s idx = .ok (Value.read v.dtype s.bytes o.toInt.toNat) := by
  have hin : ¬ (o < 0 ∨ o.toInt + v.itemSize > s.bytes.size) := by
    rw [Int64.lt_iff_toInt_lt, Int64.toInt_zero]
    simp only [Storage.len] at hend
    omega
  simp [element, hv, ho, Storage.data, hs, hin, bind, Except.bind, pure, Except.pure]

end View

namespace Descriptor

/-- A live descriptor whose snapshot passes the check against a storage below `2^62`
bytes hands over the storage's memory whenever an index tuple is within its extents,
and the tuple's offset is exact and within that memory. -/
theorem offset_exact {d : Descriptor} {s : Storage} (hlive : d.released = false)
    (hnd : d.ndim = d.shape.length)
    (hp : problem d.shape d.strides d.itemSize s.len = none) (hsize : 0 < d.itemSize)
    (hsmall : d.itemSize < 2 ^ 62) (hempty : d.empty = (s.len == 0)) (hlen : s.len < 2 ^ 62)
    {idx : List Int64} (hidx : InBounds d.shape (idx.map Int64.toInt)) :
    ∃ o w, d.offset idx = .ok o ∧ d.window s = some w ∧
      o.toInt = byteOffset (idx.map Int64.toInt) d.strides ∧
      0 ≤ o.toInt ∧ o.toInt + d.itemSize ≤ w.size := by
  obtain ⟨o, ho, hexact, h0, hend⟩ :=
    Layout.offset_exact ((problem_eq_none_iff hsmall hlen).mp hp) hlen hidx
  have hne : (s.len == 0) = false := by
    rw [beq_eq_false_iff_ne]
    omega
  refine ⟨o, s.bytes, ?_, ?_, hexact, h0, hend⟩
  · simp [Descriptor.offset, hnd, ho]
  · simp [window, bufNull, hlive, hempty, hne]

end Descriptor

end StridedBuffer
