import Mathlib
import StridedBuffer.Proofs.RowMajorLayouts
import StridedBuffer.Proofs.LayoutInvariant
import StridedBuffer.Proofs.Holders

/-! # Reading row-major views

A live view (not released, over a live storage, with a layout that passed the check against
it; every unreleased view of a session is one) is read three ways: `element` at the offset
its strides give, `head` from the front of the storage in storage order, and through the
memory of a descriptor exported from it. On a row-major view the three agree. Element `k`
in row-major order starts at byte `k` times the item size, which is where `head` decodes its
`k`-th value, and the bytes of a descriptor's memory up to its length hold the elements in
row-major order. The storage has room for all of them, so a consumer that ignores the
strides stays inside it.
-/

namespace StridedBuffer

open Layout

theorem Except.mapM_map_eq_ok {α β γ ε : Type} {f : β → Except ε γ} {u : α → β} {g : α → γ} :
    ∀ {l : List α}, (∀ x ∈ l, f (u x) = .ok (g x)) → (l.map u).mapM f = .ok (l.map g)
  | [], _ => rfl
  | x :: xs, h => by
      rw [List.map_cons, List.mapM_cons, h x (by simp),
        Except.mapM_map_eq_ok fun y hy => h y (by simp [hy])]
      rfl

/-! ## Leading values -/

theorem length_leadingValues (t : DataType) (bs : ByteArray) (limit : Int) :
    ((leadingValues t bs limit).length : Int) = max 0 (min limit (bs.size / t.size : Nat)) := by
  unfold leadingValues
  generalize bs.size / t.size = n
  split
  · simp only [List.length_nil, Nat.cast_zero]
    omega
  · rw [List.length_map, List.length_range, Nat.cast_min, Int.toNat_eq_max]
    omega

theorem getElem?_leadingValues {t : DataType} {bs : ByteArray} {limit : Int} {k : Nat}
    (hk : k < (leadingValues t bs limit).length) :
    (leadingValues t bs limit)[k]? = some (Value.read t bs (k * t.size)) := by
  by_cases hl : limit ≤ 0
  · simp [leadingValues, hl] at hk
  · simp only [leadingValues, hl, if_false, List.length_map, List.length_range] at hk ⊢
    simp [hk]

theorem Value.read_extract {t : DataType} {bs : ByteArray} {start n : Nat}
    (hn : start + t.size ≤ n) (hb : n ≤ bs.size) :
    Value.read t (bs.extract 0 n) start = Value.read t bs start :=
  Value.read_congr fun i hi => by rw [ByteArray.getElem?_extract' (by omega) hb, Nat.zero_add]

/-! ## Live views -/

/-- A view that can be read: it is not released, its storage is live, and its layout passes
the check against the storage. -/
structure View.Live (v : View) (s : Storage) : Prop where
  view : v.released = false
  storage : s.released = false
  fits : problem v.shape v.strides v.itemSize s.len = none

/-- Every unreleased view of a session reached by fewer than `2^31` requests, which touch
storages only through views and descriptors, is live over its storage. -/
theorem Bench.live_of_reachable {n : Nat} {b : Bench}
    (hb : ReachableIn (fun r => r.direct = false) n b) (hn : n < 2 ^ 31)
    {v : View} (hv : v ∈ b.views) (hlive : v.released = false) : v.Live (b.storageAt v.storage) :=
  ⟨hlive, (hb.holdersCounted hn).1.live_of_holder (by have := liveViews_pos hv hlive; omega),
    (hb.reachable.layoutsFit.views v hv).2⟩

namespace View

variable {v : View} {s : Storage}

theorem head_of_live (h : v.Live s) (limit : Int) :
    v.head s limit = .ok (leadingValues v.dtype s.bytes limit) := by
  simp [head, h.view, Storage.data, h.storage, bind, Except.bind, pure, Except.pure]

theorem itemSize_word : (Int64.ofNat v.itemSize).toInt = v.itemSize :=
  toInt_ofNat_small (by have : v.itemSize ≤ 8 := size_le_eight v.dtype; omega)

section Live

variable (h : v.Live s)
include h

theorem extents_nonneg : ∀ d ∈ v.shape, 0 ≤ d.toInt :=
  (count_of_problem_eq_none h.fits (by have : v.itemSize ≤ 8 := size_le_eight v.dtype; omega)).1

theorem count_word (hnz : ¬ ∃ d ∈ v.shape, d.toInt = 0) :
    (Int64.ofNat v.itemSize).toInt * (v.shape.map Int64.toInt).prod ≤ maxWord := by
  rw [itemSize_word]
  exact (count_of_problem_eq_none h.fits (by have : v.itemSize ≤ 8 := size_le_eight v.dtype; omega)).2.resolve_left
    hnz

theorem room_of_isContiguous (hc : v.isContiguous = true) :
    (v.shape.map Int64.toInt).prod * v.itemSize ≤ s.len := by
  by_cases hzero : ∃ d ∈ v.shape, d.toInt = 0
  · obtain ⟨d, hd, h0⟩ := hzero
    rw [List.prod_eq_zero (List.mem_map.mpr ⟨d, hd, h0⟩), zero_mul]
    exact Int.natCast_nonneg _
  exact Layout.room_of_isContiguous h.fits (extents_pos (extents_nonneg h) hzero) hc
    (size_pos v.dtype) (by have : v.itemSize ≤ 8 := size_le_eight v.dtype; omega)

theorem isContiguous_iff_offsets (hnz : ∀ d ∈ v.shape, d.toInt ≠ 0) :
    v.isContiguous = true ↔ ∀ idx : List Int64, InBounds v.shape (idx.map Int64.toInt) →
      ∃ o, v.offset idx = .ok o ∧ o.toInt = v.itemSize * rowMajor v.shape (idx.map Int64.toInt) := by
  have hnz' : ¬ ∃ d ∈ v.shape, d.toInt = 0 := fun ⟨d, hd, h0⟩ => hnz d hd h0
  have hpos := extents_pos (extents_nonneg h) hnz'
  have hcount := count_word h hnz'
  have hsz : (Int64.ofNat v.itemSize).toInt = v.itemSize := itemSize_word
  have hrank := rank_of_problem_eq_none h.fits
  constructor
  · intro hc idx hidx
    obtain ⟨o, ho, hbmod⟩ := v.offset_bmod hidx
    have hexact := byteOffset_of_isContiguous (by omega) hrank hpos hcount hc hidx
    obtain ⟨h0, hlt⟩ := rowMajor_bounds hidx
    rw [hsz] at hexact hcount
    have hle : (v.itemSize : Int) * rowMajor v.shape (idx.map Int64.toInt) ≤ maxWord :=
      le_trans (mul_le_mul_of_nonneg_left hlt.le (Int.natCast_nonneg _)) hcount
    have hmax : maxWord = 2 ^ 63 - 1 := by simp [maxWord, Nat.pow_eq]
    refine ⟨o, ho, ?_⟩
    have hnn : 0 ≤ (v.itemSize : Int) * rowMajor v.shape (idx.map Int64.toInt) :=
      mul_nonneg (Int.natCast_nonneg _) h0
    rw [hbmod, hexact, Int.bmod_eq_of_le (by omega) (by omega)]
  · intro hoff
    refine isContiguous_of_offsets (by omega) hrank hpos hcount fun idx hidx => ?_
    obtain ⟨o, ho, hbmod⟩ := v.offset_bmod hidx
    obtain ⟨o', ho', hval⟩ := hoff idx hidx
    rw [ho, Except.ok.injEq] at ho'
    rw [← hbmod, ho', hval, hsz]

theorem element_unravel (hc : v.isContiguous = true) {k : Nat}
    (hk : (k : Int) < (v.shape.map Int64.toInt).prod) :
    v.element s (unravel v.shape k) = .ok (Value.read v.dtype s.bytes (k * v.itemSize)) := by
  have hnz : ∀ d ∈ v.shape, d.toInt ≠ 0 := fun d hd h0 => by
    rw [List.prod_eq_zero (List.mem_map.mpr ⟨d, hd, h0⟩)] at hk
    omega
  have hpos := extents_pos (extents_nonneg h) fun ⟨d, hd, h0⟩ => hnz d hd h0
  obtain ⟨hin, hrow⟩ := unravel_spec hpos hk
  obtain ⟨o, ho, hval⟩ := (isContiguous_iff_offsets h hnz).mp hc _ hin
  rw [hrow] at hval
  have hroom := room_of_isContiguous h hc
  have h0 : 0 ≤ o.toInt := by rw [hval]; positivity
  have hend : o.toInt + v.itemSize ≤ s.len := by rw [hval]; nlinarith
  rw [element_of_offset h.view h.storage ho h0 hend, hval]
  congr 2
  rw [mul_comm]
  exact_mod_cast Int.toNat_natCast (k * v.itemSize)

theorem elements_of_isContiguous (hc : v.isContiguous = true) :
    v.elements s = .ok ((List.range v.numElements.toInt.toNat).map fun k =>
      Value.read v.dtype s.bytes (k * v.itemSize)) := by
  have hcount := (counts_exact h.fits).1
  unfold elements rowMajorIndices
  split
  · -- an extent of zero: no tuple and no element
    rename_i hany
    obtain ⟨d, hd, hle⟩ := List.any_eq_true.mp hany
    have h0 : d.toInt = 0 := by
      have := extents_nonneg h d hd
      have := Int64.le_iff_toInt_le.mp (of_decide_eq_true hle)
      simp at this
      omega
    rw [hcount, List.prod_eq_zero (List.mem_map.mpr ⟨d, hd, h0⟩)]
    rfl
  · rename_i hany
    have hpos : ∀ d ∈ v.shape, 1 ≤ d.toInt := fun d hd => by
      have hgt : ¬ d ≤ 0 := fun hle => hany (List.any_eq_true.mpr ⟨d, hd, decide_eq_true hle⟩)
      rw [Int64.le_iff_toInt_le, Int64.toInt_zero] at hgt
      omega
    have hprod := prod_toInt_pos hpos
    have hlist : indexTuples v.shape = (List.range v.numElements.toInt.toNat).map (unravel v.shape) := by
      apply List.ext_getElem?
      intro k
      rw [hcount, List.getElem?_map]
      by_cases hk : (k : Int) < (v.shape.map Int64.toInt).prod
      · rw [getElem?_indexTuples hpos hk, List.getElem?_range (by omega)]
        rfl
      · have hlen := length_indexTuples hpos
        rw [List.getElem?_eq_none (by omega), List.getElem?_eq_none (by simp; omega)]
        rfl
    rw [hlist]
    refine Except.mapM_map_eq_ok fun k hk => element_unravel h hc ?_
    rw [List.mem_range] at hk
    omega

end Live

end View

theorem exportView_contiguous {v : View} {s : Storage} {flags : Flags} {r : Descriptor × Storage}
    (h : exportView v s flags = .ok r) (hflags : flags.requiresContiguous = true) :
    v.isContiguous = true := by
  unfold exportView at h
  cases hv : v.released
  · cases hc : v.isContiguous
    · simp [hv, hflags, hc, bind, Except.bind, throw, throwThe, MonadExceptOf.throw] at h
    · rfl
  · simp [hv, bind, Except.bind, throw, throwThe, MonadExceptOf.throw] at h

namespace View

variable {v : View} {s : Storage}

theorem exportView_rowMajor {s' : Storage} {flags : Flags} {d : Descriptor} (h : v.Live s)
    (hc : v.isContiguous = true) (he : exportView v s flags = .ok (d, s')) :
    d.len.toInt ≤ ((d.window s').getD .empty).size ∧
      v.elements s = .ok ((List.range v.numElements.toInt.toNat).map fun k =>
        Value.read v.dtype (((d.window s').getD .empty).extract 0 d.len.toInt.toNat)
          (k * v.itemSize)) := by
  obtain ⟨-, -, rfl, rfl⟩ := exportView_eq_ok he
  obtain ⟨hN, hbytes⟩ := counts_exact h.fits
  have hroom := room_of_isContiguous h hc
  have hsize := size_pos v.dtype
  have hprod := prod_toInt_nonneg (extents_nonneg h)
  rw [elements_of_isContiguous h hc]
  simp only [Descriptor.window, Descriptor.bufNull, Bool.false_or, hbytes]
  by_cases hs0 : s.len = 0
  · -- an empty storage leaves room for no element
    have hzero : (v.shape.map Int64.toInt).prod = 0 := by
      rw [hs0, Nat.cast_zero] at hroom
      have hsz : (0 : Int) < v.itemSize := by exact_mod_cast hsize
      rcases hprod.lt_or_eq with hlt | heq
      · linarith [mul_pos hlt hsz]
      · exact heq.symm
    refine ⟨by rw [hzero, zero_mul]; exact Int.natCast_nonneg _, ?_⟩
    rw [hN, hzero, Int.toNat_zero, List.range_zero, List.map_nil, List.map_nil]
  · simp only [show (s.len == 0) = false from by simpa using hs0, Bool.false_eq_true, if_false,
      Option.getD_some]
    refine ⟨by simpa [Storage.len] using hroom, ?_⟩
    refine congrArg Except.ok (List.map_congr_left fun k hk => ?_)
    rw [List.mem_range, hN] at hk
    refine (Value.read_extract ?_ ?_).symm
    · have hk' : ((k + 1 : Nat) : Int) ≤ (v.shape.map Int64.toInt).prod := by push_cast; omega
      have : ((k + 1 : Nat) : Int) * v.itemSize ≤ (v.shape.map Int64.toInt).prod * v.itemSize :=
        mul_le_mul_of_nonneg_right hk' (Int.natCast_nonneg _)
      have : k * v.itemSize + v.dtype.size = (k + 1) * v.itemSize := by rw [Nat.succ_mul]; rfl
      omega
    · simp only [Storage.len] at hroom
      omega

end View

/-- Row-major views read alike through their offsets, from the front of their storage, and
through a descriptor that ignores strides. For a live view without a zero extent, the strides
are row-major exactly when every tuple within the extents lies at the item size times its
row-major number. On a live view `head` returns as many values as the limit and the storage
allow, and on a row-major one its `k`-th value is the element at `unravel k` for every `k`
below both the limit and the element count. A descriptor for a consumer that needs
row-major data is exported only from a row-major view; its length is at most that of its
memory, and the bytes before its length decode, item by item, to the view's elements in
row-major order. Every unreleased view of a session is live (`Bench.live_of_reachable`). -/
theorem row_major_views_read_alike {v : View} {s : Storage} (h : v.Live s) :
    ((∀ d ∈ v.shape, d.toInt ≠ 0) →
      (v.isContiguous = true ↔ ∀ idx : List Int64, InBounds v.shape (idx.map Int64.toInt) →
        ∃ o, v.offset idx = .ok o ∧ o.toInt = v.itemSize * rowMajor v.shape (idx.map Int64.toInt))) ∧
    (∀ limit : Int, ∃ xs, v.head s limit = .ok xs ∧
      (xs.length : Int) = max 0 (min limit (s.len / v.itemSize : Nat)) ∧
      (v.isContiguous = true → ∀ k : Nat, (k : Int) < min limit v.numElements.toInt →
        ∃ x, xs[k]? = some x ∧ v.element s (unravel v.shape k) = .ok x)) ∧
    (∀ flags d s', flags.requiresContiguous = true → exportView v s flags = .ok (d, s') →
      v.isContiguous = true ∧ d.len.toInt ≤ ((d.window s').getD .empty).size ∧
      v.elements s = .ok ((List.range v.numElements.toInt.toNat).map fun k =>
        Value.read v.dtype (((d.window s').getD .empty).extract 0 d.len.toInt.toNat)
          (k * v.itemSize))) := by
  refine ⟨View.isContiguous_iff_offsets h, fun limit => ?_, fun flags d s' hflags he => ?_⟩
  · refine ⟨_, View.head_of_live h limit, length_leadingValues _ _ _, fun hc k hk => ?_⟩
    have hN := (View.counts_exact h.fits).1
    have hroom := View.room_of_isContiguous h hc
    have hsize := size_pos v.dtype
    have hfit : k + 1 ≤ s.len / v.itemSize := by
      rw [Nat.le_div_iff_mul_le (show 0 < v.itemSize from hsize)]
      have : ((k + 1 : Nat) : Int) * v.itemSize ≤ s.len := by
        have : ((k + 1 : Nat) : Int) ≤ (v.shape.map Int64.toInt).prod := by push_cast; omega
        nlinarith
      exact_mod_cast this
    have hklen : k < (leadingValues v.dtype s.bytes limit).length := by
      have hlen := length_leadingValues v.dtype s.bytes limit
      have : ((s.len / v.itemSize : Nat) : Int) = (s.bytes.size / v.dtype.size : Nat) := rfl
      omega
    exact ⟨_, getElem?_leadingValues hklen, View.element_unravel h hc (by omega)⟩
  · have hc := exportView_contiguous he hflags
    exact ⟨hc, View.exportView_rowMajor h hc he⟩

/-- Six bytes viewed as a two by three row-major matrix. -/
theorem row_major_views_read_alike_matrix :
    View.Live ⟨0, [2, 3], [3, 1], .uint8, false⟩ (Storage.ofBytes ⟨#[1, 2, 3, 4, 5, 6]⟩) ∧
    ((∀ d ∈ ([2, 3] : Shape), d.toInt ≠ 0) →
      ((⟨0, [2, 3], [3, 1], .uint8, false⟩ : View).isContiguous = true ↔
        ∀ idx : List Int64, InBounds [2, 3] (idx.map Int64.toInt) →
          ∃ o, (⟨0, [2, 3], [3, 1], .uint8, false⟩ : View).offset idx = .ok o ∧
            o.toInt = DataType.uint8.size * rowMajor [2, 3] (idx.map Int64.toInt))) ∧
    (∀ limit : Int, ∃ xs, (⟨0, [2, 3], [3, 1], .uint8, false⟩ : View).head
        (Storage.ofBytes ⟨#[1, 2, 3, 4, 5, 6]⟩) limit = .ok xs ∧
      (xs.length : Int) =
        max 0 (min limit ((Storage.ofBytes ⟨#[1, 2, 3, 4, 5, 6]⟩).len / DataType.uint8.size : Nat)) ∧
      ((⟨0, [2, 3], [3, 1], .uint8, false⟩ : View).isContiguous = true → ∀ k : Nat,
        (k : Int) < min limit (Shape.numElements [2, 3]).toInt →
        ∃ x, xs[k]? = some x ∧ (⟨0, [2, 3], [3, 1], .uint8, false⟩ : View).element
          (Storage.ofBytes ⟨#[1, 2, 3, 4, 5, 6]⟩) (unravel [2, 3] k) = .ok x)) ∧
    (∀ flags d s', flags.requiresContiguous = true →
      exportView ⟨0, [2, 3], [3, 1], .uint8, false⟩ (Storage.ofBytes ⟨#[1, 2, 3, 4, 5, 6]⟩) flags =
        .ok (d, s') →
      (⟨0, [2, 3], [3, 1], .uint8, false⟩ : View).isContiguous = true ∧
      d.len.toInt ≤ ((d.window s').getD .empty).size ∧
      (⟨0, [2, 3], [3, 1], .uint8, false⟩ : View).elements (Storage.ofBytes ⟨#[1, 2, 3, 4, 5, 6]⟩) =
        .ok ((List.range (Shape.numElements [2, 3]).toInt.toNat).map fun k =>
          Value.read .uint8 (((d.window s').getD .empty).extract 0 d.len.toInt.toNat)
            (k * DataType.uint8.size))) :=
  have hlive : View.Live ⟨0, [2, 3], [3, 1], .uint8, false⟩ (Storage.ofBytes ⟨#[1, 2, 3, 4, 5, 6]⟩) :=
    ⟨rfl, rfl, by decide⟩
  ⟨hlive, row_major_views_read_alike hlive⟩

end StridedBuffer
