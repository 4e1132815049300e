import Mathlib
import StridedBuffer.Proofs.Contiguous

/-! # Row-major layouts

A view's offset walk adds index times stride on signed words, so the word it returns is
the exact sum of index times stride taken modulo `2^64`. Against that, row-major strides
are recognised by their offsets: on positive extents whose byte count is a word, the
strides agree with the row-major ones on every dimension longer than one exactly when each
index tuple lies at the item size times its row-major number.

A row-major layout that passes the check fits its storage, whatever the storage's length.
Every moving dimension steps forward, so the check's walk only raises its high offset, and
the sums it forms stay below the byte count, which is a word: the walk ends exactly at the
last element, one item short of the byte count. This gives `newContiguous` its exact
condition, the other half being `fits_contiguous`.

`unravel` reads a row-major number back into its index tuple, as digits of mixed radix.
-/

namespace StridedBuffer.Layout

/-! ## The offset walk on words -/

theorem offset_go_bmod : ∀ {shape idx : List Int64}, InBounds shape (idx.map Int64.toInt) →
    ∀ (strides : List Int64) (i : Nat) (acc : Int64),
      ∃ o, offset.go i acc (idx.zip (shape.zip strides)) = .ok o ∧
        o.toInt = (acc.toInt + byteOffset (idx.map Int64.toInt) strides).bmod (2 ^ 64)
  | _, [], h, strides, i, acc => by
      cases h
      exact ⟨acc, rfl, by simp [Int64.toInt_bmod]⟩
  | _, x :: xs, h, strides, i, acc => by
      obtain ⟨d, ds, ⟨hx0, hxd⟩, hrest, rfl⟩ := List.forall₂_cons_left_iff.mp h
      cases strides with
      | nil => exact ⟨acc, rfl, by simp [byteOffset, Int64.toInt_bmod]⟩
      | cons s ss =>
          have hin : ¬ (x < 0 ∨ x ≥ d) := by
            rw [Int64.lt_iff_toInt_lt, GE.ge, Int64.le_iff_toInt_le, Int64.toInt_zero]
            omega
          obtain ⟨o, hgo, ho⟩ := offset_go_bmod hrest ss (i + 1) (acc + x * s)
          refine ⟨o, by simp only [List.zip_cons_cons, offset.go, hin, if_false, hgo], ?_⟩
          rw [ho, Int64.toInt_add, Int64.toInt_mul, Int.add_bmod_bmod, Int.bmod_add_bmod,
            List.map_cons, byteOffset_cons, add_assoc]

end StridedBuffer.Layout

namespace StridedBuffer

open Layout

theorem View.offset_bmod {v : View} {idx : List Int64} (h : InBounds v.shape (idx.map Int64.toInt)) :
    ∃ o, v.offset idx = .ok o ∧ o.toInt = (byteOffset (idx.map Int64.toInt) v.strides).bmod (2 ^ 64) := by
  have hcount : idx.length = v.shape.length := by
    rw [← inBounds_length h, List.length_map]
  obtain ⟨o, hgo, ho⟩ := offset_go_bmod h v.strides 0 0
  refine ⟨o, ?_, by simpa using ho⟩
  simp [View.offset, Layout.offset, hcount, hgo]

namespace Layout

/-! ## Recognising row-major strides -/

theorem isContiguous_cons (d : Int64) (ds : Shape) (s : Int64) (ss : List Int64) (size : Int64) :
    Shape.isContiguous (d :: ds) (s :: ss) size =
      (!(d > 1 && s != ds.foldr (fun e a => a * e) size) && Shape.isContiguous ds ss size) := by
  simp [Shape.isContiguous, contiguousStrides_cons]

@[simp] theorem rowMajor_zeros (shape : List Int64) (n : Nat) :
    rowMajor shape (List.replicate n 0) = 0 := by
  induction shape generalizing n with
  | nil => cases n <;> rfl
  | cons d ds ih => cases n <;> simp [rowMajor, List.replicate_succ, ih]

section Strides

variable {size : Int64} (hsize : 0 ≤ size.toInt)
include hsize

theorem toInt_rowMajorStride {d : Int64} {ds : Shape} (hpos : ∀ e ∈ d :: ds, 1 ≤ e.toInt)
    (hcount : size.toInt * ((d :: ds).map Int64.toInt).prod ≤ maxWord) :
    (ds.foldr (fun e a => a * e) size).toInt = size.toInt * (ds.map Int64.toInt).prod := by
  obtain ⟨hd, hposds⟩ := List.forall_mem_cons.mp hpos
  have hrest : 0 ≤ (ds.map Int64.toInt).prod := le_trans zero_le_one (prod_toInt_pos hposds)
  simp only [List.map_cons, List.prod_cons] at hcount
  refine toInt_foldr_mul hposds hsize (le_trans ?_ hcount)
  exact mul_le_mul_of_nonneg_left (le_mul_of_one_le_left hrest hd) hsize

theorem byteOffset_of_isContiguous : ∀ {shape : Shape} {strides : List Int64},
    shape.length = strides.length → (∀ d ∈ shape, 1 ≤ d.toInt) →
    size.toInt * (shape.map Int64.toInt).prod ≤ maxWord →
    shape.isContiguous strides size = true →
    ∀ {idx : List Int}, InBounds shape idx → byteOffset idx strides = size.toInt * rowMajor shape idx
  | [], [], _, _, _, _, idx, h => by cases h; simp [rowMajor]
  | d :: ds, s :: ss, hlen, hpos, hcount, hc, idx, h => by
      obtain ⟨i, is, ⟨hi0, hid⟩, hrest, rfl⟩ := List.forall₂_cons_right_iff.mp h
      have hstride := toInt_rowMajorStride hsize hpos hcount
      rw [isContiguous_cons, Bool.and_eq_true] at hc
      obtain ⟨hhead, htail⟩ := hc
      obtain ⟨hd1, hposds⟩ := List.forall_mem_cons.mp hpos
      have hprod : 1 ≤ (ds.map Int64.toInt).prod := prod_toInt_pos hposds
      have hsub : size.toInt * (ds.map Int64.toInt).prod ≤ maxWord := by
        simp only [List.map_cons, List.prod_cons] at hcount
        exact le_trans (mul_le_mul_of_nonneg_left (le_mul_of_one_le_left (by omega) hd1) hsize)
          hcount
      rw [byteOffset_cons, rowMajor_cons,
        byteOffset_of_isContiguous (by simpa using hlen) hposds hsub htail hrest]
      -- a dimension longer than one has the row-major stride; one of extent one is only
      -- ever indexed at zero
      by_cases hd : 1 < d.toInt
      · have hgt : d > 1 := by rw [GT.gt, Int64.lt_iff_toInt_lt]; simpa using hd
        have hs : s = ds.foldr (fun e a => a * e) size := by simpa [hgt] using hhead
        rw [hs, hstride]
        ring
      · have : i = 0 := by have := hpos d (by simp); omega
        subst this
        simp

theorem isContiguous_of_offsets : ∀ {shape : Shape} {strides : List Int64},
    shape.length = strides.length → (∀ d ∈ shape, 1 ≤ d.toInt) →
    size.toInt * (shape.map Int64.toInt).prod ≤ maxWord →
    (∀ idx : List Int64, InBounds shape (idx.map Int64.toInt) →
      (byteOffset (idx.map Int64.toInt) strides).bmod (2 ^ 64) =
        size.toInt * rowMajor shape (idx.map Int64.toInt)) →
    shape.isContiguous strides size = true
  | [], [], _, _, _, _ => rfl
  | d :: ds, s :: ss, hlen, hpos, hcount, h => by
      obtain ⟨hd, hposds⟩ := List.forall_mem_cons.mp hpos
      have hprod : 1 ≤ (ds.map Int64.toInt).prod := prod_toInt_pos hposds
      have hsub : size.toInt * (ds.map Int64.toInt).prod ≤ maxWord := by
        simp only [List.map_cons, List.prod_cons] at hcount
        exact le_trans (mul_le_mul_of_nonneg_left (le_mul_of_one_le_left (by omega) hd) hsize)
          hcount
      have htail : Shape.isContiguous ds ss size = true := by
        refine isContiguous_of_offsets (by simpa using hlen) hposds hsub fun idx hidx => ?_
        have := h (0 :: idx) (.cons ⟨le_refl 0, by simp; omega⟩ hidx)
        simpa using this
      rw [isContiguous_cons, htail, Bool.and_true, Bool.not_eq_true', Bool.and_eq_false_iff]
      by_cases hgt : d > 1
      · -- the tuple one step along this dimension reads the stride itself
        right
        have hd1 : 1 < d.toInt := by rw [GT.gt, Int64.lt_iff_toInt_lt] at hgt; simpa using hgt
        have hzeros : InBounds ds ((List.replicate ds.length (0 : Int64)).map Int64.toInt) := by
          simpa using inBounds_zeros hposds
        have h1 := h (1 :: List.replicate ds.length 0) (.cons ⟨by simp, by simpa using hd1⟩ hzeros)
        simp only [List.map_cons, List.map_replicate, Int64.toInt_one, byteOffset_cons,
          byteOffset_zeros, rowMajor_cons, rowMajor_zeros, one_mul, add_zero,
          Int64.toInt_zero] at h1
        rw [Int.bmod_eq_of_le (by have := s.le_toInt; omega) (by have := s.toInt_lt; omega)] at h1
        rw [bne_eq_false_iff_eq, ← Int64.toInt_inj, h1, toInt_rowMajorStride hsize hpos hcount]
      · left
        simpa using hgt

end Strides

/-! ## The check's walk over a forward layout -/

theorem reach_forward {limit : Int64} : ∀ {steps : List (Int64 × Int64)} {i : Nat}
    {lo hi lo' hi' : Int64},
    (∀ p ∈ steps, 1 ≤ p.1.toInt ∧ (1 < p.1.toInt → 0 < p.2.toInt)) →
    0 ≤ hi.toInt → hi.toInt + highest steps ≤ maxWord →
    reach limit i steps lo hi = .ok (lo', hi') → hi'.toInt = hi.toInt + highest steps
  | [], i, lo, hi, lo', hi', _, _, _, h => by
      simp only [reach, Except.ok.injEq, Prod.mk.injEq] at h
      rw [← h.2]
      simp [highest]
  | (d, s) :: rest, i, lo, hi, lo', hi', hsteps, h0, hmax, h => by
      obtain ⟨hhead, hrest⟩ := List.forall_mem_cons.mp hsteps
      obtain ⟨hd, hfwd⟩ : 1 ≤ d.toInt ∧ (1 < d.toInt → 0 < s.toInt) := hhead
      have hhighRest := highest_nonneg fun p hp => (hrest p hp).1
      have hn : (d - 1).toInt = d.toInt - 1 := by
        rw [toInt_sub_exact] <;> simp <;> have := d.toInt_lt <;> omega
      rw [highest_cons] at hmax ⊢
      rw [reach] at h
      by_cases hskip : d - 1 = 0 ∨ s = 0
      · -- the dimension moves neither offset
        rw [if_pos hskip] at h
        have hzero : (if 0 < s.toInt then (d.toInt - 1) * s.toInt else 0) = 0 := by
          rcases hskip with h' | h'
          · rw [eq_zero_iff_toInt, hn] at h'
            simp [h']
          · rw [eq_zero_iff_toInt] at h'
            simp [h']
        rw [hzero, zero_add] at hmax ⊢
        exact reach_forward hrest h0 hmax h
      rw [if_neg hskip] at h
      have hd1 : 1 < d.toInt := by
        have : d.toInt - 1 ≠ 0 := fun h' => hskip (.inl (eq_zero_iff_toInt.mpr (hn ▸ h')))
        omega
      have hs : 0 < s.toInt := hfwd hd1
      have hmin : ¬ s = Int64.minValue := by
        rw [eq_minValue_iff_toInt]
        omega
      have hsneg : ¬ s < 0 := by
        rw [Int64.lt_iff_toInt_lt, Int64.toInt_zero]
        omega
      have hterm : 0 ≤ (d.toInt - 1) * s.toInt := by nlinarith
      simp only [if_pos hs] at hmax ⊢
      simp only [hmin, hsneg, if_false] at h
      split at h
      · cases h
      have hstep : ((d - 1) * s).toInt = (d.toInt - 1) * s.toInt := by
        rw [toInt_mul_exact, hn] <;> rw [hn] <;> simp only [maxWord, Nat.pow_eq] at hmax <;> omega
      have hhi : (hi + (d - 1) * s).toInt = hi.toInt + (d.toInt - 1) * s.toInt := by
        rw [toInt_add_exact, hstep] <;> rw [hstep] <;> simp only [maxWord, Nat.pow_eq] at hmax <;>
          omega
      split at h
      · cases h
      rw [reach_forward hrest (by rw [hhi]; omega) (by rw [hhi]; omega) h, hhi]
      ring

theorem highest_of_isContiguous {size : Int64} (hsize : 0 < size.toInt) :
    ∀ {shape : Shape} {strides : List Int64},
    shape.length = strides.length → (∀ d ∈ shape, 1 ≤ d.toInt) →
    size.toInt * (shape.map Int64.toInt).prod ≤ maxWord →
    shape.isContiguous strides size = true →
    (∀ p ∈ shape.zip strides, 1 ≤ p.1.toInt ∧ (1 < p.1.toInt → 0 < p.2.toInt)) ∧
      highest (shape.zip strides) = size.toInt * ((shape.map Int64.toInt).prod - 1)
  | [], [], _, _, _, _ => ⟨by simp, by simp [highest]⟩
  | d :: ds, s :: ss, hlen, hpos, hcount, hc => by
      obtain ⟨hd, hposds⟩ := List.forall_mem_cons.mp hpos
      have hprod : 1 ≤ (ds.map Int64.toInt).prod := prod_toInt_pos hposds
      have hsub : size.toInt * (ds.map Int64.toInt).prod ≤ maxWord := by
        simp only [List.map_cons, List.prod_cons] at hcount
        exact le_trans (mul_le_mul_of_nonneg_left (le_mul_of_one_le_left (by omega) hd)
          hsize.le) hcount
      rw [isContiguous_cons, Bool.and_eq_true] at hc
      obtain ⟨hhead, htail⟩ := hc
      obtain ⟨hsteps, hhigh⟩ := highest_of_isContiguous hsize (by simpa using hlen) hposds hsub htail
      have hstride := toInt_rowMajorStride hsize.le hpos hcount
      have hmoving : 1 < d.toInt → s.toInt = size.toInt * (ds.map Int64.toInt).prod := by
        intro hd1
        have hgt : d > 1 := by rw [GT.gt, Int64.lt_iff_toInt_lt]; simpa using hd1
        have hs : s = ds.foldr (fun e a => a * e) size := by simpa [hgt] using hhead
        rw [hs, hstride]
      refine ⟨fun p hp => ?_, ?_⟩
      · rcases List.mem_cons.mp hp with rfl | hp
        · exact ⟨hd, fun hd1 => by rw [hmoving hd1]; positivity⟩
        · exact hsteps p hp
      · simp only [List.zip_cons_cons, highest_cons, hhigh, List.map_cons, List.prod_cons]
        by_cases hd1 : 1 < d.toInt
        · rw [if_pos (by rw [hmoving hd1]; positivity), hmoving hd1]
          ring
        · have hd1' : d.toInt = 1 := by omega
          simp [hd1']

/-! ## Row-major layouts that pass the check -/

theorem rank_of_problem_eq_none {shape strides : List Int64} {itemSize L : Nat}
    (hp : problem shape strides itemSize L = none) : shape.length = strides.length := by
  unfold problem at hp
  dsimp only at hp
  split at hp
  · cases hp
  · rename_i hrank
    exact not_not.mp hrank

theorem walk_of_problem_eq_none {shape strides : List Int64} {itemSize L : Nat}
    (hp : problem shape strides itemSize L = none) (hnz : ¬ ∃ d ∈ shape, d.toInt = 0) :
    ∃ lo hi, reach (Int64.ofNat L) 0 (shape.zip strides) 0 0 = .ok (lo, hi) ∧
      ¬ hi > Int64.ofNat L - Int64.ofNat itemSize := by
  unfold problem at hp
  dsimp only at hp
  split at hp
  · cases hp
  split at hp
  · cases hp
  rw [if_neg fun h => hnz (any_zero_iff.mp h)] at hp
  split at hp
  · cases hp
  split at hp
  · cases hp
  · rename_i lo hi hr
    refine ⟨lo, hi, hr, fun hgt => ?_⟩
    split at hp
    · cases hp
    · cases hp

theorem room_of_isContiguous {shape strides : List Int64} {itemSize L : Nat}
    (hp : problem shape strides itemSize L = none) (hpos : ∀ d ∈ shape, 1 ≤ d.toInt)
    (hc : Shape.isContiguous shape strides (Int64.ofNat itemSize) = true) (hsize : 0 < itemSize)
    (hsmall : itemSize < 2 ^ 62) : (shape.map Int64.toInt).prod * itemSize ≤ L := by
  have hsz : (Int64.ofNat itemSize).toInt = itemSize := toInt_ofNat_small hsmall
  have hnz : ¬ ∃ d ∈ shape, d.toInt = 0 := fun ⟨d, hd, h0⟩ => by
    have := hpos d hd
    omega
  have hcount := ((count_of_problem_eq_none hp hsmall).2.resolve_left hnz)
  have hmax : maxWord = 2 ^ 63 - 1 := by simp [maxWord, Nat.pow_eq]
  by_cases hL : L < 2 ^ 63
  · obtain ⟨lo, hi, hr, hend⟩ := walk_of_problem_eq_none hp hnz
    obtain ⟨hsteps, hhigh⟩ := highest_of_isContiguous (by rw [hsz]; omega)
      (rank_of_problem_eq_none hp) hpos (by rwa [hsz]) hc
    have hprod := prod_toInt_pos hpos
    have hhi := reach_forward hsteps (by simp) (by
      rw [hhigh, hsz, Int64.toInt_zero, zero_add]
      nlinarith) hr
    have hLw : (Int64.ofNat L).toInt = L := Int64.toInt_ofNat_of_lt hL
    have hlim : (Int64.ofNat L - Int64.ofNat itemSize).toInt = (L : Int) - itemSize := by
      rw [toInt_sub_exact] <;> rw [hLw, hsz] <;> omega
    rw [GT.gt, Int64.lt_iff_toInt_lt, hlim, hhi, hhigh, hsz, Int64.toInt_zero, zero_add] at hend
    nlinarith
  · -- a storage past the words has room for every byte count that is a word
    rw [hmax] at hcount
    have : ((2 ^ 63 : Nat) : Int) ≤ L := by exact_mod_cast not_lt.mp hL
    push_cast at this
    nlinarith

/-- Extents that are all nonnegative and, unless one is zero, whose elements take at most
`L` bytes of `itemSize` each. -/
def RoomFor (shape : List Int64) (itemSize L : Nat) : Prop :=
  (∀ d ∈ shape, 0 ≤ d.toInt) ∧ ((∃ d ∈ shape, d.toInt = 0) ∨ (shape.map Int64.toInt).prod * itemSize ≤ L)

theorem problem_contiguous_eq_none_iff {shape : List Int64} {itemSize L : Nat}
    (hsize : 0 < itemSize) (hsmall : itemSize < 2 ^ 62) (hlen : L < 2 ^ 62) :
    problem shape (Shape.contiguousStrides shape (Int64.ofNat itemSize)) itemSize L = none ↔
      RoomFor shape itemSize L := by
  constructor
  · intro hp
    obtain ⟨hnonneg, hcount⟩ := count_of_problem_eq_none hp hsmall
    refine ⟨hnonneg, ?_⟩
    by_cases hzero : ∃ d ∈ shape, d.toInt = 0
    · exact .inl hzero
    exact .inr (room_of_isContiguous hp (extents_pos hnonneg hzero)
      (Shape.isContiguous_contiguousStrides _ _) hsize hsmall)
  · rintro ⟨hnonneg, hzero | hroom⟩
    · exact (problem_eq_none_iff hsmall hlen).mpr
        ⟨(Shape.contiguousStrides_length _ _).symm, hnonneg, .inl hzero⟩
    · exact problem_contiguous hnonneg hsize hsmall hroom hlen

/-- The exact row-major byte strides: each dimension's is the item size times the extents
after it. -/
def rowMajorStrides (size : Int) : List Int64 → List Int
  | [] => []
  | _ :: ds => size * (ds.map Int64.toInt).prod :: rowMajorStrides size ds

theorem contiguousStrides_exact {size : Int64} (hsize : 0 ≤ size.toInt) :
    ∀ {shape : Shape}, (∀ d ∈ shape, 1 ≤ d.toInt) →
      size.toInt * (shape.map Int64.toInt).prod ≤ maxWord →
      (shape.contiguousStrides size).map Int64.toInt = rowMajorStrides size.toInt shape
  | [], _, _ => rfl
  | d :: ds, hpos, hcount => by
      obtain ⟨hd, hposds⟩ := List.forall_mem_cons.mp hpos
      have hsub : size.toInt * (ds.map Int64.toInt).prod ≤ maxWord := by
        have hprod := prod_toInt_pos hposds
        simp only [List.map_cons, List.prod_cons] at hcount
        exact le_trans (mul_le_mul_of_nonneg_left (le_mul_of_one_le_left (by omega) hd) hsize)
          hcount
      rw [contiguousStrides_cons, List.map_cons, toInt_rowMajorStride hsize hpos hcount,
        contiguousStrides_exact hsize hposds hsub, rowMajorStrides]

/-! ## Row-major numbers read back -/

/-- The index tuple with row-major number `k`: the digits of `k` in the mixed radix of the
extents, the last extent varying fastest. -/
def unravel : List Int64 → Nat → List Int64
  | [], _ => []
  | _ :: ds, k =>
      let inner := (ds.map Int64.toInt).prod.toNat
      Int64.ofNat (k / inner) :: unravel ds (k % inner)

theorem unravel_spec : ∀ {shape : List Int64} {k : Nat}, (∀ d ∈ shape, 1 ≤ d.toInt) →
    (k : Int) < (shape.map Int64.toInt).prod →
    InBounds shape ((unravel shape k).map Int64.toInt) ∧
      rowMajor shape ((unravel shape k).map Int64.toInt) = k
  | [], k, _, hk => by
      have : k = 0 := by simp at hk; omega
      subst this
      exact ⟨.nil, rfl⟩
  | d :: ds, k, hpos, hk => by
      obtain ⟨hd, hposds⟩ := List.forall_mem_cons.mp hpos
      have hP := prod_toInt_pos hposds
      obtain ⟨P, hPeq⟩ : ∃ P : Nat, (ds.map Int64.toInt).prod = P := ⟨_, (Int.toNat_of_nonneg (by omega)).symm⟩
      rw [List.map_cons, List.prod_cons, hPeq] at hk
      rw [hPeq] at hP
      have hPpos : 0 < P := by exact_mod_cast hP
      have hq : ((k / P : Nat) : Int) < d.toInt := by
        have : k / P < d.toInt.toNat := by
          rw [Nat.div_lt_iff_lt_mul hPpos]
          have : (k : Int) < (d.toInt.toNat : Int) * P := by rw [Int.toNat_of_nonneg (by omega)]; exact hk
          exact_mod_cast this
        omega
      have hr : ((k % P : Nat) : Int) < P := by exact_mod_cast Nat.mod_lt k hPpos
      have hqw : (Int64.ofNat (k / P)).toInt = (k / P : Nat) :=
        Int64.toInt_ofNat_of_lt (by have := d.toInt_lt; omega)
      obtain ⟨hin, hrow⟩ := unravel_spec (k := k % P) hposds (by rw [hPeq]; exact hr)
      simp only [unravel, hPeq, Int.toNat_natCast, List.map_cons, hqw]
      have hhead : 0 ≤ ((k / P : Nat) : Int) ∧ ((k / P : Nat) : Int) < d.toInt :=
        ⟨Int.natCast_nonneg _, hq⟩
      refine ⟨.cons hhead hin, ?_⟩
      rw [rowMajor_cons, hrow, hPeq]
      have := Nat.div_add_mod k P
      push_cast
      linarith [show ((P * (k / P) : Nat) : Int) = P * ((k / P : Nat) : Int) by push_cast; ring]

theorem length_indexTuples : ∀ {shape : List Int64}, (∀ d ∈ shape, 1 ≤ d.toInt) →
    ((indexTuples shape).length : Int) = (shape.map Int64.toInt).prod
  | [], _ => rfl
  | d :: ds, hpos => by
      obtain ⟨hd, hposds⟩ := List.forall_mem_cons.mp hpos
      have ih := length_indexTuples hposds
      simp only [indexTuples, List.length_flatMap, List.length_map, List.map_cons, List.prod_cons,
        List.map_const', List.sum_replicate, List.length_range, smul_eq_mul]
      push_cast
      rw [ih, Int.toNat_of_nonneg (by omega)]

theorem getElem?_indexTuples : ∀ {shape : List Int64} {k : Nat}, (∀ d ∈ shape, 1 ≤ d.toInt) →
    (k : Int) < (shape.map Int64.toInt).prod → (indexTuples shape)[k]? = some (unravel shape k)
  | [], k, _, hk => by
      have : k = 0 := by simp at hk; omega
      subst this
      rfl
  | d :: ds, k, hpos, hk => by
      obtain ⟨hd, hposds⟩ := List.forall_mem_cons.mp hpos
      have hlen := length_indexTuples hposds
      have hP := prod_toInt_pos hposds
      obtain ⟨P, hPeq⟩ : ∃ P : Nat, (ds.map Int64.toInt).prod = P := ⟨_, (Int.toNat_of_nonneg (by omega)).symm⟩
      rw [hPeq] at hlen hP
      have hlenN : (indexTuples ds).length = P := by exact_mod_cast hlen
      have hPpos : 0 < P := by exact_mod_cast hP
      rw [List.map_cons, List.prod_cons, hPeq] at hk
      have hq : k / P < d.toInt.toNat := by
        rw [Nat.div_lt_iff_lt_mul hPpos]
        have : (k : Int) < (d.toInt.toNat : Int) * P := by rw [Int.toNat_of_nonneg (by omega)]; exact hk
        exact_mod_cast this
      have hr : k % P < P := Nat.mod_lt k hPpos
      have hblocks := getElem?_flatMap_blocks (f := fun i => (indexTuples ds).map fun t => Int64.ofNat i :: t)
        hr (l := List.range d.toInt.toNat) (fun i _ => by rw [List.length_map, hlenN]) (k / P)
      rw [Nat.div_add_mod] at hblocks
      simp only [indexTuples]
      rw [hblocks, List.getElem?_range hq, Option.bind_some, List.getElem?_map,
        getElem?_indexTuples hposds (by rw [hPeq]; exact_mod_cast hr)]
      simp [unravel, hPeq]

end Layout

/-! ## Row-major views -/

theorem newContiguous_eq (target : Option (Nat × Storage)) (shape : Shape) (t : DataType) :
    newContiguous target shape t.code =
      newView target shape (shape.contiguousStrides (Int64.ofNat t.size)) t.code := by
  rw [newContiguous, DataType.ofCode_code]

theorem construct_of_extract {data : HostData} {format : List UInt8} {t : DataType}
    {raw : ByteArray} (hf : DataType.parseFormat format = .ok t) (hx : extract data t = .ok raw)
    (shape : Shape) (strides : Option (List Int64)) (id : Nat) :
    construct data shape strides format id =
      newView (some (id, Storage.ofBytes raw)) shape
        (strides.getD (shape.contiguousStrides (Int64.ofNat t.size))) t.code := by
  simp [construct, hf, hx, bind, Except.bind]

/-- A row-major view over a live storage below `2^62` bytes can be made exactly when the
storage has room for the elements: every extent is nonnegative and, unless one is zero,
the item size times the element count, in exact arithmetic, is at most the storage's
length. This holds although the word strides wrap once the element count leaves the words:
a zero extent lets any strides fit, and otherwise the check refuses such a count. The view
it makes is row-major, with the exact row-major strides when no extent is zero, and a host
buffer built without strides over extracted bytes exists under the same condition. -/
theorem contiguous_view_iff_room (shape : Shape) (t : DataType) (id : Nat) (s : Storage)
    (hs : s.released = false) (hlen : s.len < 2 ^ 62) :
    ((∃ r, newContiguous (some (id, s)) shape t.code = .ok r) ↔ RoomFor shape t.size s.len) ∧
    (∀ v s', newContiguous (some (id, s)) shape t.code = .ok (v, s') →
      v.isContiguous = true ∧
        ((∀ d ∈ shape, d.toInt ≠ 0) → v.strides.map Int64.toInt = rowMajorStrides t.size shape)) ∧
    (∀ (data : HostData) (format : List UInt8) (raw : ByteArray),
      DataType.parseFormat format = .ok t → extract data t = .ok raw → raw.size < 2 ^ 62 →
      ((∃ r, construct data shape none format id = .ok r) ↔ RoomFor shape t.size raw.size)) := by
  have hsize := size_pos t
  have hsmall : t.size < 2 ^ 62 := by have := size_le_eight t; omega
  have hsz : (Int64.ofNat t.size).toInt = t.size := toInt_ofNat_small hsmall
  refine ⟨?_, fun v s' h => ?_, fun data format raw hf hx hraw => ?_⟩
  · rw [newContiguous_eq, newView_ok_iff, problem_contiguous_eq_none_iff hsize hsmall hlen, hs]
    exact and_iff_left rfl
  · rw [newContiguous_eq] at h
    obtain ⟨id', s₀, t', -, ht, hp, -, hv, -⟩ := newView_eq_ok h
    rw [DataType.ofCode_code, Option.some.injEq] at ht
    subst ht hv
    refine ⟨Shape.isContiguous_contiguousStrides _ _, fun hnz => ?_⟩
    have hpos : ∀ d ∈ shape, 1 ≤ d.toInt := fun d hd => by
      have := (count_of_problem_eq_none hp hsmall).1 d hd
      have := hnz d hd
      omega
    have hcount := (count_of_problem_eq_none hp hsmall).2.resolve_left fun ⟨d, hd, h0⟩ =>
      hnz d hd h0
    rw [← hsz] at hcount ⊢
    exact contiguousStrides_exact (by omega) hpos hcount
  · rw [construct_of_extract hf hx, Option.getD_none, newView_ok_iff,
      problem_contiguous_eq_none_iff hsize hsmall (by simpa using hraw)]
    simp [Storage.ofBytes, Storage.len]

/-- Six bytes viewed as a two by three matrix of bytes, and the same matrix built from host
bytes. -/
theorem contiguous_view_iff_room_six_bytes :
    (Storage.ofBytes ⟨#[1, 2, 3, 4, 5, 6]⟩).released = false ∧
    (Storage.ofBytes ⟨#[1, 2, 3, 4, 5, 6]⟩).len < 2 ^ 62 ∧
    (((∃ r, newContiguous (some (0, Storage.ofBytes ⟨#[1, 2, 3, 4, 5, 6]⟩)) [2, 3]
        DataType.uint8.code = .ok r) ↔
      RoomFor [2, 3] DataType.uint8.size (Storage.ofBytes ⟨#[1, 2, 3, 4, 5, 6]⟩).len) ∧
    (∀ v s', newContiguous (some (0, Storage.ofBytes ⟨#[1, 2, 3, 4, 5, 6]⟩)) [2, 3]
        DataType.uint8.code = .ok (v, s') →
      v.isContiguous = true ∧
        ((∀ d ∈ ([2, 3] : Shape), d.toInt ≠ 0) →
          v.strides.map Int64.toInt = rowMajorStrides DataType.uint8.size [2, 3])) ∧
    (∀ (data : HostData) (format : List UInt8) (raw : ByteArray),
      DataType.parseFormat format = .ok DataType.uint8 → extract data DataType.uint8 = .ok raw →
      raw.size < 2 ^ 62 →
      ((∃ r, construct data [2, 3] none format 0 = .ok r) ↔
        RoomFor [2, 3] DataType.uint8.size raw.size))) :=
  ⟨rfl, by decide, contiguous_view_iff_room [2, 3] .uint8 0 _ rfl (by decide)⟩

end StridedBuffer
