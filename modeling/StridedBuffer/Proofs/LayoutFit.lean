import Mathlib
import StridedBuffer.View

/-! # Exactness of the layout check

`Layout.problem` runs on signed words, as the source does. On storages below `2^62`
bytes it accepts a layout exactly when the layout fits in exact arithmetic: the ranks
agree, no extent is negative, and either some extent is zero or the byte count is a
word and every element's offset, the sum of index times stride, lies within the
storage. Views and reshapes inherit this, since they take a layout exactly when the
check does.

The proof relates the running low and high offsets of `reach` to the lowest and
highest offsets any index tuple reaches, which are attained at the corners of the
index box.
-/

namespace StridedBuffer.Layout

/-! ## Exact word arithmetic -/

private theorem bmod_word {x : Int} (h₁ : -2 ^ 63 ≤ x) (h₂ : x < 2 ^ 63) :
    x.bmod (2 ^ 64) = x :=
  Int.bmod_eq_of_le (by omega) (by omega)

theorem toInt_add_exact {a b : Int64} (h₁ : -2 ^ 63 ≤ a.toInt + b.toInt)
    (h₂ : a.toInt + b.toInt < 2 ^ 63) : (a + b).toInt = a.toInt + b.toInt := by
  rw [Int64.toInt_add, bmod_word h₁ h₂]

theorem toInt_sub_exact {a b : Int64} (h₁ : -2 ^ 63 ≤ a.toInt - b.toInt)
    (h₂ : a.toInt - b.toInt < 2 ^ 63) : (a - b).toInt = a.toInt - b.toInt := by
  rw [Int64.toInt_sub, bmod_word h₁ h₂]

theorem toInt_mul_exact {a b : Int64} (h₁ : -2 ^ 63 ≤ a.toInt * b.toInt)
    (h₂ : a.toInt * b.toInt < 2 ^ 63) : (a * b).toInt = a.toInt * b.toInt := by
  rw [Int64.toInt_mul, bmod_word h₁ h₂]

theorem toInt_neg_exact {a : Int64} (h : a ≠ Int64.minValue) : (-a).toInt = -a.toInt := by
  have hne : a.toInt ≠ -2 ^ 63 := fun he => h (Int64.toInt_inj.mp (by rw [he]; rfl))
  have := a.toInt_lt
  have := a.le_toInt
  rw [Int64.toInt_neg, bmod_word (by omega) (by omega)]

theorem toInt_div_exact {a b : Int64} (ha : 0 ≤ a.toInt) (hb : 0 < b.toInt) :
    (a / b).toInt = a.toInt / b.toInt := by
  have h₁ : a.toInt / b.toInt ≤ a.toInt := Int.ediv_le_self _ ha
  have h₂ : 0 ≤ a.toInt / b.toInt := Int.ediv_nonneg ha hb.le
  have := a.toInt_lt
  rw [Int64.toInt_div, Int.tdiv_eq_ediv_of_nonneg ha, bmod_word (by omega) (by omega)]

theorem toInt_ofNat_small {n : Nat} (h : n < 2 ^ 62) : (Int64.ofNat n).toInt = n :=
  Int64.toInt_ofNat_of_lt (by omega)

theorem eq_zero_iff_toInt {a : Int64} : a = 0 ↔ a.toInt = 0 := by
  rw [← Int64.toInt_inj, Int64.toInt_zero]

theorem eq_minValue_iff_toInt {a : Int64} : a = Int64.minValue ↔ a.toInt = -2 ^ 63 := by
  rw [← Int64.toInt_inj, Int64.toInt_minValue]

/-! ## What it means for a layout to fit -/

/-- Index tuples within the extents: one index per dimension, each in `[0, extent)`. -/
def InBounds (shape : List Int64) (idx : List Int) : Prop :=
  List.Forall₂ (fun i (d : Int64) => 0 ≤ i ∧ i < d.toInt) idx shape

/-- The exact byte offset of an index tuple: the sum of each index times its stride. -/
def byteOffset (idx : List Int) (strides : List Int64) : Int :=
  (List.zipWith (fun i (s : Int64) => i * s.toInt) idx strides).sum

/-- A layout fits a storage of `storageLen` bytes, in exact arithmetic: the ranks agree,
no extent is negative, and either some extent is zero, or the byte count is a word and
every element lies within the storage. -/
def Fits (shape strides : List Int64) (itemSize storageLen : Nat) : Prop :=
  shape.length = strides.length ∧ (∀ d ∈ shape, 0 ≤ d.toInt) ∧
    ((∃ d ∈ shape, d.toInt = 0) ∨
      ((itemSize : Int) * (shape.map Int64.toInt).prod ≤ maxWord ∧
        ∀ idx, InBounds shape idx →
          0 ≤ byteOffset idx strides ∧ byteOffset idx strides ≤ (storageLen : Int) - itemSize))

@[simp] theorem byteOffset_nil (strides : List Int64) : byteOffset [] strides = 0 := rfl

@[simp] theorem byteOffset_cons (i : Int) (idx : List Int) (s : Int64) (strides : List Int64) :
    byteOffset (i :: idx) (s :: strides) = i * s.toInt + byteOffset idx strides := by
  simp [byteOffset]

/-! ## The extreme offsets -/

/-- The lowest offset of a layout's elements: each dimension of negative stride at its
last index, the others at zero. -/
def lowest : List (Int64 × Int64) → Int
  | [] => 0
  | (d, s) :: rest => (if s.toInt < 0 then (d.toInt - 1) * s.toInt else 0) + lowest rest

/-- The highest offset of a layout's elements: each dimension of positive stride at its
last index, the others at zero. -/
def highest : List (Int64 × Int64) → Int
  | [] => 0
  | (d, s) :: rest => (if 0 < s.toInt then (d.toInt - 1) * s.toInt else 0) + highest rest

section Extremes

variable {steps : List (Int64 × Int64)}

theorem lowest_nonpos (hpos : ∀ p ∈ steps, 1 ≤ p.1.toInt) : lowest steps ≤ 0 := by
  induction steps with
  | nil => rfl
  | cons p rest ih =>
      obtain ⟨d, s⟩ := p
      have hd : 1 ≤ d.toInt := hpos (d, s) (by simp)
      have hrest := ih fun q hq => hpos q (by simp [hq])
      have hterm : (if s.toInt < 0 then (d.toInt - 1) * s.toInt else 0) ≤ 0 := by
        split <;> nlinarith
      simp only [lowest]
      omega

theorem highest_nonneg (hpos : ∀ p ∈ steps, 1 ≤ p.1.toInt) : 0 ≤ highest steps := by
  induction steps with
  | nil => rfl
  | cons p rest ih =>
      obtain ⟨d, s⟩ := p
      have hd : 1 ≤ d.toInt := hpos (d, s) (by simp)
      have hrest := ih fun q hq => hpos q (by simp [hq])
      have hterm : 0 ≤ (if 0 < s.toInt then (d.toInt - 1) * s.toInt else 0) := by
        split <;> nlinarith
      simp only [highest]
      omega

end Extremes

private theorem term_between {i d s : Int} (hi : 0 ≤ i) (hd : i < d) :
    (if s < 0 then (d - 1) * s else 0) ≤ i * s ∧ i * s ≤ (if 0 < s then (d - 1) * s else 0) := by
  rcases lt_trichotomy s 0 with hs | hs | hs
  · simp only [hs, if_true, show ¬ (0 < s) by omega, if_false]
    constructor <;> nlinarith
  · simp [hs]
  · simp only [hs, if_true, show ¬ (s < 0) by omega, if_false]
    constructor <;> nlinarith

theorem byteOffset_between {shape strides : List Int64} {idx : List Int}
    (hidx : InBounds shape idx) (hlen : shape.length = strides.length) :
    lowest (shape.zip strides) ≤ byteOffset idx strides ∧
      byteOffset idx strides ≤ highest (shape.zip strides) := by
  induction hidx generalizing strides with
  | nil => simp [lowest, highest]
  | @cons i d idx shape hi _ ih =>
      cases strides with
      | nil => simp at hlen
      | cons s strides =>
          have hrest := ih (by simpa using hlen)
          have hterm := term_between (s := s.toInt) hi.1 hi.2
          simp only [List.zip_cons_cons, lowest, highest, byteOffset_cons]
          omega

/-- The index tuple at the corner where the offset is lowest. -/
def lowCorner (shape strides : List Int64) : List Int :=
  List.zipWith (fun (d s : Int64) => if s.toInt < 0 then d.toInt - 1 else 0) shape strides

/-- The index tuple at the corner where the offset is highest. -/
def highCorner (shape strides : List Int64) : List Int :=
  List.zipWith (fun (d s : Int64) => if 0 < s.toInt then d.toInt - 1 else 0) shape strides

theorem lowCorner_spec {shape strides : List Int64} (hlen : shape.length = strides.length)
    (hpos : ∀ d ∈ shape, 1 ≤ d.toInt) :
    InBounds shape (lowCorner shape strides) ∧
      byteOffset (lowCorner shape strides) strides = lowest (shape.zip strides) := by
  induction shape generalizing strides with
  | nil => exact ⟨List.Forall₂.nil, rfl⟩
  | cons d shape ih =>
      cases strides with
      | nil => simp at hlen
      | cons s strides =>
          have hd : 1 ≤ d.toInt := hpos d (by simp)
          obtain ⟨hin, hoff⟩ := ih (by simpa using hlen) fun e he => hpos e (by simp [he])
          have hi : 0 ≤ (if s.toInt < 0 then d.toInt - 1 else 0) ∧
              (if s.toInt < 0 then d.toInt - 1 else 0) < d.toInt := by
            split <;> omega
          refine ⟨List.Forall₂.cons hi hin, ?_⟩
          simp only [lowCorner, List.zipWith_cons_cons, byteOffset_cons, List.zip_cons_cons,
            lowest] at hoff ⊢
          rw [hoff]
          split <;> simp

theorem highCorner_spec {shape strides : List Int64} (hlen : shape.length = strides.length)
    (hpos : ∀ d ∈ shape, 1 ≤ d.toInt) :
    InBounds shape (highCorner shape strides) ∧
      byteOffset (highCorner shape strides) strides = highest (shape.zip strides) := by
  induction shape generalizing strides with
  | nil => exact ⟨List.Forall₂.nil, rfl⟩
  | cons d shape ih =>
      cases strides with
      | nil => simp at hlen
      | cons s strides =>
          have hd : 1 ≤ d.toInt := hpos d (by simp)
          obtain ⟨hin, hoff⟩ := ih (by simpa using hlen) fun e he => hpos e (by simp [he])
          have hi : 0 ≤ (if 0 < s.toInt then d.toInt - 1 else 0) ∧
              (if 0 < s.toInt then d.toInt - 1 else 0) < d.toInt := by
            split <;> omega
          refine ⟨List.Forall₂.cons hi hin, ?_⟩
          simp only [highCorner, List.zipWith_cons_cons, byteOffset_cons, List.zip_cons_cons,
            highest] at hoff ⊢
          rw [hoff]
          split <;> simp

theorem forall_byteOffset_iff {shape strides : List Int64} (hlen : shape.length = strides.length)
    (hpos : ∀ d ∈ shape, 1 ≤ d.toInt) (a b : Int) :
    (∀ idx, InBounds shape idx → a ≤ byteOffset idx strides ∧ byteOffset idx strides ≤ b) ↔
      a ≤ lowest (shape.zip strides) ∧ highest (shape.zip strides) ≤ b := by
  constructor
  · intro h
    obtain ⟨hlow, hlowOff⟩ := lowCorner_spec hlen hpos
    obtain ⟨hhigh, hhighOff⟩ := highCorner_spec hlen hpos
    exact ⟨hlowOff ▸ (h _ hlow).1, hhighOff ▸ (h _ hhigh).2⟩
  · rintro ⟨ha, hb⟩ idx hidx
    have := byteOffset_between hidx hlen
    omega

/-! ## The element count -/

theorem prod_toInt_pos {dims : List Int64} (hpos : ∀ d ∈ dims, 1 ≤ d.toInt) :
    1 ≤ (dims.map Int64.toInt).prod := by
  induction dims with
  | nil => simp
  | cons d rest ih =>
      have hd : 1 ≤ d.toInt := hpos d (by simp)
      have hrest := ih fun e he => hpos e (by simp [he])
      simp only [List.map_cons, List.prod_cons]
      nlinarith

theorem prod_toInt_nonneg {dims : List Int64} (hnonneg : ∀ d ∈ dims, 0 ≤ d.toInt) :
    0 ≤ (dims.map Int64.toInt).prod :=
  List.prod_nonneg fun x hx => by
    obtain ⟨d, hd, rfl⟩ := List.mem_map.mp hx
    exact hnonneg d hd

theorem countFits_iff {n : Int64} {dims : List Int64} (hn : 0 ≤ n.toInt)
    (hpos : ∀ d ∈ dims, 1 ≤ d.toInt) :
    countFits n dims = true ↔ n.toInt * (dims.map Int64.toInt).prod ≤ maxWord := by
  induction dims generalizing n with
  | nil =>
      have := n.toInt_lt
      simp [countFits, maxWord, Nat.pow_eq]
      omega
  | cons d rest ih =>
      have hd : 1 ≤ d.toInt := hpos d (by simp)
      have hrest : 1 ≤ (rest.map Int64.toInt).prod :=
        prod_toInt_pos fun e he => hpos e (by simp [he])
      have hq : (Int64.maxValue / d).toInt = maxWord / d.toInt := by
        rw [toInt_div_exact (by decide) (by omega)]
        rfl
      have hmax : maxWord = 2 ^ 63 - 1 := by simp [maxWord, Nat.pow_eq]
      have hdiv : maxWord / d.toInt < n.toInt ↔ maxWord < n.toInt * d.toInt :=
        Int.ediv_lt_iff_lt_mul (by omega)
      simp only [countFits, List.map_cons, List.prod_cons]
      by_cases hover : maxWord < n.toInt * d.toInt
      · have hgt : n > Int64.maxValue / d := by
          rw [GT.gt, Int64.lt_iff_toInt_lt, hq]
          exact hdiv.mpr hover
        simp only [hgt, if_true, Bool.false_eq_true, false_iff, not_le]
        have : n.toInt * d.toInt ≤ n.toInt * (d.toInt * (rest.map Int64.toInt).prod) := by
          rw [← mul_assoc]
          exact le_mul_of_one_le_right (by nlinarith) hrest
        omega
      · have hle : ¬ n > Int64.maxValue / d := by
          rw [GT.gt, Int64.lt_iff_toInt_lt, hq]
          exact fun h => hover (hdiv.mp h)
        have hnd : (n * d).toInt = n.toInt * d.toInt :=
          toInt_mul_exact (by nlinarith) (by omega)
        simp only [hle, if_false]
        rw [ih (by rw [hnd]; nlinarith) fun e he => hpos e (by simp [he]), hnd, mul_assoc]

/-! ## The walk over the dimensions -/

@[simp] theorem lowest_cons (d s : Int64) (rest : List (Int64 × Int64)) :
    lowest ((d, s) :: rest) =
      (if s.toInt < 0 then (d.toInt - 1) * s.toInt else 0) + lowest rest := rfl

@[simp] theorem highest_cons (d s : Int64) (rest : List (Int64 × Int64)) :
    highest ((d, s) :: rest) =
      (if 0 < s.toInt then (d.toInt - 1) * s.toInt else 0) + highest rest := rfl

section Walk

variable {limit : Int64} {L : Int} (hL : limit.toInt = L) (hL0 : 0 ≤ L) (hL62 : L < 2 ^ 62)
include hL hL0 hL62

theorem reach_eq_ok_iff {steps : List (Int64 × Int64)} (hpos : ∀ p ∈ steps, 1 ≤ p.1.toInt)
    {i : Nat} {lo hi lo' hi' : Int64} (hlo : -L ≤ lo.toInt) (hlo0 : lo.toInt ≤ 0)
    (hhi0 : 0 ≤ hi.toInt) (hhi : hi.toInt ≤ L) :
    reach limit i steps lo hi = .ok (lo', hi') ↔
      -L ≤ lo.toInt + lowest steps ∧ hi.toInt + highest steps ≤ L ∧
        lo'.toInt = lo.toInt + lowest steps ∧ hi'.toInt = hi.toInt + highest steps := by
  induction steps generalizing i lo hi with
  | nil =>
      simp only [reach, Except.ok.injEq, Prod.mk.injEq, lowest, highest, add_zero]
      rw [← Int64.toInt_inj, ← Int64.toInt_inj]
      omega
  | cons p rest ih =>
      obtain ⟨d, s⟩ := p
      have hd : 1 ≤ d.toInt := hpos (d, s) (by simp)
      have hrest : ∀ q ∈ rest, 1 ≤ q.1.toInt := fun q hq => hpos q (by simp [hq])
      have hlowRest := lowest_nonpos hrest
      have hhighRest := highest_nonneg hrest
      have hn : (d - 1).toInt = d.toInt - 1 := by
        rw [toInt_sub_exact] <;> simp <;> have := d.toInt_lt <;> omega
      rw [reach, lowest_cons, highest_cons]
      by_cases hskip : d - 1 = 0 ∨ s = 0
      · -- the dimension moves neither offset
        have hzero : (d.toInt - 1) * s.toInt = 0 := by
          rcases hskip with h | h
          · rw [eq_zero_iff_toInt, hn] at h
            rw [h, zero_mul]
          · rw [eq_zero_iff_toInt] at h
            rw [h, mul_zero]
        simp only [hskip, if_true, hzero, ite_self, zero_add]
        exact ih hrest hlo hlo0 hhi0 hhi
      have hn0 : d.toInt - 1 ≠ 0 := fun h => hskip (.inl (eq_zero_iff_toInt.mpr (hn ▸ h)))
      have hs0 : s.toInt ≠ 0 := fun h => hskip (.inr (eq_zero_iff_toInt.mpr h))
      have hdn : 0 < d.toInt - 1 := by omega
      have hq : (limit / (d - 1)).toInt = L / (d.toInt - 1) := by
        rw [toInt_div_exact (by omega) (by omega), hL, hn]
      have hnegL : (-limit).toInt = -L := by
        rw [toInt_neg_exact, hL]
        rw [Ne, eq_minValue_iff_toInt]
        omega
      simp only [hskip, if_false]
      by_cases hmin : s = Int64.minValue
      · -- a stride of the smallest word: its negation wraps, and it reaches below `-L`
        rw [if_pos hmin]
        have hs : s.toInt = -2 ^ 63 := eq_minValue_iff_toInt.mp hmin
        have hterm : (d.toInt - 1) * s.toInt ≤ -2 ^ 63 := by rw [hs]; nlinarith
        simp only [reduceCtorEq, false_iff, hs]
        rw [hs] at hterm
        omega
      rw [if_neg hmin]
      rcases lt_or_gt_of_ne hs0 with hneg | hpos'
      · -- a negative stride moves the low offset
        have hslt : s < 0 := by rw [Int64.lt_iff_toInt_lt]; simpa using hneg
        have hmag : (-s).toInt = -s.toInt := toInt_neg_exact hmin
        simp only [hslt, if_true, hneg, show ¬ (0 < s.toInt) by omega, if_false, zero_add]
        by_cases hbig : -s > limit / (d - 1)
        · rw [if_pos hbig]
          rw [GT.gt, Int64.lt_iff_toInt_lt, hq, hmag] at hbig
          have hspan := (Int.ediv_lt_iff_lt_mul hdn).mp hbig
          simp only [reduceCtorEq, false_iff]
          intro h
          nlinarith [h.1]
        rw [if_neg hbig]
        rw [GT.gt, Int64.lt_iff_toInt_lt, hq, hmag, not_lt] at hbig
        have hspan : -s.toInt * (d.toInt - 1) ≤ L := by
          have := Int.ediv_mul_le L (b := d.toInt - 1) (by omega)
          nlinarith
        have hstep : ((d - 1) * -s).toInt = (d.toInt - 1) * -s.toInt := by
          rw [toInt_mul_exact, hn, hmag] <;> rw [hn, hmag] <;> nlinarith
        have hlo' : (lo - (d - 1) * -s).toInt = lo.toInt - (d.toInt - 1) * -s.toInt := by
          rw [toInt_sub_exact, hstep] <;> rw [hstep] <;> nlinarith
        by_cases hout : lo - (d - 1) * -s < -limit
        · rw [if_pos hout]
          rw [Int64.lt_iff_toInt_lt, hlo', hnegL] at hout
          simp only [reduceCtorEq, false_iff]
          intro h
          nlinarith [h.1]
        rw [if_neg hout]
        rw [Int64.lt_iff_toInt_lt, hlo', hnegL, not_lt] at hout
        rw [ih hrest (by rw [hlo']; exact hout) (by rw [hlo']; nlinarith) hhi0 hhi, hlo']
        have heq : lo.toInt - (d.toInt - 1) * -s.toInt + lowest rest =
            lo.toInt + ((d.toInt - 1) * s.toInt + lowest rest) := by ring
        rw [heq]
      · -- a positive stride moves the high offset
        have hsnlt : ¬ s < 0 := by rw [Int64.lt_iff_toInt_lt]; simp; omega
        simp only [hsnlt, if_false, hpos', if_true, show ¬ (s.toInt < 0) by omega, zero_add]
        by_cases hbig : s > limit / (d - 1)
        · rw [if_pos hbig]
          rw [GT.gt, Int64.lt_iff_toInt_lt, hq] at hbig
          have hspan := (Int.ediv_lt_iff_lt_mul hdn).mp hbig
          simp only [reduceCtorEq, false_iff]
          intro h
          nlinarith [h.2.1]
        rw [if_neg hbig]
        rw [GT.gt, Int64.lt_iff_toInt_lt, hq, not_lt] at hbig
        have hspan : s.toInt * (d.toInt - 1) ≤ L := by
          have := Int.ediv_mul_le L (b := d.toInt - 1) (by omega)
          nlinarith
        have hstep : ((d - 1) * s).toInt = (d.toInt - 1) * s.toInt := by
          rw [toInt_mul_exact, hn] <;> rw [hn] <;> nlinarith
        have hhi' : (hi + (d - 1) * s).toInt = hi.toInt + (d.toInt - 1) * s.toInt := by
          rw [toInt_add_exact, hstep] <;> rw [hstep] <;> nlinarith
        by_cases hout : hi + (d - 1) * s > limit
        · rw [if_pos hout]
          rw [GT.gt, Int64.lt_iff_toInt_lt, hhi', hL] at hout
          simp only [reduceCtorEq, false_iff]
          intro h
          nlinarith [h.2.1]
        rw [if_neg hout]
        rw [GT.gt, Int64.lt_iff_toInt_lt, hhi', hL, not_lt] at hout
        rw [ih hrest hlo hlo0 (by rw [hhi']; nlinarith) (by rw [hhi']; exact hout), hhi']
        have heq : hi.toInt + (d.toInt - 1) * s.toInt + highest rest =
            hi.toInt + ((d.toInt - 1) * s.toInt + highest rest) := by ring
        rw [heq]

theorem reach_ok_of_within {steps : List (Int64 × Int64)} (hpos : ∀ p ∈ steps, 1 ≤ p.1.toInt)
    {i : Nat} {lo hi : Int64} (hlo : -L ≤ lo.toInt) (hlo0 : lo.toInt ≤ 0)
    (hhi0 : 0 ≤ hi.toInt) (hhi : hi.toInt ≤ L) (hlow : -L ≤ lo.toInt + lowest steps)
    (hhigh : hi.toInt + highest steps ≤ L) :
    ∃ lo' hi', reach limit i steps lo hi = .ok (lo', hi') := by
  have hl := lowest_nonpos hpos
  have hh := highest_nonneg hpos
  refine ⟨Int64.ofInt (lo.toInt + lowest steps), Int64.ofInt (hi.toInt + highest steps), ?_⟩
  rw [reach_eq_ok_iff hL hL0 hL62 hpos hlo hlo0 hhi0 hhi,
    Int64.toInt_ofInt_of_le (by omega) (by omega), Int64.toInt_ofInt_of_le (by omega) (by omega)]
  exact ⟨hlow, hhigh, rfl, rfl⟩

end Walk

/-! ## The whole check -/

theorem shapeProblem_eq_none_iff {s : Shape} :
    Shape.problem s = none ↔ ∀ d ∈ s, 0 ≤ d.toInt := by
  simp only [Shape.problem, Shape.firstNegative, Option.map_eq_none_iff, List.find?_eq_none,
    decide_eq_true_eq, Int64.lt_iff_toInt_lt, Int64.toInt_zero, not_lt]
  conv_rhs => rw [← List.zipIdx_map_fst 0 s]
  rw [List.forall_mem_map]

theorem any_zero_iff {shape : List Int64} :
    shape.any (· == 0) = true ↔ ∃ d ∈ shape, d.toInt = 0 := by
  simp only [List.any_eq_true, beq_iff_eq, eq_zero_iff_toInt]

theorem extents_pos {shape : List Int64} (hnonneg : ∀ d ∈ shape, 0 ≤ d.toInt)
    (hnz : ¬ ∃ d ∈ shape, d.toInt = 0) : ∀ d ∈ shape, 1 ≤ d.toInt := fun d hd => by
  have := hnonneg d hd
  have : d.toInt ≠ 0 := fun h0 => hnz ⟨d, hd, h0⟩
  omega

/-- On storages and item sizes below `2^62`, the word check accepts exactly the layouts
that fit in exact arithmetic. -/
theorem problem_eq_none_iff {shape strides : List Int64} {itemSize storageLen : Nat}
    (hsize : itemSize < 2 ^ 62) (hlen : storageLen < 2 ^ 62) :
    problem shape strides itemSize storageLen = none ↔ Fits shape strides itemSize storageLen := by
  have hsz : (Int64.ofNat itemSize).toInt = itemSize := toInt_ofNat_small hsize
  have hL : (Int64.ofNat storageLen).toInt = storageLen := toInt_ofNat_small hlen
  unfold problem Fits
  by_cases hrank : shape.length = strides.length
  swap
  · simp [hrank]
  simp only [hrank, ne_eq, not_true_eq_false, if_false, true_and]
  cases hval : Shape.problem shape with
  | some p =>
      have hneg : ¬ ∀ d ∈ shape, 0 ≤ d.toInt := fun h => by
        rw [shapeProblem_eq_none_iff.mpr h] at hval
        cases hval
      simp [hneg]
  | none =>
  have hnonneg := shapeProblem_eq_none_iff.mp hval
  rw [and_iff_right hnonneg]
  by_cases hzero : shape.any (· == 0) = true
  · simp [hzero, any_zero_iff.mp hzero]
  have hnz : ¬ ∃ d ∈ shape, d.toInt = 0 := fun h => hzero (any_zero_iff.mpr h)
  have hpos := extents_pos hnonneg hnz
  simp only [hzero, hnz, false_or, Bool.false_eq_true, if_false]
  rw [← hsz, ← countFits_iff (by omega) hpos, hsz]
  by_cases hcount : countFits (Int64.ofNat itemSize) shape = true
  swap
  · simp [hcount]
  simp only [hcount, Bool.not_true, Bool.false_eq_true, if_false, true_and]
  rw [forall_byteOffset_iff hrank hpos]
  have hsteps : ∀ p ∈ shape.zip strides, 1 ≤ p.1.toInt := fun p hp =>
    hpos _ (List.of_mem_zip hp).1
  have hlow := lowest_nonpos hsteps
  have hhigh := highest_nonneg hsteps
  have hz : (0 : Int64).toInt = 0 := Int64.toInt_zero
  cases hr : reach (Int64.ofNat storageLen) 0 (shape.zip strides) 0 0 with
  | error p =>
      simp only [reduceCtorEq, false_iff, not_and, not_le]
      intro hlow0
      by_contra hhigh'
      obtain ⟨lo', hi', h⟩ : ∃ lo' hi',
          reach (Int64.ofNat storageLen) 0 (shape.zip strides) 0 0 = .ok (lo', hi') :=
        reach_ok_of_within hL (by omega) (by omega) hsteps (by omega) (by omega) (by omega)
          (by omega) (by omega) (by omega)
      rw [hr] at h
      cases h
  | ok r =>
      obtain ⟨lo, hi⟩ := r
      obtain ⟨-, -, hlo, hhi⟩ := (reach_eq_ok_iff hL (by omega) (by omega) hsteps (by omega)
        (by omega) (by omega) (by omega)).mp hr
      rw [hz, zero_add] at hlo hhi
      have hlimit : (Int64.ofNat storageLen - Int64.ofNat itemSize).toInt =
          (storageLen : Int) - itemSize := by
        rw [toInt_sub_exact] <;> rw [hL, hsz] <;> omega
      simp only [Int64.lt_iff_toInt_lt, hz, hlo, GT.gt, hlimit, hhi]
      split_ifs <;> simp <;> omega

/-! ## Views -/

theorem size_le_eight (t : DataType) : t.size ≤ 8 := by
  cases t <;> decide

theorem size_pos (t : DataType) : 0 < t.size := by
  cases t <;> decide

theorem newView_ok_iff {id : Nat} {s : Storage} {shape : Shape} {strides : List Int64}
    {t : DataType} :
    (∃ r, newView (some (id, s)) shape strides t.code = .ok r) ↔
      problem shape strides t.size s.len = none ∧ s.released = false := by
  unfold newView
  rw [DataType.ofCode_code]
  simp only [View.layoutFault]
  cases hp : problem shape strides t.size s.len with
  | some r => simp
  | none =>
      cases hrel : s.released <;>
        simp [Storage.retain, hrel, bind, Except.bind, pure, Except.pure]

theorem reshape_ok_iff {v : View} {s : Storage} {shape : Shape} {strides : List Int64}
    (hv : v.released = false) :
    (∃ w, v.reshape s shape strides = .ok w) ↔ problem shape strides v.itemSize s.len = none := by
  unfold View.reshape View.layoutFault
  cases hp : problem shape strides v.itemSize s.len <;> simp [hv]

/-- The layout check is exact. On a storage below `2^62` bytes and for every element
type, the word check passes, a view can be made over the live storage, and a live view
of that type can be reshaped, exactly when the layout fits in exact arithmetic. -/
theorem layout_check_exact (shape strides : List Int64) (t : DataType) (id : Nat) (s : Storage)
    (hlen : s.len < 2 ^ 62) :
    (problem shape strides t.size s.len = none ↔ Fits shape strides t.size s.len) ∧
    ((∃ r, newView (some (id, s)) shape strides t.code = .ok r) ↔
      s.released = false ∧ Fits shape strides t.size s.len) ∧
    (∀ v : View, v.dtype = t → v.released = false →
      ((∃ w, v.reshape s shape strides = .ok w) ↔ Fits shape strides t.size s.len)) := by
  have hcheck : problem shape strides t.size s.len = none ↔ Fits shape strides t.size s.len :=
    problem_eq_none_iff (by have := size_le_eight t; omega) hlen
  refine ⟨hcheck, ?_, ?_⟩
  · rw [newView_ok_iff, hcheck, and_comm]
  · intro v hv hlive
    rw [reshape_ok_iff hlive, View.itemSize, hv, hcheck]

theorem layout_check_exact_six_bytes :
    (Storage.ofBytes ⟨#[1, 2, 3, 4, 5, 6]⟩).len < 2 ^ 62 ∧
    ((problem [2, 3] [-3, 1] DataType.uint8.size (Storage.ofBytes ⟨#[1, 2, 3, 4, 5, 6]⟩).len =
        none ↔ Fits [2, 3] [-3, 1] DataType.uint8.size (Storage.ofBytes ⟨#[1, 2, 3, 4, 5, 6]⟩).len) ∧
      ((∃ r, newView (some (0, Storage.ofBytes ⟨#[1, 2, 3, 4, 5, 6]⟩)) [2, 3] [-3, 1]
          DataType.uint8.code = .ok r) ↔
        (Storage.ofBytes ⟨#[1, 2, 3, 4, 5, 6]⟩).released = false ∧
          Fits [2, 3] [-3, 1] DataType.uint8.size (Storage.ofBytes ⟨#[1, 2, 3, 4, 5, 6]⟩).len) ∧
      (∀ v : View, v.dtype = DataType.uint8 → v.released = false →
        ((∃ w, v.reshape (Storage.ofBytes ⟨#[1, 2, 3, 4, 5, 6]⟩) [2, 3] [-3, 1] = .ok w) ↔
          Fits [2, 3] [-3, 1] DataType.uint8.size (Storage.ofBytes ⟨#[1, 2, 3, 4, 5, 6]⟩).len))) :=
  ⟨by decide, layout_check_exact [2, 3] [-3, 1] .uint8 0 _ (by decide)⟩

end StridedBuffer.Layout
