import Mathlib
import StridedBuffer.Parallel.Ranges
import StridedBuffer.Proofs.LayoutFit

/-! # Splitting work exactly

Up to `2^62` items, the split of `n` items cuts `[0, n)` into ranges in increasing order
whose items, range after range, are `0, …, n - 1`: every item is visited once. It is empty
for no items, the whole range when it is sequential, and at most one range per worker
otherwise.

Below that bound no step of the split leaves the words: the chunk is at most `n`, so the low
end stays below `n + chunk ≤ 2^63`, and the sum `n + workers - 1` of the chunk's ceiling
division either fits or has so many workers that each item gets its own. Above it the low
end can wrap past the largest word; `split_wraps_past_the_last_word` is such a split.
-/

namespace StridedBuffer.Parallel

/-! ## Words as integers -/

theorem toInt_max (a b : Int64) : (max a b).toInt = max a.toInt b.toInt := by
  change (if a ≤ b then b else a).toInt = _
  by_cases h : a ≤ b
  · have := Int64.le_iff_toInt_le.mp h
    rw [if_pos h]
    omega
  · have := mt Int64.le_iff_toInt_le.mpr h
    rw [if_neg h]
    omega

theorem toInt_min (a b : Int64) : (min a b).toInt = min a.toInt b.toInt := by
  change (if a ≤ b then a else b).toInt = _
  by_cases h : a ≤ b
  · have := Int64.le_iff_toInt_le.mp h
    rw [if_pos h]
    omega
  · have := mt Int64.le_iff_toInt_le.mpr h
    rw [if_neg h]
    omega

/-! ## The items of a range -/

theorem span_of_le {lo hi : Int64} (h : hi.toInt ≤ lo.toInt) : span lo hi = [] := by
  simp [span, Int.toNat_of_nonpos (by omega : hi.toInt - lo.toInt ≤ 0)]

theorem add_ofNat_distance {lo mid : Int64} (h : lo.toInt ≤ mid.toInt) :
    lo + Int64.ofNat (mid.toInt - lo.toInt).toNat = mid := by
  apply Int64.toInt_inj.mp
  rw [Int64.toInt_add, Int64.toInt_ofNat', Int.toNat_of_nonneg (by omega), Int64.size,
    Int.add_bmod_bmod, add_sub_cancel, Int64.toInt_bmod]

theorem span_append {lo mid hi : Int64} (h₁ : lo.toInt ≤ mid.toInt) (h₂ : mid.toInt ≤ hi.toInt) :
    span lo mid ++ span mid hi = span lo hi := by
  have hlen : (hi.toInt - lo.toInt).toNat =
      (mid.toInt - lo.toInt).toNat + (hi.toInt - mid.toInt).toNat := by omega
  unfold span
  rw [hlen, List.range_add, List.map_append, List.map_map]
  congr 1
  refine List.map_congr_left fun j _ => ?_
  simp only [Function.comp_apply]
  rw [Int64.ofNat_add, ← Int64.add_assoc, add_ofNat_distance h₁]

theorem span_zero (n : Int64) : span 0 n = (List.range n.toInt.toNat).map Int64.ofNat := by
  simp [span]

/-! ## Tilings -/

/-- `rs` cuts `[lo, hi)` into nonempty ranges, each after the one before, whose items, range
after range, are the items of `[lo, hi)`. -/
structure Tiling (lo hi : Int64) (rs : List (Int64 × Int64)) : Prop where
  within : ∀ r ∈ rs, lo.toInt ≤ r.1.toInt ∧ r.1.toInt < r.2.toInt ∧ r.2.toInt ≤ hi.toInt
  ordered : rs.Pairwise fun r s => r.2.toInt ≤ s.1.toInt
  items : rs.flatMap (fun r => span r.1 r.2) = span lo hi

theorem Tiling.nil {lo hi : Int64} (h : hi.toInt ≤ lo.toInt) : Tiling lo hi [] :=
  ⟨by simp, .nil, (span_of_le h).symm⟩

theorem Tiling.eq_nil {lo hi : Int64} {rs : List (Int64 × Int64)} (t : Tiling lo hi rs)
    (h : hi.toInt ≤ lo.toInt) : rs = [] := by
  cases rs with
  | nil => rfl
  | cons r rs =>
      have := t.within r (by simp)
      omega

theorem Tiling.single {lo hi : Int64} (h : lo.toInt < hi.toInt) : Tiling lo hi [(lo, hi)] :=
  ⟨by simp [h], by simp, by simp⟩

theorem Tiling.cons {lo mid hi : Int64} {rs : List (Int64 × Int64)} (h₁ : lo.toInt < mid.toInt)
    (h₂ : mid.toInt ≤ hi.toInt) (t : Tiling mid hi rs) : Tiling lo hi ((lo, mid) :: rs) where
  within r hr := by
    rcases List.mem_cons.mp hr with rfl | hr
    · exact ⟨le_refl _, h₁, h₂⟩
    · have := t.within r hr
      omega
  ordered := List.Pairwise.cons (fun r hr => (t.within r hr).1) t.ordered
  items := by rw [List.flatMap_cons, t.items, span_append h₁.le h₂]

/-! ## The loop -/

section Loop

variable {n c : Int64} (hc : 1 ≤ c.toInt) (hroom : n.toInt + c.toInt ≤ 2 ^ 63)
include hc hroom

/-- While `n + c` fits in a word, the loop from any low end stops within one round per item
left, tiles the rest of `[lo, n)` and hands out no more ranges than chunks of `c` reach
past it. -/
theorem chunks_tiling : ∀ (fuel : Nat) (lo : Int64), (n.toInt - lo.toInt).toNat < fuel →
    ∃ rs, chunks n c fuel lo = some rs ∧ Tiling lo n rs ∧
      (rs.length : Int) * c.toInt ≤ max 0 (n.toInt - lo.toInt + c.toInt - 1)
  | 0, _, hfuel => absurd hfuel (Nat.not_lt_zero _)
  | fuel + 1, lo, hfuel => by
      by_cases hlo : lo < n
      · have hlt := Int64.lt_iff_toInt_lt.mp hlo
        have hstep : (lo + c).toInt = lo.toInt + c.toInt :=
          Layout.toInt_add_exact (by have := lo.le_toInt; omega) (by omega)
        obtain ⟨rs, hrs, htile, hcount⟩ :=
          chunks_tiling fuel (lo + c) (by rw [hstep]; omega)
        have hmid : (min (lo + c) n).toInt = min (lo.toInt + c.toInt) n.toInt := by
          rw [toInt_min, hstep]
        have hrest : Tiling (min (lo + c) n) n rs := by
          by_cases hfar : n.toInt ≤ lo.toInt + c.toInt
          · rw [htile.eq_nil (by omega)]
            exact .nil (by omega)
          · have : min (lo + c) n = lo + c := Int64.toInt_inj.mp (by rw [hmid, hstep]; omega)
            rwa [this]
        refine ⟨_, by rw [chunks, if_pos hlo, hrs, Option.map_some], .cons (by omega) (by omega) hrest, ?_⟩
        rw [hstep] at hcount
        simp only [List.length_cons, Nat.cast_succ, add_mul, one_mul]
        omega
      · have hge := mt Int64.lt_iff_toInt_lt.mpr hlo
        exact ⟨[], by rw [chunks, if_neg hlo], .nil (by omega), by simp⟩

end Loop

/-! ## The chunk -/

theorem toInt_div_nonpos {a b : Int64} (ha : a.toInt < 0) (hb : 0 < b.toInt) :
    (a / b).toInt ≤ 0 := by
  have hq : (-a.toInt) / b.toInt ≤ -a.toInt := Int.ediv_le_self _ (by omega)
  have hq' : 0 ≤ (-a.toInt) / b.toInt := Int.ediv_nonneg (by omega) hb.le
  have ht : a.toInt.tdiv b.toInt = -((-a.toInt) / b.toInt) := by
    rw [← Int.tdiv_eq_ediv_of_nonneg (by omega), Int.neg_tdiv, neg_neg]
  have := a.le_toInt
  rw [Int64.toInt_div, ht, Int.bmod_eq_of_le (by omega) (by omega)]
  omega

theorem sequential_eq_false_iff {cfg : Config} {n : Int64} :
    sequential cfg n = false ↔
      cfg.enabled = true ∧ 2 ≤ cfg.workers.toInt ∧ cfg.minChunk.toInt ≤ n.toInt := by
  simp only [sequential, Bool.or_eq_false_iff, Bool.not_eq_false', decide_eq_false_iff_not,
    Int64.lt_iff_toInt_lt, not_lt, and_assoc]
  rfl

theorem chunkSize_bounds {cfg : Config} {n : Int64} (hpar : sequential cfg n = false)
    (hn : 1 ≤ n.toInt) (hbig : n.toInt ≤ 2 ^ 62) :
    1 ≤ (chunkSize cfg n).toInt ∧ (chunkSize cfg n).toInt ≤ n.toInt ∧
      (n.toInt ≤ (chunkSize cfg n).toInt * cfg.workers.toInt ∨ n.toInt ≤ cfg.workers.toInt) := by
  obtain ⟨-, hw, hmc⟩ := sequential_eq_false_iff.mp hpar
  have h1 : (1 : Int64).toInt = 1 := rfl
  have hwmax := cfg.workers.toInt_lt
  have hnum : (n + cfg.workers - 1).toInt = (n.toInt + cfg.workers.toInt - 1).bmod (2 ^ 64) := by
    rw [Int64.toInt_sub, Int64.toInt_add, h1, Int.bmod_sub_bmod]
  unfold chunkSize
  rw [toInt_max, toInt_max, h1]
  by_cases hfit : n.toInt + cfg.workers.toInt - 1 < 2 ^ 63
  · -- the ceiling division is exact: `⌈n / workers⌉` lies between `1` and `n`
    rw [Int.bmod_eq_of_le (by omega) (by omega)] at hnum
    rw [Layout.toInt_div_exact (by omega) (by omega), hnum]
    have hdiv := Int.ediv_mul_add_emod (n.toInt + cfg.workers.toInt - 1) cfg.workers.toInt
    have hmod := Int.emod_lt_of_pos (n.toInt + cfg.workers.toInt - 1) (by omega : 0 < cfg.workers.toInt)
    have hmod' := Int.emod_nonneg (n.toInt + cfg.workers.toInt - 1) (by omega : cfg.workers.toInt ≠ 0)
    set q := (n.toInt + cfg.workers.toInt - 1) / cfg.workers.toInt
    have hreach : n.toInt ≤ q * cfg.workers.toInt := by omega
    have hqn : q ≤ n.toInt := by nlinarith
    refine ⟨by omega, by omega, .inl ?_⟩
    calc n.toInt ≤ q * cfg.workers.toInt := hreach
      _ ≤ max (max q cfg.minChunk.toInt) 1 * cfg.workers.toInt :=
        mul_le_mul_of_nonneg_right (by omega) (by omega)
  · -- the sum wrapped: there are more workers than items, and the quotient is not positive
    have hneg : (n + cfg.workers - 1).toInt < 0 := by
      rw [hnum, ← Int.sub_bmod_right, Int.bmod_eq_of_le (by omega) (by omega)]
      omega
    have := toInt_div_nonpos hneg (by omega : 0 < cfg.workers.toInt)
    exact ⟨by omega, by omega, .inr (by omega)⟩

private theorem length_le_workers {len c n w : Int} (hc : 1 ≤ c) (hn : 1 ≤ n)
    (hlen : len * c ≤ n + c - 1) (h : n ≤ c * w ∨ n ≤ w) : len ≤ w := by
  by_contra hlt
  have hmore : (w + 1) * c ≤ len * c := mul_le_mul_of_nonneg_right (by omega) (by omega)
  rcases h with h | h
  · nlinarith
  · have : 0 ≤ w * (c - 1) := mul_nonneg (by omega) (by omega)
    nlinarith

/-! ## The split -/

/-- What a split of `n` items must be: a tiling of `[0, n)`, empty for no items, the whole
range when sequential, and at most one range per worker otherwise. -/
structure IsSplit (cfg : Config) (n : Int64) (rs : List (Int64 × Int64)) : Prop where
  tiling : Tiling 0 n rs
  empty : n.toInt ≤ 0 → rs = []
  whole : 0 < n.toInt → sequential cfg n = true → rs = [(0, n)]
  perWorker : sequential cfg n = false → (rs.length : Int) ≤ cfg.workers.toInt

theorem not_nonpos_of_pos {n : Int64} (hn : 0 < n.toInt) : ¬ n ≤ 0 :=
  mt Int64.le_iff_toInt_le.mp (by simp; omega)

theorem ranges_nonpos {cfg : Config} {n : Int64} (hn : n.toInt ≤ 0) : ranges cfg n = some [] := by
  have : n ≤ 0 := Int64.le_iff_toInt_le.mpr hn
  rw [ranges, if_pos this]

theorem ranges_sequential {cfg : Config} {n : Int64} (hn : 0 < n.toInt)
    (hseq : sequential cfg n = true) : ranges cfg n = some [(0, n)] := by
  rw [ranges, if_neg (not_nonpos_of_pos hn), if_pos hseq]

theorem ranges_parallel {cfg : Config} {n : Int64} (hn : 0 < n.toInt) (hbig : n.toInt ≤ 2 ^ 62)
    (hpar : sequential cfg n = false) :
    ∃ rs, ranges cfg n = some rs ∧ Tiling 0 n rs ∧ (rs.length : Int) ≤ cfg.workers.toInt := by
  obtain ⟨hc1, hcn, hreach⟩ := chunkSize_bounds hpar hn hbig
  have hfuel : (n.toInt - (0 : Int64).toInt).toNat < wordRounds := by
    have := n.toInt_lt
    simp only [wordRounds, Nat.pow_eq, Int64.toInt_zero]
    omega
  obtain ⟨rs, hrs, htile, hcount⟩ := chunks_tiling hc1 (by omega) wordRounds 0 hfuel
  simp only [Int64.toInt_zero, sub_zero] at hcount
  refine ⟨rs, ?_, htile, length_le_workers hc1 hn (by omega) hreach⟩
  rw [ranges, if_neg (not_nonpos_of_pos hn), if_neg (by simp [hpar]), hrs]

theorem ranges_isSplit (cfg : Config) (n : Int64) (hn : n.toInt ≤ 2 ^ 62) :
    ∃ rs, ranges cfg n = some rs ∧ IsSplit cfg n rs := by
  by_cases hpos : n.toInt ≤ 0
  · refine ⟨[], ranges_nonpos hpos, .nil (by simp; omega), fun _ => rfl, by omega,
      fun hpar => ?_⟩
    have := (sequential_eq_false_iff.mp hpar).2.1
    simp only [List.length_nil, Nat.cast_zero]
    omega
  by_cases hseq : sequential cfg n = true
  · exact ⟨_, ranges_sequential (by omega) hseq, .single (by simp; omega), by omega,
      fun _ _ => rfl, by simp [hseq]⟩
  · rw [Bool.not_eq_true] at hseq
    obtain ⟨rs, hrs, htile, hlen⟩ := ranges_parallel (by omega) hn hseq
    exact ⟨rs, hrs, htile, by omega, fun _ h => by simp [hseq] at h, fun _ => hlen⟩

/-- Up to `2^62` items the split is exact: its ranges tile `[0, n)`, so the per-item loop
visits each of `0, …, n - 1` once and nothing else; there is no range for no items, one
range `[0, n)` when the split is sequential, and at most one per worker otherwise. -/
theorem split_covers_each_item_once (cfg : Config) (n : Int64) (hn : n.toInt ≤ 2 ^ 62) :
    (∃ rs, ranges cfg n = some rs ∧ IsSplit cfg n rs) ∧
      items cfg n = some ((List.range n.toInt.toNat).map Int64.ofNat) := by
  obtain ⟨rs, hrs, hsplit⟩ := ranges_isSplit cfg n hn
  refine ⟨⟨rs, hrs, hsplit⟩, ?_⟩
  rw [items, hrs, Option.map_some, hsplit.tiling.items, span_zero]

/-- Ten items over three workers with chunks of at least two. -/
theorem ten_items_over_three_workers :
    (10 : Int64).toInt ≤ 2 ^ 62 ∧
      ((∃ rs, ranges ⟨true, 3, 2⟩ 10 = some rs ∧ IsSplit ⟨true, 3, 2⟩ 10 rs) ∧
        items ⟨true, 3, 2⟩ 10 = some ((List.range (10 : Int64).toInt.toNat).map Int64.ofNat)) :=
  ⟨by decide, split_covers_each_item_once ⟨true, 3, 2⟩ 10 (by decide)⟩

/-- Above `2^62` items the low end wraps past the largest word: two workers with chunks of
`6.5 · 10^18` over `7 · 10^18` items get four ranges, one running backwards and one below
zero. -/
theorem split_wraps_past_the_last_word :
    ranges ⟨true, 2, 6500000000000000000⟩ 7000000000000000000 =
      some [(0, 6500000000000000000), (6500000000000000000, -5446744073709551616),
        (-5446744073709551616, 1053255926290448384), (1053255926290448384, 7000000000000000000)] := by
  decide

end StridedBuffer.Parallel
