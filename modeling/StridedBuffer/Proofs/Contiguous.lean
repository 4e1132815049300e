import Mathlib
import StridedBuffer.Proofs.Offsets
import StridedBuffer.Proofs.Constructors

/-! # Contiguous storage

A row-major layout stores its elements one after another. The element at an index tuple
is number `rowMajor` of the tuple in row-major order, and under `contiguousStrides` it
starts at the item size times that number: the word products behind the strides never
wrap once the byte count is a word. A storage holding exactly the elements' bytes fits
such a layout, so a view over it reads element `k` from bytes `size * k` on.

The second half reads elements back from byte strings built element by element: blocks
of equal length laid end to end, and words packed little-endian. A decoded element
depends only on the bytes it covers.
-/

namespace StridedBuffer.Layout

/-! ## Row-major order -/

/-- The number of elements before an index tuple in row-major order. -/
def rowMajor : List Int64 → List Int → Int
  | _ :: ds, i :: is => i * (ds.map Int64.toInt).prod + rowMajor ds is
  | _, _ => 0

@[simp] theorem rowMajor_cons (d : Int64) (ds : List Int64) (i : Int) (is : List Int) :
    rowMajor (d :: ds) (i :: is) = i * (ds.map Int64.toInt).prod + rowMajor ds is := rfl

theorem rowMajor_bounds {shape : List Int64} {idx : List Int} (h : InBounds shape idx) :
    0 ≤ rowMajor shape idx ∧ rowMajor shape idx < (shape.map Int64.toInt).prod := by
  induction h with
  | nil => simp [rowMajor]
  | @cons i d is ds hi hrest ih =>
      have hprod := prod_toInt_pos (inBounds_pos hrest)
      simp only [rowMajor_cons, List.map_cons, List.prod_cons]
      constructor <;> nlinarith [hi.1, hi.2, ih.1, ih.2]

theorem contiguousStrides_cons (d : Int64) (ds : Shape) (size : Int64) :
    Shape.contiguousStrides (d :: ds) size =
      ds.foldr (fun e a => a * e) size :: Shape.contiguousStrides ds size := by
  have hsnd : ∀ l : Shape,
      (l.foldr (fun d (acc : List Int64 × Int64) => (acc.2 :: acc.1, acc.2 * d)) ([], size)).2 =
        l.foldr (fun e a => a * e) size := by
    intro l
    induction l with
    | nil => rfl
    | cons e es ih => simp only [List.foldr_cons, ih]
  simp only [Shape.contiguousStrides, List.foldr_cons, hsnd]

theorem toInt_foldr_mul {ds : List Int64} {a : Int64} (hpos : ∀ d ∈ ds, 1 ≤ d.toInt)
    (ha : 0 ≤ a.toInt) (hle : a.toInt * (ds.map Int64.toInt).prod ≤ maxWord) :
    (ds.foldr (fun e x => x * e) a).toInt = a.toInt * (ds.map Int64.toInt).prod := by
  induction ds with
  | nil => simp
  | cons d rest ih =>
      have hd : 1 ≤ d.toInt := hpos d (by simp)
      have hrest : 1 ≤ (rest.map Int64.toInt).prod :=
        prod_toInt_pos fun e he => hpos e (by simp [he])
      have hmax : maxWord = 2 ^ 63 - 1 := by simp [maxWord, Nat.pow_eq]
      simp only [List.map_cons, List.prod_cons] at hle ⊢
      have hsub : a.toInt * (rest.map Int64.toInt).prod ≤
          a.toInt * (d.toInt * (rest.map Int64.toInt).prod) :=
        mul_le_mul_of_nonneg_left (le_mul_of_one_le_left (by omega) hd) ha
      have ih' := ih (fun e he => hpos e (by simp [he])) (hsub.trans hle)
      have hnn : 0 ≤ a.toInt * (rest.map Int64.toInt).prod * d.toInt :=
        mul_nonneg (mul_nonneg ha (by omega)) (by omega)
      rw [hmax] at hle
      rw [List.foldr_cons, toInt_mul_exact] <;> rw [ih'] <;> [ring; linarith; linarith]

theorem byteOffset_contiguous {shape : List Int64} {idx : List Int} (h : InBounds shape idx)
    {size : Int64} (hsize : 0 ≤ size.toInt)
    (hmax : size.toInt * (shape.map Int64.toInt).prod ≤ maxWord) :
    byteOffset idx (Shape.contiguousStrides shape size) = size.toInt * rowMajor shape idx := by
  induction h with
  | nil => simp [rowMajor]
  | @cons i d is ds hi hrest ih =>
      have hpos := inBounds_pos hrest
      have hprod : 1 ≤ (ds.map Int64.toInt).prod := prod_toInt_pos hpos
      simp only [List.map_cons, List.prod_cons] at hmax
      have hsub : size.toInt * (ds.map Int64.toInt).prod ≤
          size.toInt * (d.toInt * (ds.map Int64.toInt).prod) :=
        mul_le_mul_of_nonneg_left (le_mul_of_one_le_left (by omega) (by omega)) hsize
      rw [contiguousStrides_cons, byteOffset_cons, toInt_foldr_mul hpos hsize (hsub.trans hmax),
        ih (hsub.trans hmax), rowMajor_cons]
      ring

theorem fits_contiguous {shape : List Int64} {itemSize storageLen : Nat}
    (hnonneg : ∀ d ∈ shape, 0 ≤ d.toInt) (hsize : 0 < itemSize) (hsmall : itemSize < 2 ^ 62)
    (hroom : (shape.map Int64.toInt).prod * itemSize ≤ storageLen) (hlen : storageLen < 2 ^ 62) :
    Fits shape (Shape.contiguousStrides shape (Int64.ofNat itemSize)) itemSize storageLen := by
  have hsz : (Int64.ofNat itemSize).toInt = itemSize := toInt_ofNat_small hsmall
  refine ⟨(Shape.contiguousStrides_length _ _).symm, hnonneg, ?_⟩
  by_cases hzero : ∃ d ∈ shape, d.toInt = 0
  · exact .inl hzero
  have hmax : maxWord = 2 ^ 63 - 1 := by simp [maxWord, Nat.pow_eq]
  have hcount : (itemSize : Int) * (shape.map Int64.toInt).prod ≤ maxWord := by
    rw [hmax]
    linarith
  refine .inr ⟨hcount, fun idx hidx => ?_⟩
  obtain ⟨h0, hlt⟩ := rowMajor_bounds hidx
  rw [byteOffset_contiguous hidx (by omega) (by rwa [hsz]), hsz]
  constructor <;> nlinarith

theorem problem_contiguous {shape : List Int64} {itemSize storageLen : Nat}
    (hnonneg : ∀ d ∈ shape, 0 ≤ d.toInt) (hsize : 0 < itemSize) (hsmall : itemSize < 2 ^ 62)
    (hroom : (shape.map Int64.toInt).prod * itemSize ≤ storageLen) (hlen : storageLen < 2 ^ 62) :
    problem shape (Shape.contiguousStrides shape (Int64.ofNat itemSize)) itemSize storageLen = none :=
  (problem_eq_none_iff hsmall hlen).mpr (fits_contiguous hnonneg hsize hsmall hroom hlen)

end StridedBuffer.Layout

namespace StridedBuffer

open Layout

theorem Shape.isContiguous_contiguousStrides (shape : Shape) (size : Int64) :
    shape.isContiguous (shape.contiguousStrides size) size = true := by
  unfold Shape.isContiguous
  generalize shape.contiguousStrides size = l
  induction shape generalizing l with
  | nil => rfl
  | cons d ds ih =>
      cases l with
      | nil => rfl
      | cons c cs => simpa using ih cs

theorem newView_contiguous_ofBytes {id : Nat} {data : ByteArray} {shape : Shape}
    {t : DataType} (hnonneg : ∀ d ∈ shape, 0 ≤ d.toInt)
    (hroom : (shape.map Int64.toInt).prod * t.size ≤ data.size) (hlen : data.size < 2 ^ 62) :
    newView (some (id, Storage.ofBytes data)) shape
        (shape.contiguousStrides (Int64.ofNat t.size)) t.code =
      .ok (⟨id, shape, shape.contiguousStrides (Int64.ofNat t.size), t, false⟩,
        ⟨data, 1, 0, false⟩) :=
  newView_ofBytes
    (problem_contiguous hnonneg (size_pos t) (by have := size_le_eight t; omega) hroom hlen)

theorem newContiguous_ofBytes {id : Nat} {data : ByteArray} {shape : Shape} {t : DataType}
    (hnonneg : ∀ d ∈ shape, 0 ≤ d.toInt)
    (hroom : (shape.map Int64.toInt).prod * t.size ≤ data.size) (hlen : data.size < 2 ^ 62) :
    newContiguous (some (id, Storage.ofBytes data)) shape t.code =
      .ok (⟨id, shape, shape.contiguousStrides (Int64.ofNat t.size), t, false⟩,
        ⟨data, 1, 0, false⟩) := by
  unfold newContiguous
  rw [DataType.ofCode_code]
  exact newView_contiguous_ofBytes hnonneg hroom hlen

namespace View

theorem element_contiguous {v : View} {s : Storage} (hv : v.released = false)
    (hs : s.released = false)
    (hstrides : v.strides = v.shape.contiguousStrides (Int64.ofNat v.itemSize))
    (hp : problem v.shape v.strides v.itemSize s.len = none) (hlen : s.len < 2 ^ 62)
    {idx : List Int64} (hidx : InBounds v.shape (idx.map Int64.toInt)) :
    v.element s idx =
      .ok (Value.read v.dtype s.bytes (v.itemSize * (rowMajor v.shape (idx.map Int64.toInt)).toNat)) := by
  obtain ⟨o, ho, hexact, h0, hend⟩ := offset_exact hp hlen hidx
  rw [element_of_offset hv hs ho h0 hend]
  have hsize : v.itemSize ≤ 8 := size_le_eight v.dtype
  have hsz : (Int64.ofNat v.itemSize).toInt = v.itemSize := toInt_ofNat_small (by omega)
  obtain ⟨-, hcount⟩ := count_of_problem_eq_none hp (by omega)
  have hword := hcount.resolve_left fun ⟨d, hd, hz⟩ => by
    have := inBounds_pos hidx d hd
    omega
  rw [hstrides, byteOffset_contiguous hidx (by omega) (by rwa [hsz]), hsz] at hexact
  obtain ⟨hr, -⟩ := rowMajor_bounds hidx
  rw [hexact, Int.toNat_mul (by omega) hr]
  rfl

end View

/-! ## Elements in byte strings -/

theorem ByteArray.getElem?_extract' {a : ByteArray} {i j k : Nat} (hk : i + k < j)
    (hj : j ≤ a.size) : (a.extract i j)[k]? = a[i + k]? := by
  change (a.extract i j).data[k]? = a.data[i + k]?
  rw [ByteArray.data_extract, Array.getElem?_extract, if_pos (by rw [ByteArray.size_data]; omega)]

theorem littleEndian_succ (bs : ByteArray) (start n : Nat) :
    littleEndian bs start (n + 1) =
      littleEndian bs (start + 1) n * 256 + (bs[start]?.getD 0).toNat := by
  simp only [littleEndian, List.range_succ_eq_map, List.foldr_cons, List.foldr_map, Nat.add_zero]
  congr 2
  apply List.foldr_ext
  intro i _ acc
  rw [Nat.succ_eq_add_one, Nat.add_comm i 1, Nat.add_assoc]

theorem littleEndian_digits {bs : ByteArray} {m : Nat} : ∀ {start n : Nat},
    (∀ i < n, (bs[start + i]?.getD 0).toNat = m / 256 ^ i % 256) →
      littleEndian bs start n = m % 256 ^ n := by
  intro start n
  induction n generalizing start m with
  | zero => intro _; simp [littleEndian, Nat.mod_one]
  | succ n ih =>
      intro h
      have htail : ∀ i < n, (bs[start + 1 + i]?.getD 0).toNat = m / 256 / 256 ^ i % 256 := by
        intro i hi
        rw [Nat.div_div_eq_div_mul, ← Nat.pow_succ', Nat.add_assoc, Nat.add_comm 1 i]
        exact h (i + 1) (by omega)
      have hhead := h 0 (by omega)
      simp only [Nat.add_zero, Nat.pow_zero, Nat.div_one] at hhead
      rw [littleEndian_succ, ih htail, hhead, Nat.pow_succ', Nat.mod_mul]
      ring

theorem littleEndian_congr {bs bs' : ByteArray} {start start' n : Nat}
    (h : ∀ i < n, bs[start + i]? = bs'[start' + i]?) :
    littleEndian bs start n = littleEndian bs' start' n := by
  unfold littleEndian
  apply List.foldr_ext
  intro i hi acc
  rw [h i (List.mem_range.mp hi)]

namespace Value

theorem read_congr {t : DataType} {bs bs' : ByteArray} {start start' : Nat}
    (h : ∀ i < t.size, bs[start + i]? = bs'[start' + i]?) :
    read t bs start = read t bs' start' := by
  simp only [read, littleEndian_congr h]

end Value

theorem getElem?_flatMap_blocks {α β : Type} {f : α → List β} {w i : Nat} (hi : i < w) :
    ∀ {l : List α}, (∀ x ∈ l, (f x).length = w) → ∀ k,
      (l.flatMap f)[w * k + i]? = l[k]?.bind fun x => (f x)[i]? := by
  intro l
  induction l with
  | nil => intro _ k; simp
  | cons x xs ih =>
      intro hlen k
      have hx : (f x).length = w := hlen x (by simp)
      rw [List.flatMap_cons]
      cases k with
      | zero => rw [Nat.mul_zero, Nat.zero_add, List.getElem?_append_left (by omega)]; simp
      | succ k =>
          rw [List.getElem?_append_right (by rw [hx]; nlinarith), hx,
            show w * (k + 1) + i - w = w * k + i by rw [Nat.mul_succ]; omega,
            ih (fun y hy => hlen y (by simp [hy])) k]
          simp

theorem length_littleEndianBytes (w n : Nat) : (littleEndianBytes w n).length = w := by
  simp [littleEndianBytes]

theorem size_packWords (w : Nat) (ns : List Nat) : (packWords w ns).size = ns.length * w := by
  simp [packWords, ByteArray.size, List.length_flatMap, length_littleEndianBytes]

theorem getElem?_packWords {w : Nat} {ns : List Nat} {k i : Nat} (hk : k < ns.length)
    (hi : i < w) : (packWords w ns)[w * k + i]? = some (UInt8.ofNat (ns[k] / 256 ^ i)) := by
  change (ns.flatMap (littleEndianBytes w)).toArray[w * k + i]? = _
  rw [List.getElem?_toArray,
    getElem?_flatMap_blocks hi (fun x _ => length_littleEndianBytes w x) k,
    List.getElem?_eq_getElem hk]
  simp [littleEndianBytes, hi, Nat.pow_eq]

theorem littleEndian_packWords {w : Nat} {ns : List Nat} {k : Nat} (hk : k < ns.length) :
    littleEndian (packWords w ns) (w * k) w = ns[k] % 256 ^ w :=
  littleEndian_digits fun i hi => by
    rw [getElem?_packWords hk hi, Option.getD_some, UInt8.toNat_ofNat']

theorem Value.read_packWords {t : DataType} {ns : List Nat} {k : Nat} (hk : k < ns.length) :
    read t (packWords t.size ns) (t.size * k) = read t (packWords t.size [ns[k]]) 0 := by
  have h0 : littleEndian (packWords t.size [ns[k]]) (t.size * 0) t.size = ns[k] % 256 ^ t.size :=
    littleEndian_packWords (show 0 < [ns[k]].length by simp)
  rw [Nat.mul_zero] at h0
  simp only [read, littleEndian_packWords hk, h0]

end StridedBuffer
