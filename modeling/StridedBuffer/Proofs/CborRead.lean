import Mathlib
import StridedBuffer.Snapshot.Cbor

/-! # Reading back written CBOR

What the writer puts down, the reader takes up again. Integers, byte strings, text,
arrays of integers and maps of such items, written with shortest heads, read back as the
items they stand for, from wherever they stand in an input, with any fuel above their
size, as long as arrays and maps stay within the reader's limits. The statement that
carries this is `Reads`: it is proved for each writer and assembled along the structure
of the item, and a whole input holding one item decodes to it.
-/

namespace StridedBuffer.Cbor

/-! ## Bytes in place -/

/-- The bytes `x` stand in `bs` from position `p` on. -/
def Within (bs : ByteArray) (p : Nat) (x : ByteArray) : Prop :=
  p + x.size ≤ bs.size ∧ ∀ i (hi : i < x.size), bs[p + i]? = some x[i]

theorem within_append {bs x y : ByteArray} {p : Nat} :
    Within bs p (x ++ y) ↔ Within bs p x ∧ Within bs (p + x.size) y := by
  simp only [Within, ByteArray.size_append]
  constructor
  · rintro ⟨hle, hget⟩
    refine ⟨⟨by omega, fun i hi => ?_⟩, ⟨by omega, fun i hi => ?_⟩⟩
    · rw [hget i (by omega), ByteArray.getElem_append_left hi]
    · rw [Nat.add_assoc, hget (x.size + i) (by omega),
        ByteArray.getElem_append_right (by omega)]
      simp
  · rintro ⟨⟨hle, hx⟩, ⟨hle', hy⟩⟩
    refine ⟨by omega, fun i hi => ?_⟩
    by_cases hlt : i < x.size
    · rw [hx i hlt, ByteArray.getElem_append_left hlt]
    · have := hy (i - x.size) (by omega)
      rw [show p + x.size + (i - x.size) = p + i by omega] at this
      rw [this, ByteArray.getElem_append_right (by omega)]

theorem within_self (bs : ByteArray) : Within bs 0 bs :=
  ⟨by simp, fun i hi => by simp [hi]⟩

theorem Within.extract {bs x : ByteArray} {p : Nat} (h : Within bs p x) :
    bs.extract p (p + x.size) = x := by
  have hle := h.1
  apply ByteArray.ext
  apply Array.ext
  · simp only [ByteArray.size_data, ByteArray.size_extract]
    omega
  · intro i hi hi'
    have hx := h.2 i (by simpa using hi')
    rw [← ByteArray.getElem_eq_getElem_data, ← ByteArray.getElem_eq_getElem_data,
      ByteArray.getElem_extract]
    rw [getElem?_pos bs (p + i) (by simp at hi; omega)] at hx
    exact Option.some_injective _ hx

theorem foldl_append {α : Type} (g : α → ByteArray) (a : ByteArray) (xs : List α) :
    xs.foldl (fun acc x => acc ++ g x) a =
      a ++ xs.foldl (fun acc x => acc ++ g x) ByteArray.empty := by
  induction xs generalizing a with
  | nil => simp [ByteArray.append_empty]
  | cons x xs ih =>
    rw [List.foldl_cons, List.foldl_cons, ih, ih (ByteArray.empty ++ g x), ByteArray.empty_append,
      ByteArray.append_assoc]

theorem foldl_append_cons {α : Type} (g : α → ByteArray) (x : α) (xs : List α) :
    (x :: xs).foldl (fun acc x => acc ++ g x) ByteArray.empty =
      g x ++ xs.foldl (fun acc x => acc ++ g x) ByteArray.empty := by
  rw [List.foldl_cons, foldl_append, ByteArray.empty_append]

theorem length_le_size_foldl {α : Type} (g : α → ByteArray) (hg : ∀ x, 0 < (g x).size)
    (xs : List α) : xs.length ≤ (xs.foldl (fun acc x => acc ++ g x) ByteArray.empty).size := by
  induction xs with
  | nil => simp
  | cons x xs ih =>
    rw [foldl_append_cons, ByteArray.size_append, List.length_cons]
    have := hg x
    omega

/-! ## Heads -/

theorem bigEndian_digits {bs : ByteArray} {p w n : Nat} (hn : n < 256 ^ w)
    (h : Within bs p
      ⟨((List.range w).reverse.map fun i => UInt8.ofNat (n / Nat.pow 256 i)).toArray⟩) :
    bigEndian bs p w = n := by
  have hstep : ∀ k ≤ w,
      (List.range k).foldl (fun acc i => acc * 256 + (bs[p + i]?.getD 0).toNat) 0 =
        n / 256 ^ (w - k) := by
    intro k hk
    induction k with
    | zero => simp [Nat.div_eq_of_lt hn]
    | succ k ih =>
      rw [List.range_succ, List.foldl_append, ih (by omega)]
      have hbyte := h.2 k (by simp [ByteArray.size]; omega)
      simp only [List.foldl_cons, List.foldl_nil, hbyte, Option.getD_some]
      simp [ByteArray.getElem_eq_getElem_data, List.getElem_reverse, Nat.pow_eq]
      have hw : w - k = (w - (k + 1)) + 1 := by omega
      have hw' : w - 1 - k = w - (k + 1) := by omega
      rw [hw, hw', Nat.pow_succ, ← Nat.div_div_eq_div_mul]
      generalize n / 256 ^ (w - (k + 1)) = q
      omega
  simpa [bigEndian] using hstep w le_rfl

theorem mk_append (a b : Array UInt8) : (⟨a ++ b⟩ : ByteArray) = ⟨a⟩ ++ ⟨b⟩ :=
  ByteArray.ext (by simp [ByteArray.data_append])

theorem headByte_toNat {m c : Nat} (hm : m < 8) (hc : c < 32) :
    (UInt8.ofNat (m * 32) + UInt8.ofNat c).toNat = m * 32 + c := by
  simp only [UInt8.toNat_add, UInt8.toNat_ofNat']
  omega

theorem readHead_long {bs : ByteArray} {p m info w n : Nat} (hm : m < 8)
    (hw : info = 24 ∧ w = 1 ∨ info = 25 ∧ w = 2 ∨ info = 26 ∧ w = 4 ∨ info = 27 ∧ w = 8)
    (hn : n < 256 ^ w)
    (h : Within bs p ⟨#[UInt8.ofNat (m * 32) + UInt8.ofNat info] ++
      ((List.range w).reverse.map fun i => UInt8.ofNat (n / Nat.pow 256 i)).toArray⟩) :
    readHead bs p = some ⟨m, info, some n, p + 1 + w⟩ := by
  rw [mk_append, within_append] at h
  obtain ⟨h1, h2⟩ := h
  have hb : bs[p]? = some (UInt8.ofNat (m * 32) + UInt8.ofNat info) :=
    h1.2 0 (by simp [ByteArray.size])
  have hinfo : info < 32 := by omega
  have hmaj : (m * 32 + info) / 32 = m := by omega
  have hmin : (m * 32 + info) % 32 = info := by omega
  have hbe := bigEndian_digits hn h2
  have hsize := h2.1
  simp only [ByteArray.size, List.length_map, List.length_reverse,
    List.length_range, Array.size] at hbe hsize
  simp only [readHead, hb, headByte_toNat hm hinfo, hmaj, hmin]
  rcases hw with ⟨rfl, rfl⟩ | ⟨rfl, rfl⟩ | ⟨rfl, rfl⟩ | ⟨rfl, rfl⟩ <;> simp_all

theorem readHead_head {bs : ByteArray} {p m n : Nat} (hm : m < 8) (hn : n < 2 ^ 64)
    (h : Within bs p (head m n)) :
    ∃ info, readHead bs p = some ⟨m, info, some n, p + (head m n).size⟩ := by
  unfold head at h ⊢
  split_ifs at h ⊢ with h24 h8 h16 h32
  · have hb : bs[p]? = some (UInt8.ofNat (m * 32) + UInt8.ofNat n) :=
      h.2 0 (by simp [ByteArray.size])
    have hmaj : (m * 32 + n) / 32 = m := by omega
    have hmin : (m * 32 + n) % 32 = n := by omega
    refine ⟨n, ?_⟩
    simp only [readHead, hb, headByte_toNat hm (by omega : n < 32), hmaj, hmin, h24, if_true]
    rfl
  · refine ⟨24, ?_⟩
    rw [readHead_long hm (.inl ⟨rfl, rfl⟩) (by simpa [Nat.pow_eq] using h8) h]
    rfl
  · refine ⟨25, ?_⟩
    rw [readHead_long hm (.inr (.inl ⟨rfl, rfl⟩)) (by simpa [Nat.pow_eq] using h16) h]
    rfl
  · refine ⟨26, ?_⟩
    rw [readHead_long hm (.inr (.inr (.inl ⟨rfl, rfl⟩))) (by simpa [Nat.pow_eq] using h32) h]
    rfl
  · refine ⟨27, ?_⟩
    rw [readHead_long hm (.inr (.inr (.inr ⟨rfl, rfl⟩))) (by simpa using hn) h]
    rfl

theorem head_size_pos (m n : Nat) : 0 < (head m n).size := by
  unfold head
  split_ifs <;> simp [ByteArray.size]

/-! ## Items -/

/-- The item an integer is written as. -/
def intItem (i : Int) : Item :=
  if 0 ≤ i then .unsigned i.toNat else .negative (-1 - i).toNat

/-- The item a text is written as: one chunk of its bytes. -/
def textItem (s : String) : Item := .text [s.toUTF8]

/-- The bytes `e` hold the item `x` at nesting depth `d`: read from any position of an
input where they stand, with more fuel than they have bytes, they give `x` and end where
they end. -/
def Reads (lim : Limits) (d : Nat) (e : ByteArray) (x : Item) : Prop :=
  ∀ bs p fuel, bs.size < 2 ^ 64 → Within bs p e → e.size < fuel →
    item bs lim fuel d p = some (x, p + e.size)

theorem Reads.size_pos {lim : Limits} {d : Nat} {e : ByteArray} {x : Item}
    (h : Reads lim d e x) : 0 < e.size := by
  by_contra h0
  have hw : Within ByteArray.empty 0 e :=
    ⟨by rw [ByteArray.size_empty]; omega, fun i hi => (h0 (by omega)).elim⟩
  have := h ByteArray.empty 0 1 (by decide) hw (by omega)
  simp [item, readHead] at this

section Items

variable {lim : Limits} {d : Nat}

theorem item_encodeInt {bs : ByteArray} {p fuel : Nat} {i : Int} (hlo : -2 ^ 64 ≤ i)
    (hhi : i < 2 ^ 64) (h : Within bs p (encodeInt i)) (hf : 0 < fuel) :
    item bs lim fuel d p = some (intItem i, p + (encodeInt i).size) := by
  obtain ⟨f, rfl⟩ : ∃ f, fuel = f + 1 := ⟨fuel - 1, by omega⟩
  unfold encodeInt at h ⊢
  unfold intItem
  by_cases hi : 0 ≤ i
  · simp only [ge_iff_le, hi, if_true] at h ⊢
    obtain ⟨info, hh⟩ := readHead_head (by decide) (by omega) h
    simp only [item, hh]
    rfl
  · simp only [ge_iff_le, hi, if_false] at h ⊢
    obtain ⟨info, hh⟩ := readHead_head (by decide) (by omega) h
    simp only [item, hh]
    rfl

theorem reads_encodeInt {i : Int} (hlo : -2 ^ 64 ≤ i) (hhi : i < 2 ^ 64) :
    Reads lim d (encodeInt i) (intItem i) :=
  fun _ _ _ _ h hf => item_encodeInt hlo hhi h (by omega)

theorem readHead_string {bs x : ByteArray} {p m : Nat} (hm : m < 8)
    (hbs : bs.size < 2 ^ 64) (h : Within bs p (head m x.size ++ x)) : ∃ info,
    readHead bs p = some ⟨m, info, some x.size, p + (head m x.size).size⟩ ∧
      p + ((head m x.size).size + x.size) ≤ bs.size ∧
      bs.extract (p + (head m x.size).size) (p + ((head m x.size).size + x.size)) = x := by
  rw [within_append] at h
  obtain ⟨hh, hx⟩ := h
  have hsize := hx.1
  obtain ⟨info, hread⟩ := readHead_head hm (by omega) hh
  refine ⟨info, hread, by omega, ?_⟩
  rw [← Nat.add_assoc]
  exact hx.extract

theorem reads_encodeText (s : String) : Reads lim d (encodeText s) (textItem s) := by
  intro bs p fuel hbs h hf
  obtain ⟨f, rfl⟩ : ∃ f, fuel = f + 1 := ⟨fuel - 1, by omega⟩
  obtain ⟨info, hread, hsize, hx⟩ := readHead_string (by decide) hbs h
  simp only [encodeText, item, hread, Option.bind_eq_bind, Option.bind_some, ByteArray.size_append,
    Nat.add_assoc, if_pos hsize, hx]
  rfl

theorem reads_encodeBytes (b : ByteArray) : Reads lim d (encodeBytes b) (.bytes b) := by
  intro bs p fuel hbs h hf
  obtain ⟨f, rfl⟩ : ∃ f, fuel = f + 1 := ⟨fuel - 1, by omega⟩
  obtain ⟨info, hread, hsize, hx⟩ := readHead_string (by decide) hbs h
  simp only [encodeBytes, item, hread, Option.bind_eq_bind, Option.bind_some,
    ByteArray.size_append, Nat.add_assoc, if_pos hsize, hx]

variable (lim d) in
theorem items_encodeInts {bs : ByteArray} (xs : List Int)
    (hxs : ∀ x ∈ xs, -2 ^ 64 ≤ x ∧ x < 2 ^ 64) (p fuel : Nat)
    (h : Within bs p (xs.foldl (fun acc x => acc ++ encodeInt x) ByteArray.empty))
    (hf : xs.length < fuel) :
    items bs lim fuel d xs.length p =
      some (xs.map intItem,
        p + (xs.foldl (fun acc x => acc ++ encodeInt x) ByteArray.empty).size) := by
  obtain ⟨f, rfl⟩ : ∃ f, fuel = f + 1 := ⟨fuel - 1, by omega⟩
  induction xs generalizing p f with
  | nil => simp [items]
  | cons x xs ih =>
    rw [foldl_append_cons, within_append] at h
    obtain ⟨hx, hrest⟩ := h
    obtain ⟨hlo, hhi⟩ := hxs x (by simp)
    obtain ⟨g, rfl⟩ : ∃ g, f = g + 1 := ⟨f - 1, by simp at hf; omega⟩
    have hitem : item bs lim (g + 1) d p = some (intItem x, p + (encodeInt x).size) :=
      item_encodeInt hlo hhi hx (by omega)
    have hitems := ih (fun y hy => hxs y (by simp [hy])) _ hrest g (by simp at hf; omega)
    simp only [List.length_cons, items, hitem, Option.bind_eq_bind, Option.bind_some, hitems,
      foldl_append_cons, ByteArray.size_append, Nat.add_assoc, List.map_cons]

variable (lim d) in
theorem pairs_of_reads {bs : ByteArray} (hbs : bs.size < 2 ^ 64)
    {kvs : List (ByteArray × ByteArray)} {xs : List (Item × Item)}
    (hr : List.Forall₂ (fun e x => Reads lim d e.1 x.1 ∧ Reads lim d e.2 x.2) kvs xs)
    (p fuel : Nat)
    (h : Within bs p (kvs.foldl (fun acc kv => acc ++ (kv.1 ++ kv.2)) ByteArray.empty))
    (hf : (kvs.foldl (fun acc kv => acc ++ (kv.1 ++ kv.2)) ByteArray.empty).size < fuel) :
    pairs bs lim fuel d kvs.length p =
      some (xs, p + (kvs.foldl (fun acc kv => acc ++ (kv.1 ++ kv.2)) ByteArray.empty).size) := by
  obtain ⟨f, rfl⟩ : ∃ f, fuel = f + 1 := ⟨fuel - 1, by omega⟩
  induction hr generalizing p f with
  | nil => simp [pairs]
  | @cons e x es xs hex hrest ih =>
    obtain ⟨hk, hv⟩ := hex
    rw [foldl_append_cons, within_append, within_append] at h
    obtain ⟨⟨hke, hve⟩, hre⟩ := h
    rw [foldl_append_cons, ByteArray.size_append, ByteArray.size_append] at hf
    have hk1 := hk.size_pos
    have hv1 := hv.size_pos
    obtain ⟨g, rfl⟩ : ∃ g, f = g + 1 := ⟨f - 1, by omega⟩
    have hkey := hk bs p (g + 1) hbs hke (by omega)
    have hval := hv bs (p + e.1.size) (g + 1) hbs hve (by omega)
    have hpairs := ih _ hre g (by omega)
    simp only [ByteArray.size_append, Nat.add_assoc] at hpairs
    simp only [List.length_cons, pairs, hkey, hval, hpairs, Option.bind_eq_bind, Option.bind_some,
      foldl_append_cons, ByteArray.size_append, Nat.add_assoc]

theorem reads_encodeInts (xs : List Int) (hxs : ∀ x ∈ xs, -2 ^ 64 ≤ x ∧ x < 2 ^ 64)
    (hlen : xs.length ≤ lim.arrayItems) (hd : d + 1 ≤ lim.depth) :
    Reads lim d (encodeInts xs) (.array (xs.map intItem)) := by
  intro bs p fuel hbs h hf
  obtain ⟨f, rfl⟩ : ∃ f, fuel = f + 1 := ⟨fuel - 1, by omega⟩
  unfold encodeInts at h hf ⊢
  rw [foldl_append] at h hf ⊢
  rw [within_append] at h
  obtain ⟨hh, hbody⟩ := h
  have hcount := length_le_size_foldl encodeInt
    (fun i => by unfold encodeInt; split_ifs <;> exact head_size_pos _ _) xs
  have hsize := hbody.1
  obtain ⟨info, hread⟩ := readHead_head (by decide) (by omega) hh
  have hitems := items_encodeInts lim (d + 1) xs hxs _ f hbody
    (by rw [ByteArray.size_append] at hf; have := head_size_pos 4 xs.length; omega)
  simp only [item, hread, Option.bind_eq_bind, Option.bind_some, show ¬ d + 1 > lim.depth by omega,
    show ¬ xs.length > lim.arrayItems by omega, if_false, hitems, ByteArray.size_append,
    Nat.add_assoc]

theorem length_le_size_pairs {kvs : List (ByteArray × ByteArray)} {xs : List (Item × Item)}
    (hr : List.Forall₂ (fun e x => Reads lim d e.1 x.1 ∧ Reads lim d e.2 x.2) kvs xs) :
    kvs.length ≤ (kvs.foldl (fun acc kv => acc ++ (kv.1 ++ kv.2)) ByteArray.empty).size := by
  induction hr with
  | nil => simp
  | cons h _ ih =>
    rw [foldl_append_cons, ByteArray.size_append, ByteArray.size_append, List.length_cons]
    have := h.1.size_pos
    omega

theorem reads_encodeMap {kvs : List (ByteArray × ByteArray)} {xs : List (Item × Item)}
    (hr : List.Forall₂ (fun e x => Reads lim (d + 1) e.1 x.1 ∧ Reads lim (d + 1) e.2 x.2) kvs xs)
    (hlen : kvs.length ≤ lim.mapPairs) (hd : d + 1 ≤ lim.depth) :
    Reads lim d (encodeMap kvs) (.map xs) := by
  intro bs p fuel hbs h hf
  obtain ⟨f, rfl⟩ : ∃ f, fuel = f + 1 := ⟨fuel - 1, by omega⟩
  have hassoc : (fun acc (kv : ByteArray × ByteArray) => acc ++ kv.1 ++ kv.2) =
      fun acc kv => acc ++ (kv.1 ++ kv.2) := by
    funext acc kv
    exact ByteArray.append_assoc
  unfold encodeMap at h hf ⊢
  rw [hassoc, foldl_append] at h hf ⊢
  rw [within_append] at h
  obtain ⟨hh, hbody⟩ := h
  have hcount := length_le_size_pairs hr
  have hsize := hbody.1
  obtain ⟨info, hread⟩ := readHead_head (by decide) (by omega) hh
  have hpairs := pairs_of_reads lim (d + 1) hbs hr _ f hbody
    (by rw [ByteArray.size_append] at hf; have := head_size_pos 5 kvs.length; omega)
  simp only [item, hread, Option.bind_eq_bind, Option.bind_some, show ¬ d + 1 > lim.depth by omega,
    show ¬ kvs.length > lim.mapPairs by omega, if_false, hpairs, ByteArray.size_append,
    Nat.add_assoc]

end Items

theorem decode_of_reads {lim : Limits} {e : ByteArray} {x : Item} (h : Reads lim 0 e x)
    (hsize : e.size < 2 ^ 64) : decode e lim = some x := by
  simp only [decode, h e 0 (2 * e.size + 1) hsize (within_self e) (by omega), Option.bind_eq_bind,
    Option.bind_some, Nat.zero_add, if_true]

end StridedBuffer.Cbor
