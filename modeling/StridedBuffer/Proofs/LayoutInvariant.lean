import StridedBuffer.Proofs.Offsets
import StridedBuffer.Proofs.SessionStep

/-! # Every layout of a session fits its storage

Every view of a session lies over one of its storages with a layout that passes the
check against it, and every live descriptor keeps a snapshot of such a layout. No
request changes a storage's length, a view gets a layout only after the check, and a
descriptor copies the layout of a view; so the invariant holds after every run, and with
it the exactness of offsets and counts proved for single layouts.
-/

namespace StridedBuffer

open Layout

namespace Bench

/-- A view lies over a storage of the session and its layout passes the check against
the storage. -/
def ViewFits (b : Bench) (v : View) : Prop :=
  v.storage < b.storages.size ∧
    problem v.shape v.strides v.itemSize (b.storageAt v.storage).len = none

/-- A live descriptor lies over a storage of the session, its snapshot passes the check
against the storage, and it hands over memory exactly when the storage is nonempty. -/
def DescFits (b : Bench) (d : Descriptor) : Prop :=
  d.released = false →
    d.storage < b.storages.size ∧ d.ndim = d.shape.length ∧
      0 < d.itemSize ∧ d.itemSize ≤ 8 ∧
      problem d.shape d.strides d.itemSize (b.storageAt d.storage).len = none ∧
      d.empty = ((b.storageAt d.storage).len == 0)

/-- Every layout of the session fits its storage. -/
structure LayoutsFit (b : Bench) : Prop where
  views : ∀ v ∈ b.views, b.ViewFits v
  descs : ∀ d ∈ b.descs, b.DescFits d

/-- The storages of `b` are still in `b'`, with their lengths. -/
def LensKept (b b' : Bench) : Prop :=
  b.storages.size ≤ b'.storages.size ∧
    ∀ j < b.storages.size, (b'.storageAt j).len = (b.storageAt j).len

/-! ## Lengths of storages -/

section Lens

variable {b b' : Bench}

theorem LensKept.of_storages (h : b'.storages = b.storages) : LensKept b b' :=
  ⟨by rw [h], fun j _ => by simp [storageAt, h]⟩

theorem lensKept_setStorage {i : Nat} {s : Storage} (h : s.len = (b.storageAt i).len) :
    LensKept b (b.setStorage i s) := by
  refine ⟨by simp, fun j _ => ?_⟩
  rw [storageAt_setStorage]
  split
  · rename_i hij
    rw [h, hij.1]
  · rfl

theorem lensKept_pushStorage {s : Storage} : LensKept b (b.pushStorage s) :=
  ⟨by simp, fun _ hj => by rw [storageAt_pushStorage_of_lt _ _ hj]⟩

theorem ViewFits.mono {v : View} (h : b.ViewFits v) (hk : LensKept b b') : b'.ViewFits v :=
  ⟨by have := hk.1; have := h.1; omega, by rw [hk.2 _ h.1]; exact h.2⟩

theorem DescFits.mono {d : Descriptor} (h : b.DescFits d) (hk : LensKept b b') :
    b'.DescFits d := fun hlive => by
  obtain ⟨hlt, hnd, hpos, hle, hp, he⟩ := h hlive
  refine ⟨by have := hk.1; omega, hnd, hpos, hle, ?_, ?_⟩ <;> rw [hk.2 _ hlt] <;> assumption

theorem LayoutsFit.of_lensKept (h : b.LayoutsFit) (hk : LensKept b b')
    (hv : b'.views = b.views) (hd : b'.descs = b.descs) : b'.LayoutsFit :=
  ⟨fun v hm => (h.views v (hv ▸ hm)).mono hk, fun d hm => (h.descs d (hd ▸ hm)).mono hk⟩

end Lens

/-! ## New and changed views and descriptors -/

section Extend

variable {b : Bench} (h : b.LayoutsFit)
include h

theorem LayoutsFit.pushView {v : View} (hv : b.ViewFits v) : (b.pushView v).LayoutsFit := by
  refine ⟨fun w hw => ?_, h.descs⟩
  rcases Array.mem_push.mp hw with hw | rfl
  · exact h.views w hw
  · exact hv

theorem LayoutsFit.setView {i : Nat} {v : View} (hv : b.ViewFits v) :
    (b.setView i v).LayoutsFit := by
  refine ⟨fun w hw => ?_, h.descs⟩
  rcases Array.mem_or_eq_of_mem_setIfInBounds hw with hw | rfl
  · exact h.views w hw
  · exact hv

theorem LayoutsFit.pushDesc {d : Descriptor} (hd : b.DescFits d) : (b.pushDesc d).LayoutsFit := by
  refine ⟨h.views, fun e he => ?_⟩
  rcases Array.mem_push.mp he with he | rfl
  · exact h.descs e he
  · exact hd

theorem LayoutsFit.setDesc {i : Nat} {d : Descriptor} (hd : b.DescFits d) :
    (b.setDesc i d).LayoutsFit := by
  refine ⟨h.views, fun e he => ?_⟩
  rcases Array.mem_or_eq_of_mem_setIfInBounds he with he | rfl
  · exact h.descs e he
  · exact hd

end Extend

/-! ## Steps and runs -/

theorem LayoutsFit.move {b b' : Bench} (h : b.LayoutsFit) (hm : Move b b') : b'.LayoutsFit := by
  induction hm with
  | stay => exact h
  | fresh bytes => exact h.of_lensKept lensKept_pushStorage rfl rfl
  | @attach v hlive hs hfits =>
      have hk : LensKept b (b.setStorage v.storage
          { b.storageAt v.storage with refs := (b.storageAt v.storage).refs + 1 }) :=
        lensKept_setStorage rfl
      exact (h.of_lensKept hk rfl rfl).pushView (ViewFits.mono (hfits.elim id (h.views _)) hk)
  | relayout hv hlive hfits =>
      exact h.setView ⟨(h.views _ (Array.mem_of_getElem? hv)).1, hfits⟩
  | @detach i v hv hlive =>
      exact (h.setView (i := i) (v := { v with released := true })
        (h.views v (Array.mem_of_getElem? hv))).of_lensKept
          (lensKept_setStorage (by simp [Storage.len])) rfl rfl
  | @exportView v d hv hlive hs hd =>
      obtain ⟨hsd, hrel, hitem, hnd, hshape, hstrides, hempty⟩ := hd
      have hk : LensKept b (b.setStorage v.storage { b.storageAt v.storage with
          refs := (b.storageAt v.storage).refs + 1
          exports := (b.storageAt v.storage).exports + 1 }) :=
        lensKept_setStorage rfl
      have hvf := h.views _ hv
      refine (h.of_lensKept hk rfl rfl).pushDesc fun _ => ?_
      have hsize := size_le_eight v.dtype
      have hpos := size_pos v.dtype
      rw [hsd, hk.2 _ hvf.1, hitem, hnd, hshape, hstrides, hempty]
      exact ⟨by simpa using hvf.1, rfl, hpos, hsize, hvf.2, rfl⟩
  | write hsize => exact h.of_lensKept (lensKept_setStorage hsize) rfl rfl
  | unexport hd hlive =>
      exact (h.setDesc fun hrel => by cases hrel).of_lensKept
        (lensKept_setStorage (by simp [Storage.len])) rfl rfl
  | adopt hv =>
      refine (h.of_lensKept lensKept_pushStorage rfl rfl).pushView ⟨?_, ?_⟩
      · simp [hv.storage]
      · rw [hv.storage, storageAt_pushStorage_size]
        exact hv.fits
  | buf n _ ih => exact ih.of_lensKept (.of_storages rfl) rfl rfl

theorem LayoutsFit.step {b : Bench} (h : b.LayoutsFit) (r : Request) : (b.step r).1.LayoutsFit := by
  cases hr : r.direct
  · exact h.move (step_move b r hr)
  · obtain ⟨i, s', hbytes, heq⟩ := step_touch b r hr
    rw [heq]
    exact h.of_lensKept (lensKept_setStorage (by simp [Storage.len, hbytes])) rfl rfl

theorem Reachable.layoutsFit {allowed : Request → Prop} {b : Bench}
    (hb : Reachable allowed b) : b.LayoutsFit := by
  induction hb with
  | empty => exact ⟨by simp, by simp⟩
  | step _ _ ih => exact ih.step _

/-- In every session, whatever requests it ran, every view's layout passes the check
against its storage and the view counts its elements and bytes exactly. On a storage
below `2^62` bytes each index tuple within a view's extents has its exact offset, the
element lies within the storage, and a live view over a live storage reads it there.
Every live descriptor over such a storage hands over the storage's memory and gives each
index tuple within its extents an exact offset inside it. -/
theorem session_layouts_fit {b : Bench} (hb : Reachable (fun _ => True) b) :
    (∀ v ∈ b.views,
      problem v.shape v.strides v.itemSize (b.storageAt v.storage).len = none ∧
      v.numElements.toInt = (v.shape.map Int64.toInt).prod ∧
      v.byteLen.toInt = (v.shape.map Int64.toInt).prod * v.itemSize ∧
      ((b.storageAt v.storage).len < 2 ^ 62 →
        ∀ idx : List Int64, InBounds v.shape (idx.map Int64.toInt) →
          ∃ o, v.offset idx = .ok o ∧ o.toInt = byteOffset (idx.map Int64.toInt) v.strides ∧
            0 ≤ o.toInt ∧ o.toInt + v.itemSize ≤ (b.storageAt v.storage).len ∧
            (v.released = false → (b.storageAt v.storage).released = false →
              v.element (b.storageAt v.storage) idx =
                .ok (Value.read v.dtype (b.storageAt v.storage).bytes o.toInt.toNat)))) ∧
    (∀ d ∈ b.descs, d.released = false → (b.storageAt d.storage).len < 2 ^ 62 →
      ∀ idx : List Int64, InBounds d.shape (idx.map Int64.toInt) →
        ∃ o w, d.offset idx = .ok o ∧ d.window (b.storageAt d.storage) = some w ∧
          o.toInt = byteOffset (idx.map Int64.toInt) d.strides ∧
          0 ≤ o.toInt ∧ o.toInt + d.itemSize ≤ w.size) := by
  have hfit := hb.layoutsFit
  refine ⟨fun v hv => ?_, fun d hd hlive hlen idx hidx => ?_⟩
  · have hp := (hfit.views v hv).2
    obtain ⟨hn, hbytes⟩ := View.counts_exact hp
    refine ⟨hp, hn, hbytes, fun hlen idx hidx => ?_⟩
    obtain ⟨o, ho, hexact, h0, hend⟩ := View.offset_exact hp hlen hidx
    exact ⟨o, ho, hexact, h0, hend, fun hlive hs => View.element_of_offset hlive hs ho h0 hend⟩
  · obtain ⟨-, hnd, hpos, hle, hp, hempty⟩ := hfit.descs d hd hlive
    exact Descriptor.offset_exact hlive hnd hp hpos (by omega) hempty hlen hidx

/-- A session that views six bytes as a two by three matrix, reshapes the view to its
transpose and exports it. -/
theorem session_layouts_fit_transposed :
    let b : Bench := ((((({} : Bench).step (.storage ⟨#[1, 2, 3, 4, 5, 6]⟩)).1.step
      (.view (some 0) [2, 3] [3, 1] 5)).1.step (.reshape 0 [3, 2] [1, 3])).1.step
      (.exportView 0 Flags.strides)).1
    Reachable (fun _ => True) b ∧
    (∀ v ∈ b.views,
      problem v.shape v.strides v.itemSize (b.storageAt v.storage).len = none ∧
      v.numElements.toInt = (v.shape.map Int64.toInt).prod ∧
      v.byteLen.toInt = (v.shape.map Int64.toInt).prod * v.itemSize ∧
      ((b.storageAt v.storage).len < 2 ^ 62 →
        ∀ idx : List Int64, InBounds v.shape (idx.map Int64.toInt) →
          ∃ o, v.offset idx = .ok o ∧ o.toInt = byteOffset (idx.map Int64.toInt) v.strides ∧
            0 ≤ o.toInt ∧ o.toInt + v.itemSize ≤ (b.storageAt v.storage).len ∧
            (v.released = false → (b.storageAt v.storage).released = false →
              v.element (b.storageAt v.storage) idx =
                .ok (Value.read v.dtype (b.storageAt v.storage).bytes o.toInt.toNat)))) ∧
    (∀ d ∈ b.descs, d.released = false → (b.storageAt d.storage).len < 2 ^ 62 →
      ∀ idx : List Int64, InBounds d.shape (idx.map Int64.toInt) →
        ∃ o w, d.offset idx = .ok o ∧ d.window (b.storageAt d.storage) = some w ∧
          o.toInt = byteOffset (idx.map Int64.toInt) d.strides ∧
          0 ≤ o.toInt ∧ o.toInt + d.itemSize ≤ w.size) := by
  intro b
  have hb : Reachable (fun _ => True) b :=
    .step (.step (.step (.step .empty trivial) trivial) trivial) trivial
  exact ⟨hb, session_layouts_fit hb⟩

end Bench

end StridedBuffer
