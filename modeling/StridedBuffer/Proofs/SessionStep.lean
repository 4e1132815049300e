import StridedBuffer.Proofs.Constructors

/-! # What one session step can do

Every request changes a session in one of a few ways, listed once here as `Move`: it
leaves the session as it was, adds a storage, attaches a new view to a live storage,
gives a view a new layout, releases a view, exports a descriptor, writes bytes through
one, releases one, or adopts a fresh storage with its only view. The four requests that
move a storage's counters directly are the only others, and change one storage's
counters and nothing else. Invariants of sessions are proved once for each way, and
follow for every run from `step_move`.
-/

namespace StridedBuffer

namespace Bench

/-- The storage at a number; a number past the end gives an empty storage. -/
def storageAt (b : Bench) (i : Nat) : Storage :=
  b.storages.getD i (Storage.ofBytes ByteArray.empty)

def pushStorage (b : Bench) (s : Storage) : Bench := { b with storages := b.storages.push s }

def pushView (b : Bench) (v : View) : Bench := { b with views := b.views.push v }

def pushDesc (b : Bench) (d : Descriptor) : Bench := { b with descs := b.descs.push d }

def pushBuf (b : Bench) (vid : Nat) : Bench := { b with bufs := b.bufs.push vid }

/-- What one request can do to a session, besides moving a storage's counters directly. -/
inductive Move (b : Bench) : Bench → Prop
  /-- A query, or a request that fails before anything changes. -/
  | stay : Move b b
  /-- A new storage that nothing holds. -/
  | fresh (bytes : ByteArray) : Move b (b.pushStorage (Storage.ofBytes bytes))
  /-- A new live view over a live storage, taking a reference: either the storage is one
  of the session and the layout passed the check against it, or the view copies a view
  of the session. -/
  | attach {v : View} (hlive : v.released = false)
      (hs : (b.storageAt v.storage).released = false)
      (hfits : v.storage < b.storages.size ∧
          Layout.problem v.shape v.strides v.itemSize (b.storageAt v.storage).len = none ∨
        v ∈ b.views) :
      Move b ((b.setStorage v.storage
        { b.storageAt v.storage with refs := (b.storageAt v.storage).refs + 1 }).pushView v)
  /-- A live view takes a layout that passed the check against its storage. -/
  | relayout {i : Nat} {v : View} {shape : Shape} {strides : List Int64}
      (hv : b.views[i]? = some v) (hlive : v.released = false)
      (hfits : Layout.problem shape strides v.itemSize (b.storageAt v.storage).len = none) :
      Move b (b.setView i { v with shape := shape, strides := strides })
  /-- A live view is released and gives back its reference. -/
  | detach {i : Nat} {v : View} (hv : b.views[i]? = some v) (hlive : v.released = false) :
      Move b ((b.setView i { v with released := true }).setStorage v.storage
        (b.storageAt v.storage).release.1)
  /-- A live view over a live storage is exported, pinning the storage. -/
  | exportView {v : View} {d : Descriptor} (hv : v ∈ b.views) (hlive : v.released = false)
      (hs : (b.storageAt v.storage).released = false)
      (hd : d.storage = v.storage ∧ d.released = false ∧ d.itemSize = v.itemSize ∧
        d.ndim = v.ndim ∧ d.shape = v.shape ∧ d.strides = v.strides ∧
        d.empty = ((b.storageAt v.storage).len == 0)) :
      Move b ((b.setStorage v.storage { b.storageAt v.storage with
        refs := (b.storageAt v.storage).refs + 1
        exports := (b.storageAt v.storage).exports + 1 }).pushDesc d)
  /-- Bytes are written into a storage, keeping its length. -/
  | write {i : Nat} {bytes : ByteArray} (hsize : bytes.size = (b.storageAt i).bytes.size) :
      Move b (b.setStorage i { b.storageAt i with bytes := bytes })
  /-- A live descriptor is released and gives back its pin. -/
  | unexport {i : Nat} {d : Descriptor} (hd : b.descs[i]? = some d) (hlive : d.released = false) :
      Move b ((b.setDesc i
        { d with released := true, len := 0, ndim := 0, shape := [], strides := [] }).setStorage
          d.storage (b.storageAt d.storage).unpin.1)
  /-- A fresh storage is added with its only view. -/
  | adopt {v : View} {s : Storage} (hv : FreshView b.storages.size v s) :
      Move b ((b.pushStorage s).pushView v)
  /-- A host buffer is recorded for a view just added. -/
  | buf {b' : Bench} (n : Nat) : Move b b' → Move b (b'.pushBuf n)

end Bench

/-- Whether a request moves a storage's counters directly, not through a view or a
descriptor. -/
def Request.direct : Request → Bool
  | .retain _ | .releaseStorage _ | .pin _ | .unpin _ => true
  | _ => false

namespace Bench

/-! ## Lookups and updates -/

theorem storageAt_of_getElem? {b : Bench} {i : Nat} {s : Storage}
    (h : b.storages[i]? = some s) : b.storageAt i = s := by
  simp [storageAt, h]

theorem lookup_eq_ok {α : Type} {kind : String} {xs : Array α} {id : Int} {x : α}
    (h : lookup kind xs id = .ok x) : xs[id.toNat]? = some x := by
  unfold lookup at h
  split at h
  · rename_i heq
    cases h
    split at heq
    · cases heq
    · exact heq
  · cases h

theorem target_eq_ok {b : Bench} {sid : Option Int} {t : Option (Nat × Storage)}
    (h : b.target sid = .ok t) : ∀ i s, t = some (i, s) → b.storages[i]? = some s := by
  intro i s ht
  subst ht
  unfold target at h
  split at h
  · cases h
  · rename_i j
    cases hl : lookup "storage" b.storages j with
    | error e => simp [hl, Except.map] at h
    | ok s' =>
        simp only [hl, Except.map, Except.ok.injEq, Option.some.injEq, Prod.mk.injEq] at h
        obtain ⟨rfl, rfl⟩ := h
        exact lookup_eq_ok hl

theorem setStorage_self {b : Bench} {i : Nat} {s : Storage} (h : b.storages[i]? = some s) :
    b.setStorage i s = b := by
  obtain ⟨hi, rfl⟩ := Array.getElem?_eq_some_iff.mp h
  simp [setStorage, Array.setIfInBounds, hi]

theorem setStorage_storageAt (b : Bench) (i : Nat) : b.setStorage i (b.storageAt i) = b := by
  by_cases hi : i < b.storages.size
  · exact setStorage_self (by simp [storageAt, hi])
  · simp [setStorage, Array.setIfInBounds, hi]

theorem setView_self {b : Bench} {i : Nat} {v : View} (h : b.views[i]? = some v) :
    b.setView i v = b := by
  obtain ⟨hi, rfl⟩ := Array.getElem?_eq_some_iff.mp h
  simp [setView, Array.setIfInBounds, hi]

theorem setDesc_self {b : Bench} {i : Nat} {d : Descriptor} (h : b.descs[i]? = some d) :
    b.setDesc i d = b := by
  obtain ⟨hi, rfl⟩ := Array.getElem?_eq_some_iff.mp h
  simp [setDesc, Array.setIfInBounds, hi]

section Elim

variable {P : Bench → Prop} {b : Bench} {id : Int}

theorem withStorage_fst {f : Nat → Storage → Step} (h₀ : P b)
    (hf : ∀ i s, b.storages[i]? = some s → P (f i s).1) : P (b.withStorage id f).1 := by
  unfold withStorage
  split
  · exact h₀
  · rename_i s hs
    exact hf _ _ (lookup_eq_ok hs)

theorem withView_fst {f : Nat → View → Storage → Step} (h₀ : P b)
    (hf : ∀ i v, b.views[i]? = some v → P (f i v (b.storageAt v.storage)).1) :
    P (b.withView id f).1 := by
  unfold withView
  split
  · exact h₀
  · rename_i v hv
    exact hf _ _ (lookup_eq_ok hv)

theorem withDesc_fst {f : Nat → Descriptor → Storage → Step} (h₀ : P b)
    (hf : ∀ i d, b.descs[i]? = some d → P (f i d (b.storageAt d.storage)).1) :
    P (b.withDesc id f).1 := by
  unfold withDesc
  split
  · exact h₀
  · rename_i d hd
    exact hf _ _ (lookup_eq_ok hd)

theorem withBuf_fst {f : Nat → View → Storage → Step} (h₀ : P b)
    (hf : ∀ i v, b.views[i]? = some v → P (f i v (b.storageAt v.storage)).1) :
    P (b.withBuf id f).1 := by
  unfold withBuf
  split
  · exact h₀
  · exact withView_fst h₀ hf

end Elim

end Bench

namespace Bench

/-! ## The move of each request -/

variable {b : Bench}

theorem addView_newView_move {t : Option (Nat × Storage)}
    (ht : ∀ i s, t = some (i, s) → b.storages[i]? = some s) {shape : Shape}
    {strides : List Int64} {code : Int} : Move b (b.addView (newView t shape strides code)).1 := by
  unfold addView
  split
  · exact .stay
  · rename_i v s' h
    obtain ⟨i, s, t', rfl, -, hp, hlive, rfl, rfl⟩ := newView_eq_ok h
    have hs := storageAt_of_getElem? (ht i s rfl)
    have hmove := Move.attach (b := b) (v := ⟨i, shape, strides, t', false⟩) rfl
      (by simp [hs, hlive])
      (.inl ⟨(Array.getElem?_eq_some_iff.mp (ht i s rfl)).1, by simpa [hs, View.itemSize] using hp⟩)
    simp only [hs] at hmove
    exact hmove

theorem clone_move {v w : View} {s' : Storage} (hv : v ∈ b.views)
    (h : v.clone (b.storageAt v.storage) = .ok (w, s')) :
    Move b ((b.setStorage w.storage s').pushView w) := by
  obtain ⟨hlive, hs, rfl, rfl⟩ := View.clone_eq_ok h
  exact .attach hlive hs (.inr hv)

theorem reshape_move {i : Nat} {v w : View} {shape : Shape} {strides : List Int64}
    (hv : b.views[i]? = some v) (h : v.reshape (b.storageAt v.storage) shape strides = .ok w) :
    Move b (b.setView i w) := by
  obtain ⟨hlive, hp, rfl⟩ := View.reshape_eq_ok h
  exact .relayout hv hlive hp

theorem releaseView_move {i : Nat} {v : View} (hv : b.views[i]? = some v) :
    Move b (b.releaseView i v (b.storageAt v.storage)).1 := by
  unfold releaseView View.release
  cases hrel : v.released
  · exact .detach hv hrel
  · -- releasing a released view writes back what was there
    simp only [if_true]
    rw [setView_self hv, setStorage_storageAt]
    exact .stay

theorem addDesc_exportView_move {v : View} (hv : v ∈ b.views) {flags : Flags} :
    Move b (b.addDesc (exportView v (b.storageAt v.storage) flags)).1 := by
  unfold addDesc
  split
  · exact .stay
  · rename_i d s' h
    obtain ⟨hlive, hs, rfl, rfl⟩ := exportView_eq_ok h
    exact .exportView hv hlive hs ⟨rfl, rfl, rfl, rfl, rfl, rfl, rfl⟩

theorem releaseDesc_move {i : Nat} {d : Descriptor} (hd : b.descs[i]? = some d) :
    Move b ((b.setDesc i (d.release (b.storageAt d.storage)).1).setStorage d.storage
      (d.release (b.storageAt d.storage)).2.1) := by
  unfold Descriptor.release
  cases hrel : d.released
  · exact .unexport hd hrel
  · simp only [if_true]
    rw [setDesc_self hd, setStorage_storageAt]
    exact .stay

theorem copySlice_size {src dest : ByteArray} {off : Nat} (h : off + src.size ≤ dest.size) :
    (src.copySlice 0 dest off src.size).size = dest.size := by
  rw [ByteArray.copySlice_eq_append]
  simp only [ByteArray.size_append, ByteArray.size_extract, ByteArray.size_data]
  omega

theorem window_eq_some {d : Descriptor} {s : Storage} {w : ByteArray}
    (h : d.window s = some w) : w = s.bytes := by
  unfold Descriptor.window at h
  split at h
  · cases h
  · cases h
    rfl

theorem adopt_move {v : View} {s : Storage} (hv : FreshView b.storages.size v s) :
    Move b ((b.pushStorage s).addBuf v s).1 := by
  have hset : (b.pushStorage s).setStorage v.storage s = b.pushStorage s := by
    rw [hv.storage]
    exact setStorage_self (by simp [pushStorage])
  simp only [addBuf, hset]
  exact .buf _ (.adopt hv)

theorem step_move (b : Bench) (r : Request) (hr : r.direct = false) : Move b (b.step r).1 := by
  cases r with
  | storage bytes => exact .fresh bytes
  | storageInfo id => exact withStorage_fst .stay fun _ _ _ => .stay
  | storageBytes id => exact withStorage_fst .stay fun _ _ _ => .stay
  | retain id => cases hr
  | releaseStorage id => cases hr
  | pin id => cases hr
  | unpin id => cases hr
  | view sid shape strides code =>
      simp only [step]
      split
      · exact .stay
      · rename_i t ht
        exact addView_newView_move (target_eq_ok ht)
  | contiguous sid shape code =>
      simp only [step]
      split
      · exact .stay
      · rename_i t ht
        unfold newContiguous
        split
        · exact .stay
        · exact addView_newView_move (target_eq_ok ht)
  | reshape id shape strides =>
      refine withView_fst .stay fun i v hv => ?_
      split
      · exact .stay
      · rename_i w h
        exact reshape_move hv h
  | element id indices => exact withView_fst .stay fun _ _ _ => .stay
  | offset id indices => exact withView_fst .stay fun _ _ _ => .stay
  | head id limit => exact withView_fst .stay fun _ _ _ => .stay
  | preview id limit => exact withView_fst .stay fun _ _ _ => .stay
  | text id => exact withView_fst .stay fun _ _ _ => .stay
  | info id => exact withView_fst .stay fun _ _ _ => .stay
  | clone id =>
      refine withView_fst .stay fun i v hv => ?_
      unfold addView
      split
      · exact .stay
      · rename_i w s' h
        exact clone_move (Array.mem_of_getElem? hv) h
  | release id =>
      refine withView_fst .stay fun i v hv => ?_
      dsimp only
      split <;> exact releaseView_move hv
  | exportView id flags =>
      exact withView_fst .stay fun _ v hv => addDesc_exportView_move (Array.mem_of_getElem? hv)
  | descInfo id => exact withDesc_fst .stay fun _ _ _ => .stay
  | descRaw id => exact withDesc_fst .stay fun _ _ _ => .stay
  | descOffset id indices => exact withDesc_fst .stay fun _ _ _ => .stay
  | descWrite id off bytes =>
      refine withDesc_fst .stay fun i d hd => ?_
      dsimp only
      split
      · exact .stay
      · rename_i hfit
        split
        · exact .stay
        · rename_i w hw
          rw [hw] at hfit
          simp only [Option.getD_some] at hfit
          have hsize : (bytes.copySlice 0 w off.toNat bytes.size).size = w.size :=
            copySlice_size (by omega)
          exact .write (hsize.trans (by rw [window_eq_some hw]))
  | descRelease id =>
      refine withDesc_fst .stay fun i d hd => ?_
      dsimp only
      split <;> exact releaseDesc_move hd
  | construct data shape strides format =>
      simp only [step]
      split
      · exact .stay
      · rename_i v s h
        exact adopt_move (construct_fresh h)
  | wrap id =>
      refine withView_fst .stay fun i v hv => ?_
      split
      · exact .stay
      · rename_i w s' h
        exact .buf _ (clone_move (Array.mem_of_getElem? hv) h)
  | bufText id => exact withBuf_fst .stay fun _ _ _ => .stay
  | bufReshape id shape strides =>
      refine withBuf_fst .stay fun i v hv => ?_
      split
      · exact .stay
      · rename_i w h
        exact reshape_move hv h
  | bufGet id flags =>
      exact withBuf_fst .stay fun _ v hv => addDesc_exportView_move (Array.mem_of_getElem? hv)
  | bufRelease id =>
      refine withBuf_fst .stay fun i v hv => ?_
      dsimp only
      split <;> exact releaseView_move hv
  | write id opts => exact withView_fst .stay fun _ _ _ => .stay
  | read file skip level =>
      simp only [step]
      split
      · exact .stay
      · rename_i v s h hr
        exact .adopt (Snapshot.read_fresh hr)
  | idx data =>
      simp only [step]
      split
      · exact .stay
      · rename_i v s hr
        exact .adopt (parseIdx_fresh hr)

end Bench

namespace Bench

theorem counted_fst (b : Bench) (i : Nat) (r : Storage × Option Fault) :
    (b.counted i r).1 = b.setStorage i r.1 := by
  unfold counted
  split <;> rfl

theorem step_touch (b : Bench) (r : Request) (hr : r.direct = true) :
    ∃ i s', s'.bytes = (b.storageAt i).bytes ∧ (b.step r).1 = b.setStorage i s' := by
  let P := fun b' : Bench => ∃ i s', s'.bytes = (b.storageAt i).bytes ∧ b' = b.setStorage i s'
  have h₀ : P b := ⟨0, b.storageAt 0, rfl, (setStorage_storageAt b 0).symm⟩
  cases r with
  | retain id =>
      refine withStorage_fst (P := P) h₀ fun i s hs => ?_
      split
      · rename_i s' h
        obtain ⟨-, rfl⟩ := Storage.retain_eq_ok.mp h
        exact ⟨i, _, by rw [storageAt_of_getElem? hs], counted_fst b i _⟩
      · exact h₀
  | releaseStorage id =>
      refine withStorage_fst (P := P) h₀ fun i s hs => ?_
      exact ⟨i, _, by rw [Storage.release_bytes, storageAt_of_getElem? hs], counted_fst b i _⟩
  | pin id =>
      refine withStorage_fst (P := P) h₀ fun i s hs => ?_
      split
      · rename_i s' h
        obtain ⟨-, rfl⟩ := Storage.pin_eq_ok.mp h
        exact ⟨i, _, by rw [storageAt_of_getElem? hs], counted_fst b i _⟩
      · exact h₀
  | unpin id =>
      refine withStorage_fst (P := P) h₀ fun i s hs => ?_
      exact ⟨i, _, by rw [Storage.unpin_bytes, storageAt_of_getElem? hs], counted_fst b i _⟩
  | _ => cases hr

/-- The sessions that runs of `allowed` requests reach from the empty session. -/
inductive Reachable (allowed : Request → Prop) : Bench → Prop
  | empty : Reachable allowed {}
  | step {b : Bench} {r : Request} : Reachable allowed b → allowed r →
      Reachable allowed (b.step r).1

/-- The sessions that runs of `n` allowed requests reach from the empty session. -/
inductive ReachableIn (allowed : Request → Prop) : Nat → Bench → Prop
  | empty : ReachableIn allowed 0 {}
  | step {n : Nat} {b : Bench} {r : Request} : ReachableIn allowed n b → allowed r →
      ReachableIn allowed (n + 1) (b.step r).1

theorem ReachableIn.reachable {allowed : Request → Prop} {n : Nat} {b : Bench}
    (h : ReachableIn allowed n b) : Reachable allowed b := by
  induction h with
  | empty => exact .empty
  | step _ hr ih => exact .step ih hr

/-! ## What the updates leave alone -/

section Frame

variable (b : Bench) (i j : Nat) (s : Storage) (v : View) (d : Descriptor) (n : Nat)

@[simp] theorem setStorage_views : (b.setStorage i s).views = b.views := rfl
@[simp] theorem setStorage_descs : (b.setStorage i s).descs = b.descs := rfl
@[simp] theorem size_setStorage : (b.setStorage i s).storages.size = b.storages.size := by
  simp [setStorage]
@[simp] theorem pushStorage_views : (b.pushStorage s).views = b.views := rfl
@[simp] theorem pushStorage_descs : (b.pushStorage s).descs = b.descs := rfl
@[simp] theorem size_pushStorage : (b.pushStorage s).storages.size = b.storages.size + 1 := by
  simp [pushStorage]
@[simp] theorem pushView_views : (b.pushView v).views = b.views.push v := rfl
@[simp] theorem pushView_storages : (b.pushView v).storages = b.storages := rfl
@[simp] theorem pushView_descs : (b.pushView v).descs = b.descs := rfl
@[simp] theorem setView_views : (b.setView i v).views = b.views.setIfInBounds i v := rfl
@[simp] theorem setView_storages : (b.setView i v).storages = b.storages := rfl
@[simp] theorem setView_descs : (b.setView i v).descs = b.descs := rfl
@[simp] theorem pushDesc_descs : (b.pushDesc d).descs = b.descs.push d := rfl
@[simp] theorem pushDesc_storages : (b.pushDesc d).storages = b.storages := rfl
@[simp] theorem pushDesc_views : (b.pushDesc d).views = b.views := rfl
@[simp] theorem setDesc_descs : (b.setDesc i d).descs = b.descs.setIfInBounds i d := rfl
@[simp] theorem setDesc_storages : (b.setDesc i d).storages = b.storages := rfl
@[simp] theorem setDesc_views : (b.setDesc i d).views = b.views := rfl
@[simp] theorem pushBuf_storages : (b.pushBuf n).storages = b.storages := rfl
@[simp] theorem pushBuf_views : (b.pushBuf n).views = b.views := rfl
@[simp] theorem pushBuf_descs : (b.pushBuf n).descs = b.descs := rfl

theorem storageAt_setStorage :
    (b.setStorage i s).storageAt j = if i = j ∧ i < b.storages.size then s else b.storageAt j := by
  by_cases h : i = j ∧ i < b.storages.size
  · obtain ⟨rfl, hi⟩ := h
    simp [storageAt, setStorage, hi]
  · rw [if_neg h]
    simp only [storageAt, setStorage, Array.getD_eq_getD_getElem?, Array.getElem?_setIfInBounds]
    by_cases hij : i = j
    · subst hij
      have hi : ¬i < b.storages.size := fun hi => h ⟨rfl, hi⟩
      simp [hi]
    · simp [hij]

theorem storageAt_pushStorage_of_lt {j : Nat} (h : j < b.storages.size) :
    (b.pushStorage s).storageAt j = b.storageAt j := by
  simp [storageAt, pushStorage, Array.getElem?_push, Nat.ne_of_lt h]

@[simp] theorem storageAt_pushStorage_size : (b.pushStorage s).storageAt b.storages.size = s := by
  simp [storageAt, pushStorage]

theorem storageAt_of_size_le {j : Nat} (h : b.storages.size ≤ j) :
    b.storageAt j = Storage.ofBytes ByteArray.empty := by
  simp [storageAt, Array.getElem?_eq_none h]

theorem storageAt_pushStorage :
    (b.pushStorage s).storageAt j = if j = b.storages.size then s else b.storageAt j := by
  split
  · rename_i hj
    rw [hj, storageAt_pushStorage_size]
  · rename_i hj
    by_cases hlt : j < b.storages.size
    · exact storageAt_pushStorage_of_lt b s hlt
    · rw [storageAt_of_size_le b (by omega), storageAt_of_size_le (b.pushStorage s) (by simp; omega)]

@[simp] theorem storageAt_pushView : (b.pushView v).storageAt j = b.storageAt j := rfl
@[simp] theorem storageAt_setView : (b.setView i v).storageAt j = b.storageAt j := rfl
@[simp] theorem storageAt_pushDesc : (b.pushDesc d).storageAt j = b.storageAt j := rfl
@[simp] theorem storageAt_setDesc : (b.setDesc i d).storageAt j = b.storageAt j := rfl
@[simp] theorem storageAt_pushBuf : (b.pushBuf n).storageAt j = b.storageAt j := rfl

end Frame

end Bench

end StridedBuffer
