import StridedBuffer.Proofs.Holders
import StridedBuffer.Proofs.LayoutInvariant

/-! # What a failed request keeps

A request that fails leaves the objects of a session as they were: every storage keeps its
references, its pins and its released flag, and every view its shape, strides and released
flag. Operations check before they change anything, and a session records what an
operation returns only when it succeeds.

Two kinds of request are exceptions. Releasing a storage and unpinning one move the counter
first and panic after it, when it went below zero; and so do the releases of a view, a
descriptor and a host buffer, which release or unpin their storage after marking
themselves released. Such a panic keeps the move, but it never releases a storage.
A reshape whose layout passes the check changes the view even when the report of the new
view then panics on the view's released storage.

The reports of the other requests cannot fail: a live view over a live storage of a
reachable session below `2^62` bytes reports its elements, whose offsets the layout
invariant makes exact.
-/

namespace StridedBuffer

open Layout

/-! ## Reports -/

theorem Except.mapM_ok {α β ε : Type} {f : α → Except ε β} :
    ∀ {l : List α}, (∀ x ∈ l, ∃ y, f x = .ok y) → ∃ ys, l.mapM f = .ok ys
  | [], _ => ⟨[], rfl⟩
  | x :: xs, h => by
      obtain ⟨y, hy⟩ := h x (by simp)
      obtain ⟨ys, hys⟩ := Except.mapM_ok (l := xs) fun z hz => h z (by simp [hz])
      exact ⟨y :: ys, by simp [List.mapM_cons, hy, hys, bind, Except.bind, pure, Except.pure]⟩

namespace Layout

theorem inBounds_indexTuples : ∀ {shape idx : List Int64},
    idx ∈ indexTuples shape → InBounds shape (idx.map Int64.toInt)
  | [], idx, h => by
      simp only [indexTuples, List.mem_singleton] at h
      subst h
      exact .nil
  | d :: rest, idx, h => by
      simp only [indexTuples, List.mem_flatMap, List.mem_range, List.mem_map] at h
      obtain ⟨i, hi, t, ht, rfl⟩ := h
      have hd := Int64.toInt_lt d
      have hi' : (Int64.ofNat i).toInt = i := Int64.toInt_ofNat_of_lt (by omega)
      exact .cons ⟨by omega, by omega⟩ (inBounds_indexTuples ht)

theorem inBounds_rowMajorIndices {shape idx : List Int64} (h : idx ∈ rowMajorIndices shape) :
    InBounds shape (idx.map Int64.toInt) := by
  unfold rowMajorIndices at h
  split at h
  · simp at h
  · exact inBounds_indexTuples h

end Layout

namespace View

variable {v : View} {s : Storage}

theorem elements_ok (hv : v.released = false) (hs : s.released = false)
    (hp : problem v.shape v.strides v.itemSize s.len = none) (hlen : s.len < 2 ^ 62) :
    ∃ els, v.elements s = .ok els := by
  unfold elements
  refine Except.mapM_ok fun idx hidx => ?_
  obtain ⟨o, ho, -, h0, hend⟩ := offset_exact hp hlen (inBounds_rowMajorIndices hidx)
  exact ⟨_, element_of_offset hv hs ho h0 hend⟩

theorem text_error {f : Fault} (h : v.text s = .error f) : f = Storage.usePanic := by
  unfold text preview head at h
  cases hv : v.released <;> cases hs : s.released <;>
    simp [hv, hs, Storage.data, bind, Except.bind, pure, Except.pure] at h
  exact h.symm

end View

theorem bufferText_error {v : View} {s : Storage} {f : Fault} (h : bufferText v s = .error f) :
    f = Storage.usePanic := by
  unfold bufferText View.preview View.head at h
  cases hv : v.released <;> cases hs : s.released <;>
    simp [hv, hs, Storage.data, bind, Except.bind, pure, Except.pure] at h
  exact h.symm

theorem bufferText_released {v : View} {s : Storage} (hv : v.released = true) :
    bufferText v s = .ok "Buffer(released)" := by
  simp [bufferText, hv, pure, Except.pure]

namespace Report

variable {v : View} {s : Storage}

theorem view_released (hv : v.released = true) : ∃ d, view v s = .ok d := by
  unfold view View.text
  simp [hv, bind, Except.bind, pure, Except.pure]

theorem view_ok (hlive : v.released = false → s.released = false)
    (hp : problem v.shape v.strides v.itemSize s.len = none) (hlen : s.len < 2 ^ 62) :
    ∃ d, view v s = .ok d := by
  cases hv : v.released
  · have hs := hlive hv
    obtain ⟨str, hstr⟩ := View.text_ok hs (v := v)
    obtain ⟨els, hels⟩ := View.elements_ok hv hs hp hlen
    unfold view
    simp only [bind, Except.bind, pure, Except.pure, hstr, hels, hv, Bool.false_eq_true, if_false]
    split <;> simp
  · exact view_released hv

theorem view_error {f : Fault} (hp : problem v.shape v.strides v.itemSize s.len = none)
    (hlen : s.len < 2 ^ 62) (h : view v s = .error f) : f = Storage.usePanic := by
  cases hs : s.released
  · obtain ⟨d, hd⟩ := view_ok (fun _ => hs) hp hlen
    rw [hd] at h
    cases h
  · cases ht : v.text s with
    | error e =>
        unfold view at h
        simp only [bind, Except.bind, ht] at h
        cases h
        exact View.text_error ht
    | ok str =>
        cases hv : v.released
        · unfold View.text View.preview View.head at ht
          simp [hv, hs, Storage.data, bind, Except.bind] at ht
        · obtain ⟨d, hd⟩ := view_released (s := s) hv
          rw [hd] at h
          cases h

theorem hostBuffer_ok (hv : v.released = false) (hs : s.released = false)
    (hp : problem v.shape v.strides v.itemSize s.len = none) (hlen : s.len < 2 ^ 62) :
    ∃ d, hostBuffer v s = .ok d := by
  obtain ⟨xs, hxs⟩ := View.head_ok hs (v := v) defaultPreview
  obtain ⟨d, hd⟩ := view_ok (fun _ => hs) hp hlen
  unfold hostBuffer bufferText View.preview
  simp [hv, hs, hxs, hd, Storage.data, bind, Except.bind, pure, Except.pure]

end Report

/-! ## What a session keeps -/

namespace Storage

theorem release_released_of_panic {s : Storage} {f : Fault} (h : s.release.2 = some f) :
    s.release.1.released = s.released := by
  unfold release at h ⊢
  dsimp only at h ⊢
  split_ifs at h ⊢
  simp_all

theorem unpin_released_of_panic {s : Storage} {f : Fault} (h : s.unpin.2 = some f) :
    s.unpin.1.released = s.released := by
  unfold unpin at h ⊢
  dsimp only at h ⊢
  split_ifs at h ⊢
  · rfl
  · exact release_released_of_panic h

end Storage

/-- Whether a request drops a reference or a pin: releasing a storage, a view, a descriptor
or a host buffer, and unpinning a storage. -/
def Request.dropsHold : Request → Bool
  | .releaseStorage _ | .unpin _ | .release _ | .descRelease _ | .bufRelease _ => true
  | _ => false

/-- Whether a request gives a view a new layout. -/
def Request.relayouts : Request → Bool
  | .reshape .. | .bufReshape .. => true
  | _ => false

namespace Bench

/-- Every storage of `b` is released in `b'` exactly when it is in `b`. -/
def KeepsReleased (b b' : Bench) : Prop :=
  ∀ i < b.storages.size, (b'.storageAt i).released = (b.storageAt i).released

/-- Every storage of `b` has the same references and pins in `b'`, and every view of `b` is
released in `b'` exactly when it is in `b`. -/
def KeepsHolds (b b' : Bench) : Prop :=
  (∀ i < b.storages.size, (b'.storageAt i).refs = (b.storageAt i).refs ∧
    (b'.storageAt i).exports = (b.storageAt i).exports) ∧
  ∀ (i : Nat) (v : View), b.views[i]? = some v →
    ∃ w : View, b'.views[i]? = some w ∧ w.released = v.released

/-- Every view of `b` has the same shape and strides in `b'`. -/
def KeepsLayouts (b b' : Bench) : Prop :=
  ∀ (i : Nat) (v : View), b.views[i]? = some v →
    ∃ w : View, b'.views[i]? = some w ∧ w.shape = v.shape ∧ w.strides = v.strides

/-- What request `r`, failing with `f`, keeps of session `b` in the session `b'` after it. -/
def FailureKeeps (r : Request) (f : Fault) (b b' : Bench) : Prop :=
  b.KeepsReleased b' ∧ (r.dropsHold = false → b.KeepsHolds b') ∧
    (r.relayouts = false ∨ f ≠ Storage.usePanic → b.KeepsLayouts b')

variable {b : Bench} {r : Request} {f : Fault}

theorem FailureKeeps.self : FailureKeeps r f b b :=
  ⟨fun _ _ => rfl, fun _ => ⟨fun _ _ => ⟨rfl, rfl⟩, fun _ v hv => ⟨v, hv, rfl⟩⟩,
    fun _ _ v hv => ⟨v, hv, rfl, rfl⟩⟩

theorem FailureKeeps.of_extends {b' : Bench}
    (hs : ∀ i < b.storages.size, b'.storageAt i = b.storageAt i)
    (hv : ∀ (i : Nat) (v : View), b.views[i]? = some v → b'.views[i]? = some v) :
    FailureKeeps r f b b' :=
  ⟨fun i hi => by rw [hs i hi], fun _ => ⟨fun i hi => by rw [hs i hi]; exact ⟨rfl, rfl⟩,
    fun i v h => ⟨v, hv i v h, rfl⟩⟩, fun _ i v h => ⟨v, hv i v h, rfl, rfl⟩⟩

theorem storageAt_len_lt (hsmall : ∀ s ∈ b.storages, s.len < 2 ^ 62) (i : Nat) :
    (b.storageAt i).len < 2 ^ 62 := by
  by_cases hi : i < b.storages.size
  · exact hsmall _ (by simp [storageAt, hi])
  · rw [storageAt_of_size_le b (by omega)]
    simp [Storage.len, Storage.ofBytes]

/-! ## The updates of a failed request -/

theorem FailureKeeps.setStorage {k : Nat} {s : Storage} (hr : r.dropsHold = true)
    (hs : s.released = (b.storageAt k).released) : FailureKeeps r f b (b.setStorage k s) :=
  ⟨fun i _ => released_setStorage hs i, fun h => by simp [hr] at h,
    fun _ i v hv => ⟨v, by simpa using hv, rfl, rfl⟩⟩

theorem FailureKeeps.setView {i : Nat} {v w : View} (hr : r.relayouts = true)
    (hf : f = Storage.usePanic) (hv : b.views[i]? = some v) (hw : w.released = v.released) :
    FailureKeeps r f b (b.setView i w) := by
  refine ⟨fun _ _ => rfl, fun _ => ⟨fun _ _ => ⟨rfl, rfl⟩, fun j u hu => ?_⟩, ?_⟩
  · by_cases hij : i = j
    · subst hij
      rw [hv] at hu
      cases hu
      exact ⟨w, by simp [(Array.getElem?_eq_some_iff.mp hv).1], hw⟩
    · exact ⟨u, by simp [hij, hu], rfl⟩
  · rintro (h | h)
    · simp [hr] at h
    · exact absurd hf h

theorem FailureKeeps.releaseView {i : Nat} {v : View} (hr : r.dropsHold = true)
    (hv : b.views[i]? = some v) (hf : (b.releaseView i v (b.storageAt v.storage)).2 = some f) :
    FailureKeeps r f b (b.releaseView i v (b.storageAt v.storage)).1 := by
  unfold Bench.releaseView View.release at hf ⊢
  cases hrel : v.released
  · simp only [hrel, Bool.false_eq_true, if_false] at hf ⊢
    refine ⟨fun j _ => ?_, fun h => by simp [hr] at h, fun _ j u hu => ?_⟩
    · rw [released_setStorage (by exact Storage.release_released_of_panic hf) j]
      rfl
    · by_cases hij : i = j
      · subst hij
        rw [hv] at hu
        cases hu
        exact ⟨{ v with released := true }, by simp [(Array.getElem?_eq_some_iff.mp hv).1], rfl, rfl⟩
      · exact ⟨u, by simp [hij, hu], rfl, rfl⟩
  · simp [hrel] at hf

theorem FailureKeeps.releaseDesc {i : Nat} {d : Descriptor} (hr : r.dropsHold = true)
    (hf : (d.release (b.storageAt d.storage)).2.2 = some f) :
    FailureKeeps r f b ((b.setDesc i (d.release (b.storageAt d.storage)).1).setStorage d.storage
      (d.release (b.storageAt d.storage)).2.1) := by
  unfold Descriptor.release at hf ⊢
  cases hrel : d.released
  · simp only [hrel, Bool.false_eq_true, if_false] at hf ⊢
    refine ⟨fun j _ => ?_, fun h => by simp [hr] at h, fun _ j u hu => ⟨u, by simpa using hu, rfl, rfl⟩⟩
    rw [released_setStorage (by exact Storage.unpin_released_of_panic hf) j]
    rfl
  · simp [hrel] at hf

theorem FailureKeeps.adopt {v : View} {s : Storage} (hv : v.storage = b.storages.size) :
    FailureKeeps r f b ((b.pushStorage s).addBuf v s).1 := by
  refine .of_extends (fun i hi => ?_) (fun i u hu => ?_)
  · change ((b.pushStorage s).setStorage v.storage s).storageAt i = b.storageAt i
    rw [storageAt_setStorage, if_neg (by omega), storageAt_pushStorage_of_lt _ _ hi]
  · simp [addBuf, Array.getElem?_push, (Array.getElem?_eq_some_iff.mp hu).1.ne, hu]

theorem FailureKeeps.push {v : View} {s : Storage} :
    FailureKeeps r f b { b with storages := b.storages.push s, views := b.views.push v } :=
  .of_extends (fun i hi => storageAt_pushStorage_of_lt b s hi)
    (fun i u hu => by simp [Array.getElem?_push, (Array.getElem?_eq_some_iff.mp hu).1.ne, hu])

/-! ## Requests that add objects -/

theorem FailureKeeps.addView_newView {t : Option (Nat × Storage)}
    (ht : ∀ i s, t = some (i, s) → b.storages[i]? = some s)
    (hsmall : ∀ s ∈ b.storages, s.len < 2 ^ 62) {shape : Shape} {strides : List Int64}
    {code : Int} (h : (b.addView (newView t shape strides code)).2 = .error f) :
    FailureKeeps r f b (b.addView (newView t shape strides code)).1 := by
  cases hn : newView t shape strides code with
  | error e => exact .self
  | ok p =>
      obtain ⟨v, s'⟩ := p
      obtain ⟨i, s, t', rfl, -, hp, hlive, rfl, rfl⟩ := newView_eq_ok hn
      have hlen := storageAt_len_lt hsmall i
      rw [storageAt_of_getElem? (ht i s rfl)] at hlen
      obtain ⟨d, hd⟩ := Report.view_ok (v := ⟨i, shape, strides, t', false⟩)
        (s := { s with refs := s.refs + 1 }) (fun _ => hlive) hp hlen
      simp [addView, hn, hd, Except.map] at h

theorem FailureKeeps.addView_clone {v : View} (hfit : b.ViewFits v)
    (hsmall : ∀ s ∈ b.storages, s.len < 2 ^ 62)
    (h : (b.addView (v.clone (b.storageAt v.storage))).2 = .error f) :
    FailureKeeps r f b (b.addView (v.clone (b.storageAt v.storage))).1 := by
  cases hc : v.clone (b.storageAt v.storage) with
  | error e => exact .self
  | ok p =>
      obtain ⟨w, s'⟩ := p
      obtain ⟨hlive, hs, rfl, rfl⟩ := View.clone_eq_ok hc
      obtain ⟨d, hd⟩ := Report.view_ok (v := w)
        (s := { b.storageAt w.storage with refs := (b.storageAt w.storage).refs + 1 })
        (fun _ => hs) hfit.2 (storageAt_len_lt hsmall _)
      simp [addView, hc, hd, Except.map] at h

theorem addBuf_clone_reports {v w : View} {s' : Storage} (hfit : b.ViewFits v)
    (hsmall : ∀ s ∈ b.storages, s.len < 2 ^ 62)
    (hc : v.clone (b.storageAt v.storage) = .ok (w, s')) : ∃ d, (b.addBuf w s').2 = .ok d := by
  obtain ⟨hlive, hs, rfl, rfl⟩ := View.clone_eq_ok hc
  obtain ⟨d, hd⟩ := Report.hostBuffer_ok
    (s := { b.storageAt w.storage with refs := (b.storageAt w.storage).refs + 1 })
    hlive hs hfit.2 (storageAt_len_lt hsmall _)
  dsimp only at hd
  simp only [addBuf, hd, Except.map]
  exact ⟨_, rfl⟩

theorem FailureKeeps.addDesc {made : Outcome (Descriptor × Storage)}
    (h : (b.addDesc made).2 = .error f) : FailureKeeps r f b (b.addDesc made).1 := by
  cases made with
  | error e => exact .self
  | ok p => simp [Bench.addDesc] at h

/-! ## Looking objects up -/

section Elim

variable {id : Int}

theorem FailureKeeps.withStorage {g : Nat → Storage → Step}
    (hg : ∀ i s, b.storages[i]? = some s → ∀ e, (g i s).2 = .error e → FailureKeeps r e b (g i s).1)
    (h : (b.withStorage id g).2 = .error f) : FailureKeeps r f b (b.withStorage id g).1 := by
  cases hl : lookup "storage" b.storages id with
  | error e =>
      simp only [Bench.withStorage, hl]
      exact .self
  | ok s =>
      simp only [Bench.withStorage, hl] at h ⊢
      exact hg _ _ (lookup_eq_ok hl) _ h

theorem FailureKeeps.withView {g : Nat → View → Storage → Step}
    (hg : ∀ i v, b.views[i]? = some v → ∀ e, (g i v (b.storageAt v.storage)).2 = .error e →
      FailureKeeps r e b (g i v (b.storageAt v.storage)).1)
    (h : (b.withView id g).2 = .error f) : FailureKeeps r f b (b.withView id g).1 := by
  cases hl : lookup "view" b.views id with
  | error e =>
      simp only [Bench.withView, hl]
      exact .self
  | ok v =>
      simp only [Bench.withView, hl] at h ⊢
      exact hg _ _ (lookup_eq_ok hl) _ h

theorem FailureKeeps.withDesc {g : Nat → Descriptor → Storage → Step}
    (hg : ∀ i d, b.descs[i]? = some d → ∀ e, (g i d (b.storageAt d.storage)).2 = .error e →
      FailureKeeps r e b (g i d (b.storageAt d.storage)).1)
    (h : (b.withDesc id g).2 = .error f) : FailureKeeps r f b (b.withDesc id g).1 := by
  cases hl : lookup "desc" b.descs id with
  | error e =>
      simp only [Bench.withDesc, hl]
      exact .self
  | ok d =>
      simp only [Bench.withDesc, hl] at h ⊢
      exact hg _ _ (lookup_eq_ok hl) _ h

theorem FailureKeeps.withBuf {g : Nat → View → Storage → Step}
    (hg : ∀ i v, b.views[i]? = some v → ∀ e, (g i v (b.storageAt v.storage)).2 = .error e →
      FailureKeeps r e b (g i v (b.storageAt v.storage)).1)
    (h : (b.withBuf id g).2 = .error f) : FailureKeeps r f b (b.withBuf id g).1 := by
  cases hl : lookup "buf" b.bufs id with
  | error e =>
      simp only [Bench.withBuf, hl]
      exact .self
  | ok vid =>
      simp only [Bench.withBuf, hl] at h ⊢
      exact .withView hg h

end Elim

theorem counted_error {i : Nat} {p : Storage × Option Fault} {e : Fault}
    (h : (b.counted i p).2 = .error e) : p.2 = some e := by
  unfold counted at h
  split at h
  · rename_i e' he'
    cases h
    exact he'
  · cases h

/-! ## Every failed request -/

/-- A request that fails on a reachable session whose storages are below `2^62` bytes
releases no storage and revives none. Unless it drops a reference or a pin, it keeps every
storage's references and pins and every view's released flag; and unless it is a reshape
whose report panics at a released storage, it keeps every view's shape and strides.

The requests that only read leave the session as it was, and so does every operation that
fails, since a session records only what succeeds; the reports of what succeeded cannot fail
but at the bytes of a released storage under a reshaped view. -/
theorem failed_request_keeps_session (hb : Reachable (fun _ => True) b)
    (hsmall : ∀ s ∈ b.storages, s.len < 2 ^ 62) (r : Request) (h : (b.step r).2 = .error f) :
    b.KeepsReleased (b.step r).1 ∧ (r.dropsHold = false → b.KeepsHolds (b.step r).1) ∧
      (r.relayouts = false ∨ f ≠ Storage.usePanic → b.KeepsLayouts (b.step r).1) := by
  show FailureKeeps r f b (b.step r).1
  have hfit := hb.layoutsFit
  cases r with
  | storage bytes => cases h
  | storageInfo id => exact .withStorage (fun _ _ _ _ _ => .self) h
  | storageBytes id => exact .withStorage (fun _ _ _ _ _ => .self) h
  | retain id =>
      refine .withStorage (fun i s _ e he => ?_) h
      cases hr : s.retain with
      | ok s' => simp [hr, counted] at he
      | error e' => exact .self
  | releaseStorage id =>
      refine .withStorage (fun i s hs e he => ?_) h
      rw [counted_fst]
      exact .setStorage rfl (by
        rw [Storage.release_released_of_panic (counted_error he), storageAt_of_getElem? hs])
  | pin id =>
      refine .withStorage (fun i s _ e he => ?_) h
      cases hr : s.pin with
      | ok s' => simp [hr, counted] at he
      | error e' => exact .self
  | unpin id =>
      refine .withStorage (fun i s hs e he => ?_) h
      rw [counted_fst]
      exact .setStorage rfl (by
        rw [Storage.unpin_released_of_panic (counted_error he), storageAt_of_getElem? hs])
  | view sid shape strides code =>
      cases ht : b.target sid with
      | error e' =>
          simp only [step, ht]
          exact .self
      | ok t =>
          simp only [step, ht] at h ⊢
          exact .addView_newView (target_eq_ok ht) hsmall h
  | contiguous sid shape code =>
      cases ht : b.target sid with
      | error e' =>
          simp only [step, ht]
          exact .self
      | ok t =>
          simp only [step, ht] at h ⊢
          cases hc : DataType.ofCode? code with
          | none =>
              simp only [newContiguous, hc]
              exact .self
          | some t' =>
              simp only [newContiguous, hc] at h ⊢
              exact .addView_newView (target_eq_ok ht) hsmall h
  | reshape id shape strides =>
      refine .withView (fun i v hv e he => ?_) h
      cases hr : v.reshape (b.storageAt v.storage) shape strides with
      | error e' => exact .self
      | ok w =>
          simp only [hr] at he ⊢
          obtain ⟨-, hp, rfl⟩ := View.reshape_eq_ok hr
          exact .setView rfl (Report.view_error hp (storageAt_len_lt hsmall _) he) hv rfl
  | element id indices => exact .withView (fun _ _ _ _ _ => .self) h
  | offset id indices => exact .withView (fun _ _ _ _ _ => .self) h
  | head id limit => exact .withView (fun _ _ _ _ _ => .self) h
  | preview id limit => exact .withView (fun _ _ _ _ _ => .self) h
  | text id => exact .withView (fun _ _ _ _ _ => .self) h
  | info id => exact .withView (fun _ _ _ _ _ => .self) h
  | clone id =>
      exact .withView
        (fun i v hv e he => .addView_clone (hfit.views v (Array.mem_of_getElem? hv)) hsmall he) h
  | release id =>
      refine .withView (fun i v hv e he => ?_) h
      dsimp only at he ⊢
      cases hr : (b.releaseView i v (b.storageAt v.storage)).2 with
      | some e' =>
          simp only [hr] at he ⊢
          cases he
          exact .releaseView rfl hv hr
      | none =>
          simp only [hr] at he
          obtain ⟨d, hd⟩ := Report.view_released
            (s := (b.releaseView i v (b.storageAt v.storage)).1.storageOf v)
            (show ({ v with released := true } : View).released = true from rfl)
          simp [hd] at he
  | exportView id flags => exact .withView (fun _ _ _ _ he => .addDesc he) h
  | descInfo id => exact .withDesc (fun _ _ _ _ _ => .self) h
  | descRaw id => exact .withDesc (fun _ _ _ _ _ => .self) h
  | descOffset id indices => exact .withDesc (fun _ _ _ _ _ => .self) h
  | descWrite id off bytes =>
      refine .withDesc (fun i d hd e he => ?_) h
      dsimp only at he ⊢
      split at he
      · rename_i hc
        rw [if_pos hc]
        exact .self
      · -- a write within the window succeeds
        split at he <;> cases he
  | descRelease id =>
      refine .withDesc (fun i d hd e he => ?_) h
      dsimp only at he ⊢
      cases hr : (d.release (b.storageAt d.storage)).2.2 with
      | some e' =>
          simp only [hr] at he ⊢
          cases he
          exact .releaseDesc rfl hr
      | none => simp [hr] at he
  | construct data shape strides format =>
      cases hc : StridedBuffer.construct data shape strides format b.storages.size with
      | error e' =>
          simp only [step, hc]
          exact .self
      | ok p =>
          obtain ⟨v, s⟩ := p
          simp only [step, hc]
          exact .adopt (construct_fresh hc).storage
  | wrap id =>
      refine .withView (fun i v hv e he => ?_) h
      cases hc : v.clone (b.storageAt v.storage) with
      | error e' => exact .self
      | ok p =>
          obtain ⟨w, s'⟩ := p
          obtain ⟨d, hd⟩ := addBuf_clone_reports (hfit.views v (Array.mem_of_getElem? hv)) hsmall hc
          simp only [hc, hd] at he
          cases he
  | bufText id => exact .withBuf (fun _ _ _ _ _ => .self) h
  | bufReshape id shape strides =>
      refine .withBuf (fun i v hv e he => ?_) h
      cases hr : v.reshape (b.storageAt v.storage) shape strides with
      | error e' => exact .self
      | ok w =>
          simp only [hr] at he ⊢
          obtain ⟨-, -, rfl⟩ := View.reshape_eq_ok hr
          cases ht : bufferText { v with shape := shape, strides := strides }
              (b.storageAt v.storage) with
          | error e' =>
              simp only [ht, Except.map] at he
              cases he
              exact .setView rfl (bufferText_error ht) hv rfl
          | ok str => simp [ht, Except.map] at he
  | bufGet id flags => exact .withBuf (fun _ _ _ _ he => .addDesc he) h
  | bufRelease id =>
      refine .withBuf (fun i v hv e he => ?_) h
      dsimp only at he ⊢
      cases hr : (b.releaseView i v (b.storageAt v.storage)).2 with
      | some e' =>
          simp only [hr] at he ⊢
          cases he
          exact .releaseView rfl hv hr
      | none =>
          simp [hr, bufferText_released, Except.map] at he
  | write id opts => exact .withView (fun _ _ _ _ _ => .self) h
  | read file skip level =>
      cases hr : Snapshot.read ⟨file, none⟩ skip level b.storages.size with
      | error e' =>
          simp only [step, hr]
          exact .self
      | ok p =>
          obtain ⟨v, s, hh⟩ := p
          simp only [step, hr]
          exact .push
  | idx data =>
      cases hr : Dataset.parseIdx data b.storages.size with
      | error e' =>
          simp only [step, hr]
          exact .self
      | ok p =>
          obtain ⟨v, s⟩ := p
          simp only [step, hr]
          exact .push

/-- A storage that nothing holds, released once: the release panics. -/
theorem failed_request_keeps_session_release :
    let b := (({} : Bench).step (.storage ⟨#[0]⟩)).1
    Reachable (fun _ => True) b ∧ (∀ s ∈ b.storages, s.len < 2 ^ 62) ∧
      (b.step (.releaseStorage 0)).2 =
        .error (.panic "tensor: storage released more times than retained") ∧
      b.KeepsReleased (b.step (.releaseStorage 0)).1 ∧
      ((Request.releaseStorage 0).dropsHold = false → b.KeepsHolds (b.step (.releaseStorage 0)).1) ∧
      ((Request.releaseStorage 0).relayouts = false ∨
          Fault.panic "tensor: storage released more times than retained" ≠ Storage.usePanic →
        b.KeepsLayouts (b.step (.releaseStorage 0)).1) := by
  intro b
  have hb : Reachable (fun _ => True) b := .step .empty trivial
  have hsmall : ∀ s ∈ b.storages, s.len < 2 ^ 62 := by
    intro s hs
    have hst : b.storages = #[Storage.ofBytes ⟨#[0]⟩] := rfl
    rw [hst, Array.mem_singleton] at hs
    subst hs
    change 1 < 2 ^ 62
    norm_num
  have hf : (b.step (.releaseStorage 0)).2 =
      .error (.panic "tensor: storage released more times than retained") := rfl
  exact ⟨hb, hsmall, hf, failed_request_keeps_session hb hsmall _ hf⟩

/-- Releasing a storage that nothing holds panics and leaves its reference count at minus
one: the release counts down before it checks. -/
theorem storage_release_panic_keeps_decrement :
    let b := (({} : Bench).step (.storage ⟨#[0]⟩)).1
    (b.step (.releaseStorage 0)).2 =
        .error (.panic "tensor: storage released more times than retained") ∧
      (b.storageAt 0).refs = 0 ∧ ((b.step (.releaseStorage 0)).1.storageAt 0).refs = -1 :=
  ⟨rfl, rfl, rfl⟩

end Bench

end StridedBuffer
