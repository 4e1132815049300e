import Mathlib
import StridedBuffer.Proofs.SessionStep

/-! # Storages count their holders

Along every run of fewer than `2^31` requests that reach storages only through views and
descriptors, a storage's reference count is the number of its live views and live
descriptors, its pin count is the number of its live descriptors, and it is released
exactly when it has been viewed and no reference is left. A storage is released at most
once, at the request that drops its last holder; so a live view or descriptor always lies
over a live storage. Each request adds at most one holder, so such a run stays below the
range of the 32-bit counters; at `2^31` holders the reference count wraps negative.
-/

namespace StridedBuffer

namespace Storage

theorem toInt_add_one {x : Int32} (h : x.toInt < 2 ^ 31 - 1) : (x + 1).toInt = x.toInt + 1 := by
  rw [Int32.toInt_add, Int32.toInt_one]
  have := x.le_toInt
  apply Int.bmod_eq_of_le <;> omega

theorem toInt_sub_one {x : Int32} (h : 0 < x.toInt) : (x - 1).toInt = x.toInt - 1 := by
  rw [Int32.toInt_sub, Int32.toInt_one]
  have := x.toInt_lt
  apply Int.bmod_eq_of_le <;> omega

theorem eq_zero_iff_toInt {x : Int32} : x = 0 ↔ x.toInt = 0 := by
  rw [← Int32.toInt_inj, Int32.toInt_zero]

theorem release_refs (s : Storage) : s.release.1.refs = s.refs - 1 := by
  unfold release
  dsimp only
  split
  · rfl
  · split <;> rfl

theorem release_exports (s : Storage) : s.release.1.exports = s.exports := by
  unfold release
  dsimp only
  split
  · rfl
  · split <;> rfl

theorem release_released (s : Storage) :
    s.release.1.released = (s.released || decide (s.refs - 1 = 0)) := by
  unfold release
  dsimp only
  split
  · rename_i hneg
    have hne : s.refs - 1 ≠ 0 := fun hz => by rw [hz] at hneg; exact absurd hneg (by decide)
    simp [hne]
  · split
    · simp_all
    · simp_all

theorem release_of_pos {s : Storage} (hpos : 0 < s.refs.toInt) (hl : s.released = false) :
    s.release.1.refs.toInt = s.refs.toInt - 1 ∧ s.release.1.exports = s.exports ∧
      (s.release.1.released = true ↔ s.refs.toInt = 1) := by
  have hsub := toInt_sub_one hpos
  refine ⟨by rw [release_refs, hsub], release_exports s, ?_⟩
  rw [release_released, hl, Bool.false_or, decide_eq_true_eq, eq_zero_iff_toInt, hsub]
  omega

theorem unpin_of_pos {s : Storage} (h : 0 < s.exports.toInt) :
    s.unpin.1 = { s with exports := s.exports - 1 }.release.1 := by
  unfold unpin
  dsimp only
  rw [if_neg]
  rw [Int32.lt_iff_toInt_lt, toInt_sub_one h, Int32.toInt_zero]
  omega

end Storage

theorem countP_setIfInBounds_add {α : Type} {p : α → Bool} {xs : Array α} {k : Nat} {x : α}
    (h : xs[k]? = some x) (y : α) :
    (xs.setIfInBounds k y).countP p + (if p x then 1 else 0) =
      xs.countP p + (if p y then 1 else 0) := by
  obtain ⟨hk, rfl⟩ := Array.getElem?_eq_some_iff.mp h
  have hle := Array.boole_getElem_le_countP (p := p) hk
  rw [Array.setIfInBounds_def, dif_pos hk, Array.countP_set hk]
  omega

/-! ## Operations on a live storage

Only the storage's own accessors report a use after release; every other failure of an
operation on a view has a fault of its own.
-/

namespace View

theorem ne_usePanic_of_length {m : String} (h : m.length ≠ 31) :
    Fault.panic m ≠ Storage.usePanic := by
  intro he
  unfold Storage.usePanic at he
  injection he with he
  exact h (by rw [he]; decide)

section Live

variable {v : View} {s : Storage} (hs : s.released = false)
include hs

theorem element_ne_usePanic (idx : List Int64) : v.element s idx ≠ .error Storage.usePanic := by
  unfold element View.offset
  simp only [bind, Except.bind, pure, Except.pure, throw, throwThe, MonadExceptOf.throw,
    Storage.data, hs]
  split
  · simp [Storage.usePanic]
  · cases Layout.offset v.shape v.strides idx with
    | error e => simp [Storage.usePanic]
    | ok o =>
        simp only [Bool.false_eq_true, if_false]
        split
        · intro he
          refine ne_usePanic_of_length ?_ (Except.error.inj he)
          have h₁ : "tensor: element at byte ".length = 24 := by decide
          have h₂ : " outside storage of ".length = 20 := by decide
          have h₃ : " bytes".length = 6 := by decide
          simp only [String.length_append, h₁, h₂, h₃]
          omega
        · simp

theorem head_ok (limit : Int) : ∃ xs, v.head s limit = .ok xs := by
  unfold head
  simp only [bind, Except.bind, pure, Except.pure, Storage.data, hs]
  split <;> simp

theorem text_ok : ∃ t, v.text s = .ok t := by
  obtain ⟨xs, hxs⟩ := head_ok hs (v := v) defaultPreview
  unfold text preview
  simp only [bind, Except.bind, pure, Except.pure, hxs]
  split <;> simp

theorem clone_ne_usePanic : v.clone s ≠ .error Storage.usePanic := by
  unfold clone
  simp only [bind, Except.bind, pure, Except.pure, throw, throwThe, MonadExceptOf.throw,
    Storage.retain, hs]
  split
  · intro he
    exact ne_usePanic_of_length (by decide) (Except.error.inj he)
  · simp

end Live

end View

section Live

variable {v : View} {s : Storage} (hs : s.released = false)
include hs

theorem exportView_ne_usePanic (flags : Flags) : exportView v s flags ≠ .error Storage.usePanic := by
  unfold exportView
  simp only [bind, Except.bind, pure, Except.pure, throw, throwThe, MonadExceptOf.throw,
    Storage.pin, Storage.retain, hs]
  split
  · simp [Storage.usePanic]
  · split <;> simp [Storage.usePanic]

theorem write_ne_usePanic (opts : Snapshot.WriteOptions) (now : Clock.Instant) :
    Snapshot.write v s opts now ≠ .error Storage.usePanic := by
  unfold Snapshot.write
  simp only [bind, Except.bind, pure, Except.pure, throw, throwThe, MonadExceptOf.throw,
    Storage.data, hs]
  split
  · simp [Storage.usePanic]
  · simp only [Bool.false_eq_true, if_false]
    split
    · simp [Storage.usePanic]
    · split
      · split
        · simp [Storage.usePanic]
        · split
          · simp [Storage.usePanic]
          · split <;> simp [Storage.usePanic]
      · simp

end Live

namespace Bench

/-- The views over storage `i`, live or released. -/
def viewsOver (b : Bench) (i : Nat) : Nat := b.views.countP fun v => v.storage == i

def liveViews (b : Bench) (i : Nat) : Nat :=
  b.views.countP fun v => v.storage == i && !v.released

def liveDescs (b : Bench) (i : Nat) : Nat :=
  b.descs.countP fun d => d.storage == i && !d.released

/-- A storage that counts its holders: a reference for each live view and descriptor, a
pin for each live descriptor, and released exactly when it has been viewed and no
reference is left. -/
def Counts (s : Storage) (views descs viewed : Nat) : Prop :=
  s.refs.toInt = (views + descs : Nat) ∧ s.exports.toInt = (descs : Nat) ∧
    (s.released = true ↔ 0 < viewed ∧ views + descs = 0)

def CountsAt (b : Bench) (i : Nat) : Prop :=
  Counts (b.storageAt i) (b.liveViews i) (b.liveDescs i) (b.viewsOver i)

/-- Every storage counts its holders, and every view and descriptor lies over a storage of
the session that has been viewed. -/
structure HoldersCounted (b : Bench) : Prop where
  views_in : ∀ v ∈ b.views, v.storage < b.storages.size
  descs_in : ∀ d ∈ b.descs, d.storage < b.storages.size
  descs_viewed : ∀ d ∈ b.descs, 0 < b.viewsOver d.storage
  counts : ∀ i, b.CountsAt i

/-! ## Counting -/

section Counting

variable {b b' : Bench} {i : Nat}

theorem viewsOver_of_views (h : b'.views = b.views) : b'.viewsOver i = b.viewsOver i := by
  simp [viewsOver, h]

theorem liveViews_of_views (h : b'.views = b.views) : b'.liveViews i = b.liveViews i := by
  simp [liveViews, h]

theorem liveDescs_of_descs (h : b'.descs = b.descs) : b'.liveDescs i = b.liveDescs i := by
  simp [liveDescs, h]

theorem viewsOver_pushView (v : View) :
    (b.pushView v).viewsOver i = b.viewsOver i + if v.storage = i then 1 else 0 := by
  simp [viewsOver, Array.countP_push]

theorem liveViews_pushView (v : View) :
    (b.pushView v).liveViews i =
      b.liveViews i + if v.storage = i ∧ v.released = false then 1 else 0 := by
  simp [liveViews, Array.countP_push]

theorem liveDescs_pushDesc (d : Descriptor) :
    (b.pushDesc d).liveDescs i =
      b.liveDescs i + if d.storage = i ∧ d.released = false then 1 else 0 := by
  simp [liveDescs, Array.countP_push]

variable {k : Nat}

theorem viewsOver_setView {v : View} (hv : b.views[k]? = some v) {w : View}
    (hw : w.storage = v.storage) : (b.setView k w).viewsOver i = b.viewsOver i := by
  have := countP_setIfInBounds_add (p := fun v => v.storage == i) hv w
  simp only [hw] at this
  simpa [viewsOver] using this

theorem liveViews_setView {v : View} (hv : b.views[k]? = some v) (w : View) :
    (b.setView k w).liveViews i + (if v.storage = i ∧ v.released = false then 1 else 0) =
      b.liveViews i + if w.storage = i ∧ w.released = false then 1 else 0 := by
  simpa [liveViews] using countP_setIfInBounds_add (p := fun v => v.storage == i && !v.released) hv w

theorem liveDescs_setDesc {d : Descriptor} (hd : b.descs[k]? = some d) (e : Descriptor) :
    (b.setDesc k e).liveDescs i + (if d.storage = i ∧ d.released = false then 1 else 0) =
      b.liveDescs i + if e.storage = i ∧ e.released = false then 1 else 0 := by
  simpa [liveDescs] using countP_setIfInBounds_add (p := fun d => d.storage == i && !d.released) hd e

theorem viewsOver_pos {v : View} (hv : v ∈ b.views) : 0 < b.viewsOver v.storage :=
  Array.countP_pos_iff.mpr ⟨v, hv, by simp⟩

theorem liveViews_pos {v : View} (hv : v ∈ b.views) (hl : v.released = false) :
    0 < b.liveViews v.storage :=
  Array.countP_pos_iff.mpr ⟨v, hv, by simp [hl]⟩

theorem liveDescs_pos {d : Descriptor} (hd : d ∈ b.descs) (hl : d.released = false) :
    0 < b.liveDescs d.storage :=
  Array.countP_pos_iff.mpr ⟨d, hd, by simp [hl]⟩

end Counting

/-! ## Storages past the end and fresh storages -/

section Fresh

variable {b : Bench} (h : b.HoldersCounted)
include h

theorem HoldersCounted.viewsOver_size : b.viewsOver b.storages.size = 0 :=
  Array.countP_eq_zero.mpr fun v hv => by simpa using Nat.ne_of_lt (h.views_in v hv)

theorem HoldersCounted.liveViews_size : b.liveViews b.storages.size = 0 :=
  Array.countP_eq_zero.mpr fun v hv => by simp [Nat.ne_of_lt (h.views_in v hv)]

theorem HoldersCounted.liveDescs_size : b.liveDescs b.storages.size = 0 :=
  Array.countP_eq_zero.mpr fun d hd => by simp [Nat.ne_of_lt (h.descs_in d hd)]

theorem HoldersCounted.pushStorage {s : Storage} (hr : s.refs = 0) (he : s.exports = 0)
    (hl : s.released = false) : (b.pushStorage s).HoldersCounted := by
  refine ⟨fun v hv => ?_, fun d hd => ?_, fun d hd => ?_, fun i => ?_⟩
  · have := h.views_in v hv
    simp only [size_pushStorage]
    omega
  · have := h.descs_in d hd
    simp only [size_pushStorage]
    omega
  · rw [viewsOver_of_views (pushStorage_views b s)]
    exact h.descs_viewed d hd
  · unfold CountsAt
    rw [viewsOver_of_views (pushStorage_views b s), liveViews_of_views (pushStorage_views b s),
      liveDescs_of_descs (pushStorage_descs b s), storageAt_pushStorage]
    split
    · rename_i hi
      subst hi
      rw [h.viewsOver_size, h.liveViews_size, h.liveDescs_size]
      simp [Counts, hr, he, hl]
    · exact h.counts i

theorem HoldersCounted.adopt {v : View} {s : Storage} (hv : FreshView b.storages.size v s) :
    ((b.pushStorage s).pushView v).HoldersCounted := by
  refine ⟨fun w hw => ?_, fun d hd => ?_, fun d hd => ?_, fun i => ?_⟩
  · rcases Array.mem_push.mp hw with hw | rfl
    · have := h.views_in w hw
      simp only [pushView_storages, size_pushStorage]
      omega
    · simp [hv.storage]
  · have := h.descs_in d hd
    simp only [pushView_storages, size_pushStorage]
    omega
  · rw [viewsOver_pushView, viewsOver_of_views (pushStorage_views b s)]
    have := h.descs_viewed d hd
    omega
  · unfold CountsAt
    rw [viewsOver_pushView, liveViews_pushView, viewsOver_of_views (pushStorage_views b s),
      liveViews_of_views (pushStorage_views b s), liveDescs_of_descs (pushView_descs _ v),
      liveDescs_of_descs (pushStorage_descs b s), storageAt_pushView, storageAt_pushStorage,
      hv.storage]
    split
    · rename_i hi
      subst hi
      rw [h.viewsOver_size, h.liveViews_size, h.liveDescs_size]
      simp [Counts, hv.refs, hv.exports, hv.storage_live, hv.live]
    · rename_i hi
      have hne : ¬ b.storages.size = i := fun h => hi h.symm
      simpa [hne, CountsAt] using h.counts i

end Fresh

/-! ## Each move keeps the count -/

theorem CountsAt.frame {b b' : Bench} {i : Nat} (h : b.CountsAt i)
    (hs : b'.storageAt i = b.storageAt i) (hv : b'.liveViews i = b.liveViews i)
    (hd : b'.liveDescs i = b.liveDescs i) (ho : b'.viewsOver i = b.viewsOver i) :
    b'.CountsAt i := by
  unfold CountsAt
  rw [hs, hv, hd, ho]
  exact h

theorem storageAt_setStorage_of_lt {b : Bench} {k : Nat} (hk : k < b.storages.size)
    (s : Storage) (i : Nat) :
    (b.setStorage k s).storageAt i = if k = i then s else b.storageAt i := by
  simp [storageAt_setStorage, hk]

theorem HoldersCounted.live_of_holder {b : Bench} (h : b.HoldersCounted) {i : Nat}
    (hpos : 0 < b.liveViews i + b.liveDescs i) : (b.storageAt i).released = false := by
  obtain ⟨-, -, hrel⟩ := h.counts i
  cases hs : (b.storageAt i).released
  · rfl
  · have := (hrel.mp hs).2
    omega

theorem HoldersCounted.live_of_view {b : Bench} (h : b.HoldersCounted) {v : View}
    (hv : v ∈ b.views) (hlive : v.released = false) :
    (b.storageAt v.storage).released = false :=
  h.live_of_holder (by have := liveViews_pos hv hlive; omega)

theorem HoldersCounted.live_of_desc {b : Bench} (h : b.HoldersCounted) {d : Descriptor}
    (hd : d ∈ b.descs) (hlive : d.released = false) :
    (b.storageAt d.storage).released = false :=
  h.live_of_holder (by have := liveDescs_pos hd hlive; omega)

section Moves

variable {b : Bench} (h : b.HoldersCounted)
include h

theorem HoldersCounted.setView {k : Nat} {v w : View} (hv : b.views[k]? = some v)
    (hs : w.storage = v.storage) (hr : w.released = v.released) :
    (b.setView k w).HoldersCounted := by
  have hviews : ∀ i, (b.setView k w).liveViews i = b.liveViews i := fun i => by
    have := liveViews_setView (i := i) hv w
    rw [hs, hr] at this
    omega
  refine ⟨fun u hu => ?_, h.descs_in, fun d hd => ?_, fun i => ?_⟩
  · rcases Array.mem_or_eq_of_mem_setIfInBounds hu with hu | rfl
    · exact h.views_in u hu
    · rw [hs]
      exact h.views_in v (Array.mem_of_getElem? hv)
  · rw [viewsOver_setView hv hs]
    exact h.descs_viewed d hd
  · exact (h.counts i).frame rfl (hviews i) rfl (viewsOver_setView hv hs)

theorem HoldersCounted.attach {v : View} (hlive : v.released = false)
    (hs : (b.storageAt v.storage).released = false) (hk : v.storage < b.storages.size)
    (hroom : b.liveViews v.storage + b.liveDescs v.storage < 2 ^ 31 - 1) :
    ((b.setStorage v.storage
      { b.storageAt v.storage with refs := (b.storageAt v.storage).refs + 1 }).pushView v
      ).HoldersCounted := by
  refine ⟨fun w hw => ?_, fun d hd => ?_, fun d hd => ?_, fun i => ?_⟩
  · rcases Array.mem_push.mp hw with hw | rfl
    · simpa using h.views_in w hw
    · simpa using hk
  · simpa using h.descs_in d hd
  · rw [viewsOver_pushView, viewsOver_of_views (setStorage_views _ _ _)]
    have := h.descs_viewed d hd
    omega
  · unfold CountsAt
    rw [viewsOver_pushView, liveViews_pushView, viewsOver_of_views (setStorage_views _ _ _),
      liveViews_of_views (setStorage_views _ _ _), liveDescs_of_descs (pushView_descs _ _),
      liveDescs_of_descs (setStorage_descs _ _ _), storageAt_pushView,
      storageAt_setStorage_of_lt hk]
    by_cases hi : v.storage = i
    · subst hi
      obtain ⟨hr, he, -⟩ := h.counts v.storage
      simp only [Counts, hlive, and_self, if_true, hs, Bool.false_eq_true, false_iff, not_and]
      refine ⟨?_, he, fun _ => by omega⟩
      rw [Storage.toInt_add_one (by rw [hr]; omega), hr]
      omega
    · simpa [hi, CountsAt] using h.counts i

theorem HoldersCounted.detach {k : Nat} {v : View} (hv : b.views[k]? = some v)
    (hlive : v.released = false) :
    ((b.setView k { v with released := true }).setStorage v.storage
      (b.storageAt v.storage).release.1).HoldersCounted := by
  have hmem := Array.mem_of_getElem? hv
  have hk := h.views_in v hmem
  have hover : ∀ i, (b.setView k { v with released := true }).viewsOver i = b.viewsOver i :=
    fun i => viewsOver_setView hv rfl
  refine ⟨fun u hu => ?_, fun d hd => by simpa using h.descs_in d hd, fun d hd => ?_,
    fun i => ?_⟩
  · rcases Array.mem_or_eq_of_mem_setIfInBounds hu with hu | rfl
    · simpa using h.views_in u hu
    · simpa using hk
  · rw [viewsOver_of_views (setStorage_views _ _ _), hover]
    exact h.descs_viewed d hd
  · have hcount := liveViews_setView (i := i) hv { v with released := true }
    unfold CountsAt
    rw [viewsOver_of_views (setStorage_views _ _ _), hover,
      liveViews_of_views (setStorage_views _ _ _), liveDescs_of_descs (setStorage_descs _ _ _),
      liveDescs_of_descs (setView_descs _ _ _), storageAt_setStorage_of_lt (by simpa using hk),
      storageAt_setView]
    by_cases hi : v.storage = i
    · subst hi
      obtain ⟨hr, he, -⟩ := h.counts v.storage
      simp only [hlive, and_self, if_true, Bool.true_eq_false, and_false, if_false] at hcount
      have hpos := viewsOver_pos hmem
      have hheld := liveViews_pos hmem hlive
      obtain ⟨hr', he', hrel'⟩ :=
        Storage.release_of_pos (by rw [hr]; omega) (h.live_of_view hmem hlive)
      simp only [if_true, Counts, hr', he', hrel', hr]
      refine ⟨by omega, he, by omega⟩
    · simp [hi] at hcount
      simpa [hi, hcount, CountsAt] using h.counts i

theorem HoldersCounted.exportView {v : View} {d : Descriptor} (hv : v ∈ b.views)
    (hs : (b.storageAt v.storage).released = false) (hd : d.storage = v.storage)
    (hdl : d.released = false)
    (hroom : b.liveViews v.storage + b.liveDescs v.storage < 2 ^ 31 - 1) :
    ((b.setStorage v.storage { b.storageAt v.storage with
      refs := (b.storageAt v.storage).refs + 1
      exports := (b.storageAt v.storage).exports + 1 }).pushDesc d).HoldersCounted := by
  have hk := h.views_in v hv
  refine ⟨fun w hw => by simpa using h.views_in w hw, fun e he => ?_, fun e he => ?_,
    fun i => ?_⟩
  · rcases Array.mem_push.mp he with he | rfl
    · simpa using h.descs_in e he
    · simpa [hd] using hk
  · rw [viewsOver_of_views (pushDesc_views _ _), viewsOver_of_views (setStorage_views _ _ _)]
    rcases Array.mem_push.mp he with he | rfl
    · exact h.descs_viewed e he
    · rw [hd]
      exact viewsOver_pos hv
  · unfold CountsAt
    rw [viewsOver_of_views (pushDesc_views _ _), viewsOver_of_views (setStorage_views _ _ _),
      liveViews_of_views (pushDesc_views _ _), liveViews_of_views (setStorage_views _ _ _),
      liveDescs_pushDesc, liveDescs_of_descs (setStorage_descs _ _ _), storageAt_pushDesc,
      storageAt_setStorage_of_lt hk, hd]
    by_cases hi : v.storage = i
    · subst hi
      obtain ⟨hr, he, -⟩ := h.counts v.storage
      simp only [Counts, hdl, and_self, if_true, hs, Bool.false_eq_true, false_iff, not_and]
      refine ⟨?_, ?_, fun _ => by omega⟩
      · rw [Storage.toInt_add_one (by rw [hr]; omega), hr]
        omega
      · rw [Storage.toInt_add_one (by rw [he]; omega), he]
        omega
    · simpa [hi, CountsAt] using h.counts i

theorem HoldersCounted.write {k : Nat} {bytes : ByteArray} :
    (b.setStorage k { b.storageAt k with bytes := bytes }).HoldersCounted := by
  refine ⟨fun w hw => by simpa using h.views_in w hw, fun d hd => by simpa using h.descs_in d hd,
    fun d hd => by simpa [viewsOver_of_views (setStorage_views _ _ _)] using h.descs_viewed d hd,
    fun i => ?_⟩
  unfold CountsAt
  rw [viewsOver_of_views (setStorage_views _ _ _), liveViews_of_views (setStorage_views _ _ _),
    liveDescs_of_descs (setStorage_descs _ _ _), storageAt_setStorage]
  split
  · rename_i hki
    obtain ⟨rfl, -⟩ := hki
    exact h.counts k
  · exact h.counts i

theorem HoldersCounted.unexport {k : Nat} {d : Descriptor} (hd : b.descs[k]? = some d)
    (hlive : d.released = false) :
    ((b.setDesc k { d with released := true, len := 0, ndim := 0, shape := [], strides := [] }
      ).setStorage d.storage (b.storageAt d.storage).unpin.1).HoldersCounted := by
  have hmem := Array.mem_of_getElem? hd
  have hk := h.descs_in d hmem
  refine ⟨fun w hw => by simpa using h.views_in w hw, fun e he => ?_, fun e he => ?_,
    fun i => ?_⟩
  · rcases Array.mem_or_eq_of_mem_setIfInBounds he with he | rfl
    · simpa using h.descs_in e he
    · simpa using hk
  · rw [viewsOver_of_views (setStorage_views _ _ _), viewsOver_of_views (setDesc_views _ _ _)]
    rcases Array.mem_or_eq_of_mem_setIfInBounds he with he | rfl
    · exact h.descs_viewed e he
    · exact h.descs_viewed d hmem
  · have hcount := liveDescs_setDesc (i := i) hd
      { d with released := true, len := 0, ndim := 0, shape := [], strides := [] }
    unfold CountsAt
    rw [viewsOver_of_views (setStorage_views _ _ _), viewsOver_of_views (setDesc_views _ _ _),
      liveViews_of_views (setStorage_views _ _ _), liveViews_of_views (setDesc_views _ _ _),
      liveDescs_of_descs (setStorage_descs _ _ _), storageAt_setStorage_of_lt (by simpa using hk),
      storageAt_setDesc]
    by_cases hi : d.storage = i
    · subst hi
      obtain ⟨hr, he, -⟩ := h.counts d.storage
      simp only [hlive, and_self, if_true, Bool.true_eq_false, and_false, if_false] at hcount
      have hpos := h.descs_viewed d hmem
      have hheld := liveDescs_pos hmem hlive
      rw [if_pos rfl, Storage.unpin_of_pos (by rw [he]; omega)]
      obtain ⟨hr', he', hrel'⟩ := Storage.release_of_pos
        (s := { b.storageAt d.storage with exports := (b.storageAt d.storage).exports - 1 })
        (by rw [hr]; omega) (h.live_of_desc hmem hlive)
      simp only [Counts, hr', he', hrel', hr, Storage.toInt_sub_one (show 0 < _ by rw [he]; omega),
        he]
      refine ⟨by omega, by omega, by omega⟩
    · simp [hi] at hcount
      simpa [hi, hcount, CountsAt] using h.counts i

theorem HoldersCounted.pushBuf (n : Nat) : (b.pushBuf n).HoldersCounted :=
  ⟨h.views_in, h.descs_in, h.descs_viewed, h.counts⟩

end Moves

/-! ## Steps and runs -/

theorem HoldersCounted.move {b b' : Bench} (h : b.HoldersCounted) (hm : Move b b')
    (hroom : ∀ i, b.liveViews i + b.liveDescs i < 2 ^ 31 - 1) : b'.HoldersCounted := by
  induction hm with
  | stay => exact h
  | fresh bytes => exact h.pushStorage rfl rfl rfl
  | attach hlive hs hfits =>
      exact h.attach hlive hs (hfits.elim (·.1) (h.views_in _)) (hroom _)
  | relayout hv _ _ => exact h.setView hv rfl rfl
  | detach hv hlive => exact h.detach hv hlive
  | exportView hv _ hs hd => exact h.exportView hv hs hd.1 hd.2.1 (hroom _)
  | write _ => exact h.write
  | unexport hd hlive => exact h.unexport hd hlive
  | adopt hv => exact h.adopt hv
  | buf n _ ih => exact ih.pushBuf n

theorem Move.holders_le {b b' : Bench} (hm : Move b b') (i : Nat) :
    b'.liveViews i + b'.liveDescs i ≤ b.liveViews i + b.liveDescs i + 1 := by
  induction hm with
  | stay => omega
  | fresh bytes =>
      rw [liveViews_of_views (pushStorage_views _ _), liveDescs_of_descs (pushStorage_descs _ _)]
      omega
  | attach =>
      rw [liveViews_pushView, liveViews_of_views (setStorage_views _ _ _),
        liveDescs_of_descs (pushView_descs _ _), liveDescs_of_descs (setStorage_descs _ _ _)]
      split <;> omega
  | @relayout k v shape strides hv _ _ =>
      have := liveViews_setView (i := i) hv { v with shape := shape, strides := strides }
      dsimp only at this
      rw [liveDescs_of_descs (setView_descs _ _ _)]
      omega
  | @detach k v hv _ =>
      have := liveViews_setView (i := i) hv { v with released := true }
      rw [liveViews_of_views (setStorage_views _ _ _), liveDescs_of_descs (setStorage_descs _ _ _),
        liveDescs_of_descs (setView_descs _ _ _)]
      simp only [Bool.true_eq_false, and_false, if_false] at this
      omega
  | exportView =>
      rw [liveViews_of_views (pushDesc_views _ _), liveViews_of_views (setStorage_views _ _ _),
        liveDescs_pushDesc, liveDescs_of_descs (setStorage_descs _ _ _)]
      split <;> omega
  | write =>
      rw [liveViews_of_views (setStorage_views _ _ _), liveDescs_of_descs (setStorage_descs _ _ _)]
      omega
  | @unexport k d hd _ =>
      have := liveDescs_setDesc (i := i) hd
        { d with released := true, len := 0, ndim := 0, shape := [], strides := [] }
      rw [liveViews_of_views (setStorage_views _ _ _), liveViews_of_views (setDesc_views _ _ _),
        liveDescs_of_descs (setStorage_descs _ _ _)]
      simp only [Bool.true_eq_false, and_false, if_false] at this
      omega
  | @adopt v s _ =>
      rw [liveViews_pushView, liveViews_of_views (pushStorage_views _ _),
        liveDescs_of_descs (pushView_descs _ _), liveDescs_of_descs (pushStorage_descs _ _)]
      split <;> omega
  | buf n _ ih => exact ih

/-- A run of `n` requests that touch no storage directly, with `n` below `2^31`, leaves
every storage counting its holders, of which there are at most `n`. -/
theorem ReachableIn.holdersCounted {n : Nat} {b : Bench}
    (hb : ReachableIn (fun r => r.direct = false) n b) (hn : n < 2 ^ 31) :
    b.HoldersCounted ∧ ∀ i, b.liveViews i + b.liveDescs i ≤ n := by
  induction hb with
  | empty =>
      refine ⟨⟨by simp, by simp, by simp, fun i => ?_⟩, fun i => ?_⟩
      · simp [CountsAt, Counts, storageAt, liveViews, liveDescs, viewsOver, Storage.ofBytes]
      · simp [liveViews, liveDescs]
  | @step n b r _ hr ih =>
      obtain ⟨h, hle⟩ := ih (by omega)
      have hm := step_move b r hr
      refine ⟨h.move hm fun i => ?_, fun i => ?_⟩
      · have := hle i
        omega
      · have := hm.holders_le i
        have := hle i
        omega

/-! ## When a storage is released -/

theorem released_setStorage {b : Bench} {k : Nat} {s : Storage}
    (hs : s.released = (b.storageAt k).released) (i : Nat) :
    ((b.setStorage k s).storageAt i).released = (b.storageAt i).released := by
  rw [storageAt_setStorage]
  split
  · rename_i hki
    rw [hs, hki.1]
  · rfl

theorem Move.released_or {b b' : Bench} (h : b.HoldersCounted) (hm : Move b b') (i : Nat) :
    (b'.storageAt i).released = (b.storageAt i).released ∨
      ((b'.storageAt i).released = true ∧ 0 < b.liveViews i + b.liveDescs i ∧
        b'.liveViews i + b'.liveDescs i = 0) := by
  induction hm with
  | stay => exact .inl rfl
  | fresh bytes =>
      left
      rw [storageAt_pushStorage]
      split
      · rename_i hi
        rw [hi, storageAt_of_size_le _ (Nat.le_refl _)]
        rfl
      · rfl
  | attach =>
      rw [storageAt_pushView]
      exact .inl (released_setStorage (by rfl) i)
  | relayout => exact .inl rfl
  | @detach k v hv hlive =>
      rw [storageAt_setStorage]
      split
      · rename_i hi
        obtain ⟨rfl, -⟩ := hi
        have hheld := liveViews_pos (Array.mem_of_getElem? hv) hlive
        have hfree := h.live_of_view (Array.mem_of_getElem? hv) hlive
        obtain ⟨hr, -, -⟩ := h.counts v.storage
        obtain ⟨-, -, hrel⟩ := Storage.release_of_pos (by omega) hfree
        cases hrs : (b.storageAt v.storage).release.1.released
        · exact .inl hfree.symm
        · have hlast := hrel.mp hrs
          have hcount := liveViews_setView (i := v.storage) hv { v with released := true }
          simp only [hlive, and_self, if_true, Bool.true_eq_false, and_false, if_false] at hcount
          rw [liveViews_of_views (setStorage_views _ _ _),
            liveDescs_of_descs (setStorage_descs _ _ _), liveDescs_of_descs (setView_descs _ _ _)]
          exact .inr ⟨rfl, by omega, by omega⟩
      · exact .inl rfl
  | exportView =>
      rw [storageAt_pushDesc]
      exact .inl (released_setStorage (by rfl) i)
  | write => exact .inl (released_setStorage (by rfl) i)
  | @unexport k d hd hlive =>
      rw [storageAt_setStorage]
      split
      · rename_i hi
        obtain ⟨rfl, -⟩ := hi
        have hheld := liveDescs_pos (Array.mem_of_getElem? hd) hlive
        have hfree := h.live_of_desc (Array.mem_of_getElem? hd) hlive
        obtain ⟨hr, he, -⟩ := h.counts d.storage
        rw [Storage.unpin_of_pos (by omega)]
        obtain ⟨-, -, hrel⟩ := Storage.release_of_pos
          (s := { b.storageAt d.storage with exports := (b.storageAt d.storage).exports - 1 })
          (by dsimp only; omega) hfree
        cases hrs : ({ b.storageAt d.storage with
            exports := (b.storageAt d.storage).exports - 1 } : Storage).release.1.released
        · exact .inl hfree.symm
        · have hlast : (b.storageAt d.storage).refs.toInt = 1 := hrel.mp hrs
          have hcount := liveDescs_setDesc (i := d.storage) hd
            { d with released := true, len := 0, ndim := 0, shape := [], strides := [] }
          simp only [hlive, and_self, if_true, Bool.true_eq_false, and_false, if_false] at hcount
          rw [liveViews_of_views (setStorage_views _ _ _), liveViews_of_views (setDesc_views _ _ _),
            liveDescs_of_descs (setStorage_descs _ _ _)]
          exact .inr ⟨rfl, by omega, by omega⟩
      · exact .inl rfl
  | @adopt v s hv =>
      left
      rw [storageAt_pushView, storageAt_pushStorage]
      split
      · rename_i hi
        rw [hi, storageAt_of_size_le _ (Nat.le_refl _), hv.storage_live]
        rfl
      · rfl
  | buf n _ ih => exact ih

/-! ## Every short run -/

/-- Along every run of fewer than `2^31` requests that reach storages only through views and
descriptors, each storage's reference count is the number of its live views and
descriptors, its pin count the number of its live descriptors, so that it is pinned exactly
when one of them exists, and it is released exactly when some view was made over it (the
only way a storage is ever retained) and no reference is left. A released storage stays
released, and a request releases a storage only by taking its holders from some to none.
Live views and descriptors lie over live storages, so no operation on a live view meets a
released storage. -/
theorem session_holders_counted {n : Nat} {b : Bench}
    (hb : ReachableIn (fun r => r.direct = false) n b) (hn : n < 2 ^ 31) :
    (∀ i, (b.storageAt i).refs.toInt = (b.liveViews i + b.liveDescs i : Nat) ∧
      (b.storageAt i).exports.toInt = (b.liveDescs i : Nat) ∧
      ((b.storageAt i).pinned = true ↔ 0 < b.liveDescs i) ∧
      ((b.storageAt i).released = true ↔
        (∃ v ∈ b.views, v.storage = i) ∧ (b.storageAt i).refs = 0)) ∧
    (∀ r : Request, r.direct = false → ∀ i,
      ((b.storageAt i).released = true → ((b.step r).1.storageAt i).released = true) ∧
      ((b.storageAt i).released = false → ((b.step r).1.storageAt i).released = true →
        0 < b.liveViews i + b.liveDescs i ∧
          (b.step r).1.liveViews i + (b.step r).1.liveDescs i = 0)) ∧
    (∀ v ∈ b.views, v.released = false →
      (b.storageAt v.storage).released = false ∧
      (∀ idx, v.element (b.storageAt v.storage) idx ≠ .error Storage.usePanic) ∧
      (∀ limit, v.head (b.storageAt v.storage) limit ≠ .error Storage.usePanic) ∧
      v.text (b.storageAt v.storage) ≠ .error Storage.usePanic ∧
      v.clone (b.storageAt v.storage) ≠ .error Storage.usePanic ∧
      (∀ flags, exportView v (b.storageAt v.storage) flags ≠ .error Storage.usePanic) ∧
      (∀ opts now, Snapshot.write v (b.storageAt v.storage) opts now ≠ .error Storage.usePanic)) ∧
    (∀ d ∈ b.descs, d.released = false → (b.storageAt d.storage).released = false) := by
  have h := (hb.holdersCounted hn).1
  refine ⟨fun i => ?_, fun r hr i => ?_, fun v hv hlive => ?_, fun d hd hlive => ?_⟩
  · obtain ⟨hr, he, hrel⟩ := h.counts i
    have hover : 0 < b.viewsOver i ↔ ∃ v ∈ b.views, v.storage = i := by simp [viewsOver]
    have hzero : (b.storageAt i).refs = 0 ↔ b.liveViews i + b.liveDescs i = 0 := by
      rw [Storage.eq_zero_iff_toInt, hr]
      omega
    refine ⟨hr, he, ?_, by rw [hrel, hover, hzero]⟩
    simp only [Storage.pinned, gt_iff_lt, decide_eq_true_eq, Int32.lt_iff_toInt_lt,
      Int32.toInt_zero, he]
    omega
  · rcases (step_move b r hr).released_or h i with heq | ⟨hrel', hpos, hnone⟩
    · rw [heq]
      exact ⟨id, fun hfalse hrel' => absurd (hfalse.symm.trans hrel') Bool.false_ne_true⟩
    · exact ⟨fun _ => hrel', fun _ _ => ⟨hpos, hnone⟩⟩
  · have hs := h.live_of_view hv hlive
    refine ⟨hs, View.element_ne_usePanic hs, fun limit he => ?_, fun he => ?_,
      View.clone_ne_usePanic hs, exportView_ne_usePanic hs, write_ne_usePanic hs⟩
    · obtain ⟨xs, hxs⟩ := View.head_ok hs (v := v) limit
      rw [hxs] at he
      cases he
    · obtain ⟨t, ht⟩ := View.text_ok hs (v := v)
      rw [ht] at he
      cases he
  · exact h.live_of_desc hd hlive

/-- A session that views four bytes, exports the view, and releases the view and then the
descriptor, which releases the storage. -/
theorem session_holders_counted_released :
    let b : Bench :=
      (((((({} : Bench).step (.storage ⟨#[1, 2, 3, 4]⟩)).1.step
        (.view (some 0) [4] [1] 5)).1.step (.exportView 0 Flags.simple)).1.step
        (.release 0)).1.step (.descRelease 0)).1
    ReachableIn (fun r => r.direct = false) 5 b ∧ 5 < 2 ^ 31 ∧
    (∀ i, (b.storageAt i).refs.toInt = (b.liveViews i + b.liveDescs i : Nat) ∧
      (b.storageAt i).exports.toInt = (b.liveDescs i : Nat) ∧
      ((b.storageAt i).pinned = true ↔ 0 < b.liveDescs i) ∧
      ((b.storageAt i).released = true ↔
        (∃ v ∈ b.views, v.storage = i) ∧ (b.storageAt i).refs = 0)) ∧
    (∀ r : Request, r.direct = false → ∀ i,
      ((b.storageAt i).released = true → ((b.step r).1.storageAt i).released = true) ∧
      ((b.storageAt i).released = false → ((b.step r).1.storageAt i).released = true →
        0 < b.liveViews i + b.liveDescs i ∧
          (b.step r).1.liveViews i + (b.step r).1.liveDescs i = 0)) ∧
    (∀ v ∈ b.views, v.released = false →
      (b.storageAt v.storage).released = false ∧
      (∀ idx, v.element (b.storageAt v.storage) idx ≠ .error Storage.usePanic) ∧
      (∀ limit, v.head (b.storageAt v.storage) limit ≠ .error Storage.usePanic) ∧
      v.text (b.storageAt v.storage) ≠ .error Storage.usePanic ∧
      v.clone (b.storageAt v.storage) ≠ .error Storage.usePanic ∧
      (∀ flags, exportView v (b.storageAt v.storage) flags ≠ .error Storage.usePanic) ∧
      (∀ opts now, Snapshot.write v (b.storageAt v.storage) opts now ≠ .error Storage.usePanic)) ∧
    (∀ d ∈ b.descs, d.released = false → (b.storageAt d.storage).released = false) := by
  intro b
  have hb : ReachableIn (fun r => r.direct = false) 5 b :=
    .step (.step (.step (.step (.step .empty rfl) rfl) rfl) rfl) rfl
  exact ⟨hb, by decide, session_holders_counted hb (by decide)⟩

/-! ## Past the range of the counters

Each clone of a view adds a reference, and nothing stops the count at the top of its
range: `2^31` views over one storage read back a negative reference count.
-/

theorem step_clone_copies {s : Storage} {v : View} (hv : v.storage = 0)
    (hl : v.released = false) (hs : s.released = false) (k : Nat) :
    ((⟨#[s], Array.replicate (k + 1) v, #[], #[]⟩ : Bench).step (.clone 0)).1 =
      ⟨#[{ s with refs := s.refs + 1 }], Array.replicate (k + 1 + 1) v, #[], #[]⟩ := by
  have hlook : lookup "view" (Array.replicate (k + 1) v) 0 = .ok v := by simp [lookup]
  have hclone : v.clone s = .ok (v, { s with refs := s.refs + 1 }) := by
    obtain ⟨st, sh, str, dt, rel⟩ := v
    dsimp only at hl
    subst hl
    simp [View.clone, Storage.retain, hs, bind, Except.bind]
    rfl
  simp only [step, withView, hlook, storageOf, hv, addView]
  simp [hclone, setStorage, hv, Array.replicate_succ (n := k + 1)]

theorem iterate_clone {s : Storage} {v : View} (hv : v.storage = 0) (hl : v.released = false)
    (hs : s.released = false) (k : Nat) :
    Nat.iterate (fun b : Bench => (b.step (.clone 0)).1) k ⟨#[s], #[v], #[], #[]⟩ =
      ⟨#[{ s with refs := s.refs + Int32.ofNat k }], Array.replicate (k + 1) v, #[], #[]⟩ := by
  induction k with
  | zero => simp
  | succ k ih =>
      rw [Function.iterate_succ_apply', ih,
        step_clone_copies (s := { s with refs := s.refs + Int32.ofNat k }) hv hl hs]
      simp only [Int32.ofNat_add, show Int32.ofNat 1 = 1 from rfl, Int32.add_assoc]

theorem reachableIn_iterate_clone {b : Bench} {n : Nat}
    (hb : ReachableIn (fun r => r.direct = false) n b) (k : Nat) :
    ReachableIn (fun r => r.direct = false) (n + k)
      (Nat.iterate (fun b : Bench => (b.step (.clone 0)).1) k b) := by
  induction k with
  | zero => exact hb
  | succ k ih =>
      rw [Function.iterate_succ_apply']
      exact .step ih rfl

theorem step_idx_empty {data : ByteArray} {v : View} {s : Storage}
    (h : Dataset.parseIdx data 0 = .ok (v, s)) :
    (({} : Bench).step (.idx data)).1 = ⟨#[s], #[v], #[], #[]⟩ := by
  simp [step, h]

/-- A run of `2^31` requests, an IDX file holding one byte and then clones of its view, leaves
`2^31` live views over the file's storage, whose reference count reads `-2^31`. -/
theorem clones_wrap_reference_count :
    let b := Nat.iterate (fun b : Bench => (b.step (.clone 0)).1) (2 ^ 31 - 1)
      (({} : Bench).step (.idx ⟨#[0, 0, 8, 0, 42]⟩)).1
    ReachableIn (fun r => r.direct = false) (2 ^ 31) b ∧
      b.liveViews 0 + b.liveDescs 0 = 2 ^ 31 ∧ (b.storageAt 0).refs.toInt = -2 ^ 31 := by
  intro b
  obtain ⟨⟨v, s⟩, hidx⟩ : ∃ r, Dataset.parseIdx ⟨#[0, 0, 8, 0, 42]⟩ 0 = .ok r := by
    have hrun : (Dataset.parseIdx ⟨#[0, 0, 8, 0, 42]⟩ 0).toBool = true := by decide +kernel
    cases hr : Dataset.parseIdx ⟨#[0, 0, 8, 0, 42]⟩ 0 with
    | error e =>
        rw [hr] at hrun
        cases hrun
    | ok r => exact ⟨r, rfl⟩
  have hfresh := parseIdx_fresh hidx
  have hb : b = ⟨#[{ s with refs := s.refs + Int32.ofNat (2 ^ 31 - 1) }],
      Array.replicate (2 ^ 31) v, #[], #[]⟩ := by
    simp only [b, step_idx_empty hidx]
    exact iterate_clone hfresh.storage hfresh.live hfresh.storage_live _
  refine ⟨?_, ?_, ?_⟩
  · have := reachableIn_iterate_clone (.step .empty rfl : ReachableIn (fun r => r.direct = false) 1
      (({} : Bench).step (.idx ⟨#[0, 0, 8, 0, 42]⟩)).1) (2 ^ 31 - 1)
    rwa [show 1 + (2 ^ 31 - 1) = 2 ^ 31 by norm_num] at this
  · rw [hb]
    simp [liveViews, liveDescs, Array.countP_replicate, hfresh.storage, hfresh.live]
  · rw [hb]
    show (s.refs + Int32.ofNat (2 ^ 31 - 1)).toInt = -2 ^ 31
    rw [hfresh.refs]
    decide
end Bench

end StridedBuffer
