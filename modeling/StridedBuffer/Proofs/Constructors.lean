import StridedBuffer.Session

/-! # What the constructors return

Each operation that makes a view, a descriptor or a storage is described once by what a
successful call returns: the new object's fields and the storage after the reference it
takes. Proofs about sessions cite these lemmas and never unfold the operations.

A fresh view is the only holder of a new storage: the view is live, the storage has one
reference and no pin, and the layout passes the check against it. Host buffers,
snapshots and IDX files all end in such a view.
-/

namespace StridedBuffer

theorem Outcome.bind_eq_ok {α β : Type} {x : Outcome α} {f : α → Outcome β} {b : β} :
    x >>= f = .ok b ↔ ∃ a, x = .ok a ∧ f a = .ok b := by
  cases x <;> simp [bind, Except.bind]

namespace Storage

theorem retain_eq_ok {s s' : Storage} :
    s.retain = .ok s' ↔ s.released = false ∧ s' = { s with refs := s.refs + 1 } := by
  unfold retain
  cases s.released <;> simp [eq_comm]

theorem pin_eq_ok {s s' : Storage} :
    s.pin = .ok s' ↔
      s.released = false ∧ s' = { s with refs := s.refs + 1, exports := s.exports + 1 } := by
  unfold pin
  rw [Outcome.bind_eq_ok]
  constructor
  · rintro ⟨s₁, h₁, h₂⟩
    obtain ⟨hr, rfl⟩ := retain_eq_ok.mp h₁
    cases h₂
    exact ⟨hr, rfl⟩
  · rintro ⟨hr, rfl⟩
    exact ⟨_, retain_eq_ok.mpr ⟨hr, rfl⟩, rfl⟩

@[simp] theorem release_bytes (s : Storage) : s.release.1.bytes = s.bytes := by
  unfold release
  dsimp only
  split
  · rfl
  · split <;> rfl

@[simp] theorem unpin_bytes (s : Storage) : s.unpin.1.bytes = s.bytes := by
  unfold unpin
  dsimp only
  split
  · rfl
  · exact release_bytes _

@[simp] theorem len_ofBytes (bytes : ByteArray) : (ofBytes bytes).len = bytes.size := rfl

end Storage

/-- A view that is the only holder of storage `id`, which is `s`. -/
structure FreshView (id : Nat) (v : View) (s : Storage) : Prop where
  storage : v.storage = id
  live : v.released = false
  refs : s.refs = 1
  exports : s.exports = 0
  storage_live : s.released = false
  fits : Layout.problem v.shape v.strides v.itemSize s.len = none

theorem newView_eq_ok {target : Option (Nat × Storage)} {shape : Shape} {strides : List Int64}
    {code : Int} {v : View} {s' : Storage} (h : newView target shape strides code = .ok (v, s')) :
    ∃ id s t, target = some (id, s) ∧ DataType.ofCode? code = some t ∧
      Layout.problem shape strides t.size s.len = none ∧ s.released = false ∧
      v = ⟨id, shape, strides, t, false⟩ ∧ s' = { s with refs := s.refs + 1 } := by
  unfold newView at h
  rcases target with _ | ⟨id, s⟩
  · cases h
  cases ht : DataType.ofCode? code with
  | none => simp [ht] at h
  | some t =>
      simp only [ht, View.layoutFault] at h
      cases hp : Layout.problem shape strides t.size s.len with
      | some r => simp [hp] at h
      | none =>
          simp only [hp, Option.map_none] at h
          obtain ⟨s₁, hr, hret⟩ := Outcome.bind_eq_ok.mp h
          obtain ⟨hlive, rfl⟩ := Storage.retain_eq_ok.mp hr
          cases hret
          exact ⟨id, s, t, rfl, rfl, hp, hlive, rfl, rfl⟩

theorem newView_fresh {id : Nat} {bytes : ByteArray} {shape : Shape} {strides : List Int64}
    {code : Int} {v : View} {s : Storage}
    (h : newView (some (id, Storage.ofBytes bytes)) shape strides code = .ok (v, s)) :
    FreshView id v s := by
  obtain ⟨id', s₀, t, ht, -, hp, -, rfl, rfl⟩ := newView_eq_ok h
  cases ht
  exact ⟨rfl, rfl, rfl, rfl, rfl, hp⟩

theorem newView_ofBytes {id : Nat} {data : ByteArray} {shape : Shape} {strides : List Int64}
    {t : DataType} (hfit : Layout.problem shape strides t.size data.size = none) :
    newView (some (id, Storage.ofBytes data)) shape strides t.code =
      .ok (⟨id, shape, strides, t, false⟩, ⟨data, 1, 0, false⟩) := by
  unfold newView
  rw [DataType.ofCode_code]
  simp [View.layoutFault, Storage.len, Storage.ofBytes, hfit, Storage.retain, bind, Except.bind,
    pure, Except.pure]

theorem newView_ofBytes_eq_ok {id : Nat} {data : ByteArray} {shape : Shape}
    {strides : List Int64} {t : DataType} {v : View} {s : Storage}
    (h : newView (some (id, Storage.ofBytes data)) shape strides t.code = .ok (v, s)) :
    v = ⟨id, shape, strides, t, false⟩ ∧ s = ⟨data, 1, 0, false⟩ := by
  obtain ⟨id', s₀, t', ht, hc, -, -, rfl, rfl⟩ := newView_eq_ok h
  rw [DataType.ofCode_code] at hc
  cases ht
  cases hc
  exact ⟨rfl, rfl⟩

theorem newView_ofBytes_error_kind {id : Nat} {raw : ByteArray} {shape : Shape}
    {strides : List Int64} {code : Int} {f : Fault}
    (h : newView (some (id, Storage.ofBytes raw)) shape strides code = .error f) :
    f.kind = .error ∨ f.kind = .shapeMismatch := by
  unfold newView at h
  cases hc : DataType.ofCode? code with
  | none =>
      rw [hc] at h
      cases h
      exact .inl rfl
  | some t =>
      rw [hc] at h
      dsimp only at h
      cases hl : View.layoutFault shape strides t.size (Storage.ofBytes raw).len with
      | some f₀ =>
          rw [hl] at h
          cases h
          obtain ⟨r, -, rfl⟩ := Option.map_eq_some_iff.mp hl
          exact .inr rfl
      | none =>
          rw [hl] at h
          simp [Storage.retain, Storage.ofBytes, bind, Except.bind, pure, Except.pure] at h

namespace View

theorem clone_eq_ok {v w : View} {s s' : Storage} (h : v.clone s = .ok (w, s')) :
    v.released = false ∧ s.released = false ∧ w = v ∧ s' = { s with refs := s.refs + 1 } := by
  unfold clone at h
  cases hv : v.released
  · simp only [hv, Bool.false_eq_true, if_false] at h
    obtain ⟨s₁, hr, hret⟩ := Outcome.bind_eq_ok.mp h
    obtain ⟨hlive, rfl⟩ := Storage.retain_eq_ok.mp hr
    cases hret
    exact ⟨rfl, hlive, by cases v; simp_all, rfl⟩
  · simp [hv] at h
    cases h

theorem reshape_eq_ok {v w : View} {s : Storage} {shape : Shape} {strides : List Int64}
    (h : v.reshape s shape strides = .ok w) :
    v.released = false ∧ Layout.problem shape strides v.itemSize s.len = none ∧
      w = { v with shape := shape, strides := strides } := by
  unfold reshape layoutFault at h
  cases hv : v.released
  · cases hp : Layout.problem shape strides v.itemSize s.len with
    | some r => simp [hv, hp] at h
    | none =>
        simp only [hv, hp, Bool.false_eq_true, if_false, Option.map_none, Except.ok.injEq] at h
        exact ⟨rfl, rfl, h.symm⟩
  · simp [hv] at h

end View

theorem exportView_eq_ok {v : View} {s s' : Storage} {flags : Flags} {d : Descriptor}
    (h : exportView v s flags = .ok (d, s')) :
    v.released = false ∧ s.released = false ∧
      s' = { s with refs := s.refs + 1, exports := s.exports + 1 } ∧
      d = { storage := v.storage, released := false, len := v.byteLen, itemSize := v.itemSize
            ndim := v.ndim, shape := v.shape, strides := v.strides, flags := flags
            dtype := v.dtype, empty := s.len == 0 } := by
  unfold exportView at h
  cases hv : v.released
  · simp only [hv, Bool.false_eq_true, if_false] at h
    split at h
    · cases h
    obtain ⟨s₁, hp, hret⟩ := Outcome.bind_eq_ok.mp h
    obtain ⟨hlive, rfl⟩ := Storage.pin_eq_ok.mp hp
    cases hret
    exact ⟨rfl, hlive, rfl, rfl⟩
  · simp [hv] at h
    cases h

theorem construct_fresh {data : HostData} {shape : Shape} {strides : Option (List Int64)}
    {format : List UInt8} {id : Nat} {v : View} {s : Storage}
    (h : construct data shape strides format id = .ok (v, s)) : FreshView id v s := by
  unfold construct at h
  obtain ⟨t, -, h⟩ := Outcome.bind_eq_ok.mp h
  obtain ⟨raw, -, h⟩ := Outcome.bind_eq_ok.mp h
  exact newView_fresh h

theorem newContiguous_fresh {id : Nat} {bytes : ByteArray} {shape : Shape} {code : Int}
    {v : View} {s : Storage}
    (h : newContiguous (some (id, Storage.ofBytes bytes)) shape code = .ok (v, s)) :
    FreshView id v s := by
  unfold newContiguous at h
  split at h
  · cases h
  · exact newView_fresh h

theorem parseIdx_fresh {data : ByteArray} {id : Nat} {v : View} {s : Storage}
    (h : Dataset.parseIdx data id = .ok (v, s)) : FreshView id v s := by
  unfold Dataset.parseIdx at h
  simp only [bind, Except.bind, pure, Except.pure, throw, throwThe, MonadExceptOf.throw] at h
  split at h
  · cases h
  split at h
  · cases h
  split at h
  · split at h
    · cases h
    split at h
    · split at h
      · cases h
      · exact newContiguous_fresh h
    · cases h
  · cases h

theorem Snapshot.read_fresh {src : Snapshot.Source} {skip : Bool} {level : Snapshot.Level}
    {id : Nat} {v : View} {s : Storage} {h : Snapshot.Header}
    (hr : Snapshot.read src skip level id = .ok (v, s, h)) : FreshView id v s := by
  unfold Snapshot.read at hr
  simp only [bind, Except.bind, pure, Except.pure, throw, throwThe, MonadExceptOf.throw] at hr
  split at hr
  · cases hr
  split at hr
  · cases hr
  split at hr
  · cases hr
  split at hr
  · cases hr
  split at hr
  · cases hr
  split at hr
  · split at hr
    · cases hr
    split at hr
    · cases hr
    · rename_i heq
      simp only [Except.ok.injEq, Prod.mk.injEq] at hr
      obtain ⟨rfl, rfl, -⟩ := hr
      exact newView_fresh heq
  · split at hr
    · cases hr
    · rename_i heq
      simp only [Except.ok.injEq, Prod.mk.injEq] at hr
      obtain ⟨rfl, rfl, -⟩ := hr
      exact newView_fresh heq

end StridedBuffer
