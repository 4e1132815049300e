import Mathlib
import StridedBuffer.Dataset.Mnist
import StridedBuffer.Proofs.FetchLimit
import StridedBuffer.Proofs.IdxParse

/-! # Downloading MNIST leaks no view

A download of the four MNIST files that returns gives either all four views, each the only
holder of a storage of its own, or an error after which every view it made, and with it
every storage, has been released. The rejected view of a file of the wrong type or rank
counts among the views made. A panic while parsing a file, which happens only for an IDX
file of rank zero missing its element, leaves everything as it was.

The loop is proved one file at a time: `Settled` says what a download of the remaining
files may end in, once every split read before them is the only holder of its storage.
-/

namespace StridedBuffer

theorem FreshView.own {id : Nat} {v : View} {s : Storage} (h : FreshView id v s) :
    FreshView v.storage v s :=
  h.storage ▸ h

end StridedBuffer

namespace StridedBuffer.Dataset

theorem parseIdx_error_cases {data : ByteArray} {id : Nat} {f : Fault}
    (h : parseIdx data id = .error f) :
    ((∃ msg, f = .panic msg) ∧ MissingScalar data) ∨ f.kind ≠ .panic := by
  rcases parseIdx_header_or_fault data id with ⟨t, count, hh⟩ | ⟨f', hf, hk⟩ | ⟨hm, msg, hp⟩
  · rw [parseIdx_of_header hh, newContiguous, DataType.ofCode_code] at h
    rcases newView_ofBytes_error_kind h with hk | hk <;> simp [hk]
  · rw [hf] at h
    cases h
    simp [hk]
  · rw [hp] at h
    cases h
    exact .inl ⟨⟨msg, rfl⟩, hm⟩

/-- A split as a finished download leaves it: file `name` read into storage `id` as a live
view of unsigned bytes at the wanted rank, the only holder of its storage. -/
structure SplitHeld (file : (String × Nat) × Nat) (sp : Split) : Prop where
  name : sp.name = file.1.1
  fresh : FreshView file.2 sp.view sp.storage
  dtype : sp.view.dtype = .uint8
  rank : sp.view.ndim = file.1.2

/-- A split whose view and storage are both released, with no reference left. -/
structure SplitDropped (sp : Split) : Prop where
  view : sp.view.released = true
  storage : sp.storage.released = true
  refs : sp.storage.refs = 0

/-! ## Releasing the splits read -/

theorem Split.release_fresh {sp : Split} {id : Nat} (h : FreshView id sp.view sp.storage) :
    ∃ sp', sp.release = (sp', none) ∧ SplitDropped sp' := by
  have hv := h.live
  have hr := h.refs
  refine ⟨⟨sp.name, sp.fetched, { sp.view with released := true },
    { sp.storage with refs := 0, released := true }⟩, ?_, ⟨rfl, rfl, rfl⟩⟩
  simp [Split.release, View.release, hv, Storage.release, hr]

theorem releaseSplits_fresh {held : List Split}
    (h : ∀ sp ∈ held, FreshView sp.view.storage sp.view sp.storage) :
    (releaseSplits held).2 = none ∧ ∀ sp ∈ (releaseSplits held).1, SplitDropped sp := by
  induction held with
  | nil => simp [releaseSplits]
  | cons sp rest ih =>
    obtain ⟨sp', hrel, hdrop⟩ := Split.release_fresh (h sp List.mem_cons_self)
    obtain ⟨hrest, hdrops⟩ := ih fun x hx => h x (List.mem_cons_of_mem _ hx)
    simp only [releaseSplits, hrel]
    exact ⟨hrest, List.forall_mem_cons.mpr ⟨hdrop, hdrops⟩⟩

theorem abandon_fresh {held : List Split}
    (h : ∀ sp ∈ held, FreshView sp.view.storage sp.view sp.storage) (f : Fault) :
    (abandon held f).result = .error f ∧ ∀ sp ∈ (abandon held f).splits, SplitDropped sp := by
  obtain ⟨hnone, hdrop⟩ := releaseSplits_fresh h
  exact ⟨by simp only [abandon, hnone, Option.getD_none], hdrop⟩

/-! ## The download loop -/

/-- The download loop over the replies of a transport. -/
def fetchEach (transport : Transport) (maxBytes : Int64) (base : String) :
    List ((String × Nat) × Nat) → List Split → MnistRun :=
  fetchEachBy (m := Id) (fun url => pure (transport url)) (pure 0) (fun _ _ _ => pure ()) maxBytes
    base

theorem fetchEach_nil (transport : Transport) (maxBytes : Int64) (base : String)
    (done : List Split) :
    fetchEach transport maxBytes base [] done = ⟨.ok done.reverse, done.reverse⟩ := rfl

theorem fetchEach_cons (transport : Transport) (maxBytes : Int64) (base name : String)
    (rank id : Nat) (rest : List ((String × Nat) × Nat)) (done : List Split) :
    fetchEach transport maxBytes base (((name, rank), id) :: rest) done =
      match fetchFile transport maxBytes (base ++ name) with
      | .error f => abandon done.reverse f
      | .ok fetched =>
          match parseIdx fetched.data id with
          | .error (.panic msg) => ⟨.error (.panic msg), done.reverse⟩
          | .error f => abandon done.reverse (.context ("parse " ++ name) f)
          | .ok (v, s) =>
              if v.dtype != .uint8 || v.ndim != rank then
                abandon (⟨name, fetched, v, s⟩ :: done.reverse) (mismatch name v rank)
              else fetchEach transport maxBytes base rest (⟨name, fetched, v, s⟩ :: done) := by
  rfl

section Loop

variable (transport : Transport) (maxBytes : Int64) (base : String)

/-- What a download of `files` after the splits `done` may end in. On success every file is
read, in order, as a finished download leaves it, and no other split is made; on a failure
other than a panic every split made is dropped; and a panic comes from a downloaded file
that is an IDX file missing its one element. -/
structure Settled (files : List ((String × Nat) × Nat)) (done : List Split) (run : MnistRun) :
    Prop where
  held : ∀ splits, run.result = .ok splits →
    run.splits = splits ∧ ∃ read, splits = done.reverse ++ read ∧ List.Forall₂ SplitHeld files read
  dropped : ∀ f, run.result = .error f → f.kind ≠ .panic → ∀ sp ∈ run.splits, SplitDropped sp
  panicked : ∀ f, run.result = .error f → f.kind = .panic →
    ∃ file ∈ files, ∃ fetched, fetchFile transport maxBytes (base ++ file.1.1) = .ok fetched ∧
      MissingScalar fetched.data

variable {transport maxBytes base}

theorem Settled.abandon {files : List ((String × Nat) × Nat)} {done held : List Split}
    (h : ∀ sp ∈ held, FreshView sp.view.storage sp.view sp.storage) {f : Fault}
    (hf : f.kind ≠ .panic) : Settled transport maxBytes base files done (abandon held f) := by
  obtain ⟨hresult, hdrop⟩ := abandon_fresh h f
  refine ⟨fun splits hs => ?_, fun _ _ _ => hdrop, fun f' hs hp => ?_⟩
  · rw [hresult] at hs
    cases hs
  · rw [hresult] at hs
    cases hs
    exact absurd hp hf

theorem Settled.cons {file : (String × Nat) × Nat} {rest : List ((String × Nat) × Nat)}
    {done : List Split} {sp : Split} {run : MnistRun} (hsp : SplitHeld file sp)
    (h : Settled transport maxBytes base rest (sp :: done) run) :
    Settled transport maxBytes base (file :: rest) done run := by
  refine ⟨fun splits hs => ?_, h.dropped, fun f hs hp => ?_⟩
  · obtain ⟨hsplits, read, rfl, hread⟩ := h.held splits hs
    exact ⟨hsplits, sp :: read, by simp, .cons hsp hread⟩
  · obtain ⟨file', hmem, hfile⟩ := h.panicked f hs hp
    exact ⟨file', List.mem_cons_of_mem _ hmem, hfile⟩

theorem fetchEach_settled : ∀ (files : List ((String × Nat) × Nat)) (done : List Split),
    (∀ sp ∈ done, FreshView sp.view.storage sp.view sp.storage) →
    Settled transport maxBytes base files done (fetchEach transport maxBytes base files done)
  | [], done, _ => by
    rw [fetchEach_nil]
    refine ⟨fun splits hs => ?_, fun f hs => ?_, fun f hs => ?_⟩
    · cases hs
      exact ⟨rfl, [], by simp, .nil⟩
    · cases hs
    · cases hs
  | ((name, rank), id) :: rest, done, hdone => by
    have hheld : ∀ sp ∈ done.reverse, FreshView sp.view.storage sp.view sp.storage := by
      simpa using hdone
    rw [fetchEach_cons]
    cases hfetch : fetchFile transport maxBytes (base ++ name) with
    | error f =>
      refine Settled.abandon hheld ?_
      rcases fetchFile_error_kind hfetch with h | h <;> simp [h]
    | ok fetched =>
      dsimp only
      split
      · -- a panic while parsing stops everything as it is
        rename_i msg hparse
        have hmissing := (parseIdx_error_cases hparse).resolve_right (by simp [Fault.kind])
        refine ⟨fun _ hs => ?_, fun _ hs hp => ?_, fun _ _ _ => ?_⟩
        · cases hs
        · cases hs
          exact absurd rfl hp
        · exact ⟨_, List.mem_cons_self, fetched, hfetch, hmissing.2⟩
      · rename_i f hnot hparse
        refine Settled.abandon hheld ?_
        rcases parseIdx_error_cases hparse with ⟨⟨msg, rfl⟩, -⟩ | hk
        · exact absurd rfl (hnot msg)
        · rwa [Fault.kind_context]
      · rename_i v s hparse
        have hfresh := parseIdx_fresh hparse
        split
        · -- a view of the wrong type or rank is released with the ones before it
          exact Settled.abandon (List.forall_mem_cons.mpr ⟨hfresh.own, hheld⟩)
            (by simp [mismatch, Fault.kind])
        · rename_i hwant
          simp only [Bool.or_eq_true, bne_iff_ne, ne_eq, not_or, not_not] at hwant
          have hsp : SplitHeld ((name, rank), id) ⟨name, fetched, v, s⟩ :=
            ⟨rfl, hfresh, hwant.1, hwant.2⟩
          exact Settled.cons hsp
            (fetchEach_settled rest _ (List.forall_mem_cons.mpr ⟨hfresh.own, hdone⟩))

end Loop

/-- Downloading MNIST ends in one of three ways. When it returns, either it returns the four
files in order, each a live view of unsigned bytes at ranks 3, 1, 3, 1, the only holder of
its own storage, numbered 0 to 3, with no other view made; or it returns an error, and
every view it made has been released together with its storage. Otherwise it panicked, and
then one of the four files it downloaded is an IDX file missing its one element. -/
theorem mnist_views_held_or_released (transport : Transport) (maxBytes : Int64)
    (base : String) :
    let run := fetchMnist transport maxBytes base
    (∀ splits, run.result = .ok splits →
      run.splits = splits ∧ List.Forall₂ SplitHeld mnistFiles.zipIdx splits) ∧
    (∀ f, run.result = .error f → f.kind ≠ .panic → ∀ sp ∈ run.splits, SplitDropped sp) ∧
    (∀ f, run.result = .error f → f.kind = .panic →
      ∃ file ∈ mnistFiles, ∃ fetched,
        fetchFile transport maxBytes (mnistBase base ++ file.1) = .ok fetched ∧
          MissingScalar fetched.data) := by
  intro run
  have h : Settled transport maxBytes (mnistBase base) mnistFiles.zipIdx [] run :=
    fetchEach_settled mnistFiles.zipIdx [] (by simp)
  refine ⟨fun splits hs => ?_, h.dropped, fun f hs hp => ?_⟩
  · obtain ⟨hsplits, read, rfl, hread⟩ := h.held splits hs
    exact ⟨hsplits, by simpa using hread⟩
  · obtain ⟨file, hmem, hfile⟩ := h.panicked f hs hp
    exact ⟨file.1, List.fst_mem_of_mem_zipIdx hmem, hfile⟩

/-- One-element image and label files download as four held views. -/
example :
    ((fetchMnist (fun url => if url.endsWith "images-idx3-ubyte.gz" then
        .answer 200 ⟨#[0, 0, 8, 3, 0, 0, 0, 1, 0, 0, 0, 1, 0, 0, 0, 1, 5]⟩
      else .answer 200 ⟨#[0, 0, 8, 1, 0, 0, 0, 1, 7]⟩) 0 "http://m.test").result.toOption.map
        List.length) = some 4 := by
  decide +kernel

/-- Labels of rank two are refused after the training images are read, and the image view
and the rejected label view are both released. -/
example :
    (fetchMnist (fun url => if url.endsWith "images-idx3-ubyte.gz" then
        .answer 200 ⟨#[0, 0, 8, 3, 0, 0, 0, 1, 0, 0, 0, 1, 0, 0, 0, 1, 5]⟩
      else .answer 200 ⟨#[0, 0, 8, 2, 0, 0, 0, 1, 0, 0, 0, 1, 7]⟩) 0 "http://m.test").splits.map
        (fun sp => (sp.name, sp.view.released, sp.storage.released)) =
      [("train-labels-idx1-ubyte.gz", true, true), ("train-images-idx3-ubyte.gz", true, true)] := by
  decide +kernel

end StridedBuffer.Dataset
