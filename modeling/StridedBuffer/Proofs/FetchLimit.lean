import Mathlib
import StridedBuffer.Dataset.Fetch
import StridedBuffer.Proofs.LayoutFit

/-! # Downloads held to the byte limit

A download reads the body, and then the data of a gzip body, through a reader cut one
byte past the limit, so that data over the limit shows and is refused. For every limit
below the largest 64-bit word a successful download is the whole body, or the whole
decompression of a gzip body; it is never a part of either. The count one past the
largest limit wraps below zero and the reader then yields nothing: with that limit every
body arrives empty.
-/

namespace StridedBuffer.Dataset

theorem extract_zero_of_size_le {b : ByteArray} {n : Nat} (h : b.size ≤ n) :
    b.extract 0 n = b := by
  apply ByteArray.ext
  simp [ByteArray.data_extract, h]

theorem byteLimit_pos (maxBytes : Int64) : 0 < (byteLimit maxBytes).toInt := by
  unfold byteLimit
  split
  · exact Int64.lt_iff_toInt_lt.mp ‹_›
  · decide

theorem byteLimit_lt_max {maxBytes : Int64} (h : maxBytes ≠ Int64.maxValue) :
    (byteLimit maxBytes).toInt < 2 ^ 63 - 1 := by
  have hle := Int64.toInt_le maxBytes
  rw [Int64.toInt_maxValue] at hle
  have hne : maxBytes.toInt ≠ 2 ^ 63 - 1 := fun he =>
    h (Int64.toInt_inj.mp (he.trans Int64.toInt_maxValue.symm))
  unfold byteLimit
  split
  · omega
  · decide

theorem readLimited_below_max {limit : Int64} (hpos : 0 ≤ limit.toInt)
    (hmax : limit.toInt < 2 ^ 63 - 1) (s : Gzip.Unpacked) :
    readLimited limit s =
      if s.failed ∧ (s.data.size : Int) ≤ limit.toInt + 1 then .error (.codec .gzip)
      else if limit.toInt < s.data.size then .error (tooLarge limit)
      else .ok s.data := by
  have hwant : (limit + 1).toInt = limit.toInt + 1 :=
    Layout.toInt_add_exact (by rw [Int64.toInt_one]; omega) (by rw [Int64.toInt_one]; omega)
  have hasked : ¬ limit + 1 ≤ 0 := by
    rw [Int64.le_iff_toInt_le, hwant, Int64.toInt_zero]
    omega
  unfold readLimited
  simp only [hasked, if_false, hwant, Bool.and_eq_true, decide_eq_true_eq,
    ByteArray.size_extract]
  have hcut : (((limit.toInt + 1).toNat : Nat) : Int) = limit.toInt + 1 :=
    Int.toNat_of_nonneg (by omega)
  by_cases hbreak : s.failed = true ∧ (s.data.size : Int) ≤ limit.toInt + 1
  · obtain ⟨hf, hsize⟩ := hbreak
    rw [if_pos ⟨hf, by omega⟩, if_pos ⟨hf, hsize⟩]
  · rw [if_neg (fun h => hbreak ⟨h.1, by omega⟩), if_neg hbreak]
    by_cases hover : limit.toInt < s.data.size
    · rw [if_pos (by omega), if_pos hover]
    · rw [if_neg (by omega), if_neg hover, extract_zero_of_size_le (by omega)]

theorem readLimited_max (s : Gzip.Unpacked) :
    readLimited Int64.maxValue s = .ok ByteArray.empty := by
  unfold readLimited
  rw [if_pos (by decide)]

theorem receive_below_max {maxBytes : Int64} (hmax : maxBytes ≠ Int64.maxValue)
    (target : Web.Url) (b : ByteArray) :
    receive maxBytes target (.answer 200 b) =
      if (byteLimit maxBytes).toInt < b.size then .error (tooLarge (byteLimit maxBytes))
      else if Gzip.isGzip b = false then .ok ⟨b.size, b⟩
      else if (Gzip.unpack b).failed ∧
          ((Gzip.unpack b).data.size : Int) ≤ (byteLimit maxBytes).toInt + 1 then
        .error (.context "gzip" (.codec .gzip))
      else if (byteLimit maxBytes).toInt < (Gzip.unpack b).data.size then
        .error (.context "gzip" (tooLarge (byteLimit maxBytes)))
      else .ok ⟨b.size, (Gzip.unpack b).data⟩ := by
  have hpos := (byteLimit_pos maxBytes).le
  have hlt := byteLimit_lt_max hmax
  have h200 : ((200 : Int) != 200) = false := rfl
  simp only [receive, h200, Bool.false_eq_true, if_false, readLimited_below_max hpos hlt,
    false_and]
  by_cases hover : (byteLimit maxBytes).toInt < b.size
  · simp only [hover, if_true, bind, Except.bind]
  simp only [hover, if_false, bind, Except.bind]
  cases hg : Gzip.isGzip b
  · simp only [Bool.not_false, if_true, pure, Except.pure]
  simp only [Bool.not_true, Bool.false_eq_true, Bool.true_eq_false, if_false]
  by_cases hbreak : (Gzip.unpack b).failed = true ∧
      ((Gzip.unpack b).data.size : Int) ≤ (byteLimit maxBytes).toInt + 1
  · simp only [hbreak, and_self, if_true, Outcome.within]
  simp only [hbreak, if_false]
  by_cases hlarge : (byteLimit maxBytes).toInt < (Gzip.unpack b).data.size
  · simp only [hlarge, if_true, Outcome.within]
  · simp only [hlarge, if_false, Outcome.within, pure, Except.pure]

theorem receive_max (target : Web.Url) (b : ByteArray) :
    receive Int64.maxValue target (.answer 200 b) = .ok ⟨0, ByteArray.empty⟩ := by
  have hlimit : byteLimit Int64.maxValue = Int64.maxValue := rfl
  simp only [receive, show ((200 : Int) != 200) = false from rfl, Bool.false_eq_true, if_false,
    hlimit, readLimited_max, bind, Except.bind]
  rfl

/-! ## How a download fails -/

theorem readLimited_error_kind {limit : Int64} {s : Gzip.Unpacked} {f : Fault}
    (h : readLimited limit s = .error f) : f.kind = .error ∨ f.kind = .gzip := by
  unfold readLimited at h
  dsimp only at h
  split at h
  · cases h
  split at h
  · cases h
    exact .inr rfl
  split at h
  · cases h
    exact .inl rfl
  · cases h

theorem receive_error_kind {maxBytes : Int64} {target : Web.Url} {r : Reply} {f : Fault}
    (h : receive maxBytes target r = .error f) : f.kind = .error ∨ f.kind = .gzip := by
  cases r with
  | refused =>
    cases h
    exact .inl rfl
  | answer status body =>
    simp only [receive, bind, Except.bind, pure, Except.pure, throw, throwThe,
      MonadExceptOf.throw] at h
    split at h
    · cases h
      exact .inl rfl
    cases hraw : readLimited (byteLimit maxBytes) ⟨body, false⟩ with
    | error e =>
      rw [hraw] at h
      cases h
      exact readLimited_error_kind hraw
    | ok raw =>
      rw [hraw] at h
      dsimp only at h
      split at h
      · cases h
      cases hdata : readLimited (byteLimit maxBytes) (Gzip.unpack raw) with
      | error e =>
        rw [hdata] at h
        cases h
        rw [Fault.kind_context]
        exact readLimited_error_kind hdata
      | ok data =>
        rw [hdata] at h
        cases h

theorem fetchFile_error_kind {transport : Transport} {maxBytes : Int64} {url : String}
    {f : Fault} (h : fetchFile transport maxBytes url = .error f) :
    f.kind = .error ∨ f.kind = .gzip := by
  unfold fetchFile fetchBy at h
  split at h
  · cases h
    exact .inl rfl
  · rename_i target _
    change Outcome.within ("fetch " ++ url) (receive maxBytes target (transport target.text)) =
      .error f at h
    cases hr : receive maxBytes target (transport target.text) with
    | error e =>
      rw [hr] at h
      cases h
      rw [Fault.kind_context]
      exact receive_error_kind hr
    | ok r =>
      rw [hr] at h
      cases h

/-! ## What a download delivers -/

/-- What a 200 reply with body `b` delivers. Below the largest limit: a plain body within
the limit is delivered exactly; a gzip body within the limit whose stream decompresses to
`g` within the limit delivers exactly `g`; a body or a decompression over the limit fails;
and whatever is delivered is the whole body or the whole decompression of an unbroken
stream, never a part. At the largest limit every body is delivered empty. -/
theorem fetch_whole_body_or_failure (maxBytes : Int64) (target : Web.Url) (b g : ByteArray) :
    let limit := (byteLimit maxBytes).toInt
    let got := (receive maxBytes target (.answer 200 b)).map Fetched.data
    (maxBytes ≠ Int64.maxValue →
      (Gzip.isGzip b = false → (b.size : Int) ≤ limit → got = .ok b) ∧
      (Gzip.isGzip b = true → (b.size : Int) ≤ limit → Gzip.unpack b = ⟨g, false⟩ →
        (g.size : Int) ≤ limit → got = .ok g) ∧
      (limit < b.size → ∃ f, got = .error f) ∧
      (Gzip.isGzip b = true → Gzip.unpack b = ⟨g, false⟩ → limit < g.size → ∃ f, got = .error f) ∧
      (∀ d, got = .ok d →
        (Gzip.isGzip b = false ∧ d = b) ∨ (Gzip.isGzip b = true ∧ Gzip.unpack b = ⟨d, false⟩))) ∧
    (maxBytes = Int64.maxValue → got = .ok ByteArray.empty) := by
  intro limit got
  refine ⟨fun hmax => ?_, fun hmax => ?_⟩
  swap
  · subst hmax
    simp only [got, receive_max, Except.map]
  have hgot := receive_below_max hmax target b
  refine ⟨fun hg hsize => ?_, fun hg hsize hun hgsize => ?_, fun hover => ?_,
    fun hg hun hover => ?_, fun d hd => ?_⟩
  · simp [got, hgot, hg, limit, not_lt.mpr hsize, Except.map]
  · simp [got, hgot, hg, hun, limit, not_lt.mpr hsize, not_lt.mpr hgsize, Except.map]
  · simp [got, hgot, limit, hover, Except.map]
  · by_cases hsize : limit < b.size
    · simp [got, hgot, limit, hsize, Except.map]
    · simp [got, hgot, limit, hsize, hg, hun, hover, Except.map]
  · simp only [got, hgot] at hd
    split_ifs at hd with hover hplain hbreak hlarge
    · cases hd
    · cases hd
      exact .inl ⟨hplain, rfl⟩
    · cases hd
    · cases hd
    · cases hd
      have hfailed : (Gzip.unpack b).failed = false := by
        by_contra hf
        exact hbreak ⟨by simpa using hf, by omega⟩
      refine .inr ⟨by simpa using hplain, ?_⟩
      rw [← hfailed]

/-- The one-byte body `41`, plain and within the largest limit, is delivered empty. -/
theorem largest_limit_delivers_nothing :
    Gzip.isGzip ⟨#[0x41]⟩ = false ∧ (1 : Int) ≤ (byteLimit Int64.maxValue).toInt ∧
      ((fetchFile (fun _ => .answer 200 ⟨#[0x41]⟩) Int64.maxValue "http://data.test/f").map
        Fetched.data).toOption = some ByteArray.empty :=
  ⟨by decide, by decide, by decide +kernel⟩

end StridedBuffer.Dataset
