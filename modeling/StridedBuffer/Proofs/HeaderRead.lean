import Mathlib
import StridedBuffer.Snapshot.Header
import StridedBuffer.Proofs.CborRead
import StridedBuffer.Proofs.TimeText

/-! # Reading back an encoded header

The encoder writes a header as one map of text keys. Decoding that map with the default
limits gives back every field: the words of the shape and strides, the lengths, the
checksum, the time in UTC and the metadata in the encoder's key order. The limits that
matter are the 64 items of an array, which bounds the rank, and the map size, which bounds
the number of metadata entries.
-/

namespace StridedBuffer.Snapshot

open Cbor Clock

section Items

theorem textOf_single (s : String) : textOf [s.toByteArray] = some s := by
  simp [textOf, String.fromUTF8?, String.fromUTF8, s.isValidUTF8]

theorem asText_textItem (s : String) : asText (textItem s) = some s := by
  simp [asText, untag, textItem, textOf, String.fromUTF8?, String.fromUTF8, s.isValidUTF8]

@[simp] theorem tagsAdmit_intItem (i : Int) : tagsAdmit (intItem i) = true := by
  unfold intItem; split <;> rfl

@[simp] theorem isVoid_intItem (i : Int) : isVoid (intItem i) = false := by
  unfold intItem; split <;> rfl

theorem integerOf_intItem (i : Int) : integerOf (intItem i) = some i := by
  unfold intItem
  split
  · simp [integerOf, untag]; omega
  · simp [integerOf, untag]; omega

theorem asWord_intItem (x : Int64) : asWord (intItem x.toInt) = some x := by
  have := x.toInt_lt
  have := x.le_toInt
  simp [asWord, integerOf_intItem, maxWord, Nat.pow_eq]
  omega

theorem asWords_ints (xs : List Int64) :
    asWords (.array ((xs.map Int64.toInt).map intItem)) = some xs := by
  simp only [asWords, untag]
  induction xs with
  | nil => rfl
  | cons x xs ih =>
    simp only [List.map_cons, List.mapM_cons, tagsAdmit_intItem, isVoid_intItem, asWord_intItem,
      ih, Bool.not_true, Bool.false_eq_true, if_false]
    rfl

@[simp] theorem tagsAdmit_textItem (s : String) : tagsAdmit (textItem s) = true := rfl

@[simp] theorem isVoid_textItem (s : String) : isVoid (textItem s) = false := rfl

theorem metadataEntry_text (entries : List (String × String)) (k0 v0 k v : String) :
    metadataEntry (entries, k0, v0) (textItem k, textItem v) =
      some (entries.filter (·.1 != k) ++ [(k, v)], k, v) := by
  simp [metadataEntry, asText_textItem]

end Items

section Metadata

theorem foldlM_metadataEntry (ms : List (String × String)) :
    ∀ (entries : List (String × String)) (k0 v0 : String),
    (∀ kv ∈ ms, ∀ e ∈ entries, e.1 ≠ kv.1) → (ms.map Prod.fst).Nodup →
    ∃ k v, (ms.map fun kv => (textItem kv.1, textItem kv.2)).foldlM metadataEntry
      (entries, k0, v0) = some (entries ++ ms, k, v) := by
  induction ms with
  | nil => exact fun entries k0 v0 _ _ => ⟨k0, v0, by simp⟩
  | cons kv ms ih =>
    intro entries k0 v0 hfresh hnd
    obtain ⟨k, v⟩ := kv
    rw [List.map_cons, List.nodup_cons] at hnd
    have hkeep : entries.filter (·.1 != k) = entries :=
      List.filter_eq_self.mpr fun e he => by simpa using hfresh (k, v) (by simp) e he
    have hfresh' : ∀ kv ∈ ms, ∀ e ∈ entries ++ [(k, v)], e.1 ≠ kv.1 := by
      intro kv hkv e he
      rcases List.mem_append.mp he with he | he
      · exact hfresh kv (by simp [hkv]) e he
      · rw [List.mem_singleton.mp he]
        exact fun hk => hnd.1 (hk ▸ List.mem_map_of_mem hkv)
    obtain ⟨k', v', hrest⟩ := ih (entries ++ [(k, v)]) k v hfresh' hnd.2
    refine ⟨k', v', ?_⟩
    rw [List.map_cons, List.foldlM_cons, metadataEntry_text, hkeep]
    simpa using hrest

theorem asTextMap_map {ms : List (String × String)} (hnd : (ms.map Prod.fst).Nodup) :
    asTextMap (.map (ms.map fun kv => (textItem kv.1, textItem kv.2))) = some ms := by
  obtain ⟨k, v, h⟩ := foldlM_metadataEntry ms [] "" "" (by simp) hnd
  simp [asTextMap, untag, h]

end Metadata

section Encoding

/-- The order the writer puts metadata in: shorter keys first, then bytewise. -/
def metadataOrder (a b : String × String) : Bool :=
  decide (a.1.utf8ByteSize < b.1.utf8ByteSize) ||
    (a.1.utf8ByteSize == b.1.utf8ByteSize && decide (a.1 ≤ b.1))

/-- The key and value items of a header's map, in the order the writer puts them. -/
def Header.items (h : Header) : List (Item × Item) :=
  [(textItem "shape", .array ((h.shape.map Int64.toInt).map intItem)),
    (textItem "format", textItem h.format),
    (textItem "strides", .array ((h.strides.map Int64.toInt).map intItem)),
    (textItem "byte_len", intItem h.byteLen.toInt), (textItem "checksum", .bytes h.checksum)] ++
  (if h.metadata.isEmpty then [] else
    [(textItem "metadata",
      .map ((h.metadata.mergeSort metadataOrder).map fun kv => (textItem kv.1, textItem kv.2)))]) ++
  [(textItem "created_at", textItem (h.createdAt.utc.text true)),
    (textItem "payload_len", intItem h.payloadLen.toInt)]

theorem forall₂_textPairs (lim : Limits) (d : Nat) (ms : List (String × String)) :
    List.Forall₂ (fun e x => Reads lim d e.1 x.1 ∧ Reads lim d e.2 x.2)
      (ms.map fun kv => (encodeText kv.1, encodeText kv.2))
      (ms.map fun kv => (textItem kv.1, textItem kv.2)) := by
  induction ms with
  | nil => exact .nil
  | cons kv ms ih => exact .cons ⟨reads_encodeText _, reads_encodeText _⟩ ih

theorem word_range (xs : List Int64) :
    ∀ x ∈ xs.map Int64.toInt, -2 ^ 64 ≤ x ∧ x < 2 ^ 64 := by
  intro x hx
  obtain ⟨y, -, rfl⟩ := List.mem_map.mp hx
  have := y.toInt_lt
  have := y.le_toInt
  omega

theorem reads_encode (h : Header) (hshape : h.shape.length ≤ 64)
    (hstrides : h.strides.length ≤ 64)
    (hmeta : h.metadata.length ≤ 131072) : Reads {} 0 h.encode (.map h.items) := by
  have hlo := h.byteLen.le_toInt
  have hhi := h.byteLen.toInt_lt
  have plo := h.payloadLen.le_toInt
  have phi := h.payloadLen.toInt_lt
  unfold Header.encode Header.items
  apply reads_encodeMap _ (by split <;> simp) (by decide)
  simp only [List.map_append]
  refine List.rel_append (List.rel_append ?_ ?_) ?_
  · refine .cons ⟨reads_encodeText _, reads_encodeInts _ (word_range _) (by simpa using hshape)
      (by decide)⟩ ?_
    refine .cons ⟨reads_encodeText _, reads_encodeText _⟩ ?_
    refine .cons ⟨reads_encodeText _, reads_encodeInts _ (word_range _) (by simpa using hstrides)
      (by decide)⟩ ?_
    refine .cons ⟨reads_encodeText _, reads_encodeInt (by omega) (by omega)⟩ ?_
    exact .cons ⟨reads_encodeText _, reads_encodeBytes _⟩ .nil
  · split
    · exact .nil
    · exact .cons ⟨reads_encodeText _, reads_encodeMap (forall₂_textPairs _ _ _)
        (by simpa using hmeta) (by decide)⟩ .nil
  · refine .cons ⟨reads_encodeText _, reads_encodeText _⟩ ?_
    exact .cons ⟨reads_encodeText _, reads_encodeInt (by omega) (by omega)⟩ .nil

end Encoding

section Fields

theorem fieldOf_fieldNames {f : String} (hf : f ∈ fieldNames) : fieldOf f = some f := by
  simp only [fieldNames, List.mem_cons, List.not_mem_nil, or_false] at hf
  rcases hf with rfl | rfl | rfl | rfl | rfl | rfl | rfl | rfl <;> decide

theorem asTime_textItem {t : Instant} (hlo : -62167219200 ≤ t.seconds)
    (hhi : t.seconds < 253402300800) (hn : t.nanos < 1000000000) :
    asTime (textItem (t.utc.text true)) = some t.utc := by
  simp [asTime, stripTags, textItem, textOf, String.fromUTF8?, String.fromUTF8,
    String.isValidUTF8, parse_text_utc t hlo hhi hn]

theorem readEntries_field {h : Header} {seen : List String} {f : String} (hf : f ∈ fieldNames)
    (hseen : f ∉ seen) (v : Item) (rest : List (Item × Item)) :
    readEntries h seen ((textItem f, v) :: rest) =
      (setField h f v).bind fun h' => readEntries h' (f :: seen) rest := by
  simp [readEntries, textItem, textOf_single, fieldOf_fieldNames hf, hseen]

theorem setField_shape (h : Header) (xs : List Int64) :
    setField h "shape" (.array ((xs.map Int64.toInt).map intItem)) =
      some { h with shape := xs } := by
  simpa [setField, tagsAdmit, isVoid, isNil, untag] using asWords_ints xs

theorem setField_strides (h : Header) (xs : List Int64) :
    setField h "strides" (.array ((xs.map Int64.toInt).map intItem)) =
      some { h with strides := xs } := by
  simpa [setField, tagsAdmit, isVoid, isNil, untag] using asWords_ints xs

theorem setField_format (h : Header) (s : String) :
    setField h "format" (textItem s) = some { h with format := s } := by
  simp [setField, asText_textItem]

theorem setField_byteLen (h : Header) (x : Int64) :
    setField h "byte_len" (intItem x.toInt) = some { h with byteLen := x } := by
  simp [setField, asWord_intItem]

theorem setField_payloadLen (h : Header) (x : Int64) :
    setField h "payload_len" (intItem x.toInt) = some { h with payloadLen := x } := by
  simp [setField, asWord_intItem]

theorem setField_checksum (h : Header) (b : ByteArray) :
    setField h "checksum" (.bytes b) = some { h with checksum := b } := by
  simp [setField, tagsAdmit, isVoid, isNil, untag, asBytes]

theorem setField_metadata (h : Header) {ms : List (String × String)}
    (hnd : (ms.map Prod.fst).Nodup) :
    setField h "metadata" (.map (ms.map fun kv => (textItem kv.1, textItem kv.2))) =
      some { h with metadata := ms } := by
  simp [setField, tagsAdmit, isVoid, isNil, untag, asTextMap_map hnd]

theorem setField_createdAt (h : Header) {t : Instant} (hlo : -62167219200 ≤ t.seconds)
    (hhi : t.seconds < 253402300800) (hn : t.nanos < 1000000000) :
    setField h "created_at" (textItem (t.utc.text true)) = some { h with createdAt := t.utc } := by
  simp [setField, asTime_textItem hlo hhi hn]

theorem readEntries_set {h h' : Header} {seen : List String} {f : String} {v : Item}
    (hf : f ∈ fieldNames) (hseen : f ∉ seen) (hset : setField h f v = some h')
    (rest : List (Item × Item)) :
    readEntries h seen ((textItem f, v) :: rest) = readEntries h' (f :: seen) rest := by
  rw [readEntries_field hf hseen, hset, Option.bind_some]

theorem readEntries_items (h : Header) (hkeys : (h.metadata.map Prod.fst).Nodup)
    (hlo : -62167219200 ≤ h.createdAt.seconds) (hhi : h.createdAt.seconds < 253402300800)
    (hn : h.createdAt.nanos < 1000000000) :
    readEntries {} [] h.items =
      some { h with
        createdAt := h.createdAt.utc, metadata := h.metadata.mergeSort metadataOrder } := by
  have hsorted : ((h.metadata.mergeSort metadataOrder).map Prod.fst).Nodup :=
    ((List.mergeSort_perm _ _).map Prod.fst).nodup_iff.mpr hkeys
  unfold Header.items
  simp only [List.cons_append, List.nil_append]
  rw [readEntries_set (by decide) (by decide) (setField_shape _ _),
    readEntries_set (by decide) (by decide) (setField_format _ _),
    readEntries_set (by decide) (by decide) (setField_strides _ _),
    readEntries_set (by decide) (by decide) (setField_byteLen _ _),
    readEntries_set (by decide) (by decide) (setField_checksum _ _)]
  cases hm : h.metadata.isEmpty
  · rw [if_neg Bool.false_ne_true, List.cons_append, List.nil_append,
      readEntries_set (by decide) (by decide) (setField_metadata _ hsorted),
      readEntries_set (by decide) (by decide) (setField_createdAt _ hlo hhi hn),
      readEntries_set (by decide) (by decide) (setField_payloadLen _ _)]
    rfl
  · have hnil : h.metadata = [] := List.isEmpty_iff.mp hm
    rw [if_pos rfl, List.nil_append,
      readEntries_set (by decide) (by decide) (setField_createdAt _ hlo hhi hn),
      readEntries_set (by decide) (by decide) (setField_payloadLen _ _)]
    simp [readEntries, hnil]

end Fields

/-- A header decodes from its encoding as itself, with its time in UTC and its metadata
in the writer's order, when it fits the reader's limits: ranks of at most 64, at most
131072 metadata entries with distinct keys, and a time in a year of four digits. -/
theorem decode_encode (h : Header) (hshape : h.shape.length ≤ 64)
    (hstrides : h.strides.length ≤ 64)
    (hmeta : h.metadata.length ≤ 131072) (hkeys : (h.metadata.map Prod.fst).Nodup)
    (hlo : -62167219200 ≤ h.createdAt.seconds) (hhi : h.createdAt.seconds < 253402300800)
    (hn : h.createdAt.nanos < 1000000000) (hsize : h.encode.size < 2 ^ 64) :
    Header.decode h.encode =
      some { h with
        createdAt := h.createdAt.utc, metadata := h.metadata.mergeSort metadataOrder } := by
  rw [Header.decode, decode_of_reads (reads_encode h hshape hstrides hmeta) hsize]
  simp [tagsAdmit, isVoid, isNil, untag, readEntries_items h hkeys hlo hhi hn]

end StridedBuffer.Snapshot
