import StridedBuffer.Buffer.Flags

/-! # Flag sets read back from their text

A flag set read from text is the union of the flags its names stand for. The named flags
close under union to sixteen sets: writing or not, the format or not, and one layout level,
since the richer layout flags contain the poorer ones. The text of a flag set names just
those parts, so reading the text back gives the set itself exactly when the set is such a
union, and the text tells apart any two sets that can be read.
-/

namespace StridedBuffer.Flags

/-- How much of a layout a request understands. -/
inductive Level where
  | none
  | nd
  | strides
  | cContiguous
  deriving DecidableEq

def Level.bits : Level → Flags
  | .none => Flags.simple
  | .nd => Flags.nd
  | .strides => Flags.strides
  | .cContiguous => Flags.cContiguous

def Level.join : Level → Level → Level
  | .none, l => l
  | l, .none => l
  | .cContiguous, _ => .cContiguous
  | _, .cContiguous => .cContiguous
  | .strides, _ => .strides
  | _, .strides => .strides
  | .nd, .nd => .nd

theorem Level.bits_join (l l' : Level) : (l.join l').bits = l.bits ||| l'.bits := by
  cases l <;> cases l' <;> rfl

def part (given : Bool) (f : Flags) : Flags := if given then f else simple

theorem part_or (b b' : Bool) (f : Flags) : part (b || b') f = part b f ||| part b' f := by
  cases b <;> cases b' <;> simp [part, simple]

/-- A union of named flags: writable or not, the format or not, and one layout level. -/
structure Named where
  writable : Bool
  format : Bool
  level : Level
  deriving DecidableEq

def Named.bits (n : Named) : Flags :=
  part n.writable Flags.writable ||| part n.format Flags.format ||| n.level.bits

def Named.union (n m : Named) : Named :=
  ⟨n.writable || m.writable, n.format || m.format, n.level.join m.level⟩

theorem Named.bits_union (n m : Named) : (n.union m).bits = n.bits ||| m.bits := by
  simp only [Named.bits, Named.union, part_or, Level.bits_join]
  ac_rfl

/-- Flag sets that are a union of named flags. -/
def IsNamed (f : Flags) : Prop := ∃ n : Named, n.bits = f

theorem isNamed_simple : IsNamed simple := ⟨⟨false, false, .none⟩, rfl⟩

theorem IsNamed.or {f g : Flags} (hf : IsNamed f) (hg : IsNamed g) : IsNamed (f ||| g) := by
  obtain ⟨n, rfl⟩ := hf
  obtain ⟨m, rfl⟩ := hg
  exact ⟨n.union m, n.bits_union m⟩

theorem named?_isNamed {key : String} {g : Flags} (h : named? key = some g) : IsNamed g := by
  unfold named? at h
  split at h <;> cases h
  · exact isNamed_simple
  · exact ⟨⟨true, false, .none⟩, rfl⟩
  · exact ⟨⟨false, true, .none⟩, rfl⟩
  · exact ⟨⟨false, false, .nd⟩, rfl⟩
  · exact ⟨⟨false, false, .strides⟩, rfl⟩
  · exact ⟨⟨false, false, .cContiguous⟩, rfl⟩
  · exact ⟨⟨true, true, .strides⟩, rfl⟩
  · exact ⟨⟨true, true, .strides⟩, rfl⟩

theorem parse_isNamed {s : String} {f : Flags} (h : parse s = .ok f) : IsNamed f := by
  unfold parse at h
  generalize Text.fieldsBy _ s = fields at h
  have hacc := isNamed_simple
  generalize simple = acc at h hacc
  induction fields generalizing acc with
  | nil =>
    cases h
    exact hacc
  | cons field rest ih =>
    rw [List.foldlM_cons] at h
    cases hk : named? (key field) with
    | none =>
      simp only [hk] at h
      cases h
    | some bits =>
      simp only [hk] at h
      exact ih (acc ||| bits) h (hacc.or (named?_isNamed hk))

theorem parse_text_bits (n : Named) : parse (text n.bits) = .ok n.bits := by
  obtain ⟨w, f, l⟩ := n
  cases w <;> cases f <;> cases l <;> rfl

theorem parse_text_of_isNamed {f : Flags} (hf : IsNamed f) : parse (text f) = .ok f := by
  obtain ⟨n, rfl⟩ := hf
  exact parse_text_bits n

/-- Reading flags gives a union of names; the text of a flag set reads back as the set
exactly when the set is such a union; and so two flag sets that can be read have the same
text only if they are equal. -/
theorem text_reads_back_iff_named :
    (∀ s f, parse s = .ok f → IsNamed f) ∧
    (∀ f : Flags, parse (text f) = .ok f ↔ IsNamed f) ∧
    (∀ s s' f f', parse s = .ok f → parse s' = .ok f' → text f = text f' → f = f') := by
  refine ⟨fun _ _ h => parse_isNamed h, fun f => ⟨parse_isNamed, parse_text_of_isNamed⟩, ?_⟩
  intro s s' f f' h h' htext
  have hback : parse (text f) = .ok f' := htext ▸ parse_text_of_isNamed (parse_isNamed h')
  rw [parse_text_of_isNamed (parse_isNamed h)] at hback
  exact Except.ok.inj hback

/-- A bit outside every name has an empty text, which reads as no flags. -/
example : parse (text 2) = .ok simple := by rfl

end StridedBuffer.Flags
