import StridedBuffer.Config.Settings
import StridedBuffer.Yaml.Parser
import StridedBuffer.Yaml.Resolve

/-! # Reading settings from YAML

A settings file is a YAML mapping with the sections `datasets`, `preview`, `snapshot`
and `log`. Each value found replaces the default; a null value, a missing key and an
unknown key leave it alone. A mapping with two equal keys, a key that is a collection, a
value of the wrong kind or a field given twice is an error, as is text that is not YAML.

Values convert as follows: any scalar gives text; an integer field takes an integer, or
a float rounded toward zero; a flag takes a boolean or one of the words `y`, `yes`, `on`,
`n`, `no`, `off` in their usual capitalisations; a timeout takes a duration text such as
`30s`, never a bare number. A scalar's tag decides what it stands for (see
`resolveScalar`); a scalar whose tag does not fit its spelling is an error. A merge key
`<<` brings in the fields of the mappings it stands for.
-/

namespace StridedBuffer.Config

open Yaml Binary

/-- The node an alias refers to; any other node is itself. -/
def targetOf (d : Document) : Node → Node
  | .alias _ slot => d.anchors.getD slot Node.empty
  | n => n

/-- What identifies a key when keys are compared: its kind and its text. -/
def keyIdentity : Node → Nat × String
  | .scalar t _ _ => (0, t)
  | .sequence _ => (1, "")
  | .mapping _ => (2, "")
  | .alias name _ => (3, name)

/-- Whether two keys of a mapping are the same. -/
def hasRepeatedKey (pairs : List (Node × Node)) : Bool :=
  let ids := pairs.map (keyIdentity ·.1)
  ids.eraseDups.length != ids.length

/-- Whether a key is the merge key: a plain `<<` without a tag, or tagged `!` or
`!!merge`. -/
def isMergeKey : Node → Bool
  | .scalar t style tag => t == "<<" && style == .plain && scalarTag t style tag == "!!merge"
  | _ => false

/-- The field name a key gives: `none` for a null key, which is skipped. -/
def keyName (d : Document) (k : Node) : Except Unit (Option String) :=
  match targetOf d k with
  | .scalar t st tag => do
      match ← resolveScalar t st tag with
      | .null => pure none
      | .text s => pure (some s)
      | _ => pure (some t)
  | _ => .error ()

/-- Whether a node, seen through an alias, is a mapping. -/
def isMappingNode (d : Document) (n : Node) : Bool :=
  match targetOf d n with
  | .mapping _ => true
  | _ => false

/-- The text a key stands for when keys are compared across a merge: only a key that
reads as text has one. -/
def mergeName (d : Document) (k : Node) : Except Unit (Option String) :=
  match targetOf d k with
  | .scalar t st tag => do
      match ← resolveScalar t st tag with
      | .text s => pure (some s)
      | _ => pure none
  | _ => .error ()

/-- The state of reading a mapping: the value read so far, the names of the keys a merge
has seen (`none` outside a merge), the fields set, and the value of the merge key. -/
structure FieldsState (σ : Type) where
  value : σ
  merged : Option (List String)
  done : List String
  mergeValue : Option Node

mutual

/-- Reads a mapping onto a value field by field; `field` gives the setter of a known
field name, and a null scalar leaves the value alone.

Inside a merge, `merged` holds the key names already seen: a key among them is skipped,
and every other key is added. A merge key `<<` is applied after the mapping's other keys,
so those win over it; its mappings start from the names of all the mapping's keys, and
an earlier mapping of a sequence wins over a later one. The result also gives the names
seen, for the merge this mapping belongs to. -/
def decodeFields {σ : Type} (d : Document) (field : String → Option (Node → σ → Except Unit σ)) :
    Nat → Node → σ × Option (List String) → Except Unit (σ × Option (List String))
  | 0, _, _ => .error ()
  | fuel + 1, n, (init, merged) =>
    match targetOf d n with
    | .scalar t st tag => do
        match ← resolveScalar t st tag with
        | .null => pure (init, merged)
        | _ => .error ()
    | .mapping pairs => do
        if hasRepeatedKey pairs then throw ()
        let step := fun (acc : FieldsState σ) (pair : Node × Node) => do
          if isMergeKey pair.1 then return { acc with mergeValue := some pair.2 }
          match ← keyName d pair.1 with
          | none => pure acc
          | some name =>
              if (acc.merged.map (·.contains name)).getD false then return acc
              let acc := { acc with merged := acc.merged.map (· ++ [name]) }
              match field name with
              | none => pure acc
              | some set =>
                  if acc.done.contains name then throw ()
                  pure { acc with value := ← set pair.2 acc.value, done := name :: acc.done }
        let r ← pairs.foldlM step ⟨init, merged, [], none⟩
        match r.mergeValue with
        | none => pure (r.value, r.merged)
        | some m =>
            let names ← match r.merged with
              | some names => pure names
              | none => pure ((← pairs.mapM fun kv => mergeName d kv.1).filterMap id)
            let (value, names) ← mergeFields d field fuel m (r.value, names)
            pure (value, r.merged.map fun _ => names)
    | _ => .error ()

/-- Applies the value of a merge key with the key names seen so far: a mapping, an alias
of one, or a sequence of those, applied first to last. -/
def mergeFields {σ : Type} (d : Document) (field : String → Option (Node → σ → Except Unit σ)) :
    Nat → Node → σ × List String → Except Unit (σ × List String)
  | 0, _, _ => .error ()
  | fuel + 1, n, (init, names) =>
    let one := fun (item : Node) (acc : σ × List String) =>
      if isMappingNode d item then do
        let (value, seen) ← decodeFields d field fuel item (acc.1, some acc.2)
        pure (value, seen.getD acc.2)
      else .error ()
    match n with
    | .sequence items =>
        if items.all (isMappingNode d) then items.foldlM (fun acc item => one item acc) (init, names)
        else .error ()
    | _ => one n (init, names)

end

/-- The scalar a value node stands for; `none` for a collection, and a failure for a
scalar whose tag its spelling does not fit. -/
def scalarOf (d : Document) (n : Node) : Except Unit (Option Resolved) :=
  match targetOf d n with
  | .scalar t st tag => (resolveScalar t st tag).map some
  | _ => .ok none

/-- A text field: any scalar gives its text, base64 data its bytes. -/
def decodeText (d : Document) (n : Node) (current : String) : Except Unit String :=
  match targetOf d n with
  | .scalar t st tag => do
      match ← resolveScalar t st tag with
      | .null => pure current
      | .text s => pure (if scalarTag t st tag == "!!binary" then s else t)
      | _ => pure t
  | _ => .error ()

/-- The spellings a flag also takes for true. -/
def yesWords : List String := ["y", "Y", "yes", "Yes", "YES", "on", "On", "ON"]

/-- The spellings a flag also takes for false. -/
def noWords : List String := ["n", "N", "no", "No", "NO", "off", "Off", "OFF"]

/-- A flag field. -/
def decodeFlag (d : Document) (n : Node) (current : Bool) : Except Unit Bool := do
  match ← scalarOf d n with
  | some .null => .ok current
  | some (.bool b) => .ok b
  | some (.text s) =>
      if yesWords.contains s then .ok true
      else if noWords.contains s then .ok false
      else .error ()
  | _ => .error ()

/-- The 64-bit integer a double converts to, rounding toward zero; a value below the
range, and exactly its top, give the least integer. `none` for a NaN and for values
past the top. -/
def doubleToWord (bits : Nat) : Option Int :=
  let f := Format.double
  let neg := f.negative bits
  let top : Nat := Nat.pow 2 63
  match f.magnitude bits with
  | .nan => none
  | .infinite => if neg then some (-(top : Int)) else none
  | .zero => some 0
  | .finite m e =>
      let v : Binary.Dyadic := ⟨m, e⟩
      if neg then (if v.atLeast top then some (-(top : Int)) else some (-(v.floor : Int)))
      else if v.atLeast top then (if v.atMost top then some (-(top : Int)) else none)
      else some v.floor

/-- An integer field. -/
def decodeCount (d : Document) (n : Node) (current : Int) : Except Unit Int := do
  match ← scalarOf d n with
  | some .null => .ok current
  | some (.int i) => .ok i
  | some (.float bits) =>
      match doubleToWord bits with
      | some i => .ok i
      | none => .error ()
  | _ => .error ()

/-- A duration field. -/
def decodeDuration (d : Document) (n : Node) (current : Int) : Except Unit Int := do
  match ← scalarOf d n with
  | some .null => .ok current
  | some (.text s) =>
      match Clock.parseDuration s with
      | some v => .ok v
      | none => .error ()
  | _ => .error ()

/-- The setter of a field of the `datasets` section. -/
def datasetsField (d : Document) (name : String) : Option (Node → Settings → Except Unit Settings) :=
  if name == "base_url" then
    some fun n s => do return { s with baseUrl := ← decodeText d n s.baseUrl }
  else if name == "timeout" then
    some fun n s => do return { s with timeout := ← decodeDuration d n s.timeout }
  else none

/-- The setter of a field of the `preview` section. -/
def previewField (d : Document) (name : String) : Option (Node → Settings → Except Unit Settings) :=
  if name == "max_elements" then
    some fun n s => do return { s with maxElements := ← decodeCount d n s.maxElements }
  else none

/-- The setter of a field of the `snapshot` section. -/
def snapshotField (d : Document) (name : String) : Option (Node → Settings → Except Unit Settings) :=
  if name == "compress" then
    some fun n s => do return { s with compress := ← decodeFlag d n s.compress }
  else none

/-- The setter of a field of the `log` section. -/
def logField (d : Document) (name : String) : Option (Node → Settings → Except Unit Settings) :=
  if name == "level" then
    some fun n s => do return { s with level := ← decodeText d n s.level }
  else none

/-- The setter of a section; `fuel` bounds how deep merges may nest. -/
def sectionField (d : Document) (fuel : Nat) (name : String) :
    Option (Node → Settings → Except Unit Settings) :=
  let within := fun (field : String → Option (Node → Settings → Except Unit Settings)) =>
    some fun (n : Node) (s : Settings) => (decodeFields d field fuel n (s, none)).map (·.1)
  if name == "datasets" then within (datasetsField d)
  else if name == "preview" then within (previewField d)
  else if name == "snapshot" then within (snapshotField d)
  else if name == "log" then within (logField d)
  else none

/-- Reads a YAML text over the given settings. -/
def decodeSettings (text : String) (init : Settings) : Except Unit Settings := do
  match ← Yaml.parseYaml text with
  | none => pure init
  | some d =>
      let fuel := 2 * text.length + d.anchors.size + 4
      (decodeFields d (sectionField d fuel) fuel d.root (init, none)).map (·.1)

/-- The settings a YAML text gives over the defaults, checked. -/
def Settings.parse (text : String) : Outcome Settings := do
  let s ← match decodeSettings text Settings.default with
    | .ok s => pure s
    | .error _ => throw (.context "parsing yaml" (.codec .yaml))
  s.validate
  return s

end StridedBuffer.Config
