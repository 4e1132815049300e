import StridedBuffer.Report.Descriptor
import StridedBuffer.Report.Host
import StridedBuffer.Digest.Blake3
import StridedBuffer.Report.Snapshot
import StridedBuffer.Dataset.Idx

/-! # Sessions

A session keeps numbered storages, views, descriptors and host buffers, and runs one
command at a time against them. Numbers are positions in creation order, and only a
successful creation takes a number. A command that panics keeps whatever its counters
did before the panic, and the session goes on. Reading a snapshot and parsing an IDX
file each add a new storage with the one view over it.
-/

namespace StridedBuffer

/-- The objects of a session. A host buffer is the number of the view it owns. -/
structure Bench where
  storages : Array Storage := #[]
  views : Array View := #[]
  descs : Array Descriptor := #[]
  bufs : Array Nat := #[]

/-- The requests of a session. Object numbers are as given, and may name nothing. -/
inductive Request where
  | storage (bytes : ByteArray)
  | storageInfo (id : Int)
  | storageBytes (id : Int)
  | retain (id : Int)
  | releaseStorage (id : Int)
  | pin (id : Int)
  | unpin (id : Int)
  | view (storage : Option Int) (shape : Shape) (strides : List Int64) (code : Int)
  | contiguous (storage : Option Int) (shape : Shape) (code : Int)
  | reshape (view : Int) (shape : Shape) (strides : List Int64)
  | element (view : Int) (indices : List Int64)
  | offset (view : Int) (indices : List Int64)
  | head (view : Int) (limit : Int)
  | preview (view : Int) (limit : Int)
  | text (view : Int)
  | info (view : Int)
  | clone (view : Int)
  | release (view : Int)
  | exportView (view : Int) (flags : Flags)
  | descInfo (desc : Int)
  | descRaw (desc : Int)
  | descOffset (desc : Int) (indices : List Int64)
  | descWrite (desc : Int) (offset : Int) (bytes : ByteArray)
  | descRelease (desc : Int)
  | construct (data : HostData) (shape : Shape) (strides : Option (List Int64))
      (format : List UInt8)
  | wrap (view : Int)
  | bufText (buf : Int)
  | bufReshape (buf : Int) (shape : Shape) (strides : List Int64)
  | bufGet (buf : Int) (flags : Flags)
  | bufRelease (buf : Int)
  | write (view : Int) (opts : Snapshot.WriteOptions) (now : Clock.Instant)
  | read (file : ByteArray) (skipChecksum : Bool) (level : Snapshot.Level)
  | idx (data : ByteArray)

namespace Bench

/-- The entry at a number, or the failure naming what does not exist. -/
def lookup {α : Type} (kind : String) (xs : Array α) (id : Int) : Outcome α :=
  match (if id < 0 then none else xs[id.toNat]?) with
  | some x => .ok x
  | none => .error (.request (kind ++ " " ++ toString id ++ " does not exist"))

/-- A result and the session after it. -/
abbrev Step := Bench × Outcome Doc

/-- The storage of a view. -/
def storageOf (b : Bench) (v : View) : Storage :=
  b.storages.getD v.storage (Storage.ofBytes ByteArray.empty)

def setStorage (b : Bench) (id : Nat) (s : Storage) : Bench :=
  { b with storages := b.storages.setIfInBounds id s }

def setView (b : Bench) (id : Nat) (v : View) : Bench :=
  { b with views := b.views.setIfInBounds id v }

def setDesc (b : Bench) (id : Nat) (d : Descriptor) : Bench :=
  { b with descs := b.descs.setIfInBounds id d }

/-- A step that changes nothing. -/
def pure (b : Bench) (r : Outcome Doc) : Step := (b, r)

/-- The result of a counter change that may have panicked. -/
def counted (b : Bench) (id : Nat) (r : Storage × Option Fault) : Step :=
  let b := b.setStorage id r.1
  match r.2 with
  | some f => (b, .error f)
  | none => (b, .ok (Report.storageCounts r.1))

/-- A storage's counters and, while it is live, its bytes, digest and address state. -/
def storageInfo (s : Storage) : Doc :=
  let base := [("len", Doc.int s.len), ("pinned", .bool s.pinned), ("refs", .int s.refs.toInt),
    ("released", .bool s.released)]
  if s.released then .record base
  else .record (base ++ [("digest", .text (Text.Hex.encode (Blake3.hash s.bytes))),
    ("hex", .text (Text.Hex.encode s.bytes)), ("pointer_null", .bool (s.len == 0))])

/-- Runs `f` on a numbered storage. -/
def withStorage (b : Bench) (id : Int) (f : Nat → Storage → Step) : Step :=
  match lookup "storage" b.storages id with
  | .error e => (b, .error e)
  | .ok s => f id.toNat s

/-- Runs `f` on a numbered view and its storage. -/
def withView (b : Bench) (id : Int) (f : Nat → View → Storage → Step) : Step :=
  match lookup "view" b.views id with
  | .error e => (b, .error e)
  | .ok v => f id.toNat v (b.storageOf v)

/-- Runs `f` on a numbered descriptor and its storage. -/
def withDesc (b : Bench) (id : Int) (f : Nat → Descriptor → Storage → Step) : Step :=
  match lookup "desc" b.descs id with
  | .error e => (b, .error e)
  | .ok d => f id.toNat d (b.storages.getD d.storage (Storage.ofBytes ByteArray.empty))

/-- Runs `f` on the view of a numbered host buffer. -/
def withBuf (b : Bench) (id : Int) (f : Nat → View → Storage → Step) : Step :=
  match lookup "buf" b.bufs id with
  | .error e => (b, .error e)
  | .ok vid => b.withView vid f

/-- Adds a view made over storage `sid`, answering with its number and document. -/
def addView (b : Bench) (made : Outcome (View × Storage)) : Step :=
  match made with
  | .error e => (b, .error e)
  | .ok (v, s) =>
      let b := b.setStorage v.storage s
      let id := b.views.size
      let b := { b with views := b.views.push v }
      (b, (Report.view v s).map fun info => .record [("info", info), ("view", .int id)])

/-- Adds a descriptor, answering with its number and document. -/
def addDesc (b : Bench) (made : Outcome (Descriptor × Storage)) : Step :=
  match made with
  | .error e => (b, .error e)
  | .ok (d, s) =>
      let b := b.setStorage d.storage s
      let id := b.descs.size
      ({ b with descs := b.descs.push d },
        .ok (.record [("desc", .int id), ("info", Report.descriptor d s)]))

/-- Adds a host buffer owning a new view, answering with both numbers and its document. -/
def addBuf (b : Bench) (v : View) (s : Storage) : Step :=
  let b := b.setStorage v.storage s
  let vid := b.views.size
  let bid := b.bufs.size
  let b := { b with views := b.views.push v, bufs := b.bufs.push vid }
  (b, (Report.hostBuffer v s).map fun info =>
    .record [("buf", .int bid), ("info", info), ("view", .int vid)])

/-- The storage a view command targets: none for a missing number. -/
def target (b : Bench) (id : Option Int) : Outcome (Option (Nat × Storage)) :=
  match id with
  | none => .ok none
  | some i => (lookup "storage" b.storages i).map fun s => some (i.toNat, s)

/-- Releases a view, keeping the counters moved by a panicking storage release. -/
def releaseView (b : Bench) (vid : Nat) (v : View) (s : Storage) : Bench × Option Fault :=
  let r := v.release s
  ((b.setView vid r.1).setStorage v.storage r.2.1, r.2.2)

/-- Runs one command. -/
def step (b : Bench) : Request → Step
  | .storage bytes =>
      let id := b.storages.size
      ({ b with storages := b.storages.push (Storage.ofBytes bytes) },
        .ok (.record [("len", .int bytes.size), ("storage", .int id)]))
  | .storageInfo id => b.withStorage id fun _ s => b.pure (.ok (storageInfo s))
  | .storageBytes id => b.withStorage id fun _ s =>
      b.pure (s.data.map fun d => .text (Text.Hex.encode d))
  | .retain id => b.withStorage id fun i s =>
      match s.retain with
      | .ok s => b.counted i (s, none)
      | .error e => (b, .error e)
  | .releaseStorage id => b.withStorage id fun i s => b.counted i s.release
  | .pin id => b.withStorage id fun i s =>
      match s.pin with
      | .ok s => b.counted i (s, none)
      | .error e => (b, .error e)
  | .unpin id => b.withStorage id fun i s => b.counted i s.unpin
  | .view sid shape strides code =>
      match b.target sid with
      | .error e => (b, .error e)
      | .ok t => b.addView (newView t shape strides code)
  | .contiguous sid shape code =>
      match b.target sid with
      | .error e => (b, .error e)
      | .ok t => b.addView (newContiguous t shape code)
  | .reshape id shape strides => b.withView id fun i v s =>
      match v.reshape s shape strides with
      | .error e => (b, .error e)
      | .ok v => (b.setView i v, Report.view v s)
  | .element id indices => b.withView id fun _ v s =>
      b.pure ((v.element s indices).map Report.value)
  | .offset id indices => b.withView id fun _ v _ =>
      b.pure ((v.offset indices).map fun o => .int o.toInt)
  | .head id limit => b.withView id fun _ v s =>
      b.pure ((v.head s limit).map fun vs => .list (vs.map Report.value))
  | .preview id limit => b.withView id fun _ v s => b.pure ((v.preview s limit).map .text)
  | .text id => b.withView id fun _ v s => b.pure ((v.text s).map .text)
  | .info id => b.withView id fun _ v s => b.pure (Report.view v s)
  | .clone id => b.withView id fun _ v s => b.addView (v.clone s)
  | .release id => b.withView id fun i v s =>
      let r := b.releaseView i v s
      match r.2 with
      | some f => (r.1, .error f)
      | none => (r.1, Report.view { v with released := true } (r.1.storageOf v))
  | .exportView id flags => b.withView id fun _ v s => b.addDesc (exportView v s flags)
  | .descInfo id => b.withDesc id fun _ d s => b.pure (.ok (Report.descriptor d s))
  | .descRaw id => b.withDesc id fun _ d _ => b.pure (.ok (Report.rawRecord d))
  | .descOffset id indices => b.withDesc id fun _ d _ =>
      b.pure ((d.offset indices).map fun o => .int o.toInt)
  | .descWrite id off bytes => b.withDesc id fun _ d s =>
      let w := (d.window s).getD ByteArray.empty
      if off < 0 ∨ off + bytes.size > w.size then
        b.pure (.error (.request ("write of " ++ toString bytes.size ++ " bytes at " ++
          toString off ++ " outside " ++ toString w.size ++ "-byte window")))
      else match d.window s with
        | none => b.pure (.ok (.text ""))
        | some w =>
            let w := bytes.copySlice 0 w off.toNat bytes.size
            (b.setStorage d.storage { s with bytes := w }, .ok (.text (Text.Hex.encode w)))
  | .descRelease id => b.withDesc id fun i d s =>
      let r := d.release s
      let b := (b.setDesc i r.1).setStorage d.storage r.2.1
      match r.2.2 with
      | some f => (b, .error f)
      | none => (b, .ok (Report.descriptor r.1 r.2.1))
  | .construct data shape strides format =>
      match StridedBuffer.construct data shape strides format b.storages.size with
      | .error e => (b, .error e)
      | .ok (v, s) => ({ b with storages := b.storages.push s }).addBuf v s
  | .wrap id => b.withView id fun _ v s =>
      match v.clone s with
      | .error e => (b, .error e)
      | .ok (v, s) => b.addBuf v s
  | .bufText id => b.withBuf id fun _ v s => b.pure ((bufferText v s).map .text)
  | .bufReshape id shape strides => b.withBuf id fun i v s =>
      match v.reshape s shape strides with
      | .error e => (b, .error e)
      | .ok v => (b.setView i v, (bufferText v s).map .text)
  | .bufGet id flags => b.withBuf id fun _ v s => b.addDesc (exportView v s flags)
  | .bufRelease id => b.withBuf id fun i v s =>
      let r := b.releaseView i v s
      match r.2 with
      | some f => (r.1, .error f)
      | none => (r.1, (bufferText { v with released := true } (r.1.storageOf v)).map .text)
  | .write id opts now => b.withView id fun _ v s =>
      b.pure (Snapshot.write v s opts now >>= Report.written)
  | .read file skip level =>
      match Snapshot.read ⟨file, none⟩ skip level b.storages.size with
      | .error e => (b, .error e)
      | .ok (v, s, h) =>
          let b := { b with storages := b.storages.push s }
          let id := b.views.size
          ({ b with views := b.views.push v }, (Report.view v s).map fun info =>
            .record [("header", Report.header h), ("info", info), ("view", .int id)])
  | .idx data =>
      match Dataset.parseIdx data b.storages.size with
      | .error e => (b, .error e)
      | .ok (v, s) =>
          let b := { b with storages := b.storages.push s }
          let id := b.views.size
          ({ b with views := b.views.push v }, (Report.view v s).map fun info =>
            .record [("info", info), ("view", .int id)])

/-- The counters of every storage. -/
def counts (b : Bench) : Doc :=
  .list (b.storages.toList.map Report.storageCounts)

end Bench

end StridedBuffer
