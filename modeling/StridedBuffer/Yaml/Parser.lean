import StridedBuffer.Yaml.Scanner

/-! # Parsing YAML

The parser reads the first document of a token stream into a tree of nodes. An alias
names the anchor defined last before it under that name; it is kept as the number of
that anchor's node, so that a document that refers to a node many times stays small.
A node may carry an anchor and a tag, in either order. A tag's handle is looked up among
the document's `%TAG` directives and the two standard handles, `!` and `!!`; a scalar
keeps its full tag. A document with directives must start with `---`; the only `%YAML`
version taken is 1.1, given once, and a handle may be declared once.
A reader that has consumed `n` tokens has read three more ahead, so a scanning failure
within that window fails the parse, and one further on is never seen.
-/

namespace StridedBuffer.Yaml

/-- A node of a YAML document. A scalar keeps its tag in full, empty when it has none. -/
inductive Node where
  | scalar (text : String) (style : Style) (tag : String)
  | sequence (items : List Node)
  | mapping (pairs : List (Node × Node))
  | alias (name : String) (slot : Nat)
  deriving Repr, Inhabited

/-- The empty node that stands where a value is left out. -/
def Node.empty : Node := .scalar "" .plain ""

/-- The namespace of the standard tags. -/
def standardTags : String := "tag:yaml.org,2002:"

/-- The handles every document knows. -/
def defaultHandles : List (String × String) := [("!", "!"), ("!!", standardTags)]

/-- A parsed document: its root and its anchored nodes, numbered in order. -/
structure Document where
  root : Node
  anchors : Array Node

/-- The parser's state. -/
structure Reader where
  tokens : Array Token
  failedAfter : Option Nat
  pos : Nat
  anchors : Array Node
  names : List (String × Nat)
  /-- The tag handles of the document and the texts they stand for. -/
  handles : List (String × String)

/-- Parsing steps. -/
abbrev ParseM := StateT Reader (Except Unit)

/-- The next token, failing when it lies within reach of a scanning failure. -/
def peekToken : ParseM Token := do
  let r ← get
  if let some n := r.failedAfter then
    if r.pos + 3 > n then throw ()
  match r.tokens[r.pos]? with
  | some t => pure t
  | none => throw ()

/-- Consumes the next token. -/
def skipToken : ParseM Unit :=
  modify fun r => { r with pos := r.pos + 1 }

/-- Records an anchored node. -/
def defineAnchor (name : String) (n : Node) : ParseM Unit :=
  modify fun r => { r with anchors := r.anchors.push n, names := (name, r.anchors.size) :: r.names }

/-- Whether a token ends a block collection entry without a value. -/
def endsBlockEntry : Token → Bool
  | .key | .value | .blockEnd => true
  | _ => false

/-- The full tag of a tag token: the suffix alone for an empty handle, else the text
the handle stands for followed by the suffix. An unknown handle fails. -/
def fullTag (handle suffix : String) : ParseM String := do
  if handle.isEmpty then return suffix
  match (← get).handles.lookup handle with
  | some text => return text ++ suffix
  | none => throw ()

/-- Reads the properties of a node: an anchor and a tag, each optional, in either order. -/
def parseProperties : ParseM (Option String × String) := do
  match ← peekToken with
  | .anchor name =>
      skipToken
      match ← peekToken with
      | .tag h sfx =>
          skipToken
          return (some name, ← fullTag h sfx)
      | _ => return (some name, "")
  | .tag h sfx =>
      skipToken
      let tag ← fullTag h sfx
      match ← peekToken with
      | .anchor name =>
          skipToken
          return (some name, tag)
      | _ => return (none, tag)
  | _ => return (none, "")

mutual

/-- A node; `block` allows block collections, `indentless` a sequence whose `-` stands at
the indentation of the mapping holding it. -/
def parseNode (block indentless : Bool) : Nat → ParseM Node
  | 0 => throw ()
  | fuel + 1 => do
    match ← peekToken with
    | .alias name =>
        skipToken
        match (← get).names.lookup name with
        | some slot => pure (.alias name slot)
        | none => throw ()
    | _ =>
        let (anchor, tag) ← parseProperties
        let withProperties := anchor.isSome || !tag.isEmpty
        let n ← parseContent block indentless withProperties tag fuel
        if let some name := anchor then defineAnchor name n
        pure n

/-- The content of a node after its properties; a node with properties may be empty. -/
def parseContent (block indentless withProperties : Bool) (tag : String) : Nat → ParseM Node
  | 0 => throw ()
  | fuel + 1 => do
    let empty : ParseM Node := if withProperties then pure (.scalar "" .plain tag) else throw ()
    match ← peekToken with
    | .blockEntry =>
        if indentless then indentlessSequence #[] fuel
        else empty
    | .scalar text style =>
        skipToken
        pure (.scalar text style tag)
    | .flowSequenceStart =>
        skipToken
        flowSequence true #[] fuel
    | .flowMappingStart =>
        skipToken
        flowMapping true #[] fuel
    | .blockSequenceStart =>
        if block then
          skipToken
          blockSequence #[] fuel
        else empty
    | .blockMappingStart =>
        if block then
          skipToken
          blockMapping #[] fuel
        else empty
    | _ => empty

/-- The entries of a block sequence up to its end. -/
def blockSequence (items : Array Node) : Nat → ParseM Node
  | 0 => throw ()
  | fuel + 1 => do
    match ← peekToken with
    | .blockEntry =>
        skipToken
        match ← peekToken with
        | .blockEntry | .blockEnd => blockSequence (items.push Node.empty) fuel
        | _ =>
            let item ← parseNode true false fuel
            blockSequence (items.push item) fuel
    | .blockEnd =>
        skipToken
        pure (.sequence items.toList)
    | _ => throw ()

/-- The entries of a sequence written at its mapping's indentation. -/
def indentlessSequence (items : Array Node) : Nat → ParseM Node
  | 0 => throw ()
  | fuel + 1 => do
    match ← peekToken with
    | .blockEntry =>
        skipToken
        let t ← peekToken
        if t == .blockEntry || endsBlockEntry t then indentlessSequence (items.push Node.empty) fuel
        else
          let item ← parseNode true false fuel
          indentlessSequence (items.push item) fuel
    | _ => pure (.sequence items.toList)

/-- The pairs of a block mapping up to its end. -/
def blockMapping (pairs : Array (Node × Node)) : Nat → ParseM Node
  | 0 => throw ()
  | fuel + 1 => do
    match ← peekToken with
    | .key =>
        skipToken
        let k ← if endsBlockEntry (← peekToken) then pure Node.empty else parseNode true true fuel
        let v ← blockValue fuel
        blockMapping (pairs.push (k, v)) fuel
    | .blockEnd =>
        skipToken
        pure (.mapping pairs.toList)
    | _ => throw ()

/-- The value of a block mapping pair, empty when left out. -/
def blockValue : Nat → ParseM Node
  | 0 => throw ()
  | fuel + 1 => do
    match ← peekToken with
    | .value =>
        skipToken
        if endsBlockEntry (← peekToken) then pure Node.empty else parseNode true true fuel
    | _ => pure Node.empty

/-- The entries of a flow sequence up to `]`. -/
def flowSequence (first : Bool) (items : Array Node) : Nat → ParseM Node
  | 0 => throw ()
  | fuel + 1 => do
    let t ← peekToken
    if t == .flowSequenceEnd then
      skipToken
      return .sequence items.toList
    if !first then
      if t == .flowEntry then skipToken else throw ()
    match ← peekToken with
    | .flowSequenceEnd =>
        skipToken
        pure (.sequence items.toList)
    | .key =>
        skipToken
        let k ← match ← peekToken with
          | .value | .flowEntry | .flowSequenceEnd => pure Node.empty
          | _ => parseNode false false fuel
        let v ← flowValue .flowSequenceEnd fuel
        flowSequence false (items.push (.mapping [(k, v)])) fuel
    | _ =>
        let item ← parseNode false false fuel
        flowSequence false (items.push item) fuel

/-- The value of a flow pair, empty when left out; `close` ends the collection. -/
def flowValue (close : Token) : Nat → ParseM Node
  | 0 => throw ()
  | fuel + 1 => do
    if (← peekToken) == .value then
      skipToken
      let t ← peekToken
      if t == .flowEntry || t == close then pure Node.empty else parseNode false false fuel
    else pure Node.empty

/-- The pairs of a flow mapping up to `}`. -/
def flowMapping (first : Bool) (pairs : Array (Node × Node)) : Nat → ParseM Node
  | 0 => throw ()
  | fuel + 1 => do
    let t ← peekToken
    if t == .flowMappingEnd then
      skipToken
      return .mapping pairs.toList
    if !first then
      if t == .flowEntry then skipToken else throw ()
    match ← peekToken with
    | .flowMappingEnd =>
        skipToken
        pure (.mapping pairs.toList)
    | .key =>
        skipToken
        let k ← match ← peekToken with
          | .value | .flowEntry | .flowMappingEnd => pure Node.empty
          | _ => parseNode false false fuel
        let v ← flowValue .flowMappingEnd fuel
        flowMapping false (pairs.push (k, v)) fuel
    | _ =>
        let k ← parseNode false false fuel
        flowMapping false (pairs.push (k, Node.empty)) fuel

end

/-- Reads the directives before a document into its tag handles, the standard handles
added after those declared. -/
def parseDirectives (version : Bool) (declared : List (String × String)) : Nat → ParseM Unit
  | 0 => throw ()
  | fuel + 1 => do
    match ← peekToken with
    | .versionDirective major minor =>
        if version || major != 1 || minor != 1 then throw ()
        skipToken
        parseDirectives true declared fuel
    | .tagDirective handle uri =>
        if (declared.lookup handle).isSome then throw ()
        skipToken
        parseDirectives version (declared ++ [(handle, uri)]) fuel
    | _ =>
        let extra := defaultHandles.filter fun h => (declared.lookup h.1).isNone
        modify fun r => { r with handles := declared ++ extra }

/-- Whether a token starts a document's directives or the document itself. -/
def startsExplicitDocument : Token → Bool
  | .versionDirective .. | .tagDirective .. | .documentStart => true
  | _ => false

/-- Whether a token ends an explicit document's empty content. -/
def endsDocument : Token → Bool
  | .versionDirective .. | .tagDirective .. | .documentStart | .documentEnd | .streamEnd => true
  | _ => false

/-- The first document of a token stream: `none` for a stream without one. -/
def firstDocument : ParseM (Option Node) := do
  skipToken
  let fuel := 2 * (← get).tokens.size + 4
  let t ← peekToken
  if t == .streamEnd then return none
  if startsExplicitDocument t then
    parseDirectives false [] fuel
    if (← peekToken) != .documentStart then throw ()
    skipToken
    let root ← if endsDocument (← peekToken) then pure Node.empty else parseNode true false fuel
    let _ ← peekToken
    return some root
  modify fun r => { r with handles := defaultHandles }
  let root ← parseNode true false fuel
  let _ ← peekToken
  return some root

/-- Reads the first document of a YAML text: `none` inside for a text without one, and
an error for text that does not parse. -/
def parseYaml (text : String) : Except Unit (Option Document) :=
  let (tokens, failed) := scan text
  let start : Reader :=
    { tokens, failedAfter := if failed then some tokens.size else none, pos := 0,
      anchors := #[], names := [], handles := [] }
  match firstDocument.run start with
  | .ok (some root, r) => .ok (some ⟨root, r.anchors⟩)
  | .ok (none, _) => .ok none
  | .error _ => .error ()

end StridedBuffer.Yaml
