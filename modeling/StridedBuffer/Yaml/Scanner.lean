import StridedBuffer.Yaml.Token

/-! # Scanning YAML

The scanner reads the text once, left to right, keeping the stack of block indentations
and, for each flow level, the place where a key without `?` may have started. Such a key
must end with its `:` on the same line and within 1024 characters; a candidate at the
indentation of the enclosing block mapping is required to be a key, and losing it is an
error. Directives and tags are read into tokens, escapes in a tag undone. A failure
keeps the tokens read before it, since a reader that stops early never asks for the
tokens past its lookahead.
-/

namespace StridedBuffer.Yaml

/-- A place where a key without `?` may have started: the number of the token it would
come before, and where it stands. -/
structure KeyCandidate where
  possible : Bool
  required : Bool
  token : Nat
  line : Nat
  index : Nat
  column : Nat
  deriving Repr

/-- No candidate. -/
def KeyCandidate.none : KeyCandidate := ⟨false, false, 0, 0, 0, 0⟩

/-- The scanner's state. -/
structure Scanner where
  text : Array Char
  pos : Nat
  line : Nat
  column : Nat
  flowLevel : Nat
  indent : Int
  indents : List Int
  keyAllowed : Bool
  candidates : List KeyCandidate
  tokens : Array Token
  finished : Bool

/-- Scanning steps; a failure carries the tokens read before it. -/
abbrev ScanM := StateT Scanner (Except (Array Token))

/-- The character `k` places ahead, or the end mark. -/
def Scanner.peek (s : Scanner) (k : Nat) : Char := s.text.getD (s.pos + k) endMark

/-- Whether the scanner stands on a document marker `---` or `...` at the start of a
line. -/
def Scanner.onDocumentMark (s : Scanner) : Bool :=
  s.column == 0 &&
    ((s.peek 0 == '-' && s.peek 1 == '-' && s.peek 2 == '-') ||
      (s.peek 0 == '.' && s.peek 1 == '.' && s.peek 2 == '.')) &&
    isBlankOrEnd (s.peek 3)

/-- The character `k` places ahead. -/
def look (k : Nat) : ScanM Char := do return (← get).peek k

/-- Fails, keeping the tokens read so far. -/
def stop {α : Type} : ScanM α := do throw (← get).tokens

/-- Steps over one character that is not a line break. -/
def advance : ScanM Unit :=
  modify fun s => { s with pos := s.pos + 1, column := s.column + 1 }

/-- Steps over one line break; CR LF counts as one. -/
def advanceBreak : ScanM Unit :=
  modify fun s =>
    let width := if s.peek 0 == '\r' && s.peek 1 == '\n' then 2 else 1
    { s with pos := s.pos + width, line := s.line + 1, column := 0 }

/-- Steps over one line break and gives its text: LS and PS stay, the others become a
line feed. -/
def readBreak : ScanM String := do
  let c ← look 0
  advanceBreak
  return if c == '\u2028' || c == '\u2029' then c.toString else "\n"

/-- Appends a token. -/
def emit (t : Token) : ScanM Unit :=
  modify fun s => { s with tokens := s.tokens.push t }

/-- Puts a token in front of the token numbered `i`. -/
def insertToken (i : Nat) (t : Token) : ScanM Unit :=
  modify fun s => { s with tokens := (s.tokens.extract 0 i).push t ++ s.tokens.extract i s.tokens.size }

/-- Sets whether a key without `?` may start here. -/
def setKeyAllowed (b : Bool) : ScanM Unit :=
  modify fun s => { s with keyAllowed := b }

/-- The number of characters in the text, a bound on every loop. -/
def textSize : ScanM Nat := do return (← get).text.size + 1

/-- Steps over characters while they satisfy `p`. -/
def skipWhile (p : Char → Bool) : Nat → ScanM Unit
  | 0 => pure ()
  | fuel + 1 => do
    if p (← look 0) then
      advance
      skipWhile p fuel

/-- Appends characters to `acc` while they satisfy `p`. -/
def takeWhile (p : Char → Bool) (acc : String) : Nat → ScanM String
  | 0 => pure acc
  | fuel + 1 => do
    let c ← look 0
    if p c then
      advance
      takeWhile p (acc.push c) fuel
    else pure acc

/-- Steps over blanks, comments and line breaks up to the next token. A tab is skipped
only inside a flow collection or where no key may start, so a tab never indents. -/
def skipToToken : Nat → ScanM Unit
  | 0 => pure ()
  | fuel + 1 => do
    let s ← get
    let c := s.peek 0
    if s.column == 0 && c == '\uFEFF' then
      advance
      skipToToken fuel
    else if c == ' ' || (c == '\t' && (s.flowLevel > 0 || !s.keyAllowed)) then
      advance
      skipToToken fuel
    else if c == '#' then
      skipWhile (fun c => !isBreakOrEnd c) s.text.size
      skipToToken fuel
    else if isBreak c then
      advanceBreak
      if s.flowLevel == 0 then setKeyAllowed true
      skipToToken fuel

/-- Gives up key candidates that can no longer be keys: their line is over or they are
more than 1024 characters back. A required one is an error. -/
def dropStaleCandidates : ScanM Unit := do
  let s ← get
  let kept ← s.candidates.mapM fun k =>
    if k.possible && (k.line < s.line || k.index + 1024 < s.pos) then
      if k.required then stop else pure { k with possible := false }
    else pure k
  set { s with candidates := kept }

/-- Closes every block collection indented deeper than `column`. -/
def unrollIndent (column : Int) : Nat → ScanM Unit
  | 0 => pure ()
  | fuel + 1 => do
    let s ← get
    if s.flowLevel == 0 && s.indent > column then
      emit .blockEnd
      modify fun s => match s.indents with
        | i :: rest => { s with indent := i, indents := rest }
        | [] => { s with indent := -1 }
      unrollIndent column fuel

/-- Opens a block collection at `column` if it is deeper than the current one; its start
token goes in front of the token numbered `slot`, or at the end. -/
def rollIndent (column : Int) (slot : Option Nat) (t : Token) : ScanM Unit := do
  let s ← get
  if s.flowLevel == 0 && s.indent < column then
    set { s with indents := s.indent :: s.indents, indent := column }
    match slot with
    | some i => insertToken i t
    | none => emit t

/-- Gives up the key candidate of the current level; a required one is an error. -/
def removeCandidate : ScanM Unit := do
  let s ← get
  match s.candidates with
  | k :: rest =>
      if k.possible && k.required then stop
      set { s with candidates := { k with possible := false } :: rest }
  | [] => pure ()

/-- Records that a key may start here, if keys are allowed here. -/
def saveCandidate : ScanM Unit := do
  let s ← get
  if s.keyAllowed then
    removeCandidate
    let required := s.flowLevel == 0 && s.indent == (s.column : Int)
    let k : KeyCandidate := ⟨true, required, s.tokens.size, s.line, s.pos, s.column⟩
    modify fun s => { s with candidates := k :: s.candidates.drop 1 }

/-- Enters a flow collection. -/
def enterFlow : ScanM Unit :=
  modify fun s => { s with flowLevel := s.flowLevel + 1, candidates := KeyCandidate.none :: s.candidates }

/-- Leaves a flow collection. -/
def leaveFlow : ScanM Unit :=
  modify fun s =>
    if s.flowLevel > 0 then { s with flowLevel := s.flowLevel - 1, candidates := s.candidates.drop 1 }
    else s

/-- The end of the text: every block collection closes. -/
def streamEnd : ScanM Unit := do
  modify fun s => if s.column != 0 then { s with column := 0, line := s.line + 1 } else s
  unrollIndent (-1) ((← get).indents.length + 1)
  removeCandidate
  setKeyAllowed false
  emit .streamEnd
  modify fun s => { s with finished := true }

/-- A `---` or `...` marker. -/
def documentIndicator (t : Token) : ScanM Unit := do
  unrollIndent (-1) ((← get).indents.length + 1)
  removeCandidate
  setKeyAllowed false
  advance
  advance
  advance
  emit t

/-- `[` or `{`. -/
def flowStart (t : Token) : ScanM Unit := do
  saveCandidate
  enterFlow
  setKeyAllowed true
  advance
  emit t

/-- `]` or `}`. -/
def flowEnd (t : Token) : ScanM Unit := do
  removeCandidate
  leaveFlow
  setKeyAllowed false
  advance
  emit t

/-- `,`. -/
def flowEntry : ScanM Unit := do
  removeCandidate
  setKeyAllowed true
  advance
  emit .flowEntry

/-- `-` followed by a blank. -/
def blockEntry : ScanM Unit := do
  let s ← get
  if s.flowLevel == 0 then
    if !s.keyAllowed then stop
    rollIndent s.column none .blockSequenceStart
  removeCandidate
  setKeyAllowed true
  advance
  emit .blockEntry

/-- `?` starting a key. -/
def explicitKey : ScanM Unit := do
  let s ← get
  if s.flowLevel == 0 then
    if !s.keyAllowed then stop
    rollIndent s.column none .blockMappingStart
  removeCandidate
  setKeyAllowed (s.flowLevel == 0)
  advance
  emit .key

/-- `:` after a key. A candidate key gets its `key` token now, and opens a block mapping
at its column if none is open there. -/
def valueIndicator : ScanM Unit := do
  let s ← get
  match s.candidates with
  | k :: rest =>
      if k.possible then
        insertToken k.token .key
        rollIndent k.column (some k.token) .blockMappingStart
        modify fun s => { s with candidates := { k with possible := false } :: rest }
        setKeyAllowed false
      else
        if s.flowLevel == 0 then
          if !s.keyAllowed then stop
          rollIndent s.column none .blockMappingStart
        setKeyAllowed (s.flowLevel == 0)
  | [] => stop
  advance
  emit .value

/-- `&name` or `*name`. -/
def anchorOrAlias (isAlias : Bool) : ScanM Unit := do
  saveCandidate
  setKeyAllowed false
  advance
  let name ← takeWhile isWordChar "" (← textSize)
  let c ← look 0
  if name.isEmpty || !(isBlankOrEnd c || ['?', ':', ',', ']', '}', '%', '@', '\x60'].contains c) then stop
  emit (if isAlias then .alias name else .anchor name)

/-- What a block scalar's header says: chomping (`-1` strip, `0` clip, `1` keep) and the
explicit indentation, `0` when absent. -/
def blockHeader : ScanM (Int × Nat) := do
  let c ← look 0
  if c == '+' || c == '-' then
    advance
    let d ← look 0
    if d.isDigit then
      if d == '0' then stop
      advance
      return (if c == '+' then 1 else -1, d.toNat - 48)
    return (if c == '+' then 1 else -1, 0)
  else if c.isDigit then
    if c == '0' then stop
    advance
    let d ← look 0
    if d == '+' || d == '-' then
      advance
      return (if d == '+' then 1 else -1, c.toNat - 48)
    return (0, c.toNat - 48)
  else return (0, 0)

/-- Steps over indentation spaces, up to column `indent` when it is known. -/
def indentSpaces (indent : Nat) : Nat → ScanM Unit
  | 0 => pure ()
  | fuel + 1 => do
    let s ← get
    if (indent == 0 || s.column < indent) && s.peek 0 == ' ' then
      advance
      indentSpaces indent fuel

/-- Reads the empty lines of a block scalar: the breaks, and the deepest column an
indentation reached. A tab in the indentation is an error. -/
def blockBreaks (indent maxIndent : Nat) (breaks : String) : Nat → ScanM (Nat × String)
  | 0 => pure (maxIndent, breaks)
  | fuel + 1 => do
    indentSpaces indent (← textSize)
    let s ← get
    let maxIndent := max maxIndent s.column
    let c := s.peek 0
    if (indent == 0 || s.column < indent) && c == '\t' then stop
    if !isBreak c then return (maxIndent, breaks)
    let b ← readBreak
    blockBreaks indent maxIndent (breaks ++ b) fuel

/-- Reads the lines of a block scalar at its indentation, folding line breaks between two
lines of text when `literal` is false. Returns the text and the final breaks. -/
def blockLines (literal : Bool) (indent : Nat) (text leadingBreak trailingBreaks : String)
    (leadingBlank : Bool) : Nat → ScanM (String × String × String)
  | 0 => pure (text, leadingBreak, trailingBreaks)
  | fuel + 1 => do
    let s ← get
    if s.column != indent || s.pos ≥ s.text.size then
      return (text, leadingBreak, trailingBreaks)
    let c := s.peek 0
    let trailingBlank := isBlank c
    let text :=
      if !literal && leadingBreak == "\n" && !leadingBlank && !trailingBlank then
        (if trailingBreaks.isEmpty then text.push ' ' else text)
      else text ++ leadingBreak
    let text ← takeWhile (fun c => !isBreakOrEnd c) (text ++ trailingBreaks) (← textSize)
    let s ← get
    if s.pos ≥ s.text.size then return (text, "", "")
    let lb ← readBreak
    let (_, breaks) ← blockBreaks indent 0 "" (← textSize)
    blockLines literal indent text lb breaks (isBlank c) fuel

/-- A block scalar after `|` (literal) or `>` (folded). -/
def blockScalar (literal : Bool) : ScanM Unit := do
  removeCandidate
  setKeyAllowed true
  advance
  let (chomping, increment) ← blockHeader
  skipWhile isBlank (← textSize)
  if (← look 0) == '#' then skipWhile (fun c => !isBreakOrEnd c) (← textSize)
  let c ← look 0
  if !isBreakOrEnd c then stop
  if isBreak c then
    let _ ← readBreak
  let parent := (← get).indent
  let given : Nat :=
    if increment == 0 then 0
    else if parent ≥ 0 then (parent + increment).toNat else increment
  let (maxIndent, breaks) ← blockBreaks given 0 "" (← textSize)
  let indent := if given == 0 then max (max maxIndent (parent + 1).toNat) 1 else given
  let (text, leadingBreak, trailingBreaks) ← blockLines literal indent "" "" breaks false (← textSize)
  let text := text ++ (if chomping != -1 then leadingBreak else "") ++
    (if chomping == 1 then trailingBreaks else "")
  emit (.scalar text (if literal then .literal else .folded))

/-- The character a one-letter escape stands for. -/
def simpleEscape (c : Char) : Option Char :=
  match c with
  | '0' => some '\x00'
  | 'a' => some '\x07'
  | 'b' => some '\x08'
  | 't' => some '\t'
  | '\t' => some '\t'
  | 'n' => some '\n'
  | 'v' => some '\x0b'
  | 'f' => some '\x0c'
  | 'r' => some '\r'
  | 'e' => some '\x1b'
  | ' ' => some ' '
  | '"' => some '"'
  | '/' => some '/'
  | '\'' => some '\''
  | '\\' => some '\\'
  | 'N' => some '\x85'
  | '_' => some '\xa0'
  | 'L' => some '\u2028'
  | 'P' => some '\u2029'
  | _ => none

/-- The number of hex digits of a code escape. -/
def codeEscapeLength (c : Char) : Nat :=
  if c == 'x' then 2 else if c == 'u' then 4 else if c == 'U' then 8 else 0

/-- The value of a hex digit. -/
def hexValue? (c : Char) : Option Nat :=
  if c.isDigit then some (c.toNat - 48)
  else if 'a' ≤ c ∧ c ≤ 'f' then some (c.toNat - 87)
  else if 'A' ≤ c ∧ c ≤ 'F' then some (c.toNat - 55)
  else none

/-- Reads `n` hex digits. -/
def hexDigits (acc : Nat) : Nat → ScanM Nat
  | 0 => pure acc
  | n + 1 => do
    match hexValue? (← look 0) with
    | some v =>
        advance
        hexDigits (acc * 16 + v) n
    | none => stop

/-- The character of an escape after a backslash. -/
def escapedChar : ScanM Char := do
  let e ← look 0
  match simpleEscape e with
  | some ch =>
      advance
      return ch
  | none =>
      let n := codeEscapeLength e
      if n == 0 then stop
      advance
      let code ← hexDigits 0 n
      if (0xD800 ≤ code ∧ code ≤ 0xDFFF) ∨ code > 0x10FFFF then stop
      return Char.ofNat code

/-- Reads the characters of a quoted scalar up to a blank, a break or the closing quote.
The flag tells that an escaped line break was read. -/
def quotedChars (single : Bool) (text : String) : Nat → ScanM (String × Bool)
  | 0 => pure (text, false)
  | fuel + 1 => do
    let s ← get
    let c := s.peek 0
    let d := s.peek 1
    if isBlankOrEnd c then return (text, false)
    if single && c == '\'' && d == '\'' then
      advance
      advance
      quotedChars single (text.push '\'') fuel
    else if (single && c == '\'') || (!single && c == '"') then return (text, false)
    else if !single && c == '\\' && isBreak d then
      advance
      advanceBreak
      return (text, true)
    else if !single && c == '\\' then
      advance
      let ch ← escapedChar
      quotedChars single (text.push ch) fuel
    else
      advance
      quotedChars single (text.push c) fuel

/-- Reads blanks and breaks inside a quoted scalar: the blanks before the first break,
the first break, the later breaks, and whether a break was seen. -/
def quotedBlanks (spaces leadingBreak trailingBreaks : String) (leading : Bool) :
    Nat → ScanM (String × String × String × Bool)
  | 0 => pure (spaces, leadingBreak, trailingBreaks, leading)
  | fuel + 1 => do
    let c ← look 0
    if isBlank c then
      advance
      quotedBlanks (if leading then spaces else spaces.push c) leadingBreak trailingBreaks leading fuel
    else if isBreak c then
      let b ← readBreak
      if leading then quotedBlanks spaces leadingBreak (trailingBreaks ++ b) leading fuel
      else quotedBlanks "" b trailingBreaks true fuel
    else pure (spaces, leadingBreak, trailingBreaks, leading)

/-- Joins what stood between two runs of text: a single line feed folds to a space, more
line breaks stay less one, and blanks alone stay as they are. -/
def foldGap (text spaces leadingBreak trailingBreaks : String) (leading : Bool) : String :=
  if leading then
    if leadingBreak == "\n" then
      (if trailingBreaks.isEmpty then text.push ' ' else text ++ trailingBreaks)
    else text ++ leadingBreak ++ trailingBreaks
  else text ++ spaces

/-- Reads a quoted scalar up to its closing quote. -/
def quotedBody (single : Bool) (text : String) : Nat → ScanM String
  | 0 => stop
  | fuel + 1 => do
    let s ← get
    if s.onDocumentMark || s.pos ≥ s.text.size then stop
    let (text, escapedBreak) ← quotedChars single text (← textSize)
    let c ← look 0
    if (single && c == '\'') || (!single && c == '"') then return text
    let (spaces, lb, tb, leading) ← quotedBlanks "" "" "" escapedBreak (← textSize)
    quotedBody single (foldGap text spaces lb tb leading) fuel

/-- A single- or double-quoted scalar. -/
def quotedScalar (single : Bool) : ScanM Unit := do
  saveCandidate
  setKeyAllowed false
  advance
  let text ← quotedBody single "" (← textSize)
  advance
  emit (.scalar text (if single then .singleQuoted else .doubleQuoted))

/-- The pending gap of a plain scalar: blanks before a break, the first break, later
breaks, and whether a break was seen. -/
structure Gap where
  spaces : String
  leadingBreak : String
  trailingBreaks : String
  leading : Bool

/-- No gap. -/
def Gap.empty : Gap := ⟨"", "", "", false⟩

/-- Reads the characters of a plain scalar up to a blank, a break or an indicator that
ends it, joining the pending gap before the first one. -/
def plainChars (text : String) (gap : Gap) : Nat → ScanM (String × Gap)
  | 0 => pure (text, gap)
  | fuel + 1 => do
    let s ← get
    let c := s.peek 0
    if isBlankOrEnd c then return (text, gap)
    if (c == ':' && isBlankOrEnd (s.peek 1)) || (s.flowLevel > 0 && isFlowIndicator c) then
      return (text, gap)
    let text := foldGap text gap.spaces gap.leadingBreak gap.trailingBreaks gap.leading
    advance
    plainChars (text.push c) Gap.empty fuel

/-- Reads blanks and breaks after a run of a plain scalar. A tab where the next line's
indentation stands is an error. -/
def plainBlanks (indent : Int) (gap : Gap) : Nat → ScanM Gap
  | 0 => pure gap
  | fuel + 1 => do
    let s ← get
    let c := s.peek 0
    if isBlank c then
      if gap.leading && (s.column : Int) < indent && c == '\t' then stop
      advance
      plainBlanks indent (if gap.leading then gap else { gap with spaces := gap.spaces.push c }) fuel
    else if isBreak c then
      let b ← readBreak
      if gap.leading then plainBlanks indent { gap with trailingBreaks := gap.trailingBreaks ++ b } fuel
      else plainBlanks indent { gap with spaces := "", leadingBreak := b, leading := true } fuel
    else pure gap

/-- Reads a plain scalar, which may run over several lines indented past `indent`;
returns its text and whether it ended after a line break. -/
def plainBody (indent : Int) (text : String) (gap : Gap) : Nat → ScanM (String × Bool)
  | 0 => pure (text, gap.leading)
  | fuel + 1 => do
    let s ← get
    if s.onDocumentMark || s.peek 0 == '#' then return (text, gap.leading)
    let (text, gap) ← plainChars text gap (← textSize)
    let c ← look 0
    if !(isBlank c || isBreak c) then return (text, gap.leading)
    let gap ← plainBlanks indent gap (← textSize)
    let s ← get
    if s.flowLevel == 0 && (s.column : Int) < indent then return (text, gap.leading)
    plainBody indent text gap fuel

/-- A plain scalar. -/
def plainScalar : ScanM Unit := do
  saveCandidate
  setKeyAllowed false
  let s ← get
  let (text, broke) ← plainBody (s.indent + 1) "" Gap.empty (← textSize)
  if broke then setKeyAllowed true
  emit (.scalar text .plain)

/-- Whether a character may stand in a tag URI: word characters and
`; / ? : @ & = + $ . ! ~ * ' ( ) %`, and in a verbatim tag or a directive also `,`, `[`
and `]`. -/
def isUriChar (verbatim : Bool) (c : Char) : Bool :=
  isWordChar c || ";/?:@&=+$.!~*'()%".toList.contains c ||
    (verbatim && (c == ',' || c == '[' || c == ']'))

/-- The number of bytes of a UTF-8 sequence its first byte announces; zero for a byte
that cannot start one. -/
def utf8Width (b : Nat) : Nat :=
  if b < 0x80 then 1 else if b / 32 == 6 then 2 else if b / 16 == 14 then 3
  else if b / 8 == 30 then 4 else 0

/-- Reads one `%HH` escape of a tag URI. -/
def uriOctet : ScanM Nat := do
  if (← look 0) != '%' then stop
  match hexValue? (← look 1), hexValue? (← look 2) with
  | some a, some b =>
      advance
      advance
      advance
      return a * 16 + b
  | _, _ => stop

/-- Reads `n` escaped octets that continue a UTF-8 sequence. -/
def trailingOctets : Nat → ScanM (List UInt8)
  | 0 => pure []
  | n + 1 => do
    let o ← uriOctet
    if o / 64 != 2 then stop
    return UInt8.ofNat o :: (← trailingOctets n)

/-- Reads the escaped octets of one UTF-8 sequence in a tag URI. -/
def uriEscapes : ScanM (List UInt8) := do
  let first ← uriOctet
  let w := utf8Width first
  if w == 0 then stop
  return UInt8.ofNat first :: (← trailingOctets (w - 1))

/-- Reads the characters of a tag URI after the bytes `acc`, undoing escapes. -/
def tagUri (verbatim : Bool) (acc : List UInt8) : Nat → ScanM (List UInt8)
  | 0 => pure acc
  | fuel + 1 => do
    let c ← look 0
    if !isUriChar verbatim c then return acc
    if c == '%' then
      let bs ← uriEscapes
      tagUri verbatim (acc ++ bs) fuel
    else
      advance
      tagUri verbatim (acc ++ c.toString.toUTF8.toList) fuel

/-- The text of the bytes of a tag. -/
def tagText (bs : List UInt8) : String :=
  (String.fromUTF8? ⟨bs.toArray⟩).getD "\uFFFD"

/-- Reads a tag handle: `!`, word characters, and a closing `!` when there is one. -/
def tagHandle : ScanM String := do
  if (← look 0) != '!' then stop
  advance
  let name ← takeWhile isWordChar "" (← textSize)
  if (← look 0) == '!' then
    advance
    return "!" ++ name ++ "!"
  return "!" ++ name

/-- Whether a handle is a named handle `!name!` or the secondary handle `!!`. -/
def isNamedHandle (handle : String) : Bool :=
  handle.length > 1 && handle.endsWith "!"

/-- A tag: `!<uri>`, `!handle!suffix`, `!suffix`, or `!` alone, which is kept with an
empty handle. A blank, a break or the end must follow it, or a `,` inside a flow
collection. -/
def tagToken : ScanM Unit := do
  saveCandidate
  setKeyAllowed false
  let (handle, suffix) ← if (← look 1) == '<' then do
      advance
      advance
      let uri ← tagUri true [] (← textSize)
      if uri.isEmpty || (← look 0) != '>' then stop
      advance
      pure ("", tagText uri)
    else do
      let handle ← tagHandle
      if isNamedHandle handle then
        let uri ← tagUri false [] (← textSize)
        if uri.isEmpty then stop
        pure (handle, tagText uri)
      else
        let uri ← tagUri false (String.ofList (handle.toList.drop 1)).toUTF8.toList (← textSize)
        pure (if uri.isEmpty then ("", "!") else ("!", tagText uri))
  let c ← look 0
  if !(isBlankOrEnd c || ((← get).flowLevel > 0 && c == ',')) then stop
  emit (.tag handle suffix)

/-- One number of a `%YAML` version: one or two digits. -/
def versionNumber : ScanM Nat := do
  let digits ← takeWhile Char.isDigit "" (← textSize)
  if digits.isEmpty || digits.length > 2 then stop
  return digits.toList.foldl (fun acc c => acc * 10 + (c.toNat - 48)) 0

/-- A directive at the start of a line: `%YAML major.minor` or `%TAG handle uri`, then
blanks, an optional comment and the line break. Any other directive fails. -/
def directive : ScanM Unit := do
  unrollIndent (-1) ((← get).indents.length + 1)
  removeCandidate
  setKeyAllowed false
  advance
  let name ← takeWhile isWordChar "" (← textSize)
  if name.isEmpty || !isBlankOrEnd (← look 0) then stop
  let token ← if name == "YAML" then do
      skipWhile isBlank (← textSize)
      let major ← versionNumber
      if (← look 0) != '.' then stop
      advance
      let minor ← versionNumber
      pure (Token.versionDirective major minor)
    else if name == "TAG" then do
      skipWhile isBlank (← textSize)
      let handle ← tagHandle
      if handle != "!" && !isNamedHandle handle then stop
      if !isBlank (← look 0) then stop
      skipWhile isBlank (← textSize)
      let uri ← tagUri true [] (← textSize)
      if uri.isEmpty || !isBlankOrEnd (← look 0) then stop
      pure (Token.tagDirective handle (tagText uri))
    else stop
  skipWhile isBlank (← textSize)
  if (← look 0) == '#' then skipWhile (fun c => !isBreakOrEnd c) (← textSize)
  let c ← look 0
  if !isBreakOrEnd c then stop
  if isBreak c then advanceBreak
  emit token

/-- The characters that start a token of their own, or may not start one. -/
def indicators : List Char :=
  ['-', '?', ':', ',', '[', ']', '{', '}', '#', '&', '*', '!', '|', '>', '\'', '"', '%', '@', '\x60']

/-- Whether a character may start a plain scalar, given the one after it. -/
def startsPlain (flow : Bool) (c next : Char) : Bool :=
  !(isBlankOrEnd c || indicators.contains c) ||
    (c == '-' && !isBlank next) ||
    (!flow && (c == '?' || c == ':') && !isBlankOrEnd next)

/-- Reads the next token, or several when block collections close first. -/
def fetchNext : ScanM Unit := do
  skipToToken (← textSize)
  dropStaleCandidates
  let s ← get
  unrollIndent s.column (s.indents.length + 1)
  let s ← get
  let c := s.peek 0
  let next := s.peek 1
  let flow := s.flowLevel > 0
  if s.pos ≥ s.text.size then streamEnd
  else if s.column == 0 && c == '%' then directive
  else if s.onDocumentMark then
    documentIndicator (if c == '-' then .documentStart else .documentEnd)
  else if c == '[' then flowStart .flowSequenceStart
  else if c == '{' then flowStart .flowMappingStart
  else if c == ']' then flowEnd .flowSequenceEnd
  else if c == '}' then flowEnd .flowMappingEnd
  else if c == ',' then flowEntry
  else if c == '-' && isBlankOrEnd next then blockEntry
  else if c == '?' && (flow || isBlankOrEnd next) then explicitKey
  else if c == ':' && (flow || isBlankOrEnd next) then valueIndicator
  else if c == '*' then anchorOrAlias true
  else if c == '&' then anchorOrAlias false
  else if c == '!' then tagToken
  else if c == '|' && !flow then blockScalar true
  else if c == '>' && !flow then blockScalar false
  else if c == '\'' then quotedScalar true
  else if c == '"' then quotedScalar false
  else if startsPlain flow c next then plainScalar
  else stop

/-- Reads tokens until the end of the text. -/
def fetchAll : Nat → ScanM Unit
  | 0 => stop
  | fuel + 1 => do
    if !(← get).finished then
      fetchNext
      fetchAll fuel

/-- The tokens of a text, and whether reading failed after them. A character YAML text
may not hold fails before any token but the first. -/
def scan (text : String) : Array Token × Bool :=
  let chars := match text.toList with
    | '\uFEFF' :: rest => rest
    | cs => cs
  if !chars.all allowedChar then (#[.streamStart], true)
  else
    let start : Scanner :=
      { text := chars.toArray, pos := 0, line := 0, column := 0, flowLevel := 0, indent := -1,
        indents := [], keyAllowed := true, candidates := [KeyCandidate.none],
        tokens := #[.streamStart], finished := false }
    match (fetchAll (chars.length + 2)).run start with
    | .ok (_, s) => (s.tokens, false)
    | .error tokens => (tokens, true)

end StridedBuffer.Yaml
