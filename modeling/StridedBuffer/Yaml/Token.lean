/-! # YAML tokens

The scanner turns YAML text into tokens. Block structure is made explicit: a deeper
indentation opens a block collection and a shallower one closes it with `blockEnd`, so
the parser never looks at columns. A key without `?` is only known to be one when its
`:` arrives, so its `key` token (and a `blockMappingStart` before it, when it opens a
mapping) is put back in front of it then. Directives, which stand at the start of a
line before a document, become tokens of their own, as do tags.
-/

namespace StridedBuffer.Yaml

/-- How a scalar was written. -/
inductive Style where
  | plain
  | singleQuoted
  | doubleQuoted
  | literal
  | folded
  deriving DecidableEq, Repr, Inhabited

/-- A token of YAML text. -/
inductive Token where
  | streamStart
  | streamEnd
  | documentStart
  | documentEnd
  | blockSequenceStart
  | blockMappingStart
  | blockEnd
  | flowSequenceStart
  | flowSequenceEnd
  | flowMappingStart
  | flowMappingEnd
  | blockEntry
  | flowEntry
  | key
  | value
  | alias (name : String)
  | anchor (name : String)
  /-- A tag: its handle (empty for a verbatim tag or the lone `!`) and its suffix. -/
  | tag (handle suffix : String)
  | scalar (text : String) (style : Style)
  /-- A `%YAML` directive with its version. -/
  | versionDirective (major minor : Nat)
  /-- A `%TAG` directive: a handle and the text it stands for. -/
  | tagDirective (handle uri : String)
  deriving DecidableEq, Repr, Inhabited

/-- The character that stands for the end of the text. -/
def endMark : Char := '\x00'

/-- A line break: CR, LF, NEL, LS or PS. -/
def isBreak (c : Char) : Bool :=
  c == '\r' || c == '\n' || c == '\x85' || c == '\u2028' || c == '\u2029'

/-- A space or a tab. -/
def isBlank (c : Char) : Bool := c == ' ' || c == '\t'

/-- A blank, a break or the end. -/
def isBlankOrEnd (c : Char) : Bool := isBlank c || isBreak c || c == endMark

/-- A break or the end. -/
def isBreakOrEnd (c : Char) : Bool := isBreak c || c == endMark

/-- A character of an anchor name. -/
def isWordChar (c : Char) : Bool := (c.toNat < 128 && c.isAlphanum) || c == '_' || c == '-'

/-- A flow indicator, which ends a plain scalar inside a flow collection. -/
def isFlowIndicator (c : Char) : Bool :=
  c == ',' || c == '[' || c == ']' || c == '{' || c == '}'

/-- Whether a character may appear in YAML text: tab, line feed, carriage return, the
printable ASCII range, NEL, and the printable ranges past it. -/
def allowedChar (c : Char) : Bool :=
  let n := c.toNat
  n == 0x09 || n == 0x0A || n == 0x0D || (0x20 ≤ n && n ≤ 0x7E) || n == 0x85 ||
    (0xA0 ≤ n && n ≤ 0xD7FF) || (0xE000 ≤ n && n ≤ 0xFFFD) || (0x10000 ≤ n && n ≤ 0x10FFFF)

end StridedBuffer.Yaml
