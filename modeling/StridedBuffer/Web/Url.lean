import StridedBuffer.Web.Escape

/-! # URLs

A URL is read as `scheme:rootless` or `scheme://userinfo@host:port/path?query#fragment`,
each part optional. Reading fails on a control character, on a malformed
percent-escape, on a host with a byte a host may not hold, on a port that is not all
digits, on a bracketed host that is not an IPv6 address, on a bracket anywhere else in a
host, and on a relative reference whose first segment holds a colon.

A URL is written back with the lower-cased scheme, the host, user information, path and
fragment escaped as their parts require (the path and fragment keep the form they were
written in when that form is valid), and the query as it was written.
-/

namespace StridedBuffer.Web

/-- A user name and, when one was given, a password, unescaped. -/
structure Userinfo where
  name : List UInt8
  password : Option (List UInt8)
  deriving DecidableEq, Repr

/-- A URL read into its parts. -/
structure Url where
  /-- The scheme, lower-cased. -/
  scheme : String := ""
  /-- What follows the scheme's colon when it does not start with a slash. -/
  rootless : List UInt8 := []
  user : Option Userinfo := none
  /-- The host and port, unescaped. -/
  host : List UInt8 := []
  /-- The path, unescaped. -/
  path : List UInt8 := []
  /-- The path as written, kept when it differs from the path's own escaping. -/
  rawPath : List UInt8 := []
  /-- Whether an empty authority is left out when writing. -/
  omitHost : Bool := false
  /-- Whether a lone `?` ends the URL. -/
  forceQuery : Bool := false
  rawQuery : List UInt8 := []
  /-- The fragment, unescaped. -/
  fragment : List UInt8 := []
  /-- The fragment as written, kept when it differs from the fragment's own escaping. -/
  rawFragment : List UInt8 := []
  deriving Repr

/-- Byte values of the delimiters. -/
def slash : UInt8 := 47
def question : UInt8 := 63
def hash : UInt8 := 35
def atSign : UInt8 := 64
def openBracket : UInt8 := 91
def closeBracket : UInt8 := 93

/-- The position of the last occurrence of a byte. -/
def lastIndex (c : UInt8) (cs : List UInt8) : Option Nat :=
  (cs.zipIdx.filter (·.1 == c)).getLast?.map (·.2)

/-- The text before the first occurrence of a byte, and what follows it if it occurs. -/
def cut (c : UInt8) (cs : List UInt8) : List UInt8 × Option (List UInt8) :=
  let before := cs.takeWhile (· ≠ c)
  (before, if before.length < cs.length then some (cs.drop (before.length + 1)) else none)

/-- The position of the first occurrence of a piece of text. -/
def findPiece (piece cs : List UInt8) : Option Nat :=
  (List.range (cs.length + 1)).find? fun i => (cs.drop i).take piece.length == piece

/-- Whether a port part is empty or a colon followed by digits only. -/
def portOk : List UInt8 → Bool
  | [] => true
  | c :: digits => c = colon && digits.all fun d => 48 ≤ d && d ≤ 57

/-- The failure for a port that is not all digits. -/
def portFault (port : List UInt8) : String :=
  "invalid port " ++ Text.Quoted.quoteBytes port ++ " after host"

/-- Reads a bracketed host `[address]:port`, the bracket opening the text; the address
is unescaped, with a zone from `%25` on, and must be an IPv6 address. -/
def bracketedHost (host : List UInt8) : Except String (List UInt8) :=
  match lastIndex closeBracket host with
  | none => .error "missing ']' in host"
  | some close => do
      let port := host.drop (close + 1)
      if !portOk port then throw (portFault port)
      let port ← unescape .host port
      let name := (host.take close).drop 1
      let name ← match findPiece [percent, 50, 53] name with
        | some z => do
            let address ← unescape .host (name.take z)
            let zone ← unescape .zone (name.drop z)
            pure (address ++ zone)
        | none => unescape .host name
      match parseAddress name with
      | .error e => throw ("invalid host: " ++ e)
      | .ok true => throw "invalid IP-literal"
      | .ok false => pure ([openBracket] ++ name ++ [closeBracket] ++ port)

/-- Reads a `host:port` part, unescaped. A bracket must open the part. -/
def readHost (host : List UInt8) : Except String (List UInt8) :=
  match lastIndex openBracket host with
  | some 0 => bracketedHost host
  | some _ => .error "invalid IP-literal"
  | none => do
      if let some i := lastIndex colon host then
        let port := host.drop i
        if !portOk port then throw (portFault port)
      unescape .host host

/-- Whether user information holds only the characters it may. -/
def userinfoOk (cs : List UInt8) : Bool :=
  cs.all fun c => isAlnumByte c || byteIn "-._:~!$&'()*+,;=%@" c

/-- Reads an authority `userinfo@host:port`. -/
def readAuthority (cs : List UInt8) : Except String (Option Userinfo × List UInt8) :=
  match lastIndex atSign cs with
  | none => do return (none, ← readHost cs)
  | some i => do
      let host ← readHost (cs.drop (i + 1))
      let info := cs.take i
      if !userinfoOk info then throw "net/url: invalid userinfo"
      let (name, password) := cut colon info
      let name ← unescape .userinfo name
      match password with
      | none => return (some ⟨name, none⟩, host)
      | some p => return (some ⟨name, some (← unescape .userinfo p)⟩, host)

/-- Splits off a scheme: a letter, then letters, digits, `+`, `-` or `.`, then a colon.
A text without one is all rest; a leading colon fails. -/
def splitScheme (cs : List UInt8) : Except String (List UInt8 × List UInt8) :=
  let rec go : List UInt8 → Nat → Except String (List UInt8 × List UInt8)
    | [], _ => .ok ([], cs)
    | c :: rest, i =>
        if (97 ≤ c && c ≤ 122) || (65 ≤ c && c ≤ 90) then go rest (i + 1)
        else if (48 ≤ c && c ≤ 57) || c = 43 || c = 45 || c = 46 then
          if i = 0 then .ok ([], cs) else go rest (i + 1)
        else if c = colon then
          if i = 0 then .error "missing protocol scheme" else .ok (cs.take i, cs.drop (i + 1))
        else .ok ([], cs)
  go cs 0

/-- The lower-case form of an ASCII text given by its bytes. -/
def lowerText (cs : List UInt8) : String :=
  String.ofList (cs.map fun c => (Char.ofNat c.toNat).toLower)

/-- Reads the part of a URL before its fragment. -/
def readBeforeFragment (u : List UInt8) : Except String Url := do
  if u.any (fun c => c < 32 || c = 127) then
    throw "net/url: invalid control character in URL"
  if u = [42] then return { path := [42] }
  let (scheme, rest) ← splitScheme u
  let scheme := lowerText scheme
  let (rest, forceQuery, rawQuery) :=
    if rest.getLast? = some question ∧ rest.count question = 1 then (rest.dropLast, true, [])
    else match cut question rest with
      | (before, some query) => (before, false, query)
      | (before, none) => (before, false, [])
  let url : Url := { scheme, forceQuery, rawQuery }
  if rest.head? ≠ some slash then
    if !scheme.isEmpty then return { url with rootless := rest }
    if (rest.takeWhile (· ≠ slash)).contains colon then
      throw "first path segment in URL cannot contain colon"
  let (url, rest) ←
    if (!scheme.isEmpty || rest.take 3 ≠ [slash, slash, slash]) ∧ rest.take 2 = [slash, slash] then do
      let authority := (rest.drop 2).takeWhile (· ≠ slash)
      let (user, host) ← readAuthority authority
      pure ({ url with user, host }, (rest.drop 2).drop authority.length)
    else if !scheme.isEmpty ∧ rest.head? = some slash then pure ({ url with omitHost := true }, rest)
    else pure (url, rest)
  let path ← unescape .path rest
  return { url with path, rawPath := if escape .path path = rest then [] else rest }

/-- Reads a URL, or gives the failure message in the form `parse "URL": reason`. -/
def parseUrl (raw : String) : Except String Url :=
  let all := raw.toUTF8.toList
  let (u, fragment) := cut hash all
  match readBeforeFragment u with
  | .error e => .error ("parse " ++ Text.Quoted.quoteBytes u ++ ": " ++ e)
  | .ok url =>
      match fragment with
      | none | some [] => .ok url
      | some f =>
          match unescape .fragment f with
          | .error e => .error ("parse " ++ Text.Quoted.quote raw ++ ": " ++ e)
          | .ok frag =>
              .ok { url with fragment := frag, rawFragment := if escape .fragment frag = f then [] else f }

/-- The lower-cased scheme of a URL, or `none` when it does not read. -/
def urlScheme? (raw : String) : Option String :=
  match parseUrl raw with
  | .ok u => some u.scheme
  | .error _ => none

/-- Whether a text reads, with its escapes undone, as `value`. -/
def readsAs (part : Part) (raw value : List UInt8) : Bool :=
  match unescape part raw with
  | .ok v => v == value
  | .error _ => false

/-- A part as written: the form it was read in when that form is valid and reads back
to the part, else the part's own escaping. -/
def writtenPart (part : Part) (value raw : List UInt8) : List UInt8 :=
  if !raw.isEmpty && validEncoded part raw && readsAs part raw value then raw
  else escape part value

/-- The path as written. -/
def Url.escapedPath (u : Url) : List UInt8 :=
  if !u.rawPath.isEmpty && validEncoded .path u.rawPath && readsAs .path u.rawPath u.path then
    u.rawPath
  else if u.path = [42] then [42]
  else escape .path u.path

/-- User information as written. With `hidden`, a given password is shown as `hidden`
and the name is left unescaped, as messages show it. -/
def Userinfo.written (info : Userinfo) (hidden : Option (List UInt8)) : List UInt8 :=
  match info.password, hidden with
  | none, _ => escape .userinfo info.name
  | some _, some h => info.name ++ colon :: h
  | some p, none => escape .userinfo info.name ++ colon :: escape .userinfo p

/-- The bytes of a URL as written; see `Userinfo.written` for `hidden`. -/
def Url.writtenBytes (u : Url) (hidden : Option (List UInt8)) : List UInt8 :=
  let head := if u.scheme.isEmpty then [] else u.scheme.toUTF8.toList ++ [colon]
  let body :=
    if !u.rootless.isEmpty then head ++ u.rootless
    else
      let authority :=
        if u.scheme.isEmpty ∧ u.host.isEmpty ∧ u.user.isNone then []
        else if u.omitHost ∧ u.host.isEmpty ∧ u.user.isNone then []
        else
          (if !u.host.isEmpty || !u.path.isEmpty || u.user.isSome then [slash, slash] else []) ++
          (match u.user with
            | some info => info.written hidden ++ [atSign]
            | none => []) ++
          escape .host u.host
      let path := u.escapedPath
      let before := head ++ authority ++
        (if !path.isEmpty ∧ path.head? ≠ some slash ∧ !u.host.isEmpty then [slash] else [])
      let dotSlash :=
        if before.isEmpty ∧ (path.takeWhile (· ≠ slash)).contains colon then [46, slash] else []
      before ++ dotSlash ++ path
  let query := if u.forceQuery || !u.rawQuery.isEmpty then question :: u.rawQuery else []
  let fragment := if u.fragment.isEmpty then [] else hash :: writtenPart .fragment u.fragment u.rawFragment
  body ++ query ++ fragment

/-- A URL as written. -/
def Url.text (u : Url) : String :=
  (String.fromUTF8? ⟨(u.writtenBytes none).toArray⟩).getD ""

/-- A URL as messages show it, a password replaced by `***`. -/
def Url.redacted (u : Url) : List UInt8 :=
  u.writtenBytes (some "***".toUTF8.toList)

/-- The host with an empty port removed: a colon that ends it after any closing bracket. -/
def dropEmptyPort (host : List UInt8) : List UInt8 :=
  let lastColon := lastIndex colon host
  let lastBracket := lastIndex closeBracket host
  let hasPort := match lastColon, lastBracket with
    | some c, some b => c > b
    | some _, none => true
    | none, _ => false
  if hasPort && host.getLast? == some colon then host.dropLast else host

/-- The URL a request for `raw` goes to: `raw` read as a URL, an empty port dropped. -/
def requestUrl (raw : String) : Except String Url :=
  (parseUrl raw).map fun u => { u with host := dropEmptyPort u.host }

end StridedBuffer.Web
