/-! # Blanks and letter case

White space is the Unicode `White_Space` set below `U+3001`. Lower-casing is only ever
used here to compare with lower-case ASCII keys, so a character matters only when it
lowers to an ASCII letter: the ASCII capitals, the dotted capital I (`U+0130`) and the
Kelvin sign (`U+212A`).
-/

namespace StridedBuffer.Text

/-- Whether a character is white space. -/
def isBlank (c : Char) : Bool :=
  let n := c.toNat
  (0x09 ≤ n && n ≤ 0x0D) || n == 0x20 || n == 0x85 || n == 0xA0 || n == 0x1680 ||
    (0x2000 ≤ n && n ≤ 0x200A) || n == 0x2028 || n == 0x2029 || n == 0x202F ||
    n == 0x205F || n == 0x3000

/-- A string without its leading and trailing white space. -/
def trimBlank (s : String) : String :=
  String.ofList ((s.toList.dropWhile isBlank).reverse.dropWhile isBlank).reverse

/-- A character lowered as far as comparisons with ASCII keys can tell. -/
def lowerChar (c : Char) : Char :=
  if 'A' ≤ c ∧ c ≤ 'Z' then Char.ofNat (c.toNat + 32)
  else if c.toNat = 0x130 then 'i'
  else if c.toNat = 0x212A then 'k'
  else c

/-- A string lowered as far as comparisons with ASCII keys can tell. -/
def lowerKey (s : String) : String :=
  String.ofList (s.toList.map lowerChar)

/-- The nonempty runs of non-separators in `cs`, the first one continuing `cur`, which
is kept reversed. -/
def fieldRuns (sep : Char → Bool) : List Char → List Char → List (List Char)
  | [], cur => if cur.isEmpty then [] else [cur.reverse]
  | c :: rest, cur =>
      if sep c then
        if cur.isEmpty then fieldRuns sep rest [] else cur.reverse :: fieldRuns sep rest []
      else fieldRuns sep rest (c :: cur)

/-- The nonempty pieces of a string between separator characters. -/
def fieldsBy (sep : Char → Bool) (s : String) : List String :=
  (fieldRuns sep s.toList []).map String.ofList

end StridedBuffer.Text
