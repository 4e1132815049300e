/-! # Bracketed listings

Integer lists are shown as `[2 3]`, items separated by single blanks; element previews
are shown as `[1, 2, 3]`.
-/

namespace StridedBuffer.Text

/-- Items in brackets, separated by `sep`. -/
def bracketed (sep : String) (items : List String) : String :=
  "[" ++ sep.intercalate items ++ "]"

/-- Signed words as `[2 3]`. -/
def spaced (xs : List Int64) : String :=
  bracketed " " (xs.map fun x => toString x.toInt)

end StridedBuffer.Text
