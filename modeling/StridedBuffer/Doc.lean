/-! # Answer documents

A small tree of named fields, lists and scalars. Every description the library gives
of its objects (a view, a descriptor, a snapshot header, a fetched split) is a `Doc`,
so a single printer writes all of them and the field order of a record is the order
in which the describing function lists it.
-/

namespace StridedBuffer

/-- A described value: nothing, a truth value, an integer, a text, a list, or a record
of named fields. -/
inductive Doc where
  | null
  | bool (value : Bool)
  | int (value : Int)
  | text (value : String)
  | list (items : List Doc)
  | record (fields : List (String × Doc))
  deriving Inhabited, Repr

namespace Doc

/-- A list of integers. -/
def ints (xs : List Int) : Doc :=
  .list (xs.map .int)

/-- A record with one more field at its end; a value that is not a record is kept. -/
def withField (d : Doc) (name : String) (value : Doc) : Doc :=
  match d with
  | .record fields => .record (fields ++ [(name, value)])
  | other => other

/-- A record with several more fields at its end. -/
def withFields (d : Doc) (more : List (String × Doc)) : Doc :=
  match d with
  | .record fields => .record (fields ++ more)
  | other => other

/-- The value of a field of a record, if the record has it. -/
def field? (d : Doc) (name : String) : Option Doc :=
  match d with
  | .record fields => (fields.find? (·.1 == name)).map (·.2)
  | _ => none

end Doc

end StridedBuffer
