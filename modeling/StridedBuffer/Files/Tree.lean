import StridedBuffer.Files.Path
import StridedBuffer.Files.Entry

/-! # A tree of files in memory

A tree holds files and directories under a working directory, each by the list of its
components; the working directory itself is the empty list and is always a directory.
Every operation keeps the parent of each entry a directory.

A path is followed component by component from the working directory. Each component
but the last must lead to a directory: to nothing is `no such file or directory`, to a
file is `not a directory`. Empty and `.` components stay in place, `..` goes up (and
stays at the working directory), and slashes at the end ask that the path name a
directory if it names anything.
-/

namespace StridedBuffer.Files

/-- One entry of a tree. -/
inductive Entry where
  | file (data : ByteArray)
  | directory

/-- The kind of an entry. -/
def Entry.kind : Entry → EntryKind
  | .file _ => .file
  | .directory => .directory

/-- Files and directories by their components below the working directory. -/
structure Tree where
  entries : List (List String × Entry) := []

namespace Tree

/-- The entry at a list of components. -/
def find? (t : Tree) (key : List String) : Option Entry :=
  if key.isEmpty then some .directory else (t.entries.find? (·.1 == key)).map (·.2)

/-- The tree with the entry at `key` set. -/
def put (t : Tree) (key : List String) (e : Entry) : Tree :=
  ⟨t.entries.filter (·.1 != key) ++ [(key, e)]⟩

/-- Follows components from `here`; each step needs `here` to be a directory. -/
def walk (t : Tree) : List String → List String → Except Errno (List String)
  | here, [] => .ok here
  | here, c :: rest =>
      match t.find? here with
      | none => .error .noEntry
      | some (.file _) => .error .notDirectory
      | some .directory =>
          if c.isEmpty || c == "." then t.walk here rest
          else if c == ".." then t.walk here.dropLast rest
          else t.walk (here ++ [c]) rest

/-- Where a path leads, and whether it ended in a slash. A path that ends in a slash
and leads to a file fails as `not a directory`; the empty path leads nowhere. -/
def resolve (t : Tree) (path : String) : Except Errno (List String × Bool) :=
  if path.isEmpty then .error .noEntry
  else
    let parts := components path
    let slashed := parts.length > 1 && (parts.getLast?.getD "").isEmpty
    match t.walk [] (parts.reverse.dropWhile String.isEmpty).reverse with
    | .error e => .error e
    | .ok key =>
        match t.find? key with
        | some (.file _) => if slashed then .error .notDirectory else .ok (key, slashed)
        | _ => .ok (key, slashed)

/-- What a path names. -/
def stat (t : Tree) (path : String) : Except Errno EntryKind := do
  let (key, _) ← t.resolve path
  match t.find? key with
  | none => throw .noEntry
  | some e => return e.kind

/-- What opening a path for reading gives. -/
def openRead (t : Tree) (path : String) : Except Errno Contents := do
  let (key, _) ← t.resolve path
  match t.find? key with
  | none => throw .noEntry
  | some (.file data) => return .bytes data
  | some .directory => return .directory

/-- The tree with a new directory at a path that names nothing yet. -/
def makeDir (t : Tree) (path : String) : Except Errno Tree := do
  let (key, _) ← t.resolve path
  match t.find? key with
  | some _ => throw .alreadyExists
  | none => return t.put key .directory

/-- The tree with a file at a path holding exactly `data`: a new file, or an old one
emptied and written again. A directory cannot be written. -/
def create (t : Tree) (path : String) (data : ByteArray) : Except Errno Tree := do
  let (key, slashed) ← t.resolve path
  match t.find? key with
  | some .directory => throw .isDirectory
  | some (.file _) => return t.put key (.file data)
  | none => if slashed then throw .isDirectory else return t.put key (.file data)

/-- The text of a list of components. -/
def pathOf (key : List String) : String := "/".intercalate key

/-- The files of `after` that `before` does not have with the same bytes, by path. -/
def changedFiles (before after : Tree) : List (String × ByteArray) :=
  after.entries.filterMap fun (key, e) =>
    match e, before.find? key with
    | .file data, some (.file old) => if old.toList == data.toList then none else some (pathOf key, data)
    | .file data, _ => some (pathOf key, data)
    | .directory, _ => none

/-- The components of a path below the working directory, after cleaning. -/
def keyOf (path : String) : List String :=
  (components (cleanPath path)).filter fun c => !c.isEmpty && c != "."

/-- The tree with a directory at `key` and at each of its prefixes that names nothing. -/
def withDirs (t : Tree) (key : List String) : Tree :=
  (List.range key.length).foldl (fun t i =>
    let k := key.take (i + 1)
    match t.find? k with
    | some _ => t
    | none => t.put k .directory) t

/-- The tree with a directory at a path, its missing parents made. -/
def placeDir (t : Tree) (path : String) : Tree :=
  t.withDirs (keyOf path)

/-- The tree with a file at a path, its missing parents made. -/
def placeFile (t : Tree) (path : String) (data : ByteArray) : Tree :=
  let key := keyOf path
  (t.withDirs key.dropLast).put key (.file data)

theorem find?_nil (t : Tree) : t.find? [] = some .directory := rfl

theorem find?_put_same (t : Tree) (key : List String) (e : Entry) (h : key ≠ []) :
    (t.put key e).find? key = some e := by
  have hk : key.isEmpty = false := by cases key <;> simp_all
  simp [find?, put, hk, List.find?_append, List.find?_filter]
  rw [List.find?_eq_none.mpr (by simp)]
  rfl

end Tree

end StridedBuffer.Files
