/-! # Path text

A path is text with `/` between its components; a path that starts with `/` is rooted.
Cleaning rewrites a path lexically into the shortest text that names the same file:
empty and `.` components go, a `..` takes away the component before it (and is dropped
at the root of a rooted path), and nothing left is `.`. Joining puts a `/` between the
parts from the first nonempty one on, and cleans the result.
-/

namespace StridedBuffer.Files

/-- The components of a path, between its separators; empty ones are kept. -/
def components (p : String) : List String :=
  p.splitOn "/"

/-- One component pushed onto the stack of kept components, the latest first. -/
def pushComponent (rooted : Bool) (stack : List String) (c : String) : List String :=
  if c.isEmpty || c == "." then stack
  else if c == ".." then
    match stack with
    | top :: rest => if top == ".." then ".." :: stack else rest
    | [] => if rooted then [] else [".."]
  else c :: stack

/-- The shortest path naming the same file as `p`, by text alone. -/
def cleanPath (p : String) : String :=
  let rooted := p.startsWith "/"
  let kept := ((components p).foldl (pushComponent rooted) []).reverse
  let body := "/".intercalate kept
  if rooted then "/" ++ body
  else if body.isEmpty then "." else body

/-- The parts from the first nonempty one on, joined by `/` and cleaned; empty when every
part is. -/
def joinPath : List String → String
  | [] => ""
  | p :: rest => if p.isEmpty then joinPath rest else cleanPath ("/".intercalate (p :: rest))

end StridedBuffer.Files
