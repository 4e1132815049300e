import StridedBuffer.Text.Quoted

/-! # Command flags

A command's arguments are its flags and its positional arguments, in any order. A flag
is written `--name value` or `--name=value`; a switch is on when written alone and takes
a truth word after `=`. `--` ends the flags, and a lone `-` is positional. The commands
have no one-letter flags, so `-h` asks for help and any other `-x` is an error. Help,
asked for by `--help` or `-h`, stops the parse and shows the usage: the flags sorted by
name, their usage texts in one column, and the defaults that are not empty or off.
-/

namespace StridedBuffer.Command

open Text

/-- What a flag takes: text, or a truth value. -/
inductive FlagKind where
  | text
  | switch
  deriving DecidableEq, Repr

/-- A flag a command accepts, with its default value and usage text. -/
structure FlagSpec where
  name : String
  kind : FlagKind
  default : String
  usage : String

/-- The value of every flag and the positional arguments. -/
structure FlagValues where
  values : List (String × String)
  positional : List String

/-- The value of a flag; empty for a flag that does not exist. -/
def FlagValues.get (v : FlagValues) (name : String) : String :=
  (v.values.lookup name).getD ""

/-- What the arguments ask for: help, or a run with these values. -/
inductive Parsed where
  | help
  | values (v : FlagValues)

/-- The truth value a word stands for. -/
def truthWord? (s : String) : Option Bool :=
  if ["1", "t", "T", "TRUE", "true", "True"].contains s then some true
  else if ["0", "f", "F", "FALSE", "false", "False"].contains s then some false
  else none

/-- The values after a flag is given `value`; a switch takes only a truth word. -/
def assign (values : List (String × String)) (spec : FlagSpec) (value : String) :
    Except String (List (String × String)) :=
  let set := fun (v : String) => values.map fun (k, old) => if k == spec.name then (k, v) else (k, old)
  match spec.kind with
  | .text => .ok (set value)
  | .switch =>
      match truthWord? value with
      | some b => .ok (set (toString b))
      | none =>
          .error ("invalid argument " ++ Quoted.quote value ++ " for " ++
            Quoted.quote ("--" ++ spec.name) ++ " flag: strconv.ParseBool: parsing " ++
            Quoted.quote value ++ ": invalid syntax")

/-- The text before the first `=` and the text after it, if there is one. -/
def splitAssignment (cs : List Char) : List Char × Option (List Char) :=
  match cs.splitOn '=' with
  | [] => (cs, none)
  | [whole] => (whole, none)
  | key :: _ => (key, some (cs.drop (key.length + 1)))

/-- Parses arguments after the values and positional arguments found so far. -/
def parseFrom (specs : List FlagSpec) (values : List (String × String)) (positional : List String) :
    List String → Except String Parsed
  | [] => .ok (.values ⟨values, positional⟩)
  | s :: rest =>
      let cs := s.toList
      match cs with
      | '-' :: '-' :: [] => .ok (.values ⟨values, positional ++ rest⟩)
      | '-' :: '-' :: body =>
          if body.head? == some '-' || body.head? == some '=' then
            .error ("bad flag syntax: " ++ s)
          else
            let (key, given) := splitAssignment body
            let name := String.ofList key
            match specs.find? (·.name == name) with
            | none =>
                if name == "help" then .ok .help else .error ("unknown flag: --" ++ name)
            | some spec =>
                match given with
                | some v =>
                    match assign values spec (String.ofList v) with
                    | .error e => .error e
                    | .ok values => parseFrom specs values positional rest
                | none =>
                    match spec.kind with
                    | .switch =>
                        match assign values spec "true" with
                        | .error e => .error e
                        | .ok values => parseFrom specs values positional rest
                    | .text =>
                        match rest with
                        | v :: more =>
                            match assign values spec v with
                            | .error e => .error e
                            | .ok values => parseFrom specs values positional more
                        | [] => .error ("flag needs an argument: " ++ s)
      | '-' :: c :: more =>
          if "test.".toList.isPrefixOf (c :: more) then parseFrom specs values positional rest
          else if c == 'h' then .ok .help
          else
            let first := (s.toUTF8.toList.drop 1).headD 0
            .error ("unknown shorthand flag: " ++ Quoted.quoteCode first.toNat ++ " in -" ++
              String.ofList (c :: more))
      | _ => parseFrom specs values (positional ++ [s]) rest

/-- Parses a command's arguments against its flags, each starting at its default. -/
def parseFlags (specs : List FlagSpec) (args : List String) : Except String Parsed :=
  parseFrom specs (specs.map fun f => (f.name, f.default)) [] args

theorem parseFlags_nil (specs : List FlagSpec) :
    parseFlags specs [] = .ok (.values ⟨specs.map fun f => (f.name, f.default), []⟩) := rfl

/-- The left column of a flag's usage line. -/
def FlagSpec.left (f : FlagSpec) : String :=
  "      --" ++ f.name ++ (if f.kind == .text then " string" else "")

/-- The usage text of a flag, with its default when that is not empty or off. -/
def FlagSpec.right (f : FlagSpec) : String :=
  match f.kind with
  | .text => f.usage ++ (if f.default.isEmpty then "" else " (default " ++ Quoted.quote f.default ++ ")")
  | .switch => f.usage ++ (if f.default == "false" then "" else " (default " ++ f.default ++ ")")

/-- The usage of a command: its flags sorted by name, the usage texts three spaces past
the widest left column. -/
def usageText (command : String) (specs : List FlagSpec) : String :=
  let sorted := specs.mergeSort fun a b => decide (a.name ≤ b.name)
  let width := sorted.foldl (fun w f => max w f.left.utf8ByteSize) 0
  "Usage of " ++ command ++ ":\n" ++ String.join (sorted.map fun f =>
    f.left ++ String.ofList (List.replicate (width - f.left.utf8ByteSize + 3) ' ') ++ f.right ++ "\n")

end StridedBuffer.Command
