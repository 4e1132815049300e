import StridedBuffer.Host.Buffer

/-! # Modules of exported types

A module collects named type definitions, each with a constructor, and hands them to a
host runtime once. Adding a name twice keeps the first definition; nothing can be added
once registration has started. Registration runs at most once: a later call answers with
the first call's result and shows the host nothing, and a failed registration still
counts as done.

Constructors are whatever the host side passes in: a module stores and returns them and
never looks inside. A host is seen only through its answer to each definition. Since the
one registration that reaches a host shows it each name once, a host that keeps state
answers as some function of the definition does.
-/

namespace StridedBuffer.Host

/-- The name the core module registers under. -/
def coreModuleName : String := "ndbuf_core"

/-- What a type's constructor builds: a buffer from host data, or a value this library
does not look into. -/
inductive Maker where
  | buffer
  | foreign
  deriving DecidableEq, Repr

/-- The host a module registers with: none at all, or one that answers each definition
(module name, type name, constructor) with its refusal, if any. -/
inductive Runtime (κ : Type) where
  | absent
  | present (define : String → String → κ → Option String)

/-- A host that accepts every type but the one named. -/
def Runtime.refusing {κ : Type} (refuses : Option String) : Runtime κ :=
  .present fun _ t _ => if refuses == some t then some ("host refused " ++ t) else none

/-- A module: its name, its types with their constructors in definition order, and the
result of its registration once that has run (`none` inside for success). -/
structure Module (κ : Type) where
  name : String
  types : List (String × κ)
  registration : Option (Option String)

variable {κ : Type}

/-- An empty module. -/
def Module.empty (name : String) : Module κ :=
  ⟨name, [], none⟩

/-- The module exposing the buffer type. -/
def Module.core : Module Maker :=
  ⟨coreModuleName, [("Buffer", .buffer)], none⟩

/-- Whether registration has started. -/
def Module.registered (m : Module κ) : Bool :=
  m.registration.isSome

/-- The module with one more type; a name already defined keeps its first constructor.
A type needs a name and a constructor (`none` stands for a missing one). -/
def Module.addType (m : Module κ) (name : String) (ctor : Option κ) : Except String (Module κ) :=
  match ctor with
  | none => .error "interop: type needs a name and a constructor"
  | some k =>
      if name.isEmpty then .error "interop: type needs a name and a constructor"
      else if m.registered then
        .error ("interop: module " ++ Text.Quoted.quote m.name ++ " already registered, cannot add " ++
          Text.Quoted.quote name)
      else if m.types.any (·.1 == name) then .ok m
      else .ok { m with types := m.types ++ [(name, k)] }

/-- The defined type names in definition order. -/
def Module.typeNames (m : Module κ) : List String :=
  m.types.map (·.1)

/-- The constructor defined for a name. -/
def Module.lookup (m : Module κ) (name : String) : Option κ :=
  (m.types.find? (·.1 == name)).map (·.2)

/-- Defines the types one by one with a host, stopping at the first it refuses; returns
the definitions made and the failure, if any. -/
def defineAll (module : String) (define : String → String → κ → Option String) :
    List (String × κ) → List (String × String × κ) × Option String
  | [] => ([], none)
  | (t, k) :: rest =>
      match define module t k with
      | some refusal => ([(module, t, k)], some ("interop: register " ++ module ++ "." ++ t ++ ": " ++ refusal))
      | none =>
          let (more, failure) := defineAll module define rest
          ((module, t, k) :: more, failure)

/-- Registers the module with a host: the definitions the host was asked for, the module
afterwards, and the failure, if any. Only the first call contacts the host. -/
def Module.register (m : Module κ) (host : Runtime κ) :
    List (String × String × κ) × Module κ × Option String :=
  match m.registration with
  | some first => ([], m, first)
  | none =>
      let (calls, failure) := match host with
        | .absent => ([], some "interop: nil host")
        | .present define => defineAll m.name define m.types
      (calls, { m with registration := some failure }, failure)

/-! ## Calls in sequence -/

/-- A call that may change a module. Listing types and looking one up read it only. -/
inductive Call (κ : Type) where
  | addType (name : String) (ctor : Option κ)
  | register (host : Runtime κ)

/-- What a call answers: an addition's failure, if any, or the definitions a registration
asked the host for and its failure, if any. -/
inductive Answer (κ : Type) where
  | added (failure : Option String)
  | registered (calls : List (String × String × κ)) (failure : Option String)

/-- One call: the module afterwards and the answer. A failed addition keeps the module. -/
def Module.call (m : Module κ) : Call κ → Module κ × Answer κ
  | .addType name ctor =>
      match m.addType name ctor with
      | .ok m' => (m', .added none)
      | .error e => (m, .added (some e))
  | .register host =>
      let (calls, m', failure) := m.register host
      (m', .registered calls failure)

/-- Calls one after another: the module at the end and every answer. -/
def Module.run (m : Module κ) : List (Call κ) → Module κ × List (Answer κ)
  | [] => (m, [])
  | c :: cs =>
      let (m', a) := m.call c
      let (m'', as) := m'.run cs
      (m'', a :: as)

end StridedBuffer.Host
