import Mathlib
import StridedBuffer.Host.Module

/-! # Laws of module calls

A module answers any sequence of calls in two phases. While it is open, an addition fails
exactly when it lacks a name or a constructor; the defined names are the names of the
successful additions in order of first addition, each once, and each keeps the constructor
of its first addition. The first registration asks the host for the types in order, up to
and including the first one it refuses. From then on the module never changes: every
addition fails, and every registration answers the first one's result without asking a
host.

Every sequence of calls is some additions, then possibly a first registration and any
calls after it (`Call.split_at_register`), so `CallLaws` describes all of them.
-/

namespace StridedBuffer.Host

variable {κ : Type}

/-! ## First occurrences -/

section FirstOccurrences

variable {α : Type} [BEq α] [LawfulBEq α]

theorem eraseDups_of_nodup : ∀ {l : List α}, l.Nodup → l.eraseDups = l
  | [], _ => rfl
  | a :: as, h => by
      rw [List.nodup_cons] at h
      have hkeep : as.filter (fun b => !b == a) = as :=
        List.filter_eq_self.mpr fun b hb => by
          have : b ≠ a := fun hba => h.1 (hba ▸ hb)
          simpa using this
      rw [List.eraseDups_cons, hkeep, eraseDups_of_nodup h.2]

theorem eraseDups_append_cons_of_mem {l r : List α} {a : α} (h : a ∈ l) :
    (l ++ a :: r).eraseDups = (l ++ r).eraseDups := by
  rw [List.eraseDups_append, List.eraseDups_append, List.cons_removeAll,
    if_neg (by simp [h])]

end FirstOccurrences

/-- The types after defining `tk`: a name already defined keeps its first constructor. -/
def insertType (ts : List (String × κ)) (tk : String × κ) : List (String × κ) :=
  if ts.any (·.1 == tk.1) then ts else ts ++ [tk]

theorem nodup_insertType {ts : List (String × κ)} (tk : String × κ)
    (h : (ts.map Prod.fst).Nodup) : ((insertType ts tk).map Prod.fst).Nodup := by
  unfold insertType
  split
  · exact h
  · rename_i hnew
    rw [List.map_append, List.map_singleton, List.nodup_append]
    refine ⟨h, List.nodup_singleton _, ?_⟩
    simp only [List.any_eq_true, beq_iff_eq, not_exists, not_and] at hnew
    rintro _ hx _ hb
    rw [List.mem_singleton] at hb
    obtain ⟨x, hmem, rfl⟩ := List.mem_map.mp hx
    subst hb
    exact hnew x hmem

theorem nodup_foldl_insertType : ∀ (adds : List (String × κ)) {ts : List (String × κ)},
    (ts.map Prod.fst).Nodup → ((adds.foldl insertType ts).map Prod.fst).Nodup
  | [], _, h => h
  | tk :: adds, _, h => nodup_foldl_insertType adds (nodup_insertType tk h)

theorem names_foldl_insertType : ∀ (adds : List (String × κ)) {ts : List (String × κ)},
    (ts.map Prod.fst).Nodup →
    (adds.foldl insertType ts).map Prod.fst = (ts.map Prod.fst ++ adds.map Prod.fst).eraseDups
  | [], ts, h => by simp [eraseDups_of_nodup h]
  | tk :: adds, ts, h => by
      rw [List.foldl_cons, names_foldl_insertType adds (nodup_insertType tk h)]
      unfold insertType
      split
      · rename_i hold
        have : tk.1 ∈ ts.map Prod.fst := by
          simp only [List.any_eq_true, beq_iff_eq] at hold
          obtain ⟨x, hx, hname⟩ := hold
          exact List.mem_map.mpr ⟨x, hx, hname⟩
        rw [List.map_cons, eraseDups_append_cons_of_mem this]
      · simp

theorem find?_append_cons_of_name {ts rest : List (String × κ)} {tk : String × κ}
    (hold : ts.any (·.1 == tk.1) = true) (name : String) :
    (ts ++ tk :: rest).find? (·.1 == name) = (ts ++ rest).find? (·.1 == name) := by
  rw [List.find?_append, List.find?_append]
  cases hts : ts.find? (·.1 == name) with
  | some x => rfl
  | none =>
      have hskip : (tk.1 == name) = false := by
        rw [List.find?_eq_none] at hts
        simp only [List.any_eq_true, beq_iff_eq] at hold
        obtain ⟨x, hx, hname⟩ := hold
        simpa [hname] using hts x hx
      simp [hskip]

theorem find?_foldl_insertType (name : String) :
    ∀ (adds : List (String × κ)) (ts : List (String × κ)),
      (adds.foldl insertType ts).find? (·.1 == name) = (ts ++ adds).find? (·.1 == name)
  | [], ts => by simp
  | tk :: adds, ts => by
      rw [List.foldl_cons, find?_foldl_insertType name adds]
      unfold insertType
      split
      · rename_i hold
        rw [find?_append_cons_of_name hold]
      · simp

/-! ## While the module is open -/

/-- The calls adding `adds` in order. -/
def additions (adds : List (String × Option κ)) : List (Call κ) :=
  adds.map fun a => .addType a.1 a.2

/-- What an addition to an open module answers: it fails exactly without a name or a
constructor. -/
def openAnswer (a : String × Option κ) : Answer κ :=
  .added (if a.1.isEmpty || a.2.isNone then some "interop: type needs a name and a constructor"
    else none)

/-- The additions that succeed on an open module, with their constructors. -/
def accepted (adds : List (String × Option κ)) : List (String × κ) :=
  adds.filterMap fun a => if a.1.isEmpty then none else a.2.map (a.1, ·)

theorem accepted_cons (a : String × Option κ) (adds : List (String × Option κ)) :
    accepted (a :: adds) = accepted [a] ++ accepted adds := by
  simp only [accepted, List.filterMap_cons, List.filterMap_nil]
  split <;> simp

theorem Module.call_addType_of_open {m : Module κ} (h : m.registration = none)
    (a : String × Option κ) :
    m.call (.addType a.1 a.2) =
      ({ m with types := (accepted [a]).foldl insertType m.types }, openAnswer a) := by
  obtain ⟨mname, types, registration⟩ := m
  subst h
  obtain ⟨name, ctor⟩ := a
  cases ctor with
  | none => simp [Module.call, Module.addType, openAnswer, accepted]
  | some k =>
      by_cases hname : name.isEmpty = true
      · simp only [Module.call, Module.addType, hname, if_true, openAnswer, Option.isNone_some,
          Bool.true_or, accepted, List.filterMap_cons, List.filterMap_nil, List.foldl_nil]
      · simp only [Bool.not_eq_true] at hname
        simp only [Module.call, Module.addType, hname, Bool.false_eq_true, if_false,
          Module.registered, Option.isSome_none, openAnswer, Option.isNone_some, Bool.or_false,
          accepted, List.filterMap_cons, List.filterMap_nil, Option.map_some, List.foldl_cons,
          List.foldl_nil, insertType]
        split_ifs <;> rfl

theorem Module.run_additions : ∀ (adds : List (String × Option κ)) {m : Module κ},
    m.registration = none →
    m.run (additions adds) =
      ({ m with types := (accepted adds).foldl insertType m.types }, adds.map openAnswer)
  | [], m, _ => by simp [additions, accepted, Module.run]
  | a :: adds, m, h => by
      have hstep := m.call_addType_of_open h a
      simp only [additions, List.map_cons, Module.run] at hstep ⊢
      rw [hstep]
      dsimp only
      rw [show List.map (fun a => Call.addType a.1 a.2) adds = additions adds from rfl,
        Module.run_additions adds (m := { m with types := (accepted [a]).foldl insertType m.types }) h,
        accepted_cons a adds, List.foldl_append]

/-! ## Registration -/

/-- The definitions a host answering `define` is asked for: the types in order, up to and
including the first one it refuses. -/
def asked (module : String) (define : String → String → κ → Option String)
    (ts : List (String × κ)) : List (String × String × κ) :=
  (ts.take ((ts.takeWhile fun tk => (define module tk.1 tk.2).isNone).length + 1)).map
    fun tk => (module, tk.1, tk.2)

/-- The failure of defining the types `ts`: the first refusal, after its type. -/
def refusal (module : String) (define : String → String → κ → Option String)
    (ts : List (String × κ)) : Option String :=
  (ts.find? fun tk => (define module tk.1 tk.2).isSome).bind fun tk =>
    (define module tk.1 tk.2).map fun e => "interop: register " ++ module ++ "." ++ tk.1 ++ ": " ++ e

theorem defineAll_eq (module : String) (define : String → String → κ → Option String) :
    ∀ ts : List (String × κ), defineAll module define ts = (asked module define ts, refusal module define ts)
  | [] => rfl
  | (t, k) :: rest => by
      cases hdef : define module t k with
      | some e => simp [defineAll, asked, refusal, hdef]
      | none =>
          have ih := defineAll_eq module define rest
          simp only [asked, refusal] at ih
          simp [defineAll, asked, refusal, hdef, ih]

/-! ## After registration -/

/-- What a registered module answers: an addition fails, for a missing name or constructor
first; a registration repeats the first result and asks no host. -/
def Module.closedAnswer (m : Module κ) (first : Option String) : Call κ → Answer κ
  | .addType name ctor =>
      .added (some (if name.isEmpty || ctor.isNone then "interop: type needs a name and a constructor"
        else "interop: module " ++ Text.Quoted.quote m.name ++ " already registered, cannot add " ++
          Text.Quoted.quote name))
  | .register _ => .registered [] first

theorem Module.call_of_registered {m : Module κ} {first : Option String}
    (h : m.registration = some first) (c : Call κ) : m.call c = (m, m.closedAnswer first c) := by
  cases c with
  | addType name ctor =>
      cases ctor with
      | none => simp [Module.call, Module.addType, Module.closedAnswer]
      | some k =>
          by_cases hname : name.isEmpty = true
          · simp [Module.call, Module.addType, Module.closedAnswer, hname]
          · simp [Module.call, Module.addType, Module.closedAnswer, hname, Module.registered, h]
  | register host => simp [Module.call, Module.register, Module.closedAnswer, h]

theorem Module.run_of_registered {m : Module κ} {first : Option String}
    (h : m.registration = some first) :
    ∀ cs : List (Call κ), m.run cs = (m, cs.map (m.closedAnswer first))
  | [] => rfl
  | c :: cs => by
      simp only [Module.run, m.call_of_registered h c, Module.run_of_registered h cs,
        List.map_cons]

theorem Module.run_append (m : Module κ) (cs ds : List (Call κ)) :
    m.run (cs ++ ds) =
      (((m.run cs).1.run ds).1, (m.run cs).2 ++ ((m.run cs).1.run ds).2) := by
  induction cs generalizing m with
  | nil => rfl
  | cons c cs ih => simp only [List.cons_append, Module.run, ih, List.cons_append]

theorem Call.split_at_register : ∀ cs : List (Call κ),
    (∃ adds, cs = additions adds) ∨
      ∃ adds host later, cs = additions adds ++ .register host :: later
  | [] => .inl ⟨[], rfl⟩
  | .register host :: later => .inr ⟨[], host, later, rfl⟩
  | .addType name ctor :: cs =>
      match Call.split_at_register cs with
      | .inl ⟨adds, h⟩ => .inl ⟨(name, ctor) :: adds, by simp [additions, h]⟩
      | .inr ⟨adds, host, later, h⟩ =>
          .inr ⟨(name, ctor) :: adds, host, later, by simp [additions, h]⟩

/-! ## The laws -/

def Module.afterAdding (m : Module κ) (adds : List (String × Option κ)) : Module κ :=
  (m.run (additions adds)).1

/-- The laws of the calls on an open module `m₀`: the additions `adds` while it is open,
then a first registration with `host`, then the calls `later`. -/
structure CallLaws (m₀ : Module κ) (adds : List (String × Option κ)) (host : Runtime κ)
    (later : List (Call κ)) : Prop where
  /-- an addition fails exactly without a name or a constructor -/
  answers : (m₀.run (additions adds)).2 = adds.map openAnswer
  /-- the names of the successful additions, in order of first addition -/
  names : (m₀.afterAdding adds).typeNames =
    (m₀.typeNames ++ (accepted adds).map Prod.fst).eraseDups
  nodup : (m₀.afterAdding adds).typeNames.Nodup
  /-- each name keeps the constructor of its first successful addition -/
  lookup : ∀ name, (m₀.afterAdding adds).lookup name =
    ((m₀.types ++ accepted adds).find? (·.1 == name)).map Prod.snd
  /-- no host: nothing is defined, and the registration fails -/
  nilHost : host = .absent → ((m₀.afterAdding adds).register host).1 = [] ∧
    ((m₀.afterAdding adds).register host).2.2 = some "interop: nil host"
  /-- a host is asked for the types in order up to the first refusal, which is the failure -/
  definitions : ∀ define, host = .present define →
    ((m₀.afterAdding adds).register host).1 = asked m₀.name define (m₀.afterAdding adds).types ∧
    ((m₀.afterAdding adds).register host).2.2 = refusal m₀.name define (m₀.afterAdding adds).types
  /-- from the first registration on, the module is frozen and answers as a registered one -/
  frozen : m₀.run (additions adds ++ .register host :: later) =
    ({ m₀.afterAdding adds with registration := some ((m₀.afterAdding adds).register host).2.2 },
      adds.map openAnswer ++
        .registered ((m₀.afterAdding adds).register host).1
          ((m₀.afterAdding adds).register host).2.2 ::
        later.map ((m₀.afterAdding adds).closedAnswer ((m₀.afterAdding adds).register host).2.2))

/-- Any calls on a new module, open and with distinct names, obey the module laws. -/
theorem module_registers_once (m₀ : Module κ) (hfresh : m₀.registration = none)
    (hnodup : m₀.typeNames.Nodup) (adds : List (String × Option κ)) (host : Runtime κ)
    (later : List (Call κ)) : CallLaws m₀ adds host later := by
  have hrun := Module.run_additions adds hfresh
  have hafter : m₀.afterAdding adds =
      { m₀ with types := (accepted adds).foldl insertType m₀.types } := by
    rw [Module.afterAdding, hrun]
  have hnames : (m₀.afterAdding adds).typeNames =
      (m₀.typeNames ++ (accepted adds).map Prod.fst).eraseDups := by
    rw [hafter]
    exact names_foldl_insertType _ hnodup
  have hopen : (m₀.afterAdding adds).registration = none := by rw [hafter]; exact hfresh
  have hreg : (m₀.afterAdding adds).register host =
      (((m₀.afterAdding adds).register host).1,
        { m₀.afterAdding adds with registration := some ((m₀.afterAdding adds).register host).2.2 },
        ((m₀.afterAdding adds).register host).2.2) := by
    simp only [Module.register, hopen]
  refine ⟨by rw [hrun], hnames, ?_, ?_, ?_, ?_, ?_⟩
  · -- names stay distinct under insertion
    rw [hafter]
    exact nodup_foldl_insertType _ hnodup
  · intro name
    rw [hafter]
    simp only [Module.lookup]
    rw [find?_foldl_insertType]
  · rintro rfl
    simp [Module.register, hopen]
  · rintro define rfl
    simp only [Module.register, hopen]
    rw [defineAll_eq, hafter]
    exact ⟨rfl, rfl⟩
  · rw [Module.run_append, show (m₀.run (additions adds)).1 = m₀.afterAdding adds from rfl, hrun]
    simp only [Module.run, Module.call]
    rw [hreg]
    dsimp only
    rw [Module.run_of_registered rfl]
    rfl

/-- The core module with three additions, a registration refused at the first new type,
and two calls after it. -/
theorem core_module_registers_once :
    Module.core.registration = none ∧ Module.core.typeNames.Nodup ∧
      CallLaws Module.core [("Tensor", some .foreign), ("", some .buffer), ("Buffer", some .foreign)]
        (Runtime.refusing (some "Tensor")) [.addType "Late" (some .foreign), .register .absent] :=
  ⟨rfl, by decide, module_registers_once Module.core rfl (by decide) _ _ _⟩

end StridedBuffer.Host
