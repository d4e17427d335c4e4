import VerbNoun.Console
import VerbNoun.Proofs.Frame
set_option autoImplicit false

/-!
# Console: the latest result, the reserved name and the history (SPEC §4.5, §14)

Lines and statements may be run and variables assigned in any order.  However long this goes on,
the latest result is that of the last line that gave one, the reserved name reads as it and never
becomes a variable, no variable goes away, and the history holds every line.  One step of each sort
is looked at once; the rest is by induction on the steps.
-/

namespace VerbNoun

namespace Store

/-! ## Stores that grow -/

/-- A later store has the same reserved name and all the variables of an earlier one, and none of
the reserved name if there was none. -/
structure Grows (s s' : Store) : Prop where
  reserved?_eq : s'.reserved? = s.reserved?
  contains_of : ∀ name, s.contains name = true → s'.contains name = true
  free_of : ∀ r, s.reserved? = some r → s.contains r = false → s'.contains r = false

/-- A store that has grown and has the same latest result. -/
structure Extends (s s' : Store) : Prop extends Grows s s' where
  latest_eq : s'.latest = s.latest

theorem Grows.trans {s s' s'' : Store} (h : s.Grows s') (h' : s'.Grows s'') : s.Grows s'' where
  reserved?_eq := h'.reserved?_eq.trans h.reserved?_eq
  contains_of := fun name hname => h'.contains_of name (h.contains_of name hname)
  free_of := fun r hr hfree => h'.free_of r (h.reserved?_eq.trans hr) (h.free_of r hr hfree)

theorem Extends.refl (s : Store) : s.Extends s := ⟨⟨rfl, fun _ h => h, fun _ _ h => h⟩, rfl⟩

theorem Extends.trans {s s' s'' : Store} (h : s.Extends s') (h' : s'.Extends s'') :
    s.Extends s'' :=
  ⟨h.toGrows.trans h'.toGrows, h'.latest_eq.trans h.latest_eq⟩

theorem Grows.isReserved_eq {s s' : Store} (h : s.Grows s') (name : String) :
    s'.isReserved name = s.isReserved name := by
  unfold isReserved
  rw [h.reserved?_eq]

theorem isReserved_of_eq {s : Store} {r : String} (h : s.reserved? = some r) :
    s.isReserved r = true := by
  unfold isReserved
  rw [h]
  exact decide_eq_true rfl

theorem contains_assignAll (s : Store) (names : List String) (v : Value) (other : String) :
    (s.assignAll names v).contains other = (decide (other ∈ names) || s.contains other) := by
  unfold contains Table.contains
  rw [find?_assignAll]
  by_cases hother : other ∈ names <;> simp [hother]

/-- Every change that a step makes is of this sort: variables are set that are not reserved. -/
theorem extends_assignAll {s : Store} {names : List String}
    (h : ∀ name ∈ names, s.isReserved name = false) (v : Value) :
    s.Extends (s.assignAll names v) := by
  refine ⟨⟨rfl, fun name hname => ?_, fun r hr hfree => ?_⟩, rfl⟩
  · rw [contains_assignAll, hname, Bool.or_true]
  · have hother : r ∉ names := by
      intro hmem
      have hfalse := h r hmem
      rw [isReserved_of_eq hr] at hfalse
      cases hfalse
    rw [contains_assignAll, hfree, decide_eq_false hother]
    rfl

theorem extends_assign_one {s : Store} {name : String} (h : s.isReserved name = false) (v : Value) :
    s.Extends (s.assignAll [name] v) := by
  refine extends_assignAll (fun other hother => ?_) v
  rwa [List.mem_singleton.1 hother]

theorem isReserved_eq_false_of_get? {s : Store} {name : String} (h : s.get? name = none) :
    s.isReserved name = false := by
  unfold get? at h
  split at h
  · cases h
  · rename_i hname
    exact Bool.eq_false_iff.2 hname

theorem extends_make {s : Store} {name : String} (h : s.get? name = none) :
    s.Extends (s.make name) :=
  extends_assign_one (isReserved_eq_false_of_get? h) .null

theorem Spared.extends_store {α : Type} {mentions : String → Prop} {s : Store}
    {r : Except Fault α × Store} (h : Spared mentions s r) : s.Extends r.2 := by
  cases h with
  | intact _ => exact .refl s
  | made _ hnew => exact extends_make hnew

theorem extends_read (s : Store) (name : String) : s.Extends (s.read name).2 := by
  cases hget : s.get? name with
  | some v =>
      rw [read_of_some hget]
      exact .refl s
  | none =>
      rw [read_of_none hget]
      exact extends_make hget

end Store

open Store

/-- A statement sets its targets if none is reserved, and makes variables that it reads. -/
theorem Evaluation.ofStatement_extends (registry : Registry) (host : Host) (s : Statement)
    (store : Store) : store.Extends (ofStatement registry host s store).store := by
  have hcore : store.Extends (ofStatement registry host s.core store).store := by
    rcases ofStatement_core registry host store s with ⟨name, hcore⟩ | hspared
    · rw [hcore]
      exact extends_read store name
    · exact hspared.extends_store
  cases hfind : s.targets.find? store.isReserved with
  | some name =>
      rw [ofStatement_of_reserved registry host hfind]
      exact .refl store
  | none =>
      rw [ofStatement_of_free registry host hfind]
      cases hresult : (ofStatement registry host s.core store).result with
      | error fault =>
          rw [assigning_of_error hresult]
          exact hcore
      | ok v =>
          rw [assigning_of_ok hresult]
          refine hcore.trans (extends_assignAll (fun name hname => ?_) v)
          rw [hcore.isReserved_eq]
          exact Bool.eq_false_iff.2 (List.find?_eq_none.1 hfind name hname)

theorem Evaluation.assigning_result (e : Evaluation) (names : List String) :
    (e.assigning names).result = e.result := by
  cases hresult : e.result with
  | error fault => rw [assigning_of_error hresult, hresult]
  | ok v => rw [assigning_of_ok hresult, ← hresult]

/-! ## Steps of a console -/

/-- Something done with a console: a line run with a report or without, a statement run, or a
variable assigned. -/
inductive Act where
  | execute (host : Host) (line : String)
  | evaluate (host : Host) (line : String)
  | run (host : Host) (statement : Statement)
  | assign (name : String) (v : Value)

/-- The line of an act, if it has one. -/
def Act.line? : Act → Option String
  | .execute _ line => some line
  | .evaluate _ line => some line
  | .run _ _ => none
  | .assign _ _ => none

namespace Console

/-- The console after an act. -/
def act (c : Console) : Act → Console
  | .execute host line => (c.execute host line).console
  | .evaluate host line => (c.evaluate host line).console
  | .run host s => (c.run host s).console
  | .assign name v => { c with store := (c.store.assign name v).2 }

/-- The value that the line of an act gave. -/
def given? (c : Console) : Act → Option Value
  | .execute host line => (c.execute host line).result.toOption
  | .evaluate host line => (c.evaluate host line).result.toOption
  | .run _ _ => none
  | .assign _ _ => none

/-- The console after acts in order. -/
def acted (c : Console) (acts : List Act) : Console := acts.foldl act c

/-- The values that lines gave, in order. -/
def given (c : Console) : List Act → List Value
  | [] => []
  | act :: acts => (c.given? act).toList ++ (c.act act).given acts

/-! ### One step -/

theorem run_extends (c : Console) (host : Host) (s : Statement) :
    c.store.Extends (c.run host s).console.store :=
  Evaluation.ofStatement_extends c.registry host s c.store

theorem evaluate_grows (c : Console) (host : Host) (line : String) :
    c.store.Grows (c.evaluate host line).console.store := by
  unfold evaluate
  split
  · exact (Extends.refl c.store).toGrows
  · rename_i s _
    have hrun := (Evaluation.ofStatement_extends c.registry host s c.store).toGrows
    simp only
    split
    · exact hrun
    · exact ⟨hrun.reserved?_eq, hrun.contains_of, hrun.free_of⟩

theorem evaluate_latest (c : Console) (host : Host) (line : String) :
    (c.evaluate host line).console.store.latest =
      (c.evaluate host line).result.toOption.getD c.store.latest := by
  unfold evaluate
  split
  · rfl
  · rename_i s _
    have hrun := (Evaluation.ofStatement_extends c.registry host s c.store).latest_eq
    simp only
    split
    · rename_i hresult
      rw [hresult]
      exact hrun
    · rename_i hresult
      rw [hresult]
      rfl

theorem evaluate_lines (c : Console) (host : Host) (line : String) :
    (c.evaluate host line).console.lines = c.lines ++ [line] := by
  unfold evaluate
  split
  · rfl
  · simp only
    split <;> rfl

theorem assign_extends (s : Store) (name : String) (v : Value) :
    s.Extends (s.assign name v).2 := by
  unfold Store.assign
  split
  · exact .refl s
  · rename_i hname
    exact extends_assign_one (Bool.eq_false_iff.2 hname) v

theorem act_grows (c : Console) : ∀ act : Act, c.store.Grows (c.act act).store
  | .execute host line => c.evaluate_grows host line
  | .evaluate host line => c.evaluate_grows host line
  | .run host s => (c.run_extends host s).toGrows
  | .assign name v => (assign_extends c.store name v).toGrows

theorem act_latest (c : Console) : ∀ act : Act,
    (c.act act).store.latest = (c.given? act).getD c.store.latest
  | .execute host line => c.evaluate_latest host line
  | .evaluate host line => c.evaluate_latest host line
  | .run host s => (c.run_extends host s).latest_eq
  | .assign name v => (assign_extends c.store name v).latest_eq

theorem act_lines (c : Console) : ∀ act : Act, (c.act act).lines = c.lines ++ act.line?.toList
  | .execute host line => c.evaluate_lines host line
  | .evaluate host line => c.evaluate_lines host line
  | .run _ _ => (List.append_nil c.lines).symm
  | .assign _ _ => (List.append_nil c.lines).symm

/-! ### Whole runs -/

theorem acted_grows (c : Console) (acts : List Act) : c.store.Grows (c.acted acts).store := by
  induction acts generalizing c with
  | nil => exact (Extends.refl c.store).toGrows
  | cons act acts ih => exact (c.act_grows act).trans (ih (c.act act))

theorem acted_latest (c : Console) (acts : List Act) :
    (c.acted acts).store.latest = (c.given acts).getLastD c.store.latest := by
  induction acts generalizing c with
  | nil => rfl
  | cons act acts ih =>
      have hstep : c.acted (act :: acts) = (c.act act).acted acts := rfl
      rw [hstep, ih, act_latest, given]
      cases c.given? act with
      | none => rfl
      | some v => exact List.getLastD_cons.symm

theorem acted_lines (c : Console) (acts : List Act) :
    (c.acted acts).lines = c.lines ++ acts.filterMap Act.line? := by
  induction acts generalizing c with
  | nil => exact (List.append_nil c.lines).symm
  | cons act acts ih =>
      have hstep : c.acted (act :: acts) = (c.act act).acted acts := rfl
      rw [hstep, ih, act_lines, List.append_assoc]
      cases hline : act.line? with
      | none =>
          rw [List.filterMap_cons_none hline]
          rfl
      | some line =>
          rw [List.filterMap_cons_some hline]
          rfl

/-! ### The history -/

theorem history_suffix (c : Console) (n : Nat) : c.history n <:+ c.lines := by
  unfold history
  split
  · exact List.suffix_refl c.lines
  · exact List.drop_suffix _ c.lines

theorem length_history (c : Console) {n : Nat} (hn : 0 < n) :
    (c.history n).length = min n c.lines.length := by
  unfold history
  rw [if_neg (Nat.ne_of_gt hn), List.length_drop]
  omega

/-! ### The reserved name -/

/-- A console that keeps a name for the latest result: there is no variable of that name, reading it
gives the latest result and changes nothing, and assigning to it fails and changes nothing. -/
structure Reserves (c : Console) (r : String) : Prop where
  absent : c.store.contains r = false
  read_statement : ∀ host, c.run host (.var r) = ⟨.ok c.store.latest, [], c⟩
  /-- The name is read as an argument of any call of a chain, after any items that were bound. -/
  read_argument : ∀ host calls piped? v,
    (Evaluation.ofChain c.registry host calls piped? c.store).result = .ok v →
    ∀ d items (b b' : Binding) store p,
      b.steps d items (Evaluation.ofChain c.registry host calls piped? c.store).store =
        (.ok b', store) →
      (Statement.var r).resolve p store = (.ok c.store.latest, store)
  assign_store : ∀ v, c.store.assign r v = (.error (.readOnlyVariable r), c.store)
  assign_act : ∀ v, c.act (.assign r v) = c
  assign_statement : ∀ host s, c.run host (.assign r s) = ⟨.error (.readOnlyVariable r), [], c⟩

theorem read_reserved {s : Store} {r : String} (h : s.isReserved r = true) :
    s.read r = (s.latest, s) := by
  refine read_of_some ?_
  unfold get?
  rw [if_pos h]

theorem reserves_of_isReserved {c : Console} {r : String} (hr : c.store.isReserved r = true)
    (habsent : c.store.contains r = false) : c.Reserves r := by
  have hassign : ∀ v, c.store.assign r v = (.error (.readOnlyVariable r), c.store) := by
    intro v
    rw [Store.assign, if_pos hr]
  refine ⟨habsent, fun host => ?_, ?_, hassign, fun v => ?_, fun host s => ?_⟩
  · have hvar : c.run host (.var r) = ⟨.ok (c.store.read r).1, [],
        { c with store := (c.store.read r).2 }⟩ := rfl
    rw [hvar, read_reserved hr]
  · intro host calls piped? v hchain d items b b' store p hsteps
    -- Calls and items that went well have left the store as it was.
    have hstore := Evaluation.ofChain_spared c.registry host calls piped? c.store
    rw [Evaluation.outcome, hchain] at hstore
    have hitems := Binding.steps_spared d items b
      (Evaluation.ofChain c.registry host calls piped? c.store).store
    rw [hsteps] at hitems
    rw [hitems.store_eq_of_ok, hstore.store_eq_of_ok]
    have hvar : (Statement.var r).resolve p c.store =
        (.ok (c.store.read r).1, (c.store.read r).2) := rfl
    rw [hvar, read_reserved hr]
  · rw [act, hassign]
  · simp only [run, Evaluation.ofStatement, hr, if_true]

/-- A name that can be assigned, directly and by a statement. -/
structure Assigns (c : Console) (name : String) : Prop where
  assign_store : ∀ v, ∃ store, c.store.assign name v = (.ok (), store) ∧ store.get? name = some v
  assign_statement : ∀ host s, (c.run host (.assign name s)).result = (c.run host s).result

theorem assigns_of_free {c : Console} {name : String} (h : c.store.isReserved name = false) :
    c.Assigns name := by
  have hname : ¬ c.store.isReserved name = true := Bool.eq_false_iff.1 h
  constructor
  · intro v
    refine ⟨{ c.store with vars := c.store.vars.insert name v }, by rw [Store.assign, if_neg hname],
      ?_⟩
    have hget : get? { c.store with vars := c.store.vars.insert name v } name =
        if c.store.isReserved name then some c.store.latest
        else (c.store.vars.insert name v).find? name := rfl
    rw [hget, if_neg hname, Table.find?_insert, if_pos rfl]
  · intro host s
    have hrun : (c.run host (.assign name s)).result =
        (Evaluation.ofStatement c.registry host (.assign name s) c.store).result := rfl
    rw [hrun, Evaluation.ofStatement_assign c.registry host h, Evaluation.assigning_result]
    rfl

end Console

/-- What holds of a console after any acts.  Its latest result is that of the last line that gave
one.  A reserved name reads as the latest result and is no variable; without one every name can be
assigned.  Variables stay, and the history is that of all lines. -/
theorem console_account (registry : Registry) (options : ConsoleOptions) (acts : List Act) :
    let start := Console.new registry options
    let c := start.acted acts
    c.store.latest = (start.given acts).getLastD .null ∧
    (options.useLatest = true → c.Reserves options.latestName) ∧
    (options.useLatest = false → ∀ name, c.Assigns name) ∧
    (∀ later name, c.store.contains name = true → (c.acted later).store.contains name = true) ∧
    c.history 0 = acts.filterMap Act.line? ∧
    ∀ n, 0 < n →
      c.history n <:+ c.history 0 ∧ (c.history n).length = min n (c.history 0).length := by
  intro start c
  have hgrows : start.store.Grows c.store := start.acted_grows acts
  refine ⟨start.acted_latest acts, fun huse => ?_, fun huse name => ?_, ?_, ?_, ?_⟩
  · have hreserved : start.store.reserved? = some options.latestName := if_pos huse
    refine Console.reserves_of_isReserved ?_ (hgrows.free_of _ hreserved rfl)
    rw [hgrows.isReserved_eq, isReserved_of_eq hreserved]
  · have hreserved : start.store.reserved? = none := if_neg (Bool.eq_false_iff.1 huse)
    refine Console.assigns_of_free ?_
    rw [hgrows.isReserved_eq, isReserved, hreserved]
    rfl
  · intro later name hname
    exact (c.acted_grows later).contains_of name hname
  · exact start.acted_lines acts
  · intro n hn
    exact ⟨c.history_suffix n, c.length_history hn⟩

/-- A line that fails, one with a value, an assignment to the reserved name and a statement: the
value is the latest result still, and both lines are in the history. -/
theorem console_account_four_acts :
    let c := (Console.new Stock.registry {}).acted
      [.evaluate .plain "Add-Number 1", .execute .plain "'seven'", .assign "last" (.ofBool true),
        .run .plain (.assign "x" (.word "eight"))]
    c.Reserves "last" ∧ c.store.latest = .ofText "seven" ∧
      c.history 1 <:+ ["Add-Number 1", "'seven'"] := by
  have haccount := console_account Stock.registry {}
    [.evaluate .plain "Add-Number 1", .execute .plain "'seven'", .assign "last" (.ofBool true),
      .run .plain (.assign "x" (.word "eight"))]
  obtain ⟨hlatest, hreserves, -, -, hlines, hhistory⟩ := haccount
  refine ⟨hreserves rfl, hlatest.trans (by decide +kernel), ?_⟩
  have hsuffix := (hhistory 1 Nat.one_pos).1
  rwa [hlines] at hsuffix

end VerbNoun
