import VerbNoun.Command.Stock
import VerbNoun.Proofs.Command.Item
import VerbNoun.Proofs.Evaluation
set_option autoImplicit false

/-!
# Frame: what a statement changes in the store (SPEC §3, §4.5)

Commands read variables by a way that makes those that are missing, and they do so in the midst of
binding, which may fail at any argument.  Still a command that succeeds makes none: the null value
in a new variable fits no parameter.  So calls leave the store alone or fail at once, and only the
targets of assignments are ever set.
-/

namespace VerbNoun

namespace Store

/-! ## Making variables -/

/-- The store with a variable made, which is null. -/
def make (s : Store) (name : String) : Store := { s with vars := s.vars.insert name .null }

theorem read_of_some {s : Store} {name : String} {v : Value} (h : s.get? name = some v) :
    s.read name = (v, s) := by
  simp only [read, h]

theorem read_of_none {s : Store} {name : String} (h : s.get? name = none) :
    s.read name = (.null, s.make name) := by
  simp only [read, h, make]

theorem find?_of_get?_eq_none {s : Store} {name : String} (h : s.get? name = none) :
    s.vars.find? name = none := by
  unfold get? at h
  split at h
  · cases h
  · exact h

theorem find?_make (s : Store) (name other : String) :
    (s.make name).vars.find? other = if other = name then some .null else s.vars.find? other :=
  s.vars.find?_insert name other .null

/-- What may have become of a store that was read: nothing; or the run has failed, and failed for
the null value in the one variable that it made. -/
inductive Spared {α : Type} (mentions : String → Prop) (s : Store) : Except Fault α × Store → Prop
  | intact (result : Except Fault α) : Spared mentions s (result, s)
  | made {name parameter : String} {kind : Kind} (hname : mentions name)
      (hnew : s.get? name = none) :
      Spared mentions s (.error (.invalidArgument parameter kind Value.null.describe), s.make name)

namespace Spared

variable {α β : Type} {mentions : String → Prop} {s : Store}

theorem mono {mentions' : String → Prop} {r : Except Fault α × Store} (h : Spared mentions s r)
    (hsub : ∀ name, mentions name → mentions' name) : Spared mentions' s r := by
  cases h with
  | intact result => exact .intact result
  | made hname hnew => exact .made (hsub _ hname) hnew

theorem store_eq_of_ok {a : α} {s' : Store} (h : Spared mentions s (.ok a, s')) : s' = s := by
  cases h with
  | intact _ => rfl

/-- What goes on after a run that spared the store goes on from the same store, or has failed. -/
theorem bind {f : Except Fault α × Store} {k : Except Fault β × Store} (hf : Spared mentions s f)
    (herror : ∀ fault s', f = (.error fault, s') → k = (.error fault, s'))
    (hok : ∀ a, f = (.ok a, s) → Spared mentions s k) : Spared mentions s k := by
  cases hf with
  | intact result =>
      cases result with
      | error fault =>
          rw [herror fault s rfl]
          exact .intact _
      | ok a => exact hok a rfl
  | made hname hnew =>
      rw [herror _ _ rfl]
      exact .made hname hnew

end Spared

end Store

open Store

/-! ## Binding -/

/-- Null fits no parameter, so an argument that makes a variable fails. -/
theorem Statement.argumentFor_spared (a : Statement) (p : Slot) (s : Store) :
    Spared (fun name => a = .var name) s (a.argumentFor p s) := by
  cases a with
  | var name =>
      have hvar : (Statement.var name).argumentFor p s =
          (p.fit (s.read name).1, (s.read name).2) := rfl
      cases hget : s.get? name with
      | some v =>
          rw [hvar, read_of_some hget]
          exact .intact _
      | none =>
          rw [hvar, read_of_none hget]
          exact .made rfl hget
  | _ => exact .intact _

namespace Binding

theorem putArgument_spared (b : Binding) (p : Slot) (a : Statement) (s : Store) :
    Spared (fun name => a = .var name) s (b.putArgument p a s) := by
  refine (a.argumentFor_spared p s).bind ?_ ?_
  · intro fault s' h
    rw [putArgument, h]
  · intro v h
    rw [putArgument, h]
    exact .intact _

theorem step_spared (d : Descriptor) (b : Binding) (item : Item) (s : Store) :
    Spared (fun name => item.argument? = some (.var name)) s (b.step d item s) := by
  have hput : ∀ (b : Binding) (p : Slot) (a : Statement),
      Spared (fun name => some a = some (.var name)) s (b.putArgument p a s) :=
    fun b p a => (b.putArgument_spared p a s).mono fun name h => congrArg some h
  cases item with
  | unknown name => exact .intact _
  | switch p =>
      simp only [step]
      split <;> exact .intact _
  | dangling p =>
      simp only [step]
      split <;> exact .intact _
  | named p a =>
      simp only [step]
      split
      · exact .intact _
      · exact hput b p a
  | positional a =>
      simp only [step]
      split
      · exact .intact _
      · exact hput _ _ a

theorem steps_spared (d : Descriptor) (items : List Item) (b : Binding) (s : Store) :
    Spared (fun name => ∃ item ∈ items, item.argument? = some (.var name)) s
      (b.steps d items s) := by
  induction items generalizing b with
  | nil => exact .intact _
  | cons item items ih =>
      have hstep := (step_spared d b item s).mono fun name h =>
        (⟨item, List.mem_cons_self, h⟩ :
          ∃ item' ∈ item :: items, item'.argument? = some (.var name))
      refine hstep.bind ?_ ?_
      · intro fault s' h
        rw [steps, h]
      · intro b' h
        rw [steps, h]
        refine (ih b').mono ?_
        rintro name ⟨item', hitem, hvar⟩
        exact ⟨item', List.mem_cons_of_mem _ hitem, hvar⟩

end Binding

theorem Descriptor.bind_spared (d : Descriptor) (args : List Statement) (piped? : Option Value)
    (s : Store) : Spared (fun name => .var name ∈ args) s (d.bind args piped? s) := by
  unfold bind
  split
  · exact .intact _
  · rename_i b _
    have hsteps : Spared (fun name => .var name ∈ args) s (b.steps d (d.items args) s) := by
      refine (Binding.steps_spared d (d.items args) b s).mono ?_
      rintro name ⟨item, hitem, hvar⟩
      exact (d.takenFrom_of_mem_items args item hitem).argument_mem _ hvar
    refine hsteps.bind ?_ ?_
    · intro fault s' h
      rw [h]
    · intro b' h
      rw [h]
      exact .intact _

namespace Evaluation

variable (registry : Registry) (host : Host)

/-- The result and the store of a run. -/
def outcome (e : Evaluation) : Except Fault Value × Store := (e.result, e.store)

/-! ## Calls and chains -/

theorem ofCall_spared (call : Call) (piped? : Option Value) (s : Store) :
    Spared (fun name => .var name ∈ call.args) s
      (ofCall registry host call piped? s).outcome := by
  unfold ofCall
  split
  · exact .intact _
  · rename_i command _
    refine (command.descriptor.bind_spared call.args piped? s).bind ?_ ?_
    · intro fault s' h
      rw [h]
      rfl
    · intro slots h
      rw [h]
      exact .intact _

theorem ofChain_spared (calls : List Call) (piped? : Option Value) (s : Store) :
    Spared (fun name => ∃ call ∈ calls, .var name ∈ call.args) s
      (ofChain registry host calls piped? s).outcome := by
  induction calls generalizing piped? with
  | nil => exact .intact _
  | cons call calls ih =>
      have hcall := (ofCall_spared registry host call piped? s).mono fun name h =>
        (⟨call, List.mem_cons_self, h⟩ :
          ∃ call' ∈ call :: calls, .var name ∈ call'.args)
      refine hcall.bind ?_ ?_
      · intro fault s' h
        obtain ⟨hresult, hstore⟩ := Prod.mk.inj h
        simp only [ofChain, hresult, outcome, hstore]
      · intro v h
        obtain ⟨hresult, hstore⟩ := Prod.mk.inj h
        simp only [ofChain, hresult, hstore]
        refine (ih (some v)).mono ?_
        rintro name ⟨call', hcall', hvar⟩
        exact ⟨call', List.mem_cons_of_mem _ hcall', hvar⟩

end Evaluation

/-! ## Nested assignments -/

namespace Statement

/-- The targets of nested assignments, from the outside in. -/
def targets : Statement → List String
  | .assign name value => name :: value.targets
  | _ => []

/-- What stands within the innermost assignment. -/
def core : Statement → Statement
  | .assign _ value => value.core
  | s => s

/-- The calls that a statement by itself makes. -/
def calls : Statement → List Call
  | .command call => [call]
  | .pipe calls => calls
  | _ => []

end Statement

/-- The store with several variables set to one value, the last named first. -/
def Store.assignAll (s : Store) (names : List String) (v : Value) : Store :=
  { s with vars := names.foldr (fun name vars => vars.insert name v) s.vars }

theorem Store.find?_assignAll (s : Store) (names : List String) (v : Value) (other : String) :
    (s.assignAll names v).vars.find? other =
      if other ∈ names then some v else s.vars.find? other := by
  induction names with
  | nil => simp [assignAll]
  | cons name names ih =>
      have hinsert : (s.assignAll (name :: names) v).vars =
          (s.assignAll names v).vars.insert name v := rfl
      rw [hinsert, Table.find?_insert, ih]
      by_cases hname : other = name
      · simp [hname]
      · simp [hname]

namespace Evaluation

/-- What a value is assigned to if there is one. -/
def assigning (e : Evaluation) (names : List String) : Evaluation :=
  match e.result with
  | .error _ => e
  | .ok v => { e with store := e.store.assignAll names v }

theorem assigning_of_error {e : Evaluation} {fault : Fault} (h : e.result = .error fault)
    (names : List String) : e.assigning names = e := by
  simp only [assigning, h]

theorem assigning_of_ok {e : Evaluation} {v : Value} (h : e.result = .ok v)
    (names : List String) :
    e.assigning names = { e with store := e.store.assignAll names v } := by
  simp only [assigning, h]

theorem assigning_nil (e : Evaluation) : e.assigning [] = e := by
  cases h : e.result with
  | error fault => exact assigning_of_error h []
  | ok v => exact assigning_of_ok h []

theorem assigning_cons (e : Evaluation) (name : String) (names : List String) :
    e.assigning (name :: names) = (e.assigning names).assigning [name] := by
  cases h : e.result with
  | error fault =>
      rw [assigning_of_error h, assigning_of_error h, assigning_of_error h]
  | ok v =>
      have hnames : (e.assigning names).result = .ok v := by rw [assigning_of_ok h, ← h]
      rw [assigning_of_ok h, assigning_of_ok hnames, assigning_of_ok h]
      rfl

variable (registry : Registry) (host : Host)

theorem ofStatement_assign {name : String} {store : Store} (h : store.isReserved name = false)
    (value : Statement) :
    ofStatement registry host (.assign name value) store =
      (ofStatement registry host value store).assigning [name] := by
  have hfree : (ofStatement registry host value store).store.isReserved name = false := by
    unfold isReserved at h ⊢
    rwa [ofStatement_reserved?]
  cases hresult : (ofStatement registry host value store).result with
  | error fault =>
      rw [assigning_of_error hresult]
      simp only [ofStatement, h, Bool.false_eq_true, if_false, hresult]
  | ok v =>
      rw [assigning_of_ok hresult]
      simp only [ofStatement, h, Bool.false_eq_true, if_false, hresult, assign, hfree]
      rfl

/-- A target with the reserved name is found out before anything is run. -/
theorem ofStatement_of_reserved {store : Store} {name : String} : ∀ {s : Statement},
    s.targets.find? store.isReserved = some name →
      ofStatement registry host s store = { result := .error (.readOnlyVariable name), store }
  | .assign target value, h => by
      rw [Statement.targets, List.find?_cons] at h
      cases htarget : store.isReserved target with
      | true =>
          simp only [htarget, Option.some.injEq] at h
          subst h
          simp only [ofStatement, htarget, if_true]
      | false =>
          simp only [htarget] at h
          rw [ofStatement_assign registry host htarget, ofStatement_of_reserved h]
          rfl
  | .word _, h | .quoted _, h | .number _, h | .var _, h | .flag _, h | .command _, h
  | .pipe _, h | .reflect _ _, h => by cases h

/-- If no target is reserved, then the core is run and its value assigned to all targets. -/
theorem ofStatement_of_free {store : Store} : ∀ {s : Statement},
    s.targets.find? store.isReserved = none →
      ofStatement registry host s store =
        (ofStatement registry host s.core store).assigning s.targets
  | .assign target value, h => by
      rw [Statement.targets, List.find?_cons] at h
      cases htarget : store.isReserved target with
      | true => simp [htarget] at h
      | false =>
          simp only [htarget] at h
          rw [ofStatement_assign registry host htarget, ofStatement_of_free h]
          exact (assigning_cons _ target value.targets).symm
  | .word _, _ | .quoted _, _ | .number _, _ | .var _, _ | .flag _, _ | .command _, _
  | .pipe _, _ | .reflect _ _, _ => (assigning_nil _).symm

/-- The core of a statement reads one variable, or spares the store. -/
theorem ofStatement_core (store : Store) : ∀ s : Statement,
    (∃ name, s.core = .var name) ∨
      Spared (fun name => ∃ call ∈ s.core.calls, .var name ∈ call.args) store
        (ofStatement registry host s.core store).outcome
  | .assign _ value => ofStatement_core store value
  | .var name => .inl ⟨name, rfl⟩
  | .command call => by
      refine .inr ((ofCall_spared registry host call none store).mono ?_)
      intro name h
      exact ⟨call, List.mem_singleton.2 rfl, h⟩
  | .pipe calls => .inr (ofChain_spared registry host calls none store)
  | .word _ | .quoted _ | .number _ | .flag _ | .reflect _ _ => .inr (.intact _)

end Evaluation

open Evaluation

/-! ## The frame of a statement -/

/-- A statement that failed has set nothing and made at most one variable: one that an argument of
its calls reads, and that could not be given to the parameter since it was null. -/
structure Store.SparedBy (before after : Store) (calls : List Call) (fault : Fault) : Prop where
  kept : ∀ name v, before.vars.find? name = some v → after.vars.find? name = some v
  latest_eq : after.latest = before.latest
  gained : after = before ∨ ∃ name parameter kind,
    before.vars.find? name = none ∧
    (∀ other, after.vars.find? other =
      if other = name then some .null else before.vars.find? other) ∧
    fault = .invalidArgument parameter kind "NULL" ∧ ∃ call ∈ calls, .var name ∈ call.args

/-- A statement that gave a value has set its targets to it, and nothing else; it may have made the
variable that its core reads. -/
structure Store.SetBy (before after : Store) (s : Statement) (v : Value) : Prop where
  set : ∀ name ∈ s.targets, after.vars.find? name = some v
  kept : ∀ name ∉ s.targets, ∀ w, before.vars.find? name = some w →
    after.vars.find? name = some w
  latest_eq : after.latest = before.latest
  gained : ∀ name ∉ s.targets, before.vars.find? name = none → after.vars.find? name ≠ none →
    s.core = .var name ∧ v = .null ∧ after.vars.find? name = some .null

theorem Store.SparedBy.of_spared {store : Store} {e : Evaluation} {calls : List Call}
    {fault : Fault}
    (h : Spared (fun name => ∃ call ∈ calls, .var name ∈ call.args) store e.outcome)
    (hfault : e.result = .error fault) : store.SparedBy e.store calls fault := by
  obtain ⟨result, store', writes⟩ := e
  cases hfault
  cases h with
  | intact _ => exact ⟨fun _ _ hname => hname, rfl, .inl rfl⟩
  | @made name parameter kind hname hnew =>
      have hnone := find?_of_get?_eq_none hnew
      refine ⟨?_, rfl, .inr ⟨name, parameter, kind, hnone, store.find?_make name, rfl, hname⟩⟩
      intro other v hother
      have hne : other ≠ name := by
        rintro rfl
        rw [hnone] at hother
        cases hother
      exact ((store.find?_make name other).trans (if_neg hne)).trans hother

/-- The store that the core of a statement leaves behind with its value. -/
theorem Evaluation.core_store_of_ok (registry : Registry) (host : Host) {s : Statement}
    {store : Store} {v : Value} (h : (ofStatement registry host s.core store).result = .ok v) :
    (ofStatement registry host s.core store).store = store ∨
      ∃ name, s.core = .var name ∧ v = .null ∧ store.vars.find? name = none ∧
        (ofStatement registry host s.core store).store = store.make name := by
  rcases ofStatement_core registry host store s with ⟨name, hcore⟩ | hspared
  · rw [hcore] at h ⊢
    have hvar : ofStatement registry host (.var name) store =
        { result := .ok (store.read name).1, store := (store.read name).2 } := rfl
    rw [hvar] at h ⊢
    cases hget : store.get? name with
    | some w =>
        rw [read_of_some hget]
        exact .inl rfl
    | none =>
        rw [read_of_none hget] at h ⊢
        exact .inr ⟨name, rfl, (Except.ok.inj h).symm, find?_of_get?_eq_none hget, rfl⟩
  · rw [outcome, h] at hspared
    exact .inl hspared.store_eq_of_ok

theorem Store.SetBy.of_assigning {store : Store} {s : Statement} {e : Evaluation} {v : Value}
    (h : e.store = store ∨ ∃ name, s.core = .var name ∧ v = .null ∧
      store.vars.find? name = none ∧ e.store = store.make name) :
    store.SetBy (e.store.assignAll s.targets v) s v := by
  have hother : ∀ name ∉ s.targets, (e.store.assignAll s.targets v).vars.find? name =
      e.store.vars.find? name := by
    intro name hname
    rw [find?_assignAll, if_neg hname]
  have hset : ∀ name ∈ s.targets,
      (e.store.assignAll s.targets v).vars.find? name = some v := by
    intro name hname
    rw [find?_assignAll, if_pos hname]
  rcases h with hstore | ⟨made, hcore, hv, hnone, hstore⟩
  · refine ⟨hset, ?_, by rw [hstore]; rfl, ?_⟩
    · intro name hname w hw
      rw [hother name hname, hstore, hw]
    · intro name hname hnew hgained
      rw [hother name hname, hstore] at hgained
      exact absurd hnew hgained
  · refine ⟨hset, ?_, by rw [hstore]; rfl, ?_⟩
    · intro name hname w hw
      have hne : name ≠ made := by
        rintro rfl
        rw [hnone] at hw
        cases hw
      rw [hother name hname, hstore, find?_make, if_neg hne, hw]
    · intro name hname hnew hgained
      rw [hother name hname, hstore, find?_make] at hgained ⊢
      by_cases hmade : name = made
      · subst hmade
        exact ⟨hcore, hv, if_pos rfl⟩
      · rw [if_neg hmade] at hgained
        exact absurd hnew hgained

/-- What a statement does to the store.  With a reserved target it fails for the outermost such
target and does nothing at all.  If it fails otherwise it has set nothing, and made at most the
variable it failed for.  If it gives a value then it has set its targets to the value and nothing
else. -/
theorem statement_frame (registry : Registry) (host : Host) (s : Statement) (store : Store) :
    (∀ name, s.targets.find? store.isReserved = some name →
      ofStatement registry host s store =
        { result := .error (.readOnlyVariable name), store := store, writes := [] }) ∧
    (∀ fault, s.targets.find? store.isReserved = none →
      (ofStatement registry host s store).result = .error fault →
        store.SparedBy (ofStatement registry host s store).store s.core.calls fault) ∧
    ∀ v, (ofStatement registry host s store).result = .ok v →
      store.SetBy (ofStatement registry host s store).store s v := by
  refine ⟨fun name h => ofStatement_of_reserved registry host h, ?_, ?_⟩
  · intro fault hfree hfault
    rw [ofStatement_of_free registry host hfree] at hfault ⊢
    cases hresult : (ofStatement registry host s.core store).result with
    | ok v =>
        rw [assigning_of_ok hresult] at hfault
        simp [hresult] at hfault
    | error fault' =>
        rw [assigning_of_error hresult] at hfault ⊢
        rcases ofStatement_core registry host store s with ⟨name, hcore⟩ | hspared
        · rw [hcore] at hfault
          cases hfault
        · exact .of_spared hspared hfault
  · intro v hv
    cases hfind : s.targets.find? store.isReserved with
    | some name =>
        rw [ofStatement_of_reserved registry host hfind] at hv
        cases hv
    | none =>
        rw [ofStatement_of_free registry host hfind] at hv ⊢
        cases hresult : (ofStatement registry host s.core store).result with
        | error fault => simp [assigning_of_error hresult, hresult] at hv
        | ok w =>
            have hvalue : w = v := by simpa [assigning_of_ok hresult, hresult] using hv
            subst hvalue
            rw [assigning_of_ok hresult]
            exact .of_assigning (core_store_of_ok registry host hresult)

/-- Nested assignments of three sorts: with a reserved target, of a sum with a missing variable, and
of a variable that is missing. -/
theorem statement_frame_nested :
    (Statement.assign "a" (.assign "last" (.var "x"))).targets.find?
        { reserved? := some "last" : Store }.isReserved = some "last" ∧
    (ofStatement Stock.registry .plain (.assign "a" (.assign "last" (.var "x")))
      { reserved? := some "last" }).result = .error (.readOnlyVariable "last") ∧
    Store.SparedBy {} (ofStatement Stock.registry .plain
      (.assign "a" (.assign "b" (.command ⟨"add-number", [.var "x", .var "y"]⟩))) {}).store
      [⟨"add-number", [.var "x", .var "y"]⟩] (.invalidArgument "A" (.float .f64) "NULL") ∧
    Store.SetBy {}
      (ofStatement Stock.registry .plain (.assign "a" (.assign "b" (.var "x"))) {}).store
      (.assign "a" (.assign "b" (.var "x"))) .null := by
  have hreserved : (Statement.assign "a" (.assign "last" (.var "x"))).targets.find?
      { reserved? := some "last" : Store }.isReserved = some "last" := by decide
  have hfails : (ofStatement Stock.registry .plain
      (.assign "a" (.assign "b" (.command ⟨"add-number", [.var "x", .var "y"]⟩))) {}).result =
        .error (.invalidArgument "A" (.float .f64) "NULL") := by rfl
  refine ⟨hreserved, ?_, ?_, ?_⟩
  · rw [(statement_frame _ _ _ _).1 _ hreserved]
  · exact (statement_frame _ _ _ _).2.1 _ (by decide) hfails
  · exact (statement_frame _ _ _ _).2.2 _ (by rfl)

end VerbNoun
