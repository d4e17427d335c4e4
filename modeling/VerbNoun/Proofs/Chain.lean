import VerbNoun.Command.Stock
import VerbNoun.Evaluation
set_option autoImplicit false

/-!
# Evaluation: chains (SPEC §4.4)

A chain stops at its first call that fails.  What it has written by then is what the commands wrote
that ran, and the calls behind the one that failed might as well not be there.  A chain in which
nothing fails can be cut anywhere and run piece by piece.
-/

namespace VerbNoun

namespace Evaluation

section

variable (registry : Registry) (host : Host)

/-- The command of a call is found and its arguments are bound, so that the command runs with this
outcome. -/
def Processes (call : Call) (piped? : Option Value) (store : Store) (outcome : Outcome)
    (store' : Store) : Prop :=
  ∃ command slots, registry.resolve call.name = .ok command ∧
    command.descriptor.bind call.args piped? store = (.ok slots, store') ∧
    outcome = command.invoke slots host

/-- How a call fails: with a fault, leaving a store, and with what its command has written if it
ran. -/
inductive Fails (call : Call) (piped? : Option Value) (store : Store) :
    Fault → Store → List Write → Prop
  | unknown {fault : Fault} (hresolve : registry.resolve call.name = .error fault) :
      Fails call piped? store fault store []
  | unbound {command : Command} {fault : Fault} {store' : Store}
      (hresolve : registry.resolve call.name = .ok command)
      (hbind : command.descriptor.bind call.args piped? store = (.error fault, store')) :
      Fails call piped? store fault store' []
  | processed {outcome : Outcome} {store' : Store} {message : String}
      (hprocesses : Processes registry host call piped? store outcome store')
      (hresult : outcome.result = .error message) :
      Fails call piped? store (.failed message) store' outcome.writes

/-- Calls that succeed one after the other, each with the result of the one before piped in: the
outcomes of their commands, and the value and the store that are handed on. -/
inductive Passes : List Call → Option Value → Store → List Outcome → Option Value → Store → Prop
  | nil {piped? : Option Value} {store : Store} : Passes [] piped? store [] piped? store
  | cons {call : Call} {calls : List Call} {piped? last? : Option Value}
      {store store' store'' : Store} {outcome : Outcome} {outcomes : List Outcome} {v : Value}
      (hcall : Processes registry host call piped? store outcome store')
      (hresult : outcome.result = .ok v)
      (hcalls : Passes calls (some v) store' outcomes last? store'') :
      Passes (call :: calls) piped? store (outcome :: outcomes) last? store''

end

/-- An evaluation that comes after texts were written. -/
def after (writes : List Write) (e : Evaluation) : Evaluation :=
  { e with writes := writes ++ e.writes }

variable {registry : Registry} {host : Host}

/-! ## One call -/

theorem ofCall_of_processes {call : Call} {piped? : Option Value} {store store' : Store}
    {outcome : Outcome} (h : Processes registry host call piped? store outcome store') :
    ofCall registry host call piped? store =
      { result := outcome.result.mapError .failed, store := store', writes := outcome.writes } := by
  obtain ⟨command, slots, hresolve, hbind, rfl⟩ := h
  simp only [ofCall, hresolve, hbind]

theorem ofCall_of_ok {call : Call} {piped? : Option Value} {store store' : Store}
    {outcome : Outcome} {v : Value}
    (h : Processes registry host call piped? store outcome store')
    (hresult : outcome.result = .ok v) :
    ofCall registry host call piped? store =
      { result := .ok v, store := store', writes := outcome.writes } := by
  rw [ofCall_of_processes h, hresult]
  rfl

/-- What a call can do: its command runs and gives a value, or it fails in one of three ways. -/
theorem ofCall_cases (registry : Registry) (host : Host) (call : Call) (piped? : Option Value)
    (store : Store) :
    (∃ outcome store' v, Processes registry host call piped? store outcome store' ∧
      outcome.result = .ok v ∧
      ofCall registry host call piped? store =
        { result := .ok v, store := store', writes := outcome.writes }) ∨
    ∃ fault store' writes, Fails registry host call piped? store fault store' writes ∧
      ofCall registry host call piped? store =
        { result := .error fault, store := store', writes } := by
  cases hresolve : registry.resolve call.name with
  | error fault =>
      refine .inr ⟨fault, store, [], .unknown hresolve, ?_⟩
      simp only [ofCall, hresolve]
  | ok command =>
      cases hbind : command.descriptor.bind call.args piped? store with
      | mk bound store' =>
          cases bound with
          | error fault =>
              refine .inr ⟨fault, store', [], .unbound hresolve hbind, ?_⟩
              simp only [ofCall, hresolve, hbind]
          | ok slots =>
              have hprocesses : Processes registry host call piped? store
                  (command.invoke slots host) store' := ⟨command, slots, hresolve, hbind, rfl⟩
              cases hresult : (command.invoke slots host).result with
              | error message =>
                  have heq := ofCall_of_processes hprocesses
                  rw [hresult] at heq
                  exact .inr ⟨_, store', _, .processed hprocesses hresult, heq⟩
              | ok v =>
                  exact .inl ⟨_, store', v, hprocesses, hresult, ofCall_of_ok hprocesses hresult⟩

/-! ## Chains -/

theorem ofChain_cons_of_error {call : Call} {piped? : Option Value} {store : Store} {fault : Fault}
    (h : (ofCall registry host call piped? store).result = .error fault) (rest : List Call) :
    ofChain registry host (call :: rest) piped? store =
      ofCall registry host call piped? store := by
  simp only [ofChain, h]

/-- What comes behind calls that pass is as if the chain started there, with their writes in
front. -/
theorem Passes.ofChain_append {calls : List Call} {piped? last? : Option Value}
    {store store' : Store} {outcomes : List Outcome}
    (h : Passes registry host calls piped? store outcomes last? store') (rest : List Call) :
    ofChain registry host (calls ++ rest) piped? store =
      (ofChain registry host rest last? store').after (outcomes.flatMap (·.writes)) := by
  induction h with
  | nil => rfl
  | cons hcall hresult _ ih =>
      simp only [List.cons_append, ofChain, ofCall_of_ok hcall hresult, ih, after,
        List.flatMap_cons, List.append_assoc]

/-- Calls that pass give the value that the last of them hands on, after all their writes. -/
theorem Passes.ofChain_eq {calls : List Call} {piped? last? : Option Value}
    {store store' : Store} {outcomes : List Outcome}
    (h : Passes registry host calls piped? store outcomes last? store') :
    ofChain registry host calls piped? store =
      { result := .ok (last?.getD .null), store := store',
        writes := outcomes.flatMap (·.writes) } := by
  have hrun := h.ofChain_append []
  rw [List.append_nil] at hrun
  simp only [hrun, ofChain, after, List.append_nil]

theorem Passes.split {first second : List Call} {piped? last? : Option Value}
    {store store' : Store} {outcomes : List Outcome}
    (h : Passes registry host (first ++ second) piped? store outcomes last? store') :
    ∃ outcomes₁ outcomes₂ middle? middle,
      Passes registry host first piped? store outcomes₁ middle? middle ∧
      Passes registry host second middle? middle outcomes₂ last? store' := by
  induction first generalizing piped? store outcomes with
  | nil => exact ⟨[], outcomes, piped?, store, .nil, h⟩
  | cons call first ih =>
      cases h with
      | cons hcall hresult hcalls =>
          obtain ⟨outcomes₁, outcomes₂, middle?, middle, hfirst, hsecond⟩ := ih hcalls
          exact ⟨_, outcomes₂, middle?, middle, .cons hcall hresult hfirst, hsecond⟩

theorem Passes.isSome_last? {calls : List Call} {piped? last? : Option Value}
    {store store' : Store} {outcomes : List Outcome}
    (h : Passes registry host calls piped? store outcomes last? store')
    (hpiped : piped?.isSome = true) : last?.isSome = true := by
  induction h with
  | nil => exact hpiped
  | cons _ _ _ ih => exact ih rfl

/-- Calls that pass, if there are any, hand on a value. -/
theorem Passes.last?_of_ne_nil {calls : List Call} {piped? last? : Option Value}
    {store store' : Store} {outcomes : List Outcome}
    (h : Passes registry host calls piped? store outcomes last? store') (hne : calls ≠ []) :
    ∃ v, last? = some v := by
  cases h with
  | nil => exact absurd rfl hne
  | cons _ _ hcalls => exact Option.isSome_iff_exists.1 (hcalls.isSome_last? rfl)

/-- Either all calls of a chain pass, or there is a first that fails. -/
theorem passes_or_fails (calls : List Call) (piped? : Option Value) (store : Store) :
    (∃ outcomes last? store', Passes registry host calls piped? store outcomes last? store') ∨
    ∃ before call rest outcomes last? store' fault, calls = before ++ call :: rest ∧
      Passes registry host before piped? store outcomes last? store' ∧
      (ofCall registry host call last? store').result = .error fault := by
  induction calls generalizing piped? store with
  | nil => exact .inl ⟨[], piped?, store, .nil⟩
  | cons call calls ih =>
      rcases ofCall_cases registry host call piped? store with
        ⟨outcome, store', v, hprocesses, hok, -⟩ | ⟨fault, store', writes, -, hcall⟩
      · rcases ih (some v) store' with ⟨outcomes, last?, store'', hpasses⟩ |
          ⟨before, failing, rest, outcomes, last?, store'', fault, heq, hpasses, hfails⟩
        · exact .inl ⟨_, last?, store'', .cons hprocesses hok hpasses⟩
        · exact .inr ⟨call :: before, failing, rest, _, last?, store'', fault, by rw [heq]; rfl,
            .cons hprocesses hok hpasses, hfails⟩
      · exact .inr ⟨[], call, calls, [], piped?, store, fault, rfl, .nil, by rw [hcall]⟩

/-- How a chain of calls runs from a store. -/
structure StopsAtFirstFailure (registry : Registry) (host : Host) (calls : List Call)
    (store : Store) : Prop where
  /-- All calls pass, or there is a first one that fails. -/
  either :
    (∃ outcomes last? store', Passes registry host calls none store outcomes last? store') ∨
    ∃ before call rest outcomes last? store' fault, calls = before ++ call :: rest ∧
      Passes registry host before none store outcomes last? store' ∧
      (ofCall registry host call last? store').result = .error fault
  /-- The first call that fails ends the chain with its fault, after the texts of the commands that
  ran.  The calls behind it make no difference. -/
  stops : ∀ before call rest outcomes last? store' fault, calls = before ++ call :: rest →
    Passes registry host before none store outcomes last? store' →
    (ofCall registry host call last? store').result = .error fault →
    ∃ store'' own, Fails registry host call last? store' fault store'' own ∧
      ∀ others, ofChain registry host (before ++ call :: others) none store =
        { result := .error fault, store := store'',
          writes := outcomes.flatMap (·.writes) ++ own }
  /-- A chain in which no call fails gives the value that the last call hands on, after the texts of
  all commands in order. -/
  completes : ∀ outcomes last? store',
    Passes registry host calls none store outcomes last? store' →
    ofChain registry host calls none store =
      { result := .ok (last?.getD .null), store := store',
        writes := outcomes.flatMap (·.writes) }
  /-- A chain in which no call fails can be cut in two, and the second part run on the result of the
  first. -/
  splits : ∀ outcomes last? store', Passes registry host calls none store outcomes last? store' →
    ∀ first second, calls = first ++ second → first ≠ [] → second ≠ [] →
    ∃ v, (ofChain registry host first none store).result = .ok v ∧
      ofChain registry host calls none store =
        (ofChain registry host second (some v) (ofChain registry host first none store).store).after
          (ofChain registry host first none store).writes

end Evaluation

open Evaluation

/-- Every chain stops at its first call that fails, and can be cut where none does. -/
theorem chain_stops_at_first_failure (registry : Registry) (host : Host) (calls : List Call)
    (store : Store) : StopsAtFirstFailure registry host calls store where
  either := passes_or_fails calls none store
  stops := by
    intro before call rest outcomes last? store' fault _ hbefore hfault
    rcases ofCall_cases registry host call last? store' with
      ⟨outcome, store'', v, -, -, hcall⟩ | ⟨fault', store'', own, hfails, hcall⟩
    · rw [hcall] at hfault
      cases hfault
    · rw [hcall] at hfault
      cases hfault
      refine ⟨store'', own, hfails, fun others => ?_⟩
      rw [hbefore.ofChain_append, ofChain_cons_of_error (by rw [hcall]), hcall]
      rfl
  completes := fun _ _ _ hpasses => hpasses.ofChain_eq
  splits := by
    rintro outcomes last? store' hpasses first second rfl hfirst -
    obtain ⟨outcomes₁, outcomes₂, middle?, middle, hpasses₁, -⟩ := hpasses.split
    obtain ⟨v, rfl⟩ := hpasses₁.last?_of_ne_nil hfirst
    rw [hpasses₁.ofChain_append second, hpasses₁.ofChain_eq]
    exact ⟨v, rfl, rfl⟩

-- The text in front of an unknown command is written, the one behind it is not.
example :
    (ofChain Stock.registry .plain
      [⟨"Write-Host", [.word "a"]⟩, ⟨"Do-Nothing", []⟩, ⟨"Write-Host", [.word "b"]⟩]
      none {}).writes = [⟨.output, "a"⟩] := rfl

end VerbNoun
