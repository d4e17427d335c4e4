import VerbNoun.Command.Registry
import VerbNoun.Command.Binding
set_option autoImplicit false

/-!
# Evaluation: running calls and statements (SPEC §4.4, §4.5)

Running something gives a value or a fault, and in either case the store and the texts
written so far.
-/

namespace VerbNoun

/-- What came of running something. -/
structure Evaluation where
  result : Except Fault Value
  store : Store
  writes : List Write := []

namespace Evaluation

/-- Runs a call: its command is found, its arguments are bound, and only then does the
command run (SPEC §4.3). -/
def ofCall (registry : Registry) (host : Host) (call : Call) (piped? : Option Value)
    (store : Store) : Evaluation :=
  match registry.resolve call.name with
  | .error fault => { result := .error fault, store }
  | .ok command =>
    match command.descriptor.bind call.args piped? store with
    | (.error fault, store') => { result := .error fault, store := store' }
    | (.ok slots, store') =>
      let outcome := command.invoke slots host
      { result := outcome.result.mapError .failed, store := store', writes := outcome.writes }

/-- Runs the calls of a chain, each with the result of the one before piped in, up to the
first fault (SPEC §4.4).  A chain without calls gives what was piped into it. -/
def ofChain (registry : Registry) (host : Host) :
    List Call → Option Value → Store → Evaluation
  | [], piped?, store => { result := .ok (piped?.getD .null), store }
  | call :: rest, piped?, store =>
    let first := ofCall registry host call piped? store
    match first.result with
    | .error _ => first
    | .ok v =>
      let last := ofChain registry host rest (some v) first.store
      { last with writes := first.writes ++ last.writes }

/-- Runs a statement (SPEC §4.5).  Words, texts and numbers stand for themselves; flags and members
stand for nothing by themselves.  An assignment to the reserved name fails before its right
side runs. -/
def ofStatement (registry : Registry) (host : Host) : Statement → Store → Evaluation
  | .word text, store => { result := .ok (.ofText text), store }
  | .quoted text, store => { result := .ok (.ofText text), store }
  | .number x, store => { result := .ok (.ofDouble x), store }
  | .var name, store =>
    let (v, store') := store.read name
    { result := .ok v, store := store' }
  | .flag _, store => { result := .ok .null, store }
  | .reflect _ _, store => { result := .ok .null, store }
  | .command call, store => ofCall registry host call none store
  | .pipe calls, store => ofChain registry host calls none store
  | .assign name value, store =>
    if store.isReserved name then { result := .error (.readOnlyVariable name), store }
    else
      let right := ofStatement registry host value store
      match right.result with
      | .error _ => right
      | .ok v =>
        let assigned := right.store.assign name v
        { right with result := assigned.1.map fun () => v, store := assigned.2 }

end Evaluation

end VerbNoun
