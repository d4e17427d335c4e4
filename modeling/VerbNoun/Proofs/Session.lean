import VerbNoun.Console
import VerbNoun.Command.Stock
import VerbNoun.Proofs.Evaluation
set_option autoImplicit false

/-!
# Session: lines that fail (SPEC §7, §14)

A line that fails may leave variables behind that it read and that were never set.  No later line
can tell: a session goes on as if the line had not been given, but for the list of its lines.
-/

namespace VerbNoun

/-- What can be seen of a line's turn: its result and the texts written. -/
def Turn.seen (turn : Turn) : Except Fault Value × List Write := (turn.result, turn.writes)

namespace Console

/-- The turns of a session, line by line. -/
def turns (c : Console) (host : Host) : List String → List Turn
  | [] => []
  | line :: rest => c.execute host line :: (c.execute host line).console.turns host rest

/-- The console at the end of a session. -/
def after (c : Console) (host : Host) (lines : List String) : Console :=
  lines.foldl (fun c line => (c.execute host line).console) c

/-- The same commands, and stores that are alike; the lines given so far may differ. -/
structure Alike (c c' : Console) : Prop where
  registry_eq : c.registry = c'.registry
  store : c.store.Alike c'.store

theorem Alike.refl (c : Console) : Alike c c := ⟨rfl, Store.Alike.refl c.store⟩

theorem Alike.trans {c c' c'' : Console} (h : Alike c c') (h' : Alike c' c'') : Alike c c'' :=
  ⟨h.registry_eq.trans h'.registry_eq, h.store.trans h'.store⟩

variable {c c' : Console} {host : Host}

/-! ## One line -/

theorem evaluate_alike (h : Alike c c') (host : Host) (line : String) :
    (c.evaluate host line).seen = (c'.evaluate host line).seen ∧
      Alike (c.evaluate host line).console (c'.evaluate host line).console := by
  obtain ⟨hregistry, hstore⟩ := h
  unfold evaluate
  split
  · exact ⟨rfl, hregistry, hstore⟩
  · rename_i s _
    have halike := Evaluation.ofStatement_alike c'.registry host hstore s
    simp only [run, hregistry, halike.result_eq]
    split
    · exact ⟨by simp only [Turn.seen, halike.writes_eq], rfl, halike.store⟩
    · rename_i v _
      exact ⟨by simp only [Turn.seen, halike.writes_eq], rfl,
        Store.record_alike halike.store v⟩

/-- Consoles that are alike give the same turn, and stay alike. -/
theorem execute_alike (h : Alike c c') (host : Host) (line : String) :
    (c.execute host line).seen = (c'.execute host line).seen ∧
      Alike (c.execute host line).console (c'.execute host line).console := by
  obtain ⟨hseen, hconsole⟩ := evaluate_alike h host line
  obtain ⟨hresult, hwrites⟩ := Prod.mk.inj hseen
  refine ⟨?_, hconsole⟩
  simp only [execute, Turn.seen, hresult, hwrites]

/-- A line that fails leaves a console like the one before it. -/
theorem execute_console_of_error {line : String} {fault : Fault}
    (h : (c.execute host line).result = .error fault) :
    Alike (c.execute host line).console c := by
  have herror : (c.evaluate host line).result = .error fault := h
  suffices halike : Alike (c.evaluate host line).console c from halike
  unfold evaluate at herror ⊢
  split
  · exact ⟨rfl, Store.Alike.refl _⟩
  · rename_i s hparse
    simp only [hparse] at herror
    simp only
    split
    · rename_i hrun
      exact ⟨rfl, Evaluation.ofStatement_store_of_error c.registry host c.store s hrun⟩
    · rename_i v hrun
      simp only [hrun] at herror
      cases herror

/-! ## Whole sessions -/

/-- What is left of a session when some lines are taken out.  Each line is marked by whether it
stays. -/
def kept (script : List (String × Bool)) : List String := (script.filter (·.2)).map (·.1)

/-- The turns of the lines that stay, in the session with all lines. -/
def keptTurns (c : Console) (host : Host) (script : List (String × Bool)) : List Turn :=
  ((script.zip (c.turns host (script.map (·.1)))).filter (·.1.2)).map (·.2)

/-- Every line that is taken out failed in the session with all lines. -/
def DropsFailed (c : Console) (host : Host) (script : List (String × Bool)) : Prop :=
  ∀ entry ∈ script.zip (c.turns host (script.map (·.1))), entry.1.2 = false →
    ∃ fault, entry.2.result = .error fault

theorem turns_of_dropsFailed {script : List (String × Bool)} (h : Alike c c')
    (hdrops : c.DropsFailed host script) :
    (c.keptTurns host script).map Turn.seen = (c'.turns host (kept script)).map Turn.seen ∧
      Alike (c.after host (script.map (·.1))) (c'.after host (kept script)) := by
  induction script generalizing c c' with
  | nil => exact ⟨rfl, h⟩
  | cons entry script ih =>
      obtain ⟨line, stays⟩ := entry
      have hrest : (c.execute host line).console.DropsFailed host script :=
        fun e he => hdrops e (List.mem_cons_of_mem _ he)
      cases stays with
      | true =>
          obtain ⟨hseen, hconsole⟩ := execute_alike h host line
          obtain ⟨hturns, hafter⟩ := ih hconsole hrest
          refine ⟨?_, hafter⟩
          have hkept : (c.keptTurns host ((line, true) :: script)).map Turn.seen =
              (c.execute host line).seen ::
                ((c.execute host line).console.keptTurns host script).map Turn.seen := rfl
          rw [hkept, hseen, hturns]
          rfl
      | false =>
          obtain ⟨fault, hfault⟩ := hdrops _ List.mem_cons_self rfl
          exact ih ((execute_console_of_error hfault).trans h) hrest

end Console

/-- Lines that fail can be taken out of a session: the other lines give the same results and write
the same texts, the latest result is the same at the end, and so is what every variable holds, a
missing variable holding null. -/
theorem failed_lines_are_invisible (c : Console) (host : Host) (script : List (String × Bool))
    (hdrops : c.DropsFailed host script) :
    (c.keptTurns host script).map Turn.seen =
      (c.turns host (Console.kept script)).map Turn.seen ∧
    (c.after host (script.map (·.1))).store.latest =
      (c.after host (Console.kept script)).store.latest ∧
    ∀ name, ((c.after host (script.map (·.1))).store.vars.find? name).getD .null =
      ((c.after host (Console.kept script)).store.vars.find? name).getD .null := by
  obtain ⟨hturns, hafter⟩ := Console.turns_of_dropsFailed (Console.Alike.refl c) hdrops
  exact ⟨hturns, hafter.store.latest_eq, hafter.store.held_eq⟩

/-- A sum that fails has made the variable that it read; the next line finds it null, as it would
have without the sum. -/
theorem failed_sum_is_invisible :
    (Console.new Stock.registry {}).DropsFailed .plain
      [("Add-Number $x 1", false), ("$x", true)] ∧
    (((Console.new Stock.registry {}).turns .plain ["Add-Number $x 1", "$x"]).drop 1).map
      Turn.seen = ((Console.new Stock.registry {}).turns .plain ["$x"]).map Turn.seen := by
  have hfails : ((Console.new Stock.registry {}).execute .plain "Add-Number $x 1").result.isOk =
      false := by decide +kernel
  have hdrops : (Console.new Stock.registry {}).DropsFailed .plain
      [("Add-Number $x 1", false), ("$x", true)] := by
    intro entry hentry hfalse
    rcases List.mem_cons.1 hentry with rfl | hentry
    · cases hresult : ((Console.new Stock.registry {}).execute .plain "Add-Number $x 1").result with
      | error fault => exact ⟨fault, rfl⟩
      | ok v =>
          rw [hresult] at hfails
          cases hfails
    · rw [List.mem_singleton.1 hentry] at hfalse
      cases hfalse
  exact ⟨hdrops, (failed_lines_are_invisible _ .plain _ hdrops).1⟩

end VerbNoun
