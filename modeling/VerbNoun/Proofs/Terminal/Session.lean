import VerbNoun.Terminal.Session
import VerbNoun.Proofs.Session
import VerbNoun.Proofs.Transcript
set_option autoImplicit false

/-!
# Terminal: what a session leaves behind (SPEC §15, §19)

A session at a terminal is a session of its console: the console takes the lines one after the
other, and each turn is printed and noted.  So what was printed, the transcript and whether all
went well are known from the turns alone.
-/

namespace VerbNoun

open Terminal

namespace Console

variable (c : Console) (host : Host)

/-- The turn of a line is its turn in the console that the lines before it left. -/
theorem getElem?_turns (lines : List String) (i : Nat) :
    (c.turns host lines)[i]? =
      lines[i]?.map fun line => (c.after host (lines.take i)).execute host line := by
  induction lines generalizing c i with
  | nil => rfl
  | cons line lines ih =>
      cases i with
      | zero => rfl
      | succ i =>
          rw [turns, List.getElem?_cons_succ, ih, List.getElem?_cons_succ]
          rfl

theorem length_turns (lines : List String) : (c.turns host lines).length = lines.length := by
  induction lines generalizing c with
  | nil => rfl
  | cons line lines ih => rw [turns, List.length_cons, ih, List.length_cons]

end Console

/-- The entry of a line with its turn. -/
def Entry.ofTurn (shown : Bool) (line : String) (turn : Turn) : Entry :=
  ⟨line, turn.writes.map fun w => (print shown w).text, !turn.result.isOk⟩

namespace Session

variable (s : Session)

theorem execute_transcript? (line : String) :
    (s.execute line).session.transcript? = s.transcript?.map fun t =>
      ⟨t.entries ++ [.ofTurn s.shown line (s.console.execute (host s.shown) line)]⟩ := by
  unfold execute
  cases s.transcript? with
  | none => rfl
  | some t =>
      have hnoted := t.entries_finish line
        (((s.console.execute (host s.shown) line).writes.map (print s.shown)).map (·.text))
        (!(s.console.execute (host s.shown) line).result.toBool)
      rw [List.foldl_map, List.map_map] at hnoted
      simp only [Option.map_some]
      exact congrArg (some ∘ Transcript.mk) hnoted

/-! ## Whole sessions -/

theorem executeAll_console (lines : List String) :
    (s.executeAll lines).session.console = s.console.after (host s.shown) lines := by
  induction lines generalizing s with
  | nil => rfl
  | cons line lines ih => exact ih (s.execute line).session

theorem executeAll_succeeded (lines : List String) :
    (s.executeAll lines).succeeded =
      (s.console.turns (host s.shown) lines).all (·.result.isOk) := by
  induction lines generalizing s with
  | nil => rfl
  | cons line lines ih =>
      rw [executeAll, ih, Console.turns, List.all_cons]
      rfl

theorem executeAll_printed (lines : List String) :
    (s.executeAll lines).printed =
      ((s.console.turns (host s.shown) lines).flatMap (·.writes)).map (print s.shown) := by
  induction lines generalizing s with
  | nil => rfl
  | cons line lines ih =>
      rw [executeAll, ih, Console.turns, List.flatMap_cons, List.map_append]
      rfl

theorem executeAll_transcript? (lines : List String) :
    (s.executeAll lines).session.transcript? = s.transcript?.map fun t =>
      ⟨t.entries ++ List.zipWith (Entry.ofTurn s.shown) lines
        (s.console.turns (host s.shown) lines)⟩ := by
  induction lines generalizing s with
  | nil =>
      cases htranscript : s.transcript? with
      | none => exact htranscript
      | some t => simpa [executeAll] using htranscript
  | cons line lines ih =>
      have hstep : (s.executeAll (line :: lines)).session.transcript? =
          ((s.execute line).session.executeAll lines).session.transcript? := rfl
      rw [hstep, ih, execute_transcript?, Option.map_map, Console.turns]
      refine congrArg (Option.map · s.transcript?) (funext fun t => ?_)
      exact congrArg Transcript.mk (List.append_assoc _ _ _)

end Session

/-! ## What a transcript tells -/

/-- What is printed for a turn. -/
def Terminal.printedFor (shown : Bool) (turn : Turn) : List Printed := turn.writes.map (print shown)

/-- An entry that tells of a line as it ran in a console.  `Console.evaluate` runs a line without a
report, so what it writes is what the commands of the line wrote. -/
structure Entry.Tells (shown : Bool) (c : Console) (line : String) (e : Entry) : Prop where
  input_eq : e.input = line
  failed_iff : e.failed = true ↔ ∃ fault, (c.execute (host shown) line).result = .error fault
  output_eq : e.output = (printedFor shown (c.execute (host shown) line)).map (·.text)
  ends_in_value : ∀ v, (c.execute (host shown) line).result = .ok v →
    printedFor shown (c.execute (host shown) line) =
      printedFor shown (c.evaluate (host shown) line) ++
        [⟨.output, (host shown).paint (Console.roleOf v) v.render⟩]
  ends_in_fault : ∀ fault, (c.execute (host shown) line).result = .error fault →
    printedFor shown (c.execute (host shown) line) =
      printedFor shown (c.evaluate (host shown) line) ++
        [⟨.error, tagged shown .error "[ERROR]" (Console.faultText (host shown) fault)⟩]

theorem Entry.ofTurn_tells (shown : Bool) (c : Console) (line : String) :
    (Entry.ofTurn shown line (c.execute (host shown) line)).Tells shown c line := by
  have hprinted : printedFor shown (c.execute (host shown) line) =
      printedFor shown (c.evaluate (host shown) line) ++
        [print shown (Console.report (host shown) (c.execute (host shown) line).result)] :=
    List.map_append
  refine ⟨rfl, ?_, (List.map_map).symm, ?_, ?_⟩
  · unfold ofTurn
    cases (c.execute (host shown) line).result <;> simp [Except.isOk, Except.toBool]
  · intro v hv
    rw [hprinted, hv]
    rfl
  · intro fault hfault
    rw [hprinted, hfault]
    rfl

/-- A transcript with one entry for each line of a session, in order. -/
structure Transcript.Tells (shown : Bool) (c : Console) (lines : List String)
    (t : Transcript) : Prop where
  length_eq : t.entries.length = lines.length
  tells : ∀ i line, lines[i]? = some line → ∃ e : Entry, t.entries[i]? = some e ∧
    e.Tells shown (c.after (host shown) (lines.take i)) line

theorem Transcript.tells_ofTurns (shown : Bool) (c : Console) (lines : List String) :
    Transcript.Tells shown c lines
      ⟨List.zipWith (Entry.ofTurn shown) lines (c.turns (host shown) lines)⟩ := by
  constructor
  · rw [List.length_zipWith, Console.length_turns, Nat.min_self]
  · intro i line hline
    refine ⟨_, ?_, Entry.ofTurn_tells shown _ line⟩
    rw [List.getElem?_zipWith, Console.getElem?_turns, hline]
    rfl

theorem flatMap_output_ofTurns (shown : Bool) (c : Console) (lines : List String) :
    (List.zipWith (Entry.ofTurn shown) lines (c.turns (host shown) lines)).flatMap (·.output) =
      ((c.turns (host shown) lines).flatMap (·.writes)).map fun w => (print shown w).text := by
  induction lines generalizing c with
  | nil => rfl
  | cons line lines ih =>
      rw [Console.turns, List.zipWith_cons_cons, List.flatMap_cons, ih, List.flatMap_cons,
        List.map_append]
      rfl

theorem failures_ofTurns (shown : Bool) (c : Console) (lines : List String) :
    Transcript.failures ⟨List.zipWith (Entry.ofTurn shown) lines (c.turns (host shown) lines)⟩ =
      (c.turns (host shown) lines).countP fun turn => !turn.result.isOk := by
  unfold Transcript.failures
  induction lines generalizing c with
  | nil => rfl
  | cons line lines ih =>
      rw [Console.turns, List.zipWith_cons_cons, List.countP_cons, ih, List.countP_cons]
      rfl

end VerbNoun
