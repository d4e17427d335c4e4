import VerbNoun.Proofs.CommandLine.PipedInput
import VerbNoun.Proofs.CommandLine.Run
import VerbNoun.Proofs.Console
import VerbNoun.Proofs.Statement.Surroundings
set_option autoImplicit false

/-!
# CommandLine: conversations (SPEC §16)

A conversation takes the lines of the standard input from a reader one by one and is over at a
farewell or at the end of the input.  If the reader yields the lines of the input, then up to there
it is a run of the same lines: the session, what goes to the standard output and the log are the
same, however the lines are ended in the input and whatever follows the farewell.
-/

namespace VerbNoun.CommandLine

open Terminal Text

/-! ## Farewells -/

/-- A word in small letters, written in letters of either case. -/
inductive WrittenAs : List Char → List Char → Prop
  | nil : WrittenAs [] []
  | cons {small c : Char} {word text : List Char} (hc : c = small ∨ c = small.toUpper)
      (h : WrittenAs word text) : WrittenAs (small :: word) (c :: text)

/-- A line that asks to leave: one of two words in letters of either case, and nothing but blanks
around it. -/
def AsksToLeave (line : String) : Prop :=
  ∃ before word behind, line.toList = before ++ word ++ behind ∧ Blanks before ∧ Blanks behind ∧
    (WrittenAs "exit".toList word ∨ WrittenAs "quit".toList word)

theorem map_toLower_eq_iff {word text : List Char} (h : ∀ c ∈ word, c.isLower = true) :
    text.map Char.toLower = word ↔ WrittenAs word text := by
  constructor
  · intro heq
    induction text generalizing word with
    | nil =>
        rw [← heq]
        exact .nil
    | cons c text ih =>
        rw [← heq, List.map_cons] at h ⊢
        obtain ⟨hsmall, hrest⟩ := List.forall_mem_cons.1 h
        exact .cons ((toLower_eq_iff hsmall).1 rfl) (ih hrest rfl)
  · intro hwritten
    induction hwritten with
    | nil => rfl
    | cons hc _ ih =>
        obtain ⟨hsmall, hrest⟩ := List.forall_mem_cons.1 h
        rw [List.map_cons, (toLower_eq_iff hsmall).2 hc, ih hrest]

theorem trim_between {before word behind : List Char} (hbefore : Blanks before)
    (hbehind : Blanks behind) (hword : ∀ c ∈ word, isBlank c = false) :
    trimEnd (skipBlanks (before ++ word ++ behind)) = word := by
  have hstops : Stops isBlank word.reverse := by
    intro c rest heq
    exact hword c (List.mem_reverse.1 (heq ▸ List.mem_cons_self))
  cases word with
  | nil =>
      rw [List.append_nil, skipBlanks_append hbefore, skipBlanks_of_blanks hbehind]
      rfl
  | cons c cs =>
      rw [List.append_assoc, skipBlanks_append hbefore, List.cons_append,
        skipBlanks_cons (hword c List.mem_cons_self), ← List.cons_append, trimEnd_append hbehind,
        trimEnd, dropWhile_of_stops hstops, List.reverse_reverse]

/-- A line is a word in letters of either case, blanks around it left out, exactly if trimming and
small letters make it that word. -/
theorem map_toLower_trim_eq_iff {line : String} {word : List Char}
    (hword : word.all Char.isLower = true) :
    (trim line).toList.map Char.toLower = word ↔
      ∃ before text behind, line.toList = before ++ text ++ behind ∧ Blanks before ∧
        Blanks behind ∧ WrittenAs word text := by
  have hlower : ∀ c ∈ word, c.isLower = true := List.all_eq_true.1 hword
  rw [trim, String.toList_ofList]
  constructor
  · intro heq
    obtain ⟨before, hbefore, hline⟩ := exists_append_skipBlanks line.toList
    obtain ⟨behind, hbehind, hrest⟩ := exists_trimEnd_append (skipBlanks line.toList)
    refine ⟨before, _, behind, ?_, hbefore, hbehind, (map_toLower_eq_iff hlower).1 heq⟩
    rw [List.append_assoc, ← hrest]
    exact hline
  · rintro ⟨before, text, behind, hline, hbefore, hbehind, hwritten⟩
    have htext := (map_toLower_eq_iff hlower).2 hwritten
    have hnotBlank : ∀ c ∈ text, isBlank c = false := by
      intro c hc
      exact isBlank_of_isLower_toLower (hlower _ (htext ▸ List.mem_map_of_mem hc))
    rw [hline, trim_between hbefore hbehind hnotBlank, htext]

/-- A conversation is over exactly at a line that asks to leave. -/
theorem isFarewell_iff {line : String} : isFarewell line = true ↔ AsksToLeave line := by
  have hexit := @map_toLower_trim_eq_iff line "exit".toList rfl
  have hquit := @map_toLower_trim_eq_iff line "quit".toList rfl
  simp only [isFarewell, Bool.or_eq_true, decide_eq_true_eq, hexit, hquit, AsksToLeave, and_or_left,
    exists_or]

instance (line : String) : Decidable (AsksToLeave line) :=
  decidable_of_iff (isFarewell line = true) isFarewell_iff

/-- The lines before the first that asks to leave, or all of them. -/
def beforeFarewell (lines : List String) : List String :=
  lines.takeWhile fun line => ¬ AsksToLeave line

/-! ## The loop -/

/-- How a conversation over lines ends. -/
def endingOf (lines : List String) : Ending :=
  if lines.any fun line => AsksToLeave line then .farewell else .endOfInput

/-- A conversation over lines is a session over those before its farewell. -/
theorem converse_eq_executeAll (s : Session) (lines : List String) :
    converse s (lines.map .line) = (s.executeAll (beforeFarewell lines), endingOf lines) := by
  induction lines generalizing s with
  | nil => rfl
  | cons line lines ih =>
      unfold beforeFarewell endingOf at ih ⊢
      by_cases hline : AsksToLeave line
      · rw [List.map_cons, converse, if_pos (isFarewell_iff.2 hline),
          List.takeWhile_cons_of_neg (by simpa using hline), Session.executeAll, List.any_cons,
          decide_eq_true hline, Bool.true_or, if_pos rfl]
      · rw [List.map_cons, converse, if_neg (mt isFarewell_iff.1 hline),
          List.takeWhile_cons_of_pos (by simpa using hline), List.any_cons,
          decide_eq_false hline, Bool.false_or]
        dsimp only
        rw [ih, Session.executeAll]

/-- A conversation over lines ends well. -/
theorem verdict?_endingOf (lines : List String) : (endingOf lines).verdict? = some (.ok 0) := by
  unfold endingOf
  split <;> rfl

theorem lines_after (c : Console) (host : Host) (lines : List String) :
    (c.after host lines).lines = c.lines ++ lines := by
  induction lines generalizing c with
  | nil => exact (List.append_nil c.lines).symm
  | cons line lines ih =>
      have hstep : (c.after host (line :: lines)).lines =
          ((c.evaluate host line).console.after host lines).lines := rfl
      rw [hstep, ih, Console.evaluate_lines, List.append_assoc]
      rfl

/-- What is printed and what is saved at the end do not depend on the exit code. -/
theorem closing_exit (shown : Bool) (exit exit' : Nat) (saving? : Option (Except String String)) :
    (closing shown (.ok exit) saving?).printed = (closing shown (.ok exit') saving?).printed := by
  rcases saving? with _ | _ | _ <;> rfl

/-- A conversation that ends well closes as a run does, but for the exit code. -/
theorem closingReport_exit (around : Surroundings) (settings : Settings) (shown : Bool)
    (exit exit' : Nat) (reply : Reply) :
    { closingReport around settings shown (.ok exit) reply with exit := exit' } =
      { closingReport around settings shown (.ok exit') reply with exit := exit' } := by
  simp only [closingReport, closing_exit shown exit exit']

/-- A conversation comes to the same as a run of the lines before the farewell. -/
structure AgreesWithRun (around : Surroundings) (settings : Settings) (shown : Bool)
    (lines : List String) : Prop where
  /-- These lines are run and no others, blank ones among them. -/
  lines_eq : (converse (Session.start settings shown)
    (around.reader around.input)).1.session.console.lines = beforeFarewell lines
  /-- The session is the same at its end, and with it the transcript. -/
  session_eq : (converse (Session.start settings shown) (around.reader around.input)).1.session =
    ((Session.start settings shown).executeAll (beforeFarewell lines)).session
  output_eq : textOn .output (perform around settings shown .converse).printed =
    textOn .output (perform around settings shown (.run (beforeFarewell lines))).printed
  /-- On the standard error there is a greeting before the rest. -/
  printed_eq : (perform around settings shown .converse).printed =
    banner shown :: (perform around settings shown (.run (beforeFarewell lines))).printed
  /-- A log is saved or not alike, and it is the same log. -/
  log_eq : (perform around settings shown .converse).log? =
    (perform around settings shown (.run (beforeFarewell lines))).log?
  /-- The files are the same after it. -/
  disk_eq : (perform around settings shown .converse).disk =
    (perform around settings shown (.run (beforeFarewell lines))).disk

/-- A conversation whose reader yields lines agrees with a run. -/
theorem agreesWithRun_of_reader {around : Surroundings} {lines : List String}
    (h : around.reader around.input = lines.map .line) (settings : Settings) (shown : Bool) :
    AgreesWithRun around settings shown lines := by
  have htalk := converse_eq_executeAll (Session.start settings shown) lines
  rw [← h] at htalk
  let reply := (Session.start settings shown).executeAll (beforeFarewell lines)
  have hperform : perform around settings shown .converse =
      { closingReport around settings shown (.ok 0) reply with
        printed := banner shown ::
          (closingReport around settings shown (.ok 0) reply).printed } := by
    simp only [perform, htalk, verdict?_endingOf]
    rfl
  have hrun : perform around settings shown (.run (beforeFarewell lines)) =
      closingReport around settings shown (.ok (runExit reply.succeeded)) reply := rfl
  have hclosing := closingReport_exit around settings shown 0 (runExit reply.succeeded) reply
  have hprinted : (perform around settings shown .converse).printed =
      banner shown :: (perform around settings shown (.run (beforeFarewell lines))).printed := by
    rw [hperform, hrun]
    exact congrArg (fun report => banner shown :: report.printed) hclosing
  refine ⟨?_, ?_, ?_, hprinted, ?_, ?_⟩
  · rw [htalk, Session.executeAll_console, lines_after]
    rfl
  · rw [htalk]
  · rw [hprinted]
    rfl
  · rw [hperform, hrun]
    exact congrArg (·.log?) hclosing
  · rw [hperform, hrun]
    exact congrArg (·.disk) hclosing

end VerbNoun.CommandLine

namespace VerbNoun

open CommandLine Terminal

/-- A conversation agrees with a run.  The input holds lines in order, each ended in either way and
the last perhaps not at all.  If the reader yields the lines of the input, then those before the
first that asks to leave are run, as a run of the same lines does. -/
theorem conversation_agrees_with_run (around : Surroundings) (settings : Settings) (shown : Bool)
    (lines : List String) (hlines : ∀ line ∈ lines, Unbroken line)
    (hholds : Holds around.input lines) (hreader : around.reader.Yields around.input) :
    AgreesWithRun around settings shown lines :=
  agreesWithRun_of_reader (hreader lines hholds hlines) settings shown

/-- Surroundings with an input whose lines are ended in every way. -/
def mixedSurroundings : Surroundings :=
  { bareSurroundings with
    input := "Add-Number 1 2" ++ "\r\n" ++ (" " ++ "\n" ++ ("Add-Number $last 1" ++ "\n"
      ++ ("\tQuIt " ++ "\r\n" ++ "$last"))) }

/-- Two sums with a blank line between them, and a farewell in mixed letters with a line behind it,
taken from the reader of the program: the blank line is run and fails, so that there is a log, and
the last line is not run. -/
theorem conversation_agrees_with_run_blank_line :
    let settings : Settings := { transcript := { strategy := .errorOnly, directory := "logs" } }
    mixedSurroundings.reader = readPiped ∧
    (converse (Session.start settings false)
      (mixedSurroundings.reader mixedSurroundings.input)).1.session.console.lines =
        ["Add-Number 1 2", " ", "Add-Number $last 1"] ∧
    textOn .output (perform mixedSurroundings settings false .converse).printed = "3\n4\n" ∧
    (perform mixedSurroundings settings false .converse).log?.isSome = true := by
  intro settings
  have hholds : Holds mixedSurroundings.input
      ["Add-Number 1 2", " ", "Add-Number $last 1", "\tQuIt ", "$last"] :=
    .line _ (.inr rfl) (.line _ (.inl rfl) (.line _ (.inl rfl) (.line _ (.inr rfl)
      (.last (by decide)))))
  have hunbroken : ∀ line ∈ ["Add-Number 1 2", " ", "Add-Number $last 1", "\tQuIt ", "$last"],
      Unbroken line := by decide
  have hagrees := conversation_agrees_with_run mixedSurroundings settings false _ hunbroken hholds
    ((readPiped_yields_iff hholds hunbroken).2 (by decide))
  refine ⟨rfl, ?_, ?_, ?_⟩
  · rw [hagrees.lines_eq]
    decide +kernel
  · rw [hagrees.output_eq]
    decide +kernel
  · rw [hagrees.log_eq]
    decide +kernel

end VerbNoun
