import VerbNoun.Proofs.Command.Registry
import VerbNoun.Proofs.CommandLine.Run
set_option autoImplicit false

/-!
# Terminal: a plain log does not show styles (SPEC §15, §19)

The same lines are run at two terminals, one that shows styles and one that does not.  The stock
commands mark texts and never look at the marks, so both runs give the same results and keep the
same variables; what they write is the same once it is stripped, text by text.  All that is printed
or logged is made of such texts, with blanks and line ends between them, and so is the same once it
is stripped as a whole.
-/

namespace VerbNoun

open Terminal

/-! ## Hosts and writes -/

/-- Two hosts whose marks are the same once they are stripped. -/
def Host.SameStripped (host host' : Host) : Prop :=
  ∀ role text, strip (host.paint role text) = strip (host'.paint role text)

theorem Role.codes_are_codes (role : Role) : Codes role.codes.toList := by
  cases role <;> exact List.all_eq_true.1 rfl

theorem Terminal.host_sameStripped (shown shown' : Bool) :
    (host shown).SameStripped (host shown') := by
  intro role text
  exact (strip_styledIf shown role.codes_are_codes text).trans
    (strip_styledIf shown' role.codes_are_codes text).symm

/-- A write without the styles of its text. -/
def Write.stripped (w : Write) : Write := { w with text := strip w.text }

theorem Write.stripped_eq {channel : Channel} {text text' : String} (h : strip text = strip text') :
    Write.stripped ⟨channel, text⟩ = Write.stripped ⟨channel, text'⟩ :=
  congrArg (Write.mk channel) h

/-! ## Commands that do not look at marks -/

/-- A command that gives the same result under both hosts and writes the same texts, but for their
styles. -/
def Declaration.IgnoresStyles (d : Declaration) : Prop :=
  ∀ state host host', Host.SameStripped host host' →
    (d.process state host).result = (d.process state host').result ∧
    (d.process state host).writes.map Write.stripped =
      (d.process state host').writes.map Write.stripped

/-- Every command of a registry does. -/
def Registry.IgnoresStyles (r : Registry) : Prop :=
  ∀ e ∈ r.commands.entries, e.2.declaration.IgnoresStyles

theorem Stock.writeHost_ignoresStyles : Stock.writeHost.IgnoresStyles := by
  rintro ⟨message, debug, error⟩ host host' h
  refine ⟨rfl, ?_⟩
  cases error with
  | true => rfl
  | false =>
      cases debug with
      | true => rfl
      | false => exact congrArg (fun w => [w]) (Write.stripped_eq (h .text message))

theorem Stock.all_ignoreStyles : ∀ d ∈ Stock.all, d.IgnoresStyles := by
  intro d hd
  simp only [Stock.all, List.mem_cons, List.not_mem_nil, or_false] at hd
  rcases hd with rfl | rfl | rfl | rfl | rfl | rfl | rfl
  case inr.inr.inr.inr.inr.inr => exact Stock.writeHost_ignoresStyles
  -- The others take no notice of the host.
  all_goals exact fun _ _ _ _ => ⟨rfl, rfl⟩

theorem Stock.registry_ignoresStyles : Stock.registry.IgnoresStyles := by
  intro e he
  unfold Stock.registry at he
  rcases Registry.mem_of_registerAll he with hempty | hmem
  · exact absurd hempty List.not_mem_nil
  · exact Stock.all_ignoreStyles _ hmem

/-! ## Two runs of one statement -/

namespace Evaluation

/-- The same result and the same store, and the same texts but for their styles. -/
structure SameStripped (e f : Evaluation) : Prop where
  result_eq : e.result = f.result
  store_eq : e.store = f.store
  writes_eq : e.writes.map Write.stripped = f.writes.map Write.stripped

theorem SameStripped.refl (e : Evaluation) : e.SameStripped e := ⟨rfl, rfl, rfl⟩

variable {registry : Registry} {host host' : Host}

theorem ofCall_sameStripped (hr : registry.IgnoresStyles) (hh : host.SameStripped host')
    (call : Call) (piped? : Option Value) (store : Store) :
    (ofCall registry host call piped? store).SameStripped
      (ofCall registry host' call piped? store) := by
  unfold ofCall
  split
  · exact .refl _
  · rename_i command hresolve
    split
    · exact .refl _
    · rename_i slots store' _
      obtain ⟨hresult, hwrites⟩ := hr _ (Registry.mem_of_resolve hresolve)
        (Field.offerAll command.declaration.fields slots command.declaration.initial) host host' hh
      exact ⟨congrArg (Except.mapError Fault.failed) hresult, rfl, hwrites⟩

theorem ofChain_sameStripped (hr : registry.IgnoresStyles) (hh : host.SameStripped host')
    (calls : List Call) (piped? : Option Value) (store : Store) :
    (ofChain registry host calls piped? store).SameStripped
      (ofChain registry host' calls piped? store) := by
  induction calls generalizing piped? store with
  | nil => exact .refl _
  | cons call calls ih =>
      have hfirst := ofCall_sameStripped hr hh call piped? store
      simp only [ofChain, hfirst.result_eq, hfirst.store_eq]
      split
      · exact hfirst
      · rename_i v _
        have hlast := ih (some v) (ofCall registry host' call piped? store).store
        refine ⟨hlast.result_eq, hlast.store_eq, ?_⟩
        rw [List.map_append, List.map_append, hfirst.writes_eq, hlast.writes_eq]

theorem ofStatement_sameStripped (hr : registry.IgnoresStyles) (hh : host.SameStripped host')
    (store : Store) : ∀ statement : Statement,
    (ofStatement registry host statement store).SameStripped
      (ofStatement registry host' statement store)
  | .word _ | .quoted _ | .number _ | .flag _ | .reflect _ _ | .var _ => .refl _
  | .command call => ofCall_sameStripped hr hh call none store
  | .pipe calls => ofChain_sameStripped hr hh calls none store
  | .assign name value => by
      have hright := ofStatement_sameStripped hr hh store value
      simp only [ofStatement, hright.result_eq, hright.store_eq]
      split
      · exact .refl _
      · split
        · exact hright
        · exact ⟨rfl, rfl, hright.writes_eq⟩

end Evaluation

/-! ## Two runs of one line -/

/-- The same result and the same console, and the same texts but for their styles. -/
structure Turn.SameStripped (turn turn' : Turn) : Prop where
  result_eq : turn.result = turn'.result
  console_eq : turn.console = turn'.console
  writes_eq : turn.writes.map Write.stripped = turn'.writes.map Write.stripped

namespace Console

variable {c : Console} {host host' : Host}

theorem evaluate_sameStripped (hr : c.registry.IgnoresStyles) (hh : host.SameStripped host')
    (line : String) : (c.evaluate host line).SameStripped (c.evaluate host' line) := by
  unfold evaluate
  split
  · exact ⟨rfl, rfl, rfl⟩
  · rename_i s _
    have hrun := Evaluation.ofStatement_sameStripped hr hh c.store s
    simp only [run, hrun.result_eq, hrun.store_eq]
    split
    · exact ⟨rfl, rfl, hrun.writes_eq⟩
    · exact ⟨rfl, rfl, hrun.writes_eq⟩

/-- The remainder of a line that was not read to its end is marked within a text that is marked
itself; it is set off by a line end. -/
theorem strip_faultText (hh : host.SameStripped host') (fault : Fault) :
    strip (faultText host fault) = strip (faultText host' fault) := by
  cases fault with
  | incompleteParse remainder offset =>
      simp only [faultText, strip_line, hh .standard]
  | _ => rfl

theorem report_stripped (hh : host.SameStripped host') (result : Except Fault Value) :
    (report host result).stripped = (report host' result).stripped := by
  cases result with
  | ok v => exact Write.stripped_eq (hh (roleOf v) v.render)
  | error fault => exact Write.stripped_eq (strip_faultText hh fault)

theorem execute_sameStripped (hr : c.registry.IgnoresStyles) (hh : host.SameStripped host')
    (line : String) : (c.execute host line).SameStripped (c.execute host' line) := by
  have hevaluate := evaluate_sameStripped hr hh line
  refine ⟨hevaluate.result_eq, hevaluate.console_eq, ?_⟩
  simp only [execute, List.map_append, hevaluate.writes_eq, hevaluate.result_eq, List.map_cons,
    List.map_nil, report_stripped hh]

theorem new_registry (registry : Registry) (options : ConsoleOptions) :
    (Console.new registry options).registry = registry := rfl

theorem execute_registry (c : Console) (host : Host) (line : String) :
    (c.execute host line).console.registry = c.registry := by
  unfold execute evaluate
  split
  · rfl
  · simp only
    split <;> rfl

end Console

/-! ## Two runs of a session -/

/-- A turn without the styles of its texts. -/
def Turn.stripped (turn : Turn) : Turn :=
  { turn with writes := turn.writes.map Write.stripped }

theorem Turn.SameStripped.stripped_eq {turn turn' : Turn} (h : turn.SameStripped turn') :
    turn.stripped = turn'.stripped := by
  unfold Turn.stripped
  rw [h.result_eq, h.console_eq, h.writes_eq]

/-- Whatever the hosts show, the turns of a session are the same once they are stripped. -/
theorem Console.turns_stripped {c : Console} {host host' : Host}
    (hr : c.registry.IgnoresStyles) (hh : host.SameStripped host') (lines : List String) :
    (c.turns host lines).map Turn.stripped = (c.turns host' lines).map Turn.stripped := by
  induction lines generalizing c with
  | nil => rfl
  | cons line lines ih =>
      have hexecute := execute_sameStripped hr hh line
      have hkept : (c.execute host' line).console.registry.IgnoresStyles := by
        rwa [execute_registry]
      rw [turns, turns, List.map_cons, List.map_cons, hexecute.stripped_eq, hexecute.console_eq,
        ih hkept]

namespace Terminal

/-- A printed text without its styles. -/
def Printed.stripped (p : Printed) : Printed := { p with text := strip p.text }

/-- How a text that was stripped is printed, and stripped again. -/
def printStripped (w : Write) : Printed :=
  match w.channel with
  | .output => ⟨.output, w.text⟩
  | .error => ⟨.error, strip "[ERROR]" ++ " " ++ w.text⟩
  | .debug => ⟨.output, strip "[DEBUG]" ++ " " ++ w.text⟩

theorem strip_tagged (shown : Bool) (role : Role) (tag text : String) :
    strip (tagged shown role tag text) = strip tag ++ " " ++ strip text := by
  have hpaint : ∀ text, strip ((host shown).paint role text) = strip text :=
    strip_styledIf shown role.codes_are_codes
  rw [tagged, strip_space, hpaint, hpaint]

theorem print_stripped (shown : Bool) (w : Write) :
    (print shown w).stripped = printStripped w.stripped := by
  obtain ⟨channel, text⟩ := w
  cases channel with
  | output => rfl
  | error => exact congrArg (Printed.mk .error) (strip_tagged shown .error _ text)
  | debug => exact congrArg (Printed.mk .output) (strip_tagged shown .debug _ text)

theorem strip_textOn (stream : Stream) (ps : List Printed) :
    strip (textOn stream ps) = textOn stream (ps.map Printed.stripped) := by
  have hlines : textOn stream ps =
      String.join (((ps.filter (·.stream = stream)).map (·.text)).map (· ++ "\n")) := by
    rw [List.map_map]
    rfl
  rw [hlines, strip_lines, List.map_map, textOn, List.filter_map, List.map_map]
  rfl

theorem map_print_stripped (shown : Bool) (writes : List Write) :
    (writes.map (print shown)).map Printed.stripped =
      (writes.map Write.stripped).map printStripped := by
  rw [List.map_map, List.map_map]
  exact congrArg (List.map · writes) (funext (print_stripped shown))

theorem printed_stripped (shown : Bool) (turns : List Turn) :
    ((turns.flatMap (·.writes)).map (print shown)).map Printed.stripped =
      ((turns.map Turn.stripped).flatMap (·.writes)).map printStripped := by
  rw [map_print_stripped, List.map_flatMap, List.flatMap_map]
  rfl

/-- The entry of a line with a turn that was stripped. -/
def entryStripped (line : String) (turn : Turn) : Entry :=
  ⟨line, turn.writes.map fun w => (printStripped w).text, !turn.result.isOk⟩

theorem ofTurn_stripped (shown : Bool) (line : String) (turn : Turn) :
    (Entry.ofTurn shown line turn).stripped = entryStripped line turn.stripped := by
  have houtput := congrArg (List.map Printed.text) (map_print_stripped shown turn.writes)
  simp only [List.map_map] at houtput
  simp only [Entry.stripped, Entry.ofTurn, entryStripped, Turn.stripped, List.map_map]
  exact congrArg (Entry.mk line · _) houtput

theorem entries_stripped (shown : Bool) (lines : List String) (turns : List Turn) :
    (List.zipWith (Entry.ofTurn shown) lines turns).map Entry.stripped =
      List.zipWith entryStripped lines (turns.map Turn.stripped) := by
  rw [List.map_zipWith, List.zipWith_map_right]
  exact congrArg (List.zipWith · lines turns)
    (funext fun line => funext fun turn => ofTurn_stripped shown line turn)

end Terminal

/-! ## Two runs of the program -/

open CommandLine

/-- The turns of a run are the same at both terminals once they are stripped. -/
theorem CommandLine.runTurns_stripped (settings : Settings) (lines : List String)
    (shown shown' : Bool) :
    (runTurns settings shown lines).map Turn.stripped =
      (runTurns settings shown' lines).map Turn.stripped := by
  refine Console.turns_stripped ?_ (host_sameStripped shown shown') lines
  rw [startConsole, Console.new_registry]
  exact Stock.registry_ignoresStyles

theorem CommandLine.runTranscript_stripped (settings : Settings) (lines : List String)
    (shown shown' : Bool) :
    (runTranscript settings shown lines).entries.map Entry.stripped =
      (runTranscript settings shown' lines).entries.map Entry.stripped := by
  unfold runTranscript
  rw [entries_stripped, entries_stripped, runTurns_stripped settings lines shown shown']

theorem CommandLine.log?_perform_run (around : Surroundings) (settings : Settings) (shown : Bool)
    (lines : List String) :
    (perform around settings shown (.run lines)).log? =
      (((Session.start settings shown).executeAll lines).session.log? settings.transcript
        around.times).bind fun log => (saveLog around log).1.toOption := by
  simp only [perform, closingReport, Option.bind_map]
  rfl

/-- A plain log does not depend on styles.  Run at a terminal that shows styles and at one that does
not, the same lines leave the same log or none, and the same texts on each stream once these are
stripped. -/
theorem plain_log_ignores_styles (settings : Settings) (hplain : settings.transcript.plain = true)
    (lines : List String) :
    (∀ times,
      ((Session.start settings true).executeAll lines).session.log? settings.transcript times =
        ((Session.start settings false).executeAll lines).session.log? settings.transcript times) ∧
    (∀ around, (perform around settings true (.run lines)).log? =
      (perform around settings false (.run lines)).log?) ∧
    ∀ stream, strip (textOn stream ((Session.start settings true).executeAll lines).printed) =
      strip (textOn stream ((Session.start settings false).executeAll lines).printed) := by
  have hentries := runTranscript_stripped settings lines true false
  have hlog : ∀ times,
      ((Session.start settings true).executeAll lines).session.log? settings.transcript times =
        ((Session.start settings false).executeAll lines).session.log? settings.transcript
          times := by
    intro times
    rw [log?_run, log?_run, hplain, Transcript.isDue_eq_of_stripped hentries,
      Transcript.log_eq_of_stripped hentries]
  refine ⟨hlog, ?_, ?_⟩
  · intro around
    rw [log?_perform_run, log?_perform_run, hlog]
  · intro stream
    rw [strip_textOn, strip_textOn, Session.executeAll_printed, Session.executeAll_printed,
      printed_stripped, printed_stripped]
    exact congrArg (fun turns : List Turn =>
      textOn stream ((turns.flatMap (·.writes)).map printStripped))
      (runTurns_stripped settings lines true false)

/-- A text with a reset in it that breaks off in another sequence, and a line that is not read to
its end and leaves such a text: both terminals print differently and leave the same log. -/
theorem plain_log_ignores_styles_escapes :
    textOn .output ((Session.start { transcript := { strategy := .always } } true).executeAll
        ["Write-Host 'a\x1b[0mb\x1b[3'", "$x \x1b[0m\x1b["]).printed ≠
      textOn .output ((Session.start { transcript := { strategy := .always } } false).executeAll
        ["Write-Host 'a\x1b[0mb\x1b[3'", "$x \x1b[0m\x1b["]).printed ∧
    ∀ around, (perform around { transcript := { strategy := .always } } true
        (.run ["Write-Host 'a\x1b[0mb\x1b[3'", "$x \x1b[0m\x1b["])).log? =
      (perform around { transcript := { strategy := .always } } false
        (.run ["Write-Host 'a\x1b[0mb\x1b[3'", "$x \x1b[0m\x1b["])).log? :=
  ⟨by decide +kernel,
    (plain_log_ignores_styles { transcript := { strategy := .always } } rfl _).2.1⟩

end VerbNoun
