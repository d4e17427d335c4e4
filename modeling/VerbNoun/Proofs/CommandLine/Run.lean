import VerbNoun.CommandLine.PipedInput
import VerbNoun.CommandLine.Program
import VerbNoun.Proofs.Files
import VerbNoun.Proofs.Terminal.Session
set_option autoImplicit false

/-!
# CommandLine: what a run leaves behind (SPEC §16, §19)

A run takes its lines through one console.  What is printed, what the transcript holds, whether a
log is written and the exit code all go back to the same turns, so that they agree with each other
in sessions of any length and whatever lines fail in them.
-/

namespace VerbNoun.CommandLine

open Terminal

/-! ## Saving the log -/

/-- The log that a session over lines leaves, if it leaves one, can be saved. -/
def Saves (around : Surroundings) (settings : Settings) (shown : Bool) (lines : List String) :
    Prop :=
  ∀ log, ((Session.start settings shown).executeAll lines).session.log? settings.transcript
    around.times = some log → ∃ saved, (saveLog around log).1 = .ok saved

/-- A log that is saved is there, and no other file is touched. -/
structure SavedIn (before after : Files.Disk) (saved : SavedLog) : Prop where
  file_eq : after.find? saved.place = some (.file saved.content)
  kept : ∀ place content, place ≠ saved.place → before.find? place = some (.file content) →
    after.find? place = some (.file content)

theorem saveLog_ok {around : Surroundings} {log : LogFile} {saved : SavedLog}
    (h : (saveLog around log).1 = .ok saved) :
    saved.content = log.content ∧ SavedIn around.disk (saveLog around log).2 saved := by
  unfold saveLog at h ⊢
  dsimp only at h ⊢
  have hmade := around.disk.keptIn_makeDirectories (logDirectory log.directory around.day)
  split at h
  · cases h
  · rename_i disk hmake
    rw [hmake] at hmade
    split at h
    · cases h
    · rename_i place disk' hwrite
      cases h
      obtain ⟨hfile, hothers⟩ := Files.Disk.write_ok hwrite
      refine ⟨rfl, hfile, fun other content hne hother => ?_⟩
      exact hothers other content hne (hmade other content hother)

theorem saveLog_of_write {around : Surroundings} {log : LogFile} {disk disk' : Files.Disk}
    {place : Files.Place}
    (hmake : around.disk.makeDirectories (logDirectory log.directory around.day) = (.ok (), disk))
    (hwrite : disk.write (logDirectory log.directory around.day) (logName around.clock)
      log.content = (.ok place, disk')) :
    (saveLog around log).1 =
      .ok ⟨Files.join (logDirectory log.directory around.day) (logName around.clock), place,
        log.content⟩ := by
  simp only [saveLog, hmake, hwrite]

theorem eq_of_log? {s : Session} {settings : TranscriptSettings} {times : Times} {log : LogFile}
    (h : s.log? settings times = some log) :
    ∃ t, s.transcript? = some t ∧ log = ⟨settings.directory, t.log settings.plain times⟩ := by
  unfold Session.log? at h
  split at h
  · cases h
  · rename_i t htranscript
    split at h
    · exact ⟨t, htranscript, (Option.some.inj h).symm⟩
    · cases h

/-- What a session comes to if its log can be saved. -/
theorem closingReport_of_saves {around : Surroundings} {settings : Settings} {shown : Bool}
    {lines : List String} (hsaves : Saves around settings shown lines) (exit : Nat) :
    let reply := (Session.start settings shown).executeAll lines
    let report := closingReport around settings shown (.ok exit) reply
    report.exit = exit ∧
    report.printed =
      reply.printed ++ (report.log?.map fun saved => savedNotice shown saved.path).toList ∧
    report.log?.map (·.content) =
      (reply.session.log? settings.transcript around.times).map (·.content) ∧
    (∀ saved, report.log? = some saved → SavedIn around.disk report.disk saved) ∧
    (report.log? = none → report.disk = around.disk) := by
  intro reply report
  cases hlog : reply.session.log? settings.transcript around.times with
  | none =>
      have hreport : report =
          { exit, printed := reply.printed ++ [], disk := around.disk } := by
        simp only [report, closingReport, hlog]
        rfl
      rw [hreport]
      refine ⟨rfl, rfl, rfl, fun saved hsaved => ?_, fun _ => rfl⟩
      cases hsaved
  | some log =>
      obtain ⟨saved, hsaved⟩ := hsaves log hlog
      obtain ⟨hcontent, hsavedIn⟩ := saveLog_ok hsaved
      have hreport : report =
          { exit
            printed := reply.printed ++ [savedNotice shown saved.path]
            log? := some saved
            disk := (saveLog around log).2 } := by
        simp only [report, closingReport, hlog, Option.map_some, Option.bind_some, hsaved]
        rfl
      rw [hreport]
      refine ⟨rfl, rfl, congrArg some hcontent, fun saved' hsome => ?_, fun hnone => ?_⟩
      · cases hsome
        exact hsavedIn
      · cases hnone

/-! ## The transcript of a run -/

variable (settings : Settings) (shown : Bool) (lines : List String)

/-- The console that a run starts with. -/
def startConsole : Console := Console.new Stock.registry settings.options

/-- The turns of a run. -/
def runTurns : List Turn := (startConsole settings).turns (host shown) lines

/-- What a transcript of a run holds. -/
def runTranscript : Transcript :=
  ⟨List.zipWith (Entry.ofTurn shown) lines (runTurns settings shown lines)⟩

theorem transcript?_run :
    ((Session.start settings shown).executeAll lines).session.transcript? =
      if settings.transcript.strategy = .never then none
      else some (runTranscript settings shown lines) := by
  rw [Session.executeAll_transcript?]
  simp only [Session.start]
  split
  · rfl
  · rfl

theorem failures_ne_zero_iff :
    (runTranscript settings shown lines).failures ≠ 0 ↔
      ((Session.start settings shown).executeAll lines).succeeded = false := by
  rw [Session.executeAll_succeeded, runTranscript, runTurns, failures_ofTurns,
    ← Nat.pos_iff_ne_zero, List.countP_pos_iff, List.all_eq_false]
  simp only [Bool.not_eq_true', Bool.not_eq_true]
  rfl

theorem succeeded_eq_false_iff :
    ((Session.start settings shown).executeAll lines).succeeded = false ↔
      ∃ turn ∈ runTurns settings shown lines, ∃ fault, turn.result = .error fault := by
  rw [Session.executeAll_succeeded, List.all_eq_false]
  refine exists_congr fun turn => and_congr Iff.rfl ?_
  cases turn.result <;> simp [Except.isOk, Except.toBool]

/-- Under the strategy that keeps no transcript, none is due. -/
theorem log?_run (times : Times) :
    ((Session.start settings shown).executeAll lines).session.log? settings.transcript times =
      if (runTranscript settings shown lines).isDue settings.transcript.strategy then
        some ⟨settings.transcript.directory,
          (runTranscript settings shown lines).log settings.transcript.plain times⟩
      else none := by
  rw [Session.log?, transcript?_run]
  cases settings.transcript.strategy <;> rfl

/-- A log is due always, after a line that failed, or never. -/
theorem isSome_log?_run (times : Times) :
    (((Session.start settings shown).executeAll lines).session.log? settings.transcript
        times).isSome = true ↔
      settings.transcript.strategy = .always ∨
        settings.transcript.strategy = .errorOnly ∧
          ((Session.start settings shown).executeAll lines).succeeded = false := by
  rw [← failures_ne_zero_iff, log?_run]
  cases settings.transcript.strategy <;> simp [Transcript.isDue]

/-! ## Agreement -/

theorem filter_printed (stream : Stream) (keeps : Write → Bool)
    (h : ∀ w, decide ((print shown w).stream = stream) = keeps w) (writes : List Write) :
    (writes.map (print shown)).filter (·.stream = stream) =
      (writes.filter keeps).map (print shown) := by
  rw [List.filter_map]
  exact congrArg (List.map (print shown)) (List.filter_congr fun w _ => h w)

/-- The session of a run and its report agree with the turns of the console and with each other. -/
structure Agrees (around : Surroundings) (reply : Reply) (report : Report) : Prop where
  /-- All lines went through the one console, in order. -/
  console_eq : reply.session.console = (startConsole settings).after (host shown) lines
  /-- A transcript has an entry for each line, and between them the entries hold every text that
  was printed, once and in order. -/
  transcript : settings.transcript.strategy ≠ .never → ∃ t, reply.session.transcript? = some t ∧
    t.Tells shown (startConsole settings) lines ∧
    t.entries.flatMap (·.output) = reply.printed.map (·.text)
  /-- The standard output got what was written to the output and debug channels. -/
  output_eq : reply.printed.filter (·.stream = .output) =
    (((runTurns settings shown lines).flatMap (·.writes)).filter (·.channel ≠ .error)).map
      (print shown)
  /-- The standard error got what was written to the error channel. -/
  error_eq : reply.printed.filter (·.stream = .error) =
    (((runTurns settings shown lines).flatMap (·.writes)).filter (·.channel = .error)).map
      (print shown)
  /-- Nothing else is printed but where the log went. -/
  printed_eq : report.printed =
    reply.printed ++ (report.log?.map fun saved => savedNotice shown saved.path).toList
  succeeded_iff : reply.succeeded = false ↔
    ∃ turn ∈ runTurns settings shown lines, ∃ fault, turn.result = .error fault
  exit_eq : report.exit = if reply.succeeded then 0 else 1
  log_always : settings.transcript.strategy = .always → report.log?.isSome = true
  log_errorOnly : settings.transcript.strategy = .errorOnly →
    (report.log?.isSome = true ↔ reply.succeeded = false)
  log_never : settings.transcript.strategy = .never → report.log? = none
  /-- The log holds the transcript. -/
  log_content : ∀ saved, report.log? = some saved → ∃ t, reply.session.transcript? = some t ∧
    saved.content = t.log settings.transcript.plain around.times
  /-- The log is there as a file, and all other files are as they were. -/
  log_file : ∀ saved, report.log? = some saved → SavedIn around.disk report.disk saved
  /-- Without a log nothing is left behind. -/
  disk_eq : report.log? = none → report.disk = around.disk

end VerbNoun.CommandLine

namespace VerbNoun

open CommandLine Terminal

/-- If its log can be saved, a run agrees with itself: results, texts on both streams, transcript,
log and exit code. -/
theorem run_agrees (around : Surroundings) (settings : Settings) (shown : Bool)
    (lines : List String) (hsaves : Saves around settings shown lines) :
    Agrees settings shown lines around ((Session.start settings shown).executeAll lines)
      (perform around settings shown (.run lines)) := by
  let reply := (Session.start settings shown).executeAll lines
  obtain ⟨hexit, hprinted, hcontent, hfile, hdisk⟩ :=
    closingReport_of_saves hsaves (runExit reply.succeeded)
  have hreport : perform around settings shown (.run lines) =
      closingReport around settings shown (.ok (runExit reply.succeeded)) reply := rfl
  have hlog : ((perform around settings shown (.run lines)).log?).isSome =
      (((Session.start settings shown).executeAll lines).session.log? settings.transcript
        around.times).isSome := by
    rw [hreport, ← Option.isSome_map (f := fun saved => saved.content), hcontent, Option.isSome_map]
  have hdue := isSome_log?_run settings shown lines around.times
  rw [← hlog] at hdue
  exact {
    console_eq := Session.executeAll_console _ lines
    transcript := fun hkept => by
      refine ⟨_, (transcript?_run settings shown lines).trans (if_neg hkept),
        Transcript.tells_ofTurns shown _ lines, ?_⟩
      rw [Session.executeAll_printed, List.map_map]
      exact flatMap_output_ofTurns shown _ lines
    output_eq := by
      rw [Session.executeAll_printed]
      refine filter_printed shown .output _ (fun w => ?_) _
      obtain ⟨channel, text⟩ := w
      cases channel <;> rfl
    error_eq := by
      rw [Session.executeAll_printed]
      refine filter_printed shown .error _ (fun w => ?_) _
      obtain ⟨channel, text⟩ := w
      cases channel <;> rfl
    printed_eq := hprinted
    succeeded_iff := succeeded_eq_false_iff settings shown lines
    exit_eq := hexit
    log_always := fun halways => hdue.2 (.inl halways)
    log_errorOnly := fun herror => by
      rw [hdue, herror, or_iff_right (by decide), and_iff_right rfl]
    log_never := fun hnever => by
      have hnone := mt hdue.1 (by simp [hnever])
      rwa [Bool.not_eq_true, Option.isSome_eq_false_iff, Option.isNone_iff_eq_none] at hnone
    log_content := fun saved hsaved => by
      rw [← hreport, hsaved] at hcontent
      obtain ⟨log, hsome, hequal⟩ := Option.map_eq_some_iff.1 hcontent.symm
      obtain ⟨t, htranscript, rfl⟩ := eq_of_log? hsome
      exact ⟨t, htranscript, hequal.symm⟩
    log_file := hfile
    disk_eq := hdisk }

/-- Surroundings with no files and no input. -/
def bareSurroundings : Surroundings where
  disk := {}
  input := ""
  reader := readPiped
  colors := {}
  times := ⟨"", "", ""⟩
  day := "2024-02-29"
  clock := "120000"

theorem saves_bareSurroundings {settings : Settings} (h : settings.transcript.directory = "logs")
    (shown : Bool) (lines : List String) : Saves bareSurroundings settings shown lines := by
  have hmake : bareSurroundings.disk.makeDirectories (logDirectory "logs" bareSurroundings.day) =
      (.ok (), { root := .directory [("logs", .directory [("2024-02-29", .directory [])])] }) := by
    rfl
  have hwrite : ∀ content, ∃ place disk, Files.Disk.write
      { root := .directory [("logs", .directory [("2024-02-29", .directory [])])] }
      (logDirectory "logs" bareSurroundings.day) (logName bareSurroundings.clock) content =
        (.ok place, disk) := fun content => ⟨_, _, by rfl⟩
  intro log hlog
  obtain ⟨t, -, rfl⟩ := eq_of_log? hlog
  obtain ⟨place, disk, hwrite⟩ := hwrite (t.log settings.transcript.plain bareSurroundings.times)
  rw [h]
  exact ⟨_, saveLog_of_write hmake hwrite⟩

/-- A line that writes to the error channel and succeeds, one that cannot be read to its end, and
one that reads the latest result: one failure, so a log is left and the exit code is one. -/
theorem run_agrees_one_failure :
    let settings : Settings := { transcript := { strategy := .errorOnly, directory := "logs" } }
    let report := perform bareSurroundings settings true
      (.run ["Write-Host 'one' -Error", "$x |", "$last"])
    report.exit = 1 ∧ ∃ saved, report.log? = some saved ∧
      SavedIn bareSurroundings.disk report.disk saved := by
  intro settings report
  have hfails : ((Session.start settings true).executeAll
      ["Write-Host 'one' -Error", "$x |", "$last"]).succeeded = false := by decide +kernel
  have hagrees := run_agrees bareSurroundings settings true
    ["Write-Host 'one' -Error", "$x |", "$last"] (saves_bareSurroundings rfl true _)
  obtain ⟨saved, hsaved⟩ := Option.isSome_iff_exists.1 ((hagrees.log_errorOnly rfl).2 hfails)
  refine ⟨?_, saved, hsaved, hagrees.log_file saved hsaved⟩
  rw [hagrees.exit_eq, hfails]
  rfl

end VerbNoun
