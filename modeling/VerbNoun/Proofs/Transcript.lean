import VerbNoun.Transcript
import VerbNoun.Proofs.Terminal.Style
set_option autoImplicit false

/-!
# Transcript: noting lines, and plain logs (SPEC §19)

A line is noted in steps: an entry is opened, each text is added to it as it is printed, and the
entry is closed.  What comes of it is one entry at the end of the transcript.  A plain log is
stripped as a whole; it consists of lines, so it is known by what is left of each of them.
-/

namespace VerbNoun

open Terminal

namespace Transcript

/-! ## Noting a line -/

theorem mapLast_concat (change : Entry → Entry) (es : List Entry) (e : Entry) :
    mapLast change (es ++ [e]) = es ++ [change e] := by
  induction es with
  | nil => rfl
  | cons e' es ih =>
      have hne : es ++ [e] ≠ [] := by simp
      rw [List.cons_append, mapLast, ih, List.cons_append]
      exact hne

theorem entries_foldl_record (texts : List String) {t : Transcript} {es : List Entry} {e : Entry}
    (h : t.entries = es ++ [e]) :
    (texts.foldl record t).entries = es ++ [{ e with output := e.output ++ texts }] := by
  induction texts generalizing t e with
  | nil => rw [List.append_nil, List.foldl_nil, h]
  | cons text texts ih =>
      have hrecord : (t.record text).entries =
          es ++ [{ e with output := e.output ++ [text] }] := by
        rw [record, h, mapLast_concat]
      rw [List.foldl_cons, ih hrecord, List.append_assoc]
      rfl

/-- A line that was begun, printed for and finished is one entry. -/
theorem entries_finish (t : Transcript) (line : String) (texts : List String) (failed : Bool) :
    ((texts.foldl record (t.begin line)).finish failed).entries =
      t.entries ++ [⟨line, texts, failed⟩] := by
  have hbegin : (t.begin line).entries = t.entries ++ [{ input := line }] := rfl
  rw [finish, entries_foldl_record texts hbegin, mapLast_concat]
  rfl

/-! ## Plain logs -/

/-- The lines of an entry in a log. -/
def entryLines (e : Entry) : List String := ("> " ++ e.input) :: e.output

theorem join_entryText (es : List Entry) :
    String.join (es.map entryText) = String.join ((es.flatMap entryLines).map (· ++ "\n")) := by
  induction es with
  | nil => rfl
  | cons e es ih =>
      rw [List.map_cons, String.join_cons, ih, List.flatMap_cons, List.map_append,
        String.join_append, entryLines, List.map_cons, String.join_cons]
      rfl

end Transcript

/-- An entry without the styles of what was printed. -/
def Entry.stripped (e : Entry) : Entry := { e with output := e.output.map strip }

namespace Transcript

variable {t t' : Transcript}

theorem map_strip_entryLines (es : List Entry) :
    (es.flatMap entryLines).map strip =
      (es.map Entry.stripped).flatMap fun e => strip ("> " ++ e.input) :: e.output := by
  rw [List.map_flatMap, List.flatMap_map]
  rfl

/-- The body of a plain log is made of the stripped lines. -/
theorem body_plain (t : Transcript) :
    t.body true = String.join (((t.entries.flatMap entryLines).map strip).map (· ++ "\n")) := by
  rw [List.map_map]
  exact (congrArg strip (join_entryText t.entries)).trans (strip_lines _)

theorem body_eq_of_stripped (h : t.entries.map Entry.stripped = t'.entries.map Entry.stripped) :
    t.body true = t'.body true := by
  rw [body_plain, body_plain, map_strip_entryLines, map_strip_entryLines, h]

theorem failures_eq_of_stripped
    (h : t.entries.map Entry.stripped = t'.entries.map Entry.stripped) :
    t.failures = t'.failures := by
  have hfailures : ∀ t : Transcript,
      t.failures = (t.entries.map Entry.stripped).countP (·.failed) := by
    intro t
    rw [List.countP_map]
    rfl
  rw [hfailures, hfailures, h]

theorem isDue_eq_of_stripped
    (h : t.entries.map Entry.stripped = t'.entries.map Entry.stripped) (strategy : Strategy) :
    t.isDue strategy = t'.isDue strategy := by
  unfold isDue
  rw [failures_eq_of_stripped h]

/-- Transcripts that differ in styles only make the same plain log. -/
theorem log_eq_of_stripped (h : t.entries.map Entry.stripped = t'.entries.map Entry.stripped)
    (times : Times) : t.log true times = t'.log true times := by
  have hlength := congrArg List.length h
  rw [List.length_map, List.length_map] at hlength
  unfold log
  rw [body_eq_of_stripped h, failures_eq_of_stripped h, hlength]

end Transcript

end VerbNoun
