import VerbNoun.Terminal.Session
import VerbNoun.Proofs.Transcript
set_option autoImplicit false

/-!
# Transcript: stretches of notes (SPEC §19)

A transcript takes notes in any order.  One that begins a line starts an entry, and those up to the
next line are about that entry and no other: texts are added to it, and the latest mark counts.
What is noted before the first line is dropped.  So the entries are known from the stretches into
which the lines cut the notes.
-/

namespace VerbNoun.Transcript

/-- What a transcript is told. -/
inductive Note where
  | begin (input : String)
  | record (text : String)
  | finish (failed : Bool)
  deriving DecidableEq, Repr

namespace Note

/-- The line that begins with a note. -/
def input? : Note → Option String
  | .begin input => some input
  | _ => none

theorem eq_begin {note : Note} {input : String} (h : note.input? = some input) :
    note = .begin input := by
  cases note with
  | begin input' => rw [Option.some.inj h]
  | record text => cases h
  | finish failed => cases h

/-- The text that was printed. -/
def text? : Note → Option String
  | .record text => some text
  | _ => none

/-- The mark at the end of a line: whether it failed. -/
def mark? : Note → Option Bool
  | .finish failed => some failed
  | _ => none

end Note

/-- The transcript after one more note. -/
def noted (t : Transcript) : Note → Transcript
  | .begin input => t.begin input
  | .record text => t.record text
  | .finish failed => t.finish failed

/-- The transcript that comes of notes. -/
def ofNotes (notes : List Note) : Transcript := notes.foldl noted {}

/-- No line begins among the notes. -/
def NoLine (notes : List Note) : Prop := ∀ note ∈ notes, note.input? = none

/-- There are no notes, or the first of them begins a line. -/
def Opens (notes : List Note) : Prop := ∀ note rest, notes = note :: rest → note.input? ≠ none

/-- Line number `i` among the notes has this input, and these notes about it: those behind its
beginning, up to the next line or to the end. -/
def IsStretch (notes : List Note) (i : Nat) (input : String) (inner : List Note) : Prop :=
  ∃ before after, notes = before ++ .begin input :: (inner ++ after) ∧
    (before.filterMap Note.input?).length = i ∧ NoLine inner ∧ Opens after

/-- The entry of a line with the notes about it: every text, and the latest mark. -/
def entryOf (input : String) (inner : List Note) : Entry :=
  ⟨input, inner.filterMap Note.text?, (inner.filterMap Note.mark?).getLastD false⟩

/-! ## One note -/

theorem noted_concat {note : Note} (h : note.input? = none) (es : List Entry) (e : Entry) :
    noted ⟨es ++ [e]⟩ note =
      ⟨es ++ [⟨e.input, e.output ++ note.text?.toList, note.mark?.getD e.failed⟩]⟩ := by
  cases note with
  | begin input => cases h
  | record text => rw [noted, record, mapLast_concat]; rfl
  | finish failed =>
      rw [noted, finish, mapLast_concat]
      simp [Note.text?, Note.mark?]

theorem noted_empty {note : Note} (h : note.input? = none) : noted {} note = {} := by
  cases note with
  | begin input => cases h
  | record text => rfl
  | finish failed => rfl

/-- A note leaves all entries but the latest as they are. -/
theorem noted_append (es es' : List Entry) (e : Entry) (note : Note) :
    ∃ fs f, noted ⟨es' ++ [e]⟩ note = ⟨fs ++ [f]⟩ ∧
      noted ⟨es ++ (es' ++ [e])⟩ note = ⟨es ++ (fs ++ [f])⟩ := by
  cases hnote : note.input? with
  | none =>
      refine ⟨es', _, noted_concat hnote es' e, ?_⟩
      rw [← List.append_assoc, noted_concat hnote, List.append_assoc]
  | some input =>
      obtain rfl := Note.eq_begin hnote
      exact ⟨es' ++ [e], { input := input }, rfl, congrArg mk (List.append_assoc _ _ _)⟩

/-! ## Runs of notes -/

theorem foldl_noted_empty {stray : List Note} (h : NoLine stray) : stray.foldl noted {} = {} := by
  induction stray with
  | nil => rfl
  | cons note stray ih =>
      obtain ⟨hnote, hrest⟩ := List.forall_mem_cons.1 h
      rw [List.foldl_cons, noted_empty hnote, ih hrest]

/-- What is noted before the first line has no effect. -/
theorem ofNotes_append {stray : List Note} (h : NoLine stray) (notes : List Note) :
    ofNotes (stray ++ notes) = ofNotes notes := by
  rw [ofNotes, List.foldl_append, foldl_noted_empty h, ofNotes]

theorem getLastD_mark? (note : Note) (notes : List Note) (failed : Bool) :
    ((note :: notes).filterMap Note.mark?).getLastD failed =
      (notes.filterMap Note.mark?).getLastD (note.mark?.getD failed) := by
  cases hmark : note.mark? with
  | none => rw [List.filterMap_cons_none hmark, Option.getD_none]
  | some mark => rw [List.filterMap_cons_some hmark, List.getLastD_cons, Option.getD_some]

theorem append_text? (output : List String) (note : Note) (notes : List Note) :
    output ++ note.text?.toList ++ notes.filterMap Note.text? =
      output ++ (note :: notes).filterMap Note.text? := by
  cases htext : note.text? with
  | none => rw [List.filterMap_cons_none htext, Option.toList_none, List.append_nil]
  | some text =>
      rw [List.filterMap_cons_some htext, Option.toList_some, List.append_assoc,
        List.singleton_append]

/-- Notes about the current line go to the latest entry. -/
theorem foldl_noted_concat {inner : List Note} (h : NoLine inner) (es : List Entry) (e : Entry) :
    inner.foldl noted ⟨es ++ [e]⟩ =
      ⟨es ++ [⟨e.input, e.output ++ inner.filterMap Note.text?,
        (inner.filterMap Note.mark?).getLastD e.failed⟩]⟩ := by
  induction inner generalizing e with
  | nil =>
      rw [List.foldl_nil, List.filterMap_nil, List.filterMap_nil, List.append_nil,
        List.getLastD_nil]
  | cons note inner ih =>
      obtain ⟨hnote, hrest⟩ := List.forall_mem_cons.1 h
      rw [List.foldl_cons, noted_concat hnote, ih hrest, append_text?, getLastD_mark?]

theorem foldl_noted_begin {inner : List Note} (h : NoLine inner) (input : String) :
    (Note.begin input :: inner).foldl noted {} = ⟨[entryOf input inner]⟩ := by
  have hconcat := foldl_noted_concat h [] { input := input }
  rwa [List.nil_append, List.nil_append, List.nil_append] at hconcat

/-- Notes leave the entries alone that stand before the latest. -/
theorem foldl_noted_append (notes : List Note) (es es' : List Entry) (e : Entry) :
    (notes.foldl noted ⟨es ++ (es' ++ [e])⟩).entries =
      es ++ (notes.foldl noted ⟨es' ++ [e]⟩).entries := by
  induction notes generalizing es' e with
  | nil => rfl
  | cons note notes ih =>
      obtain ⟨fs, f, hnoted, happend⟩ := noted_append es es' e note
      rw [List.foldl_cons, List.foldl_cons, happend, hnoted, ih]

/-- A new line leaves what was noted before it, and goes on as if it were the first. -/
theorem entries_foldl_of_opens {notes : List Note} (h : Opens notes) (t : Transcript) :
    (notes.foldl noted t).entries = t.entries ++ (ofNotes notes).entries := by
  cases notes with
  | nil => exact (List.append_nil _).symm
  | cons note rest =>
      obtain ⟨input, hnote⟩ := Option.ne_none_iff_exists'.1 (h note rest rfl)
      obtain rfl := Note.eq_begin hnote
      exact foldl_noted_append rest t.entries [] { input := input }

/-! ## Stretches -/

/-- The lines with the notes about each of them. -/
def stretches : List Note → List (String × List Note)
  | [] => []
  | .begin input :: rest => (input, rest.takeWhile (·.input?.isNone)) :: stretches rest
  | _ :: rest => stretches rest

theorem stretches_of_none {note : Note} (h : note.input? = none) (notes : List Note) :
    stretches (note :: notes) = stretches notes := by
  cases note with
  | begin input => cases h
  | record text => rfl
  | finish failed => rfl

theorem noLine_takeWhile (notes : List Note) : NoLine (notes.takeWhile (·.input?.isNone)) := by
  intro note hnote
  exact Option.isNone_iff_eq_none.1 (List.all_eq_true.1 List.all_takeWhile note hnote)

theorem opens_dropWhile (notes : List Note) : Opens (notes.dropWhile (·.input?.isNone)) := by
  intro note rest heq hnone
  have hhead := List.head?_dropWhile_not (·.input?.isNone) notes
  rw [heq, List.head?_cons] at hhead
  simp [hnone] at hhead

theorem takeWhile_of_stretch {inner after : List Note} (hinner : NoLine inner)
    (hafter : Opens after) :
    (inner ++ after).takeWhile (·.input?.isNone) = inner := by
  have hpos : ∀ note ∈ inner, note.input?.isNone = true := fun note hnote =>
    Option.isNone_iff_eq_none.2 (hinner note hnote)
  rw [List.takeWhile_append_of_pos hpos]
  cases after with
  | nil => exact List.append_nil inner
  | cons note rest =>
      rw [List.takeWhile_cons_of_neg (by simpa using hafter note rest rfl), List.append_nil]

/-- The entries are those of the stretches. -/
theorem entries_ofNotes (notes : List Note) :
    (ofNotes notes).entries = (stretches notes).map fun s => entryOf s.1 s.2 := by
  induction notes with
  | nil => rfl
  | cons note notes ih =>
      cases hnote : note.input? with
      | none =>
          have hstray : NoLine [note] := List.forall_mem_singleton.2 hnote
          rw [stretches_of_none hnote, ← ih]
          exact congrArg entries (ofNotes_append hstray notes)
      | some input =>
          obtain rfl := Note.eq_begin hnote
          -- The notes about the line make its entry.  What is left is empty or opens with a line,
          -- and so it adds the entries that it makes when noted from the start.
          have hinner := noLine_takeWhile notes
          have hsplit : notes.takeWhile (·.input?.isNone) ++ notes.dropWhile (·.input?.isNone) =
              notes := List.takeWhile_append_dropWhile
          have hlater := ofNotes_append hinner (notes.dropWhile (·.input?.isNone))
          rw [hsplit] at hlater
          calc
            (ofNotes (.begin input :: notes)).entries
              = ((notes.dropWhile (·.input?.isNone)).foldl noted
                  ((Note.begin input :: notes.takeWhile (·.input?.isNone)).foldl noted
                    {})).entries := by
                  rw [← List.foldl_append, List.cons_append, hsplit, ofNotes]
            _ = [entryOf input (notes.takeWhile (·.input?.isNone))] ++ (ofNotes notes).entries := by
                  rw [foldl_noted_begin hinner, entries_foldl_of_opens (opens_dropWhile notes),
                    hlater]
            _ = (stretches (.begin input :: notes)).map fun s => entryOf s.1 s.2 := by
                  rw [ih]
                  rfl

theorem getElem?_stretches (before : List Note) (input : String) (rest : List Note) :
    (stretches (before ++ .begin input :: rest))[(before.filterMap Note.input?).length]? =
      some (input, rest.takeWhile (·.input?.isNone)) := by
  induction before with
  | nil => rfl
  | cons note before ih =>
      cases hnote : note.input? with
      | none =>
          rw [List.filterMap_cons_none hnote, List.cons_append, stretches_of_none hnote, ih]
      | some input' =>
          obtain rfl := Note.eq_begin hnote
          rw [List.filterMap_cons_some hnote, List.length_cons, List.cons_append, stretches,
            List.getElem?_cons_succ, ih]

/-- The stretches are where the lines cut the notes. -/
theorem isStretch_iff {notes : List Note} {i : Nat} {input : String} {inner : List Note} :
    IsStretch notes i input inner ↔ (stretches notes)[i]? = some (input, inner) := by
  constructor
  · rintro ⟨before, after, rfl, rfl, hinner, hafter⟩
    rw [getElem?_stretches, takeWhile_of_stretch hinner hafter]
  · intro h
    induction notes generalizing i with
    | nil => cases h
    | cons note notes ih =>
        cases hnote : note.input? with
        | none =>
            rw [stretches_of_none hnote] at h
            obtain ⟨before, after, rfl, rfl, hinner, hafter⟩ := ih h
            exact ⟨note :: before, after, rfl, by rw [List.filterMap_cons_none hnote], hinner,
              hafter⟩
        | some input' =>
            obtain rfl := Note.eq_begin hnote
            cases i with
            | zero =>
                cases h
                refine ⟨[], notes.dropWhile (·.input?.isNone), ?_, rfl, noLine_takeWhile notes,
                  opens_dropWhile notes⟩
                rw [List.takeWhile_append_dropWhile]
                rfl
            | succ i =>
                obtain ⟨before, after, rfl, rfl, hinner, hafter⟩ := ih h
                exact ⟨.begin input' :: before, after, rfl, rfl, hinner, hafter⟩

/-- An entry is that of the stretch with its number. -/
theorem getElem?_entries_iff {notes : List Note} {i : Nat} {e : Entry} :
    (ofNotes notes).entries[i]? = some e ↔
      ∃ input inner, IsStretch notes i input inner ∧ e = entryOf input inner := by
  rw [entries_ofNotes, List.getElem?_map, Option.map_eq_some_iff]
  constructor
  · rintro ⟨⟨input, inner⟩, hstretch, rfl⟩
    exact ⟨input, inner, isStretch_iff.2 hstretch, rfl⟩
  · rintro ⟨input, inner, hstretch, rfl⟩
    exact ⟨(input, inner), isStretch_iff.1 hstretch, rfl⟩

theorem inputs_stretches (notes : List Note) :
    (stretches notes).map (·.1) = notes.filterMap Note.input? := by
  induction notes with
  | nil => rfl
  | cons note notes ih =>
      cases hnote : note.input? with
      | none => rw [stretches_of_none hnote, ih, List.filterMap_cons_none hnote]
      | some input =>
          obtain rfl := Note.eq_begin hnote
          rw [stretches, List.map_cons, ih, List.filterMap_cons_some hnote]

/-! ## Failures -/

theorem failed_entryOf_iff {input : String} {inner : List Note} :
    (entryOf input inner).failed = true ↔ (inner.filterMap Note.mark?).getLast? = some true := by
  rw [entryOf, List.getLastD_eq_getLast?]
  cases (inner.filterMap Note.mark?).getLast? with
  | none => simp
  | some mark => simp

/-- With a log for errors only, one is due exactly if an entry failed. -/
theorem isDue_errorOnly_iff {t : Transcript} :
    t.isDue .errorOnly = true ↔
      ∃ (i : Nat) (e : Entry), t.entries[i]? = some e ∧ e.failed = true := by
  rw [isDue, decide_eq_true_iff, failures, ← Nat.pos_iff_ne_zero, List.countP_pos_iff]
  simp only [List.mem_iff_getElem?]
  constructor
  · rintro ⟨e, ⟨i, hi⟩, hfailed⟩
    exact ⟨i, e, hi, hfailed⟩
  · rintro ⟨i, e, hi, hfailed⟩
    exact ⟨e, ⟨i, hi⟩, hfailed⟩

theorem isSome_log?_iff {s : Session} {t : Transcript} (h : s.transcript? = some t)
    (settings : TranscriptSettings) (times : Times) :
    (s.log? settings times).isSome = true ↔ t.isDue settings.strategy = true := by
  rw [Session.log?, h]
  dsimp only
  split
  · rename_i hdue
    exact iff_of_true rfl hdue
  · rename_i hdue
    exact iff_of_false Bool.false_ne_true hdue

/-- A transcript that is cut into entries as its notes are cut into stretches. -/
structure Segments (notes : List Note) (t : Transcript) : Prop where
  /-- There is an entry for each line that begins, in order. -/
  inputs_eq : t.entries.map (·.input) = notes.filterMap Note.input?
  /-- An entry has the texts of its stretch in order, and the latest mark. -/
  entry_iff : ∀ i e, t.entries[i]? = some e ↔ ∃ input inner, IsStretch notes i input inner ∧
    e = ⟨input, inner.filterMap Note.text?, (inner.filterMap Note.mark?).getLastD false⟩
  /-- Notes before the first line have no effect. -/
  stray : ∀ stray rest, notes = stray ++ rest → NoLine stray → t = ofNotes rest
  failures_eq : t.failures = (t.entries.filter (·.failed)).length
  /-- After errors only, a session that kept the transcript leaves a log exactly if some line failed
  by its latest mark. -/
  log_iff : ∀ (s : Session) (settings : TranscriptSettings) (times : Times),
    s.transcript? = some t → settings.strategy = .errorOnly →
      ((s.log? settings times).isSome = true ↔ ∃ i input inner, IsStretch notes i input inner ∧
        (inner.filterMap Note.mark?).getLast? = some true)

end VerbNoun.Transcript

namespace VerbNoun

open Transcript

/-- Whatever notes a new transcript takes, and in whatever order, it is cut into entries as they are
cut into stretches. -/
theorem transcript_segments_notes (notes : List Note) : Segments notes (ofNotes notes) where
  inputs_eq := by
    rw [entries_ofNotes, List.map_map, ← inputs_stretches]
    rfl
  entry_iff i e := getElem?_entries_iff
  stray := by
    rintro stray rest rfl hstray
    exact ofNotes_append hstray rest
  failures_eq := List.countP_eq_length_filter
  log_iff s settings times hkept herror := by
    rw [isSome_log?_iff hkept, herror, isDue_errorOnly_iff]
    constructor
    · rintro ⟨i, e, hentry, hfailed⟩
      obtain ⟨input, inner, hstretch, rfl⟩ := getElem?_entries_iff.1 hentry
      exact ⟨i, input, inner, hstretch, failed_entryOf_iff.1 hfailed⟩
    · rintro ⟨i, input, inner, hstretch, hmark⟩
      exact ⟨i, _, getElem?_entries_iff.2 ⟨input, inner, hstretch, rfl⟩, failed_entryOf_iff.2 hmark⟩

/-- A line that is marked twice, with notes before it and another line behind it: what came before
is dropped, and the second mark counts. -/
theorem transcript_segments_notes_two_marks :
    IsStretch [.record "stray", .finish true, .begin "a", .finish true, .record "x", .finish false,
      .begin "b"] 0 "a" [.finish true, .record "x", .finish false] ∧
    (ofNotes [.record "stray", .finish true, .begin "a", .finish true, .record "x", .finish false,
      .begin "b"]).entries[0]? = some ⟨"a", ["x"], false⟩ := by
  have hstretch : IsStretch [.record "stray", .finish true, .begin "a", .finish true, .record "x",
      .finish false, .begin "b"] 0 "a" [.finish true, .record "x", .finish false] := by
    refine ⟨[.record "stray", .finish true], [.begin "b"], rfl, rfl, ?_, ?_⟩
    · simp [NoLine, Note.input?]
    · simp [Opens, Note.input?]
  exact ⟨hstretch, ((transcript_segments_notes _).entry_iff 0 _).2 ⟨_, _, hstretch, rfl⟩⟩

end VerbNoun
