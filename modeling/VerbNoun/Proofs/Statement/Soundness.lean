import VerbNoun.Proofs.Statement.Lexeme
set_option autoImplicit false

/-!
# Soundness: what is read is a sentence (SPEC §4.1)

Every reader of a line is sound for the production of its name, so a line that is read holds a
statement of the grammar.  Each part takes a character at least, which is why the repeated
readers go on until there is no further part.
-/

namespace VerbNoun

open Lang Number Reader Text

/-! ## First characters -/

/-- What an argument or a statement may start with. -/
def StartsPart (c : Char) : Prop :=
  startsIdentifier c = true ∨ c = '$' ∨ isQuote c = true ∨ StartsNumber c

theorem StartsPart.isBlank_eq_false {c : Char} (h : StartsPart c) : isBlank c = false := by
  rcases h with h | rfl | h | h
  · exact isBlank_of_continuesIdentifier (continuesIdentifier_of_starts h)
  · decide
  · rcases isQuote_iff.1 h with rfl | rfl <;> decide
  · exact h.isBlank_eq_false

theorem not_startsPart_bar : ¬ StartsPart '|' := by
  unfold StartsPart StartsNumber
  decide

theorem startsPart_of_variable {cs : List Char} {name : String} (h : Grammar.Variable cs name) :
    ∃ c ds, cs = c :: ds ∧ StartsPart c := by
  cases h with
  | mk h => exact ⟨'$', _, rfl, .inr (.inl rfl)⟩

theorem startsPart_of_quoted {cs : List Char} {text : String}
    (h : Grammar.QuotedString cs text) : ∃ c ds, cs = c :: ds ∧ StartsPart c := by
  obtain ⟨q, body, hq, -, rfl, -⟩ := quotedString_iff.1 h
  exact ⟨q, _, rfl, .inr (.inr (.inl hq))⟩

theorem startsPart_of_number {cs : List Char} {x : Double} (h : Grammar.Number cs x) :
    ∃ c ds, cs = c :: ds ∧ StartsPart c := by
  obtain ⟨c, ds, rfl, hc⟩ := exists_cons_of_numberLiteral h.literal
  exact ⟨c, ds, rfl, .inr (.inr (.inr hc))⟩

theorem startsPart_of_argument {cs : List Char} {a : Statement} (h : Grammar.Argument cs a) :
    ∃ c ds, cs = c :: ds ∧ StartsPart c := by
  cases h with
  | word h =>
      obtain ⟨c, ds, rfl, hc⟩ := exists_cons_of_identifier h
      exact ⟨c, ds, rfl, .inl hc⟩
  | flag h =>
      cases h with
      | mk h => exact ⟨'-', _, rfl, .inr (.inr (.inr (.inl rfl)))⟩
  | var h => exact startsPart_of_variable h
  | quoted h => exact startsPart_of_quoted h
  | number h => exact startsPart_of_number h

theorem exists_cons_of_command {cs : List Char} {command : Call}
    (h : Grammar.Command cs command) : ∃ c ds, cs = c :: ds ∧ startsIdentifier c = true := by
  cases h with
  | mk hname _ =>
      obtain ⟨c, ds, rfl, hc⟩ := exists_cons_of_identifier hname
      exact ⟨c, _, rfl, hc⟩

theorem startsPart_of_operand {cs : List Char} {s : Statement} (h : Grammar.Operand cs s) :
    ∃ c ds, cs = c :: ds ∧ StartsPart c := by
  cases h with
  | pipe h =>
      cases h with
      | mk hfirst _ _ =>
          obtain ⟨c, ds, rfl, hc⟩ := exists_cons_of_command hfirst
          exact ⟨c, _, rfl, .inl hc⟩
  | reflection h =>
      cases h with
      | mk hname _ _ =>
          obtain ⟨c, ds, rfl, hc⟩ := startsPart_of_variable hname
          exact ⟨c, _, rfl, hc⟩
  | command h =>
      obtain ⟨c, ds, rfl, hc⟩ := exists_cons_of_command h
      exact ⟨c, ds, rfl, .inl hc⟩
  | var h => exact startsPart_of_variable h
  | quoted h => exact startsPart_of_quoted h
  | number h => exact startsPart_of_number h

theorem startsPart_of_sentence {cs : List Char} {s : Statement} (h : Grammar.Sentence cs s) :
    ∃ c ds, cs = c :: ds ∧ StartsPart c := by
  cases h with
  | assignment h =>
      cases h with
      | mk hname _ =>
          obtain ⟨c, ds, rfl, hc⟩ := startsPart_of_variable hname
          exact ⟨c, _, rfl, hc⟩
  | operand h => exact startsPart_of_operand h

/-- There are no blanks to skip in front of a part. -/
theorem skipBlanks_part {cs : List Char} (h : ∃ c ds, cs = c :: ds ∧ StartsPart c)
    (rest : List Char) : skipBlanks (cs ++ rest) = cs ++ rest := by
  obtain ⟨c, ds, rfl, hc⟩ := h
  exact skipBlanks_cons hc.isBlank_eq_false _

/-! ## Arguments and commands -/

theorem variableName_sound : Sound Grammar.Variable variableName :=
  after_sound identifier_sound '$'

theorem flagName_sound : Sound Grammar.ParameterFlag flagName :=
  after_sound identifier_sound '-'

theorem argument_sound : Sound Grammar.Argument argument :=
  orElse_sound
    (orElse_sound
      (orElse_sound
        (orElse_sound (map_sound identifier_sound fun _ _ h => .word h)
          (map_sound flagName_sound fun _ _ h => .flag h))
        (map_sound variableName_sound fun _ _ h => .var h))
      (map_sound quotedText_sound fun _ _ h => .quoted h))
    (map_sound signedNumber_sound fun _ _ h => .number h)

/-- Where no argument may start none is read. -/
theorem argument_eq_none {cs : List Char} (h : ∀ c ds, cs = c :: ds → ¬ StartsPart c) :
    argument cs = none := by
  cases hread : argument cs with
  | none => rfl
  | some result =>
      obtain ⟨front, hfront, ha⟩ := argument_sound cs result.1 result.2 hread
      obtain ⟨c, ds, rfl, hc⟩ := startsPart_of_argument ha
      exact absurd hc (h c _ hfront)

theorem argument_consumes : Consumes argument.spaced := by
  refine consumes_of_sound (spaced_sound argument_sound) (fun cs a h => ?_)
  cases h with
  | mk _ h =>
      obtain ⟨c, ds, rfl, -⟩ := startsPart_of_argument h
      simp

theorem call_sound : Sound Grammar.Command call := by
  intro cs c rest h
  simp only [call] at h
  split at h
  · simp at h
  · rename_i name rest' hname
    obtain ⟨rfl, rfl⟩ := Prod.mk.inj (Option.some.inj h)
    obtain ⟨front, hfront, hn⟩ := identifier_sound _ _ _ hname
    obtain ⟨back, hback, hargs⟩ := many_sound (spaced_sound argument_sound) rest'
    refine ⟨front ++ back, ?_, .mk hn hargs⟩
    rw [List.append_assoc, ← hback]
    exact hfront

theorem marked_ne_nil {α : Type} {mark : Char} {L : Lang α} {cs : List Char} {a : α}
    (h : Marked mark L cs a) : cs ≠ [] := by
  cases h
  simp

/-- A further command of a chain, with its bar. -/
abbrev stage : Reader Call := call.marked '|'

theorem stage_sound : Sound Grammar.Stage stage := marked_sound call_sound '|'

theorem stage_consumes : Consumes stage :=
  consumes_of_sound stage_sound (fun _ _ => marked_ne_nil)

/-- A member of a reflection, with its point. -/
abbrev member : Reader String := identifier.marked '.'

theorem member_sound : Sound Grammar.Member member := marked_sound identifier_sound '.'

theorem member_consumes : Consumes member :=
  consumes_of_sound member_sound (fun _ _ => marked_ne_nil)

/-! ## Statements -/

theorem pipeChain_sound : Sound Grammar.PipeChain pipeChain := by
  intro cs s rest h
  simp only [pipeChain] at h
  split at h
  · simp at h
  · rename_i first rest' hfirst
    split at h
    · simp at h
    · rename_i calls rest'' hne hcalls
      obtain ⟨rfl, rfl⟩ := Prod.mk.inj (Option.some.inj h)
      obtain ⟨front, hfront, hf⟩ := call_sound _ _ _ hfirst
      obtain ⟨back, hback, hc⟩ := many_sound stage_sound rest'
      rw [hcalls] at hback hc
      refine ⟨front ++ back, ?_, .mk hf hc ?_⟩
      · rw [List.append_assoc, ← hback]
        exact hfront
      · exact hne

theorem reflection_sound : Sound Grammar.Reflection reflection := by
  intro cs s rest h
  simp only [reflection] at h
  split at h
  · simp at h
  · rename_i name rest' hname
    split at h
    · simp at h
    · rename_i members rest'' hne hmembers
      obtain ⟨rfl, rfl⟩ := Prod.mk.inj (Option.some.inj h)
      obtain ⟨front, hfront, hn⟩ := variableName_sound _ _ _ hname
      obtain ⟨back, hback, hm⟩ := many_sound member_sound rest'
      rw [hmembers] at hback hm
      refine ⟨front ++ back, ?_, .mk hn hm ?_⟩
      · rw [List.append_assoc, ← hback]
        exact hfront
      · exact hne

theorem operand_sound : Sound Grammar.Operand operand :=
  orElse_sound
    (orElse_sound
      (orElse_sound
        (orElse_sound
          (orElse_sound (pipeChain_sound.mono fun _ _ h => .pipe h)
            (reflection_sound.mono fun _ _ h => .reflection h))
          (map_sound call_sound fun _ _ h => .command h))
        (map_sound variableName_sound fun _ _ h => .var h))
      (map_sound quotedText_sound fun _ _ h => .quoted h))
    (map_sound signedNumber_sound fun _ _ h => .number h)

theorem assignment_sound : Sound Grammar.Assignment assignment := by
  intro cs s rest h
  simp only [assignment] at h
  split at h
  · simp at h
  · rename_i name rest' hname
    obtain ⟨front, hfront, hn⟩ := variableName_sound _ _ _ hname
    obtain ⟨⟨value, rest''⟩, hvalue, heq⟩ := Option.map_eq_some_iff.1 h
    obtain ⟨rfl, rfl⟩ := Prod.mk.inj heq
    obtain ⟨back, hback, hv⟩ := marked_sound operand_sound '=' _ _ _ hvalue
    refine ⟨front ++ back, ?_, .mk hn hv⟩
    rw [List.append_assoc, ← hback]
    exact hfront

theorem statement_sound : Sound Grammar.Sentence statement :=
  orElse_sound (assignment_sound.mono fun _ _ h => .assignment h)
    (operand_sound.mono fun _ _ h => .operand h)

/-- A line that is read holds a statement of the grammar. -/
theorem line_of_parse {line : String} {s : Statement} (h : Statement.parse line = .ok s) :
    Grammar.Line line.toList s := by
  simp only [Statement.parse] at h
  split at h
  · simp at h
  · split at h
    · simp at h
    · rename_i result rest hread
      split at h
      · rename_i hrest
        obtain rfl := Except.ok.inj h
        obtain ⟨before, hbefore, hline⟩ := exists_append_skipBlanks line.toList
        obtain ⟨front, hfront, hs⟩ := statement_sound _ _ _ hread
        rw [hfront, ← List.append_assoc] at hline
        rw [hline]
        exact .mk hbefore hs (skipBlanks_eq_nil_iff.1 hrest)
      · simp at h

end VerbNoun
