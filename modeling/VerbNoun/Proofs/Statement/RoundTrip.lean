import VerbNoun.Proofs.Statement.Completeness
import VerbNoun.Proofs.Statement.Printing
set_option autoImplicit false

/-!
# RoundTrip: reading what was written (SPEC §4.1)

Where arguments are written apart, the readers cut a text where the writer joined it: behind
each part stands a character that ends it.  So a well-formed statement is read back from every
way of writing it, and no other statement is ever read.
-/

namespace VerbNoun

open Lang Number Reader Text

/-! ## Arguments -/

theorem quotedString_of_written {cs : List Char} {text : String} (h : Written.Quoted cs text) :
    Grammar.QuotedString cs text := by
  cases h with
  | @mk q _ hq h =>
      exact quotedString_iff.2 ⟨q, text.toList, hq, h, rfl, String.ofList_toList.symm⟩

theorem argument_of_written {cs : List Char} {a : Statement} (ha : a.IsArgument)
    (h : Written.Argument cs a) : Grammar.Argument cs a := by
  cases h with
  | word text => exact .word ha
  | flag name => exact .flag (.mk ha)
  | var name => exact .var (.mk ha)
  | quoted h => exact .quoted (quotedString_of_written h)
  | number h => exact .number h

/-- An argument is read as it is in front of a character that ends it. -/
theorem argument_append {cs rest : List Char} {a : Statement} (h : Grammar.Argument cs a)
    (hrest : EndsPart rest) : argument (cs ++ rest) = some (a, rest) := by
  cases h with
  | word h => exact argument_of_identifier (identifier_of_stops h hrest.stops_identifier)
  | flag h =>
      cases h with
      | mk h => exact argument_of_flag (identifier_of_stops h hrest.stops_identifier)
  | var h =>
      cases h with
      | mk h => exact argument_of_variable (identifier_of_stops h hrest.stops_identifier)
  | quoted h =>
      have hread := quotedText_append h rest
      obtain ⟨q, body, hq, -, rfl, -⟩ := quotedString_iff.1 h
      exact argument_of_quoted hq hread
  | number h =>
      exact argument_of_number h.literal
        (signedNumber_append h hrest.stops_digit hrest.stops_point)

theorem endsPart_of_apart {α : Type} {L : Lang α} {cs rest : List Char} {as : List α}
    (h : Star (Written.Apart L) cs as) (hrest : EndsCommand rest) : EndsPart (cs ++ rest) := by
  cases h with
  | nil => exact hrest.endsPart
  | cons h _ =>
      cases h with
      | @mk blanks cs _ hblanks hne h =>
          cases blanks with
          | nil => exact absurd rfl hne
          | cons b bs =>
              intro c ds heq
              rw [← (List.cons.inj heq).1]
              exact .inl (hblanks b List.mem_cons_self)

/-- Arguments that are written apart are read one by one. -/
theorem arguments_append {cs rest : List Char} {args : List Statement}
    (h : Star (Written.Apart Written.Argument) cs args) (hargs : ∀ a ∈ args, a.IsArgument)
    (hrest : EndsCommand rest) : argument.spaced.many (cs ++ rest) = (args, rest) := by
  induction h with
  | nil => exact many_of_none hrest.argument_eq_none
  | @cons cs tail a args h htail ih =>
      have hends := endsPart_of_apart htail hrest
      have hread : argument.spaced (cs ++ tail ++ rest) = some (a, tail ++ rest) := by
        cases h with
        | mk hblanks _ h =>
            have ha := argument_of_written (hargs a List.mem_cons_self) h
            rw [List.append_assoc, List.append_assoc, spaced, skipBlanks_append hblanks,
              skipBlanks_part (startsPart_of_argument ha), argument_append ha hends]
      rw [many_of_some argument_consumes hread,
        ih fun b hb => hargs b (List.mem_cons_of_mem _ hb)]

theorem call_append {cs rest : List Char} {c : Call} (h : Written.Command cs c)
    (hc : c.WellFormed) (hrest : EndsCommand rest) : call (cs ++ rest) = some (c, rest) := by
  cases h with
  | mk name h =>
      have hstops := (endsPart_of_apart h hrest).stops_identifier
      rw [List.append_assoc, call, identifier_of_stops hc.1 hstops]
      simp only [arguments_append h hc.2 hrest]

/-! ## Statements -/

theorem startsPart_of_written {cs : List Char} {c : Call} (h : Written.Command cs c)
    (hc : c.WellFormed) : ∃ d ds, cs = d :: ds ∧ startsIdentifier d = true := by
  cases h with
  | mk name h =>
      obtain ⟨d, ds, hds, hd⟩ := exists_cons_of_identifier hc.1
      exact ⟨d, _, by rw [hds, List.cons_append], hd⟩

theorem endsCommand_of_stages {α : Type} {L : Lang α} {cs rest : List Char} {as : List α}
    (h : Star (Marked '|' L) cs as) (hrest : Blanks rest) : EndsCommand (cs ++ rest) := by
  cases h with
  | nil => exact endsCommand_of_blanks hrest
  | cons h _ =>
      rw [List.append_assoc]
      exact endsCommand_of_bar h

theorem stages_append {cs rest : List Char} {calls : List Call}
    (h : Star (Marked '|' Written.Command) cs calls) (hcalls : ∀ c ∈ calls, c.WellFormed)
    (hrest : Blanks rest) : stage.many (cs ++ rest) = (calls, rest) := by
  induction h with
  | nil => exact many_of_none (marked_of_blanks hrest)
  | @cons cs tail c calls h htail ih =>
      have hends := endsCommand_of_stages htail hrest
      have hc := hcalls c List.mem_cons_self
      have hread : stage (cs ++ tail ++ rest) = some (c, tail ++ rest) := by
        cases h with
        | mk hbefore hafter h =>
            obtain ⟨d, ds, hds, hd⟩ := startsPart_of_written h hc
            have hmark : isBlank '|' = false := by decide
            rw [List.append_assoc, List.append_assoc, List.cons_append, List.append_assoc, stage,
              marked_append hmark hbefore hafter, skipBlanks_part ⟨d, ds, hds, .inl hd⟩,
              call_append h hc hends]
      rw [many_of_some stage_consumes hread,
        ih fun b hb => hcalls b (List.mem_cons_of_mem _ hb)]

theorem members_of_written {cs : List Char} {members : List String}
    (h : Star (Marked '.' Written.Name) cs members) (hmembers : ∀ m ∈ members, IsIdentifier m) :
    Star Grammar.Member cs members := by
  induction h with
  | nil => exact .nil
  | @cons cs tail m members h _ ih =>
      refine .cons ?_ (ih fun b hb => hmembers b (List.mem_cons_of_mem _ hb))
      cases h with
      | mk hbefore hafter h =>
          cases h
          exact .mk hbefore hafter (hmembers m List.mem_cons_self)

theorem pipeChain_append {cs tail rest : List Char} {first : Call} {calls : List Call}
    (hfirst : Written.Command cs first) (h : Star (Marked '|' Written.Command) tail calls)
    (hcalls : ∀ c ∈ first :: calls, c.WellFormed) (hne : calls ≠ []) (hrest : Blanks rest) :
    pipeChain (cs ++ tail ++ rest) = some (.pipe (first :: calls), rest) := by
  have hread := call_append hfirst (hcalls first List.mem_cons_self)
    (endsCommand_of_stages h hrest)
  have hmany : (call.marked '|').many (tail ++ rest) = (calls, rest) :=
    stages_append h (fun c hc => hcalls c (List.mem_cons_of_mem _ hc)) hrest
  rw [List.append_assoc, pipeChain, hread]
  cases calls with
  | nil => exact absurd rfl hne
  | cons second calls => simp only [hmany]

/-- An operand is read as it is in front of blanks. -/
theorem operand_append {cs rest : List Char} {s : Statement} (h : Written.Operand cs s)
    (hs : s.IsOperand) (hrest : Blanks rest) : operand (cs ++ rest) = some (s, rest) := by
  cases h with
  | var name => exact operand_variable_append (.mk hs) hrest
  | quoted h => exact operand_quoted_append (quotedString_of_written h) rest
  | number h => exact operand_number_append h hrest
  | command h =>
      exact operand_of_call_blanks (call_append h hs (endsCommand_of_blanks hrest)) hrest
  | pipe hfirst h =>
      obtain ⟨hlength, hcalls⟩ := hs
      refine operand_of_pipeChain (pipeChain_append hfirst h hcalls ?_ hrest)
      rintro rfl
      simp at hlength
  | reflect name h =>
      obtain ⟨hname, hne, hmembers⟩ := hs
      exact operand_reflection_append (.mk (.mk hname) (members_of_written h hmembers) hne) hrest

theorem operand_of_written {cs : List Char} {s : Statement} (h : Written.Operand cs s)
    (hs : s.IsOperand) : Grammar.Operand cs s := by
  obtain ⟨front, hcs, hfront⟩ := operand_sound _ _ _ (operand_append h hs blanks_nil)
  rw [List.append_nil, List.append_nil] at hcs
  exact hcs ▸ hfront

/-- A well-formed statement is read from any line it is written on. -/
theorem parse_of_written {line : String} {s : Statement} (hs : s.WellFormed)
    (h : Written.Line line.toList s) : Statement.parse line = .ok s := by
  generalize hcs : line.toList = cs at h
  cases h with
  | @operand before cs after _ hbefore h hafter =>
      have hoperand : s.IsOperand := by
        cases s with
        | assign name value => cases h
        | _ => exact hs
      have hgrammar := operand_of_written h hoperand
      refine parse_of_statement hcs hbefore (startsPart_of_operand hgrammar) ?_ hafter
      rw [statement, orElse_of_none (assignment_operand_eq_none hgrammar hafter),
        operand_append h hoperand hafter]
  | assign name hbefore h hafter =>
      obtain ⟨hname, hvalue⟩ := hs
      cases h with
      | mk hbefore' hafter' h =>
          have hskip := skipBlanks_part (startsPart_of_operand (operand_of_written h hvalue))
          refine parse_of_statement hcs hbefore ⟨'$', _, rfl, .inr (.inl rfl)⟩ ?_ hafter
          have hread := statement_of_assignment (.mk hname) hbefore' hafter' (hskip _)
            (operand_append h hvalue hafter)
          simpa using hread

/-- Reading gives exactly the trees that can be written: what is read is well formed, a
well-formed statement is read back from every way of writing it, and so a statement is read
from some line if and only if it is well formed and its numbers have a notation. -/
theorem parse_inverts_writing :
    (∀ line s, Statement.parse line = .ok s → s.WellFormed) ∧
    (∀ line s, s.WellFormed → Written.Line line.toList s → Statement.parse line = .ok s) ∧
    (∀ s, (∃ line, Statement.parse line = .ok s) ↔
      s.WellFormed ∧ ∃ cs, Written.Line cs s) := by
  refine ⟨?_, fun line s hs h => parse_of_written hs h, fun s => ⟨?_, ?_⟩⟩
  · intro line s h
    exact (wellFormed_of_line (line_of_parse h)).1
  · rintro ⟨line, h⟩
    exact wellFormed_of_line (line_of_parse h)
  · rintro ⟨hs, cs, h⟩
    refine ⟨String.ofList cs, parse_of_written hs ?_⟩
    rwa [String.toList_ofList]

/-- A text with an apostrophe in it is written in double quotes. -/
theorem parse_written_apostrophe :
    (Statement.command ⟨"say", [.quoted "it's"]⟩).WellFormed ∧
    Written.Line "say \"it's\" ".toList (.command ⟨"say", [.quoted "it's"]⟩) ∧
    Statement.parse "say \"it's\" " = .ok (.command ⟨"say", [.quoted "it's"]⟩) := by
  have hletters : isLetter 's' = true ∧ isLetter 'a' = true ∧ isLetter 'y' = true := by
    decide +kernel
  have hname : IsIdentifier "say" := by
    refine @Grammar.Identifier.mk 's' ['a', 'y'] (.inl hletters.1) ?_
    intro c hc
    rcases List.mem_cons.1 hc with rfl | hc
    · exact .inl hletters.2.1
    · rw [List.mem_singleton.1 hc]
      exact .inl hletters.2.2
  have hs : (Statement.command ⟨"say", [.quoted "it's"]⟩).WellFormed := by
    refine ⟨hname, ?_⟩
    intro a ha
    rw [List.mem_singleton.1 ha]
    exact fun h => absurd h.1 (by decide)
  have hquoted : Written.Quoted "\"it's\"".toList "it's" :=
    @Written.Quoted.mk '"' "it's" (by decide) (by decide)
  have hline : Written.Line "say \"it's\" ".toList (.command ⟨"say", [.quoted "it's"]⟩) :=
    .operand blanks_nil
      (.command (.mk "say" (.cons (.mk blanks_space (by simp) (.quoted hquoted)) .nil)))
      blanks_space
  exact ⟨hs, hline, parse_inverts_writing.2.1 _ _ hs hline⟩

end VerbNoun
