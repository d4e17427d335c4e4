import VerbNoun.Proofs.Statement.LongestMatch
set_option autoImplicit false

/-!
# Surroundings: blanks around a line (SPEC §4.1)

Blanks in front of a statement are skipped before it is read.  Blanks behind it are seen by every
reader that goes as far as it can, by the search for the end of a text in quotes, and by every
attempt to read one argument, stage or member more.  None of them takes a blank for something to
read, so each reads what it would without them and leaves them where they are.
-/

namespace VerbNoun

open Lang Number Reader Text

namespace Reader

variable {α β : Type} {r s : Reader α}

/-- With blanks behind a text the reader reads what it reads of the text alone, and leaves the
blanks. -/
def LeavesBlanks (r : Reader α) : Prop :=
  ∀ cs blanks, Blanks blanks →
    r (cs ++ blanks) = (r cs).map fun result => (result.1, result.2 ++ blanks)

/-! ## Combined readers -/

/-- A reader that reads nothing of blanks need only be looked at on other texts. -/
theorem leavesBlanks_of_cons (hblank : ∀ blanks, Blanks blanks → r blanks = none)
    (hcons : ∀ c cs blanks, Blanks blanks →
      r (c :: cs ++ blanks) = (r (c :: cs)).map fun result => (result.1, result.2 ++ blanks)) :
    LeavesBlanks r := by
  intro cs blanks hblanks
  cases cs with
  | nil => rw [List.nil_append, hblank blanks hblanks, hblank [] blanks_nil, Option.map_none]
  | cons c cs => exact hcons c cs blanks hblanks

theorem LeavesBlanks.append_of_none (h : LeavesBlanks r) {cs blanks : List Char}
    (hblanks : Blanks blanks) (hread : r cs = none) : r (cs ++ blanks) = none := by
  rw [h cs blanks hblanks, hread, Option.map_none]

theorem LeavesBlanks.append_of_some (h : LeavesBlanks r) {cs blanks : List Char}
    (hblanks : Blanks blanks) {result : α × List Char} (hread : r cs = some result) :
    r (cs ++ blanks) = some (result.1, result.2 ++ blanks) := by
  rw [h cs blanks hblanks, hread, Option.map_some]

theorem LeavesBlanks.map (h : LeavesBlanks r) (g : α → β) : LeavesBlanks (r.map g) := by
  intro cs blanks hblanks
  cases hread : r cs with
  | none =>
      rw [map_of_none (h.append_of_none hblanks hread), map_of_none hread, Option.map_none]
  | some result =>
      rw [map_of_some (h.append_of_some hblanks hread), map_of_some hread, Option.map_some]

theorem LeavesBlanks.orElse (hr : LeavesBlanks r) (hs : LeavesBlanks s) :
    LeavesBlanks (r.orElse s) := by
  intro cs blanks hblanks
  cases hread : r cs with
  | none =>
      rw [orElse_of_none (hr.append_of_none hblanks hread), orElse_of_none hread,
        hs cs blanks hblanks]
  | some result =>
      rw [orElse_of_some (hr.append_of_some hblanks hread), orElse_of_some hread, Option.map_some]

/-- A choice leaves blanks if each of its readers does. -/
theorem first_leavesBlanks {rs : List (Reader α)} (h : ∀ r ∈ rs, LeavesBlanks r) :
    LeavesBlanks (first rs) := by
  induction rs with
  | nil =>
      intro cs blanks _
      rw [first, Option.map_none]
  | cons r rs ih =>
      obtain ⟨hr, hrs⟩ := List.forall_mem_cons.1 h
      exact hr.orElse (ih hrs)

theorem LeavesBlanks.after (h : LeavesBlanks r) {mark : Char} (hmark : isBlank mark = false) :
    LeavesBlanks (r.after mark) := by
  refine leavesBlanks_of_cons (fun blanks hblanks => ?_) (fun c cs blanks hblanks => ?_)
  · cases blanks with
    | nil => rfl
    | cons c cs =>
        refine after_of_ne (fun hc => ?_) cs
        rw [← hc, hblanks c List.mem_cons_self] at hmark
        cases hmark
  · by_cases hc : c = mark
    · rw [hc, List.cons_append, after_mark, after_mark, h cs blanks hblanks]
    · rw [List.cons_append, after_of_ne hc, after_of_ne hc, Option.map_none]

theorem LeavesBlanks.spaced (h : LeavesBlanks r) (hr : Consumes r) : LeavesBlanks r.spaced := by
  intro cs blanks hblanks
  by_cases hcs : skipBlanks cs = []
  · rw [Reader.spaced, Reader.spaced, skipBlanks_append (skipBlanks_eq_nil_iff.1 hcs), hcs,
      skipBlanks_of_blanks hblanks, hr.nil, Option.map_none]
  · rw [Reader.spaced, Reader.spaced, skipBlanks_append_of_ne_nil hcs, h _ blanks hblanks]

theorem LeavesBlanks.marked (h : LeavesBlanks r) (hr : Consumes r) {mark : Char}
    (hmark : isBlank mark = false) : LeavesBlanks (r.marked mark) :=
  ((h.spaced hr).after hmark).spaced (hr.spaced.after mark)

/-- The induction is on the length of the text, which each reading makes shorter. -/
theorem LeavesBlanks.many_append (h : LeavesBlanks r) (hr : Consumes r) {blanks : List Char}
    (hblanks : Blanks blanks) (cs : List Char) :
    r.many (cs ++ blanks) = ((r.many cs).1, (r.many cs).2 ++ blanks) := by
  induction hn : cs.length using Nat.strongRecOn generalizing cs with
  | ind n ih =>
      cases hread : r cs with
      | none => rw [many_of_none (h.append_of_none hblanks hread), many_of_none hread]
      | some result =>
          have hlt := hr cs result.1 result.2 hread
          rw [many_of_some hr (h.append_of_some hblanks hread), many_of_some hr hread,
            ih result.2.length (by omega) result.2 rfl]

theorem LeavesBlanks.many1 (h : LeavesBlanks r) (hr : Consumes r) (g : List α → β) :
    LeavesBlanks (r.many1 g) := by
  intro cs blanks hblanks
  cases hread : r cs with
  | none =>
      rw [many1_of_none (h.append_of_none hblanks hread), many1_of_none hread, Option.map_none]
  | some result =>
      rw [many1_of_some hr (h.append_of_some hblanks hread), many1_of_some hr hread,
        h.many_append hr hblanks, Option.map_some]

theorem LeavesBlanks.andThen {k : α → Reader β} (hr : LeavesBlanks r)
    (hk : ∀ a, LeavesBlanks (k a)) : LeavesBlanks (r.andThen k) := by
  intro cs blanks hblanks
  unfold Reader.andThen
  rw [hr cs blanks hblanks]
  cases r cs with
  | none => rfl
  | some part => exact hk part.1 part.2 blanks hblanks

end Reader

/-! ## The smallest parts -/

theorem Start.isBlank_eq_false {k : Start} {c : Char} (h : k.Includes c) : isBlank c = false := by
  cases k with
  | letter => exact isBlank_of_continuesIdentifier (continuesIdentifier_of_starts h)
  | dollar =>
      rw [show c = '$' from h]
      decide
  | quote =>
      rcases isQuote_iff.1 h with rfl | rfl <;> decide
  | number => exact StartsNumber.isBlank_eq_false h

/-- No sort of statement or argument starts with a blank. -/
theorem Begins.eq_none_of_blanks {α : Type} {k : Start} {r : Reader α} (h : Begins k r)
    {blanks : List Char} (hblanks : Blanks blanks) : r blanks = none := by
  cases hread : r blanks with
  | none => rfl
  | some result =>
      obtain ⟨c, ds, rfl, hc⟩ := h blanks result hread
      have hblank := hblanks c List.mem_cons_self
      rw [Start.isBlank_eq_false hc] at hblank
      cases hblank

/-- A run of characters without blanks ends in front of blanks. -/
theorem run_append_blanks {p : Char → Bool} (hp : ∀ c, isBlank c = true → p c = false)
    {blanks : List Char} (hblanks : Blanks blanks) (cs : List Char) :
    (cs ++ blanks).takeWhile p = cs.takeWhile p ∧
      (cs ++ blanks).dropWhile p = cs.dropWhile p ++ blanks := by
  induction cs with
  | nil =>
      have hstops : Stops p blanks := by
        intro c rest heq
        exact hp c (hblanks c (by simp [heq]))
      exact ⟨takeWhile_of_stops hstops, dropWhile_of_stops hstops⟩
  | cons c cs ih =>
      cases hc : p c with
      | true =>
          simp only [List.cons_append, List.takeWhile_cons, List.dropWhile_cons, hc, if_true, ih,
            and_self]
      | false => simp [hc]

theorem isDigit_of_isBlank {c : Char} (h : isBlank c = true) : c.isDigit = false := by
  cases hc : c.isDigit with
  | false => rfl
  | true =>
      rw [isBlank_of_continuesIdentifier (continuesIdentifier_of_isDigit hc)] at h
      cases h

theorem identifier_leavesBlanks : LeavesBlanks identifier := by
  refine leavesBlanks_of_cons (fun _ => identifier_begins.eq_none_of_blanks) ?_
  intro c cs blanks hblanks
  obtain ⟨htake, hdrop⟩ :=
    run_append_blanks (fun _ => continuesIdentifier_of_isBlank) hblanks cs
  cases hc : startsIdentifier c with
  | false =>
      rw [List.cons_append, identifier_cons_eq_none hc, identifier_cons_eq_none hc, Option.map_none]
  | true => simp only [List.cons_append, identifier, hc, if_true, htake, hdrop, Option.map_some]

theorem variableName_leavesBlanks : LeavesBlanks variableName :=
  identifier_leavesBlanks.after (by decide)

theorem flagName_leavesBlanks : LeavesBlanks flagName :=
  identifier_leavesBlanks.after (by decide)

/-- A quote that is not closed in the text is not closed by blanks. -/
theorem quotedText_leavesBlanks : LeavesBlanks quotedText := by
  refine leavesBlanks_of_cons (fun _ => quotedText_begins.eq_none_of_blanks) ?_
  intro q cs blanks hblanks
  cases hq : isQuote q with
  | false =>
      rw [List.cons_append, quotedText_cons_eq_none hq, quotedText_cons_eq_none hq, Option.map_none]
  | true =>
      obtain ⟨hdrop, hmore⟩ | ⟨hdrop, hmore, htake⟩ := run_append (· ≠ q) cs blanks
      · have hopen : blanks.dropWhile (· ≠ q) = [] := by
          have hne : ∀ c ∈ blanks, c ≠ q := by
            intro c hc heq
            have hblank := hblanks c hc
            rw [heq, Start.isBlank_eq_false (k := .quote) hq] at hblank
            cases hblank
          rw [← List.append_nil blanks, List.dropWhile_append_of_pos
            fun c hc => decide_eq_true (hne c hc), List.dropWhile_nil]
        simp only [List.cons_append, quotedText, hq, if_true, hmore, hopen, hdrop, Option.map_none]
      · cases hclose : cs.dropWhile (· ≠ q) with
        | nil => exact absurd hclose hdrop
        | cons d rest =>
            simp only [List.cons_append, quotedText, hq, if_true, hmore, htake, hclose,
              Option.map_some]

/-- A point at the end of the text is left, with blanks behind it or not. -/
theorem numerals_leavesBlanks : LeavesBlanks numerals := by
  intro cs blanks hblanks
  obtain ⟨htake, hdrop⟩ := run_append_blanks (fun _ => isDigit_of_isBlank) hblanks cs
  by_cases hpoint : ∃ d tail, cs.dropWhile Char.isDigit = '.' :: d :: tail ∧ d.isDigit = true
  · obtain ⟨d, tail, hrest, hd⟩ := hpoint
    obtain ⟨htake', hdrop'⟩ := run_append_blanks (fun _ => isDigit_of_isBlank) hblanks tail
    rw [hrest, List.cons_append, List.cons_append] at hdrop
    rw [numerals_of_point hdrop hd, numerals_of_point hrest hd, htake, htake', hdrop',
      Option.map_some]
  · have hshorter : ∀ d tail, cs.dropWhile Char.isDigit = '.' :: d :: tail →
        d.isDigit = false := by
      intro d tail hrest
      cases hd : d.isDigit with
      | false => rfl
      | true => exact absurd ⟨d, tail, hrest, hd⟩ hpoint
    have hlonger : ∀ d tail, cs.dropWhile Char.isDigit ++ blanks = '.' :: d :: tail →
        d.isDigit = false := by
      intro d tail heq
      rcases hrest : cs.dropWhile Char.isDigit with _ | ⟨e, _ | ⟨d', tail'⟩⟩
      · rw [hrest, List.nil_append] at heq
        have hblank := hblanks '.' (by simp [heq])
        exact absurd hblank (by decide)
      · rw [hrest, List.singleton_append] at heq
        exact isDigit_of_isBlank (hblanks d (by simp [(List.cons.inj heq).2]))
      · rw [hrest, List.cons_append, List.cons_append] at heq
        obtain ⟨rfl, heq'⟩ := List.cons.inj heq
        obtain ⟨rfl, -⟩ := List.cons.inj heq'
        exact hshorter _ _ hrest
    rw [numerals_of_whole hdrop hlonger, numerals_of_whole rfl hshorter, htake]
    split
    · rw [Option.map_none]
    · rw [Option.map_some]

theorem signedNumber_leavesBlanks : LeavesBlanks signedNumber := by
  refine leavesBlanks_of_cons (fun _ => signedNumber_begins.eq_none_of_blanks) ?_
  intro c cs blanks hblanks
  rw [signedNumber_eq, signedNumber_eq, takeSign_append (List.cons_ne_nil c cs)]
  exact numerals_leavesBlanks.map _ _ blanks hblanks

/-! ## Statements -/

theorem argument_leavesBlanks : LeavesBlanks argument := by
  rw [argument_eq_first]
  apply first_leavesBlanks
  simp only [argumentSorts, List.forall_mem_cons, List.not_mem_nil, false_imp_iff, implies_true,
    and_true]
  exact ⟨identifier_leavesBlanks.map _, flagName_leavesBlanks.map _,
    variableName_leavesBlanks.map _, quotedText_leavesBlanks.map _,
    signedNumber_leavesBlanks.map _⟩

theorem call_leavesBlanks : LeavesBlanks call := by
  have harguments : LeavesBlanks argument.spaced := by
    refine argument_leavesBlanks.spaced (consumes_of_sound argument_sound fun cs a h => ?_)
    obtain ⟨c, ds, rfl, -⟩ := startsPart_of_argument h
    exact List.cons_ne_nil c ds
  rw [call_eq_commandOf]
  refine identifier_leavesBlanks.andThen fun name cs blanks hblanks => ?_
  rw [harguments.many_append argument_consumes hblanks, Option.map_some]

theorem pipeChain_leavesBlanks : LeavesBlanks pipeChain := by
  have hstage : LeavesBlanks stage := call_leavesBlanks.marked call_consumes (by decide)
  rw [pipeChain_eq_chainOf]
  exact call_leavesBlanks.andThen fun _ => hstage.many1 stage_consumes _

theorem reflection_leavesBlanks : LeavesBlanks reflection := by
  have hmember : LeavesBlanks member :=
    identifier_leavesBlanks.marked identifier_consumes (by decide)
  rw [reflection_eq_andThen]
  exact variableName_leavesBlanks.andThen fun _ => hmember.many1 member_consumes _

theorem operand_leavesBlanks : LeavesBlanks operand := by
  rw [operand_eq_first]
  apply first_leavesBlanks
  simp only [operandSorts, List.forall_mem_cons, List.not_mem_nil, false_imp_iff, implies_true,
    and_true]
  exact ⟨pipeChain_leavesBlanks, reflection_leavesBlanks, call_leavesBlanks.map _,
    variableName_leavesBlanks.map _, quotedText_leavesBlanks.map _,
    signedNumber_leavesBlanks.map _⟩

theorem assignment_leavesBlanks : LeavesBlanks assignment := by
  have hvalue : LeavesBlanks (operand.marked '=') :=
    operand_leavesBlanks.marked operand_consumes (by decide)
  rw [assignment_eq_assignmentOf]
  exact variableName_leavesBlanks.andThen fun _ => hvalue.map _

theorem statement_leavesBlanks : LeavesBlanks statement :=
  assignment_leavesBlanks.orElse operand_leavesBlanks

/-! ## Lines -/

theorem trimEnd_append {blanks : List Char} (h : Blanks blanks) (cs : List Char) :
    trimEnd (cs ++ blanks) = trimEnd cs := by
  have hreverse : Blanks blanks.reverse := fun c hc => h c (List.mem_reverse.1 hc)
  have hskip := skipBlanks_append hreverse cs.reverse
  unfold skipBlanks at hskip
  rw [trimEnd, List.reverse_append, hskip, trimEnd]

/-- Blanks behind the place where reading stops make no difference, and those in front of the line
move it. -/
theorem stoppedAt_between {before behind : List Char} (hbehind : Blanks behind)
    {cs rest : List Char} (hrest : rest.length ≤ cs.length) :
    ∃ remainder offset, stoppedAt cs rest = .incompleteParse remainder offset ∧
      stoppedAt (before ++ cs ++ behind) (rest ++ behind) =
        .incompleteParse remainder (offset + before.length) := by
  refine ⟨_, _, rfl, ?_⟩
  have hoffset : (before ++ cs ++ behind).length - (rest ++ behind).length =
      cs.length - rest.length + before.length := by
    simp only [List.length_append]
    omega
  rw [stoppedAt, trimEnd_append hbehind, hoffset]

/-- What can come of a line and of the same line between blanks: the same statement, or a stop in
front of the same remainder. -/
theorem parse_between {before line behind : String} (hbefore : Blanks before.toList)
    (hline : skipBlanks line.toList ≠ []) (hbehind : Blanks behind.toList) :
    (∃ v, Statement.parse line = .ok v ∧ Statement.parse (before ++ line ++ behind) = .ok v) ∨
    ∃ remainder offset, Statement.parse line = .error (.incompleteParse remainder offset) ∧
      Statement.parse (before ++ line ++ behind) =
        .error (.incompleteParse remainder (offset + before.length)) := by
  have hskip : skipBlanks (before ++ line ++ behind).toList =
      skipBlanks line.toList ++ behind.toList := by
    rw [String.toList_append, String.toList_append, List.append_assoc, skipBlanks_append hbefore,
      skipBlanks_append_of_ne_nil hline]
  have hnotBlank : ∀ cs : List Char, skipBlanks cs ≠ [] → ¬ cs.all isBlank = true := by
    intro cs hne hall
    exact hne (skipBlanks_of_blanks (List.all_eq_true.1 hall))
  have hread := statement_leavesBlanks (skipBlanks line.toList) behind.toList hbehind
  have hne : skipBlanks (before ++ line ++ behind).toList ≠ [] := by
    rw [hskip]
    exact List.append_ne_nil_of_left_ne_nil hline _
  have hlength : (skipBlanks line.toList).length ≤ line.toList.length :=
    (List.dropWhile_suffix isBlank).length_le
  -- Where reading stops with characters left, it stops at the same place in both lines.
  have hstop : ∀ rest : List Char, rest.length ≤ line.toList.length →
      ∃ remainder offset, stoppedAt line.toList rest = .incompleteParse remainder offset ∧
        stoppedAt (before ++ line ++ behind).toList (rest ++ behind.toList) =
          .incompleteParse remainder (offset + before.length) := by
    intro rest hrest
    rw [String.toList_append, String.toList_append, ← String.length_toList]
    exact stoppedAt_between hbehind hrest
  rw [parse_eq_lineOf, parse_eq_lineOf]
  unfold lineOf
  rw [if_neg (hnotBlank _ hline), if_neg (hnotBlank _ hne), hskip, hread]
  cases hstatement : statement (skipBlanks line.toList) with
  | none =>
      obtain ⟨remainder, offset, hfault, hfault'⟩ := hstop _ hlength
      exact .inr ⟨remainder, offset, congrArg Except.error hfault, congrArg Except.error hfault'⟩
  | some result =>
      obtain ⟨v, rest⟩ := result
      simp only [Option.map_some, Option.elim_some]
      by_cases hrest : skipBlanks rest = []
      · have hrest' : skipBlanks (rest ++ behind.toList) = [] := by
          rw [skipBlanks_append (skipBlanks_eq_nil_iff.1 hrest), skipBlanks_of_blanks hbehind]
        rw [if_pos hrest, if_pos hrest']
        exact .inl ⟨v, rfl, rfl⟩
      · have hle : (skipBlanks rest).length ≤ line.toList.length := by
          have hshorter := statement_consumes _ v rest hstatement
          have hsuffix := (List.dropWhile_suffix isBlank (l := rest)).length_le
          unfold skipBlanks at *
          omega
        obtain ⟨remainder, offset, hfault, hfault'⟩ := hstop _ hle
        rw [skipBlanks_append_of_ne_nil hrest, if_neg hrest,
          if_neg (List.append_ne_nil_of_left_ne_nil hrest _)]
        exact .inr ⟨remainder, offset, congrArg Except.error hfault, congrArg Except.error hfault'⟩

/-- Blanks around a line that is not blank make no difference to what it says.  A line that is read
in part is read up to the same place, which is further on by the blanks in front. -/
theorem blanks_around_make_no_difference (before line behind : String)
    (hbefore : isAllBlank before = true) (hline : isAllBlank line = false)
    (hbehind : isAllBlank behind = true) :
    (∀ v, Statement.parse (before ++ line ++ behind) = .ok v ↔ Statement.parse line = .ok v) ∧
    ∀ remainder offset, Statement.parse line = .error (.incompleteParse remainder offset) →
      Statement.parse (before ++ line ++ behind) =
        .error (.incompleteParse remainder (offset + before.length)) := by
  have hne : skipBlanks line.toList ≠ [] := by
    intro hnil
    have hall := List.all_eq_true.2 (skipBlanks_eq_nil_iff.1 hnil)
    rw [isAllBlank, hall] at hline
    cases hline
  rcases parse_between (List.all_eq_true.1 hbefore) hne (List.all_eq_true.1 hbehind) with
    ⟨v, hread, hread'⟩ | ⟨remainder, offset, hread, hread'⟩
  · rw [hread, hread']
    exact ⟨fun _ => Iff.rfl, fun _ _ h => by cases h⟩
  · rw [hread, hread']
    constructor
    · intro v
      constructor <;> intro h <;> cases h
    · intro _ _ h
      cases h
      rfl

/-- A pipe chain with a wide blank in front and a line end behind, and a quote that blanks do not
close either. -/
theorem blanks_around_chain_and_open_quote :
    Statement.parse ("\u3000\t" ++ "a 'x' | b" ++ "\n ") =
      .ok (.pipe [⟨"a", [.quoted "x"]⟩, ⟨"b", []⟩]) ∧
    Statement.parse ("\u3000\t" ++ "a | 'b c" ++ "\n ") = .error (.incompleteParse "| 'b c" 4) :=
  ⟨((blanks_around_make_no_difference _ "a 'x' | b" _ rfl rfl rfl).1 _).2 rfl,
    (blanks_around_make_no_difference _ "a | 'b c" _ rfl rfl rfl).2 _ 2 rfl⟩

end VerbNoun
