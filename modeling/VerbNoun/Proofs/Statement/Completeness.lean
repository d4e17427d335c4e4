import VerbNoun.Proofs.Statement.Choice
set_option autoImplicit false

/-!
# Completeness: every sentence is read (SPEC §4.1)

A derivation may cut a text at other places than the readers, which take as much as goes on.
What the readers need is therefore not that they cut where the derivation does, but that the
rest they leave can still be derived: a rest of arguments stays one when a run of identifier
characters or of digits is taken off its front, since what is cut off an argument in this way
leaves an argument or nothing.
-/

namespace VerbNoun

open Lang Number Reader Text

/-! ## What follows an argument, and what follows all of them -/

/-- The text is at its end, at a blank or at a bar. -/
def EndsPart (cs : List Char) : Prop := ∀ c rest, cs = c :: rest → isBlank c = true ∨ c = '|'

namespace EndsPart

variable {cs : List Char} (h : EndsPart cs)

include h

theorem stops_identifier : Stops continuesIdentifier cs := by
  intro c rest heq
  rcases h c rest heq with hc | rfl
  · exact continuesIdentifier_of_isBlank hc
  · decide

theorem stops_digit : Stops Char.isDigit cs :=
  (stops_identifier h).mono fun _ => continuesIdentifier_of_isDigit

theorem stops_point : Stops (· = '.') cs := by
  intro c rest heq
  rcases h c rest heq with hc | rfl
  · have hne : c ≠ '.' := by rintro rfl; exact absurd hc (by decide)
    simpa using hne
  · decide

end EndsPart

/-- Behind blanks there is the end of the text or a bar. -/
def EndsCommand (cs : List Char) : Prop :=
  skipBlanks cs = [] ∨ ∃ rest, skipBlanks cs = '|' :: rest

theorem EndsCommand.endsPart {cs : List Char} (h : EndsCommand cs) : EndsPart cs := by
  intro c rest heq
  cases hc : isBlank c with
  | true => exact .inl rfl
  | false =>
      rw [EndsCommand, heq, skipBlanks_cons hc] at h
      rcases h with h | ⟨rest', h⟩
      · simp at h
      · exact .inr (List.cons.inj h).1

/-- Where the arguments end no argument is read. -/
theorem EndsCommand.argument_eq_none {cs : List Char} (h : EndsCommand cs) :
    argument.spaced cs = none := by
  apply VerbNoun.argument_eq_none
  intro c ds hc
  rcases h with hend | ⟨rest, hend⟩
  · rw [hend] at hc
    simp at hc
  · rw [hend] at hc
    rw [← (List.cons.inj hc).1]
    exact not_startsPart_bar

theorem endsCommand_of_blanks {cs : List Char} (h : Blanks cs) : EndsCommand cs :=
  .inl (skipBlanks_of_blanks h)

/-! ## A rest of arguments

`F` is what may stand behind the arguments. -/

section Arguments

variable {F : List Char → Prop}

theorem then_arguments_cons {blanks cs rest : List Char} {a : Statement} (hblanks : Blanks blanks)
    (ha : Grammar.Argument cs a) (hrest : Then Grammar.Arguments F rest) :
    Then Grammar.Arguments F (blanks ++ cs ++ rest) := by
  obtain ⟨front, args, back, rfl, hargs, hback⟩ := hrest
  exact ⟨blanks ++ cs ++ front, a :: args, back, by simp, .cons (.mk hblanks ha) hargs, hback⟩

/-- A rest of arguments is the end of the arguments, or one argument and a rest. -/
theorem then_arguments_induction {motive : List Char → Prop} (done : ∀ cs, F cs → motive cs)
    (argument : ∀ blanks cs rest a, Blanks blanks → Grammar.Argument cs a →
      Then Grammar.Arguments F rest → motive rest → motive (blanks ++ cs ++ rest)) :
    ∀ cs, Then Grammar.Arguments F cs → motive cs := by
  rintro cs ⟨front, args, back, rfl, hargs, hback⟩
  induction hargs with
  | nil => exact done back hback
  | @cons front rest a args ha hrest ih =>
      cases ha with
      | mk hblanks ha =>
          rw [List.append_assoc]
          exact argument _ _ _ a hblanks ha ⟨rest, args, back, rfl, hrest, hback⟩ ih

/-- Digits in front of a point and of digits leave a number when they are taken off. -/
theorem exists_number_of_decimal {cs : List Char} (h : Grammar.Decimal cs) :
    ∃ x, Grammar.Number cs x := by
  have hliteral := Grammar.NumberLiteral.unsigned h
  obtain ⟨negative, n, hn, hsign⟩ := numberLiteral_iff.1 hliteral
  exact ⟨n.toDouble negative, .mk hliteral (ofText?_of_takeSign hn hsign)⟩

/-- What is left of a number without a sign, when all that belongs to a class with the digits is
taken off it, is a number or nothing. -/
theorem dropWhile_decimal {p : Char → Bool} (hp : ∀ c, c.isDigit = true → p c = true)
    (hpoint : p '.' = false) {cs : List Char} (h : Grammar.Decimal cs) (rest : List Char)
    (hrest : Then Grammar.Arguments F rest)
    (hdrop : Then Grammar.Arguments F (rest.dropWhile p)) :
    Then Grammar.Arguments F ((cs ++ rest).dropWhile p) := by
  have hfraction : ∀ fs, Grammar.Digits fs →
      Then Grammar.Arguments F (('.' :: fs ++ rest).dropWhile p) := by
    intro fs hfs
    obtain ⟨x, hx⟩ := exists_number_of_decimal (.fraction hfs)
    rw [List.cons_append, List.dropWhile_cons_of_neg (by simp [hpoint])]
    exact then_arguments_cons blanks_nil (.number hx) hrest
  cases h with
  | whole hds => rw [List.dropWhile_append_of_pos fun c hc => hp c (hds.2 c hc)]; exact hdrop
  | @mixed ds fs hds hfs =>
      rw [List.append_assoc, List.dropWhile_append_of_pos fun c hc => hp c (hds.2 c hc)]
      exact hfraction fs hfs
  | @fraction fs hfs => exact hfraction fs hfs

theorem continuesIdentifier_of_isQuote {q : Char} (h : isQuote q = true) :
    continuesIdentifier q = false := by
  rcases isQuote_iff.1 h with rfl | rfl <;> decide

/-- Only a number starts with a point. -/
theorem digits_of_argument_point {cs : List Char} {a : Statement}
    (h : Grammar.Argument ('.' :: cs) a) : Grammar.Digits cs := by
  generalize htext : '.' :: cs = text at h
  cases h with
  | word h =>
      obtain ⟨c, ds, rfl, hc⟩ := exists_cons_of_identifier h
      rw [← (List.cons.inj htext).1] at hc
      exact absurd hc (by decide)
  | flag h =>
      cases h with
      | mk h => exact absurd (List.cons.inj htext).1 (by decide)
  | var h =>
      cases h with
      | mk h => exact absurd (List.cons.inj htext).1 (by decide)
  | quoted h =>
      obtain ⟨q, body, hq, -, rfl, -⟩ := quotedString_iff.1 h
      rw [← (List.cons.inj htext).1] at hq
      exact absurd hq (by decide)
  | number h =>
      obtain ⟨hliteral, -⟩ := h
      have hdigits : ∀ ds rest, Grammar.Digits ds → '.' :: cs ≠ ds ++ rest := by
        intro ds rest hds heq
        cases ds with
        | nil => exact hds.1 rfl
        | cons d ds =>
            have hd := hds.2 d List.mem_cons_self
            rw [← (List.cons.inj heq).1] at hd
            exact absurd hd (by decide)
      cases hliteral with
      | minus h => exact absurd (List.cons.inj htext).1 (by decide)
      | plus h => exact absurd (List.cons.inj htext).1 (by decide)
      | unsigned h =>
          cases h with
          | whole hds => exact absurd (by simpa using htext) (hdigits _ [] hds)
          | mixed hds hfs => exact absurd htext (hdigits _ _ hds)
          | fraction hfs =>
              rw [(List.cons.inj htext).2]
              exact hfs

variable (hF : ∀ cs, F cs → EndsCommand cs)

include hF

/-- A rest of arguments stays one when a run of identifier characters is taken off. -/
theorem then_arguments_dropWhile_identifier : ∀ cs, Then Grammar.Arguments F cs →
    Then Grammar.Arguments F (cs.dropWhile continuesIdentifier) := by
  refine then_arguments_induction (fun cs hcs => ?_)
    (fun blanks cs rest a hblanks ha hrest ih => ?_)
  · rw [dropWhile_of_stops (hF cs hcs).endsPart.stops_identifier]
    exact ⟨[], [], cs, rfl, .nil, hcs⟩
  · have hstop : Stops continuesIdentifier (blanks ++ cs ++ rest) →
        Then Grammar.Arguments F ((blanks ++ cs ++ rest).dropWhile continuesIdentifier) := by
      intro h
      rw [dropWhile_of_stops h]
      exact then_arguments_cons hblanks ha hrest
    have hdecimal : ∀ {ds}, Grammar.Decimal ds →
        Then Grammar.Arguments F ((ds ++ rest).dropWhile continuesIdentifier) := fun h =>
      dropWhile_decimal (fun _ => continuesIdentifier_of_isDigit) (by decide) h rest hrest ih
    cases blanks with
    | cons b bs =>
        exact hstop (stops_cons (continuesIdentifier_of_isBlank (hblanks b List.mem_cons_self)) _)
    | nil =>
        cases ha with
        | word h =>
            rw [List.nil_append, List.dropWhile_append_of_pos (continuesIdentifier_of_mem h)]
            exact ih
        | flag h =>
            cases h with
            | mk h =>
                rw [List.nil_append, List.cons_append, List.dropWhile_cons_of_pos (by decide),
                  List.dropWhile_append_of_pos (continuesIdentifier_of_mem h)]
                exact ih
        | var h =>
            cases h with
            | mk h => exact hstop (stops_cons (by decide) _)
        | quoted h =>
            obtain ⟨q, body, hq, -, rfl, -⟩ := quotedString_iff.1 h
            exact hstop (stops_cons (continuesIdentifier_of_isQuote hq) _)
        | number h =>
            obtain ⟨hliteral, -⟩ := h
            cases hliteral with
            | minus h =>
                rw [List.nil_append, List.cons_append, List.dropWhile_cons_of_pos (by decide)]
                exact hdecimal h
            | plus h => exact hstop (stops_cons (by decide) _)
            | unsigned h => exact hdecimal h

/-- A rest of arguments stays one when a run of digits is taken off. -/
theorem then_arguments_dropWhile_digit : ∀ cs, Then Grammar.Arguments F cs →
    Then Grammar.Arguments F (cs.dropWhile Char.isDigit) := by
  refine then_arguments_induction (fun cs hcs => ?_)
    (fun blanks cs rest a hblanks ha hrest ih => ?_)
  · rw [dropWhile_of_stops (hF cs hcs).endsPart.stops_digit]
    exact ⟨[], [], cs, rfl, .nil, hcs⟩
  · have hstop : Stops Char.isDigit (blanks ++ cs ++ rest) →
        Then Grammar.Arguments F ((blanks ++ cs ++ rest).dropWhile Char.isDigit) := by
      intro h
      rw [dropWhile_of_stops h]
      exact then_arguments_cons hblanks ha hrest
    -- A character that ends identifiers is no digit.
    have hend : Stops continuesIdentifier (blanks ++ cs ++ rest) →
        Then Grammar.Arguments F ((blanks ++ cs ++ rest).dropWhile Char.isDigit) :=
      fun h => hstop (h.mono fun _ => continuesIdentifier_of_isDigit)
    cases blanks with
    | cons b bs =>
        exact hend (stops_cons (continuesIdentifier_of_isBlank (hblanks b List.mem_cons_self)) _)
    | nil =>
        cases ha with
        | word h =>
            obtain ⟨c, ds, rfl, hc⟩ := exists_cons_of_identifier h
            exact hstop (stops_cons (isDigit_of_startsIdentifier hc) _)
        | flag h =>
            cases h with
            | mk h => exact hstop (stops_cons (by decide) _)
        | var h =>
            cases h with
            | mk h => exact hstop (stops_cons (by decide) _)
        | quoted h =>
            obtain ⟨q, body, hq, -, rfl, -⟩ := quotedString_iff.1 h
            exact hend (stops_cons (continuesIdentifier_of_isQuote hq) _)
        | number h =>
            obtain ⟨hliteral, -⟩ := h
            cases hliteral with
            | minus h => exact hstop (stops_cons (by decide) _)
            | plus h => exact hstop (stops_cons (by decide) _)
            | unsigned h => exact dropWhile_decimal (fun _ hc => hc) (by decide) h rest hrest ih

/-- A point and a digit in front of a rest of arguments begin a number. -/
theorem then_arguments_after_point {d : Char} {cs : List Char}
    (h : Then Grammar.Arguments F ('.' :: d :: cs)) :
    Then Grammar.Arguments F (cs.dropWhile Char.isDigit) := by
  suffices hgen : ∀ text, Then Grammar.Arguments F text → text = '.' :: d :: cs →
      Then Grammar.Arguments F (cs.dropWhile Char.isDigit) from hgen _ h rfl
  refine then_arguments_induction (fun text htext hsame => ?_)
    (fun blanks text rest a hblanks ha hrest _ hsame => ?_)
  · exact absurd ((hF text htext).endsPart.stops_point '.' (d :: cs) hsame) (by decide)
  · cases blanks with
    | cons b bs =>
        have hb := hblanks b List.mem_cons_self
        rw [(List.cons.inj hsame).1] at hb
        exact absurd hb (by decide)
    | nil =>
        cases text with
        | nil =>
            obtain ⟨c, ds, hc, -⟩ := startsPart_of_argument ha
            simp at hc
        | cons c fs =>
            obtain ⟨rfl, htail⟩ := List.cons.inj hsame
            obtain ⟨hne, hfs⟩ := digits_of_argument_point ha
            cases fs with
            | nil => exact absurd rfl hne
            | cons f fs =>
                have hcs : fs ++ rest = cs := (List.cons.inj htail).2
                rw [← hcs,
                  List.dropWhile_append_of_pos fun c hc => hfs c (List.mem_cons_of_mem _ hc)]
                exact then_arguments_dropWhile_digit hF rest hrest

/-! ## One argument -/

/-- In front of a rest of arguments a number is read whose rest is one again. -/
theorem numerals_leaves {cs rest : List Char} (h : Grammar.Decimal cs)
    (hrest : Then Grammar.Arguments F rest) :
    ∃ n rest', numerals (cs ++ rest) = some (n, rest') ∧ Then Grammar.Arguments F rest' := by
  have hdrop := then_arguments_dropWhile_digit hF rest hrest
  -- With a fraction the digits of the rest are read, and nothing more of it.
  have hfraction : ∀ ds fs, (∀ c ∈ ds, c.isDigit = true) → Grammar.Digits fs →
      ∃ n, numerals (ds ++ '.' :: (fs ++ rest)) = some (n, rest.dropWhile Char.isDigit) := by
    intro ds fs hds hfs
    obtain ⟨hne, hfs⟩ := hfs
    cases fs with
    | nil => exact absurd rfl hne
    | cons f fs =>
        have hf : f.isDigit = true := hfs f List.mem_cons_self
        have hfs' : ∀ c ∈ fs, c.isDigit = true := fun c hc => hfs c (List.mem_cons_of_mem _ hc)
        have hpoint : ∀ tail, ('.' :: tail).dropWhile Char.isDigit = '.' :: tail :=
          fun tail => dropWhile_of_stops (stops_cons (by decide) tail)
        simp only [numerals, List.dropWhile_append_of_pos hds, hpoint, List.cons_append, hf,
          if_true, List.dropWhile_append_of_pos hfs']
        exact ⟨_, rfl⟩
  cases h with
  | whole hds =>
      obtain ⟨hne, hds⟩ := hds
      have hempty : (cs ++ rest.takeWhile Char.isDigit).isEmpty = false := by simp [hne]
      simp only [numerals, List.takeWhile_append_of_pos hds, List.dropWhile_append_of_pos hds]
      split
      · rename_i d rest' hpoint
        rw [hpoint] at hdrop
        split
        · exact ⟨_, _, rfl, then_arguments_after_point hF hdrop⟩
        · simp only [hempty]
          exact ⟨_, _, rfl, hdrop⟩
      · simp only [hempty]
        exact ⟨_, _, rfl, hdrop⟩
  | @mixed ds fs hds hfs =>
      obtain ⟨n, hn⟩ := hfraction ds fs hds.2 hfs
      exact ⟨n, _, by rw [List.append_assoc]; exact hn, hdrop⟩
  | @fraction fs hfs =>
      obtain ⟨n, hn⟩ := hfraction [] fs (by simp) hfs
      exact ⟨n, _, hn, hdrop⟩

theorem signedNumber_leaves {cs rest : List Char} (h : Grammar.NumberLiteral cs)
    (hrest : Then Grammar.Arguments F rest) :
    ∃ x rest', signedNumber (cs ++ rest) = some (x, rest') ∧ Then Grammar.Arguments F rest' := by
  obtain ⟨negative, n, hn, hsign⟩ := numberLiteral_iff.1 h
  obtain ⟨m, rest', hread, hrest'⟩ := numerals_leaves hF (decimal_iff.2 ⟨n, hn, rfl⟩) hrest
  have hne : cs ≠ [] := by
    obtain ⟨c, ds, rfl, -⟩ := exists_cons_of_numberLiteral h
    simp
  refine ⟨m.toDouble negative, rest', ?_, hrest'⟩
  rw [signedNumber_eq, takeSign_append hne, hsign, map_of_some hread]

/-- In front of a rest of arguments an argument is read whose rest is one again. -/
theorem argument_leaves {cs rest : List Char} {a : Statement} (ha : Grammar.Argument cs a)
    (hrest : Then Grammar.Arguments F rest) :
    ∃ a' rest', argument (cs ++ rest) = some (a', rest') ∧ Then Grammar.Arguments F rest' := by
  have hword := then_arguments_dropWhile_identifier hF rest hrest
  cases ha with
  | word h => exact ⟨_, _, argument_of_identifier (identifier_append h rest), hword⟩
  | flag h =>
      cases h with
      | mk h => exact ⟨_, _, argument_of_flag (identifier_append h rest), hword⟩
  | var h =>
      cases h with
      | mk h => exact ⟨_, _, argument_of_variable (identifier_append h rest), hword⟩
  | quoted h =>
      have hread := quotedText_append h rest
      obtain ⟨q, body, hq, -, rfl, -⟩ := quotedString_iff.1 h
      exact ⟨_, _, argument_of_quoted hq hread, hrest⟩
  | number h =>
      obtain ⟨x, rest', hread, hrest'⟩ := signedNumber_leaves hF h.literal hrest
      exact ⟨_, _, argument_of_number h.literal hread, hrest'⟩

/-! ## All arguments -/

/-- Reading arguments goes on to the end of a rest of arguments. -/
theorem arguments_leave (cs : List Char) (h : Then Grammar.Arguments F cs) :
    F (argument.spaced.many cs).2 := by
  refine many_leaves argument_consumes (then_arguments_induction
    (fun cs hcs => .inl ⟨(hF cs hcs).argument_eq_none, hcs⟩)
    (fun blanks cs rest a hblanks ha hrest _ => .inr ?_)) cs h
  · rw [spaced, List.append_assoc, skipBlanks_append hblanks,
      skipBlanks_part (startsPart_of_argument ha)]
    exact argument_leaves hF ha hrest

/-- In front of what may follow its arguments a command is read up to there. -/
theorem call_leaves {cs rest : List Char} {command : Call} (h : Grammar.Command cs command)
    (hrest : F rest) : ∃ command' rest', call (cs ++ rest) = some (command', rest') ∧ F rest' := by
  cases h with
  | @mk cs args name _ hname hargs =>
      have htail := then_arguments_dropWhile_identifier hF (args ++ rest)
        ⟨args, _, rest, rfl, hargs, hrest⟩
      rw [List.append_assoc, call, identifier_append hname]
      exact ⟨_, _, rfl, arguments_leave hF _ htail⟩

end Arguments

/-! ## Chains -/

/-- Further stages of a chain, and then blanks. -/
abbrev RestOfChain : List Char → Prop := Then (Star Grammar.Stage) Blanks

theorem restOfChain_of_star {cs rest : List Char} {calls : List Call}
    (h : Star Grammar.Stage cs calls) (hrest : Blanks rest) : RestOfChain (cs ++ rest) :=
  ⟨cs, calls, rest, rfl, h, hrest⟩

/-- What is left of a chain is blanks, or a stage and what is left behind it. -/
theorem restOfChain_cases {cs : List Char} (h : RestOfChain cs) :
    Blanks cs ∨ Then Grammar.Stage RestOfChain cs := by
  obtain ⟨front, calls, back, rfl, hcalls, hback⟩ := h
  cases hcalls with
  | nil => exact .inl hback
  | @cons stage rest command calls hstage hrest =>
      exact .inr ⟨stage, command, rest ++ back, List.append_assoc _ _ _, hstage,
        restOfChain_of_star hrest hback⟩

theorem endsCommand_of_bar {α : Type} {L : Lang α} {cs rest : List Char} {a : α}
    (h : Marked '|' L cs a) : EndsCommand (cs ++ rest) := by
  cases h with
  | @mk before after cs _ hbefore hafter h =>
      refine .inr ⟨after ++ cs ++ rest, ?_⟩
      rw [List.append_assoc, skipBlanks_append hbefore, List.cons_append,
        skipBlanks_cons (by decide)]

theorem endsCommand_of_restOfChain {cs : List Char} (h : RestOfChain cs) : EndsCommand cs := by
  rcases restOfChain_cases h with h | ⟨front, command, back, rfl, hstage, -⟩
  · exact endsCommand_of_blanks h
  · exact endsCommand_of_bar hstage

/-- A stage is read up to what is left of the chain. -/
theorem stage_leaves {cs : List Char} (h : Then Grammar.Stage RestOfChain cs) :
    ∃ command cs', stage cs = some (command, cs') ∧ RestOfChain cs' := by
  obtain ⟨front, command, back, rfl, hstage, hback⟩ := h
  cases hstage with
  | mk hbefore hafter h =>
      obtain ⟨command', rest, hread, hrest⟩ :=
        call_leaves (fun _ => endsCommand_of_restOfChain) h hback
      refine ⟨command', rest, ?_, hrest⟩
      obtain ⟨c, ds, rfl, hc⟩ := exists_cons_of_command h
      have hmark : isBlank '|' = false := by decide
      rw [List.append_assoc, List.cons_append, List.append_assoc, stage,
        marked_append hmark hbefore hafter, skipBlanks_part ⟨c, ds, rfl, .inl hc⟩, hread]

theorem stages_leave {cs : List Char} (h : RestOfChain cs) : Blanks (stage.many cs).2 := by
  refine many_leaves stage_consumes (fun cs hcs => ?_) cs h
  rcases restOfChain_cases hcs with hblanks | hstage
  · refine .inl ⟨?_, hblanks⟩
    exact marked_of_blanks hblanks
  · exact .inr (stage_leaves hstage)

theorem pipeChain_leaves {cs rest : List Char} {s : Statement} (h : Grammar.PipeChain cs s)
    (hrest : Blanks rest) :
    ∃ s' rest', pipeChain (cs ++ rest) = some (s', rest') ∧ Blanks rest' := by
  cases h with
  | @mk cs stages first calls hfirst hcalls hne =>
      have htail : Then Grammar.Stage RestOfChain (stages ++ rest) := by
        cases hcalls with
        | nil => exact absurd rfl hne
        | @cons stage stages second calls hsecond hcalls =>
            exact ⟨stage, second, stages ++ rest, List.append_assoc _ _ _, hsecond,
              restOfChain_of_star hcalls hrest⟩
      -- The first command leaves a stage at least, so that there are two commands.
      obtain ⟨first', rest', hread, hrest'⟩ :=
        call_leaves (F := Then Grammar.Stage RestOfChain)
          (fun _ ⟨_, _, _, heq, hstage, _⟩ => heq ▸ endsCommand_of_bar hstage) hfirst htail
      obtain ⟨second, rest'', hstage, hrest''⟩ := stage_leaves hrest'
      have hmany := many_of_some stage_consumes hstage
      rw [List.append_assoc, pipeChain, hread]
      simp only [hmany]
      exact ⟨_, _, rfl, stages_leave hrest''⟩

/-! ## Reflections -/

theorem stops_of_member {cs rest : List Char} {name : String} (h : Grammar.Member cs name) :
    Stops continuesIdentifier (cs ++ rest) := by
  cases h with
  | @mk before after cs _ hbefore hafter h =>
      cases before with
      | nil => exact stops_cons (by decide) _
      | cons b bs =>
          exact stops_cons (continuesIdentifier_of_isBlank (hbefore b List.mem_cons_self)) _

theorem stops_of_blanks {cs : List Char} (h : Blanks cs) : Stops continuesIdentifier cs :=
  (endsCommand_of_blanks h).endsPart.stops_identifier

theorem stops_of_members {cs rest : List Char} {members : List String}
    (h : Star Grammar.Member cs members) (hrest : Blanks rest) :
    Stops continuesIdentifier (cs ++ rest) := by
  cases h with
  | nil => exact stops_of_blanks hrest
  | cons h _ =>
      rw [List.append_assoc]
      exact stops_of_member h

/-- Members are read as they are. -/
theorem members_append {cs rest : List Char} {members : List String}
    (h : Star Grammar.Member cs members) (hrest : Blanks rest) :
    member.many (cs ++ rest) = (members, rest) := by
  induction h with
  | nil => exact many_of_none (marked_of_blanks hrest)
  | @cons cs tail name members h htail ih =>
      have hstops := stops_of_members htail hrest
      have hread : member (cs ++ tail ++ rest) = some (name, tail ++ rest) := by
        cases h with
        | mk hbefore hafter h =>
            obtain ⟨c, ds, rfl, hc⟩ := exists_cons_of_identifier h
            have hmark : isBlank '.' = false := by decide
            rw [List.append_assoc, List.append_assoc, List.cons_append, List.append_assoc, member,
              marked_append hmark hbefore hafter, skipBlanks_part ⟨c, ds, rfl, .inl hc⟩,
              identifier_of_stops h hstops]
      rw [many_of_some member_consumes hread, ih]

theorem variableName_append {cs rest : List Char} {name : String} (h : Grammar.Variable cs name)
    (hrest : Stops continuesIdentifier rest) : variableName (cs ++ rest) = some (name, rest) := by
  cases h with
  | mk h => rw [List.cons_append, variableName, after_mark, identifier_of_stops h hrest]

theorem reflection_append {cs rest : List Char} {s : Statement} (h : Grammar.Reflection cs s)
    (hrest : Blanks rest) : reflection (cs ++ rest) = some (s, rest) := by
  cases h with
  | @mk cs tail name members hname hmembers hne =>
      have hstops := stops_of_members hmembers hrest
      have hmany : (identifier.marked '.').many (tail ++ rest) = (members, rest) :=
        members_append hmembers hrest
      rw [List.append_assoc, reflection, variableName_append hname hstops]
      cases members with
      | nil => exact absurd rfl hne
      | cons member members => simp only [hmany]

/-! ## Statements -/

/-- A command that is read up to blanks is not the first of a chain. -/
theorem operand_of_call_blanks {cs rest : List Char} {command : Call}
    (h : call cs = some (command, rest)) (hrest : Blanks rest) :
    operand cs = some (.command command, rest) := by
  have hmany : (call.marked '|').many rest = ([], rest) := many_of_none (marked_of_blanks hrest)
  have hpipe : pipeChain cs = none := by simp only [pipeChain, h, hmany]
  cases cs with
  | nil => simp [call, identifier] at h
  | cons c cs =>
      cases hc : startsIdentifier c with
      | true => exact operand_of_call hc hpipe h
      | false => simp [call_cons_eq_none hc] at h

theorem operand_reflection_append {cs rest : List Char} {s : Statement}
    (h : Grammar.Reflection cs s) (hrest : Blanks rest) :
    operand (cs ++ rest) = some (s, rest) := by
  have hread := reflection_append h hrest
  cases h with
  | mk hname _ _ =>
      cases hname
      exact operand_of_reflection hread

theorem operand_variable_append {cs rest : List Char} {name : String}
    (h : Grammar.Variable cs name) (hrest : Blanks rest) :
    operand (cs ++ rest) = some (.var name, rest) := by
  have hread := variableName_append h (stops_of_blanks hrest)
  have hmany : (identifier.marked '.').many rest = ([], rest) :=
    many_of_none (marked_of_blanks hrest)
  have hreflection : reflection (cs ++ rest) = none := by simp only [reflection, hread, hmany]
  cases h
  exact operand_of_variable hreflection hread

theorem operand_quoted_append {cs : List Char} {text : String} (h : Grammar.QuotedString cs text)
    (rest : List Char) : operand (cs ++ rest) = some (.quoted text, rest) := by
  have hread := quotedText_append h rest
  obtain ⟨q, body, hq, -, rfl, -⟩ := quotedString_iff.1 h
  exact operand_of_quoted hq hread

theorem operand_number_append {cs rest : List Char} {x : Double} (h : Grammar.Number cs x)
    (hrest : Blanks rest) : operand (cs ++ rest) = some (.number x, rest) := by
  have hends := (endsCommand_of_blanks hrest).endsPart
  have hread := signedNumber_append h hends.stops_digit hends.stops_point
  obtain ⟨c, ds, rfl, hc⟩ := exists_cons_of_numberLiteral h.literal
  exact operand_of_number hc hread

/-- An operand with blanks behind it is read up to the blanks. -/
theorem operand_leaves {cs rest : List Char} {s : Statement} (h : Grammar.Operand cs s)
    (hrest : Blanks rest) :
    ∃ s' rest', operand (cs ++ rest) = some (s', rest') ∧ Blanks rest' := by
  cases h with
  | pipe h =>
      obtain ⟨s', rest', hread, hrest'⟩ := pipeChain_leaves h hrest
      exact ⟨s', rest', operand_of_pipeChain hread, hrest'⟩
  | reflection h => exact ⟨_, rest, operand_reflection_append h hrest, hrest⟩
  | command h =>
      obtain ⟨command, rest', hread, hrest'⟩ :=
        call_leaves (fun _ => endsCommand_of_blanks) h hrest
      exact ⟨_, rest', operand_of_call_blanks hread hrest', hrest'⟩
  | var h => exact ⟨_, rest, operand_variable_append h hrest, hrest⟩
  | quoted h => exact ⟨_, rest, operand_quoted_append h rest, hrest⟩
  | number h => exact ⟨_, rest, operand_number_append h hrest, hrest⟩

/-- An operand is no assignment: no equals sign follows its variable, if it starts with one. -/
theorem assignment_operand_eq_none {cs rest : List Char} {s : Statement}
    (h : Grammar.Operand cs s) (hrest : Blanks rest) : assignment (cs ++ rest) = none := by
  have hother : ∀ c ds, cs = c :: ds → c ≠ '$' → assignment (cs ++ rest) = none := by
    rintro c ds rfl hc
    exact assignment_cons_eq_none hc _
  cases h with
  | pipe h =>
      cases h with
      | mk hfirst _ _ =>
          obtain ⟨c, ds, rfl, hc⟩ := exists_cons_of_command hfirst
          exact hother c _ rfl (startsIdentifier_ne_dollar hc)
  | reflection h =>
      cases h with
      | @mk cs tail name members hname hmembers hne =>
          have hread := variableName_append hname (stops_of_members hmembers hrest)
          have hmark : operand.marked '=' (tail ++ rest) = none := by
            cases hmembers with
            | nil => exact absurd rfl hne
            | cons hmember _ =>
                cases hmember with
                | mk hbefore hafter h =>
                    rw [List.append_assoc, List.append_assoc, List.cons_append]
                    exact marked_of_ne (by decide) (by decide) hbefore _
          rw [List.append_assoc, assignment, hread]
          exact map_of_none hmark
  | command h =>
      obtain ⟨c, ds, rfl, hc⟩ := exists_cons_of_command h
      exact hother c ds rfl (startsIdentifier_ne_dollar hc)
  | var h =>
      have hread := variableName_append h (stops_of_blanks hrest)
      have hmark : operand.marked '=' rest = none := marked_of_blanks hrest
      rw [assignment, hread]
      exact map_of_none hmark
  | quoted h =>
      obtain ⟨q, body, hq, -, rfl, -⟩ := quotedString_iff.1 h
      exact hother q _ rfl (isQuote_ne hq (by decide))
  | number h =>
      obtain ⟨c, ds, rfl, hc⟩ := exists_cons_of_numberLiteral h.literal
      exact hother c ds rfl hc.ne_dollar

/-- An assignment is read as far as the operand on its right. -/
theorem statement_of_assignment {cs before after text rest : List Char} {name : String}
    {value : Statement} (hname : Grammar.Variable cs name) (hbefore : Blanks before)
    (hafter : Blanks after) (hskip : skipBlanks text = text)
    (hread : operand text = some (value, rest)) :
    statement (cs ++ (before ++ '=' :: (after ++ text))) = some (.assign name value, rest) := by
  have hstops : Stops continuesIdentifier (before ++ '=' :: (after ++ text)) := by
    cases before with
    | nil => exact stops_cons (by decide) _
    | cons b bs =>
        exact stops_cons (continuesIdentifier_of_isBlank (hbefore b List.mem_cons_self)) _
  have hmark : isBlank '=' = false := by decide
  have hmarked : operand.marked '=' (before ++ '=' :: (after ++ text)) = some (value, rest) := by
    rw [marked_append hmark hbefore hafter, hskip, hread]
  apply orElse_of_some
  rw [assignment, variableName_append hname hstops]
  exact map_of_some hmarked

/-- A sentence with blanks behind it is read up to the blanks. -/
theorem statement_leaves {cs rest : List Char} {s : Statement} (h : Grammar.Sentence cs s)
    (hrest : Blanks rest) :
    ∃ s' rest', statement (cs ++ rest) = some (s', rest') ∧ Blanks rest' := by
  cases h with
  | assignment h =>
      cases h with
      | @mk _ _ name _ hname hvalue =>
          cases hvalue with
          | mk hbefore hafter h =>
              obtain ⟨value, rest', hread, hrest'⟩ := operand_leaves h hrest
              have hskip := skipBlanks_part (startsPart_of_operand h) rest
              refine ⟨.assign name value, rest', ?_, hrest'⟩
              rw [List.append_assoc, List.append_assoc, List.cons_append, List.append_assoc]
              exact statement_of_assignment hname hbefore hafter hskip hread
  | operand h =>
      obtain ⟨s', rest', hread, hrest'⟩ := operand_leaves h hrest
      refine ⟨s', rest', ?_, hrest'⟩
      rw [statement, orElse_of_none (assignment_operand_eq_none h hrest), hread]

/-! ## Lines -/

/-- A line is read if a statement is read between blanks. -/
theorem parse_of_statement {line : String} {before cs after rest : List Char} {s : Statement}
    (hline : line.toList = before ++ cs ++ after) (hbefore : Blanks before)
    (hstart : ∃ c ds, cs = c :: ds ∧ StartsPart c)
    (hread : statement (cs ++ after) = some (s, rest)) (hrest : Blanks rest) :
    Statement.parse line = .ok s := by
  have hskip : skipBlanks (before ++ cs ++ after) = cs ++ after := by
    rw [List.append_assoc, skipBlanks_append hbefore, skipBlanks_part hstart]
  have hall : (before ++ cs ++ after).all isBlank = false := by
    obtain ⟨c, ds, rfl, hc⟩ := hstart
    simp [hc.isBlank_eq_false]
  simp only [Statement.parse, hline, hall, hskip, hread, skipBlanks_of_blanks hrest,
    Bool.false_eq_true, if_false]

/-- A line of the grammar is read. -/
theorem parse_of_line {line : String} {s : Statement} (h : Grammar.Line line.toList s) :
    ∃ s', Statement.parse line = .ok s' := by
  generalize hcs : line.toList = cs at h
  cases h with
  | mk hbefore h hafter =>
      obtain ⟨s', rest, hread, hrest⟩ := statement_leaves h hafter
      exact ⟨s', parse_of_statement hcs hbefore (startsPart_of_sentence h) hread hrest⟩

theorem parse_eq_emptyInput_iff {line : String} :
    Statement.parse line = .error .emptyInput ↔ Blanks line.toList := by
  constructor
  · intro h
    simp only [Statement.parse] at h
    split at h
    · rename_i hall
      exact List.all_eq_true.1 hall
    · split at h
      · simp [stoppedAt] at h
      · split at h <;> simp [stoppedAt] at h
  · intro h
    simp only [Statement.parse, List.all_eq_true.2 h, if_true]

/-- A line that is neither blank nor read is read in part. -/
theorem parse_cases (line : String) :
    (∃ s, Statement.parse line = .ok s) ∨ Statement.parse line = .error .emptyInput ∨
      ∃ remainder offset, Statement.parse line = .error (.incompleteParse remainder offset) := by
  simp only [Statement.parse]
  split
  · exact .inr (.inl rfl)
  · split
    · exact .inr (.inr ⟨_, _, rfl⟩)
    · split
      · exact .inl ⟨_, rfl⟩
      · exact .inr (.inr ⟨_, _, rfl⟩)

/-- Reading takes exactly the lines of the grammar: what it gives is derived from the line, it
gives something wherever anything is derived, and it tells a blank line from one that is no
sentence. -/
theorem parse_accepts_exactly_lines (line : String) :
    (∀ s, Statement.parse line = .ok s → Grammar.Line line.toList s) ∧
    ((∃ s, Statement.parse line = .ok s) ↔ ∃ s, Grammar.Line line.toList s) ∧
    (Statement.parse line = .error .emptyInput ↔ Blanks line.toList) ∧
    ((∃ remainder offset, Statement.parse line = .error (.incompleteParse remainder offset)) ↔
      ¬ Blanks line.toList ∧ ¬ ∃ s, Grammar.Line line.toList s) := by
  have hok : (∃ s, Statement.parse line = .ok s) ↔ ∃ s, Grammar.Line line.toList s :=
    ⟨fun ⟨s, h⟩ => ⟨s, line_of_parse h⟩, fun ⟨_, h⟩ => parse_of_line h⟩
  refine ⟨fun s h => line_of_parse h, hok, parse_eq_emptyInput_iff, ?_⟩
  rw [← parse_eq_emptyInput_iff, ← hok]
  constructor
  · rintro ⟨remainder, offset, h⟩
    simp [h]
  · rintro ⟨hblank, hread⟩
    exact ((parse_cases line).resolve_left hread).resolve_left hblank

/-- The dash that the command's name takes is missing from its argument, and both are read. -/
theorem parse_touching_parts :
    (Statement.parse "a-1.5").isOk = true ∧ ∃ s, Grammar.Line "a-1.5".toList s := by
  have h : (Statement.parse "a-1.5").isOk = true := by decide +kernel
  cases hread : Statement.parse "a-1.5" with
  | error fault =>
      rw [hread] at h
      exact absurd h (by simp [Except.isOk, Except.toBool])
  | ok s => exact ⟨by rw [← hread]; exact h, s, (parse_accepts_exactly_lines "a-1.5").1 s hread⟩

end VerbNoun
