import VerbNoun.Proofs.Statement.Completeness
set_option autoImplicit false

/-!
# LongestPrefix: where reading a line stops (SPEC §4.1)

A line that is not read whole is read up to some place.  Up to there it could stand by itself, and
no longer part of it could: when more is put behind a text, every reader of a line does what it
did before or goes through the whole of the old text, and never stops earlier.
-/

namespace VerbNoun

open Lang Number Reader Text

/-! ## The smallest parts -/

theorem identifier_consumes : Consumes identifier := by
  refine consumes_of_sound identifier_sound (fun cs name h => ?_)
  obtain ⟨c, ds, rfl, -⟩ := exists_cons_of_identifier h
  exact List.cons_ne_nil c ds

theorem quotedText_consumes : Consumes quotedText := by
  refine consumes_of_sound quotedText_sound (fun cs text h => ?_)
  obtain ⟨c, ds, rfl, -⟩ := startsPart_of_quoted h
  exact List.cons_ne_nil c ds

theorem signedNumber_consumes : Consumes signedNumber := by
  refine consumes_of_sound signedNumber_sound (fun cs x h => ?_)
  obtain ⟨c, ds, rfl, -⟩ := startsPart_of_number h
  exact List.cons_ne_nil c ds

/-- A run of characters of one class ends within the text, or goes on behind it. -/
theorem run_append (p : Char → Bool) (cs more : List Char) :
    (cs.dropWhile p = [] ∧ (cs ++ more).dropWhile p = more.dropWhile p) ∨
      (cs.dropWhile p ≠ [] ∧ (cs ++ more).dropWhile p = cs.dropWhile p ++ more ∧
        (cs ++ more).takeWhile p = cs.takeWhile p) := by
  induction cs with
  | nil => exact .inl ⟨rfl, rfl⟩
  | cons c cs ih =>
      cases hc : p c with
      | true => simpa only [List.cons_append, List.dropWhile_cons, List.takeWhile_cons, hc, if_true,
          List.cons.injEq, true_and] using ih
      | false => simp [hc]

/-- Only an identifier at the end of the text goes on with what is put behind it. -/
theorem identifier_persists : Persists (· = []) identifier := by
  intro cs more
  cases cs with
  | nil => exact identifier_consumes.continues_nil _ more
  | cons c cs =>
      cases hc : startsIdentifier c with
      | false =>
          apply Continues.same
          rw [List.cons_append, identifier_cons_eq_none hc, identifier_cons_eq_none hc]
          rfl
      | true =>
          have hread : ∀ ds, identifier (c :: ds) =
              some (String.ofList (c :: ds.takeWhile continuesIdentifier),
                ds.dropWhile continuesIdentifier) := by
            intro ds
            simp only [identifier, hc, if_true]
          obtain ⟨hdrop, hmore⟩ | ⟨-, hmore, htake⟩ := run_append continuesIdentifier cs more
          · refine .passes (hread (cs ++ more)) ?_ ?_
            · rw [hmore]
              exact (List.dropWhile_suffix _).length_le
            · intro name rest hcs
              rw [hread] at hcs
              rw [← (Prod.mk.inj (Option.some.inj hcs)).2, hdrop]
          · apply Continues.same
            rw [List.cons_append, hread, hread, hmore, htake]
            rfl

theorem variableName_persists : Persists (· = []) variableName :=
  after_persists identifier_persists identifier_consumes '$'

theorem flagName_persists : Persists (· = []) flagName :=
  after_persists identifier_persists identifier_consumes '-'

/-- A text in quotes is over where its quote is closed. -/
theorem quotedText_persists (left : List Char → Prop) : Persists left quotedText := by
  intro cs more
  cases cs with
  | nil => exact quotedText_consumes.continues_nil _ more
  | cons q cs =>
      cases hq : isQuote q with
      | false =>
          apply Continues.same
          rw [List.cons_append, quotedText_cons_eq_none hq, quotedText_cons_eq_none hq]
          rfl
      | true =>
          obtain ⟨hdrop, hmore⟩ | ⟨hdrop, hmore, htake⟩ := run_append (· ≠ q) cs more
          · have hcs : quotedText (q :: cs) = none := by simp only [quotedText, hq, if_true, hdrop]
            cases hclose : more.dropWhile (· ≠ q) with
            | nil =>
                apply Continues.same
                rw [hcs]
                simp only [List.cons_append, quotedText, hq, if_true, hmore, hclose]
                rfl
            | cons d rest =>
                have hread : quotedText (q :: cs ++ more) =
                    some (String.ofList ((cs ++ more).takeWhile (· ≠ q)), rest) := by
                  simp only [List.cons_append, quotedText, hq, if_true, hmore, hclose]
                refine .passes hread ?_ ?_
                · have hle := (List.dropWhile_suffix (· ≠ q) (l := more)).length_le
                  rw [hclose, List.length_cons] at hle
                  omega
                · intro text rest' h
                  simp [hcs] at h
          · cases hclose : cs.dropWhile (· ≠ q) with
            | nil => exact absurd hclose hdrop
            | cons d rest =>
                apply Continues.same
                simp only [List.cons_append, quotedText, hq, if_true, hmore, htake, hclose]
                rfl

/-! ## Numbers -/

/-- What a number may leave in front of more of it: nothing, or a point that no digit follows. -/
def EndsOpen (rest : List Char) : Prop := rest = [] ∨ rest = ['.']

theorem length_numerals_le {cs rest : List Char} {n : Numerals}
    (h : numerals cs = some (n, rest)) : rest.length ≤ (cs.dropWhile Char.isDigit).length := by
  simp only [numerals] at h
  split at h
  · rename_i d tail hdrop
    rw [hdrop]
    split at h
    · obtain ⟨-, rfl⟩ := Prod.mk.inj (Option.some.inj h)
      have hle := (List.dropWhile_suffix Char.isDigit (l := tail)).length_le
      simp only [List.length_cons]
      omega
    · split at h
      · simp at h
      · obtain ⟨-, rfl⟩ := Prod.mk.inj (Option.some.inj h)
        exact Nat.le_refl _
  · split at h
    · simp at h
    · obtain ⟨-, rfl⟩ := Prod.mk.inj (Option.some.inj h)
      exact Nat.le_refl _

/-- Without a digit behind a point, digits are read alone. -/
theorem numerals_of_whole {cs rest : List Char} (hrest : cs.dropWhile Char.isDigit = rest)
    (h : ∀ d tail, rest = '.' :: d :: tail → d.isDigit = false) :
    numerals cs = if (cs.takeWhile Char.isDigit).isEmpty then none
      else some (⟨cs.takeWhile Char.isDigit, []⟩, rest) := by
  simp only [numerals, hrest]
  split
  · rename_i d tail
    simp only [h d tail rfl, Bool.false_eq_true, if_false]
  · rfl

theorem numerals_of_point {cs tail : List Char} {d : Char}
    (hrest : cs.dropWhile Char.isDigit = '.' :: d :: tail) (hd : d.isDigit = true) :
    numerals cs = some (⟨cs.takeWhile Char.isDigit, d :: tail.takeWhile Char.isDigit⟩,
      tail.dropWhile Char.isDigit) := by
  simp only [numerals, hrest, hd, if_true]

theorem numerals_consumes : Consumes numerals := by
  intro cs n rest h
  obtain ⟨rfl, hn⟩ := numerals_sound h
  obtain ⟨c, ds, htext, -⟩ := Numerals.exists_cons_text hn
  rw [htext, List.length_append, List.length_cons]
  omega

/-- Digits and a fraction: the fraction may go on behind the text. -/
theorem numerals_continues_fraction {cs tail more : List Char} {d : Char}
    (hrest : cs.dropWhile Char.isDigit = '.' :: d :: tail)
    (hmore : (cs ++ more).dropWhile Char.isDigit = '.' :: d :: (tail ++ more))
    (htake : (cs ++ more).takeWhile Char.isDigit = cs.takeWhile Char.isDigit)
    (hd : d.isDigit = true) : Continues EndsOpen numerals cs more := by
  have hread := numerals_of_point hmore hd
  obtain ⟨htail, htail'⟩ | ⟨-, htail, htail'⟩ := run_append Char.isDigit tail more
  · refine .passes hread ?_ ?_
    · rw [htail']
      exact (List.dropWhile_suffix _).length_le
    · intro n rest hcs
      rw [numerals_of_point hrest hd, htail] at hcs
      exact .inl (Prod.mk.inj (Option.some.inj hcs)).2.symm
  · apply Continues.same
    rw [hread, numerals_of_point hrest hd, htake, htail, htail']
    rfl

/-- Digits alone go on behind the text, and are read with all that follows them. -/
theorem numerals_continues_digits {c : Char} {cs more : List Char}
    (hdrop : (c :: cs).dropWhile Char.isDigit = [])
    (hmore : (c :: cs ++ more).dropWhile Char.isDigit = more.dropWhile Char.isDigit) :
    Continues EndsOpen numerals (c :: cs) more := by
  have hc : c.isDigit = true := by
    cases hc : c.isDigit with
    | true => rfl
    | false => simp [hc] at hdrop
  cases hread : numerals (c :: cs ++ more) with
  | none =>
      -- There is a digit to be read.
      exfalso
      simp only [numerals, List.cons_append, List.takeWhile_cons, hc, if_true, List.isEmpty_cons,
        Bool.false_eq_true, if_false] at hread
      split at hread
      · split at hread <;> simp at hread
      · simp at hread
  | some result =>
      refine .passes hread ?_ ?_
      · have hle := length_numerals_le hread
        rw [hmore] at hle
        exact Nat.le_trans hle (List.dropWhile_suffix _).length_le
      · intro n rest hcs
        have hle := length_numerals_le hcs
        rw [hdrop, List.length_nil] at hle
        exact .inl (List.length_eq_zero_iff.1 (Nat.le_zero.1 hle))

theorem numerals_persists : Persists EndsOpen numerals := by
  intro cs more
  cases cs with
  | nil => exact numerals_consumes.continues_nil _ more
  | cons c cs =>
      obtain ⟨hdrop, hmore⟩ | ⟨hdrop, hmore, htake⟩ := run_append Char.isDigit (c :: cs) more
      · exact numerals_continues_digits hdrop hmore
      · -- The digits end within the text, and at a point the character behind it decides.
        cases hrest : (c :: cs).dropWhile Char.isDigit with
        | nil => exact absurd hrest hdrop
        | cons e tail =>
            rw [hrest] at hmore
            have hwhole : (∀ d ds, e :: tail ++ more = '.' :: d :: ds → d.isDigit = false) →
                (∀ d ds, e :: tail = '.' :: d :: ds → d.isDigit = false) →
                Continues EndsOpen numerals (c :: cs) more := by
              intro hlonger hshorter
              apply Continues.same
              rw [numerals_of_whole hmore hlonger, numerals_of_whole hrest hshorter, htake]
              split <;> rfl
            by_cases he : e = '.'
            · subst he
              cases tail with
              | cons d tail =>
                  cases hd : d.isDigit with
                  | false => exact hwhole (by simpa) (by simpa)
                  | true => exact numerals_continues_fraction hrest hmore htake hd
              | nil =>
                  cases more with
                  | nil => exact hwhole (by simp) (by simp)
                  | cons d more =>
                      cases hd : d.isDigit with
                      | false => exact hwhole (by simpa) (by simp)
                      | true =>
                          refine .passes (numerals_of_point hmore hd) ?_ ?_
                          · have hle := (List.dropWhile_suffix Char.isDigit (l := more)).length_le
                            rw [List.length_cons]
                            omega
                          · intro n rest hcs
                            rw [numerals_of_whole hrest (by simp)] at hcs
                            split at hcs
                            · simp at hcs
                            · exact .inr (Prod.mk.inj (Option.some.inj hcs)).2.symm
            · refine hwhole ?_ ?_
              · intro d ds heq
                exact absurd (List.cons.inj heq).1 he
              · intro d ds heq
                exact absurd (List.cons.inj heq).1 he

theorem signedNumber_persists : Persists EndsOpen signedNumber := by
  intro cs more
  cases cs with
  | nil => exact signedNumber_consumes.continues_nil _ more
  | cons c cs =>
      have hsign := takeSign_append (List.cons_ne_nil c cs) more
      have hmore : signedNumber (c :: cs ++ more) =
          numerals.map (·.toDouble (takeSign (c :: cs)).1) ((takeSign (c :: cs)).2 ++ more) := by
        rw [signedNumber_eq, hsign]
      cases map_persists numerals_persists (·.toDouble (takeSign (c :: cs)).1)
          (takeSign (c :: cs)).2 more with
      | same hsame =>
          apply Continues.same
          rw [hmore, hsame, signedNumber_eq]
      | passes hread hrest hleft =>
          refine .passes (hmore.trans hread) hrest ?_
          rwa [signedNumber_eq]

/-! ## Arguments and commands -/

/-- No bar comes next, blanks aside. -/
def NoBar (cs : List Char) : Prop := ∀ tail, skipBlanks cs ≠ '|' :: tail

/-- Of the sorts of argument only one can read a text, whatever is put behind it. -/
theorem argument_persists : Persists EndsOpen argument := by
  have hopen : ∀ rest : List Char, rest = [] → EndsOpen rest := fun rest h => .inl h
  refine orElse_persists (orElse_persists (orElse_persists (orElse_persists
    (map_persists (identifier_persists.mono hopen) _)
    (map_persists (flagName_persists.mono hopen) _) ?flag)
    (map_persists (variableName_persists.mono hopen) _) ?var)
    (map_persists (quotedText_persists EndsOpen) _) ?quoted)
    (map_persists signedNumber_persists _) ?number
  all_goals
    intro cs more a rest _ hread
    left
    obtain ⟨result, hread, -⟩ := Option.map_eq_some_iff.1 hread
  case flag =>
    obtain ⟨front, rfl, ⟨-⟩⟩ := flagName_sound _ _ _ hread
    exact map_of_none (identifier_cons_eq_none (by decide) _)
  case var =>
    obtain ⟨front, rfl, ⟨-⟩⟩ := variableName_sound _ _ _ hread
    exact orElse_eq_none (map_of_none (identifier_cons_eq_none (by decide) _))
      (map_of_none (after_of_ne (by decide) _))
  case quoted =>
    obtain ⟨front, rfl, hfront⟩ := quotedText_sound _ _ _ hread
    obtain ⟨q, body, hq, -, rfl, -⟩ := quotedString_iff.1 hfront
    exact orElse_eq_none
      (orElse_eq_none
        (map_of_none (identifier_cons_eq_none (startsIdentifier_of_isQuote hq) _))
        (map_of_none (after_of_ne (isQuote_ne hq (by decide)) _)))
      (map_of_none (after_of_ne (isQuote_ne hq (by decide)) _))
  case number =>
    obtain ⟨front, rfl, hfront⟩ := signedNumber_sound _ _ _ hread
    have hflag := flagName_literal_eq_none hfront.literal (result.2 ++ more)
    obtain ⟨c, ds, rfl, hc⟩ := exists_cons_of_numberLiteral hfront.literal
    rw [List.append_assoc]
    exact orElse_eq_none
      (orElse_eq_none
        (orElse_eq_none
          (map_of_none (identifier_cons_eq_none hc.startsIdentifier_eq_false _))
          (map_of_none hflag))
        (map_of_none (after_of_ne hc.ne_dollar _)))
      (map_of_none (quotedText_cons_eq_none hc.isQuote_eq_false _))

theorem argument_eq_none_of_endsOpen {rest : List Char} (h : EndsOpen rest) :
    argument.spaced rest = none := by
  rcases h with rfl | rfl
  · rfl
  · decide +kernel

theorem EndsOpen.noBar {rest : List Char} (h : EndsOpen rest) : NoBar rest := by
  intro tail hbar
  rcases h with rfl | rfl
  · cases hbar
  · rw [skipBlanks_cons (by decide)] at hbar
    exact absurd (List.cons.inj hbar).1 (by decide)

/-- Where an argument is read if there is more behind the text, no bar comes next. -/
theorem noBar_of_argument {cs more : List Char} {result : Statement × List Char}
    (h : argument.spaced (cs ++ more) = some result) : NoBar cs := by
  intro tail hbar
  have hne : skipBlanks cs ≠ [] := by
    rw [hbar]
    exact List.cons_ne_nil _ _
  have hends : EndsCommand (cs ++ more) :=
    .inr ⟨tail ++ more, by rw [skipBlanks_append_of_ne_nil hne, hbar, List.cons_append]⟩
  rw [hends.argument_eq_none] at h
  cases h

theorem arguments_persist (cs more : List Char) :
    argument.spaced.many (cs ++ more) =
        ((argument.spaced.many cs).1, (argument.spaced.many cs).2 ++ more) ∨
      (argument.spaced.many (cs ++ more)).2.length ≤ more.length ∧
        NoBar (argument.spaced.many cs).2 := by
  have hargument : Consumes argument := by
    refine consumes_of_sound argument_sound (fun cs a h => ?_)
    obtain ⟨c, ds, rfl, -⟩ := startsPart_of_argument h
    exact List.cons_ne_nil c ds
  refine many_persists (spaced_persists argument_persists hargument) argument_consumes ?_ ?_ cs more
  · intro rest hrest
    rw [many_of_none (argument_eq_none_of_endsOpen hrest)]
    exact hrest.noBar
  · intro cs more result _ hmore
    exact noBar_of_argument hmore

theorem call_of_identifier {cs rest : List Char} {name : String}
    (h : identifier cs = some (name, rest)) :
    call cs = some (⟨name, (argument.spaced.many rest).1⟩, (argument.spaced.many rest).2) := by
  simp only [call, h]

/-- A command goes on with what is put behind it only if no bar comes after it. -/
theorem call_persists : Persists NoBar call := by
  intro cs more
  cases identifier_persists cs more with
  | same hsame =>
      cases hread : identifier cs with
      | none =>
          rw [hread] at hsame
          apply Continues.same
          simp only [call, hsame, hread]
          rfl
      | some result =>
          obtain ⟨name, rest⟩ := result
          rw [hread] at hsame
          have hcs := call_of_identifier hread
          have hmore := call_of_identifier hsame
          rcases arguments_persist rest more with hsame' | ⟨hlength, hbar⟩
          · apply Continues.same
            rw [hmore, hcs, hsame']
            rfl
          · refine .passes hmore hlength ?_
            intro c rest' h
            rw [hcs] at h
            rwa [← (Prod.mk.inj (Option.some.inj h)).2]
  | @passes name rest hread hrest hleft =>
      have hle := length_many_le argument_consumes rest
      refine .passes (call_of_identifier hread) (Nat.le_trans hle hrest) ?_
      intro c rest' h
      cases hread' : identifier cs with
      | none => simp [call, hread'] at h
      | some result =>
          -- The name stood at the end of the text, so there were no arguments.
          obtain ⟨name', back⟩ := result
          obtain rfl := hleft name' back hread'
          rw [call_of_identifier hread', many_of_none argument_consumes.nil] at h
          rw [← (Prod.mk.inj (Option.some.inj h)).2]
          exact EndsOpen.noBar (.inl rfl)

/-! ## Statements -/

theorem call_consumes : Consumes call := by
  refine consumes_of_sound call_sound (fun cs c h => ?_)
  obtain ⟨d, ds, rfl, -⟩ := exists_cons_of_command h
  exact List.cons_ne_nil d ds

theorem stage_eq_none_of_noBar {cs : List Char} (h : NoBar cs) : stage cs = none := by
  rw [stage, marked, spaced]
  cases hcs : skipBlanks cs with
  | nil => rfl
  | cons c tail =>
      apply after_of_ne
      rintro rfl
      exact h tail hcs

theorem pipeChain_persists : Persists (fun _ => True) pipeChain := by
  have hstage := marked_persists call_persists call_consumes '|'
  refine persists_of_bind (k := fun first => stage.many1 fun calls => .pipe (first :: calls))
    call_persists (fun first => many1_persists hstage stage_consumes _)
    (fun _ _ _ _ h => length_many1_le stage_consumes h) ?_ ?_ ?_
  · intro first rest hbar
    exact many1_of_none (stage_eq_none_of_noBar hbar)
  · intro cs hread
    simp only [pipeChain, hread]
  · intro cs first rest hread
    simp only [pipeChain, hread, many1, stage]
    cases (call.marked '|').many rest with
    | mk calls rest' => cases calls <;> rfl

theorem reflection_persists : Persists (fun _ => True) reflection := by
  have hmember := marked_persists identifier_persists identifier_consumes '.'
  refine persists_of_bind (k := fun name => member.many1 (.reflect name))
    variableName_persists (fun name => many1_persists hmember member_consumes _)
    (fun _ _ _ _ h => length_many1_le member_consumes h) ?_ ?_ ?_
  · rintro name rest rfl
    exact many1_of_none member_consumes.nil
  · intro cs hread
    simp only [reflection, hread]
  · intro cs name rest hread
    simp only [reflection, hread, many1, member]
    cases (identifier.marked '.').many rest with
    | mk members rest' => cases members <;> rfl

theorem operand_persists : Persists (fun _ => True) operand :=
  orElse_persists_of_true
    (orElse_persists_of_true
      (orElse_persists_of_true
        (orElse_persists_of_true
          (orElse_persists_of_true pipeChain_persists reflection_persists)
          (map_persists (call_persists.mono fun _ _ => trivial) _))
        (map_persists (variableName_persists.mono fun _ _ => trivial) _))
      (map_persists (quotedText_persists _) _))
    (map_persists (signedNumber_persists.mono fun _ _ => trivial) _)

theorem operand_consumes : Consumes operand := by
  refine consumes_of_sound operand_sound (fun cs s h => ?_)
  obtain ⟨c, ds, rfl, -⟩ := startsPart_of_operand h
  exact List.cons_ne_nil c ds

theorem assignment_persists : Persists (fun _ => True) assignment := by
  have hvalue := marked_persists operand_persists operand_consumes '='
  refine persists_of_bind (k := fun name => (operand.marked '=').map (.assign name))
    variableName_persists (fun name => map_persists hvalue _) ?_ ?_ ?_ ?_
  · intro name cs s rest h
    obtain ⟨result, hread, heq⟩ := Option.map_eq_some_iff.1 h
    obtain ⟨-, rfl⟩ := Prod.mk.inj heq
    exact Nat.le_of_lt ((operand_consumes.spaced.after '=').spaced _ _ _ hread)
  · rintro name rest rfl
    exact map_of_none (marked_of_blanks blanks_nil)
  · intro cs hread
    simp only [assignment, hread]
  · intro cs name rest hread
    simp only [assignment, hread]

/-- With more behind a text, a statement is read as before or goes through the whole text. -/
theorem statement_persists : Persists (fun _ => True) statement :=
  orElse_persists_of_true assignment_persists operand_persists

theorem statement_consumes : Consumes statement := by
  refine consumes_of_sound statement_sound (fun cs s h => ?_)
  obtain ⟨c, ds, rfl, -⟩ := startsPart_of_sentence h
  exact List.cons_ne_nil c ds

/-! ## The end of a text -/

theorem exists_trimEnd_append (cs : List Char) :
    ∃ blanks, Blanks blanks ∧ cs = trimEnd cs ++ blanks := by
  obtain ⟨blanks, hblanks, hcs⟩ := exists_append_skipBlanks cs.reverse
  refine ⟨blanks.reverse, ?_, ?_⟩
  · intro c hc
    exact hblanks c (List.mem_reverse.1 hc)
  · have hreverse := congrArg List.reverse hcs
    rwa [List.reverse_reverse, List.reverse_append] at hreverse

theorem isBlank_of_getLast?_trimEnd {cs : List Char} {c : Char}
    (h : (trimEnd cs).getLast? = some c) : isBlank c = false := by
  have hhead := List.head?_dropWhile_not isBlank cs.reverse
  rw [trimEnd, List.getLast?_reverse] at h
  rw [h] at hhead
  simpa using hhead

/-- A text that does not start with a blank starts the same without the blanks at its end. -/
theorem trimEnd_cons {c : Char} (hc : isBlank c = false) (cs : List Char) :
    ∃ ds, trimEnd (c :: cs) = c :: ds := by
  obtain ⟨blanks, hblanks, hcs⟩ := exists_trimEnd_append (c :: cs)
  cases htrim : trimEnd (c :: cs) with
  | nil =>
      rw [htrim, List.nil_append] at hcs
      have hblank := hblanks c (by rw [← hcs]; exact List.mem_cons_self)
      rw [hc] at hblank
      cases hblank
  | cons d ds =>
      rw [htrim, List.cons_append] at hcs
      exact ⟨ds, by rw [(List.cons.inj hcs).1]⟩

/-! ## Lines -/

/-- A line that is read holds a statement up to blanks. -/
theorem statement_of_parse {line : String} {s : Statement} (h : Statement.parse line = .ok s) :
    ∃ rest, statement (skipBlanks line.toList) = some (s, rest) ∧ Blanks rest := by
  simp only [Statement.parse] at h
  split at h
  · cases h
  · split at h
    · cases h
    · rename_i result rest hread
      split at h
      · rename_i hrest
        cases h
        exact ⟨rest, hread, skipBlanks_eq_nil_iff.1 hrest⟩
      · cases h

theorem isBlank_of_skipBlanks {cs tail : List Char} {c : Char} (h : skipBlanks cs = c :: tail) :
    isBlank c = false := by
  have hhead := List.head?_dropWhile_not isBlank cs
  rw [skipBlanks] at h
  rw [h] at hhead
  simpa using hhead

theorem stoppedAt_append (front rest : List Char) :
    stoppedAt (front ++ rest) rest =
      .incompleteParse (String.ofList (trimEnd rest)) front.length := by
  rw [stoppedAt, List.length_append, Nat.add_sub_cancel_right]

/-- The two parts of a line that is read in part: the first is blank or a line of its own, and the
second starts where reading stopped. -/
theorem split_of_incompleteParse {line remainder : String} {offset : Nat}
    (h : Statement.parse line = .error (.incompleteParse remainder offset)) :
    ∃ front c tail, line.toList = front ++ c :: tail ∧ isBlank c = false ∧
      remainder = String.ofList (trimEnd (c :: tail)) ∧ offset = front.length ∧
      (Blanks front ∨ ∃ s, Grammar.Line front s) ∧
      ∀ s back, statement (skipBlanks line.toList) = some (s, back) →
        skipBlanks back = c :: tail := by
  have hstop : ∀ front rest, line.toList = front ++ rest →
      stoppedAt line.toList rest = .incompleteParse remainder offset →
      remainder = String.ofList (trimEnd rest) ∧ offset = front.length := by
    intro front rest hline hfault
    rw [hline, stoppedAt_append] at hfault
    cases hfault
    exact ⟨rfl, rfl⟩
  obtain ⟨before, hbefore, hline⟩ := exists_append_skipBlanks line.toList
  simp only [Statement.parse] at h
  split at h
  · cases h
  · rename_i hblank
    split at h
    · rename_i hread
      cases hrest : skipBlanks line.toList with
      | nil => exact absurd (List.all_eq_true.2 (skipBlanks_eq_nil_iff.1 hrest)) hblank
      | cons c tail =>
          rw [hrest] at hline h
          obtain ⟨hremainder, hoffset⟩ := hstop before (c :: tail) hline (Except.error.inj h)
          refine ⟨before, c, tail, hline, isBlank_of_skipBlanks hrest, hremainder, hoffset,
            .inl hbefore, ?_⟩
          intro s back hsome
          rw [← hrest, hread] at hsome
          cases hsome
    · rename_i s back hread
      split at h
      · cases h
      · obtain ⟨front, hfront, hs⟩ := statement_sound _ _ _ hread
        obtain ⟨after, hafter, hback⟩ := exists_append_skipBlanks back
        cases hrest : skipBlanks back with
        | nil =>
            rename_i hne
            exact absurd hrest hne
        | cons c tail =>
            have hline' : line.toList = before ++ front ++ after ++ c :: tail := by
              rw [hrest] at hback
              rw [hfront, hback] at hline
              rw [hline]
              simp only [List.append_assoc]
            rw [hrest] at h
            obtain ⟨hremainder, hoffset⟩ := hstop _ (c :: tail) hline' (Except.error.inj h)
            refine ⟨before ++ front ++ after, c, tail, hline', isBlank_of_skipBlanks hrest,
              hremainder, hoffset, .inr ⟨s, .mk hbefore hs hafter⟩, ?_⟩
            intro s' back' hsome
            rw [hread] at hsome
            cases hsome
            exact hrest

/-- A part of a line that is read by itself ends where reading the line stops, or before. -/
theorem length_le_of_parse_prefix {line : String} {front more : List Char} {s : Statement}
    (hline : line.toList = front ++ more)
    (h : Statement.parse (String.ofList front) = .ok s) :
    ∃ s' back, statement (skipBlanks line.toList) = some (s', back) ∧
      (skipBlanks back).length ≤ more.length := by
  have hskip : ∀ cs : List Char, (skipBlanks cs).length ≤ cs.length :=
    fun cs => (List.dropWhile_suffix isBlank).length_le
  obtain ⟨rest, hread, hrest⟩ := statement_of_parse h
  rw [String.toList_ofList] at hread
  have hne : skipBlanks front ≠ [] := by
    intro hnil
    rw [hnil, statement_consumes.nil] at hread
    cases hread
  rw [hline, skipBlanks_append_of_ne_nil hne]
  cases statement_persists (skipBlanks front) more with
  | same hsame =>
      rw [hread] at hsame
      refine ⟨s, rest ++ more, hsame, ?_⟩
      rw [skipBlanks_append hrest]
      exact hskip more
  | @passes s' back hmore hback _ =>
      exact ⟨s', back, hmore, Nat.le_trans (hskip back) hback⟩

/-- Where a line is read no further.  The remainder goes from there to the last character that is
no blank. -/
structure StopsAt (line remainder : String) (offset : Nat) : Prop where
  offset_lt : offset < line.length
  /-- From there on the line is the remainder and then blanks. -/
  drop_eq : ∃ blanks, Blanks blanks ∧ line.toList.drop offset = remainder.toList ++ blanks
  ne_empty : remainder ≠ ""
  head_not_blank : ∀ c, remainder.toList.head? = some c → isBlank c = false
  last_not_blank : ∀ c, remainder.toList.getLast? = some c → isBlank c = false
  /-- Up to there the line is blank, or could stand by itself. -/
  readable : Blanks (line.toList.take offset) ∨
    ∃ s, Statement.parse (String.ofList (line.toList.take offset)) = .ok s
  /-- No longer part of the line could stand by itself. -/
  longest : ∀ k, offset < k → k ≤ line.length →
    ∀ s, Statement.parse (String.ofList (line.toList.take k)) ≠ .ok s

/-- A line that is read in part is read up to the end of its longest part that could stand by
itself. -/
theorem incompleteParse_stops_at_longest (line remainder : String) (offset : Nat)
    (h : Statement.parse line = .error (.incompleteParse remainder offset)) :
    StopsAt line remainder offset := by
  obtain ⟨front, c, tail, hline, hc, rfl, rfl, hfront, hstop⟩ := split_of_incompleteParse h
  obtain ⟨ds, htrim⟩ := trimEnd_cons hc tail
  have hlength : line.length = front.length + (c :: tail).length := by
    rw [← String.length_toList, hline, List.length_append]
  constructor
  case offset_lt =>
    rw [hlength, List.length_cons]
    omega
  case drop_eq =>
    obtain ⟨blanks, hblanks, hrest⟩ := exists_trimEnd_append (c :: tail)
    refine ⟨blanks, hblanks, ?_⟩
    rw [hline, List.drop_left, String.toList_ofList]
    exact hrest
  case ne_empty =>
    rw [htrim]
    intro hempty
    have hnil := congrArg String.toList hempty
    rw [String.toList_ofList] at hnil
    cases hnil
  case head_not_blank =>
    intro d hd
    rw [String.toList_ofList, htrim] at hd
    cases hd
    exact hc
  case last_not_blank =>
    intro d hd
    rw [String.toList_ofList] at hd
    exact isBlank_of_getLast?_trimEnd hd
  case readable =>
    rw [hline, List.take_left]
    refine hfront.imp_right ?_
    rintro ⟨s, hs⟩
    exact parse_of_line (by rwa [String.toList_ofList])
  case longest =>
    intro k hk hle s hparse
    have hsplit : line.toList = line.toList.take k ++ line.toList.drop k :=
      (List.take_append_drop k line.toList).symm
    obtain ⟨s', back, hread, hback⟩ := length_le_of_parse_prefix hsplit hparse
    rw [hstop s' back hread, List.length_drop, String.length_toList, hlength] at hback
    omega

/-- Reading stops in front of a bar with no command behind it. -/
theorem incompleteParse_open_bar :
    Statement.parse " a $b | 'c " = .error (.incompleteParse "| 'c" 6) ∧
      StopsAt " a $b | 'c " "| 'c" 6 := by
  have h : Statement.parse " a $b | 'c " = .error (.incompleteParse "| 'c" 6) := by rfl
  exact ⟨h, incompleteParse_stops_at_longest _ _ _ h⟩

end VerbNoun
