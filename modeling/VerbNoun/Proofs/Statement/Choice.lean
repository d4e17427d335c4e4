import VerbNoun.Proofs.Statement.Soundness
set_option autoImplicit false

/-!
# Choice: which alternative reads (SPEC §4.1)

The alternatives are told apart by the first character: a letter or an underscore, a dollar
sign, a quote, or what a number starts with.  A dash starts a flag or a number, and the
character after it tells which.
-/

namespace VerbNoun

open Lang Number Reader Text

/-! ## First characters -/

theorem startsIdentifier_ne_dollar {c : Char} (h : startsIdentifier c = true) : c ≠ '$' := by
  rintro rfl
  exact absurd h (by decide)

theorem startsIdentifier_of_isQuote {q : Char} (h : isQuote q = true) :
    startsIdentifier q = false := by
  rcases isQuote_iff.1 h with rfl | rfl <;> decide

theorem isQuote_ne {q c : Char} (h : isQuote q = true) (hc : isQuote c = false) : q ≠ c := by
  rintro rfl
  rw [h] at hc
  exact absurd hc (by decide)

/-- A dash that starts a number is followed by no identifier. -/
theorem identifier_decimal_eq_none {cs : List Char} (h : Grammar.Decimal cs) (rest : List Char) :
    identifier (cs ++ rest) = none := by
  obtain ⟨n, hn, rfl⟩ := decimal_iff.1 h
  obtain ⟨c, ds, htext, hc⟩ := Numerals.exists_cons_text hn
  rw [htext, List.cons_append]
  apply identifier_cons_eq_none
  exact StartsNumber.startsIdentifier_eq_false (.inr (.inr hc))

theorem flagName_literal_eq_none {cs : List Char} (h : Grammar.NumberLiteral cs)
    (rest : List Char) : flagName (cs ++ rest) = none := by
  cases h with
  | minus h =>
      rw [List.cons_append, flagName, after_mark]
      exact identifier_decimal_eq_none h rest
  | plus h => exact after_of_ne (by decide) _
  | unsigned h =>
      obtain ⟨n, hn, rfl⟩ := decimal_iff.1 h
      obtain ⟨c, ds, htext, hc⟩ := Numerals.exists_cons_text hn
      have hdash : c ≠ '-' := by rintro rfl; revert hc; decide
      rw [htext]
      exact after_of_ne hdash _

/-! ## Arguments -/

theorem argument_of_identifier {cs rest : List Char} {text : String}
    (h : identifier cs = some (text, rest)) : argument cs = some (.word text, rest) := by
  simp [argument, orElse, Reader.map, h]

theorem argument_of_flag {cs rest : List Char} {name : String}
    (h : identifier cs = some (name, rest)) : argument ('-' :: cs) = some (.flag name, rest) := by
  have hword : identifier ('-' :: cs) = none := identifier_cons_eq_none (by decide) cs
  have hflag : flagName ('-' :: cs) = some (name, rest) := by rw [flagName, after_mark, h]
  simp [argument, orElse, Reader.map, hword, hflag]

theorem argument_of_variable {cs rest : List Char} {name : String}
    (h : identifier cs = some (name, rest)) : argument ('$' :: cs) = some (.var name, rest) := by
  have hword : identifier ('$' :: cs) = none := identifier_cons_eq_none (by decide) cs
  have hflag : flagName ('$' :: cs) = none := after_of_ne (by decide) cs
  have hvar : variableName ('$' :: cs) = some (name, rest) := by rw [variableName, after_mark, h]
  simp [argument, orElse, Reader.map, hword, hflag, hvar]

theorem argument_of_quoted {q : Char} {cs rest : List Char} {text : String}
    (hq : isQuote q = true) (h : quotedText (q :: cs) = some (text, rest)) :
    argument (q :: cs) = some (.quoted text, rest) := by
  have hword : identifier (q :: cs) = none :=
    identifier_cons_eq_none (startsIdentifier_of_isQuote hq) cs
  have hflag : flagName (q :: cs) = none := after_of_ne (isQuote_ne hq (by decide)) cs
  have hvar : variableName (q :: cs) = none := after_of_ne (isQuote_ne hq (by decide)) cs
  simp [argument, orElse, Reader.map, hword, hflag, hvar, h]

theorem argument_of_number {cs rest rest' : List Char} {x : Double}
    (hcs : Grammar.NumberLiteral cs) (h : signedNumber (cs ++ rest) = some (x, rest')) :
    argument (cs ++ rest) = some (.number x, rest') := by
  have hflag := flagName_literal_eq_none hcs rest
  obtain ⟨c, ds, rfl, hc⟩ := exists_cons_of_numberLiteral hcs
  have hword : identifier (c :: ds ++ rest) = none :=
    identifier_cons_eq_none hc.startsIdentifier_eq_false _
  have hvar : variableName (c :: ds ++ rest) = none := after_of_ne hc.ne_dollar _
  have hquoted : quotedText (c :: ds ++ rest) = none :=
    quotedText_cons_eq_none hc.isQuote_eq_false _
  simp only [argument, orElse, Reader.map, hword, hflag, hvar, hquoted, h, Option.map_none,
    Option.map_some]

/-! ## Statements -/

theorem call_cons_eq_none {c : Char} (h : startsIdentifier c = false) (cs : List Char) :
    call (c :: cs) = none := by
  simp [call, identifier_cons_eq_none h]

theorem pipeChain_cons_eq_none {c : Char} (h : startsIdentifier c = false) (cs : List Char) :
    pipeChain (c :: cs) = none := by
  simp [pipeChain, call_cons_eq_none h]

theorem variableName_cons_eq_none {c : Char} (h : c ≠ '$') (cs : List Char) :
    variableName (c :: cs) = none :=
  after_of_ne h cs

theorem reflection_cons_eq_none {c : Char} (h : c ≠ '$') (cs : List Char) :
    reflection (c :: cs) = none := by
  simp [reflection, variableName_cons_eq_none h]

theorem assignment_cons_eq_none {c : Char} (h : c ≠ '$') (cs : List Char) :
    assignment (c :: cs) = none := by
  simp [assignment, variableName_cons_eq_none h]

theorem operand_of_pipeChain {cs : List Char} {result : Statement × List Char}
    (h : pipeChain cs = some result) : operand cs = some result := by
  simp [operand, orElse, h]

theorem operand_of_call {c : Char} {cs rest : List Char} {command : Call}
    (hc : startsIdentifier c = true) (hpipe : pipeChain (c :: cs) = none)
    (h : call (c :: cs) = some (command, rest)) :
    operand (c :: cs) = some (.command command, rest) := by
  have hreflection := reflection_cons_eq_none (startsIdentifier_ne_dollar hc) cs
  simp [operand, orElse, Reader.map, hpipe, hreflection, h]

theorem operand_of_reflection {cs : List Char} {result : Statement × List Char}
    (h : reflection ('$' :: cs) = some result) : operand ('$' :: cs) = some result := by
  have hpipe : pipeChain ('$' :: cs) = none := pipeChain_cons_eq_none (by decide) cs
  simp [operand, orElse, hpipe, h]

theorem operand_of_variable {cs rest : List Char} {name : String}
    (hreflection : reflection ('$' :: cs) = none)
    (h : variableName ('$' :: cs) = some (name, rest)) :
    operand ('$' :: cs) = some (.var name, rest) := by
  have hpipe : pipeChain ('$' :: cs) = none := pipeChain_cons_eq_none (by decide) cs
  have hcall : call ('$' :: cs) = none := call_cons_eq_none (by decide) cs
  simp [operand, orElse, Reader.map, hpipe, hreflection, hcall, h]

/-- Where neither an identifier nor a variable starts, there is a text or a number. -/
theorem operand_of_literal {c : Char} (hc : startsIdentifier c = false) (hdollar : c ≠ '$')
    (cs : List Char) :
    operand (c :: cs) =
      ((quotedText.map Statement.quoted).orElse (signedNumber.map .number)) (c :: cs) := by
  simp [operand, orElse, Reader.map, pipeChain_cons_eq_none hc, reflection_cons_eq_none hdollar,
    call_cons_eq_none hc, variableName_cons_eq_none hdollar]

theorem operand_of_quoted {q : Char} {cs rest : List Char} {text : String}
    (hq : isQuote q = true) (h : quotedText (q :: cs) = some (text, rest)) :
    operand (q :: cs) = some (.quoted text, rest) := by
  rw [operand_of_literal (startsIdentifier_of_isQuote hq) (isQuote_ne hq (by decide))]
  exact orElse_of_some (map_of_some h)

theorem operand_of_number {c : Char} {cs rest : List Char} {x : Double} (hc : StartsNumber c)
    (h : signedNumber (c :: cs) = some (x, rest)) :
    operand (c :: cs) = some (.number x, rest) := by
  have hquoted := quotedText_cons_eq_none hc.isQuote_eq_false cs
  rw [operand_of_literal hc.startsIdentifier_eq_false hc.ne_dollar,
    orElse_of_none (map_of_none hquoted), map_of_some h]

end VerbNoun
