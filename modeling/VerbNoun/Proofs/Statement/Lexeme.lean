import VerbNoun.Proofs.Statement.Characters
import VerbNoun.Proofs.Statement.Grammar
set_option autoImplicit false

/-!
# Lexeme: the smallest parts, read and derived (SPEC §4.1)

For each of the smallest parts: what its reader takes is a text of its language, and in front of
any rest the reader takes a text of the language whole, together with as much of the rest as
goes on like it.
-/

namespace VerbNoun

open Lang Number Reader Text

/-! ## Identifiers -/

theorem identifier_sound : Sound Grammar.Identifier identifier := by
  intro cs name rest h
  cases cs with
  | nil => simp [identifier] at h
  | cons c cs =>
      simp only [identifier] at h
      split at h
      · rename_i hc
        obtain ⟨rfl, rfl⟩ := Prod.mk.inj (Option.some.inj h)
        refine ⟨c :: cs.takeWhile continuesIdentifier, ?_, .mk (startsIdentifier_iff.1 hc) ?_⟩
        · rw [List.cons_append, List.takeWhile_append_dropWhile]
        · intro d hd
          exact continuesIdentifier_iff.1 (List.all_eq_true.1 List.all_takeWhile d hd)
      · simp at h

/-- An identifier in front of any text is read with all that goes on like it. -/
theorem identifier_append {cs : List Char} {name : String} (h : Grammar.Identifier cs name)
    (rest : List Char) :
    identifier (cs ++ rest) = some (String.ofList (cs ++ rest.takeWhile continuesIdentifier),
      rest.dropWhile continuesIdentifier) := by
  cases h with
  | @mk c ds hc hds =>
      have hruns : ∀ d ∈ ds, continuesIdentifier d = true :=
        fun d hd => continuesIdentifier_iff.2 (hds d hd)
      simp only [List.cons_append, identifier, startsIdentifier_iff.2 hc, if_true,
        List.takeWhile_append_of_pos hruns, List.dropWhile_append_of_pos hruns]

theorem identifier_of_stops {cs rest : List Char} {name : String}
    (h : Grammar.Identifier cs name) (hrest : Stops continuesIdentifier rest) :
    identifier (cs ++ rest) = some (name, rest) := by
  have hname : String.ofList cs = name := by cases h; rfl
  rw [identifier_append h, takeWhile_of_stops hrest, dropWhile_of_stops hrest, List.append_nil,
    hname]

theorem identifier_cons_eq_none {c : Char} (h : startsIdentifier c = false) (cs : List Char) :
    identifier (c :: cs) = none := by
  simp [identifier, h]

theorem exists_cons_of_identifier {cs : List Char} {name : String}
    (h : Grammar.Identifier cs name) :
    ∃ c ds, cs = c :: ds ∧ startsIdentifier c = true := by
  cases h with
  | mk hc _ => exact ⟨_, _, rfl, startsIdentifier_iff.2 hc⟩

/-- An identifier has no character that ends one. -/
theorem continuesIdentifier_of_mem {cs : List Char} {name : String}
    (h : Grammar.Identifier cs name) : ∀ c ∈ cs, continuesIdentifier c = true := by
  cases h with
  | mk hc hds =>
      intro d hd
      rcases List.mem_cons.1 hd with rfl | hd
      · exact continuesIdentifier_of_starts (startsIdentifier_iff.2 hc)
      · exact continuesIdentifier_iff.2 (hds d hd)

/-! ## Texts -/

theorem isQuote_iff {q : Char} : isQuote q = true ↔ q = '"' ∨ q = '\x27' := by
  simp [isQuote]

/-- The two sorts of quotes make one rule. -/
theorem quotedString_iff {cs : List Char} {text : String} :
    Grammar.QuotedString cs text ↔
      ∃ q body, isQuote q = true ∧ q ∉ body ∧ cs = q :: (body ++ [q]) ∧
        text = String.ofList body := by
  constructor
  · intro h
    cases h with
    | double h => exact ⟨'"', _, by decide, h, rfl, rfl⟩
    | single h => exact ⟨'\x27', _, by decide, h, rfl, rfl⟩
  · rintro ⟨q, body, hq, hbody, rfl, rfl⟩
    rcases isQuote_iff.1 hq with rfl | rfl
    · exact .double hbody
    · exact .single hbody

theorem quotedText_sound : Sound Grammar.QuotedString quotedText := by
  intro cs text rest h
  cases cs with
  | nil => simp [quotedText] at h
  | cons q cs =>
      simp only [quotedText] at h
      split at h
      · rename_i hq
        split at h
        · simp at h
        · rename_i d rest' hd
          obtain ⟨rfl, rfl⟩ := Prod.mk.inj (Option.some.inj h)
          have hclose : d = q := by
            have hhead := List.head?_dropWhile_not (· ≠ q) cs
            rw [hd] at hhead
            simpa using hhead
          have hbody : q ∉ cs.takeWhile (· ≠ q) := by
            intro hmem
            have := List.all_eq_true.1 List.all_takeWhile q hmem
            simp at this
          refine ⟨q :: (cs.takeWhile (· ≠ q) ++ [q]), ?_,
            quotedString_iff.2 ⟨q, _, hq, hbody, rfl, rfl⟩⟩
          have hsplit := List.takeWhile_append_dropWhile (p := (· ≠ q)) (l := cs)
          rw [hd, hclose] at hsplit
          rw [List.cons_append, List.append_assoc, List.singleton_append, hsplit]
      · simp at h

/-- A text in quotes is read as it is, whatever follows it. -/
theorem quotedText_append {cs : List Char} {text : String} (h : Grammar.QuotedString cs text)
    (rest : List Char) : quotedText (cs ++ rest) = some (text, rest) := by
  obtain ⟨q, body, hq, hbody, rfl, rfl⟩ := quotedString_iff.1 h
  have hruns : ∀ c ∈ body, decide (c ≠ q) = true := by
    intro c hc
    have : c ≠ q := fun heq => hbody (heq ▸ hc)
    simpa using this
  have hdrop : (body ++ q :: rest).dropWhile (· ≠ q) = q :: rest := by
    rw [List.dropWhile_append_of_pos hruns]
    exact List.dropWhile_cons_of_neg (by simp)
  have htake : (body ++ q :: rest).takeWhile (· ≠ q) = body := by
    rw [List.takeWhile_append_of_pos hruns, List.takeWhile_cons_of_neg (by simp), List.append_nil]
  simp only [List.cons_append, List.append_assoc, List.nil_append, quotedText, hq, if_true, hdrop,
    htake]

theorem quotedText_cons_eq_none {c : Char} (h : isQuote c = false) (cs : List Char) :
    quotedText (c :: cs) = none := by
  simp [quotedText, h]

/-! ## Numbers -/

namespace Numerals

/-- The digits with a point between them; without digits after it there is no point. -/
def text (n : Numerals) : List Char :=
  n.whole ++ if n.fraction = [] then [] else '.' :: n.fraction

/-- Digits only, and at least one of them. -/
structure Valid (n : Numerals) : Prop where
  whole : ∀ c ∈ n.whole, c.isDigit = true
  fraction : ∀ c ∈ n.fraction, c.isDigit = true
  some_digit : n.whole ≠ [] ∨ n.fraction ≠ []

end Numerals

theorem decimal_iff {cs : List Char} :
    Grammar.Decimal cs ↔ ∃ n : Numerals, n.Valid ∧ cs = n.text := by
  constructor
  · intro h
    cases h with
    | whole hds =>
        exact ⟨⟨cs, []⟩, ⟨hds.2, by simp, .inl hds.1⟩, by simp [Numerals.text]⟩
    | @mixed ds fs hds hfs =>
        exact ⟨⟨ds, fs⟩, ⟨hds.2, hfs.2, .inl hds.1⟩, by simp [Numerals.text, hfs.1]⟩
    | @fraction fs hfs =>
        exact ⟨⟨[], fs⟩, ⟨by simp, hfs.2, .inr hfs.1⟩, by simp [Numerals.text, hfs.1]⟩
  · rintro ⟨⟨ds, fs⟩, hn, rfl⟩
    by_cases hfs : fs = []
    · subst hfs
      have hds : ds ≠ [] := hn.some_digit.resolve_right (by simp)
      simpa [Numerals.text] using Grammar.Decimal.whole ⟨hds, hn.whole⟩
    · by_cases hds : ds = []
      · subst hds
        simpa [Numerals.text, hfs] using Grammar.Decimal.fraction ⟨hfs, hn.fraction⟩
      · simpa [Numerals.text, hfs] using Grammar.Decimal.mixed ⟨hds, hn.whole⟩ ⟨hfs, hn.fraction⟩

theorem numerals_sound {cs rest : List Char} {n : Numerals}
    (h : numerals cs = some (n, rest)) : cs = n.text ++ rest ∧ n.Valid := by
  have hwhole : ∀ c ∈ cs.takeWhile Char.isDigit, c.isDigit = true :=
    fun c hc => List.all_eq_true.1 List.all_takeWhile c hc
  have hsplit := List.takeWhile_append_dropWhile (p := Char.isDigit) (l := cs)
  simp only [numerals] at h
  split at h
  · rename_i d rest' hd
    rw [hd] at hsplit
    split at h
    · rename_i hdigit
      obtain ⟨rfl, rfl⟩ := Prod.mk.inj (Option.some.inj h)
      refine ⟨?_, hwhole, ?_, .inr (by simp)⟩
      · simp only [Numerals.text, reduceCtorEq, if_false, List.append_assoc, List.cons_append,
          List.takeWhile_append_dropWhile, hsplit]
      · intro c hc
        rcases List.mem_cons.1 hc with rfl | hc
        · exact hdigit
        · exact List.all_eq_true.1 List.all_takeWhile c hc
    · split at h
      · simp at h
      · rename_i hne
        obtain ⟨rfl, rfl⟩ := Prod.mk.inj (Option.some.inj h)
        refine ⟨?_, hwhole, by simp, .inl (by simpa using hne)⟩
        simp only [Numerals.text, if_true, List.append_nil, hsplit]
  · split at h
    · simp at h
    · rename_i hne
      obtain ⟨rfl, rfl⟩ := Prod.mk.inj (Option.some.inj h)
      refine ⟨?_, hwhole, by simp, .inl (by simpa using hne)⟩
      simp only [Numerals.text, if_true, List.append_nil, hsplit]

namespace Numerals

variable {n : Numerals}

/-- A number without a sign starts with a digit or a point. -/
theorem exists_cons_text (hn : n.Valid) :
    ∃ c cs, n.text = c :: cs ∧ (c.isDigit = true ∨ c = '.') := by
  cases hwhole : n.whole with
  | cons c cs =>
      refine ⟨c, _, by rw [text, hwhole, List.cons_append], .inl ?_⟩
      exact hn.whole c (by rw [hwhole]; exact List.mem_cons_self)
  | nil =>
      have hfraction : n.fraction ≠ [] := hn.some_digit.resolve_left (by simp [hwhole])
      exact ⟨'.', n.fraction, by simp [text, hwhole, hfraction], .inr rfl⟩

theorem stops_point (fraction rest : List Char) (h : Stops Char.isDigit rest) :
    Stops Char.isDigit ((if fraction = [] then [] else '.' :: fraction) ++ rest) := by
  split
  · exact h
  · exact stops_cons (by decide) _

theorem takeWhile_text (hn : n.Valid) {rest : List Char} (h : Stops Char.isDigit rest) :
    (n.text ++ rest).takeWhile Char.isDigit = n.whole := by
  rw [text, List.append_assoc, List.takeWhile_append_of_pos hn.whole,
    takeWhile_of_stops (stops_point _ _ h), List.append_nil]

theorem dropWhile_text (hn : n.Valid) {rest : List Char} (h : Stops Char.isDigit rest) :
    (n.text ++ rest).dropWhile Char.isDigit =
      (if n.fraction = [] then [] else '.' :: n.fraction) ++ rest := by
  rw [text, List.append_assoc, List.dropWhile_append_of_pos hn.whole,
    dropWhile_of_stops (stops_point _ _ h)]

end Numerals

/-- A number in front of neither a digit nor a point is read as it is. -/
theorem numerals_append {n : Numerals} (hn : n.Valid) {rest : List Char}
    (hdigit : Stops Char.isDigit rest) (hpoint : Stops (· = '.') rest) :
    numerals (n.text ++ rest) = some (n, rest) := by
  obtain ⟨whole, fraction⟩ := n
  simp only [numerals, Numerals.takeWhile_text hn hdigit, Numerals.dropWhile_text hn hdigit]
  cases fraction with
  | nil =>
      have hwhole : whole.isEmpty = false := by
        have := hn.some_digit.resolve_right (by simp)
        simpa using this
      simp only [if_true, List.nil_append]
      split
      · exact absurd (hpoint _ _ rfl) (by simp)
      · simp [hwhole]
  | cons d ds =>
      have hd : d.isDigit = true := hn.fraction d List.mem_cons_self
      have hds : ∀ c ∈ ds, c.isDigit = true :=
        fun c hc => hn.fraction c (List.mem_cons_of_mem _ hc)
      simp only [reduceCtorEq, if_false, List.cons_append, hd, if_true,
        List.takeWhile_append_of_pos hds, List.dropWhile_append_of_pos hds,
        takeWhile_of_stops hdigit, dropWhile_of_stops hdigit, List.append_nil]

/-- What a reader of decimal text makes of a number. -/
theorem ofText?_of_takeSign {cs : List Char} {negative : Bool} {n : Numerals} (hn : n.Valid)
    (h : takeSign cs = (negative, n.text)) :
    Binary.ofText? .binary64 (String.ofList cs) = some (n.toDouble negative) := by
  obtain ⟨c, tail, htext, hc⟩ := Numerals.exists_cons_text hn
  have hfirst : c.toLower ≠ 'n' ∧ c.toLower ≠ 'i' := by
    rcases hc with hc | rfl
    · rw [toLower_of_isDigit hc]
      constructor <;> rintro rfl <;> revert hc <;> decide
    · decide
  -- The words for the special numbers start with letters.
  have hword : ∀ d ds, d = 'n' ∨ d = 'i' → n.text.map Char.toLower ≠ d :: ds := by
    intro d ds hd heq
    rw [htext, List.map_cons] at heq
    rcases hd with rfl | rfl
    · exact hfirst.1 (List.cons.inj heq).1
    · exact hfirst.2 (List.cons.inj heq).1
  have hnan : n.text.map Char.toLower ≠ "nan".toList := hword _ _ (.inl rfl)
  have hinf : n.text.map Char.toLower ≠ "inf".toList := hword _ _ (.inr rfl)
  have hinfinity : n.text.map Char.toLower ≠ "infinity".toList := hword _ _ (.inr rfl)
  have htake := Numerals.takeWhile_text hn stops_nil
  have hdrop := Numerals.dropWhile_text hn stops_nil
  rw [List.append_nil] at htake hdrop
  simp only [Binary.ofText?, String.toList_ofList, h, hnan, hinf, hinfinity, if_false, htake, hdrop]
  by_cases hfraction : n.fraction = []
  · have hwhole : n.whole ≠ [] := hn.some_digit.resolve_right (not_not_intro hfraction)
    simp [hfraction, hwhole, exponent?, Numerals.toDouble]
  · have htakeAll : n.fraction.takeWhile Char.isDigit = n.fraction := by
      simpa using @List.takeWhile_append_of_pos _ _ _ [] hn.fraction
    have hdropAll : n.fraction.dropWhile Char.isDigit = [] := by
      simpa using @List.dropWhile_append_of_pos _ _ _ [] hn.fraction
    simp [hfraction, htakeAll, hdropAll, exponent?, Numerals.toDouble]

theorem takeSign_cons {c : Char} (hminus : c ≠ '-') (hplus : c ≠ '+') (cs : List Char) :
    takeSign (c :: cs) = (false, c :: cs) := by
  rw [takeSign]
  · rintro ds heq
    exact hminus (List.cons.inj heq).1
  · rintro ds heq
    exact hplus (List.cons.inj heq).1

/-- A number without a sign has no sign to split off. -/
theorem takeSign_text {n : Numerals} (hn : n.Valid) (rest : List Char) :
    takeSign (n.text ++ rest) = (false, n.text ++ rest) := by
  obtain ⟨c, tail, htext, hc⟩ := Numerals.exists_cons_text hn
  have hminus : c ≠ '-' := by rintro rfl; revert hc; decide
  have hplus : c ≠ '+' := by rintro rfl; revert hc; decide
  rw [htext, List.cons_append, takeSign_cons hminus hplus]

/-- A literal is a sign or none and then a number without a sign. -/
theorem numberLiteral_iff {cs : List Char} :
    Grammar.NumberLiteral cs ↔
      ∃ (negative : Bool) (n : Numerals), n.Valid ∧ takeSign cs = (negative, n.text) := by
  constructor
  · intro h
    cases h with
    | minus h =>
        obtain ⟨n, hn, rfl⟩ := decimal_iff.1 h
        exact ⟨true, n, hn, rfl⟩
    | plus h =>
        obtain ⟨n, hn, rfl⟩ := decimal_iff.1 h
        exact ⟨false, n, hn, rfl⟩
    | unsigned h =>
        obtain ⟨n, hn, rfl⟩ := decimal_iff.1 h
        exact ⟨false, n, hn, by simpa using takeSign_text hn []⟩
  · rintro ⟨negative, n, hn, h⟩
    have hdecimal := decimal_iff.2 ⟨n, hn, rfl⟩
    unfold takeSign at h
    split at h
    · rw [(Prod.mk.inj h).2]; exact .minus hdecimal
    · rw [(Prod.mk.inj h).2]; exact .plus hdecimal
    · rw [(Prod.mk.inj h).2]; exact .unsigned hdecimal

/-- A sign is split off whatever follows the number. -/
theorem takeSign_append {cs : List Char} (h : cs ≠ []) (rest : List Char) :
    takeSign (cs ++ rest) = ((takeSign cs).1, (takeSign cs).2 ++ rest) := by
  cases cs with
  | nil => exact absurd rfl h
  | cons c cs =>
      by_cases hminus : c = '-'
      · subst hminus; rfl
      · by_cases hplus : c = '+'
        · subst hplus; rfl
        · rw [List.cons_append, takeSign_cons hminus hplus, takeSign_cons hminus hplus,
            List.cons_append]

/-- A rest behind the number is a rest behind the number with its sign. -/
theorem takeSign_split {cs rest : List Char} {negative : Bool} {n : Numerals} (hn : n.Valid)
    (h : takeSign cs = (negative, n.text ++ rest)) :
    ∃ front, cs = front ++ rest ∧ takeSign front = (negative, n.text) := by
  unfold takeSign at h
  split at h
  · obtain ⟨rfl, rfl⟩ := Prod.mk.inj h
    exact ⟨'-' :: n.text, rfl, rfl⟩
  · obtain ⟨rfl, rfl⟩ := Prod.mk.inj h
    exact ⟨'+' :: n.text, rfl, rfl⟩
  · obtain ⟨rfl, rfl⟩ := Prod.mk.inj h
    exact ⟨n.text, rfl, by simpa using takeSign_text hn []⟩

/-- What a number may start with: a sign, a digit or a point. -/
def StartsNumber (c : Char) : Prop := c = '-' ∨ c = '+' ∨ c.isDigit = true ∨ c = '.'

namespace StartsNumber

variable {c : Char} (h : StartsNumber c)

include h

theorem startsIdentifier_eq_false : startsIdentifier c = false := by
  rcases h with rfl | rfl | h | rfl
  · decide
  · decide
  · exact startsIdentifier_of_isDigit h
  · decide

theorem isBlank_eq_false : isBlank c = false := by
  rcases h with rfl | rfl | h | rfl
  · decide
  · decide
  · exact isBlank_of_continuesIdentifier (continuesIdentifier_of_isDigit h)
  · decide

theorem ne_dollar : c ≠ '$' := by
  rintro rfl
  simp [StartsNumber] at h

theorem isQuote_eq_false : isQuote c = false := by
  cases hq : isQuote c with
  | false => rfl
  | true =>
      rcases isQuote_iff.1 hq with rfl | rfl
      · simp [StartsNumber] at h
      · simp [StartsNumber] at h

end StartsNumber

theorem exists_cons_of_numberLiteral {cs : List Char} (h : Grammar.NumberLiteral cs) :
    ∃ c ds, cs = c :: ds ∧ StartsNumber c := by
  cases h with
  | minus h => exact ⟨'-', _, rfl, .inl rfl⟩
  | plus h => exact ⟨'+', _, rfl, .inr (.inl rfl)⟩
  | unsigned h =>
      obtain ⟨n, hn, rfl⟩ := decimal_iff.1 h
      obtain ⟨c, ds, htext, hc⟩ := Numerals.exists_cons_text hn
      exact ⟨c, ds, htext, .inr (.inr hc)⟩

theorem Grammar.Number.literal {cs : List Char} {x : Double} (h : Grammar.Number cs x) :
    Grammar.NumberLiteral cs := by
  obtain ⟨h, -⟩ := h
  exact h

theorem signedNumber_eq (cs : List Char) :
    signedNumber cs = numerals.map (·.toDouble (takeSign cs).1) (takeSign cs).2 := by
  unfold signedNumber
  split
  · simp only [takeSign]
  · simp only [takeSign]
  · rename_i hminus hplus
    rw [takeSign]
    · exact hminus
    · exact hplus

theorem signedNumber_sound : Sound Grammar.Number signedNumber := by
  intro cs x rest h
  rw [signedNumber_eq] at h
  obtain ⟨⟨n, rest'⟩, hread, heq⟩ := Option.map_eq_some_iff.1 h
  obtain ⟨rfl, rfl⟩ := Prod.mk.inj heq
  obtain ⟨hsplit, hn⟩ := numerals_sound hread
  obtain ⟨front, hfront, hsign⟩ := takeSign_split hn (Prod.ext rfl hsplit)
  exact ⟨front, hfront, .mk (numberLiteral_iff.2 ⟨_, n, hn, hsign⟩) (ofText?_of_takeSign hn hsign)⟩

/-- A number is read as it is in front of neither a digit nor a point. -/
theorem signedNumber_append {cs rest : List Char} {x : Double} (h : Grammar.Number cs x)
    (hdigit : Stops Char.isDigit rest) (hpoint : Stops (· = '.') rest) :
    signedNumber (cs ++ rest) = some (x, rest) := by
  obtain ⟨hliteral, hx⟩ := h
  obtain ⟨negative, n, hn, hsign⟩ := numberLiteral_iff.1 hliteral
  rw [ofText?_of_takeSign hn hsign] at hx
  have hne : cs ≠ [] := by
    obtain ⟨c, ds, rfl, -⟩ := exists_cons_of_numberLiteral hliteral
    simp
  rw [signedNumber_eq, takeSign_append hne, hsign,
    map_of_some (numerals_append hn hdigit hpoint), Option.some.inj hx]

end VerbNoun
