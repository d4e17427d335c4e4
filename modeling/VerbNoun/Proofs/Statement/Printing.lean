import VerbNoun.Proofs.Statement.Soundness
set_option autoImplicit false

/-!
# Printing: the trees that can be written, and how (SPEC §4.1)

A statement is well formed if it has the shape of a line and its names are identifiers.  How a
statement is written is a relation, since the quotes of a text, the digits of a number and the
blanks around marks are free; only in front of an argument there must be a blank.  Writing asks
nothing of the names, so that what may go wrong is left to well-formedness.
-/

namespace VerbNoun

open Lang Number Reader Text

/-! ## Well-formed statements -/

/-- The name is an identifier. -/
def IsIdentifier (name : String) : Prop := Grammar.Identifier name.toList name

/-- The text does not have both sorts of quotes in it. -/
def IsQuotable (text : String) : Prop := ¬ ('"' ∈ text.toList ∧ '\x27' ∈ text.toList)

/-- A word, a flag, a variable, a text or a number. -/
def Statement.IsArgument : Statement → Prop
  | .word text => IsIdentifier text
  | .flag name => IsIdentifier name
  | .var name => IsIdentifier name
  | .quoted text => IsQuotable text
  | .number _ => True
  | _ => False

/-- A command with a name and arguments as they can be written. -/
def Invocation.WellFormed (command : Call) : Prop :=
  IsIdentifier command.name ∧ ∀ a ∈ command.args, a.IsArgument

/-- What may stand by itself or on the right of an assignment: no assignment, no bare word and
no flag. -/
def Statement.IsOperand : Statement → Prop
  | .var name => IsIdentifier name
  | .quoted text => IsQuotable text
  | .number _ => True
  | .command c => c.WellFormed
  | .pipe commands => 2 ≤ commands.length ∧ ∀ c ∈ commands, c.WellFormed
  | .reflect name members =>
    IsIdentifier name ∧ members ≠ [] ∧ ∀ m ∈ members, IsIdentifier m
  | _ => False

/-- An operand, or an assignment of one. -/
def Statement.WellFormed : Statement → Prop
  | .assign name value => IsIdentifier name ∧ value.IsOperand
  | s => s.IsOperand

/-! ## Written statements -/

namespace Written

/-- A text of the language after one blank at least. -/
inductive Apart {α : Type} (L : Lang α) : Lang α
  | mk {blanks cs : List Char} {a : α} (hblanks : Blanks blanks) (hne : blanks ≠ []) (h : L cs a) :
      Apart L (blanks ++ cs) a

/-- A name as it is. -/
inductive Name : Lang String
  | mk (name : String) : Name name.toList name

/-- A text in quotes that do not occur in it. -/
inductive Quoted : Lang String
  | mk {q : Char} {text : String} (hq : isQuote q = true) (h : q ∉ text.toList) :
      Quoted (q :: (text.toList ++ [q])) text

/-- An argument; a number in any notation that reads to it. -/
inductive Argument : Lang Statement
  | word (text : String) : Argument text.toList (.word text)
  | flag (name : String) : Argument ('-' :: name.toList) (.flag name)
  | var (name : String) : Argument ('$' :: name.toList) (.var name)
  | quoted {cs : List Char} {text : String} (h : Quoted cs text) : Argument cs (.quoted text)
  | number {cs : List Char} {x : Double} (h : Grammar.Number cs x) : Argument cs (.number x)

/-- A command: its name and then its arguments, each after one blank at least. -/
inductive Command : Lang Call
  | mk {cs : List Char} (name : String) {args : List Statement}
      (h : Star (Apart Argument) cs args) : Command (name.toList ++ cs) ⟨name, args⟩

/-- What may stand by itself or on the right of an assignment. -/
inductive Operand : Lang Statement
  | var (name : String) : Operand ('$' :: name.toList) (.var name)
  | quoted {cs : List Char} {text : String} (h : Quoted cs text) : Operand cs (.quoted text)
  | number {cs : List Char} {x : Double} (h : Grammar.Number cs x) : Operand cs (.number x)
  | command {cs : List Char} {command : Call} (h : Command cs command) :
      Operand cs (.command command)
  | pipe {cs rest : List Char} {first : Call} {commands : List Call} (hfirst : Command cs first)
      (h : Star (Marked '|' Command) rest commands) :
      Operand (cs ++ rest) (.pipe (first :: commands))
  | reflect {rest : List Char} (name : String) {members : List String}
      (h : Star (Marked '.' Name) rest members) :
      Operand ('$' :: (name.toList ++ rest)) (.reflect name members)

/-- A statement with blanks or none at both ends. -/
inductive Line : Lang Statement
  | operand {before cs after : List Char} {s : Statement} (hbefore : Blanks before)
      (h : Operand cs s) (hafter : Blanks after) : Line (before ++ cs ++ after) s
  | assign {before cs after : List Char} (name : String) {value : Statement}
      (hbefore : Blanks before) (h : Marked '=' Operand cs value) (hafter : Blanks after) :
      Line (before ++ ('$' :: (name.toList ++ cs)) ++ after) (.assign name value)

end Written

/-! ## What is read is well formed -/

theorem isIdentifier_of_identifier {cs : List Char} {name : String}
    (h : Grammar.Identifier cs name) : IsIdentifier name ∧ cs = name.toList := by
  cases h with
  | mk hc hcs =>
      rw [IsIdentifier, String.toList_ofList]
      exact ⟨.mk hc hcs, rfl⟩

theorem isIdentifier_of_after {mark : Char} {cs : List Char} {name : String}
    (h : After mark Grammar.Identifier cs name) :
    IsIdentifier name ∧ cs = mark :: name.toList := by
  cases h with
  | mk h =>
      obtain ⟨hname, rfl⟩ := isIdentifier_of_identifier h
      exact ⟨hname, rfl⟩

theorem isQuotable_of_quotedString {cs : List Char} {text : String}
    (h : Grammar.QuotedString cs text) : IsQuotable text ∧ Written.Quoted cs text := by
  obtain ⟨q, body, hq, hbody, rfl, rfl⟩ := quotedString_iff.1 h
  constructor
  · rintro ⟨hdouble, hsingle⟩
    rw [String.toList_ofList] at hdouble hsingle
    rcases isQuote_iff.1 hq with rfl | rfl
    · exact hbody hdouble
    · exact hbody hsingle
  · have hwritten := @Written.Quoted.mk q (String.ofList body) hq (by simpa using hbody)
    rwa [String.toList_ofList] at hwritten

/-- An argument of the grammar is one that can be written, and written so. -/
theorem isArgument_of_argument {cs : List Char} {a : Statement} (h : Grammar.Argument cs a) :
    a.IsArgument ∧ Written.Argument cs a := by
  cases h with
  | word h =>
      obtain ⟨hname, rfl⟩ := isIdentifier_of_identifier h
      exact ⟨hname, .word _⟩
  | flag h =>
      obtain ⟨hname, rfl⟩ := isIdentifier_of_after h
      exact ⟨hname, .flag _⟩
  | var h =>
      obtain ⟨hname, rfl⟩ := isIdentifier_of_after h
      exact ⟨hname, .var _⟩
  | quoted h =>
      obtain ⟨htext, hwritten⟩ := isQuotable_of_quotedString h
      exact ⟨htext, .quoted hwritten⟩
  | number h => exact ⟨trivial, .number h⟩

theorem blanks_space : Blanks [' '] := by
  intro c hc
  rw [List.mem_singleton.1 hc]
  decide

/-- Touching arguments are written apart. -/
theorem isArgument_of_arguments {cs : List Char} {args : List Statement}
    (h : Grammar.Arguments cs args) :
    (∀ a ∈ args, a.IsArgument) ∧ ∃ cs', Star (Written.Apart Written.Argument) cs' args := by
  induction h with
  | nil => exact ⟨by simp, [], .nil⟩
  | @cons cs rest a args h hrest ih =>
      obtain ⟨hargs, rest', hrest'⟩ := ih
      obtain ⟨hblanks, h⟩ := h
      obtain ⟨ha, hwritten⟩ := isArgument_of_argument h
      refine ⟨?_, _, .cons (.mk blanks_space (by simp) hwritten) hrest'⟩
      intro b hb
      rcases List.mem_cons.1 hb with rfl | hb
      · exact ha
      · exact hargs b hb

theorem wellFormed_of_command {cs : List Char} {c : Call} (h : Grammar.Command cs c) :
    c.WellFormed ∧ ∃ cs', Written.Command cs' c := by
  cases h with
  | mk hname hargs =>
      obtain ⟨hname, -⟩ := isIdentifier_of_identifier hname
      obtain ⟨hargs, cs', hwritten⟩ := isArgument_of_arguments hargs
      exact ⟨⟨hname, hargs⟩, _, .mk _ hwritten⟩

/-- Parts behind marks keep their marks when the parts are written anew. -/
theorem star_marked {α : Type} {mark : Char} {L W : Lang α} {P : α → Prop}
    (hL : ∀ cs a, L cs a → P a ∧ ∃ cs', W cs' a) {cs : List Char} {as : List α}
    (h : Star (Marked mark L) cs as) :
    (∀ a ∈ as, P a) ∧ ∃ cs', Star (Marked mark W) cs' as := by
  induction h with
  | nil => exact ⟨by simp, [], .nil⟩
  | @cons cs rest a as h hrest ih =>
      obtain ⟨has, rest', hrest'⟩ := ih
      cases h with
      | mk hbefore hafter h =>
          obtain ⟨ha, cs', hwritten⟩ := hL _ _ h
          refine ⟨?_, _, .cons (.mk hbefore hafter hwritten) hrest'⟩
          intro b hb
          rcases List.mem_cons.1 hb with rfl | hb
          · exact ha
          · exact has b hb

theorem isOperand_of_operand {cs : List Char} {s : Statement} (h : Grammar.Operand cs s) :
    s.IsOperand ∧ ∃ cs', Written.Operand cs' s := by
  cases h with
  | pipe h =>
      cases h with
      | @mk _ _ first calls hfirst hcalls hne =>
          obtain ⟨hfirst, _, hwritten⟩ := wellFormed_of_command hfirst
          have hstage : ∀ cs c, Grammar.Command cs c →
              c.WellFormed ∧ ∃ cs', Written.Command cs' c := fun _ _ => wellFormed_of_command
          obtain ⟨hcalls, _, hstages⟩ := star_marked hstage hcalls
          refine ⟨⟨?_, ?_⟩, _, .pipe hwritten hstages⟩
          · have := List.length_pos_iff.2 hne
            simp only [List.length_cons]
            omega
          · intro c hc
            rcases List.mem_cons.1 hc with rfl | hc
            · exact hfirst
            · exact hcalls c hc
  | reflection h =>
      cases h with
      | mk hname hmembers hne =>
          obtain ⟨hname, -⟩ := isIdentifier_of_after hname
          have hmember : ∀ cs m, Grammar.Identifier cs m →
              IsIdentifier m ∧ ∃ cs', Written.Name cs' m :=
            fun _ m h => ⟨(isIdentifier_of_identifier h).1, _, .mk m⟩
          obtain ⟨hmembers, _, hwritten⟩ := star_marked hmember hmembers
          exact ⟨⟨hname, hne, hmembers⟩, _, .reflect _ hwritten⟩
  | command h =>
      obtain ⟨hcommand, _, hwritten⟩ := wellFormed_of_command h
      exact ⟨hcommand, _, .command hwritten⟩
  | var h =>
      obtain ⟨hname, rfl⟩ := isIdentifier_of_after h
      exact ⟨hname, _, .var _⟩
  | quoted h =>
      obtain ⟨htext, hwritten⟩ := isQuotable_of_quotedString h
      exact ⟨htext, _, .quoted hwritten⟩
  | number h => exact ⟨trivial, _, .number h⟩

theorem Statement.IsOperand.wellFormed {s : Statement} (h : s.IsOperand) : s.WellFormed := by
  cases s with
  | assign name value => exact absurd h (by simp [Statement.IsOperand])
  | _ => exact h

/-- A statement of the grammar is well formed, and there is a way to write it. -/
theorem wellFormed_of_line {cs : List Char} {s : Statement} (h : Grammar.Line cs s) :
    s.WellFormed ∧ ∃ cs', Written.Line cs' s := by
  cases h with
  | mk hbefore h hafter =>
      cases h with
      | assignment h =>
          cases h with
          | mk hname hvalue =>
              obtain ⟨hname, -⟩ := isIdentifier_of_after hname
              obtain ⟨hbefore', hafter', hvalue⟩ := hvalue
              obtain ⟨hvalue, _, hwritten⟩ := isOperand_of_operand hvalue
              exact ⟨⟨hname, hvalue⟩, _,
                .assign _ hbefore (.mk hbefore' hafter' hwritten) hafter⟩
      | operand h =>
          obtain ⟨hoperand, _, hwritten⟩ := isOperand_of_operand h
          exact ⟨hoperand.wellFormed, _, .operand hbefore hwritten hafter⟩

end VerbNoun
