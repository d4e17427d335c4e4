import VerbNoun.CommandLine.PipedInput
import VerbNoun.Proofs.Terminal.Typing
set_option autoImplicit false

/-!
# CommandLine: readers and the lines of an input (SPEC §16)

An input holds lines, whichever way they are ended.  A reader may be asked to yield these lines;
the one that the program uses does so for every input in which no character is taken back.
-/

namespace VerbNoun.CommandLine

open Terminal

/-! ## Lines of an input -/

/-- A line in one piece, without the characters that end a line. -/
def Unbroken (line : String) : Prop := '\n' ∉ line.toList ∧ '\r' ∉ line.toList

instance (line : String) : Decidable (Unbroken line) := inferInstanceAs (Decidable (_ ∧ _))

/-- The input holds these lines in order.  Each is ended in one of two ways, and the last need not
be if it is not empty. -/
inductive Holds : String → List String → Prop
  | nothing : Holds "" []
  | last {line : String} (h : line ≠ "") : Holds line [line]
  | line {input ending : String} {lines : List String} (line : String)
      (hending : ending = "\n" ∨ ending = "\r\n") (h : Holds input lines) :
      Holds (line ++ ending ++ input) (line :: lines)

theorem inputLines_cons {c : Char} (hn : c ≠ '\n') (hr : c ≠ '\r') {cs first : List Char}
    {others : List (List Char)} (h : inputLines cs = first :: others) :
    inputLines (c :: cs) = (c :: first) :: others := by
  rw [inputLines, h]
  · exact hn
  · rintro rest rfl -
    exact hr rfl

/-- The characters of a line are the beginning of the line that follows them. -/
theorem inputLines_append {line : List Char} (hn : '\n' ∉ line) (hr : '\r' ∉ line)
    {cs first : List Char} {others : List (List Char)} (h : inputLines cs = first :: others) :
    inputLines (line ++ cs) = (line ++ first) :: others := by
  induction line with
  | nil => exact h
  | cons c line ih =>
      have hrest := ih (List.not_mem_of_not_mem_cons hn) (List.not_mem_of_not_mem_cons hr)
      exact inputLines_cons (List.ne_of_not_mem_cons hn).symm (List.ne_of_not_mem_cons hr).symm
        hrest

theorem inputLines_ended {ending : String} (h : ending = "\n" ∨ ending = "\r\n") (cs : List Char) :
    inputLines (ending.toList ++ cs) = [] :: inputLines cs := by
  rcases h with rfl | rfl <;> rfl

theorem inputLines_single {c : Char} (hn : c ≠ '\n') : inputLines [c] = [[c]] := by
  rw [inputLines, inputLines]
  · exact hn
  · rintro rest - hnil
    cases hnil

/-- A line that is not ended is one nevertheless. -/
theorem inputLines_open {line : List Char} (hn : '\n' ∉ line) (hr : '\r' ∉ line) (hne : line ≠ []) :
    inputLines line = [line] := by
  induction line with
  | nil => exact absurd rfl hne
  | cons c line ih =>
      have hc : c ≠ '\n' := (List.ne_of_not_mem_cons hn).symm
      by_cases hline : line = []
      · rw [hline, inputLines_single hc]
      · have hrest := ih (List.not_mem_of_not_mem_cons hn) (List.not_mem_of_not_mem_cons hr) hline
        exact inputLines_cons hc (List.ne_of_not_mem_cons hr).symm hrest

/-- An input is read back as the lines that it holds. -/
theorem Holds.inputLines_eq {input : String} {lines : List String} (h : Holds input lines)
    (hlines : ∀ line ∈ lines, Unbroken line) :
    inputLines input.toList = lines.map String.toList := by
  induction h with
  | nothing => rfl
  | @last line hne =>
      obtain ⟨hn, hr⟩ := hlines line List.mem_cons_self
      exact inputLines_open hn hr fun hnil => hne (String.toList_eq_nil_iff.1 hnil)
  | @line input ending lines line hending _ ih =>
      obtain ⟨⟨hn, hr⟩, hrest⟩ := List.forall_mem_cons.1 hlines
      have hfirst := inputLines_append hn hr (inputLines_ended hending input.toList)
      rw [String.toList_append, String.toList_append, List.append_assoc, hfirst, List.append_nil,
        ih hrest, List.map_cons]

/-! ## Readers -/

/-- A reader yields the lines of an input in order, and then the end. -/
def LineReader.Yields (reader : LineReader) (input : String) : Prop :=
  ∀ lines, Holds input lines → (∀ line ∈ lines, Unbroken line) → reader input = lines.map .line

theorem readTyped_eq_line_iff {line : String} :
    readTyped line.toList = .line line ↔ backspace ∉ line.toList := by
  rw [← typed?_eq_self_iff]
  unfold readTyped
  split
  · rename_i cs htyped
    rw [htyped, Reading.line.injEq, Option.some.injEq, ← String.toList_inj, String.toList_ofList]
  · rename_i htyped
    rw [htyped]
    simp

/-- The reader of the program yields lines exactly if no character of them is taken back. -/
theorem readPiped_yields_iff {input : String} {lines : List String} (h : Holds input lines)
    (hlines : ∀ line ∈ lines, Unbroken line) :
    readPiped.Yields input ↔ ∀ line ∈ lines, backspace ∉ line.toList := by
  have hread : readPiped input = lines.map fun line => readTyped line.toList := by
    rw [readPiped, h.inputLines_eq hlines, List.map_map]
    rfl
  have hyields : readPiped.Yields input ↔ readPiped input = lines.map .line := by
    refine ⟨fun hyields => hyields lines h hlines, fun heq lines' h' hlines' => ?_⟩
    -- An input holds no two lists of lines.
    have hsame := (h.inputLines_eq hlines).symm.trans (h'.inputLines_eq hlines')
    rw [← (List.map_inj_right fun _ _ => String.toList_inj.1).1 hsame]
    exact heq
  rw [hyields, hread, List.map_inj_left]
  exact forall₂_congr fun _ _ => readTyped_eq_line_iff

end VerbNoun.CommandLine
