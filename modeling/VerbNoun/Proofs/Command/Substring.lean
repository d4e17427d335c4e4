import VerbNoun.Proofs.Chain
import VerbNoun.Proofs.Command.Piping
import VerbNoun.Proofs.Command.Registry
import VerbNoun.Proofs.Value.Path
set_option autoImplicit false

/-!
# Command: joining and cutting texts (SPEC §13)

What is joined can be cut apart again, with the joined text going through the pipe.  An index and a
length are written as floating-point numbers and arrive as integers of four bytes; all of these are
floating-point numbers, so nothing is lost on the way.
-/

namespace VerbNoun

open Number Text

/-! ## Parts of a text -/

namespace Stock

theorem substring_of_le {t : String} {index : Int} (hnonneg : 0 ≤ index)
    (hle : index ≤ t.length) (length : Int) :
    substring t index length = .ok (String.ofList
      (if 0 ≤ length then (t.toList.drop index.toNat).take length.toNat
        else t.toList.drop index.toNat)) := by
  have hrange : 0 ≤ index ∧ index ≤ t.toList.length := by
    rw [String.length_toList]
    exact ⟨hnonneg, hle⟩
  simp only [substring, if_pos hrange]

/-- There is a part from every index up to the end of the text, and from no other. -/
theorem substring_ok_iff (t : String) (index length : Int) :
    (∃ part, substring t index length = .ok part) ↔ 0 ≤ index ∧ index ≤ t.length := by
  constructor
  · intro h
    obtain ⟨part, hpart⟩ := h
    by_contra hout
    rw [← String.length_toList] at hout
    simp only [substring, if_neg hout] at hpart
    cases hpart
  · intro h
    exact ⟨_, substring_of_le h.1 h.2 length⟩

/-- A part of all characters from an index on. -/
theorem substring_to_end {t : String} {index length : Int} (hnonneg : 0 ≤ index)
    (hle : index ≤ t.length) (hlength : length < 0) :
    substring t index length = .ok (String.ofList (t.toList.drop index.toNat)) := by
  rw [substring_of_le hnonneg hle, if_neg (Int.not_le.2 hlength)]

theorem substring_take {t : String} {index : Int} (hnonneg : 0 ≤ index)
    (hle : index ≤ t.length) (m : Nat) :
    substring t index m = .ok (String.ofList ((t.toList.drop index.toNat).take m)) := by
  rw [substring_of_le hnonneg hle, if_pos (Int.natCast_nonneg m), Int.toNat_natCast]

end Stock

namespace Binding

/-- A number bound to a parameter leaves the store as it is. -/
theorem putArgument_number {p : Slot} {x : Double} {w : Value}
    (hw : (Value.ofDouble x).coerce? p.kind = some w) (b : Binding) (s : Store) :
    b.putArgument p (.number x) s = (.ok (b.put p w), s) := by
  have hargument : (Statement.number x).argumentFor p s = (.ok w, s) := by
    simp only [Statement.argumentFor, Statement.resolve, Slot.fit, hw]
  rw [putArgument, hargument]

end Binding

namespace Cutting

open Binding Evaluation

/-! ## Calls -/

/-- An integer of four bytes. -/
abbrev Index := IntKind.i32.Number

theorem contains_count {n : Nat} (h : n < 2 ^ 31) : IntKind.i32.Contains n := by
  unfold IntKind.Contains
  simp only [IntKind.least, IntKind.greatest]
  omega

/-- A count of characters as an index. -/
def indexOf (n : Nat) (h : n < 2 ^ 31) : Index := ⟨n, contains_count h⟩

theorem contains_minus_one : IntKind.i32.Contains (-1) := by decide

/-- The length that a part has if none is given: all characters that are left. -/
def unlimited : Index := ⟨-1, contains_minus_one⟩

/-- An integer as it is written in a call. -/
def numeral (n : Index) : Statement := .number (Binary.ofInt .binary64 n.val)

/-- The arguments that say where to cut: an index, and a length if there is one. -/
def places (index : Index) (length? : Option Index) : List Statement :=
  .flag "Index" :: numeral index ::
    length?.elim [] fun length => [.flag "Length", numeral length]

/-- How a text comes to a command: in quotes, as a bare word, or through the pipe. -/
inductive Arrives (t : String) : List Statement → Option Value → Prop
  | quoted : Arrives t [.quoted t] none
  | word : Arrives t [.word t] none
  | piped : Arrives t [] (some (.ofText t))

/-- The call that joins two texts. -/
def join (a b separator : String) : Call :=
  ⟨"Join-Text", [.quoted a, .quoted b, .flag "Separator", .quoted separator]⟩

/-- The call that cuts a text, which stands in front of the places if it is an argument. -/
def cut (texts : List Statement) (index : Index) (length? : Option Index) : Call :=
  ⟨"Get-Substring", texts ++ places index length?⟩

/-- A text is given, nothing is written, and the store is left as it is. -/
def gives (t : String) (store : Store) : Evaluation :=
  { result := .ok (.ofText t), store, writes := [] }

/-! ## Binding the places -/

/-- The command that cuts, as the registry holds it. -/
def command : Command :=
  ⟨.ofParameters "Get" "Substring" Stock.getSubstring.parameters, Stock.getSubstring⟩

/-- The parameter for the text. -/
def textSlot : Slot :=
  { name := "Text", position := 0, mandatory := true, piped := true, kind := .string,
    initial := .ofText "", index := 0 }

/-- The parameter for the index. -/
def indexSlot : Slot :=
  { name := "Index", kind := .int .i32, initial := .of (.int .i32) (Kind.blank _), index := 1 }

/-- The parameter for the length. -/
def lengthSlot : Slot :=
  { name := "Length", kind := .int .i32, initial := .of (.int .i32) unlimited, index := 2 }

theorem findNamed?_index : command.descriptor.findNamed? "Index" = some indexSlot := rfl

theorem findNamed?_length : command.descriptor.findNamed? "Length" = some lengthSlot := rfl

/-- An integer of four bytes comes through the floating-point numbers unchanged. -/
theorem coerce?_numeral (n : Index) :
    (Value.ofDouble (Binary.ofInt .binary64 n.val)).coerce? (.int .i32) =
      some (.of (.int .i32) n) := by
  have hbound : n.val.natAbs ≤ 2 * FloatKind.f64.format.binade := by
    have hrange := n.property
    simp only [IntKind.least, IntKind.greatest] at hrange
    have hbinade : FloatKind.f64.format.binade = 2 ^ 52 := rfl
    rw [hbinade]
    omega
  exact (Value.standsFor_float hbound).coerce?_self

/-- A named integer is bound to its parameter. -/
theorem steps_numeral {name : String} {p : Slot}
    (hfind : command.descriptor.findNamed? name = some p) (hkind : p.kind = .int .i32)
    {b : Binding} (hfree : b.isFromPipe p = false) (n : Index) (rest : List Statement) (s : Store) :
    b.steps command.descriptor (command.descriptor.items (.flag name :: numeral n :: rest)) s =
      (b.put p (.of (.int .i32) n)).steps command.descriptor (command.descriptor.items rest) s := by
  have hswitch : p.isSwitch = false := by
    rw [Parameter.isSwitch, hkind]
    rfl
  have hcoerce : (Value.ofDouble (Binary.ofInt .binary64 n.val)).coerce? p.kind =
      some (.of (.int .i32) n) := by
    rw [hkind]
    exact coerce?_numeral n
  have hstep : b.step command.descriptor (.named p (numeral n)) s =
      (.ok (b.put p (.of (.int .i32) n)), s) := by
    simp only [step, hfree, Bool.false_eq_true, if_false]
    exact putArgument_number hcoerce b s
  rw [Descriptor.items_named hfind hswitch rfl, steps, hstep]

/-- A binding with the places put in. -/
def putPlaces (b : Binding) (index : Index) (length? : Option Index) : Binding :=
  length?.elim (b.put indexSlot (.of (.int .i32) index)) fun length =>
    (b.put indexSlot (.of (.int .i32) index)).put lengthSlot (.of (.int .i32) length)

theorem steps_places {b : Binding} (hindex : b.isFromPipe indexSlot = false)
    (hlength : b.isFromPipe lengthSlot = false) (index : Index) (length? : Option Index)
    (s : Store) :
    b.steps command.descriptor (command.descriptor.items (places index length?)) s =
      (.ok (putPlaces b index length?), s) := by
  cases length? with
  | none => exact steps_numeral findNamed?_index rfl hindex index [] s
  | some length =>
      have hfirst :=
        steps_numeral findNamed?_index rfl hindex index [.flag "Length", numeral length] s
      have hfree : (b.put indexSlot (.of (.int .i32) index)).isFromPipe lengthSlot = false :=
        hlength
      exact hfirst.trans (steps_numeral findNamed?_length rfl hfree length [] s)

/-- A text by position is bound to the parameter for the text. -/
theorem bind_positional {a : Statement} (ha : a.isFlag = false) {t : String} {s : Store}
    (hargument : a.argumentFor textSlot s = (.ok (.ofText t), s)) (rest : List Statement) :
    command.descriptor.bind (a :: rest) none s =
      finishRun command.descriptor
        ((({ start command.descriptor with vacant := [] } : Binding).put textSlot (.ofText t)).steps
          command.descriptor (command.descriptor.items rest) s) := by
  have hpipe : ofPipe command.descriptor none = .ok (start command.descriptor) := rfl
  have hvacant : (start command.descriptor).vacant = [textSlot] := rfl
  have hstep : (start command.descriptor).step command.descriptor (.positional a) s =
      (.ok (({ start command.descriptor with vacant := [] } : Binding).put textSlot (.ofText t)),
        s) := by
    simp only [step, hvacant, putArgument, hargument]
  rw [Descriptor.bind_of_ofPipe hpipe, Descriptor.items_positional ha, steps, hstep]

/-- Cutting binds the text, the index, and the length or its initial value. -/
theorem bind_cut {t : String} {texts : List Statement} {piped? : Option Value}
    (h : Arrives t texts piped?) (index : Index) (length? : Option Index) (s : Store) :
    command.descriptor.bind (texts ++ places index length?) piped? s =
      (.ok [.ofText t, .of (.int .i32) index,
        .of (.int .i32) (length?.getD unlimited)], s) := by
  cases h with
  | quoted =>
      rw [List.singleton_append, bind_positional rfl rfl, steps_places rfl rfl]
      cases length? <;> rfl
  | word =>
      rw [List.singleton_append, bind_positional rfl rfl, steps_places rfl rfl]
      cases length? <;> rfl
  | piped =>
      have hpipe : ofPipe command.descriptor (some (.ofText t)) =
          .ok ((start command.descriptor).ahead textSlot (.ofText t)) := rfl
      rw [List.nil_append, Descriptor.bind_of_ofPipe hpipe, steps_places rfl rfl]
      cases length? <;> rfl

/-! ## Calls and chains -/

theorem resolve_cut : Stock.registry.resolve "Get-Substring" = .ok command := rfl

/-- Cutting comes to taking a part of the text. -/
theorem processes_cut {t : String} {texts : List Statement} {piped? : Option Value}
    (h : Arrives t texts piped?) (index : Index) (length? : Option Index) (host : Host)
    (s : Store) {part : Except String String}
    (hpart : Stock.substring t index.val (length?.getD unlimited).val = part) :
    Processes Stock.registry host (cut texts index length?) piped? s
      { result := part.map .ofText } s := by
  rw [← hpart]
  exact ⟨command, _, resolve_cut, bind_cut h index length? s, rfl⟩

theorem ofCall_cut {t : String} {texts : List Statement} {piped? : Option Value}
    (h : Arrives t texts piped?) (index : Index) (length? : Option Index) (host : Host)
    (s : Store) {part : String}
    (hpart : Stock.substring t index.val (length?.getD unlimited).val = .ok part) :
    ofCall Stock.registry host (cut texts index length?) piped? s = gives part s :=
  ofCall_of_ok (processes_cut h index length? host s hpart) rfl

/-- Cutting succeeds where there is a part of the text. -/
theorem cut_ok_iff {t : String} {texts : List Statement} {piped? : Option Value}
    (h : Arrives t texts piped?) (index : Index) (length? : Option Index) (host : Host)
    (s : Store) :
    (∃ v, (ofCall Stock.registry host (cut texts index length?) piped? s).result = .ok v) ↔
      0 ≤ index.val ∧ index.val ≤ t.length := by
  rw [← Stock.substring_ok_iff t index.val (length?.getD unlimited).val]
  cases hpart : Stock.substring t index.val (length?.getD unlimited).val with
  | ok part =>
      rw [ofCall_cut h index length? host s hpart]
      exact ⟨fun _ => ⟨part, rfl⟩, fun _ => ⟨_, rfl⟩⟩
  | error message =>
      rw [ofCall_of_processes (processes_cut h index length? host s hpart)]
      constructor
      · intro hok
        obtain ⟨v, hv⟩ := hok
        cases hv
      · intro hok
        obtain ⟨part, hpart⟩ := hok
        cases hpart

/-- The command that joins, as the registry holds it. -/
def joining : Command :=
  ⟨.ofParameters "Join" "Text" Stock.joinText.parameters, Stock.joinText⟩

theorem resolve_join : Stock.registry.resolve "Join-Text" = .ok joining := rfl

theorem bind_join (a b separator : String) (s : Store) :
    joining.descriptor.bind (join a b separator).args none s =
      (.ok [.ofText a, .ofText b, .ofText separator], s) := rfl

theorem processes_join (a b separator : String) (host : Host) (s : Store) :
    Processes Stock.registry host (join a b separator) none s
      (Stock.giving (.ofText (a ++ separator ++ b))) s :=
  ⟨joining, _, resolve_join, bind_join a b separator s, rfl⟩

/-- Cutting what comes through the pipe cuts what was joined. -/
theorem ofChain_join_cut (a b separator : String) (index : Index) (length? : Option Index)
    (host : Host) (s : Store) {part : String}
    (hpart : Stock.substring (a ++ separator ++ b) index.val
      (length?.getD unlimited).val = .ok part) :
    ofChain Stock.registry host [join a b separator, cut [] index length?] none s =
      gives part s := by
  have hpasses : Passes Stock.registry host [join a b separator, cut [] index length?] none s
      [Stock.giving (.ofText (a ++ separator ++ b)), { result := .ok (.ofText part) }]
      (some (.ofText part)) s :=
    .cons (processes_join a b separator host s) rfl
      (.cons (processes_cut .piped index length? host s hpart) rfl .nil)
  exact hpasses.ofChain_eq

theorem drop_joined (a b separator : String) :
    (a ++ separator ++ b).toList.drop (a.length + separator.length) = b.toList := by
  rw [String.toList_append, String.toList_append, ← String.length_toList, ← String.length_toList,
    ← List.length_append, List.drop_left]

theorem length_le_joined (a b separator : String) :
    ((a.length + separator.length : Nat) : Int) ≤ (a ++ separator ++ b).length := by
  rw [String.length_append, String.length_append]
  omega

/-- Behind the first text and the separator is the second text. -/
theorem substring_joined (a b separator : String) {length : Int} (hlength : length < 0) :
    Stock.substring (a ++ separator ++ b) (a.length + separator.length : Nat) length = .ok b := by
  rw [Stock.substring_to_end (Int.natCast_nonneg _) (length_le_joined a b separator) hlength,
    Int.toNat_natCast, drop_joined, String.ofList_toList]

theorem substring_joined_take (a b separator : String) (m : Nat) :
    Stock.substring (a ++ separator ++ b) (a.length + separator.length : Nat) m =
      .ok (String.ofList (b.toList.take (min m b.length))) := by
  rw [Stock.substring_take (Int.natCast_nonneg _) (length_le_joined a b separator),
    Int.toNat_natCast, drop_joined, ← String.length_toList, ← List.take_eq_take_min]

theorem length_take_toList {t : String} {k : Nat} (hk : k ≤ t.length) :
    (String.ofList (t.toList.take k)).length = k := by
  rw [String.length_ofList, List.length_take, String.length_toList, Nat.min_eq_left hk]

theorem take_append_drop_toList (t : String) (k : Nat) :
    String.ofList (t.toList.take k) ++ String.ofList (t.toList.drop k) = t := by
  rw [← String.ofList_append, List.take_append_drop, String.ofList_toList]

end Cutting

open Cutting Evaluation

/-- Joining and cutting are inverse through the pipe.  The second of two joined texts is what comes
behind the first and the separator, and a length takes that many characters from its front.  A text
can be cut at every index from its start to its end and nowhere else, a negative length takes all
that is left, and the parts on both sides of an index make up the text. -/
theorem cutting_undoes_joining (host : Host) (store : Store) :
    (∀ (a b separator : String) (h : a.length + b.length + separator.length < 2 ^ 31),
      ofChain Stock.registry host
        [join a b separator, cut [] (indexOf (a.length + separator.length) (by omega)) none]
        none store = gives b store ∧
      ∀ (m : Nat) (hm : m < 2 ^ 31),
        ofChain Stock.registry host
          [join a b separator,
           cut [] (indexOf (a.length + separator.length) (by omega)) (some (indexOf m hm))]
          none store = gives (String.ofList (b.toList.take (min m b.length))) store) ∧
    ∀ (t : String) (texts : List Statement) (piped? : Option Value), Arrives t texts piped? →
      (∀ (index : Index) (length? : Option Index),
        (∃ v, (ofCall Stock.registry host (cut texts index length?) piped? store).result = .ok v) ↔
          0 ≤ index.val ∧ index.val ≤ t.length) ∧
      (∀ index length : Index, 0 ≤ index.val → index.val ≤ t.length → length.val < 0 →
        ofCall Stock.registry host (cut texts index (some length)) piped? store =
          gives (String.ofList (t.toList.drop index.val.toNat)) store) ∧
      ∀ (k : Nat) (hk : k < 2 ^ 31), k ≤ t.length → ∃ front back : String,
        ofCall Stock.registry host
          (cut texts (indexOf 0 (by decide)) (some (indexOf k hk))) piped? store =
            gives front store ∧
        ofCall Stock.registry host (cut texts (indexOf k hk) none) piped? store =
          gives back store ∧
        front.length = k ∧ front ++ back = t := by
  constructor
  · intro a b separator h
    constructor
    · exact ofChain_join_cut a b separator _ none host store
        (substring_joined a b separator (by decide))
    · intro m hm
      exact ofChain_join_cut a b separator _ _ host store (substring_joined_take a b separator m)
  · intro t texts piped? harrives
    refine ⟨fun index length? => cut_ok_iff harrives index length? host store, ?_, ?_⟩
    · intro index length hnonneg hle hlength
      exact ofCall_cut harrives index _ host store (Stock.substring_to_end hnonneg hle hlength)
    · intro k hk hle
      have hfront : Stock.substring t 0 k = .ok (String.ofList (t.toList.take k)) :=
        Stock.substring_take (Int.le_refl 0) (Int.natCast_nonneg _) k
      have hback : Stock.substring t k (-1) = .ok (String.ofList (t.toList.drop k)) :=
        Stock.substring_to_end (Int.natCast_nonneg k) (by omega) (by decide)
      exact ⟨_, _, ofCall_cut harrives _ _ host store hfront,
        ofCall_cut harrives _ none host store hback, length_take_toList hle,
        take_append_drop_toList t k⟩

/-- Texts of more bytes than characters: a separator of one character is left out, a length goes
past the end, and the text is cut in front of its last character. -/
theorem cutting_undoes_joining_dashes :
    ofChain Stock.registry .plain
      [join "naïve" "日本" "—", cut [] (indexOf 6 (by decide)) (some (indexOf 7 (by decide)))]
      none {} = gives "日本" {} ∧
    ∃ front back : String,
      ofCall Stock.registry .plain
        (cut [.word "日本"] (indexOf 0 (by decide)) (some (indexOf 1 (by decide)))) none {} =
          gives front {} ∧
      ofCall Stock.registry .plain (cut [.word "日本"] (indexOf 1 (by decide)) none) none {} =
        gives back {} ∧
      front.length = 1 ∧ front ++ back = "日本" :=
  ⟨((cutting_undoes_joining .plain {}).1 "naïve" "日本" "—" (by decide)).2 7 (by decide),
    ((cutting_undoes_joining .plain {}).2 "日本" _ _ .word).2.2 1 (by decide) (by decide)⟩

end VerbNoun
