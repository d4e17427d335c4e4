import VerbNoun.Proofs.Command.Binding
import VerbNoun.Proofs.Command.Registered
import VerbNoun.Proofs.Frame
set_option autoImplicit false

/-!
# Command: the order of arguments (SPEC §4.3)

Binding goes from left to right, with a cursor, a list of mandatory parameters and slots that
change at each item.  Still the order of the items counts only in two ways: arguments by position go
to parameters one after the other, and of the items for one parameter the last one stays.
-/

namespace VerbNoun

namespace Part

/-- The arguments that a part is written with. -/
def tokens : Part → List Statement
  | .positional argument => [argument]
  | .lone name => [.flag name]
  | .valued name argument? => .flag name :: argument?.toList

/-- A part that is complete: an argument by position, a switch, or a named parameter with its
argument. -/
inductive Complete (d : Descriptor) : Part → Prop
  | positional {a : Statement} (ha : a.isFlag = false) : Complete d (.positional a)
  | switch {name : String} {p : Slot} (hp : d.findNamed? name = some p)
      (hswitch : p.isSwitch = true) : Complete d (.lone name)
  | named {name : String} {p : Slot} {a : Statement} (hp : d.findNamed? name = some p)
      (hswitch : p.isSwitch = false) (ha : a.isFlag = false) : Complete d (.valued name (some a))

/-- The slot of the parameter that a part names. -/
def slot? (d : Descriptor) (part : Part) : Option Nat :=
  part.flag?.bind fun flag => (d.findNamed? flag.1).map (·.index)

/-- The same parts in another order, in which the arguments by position and the parts for each
parameter by name follow each other as before. -/
structure Rearranged (d : Descriptor) (parts parts' : List Part) : Prop where
  perm : parts'.Perm parts
  positional_eq : parts'.filterMap argument? = parts.filterMap argument?
  named_eq : ∀ i, parts'.filter (·.slot? d = some i) = parts.filter (·.slot? d = some i)

end Part

namespace Descriptor

variable {d : Descriptor}

/-- Complete parts are found again in what they are written with. -/
theorem parts_tokens {parts : List Part} (h : ∀ part ∈ parts, part.Complete d) :
    d.parts (parts.flatMap Part.tokens) = parts := by
  induction parts with
  | nil => rfl
  | cons part parts ih =>
      obtain ⟨hpart, hparts⟩ := List.forall_mem_cons.1 h
      have htail := ih hparts
      rw [List.flatMap_cons]
      cases hpart with
      | positional ha =>
          rw [Part.tokens, List.singleton_append, parts_of_isFlag_eq_false ha, htail]
      | switch hp hswitch =>
          rw [← called?_eq] at hp
          rw [Part.tokens, List.singleton_append, parts_of_isSwitch hp hswitch, htail]
      | @named name p a hp hswitch ha =>
          rw [← called?_eq] at hp
          have hnot : ∀ q, d.called? name = some q → ¬ q.isSwitch := by
            intro q hq
            rw [hp] at hq
            cases hq
            rw [hswitch]
            exact Bool.false_ne_true
          have htokens : (Part.valued name (some a)).tokens ++ parts.flatMap Part.tokens =
              .flag name :: a :: parts.flatMap Part.tokens := rfl
          rw [htokens, parts_of_isSwitch_eq_false hnot]
          exact congrArg (Part.valued name (some a) :: ·) htail

/-- What a slot is given by name comes from the parts that name its parameter. -/
theorem filter_giftsByName (parts : List Part) (i : Nat) :
    (d.giftsByName parts).filter (·.parameter.index = i) =
      d.giftsByName (parts.filter (·.slot? d = some i)) := by
  induction parts with
  | nil => rfl
  | cons part parts ih =>
      cases hflag : part.flag? with
      | none =>
          have hskip : ∀ rest : List Part, d.giftsByName (part :: rest) = d.giftsByName rest := by
            intro rest
            unfold giftsByName
            rw [List.filterMap_cons_none hflag]
          rw [hskip, ih, List.filter_cons_of_neg (by simp [Part.slot?, hflag])]
      | some flag =>
          obtain ⟨name, argument?⟩ := flag
          rw [giftsByName_flag hflag, List.filter_append, ih, List.filter_cons]
          have hslot : part.slot? d = (d.called? name).map (·.index) := by
            rw [Part.slot?, hflag, called?_eq]
            rfl
          cases hp : d.called? name with
          | none => simp [hslot, hp]
          | some p =>
              by_cases hi : p.index = i
              · simp [hslot, hp, hi, giftsByName_flag hflag]
              · simp [hslot, hp, hi]

variable {parts parts' : List Part}

/-- A rearrangement gives the same to each slot in the same order. -/
theorem filter_gifts_rearranged (h : Part.Rearranged d parts parts') (vacant : List Slot)
    (i : Nat) : (d.gifts vacant parts').filter (·.parameter.index = i) =
      (d.gifts vacant parts).filter (·.parameter.index = i) := by
  have hposition : giftsByPosition vacant parts' = giftsByPosition vacant parts := by
    unfold giftsByPosition
    rw [h.positional_eq]
  unfold gifts
  rw [List.filter_append, List.filter_append, hposition, filter_giftsByName, filter_giftsByName,
    h.named_eq]

theorem mem_gifts_rearranged (h : Part.Rearranged d parts parts') (vacant : List Slot) {g : Gift} :
    g ∈ d.gifts vacant parts' ↔ g ∈ d.gifts vacant parts :=
  mem_iff_of_filter_eq (filter_gifts_rearranged h vacant g.parameter.index)

theorem allots_rearranged (h : Part.Rearranged d parts parts') {taker? : Option (Slot × Value)}
    {vacant : List Slot} (hallots : d.Allots taker? vacant parts) :
    d.Allots taker? vacant parts' := by
  constructor
  · intro flag hflag
    exact hallots.known flag ((h.perm.filterMap _).mem_iff.1 hflag)
  · intro name argument? hmem
    exact hallots.followed name argument? (h.perm.mem_iff.1 hmem)
  · rw [h.positional_eq]
    exact hallots.room

/-- A rearrangement means the same to a command. -/
theorem binds_rearranged (h : Part.Rearranged d parts parts')
    (hcomplete : ∀ part ∈ parts, part.Complete d) {piped? : Option Value} {store : Store}
    {slots : List Value} (hbinds : d.Binds (parts.flatMap Part.tokens) piped? store slots) :
    d.Binds (parts'.flatMap Part.tokens) piped? store slots := by
  have hcomplete' : ∀ part ∈ parts', part.Complete d :=
    fun part hpart => hcomplete part (h.perm.mem_iff.1 hpart)
  obtain ⟨htaken, hallots, hfits, hmet, hlength, hheld⟩ := hbinds
  rw [parts_tokens hcomplete] at hallots hfits hmet hheld
  refine ⟨htaken, ?_, ?_, ?_, hlength, ?_⟩ <;> rw [parts_tokens hcomplete']
  · exact allots_rearranged h hallots
  · intro g hg
    exact hfits g ((mem_gifts_rearranged h _).1 hg)
  · intro p hp hmandatory
    refine (hmet p hp hmandatory).imp_right ?_
    rintro ⟨g, hg, hindex⟩
    exact ⟨g, (mem_gifts_rearranged h _).2 hg, hindex⟩
  · intro p hp
    rw [hheld p hp]
    unfold heldBy
    rw [filter_gifts_rearranged h]

end Descriptor

/-- Complete items that a registered command can be called with can be put in any other order, as
long as those by position follow each other as before and so do those for the same parameter: the
command gets the same, and the store is left alone. -/
theorem rearranged_arguments_bind_alike (additions : List Addition) (e : String × Command)
    (he : e ∈ (Registry.reached additions).commands.entries) (parts parts' : List Part)
    (hcomplete : ∀ part ∈ parts, part.Complete e.2.descriptor)
    (hparts : Part.Rearranged e.2.descriptor parts parts') (piped? : Option Value) (store : Store)
    (slots : List Value)
    (h : (e.2.descriptor.bind (parts.flatMap Part.tokens) piped? store).1 = .ok slots) :
    e.2.descriptor.bind (parts'.flatMap Part.tokens) piped? store = (.ok slots, store) := by
  have hd := (Registry.accepted_of_mem_reached additions e he).numbered
  have hok := hd.bind_ok_iff.2 (Descriptor.binds_rearranged hparts hcomplete (hd.bind_ok_iff.1 h))
  have hspared := e.2.descriptor.bind_spared (parts'.flatMap Part.tokens) piped? store
  generalize e.2.descriptor.bind (parts'.flatMap Part.tokens) piped? store = r at hok hspared
  obtain ⟨result, store'⟩ := r
  cases hok
  rw [hspared.store_eq_of_ok]

/-- Joining texts with the separator given twice: each separator may move behind a text, but
not past the other. -/
theorem rearranged_arguments_bind_alike_joinText :
    (Descriptor.ofParameters "Join" "Text" Stock.joinText.parameters).bind
      [.word "a", .flag "SEPARATOR", .quoted ", ", .word "b", .flag "separator", .quoted "; "]
      none {} = (.ok [.ofText "a", .ofText "b", .ofText "; "], {}) := by
  have hmem : ("JOIN-TEXT", ⟨.ofParameters "Join" "Text" Stock.joinText.parameters,
      Stock.joinText⟩) ∈ (Registry.reached [.stock]).commands.entries :=
    List.mem_of_getElem? (i := 3) rfl
  refine rearranged_arguments_bind_alike [.stock] _ hmem
    [.valued "SEPARATOR" (some (.quoted ", ")), .positional (.word "a"),
      .valued "separator" (some (.quoted "; ")), .positional (.word "b")]
    [.positional (.word "a"), .valued "SEPARATOR" (some (.quoted ", ")),
      .positional (.word "b"), .valued "separator" (some (.quoted "; "))]
    ?_ ⟨?_, rfl, ?_⟩ none {} _ rfl
  · intro part hpart
    simp only [List.mem_cons, List.not_mem_nil, or_false] at hpart
    rcases hpart with rfl | rfl | rfl | rfl
    · exact .named rfl rfl rfl
    · exact .positional rfl
    · exact .named rfl rfl rfl
    · exact .positional rfl
  · exact (List.Perm.swap _ _ _).trans (.cons _ (.cons _ (.swap _ _ _)))
  · exact fun i => rfl

end VerbNoun
