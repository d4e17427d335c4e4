import VerbNoun.Proofs.Command.Item
set_option autoImplicit false

/-!
# Command: handing out part by part (SPEC §4.3)

Whether an argument list can be handed out is decided part by part, and so are the gifts.  The
parts of a list and the items that binding goes through start alike, or else the list is spoiled:
its first item is a fault, and it cannot be handed out.
-/

namespace VerbNoun

open Text

/-- The item that a gift by name is bound by. -/
def Item.ofGift (g : Gift) : Item :=
  match g.argument? with
  | none => .switch g.parameter
  | some argument => .named g.parameter argument

/-! ## Parts and items -/

theorem Statement.isFlag_eq_false {a : Statement} (h : ∀ name, a = .flag name → False) :
    a.isFlag = false := by
  cases a with
  | flag name => exact (h name rfl).elim
  | _ => rfl

namespace Descriptor

variable {d : Descriptor} {taker? : Option (Slot × Value)}

theorem called?_eq (d : Descriptor) (name : String) : d.called? name = d.findNamed? name :=
  List.head?_filter

theorem mem_named_of_called? {name : String} {p : Slot} (h : d.called? name = some p) :
    p ∈ d.named :=
  (List.mem_filter.1 (List.mem_of_head? h)).1

theorem parts_of_isFlag_eq_false {a : Statement} (h : a.isFlag = false) (rest : List Statement) :
    d.parts (a :: rest) = .positional a :: d.parts rest := by
  cases a with
  | flag name => cases h
  | _ => rfl

theorem parts_of_isSwitch {name : String} {p : Slot} (h : d.called? name = some p)
    (hp : p.isSwitch = true) (rest : List Statement) :
    d.parts (.flag name :: rest) = .lone name :: d.parts rest := by
  have hkind : (d.called? name).any (·.kind = .bool) = true := by
    rw [h]
    exact hp
  rw [parts.eq_def]
  exact if_pos hkind

theorem parts_of_isSwitch_eq_false {name : String} (h : ∀ p, d.called? name = some p → ¬ p.isSwitch)
    (rest : List Statement) :
    d.parts (.flag name :: rest) =
      match rest with
      | [] => [.valued name none]
      | a :: rest' => .valued name (some a) :: d.parts rest' := by
  have hkind : ¬ (d.called? name).any (·.kind = .bool) = true := by
    cases hcalled : d.called? name with
    | none => simp
    | some p => exact h p hcalled
  rw [parts.eq_def]
  exact if_neg hkind

/-! ## Handing out part by part -/

theorem allots_nil (d : Descriptor) (taker? : Option (Slot × Value)) (vacant : List Slot) :
    d.Allots taker? vacant [] := by
  refine ⟨?_, ?_, Nat.zero_le _⟩
  · intro flag hflag
    cases hflag
  · intro name argument? hmem
    cases hmem

theorem allots_positional_iff {vacant : List Slot} {parts : List Part} {a : Statement} :
    d.Allots taker? vacant (.positional a :: parts) ↔
      ∃ p vacant', vacant = p :: vacant' ∧ d.Allots taker? vacant' parts := by
  constructor
  · rintro ⟨hknown, hfollowed, hroom⟩
    cases vacant with
    | nil => simp [Part.argument?] at hroom
    | cons p vacant =>
        refine ⟨p, vacant, rfl, hknown, ?_, Nat.le_of_succ_le_succ hroom⟩
        intro name argument? hmem
        exact hfollowed name argument? (List.mem_cons_of_mem _ hmem)
  · rintro ⟨p, vacant, rfl, hknown, hfollowed, hroom⟩
    refine ⟨hknown, ?_, Nat.succ_le_succ hroom⟩
    intro name argument? hmem
    rcases List.mem_cons.1 hmem with hpart | hmem
    · cases hpart
    · exact hfollowed name argument? hmem

/-- A part by name asks for a parameter, and perhaps for an argument, and leaves the rest. -/
theorem allots_flag_iff {vacant : List Slot} {parts : List Part} {part : Part} {name : String}
    {argument? : Option Statement} (hpart : part.flag? = some (name, argument?)) :
    d.Allots taker? vacant (part :: parts) ↔
      (∃ p, d.called? name = some p ∧ takes taker? p = false) ∧
      (part = .valued name argument? → ∃ a, argument? = some a ∧ a.isFlag = false) ∧
      d.Allots taker? vacant parts := by
  have hflags := @List.filterMap_cons_some _ _ Part.flag? part parts _ hpart
  have harguments : (part :: parts).filterMap Part.argument? = parts.filterMap Part.argument? := by
    cases part with
    | positional a => simp [Part.flag?] at hpart
    | lone _ => rfl
    | valued _ _ => rfl
  constructor
  · rintro ⟨hknown, hfollowed, hroom⟩
    rw [hflags] at hknown
    rw [harguments] at hroom
    refine ⟨hknown (name, argument?) List.mem_cons_self, ?_, ?_, ?_, hroom⟩
    · rintro rfl
      exact hfollowed name argument? List.mem_cons_self
    · intro flag hflag
      exact hknown flag (List.mem_cons_of_mem _ hflag)
    · intro name' argument?' hmem
      exact hfollowed name' argument?' (List.mem_cons_of_mem _ hmem)
  · rintro ⟨hcalled, hargument, hknown, hfollowed, hroom⟩
    refine ⟨?_, ?_, by rwa [harguments]⟩
    · rw [hflags]
      intro flag hflag
      rcases List.mem_cons.1 hflag with rfl | hflag
      · exact hcalled
      · exact hknown flag hflag
    · intro name' argument?' hmem
      rcases List.mem_cons.1 hmem with rfl | hmem
      · obtain ⟨rfl, rfl⟩ := Prod.mk.inj (Option.some.inj hpart)
        exact hargument rfl
      · exact hfollowed name' argument?' hmem

/-- The gifts in the order of the parts. -/
def handOut (d : Descriptor) : List Slot → List Part → List Gift
  | _, [] => []
  | p :: vacant, .positional a :: parts => ⟨p, some a⟩ :: d.handOut vacant parts
  | [], .positional _ :: parts => d.handOut [] parts
  | vacant, .lone name :: parts =>
    ((d.called? name).map (⟨·, none⟩)).toList ++ d.handOut vacant parts
  | vacant, .valued name argument? :: parts =>
    ((d.called? name).map (⟨·, argument?⟩)).toList ++ d.handOut vacant parts

theorem handOut_nil (d : Descriptor) (vacant : List Slot) : d.handOut vacant [] = [] := by
  cases vacant <;> rfl

theorem handOut_flag {part : Part} {name : String} {argument? : Option Statement}
    (hpart : part.flag? = some (name, argument?)) (vacant : List Slot) (parts : List Part) :
    d.handOut vacant (part :: parts) =
      ((d.called? name).map (⟨·, argument?⟩)).toList ++ d.handOut vacant parts := by
  cases part with
  | positional a => simp [Part.flag?] at hpart
  | lone name' =>
      obtain ⟨rfl, rfl⟩ := Prod.mk.inj (Option.some.inj hpart)
      cases vacant <;> rfl
  | valued name' argument?' =>
      obtain ⟨rfl, rfl⟩ := Prod.mk.inj (Option.some.inj hpart)
      cases vacant <;> rfl

/-- A flag that names a parameter gives to it before the other parts do. -/
theorem handOut_called {part : Part} {name : String} {argument? : Option Statement} {p : Slot}
    (hpart : part.flag? = some (name, argument?)) (hp : d.called? name = some p)
    (vacant : List Slot) (parts : List Part) :
    d.handOut vacant (part :: parts) = ⟨p, argument?⟩ :: d.handOut vacant parts := by
  rw [handOut_flag hpart, hp]
  rfl

/-- The first item of the list is a fault, and the list cannot be handed out. -/
def Spoiled (d : Descriptor) (args : List Statement) : Prop :=
  (∃ items, (∃ name, d.items args = .unknown name :: items) ∨
    ∃ p, d.items args = .dangling p :: items) ∧
  ∀ taker? vacant, ¬ d.Allots taker? vacant (d.parts args)

theorem spoiled_of_unknown {name : String} (h : d.called? name = none) (rest : List Statement) :
    d.Spoiled (.flag name :: rest) := by
  have hparts : ∃ argument? parts,
      d.parts (.flag name :: rest) = .valued name argument? :: parts := by
    rw [parts_of_isSwitch_eq_false fun p hp => by rw [h] at hp; cases hp]
    cases rest with
    | nil => exact ⟨none, [], rfl⟩
    | cons a rest => exact ⟨some a, d.parts rest, rfl⟩
  refine ⟨⟨d.items rest, .inl ⟨name, ?_⟩⟩, ?_⟩
  · rw [called?_eq] at h
    exact items_unknown h rest
  · intro taker? vacant hallots
    obtain ⟨argument?, parts, hparts⟩ := hparts
    rw [hparts, allots_flag_iff rfl] at hallots
    obtain ⟨⟨p, hp, -⟩, -⟩ := hallots
    rw [h] at hp
    cases hp

theorem spoiled_of_dangling {name : String} {p : Slot} (h : d.called? name = some p)
    (hswitch : ¬ p.isSwitch = true) {rest : List Statement}
    (hrest : ∀ a rest', rest = a :: rest' → a.isFlag = true) :
    d.Spoiled (.flag name :: rest) := by
  have hparts := parts_of_isSwitch_eq_false
    (fun q hq => by rw [h] at hq; rwa [← Option.some.inj hq]) rest
  rw [called?_eq] at h
  constructor
  · exact ⟨d.items rest, .inr ⟨p, items_dangling h (Bool.eq_false_iff.2 hswitch) hrest⟩⟩
  · intro taker? vacant hallots
    rw [hparts] at hallots
    cases rest with
    | nil =>
        obtain ⟨-, hargument, -⟩ := (allots_flag_iff rfl).1 hallots
        obtain ⟨a, ha, -⟩ := hargument rfl
        cases ha
    | cons a rest =>
        obtain ⟨-, hargument, -⟩ := (allots_flag_iff rfl).1 hallots
        obtain ⟨b, hb, hflag⟩ := hargument rfl
        rw [← Option.some.inj hb, hrest a rest rfl] at hflag
        cases hflag

/-- An argument list starts with a flag that gives something: the first part is by name, and the
first item is the gift. -/
structure StartsWith (d : Descriptor) (args : List Statement) (part : Part) (name : String)
    (g : Gift) (rest : List Statement) : Prop where
  flag?_eq : part.flag? = some (name, g.argument?)
  called?_eq : d.called? name = some g.parameter
  followed : part = .valued name g.argument? → ∃ a, g.argument? = some a ∧ a.isFlag = false
  items_eq : d.items args = .ofGift g :: d.items rest
  parts_eq : d.parts args = part :: d.parts rest
  visit_eq : ∀ store, args.foldl Statement.visit store = rest.foldl Statement.visit (g.visit store)

theorem startsWith_switch {name : String} {p : Slot} (h : d.called? name = some p)
    (hswitch : p.isSwitch = true) (rest : List Statement) :
    d.StartsWith (.flag name :: rest) (.lone name) name ⟨p, none⟩ rest := by
  refine ⟨rfl, h, fun hpart => ?_, ?_, parts_of_isSwitch h hswitch rest, fun _ => rfl⟩
  · cases hpart
  · rw [Descriptor.called?_eq] at h
    exact items_switch h hswitch rest

theorem startsWith_named {name : String} {p : Slot} (h : d.called? name = some p)
    (hswitch : ¬ p.isSwitch = true) {a : Statement} (ha : a.isFlag = false)
    (rest : List Statement) :
    d.StartsWith (.flag name :: a :: rest) (.valued name (some a)) name ⟨p, some a⟩ rest := by
  refine ⟨rfl, h, fun _ => ⟨a, rfl, ha⟩, ?_, ?_, fun _ => rfl⟩
  · rw [Descriptor.called?_eq] at h
    exact items_named h (Bool.eq_false_iff.2 hswitch) ha rest
  · rw [parts_of_isSwitch_eq_false]
    intro q hq
    rw [h] at hq
    rwa [← Option.some.inj hq]

/-- An argument list is empty, or spoiled, or starts with a flag that gives something or with an
argument by position. -/
theorem args_induction {motive : List Statement → Prop} (nil : motive [])
    (spoiled : ∀ args, d.Spoiled args → motive args)
    (flag : ∀ args part name g rest, d.StartsWith args part name g rest → motive rest → motive args)
    (positional : ∀ a rest, d.items (a :: rest) = .positional a :: d.items rest →
      d.parts (a :: rest) = .positional a :: d.parts rest → motive rest → motive (a :: rest))
    (args : List Statement) : motive args := by
  induction args using items.induct d with
  | case1 => exact nil
  | case2 name rest hfind ih =>
      rw [← called?_eq] at hfind
      exact spoiled _ (spoiled_of_unknown hfind rest)
  | case3 name rest p hfind hswitch ih =>
      rw [← called?_eq] at hfind
      exact flag _ _ _ _ _ (startsWith_switch hfind hswitch rest) ih
  | case4 name p hfind hswitch =>
      rw [← called?_eq] at hfind
      exact spoiled _ (spoiled_of_dangling hfind hswitch fun _ _ h => by cases h)
  | case5 name p hfind hswitch next rest ih =>
      rw [← called?_eq] at hfind
      exact spoiled _ (spoiled_of_dangling hfind hswitch fun _ _ h => by cases h; rfl)
  | case6 name p hfind hswitch a rest hflag ih =>
      rw [← called?_eq] at hfind
      have ha := Statement.isFlag_eq_false hflag
      exact flag _ _ _ _ _ (startsWith_named hfind hswitch ha rest) ih
  | case7 a rest hflag ih =>
      have ha := Statement.isFlag_eq_false hflag
      exact positional a rest (items_positional ha rest) (parts_of_isFlag_eq_false ha rest) ih

/-! ## Gifts in two orders -/

theorem argument?_eq_none {part : Part} {flag : String × Option Statement}
    (hpart : part.flag? = some flag) : part.argument? = none := by
  cases part with
  | positional a => cases hpart
  | lone name => rfl
  | valued name argument? => rfl

theorem giftsByPosition_flag {part : Part} {flag : String × Option Statement}
    (hpart : part.flag? = some flag) (vacant : List Slot) (parts : List Part) :
    giftsByPosition vacant (part :: parts) = giftsByPosition vacant parts := by
  unfold giftsByPosition
  rw [List.filterMap_cons_none (argument?_eq_none hpart)]

theorem giftsByName_flag {part : Part} {name : String} {argument? : Option Statement}
    (hpart : part.flag? = some (name, argument?)) (parts : List Part) :
    d.giftsByName (part :: parts) =
      ((d.called? name).map (⟨·, argument?⟩)).toList ++ d.giftsByName parts := by
  unfold giftsByName
  rw [List.filterMap_cons_some hpart, List.filterMap_cons]
  cases hp : d.called? name with
  | none =>
      simp only [hp, Option.map_none]
      rfl
  | some p =>
      simp only [hp, Option.map_some]
      rfl

theorem mem_vacant_of_giftsByPosition {vacant : List Slot} {parts : List Part} {g : Gift}
    (h : g ∈ giftsByPosition vacant parts) : g.parameter ∈ vacant := by
  obtain ⟨⟨p, a⟩, hpair, rfl⟩ := List.mem_map.1 h
  exact (List.of_mem_zip hpair).1

/-- For each slot the gifts come in the same order, whether those by position are told first or
all are told as they come: a slot is either filled by position or by name. -/
theorem filter_handOut {vacant : List Slot}
    (hvacant : ∀ p ∈ vacant, ∀ q ∈ d.named, p.index ≠ q.index) (parts : List Part) (i : Nat) :
    (d.handOut vacant parts).filter (·.parameter.index = i) =
      (d.gifts vacant parts).filter (·.parameter.index = i) := by
  induction parts generalizing vacant with
  | nil => simp [handOut_nil, gifts, giftsByPosition, giftsByName]
  | cons part parts ih =>
      have hflag : ∀ name argument?, part.flag? = some (name, argument?) →
          (d.handOut vacant (part :: parts)).filter (·.parameter.index = i) =
            (d.gifts vacant (part :: parts)).filter (·.parameter.index = i) := by
        intro name argument? hpart
        rw [handOut_flag hpart, gifts, giftsByPosition_flag hpart, giftsByName_flag hpart,
          List.filter_append, ih hvacant, gifts, List.filter_append, List.filter_append,
          List.filter_append]
        cases hp : d.called? name with
        | none => rfl
        | some q =>
            by_cases hq : q.index = i
            · -- Nothing is given to this slot by position.
              have hnil : (giftsByPosition vacant parts).filter (·.parameter.index = i) = [] := by
                rw [List.filter_eq_nil_iff]
                intro g hg
                have hne := hvacant _ (mem_vacant_of_giftsByPosition hg) q (mem_named_of_called? hp)
                simpa [hq] using hne
              rw [hnil]
              rfl
            · simp [hq]
      cases part with
      | positional a =>
          cases vacant with
          | nil => exact ih hvacant
          | cons p vacant =>
              have hgifts : d.gifts (p :: vacant) (.positional a :: parts) =
                  ⟨p, some a⟩ :: d.gifts vacant parts := rfl
              have htail := ih fun q hq => hvacant q (List.mem_cons_of_mem _ hq)
              rw [hgifts, handOut, List.filter_cons, List.filter_cons, htail]
      | lone name => exact hflag name none rfl
      | valued name argument? => exact hflag name argument? rfl

/-- Gifts that are the same for each slot are the same gifts. -/
theorem mem_iff_of_filter_eq {gifts gifts' : List Gift} {g : Gift}
    (h : gifts.filter (·.parameter.index = g.parameter.index) =
      gifts'.filter (·.parameter.index = g.parameter.index)) : g ∈ gifts ↔ g ∈ gifts' := by
  have hmem : ∀ gifts : List Gift,
      g ∈ gifts ↔ g ∈ gifts.filter (·.parameter.index = g.parameter.index) := by
    intro gifts
    simp [List.mem_filter]
  rw [hmem, h, ← hmem]

theorem mem_handOut_iff {vacant : List Slot}
    (hvacant : ∀ p ∈ vacant, ∀ q ∈ d.named, p.index ≠ q.index) {parts : List Part} {g : Gift} :
    g ∈ d.handOut vacant parts ↔ g ∈ d.gifts vacant parts :=
  mem_iff_of_filter_eq (filter_handOut hvacant parts g.parameter.index)

/-- No gift goes to the parameter that takes the piped value. -/
theorem Allots.takes_eq_false {parts : List Part} (h : d.Allots taker? (d.vacant taker?) parts)
    {g : Gift} (hg : g ∈ d.gifts (d.vacant taker?) parts) : takes taker? g.parameter = false := by
  rcases List.mem_append.1 hg with hg | hg
  · have hvacant := (List.mem_filter.1 (mem_vacant_of_giftsByPosition hg)).2
    simpa using hvacant
  · obtain ⟨⟨name, argument?⟩, hflag, hgift⟩ := List.mem_filterMap.1 hg
    obtain ⟨q, hq, rfl⟩ := Option.map_eq_some_iff.1 hgift
    obtain ⟨p, hp, htakes⟩ := h.known _ hflag
    cases hq.symm.trans hp
    exact htakes

end Descriptor

end VerbNoun
