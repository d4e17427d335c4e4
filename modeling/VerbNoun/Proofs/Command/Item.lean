import VerbNoun.Proofs.Command.Gift
set_option autoImplicit false

/-!
# Command: the items of an argument list (SPEC §4.3)

What the items of an argument list are made of, where the list can be cut so that its items are
those of the two pieces, and how far each item brings the binding of a call.
-/

namespace VerbNoun

/-! ## What an item is made of -/

/-- The argument that an item has to be given a value for. -/
def Item.argument? : Item → Option Statement
  | .positional argument => some argument
  | .named _ argument => some argument
  | _ => none

/-- The parameter that an item names. -/
def Item.parameter? : Item → Option Slot
  | .switch p => some p
  | .named p _ => some p
  | .dangling p => some p
  | _ => none

/-- An item takes its argument from the list, and its parameter is one that a flag of the list
names. -/
structure Item.TakenFrom (d : Descriptor) (args : List Statement) (item : Item) : Prop where
  argument_mem : ∀ a, item.argument? = some a → a ∈ args
  parameter_named : ∀ p, item.parameter? = some p →
    ∃ name, .flag name ∈ args ∧ d.findNamed? name = some p

theorem Item.TakenFrom.mono {d : Descriptor} {args args' : List Statement} {item : Item}
    (h : item.TakenFrom d args) (hsub : args ⊆ args') : item.TakenFrom d args' := by
  constructor
  · intro a ha
    exact hsub (h.argument_mem a ha)
  · intro p hp
    obtain ⟨name, hname, hfind⟩ := h.parameter_named p hp
    exact ⟨name, hsub hname, hfind⟩

namespace Descriptor

variable {d : Descriptor}

theorem takenFrom_flag {args : List Statement} {item : Item} {name : String} {p : Slot}
    (hfind : d.findNamed? name = some p) (hitem : item.parameter? = some p)
    (hargument : ∀ a, item.argument? = some a → a ∈ args) :
    item.TakenFrom d (.flag name :: args) := by
  constructor
  · intro a ha
    exact List.mem_cons_of_mem _ (hargument a ha)
  · intro q hq
    exact ⟨name, List.mem_cons_self, by rw [hfind, ← hitem, hq]⟩

/-- Every item of a list is taken from the list. -/
theorem takenFrom_of_mem_items (d : Descriptor) (args : List Statement) :
    ∀ item ∈ d.items args, item.TakenFrom d args := by
  have hcons : ∀ (a : Statement) (rest : List Statement) (items : List Item),
      (∀ item ∈ items, item.TakenFrom d rest) → ∀ item ∈ items, item.TakenFrom d (a :: rest) :=
    fun a rest items h item hitem => (h item hitem).mono (List.subset_cons_self a rest)
  fun_induction d.items args with
  | case1 => simp
  | case2 name rest hfind ih =>
      refine List.forall_mem_cons.2 ⟨⟨?_, ?_⟩, hcons _ _ _ ih⟩
      · simp [Item.argument?]
      · simp [Item.parameter?]
  | case3 name rest p hfind hswitch ih =>
      refine List.forall_mem_cons.2 ⟨takenFrom_flag hfind rfl ?_, hcons _ _ _ ih⟩
      simp [Item.argument?]
  | case4 name p hfind hswitch =>
      refine List.forall_mem_singleton.2 (takenFrom_flag hfind rfl ?_)
      simp [Item.argument?]
  | case5 name p hfind hswitch next rest ih =>
      refine List.forall_mem_cons.2 ⟨takenFrom_flag hfind rfl ?_, hcons _ _ _ ih⟩
      simp [Item.argument?]
  | case6 name p hfind hswitch a rest hflag ih =>
      refine List.forall_mem_cons.2 ⟨takenFrom_flag hfind rfl ?_, hcons _ _ _ (hcons _ _ _ ih)⟩
      simp [Item.argument?]
  | case7 a rest hflag ih =>
      refine List.forall_mem_cons.2 ⟨⟨?_, ?_⟩, hcons _ _ _ ih⟩
      · simp [Item.argument?]
      · simp [Item.parameter?]

theorem mem_named_of_mem_items {args : List Statement} {item : Item} (hitem : item ∈ d.items args)
    {p : Slot} (hp : item.parameter? = some p) : p ∈ d.named := by
  obtain ⟨name, -, hfind⟩ := (d.takenFrom_of_mem_items args item hitem).parameter_named p hp
  exact List.mem_of_find?_eq_some hfind

/-! ## Whole items -/

/-- A list that falls into whole items, with so many arguments by position: arguments by position,
switches, and named parameters each with an argument that is no flag. -/
inductive Whole (d : Descriptor) : List Statement → Nat → Prop
  | nil : Whole d [] 0
  | positional {a : Statement} {rest : List Statement} {n : Nat} (ha : a.isFlag = false)
      (h : Whole d rest n) : Whole d (a :: rest) (n + 1)
  | switch {name : String} {p : Slot} {rest : List Statement} {n : Nat}
      (hp : d.findNamed? name = some p) (hswitch : p.isSwitch = true) (h : Whole d rest n) :
      Whole d (.flag name :: rest) n
  | named {name : String} {p : Slot} {a : Statement} {rest : List Statement} {n : Nat}
      (hp : d.findNamed? name = some p) (hswitch : p.isSwitch = false) (ha : a.isFlag = false)
      (h : Whole d rest n) : Whole d (.flag name :: a :: rest) n

theorem items_positional {a : Statement} (ha : a.isFlag = false) (rest : List Statement) :
    d.items (a :: rest) = .positional a :: d.items rest := by
  cases a with
  | flag name => cases ha
  | _ => rfl

theorem items_switch {name : String} {p : Slot} (hp : d.findNamed? name = some p)
    (hswitch : p.isSwitch = true) (rest : List Statement) :
    d.items (.flag name :: rest) = .switch p :: d.items rest := by
  rw [items.eq_def]
  simp only [hp, hswitch, if_true]

theorem items_named {name : String} {p : Slot} (hp : d.findNamed? name = some p)
    (hswitch : p.isSwitch = false) {a : Statement} (ha : a.isFlag = false)
    (rest : List Statement) :
    d.items (.flag name :: a :: rest) = .named p a :: d.items rest := by
  rw [items.eq_def]
  simp only [hp, hswitch, Bool.false_eq_true, if_false]
  cases a with
  | flag next => cases ha
  | _ => rfl

theorem items_unknown {name : String} (h : d.findNamed? name = none) (rest : List Statement) :
    d.items (.flag name :: rest) = .unknown name :: d.items rest := by
  rw [items.eq_def]
  simp only [h]

theorem items_dangling {name : String} {p : Slot} (hp : d.findNamed? name = some p)
    (hswitch : p.isSwitch = false) {rest : List Statement}
    (hrest : ∀ a rest', rest = a :: rest' → a.isFlag = true) :
    d.items (.flag name :: rest) = .dangling p :: d.items rest := by
  rw [items.eq_def]
  simp only [hp, hswitch, Bool.false_eq_true, if_false]
  cases rest with
  | nil => rfl
  | cons a rest =>
      have ha := hrest a rest rfl
      cases a with
      | flag next => rfl
      | _ => cases ha

/-- Behind whole items the list can be cut. -/
theorem Whole.items_append {xs : List Statement} {n : Nat} (h : d.Whole xs n)
    (ys : List Statement) : d.items (xs ++ ys) = d.items xs ++ d.items ys := by
  induction h with
  | nil => rfl
  | positional ha _ ih =>
      rw [List.cons_append, items_positional ha, items_positional ha, ih, List.cons_append]
  | switch hp hswitch _ ih =>
      rw [List.cons_append, items_switch hp hswitch, items_switch hp hswitch, ih, List.cons_append]
  | named hp hswitch ha _ ih =>
      rw [List.cons_append, List.cons_append, items_named hp hswitch ha, items_named hp hswitch ha,
        ih, List.cons_append]

end Descriptor

/-! ## How far an item goes -/

/-- How many positional parameters an item takes. -/
def Item.places : Item → Nat
  | .positional _ => 1
  | _ => 0

/-- How many positional parameters some items take. -/
def Item.totalPlaces : List Item → Nat
  | [] => 0
  | item :: items => item.places + totalPlaces items

theorem Descriptor.Whole.totalPlaces_eq {d : Descriptor} {xs : List Statement} {n : Nat}
    (h : d.Whole xs n) : Item.totalPlaces (d.items xs) = n := by
  induction h with
  | nil => rfl
  | positional ha _ ih =>
      rw [items_positional ha, Item.totalPlaces, ih]
      exact Nat.add_comm 1 _
  | switch hp hswitch _ ih =>
      rw [items_switch hp hswitch, Item.totalPlaces, ih]
      exact Nat.zero_add _
  | named hp hswitch ha _ ih =>
      rw [items_named hp hswitch ha, Item.totalPlaces, ih]
      exact Nat.zero_add _

namespace Binding

/-- A binding that has come some positional parameters further, with the same slots there and the
same parameter bound by the pipe. -/
structure Advances (b b' : Binding) (places : Nat) : Prop where
  length_eq : b'.slots.length = b.slots.length
  vacant_eq : b'.vacant = b.vacant.drop places
  fromPipe_eq : b'.fromPipe? = b.fromPipe?

theorem Advances.refl (b : Binding) : b.Advances b 0 := ⟨rfl, rfl, rfl⟩

theorem Advances.trans {b b' b'' : Binding} {m n : Nat} (h : b.Advances b' m)
    (h' : b'.Advances b'' n) : b.Advances b'' (m + n) := by
  refine ⟨h'.length_eq.trans h.length_eq, ?_, h'.fromPipe_eq.trans h.fromPipe_eq⟩
  rw [h'.vacant_eq, h.vacant_eq, List.drop_drop]

theorem put_advances (b : Binding) (p : Slot) (v : Value) : b.Advances (b.put p v) 0 :=
  ⟨List.length_set, rfl, rfl⟩

theorem putArgument_advances {b b' : Binding} {p : Slot} {a : Statement} {s s' : Store}
    (h : b.putArgument p a s = (.ok b', s')) : b.Advances b' 0 := by
  unfold putArgument at h
  split at h
  · cases h
  · cases h
    exact b.put_advances p _

variable {d : Descriptor}

theorem step_advances {b b' : Binding} {item : Item} {s s' : Store}
    (h : b.step d item s = (.ok b', s')) : b.Advances b' item.places := by
  cases item with
  | unknown name => cases h
  | switch p =>
      simp only [step] at h
      split at h
      · cases h
      · cases h
        exact b.put_advances p _
  | dangling p =>
      simp only [step] at h
      split at h <;> cases h
  | named p a =>
      simp only [step] at h
      split at h
      · cases h
      · exact putArgument_advances h
  | positional a =>
      simp only [step] at h
      split at h
      · cases h
      · rename_i p vacant hvacant
        have hdrop : b.Advances { b with vacant := vacant } 1 := by
          refine ⟨rfl, ?_, rfl⟩
          rw [hvacant, List.drop_one, List.tail_cons]
        exact hdrop.trans (putArgument_advances h)

theorem steps_advances {items : List Item} {b b' : Binding} {s s' : Store}
    (h : b.steps d items s = (.ok b', s')) : b.Advances b' (Item.totalPlaces items) := by
  induction items generalizing b s with
  | nil =>
      cases h
      exact Advances.refl _
  | cons item items ih =>
      rw [steps] at h
      split at h
      · cases h
      · rename_i b'' s'' hstep
        rw [Item.totalPlaces]
        exact (step_advances hstep).trans (ih h)

end Binding

end VerbNoun
