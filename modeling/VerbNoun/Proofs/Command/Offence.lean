import VerbNoun.Proofs.Command.Piping
import VerbNoun.Proofs.Command.Rearranging
import VerbNoun.Proofs.Command.Validation
set_option autoImplicit false

/-!
# Command: which fault binding reports (SPEC §4.3, §7)

Of all that may be wrong with a call one fault is reported.  A piped value that nothing takes comes
before everything else.  Then comes the first item that is not in order, and nothing behind that
item matters.  A mandatory parameter that is left out comes last, and of several the one that is
asked for first.
-/

namespace VerbNoun

open Store

/-- What an argument that does not fit is reported as: by its value, or as it is written if it has
none. -/
def Statement.received (store : Store) (a : Statement) : String :=
  match a.value? store with
  | some v => v.describe
  | none => a.mention

/-- One parameter is asked for before another: those by position come first, in the order of their
positions, and those by name follow in the order of declaration. -/
def Slot.AskedBefore (p q : Slot) : Prop :=
  0 ≤ p.position ∧ (q.position < 0 ∨ p.position < q.position) ∨
    p.position < 0 ∧ q.position < 0 ∧ p.index < q.index

namespace Descriptor

/-! ## Offending items -/

/-- Parts that are all in order. -/
structure Passes (d : Descriptor) (taker? : Option (Slot × Value)) (vacant : List Slot)
    (store : Store) (parts : List Part) : Prop where
  complete : ∀ part ∈ parts, part.Complete d
  allots : d.Allots taker? vacant parts
  fits : ∀ g ∈ d.gifts vacant parts, (g.value? store).isSome = true

/-- The parameters by position that are left when parts have taken theirs. -/
def leftAfter (vacant : List Slot) (parts : List Part) : List Slot :=
  vacant.drop (parts.filterMap Part.argument?).length

/-- An item that is not in order, whatever comes after it, with the fault it makes and the store it
leaves.  The parameters by position that are left are `vacant`. -/
inductive Offends (d : Descriptor) (taker? : Option (Slot × Value)) (vacant : List Slot)
    (store : Store) : List Statement → Fault → Store → Prop
  /-- A flag that names no parameter. -/
  | unknown {name : String} (hname : d.called? name = none) :
      Offends d taker? vacant store [.flag name] (.unknownParameter d.displayName name) store
  /-- A flag that names the parameter that takes the piped value. -/
  | piped {name : String} {p : Slot} (hname : d.called? name = some p)
      (hp : takes taker? p = true) :
      Offends d taker? vacant store [.flag name] (.boundByPipe d.displayName p.name) store
  /-- A flag in the place of the argument of a named parameter. -/
  | unvalued {name next : String} {p : Slot} (hname : d.called? name = some p)
      (hp : takes taker? p = false) (hswitch : p.isSwitch = false) :
      Offends d taker? vacant store [.flag name, .flag next]
        (.missingValue d.displayName p.name p.kind) store
  /-- An argument by position with no parameter left for it. -/
  | surplus {a : Statement} (ha : a.isFlag = false) (hvacant : vacant = []) :
      Offends d taker? vacant store [a]
        (.unexpectedArgument d.displayName d.positional.length a.mention) store
  /-- An argument that does not fit the parameter it is given to by name. -/
  | unfitByName {name : String} {p : Slot} {a : Statement} (hname : d.called? name = some p)
      (hp : takes taker? p = false) (hswitch : p.isSwitch = false) (ha : a.isFlag = false)
      (hunfit : Gift.value? store ⟨p, some a⟩ = none) :
      Offends d taker? vacant store [.flag name, a]
        (.invalidArgument p.name p.kind (a.received store)) (a.visit store)
  /-- An argument that does not fit the parameter it is given to by position. -/
  | unfitByPosition {p : Slot} {a : Statement} (ha : a.isFlag = false)
      (hvacant : vacant.head? = some p) (hunfit : Gift.value? store ⟨p, some a⟩ = none) :
      Offends d taker? vacant store [a]
        (.invalidArgument p.name p.kind (a.received store)) (a.visit store)

/-- The first item of a list that is not in order. -/
inductive FirstOffence (d : Descriptor) (taker? : Option (Slot × Value)) (vacant : List Slot)
    (store : Store) (args : List Statement) : Fault → Store → Prop
  | item (parts : List Part) (item rest : List Statement) {fault : Fault} {store' : Store}
      (hargs : args = parts.flatMap Part.tokens ++ (item ++ rest))
      (hparts : d.Passes taker? vacant store parts)
      (hitem : d.Offends taker? (leftAfter vacant parts) store item fault store') :
      FirstOffence d taker? vacant store args fault store'
  /-- A named parameter at the end of the list, without its argument. -/
  | ended (parts : List Part) {name : String} {p : Slot}
      (hargs : args = parts.flatMap Part.tokens ++ [.flag name])
      (hparts : d.Passes taker? vacant store parts) (hname : d.called? name = some p)
      (hp : takes taker? p = false) (hswitch : p.isSwitch = false) :
      FirstOffence d taker? vacant store args (.missingValue d.displayName p.name p.kind) store

/-- A mandatory parameter that neither the pipe nor a part gives anything to. -/
structure Lacks (d : Descriptor) (taker? : Option (Slot × Value)) (parts : List Part)
    (p : Slot) : Prop where
  mem : p ∈ d.parameters
  mandatory : p.mandatory = true
  not_piped : takes taker? p = false
  not_given : ∀ g ∈ d.gifts (d.vacant taker?) parts, g.parameter.index ≠ p.index

/-- Of the mandatory parameters that nothing is given to the one that is asked for first. -/
structure LacksFirst (d : Descriptor) (taker? : Option (Slot × Value)) (parts : List Part)
    (p : Slot) : Prop where
  lacks : d.Lacks taker? parts p
  first : ∀ q, d.Lacks taker? parts q → q = p ∨ p.AskedBefore q

variable {d : Descriptor} {taker? : Option (Slot × Value)} {vacant : List Slot} {store : Store}

theorem FirstOffence.fault_ne {args : List Statement} {fault : Fault} {store' : Store}
    (h : d.FirstOffence taker? vacant store args fault store') (command name : String) :
    fault ≠ .missingMandatory command name := by
  cases h with
  | item _ _ _ _ _ hitem => cases hitem <;> exact Fault.noConfusion
  | ended => exact Fault.noConfusion

end Descriptor

/-! ## The step at an offending item -/

theorem Statement.argumentFor_of_unfit {a : Statement} {p : Slot} {store : Store}
    (h : Gift.value? store ⟨p, some a⟩ = none) :
    a.argumentFor p store =
      (.error (.invalidArgument p.name p.kind (a.received store)), a.visit store) := by
  have hfit : ∀ v : Value, v.coerce? p.kind = none →
      p.fit v = .error (.invalidArgument p.name p.kind v.describe) := by
    intro v hv
    rw [Slot.fit, hv]
  cases a with
  | word text => exact congrArg (·, store) (hfit _ h)
  | quoted text => exact congrArg (·, store) (hfit _ h)
  | number x => exact congrArg (·, store) (hfit _ h)
  | var name =>
      have hread : (Statement.var name).argumentFor p store =
          (p.fit (store.read name).1, (store.read name).2) := rfl
      rw [hread, read_value, hfit _ h]
      rfl
  | _ => rfl

namespace Binding

variable {d : Descriptor}

theorem putArgument_of_unfit (b : Binding) {a : Statement} {p : Slot} {store : Store}
    (h : Gift.value? store ⟨p, some a⟩ = none) :
    b.putArgument p a store =
      (.error (.invalidArgument p.name p.kind (a.received store)), a.visit store) := by
  rw [putArgument, Statement.argumentFor_of_unfit h]

theorem not_isFromPipe {taker? : Option (Slot × Value)} {b : Binding}
    (hpipe : b.fromPipe? = taker?.map (·.1)) {p : Slot} (hp : Descriptor.takes taker? p = false) :
    ¬ b.isFromPipe p = true := by
  rw [isFromPipe_eq hpipe, hp]
  exact Bool.false_ne_true

theorem step_of_isFromPipe {b : Binding} {item : Item} {p : Slot} (hitem : item.parameter? = some p)
    (hp : b.isFromPipe p = true) (store : Store) :
    b.step d item store = (.error (.boundByPipe d.displayName p.name), store) := by
  cases item with
  | positional a => cases hitem
  | unknown name => cases hitem
  | _ =>
      cases hitem
      exact if_pos hp

theorem steps_of_error {b : Binding} {item : Item} {items : List Item} {store store' : Store}
    {fault : Fault} (h : b.step d item store = (.error fault, store')) :
    b.steps d (item :: items) store = (.error fault, store') := by
  rw [steps, h]

end Binding

namespace Descriptor

open Binding

variable {d : Descriptor} {taker? : Option (Slot × Value)} {store : Store}

/-- A flag that names a parameter starts an item for it. -/
theorem items_called {name : String} {p : Slot} (hp : d.findNamed? name = some p)
    (rest : List Statement) :
    ∃ item items, d.items (.flag name :: rest) = item :: items ∧ item.parameter? = some p := by
  cases hswitch : p.isSwitch with
  | true => exact ⟨_, _, items_switch hp hswitch rest, rfl⟩
  | false =>
      cases rest with
      | nil => exact ⟨_, _, items_dangling hp hswitch (fun _ _ h => by cases h), rfl⟩
      | cons a rest =>
          cases ha : a.isFlag with
          | true =>
              refine ⟨_, _, items_dangling hp hswitch (fun b rest' h => ?_), rfl⟩
              cases h
              exact ha
          | false => exact ⟨_, _, items_named hp hswitch ha rest, rfl⟩

/-- Binding stops at a named parameter that no argument follows. -/
theorem steps_unvalued {b : Binding} (hpipe : b.fromPipe? = taker?.map (·.1)) {name : String}
    {p : Slot} (hname : d.called? name = some p) (hp : takes taker? p = false)
    (hswitch : p.isSwitch = false) {rest : List Statement}
    (hrest : ∀ a rest', rest = a :: rest' → a.isFlag = true) :
    b.steps d (d.items (.flag name :: rest)) store =
      (.error (.missingValue d.displayName p.name p.kind), store) := by
  rw [called?_eq] at hname
  rw [items_dangling hname hswitch hrest]
  exact steps_of_error (if_neg (not_isFromPipe hpipe hp))

/-- Binding stops at an offending item. -/
theorem Offends.steps {b : Binding} (hpipe : b.fromPipe? = taker?.map (·.1))
    {item : List Statement} {fault : Fault} {store' : Store}
    (h : d.Offends taker? b.vacant store item fault store') (rest : List Statement) :
    b.steps d (d.items (item ++ rest)) store = (.error fault, store') := by
  cases h with
  | unknown hname =>
      rw [called?_eq] at hname
      rw [List.singleton_append, items_unknown hname]
      exact steps_of_error rfl
  | piped hname hp =>
      rw [called?_eq] at hname
      obtain ⟨first, items, hitems, hfirst⟩ := items_called hname rest
      rw [List.singleton_append, hitems]
      exact steps_of_error (step_of_isFromPipe hfirst ((isFromPipe_eq hpipe _).trans hp) store)
  | unvalued hname hp hswitch =>
      exact steps_unvalued hpipe hname hp hswitch (fun _ _ h => by cases h; rfl)
  | surplus ha hvacant =>
      rw [List.singleton_append, items_positional ha]
      refine steps_of_error ?_
      simp only [step, hvacant]
  | @unfitByName name p a hname hp hswitch ha hunfit =>
      rw [called?_eq] at hname
      have hitems : d.items ([.flag name, a] ++ rest) = .named p a :: d.items rest :=
        items_named hname hswitch ha rest
      rw [hitems]
      exact steps_of_error
        ((if_neg (not_isFromPipe hpipe hp)).trans (putArgument_of_unfit b hunfit))
  | @unfitByPosition p a ha hvacant hunfit =>
      obtain ⟨vacant', hcons⟩ := List.head?_eq_some_iff.1 hvacant
      rw [List.singleton_append, items_positional ha]
      refine steps_of_error ?_
      simp only [step, hcons]
      exact putArgument_of_unfit _ hunfit

/-! ## The run up to it -/

theorem whole_tokens {parts : List Part} (h : ∀ part ∈ parts, part.Complete d) :
    d.Whole (parts.flatMap Part.tokens) (parts.filterMap Part.argument?).length := by
  induction parts with
  | nil => exact .nil
  | cons part parts ih =>
      obtain ⟨hpart, hparts⟩ := List.forall_mem_cons.1 h
      cases hpart with
      | positional ha => exact .positional ha (ih hparts)
      | switch hp hswitch => exact .switch hp hswitch (ih hparts)
      | named hp hswitch ha => exact .named hp hswitch ha (ih hparts)

/-- The binding after parts in order. -/
def boundBy (d : Descriptor) (taker? : Option (Slot × Value)) (store : Store)
    (parts : List Part) : Binding :=
  (opening d taker?).given store (d.handOut (d.vacant taker?) parts)
    (leftAfter (d.vacant taker?) parts)

/-- Binding goes through parts in order and leaves the store alone. -/
theorem Passes.steps (hd : d.Numbered) {parts : List Part}
    (h : d.Passes taker? (d.vacant taker?) store parts) :
    (opening d taker?).steps d (d.items (parts.flatMap Part.tokens)) store =
      (.ok (d.boundBy taker? store parts), store) := by
  have hparts := parts_tokens h.complete
  have hallots : d.Allots taker? (d.vacant taker?) (d.parts (parts.flatMap Part.tokens)) := by
    rw [hparts]
    exact h.allots
  have hfits : ∀ g ∈ d.handOut (d.vacant taker?) (d.parts (parts.flatMap Part.tokens)),
      (g.value? store).isSome = true := by
    intro g hg
    rw [hparts, mem_handOut_iff (hd.vacant_index_ne taker?)] at hg
    exact h.fits g hg
  obtain ⟨vacant, hsteps⟩ :=
    steps_of_allots (b := opening d taker?) (parts.flatMap Part.tokens) rfl hallots hfits
  rw [hparts] at hsteps
  have hvacant : vacant = leftAfter (d.vacant taker?) parts := by
    have hadvances := (steps_advances hsteps).vacant_eq
    rwa [(whole_tokens h.complete).totalPlaces_eq] at hadvances
  have hspared := steps_spared d (d.items (parts.flatMap Part.tokens)) (opening d taker?) store
  rw [hsteps] at hspared
  rw [hsteps, hspared.store_eq_of_ok, hvacant]
  rfl

variable {piped? : Option Value}

/-- Behind parts in order binding goes on with what they left. -/
theorem Passes.bind_append (hd : d.Numbered)
    (htaken : piped?.isSome = true → (d.taker? piped?).isSome = true) {parts : List Part}
    (h : d.Passes (d.taker? piped?) (d.vacant (d.taker? piped?)) store parts)
    (rest : List Statement) :
    d.bind (parts.flatMap Part.tokens ++ rest) piped? store =
      finishRun d ((d.boundBy (d.taker? piped?) store parts).steps d (d.items rest) store) := by
  obtain ⟨-, hopen⟩ | ⟨hnot, -⟩ := ofPipe_eq d piped?
  · rw [bind_of_ofPipe hopen, (whole_tokens h.complete).items_append, steps_append, h.steps hd]
  · exact absurd htaken hnot

theorem FirstOffence.bind_eq (hd : d.Numbered)
    (htaken : piped?.isSome = true → (d.taker? piped?).isSome = true) {args : List Statement}
    {fault : Fault} {store' : Store}
    (h : d.FirstOffence (d.taker? piped?) (d.vacant (d.taker? piped?)) store args fault store') :
    d.bind args piped? store = (.error fault, store') := by
  have hpipe : ∀ parts, (d.boundBy (d.taker? piped?) store parts).fromPipe? =
      (d.taker? piped?).map (·.1) := fun _ => rfl
  cases h with
  | item parts item rest hargs hparts hitem =>
      rw [hargs, hparts.bind_append hd htaken, Offends.steps (hpipe parts) hitem rest]
      rfl
  | ended parts hargs hparts hname hp hswitch =>
      rw [hargs, hparts.bind_append hd htaken,
        steps_unvalued (hpipe parts) hname hp hswitch (fun _ _ h => by cases h)]
      rfl

theorem Passes.bind_eq (hd : d.Numbered)
    (htaken : piped?.isSome = true → (d.taker? piped?).isSome = true) {parts : List Part}
    (h : d.Passes (d.taker? piped?) (d.vacant (d.taker? piped?)) store parts) :
    d.bind (parts.flatMap Part.tokens) piped? store =
      ((d.boundBy (d.taker? piped?) store parts).finish d, store) := by
  have hbind := h.bind_append hd htaken []
  rwa [List.append_nil] at hbind

/-! ## In order or not -/

theorem Passes.nil (d : Descriptor) (taker? : Option (Slot × Value)) (vacant : List Slot)
    (store : Store) : d.Passes taker? vacant store [] := by
  refine ⟨fun part hpart => (by cases hpart), d.allots_nil taker? vacant, fun g hg => ?_⟩
  simp [gifts, giftsByPosition, giftsByName] at hg

variable {vacant : List Slot}

theorem Passes.cons_flag {part : Part} {name : String} {argument? : Option Statement} {p : Slot}
    (hpart : part.Complete d) (hflag : part.flag? = some (name, argument?))
    (hname : d.called? name = some p) (hp : takes taker? p = false)
    (hfollowed : part = .valued name argument? → ∃ a, argument? = some a ∧ a.isFlag = false)
    (hfits : (Gift.value? store ⟨p, argument?⟩).isSome = true) {parts : List Part}
    (h : d.Passes taker? vacant store parts) : d.Passes taker? vacant store (part :: parts) := by
  refine ⟨List.forall_mem_cons.2 ⟨hpart, h.complete⟩,
    (allots_flag_iff hflag).2 ⟨⟨p, hname, hp⟩, hfollowed, h.allots⟩, fun g hg => ?_⟩
  rw [gifts, giftsByPosition_flag hflag, giftsByName_flag hflag, hname] at hg
  rcases List.mem_append.1 hg with hg | hg
  · exact h.fits g (List.mem_append_left _ hg)
  · rcases List.mem_cons.1 hg with rfl | hg
    · exact hfits
    · exact h.fits g (List.mem_append_right _ hg)

theorem Passes.cons_positional {a : Statement} {p : Slot} (ha : a.isFlag = false)
    (hfits : (Gift.value? store ⟨p, some a⟩).isSome = true) {parts : List Part}
    (h : d.Passes taker? vacant store parts) :
    d.Passes taker? (p :: vacant) store (.positional a :: parts) := by
  refine ⟨List.forall_mem_cons.2 ⟨.positional ha, h.complete⟩,
    allots_positional_iff.2 ⟨p, vacant, rfl, h.allots⟩, fun g hg => ?_⟩
  rcases List.mem_cons.1 hg with rfl | hg
  · exact hfits
  · exact h.fits g hg

theorem leftAfter_flag {part : Part} {flag : String × Option Statement}
    (hflag : part.flag? = some flag) (vacant : List Slot) (parts : List Part) :
    leftAfter vacant (part :: parts) = leftAfter vacant parts := by
  unfold leftAfter
  rw [List.filterMap_cons_none (argument?_eq_none hflag)]

/-- A list is in order, or some item is the first that is not. -/
def Judged (d : Descriptor) (taker? : Option (Slot × Value)) (vacant : List Slot) (store : Store)
    (args : List Statement) : Prop :=
  (∃ parts, args = parts.flatMap Part.tokens ∧ d.Passes taker? vacant store parts) ∨
    ∃ fault store', d.FirstOffence taker? vacant store args fault store'

/-- A part in order may be put in front. -/
theorem Judged.cons {part : Part} {vacant' : List Slot}
    (hpasses : ∀ parts, d.Passes taker? vacant' store parts →
      d.Passes taker? vacant store (part :: parts))
    (hleft : ∀ parts, leftAfter vacant (part :: parts) = leftAfter vacant' parts)
    {rest : List Statement} (h : d.Judged taker? vacant' store rest) :
    d.Judged taker? vacant store (part.tokens ++ rest) := by
  rcases h with ⟨parts, rfl, hparts⟩ | ⟨fault, store', hoffence⟩
  · exact .inl ⟨part :: parts, List.flatMap_cons.symm, hpasses parts hparts⟩
  · refine .inr ⟨fault, store', ?_⟩
    cases hoffence with
    | item parts item rest' hargs hparts hitem =>
        refine .item (part :: parts) item rest' ?_ (hpasses parts hparts) ?_
        · rw [hargs, List.flatMap_cons, List.append_assoc]
        · rw [hleft]
          exact hitem
    | ended parts hargs hparts hname hp hswitch =>
        refine .ended (part :: parts) ?_ (hpasses parts hparts) hname hp hswitch
        rw [hargs, List.flatMap_cons, List.append_assoc]

theorem judged_of_offends {item : List Statement} {fault : Fault} {store' : Store}
    (h : d.Offends taker? vacant store item fault store') (rest : List Statement) :
    d.Judged taker? vacant store (item ++ rest) :=
  .inr ⟨fault, store', .item [] item rest rfl (.nil d taker? vacant store) h⟩

theorem judged_positional {a : Statement} (ha : a.isFlag = false) {rest : List Statement}
    (h : ∀ vacant, d.Judged taker? vacant store rest) (vacant : List Slot) :
    d.Judged taker? vacant store (a :: rest) := by
  cases vacant with
  | nil => exact judged_of_offends (.surplus ha rfl) rest
  | cons p vacant =>
      cases hvalue : Gift.value? store ⟨p, some a⟩ with
      | none => exact judged_of_offends (.unfitByPosition ha rfl hvalue) rest
      | some v =>
          have hpasses : ∀ parts, d.Passes taker? vacant store parts →
              d.Passes taker? (p :: vacant) store (.positional a :: parts) :=
            fun parts => .cons_positional ha (by rw [hvalue]; rfl)
          exact Judged.cons hpasses (fun _ => rfl) (h vacant)

theorem judged_switch {name : String} {p : Slot} (hname : d.findNamed? name = some p)
    (hswitch : p.isSwitch = true) (hp : takes taker? p = false) {rest : List Statement}
    (h : d.Judged taker? vacant store rest) :
    d.Judged taker? vacant store (.flag name :: rest) := by
  have hpasses : ∀ parts, d.Passes taker? vacant store parts →
      d.Passes taker? vacant store (.lone name :: parts) :=
    fun parts => .cons_flag (.switch hname hswitch) rfl ((called?_eq d name).trans hname) hp
      (fun hpart => by cases hpart) rfl
  exact Judged.cons hpasses (leftAfter_flag rfl vacant) h

theorem judged_named {name : String} {p : Slot} (hname : d.findNamed? name = some p)
    (hswitch : p.isSwitch = false) (hp : takes taker? p = false) {a : Statement}
    (ha : a.isFlag = false) {rest : List Statement} (h : d.Judged taker? vacant store rest) :
    d.Judged taker? vacant store (.flag name :: a :: rest) := by
  have hcalled := (called?_eq d name).trans hname
  cases hvalue : Gift.value? store ⟨p, some a⟩ with
  | none => exact judged_of_offends (.unfitByName hcalled hp hswitch ha hvalue) rest
  | some v =>
      have hpasses : ∀ parts, d.Passes taker? vacant store parts →
          d.Passes taker? vacant store (.valued name (some a) :: parts) :=
        fun parts => .cons_flag (.named hname hswitch ha) rfl hcalled hp
          (fun _ => ⟨a, rfl, ha⟩) (by rw [hvalue]; rfl)
      exact Judged.cons hpasses (leftAfter_flag rfl vacant) h

/-- Every list is judged, item by item. -/
theorem judged (d : Descriptor) (taker? : Option (Slot × Value)) (store : Store)
    (args : List Statement) (vacant : List Slot) : d.Judged taker? vacant store args := by
  -- A flag that names the parameter that takes the piped value offends whatever comes next.
  have hpiped : ∀ {name p} (vacant rest), d.findNamed? name = some p →
      (takes taker? p = false → d.Judged taker? vacant store (.flag name :: rest)) →
        d.Judged taker? vacant store (.flag name :: rest) := by
    intro name p vacant rest hname h
    cases hp : takes taker? p with
    | true => exact judged_of_offends (.piped ((called?_eq d name).trans hname) hp) rest
    | false => exact h hp
  induction args using items.induct d generalizing vacant with
  | case1 => exact .inl ⟨[], rfl, .nil d taker? vacant store⟩
  | case2 name rest hname ih =>
      exact judged_of_offends (.unknown ((called?_eq d name).trans hname)) rest
  | case3 name rest p hname hswitch ih =>
      exact hpiped vacant rest hname fun hp => judged_switch hname hswitch hp (ih vacant)
  | case4 name p hname hswitch =>
      refine hpiped vacant [] hname fun hp => ?_
      exact .inr ⟨_, _, .ended [] rfl (.nil d taker? vacant store)
        ((called?_eq d name).trans hname) hp (Bool.eq_false_iff.2 hswitch)⟩
  | case5 name p hname hswitch next rest ih =>
      refine hpiped vacant _ hname fun hp => ?_
      exact judged_of_offends (.unvalued ((called?_eq d name).trans hname) hp
        (Bool.eq_false_iff.2 hswitch)) rest
  | case6 name p hname hswitch a rest hflag ih =>
      refine hpiped vacant _ hname fun hp => ?_
      exact judged_named hname (Bool.eq_false_iff.2 hswitch) hp (Statement.isFlag_eq_false hflag)
        (ih vacant)
  | case7 a rest hflag ih => exact judged_positional (Statement.isFlag_eq_false hflag) ih vacant

/-! ## The mandatory parameter that is asked for first -/

end Descriptor

theorem Slot.AskedBefore.asymm {p q : Slot} (h : p.AskedBefore q) : ¬ q.AskedBefore p := by
  unfold AskedBefore at h ⊢
  omega

/-- The parameters of a registered command are asked for in the order in which they stand. -/
theorem Command.Accepted.askedBefore {key : String} {c : Command} (h : c.Accepted key) :
    c.descriptor.parameters.Pairwise Slot.AskedBefore := by
  have hpositional : ∀ p ∈ c.descriptor.positional, 0 ≤ p.position := by
    intro p hp
    obtain ⟨i, hi⟩ := List.getElem?_of_mem hp
    have hposition := h.position_eq hi
    omega
  refine List.pairwise_append.2 ⟨?_, ?_, ?_⟩
  · rw [List.pairwise_iff_getElem]
    intro i j hi hj hlt
    have hp := h.position_eq (List.getElem?_eq_getElem hi)
    have hq := h.position_eq (List.getElem?_eq_getElem hj)
    exact .inl ⟨by omega, .inr (by omega)⟩
  · have hordered : c.descriptor.named.Pairwise (·.index < ·.index) := by
      rw [h.descriptor_eq, Declaration.named_eq]
      exact (Slot.number_ordered _).filter _
    refine hordered.imp_of_mem fun hp hq hlt => ?_
    exact .inr ⟨h.position_neg hp, h.position_neg hq, hlt⟩
  · intro p hp q hq
    exact .inl ⟨hpositional p hp, .inl (h.position_neg hq)⟩

namespace Descriptor

open Binding

variable {d : Descriptor} {taker? : Option (Slot × Value)} {store : Store} {parts : List Part}

theorem mem_unmet_iff (hd : d.Numbered) {p : Slot} :
    p ∈ (d.boundBy taker? store parts).unmet ↔ d.Lacks taker? parts p := by
  have hmem := fun g => @mem_handOut_iff d _ (hd.vacant_index_ne taker?) parts g
  unfold boundBy given opening
  simp only [List.mem_filter, List.all_eq_true, decide_eq_true_eq, Bool.not_eq_true', hmem]
  constructor
  · rintro ⟨⟨⟨hp, hmandatory⟩, hpiped⟩, hgiven⟩
    exact ⟨hp, hmandatory, hpiped, fun g hg => (hgiven g hg).symm⟩
  · rintro ⟨hp, hmandatory, hpiped, hgiven⟩
    exact ⟨⟨⟨hp, hmandatory⟩, hpiped⟩, fun g hg => (hgiven g hg).symm⟩

/-- The first parameter that is left is the one that is asked for first. -/
theorem head?_unmet_iff (hd : d.Numbered) (hasked : d.parameters.Pairwise Slot.AskedBefore)
    {p : Slot} :
    (d.boundBy taker? store parts).unmet.head? = some p ↔ d.LacksFirst taker? parts p := by
  have hunmet : (d.boundBy taker? store parts).unmet.Pairwise Slot.AskedBefore :=
    ((hasked.filter _).filter _).filter _
  have hmem := fun q => @mem_unmet_iff d taker? store parts hd q
  generalize (d.boundBy taker? store parts).unmet = unmet at hunmet hmem
  constructor
  · intro h
    obtain ⟨rest, rfl⟩ := List.head?_eq_some_iff.1 h
    refine ⟨(hmem p).1 List.mem_cons_self, fun q hq => ?_⟩
    rcases List.mem_cons.1 ((hmem q).2 hq) with hq | hq
    · exact .inl hq
    · exact .inr ((List.pairwise_cons.1 hunmet).1 q hq)
  · intro h
    have hp := (hmem p).2 h.lacks
    cases unmet with
    | nil => cases hp
    | cons q rest =>
        rcases List.mem_cons.1 hp with rfl | hp
        · rfl
        · have hqp := (List.pairwise_cons.1 hunmet).1 p hp
          rcases h.first q ((hmem q).1 List.mem_cons_self) with rfl | hpq
          · rfl
          · exact absurd hpq hqp.asymm

theorem finish_error_iff {b : Binding} {fault : Fault} :
    b.finish d = .error fault ↔
      ∃ p, b.unmet.head? = some p ∧ fault = .missingMandatory d.displayName p.name := by
  unfold finish
  cases b.unmet with
  | nil => simp
  | cons p unmet => simp [eq_comm]

variable {piped? : Option Value}

theorem bind_of_untaken {v : Value} (hv : piped? = some v) (h : d.taker? piped? = none)
    (args : List Statement) (store : Store) :
    d.bind args piped? store = (.error (.invalidPipe d.displayName v.describe), store) := by
  subst hv
  have hpipe : ofPipe d (some v) = .error (.invalidPipe d.displayName v.describe) := by
    rw [ofPipe, pipeTarget?_eq, h]
  rw [bind, hpipe]

/-- A list in order is bound, unless a mandatory parameter is left out. -/
theorem Passes.bind_error_iff (hd : d.Numbered)
    (hasked : d.parameters.Pairwise Slot.AskedBefore)
    (htaken : piped?.isSome = true → (d.taker? piped?).isSome = true)
    (h : d.Passes (d.taker? piped?) (d.vacant (d.taker? piped?)) store parts) {fault : Fault} :
    (d.bind (parts.flatMap Part.tokens) piped? store).1 = .error fault ↔
      ∃ p, d.LacksFirst (d.taker? piped?) (d.parts (parts.flatMap Part.tokens)) p ∧
        fault = .missingMandatory d.displayName p.name := by
  rw [h.bind_eq hd htaken, parts_tokens h.complete, finish_error_iff]
  simp only [head?_unmet_iff hd hasked]

end Descriptor

/-- Binding a registered command reports a piped value that nothing takes before anything else; then
the first item that is not in order, whatever comes after it; and, if there is none, the mandatory
parameter that is asked for first among those that neither the pipe nor an argument gives anything
to.  There are no other faults. -/
theorem bind_reports_first_offence (additions : List Addition) (e : String × Command)
    (he : e ∈ (Registry.reached additions).commands.entries) (piped? : Option Value)
    (store : Store) :
    let d := e.2.descriptor
    let taker? := d.taker? piped?
    let Offence := d.FirstOffence taker? (d.vacant taker?) store
    (∀ v, piped? = some v → taker? = none → ∀ args,
      d.bind args piped? store = (.error (.invalidPipe d.displayName v.describe), store)) ∧
    ((piped?.isSome = true → taker?.isSome = true) →
      (∀ args fault store', Offence args fault store' →
        d.bind args piped? store = (.error fault, store')) ∧
      (∀ parts item fault store', d.Passes taker? (d.vacant taker?) store parts →
        d.Offends taker? (Descriptor.leftAfter (d.vacant taker?) parts) store item fault store' →
        ∀ rest rest', d.bind (parts.flatMap Part.tokens ++ (item ++ rest)) piped? store =
          d.bind (parts.flatMap Part.tokens ++ (item ++ rest')) piped? store) ∧
      (∀ args command name,
        (d.bind args piped? store).1 = .error (.missingMandatory command name) ↔
          (∀ fault store', ¬ Offence args fault store') ∧
          ∃ p, d.LacksFirst taker? (d.parts args) p ∧ command = d.displayName ∧ name = p.name) ∧
      ∀ args fault store', d.bind args piped? store = (.error fault, store') →
        Offence args fault store' ∨
          (∃ command name, fault = .missingMandatory command name) ∧ store' = store) := by
  intro d taker? Offence
  have haccepted := Registry.accepted_of_mem_reached additions e he
  have hd := haccepted.numbered
  have hasked := haccepted.askedBefore
  refine ⟨fun v hv h args => Descriptor.bind_of_untaken hv h args store, fun htaken => ?_⟩
  have hbind : ∀ args fault store', Offence args fault store' →
      d.bind args piped? store = (.error fault, store') :=
    fun args fault store' h => h.bind_eq hd htaken
  refine ⟨hbind, ?_, ?_, ?_⟩
  · intro parts item fault store' hparts hitem rest rest'
    rw [hbind _ _ _ (.item parts item rest rfl hparts hitem),
      hbind _ _ _ (.item parts item rest' rfl hparts hitem)]
  · intro args command name
    constructor
    · intro h
      have hnone : ∀ fault store', ¬ Offence args fault store' := by
        intro fault store' hoffence
        rw [hbind _ _ _ hoffence] at h
        exact hoffence.fault_ne command name (Except.error.inj h)
      refine ⟨hnone, ?_⟩
      obtain ⟨parts, rfl, hparts⟩ | ⟨fault, store', hoffence⟩ :=
        d.judged taker? store args (d.vacant taker?)
      · obtain ⟨p, hp, hfault⟩ := (hparts.bind_error_iff hd hasked htaken).1 h
        exact ⟨p, hp, Fault.missingMandatory.inj hfault⟩
      · exact absurd hoffence (hnone fault store')
    · rintro ⟨hnone, p, hp, rfl, rfl⟩
      obtain ⟨parts, rfl, hparts⟩ | ⟨fault, store', hoffence⟩ :=
        d.judged taker? store args (d.vacant taker?)
      · exact (hparts.bind_error_iff hd hasked htaken).2 ⟨p, hp, rfl⟩
      · exact absurd hoffence (hnone fault store')
  · intro args fault store' h
    obtain ⟨parts, rfl, hparts⟩ | ⟨fault', store'', hoffence⟩ :=
      d.judged taker? store args (d.vacant taker?)
    · obtain ⟨p, -, hfault⟩ :=
        (hparts.bind_error_iff hd hasked htaken).1 (congrArg Prod.fst h)
      rw [hparts.bind_eq hd htaken] at h
      exact .inr ⟨⟨_, _, hfault⟩, (congrArg Prod.snd h).symm⟩
    · rw [hbind _ _ _ hoffence] at h
      cases h
      exact .inl hoffence

/-- Joining texts: a variable that is not set does not fit, and is made, before the flag behind it
is found unknown; and without any text the first one is missed. -/
theorem bind_reports_first_offence_joinText :
    let d := Descriptor.ofParameters "Join" "Text" Stock.joinText.parameters
    d.bind [.word "a", .var "x", .flag "nope"] none {} =
      (.error (.invalidArgument "B" .string Value.null.describe), Store.make {} "x") ∧
    ∃ p, d.LacksFirst none (d.parts [.flag "Separator", .quoted "-"]) p ∧
      "Join-Text" = d.displayName ∧ "A" = p.name := by
  intro d
  have hmem : ("JOIN-TEXT", ⟨d, Stock.joinText⟩) ∈ (Registry.reached [.stock]).commands.entries :=
    List.mem_of_getElem? (i := 3) rfl
  obtain ⟨-, hreports⟩ := bind_reports_first_offence [.stock] _ hmem none {}
  obtain ⟨hoffence, -, hlacks, -⟩ := hreports (fun h => by cases h)
  constructor
  · refine hoffence _ _ _ (.item [.positional (.word "a")] [.var "x"] [.flag "nope"] rfl ?_ ?_)
    · exact .cons_positional rfl rfl (.nil _ _ _ _)
    · exact @Descriptor.Offends.unfitByPosition _ _ _ _
        { name := "B", position := 1, mandatory := true, kind := .string, initial := .ofText "",
          index := 1 } _ rfl rfl rfl
  · exact ((hlacks [.flag "Separator", .quoted "-"] _ _).1 rfl).2

end VerbNoun
