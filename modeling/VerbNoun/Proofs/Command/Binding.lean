import VerbNoun.Command.Stock
import VerbNoun.Proofs.Command.HandOut
import VerbNoun.Proofs.Command.Numbering
set_option autoImplicit false

/-!
# Command: binding gives what a call means (SPEC §4.3)

Binding goes through the items of a call one by one, with a cursor over the positional
parameters, a list of mandatory parameters that shrinks, slots that are overwritten and a store
that grows.  Here it is shown to succeed exactly on the calls that can be handed out, and to
leave exactly the slots that the gifts say.
-/

namespace VerbNoun

open Store Text

/-! ## One argument -/

theorem Statement.value?_alike {s t : Store} (h : Alike s t) (a : Statement) :
    a.value? s = a.value? t := by
  cases a with
  | var name => rw [value?, value?, h.value_eq]
  | _ => rfl

theorem Gift.value?_alike {s t : Store} (h : Alike s t) (g : Gift) : g.value? s = g.value? t := by
  unfold Gift.value?
  cases g.argument? with
  | none => rfl
  | some a => simp only [Statement.value?_alike h a]

/-- Looking at an argument leaves the store as it can be told by reading. -/
theorem Statement.visit_alike (store : Store) (a : Statement) : Alike (a.visit store) store := by
  cases a with
  | var name => exact read_alike store name
  | _ => exact Alike.refl store

theorem Statement.argumentFor_snd (a : Statement) (p : Slot) (store : Store) :
    (a.argumentFor p store).2 = a.visit store := by
  cases a <;> rfl

theorem Statement.argumentFor_fst (a : Statement) (p : Slot) (store : Store) :
    (a.argumentFor p store).1.toOption = Gift.value? store ⟨p, some a⟩ := by
  have hfit : ∀ v : Value, (p.fit v).toOption = v.coerce? p.kind := by
    intro v
    unfold Slot.fit
    cases v.coerce? p.kind <;> rfl
  cases a with
  | word text => exact hfit _
  | quoted text => exact hfit _
  | number x => exact hfit _
  | var name =>
      have hread : (Statement.var name).argumentFor p store =
          (p.fit (store.read name).1, (store.read name).2) := rfl
      rw [hread, hfit, read_value]
      rfl
  | _ => rfl

theorem Gift.visit_alike (store : Store) (g : Gift) : Alike (g.visit store) store := by
  unfold Gift.visit
  cases g.argument? with
  | none => exact Alike.refl store
  | some a => exact a.visit_alike store

/-- What fits is the same before and after arguments were looked at. -/
theorem Gift.fits_cons_iff {s t : Store} (h : Alike t s) {g : Gift} {gifts : List Gift} :
    (∀ g' ∈ g :: gifts, (g'.value? s).isSome = true) ↔
      (g.value? s).isSome = true ∧ ∀ g' ∈ gifts, (g'.value? t).isSome = true := by
  simp only [List.forall_mem_cons, Gift.value?_alike h]

/-! ## One item -/

namespace Binding

variable {d : Descriptor} {taker? : Option (Slot × Value)}

theorem putArgument_ok_iff {b b' : Binding} {p : Slot} {a : Statement} {store store' : Store} :
    b.putArgument p a store = (.ok b', store') ↔
      ∃ v, Gift.value? store ⟨p, some a⟩ = some v ∧ b' = b.put p v ∧ store' = a.visit store := by
  rw [← a.argumentFor_fst p store, ← a.argumentFor_snd p store]
  unfold putArgument
  generalize a.argumentFor p store = r
  obtain ⟨result, store''⟩ := r
  cases result with
  | error fault => simp [Except.toOption]
  | ok w => simp [Except.toOption, eq_comm]

theorem isFromPipe_eq {b : Binding} (h : b.fromPipe? = taker?.map (·.1)) (p : Slot) :
    b.isFromPipe p = Descriptor.takes taker? p := by
  unfold isFromPipe Descriptor.takes
  rw [h, Option.any_map]

/-- A gift by name is put into the slot of its parameter, unless the pipe has filled it. -/
theorem step_ofGift_ok_iff {b b' : Binding} (hpipe : b.fromPipe? = taker?.map (·.1)) {g : Gift}
    {store store' : Store} :
    b.step d (.ofGift g) store = (.ok b', store') ↔ Descriptor.takes taker? g.parameter = false ∧
      ∃ v, g.value? store = some v ∧ b' = b.put g.parameter v ∧ store' = g.visit store := by
  rw [← isFromPipe_eq hpipe]
  obtain ⟨p, argument?⟩ := g
  cases argument? with
  | none =>
      simp only [Item.ofGift, step]
      cases b.isFromPipe p with
      | true => simp
      | false => simp [Gift.value?, Gift.visit, eq_comm]
  | some a =>
      simp only [Item.ofGift, step]
      cases b.isFromPipe p with
      | true => simp
      | false => simpa [Gift.visit] using putArgument_ok_iff

/-- A gift by position is put into the slot of the first vacant parameter. -/
theorem step_positional_ok_iff {b b' : Binding} {a : Statement} {store store' : Store} :
    b.step d (.positional a) store = (.ok b', store') ↔ ∃ p vacant v, b.vacant = p :: vacant ∧
      Gift.value? store ⟨p, some a⟩ = some v ∧ b' = { b with vacant := vacant }.put p v ∧
      store' = a.visit store := by
  simp only [step]
  cases b.vacant with
  | nil => simp
  | cons p vacant =>
      simp only [putArgument_ok_iff, List.cons.injEq]
      constructor
      · rintro ⟨v, h⟩
        exact ⟨p, vacant, v, ⟨rfl, rfl⟩, h⟩
      · rintro ⟨_, _, v, ⟨rfl, rfl⟩, h⟩
        exact ⟨v, h⟩

theorem steps_cons_ok_iff {b b' : Binding} {item : Item} {items : List Item}
    {store store' : Store} :
    b.steps d (item :: items) store = (.ok b', store') ↔
      ∃ b'' store'', b.step d item store = (.ok b'', store'') ∧
        b''.steps d items store'' = (.ok b', store') := by
  rw [steps]
  generalize b.step d item store = r
  obtain ⟨result, store''⟩ := r
  cases result with
  | error fault => simp
  | ok b'' =>
      constructor
      · intro h
        exact ⟨b'', store'', rfl, h⟩
      · rintro ⟨_, _, hstep, h⟩
        cases hstep
        exact h

end Binding

/-! ## Going through the items -/

namespace Binding

/-- A binding after gifts were put into their slots. -/
def given (b : Binding) (store : Store) (gifts : List Gift) (vacant : List Slot) : Binding where
  slots := fill (gifts.map fun g => (g.parameter.index, (g.value? store).getD .null)) b.slots
  vacant := vacant
  unmet := b.unmet.filter fun p => gifts.all fun g => p.index ≠ g.parameter.index
  fromPipe? := b.fromPipe?

theorem given_nil (b : Binding) (store : Store) : b.given store [] b.vacant = b := by
  have hunmet : b.unmet.filter (fun _ => true) = b.unmet := List.filter_eq_self.2 fun _ _ => rfl
  unfold given
  simp only [List.all_nil, hunmet]
  rfl

theorem given_cons (b : Binding) {store : Store} {g : Gift} {v : Value}
    (hv : g.value? store = some v) (gifts : List Gift) (vacant : List Slot) :
    b.given store (g :: gifts) vacant = (b.put g.parameter v).given store gifts vacant := by
  unfold given put fill
  simp only [List.map_cons, List.foldl_cons, hv, Option.getD_some, List.filter_filter,
    List.all_cons, Bool.and_comm]

theorem given_alike {s t : Store} (h : Alike s t) (b : Binding) (gifts : List Gift)
    (vacant : List Slot) : b.given s gifts vacant = b.given t gifts vacant := by
  unfold given
  simp only [Gift.value?_alike h]

variable {d : Descriptor} {taker? : Option (Slot × Value)}

/-- A call that can be handed out is bound, and its gifts are put into the slots. -/
theorem steps_of_allots (args : List Statement) {b : Binding} {store : Store}
    (hpipe : b.fromPipe? = taker?.map (·.1))
    (hallots : d.Allots taker? b.vacant (d.parts args))
    (hfits : ∀ g ∈ d.handOut b.vacant (d.parts args), (g.value? store).isSome = true) :
    ∃ vacant, b.steps d (d.items args) store =
      (.ok (b.given store (d.handOut b.vacant (d.parts args)) vacant),
        args.foldl Statement.visit store) := by
  induction args using d.args_induction generalizing b store with
  | nil =>
      refine ⟨b.vacant, ?_⟩
      rw [Descriptor.parts, Descriptor.handOut_nil, given_nil]
      rfl
  | spoiled args h => exact absurd hallots (h.2 taker? b.vacant)
  | flag args part name g rest hstart ih =>
      have hgifts := d.handOut_called hstart.flag?_eq hstart.called?_eq b.vacant (d.parts rest)
      have hstore := g.visit_alike store
      rw [hstart.parts_eq, hgifts] at hfits ⊢
      rw [hstart.parts_eq] at hallots
      obtain ⟨⟨p, hp, htakes⟩, -, hallots⟩ := (Descriptor.allots_flag_iff hstart.flag?_eq).1 hallots
      rw [hstart.called?_eq] at hp
      cases hp
      obtain ⟨hsome, hfits⟩ := (Gift.fits_cons_iff hstore).1 hfits
      obtain ⟨v, hv⟩ := Option.isSome_iff_exists.1 hsome
      obtain ⟨vacant, hrest⟩ := @ih (b.put g.parameter v) (g.visit store) hpipe hallots hfits
      have hstep := (step_ofGift_ok_iff (d := d) hpipe).2 ⟨htakes, v, hv, rfl, rfl⟩
      refine ⟨vacant, ?_⟩
      rw [hstart.items_eq, hstart.visit_eq, given_cons b hv, ← given_alike hstore]
      exact steps_cons_ok_iff.2 ⟨_, _, hstep, hrest⟩
  | positional a rest hitems hparts ih =>
      have hstore := a.visit_alike store
      rw [hparts] at hallots hfits ⊢
      obtain ⟨p, vacant, hvacant, hallots⟩ := Descriptor.allots_positional_iff.1 hallots
      rw [hvacant, Descriptor.handOut] at hfits ⊢
      obtain ⟨hsome, hfits⟩ := (Gift.fits_cons_iff hstore).1 hfits
      obtain ⟨v, hv⟩ := Option.isSome_iff_exists.1 hsome
      obtain ⟨vacant', hrest⟩ :=
        @ih ({ b with vacant := vacant }.put p v) (a.visit store) hpipe hallots hfits
      have hstep := (step_positional_ok_iff (d := d)).2 ⟨p, vacant, v, hvacant, hv, rfl, rfl⟩
      refine ⟨vacant', ?_⟩
      rw [hitems, given_cons b hv, ← given_alike hstore]
      exact steps_cons_ok_iff.2 ⟨_, _, hstep, hrest⟩

/-- Only a call that can be handed out is bound. -/
theorem allots_of_steps (args : List Statement) {b b' : Binding} {store store' : Store}
    (hpipe : b.fromPipe? = taker?.map (·.1))
    (h : b.steps d (d.items args) store = (.ok b', store')) :
    d.Allots taker? b.vacant (d.parts args) ∧
      ∀ g ∈ d.handOut b.vacant (d.parts args), (g.value? store).isSome = true := by
  induction args using d.args_induction generalizing b store with
  | nil =>
      refine ⟨d.allots_nil taker? b.vacant, ?_⟩
      intro g hg
      rw [Descriptor.parts, Descriptor.handOut_nil] at hg
      cases hg
  | spoiled args hspoiled =>
      obtain ⟨⟨items, ⟨name, hitems⟩ | ⟨p, hitems⟩⟩, -⟩ := hspoiled
      · rw [hitems, steps_cons_ok_iff] at h
        obtain ⟨_, _, hstep, -⟩ := h
        cases hstep
      · rw [hitems, steps_cons_ok_iff] at h
        obtain ⟨_, _, hstep, -⟩ := h
        simp only [step] at hstep
        split at hstep <;> cases hstep
  | flag args part name g rest hstart ih =>
      rw [hstart.items_eq, steps_cons_ok_iff] at h
      obtain ⟨b'', store'', hstep, hrest⟩ := h
      obtain ⟨htakes, v, hv, rfl, rfl⟩ := (step_ofGift_ok_iff hpipe).1 hstep
      obtain ⟨hallots, hfits⟩ := @ih (b.put g.parameter v) (g.visit store) hpipe hrest
      rw [hstart.parts_eq, d.handOut_called hstart.flag?_eq hstart.called?_eq]
      exact ⟨(Descriptor.allots_flag_iff hstart.flag?_eq).2
          ⟨⟨g.parameter, hstart.called?_eq, htakes⟩, hstart.followed, hallots⟩,
        (Gift.fits_cons_iff (g.visit_alike store)).2 ⟨by rw [hv]; rfl, hfits⟩⟩
  | positional a rest hitems hparts ih =>
      rw [hitems, steps_cons_ok_iff] at h
      obtain ⟨b'', store'', hstep, hrest⟩ := h
      obtain ⟨p, vacant, v, hvacant, hv, rfl, rfl⟩ := step_positional_ok_iff.1 hstep
      obtain ⟨hallots, hfits⟩ :=
        @ih ({ b with vacant := vacant }.put p v) (a.visit store) hpipe hrest
      rw [hparts, hvacant, Descriptor.handOut]
      exact ⟨Descriptor.allots_positional_iff.2 ⟨p, vacant, rfl, hallots⟩,
        (Gift.fits_cons_iff (a.visit_alike store)).2 ⟨by rw [hv]; rfl, hfits⟩⟩

theorem finish_ok_iff {b : Binding} {slots : List Value} :
    b.finish d = .ok slots ↔ b.unmet = [] ∧ b.slots = slots := by
  unfold finish
  cases b.unmet with
  | nil => simp
  | cons p unmet => simp

/-! ## The piped value -/

/-- The binding that the arguments start from. -/
def opening (d : Descriptor) (taker? : Option (Slot × Value)) : Binding where
  slots := fill (taker?.map fun (p, w) => (p.index, w)).toList d.initialSlots
  vacant := d.vacant taker?
  unmet := (d.parameters.filter (·.mandatory)).filter fun p => !Descriptor.takes taker? p
  fromPipe? := taker?.map (·.1)

theorem pipeTarget?_eq (d : Descriptor) (v : Value) : pipeTarget? d v = d.taker? (some v) := by
  unfold pipeTarget? Descriptor.taker?
  rw [Option.bind_some, List.filterMap_filter, List.head?_filterMap]

theorem ofPipe_eq (d : Descriptor) (piped? : Option Value) :
    (piped?.isSome = true → (d.taker? piped?).isSome = true) ∧
      ofPipe d piped? = .ok (opening d (d.taker? piped?)) ∨
    ¬ (piped?.isSome = true → (d.taker? piped?).isSome = true) ∧
      ∃ fault, ofPipe d piped? = .error fault := by
  cases piped? with
  | none =>
      refine .inl ⟨fun h => (by cases h), ?_⟩
      have hall : ∀ ps : List Slot, ps.filter (fun p => !Descriptor.takes none p) = ps :=
        fun ps => List.filter_eq_self.2 fun _ _ => rfl
      simp only [ofPipe, opening, start, Descriptor.vacant, Descriptor.taker?, Option.bind_none,
        hall]
      rfl
  | some v =>
      unfold ofPipe
      simp only [pipeTarget?_eq]
      cases htaker : d.taker? (some v) with
      | none => exact .inr ⟨fun h => (by cases h rfl), _, rfl⟩
      | some taker =>
          obtain ⟨p, w⟩ := taker
          refine .inl ⟨fun _ => rfl, ?_⟩
          have htakes : (fun q : Slot => !Descriptor.takes (some (p, w)) q) =
              fun q => decide (q.index ≠ p.index) := by
            funext q
            simp [Descriptor.takes, eq_comm]
          unfold opening Descriptor.vacant
          rw [htakes]
          rfl

end Binding

namespace Descriptor

variable {d : Descriptor} {taker? : Option (Slot × Value)}

/-! ## Binding -/

theorem Numbered.vacant_index_ne (hd : d.Numbered) (taker? : Option (Slot × Value)) :
    ∀ p ∈ d.vacant taker?, ∀ q ∈ d.named, p.index ≠ q.index :=
  fun _ hp _ hq => hd.index_ne (List.mem_filter.1 hp).1 hq

/-- A call whose value is taken, whose arguments can be handed out and all fit is bound, if no
mandatory parameter is left. -/
theorem bind_eq (hd : d.Numbered) {args : List Statement} {piped? : Option Value} {store : Store}
    (htaken : piped?.isSome = true → (d.taker? piped?).isSome = true)
    (hallots : d.Allots (d.taker? piped?) (d.vacant (d.taker? piped?)) (d.parts args))
    (hfits : ∀ g ∈ d.gifts (d.vacant (d.taker? piped?)) (d.parts args),
      (g.value? store).isSome = true) :
    ∃ vacant, d.bind args piped? store =
      (((Binding.opening d (d.taker? piped?)).given store
        (d.handOut (d.vacant (d.taker? piped?)) (d.parts args)) vacant).finish d,
        args.foldl Statement.visit store) := by
  obtain ⟨-, hopen⟩ | ⟨hnot, -⟩ := Binding.ofPipe_eq d piped?
  · have hfits' : ∀ g ∈ d.handOut (d.vacant (d.taker? piped?)) (d.parts args),
        (g.value? store).isSome = true :=
      fun g hg => hfits g ((mem_handOut_iff (hd.vacant_index_ne _)).1 hg)
    obtain ⟨vacant, hsteps⟩ :=
      Binding.steps_of_allots (b := Binding.opening d (d.taker? piped?)) args rfl hallots hfits'
    refine ⟨vacant, ?_⟩
    unfold bind
    simp only [hopen, hsteps]
    rfl
  · exact absurd htaken hnot

/-- Only such a call is bound. -/
theorem conditions_of_bind (hd : d.Numbered) {args : List Statement} {piped? : Option Value}
    {store : Store} {slots : List Value} (h : (d.bind args piped? store).1 = .ok slots) :
    (piped?.isSome = true → (d.taker? piped?).isSome = true) ∧
    d.Allots (d.taker? piped?) (d.vacant (d.taker? piped?)) (d.parts args) ∧
    ∀ g ∈ d.gifts (d.vacant (d.taker? piped?)) (d.parts args), (g.value? store).isSome = true := by
  unfold bind at h
  obtain ⟨htaken, hopen⟩ | ⟨-, fault, hopen⟩ := Binding.ofPipe_eq d piped?
  · simp only [hopen] at h
    split at h
    · cases h
    · rename_i b' store' hsteps
      obtain ⟨hallots, hfits⟩ := Binding.allots_of_steps args rfl hsteps
      exact ⟨htaken, hallots,
        fun g hg => hfits g ((mem_handOut_iff (hd.vacant_index_ne _)).2 hg)⟩
  · simp only [hopen] at h
    cases h

theorem takes_of_index_eq {p q : Slot} (h : p.index = q.index) :
    takes taker? p = takes taker? q := by
  unfold takes
  rw [h]

/-- Before the arguments the slots hold the piped value and the initial values. -/
theorem Numbered.getElem?_opening (hd : d.Numbered) {p : Slot} (hp : p ∈ d.parameters) :
    (Binding.opening d taker?).slots[p.index]? =
      if takes taker? p then taker?.map (·.2) else some p.initial := by
  have hlt : p.index < d.initialSlots.length := by
    rw [d.length_initialSlots]
    exact hd.index_lt hp
  unfold Binding.opening
  rw [getElem?_fill _ hlt, hd.getElem?_initialSlots hp]
  cases taker? with
  | none => rfl
  | some taker =>
      by_cases htakes : taker.1.index = p.index
      · simp [takes, htakes]
      · simp [takes, htakes]

theorem getElem?_given {b : Binding} {i : Nat} (hi : i < b.slots.length) (store : Store)
    (gifts : List Gift) (vacant : List Slot) :
    (b.given store gifts vacant).slots[i]? =
      ((gifts.filter (·.parameter.index = i)).getLast?.map
        fun g => (g.value? store).getD .null).or b.slots[i]? := by
  unfold Binding.given
  rw [getElem?_fill _ hi, List.filter_map, List.getLast?_map, Option.map_map]
  rfl

theorem length_opening (d : Descriptor) (taker? : Option (Slot × Value)) :
    (Binding.opening d taker?).slots.length = d.slotCount := by
  unfold Binding.opening
  rw [length_fill, d.length_initialSlots]

/-- After the arguments the slots hold what the last gifts leave. -/
theorem Numbered.heldBy_eq (hd : d.Numbered) {parts : List Part} {store : Store}
    (hallots : d.Allots taker? (d.vacant taker?) parts)
    (hfits : ∀ g ∈ d.gifts (d.vacant taker?) parts, (g.value? store).isSome = true)
    (vacant : List Slot) {p : Slot} (hp : p ∈ d.parameters) :
    ((Binding.opening d taker?).given store (d.handOut (d.vacant taker?) parts)
      vacant).slots[p.index]? = heldBy taker? (d.gifts (d.vacant taker?) parts) store p := by
  have hlt : p.index < (Binding.opening d taker?).slots.length := by
    rw [length_opening]
    exact hd.index_lt hp
  rw [getElem?_given hlt, hd.getElem?_opening hp, filter_handOut (hd.vacant_index_ne taker?)]
  unfold heldBy
  cases htakes : takes taker? p with
  | true =>
      have hnil : (d.gifts (d.vacant taker?) parts).filter (·.parameter.index = p.index) = [] := by
        rw [List.filter_eq_nil_iff]
        intro g hg hindex
        have hfree := hallots.takes_eq_false hg
        rw [takes_of_index_eq (of_decide_eq_true hindex), htakes] at hfree
        cases hfree
      rw [hnil]
      rfl
  | false =>
      cases hlast : ((d.gifts (d.vacant taker?) parts).filter
          (·.parameter.index = p.index)).getLast? with
      | none => rfl
      | some g =>
          have hmem := (List.mem_filter.1 (List.mem_of_getLast? hlast)).1
          obtain ⟨v, hv⟩ := Option.isSome_iff_exists.1 (hfits g hmem)
          simp [hv]

/-- No mandatory parameter is left if and only if each takes the piped value or is given
something. -/
theorem unmet_given_eq_nil_iff (store : Store) (gifts : List Gift) (vacant : List Slot) :
    ((Binding.opening d taker?).given store gifts vacant).unmet = [] ↔
      ∀ p ∈ d.parameters, p.mandatory = true → takes taker? p = true ∨
        ∃ g ∈ gifts, g.parameter.index = p.index := by
  unfold Binding.given Binding.opening
  simp only [List.filter_eq_nil_iff, List.mem_filter]
  constructor
  · intro h p hp hmandatory
    cases htakes : takes taker? p with
    | true => exact .inl rfl
    | false =>
        have hsome := h p ⟨⟨hp, hmandatory⟩, by rw [htakes]; rfl⟩
        simp only [List.all_eq_true, decide_eq_true_eq, Classical.not_forall] at hsome
        obtain ⟨g, hg, hindex⟩ := hsome
        exact .inr ⟨g, hg, (Classical.not_not.1 hindex).symm⟩
  · rintro h p ⟨⟨hp, hmandatory⟩, hfree⟩ hall
    rcases h p hp hmandatory with htakes | ⟨g, hg, hindex⟩
    · rw [htakes] at hfree
      cases hfree
    · exact of_decide_eq_true (List.all_eq_true.1 hall g hg) hindex.symm

/-- Slots are told apart by what they hold for the parameters. -/
theorem Numbered.slots_ext (hd : d.Numbered) {slots slots' : List Value}
    (hlength : slots.length = d.slotCount) (hlength' : slots'.length = d.slotCount)
    (h : ∀ p ∈ d.parameters, slots[p.index]? = slots'[p.index]?) : slots = slots' := by
  apply List.ext_getElem?
  intro i
  by_cases hi : i < d.slotCount
  · obtain ⟨p, hp, rfl⟩ := hd.exists_parameter hi
    exact h p hp
  · rw [List.getElem?_eq_none (by omega), List.getElem?_eq_none (by omega)]

/-- Binding succeeds exactly on the calls that mean something, with the slots they mean. -/
theorem Numbered.bind_ok_iff (hd : d.Numbered) {args : List Statement} {piped? : Option Value}
    {store : Store} {slots : List Value} :
    (d.bind args piped? store).1 = .ok slots ↔ d.Binds args piped? store slots := by
  have hmem := fun g => @mem_handOut_iff d _ (hd.vacant_index_ne (d.taker? piped?)) (d.parts args) g
  have hbinds : ∀ slots, (d.bind args piped? store).1 = .ok slots →
      d.Binds args piped? store slots := by
    intro slots h
    obtain ⟨htaken, hallots, hfits⟩ := conditions_of_bind hd h
    obtain ⟨vacant, hbind⟩ := bind_eq hd htaken hallots hfits
    rw [hbind] at h
    obtain ⟨hunmet, rfl⟩ := Binding.finish_ok_iff.1 h
    refine ⟨htaken, hallots, hfits, ?_, ?_, fun p hp => hd.heldBy_eq hallots hfits vacant hp⟩
    · intro p hp hmandatory
      refine ((unmet_given_eq_nil_iff _ _ _).1 hunmet p hp hmandatory).imp_right ?_
      rintro ⟨g, hg, hindex⟩
      exact ⟨g, (hmem g).1 hg, hindex⟩
    · rw [← length_opening d (d.taker? piped?)]
      exact length_fill _ _
  refine ⟨hbinds slots, fun h => ?_⟩
  obtain ⟨vacant, hbind⟩ := bind_eq hd h.taken h.allots h.fits
  have hunmet := (unmet_given_eq_nil_iff store _ vacant).2
    fun p hp hmandatory => (h.met p hp hmandatory).imp_right
      fun ⟨g, hg, hindex⟩ => ⟨g, (hmem g).2 hg, hindex⟩
  obtain ⟨slots', hok⟩ : ∃ slots', (d.bind args piped? store).1 = .ok slots' := by
    rw [hbind]
    exact ⟨_, Binding.finish_ok_iff.2 ⟨hunmet, rfl⟩⟩
  -- The slots of a call are determined by what it means.
  have hbinds' := hbinds slots' hok
  rw [hok, hd.slots_ext h.length_eq hbinds'.length_eq
    fun p hp => (h.held p hp).trans (hbinds'.held p hp).symm]

end Descriptor

/-- Binding the arguments of a registered command succeeds exactly if the call means something to
the command, and then the slots hold what the call means and each variable among the arguments
was read once for each time it is named. -/
theorem registered_bind_ok_iff_binds {r r' : Registry} {decl : Declaration} {d : Descriptor}
    {key : String} {c : Command} (hr : r.register decl = (r', .ok d))
    (hnew : r.commands.find? key = none) (hc : r'.commands.find? key = some c)
    (args : List Statement) (piped? : Option Value) (store : Store) (slots : List Value) :
    c.descriptor = d ∧
    ((c.descriptor.bind args piped? store).1 = .ok slots ↔
      c.descriptor.Binds args piped? store slots) ∧
    ((c.descriptor.bind args piped? store).1 = .ok slots →
      (c.descriptor.bind args piped? store).2 = args.foldl Statement.visit store) := by
  have hd := Registry.numbered_of_register hr
  obtain rfl := Registry.command_of_register hr hnew hc
  refine ⟨rfl, hd.bind_ok_iff, fun h => ?_⟩
  obtain ⟨htaken, hallots, hfits⟩ := Descriptor.conditions_of_bind hd h
  obtain ⟨vacant, hbind⟩ := Descriptor.bind_eq hd htaken hallots hfits
  rw [hbind]

/-- Joining texts: the piped text goes to the first parameter, so that the argument goes to the
second, and of two separators the later one stays. -/
theorem bind_join_text :
    ∃ r' d c, Registry.register {} Stock.joinText = (r', .ok d) ∧
      r'.commands.find? "JOIN-TEXT" = some c ∧ c.descriptor = d ∧
      c.descriptor.Binds
        [.flag "SEPARATOR", .quoted ", ", .word "b", .flag "separator", .quoted "; "]
        (some (.ofText "a")) {} [.ofText "a", .ofText "b", .ofText "; "] := by
  obtain ⟨r', d, hr⟩ : ∃ r' d, Registry.register {} Stock.joinText = (r', .ok d) := ⟨_, _, rfl⟩
  have hnew : ({} : Registry).commands.find? "JOIN-TEXT" = none := rfl
  have hc : r'.commands.find? "JOIN-TEXT" =
      some ⟨Descriptor.ofParameters "Join" "Text" Stock.joinText.parameters, Stock.joinText⟩ := by
    have hregistry : (Registry.register {} Stock.joinText).1 = r' := congrArg Prod.fst hr
    rw [← hregistry]
    rfl
  have hbinds := registered_bind_ok_iff_binds hr hnew hc
    [.flag "SEPARATOR", .quoted ", ", .word "b", .flag "separator", .quoted "; "]
    (some (.ofText "a")) {} [.ofText "a", .ofText "b", .ofText "; "]
  exact ⟨r', d, _, hr, hc, hbinds.1, hbinds.2.1.1 rfl⟩

end VerbNoun
