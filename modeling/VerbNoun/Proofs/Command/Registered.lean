import VerbNoun.Command.Stock
import VerbNoun.Proofs.Command.Item
import VerbNoun.Proofs.Command.Numbering
set_option autoImplicit false

/-!
# Command: what holds of every registered command (SPEC §3, §4.2)

The parameters of a command stand in three orders: as they are declared, by their positions, and
divided into those by position and those by name.  Binding follows the last two and fills slots
that follow the first.  Whatever is added to a registry, and whatever fails to be added, the
commands in it keep the three in step, so binding never reaches for a slot that is not there.
-/

namespace VerbNoun

open Text

/-! ## Registries that can be reached -/

/-- A request to add commands to a registry. -/
inductive Addition where
  /-- One command. -/
  | command (declaration : Declaration)
  /-- The stock commands. -/
  | stock

namespace Registry

/-- The registry after a request.  A command that cannot be added changes nothing. -/
def add (r : Registry) : Addition → Registry
  | .command decl => (r.register decl).1
  | .stock => (r.registerAll Stock.all).1

/-- The registry after requests in order, from an empty one. -/
def reached (additions : List Addition) : Registry := additions.foldl add {}

variable {motive : Registry → Prop}

theorem registerAll_induction
    (hstep : ∀ r r' decl d, motive r → r.register decl = (r', .ok d) → motive r')
    (decls : List Declaration) {r : Registry} (hr : motive r) :
    motive (r.registerAll decls).1 := by
  induction decls generalizing r with
  | nil => exact hr
  | cons decl decls ih =>
      rw [registerAll]
      obtain ⟨fault, hregister⟩ | ⟨r', d, hregister⟩ := r.register_cases decl
      · rw [hregister]
        exact hr
      · rw [hregister]
        exact ih (hstep r r' decl d hr hregister)

theorem add_induction (hstep : ∀ r r' decl d, motive r → r.register decl = (r', .ok d) → motive r')
    {r : Registry} (hr : motive r) (addition : Addition) : motive (r.add addition) := by
  cases addition with
  | command decl =>
      rw [add]
      obtain ⟨fault, hregister⟩ | ⟨r', d, hregister⟩ := r.register_cases decl
      · rw [hregister]
        exact hr
      · rw [hregister]
        exact hstep r r' decl d hr hregister
  | stock => exact registerAll_induction hstep Stock.all hr

/-- What holds of the empty registry and is kept when a command is added holds of every registry
that can be reached. -/
theorem reached_induction (hempty : motive {})
    (hstep : ∀ r r' decl d, motive r → r.register decl = (r', .ok d) → motive r')
    (additions : List Addition) : motive (reached additions) := by
  suffices hfrom : ∀ r, motive r → motive (additions.foldl add r) from hfrom {} hempty
  induction additions with
  | nil => exact fun r hr => hr
  | cons addition additions ih => exact fun r hr => ih _ (add_induction hstep hr addition)

end Registry

/-! ## Parameters as they are declared -/

namespace Field

variable {σ : Type}

/-- The state after fields were read in order. -/
def readAll (fields : List (Field σ)) (s : σ) : σ :=
  fields.foldl (fun s f => f.put (f.contents s) s) s

theorem getElem?_parameters (fields : List (Field σ)) (s : σ) (i : Nat) :
    (parameters fields s)[i]? =
      fields[i]?.map fun f => f.parameter (readAll (fields.take i) s) := by
  induction fields generalizing s i with
  | nil => rfl
  | cons f fields ih =>
      cases i with
      | zero => rfl
      | succ i => exact ih (f.put (f.contents s) s) i

theorem length_parameters (fields : List (Field σ)) (s : σ) :
    (parameters fields s).length = fields.length := by
  induction fields generalizing s with
  | nil => rfl
  | cons f fields ih => exact congrArg Nat.succ (ih _)

end Field

namespace Descriptor

theorem check_ok_iff {d : Descriptor} :
    d.check = .ok () ↔ d.misplaced? = none ∧ d.mandatorySwitch? = none := by
  unfold check
  cases d.misplaced? with
  | some p => simp
  | none => cases d.mandatorySwitch? <;> simp

theorem position_eq_of_misplaced? {d : Descriptor} (h : d.misplaced? = none) {i : Nat} {p : Slot}
    (hp : d.positional[i]? = some p) : p.position = i := by
  have hnone := List.find?_eq_none.1 (Option.map_eq_none_iff.1 h) (p, i)
    (List.mk_mem_zipIdx_iff_getElem?.2 hp)
  simpa using hnone

theorem not_mandatory_of_mandatorySwitch? {d : Descriptor} (h : d.mandatorySwitch? = none)
    {p : Slot} (hp : p ∈ d.parameters) : ¬ (p.kind = .bool ∧ p.mandatory = true) := by
  have hnone := List.find?_eq_none.1 h p hp
  simpa [Parameter.isSwitch] using hnone

variable (verb noun : String) (parameters : List Parameter)

theorem position_neg_ofParameters {p : Slot}
    (hp : p ∈ (ofParameters verb noun parameters).named) : p.position < 0 := by
  simp only [ofParameters, List.partition_eq_filter_filter, List.mem_filter] at hp
  simpa [Parameter.isPositional] using hp.2

theorem getElem?_index_ofParameters {p : Slot}
    (hp : p ∈ (ofParameters verb noun parameters).parameters) :
    parameters[p.index]? = some p.toParameter := by
  have hnumber := (parameters_perm verb noun parameters).mem_iff.1 hp
  obtain ⟨entry, hentry, rfl⟩ := List.mem_map.1 hnumber
  exact List.mem_zipIdx_iff_getElem?.1 hentry

end Descriptor

/-! ## Slots that are there -/

namespace Binding

/-- The parameter whose slot an item fills. -/
def target? (b : Binding) : Item → Option Slot
  | .positional _ => b.vacant.head?
  | .switch p => some p
  | .named p _ => some p
  | .dangling _ => none
  | .unknown _ => none

/-- A binding has a slot for each parameter, and its vacant parameters are some of the command's
parameters by position. -/
structure Within (d : Descriptor) (b : Binding) : Prop where
  length_eq : b.slots.length = d.slotCount
  vacant_sub : b.vacant ⊆ d.positional

variable {d : Descriptor}

theorem ofPipe_within {piped? : Option Value} {b : Binding} (h : ofPipe d piped? = .ok b) :
    b.Within d := by
  have hstart : (start d).Within d := ⟨d.length_initialSlots, List.Subset.refl _⟩
  cases piped? with
  | none =>
      cases h
      exact hstart
  | some v =>
      simp only [ofPipe] at h
      split at h
      · cases h
      · cases h
        exact ⟨List.length_set.trans hstart.length_eq, List.filter_sublist.subset⟩

theorem Within.advances {b b' : Binding} {places : Nat} (h : b.Within d)
    (hadvances : b.Advances b' places) : b'.Within d := by
  refine ⟨hadvances.length_eq.trans h.length_eq, ?_⟩
  rw [hadvances.vacant_eq]
  exact List.Subset.trans (List.drop_subset places b.vacant) h.vacant_sub

/-- An item that is taken from the arguments fills a slot of one of the parameters. -/
theorem Within.target_mem {b : Binding} (h : b.Within d) {args : List Statement} {item : Item}
    (hitem : item ∈ d.items args) {p : Slot} (hp : b.target? item = some p) :
    p ∈ d.parameters := by
  have hnamed : item.parameter? = some p → p ∈ d.parameters :=
    fun hparameter => List.mem_append_right _ (Descriptor.mem_named_of_mem_items hitem hparameter)
  cases item with
  | positional a => exact List.mem_append_left _ (h.vacant_sub (List.mem_of_head? hp))
  | switch q => exact hnamed hp
  | named q a => exact hnamed hp
  | dangling q => cases hp
  | unknown name => cases hp

theorem pipeTarget?_mem {v w : Value} {p : Slot} (h : pipeTarget? d v = some (p, w)) :
    p ∈ d.parameters := by
  obtain ⟨q, hq, htakes⟩ := List.exists_of_findSome?_eq_some h
  split at htakes
  · obtain ⟨_, -, heq⟩ := Option.map_eq_some_iff.1 htakes
    cases heq
    exact hq
  · cases htakes

end Binding

/-- Every slot that binding a call fills is there when it is filled, and the slots that binding
gives are one for each parameter. -/
structure Descriptor.InRange (d : Descriptor) (args : List Statement) (piped? : Option Value)
    (store : Store) : Prop where
  pipe : ∀ v p w, piped? = some v → Binding.pipeTarget? d v = some (p, w) →
    p.index < d.initialSlots.length
  item : ∀ b before item after b' store' p, Binding.ofPipe d piped? = .ok b →
    d.items args = before ++ item :: after → b.steps d before store = (.ok b', store') →
    b'.target? item = some p → p.index < b'.slots.length
  slots : ∀ slots, (d.bind args piped? store).1 = .ok slots → slots.length = d.slotCount

theorem Descriptor.Numbered.inRange {d : Descriptor} (hd : d.Numbered) (args : List Statement)
    (piped? : Option Value) (store : Store) : d.InRange args piped? store := by
  constructor
  · intro v p w _ htarget
    rw [d.length_initialSlots]
    exact hd.index_lt (Binding.pipeTarget?_mem htarget)
  · intro b before item after b' store' p hpipe hitems hsteps htarget
    have hwithin := (Binding.ofPipe_within hpipe).advances (Binding.steps_advances hsteps)
    have hitem : item ∈ d.items args := by
      rw [hitems]
      exact List.mem_append_right before List.mem_cons_self
    rw [hwithin.length_eq]
    exact hd.index_lt (hwithin.target_mem hitem htarget)
  · intro slots hbind
    unfold bind at hbind
    split at hbind
    · cases hbind
    · rename_i b hpipe
      split at hbind
      · cases hbind
      · rename_i b' store' hsteps
        unfold Binding.finish at hbind
        split at hbind
        · cases hbind
          exact ((Binding.ofPipe_within hpipe).advances (Binding.steps_advances hsteps)).length_eq
        · cases hbind

/-! ## Registered commands -/

/-- A command that passed the checks under its canonical name. -/
structure Command.Accepted (key : String) (c : Command) : Prop where
  key_eq : key = c.descriptor.canonicalName
  names_eq : c.declaration.names = .ok (c.descriptor.verb, c.descriptor.noun)
  descriptor_eq : c.descriptor =
    .ofParameters c.descriptor.verb c.descriptor.noun c.declaration.parameters
  check_eq : c.descriptor.check = .ok ()

namespace Command.Accepted

variable {key : String} {c : Command}

theorem numbered (h : c.Accepted key) : c.descriptor.Numbered := by
  rw [h.descriptor_eq]
  exact Descriptor.numbered_ofParameters _ _ _

theorem position_eq (h : c.Accepted key) {i : Nat} {p : Slot}
    (hp : c.descriptor.positional[i]? = some p) : p.position = i :=
  Descriptor.position_eq_of_misplaced? (Descriptor.check_ok_iff.1 h.check_eq).1 hp

theorem position_neg (h : c.Accepted key) {p : Slot} (hp : p ∈ c.descriptor.named) :
    p.position < 0 := by
  rw [h.descriptor_eq] at hp
  exact Descriptor.position_neg_ofParameters _ _ _ hp

/-- A parameter with a position stands there. -/
theorem getElem?_positional (h : c.Accepted key) {p : Slot} (hp : p ∈ c.descriptor.parameters)
    {i : Nat} (hi : p.position = i) : c.descriptor.positional[i]? = some p := by
  rcases List.mem_append.1 hp with hpositional | hnamed
  · obtain ⟨j, hj⟩ := List.getElem?_of_mem hpositional
    have hplaced := h.position_eq hj
    have heq : j = i := by omega
    rw [← heq, hj]
  · have hneg := h.position_neg hnamed
    omega

/-- A parameter without a position is taken by name. -/
theorem mem_named (h : c.Accepted key) {p : Slot} (hp : p ∈ c.descriptor.parameters)
    (hneg : p.position < 0) : p ∈ c.descriptor.named := by
  rcases List.mem_append.1 hp with hpositional | hnamed
  · obtain ⟨j, hj⟩ := List.getElem?_of_mem hpositional
    have hplaced := h.position_eq hj
    omega
  · exact hnamed

theorem canonicalName_eq (h : c.Accepted key) :
    c.descriptor.canonicalName = upper c.descriptor.verb ++ "-" ++ upper c.descriptor.noun :=
  congrArg Descriptor.canonicalName h.descriptor_eq

/-- A parameter has the slot of its place in the declaration. -/
theorem getElem?_index (h : c.Accepted key) {p : Slot} (hp : p ∈ c.descriptor.parameters) :
    c.declaration.parameters[p.index]? = some p.toParameter := by
  rw [h.descriptor_eq] at hp
  exact Descriptor.getElem?_index_ofParameters _ _ _ hp

/-- A parameter has its own field there, and starts with what was read from that field. -/
theorem exists_field (h : c.Accepted key) {p : Slot} (hp : p ∈ c.descriptor.parameters) :
    ∃ f, c.declaration.fields[p.index]? = some f ∧ p.toParameter =
      f.parameter (Field.readAll (c.declaration.fields.take p.index) c.declaration.initial) := by
  have hparameter := h.getElem?_index hp
  rw [Declaration.parameters, Field.getElem?_parameters] at hparameter
  obtain ⟨f, hf, heq⟩ := Option.map_eq_some_iff.1 hparameter
  exact ⟨f, hf, heq.symm⟩

theorem initial_kind (h : c.Accepted key) {p : Slot} (hp : p ∈ c.descriptor.parameters) :
    p.initial.kind? = some p.kind := by
  obtain ⟨f, -, hparameter⟩ := h.exists_field hp
  rw [hparameter]
  rfl

theorem length_fields (h : c.Accepted key) :
    c.declaration.fields.length = c.descriptor.slotCount := by
  rw [h.descriptor_eq, Descriptor.slotCount_ofParameters, Declaration.parameters,
    Field.length_parameters]

end Command.Accepted

theorem Registry.accepted_of_register {r r' : Registry} {decl : Declaration} {d : Descriptor}
    (hr : ∀ e ∈ r.commands.entries, e.2.Accepted e.1) (h : r.register decl = (r', .ok d)) :
    ∀ e ∈ r'.commands.entries, e.2.Accepted e.1 := by
  obtain ⟨verb, noun, hnames, rfl, -, hcheck, rfl⟩ := register_ok_iff.1 h
  intro e he
  rcases Table.mem_place he with rfl | he
  · exact ⟨rfl, hnames, rfl, hcheck⟩
  · exact hr e he

theorem Registry.accepted_of_mem_reached (additions : List Addition) :
    ∀ e ∈ (reached additions).commands.entries, e.2.Accepted e.1 := by
  refine reached_induction (motive := fun r => ∀ e ∈ r.commands.entries, e.2.Accepted e.1) ?_ ?_
    additions
  · intro e he
    cases he
  · intro r r' decl d hr h
    exact accepted_of_register hr h

/-- A command whose names, parameters, slots and fields fit together, under a key. -/
structure Command.InOrder (key : String) (c : Command) : Prop where
  key_eq : key = c.descriptor.canonicalName
  canonicalName_eq :
    c.descriptor.canonicalName = upper c.descriptor.verb ++ "-" ++ upper c.descriptor.noun
  /-- Verb and noun are the declared ones. -/
  names_eq : c.declaration.names = .ok (c.descriptor.verb, c.descriptor.noun)
  position_eq : ∀ (i : Nat) (p : Slot), c.descriptor.positional[i]? = some p → p.position = i
  position_neg : ∀ p ∈ c.descriptor.named, p.position < 0
  /-- No slot is left out, and none belongs to two parameters. -/
  numbered : (c.descriptor.parameters.map (·.index)).Perm (List.range c.descriptor.slotCount)
  length_fields : c.declaration.fields.length = c.descriptor.slotCount
  /-- The slot of a parameter is its place in the declaration. -/
  parameter_eq : ∀ p ∈ c.descriptor.parameters,
    c.declaration.parameters[p.index]? = some p.toParameter
  /-- The field there is the parameter's own, and its initial value was read from that field. -/
  field_eq : ∀ p ∈ c.descriptor.parameters, ∃ f, c.declaration.fields[p.index]? = some f ∧
    p.toParameter =
      f.parameter (Field.readAll (c.declaration.fields.take p.index) c.declaration.initial)
  not_mandatory_switch : ∀ p ∈ c.descriptor.parameters, ¬ (p.kind = .bool ∧ p.mandatory = true)
  initial_kind : ∀ p ∈ c.descriptor.parameters, p.initial.kind? = some p.kind
  length_initial : c.descriptor.initialSlots.length = c.descriptor.slotCount
  initial_eq : ∀ p ∈ c.descriptor.parameters,
    c.descriptor.initialSlots[p.index]? = some p.initial
  /-- Filling the initial slots stays within them. -/
  index_lt : ∀ p ∈ c.descriptor.parameters, p.index < c.descriptor.slotCount
  inRange : ∀ args piped? store, c.descriptor.InRange args piped? store

/-- Whatever was added to a registry or could not be added to it, each of its commands is in
order. -/
theorem Registry.inOrder_of_mem_reached (additions : List Addition) (e : String × Command)
    (he : e ∈ (reached additions).commands.entries) : e.2.InOrder e.1 := by
  have haccepted := accepted_of_mem_reached additions e he
  have hnumbered := haccepted.numbered
  have hswitch := (Descriptor.check_ok_iff.1 haccepted.check_eq).2
  exact {
    key_eq := haccepted.key_eq
    canonicalName_eq := haccepted.canonicalName_eq
    names_eq := haccepted.names_eq
    position_eq := fun _ _ => haccepted.position_eq
    position_neg := fun _ => haccepted.position_neg
    numbered := hnumbered
    length_fields := haccepted.length_fields
    parameter_eq := fun _ => haccepted.getElem?_index
    field_eq := fun _ => haccepted.exists_field
    not_mandatory_switch := fun _ => Descriptor.not_mandatory_of_mandatorySwitch? hswitch
    initial_kind := fun _ => haccepted.initial_kind
    length_initial := e.2.descriptor.length_initialSlots
    initial_eq := fun _ => hnumbered.getElem?_initialSlots
    index_lt := fun _ => hnumbered.index_lt
    inRange := hnumbered.inRange }

/-- A text, and how it is padded. -/
structure Padding where
  fill : String := " "
  width : IntKind.i32.Number := Kind.blank (.int .i32)
  text : String := ""

/-- A command whose parameters are declared in another order than that of their positions. -/
def padText : Declaration where
  typeName := "PadText"
  name? := some ("Pad", "Text")
  State := Padding
  initial := {}
  fields :=
    [{ name := "Fill", kind := .string, piped := true,
       reach := fun s => (s.fill, fun fill => { s with fill }) },
     { name := "Width", kind := .int .i32, position := 1, piped := true,
       reach := fun s => (s.width, fun width => { s with width }) },
     { name := "Text", kind := .string, position := 0, mandatory := true,
       reach := fun s => (s.text, fun text => { s with text }) }]
  process := fun s _ => { result := .ok (.ofText s.text) }

/-- The command is in order between the stock commands and a repetition that fails. -/
theorem Registry.inOrder_padText :
    ("PAD-TEXT", ⟨.ofParameters "Pad" "Text" padText.parameters, padText⟩) ∈
      (reached [.command padText, .stock, .command padText]).commands.entries ∧
    Command.InOrder "PAD-TEXT" ⟨.ofParameters "Pad" "Text" padText.parameters, padText⟩ := by
  have hmem : ("PAD-TEXT", ⟨.ofParameters "Pad" "Text" padText.parameters, padText⟩) ∈
      (reached [.command padText, .stock, .command padText]).commands.entries :=
    List.mem_of_getElem? (i := 5) rfl
  exact ⟨hmem, inOrder_of_mem_reached _ _ hmem⟩

end VerbNoun
