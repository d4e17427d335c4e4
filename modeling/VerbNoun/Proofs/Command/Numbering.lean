import VerbNoun.Command.Registry
import VerbNoun.Proofs.Table
set_option autoImplicit false

/-!
# Command: the numbering of slots (SPEC §3, §4.2)

The slots of a registered command are numbered from zero without gaps or repeats, whatever order
its parameters come to stand in.  So setting one slot leaves the others, and every slot belongs
to a parameter.
-/

namespace VerbNoun

/-! ## Sorting by position -/

theorem Slot.insertByPosition_perm (p : Slot) (qs : List Slot) :
    (p.insertByPosition qs).Perm (p :: qs) := by
  induction qs with
  | nil => exact List.Perm.refl _
  | cons q qs ih =>
      unfold insertByPosition
      split
      · exact List.Perm.refl _
      · exact (ih.cons q).trans (List.Perm.swap p q qs)

theorem Slot.sortByPosition_perm (ps : List Slot) : (sortByPosition ps).Perm ps := by
  induction ps with
  | nil => exact List.Perm.refl _
  | cons p ps ih => exact (insertByPosition_perm p _).trans (ih.cons p)

/-! ## Numbered descriptors -/

/-- Each slot number below the number of slots belongs to exactly one parameter. -/
def Descriptor.Numbered (d : Descriptor) : Prop :=
  (d.parameters.map (·.index)).Perm (List.range d.slotCount)

/-- The parameters of a declaration with their slots, in the order of declaration. -/
def Slot.number (parameters : List Parameter) : List Slot :=
  parameters.zipIdx.map fun e => { toParameter := e.1, index := e.2 }

theorem Slot.map_index_number (parameters : List Parameter) :
    (Slot.number parameters).map (·.index) = List.range parameters.length := by
  rw [number, List.map_map, List.range_eq_range', ← List.zipIdx_map_snd 0 parameters]
  rfl

/-- Sorting and dividing the slots into two lists only moves them. -/
theorem Descriptor.parameters_perm (verb noun : String) (parameters : List Parameter) :
    (ofParameters verb noun parameters).parameters.Perm (Slot.number parameters) := by
  unfold ofParameters Descriptor.parameters
  simp only [List.partition_eq_filter_filter]
  exact ((Slot.sortByPosition_perm _).append_right _).trans
    (List.filter_append_perm _ (Slot.number parameters))

theorem Descriptor.slotCount_ofParameters (verb noun : String) (parameters : List Parameter) :
    (ofParameters verb noun parameters).slotCount = parameters.length := by
  have hlength := (parameters_perm verb noun parameters).length_eq
  rwa [Descriptor.parameters, List.length_append, Slot.number, List.length_map,
    List.length_zipIdx] at hlength

theorem Descriptor.numbered_ofParameters (verb noun : String) (parameters : List Parameter) :
    (ofParameters verb noun parameters).Numbered := by
  unfold Numbered
  rw [slotCount_ofParameters, ← Slot.map_index_number]
  exact (parameters_perm verb noun parameters).map _

/-! ## Registering -/

variable {r r' : Registry} {decl : Declaration} {d : Descriptor}

/-- A declaration is added if it has names, its canonical name is free and its parameters pass the
check. -/
theorem Registry.register_ok_iff :
    r.register decl = (r', .ok d) ↔ ∃ verb noun, decl.names = .ok (verb, noun) ∧
      d = Descriptor.ofParameters verb noun decl.parameters ∧
      r.commands.contains d.canonicalName = false ∧ d.check = .ok () ∧
        r' = ⟨r.commands.insert d.canonicalName ⟨d, decl⟩⟩ := by
  unfold register
  cases hnames : decl.names with
  | error fault => simp
  | ok names =>
      obtain ⟨verb, noun⟩ := names
      simp only [Except.ok.injEq, Prod.mk.injEq]
      constructor
      · intro h
        refine ⟨verb, noun, ⟨rfl, rfl⟩, ?_⟩
        split at h
        · cases h
        · rename_i hfree
          split at h
          · cases h
          · rename_i hcheck
            cases h
            exact ⟨rfl, Bool.eq_false_iff.2 hfree, hcheck, rfl⟩
      · rintro ⟨_, _, ⟨rfl, rfl⟩, rfl, hfree, hcheck, rfl⟩
        rw [if_neg (Bool.eq_false_iff.1 hfree), hcheck]

/-- A declaration that is not added leaves the registry as it was. -/
theorem Registry.eq_of_register_error {fault : Fault} (h : r.register decl = (r', .error fault)) :
    r' = r := by
  unfold register at h
  split at h
  · cases h
    rfl
  · simp only at h
    split at h
    · cases h
      rfl
    · split at h
      · cases h
        rfl
      · cases h

/-- What registering can come to. -/
theorem Registry.register_cases (r : Registry) (decl : Declaration) :
    (∃ fault, r.register decl = (r, .error fault)) ∨ ∃ r' d, r.register decl = (r', .ok d) := by
  rcases hregister : r.register decl with ⟨r', fault | d⟩
  · obtain rfl := eq_of_register_error hregister
    exact .inl ⟨fault, rfl⟩
  · exact .inr ⟨r', d, rfl⟩

/-- A command that registering brings in is the one that was registered. -/
theorem Registry.command_of_register {key : String} {c : Command}
    (hr : r.register decl = (r', .ok d)) (hnew : r.commands.find? key = none)
    (hc : r'.commands.find? key = some c) : c = ⟨d, decl⟩ := by
  obtain ⟨verb, noun, -, -, -, -, rfl⟩ := register_ok_iff.1 hr
  rw [Table.find?_insert] at hc
  split at hc
  · exact (Option.some.inj hc).symm
  · rw [hnew] at hc
    cases hc

theorem Registry.numbered_of_register (hr : r.register decl = (r', .ok d)) : d.Numbered := by
  obtain ⟨verb, noun, -, rfl, -⟩ := register_ok_iff.1 hr
  exact Descriptor.numbered_ofParameters verb noun decl.parameters

namespace Descriptor.Numbered

variable {d : Descriptor}

theorem index_lt (hd : d.Numbered) {p : Slot} (hp : p ∈ d.parameters) : p.index < d.slotCount :=
  List.mem_range.1 (hd.mem_iff.1 (List.mem_map_of_mem hp))

theorem exists_parameter (hd : d.Numbered) {i : Nat} (hi : i < d.slotCount) :
    ∃ p ∈ d.parameters, p.index = i :=
  List.mem_map.1 (hd.mem_iff.2 (List.mem_range.2 hi))

theorem pairwise (hd : d.Numbered) : d.parameters.Pairwise (·.index ≠ ·.index) := by
  have hnodup : (d.parameters.map (·.index)).Nodup := hd.nodup_iff.2 List.nodup_range
  exact List.pairwise_map.1 hnodup

/-- A parameter by position and one by name have different slots. -/
theorem index_ne (hd : d.Numbered) {p q : Slot} (hp : p ∈ d.positional) (hq : q ∈ d.named) :
    p.index ≠ q.index :=
  (List.pairwise_append.1 hd.pairwise).2.2 p hp q hq

end Descriptor.Numbered

theorem filter_index {ps : List Slot} (hps : ps.Pairwise (·.index ≠ ·.index)) {p : Slot}
    (hp : p ∈ ps) : ps.filter (·.index = p.index) = [p] := by
  induction ps with
  | nil => cases hp
  | cons q ps ih =>
      obtain ⟨hq, hps⟩ := List.pairwise_cons.1 hps
      rcases List.mem_cons.1 hp with rfl | hp
      · rw [List.filter_cons_of_pos (by simp), List.filter_eq_nil_iff.2]
        intro r hr
        simpa using (hq r hr).symm
      · rw [List.filter_cons_of_neg (by simpa using hq p hp), ih hps hp]

theorem Descriptor.Numbered.eq_of_index_eq {d : Descriptor} (hd : d.Numbered) {p q : Slot}
    (hp : p ∈ d.parameters) (hq : q ∈ d.parameters) (h : p.index = q.index) : p = q := by
  have hmem : p ∈ d.parameters.filter (·.index = q.index) :=
    List.mem_filter.2 ⟨hp, decide_eq_true h⟩
  rw [filter_index hd.pairwise hq] at hmem
  exact List.mem_singleton.1 hmem

/-! ## Filling slots -/

/-- Values put into slots in order, so that a slot keeps the last value put into it. -/
def fill (puts : List (Nat × Value)) (slots : List Value) : List Value :=
  puts.foldl (fun slots put => slots.set put.1 put.2) slots

theorem length_fill (puts : List (Nat × Value)) (slots : List Value) :
    (fill puts slots).length = slots.length := by
  induction puts generalizing slots with
  | nil => rfl
  | cons put puts ih =>
      have hset := ih (slots.set put.1 put.2)
      rwa [List.length_set] at hset

/-- A slot holds the last value put into it, and what it held before if there is none. -/
theorem getElem?_fill (puts : List (Nat × Value)) {slots : List Value} {i : Nat}
    (hi : i < slots.length) :
    (fill puts slots)[i]? = ((puts.filter (·.1 = i)).getLast?.map (·.2)).or slots[i]? := by
  induction puts generalizing slots with
  | nil => rfl
  | cons put puts ih =>
      have hset := @ih (slots.set put.1 put.2) (by rwa [List.length_set])
      have hfill : fill (put :: puts) slots = fill puts (slots.set put.1 put.2) := rfl
      rw [hfill, hset]
      by_cases hput : put.1 = i
      · rw [List.filter_cons_of_pos (by simpa using hput), List.getLast?_cons, hput,
          List.getElem?_set_self hi]
        cases (puts.filter (·.1 = i)).getLast? <;> rfl
      · rw [List.filter_cons_of_neg (by simpa using hput), List.getElem?_set_ne hput]

theorem Descriptor.initialSlots_eq (d : Descriptor) :
    d.initialSlots = fill (d.parameters.map fun p => (p.index, p.initial))
      (List.replicate d.slotCount .null) := by
  unfold initialSlots fill
  rw [List.foldl_map]

theorem Descriptor.length_initialSlots (d : Descriptor) : d.initialSlots.length = d.slotCount := by
  rw [initialSlots_eq, length_fill, List.length_replicate]

/-- The slot of a parameter starts with the parameter's initial value. -/
theorem Descriptor.Numbered.getElem?_initialSlots {d : Descriptor} (hd : d.Numbered) {p : Slot}
    (hp : p ∈ d.parameters) : d.initialSlots[p.index]? = some p.initial := by
  have hlt : p.index < (List.replicate d.slotCount Value.null).length := by
    rw [List.length_replicate]
    exact hd.index_lt hp
  rw [initialSlots_eq, getElem?_fill _ hlt, List.filter_map]
  have hfilter := filter_index hd.pairwise hp
  unfold Function.comp
  rw [hfilter]
  rfl

end VerbNoun
