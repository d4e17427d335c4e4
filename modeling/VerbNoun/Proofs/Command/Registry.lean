import VerbNoun.Proofs.Command.Registered
set_option autoImplicit false

/-!
# Command: names in a registry (SPEC §4.2, §12)

A registry only ever grows.  A command stays where it was put, is found under every name with its
upper case, its own included, and under no other, and the order in which commands were added leaves
no trace.
-/

namespace VerbNoun

open Text

/-! ## Upper case -/

theorem Text.upper_append (s t : String) : upper (s ++ t) = upper s ++ upper t := by
  unfold upper
  rw [String.toList_append, List.flatMap_append, String.ofList_append]

/-- Verb and noun are put in upper case apart, a name that is looked up as a whole. -/
theorem Descriptor.canonicalName_ofParameters (verb noun : String) (parameters : List Parameter) :
    (ofParameters verb noun parameters).canonicalName = upper (verb ++ "-" ++ noun) := by
  rw [upper_append, upper_append]
  rfl

theorem Command.Accepted.upper_displayName {key : String} {c : Command} (h : c.Accepted key) :
    upper c.descriptor.displayName = c.descriptor.canonicalName := by
  rw [h.descriptor_eq, Descriptor.canonicalName_ofParameters]
  rfl

namespace Registry

/-! ## Adding commands one after the other -/

/-- The registry after declarations in order.  One that cannot be added changes nothing. -/
def tried (r : Registry) (decls : List Declaration) : Registry :=
  decls.foldl (fun r decl => r.add (.command decl)) r

/-- What came of each of the declarations. -/
def trials (r : Registry) : List Declaration → List (Except Fault Descriptor)
  | [] => []
  | decl :: decls => (r.register decl).2 :: (r.add (.command decl)).trials decls

/-- Every declaration was added. -/
def AllAdded (r : Registry) (decls : List Declaration) : Prop :=
  ∀ trial ∈ r.trials decls, trial.isOk = true

variable {r r' : Registry} {decl : Declaration} {d : Descriptor}

theorem add_of_register {result : Except Fault Descriptor} (h : r.register decl = (r', result)) :
    r.add (.command decl) = r' :=
  congrArg Prod.fst h

theorem trials_cons {result : Except Fault Descriptor} (h : r.register decl = (r', result))
    (decls : List Declaration) : r.trials (decl :: decls) = result :: r'.trials decls := by
  rw [trials, add_of_register h, h]

theorem tried_append (r : Registry) (before after : List Declaration) :
    r.tried (before ++ after) = (r.tried before).tried after :=
  List.foldl_append

theorem tried_cons {result : Except Fault Descriptor} (h : r.register decl = (r', result))
    (decls : List Declaration) :
    r.tried (decl :: decls) = r'.tried decls := by
  rw [← add_of_register h]
  rfl

theorem tried_eq_reached (decls : List Declaration) :
    tried {} decls = reached (decls.map .command) := by
  unfold tried reached
  rw [List.foldl_map]

theorem allAdded_nil (r : Registry) : r.AllAdded [] := by
  intro trial htrial
  cases htrial

theorem allAdded_cons_iff {decls : List Declaration} :
    r.AllAdded (decl :: decls) ↔
      ∃ r' d, r.register decl = (r', .ok d) ∧ r'.AllAdded decls := by
  unfold AllAdded
  obtain ⟨fault, hregister⟩ | ⟨r', d, hregister⟩ := r.register_cases decl
  · rw [trials_cons hregister, List.forall_mem_cons, hregister]
    simp [Except.isOk, Except.toBool]
  · rw [trials_cons hregister, List.forall_mem_cons, hregister]
    simp [Except.isOk, Except.toBool]

/-- The registry lists what it listed before, and what the declarations gave. -/
theorem descriptors_tried (r : Registry) (decls : List Declaration) :
    (r.tried decls).descriptors.Perm
      (r.descriptors ++ (r.trials decls).filterMap (·.toOption)) := by
  induction decls generalizing r with
  | nil =>
      rw [trials, List.filterMap_nil, List.append_nil]
      exact List.Perm.refl _
  | cons decl decls ih =>
      obtain ⟨fault, hregister⟩ | ⟨r', d, hregister⟩ := r.register_cases decl
      · rw [tried_cons hregister, trials_cons hregister]
        exact ih r
      · rw [tried_cons hregister, trials_cons hregister]
        refine (ih r').trans ?_
        obtain ⟨verb, noun, -, -, hfree, -, rfl⟩ := register_ok_iff.1 hregister
        have hnew : (Registry.mk (r.commands.insert d.canonicalName ⟨d, decl⟩)).descriptors.Perm
            (d :: r.descriptors) :=
          (Table.values_insert_perm hfree _).map _
        exact (hnew.append_right _).trans List.perm_middle.symm

theorem length_descriptors (r : Registry) : r.descriptors.length = r.size := by
  unfold descriptors size Table.values Table.size
  rw [List.length_map, List.length_map]

theorem size_tried (decls : List Declaration) :
    (tried {} decls).size = (trials {} decls).countP (·.isOk) := by
  have hlength := (descriptors_tried {} decls).length_eq
  have hok : (fun trial : Except Fault Descriptor => trial.isOk) =
      fun trial => trial.toOption.isSome := by
    funext trial
    cases trial <;> rfl
  rw [length_descriptors] at hlength
  rw [hlength, hok]
  exact List.length_filterMap_eq_countP

/-- A command comes into a registry by its declaration alone. -/
theorem mem_of_registerAll {decls : List Declaration} {e : String × Command}
    (he : e ∈ (r.registerAll decls).1.commands.entries) :
    e ∈ r.commands.entries ∨ e.2.declaration ∈ decls := by
  induction decls generalizing r with
  | nil => exact .inl he
  | cons decl decls ih =>
      rw [registerAll] at he
      obtain ⟨fault, hregister⟩ | ⟨r', d, hregister⟩ := r.register_cases decl
      · rw [hregister] at he
        exact .inl he
      · rw [hregister] at he
        rcases ih he with hmem | hmem
        · obtain ⟨verb, noun, -, -, -, -, rfl⟩ := register_ok_iff.1 hregister
          rcases Table.mem_place hmem with rfl | hold
          · exact .inr List.mem_cons_self
          · exact .inl hold
        · exact .inr (List.mem_cons_of_mem _ hmem)

/-! ## Commands stay -/

theorem find?_of_register {key : String} {c : Command} (hc : r.commands.find? key = some c)
    (h : r.register decl = (r', .ok d)) : r'.commands.find? key = some c := by
  obtain ⟨verb, noun, -, -, hfree, -, rfl⟩ := register_ok_iff.1 h
  rw [Table.find?_insert, if_neg, hc]
  intro hkey
  rw [Table.contains_eq_false_iff, ← hkey, hc] at hfree
  cases hfree

theorem find?_tried {key : String} {c : Command} (hc : r.commands.find? key = some c)
    (decls : List Declaration) : (r.tried decls).commands.find? key = some c := by
  induction decls generalizing r with
  | nil => exact hc
  | cons decl decls ih =>
      refine ih ?_
      exact add_induction (motive := fun r => r.commands.find? key = some c)
        (fun _ _ _ _ hc h => find?_of_register hc h) hc _

theorem resolve_ok_iff {name : String} {c : Command} :
    r.resolve name = .ok c ↔ r.commands.find? (upper name) = some c := by
  unfold resolve find?
  cases r.commands.find? (upper name) <;> simp

/-- A command that was added is found from then on under every name with the upper case of its
own. -/
theorem resolve_of_register (h : r.register decl = (r', .ok d)) : ∃ verb noun,
    decl.names = .ok (verb, noun) ∧ d = .ofParameters verb noun decl.parameters ∧
      ∀ after name, upper name = upper (verb ++ "-" ++ noun) →
        (r'.tried after).resolve name = .ok ⟨d, decl⟩ := by
  obtain ⟨verb, noun, hnames, rfl, -, -, rfl⟩ := register_ok_iff.1 h
  refine ⟨verb, noun, hnames, rfl, fun after name hname => ?_⟩
  refine resolve_ok_iff.2 (find?_tried ?_ after)
  rw [Table.find?_insert, if_pos (hname.trans (Descriptor.canonicalName_ofParameters ..).symm)]

/-! ## The order of adding -/

/-- Two commands that can be added in one order can be added in the other. -/
theorem register_comm {r₁ r₂ : Registry} {a b : Declaration} {da db : Descriptor}
    (ha : r.register a = (r₁, .ok da)) (hb : r₁.register b = (r₂, .ok db)) :
    ∃ r₁', r.register b = (r₁', .ok db) ∧ r₁'.register a = (r₂, .ok da) := by
  obtain ⟨verb, noun, hnames, hda, hfree, hcheck, rfl⟩ := register_ok_iff.1 ha
  obtain ⟨verb', noun', hnames', hdb, hfree', hcheck', rfl⟩ := register_ok_iff.1 hb
  rw [Table.contains_eq_false_iff, Table.find?_insert] at hfree'
  split at hfree'
  · cases hfree'
  · rename_i hne
    refine ⟨_, register_ok_iff.2 ⟨verb', noun', hnames', hdb, ?_, hcheck', rfl⟩,
      register_ok_iff.2 ⟨verb, noun, hnames, hda, ?_, hcheck, ?_⟩⟩
    · exact Table.contains_eq_false_iff.2 hfree'
    · rw [Table.contains_eq_false_iff, Table.find?_insert, if_neg (Ne.symm hne)]
      exact Table.contains_eq_false_iff.1 hfree
    · rw [Table.insert_comm (Ne.symm hne)]

/-- The induction is on the rearrangement; two neighbours change places by `register_comm`. -/
theorem allAdded_perm {decls decls' : List Declaration} (hperm : decls.Perm decls')
    (h : r.AllAdded decls) : r.AllAdded decls' ∧ r.tried decls' = r.tried decls := by
  induction hperm generalizing r with
  | nil => exact ⟨h, rfl⟩
  | cons decl _ ih =>
      obtain ⟨r', d, hregister, hrest⟩ := allAdded_cons_iff.1 h
      obtain ⟨hadded, htried⟩ := ih hrest
      refine ⟨allAdded_cons_iff.2 ⟨r', d, hregister, hadded⟩, ?_⟩
      rw [tried_cons hregister, tried_cons hregister, htried]
  | swap a b decls =>
      obtain ⟨r₁, db, hb, h⟩ := allAdded_cons_iff.1 h
      obtain ⟨r₂, da, ha, hrest⟩ := allAdded_cons_iff.1 h
      obtain ⟨r₁', ha', hb'⟩ := register_comm hb ha
      refine ⟨allAdded_cons_iff.2 ⟨r₁', da, ha', allAdded_cons_iff.2 ⟨r₂, db, hb', hrest⟩⟩, ?_⟩
      rw [tried_cons ha', tried_cons hb', tried_cons hb, tried_cons ha]
  | trans _ _ ih ih' =>
      obtain ⟨hmiddle, htried⟩ := ih h
      obtain ⟨hadded, htried'⟩ := ih' hmiddle
      exact ⟨hadded, htried'.trans htried⟩

/-! ## Names and commands -/

/-- A registry in which a command is found by the upper case of its name, and in no other way. -/
structure ByName (r : Registry) : Prop where
  /-- No two commands have one canonical name. -/
  unique : ∀ c ∈ r.commands.values, ∀ c' ∈ r.commands.values,
    c.descriptor.canonicalName = c'.descriptor.canonicalName → c = c'
  resolve_iff : ∀ name c, r.resolve name = .ok c ↔
    c ∈ r.commands.values ∧ upper name = c.descriptor.canonicalName
  contains_iff : ∀ name, r.contains name = true ↔ ∃ c, r.resolve name = .ok c
  /-- The registry lists the descriptors that are found under their own names, -/
  listed_iff : ∀ d, d ∈ r.descriptors ↔ ∃ c, r.resolve d.displayName = .ok c ∧ c.descriptor = d
  /-- in the order of the keys, each once. -/
  keys_eq : r.descriptors.map (·.canonicalName) = r.commands.entries.map (·.1)
  ascending : (r.descriptors.map (·.canonicalName)).Pairwise (· < ·)

theorem mem_of_resolve {name : String} {c : Command} (h : r.resolve name = .ok c) :
    (upper name, c) ∈ r.commands.entries :=
  Table.find?_eq_some_iff.1 (resolve_ok_iff.1 h)

theorem mem_values_iff (hkeys : ∀ e ∈ r.commands.entries, e.1 = e.2.descriptor.canonicalName)
    {c : Command} :
    c ∈ r.commands.values ↔ r.commands.find? c.descriptor.canonicalName = some c := by
  rw [Table.find?_eq_some_iff]
  constructor
  · intro hc
    obtain ⟨e, he, rfl⟩ := List.mem_map.1 hc
    rwa [← hkeys e he]
  · intro he
    exact List.mem_map.2 ⟨_, he, rfl⟩

/-- The command of an entry is found under its own name. -/
theorem resolve_displayName (hr : ∀ e ∈ r.commands.entries, e.2.Accepted e.1)
    {e : String × Command} (he : e ∈ r.commands.entries) :
    r.resolve e.2.descriptor.displayName = .ok e.2 := by
  have haccepted := hr e he
  rw [resolve_ok_iff, haccepted.upper_displayName, ← haccepted.key_eq]
  exact Table.find?_eq_some_iff.2 he

theorem byName_of_accepted (hr : ∀ e ∈ r.commands.entries, e.2.Accepted e.1) : r.ByName := by
  have hkey := fun e he => (hr e he).key_eq
  have hkeys : r.descriptors.map (·.canonicalName) = r.commands.entries.map (·.1) := by
    unfold descriptors Table.values
    rw [List.map_map, List.map_map]
    exact List.map_congr_left fun e he => (hkey e he).symm
  refine ⟨?_, ?_, ?_, ?_, hkeys, ?_⟩
  · intro c hc c' hc' heq
    rw [mem_values_iff hkey] at hc hc'
    rw [heq, hc'] at hc
    exact (Option.some.inj hc).symm
  · intro name c
    rw [resolve_ok_iff, mem_values_iff hkey]
    constructor
    · intro hfind
      have hname := hkey _ (mem_of_resolve (resolve_ok_iff.2 hfind))
      exact ⟨hname ▸ hfind, hname⟩
    · rintro ⟨hc, hname⟩
      rwa [hname]
  · intro name
    unfold contains find?
    simp only [resolve_ok_iff, Option.isSome_iff_exists]
  · intro d
    constructor
    · intro hd
      obtain ⟨c, hc, rfl⟩ := List.mem_map.1 hd
      obtain ⟨e, he, rfl⟩ := List.mem_map.1 hc
      exact ⟨e.2, resolve_displayName hr he, rfl⟩
    · rintro ⟨c, hc, rfl⟩
      exact List.mem_map_of_mem (List.mem_map_of_mem (mem_of_resolve hc))
  · rw [hkeys]
    exact List.pairwise_map.2 r.commands.ascending

end Registry

/-- Whatever declarations are tried in whatever order, commands are found by the upper case of
their names alone; those are listed that could be added, and counted; each stays found as it was
when it was added; and if all could be added then so they can in any other order, with the same
registry in the end. -/
theorem registry_is_by_name (decls : List Declaration) :
    (Registry.tried {} decls).ByName ∧
    (Registry.tried {} decls).descriptors.Perm
      ((Registry.trials {} decls).filterMap (·.toOption)) ∧
    (Registry.tried {} decls).size = (Registry.trials {} decls).countP (·.isOk) ∧
    (∀ before decl after r' d, decls = before ++ decl :: after →
      (Registry.tried {} before).register decl = (r', .ok d) →
      ∃ verb noun, decl.names = .ok (verb, noun) ∧
        d = .ofParameters verb noun decl.parameters ∧
        ∀ name, upper name = upper (verb ++ "-" ++ noun) →
          r'.resolve name = .ok ⟨d, decl⟩ ∧
          (Registry.tried {} decls).resolve name = .ok ⟨d, decl⟩) ∧
    ∀ decls', decls.Perm decls' → Registry.AllAdded {} decls →
      Registry.AllAdded {} decls' ∧ Registry.tried {} decls' = Registry.tried {} decls := by
  refine ⟨?_, Registry.descriptors_tried {} decls, Registry.size_tried decls, ?_,
    fun decls' hperm h => Registry.allAdded_perm hperm h⟩
  · rw [Registry.tried_eq_reached]
    exact Registry.byName_of_accepted (Registry.accepted_of_mem_reached _)
  · rintro before decl after r' d rfl h
    obtain ⟨verb, noun, hnames, hd, hfound⟩ := Registry.resolve_of_register h
    refine ⟨verb, noun, hnames, hd, fun name hname => ⟨hfound [] name hname, ?_⟩⟩
    rw [Registry.tried_append, Registry.tried_cons h]
    exact hfound after name hname

/-- A command whose verb grows by a letter in upper case. -/
def sayGreeting : Declaration where
  typeName := "SayGreeting"
  name? := some ("Begrüß", "Gast")
  State := Unit
  initial := ()
  fields := []
  process := fun _ _ => { result := .ok .null }

/-- The command is found under a name in which its sharp s is written out, after a declaration of
that name has failed; the two that could be added are listed, and can be added the other way
round. -/
theorem registry_is_by_name_greeting :
    let decls := [padText, sayGreeting, { sayGreeting with name? := some ("BEGRÜSS", "GAST") }]
    (Registry.tried {} decls).size = 2 ∧
    (Registry.tried {} decls).descriptors.Perm
      [.ofParameters "Pad" "Text" padText.parameters, .ofParameters "Begrüß" "Gast" []] ∧
    (Registry.tried {} decls).descriptors.map (·.canonicalName) = ["BEGRÜSS-GAST", "PAD-TEXT"] ∧
    (Registry.tried {} decls).resolve "begrÜSS-gast" =
      .ok ⟨.ofParameters "Begrüß" "Gast" [], sayGreeting⟩ ∧
    Registry.AllAdded {} [padText, sayGreeting] ∧
    Registry.tried {} [padText, sayGreeting] = Registry.tried {} [sayGreeting, padText] := by
  intro decls
  have hadded : Registry.AllAdded {} [sayGreeting, padText] :=
    Registry.allAdded_cons_iff.2 ⟨_, _, rfl, Registry.allAdded_cons_iff.2 ⟨_, _, rfl,
      Registry.allAdded_nil _⟩⟩
  obtain ⟨hbyName, hlisted, hsize, hfound, -⟩ := registry_is_by_name decls
  refine ⟨?_, hlisted, ?_, ?_, (registry_is_by_name _).2.2.2.2 _ (List.Perm.swap _ _ _) hadded⟩
  · rw [hsize]
    decide +kernel
  · rw [hbyName.keys_eq]
    rfl
  · obtain ⟨verb, noun, hnames, -, hresolve⟩ := hfound [padText] sayGreeting _ _ _ rfl rfl
    cases hnames
    exact (hresolve "begrÜSS-gast" (by decide +kernel)).2

end VerbNoun
