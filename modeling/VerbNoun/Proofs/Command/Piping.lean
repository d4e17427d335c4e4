import VerbNoun.Proofs.Command.Registered
import VerbNoun.Proofs.Frame
set_option autoImplicit false

/-!
# Command: piping a value and passing it (SPEC §4.3)

A piped value is bound before the arguments are looked at, and the cursor over the positional
parameters leaves its parameter out.  A variable that holds the value is bound when its turn comes.
Both ways lead to the same: filling a slot ahead of its turn commutes with every item that goes by
it, and what the pipe leaves behind besides is only asked for by flags that name its parameter.
-/

namespace VerbNoun

open Store

/-! ## Runs side by side -/

namespace Binding

variable {d : Descriptor}

/-- What a run comes to, with a change made to the binding. -/
def mapRun (f : Binding → Binding) (r : Except Fault Binding × Store) :
    Except Fault Binding × Store :=
  (r.1.map f, r.2)

/-- A change that commutes with each step commutes with a run, as long as what the steps need of
the items to come and the binding is kept. -/
theorem steps_mapRun {f : Binding → Binding} {motive : List Item → Binding → Prop}
    (hstep : ∀ item items b s, motive (item :: items) b →
      (f b).step d item s = mapRun f (b.step d item s) ∧
        ∀ b' s', b.step d item s = (.ok b', s') → motive items b')
    {items : List Item} {b : Binding} (h : motive items b) (s : Store) :
    (f b).steps d items s = mapRun f (b.steps d items s) := by
  induction items generalizing b s with
  | nil => rfl
  | cons item items ih =>
      obtain ⟨hcommutes, hkept⟩ := hstep item items b s h
      rw [steps, steps, hcommutes]
      cases hrun : b.step d item s with
      | mk result s' =>
          cases result with
          | error fault => rfl
          | ok b' => exact ih (hkept b' s' hrun) s'

theorem putArgument_mapRun {f : Binding → Binding} {b b' : Binding} {p : Slot}
    (hput : ∀ v, b'.put p v = f (b.put p v)) (a : Statement) (s : Store) :
    b'.putArgument p a s = mapRun f (b.putArgument p a s) := by
  unfold putArgument
  cases a.argumentFor p s with
  | mk result s' =>
      cases result with
      | error fault => rfl
      | ok v =>
          simp only [hput]
          rfl

theorem steps_append (items items' : List Item) (b : Binding) (s : Store) :
    b.steps d (items ++ items') s =
      match b.steps d items s with
      | (.error fault, s') => (.error fault, s')
      | (.ok b', s') => b'.steps d items' s' := by
  induction items generalizing b s with
  | nil => rfl
  | cons item items ih =>
      rw [List.cons_append, steps, steps]
      cases b.step d item s with
      | mk result s' =>
          cases result with
          | error fault => rfl
          | ok b' => exact ih b' s'

/-! ## A slot filled ahead of its turn -/

/-- A binding with a parameter bound by the pipe. -/
def ahead (p : Slot) (w : Value) (b : Binding) : Binding where
  slots := b.slots.set p.index w
  vacant := b.vacant.filter (·.index ≠ p.index)
  unmet := b.unmet.filter (·.index ≠ p.index)
  fromPipe? := some p

/-- Items that go by a parameter: no flag of theirs names it, and those by position are taken by
other parameters. -/
structure GoesBy (p : Slot) (items : List Item) (b : Binding) : Prop where
  fromPipe_eq : b.fromPipe? = none
  named_ne : ∀ item ∈ items, ∀ q, item.parameter? = some q → q.index ≠ p.index
  placed_ne : ∀ q ∈ b.vacant.take (Item.totalPlaces items), q.index ≠ p.index

theorem GoesBy.advance {p : Slot} {item : Item} {items : List Item} {b b' : Binding}
    (h : GoesBy p (item :: items) b) (hadvances : b.Advances b' item.places) :
    GoesBy p items b' := by
  refine ⟨hadvances.fromPipe_eq.trans h.fromPipe_eq, ?_, ?_⟩
  · intro item' hitem'
    exact h.named_ne item' (List.mem_cons_of_mem _ hitem')
  · intro q hq
    apply h.placed_ne q
    rw [hadvances.vacant_eq, List.take_drop] at hq
    rw [Item.totalPlaces]
    exact List.mem_of_mem_drop hq

theorem put_ahead {p q : Slot} (hne : q.index ≠ p.index) (w v : Value) (b : Binding) :
    (b.ahead p w).put q v = (b.put q v).ahead p w := by
  unfold ahead put
  rw [List.set_comm _ _ hne.symm]
  simp only [List.filter_filter, Bool.and_comm]

theorem isFromPipe_ahead {p q : Slot} (hne : q.index ≠ p.index) (w : Value) (b : Binding) :
    (b.ahead p w).isFromPipe q = false := by
  simpa [isFromPipe, ahead] using hne.symm

theorem isFromPipe_of_none {b : Binding} (h : b.fromPipe? = none) (q : Slot) :
    b.isFromPipe q = false := by
  rw [isFromPipe, h, Option.any_none]

theorem step_ahead {p : Slot} {item : Item} {items : List Item} {b : Binding}
    (h : GoesBy p (item :: items) b) (w : Value) (s : Store) :
    (b.ahead p w).step d item s = mapRun (ahead p w) (b.step d item s) := by
  have hnone := isFromPipe_of_none h.fromPipe_eq
  have hnamed := h.named_ne item List.mem_cons_self
  cases item with
  | unknown name => rfl
  | switch q =>
      have hq := hnamed q rfl
      simp only [step, isFromPipe_ahead hq, hnone, put_ahead hq]
      rfl
  | dangling q =>
      simp only [step, isFromPipe_ahead (hnamed q rfl), hnone]
      rfl
  | named q a =>
      have hq := hnamed q rfl
      simp only [step, isFromPipe_ahead hq, hnone]
      exact putArgument_mapRun (fun v => put_ahead hq w v b) a s
  | positional a =>
      cases hvacant : b.vacant with
      | nil => simp [step, ahead, hvacant, mapRun, Except.map]
      | cons q vacant =>
          have hq : q.index ≠ p.index := by
            apply h.placed_ne q
            rw [hvacant, Item.totalPlaces, Item.places, Nat.add_comm, List.take_succ_cons]
            exact List.mem_cons_self
          have hahead : (b.ahead p w).vacant =
              q :: (({ b with vacant := vacant } : Binding).ahead p w).vacant := by
            simp [ahead, hvacant, hq]
          simp only [step, hahead, hvacant]
          exact putArgument_mapRun
            (fun v => put_ahead hq w v ({ b with vacant := vacant } : Binding)) a s

/-- Filling a slot ahead of its turn commutes with the items that go by its parameter. -/
theorem steps_ahead {p : Slot} {items : List Item} {b : Binding} (h : GoesBy p items b)
    (w : Value) (s : Store) :
    (b.ahead p w).steps d items s = mapRun (ahead p w) (b.steps d items s) := by
  refine steps_mapRun (motive := GoesBy p) ?_ h s
  intro item items b s h
  exact ⟨step_ahead h w s, fun b' s' hstep => h.advance (step_advances hstep)⟩

/-! ## What the pipe leaves behind -/

/-- A binding as if no parameter had been bound by the pipe. -/
def unpiped (b : Binding) : Binding := { b with fromPipe? := none }

theorem step_unpiped {item : Item} {b : Binding}
    (h : ∀ q, item.parameter? = some q → b.isFromPipe q = false) (s : Store) :
    b.unpiped.step d item s = mapRun unpiped (b.step d item s) := by
  have hnone := isFromPipe_of_none (show b.unpiped.fromPipe? = none from rfl)
  cases item with
  | unknown name => rfl
  | switch q =>
      simp only [step, hnone, h q rfl]
      rfl
  | dangling q =>
      simp only [step, hnone, h q rfl]
      rfl
  | named q a =>
      simp only [step, hnone, h q rfl]
      exact putArgument_mapRun (fun v => rfl) a s
  | positional a =>
      simp only [step]
      have hvacant : b.unpiped.vacant = b.vacant := rfl
      rw [hvacant]
      cases b.vacant with
      | nil => rfl
      | cons q vacant => exact putArgument_mapRun (fun v => rfl) a s

/-- Only a flag that names the parameter bound by the pipe can tell that there is one. -/
theorem steps_unpiped {items : List Item} {b : Binding}
    (h : ∀ item ∈ items, ∀ q, item.parameter? = some q → b.isFromPipe q = false) (s : Store) :
    b.unpiped.steps d items s = mapRun unpiped (b.steps d items s) := by
  refine steps_mapRun (motive := fun items b =>
    ∀ item ∈ items, ∀ q, item.parameter? = some q → b.isFromPipe q = false) ?_ h s
  intro item items b s h
  refine ⟨step_unpiped (h item List.mem_cons_self) s, ?_⟩
  intro b' s' hstep item' hitem' q hq
  rw [isFromPipe, (step_advances hstep).fromPipe_eq]
  exact h item' (List.mem_cons_of_mem _ hitem') q hq

/-- What a run comes to when no mandatory parameter may be left. -/
def finishRun (d : Descriptor) (r : Except Fault Binding × Store) :
    Except Fault (List Value) × Store :=
  (r.1.bind (finish d), r.2)

/-- An item that does what the pipe has done in the other binding brings the two together. -/
theorem finishRun_cons {item : Item} {items : List Item} {b b' : Binding} {s : Store}
    (hstep : b.step d item s = (.ok b'.unpiped, s))
    (h : ∀ item ∈ items, ∀ q, item.parameter? = some q → b'.isFromPipe q = false) :
    finishRun d (b.steps d (item :: items) s) = finishRun d (b'.steps d items s) := by
  have hsteps : b.steps d (item :: items) s = mapRun unpiped (b'.steps d items s) := by
    rw [steps, hstep]
    exact steps_unpiped h s
  rw [hsteps]
  cases b'.steps d items s with
  | mk result s' => cases result <;> rfl

end Binding

namespace Descriptor

open Binding

variable {d : Descriptor}

theorem bind_of_ofPipe {args : List Statement} {piped? : Option Value} {b : Binding}
    (h : ofPipe d piped? = .ok b) (s : Store) :
    d.bind args piped? s = finishRun d (b.steps d (d.items args) s) := by
  unfold bind finishRun
  rw [h]
  simp only
  cases b.steps d (d.items args) s with
  | mk result s' => cases result <;> rfl

/-! ## The parameter that a piped value goes to -/

/-- The first parameter that takes piped values and whose kind the value can be moved to. -/
def receiver? (d : Descriptor) (v : Value) : Option Slot :=
  d.parameters.find? fun p => p.piped && (v.coerce? p.kind).isSome

theorem receiver?_mem {v : Value} {p : Slot} (h : d.receiver? v = some p) : p ∈ d.parameters :=
  List.mem_of_find?_eq_some h

theorem pipeTarget?_of_receiver? {v : Value} {p : Slot} (h : d.receiver? v = some p) :
    ∃ w, v.coerce? p.kind = some w ∧ pipeTarget? d v = some (p, w) := by
  unfold receiver? at h
  unfold pipeTarget?
  generalize d.parameters = parameters at h ⊢
  induction parameters with
  | nil => cases h
  | cons q qs ih =>
      rw [List.find?_cons] at h
      rw [List.findSome?_cons]
      cases hpiped : q.piped with
      | false =>
          rw [hpiped] at h
          exact ih h
      | true =>
          rw [hpiped] at h
          cases hcoerce : v.coerce? q.kind with
          | none =>
              rw [hcoerce] at h
              exact ih h
          | some w =>
              rw [hcoerce] at h
              cases h
              exact ⟨w, hcoerce, rfl⟩

theorem ofPipe_of_receiver? {v : Value} {p : Slot} (h : d.receiver? v = some p) :
    ∃ w, v.coerce? p.kind = some w ∧ ofPipe d (some v) = .ok ((start d).ahead p w) := by
  obtain ⟨w, hw, htarget⟩ := pipeTarget?_of_receiver? h
  refine ⟨w, hw, ?_⟩
  simp only [ofPipe, htarget]
  rfl

/-! ## A variable in the stead of the pipe -/

theorem putArgument_var {p : Slot} {t : String} {v w : Value} {s : Store}
    (ht : s.get? t = some v) (hw : v.coerce? p.kind = some w) (b : Binding) :
    b.putArgument p (.var t) s = (.ok (b.put p w), s) := by
  have hargument : (Statement.var t).argumentFor p s = (.ok w, s) := by
    simp only [Statement.argumentFor, Statement.resolve, read_of_some ht, Slot.fit, hw]
  rw [putArgument, hargument]

theorem unpiped_ahead {b : Binding} (hnone : b.fromPipe? = none) {p : Slot} {vacant : List Slot}
    (hvacant : b.vacant.filter (·.index ≠ p.index) = vacant) (w : Value) :
    (b.ahead p w).unpiped = ({ b with vacant := vacant } : Binding).put p w := by
  unfold ahead unpiped put
  simp only [hvacant, hnone]

theorem filter_index_ne {p : Slot} {slots : List Slot} (h : ∀ q ∈ slots, q.index ≠ p.index) :
    slots.filter (·.index ≠ p.index) = slots :=
  List.filter_eq_self.2 fun q hq => decide_eq_true (h q hq)

theorem step_positional_var {b : Binding} (hnone : b.fromPipe? = none) {p : Slot}
    {vacant : List Slot} (hvacant : b.vacant = p :: vacant)
    (hne : ∀ q ∈ vacant, q.index ≠ p.index) {t : String} {v w : Value} {s : Store}
    (ht : s.get? t = some v) (hw : v.coerce? p.kind = some w) :
    b.step d (.positional (.var t)) s = (.ok (b.ahead p w).unpiped, s) := by
  have hfilter : b.vacant.filter (·.index ≠ p.index) = vacant := by
    rw [hvacant, List.filter_cons_of_neg (by simp), filter_index_ne hne]
  rw [unpiped_ahead hnone hfilter]
  simp only [step, hvacant, putArgument_var ht hw]

theorem step_named_var {b : Binding} (hnone : b.fromPipe? = none) {p : Slot}
    (hne : ∀ q ∈ b.vacant, q.index ≠ p.index) {t : String} {v w : Value} {s : Store}
    (ht : s.get? t = some v) (hw : v.coerce? p.kind = some w) :
    b.step d (.named p (.var t)) s = (.ok (b.ahead p w).unpiped, s) := by
  rw [unpiped_ahead hnone (filter_index_ne hne)]
  simp only [step, isFromPipe_of_none hnone, Bool.false_eq_true, if_false, putArgument_var ht hw]

/-- No parameter by position before or behind another has its slot. -/
theorem Numbered.split_positional (hd : d.Numbered) {i : Nat} {p : Slot}
    (hi : d.positional[i]? = some p) :
    (∀ q ∈ d.positional.take i, q.index ≠ p.index) ∧
      ∃ behind, d.positional.drop i = p :: behind ∧ ∀ q ∈ behind, q.index ≠ p.index := by
  obtain ⟨hlt, hget⟩ := List.getElem?_eq_some_iff.1 hi
  have hdrop : d.positional.drop i = p :: d.positional.drop (i + 1) := by
    rw [List.drop_eq_getElem_cons hlt, hget]
  have hpairwise := (List.pairwise_append.1 hd.pairwise).1
  rw [← List.take_append_drop i d.positional, hdrop] at hpairwise
  obtain ⟨-, hbehind, hbefore⟩ := List.pairwise_append.1 hpairwise
  refine ⟨fun q hq => hbefore q hq p List.mem_cons_self, _, hdrop, ?_⟩
  intro q hq
  exact ((List.pairwise_cons.1 hbehind).1 q hq).symm

/-- The variable stands where the turn of the positional parameter comes. -/
theorem Numbered.bind_positional (hd : d.Numbered) {v : Value} {p : Slot}
    (hp : d.receiver? v = some p) {i : Nat} (hi : d.positional[i]? = some p)
    {xs : List Statement} (hxs : d.Whole xs i) (ys : List Statement) {s : Store} {t : String}
    (ht : s.get? t = some v) :
    d.bind (xs ++ ys) (some v) s = d.bind (xs ++ [.var t] ++ ys) none s := by
  obtain ⟨w, hw, hpipe⟩ := ofPipe_of_receiver? hp
  obtain ⟨hbefore, behind, hdrop, hbehind⟩ := hd.split_positional hi
  have hnamed : ∀ args, ∀ item ∈ d.items args, ∀ q, item.parameter? = some q →
      q.index ≠ p.index :=
    fun args item hitem q hq =>
      (hd.index_ne (List.mem_of_getElem? hi) (mem_named_of_mem_items hitem hq)).symm
  have hgoes : GoesBy p (d.items xs) (start d) := by
    refine ⟨rfl, hnamed xs, ?_⟩
    rw [hxs.totalPlaces_eq]
    exact hbefore
  have hstart : ofPipe d none = .ok (start d) := rfl
  rw [bind_of_ofPipe hpipe, bind_of_ofPipe hstart, List.append_assoc, hxs.items_append,
    hxs.items_append, steps_append, steps_append, steps_ahead hgoes]
  cases hrun : (start d).steps d (d.items xs) s with
  | mk result s' =>
      cases result with
      | error fault => rfl
      | ok b =>
          -- The items before the variable have not touched the store, so it still holds the value.
          have hstore : s' = s := (hrun ▸ steps_spared d (d.items xs) (start d) s).store_eq_of_ok
          have hadvances := steps_advances hrun
          have hvacant : b.vacant = p :: behind := by
            rw [hadvances.vacant_eq, hxs.totalPlaces_eq, ← hdrop]
            rfl
          have hstep := step_positional_var (d := d) hadvances.fromPipe_eq hvacant hbehind ht hw
          have hapart : ∀ item ∈ d.items ys, ∀ q, item.parameter? = some q →
              (b.ahead p w).isFromPipe q = false :=
            fun item hitem q hq => isFromPipe_ahead (hnamed ys item hitem q hq) w b
          rw [hstore, List.singleton_append, items_positional rfl]
          exact (finishRun_cons hstep hapart).symm

/-- The variable stands behind the name of the parameter. -/
theorem Numbered.bind_named (hd : d.Numbered) {v : Value} {p : Slot}
    (hp : d.receiver? v = some p) (hnamed : p ∈ d.named) (hswitch : p.isSwitch = false)
    (hfind : d.findNamed? p.name = some p) {args : List Statement}
    (hargs : ∀ name, .flag name ∈ args → d.findNamed? name ≠ some p) {s : Store} {t : String}
    (ht : s.get? t = some v) :
    d.bind args (some v) s = d.bind ([.flag p.name, .var t] ++ args) none s := by
  obtain ⟨w, hw, hpipe⟩ := ofPipe_of_receiver? hp
  have hstep := step_named_var (d := d) (show (start d).fromPipe? = none from rfl)
    (fun q hq => hd.index_ne hq hnamed) ht hw
  have hapart : ∀ item ∈ d.items args, ∀ q, item.parameter? = some q →
      ((start d).ahead p w).isFromPipe q = false := by
    intro item hitem q hq
    obtain ⟨name, hname, hq⟩ := (d.takenFrom_of_mem_items args item hitem).parameter_named q hq
    apply isFromPipe_ahead
    intro hindex
    apply hargs name hname
    rw [hq, hd.eq_of_index_eq (List.mem_append_right _ (List.mem_of_find?_eq_some hq))
      (List.mem_append_right _ hnamed) hindex]
  have hstart : ofPipe d none = .ok (start d) := rfl
  rw [bind_of_ofPipe hpipe, bind_of_ofPipe hstart, List.cons_append, List.singleton_append,
    items_named hfind hswitch rfl]
  exact (finishRun_cons hstep hapart).symm

end Descriptor

/-- Piping a value comes to the same as passing a variable that holds it: at the place of the
parameter that takes the value, behind whole items with as many arguments by position as come
before it, or in front of all arguments behind the parameter's name. -/
theorem piping_is_passing (additions : List Addition) (e : String × Command)
    (he : e ∈ (Registry.reached additions).commands.entries) (args : List Statement)
    (store : Store) (t : String) (v : Value) (ht : store.get? t = some v) (p : Slot)
    (hp : e.2.descriptor.receiver? v = some p) :
    (∀ (i : Nat) (xs ys : List Statement), p.position = i → args = xs ++ ys →
      e.2.descriptor.Whole xs i →
      e.2.descriptor.bind args (some v) store =
        e.2.descriptor.bind (xs ++ [.var t] ++ ys) none store) ∧
    (p.position < 0 → p.kind ≠ .bool → e.2.descriptor.findNamed? p.name = some p →
      (∀ name, .flag name ∈ args → e.2.descriptor.findNamed? name ≠ some p) →
      e.2.descriptor.bind args (some v) store =
        e.2.descriptor.bind ([.flag p.name, .var t] ++ args) none store) := by
  have haccepted := Registry.accepted_of_mem_reached additions e he
  have hmem := Descriptor.receiver?_mem hp
  constructor
  · intro i xs ys hposition hargs hxs
    rw [hargs]
    exact haccepted.numbered.bind_positional hp (haccepted.getElem?_positional hmem hposition) hxs
      ys ht
  · intro hneg hkind hfind hargs
    exact haccepted.numbered.bind_named hp (haccepted.mem_named hmem hneg)
      (decide_eq_false hkind) hfind hargs ht

/-- A number goes to the second place, here with an argument too many behind it, and a text to the
parameter by name. -/
theorem piping_is_passing_padText :
    let d := Descriptor.ofParameters "Pad" "Text" padText.parameters
    let width : Value := .of (.int .i32) ⟨7, by decide⟩
    let fill : Value := .ofText "*"
    let store : Store := { vars := (Table.empty.insert "w" width).insert "f" fill }
    d.bind [.flag "fill", .quoted "+", .word "a", .word "b"] (some width) store =
      d.bind [.flag "fill", .quoted "+", .word "a", .var "w", .word "b"] none store ∧
    d.bind [.word "a"] (some fill) store =
      d.bind [.flag "Fill", .var "f", .word "a"] none store := by
  intro d width fill store
  have hmem : ("PAD-TEXT", ⟨d, padText⟩) ∈ (Registry.reached [.command padText]).commands.entries :=
    List.mem_of_getElem? (i := 0) rfl
  have hwhole : d.Whole [.flag "fill", .quoted "+", .word "a"] 1 :=
    .named rfl rfl rfl (.positional rfl .nil)
  constructor
  · exact (piping_is_passing _ _ hmem _ store "w" width rfl
      { name := "Width", kind := .int .i32, position := 1, piped := true,
        initial := .of (.int .i32) (Kind.blank _), index := 1 } rfl).1
      1 _ [.word "b"] rfl rfl hwhole
  · refine (piping_is_passing _ _ hmem _ store "f" fill rfl
      { name := "Fill", kind := .string, piped := true, initial := .ofText " ", index := 0 } rfl).2
      (by decide) (by decide) rfl ?_
    intro name hname
    simp at hname

end VerbNoun
