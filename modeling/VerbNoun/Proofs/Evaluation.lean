import VerbNoun.Evaluation
import VerbNoun.Proofs.Store
set_option autoImplicit false

/-!
# Evaluation: stores that are alike (SPEC §4.5)

What running something gives depends only on what can be read from the store: from two stores
that are alike come the same result, the same texts and stores that are alike again.  Calls and
chains read the store and never set anything in it, so that they leave it like itself; a statement
that fails does so too.
-/

namespace VerbNoun

open Store

/-! ## Reading the store -/

/-- The result depends only on what can be read from the store, and the store is left like
itself. -/
def Store.Reads {α : Type} (f : Store → Except Fault α × Store) : Prop :=
  ∀ s t, Alike s t → (f s).1 = (f t).1 ∧ Alike (f s).2 s

theorem Store.reads_pure {α : Type} (result : Except Fault α) : Reads fun s => (result, s) :=
  fun s _ _ => ⟨rfl, Alike.refl s⟩

/-- What goes on after something that only reads, and only reads itself, only reads. -/
theorem Store.reads_of_bind {α β : Type} {f : Store → Except Fault α × Store}
    {g : α → Store → Except Fault β × Store} {k : Store → Except Fault β × Store} (hf : Reads f)
    (hg : ∀ a, Reads (g a))
    (herror : ∀ s s' fault, f s = (.error fault, s') → k s = (.error fault, s'))
    (hok : ∀ s s' a, f s = (.ok a, s') → k s = g a s') : Reads k := by
  intro s t h
  obtain ⟨hresult, hs⟩ := hf s t h
  have ht := (hf t t (Alike.refl t)).2
  cases hfs : f s with
  | mk result s' =>
      cases hft : f t with
      | mk result' t' =>
          rw [hfs] at hresult hs
          rw [hft] at hresult ht
          cases hresult
          cases result with
          | error fault =>
              rw [herror s s' fault hfs, herror t t' fault hft]
              exact ⟨rfl, hs⟩
          | ok a =>
              obtain ⟨hsame, hstore⟩ := hg a s' t' ((hs.trans h).trans ht.symm)
              rw [hok s s' a hfs, hok t t' a hft]
              exact ⟨hsame, hstore.trans hs⟩

/-! ## Binding -/

theorem Statement.resolve_reads (a : Statement) (p : Slot) : Reads (a.resolve p) := by
  intro s t h
  cases a with
  | var name =>
      have hread : ∀ store : Store, (Statement.var name).resolve p store =
          (.ok (store.read name).1, (store.read name).2) := fun _ => rfl
      rw [hread, hread, read_value, read_value, h.value_eq]
      exact ⟨rfl, read_alike s name⟩
  | _ => exact ⟨rfl, Alike.refl s⟩

theorem Statement.argumentFor_reads (a : Statement) (p : Slot) : Reads (a.argumentFor p) := by
  refine reads_of_bind (a.resolve_reads p) (fun v => reads_pure (p.fit v)) ?_ ?_
  · intro s s' fault h
    rw [argumentFor, h]
  · intro s s' v h
    rw [argumentFor, h]

namespace Binding

theorem putArgument_reads (b : Binding) (p : Slot) (a : Statement) :
    Reads (b.putArgument p a) := by
  refine reads_of_bind (a.argumentFor_reads p) (fun v => reads_pure (.ok (b.put p v))) ?_ ?_
  · intro s s' fault h
    rw [putArgument, h]
  · intro s s' v h
    rw [putArgument, h]

theorem step_reads (d : Descriptor) (b : Binding) (item : Item) : Reads (b.step d item) := by
  intro s t h
  cases item with
  | unknown name => exact ⟨rfl, Alike.refl s⟩
  | switch p =>
      simp only [step]
      cases b.isFromPipe p <;> exact ⟨rfl, Alike.refl s⟩
  | dangling p =>
      simp only [step]
      cases b.isFromPipe p <;> exact ⟨rfl, Alike.refl s⟩
  | named p a =>
      simp only [step]
      cases b.isFromPipe p with
      | true => exact ⟨rfl, Alike.refl s⟩
      | false => exact b.putArgument_reads p a s t h
  | positional a =>
      simp only [step]
      cases b.vacant with
      | nil => exact ⟨rfl, Alike.refl s⟩
      | cons p vacant => exact putArgument_reads _ p a s t h

theorem steps_reads (d : Descriptor) (items : List Item) (b : Binding) :
    Reads (b.steps d items) := by
  induction items generalizing b with
  | nil => exact reads_pure (.ok b)
  | cons item items ih =>
      refine reads_of_bind (step_reads d b item) ih ?_ ?_
      · intro s s' fault h
        rw [steps, h]
      · intro s s' b' h
        rw [steps, h]

end Binding

theorem Descriptor.bind_reads (d : Descriptor) (args : List Statement) (piped? : Option Value) :
    Reads (d.bind args piped?) := by
  cases hpipe : Binding.ofPipe d piped? with
  | error fault =>
      have hbind : d.bind args piped? = fun store => (.error fault, store) := by
        funext store
        simp only [bind, hpipe]
      rw [hbind]
      exact reads_pure (.error fault)
  | ok b =>
      refine reads_of_bind (Binding.steps_reads d (d.items args) b)
        (fun b' => reads_pure (b'.finish d)) ?_ ?_
      · intro s s' fault h
        simp only [bind, hpipe, h]
      · intro s s' b' h
        simp only [bind, hpipe, h]

namespace Evaluation

/-- The same result, the same texts, and stores that are alike. -/
structure Alike (e f : Evaluation) : Prop where
  result_eq : e.result = f.result
  writes_eq : e.writes = f.writes
  store : e.store.Alike f.store

variable (registry : Registry) (host : Host)

/-! ## Calls and chains -/

theorem ofCall_store (call : Call) (piped? : Option Value) (store : Store) :
    (ofCall registry host call piped? store).store.Alike store := by
  unfold ofCall
  split
  · exact Alike.refl store
  · rename_i command _
    have hbind := (command.descriptor.bind_reads call.args piped? store store (Alike.refl store)).2
    split
    · rename_i heq
      rwa [heq] at hbind
    · rename_i heq
      rwa [heq] at hbind

theorem ofCall_alike {s t : Store} (h : s.Alike t) (call : Call) (piped? : Option Value) :
    Alike (ofCall registry host call piped? s) (ofCall registry host call piped? t) := by
  have hs := ofCall_store registry host call piped? s
  have ht := ofCall_store registry host call piped? t
  have hstore := (hs.trans h).trans ht.symm
  suffices hsame : (ofCall registry host call piped? s).result =
        (ofCall registry host call piped? t).result ∧
      (ofCall registry host call piped? s).writes =
        (ofCall registry host call piped? t).writes from ⟨hsame.1, hsame.2, hstore⟩
  unfold ofCall
  split
  · exact ⟨rfl, rfl⟩
  · rename_i command _
    have hbind := (command.descriptor.bind_reads call.args piped? s t h).1
    generalize command.descriptor.bind call.args piped? s = r at hbind
    generalize command.descriptor.bind call.args piped? t = r' at hbind
    obtain ⟨result, s'⟩ := r
    obtain ⟨result', t'⟩ := r'
    cases hbind
    cases result with
    | error fault => exact ⟨rfl, rfl⟩
    | ok slots => exact ⟨rfl, rfl⟩

theorem ofChain_store (calls : List Call) (piped? : Option Value) (store : Store) :
    (ofChain registry host calls piped? store).store.Alike store := by
  induction calls generalizing piped? store with
  | nil => exact Alike.refl store
  | cons call calls ih =>
      have hfirst := ofCall_store registry host call piped? store
      simp only [ofChain]
      split
      · exact hfirst
      · rename_i v _
        exact (ih (some v) _).trans hfirst

theorem ofChain_alike {s t : Store} (h : s.Alike t) (calls : List Call) (piped? : Option Value) :
    Alike (ofChain registry host calls piped? s) (ofChain registry host calls piped? t) := by
  induction calls generalizing piped? s t with
  | nil => exact ⟨rfl, rfl, h⟩
  | cons call calls ih =>
      have hfirst := ofCall_alike registry host h call piped?
      simp only [ofChain, hfirst.result_eq]
      split
      · exact hfirst
      · rename_i v _
        have hlast := ih hfirst.store (some v)
        exact ⟨hlast.result_eq, by rw [hfirst.writes_eq, hlast.writes_eq], hlast.store⟩

/-! ## Statements -/

/-- From stores that are alike a statement gives the same, and leaves them alike. -/
theorem ofStatement_alike {s t : Store} (h : s.Alike t) : ∀ statement : Statement,
    Alike (ofStatement registry host statement s) (ofStatement registry host statement t)
  | .word _ | .quoted _ | .number _ | .flag _ | .reflect _ _ => ⟨rfl, rfl, h⟩
  | .var name => by
      have hs := read_alike s name
      have ht := read_alike t name
      refine ⟨?_, rfl, (hs.trans h).trans ht.symm⟩
      have hread : ∀ store : Store, (ofStatement registry host (.var name) store).result =
          .ok (store.read name).1 := fun _ => rfl
      rw [hread, hread, read_value, read_value, h.value_eq]
  | .command call => ofCall_alike registry host h call none
  | .pipe calls => ofChain_alike registry host h calls none
  | .assign name value => by
      have hright := ofStatement_alike h value
      simp only [ofStatement, h.isReserved_eq, hright.result_eq]
      split
      · exact ⟨rfl, rfl, h⟩
      · split
        · exact hright
        · rename_i v _
          obtain ⟨hassigned, hstore⟩ := assign_alike hright.store name v
          exact ⟨by rw [hassigned], hright.writes_eq, hstore⟩

theorem ofStatement_reserved? (store : Store) : ∀ statement : Statement,
    (ofStatement registry host statement store).store.reserved? = store.reserved?
  | .word _ | .quoted _ | .number _ | .flag _ | .reflect _ _ => rfl
  | .var name => (read_alike store name).reserved?_eq
  | .command call => (ofCall_store registry host call none store).reserved?_eq
  | .pipe calls => (ofChain_store registry host calls none store).reserved?_eq
  | .assign name value => by
      have hright := ofStatement_reserved? store value
      simp only [ofStatement]
      split
      · rfl
      · split
        · exact hright
        · exact (assign_reserved? _ name _).trans hright

/-- A statement that fails has set nothing. -/
theorem ofStatement_store_of_error (store : Store) {fault : Fault} : ∀ statement : Statement,
    (ofStatement registry host statement store).result = .error fault →
      (ofStatement registry host statement store).store.Alike store
  | .word _, _ | .quoted _, _ | .number _, _ | .flag _, _ | .reflect _ _, _ => Alike.refl store
  | .var name, _ => read_alike store name
  | .command call, _ => ofCall_store registry host call none store
  | .pipe calls, _ => ofChain_store registry host calls none store
  | .assign name value, h => by
      have hreserved := ofStatement_reserved? registry host store value
      simp only [ofStatement] at h ⊢
      split
      · exact Alike.refl store
      · rename_i hname
        simp only [hname] at h
        split
        · rename_i hright
          exact ofStatement_store_of_error store value hright
        · -- The name was free before the right side ran, so it is free after it.
          rename_i v hright
          have hfree : ¬ (ofStatement registry host value store).store.isReserved name = true := by
            unfold isReserved at hname ⊢
            rwa [hreserved]
          simp only [hright, assign, hfree] at h
          cases h

end Evaluation

end VerbNoun
