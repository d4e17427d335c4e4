import VerbNoun.Store
import VerbNoun.Proofs.Table
set_option autoImplicit false

/-!
# Store: what can be told of a store by reading it (SPEC §3)

Reading a variable that was never set makes it, with the null value in it.  Two stores are alike
if no reading tells them apart, so that a variable that is missing counts as one that is null.
Reading leaves a store like itself, and what is done to two stores that are alike leaves them
alike.
-/

namespace VerbNoun

namespace Store

/-- What a variable holds; a missing one holds null. -/
def held (s : Store) (name : String) : Value := (s.vars.find? name).getD .null

/-- What reading a name gives. -/
def value (s : Store) (name : String) : Value := (s.get? name).getD .null

/-- The same reserved name, the same latest result, and the same values of all variables. -/
structure Alike (s t : Store) : Prop where
  reserved?_eq : s.reserved? = t.reserved?
  latest_eq : s.latest = t.latest
  held_eq : ∀ name, s.held name = t.held name

namespace Alike

theorem refl (s : Store) : Alike s s := ⟨rfl, rfl, fun _ => rfl⟩

theorem symm {s t : Store} (h : Alike s t) : Alike t s :=
  ⟨h.reserved?_eq.symm, h.latest_eq.symm, fun name => (h.held_eq name).symm⟩

theorem trans {s t u : Store} (h : Alike s t) (h' : Alike t u) : Alike s u :=
  ⟨h.reserved?_eq.trans h'.reserved?_eq, h.latest_eq.trans h'.latest_eq,
    fun name => (h.held_eq name).trans (h'.held_eq name)⟩

theorem isReserved_eq {s t : Store} (h : Alike s t) (name : String) :
    s.isReserved name = t.isReserved name := by
  unfold isReserved
  rw [h.reserved?_eq]

theorem value_eq {s t : Store} (h : Alike s t) (name : String) : s.value name = t.value name := by
  unfold value get?
  rw [h.isReserved_eq, h.latest_eq]
  split
  · rfl
  · exact h.held_eq name

end Alike

/-! ## Reading and writing -/

theorem held_insert (s : Store) (name other : String) (v : Value) :
    held { s with vars := s.vars.insert name v } other =
      if other = name then v else s.held other := by
  unfold held
  rw [Table.find?_insert]
  split <;> rfl

theorem read_value (s : Store) (name : String) : (s.read name).1 = s.value name := by
  unfold read value
  split
  · rename_i v hget
    rw [hget, Option.getD_some]
  · rename_i hget
    rw [hget, Option.getD_none]

/-- A variable that reading makes is null, which is what its absence stood for. -/
theorem read_alike (s : Store) (name : String) : Alike (s.read name).2 s := by
  unfold read
  split
  · exact Alike.refl s
  · rename_i hget
    refine ⟨rfl, rfl, fun other => ?_⟩
    rw [held_insert]
    split
    · rename_i hother
      unfold get? at hget
      split at hget
      · exact absurd hget (by simp)
      · rw [hother, held, hget, Option.getD_none]
    · rfl

/-- Assigning to stores that are alike goes well in both or in neither, and leaves them alike. -/
theorem assign_alike {s t : Store} (h : Alike s t) (name : String) (v : Value) :
    (s.assign name v).1 = (t.assign name v).1 ∧
      Alike (s.assign name v).2 (t.assign name v).2 := by
  unfold assign
  rw [← h.isReserved_eq]
  split
  · exact ⟨rfl, h⟩
  · refine ⟨rfl, h.reserved?_eq, h.latest_eq, fun other => ?_⟩
    rw [held_insert, held_insert, h.held_eq]

theorem assign_reserved? (s : Store) (name : String) (v : Value) :
    (s.assign name v).2.reserved? = s.reserved? := by
  unfold assign
  split <;> rfl

theorem record_alike {s t : Store} (h : Alike s t) (v : Value) : Alike (s.record v) (t.record v) :=
  ⟨h.reserved?_eq, rfl, h.held_eq⟩

end Store

end VerbNoun
