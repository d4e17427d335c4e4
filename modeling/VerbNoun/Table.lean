set_option autoImplicit false

/-!
# Table: a dictionary in the order of its keys (SPEC §12)

A table holds one entry for each of its keys, in ascending order of the keys by code
point.  Two tables with the same look-ups are therefore the same table.
-/

namespace VerbNoun

universe u

/-- Entries in strictly ascending order of their keys. -/
structure Table (α : Type u) where
  entries : List (String × α)
  ascending : entries.Pairwise fun a b => a.1 < b.1

namespace Table

variable {α : Type u}

/-- The table without entries. -/
def empty : Table α := ⟨[], .nil⟩

/-- The entry of a key. -/
def find? (t : Table α) (key : String) : Option α := t.entries.lookup key

/-- Whether a key has an entry. -/
def contains (t : Table α) (key : String) : Bool := (t.find? key).isSome

/-- How many entries there are. -/
def size (t : Table α) : Nat := t.entries.length

/-- The entries without their keys, in the order of the keys. -/
def values (t : Table α) : List α := t.entries.map (·.2)

/-- An entry put at its place, in the stead of one with the same key. -/
def place (key : String) (a : α) : List (String × α) → List (String × α)
  | [] => [(key, a)]
  | (k, b) :: rest =>
    if key < k then (key, a) :: (k, b) :: rest
    else if key = k then (key, a) :: rest
    else (k, b) :: place key a rest

theorem mem_place {key : String} {a : α} {e : String × α} {l : List (String × α)}
    (h : e ∈ place key a l) : e = (key, a) ∨ e ∈ l := by
  induction l with
  | nil => simpa [place] using h
  | cons head rest ih =>
    obtain ⟨k, b⟩ := head
    simp only [place] at h
    split at h
    · simpa using h
    · split at h
      · rcases List.mem_cons.1 h with rfl | h
        · exact .inl rfl
        · exact .inr (List.mem_cons_of_mem _ h)
      · rcases List.mem_cons.1 h with rfl | h
        · exact .inr List.mem_cons_self
        · exact (ih h).imp_right (List.mem_cons_of_mem _)

theorem pairwise_place (key : String) (a : α) {l : List (String × α)}
    (h : l.Pairwise fun a b => a.1 < b.1) :
    (place key a l).Pairwise fun a b => a.1 < b.1 := by
  induction l with
  | nil => simp [place]
  | cons head rest ih =>
    obtain ⟨k, b⟩ := head
    obtain ⟨hk, hrest⟩ := List.pairwise_cons.1 h
    simp only [place]
    split
    · rename_i hlt
      refine List.pairwise_cons.2 ⟨fun e he => ?_, h⟩
      rcases List.mem_cons.1 he with rfl | he
      · exact hlt
      · exact String.lt_trans hlt (hk e he)
    · split
      · rename_i heq
        subst heq
        exact List.pairwise_cons.2 ⟨hk, hrest⟩
      · rename_i hlt hne
        refine List.pairwise_cons.2 ⟨fun e he => ?_, ih hrest⟩
        rcases mem_place he with rfl | he
        · exact Classical.byContradiction fun hn =>
            hne (String.le_antisymm (String.not_lt.1 hn) (String.not_lt.1 hlt))
        · exact hk e he

/-- The table with an entry put in, in the stead of one with the same key. -/
def insert (t : Table α) (key : String) (a : α) : Table α :=
  ⟨place key a t.entries, pairwise_place key a t.ascending⟩

end Table

end VerbNoun
