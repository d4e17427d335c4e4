import VerbNoun.Files
set_option autoImplicit false

/-!
# Files: what stays and what is written (SPEC §19)

A file that is written is found at its place with its content.  Neither making directories nor
writing touches any other file.
-/

namespace VerbNoun.Files

/-! ## Entries of a directory -/

variable {name other : String} {entries : List (String × Tree)} {t new : Tree}

theorem lookup_replace_self (h : entries.lookup name = some t) (new : Tree) :
    (entries.map fun e => if e.1 = name then (name, new) else e).lookup name = some new := by
  induction entries with
  | nil => cases h
  | cons e entries ih =>
      by_cases he : e.1 = name
      · simp [he]
      · rw [List.lookup_cons, beq_false_of_ne (Ne.symm he)] at h
        rw [List.map_cons, if_neg he, List.lookup_cons, beq_false_of_ne (Ne.symm he)]
        exact ih h

theorem lookup_replace_of_ne (hne : other ≠ name) (entries : List (String × Tree)) (new : Tree) :
    (entries.map fun e => if e.1 = name then (name, new) else e).lookup other =
      entries.lookup other := by
  induction entries with
  | nil => rfl
  | cons e entries ih =>
      by_cases he : e.1 = name
      · rw [List.map_cons, if_pos he, List.lookup_cons, List.lookup_cons, he,
          beq_false_of_ne hne, ih]
      · rw [List.map_cons, if_neg he, List.lookup_cons, List.lookup_cons, ih]

theorem lookup_append_of_some (h : entries.lookup name = some t) (more : List (String × Tree)) :
    (entries ++ more).lookup name = some t := by
  rw [List.lookup_append, h, Option.some_or]

namespace Tree

/-! ## Putting something into a tree -/

theorem find?_cons_eq_some_iff {rest : Place} {found : Tree} :
    t.find? (name :: rest) = some found ↔
      ∃ entries sub, t = .directory entries ∧ entries.lookup name = some sub ∧
        sub.find? rest = some found := by
  cases t with
  | file content => simp [find?]
  | directory entries =>
      rw [find?]
      cases hlookup : entries.lookup name <;> simp [hlookup]

theorem put_cons_of_lookup {sub : Tree} (h : entries.lookup name = some sub) (rest : Place)
    (new : Tree) :
    (directory entries).put (name :: rest) new =
      .directory (entries.map fun e => if e.1 = name then (name, sub.put rest new) else e) := by
  rw [put, h]

/-- What is put into a directory is found there. -/
theorem find?_put_name (entries : List (String × Tree)) (name : String) (new : Tree) :
    ((directory entries).put [name] new).find? [name] = some new := by
  cases hlookup : entries.lookup name with
  | none =>
      have hput : (directory entries).put [name] new = .directory (entries ++ [(name, new)]) := by
        rw [put, hlookup]
        rfl
      rw [hput, find?_cons_eq_some_iff]
      refine ⟨_, new, rfl, ?_, rfl⟩
      rw [List.lookup_append, hlookup]
      simp
  | some sub =>
      rw [put_cons_of_lookup hlookup, find?_cons_eq_some_iff]
      exact ⟨_, new, rfl, lookup_replace_self hlookup _, rfl⟩

theorem find?_put_append {here : Place} {sub : Tree} (h : t.find? here = some sub) (rest : Place)
    (new : Tree) :
    (t.put (here ++ rest) new).find? (here ++ rest) = (sub.put rest new).find? rest := by
  induction here generalizing t with
  | nil =>
      have hsub : t = sub := by simpa [find?] using h
      rw [hsub]
      rfl
  | cons name here ih =>
      obtain ⟨entries, middle, rfl, hlookup, hfind⟩ := find?_cons_eq_some_iff.1 h
      rw [List.cons_append, put_cons_of_lookup hlookup, find?, lookup_replace_self hlookup]
      exact ih hfind

/-- A file stays when something is put elsewhere, and not in the stead of a directory. -/
theorem find?_put_of_file {place file : Place} {content : String}
    (hfile : t.find? file = some (.file content)) (hne : place ≠ file)
    (hplace : (t.find? place).any (·.isDirectory) = false) (new : Tree) :
    (t.put place new).find? file = some (.file content) := by
  induction place generalizing t file with
  | nil =>
      -- Nothing but a file is replaced here, and there is nothing below it.
      cases t with
      | directory entries => simp [find?, isDirectory] at hplace
      | file text =>
          cases file with
          | nil => exact absurd rfl hne
          | cons name file => simp [find?] at hfile
  | cons name place ih =>
      cases file with
      | nil =>
          have ht : t = .file content := by simpa [find?] using hfile
          rw [ht]
          rfl
      | cons other file =>
          obtain ⟨entries, sub, rfl, hlookup, hfind⟩ := find?_cons_eq_some_iff.1 hfile
          cases hname : entries.lookup name with
          | none =>
              rw [put, hname, find?_cons_eq_some_iff]
              exact ⟨_, sub, rfl, lookup_append_of_some hlookup _, hfind⟩
          | some target =>
              rw [put_cons_of_lookup hname, find?_cons_eq_some_iff]
              by_cases hother : other = name
              · subst hother
                obtain rfl : sub = target := Option.some.inj (hlookup.symm.trans hname)
                rw [find?, hname] at hplace
                refine ⟨_, sub.put place new, rfl, lookup_replace_self hname _, ?_⟩
                exact ih hfind (fun h => hne (h ▸ rfl)) hplace
              · exact ⟨_, sub, rfl, (lookup_replace_of_ne hother entries _).trans hlookup, hfind⟩

end Tree

namespace Disk

variable {d : Disk}

/-! ## Making directories -/

/-- Every file of a disk is on another one too. -/
def KeptIn (d d' : Disk) : Prop :=
  ∀ place content, d.find? place = some (.file content) → d'.find? place = some (.file content)

/-- Making directories leaves all files. -/
theorem keptIn_makeFrom (d : Disk) (making : Bool) (here : Place) (steps : List String) :
    d.KeptIn (d.makeFrom making here steps).2 := by
  fun_induction makeFrom d making here steps with
  | case1 => exact fun _ _ h => h
  | case2 d making here step rest hidle ih => exact ih
  | case3 d making here rest hidle ih => exact ih
  | case4 => exact fun _ _ h => h
  | case5 d making here step rest hidle hup hlong hnone ih =>
      intro place content hfile
      refine ih place content (Tree.find?_put_of_file hfile ?_ ?_ _)
      · rintro rfl
        exact absurd (hnone.symm.trans hfile) (by simp)
      · have hfind : d.root.find? (here ++ [step]) = none := hnone
        rw [hfind]
        rfl
  | case6 d making here step rest hidle hup hlong entries hdir ih => exact ih
  | case7 => exact fun _ _ h => h

theorem keptIn_makeDirectories (d : Disk) (path : String) :
    d.KeptIn (d.makeDirectories path).2 := by
  unfold makeDirectories
  split
  · exact fun _ _ h => h
  · exact d.keptIn_makeFrom false _ _

/-! ## Writing -/

/-- Steps that end with one that stays lead to a directory. -/
theorem hasDirectory_of_follow {here place : Place} {steps : List String}
    (h : d.follow here (steps ++ [""]) = .ok place) : d.hasDirectory place = true := by
  induction steps generalizing here with
  | nil =>
      rw [List.nil_append, follow] at h
      split at h
      · cases h
      · rename_i hdir
        have hhere : here = place := by simpa [isIdle, follow] using h
        rw [← hhere]
        simpa using hdir
  | cons step steps ih =>
      rw [List.cons_append, follow] at h
      split at h
      · cases h
      · split at h
        · exact ih h
        · split at h
          · exact ih h
          · split at h
            · cases h
            · split at h
              · cases h
              · exact ih h

/-- A file that is written is there with its content, and the others stay. -/
theorem write_ok {d' : Disk} {directory name content : String} {place : Place}
    (h : d.write directory name content = (.ok place, d')) :
    d'.find? place = some (.file content) ∧
      ∀ other text, other ≠ place → d.find? other = some (.file text) →
        d'.find? other = some (.file text) := by
  unfold write at h
  split at h
  · cases h
  · split at h
    · cases h
    · rename_i here hfollow
      dsimp only at h
      split at h
      · cases h
      · rename_i hfree
        cases h
        obtain ⟨sub, hsub, hdir⟩ := (Option.any_eq_true _ _).1 (hasDirectory_of_follow hfollow)
        constructor
        · cases sub with
          | file text => cases hdir
          | directory entries =>
              exact (Tree.find?_put_append hsub [name] _).trans (Tree.find?_put_name entries name _)
        · intro other text hne hfile
          exact Tree.find?_put_of_file hfile (Ne.symm hne) (Bool.eq_false_iff.2 hfree) _

end Disk

end VerbNoun.Files
