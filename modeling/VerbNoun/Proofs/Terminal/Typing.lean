import VerbNoun.Terminal.Typing
set_option autoImplicit false

/-!
# Terminal: what backspaces leave of a line (SPEC §16)

A control character stands alone in its cluster, and a backspace is one.  So every backspace of a
line is seen as such and taken out, whatever is typed around it, and a line is left as it is exactly
if it has none.
-/

namespace VerbNoun.Text

/-! ## Clusters -/

theorem Context.joins_control (ctx : Context) : ctx.joins .control = false := by
  unfold joins
  cases ctx.last <;> rfl

theorem Context.joins_of_control {ctx : Context} (h : ctx.last = .control) (j : Joining) :
    ctx.joins j = false := by
  unfold joins
  rw [h]

theorem clustersFrom_of_joins {ctx : Context} {c : Char} (h : ctx.joins (joining c) = true)
    (cs : List Char) :
    clustersFrom ctx (c :: cs) =
      (c :: (clustersFrom (ctx.push (joining c)) cs).1,
        (clustersFrom (ctx.push (joining c)) cs).2) :=
  if_pos h

theorem clustersFrom_of_apart {ctx : Context} {c : Char} (h : ctx.joins (joining c) = false)
    (cs : List Char) :
    clustersFrom ctx (c :: cs) =
      ([], (c :: (clustersFrom (ctx.push (joining c)) cs).1) ::
        (clustersFrom (ctx.push (joining c)) cs).2) := by
  refine if_neg ?_
  rw [h]
  exact Bool.false_ne_true

theorem flatten_clustersFrom (ctx : Context) (cs : List Char) :
    (clustersFrom ctx cs).1 ++ (clustersFrom ctx cs).2.flatten = cs := by
  induction cs generalizing ctx with
  | nil => rfl
  | cons c cs ih =>
      cases hjoins : ctx.joins (joining c) with
      | true => rw [clustersFrom_of_joins hjoins, List.cons_append, ih]
      | false =>
          rw [clustersFrom_of_apart hjoins, List.nil_append, List.flatten_cons, List.cons_append,
            ih]

/-- The clusters of a text make it up. -/
theorem flatten_clusters (cs : List Char) : (clusters cs).flatten = cs := by
  cases cs with
  | nil => rfl
  | cons c cs =>
      have hrest := flatten_clustersFrom (.first (joining c)) cs
      rw [clusters, List.flatten_cons, List.cons_append, hrest]

theorem clustersFrom_of_control {ctx : Context} (h : ctx.last = .control) (cs : List Char) :
    (clustersFrom ctx cs).1 = [] := by
  cases cs with
  | nil => rfl
  | cons c cs => rw [clustersFrom_of_apart (Context.joins_of_control h _)]

/-- A control character neither goes on with a cluster nor is gone on with. -/
theorem control_clustersFrom {c : Char} (hc : joining c = .control) (ctx : Context)
    (cs : List Char) :
    c ∉ (clustersFrom ctx cs).1 ∧
      ∀ cluster ∈ (clustersFrom ctx cs).2, c ∈ cluster → cluster = [c] := by
  induction cs generalizing ctx with
  | nil => exact ⟨List.not_mem_nil, fun _ hmem => absurd hmem List.not_mem_nil⟩
  | cons d cs ih =>
      obtain ⟨hfirst, hothers⟩ := ih (ctx.push (joining d))
      cases hjoins : ctx.joins (joining d) with
      | true =>
          have hne : c ≠ d := by
            rintro rfl
            rw [hc, Context.joins_control] at hjoins
            cases hjoins
          rw [clustersFrom_of_joins hjoins]
          exact ⟨List.not_mem_cons_of_ne_of_not_mem hne hfirst, hothers⟩
      | false =>
          rw [clustersFrom_of_apart hjoins]
          refine ⟨List.not_mem_nil, List.forall_mem_cons.2 ⟨fun hmem => ?_, hothers⟩⟩
          -- The cluster that starts with the character ends with it, and no other cluster has it.
          rcases List.mem_cons.1 hmem with rfl | hrest
          · have hlast : (ctx.push (joining c)).last = .control := hc
            rw [clustersFrom_of_control hlast]
          · exact absurd hrest hfirst

/-- A control character stands alone. -/
theorem eq_singleton_of_control {c : Char} (hc : joining c = .control) {cs cluster : List Char}
    (hcluster : cluster ∈ clusters cs) (hmem : c ∈ cluster) : cluster = [c] := by
  cases cs with
  | nil => exact absurd hcluster List.not_mem_nil
  | cons d cs =>
      obtain ⟨hfirst, hothers⟩ := control_clustersFrom hc (.first (joining d)) cs
      rcases List.mem_cons.1 hcluster with rfl | hcluster
      · rcases List.mem_cons.1 hmem with rfl | hrest
        · have hlast : (Context.first (joining c)).last = .control := hc
          rw [clustersFrom_of_control hlast]
        · exact absurd hrest hfirst
      · exact hothers cluster hcluster hmem

end VerbNoun.Text

namespace VerbNoun.Terminal

/-! ## Backspaces -/

theorem dropBytes?_suffix {n : Nat} {cs rest : List Char} (h : dropBytes? n cs = some rest) :
    rest <:+ cs := by
  fun_induction dropBytes? n cs with
  | case1 cs =>
      cases h
      exact List.suffix_refl _
  | case2 n => cases h
  | case3 n c cs hfits ih => exact (ih h).trans (List.suffix_cons c cs)
  | case4 n c cs hcut => cases h

namespace Typing

variable {t t' : Typing} {cluster : List Char}

theorem enter?_of_ne (t : Typing) (h : cluster ≠ [backspace]) :
    t.enter? cluster =
      some ⟨cluster.reverse ++ t.characters, (byteCount cluster).toUInt8 :: t.measures⟩ := by
  rw [enter?, if_neg h]

theorem characters_takeBack?_suffix (h : t.takeBack? = some t') :
    t'.characters <:+ t.characters := by
  unfold takeBack? at h
  split at h
  · cases h
    exact List.suffix_refl _
  · obtain ⟨rest, hdrop, rfl⟩ := Option.map_eq_some_iff.1 h
    exact dropBytes?_suffix hdrop

/-- A backspace that stands alone is not entered. -/
theorem not_mem_enter? (halone : backspace ∈ cluster → cluster = [backspace])
    (h : backspace ∉ t.characters) (henter : t.enter? cluster = some t') :
    backspace ∉ t'.characters := by
  by_cases hcluster : cluster = [backspace]
  · rw [enter?, if_pos hcluster] at henter
    exact fun hmem => h ((characters_takeBack?_suffix henter).subset hmem)
  · rw [enter?_of_ne t hcluster] at henter
    cases henter
    intro hmem
    rcases List.mem_append.1 hmem with hmem | hmem
    · exact hcluster (halone (List.mem_reverse.1 hmem))
    · exact h hmem

theorem not_mem_enterAll? {clusters : List (List Char)}
    (halone : ∀ cluster ∈ clusters, backspace ∈ cluster → cluster = [backspace])
    (h : backspace ∉ t.characters) (henter : t.enterAll? clusters = some t') :
    backspace ∉ t'.characters := by
  induction clusters generalizing t with
  | nil =>
      cases henter
      exact h
  | cons cluster clusters ih =>
      obtain ⟨hcluster, hrest⟩ := List.forall_mem_cons.1 halone
      obtain ⟨middle, hfirst, hall⟩ := Option.bind_eq_some_iff.1 henter
      exact ih hrest (not_mem_enter? hcluster h hfirst) hall

/-- Clusters without a backspace are all entered. -/
theorem exists_enterAll? (t : Typing) {clusters : List (List Char)} (h : [backspace] ∉ clusters) :
    ∃ t', t.enterAll? clusters = some t' ∧
      t'.characters = clusters.flatten.reverse ++ t.characters := by
  induction clusters generalizing t with
  | nil => exact ⟨t, rfl, rfl⟩
  | cons cluster clusters ih =>
      have hcluster : cluster ≠ [backspace] := (List.ne_of_not_mem_cons h).symm
      obtain ⟨t', henter, hcharacters⟩ := ih
        ⟨cluster.reverse ++ t.characters, (byteCount cluster).toUInt8 :: t.measures⟩
        (List.not_mem_of_not_mem_cons h)
      refine ⟨t', ?_, ?_⟩
      · rw [enterAll?, enter?_of_ne t hcluster, Option.bind_some, henter]
      · rw [hcharacters, List.flatten_cons, List.reverse_append, List.append_assoc]

end Typing

theorem joining_backspace : Text.joining backspace = .control := rfl

/-- No backspace is left in a line. -/
theorem backspace_not_mem_typed? {line cs : List Char} (h : typed? line = some cs) :
    backspace ∉ cs := by
  obtain ⟨t, henter, rfl⟩ := Option.map_eq_some_iff.1 h
  rw [List.mem_reverse]
  exact Typing.not_mem_enterAll?
    (fun _ hcluster => Text.eq_singleton_of_control joining_backspace hcluster) List.not_mem_nil
    henter

/-- A line is left as it is exactly if it has no backspace. -/
theorem typed?_eq_self_iff {line : List Char} : typed? line = some line ↔ backspace ∉ line := by
  constructor
  · exact backspace_not_mem_typed?
  · intro h
    have hclusters : [backspace] ∉ Text.clusters line := by
      intro hmem
      refine h ?_
      rw [← Text.flatten_clusters line]
      exact List.mem_flatten.2 ⟨_, hmem, List.mem_singleton_self _⟩
    obtain ⟨t, henter, hcharacters⟩ := Typing.exists_enterAll? {} hclusters
    rw [typed?, henter, Option.map_some, hcharacters, List.append_nil, List.reverse_reverse,
      Text.flatten_clusters]

end VerbNoun.Terminal
