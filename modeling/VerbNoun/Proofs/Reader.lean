import VerbNoun.Reader
set_option autoImplicit false

/-!
# Reader: readers beside languages (SPEC §4.1)

A language says which texts stand for which values, and says it without an order of trial
and without taking as much as there is.  A reader is sound for a language if the part that it
took off stands for the value that it gave.  What a reader leaves is the other half: a
repeated reader goes on until its step reads nothing from what is left.
-/

namespace VerbNoun

open Text

/-- Which texts stand for which values. -/
abbrev Lang (α : Type) := List Char → α → Prop

/-- No character but blanks. -/
def Blanks (cs : List Char) : Prop := ∀ c ∈ cs, isBlank c = true

namespace Lang

variable {α β : Type}

/-- A text of the language after any number of blanks. -/
inductive Spaced (L : Lang α) : Lang α
  | mk {blanks cs : List Char} {a : α} (hblanks : Blanks blanks) (h : L cs a) :
      Spaced L (blanks ++ cs) a

/-- A text of the language right after a given character. -/
inductive After (mark : Char) (L : Lang α) : Lang α
  | mk {cs : List Char} {a : α} (h : L cs a) : After mark L (mark :: cs) a

/-- A text of the language after a given character, with blanks or none around that. -/
inductive Marked (mark : Char) (L : Lang α) : Lang α
  | mk {before after cs : List Char} {a : α} (hbefore : Blanks before) (hafter : Blanks after)
      (h : L cs a) : Marked mark L (before ++ mark :: (after ++ cs)) a

/-- Texts of the language one after the other, any number of them. -/
inductive Star (L : Lang α) : Lang (List α)
  | nil : Star L [] []
  | cons {cs rest : List Char} {a : α} {as : List α} (h : L cs a) (hrest : Star L rest as) :
      Star L (cs ++ rest) (a :: as)

/-- A text of the language and then a rest of some sort. -/
def Then (L : Lang α) (rest : List Char → Prop) (cs : List Char) : Prop :=
  ∃ front a back, cs = front ++ back ∧ L front a ∧ rest back

end Lang

open Lang

/-! ## Blanks -/

theorem blanks_nil : Blanks [] := by
  intro c hc
  simp at hc

theorem skipBlanks_append {blanks : List Char} (h : Blanks blanks) (cs : List Char) :
    skipBlanks (blanks ++ cs) = skipBlanks cs :=
  List.dropWhile_append_of_pos h

theorem skipBlanks_of_blanks {blanks : List Char} (h : Blanks blanks) : skipBlanks blanks = [] := by
  have := skipBlanks_append h []
  simpa [skipBlanks] using this

theorem skipBlanks_cons {c : Char} (h : isBlank c = false) (cs : List Char) :
    skipBlanks (c :: cs) = c :: cs :=
  List.dropWhile_cons_of_neg (by simp [h])

/-- Blanks are taken off the front and nothing else. -/
theorem exists_append_skipBlanks (cs : List Char) :
    ∃ blanks, Blanks blanks ∧ cs = blanks ++ skipBlanks cs := by
  refine ⟨cs.takeWhile isBlank, ?_, List.takeWhile_append_dropWhile.symm⟩
  intro c hc
  exact List.all_eq_true.1 List.all_takeWhile c hc

theorem skipBlanks_eq_nil_iff {cs : List Char} : skipBlanks cs = [] ↔ Blanks cs := by
  constructor
  · intro h
    obtain ⟨blanks, hblanks, hcs⟩ := exists_append_skipBlanks cs
    rw [h, List.append_nil] at hcs
    rw [hcs]
    exact hblanks
  · exact skipBlanks_of_blanks

/-! ## Where a run of characters ends -/

/-- The text does not begin with a character of the class. -/
def Stops (p : Char → Bool) (cs : List Char) : Prop := ∀ c rest, cs = c :: rest → p c = false

theorem stops_nil {p : Char → Bool} : Stops p [] := by
  intro c rest h
  simp at h

theorem stops_cons {p : Char → Bool} {c : Char} (h : p c = false) (cs : List Char) :
    Stops p (c :: cs) := by
  intro d rest heq
  obtain ⟨rfl, -⟩ := List.cons.inj heq
  exact h

/-- A text stops every class within a class that it stops. -/
theorem Stops.mono {p q : Char → Bool} {cs : List Char} (h : Stops p cs)
    (hqp : ∀ c, q c = true → p c = true) : Stops q cs := by
  intro c rest heq
  cases hq : q c with
  | false => rfl
  | true => rw [← h c rest heq, hqp c hq]

theorem dropWhile_of_stops {p : Char → Bool} {cs : List Char} (h : Stops p cs) :
    cs.dropWhile p = cs := by
  cases cs with
  | nil => rfl
  | cons c cs => exact List.dropWhile_cons_of_neg (by simp [h c cs rfl])

theorem takeWhile_of_stops {p : Char → Bool} {cs : List Char} (h : Stops p cs) :
    cs.takeWhile p = [] := by
  cases cs with
  | nil => rfl
  | cons c cs => exact List.takeWhile_cons_of_neg (by simp [h c cs rfl])

namespace Reader

variable {α β : Type} {r s : Reader α} {L : Lang α}

/-! ## Soundness -/

/-- What the reader took off stands for the value that it gave. -/
def Sound (L : Lang α) (r : Reader α) : Prop :=
  ∀ cs a rest, r cs = some (a, rest) → ∃ front, cs = front ++ rest ∧ L front a

theorem Sound.mono {M : Lang α} (h : Sound L r) (hLM : ∀ cs a, L cs a → M cs a) :
    Sound M r := by
  intro cs a rest hread
  obtain ⟨front, hfront, ha⟩ := h _ _ _ hread
  exact ⟨front, hfront, hLM _ _ ha⟩

theorem spaced_sound (h : Sound L r) : Sound (Spaced L) r.spaced := by
  intro cs a rest hread
  obtain ⟨front, hfront, ha⟩ := h _ _ _ hread
  obtain ⟨blanks, hblanks, hcs⟩ := exists_append_skipBlanks cs
  refine ⟨blanks ++ front, ?_, .mk hblanks ha⟩
  rw [List.append_assoc, ← hfront]
  exact hcs

theorem after_sound (h : Sound L r) (mark : Char) : Sound (After mark L) (r.after mark) := by
  intro cs a rest hread
  cases cs with
  | nil => simp [after] at hread
  | cons c cs =>
      simp only [after] at hread
      split at hread
      · rename_i hc
        obtain ⟨front, hfront, ha⟩ := h _ _ _ hread
        exact ⟨mark :: front, by rw [hc, hfront]; rfl, .mk ha⟩
      · simp at hread

/-- Reads after one given character, with blanks or none around that. -/
abbrev marked (mark : Char) (r : Reader α) : Reader α := (r.spaced.after mark).spaced

theorem marked_sound (h : Sound L r) (mark : Char) : Sound (Marked mark L) (r.marked mark) := by
  intro cs a rest hread
  obtain ⟨front, hfront, ha⟩ := spaced_sound (after_sound (spaced_sound h) mark) _ _ _ hread
  refine ⟨front, hfront, ?_⟩
  obtain ⟨hbefore, ⟨⟨hafter, ha⟩⟩⟩ := ha
  exact .mk hbefore hafter ha

theorem map_sound {M : Lang β} {g : α → β} (h : Sound L r)
    (hg : ∀ cs a, L cs a → M cs (g a)) : Sound M (r.map g) := by
  intro cs b rest hread
  obtain ⟨⟨a, rest'⟩, hr, heq⟩ := Option.map_eq_some_iff.1 hread
  obtain ⟨rfl, rfl⟩ := Prod.mk.inj heq
  obtain ⟨front, hfront, ha⟩ := h _ _ _ hr
  exact ⟨front, hfront, hg _ _ ha⟩

theorem orElse_sound (hr : Sound L r) (hs : Sound L s) : Sound L (r.orElse s) := by
  intro cs a rest hread
  simp only [orElse] at hread
  split at hread
  · rename_i hfirst
    rw [hread] at hfirst
    exact hr _ _ _ hfirst
  · exact hs _ _ _ hread

/-! ## Choice and marks -/

theorem orElse_of_none {cs : List Char} (h : r cs = none) : r.orElse s cs = s cs := by
  simp [orElse, h]

theorem orElse_of_some {cs : List Char} {result : α × List Char} (h : r cs = some result) :
    r.orElse s cs = some result := by
  simp [orElse, h]

theorem orElse_eq_none {cs : List Char} (hr : r cs = none) (hs : s cs = none) :
    r.orElse s cs = none := by
  rw [orElse_of_none hr, hs]

theorem map_of_none {g : α → β} {cs : List Char} (h : r cs = none) : r.map g cs = none := by
  simp [map, h]

theorem map_of_some {g : α → β} {cs rest : List Char} {a : α} (h : r cs = some (a, rest)) :
    r.map g cs = some (g a, rest) := by
  simp [map, h]

theorem after_mark (mark : Char) (cs : List Char) : r.after mark (mark :: cs) = r cs := by
  simp [after]

theorem after_of_ne {mark c : Char} (h : c ≠ mark) (cs : List Char) :
    r.after mark (c :: cs) = none := by
  simp [after, h]

theorem marked_append {mark : Char} (hmark : isBlank mark = false) {before after : List Char}
    (hbefore : Blanks before) (hafter : Blanks after) (cs : List Char) :
    r.marked mark (before ++ mark :: (after ++ cs)) = r (skipBlanks cs) := by
  rw [marked, spaced, skipBlanks_append hbefore, skipBlanks_cons hmark, after_mark, spaced,
    skipBlanks_append hafter]

theorem marked_of_blanks {mark : Char} {cs : List Char} (h : Blanks cs) :
    r.marked mark cs = none := by
  rw [marked, spaced, skipBlanks_of_blanks h]
  rfl

/-- Another mark in the place of the given one is not read over. -/
theorem marked_of_ne {mark other : Char} (hne : other ≠ mark) (hother : isBlank other = false)
    {before : List Char} (hbefore : Blanks before) (cs : List Char) :
    r.marked mark (before ++ other :: cs) = none := by
  rw [marked, spaced, skipBlanks_append hbefore, skipBlanks_cons hother, after_of_ne hne]

/-! ## Repetition -/

/-- Whatever the reader reads, it takes a character at least. -/
def Consumes (r : Reader α) : Prop :=
  ∀ cs a rest, r cs = some (a, rest) → rest.length < cs.length

/-- A reader that is sound for a language without the empty text takes a character. -/
theorem consumes_of_sound (h : Sound L r) (hL : ∀ cs a, L cs a → cs ≠ []) : Consumes r := by
  intro cs a rest hread
  obtain ⟨front, hfront, ha⟩ := h _ _ _ hread
  have hpos : 0 < front.length := List.length_pos_iff.2 (hL _ _ ha)
  rw [hfront, List.length_append]
  omega

/-- A bound that is large enough for the text makes no difference. -/
theorem upTo_eq_upTo (h : Consumes r) : ∀ (n m : Nat) (cs : List Char),
    cs.length ≤ n → cs.length ≤ m → r.upTo n cs = r.upTo m cs := by
  -- Both bounds go down together, and the text gets shorter with them.
  have hempty : ∀ (k : Nat) (cs : List Char), cs.length ≤ 0 → r.upTo k cs = ([], cs) := by
    intro k cs hcs
    cases k with
    | zero => rfl
    | succ k =>
        have hnone : r cs = none := by
          cases hr : r cs with
          | none => rfl
          | some result =>
              have := h cs result.1 result.2 hr
              omega
        simp [upTo, hnone]
  intro n
  induction n with
  | zero =>
      intro m cs hn _
      rw [hempty 0 cs hn, hempty m cs hn]
  | succ n ih =>
      intro m cs hn hm
      cases m with
      | zero => rw [hempty (n + 1) cs hm, hempty 0 cs hm]
      | succ m =>
          cases hr : r cs with
          | none => simp [upTo, hr]
          | some result =>
              obtain ⟨a, rest⟩ := result
              have hlt := h cs a rest hr
              simp only [upTo, hr, ih m rest (by omega) (by omega)]

theorem many_of_none {cs : List Char} (h : r cs = none) : r.many cs = ([], cs) := by
  unfold many
  cases cs with
  | nil => rfl
  | cons c cs => simp [upTo, h]

theorem many_of_some (h : Consumes r) {cs rest : List Char} {a : α}
    (hread : r cs = some (a, rest)) :
    r.many cs = (a :: (r.many rest).1, (r.many rest).2) := by
  have hlt := h cs a rest hread
  unfold many
  cases cs with
  | nil => simp at hlt
  | cons c cs =>
      have hle : rest.length ≤ cs.length := by simpa [Nat.lt_succ_iff] using hlt
      simp only [List.length_cons, upTo, hread,
        upTo_eq_upTo h cs.length rest.length rest hle (Nat.le_refl _)]

/-- If in front of a rest of some sort either nothing is read and it is an end, or something is
read and what it leaves is a rest of the sort again, then reading goes on to an end. -/
theorem many_leaves (h : Consumes r) {rest done : List Char → Prop}
    (hstep : ∀ cs, rest cs → (r cs = none ∧ done cs) ∨ ∃ a cs', r cs = some (a, cs') ∧ rest cs')
    (cs : List Char) (hcs : rest cs) : done (r.many cs).2 := by
  induction hn : cs.length using Nat.strongRecOn generalizing cs with
  | ind n ih =>
      rcases hstep cs hcs with ⟨hnone, hdone⟩ | ⟨a, cs', hread, hcs'⟩
      · rw [many_of_none hnone]
        exact hdone
      · have hlt := h cs a cs' hread
        rw [many_of_some h hread]
        exact ih cs'.length (by omega) cs' hcs' rfl

theorem upTo_sound (h : Sound L r) : ∀ (n : Nat) (cs : List Char),
    ∃ front, cs = front ++ (r.upTo n cs).2 ∧ Star L front (r.upTo n cs).1 := by
  intro n
  induction n with
  | zero => intro cs; exact ⟨[], rfl, .nil⟩
  | succ n ih =>
      intro cs
      cases hr : r cs with
      | none =>
          simp only [upTo, hr]
          exact ⟨[], rfl, .nil⟩
      | some result =>
          obtain ⟨a, rest⟩ := result
          obtain ⟨front, hfront, ha⟩ := h cs a rest hr
          obtain ⟨back, hback, has⟩ := ih rest
          simp only [upTo, hr]
          refine ⟨front ++ back, ?_, .cons ha has⟩
          rw [List.append_assoc, ← hback]
          exact hfront

theorem many_sound (h : Sound L r) (cs : List Char) :
    ∃ front, cs = front ++ (r.many cs).2 ∧ Star L front (r.many cs).1 :=
  upTo_sound h cs.length cs

/-! ## Longer texts

A reader that goes as far as it can may look beyond what it takes, so what it makes of a text may
change when more is put behind the text.  It changes in one way only: the reader then takes the
old text whole. -/

/-- With more behind the text the reader does what it does on the text alone, or it takes the text
whole.  If it does the latter and had read something of the text alone, then it had left a rest of
the given sort. -/
inductive Continues (left : List Char → Prop) (r : Reader α) (cs more : List Char) : Prop
  | same (h : r (cs ++ more) = (r cs).map fun result => (result.1, result.2 ++ more))
  | passes {a : α} {rest : List Char} (h : r (cs ++ more) = some (a, rest))
      (hrest : rest.length ≤ more.length) (hleft : ∀ a rest, r cs = some (a, rest) → left rest)

/-- The reader does so on every text, whatever is behind it. -/
def Persists (left : List Char → Prop) (r : Reader α) : Prop :=
  ∀ cs more, Continues left r cs more

theorem Consumes.nil (h : Consumes r) : r [] = none := by
  cases hread : r [] with
  | none => rfl
  | some result =>
      have hlt := h [] result.1 result.2 hread
      simp at hlt

theorem Consumes.after (h : Consumes r) (mark : Char) : Consumes (r.after mark) := by
  intro cs a rest hread
  cases cs with
  | nil => simp [Reader.after] at hread
  | cons c cs =>
      simp only [Reader.after] at hread
      split at hread
      · have hlt := h cs a rest hread
        simp only [List.length_cons]
        omega
      · simp at hread

theorem Consumes.spaced (h : Consumes r) : Consumes r.spaced := by
  intro cs a rest hread
  have hlt := h (skipBlanks cs) a rest hread
  exact Nat.lt_of_lt_of_le hlt (List.dropWhile_suffix isBlank).length_le

/-- A reader that takes a character reads nothing of the empty text, and so passes it. -/
theorem Consumes.continues_nil (h : Consumes r) (left : List Char → Prop) (more : List Char) :
    Continues left r [] more := by
  cases hread : r more with
  | none =>
      apply Continues.same
      simp [h.nil, hread]
  | some result =>
      obtain ⟨b, back⟩ := result
      refine .passes hread (Nat.le_of_lt (h _ _ _ hread)) ?_
      intro a rest hnil
      simp [h.nil] at hnil

theorem Persists.mono {left left' : List Char → Prop} (h : Persists left r)
    (hleft : ∀ rest, left rest → left' rest) : Persists left' r := by
  intro cs more
  cases h cs more with
  | same hsame => exact .same hsame
  | passes hread hrest hl => exact .passes hread hrest fun a rest hr => hleft rest (hl a rest hr)

theorem map_persists {left : List Char → Prop} (h : Persists left r) (g : α → β) :
    Persists left (r.map g) := by
  intro cs more
  cases h cs more with
  | same hsame =>
      apply Continues.same
      simp only [map, hsame, Option.map_map]
      rfl
  | passes hread hrest hleft =>
      refine .passes (map_of_some hread) hrest ?_
      intro b rest hmap
      obtain ⟨result, hr, heq⟩ := Option.map_eq_some_iff.1 hmap
      obtain ⟨-, rfl⟩ := Prod.mk.inj heq
      exact hleft _ _ hr

/-- The second of two readers may leave any rest where the first reads nothing either way. -/
theorem orElse_persists {left : List Char → Prop} (hr : Persists left r) (hs : Persists left s)
    (hrs : ∀ cs more a rest, r cs = none → s cs = some (a, rest) →
      r (cs ++ more) = none ∨ left rest) : Persists left (r.orElse s) := by
  intro cs more
  cases hfirst : r cs with
  | some result =>
      have hcs : r.orElse s cs = some result := orElse_of_some hfirst
      cases hr cs more with
      | same hsame =>
          rw [hfirst] at hsame
          apply Continues.same
          rw [orElse_of_some hsame, hcs]
          rfl
      | passes hread hrest hleft =>
          refine .passes (orElse_of_some hread) hrest ?_
          intro a rest h
          rw [hcs, ← hfirst] at h
          exact hleft a rest h
  | none =>
      have hcs : r.orElse s cs = s cs := orElse_of_none hfirst
      cases hlonger : r (cs ++ more) with
      | none =>
          have hmore : r.orElse s (cs ++ more) = s (cs ++ more) := orElse_of_none hlonger
          cases hs cs more with
          | same hsame =>
              apply Continues.same
              rw [hmore, hcs, hsame]
          | passes hread hrest hleft => exact .passes (hmore.trans hread) hrest (by rwa [hcs])
      | some result =>
          cases hr cs more with
          | same hsame => simp [hfirst, hlonger] at hsame
          | passes hread hrest _ =>
              refine .passes (orElse_of_some hread) hrest ?_
              intro a rest h
              rw [hcs] at h
              refine (hrs cs more a rest hfirst h).resolve_left ?_
              rw [hlonger]
              exact Option.some_ne_none result

/-- Where any rest may be left, a choice persists if both of its readers do. -/
theorem orElse_persists_of_true (hr : Persists (fun _ => True) r)
    (hs : Persists (fun _ => True) s) : Persists (fun _ => True) (r.orElse s) :=
  orElse_persists hr hs fun _ _ _ _ _ _ => .inr trivial

theorem after_persists {left : List Char → Prop} (h : Persists left r) (hr : Consumes r)
    (mark : Char) : Persists left (r.after mark) := by
  intro cs more
  cases cs with
  | nil => exact (hr.after mark).continues_nil left more
  | cons c cs =>
      by_cases hc : c = mark
      · subst hc
        cases h cs more with
        | same hsame =>
            apply Continues.same
            rw [List.cons_append, after_mark, after_mark, hsame]
        | passes hread hrest hleft =>
            refine .passes (by rwa [List.cons_append, after_mark]) hrest ?_
            rwa [after_mark]
      · apply Continues.same
        rw [List.cons_append, after_of_ne hc, after_of_ne hc]
        rfl

theorem skipBlanks_append_of_ne_nil {cs : List Char} (h : skipBlanks cs ≠ [])
    (more : List Char) : skipBlanks (cs ++ more) = skipBlanks cs ++ more := by
  unfold skipBlanks at h ⊢
  rw [List.dropWhile_append, if_neg (by simpa using h)]

theorem spaced_persists {left : List Char → Prop} (h : Persists left r) (hr : Consumes r) :
    Persists left r.spaced := by
  intro cs more
  by_cases hcs : skipBlanks cs = []
  · -- The blanks are passed, and what is read is read behind them.
    have hnone : r.spaced cs = none := by rw [spaced, hcs, hr.nil]
    have hmore : r.spaced (cs ++ more) = r.spaced more := by
      rw [spaced, skipBlanks_append (skipBlanks_eq_nil_iff.1 hcs), spaced]
    cases hread : r.spaced more with
    | none =>
        apply Continues.same
        simp [hmore, hread, hnone]
    | some result =>
        refine .passes (hmore.trans hread) (Nat.le_of_lt (hr.spaced _ _ _ hread)) ?_
        intro a rest hread'
        simp [hnone] at hread'
  · have hmore : r.spaced (cs ++ more) = r (skipBlanks cs ++ more) := by
      rw [spaced, skipBlanks_append_of_ne_nil hcs]
    cases h (skipBlanks cs) more with
    | same hsame => exact .same (hmore.trans hsame)
    | passes hread hrest hleft => exact .passes (hmore.trans hread) hrest hleft

theorem marked_persists {left : List Char → Prop} (h : Persists left r) (hr : Consumes r)
    (mark : Char) : Persists left (r.marked mark) :=
  spaced_persists (after_persists (spaced_persists h hr) hr.spaced mark) (hr.spaced.after mark)

theorem length_many_le (h : Consumes r) (cs : List Char) : (r.many cs).2.length ≤ cs.length := by
  induction hn : cs.length using Nat.strongRecOn generalizing cs with
  | ind n ih =>
      cases hread : r cs with
      | none =>
          rw [many_of_none hread]
          exact Nat.le_of_eq hn
      | some result =>
          have hlt : result.2.length < n := hn ▸ h cs result.1 result.2 hread
          rw [many_of_some h hread]
          exact Nat.le_trans (ih result.2.length hlt result.2 rfl) (Nat.le_of_lt hlt)

/-- With more behind the text a repeated reader reads the same things, or it takes the text whole.
It does the latter only if what it had left of the text alone is of the sort `done`. -/
theorem many_persists {left done : List Char → Prop} (h : Persists left r) (hr : Consumes r)
    (hleft : ∀ rest, left rest → done (r.many rest).2)
    (hstop : ∀ cs more result, r cs = none → r (cs ++ more) = some result → done cs)
    (cs more : List Char) :
    r.many (cs ++ more) = ((r.many cs).1, (r.many cs).2 ++ more) ∨
      (r.many (cs ++ more)).2.length ≤ more.length ∧ done (r.many cs).2 := by
  induction hn : cs.length using Nat.strongRecOn generalizing cs with
  | ind n ih =>
      cases hread : r cs with
      | none =>
          rw [many_of_none hread]
          cases h cs more with
          | same hsame =>
              rw [hread] at hsame
              exact .inl (many_of_none hsame)
          | @passes a rest hmore hrest _ =>
              refine .inr ⟨?_, hstop cs more _ hread hmore⟩
              rw [many_of_some hr hmore]
              exact Nat.le_trans (length_many_le hr rest) hrest
      | some result =>
          obtain ⟨b, back⟩ := result
          have hlt := hr cs b back hread
          rw [many_of_some hr hread]
          cases h cs more with
          | same hsame =>
              rw [hread] at hsame
              rw [many_of_some hr hsame]
              rcases ih back.length (by omega) back rfl with hsame' | hpasses
              · exact .inl (by rw [hsame'])
              · exact .inr hpasses
          | @passes a rest hmore hrest hl =>
              refine .inr ⟨?_, hleft back (hl b back hread)⟩
              rw [many_of_some hr hmore]
              exact Nat.le_trans (length_many_le hr rest) hrest

/-- Reads as long as `r` reads something, and once at least. -/
def many1 (r : Reader α) (g : List α → β) : Reader β := fun cs =>
  match r.many cs with
  | ([], _) => none
  | (as, rest) => some (g as, rest)

theorem many1_of_none {g : List α → β} {cs : List Char} (h : r cs = none) :
    r.many1 g cs = none := by
  simp only [many1, many_of_none h]

theorem many1_of_some (hr : Consumes r) {g : List α → β} {cs : List Char}
    {result : α × List Char} (h : r cs = some result) :
    r.many1 g cs = some (g (r.many cs).1, (r.many cs).2) := by
  simp only [many1, many_of_some hr h]

theorem length_many1_le (hr : Consumes r) {g : List α → β} {cs rest : List Char} {b : β}
    (h : r.many1 g cs = some (b, rest)) : rest.length ≤ cs.length := by
  cases hread : r cs with
  | none => simp [many1_of_none hread] at h
  | some result =>
      rw [many1_of_some hr hread] at h
      rw [← (Prod.mk.inj (Option.some.inj h)).2]
      exact length_many_le hr cs

theorem many1_persists {left : List Char → Prop} (h : Persists left r) (hr : Consumes r)
    (g : List α → β) : Persists (fun _ => True) (r.many1 g) := by
  intro cs more
  obtain hsame | ⟨hlength, -⟩ := @many_persists _ _ left (fun _ => True) h hr (fun _ _ => trivial)
    (fun _ _ _ _ _ => trivial) cs more
  · apply Continues.same
    simp only [many1, hsame]
    cases r.many cs with
    | mk as rest => cases as <;> rfl
  · cases hmore : r (cs ++ more) with
    | some result =>
        exact .passes (many1_of_some hr hmore) hlength fun _ _ _ => trivial
    | none =>
        cases h cs more with
        | same hsame =>
            have hcs : r cs = none := Option.map_eq_none_iff.1 (hsame.symm.trans hmore)
            apply Continues.same
            rw [many1_of_none hmore, many1_of_none hcs]
            rfl
        | passes hread _ _ => simp [hmore] at hread

/-- What is read in two parts persists if both parts do, and if the first part leaves nothing for
the second wherever more text could change it. -/
theorem persists_of_bind {left left' : List Char → Prop} {t : Reader β} {k : α → Reader β}
    (hr : Persists left r) (hk : ∀ a, Persists left' (k a))
    (hlength : ∀ a cs b rest, k a cs = some (b, rest) → rest.length ≤ cs.length)
    (hleft : ∀ a rest, left rest → k a rest = none) (hnone : ∀ cs, r cs = none → t cs = none)
    (hsome : ∀ cs a rest, r cs = some (a, rest) → t cs = k a rest) : Persists left' t := by
  intro cs more
  cases hr cs more with
  | same hsame =>
      cases hread : r cs with
      | none =>
          rw [hread] at hsame
          apply Continues.same
          rw [hnone _ hsame, hnone _ hread]
          rfl
      | some result =>
          obtain ⟨a, rest⟩ := result
          rw [hread] at hsame
          have hcs := hsome cs a rest hread
          have hmore := hsome (cs ++ more) a (rest ++ more) hsame
          cases hk a rest more with
          | same hsame' => exact .same (by rw [hmore, hcs, hsame'])
          | passes hread' hrest' hl => exact .passes (hmore.trans hread') hrest' (by rwa [hcs])
  | @passes a rest hread hrest hl =>
      have hcs : t cs = none := by
        cases hread' : r cs with
        | none => exact hnone cs hread'
        | some result =>
            rw [hsome cs result.1 result.2 hread', hleft _ _ (hl _ _ hread')]
      have hmore := hsome (cs ++ more) a rest hread
      cases hread' : k a rest with
      | none =>
          apply Continues.same
          simp [hmore, hread', hcs]
      | some result =>
          have hle := hlength a rest result.1 result.2 hread'
          refine .passes (hmore.trans hread') (by omega) ?_
          intro b rest' h
          simp [hcs] at h

end Reader

end VerbNoun
