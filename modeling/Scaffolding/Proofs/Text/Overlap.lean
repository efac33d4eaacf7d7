import Mathlib.Data.List.Infix

/-!
# Words that overlap

Two words overlap when they can be laid over each other so that they share
a position and agree wherever they share one.  Words that do not overlap
are apart in every text that has both.

* `overlap_iff` lists the ways to overlap: one word is a part of the other,
  or one ends as the other begins.
* `overlap_of_shared` and `Overlap.exists_around` go from texts to overlaps
  and back.
* `infix_of_infix_append` and `infix_or_infix_of_around` are what it means
  to be apart.
-/

namespace Scaffolding.Text

variable {u v before after rest : List Char}

/-! ## Laying words over each other -/

/-- That two words, the one put at some column and the other at some column, share a column and have
the same character at each that they share. -/
def Overlap (u v : List Char) : Prop :=
  ∃ left right : Nat,
    (∃ i < u.length, ∃ j < v.length, left + i = right + j) ∧
      ∀ i < u.length, ∀ j < v.length, left + i = right + j → u[i]? = v[j]?

theorem Overlap.symm (hoverlap : Overlap u v) : Overlap v u := by
  obtain ⟨left, right, ⟨i, hi, j, hj, hshared⟩, hagree⟩ := hoverlap
  refine ⟨right, left, ⟨j, hj, i, hi, hshared.symm⟩, ?_⟩
  intro j hj i hi hshared
  exact (hagree i hi j hj hshared.symm).symm

/-- Two words overlap if they share a position in some text. -/
theorem overlap_of_shared {before' after' : List Char}
    (htext : before ++ u ++ after = before' ++ v ++ after') (hu : u ≠ []) (hv : v ≠ [])
    (hleft : before.length < before'.length + v.length)
    (hright : before'.length < before.length + u.length) : Overlap u v := by
  have hlength := List.length_pos_iff.mpr hu
  have hlength' := List.length_pos_iff.mpr hv
  refine ⟨before.length, before'.length, ?_, ?_⟩
  · rcases Nat.le_total before.length before'.length with hle | hle
    · exact ⟨before'.length - before.length, by omega, 0, hlength', by omega⟩
    · exact ⟨0, hlength, before.length - before'.length, by omega, by omega⟩
  · intro i hi j hj hshared
    have hleft : (before ++ u ++ after)[before.length + i]? = u[i]? := by
      rw [List.append_assoc, List.getElem?_append_right (by omega),
        List.getElem?_append_left (by omega), Nat.add_sub_cancel_left]
    have hright : (before' ++ v ++ after')[before'.length + j]? = v[j]? := by
      rw [List.append_assoc, List.getElem?_append_right (by omega),
        List.getElem?_append_left (by omega), Nat.add_sub_cancel_left]
    rw [← hleft, ← hright, htext, hshared]

/-- Of two lists that agree as far as both go, one begins with the other. -/
theorem prefix_or_prefix_of_agree
    (hagree : ∀ i < u.length, i < v.length → u[i]? = v[i]?) : u <+: v ∨ v <+: u := by
  induction u generalizing v with
  | nil => exact .inl List.nil_prefix
  | cons c rest ih =>
    cases v with
    | nil => exact .inr List.nil_prefix
    | cons d rest' =>
      have hhead := hagree 0 (Nat.succ_pos _) (Nat.succ_pos _)
      have hrest : rest <+: rest' ∨ rest' <+: rest := by
        apply ih
        intro i hi hi'
        exact hagree (i + 1) (Nat.succ_lt_succ hi) (Nat.succ_lt_succ hi')
      cases Option.some.inj hhead
      exact hrest.imp (List.cons_prefix_cons.mpr ⟨rfl, ·⟩) (List.cons_prefix_cons.mpr ⟨rfl, ·⟩)

/-- The second word, laid over the first at a column that is not before it, is a part of it or
begins as it ends. -/
theorem infix_or_suffix_of_le {left right : Nat} (hle : left ≤ right)
    (hshared : ∃ i < u.length, ∃ j < v.length, left + i = right + j)
    (hagree : ∀ i < u.length, ∀ j < v.length, left + i = right + j → u[i]? = v[j]?) :
    v <:+: u ∨ ∃ s ∈ u.tails, s ≠ [] ∧ s <+: v := by
  obtain ⟨i, hi, j, hj, hshared⟩ := hshared
  have htail : u.drop (right - left) <:+ u := List.drop_suffix _ u
  have hcompare : u.drop (right - left) <+: v ∨ v <+: u.drop (right - left) := by
    apply prefix_or_prefix_of_agree
    intro k hk hk'
    rw [List.length_drop] at hk
    rw [List.getElem?_drop]
    exact hagree _ (by omega) k hk' (by omega)
  rcases hcompare with hstarts | hstarts
  · refine .inr ⟨_, (List.mem_tails _ _).mpr htail, ?_, hstarts⟩
    exact List.length_pos_iff.mp (by rw [List.length_drop]; omega)
  · exact .inl (hstarts.isInfix.trans htail.isInfix)

/-- A word overlaps what it is a part of. -/
theorem overlap_of_isInfix (hu : u ≠ []) (hwithin : u <:+: v) : Overlap u v := by
  obtain ⟨before, after, rfl⟩ := hwithin
  have hlength := List.length_pos_iff.mpr hu
  have htext : before ++ u ++ after = [] ++ (before ++ u ++ after) ++ [] := by simp
  refine overlap_of_shared htext hu ?_ ?_ ?_
  · simp [hu]
  · rw [List.length_nil, List.length_append, List.length_append]
    omega
  · rw [List.length_nil]
    omega

/-- A word overlaps what begins as it ends. -/
theorem overlap_of_suffix {s : List Char} (hs : s ≠ []) (hends : s <:+ u) (hbegins : s <+: v) :
    Overlap u v := by
  obtain ⟨before, rfl⟩ := hends
  obtain ⟨after, rfl⟩ := hbegins
  have hlength := List.length_pos_iff.mpr hs
  have htext : [] ++ (before ++ s) ++ after = before ++ (s ++ after) ++ [] := by simp
  refine overlap_of_shared htext (by simp [hs]) (by simp [hs]) ?_ ?_
  · rw [List.length_nil, List.length_append]
    omega
  · rw [List.length_nil, List.length_append]
    omega

/-- Of two words that overlap, the one that stops first has its last character in the other. -/
theorem Overlap.last_mem {c d : Char} (hoverlap : Overlap (u ++ [c]) (v ++ [d])) :
    c ∈ v ++ [d] ∨ d ∈ u ++ [c] := by
  obtain ⟨left, right, ⟨i, hi, j, hj, hshared⟩, hagree⟩ := hoverlap
  simp only [List.length_append, List.length_singleton] at hi hj hagree
  rcases Nat.le_total (left + u.length) (right + v.length) with hle | hle
  · have hlast := hagree u.length (by omega) (left + u.length - right) (by omega) (by omega)
    rw [List.getElem?_concat_length] at hlast
    exact .inl (List.mem_of_getElem? hlast.symm)
  · have hlast := hagree (right + v.length - left) (by omega) v.length (by omega) (by omega)
    rw [List.getElem?_concat_length] at hlast
    exact .inr (List.mem_of_getElem? hlast)

/-- Words overlap when one contains the other, or begins with a part with which the other ends. -/
theorem overlap_iff :
    Overlap u v ↔ u ≠ [] ∧ v ≠ [] ∧
      (u <:+: v ∨ v <:+: u ∨ (∃ s ∈ u.tails, s ≠ [] ∧ s <+: v) ∨
        ∃ s ∈ v.tails, s ≠ [] ∧ s <+: u) := by
  constructor
  · intro hoverlap
    obtain ⟨left, right, ⟨i, hi, j, hj, hcolumn⟩, hagree⟩ := hoverlap
    refine ⟨List.length_pos_iff.mp (by omega), List.length_pos_iff.mp (by omega), ?_⟩
    rcases Nat.le_total left right with hle | hle
    · rcases infix_or_suffix_of_le hle ⟨i, hi, j, hj, hcolumn⟩ hagree with hinside | hends
      · exact .inr (.inl hinside)
      · exact .inr (.inr (.inl hends))
    · have hagree' : ∀ j < v.length, ∀ i < u.length, right + j = left + i → v[j]? = u[i]? :=
        fun j hj i hi hcolumn => (hagree i hi j hj hcolumn.symm).symm
      rcases infix_or_suffix_of_le hle ⟨j, hj, i, hi, hcolumn.symm⟩ hagree' with hinside | hends
      · exact .inl hinside
      · exact .inr (.inr (.inr hends))
  · intro hways
    obtain ⟨hu, hv, hinside | hinside | ⟨s, htail, hs, hbegins⟩ | ⟨s, htail, hs, hbegins⟩⟩ := hways
    · exact overlap_of_isInfix hu hinside
    · exact (overlap_of_isInfix hv hinside).symm
    · exact overlap_of_suffix hs ((List.mem_tails _ _).mp htail) hbegins
    · exact (overlap_of_suffix hs ((List.mem_tails _ _).mp htail) hbegins).symm

instance (u v : List Char) : Decidable (Overlap u v) :=
  decidable_of_iff _ overlap_iff.symm

/-! ## Words that are apart -/

section Apart

variable (hapart : ¬ Overlap u v)

include hapart

/-- No end of a word begins as a word that is apart from it does. -/
theorem not_prefix_append_of_suffix {s : List Char} (hu : u ≠ []) (hsuffix : s <:+ v)
    (hs : s ≠ []) : ¬ s <+: u ++ rest := by
  intro hstarts
  rcases List.prefix_or_prefix_of_prefix hstarts (List.prefix_append u rest) with hbegins | hbegins
  · exact hapart (overlap_of_suffix hs hsuffix hbegins).symm
  · exact hapart (overlap_of_isInfix hu (hbegins.isInfix.trans hsuffix.isInfix))

variable (hv : v ≠ [])

include hv

/-- A word that is apart from another begins nowhere in it. -/
theorem not_prefix_of_suffix (hsuffix : before <:+ u) (hbefore : before ≠ []) :
    ¬ v <+: before ++ rest := by
  intro hstarts
  obtain ⟨front, rfl⟩ := hsuffix
  obtain ⟨after, hafter⟩ := hstarts
  have hlength := List.length_pos_iff.mpr hbefore
  have hlength' := List.length_pos_iff.mpr hv
  have htext : [] ++ (front ++ before) ++ rest = front ++ v ++ after := by
    rw [List.nil_append, List.append_assoc, List.append_assoc, hafter]
  apply hapart
  refine overlap_of_shared htext (by simp [hbefore]) hv ?_ ?_
  · rw [List.length_nil]
    omega
  · rw [List.length_nil, List.length_append]
    omega

theorem not_infix_of_isInfix (hwithin : before <:+: u) : ¬ v <:+: before := by
  intro hwithin'
  exact hapart (overlap_of_isInfix hv (hwithin'.trans hwithin)).symm

/-- Behind a word, a word that is apart from it is found in what follows. -/
theorem infix_of_infix_append (hwithin : v <:+: u ++ rest) : v <:+: rest := by
  have hsuffix : ∀ s, s <:+ u → v <:+: s ++ rest → v <:+: rest := by
    intro s hs hwithin
    induction s with
    | nil => exact hwithin
    | cons c s ih =>
      rcases List.infix_cons_iff.mp hwithin with hstarts | hwithin
      · exact absurd hstarts (not_prefix_of_suffix hapart hv hs (List.cons_ne_nil c s))
      · exact ih ((List.suffix_cons c s).trans hs) hwithin
  exact hsuffix u List.suffix_rfl hwithin

/-- Around a word, a word that is apart from it is found in front of it or behind it. -/
theorem infix_or_infix_of_around (hu : u ≠ []) (hwithin : v <:+: before ++ (u ++ after)) :
    v <:+: before ∨ v <:+: after := by
  obtain ⟨before', after', htext⟩ := hwithin
  have hword : before' ++ v <+: before ++ (u ++ after) := ⟨after', htext⟩
  have hbefore : before <+: before ++ (u ++ after) := List.prefix_append _ _
  have hbefore' : before ++ u <+: before ++ (u ++ after) := by
    rw [← List.append_assoc]
    exact List.prefix_append _ _
  have hfront : before' <+: before ++ (u ++ after) := (List.prefix_append _ _).trans hword
  have hshared : before.length < before'.length + v.length →
      ¬ before'.length < before.length + u.length := by
    intro hleft hright
    exact hapart (overlap_of_shared (by rw [htext, List.append_assoc]) hu hv hleft hright)
  rcases Nat.lt_or_ge before.length (before'.length + v.length) with hleft | hleft
  · have hlength : (before ++ u).length ≤ before'.length := by
      rw [List.length_append]
      exact Nat.le_of_not_lt (hshared hleft)
    obtain ⟨between, rfl⟩ := List.prefix_of_prefix_length_le hbefore' hfront hlength
    have hrest : between ++ (v ++ after') = after := by
      simpa [List.append_assoc] using htext
    exact .inr ⟨between, after', by rw [List.append_assoc, hrest]⟩
  · have hlength : (before' ++ v).length ≤ before.length := by
      rw [List.length_append]
      exact hleft
    obtain ⟨between, rfl⟩ := List.prefix_of_prefix_length_le hword hbefore hlength
    exact .inl ⟨before', between, rfl⟩

end Apart

/-! ## Words that are not -/

/-- Around a word that overlaps another, something can be put so that the other is found.  It takes
no more than proper parts of the other. -/
theorem Overlap.exists_around (hoverlap : Overlap u v) :
    ∃ before after, (before <:+: v ∧ ¬ v <:+: before) ∧ (after <:+: v ∧ ¬ v <:+: after) ∧
      v <:+: before ++ (u ++ after) := by
  have hproper : ∀ {part : List Char}, part <:+: v → part.length < v.length →
      part <:+: v ∧ ¬ v <:+: part := by
    intro part hpart hlength
    exact ⟨hpart, fun hwithin => absurd hwithin.length_le (Nat.not_le_of_lt hlength)⟩
  obtain ⟨hu, hv, hways⟩ := overlap_iff.mp hoverlap
  have hlength := List.length_pos_iff.mpr hu
  have hlength' := List.length_pos_iff.mpr hv
  have hnil : [] <:+: v ∧ ¬ v <:+: [] := hproper List.nil_infix hlength'
  rcases hways with ⟨before, after, hsplit⟩ | hinside | ⟨s, htail, hs, ⟨after, hafter⟩⟩ |
    ⟨s, htail, hs, ⟨after, hafter⟩⟩
  · refine ⟨before, after, hproper ?_ ?_, hproper ?_ ?_, ?_⟩
    · exact ⟨[], u ++ after, by rw [List.nil_append, ← List.append_assoc, hsplit]⟩
    · rw [← hsplit, List.length_append, List.length_append]
      omega
    · exact ⟨before ++ u, [], by rw [List.append_nil, hsplit]⟩
    · rw [← hsplit, List.length_append, List.length_append]
      omega
    · rw [← List.append_assoc, hsplit]
  · exact ⟨[], [], hnil, hnil, by rwa [List.nil_append, List.append_nil]⟩
  · have hlast := List.length_pos_iff.mpr hs
    obtain ⟨front, hfront⟩ := (List.mem_tails _ _).mp htail
    refine ⟨[], after, hnil, hproper ?_ ?_, ?_⟩
    · exact ⟨s, [], by rw [List.append_nil, hafter]⟩
    · rw [← hafter, List.length_append]
      omega
    · exact ⟨front, [], by rw [← hfront, ← hafter]; simp⟩
  · have hlast := List.length_pos_iff.mpr hs
    obtain ⟨front, hfront⟩ := (List.mem_tails _ _).mp htail
    refine ⟨front, [], hproper ?_ ?_, hnil, ?_⟩
    · exact ⟨[], s, by rw [List.nil_append, hfront]⟩
    · rw [← hfront, List.length_append]
      omega
    · exact ⟨[], after, by rw [← hfront, ← hafter]; simp⟩

end Scaffolding.Text
