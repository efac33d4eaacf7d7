import Scaffolding.Path.Ancestors

/-!
# Going on from a path to a name

A name is a stretch of bytes that is a step of its own: it is not empty,
it has no slash, and it is neither `.` nor `..`.  The spelling of
`left.join name` depends on how `left` ends, but its meaning does not.

* `segments_join` says which stretches the joined path has.  A slash at
  the end of `left` makes an empty last stretch, and the name takes its
  place.
* `components_join` adds one component to those of `left`, for every
  spelling of `left`.
* `exists_parent?_join` leads back: the parent of the joined path has the
  components of `left`.
-/

namespace Scaffolding.Path

/-- A stretch that is a step to an entry wherever it stands. -/
structure IsName (segment : Bytes) : Prop where
  slash_not_mem : slash ∉ segment
  ne_nil : segment ≠ []
  ne_dot : segment ≠ dot
  ne_dots : segment ≠ dots

instance (segment : Bytes) : Decidable (IsName segment) :=
  decidable_of_iff (slash ∉ segment ∧ segment ≠ [] ∧ segment ≠ dot ∧ segment ≠ dots)
    ⟨fun ⟨hslash, hempty, hdot, hdots⟩ => ⟨hslash, hempty, hdot, hdots⟩,
      fun ⟨hslash, hempty, hdot, hdots⟩ => ⟨hslash, hempty, hdot, hdots⟩⟩

/-! ## From stretches to components -/

/-- What the first stretch of a path stands for, which depends on whether it is the only one. -/
def lead (first : Bytes) (alone : Bool) : List Component :=
  if first = [] then if alone then [] else [.root]
  else if first = dot then [.here]
  else (step? first).toList

theorem componentsOf_cons (first : Bytes) (rest : List Bytes) :
    componentsOf (first :: rest) = lead first rest.isEmpty ++ rest.filterMap step? := by
  unfold lead
  cases first with
  | nil => cases rest <;> rfl
  | cons byte bytes =>
    rw [if_neg (List.cons_ne_nil byte bytes)]
    simp only [componentsOf]
    split
    · rfl
    · rw [List.filterMap_cons]
      cases step? (byte :: bytes) <;> rfl

/-- Stretches behind the first add the steps that they stand for. -/
theorem componentsOf_append {before after : List Bytes} (hbefore : before ≠ [])
    (hafter : after ≠ []) :
    componentsOf (before ++ after) = componentsOf (before ++ [[]]) ++ after.filterMap step? := by
  cases before with
  | nil => exact absurd rfl hbefore
  | cons first rest =>
    have hrest : (rest ++ after).isEmpty = false := by simp [hafter]
    have hslash : (rest ++ [[]]).isEmpty = false := by simp
    have hidle : [([] : Bytes)].filterMap step? = [] := rfl
    rw [List.cons_append, List.cons_append, componentsOf_cons, componentsOf_cons, hrest, hslash,
      List.filterMap_append, List.filterMap_append, hidle, List.append_nil, List.append_assoc]

/-- A slash at the end stands for nothing, unless it is all there is. -/
theorem componentsOf_append_slash {first : Bytes} {rest : List Bytes}
    (hfirst : first = [] → rest ≠ []) :
    componentsOf (first :: rest ++ [[]]) = componentsOf (first :: rest) := by
  have hlead : lead first (rest ++ [[]]).isEmpty = lead first rest.isEmpty := by
    unfold lead
    split
    · rename_i hnil
      simp [hfirst hnil]
    · rfl
  have hidle : [([] : Bytes)].filterMap step? = [] := rfl
  rw [List.cons_append, componentsOf_cons, componentsOf_cons, hlead, List.filterMap_append,
    hidle, List.append_nil]

/-! ## A name is one step -/

theorem IsName.isIdle_eq_false {segment : Bytes} (hname : IsName segment) :
    isIdle segment = false := by
  unfold isIdle
  rw [decide_eq_false hname.ne_nil, decide_eq_false hname.ne_dot, Bool.or_false]

theorem IsName.step?_eq {segment : Bytes} (hname : IsName segment) :
    step? segment = some (.name segment) := by
  unfold step?
  rw [hname.isIdle_eq_false, if_neg Bool.false_ne_true, if_neg hname.ne_dots]

theorem IsName.isAbsolute_eq_false {segment : Bytes} (hname : IsName segment) :
    (⟨segment⟩ : Path).isAbsolute = false := by
  unfold isAbsolute
  apply decide_eq_false
  intro hhead
  exact hname.slash_not_mem (List.mem_of_head? hhead)

theorem IsName.segments_eq {segment : Bytes} (hname : IsName segment) :
    (⟨segment⟩ : Path).segments = [segment] :=
  List.splitOn_eq_singleton hname.slash_not_mem

/-! ## The stretches of a joined path -/

theorem segments_append_slash (left right : Bytes) :
    (⟨left ++ slash :: right⟩ : Path).segments =
      (⟨left⟩ : Path).segments ++ (⟨right⟩ : Path).segments :=
  List.splitOn_append_cons_self left right

theorem segments_ne_nil (path : Path) : path.segments ≠ [] :=
  List.splitOn_ne_nil slash path.bytes

theorem slash_not_mem_of_mem_segments {path : Path} {segment : Bytes}
    (hmem : segment ∈ path.segments) : slash ∉ segment := by
  obtain ⟨bytes⟩ := path
  induction bytes generalizing segment with
  | nil =>
    have hnil : segment = [] := by simpa [segments] using hmem
    subst hnil
    exact List.not_mem_nil
  | cons byte rest ih =>
    unfold segments at hmem ih
    rw [List.splitOn_cons_eq_if_modifyHead] at hmem
    split at hmem
    · rcases List.mem_cons.mp hmem with rfl | hrest
      · exact List.not_mem_nil
      · exact ih hrest
    · rename_i hbyte
      cases hsplit : rest.splitOn slash with
      | nil => exact absurd hsplit (List.splitOn_ne_nil slash rest)
      | cons first others =>
        rw [hsplit] at hmem ih
        rcases List.mem_cons.mp hmem with rfl | hothers
        · intro hslash
          rcases List.mem_cons.mp hslash with hhead | htail
          · exact hbyte (by simp [hhead])
          · exact ih List.mem_cons_self htail
        · exact ih (List.mem_cons_of_mem first hothers)

/-- A path is empty when its only stretch is. -/
theorem bytes_eq_nil_of_segments {path : Path} (hsegments : path.segments = [[]]) :
    path.bytes = [] := by
  have hbytes : [slash].intercalate (path.bytes.splitOn slash) = path.bytes :=
    List.intercalate_splitOn slash
  rw [show path.bytes.splitOn slash = [[]] from hsegments] at hbytes
  exact hbytes.symm

/-- The stretches before the name that a path is joined with. -/
def stem (left : Path) : List Bytes :=
  if left.bytes = [] ∨ left.bytes.getLast? = some slash then left.segments.dropLast
  else left.segments

theorem segments_join {left : Path} {segment : Bytes} (hname : IsName segment) :
    (left.join ⟨segment⟩).segments = left.stem ++ [segment] := by
  unfold join stem
  rw [hname.isAbsolute_eq_false, if_neg Bool.false_ne_true]
  split
  · rename_i hend
    rcases hend with hempty | hslash
    · obtain ⟨bytes⟩ := left
      subst hempty
      exact hname.segments_eq
    · obtain ⟨front, hfront⟩ := List.getLast?_eq_some_iff.mp hslash
      have hleft : left.segments = (⟨front⟩ : Path).segments ++ [[]] := by
        show left.bytes.splitOn slash = _
        rw [hfront]
        exact segments_append_slash front []
      rw [hleft, List.dropLast_concat, hfront, List.append_assoc]
      have hsplit := segments_append_slash front segment
      rw [hname.segments_eq] at hsplit
      exact hsplit
  · rw [segments_append_slash, hname.segments_eq]

/-- Every path spells its stem with a slash behind it, or is empty. -/
theorem components_eq_stem (left : Path) :
    left.components = componentsOf (left.stem ++ [[]]) := by
  unfold components stem
  split
  · rename_i hend
    rcases hend with hempty | hslash
    · obtain ⟨bytes⟩ := left
      subst hempty
      rfl
    · obtain ⟨front, hfront⟩ := List.getLast?_eq_some_iff.mp hslash
      have hleft : left.segments = (⟨front⟩ : Path).segments ++ [[]] := by
        show left.bytes.splitOn slash = _
        rw [hfront]
        exact segments_append_slash front []
      rw [hleft, List.dropLast_concat]
  · rename_i hend
    cases hsegments : left.segments with
    | nil => exact absurd hsegments left.segments_ne_nil
    | cons first rest =>
      refine (componentsOf_append_slash fun hfirst hrest => ?_).symm
      subst hfirst hrest
      exact hend (.inl (bytes_eq_nil_of_segments hsegments))

/-! ## The components of a joined path -/

theorem componentsOf_append_name (before : List Bytes) {segment : Bytes}
    (hname : IsName segment) :
    componentsOf (before ++ [segment]) = componentsOf (before ++ [[]]) ++ [.name segment] := by
  have hstep : [segment].filterMap step? = [.name segment] := by
    rw [List.filterMap_cons, hname.step?_eq, List.filterMap_nil]
  by_cases hbefore : before = []
  · subst hbefore
    rw [List.nil_append, componentsOf_cons]
    unfold lead
    rw [if_neg hname.ne_nil, if_neg hname.ne_dot, hname.step?_eq]
    rfl
  · rw [componentsOf_append hbefore (List.cons_ne_nil _ _), hstep]

/-- Going on to a name adds one component, however the path is spelled. -/
theorem components_join {left : Path} {segment : Bytes} (hname : IsName segment) :
    (left.join ⟨segment⟩).components = left.components ++ [.name segment] := by
  rw [components_eq_stem left, ← componentsOf_append_name left.stem hname, components,
    segments_join hname]

/-! ## The parent of a joined path -/

theorem filterMap_step?_dropWhile (stretches : List Bytes) :
    (stretches.dropWhile isIdle).filterMap step? = stretches.filterMap step? := by
  induction stretches with
  | nil => rfl
  | cons first rest ih =>
    rw [List.dropWhile_cons]
    split
    · rename_i hidle
      rw [ih, List.filterMap_cons]
      unfold step?
      rw [if_pos hidle]
    · rfl

/-- What is spelled has the components of its stretches. -/
theorem components_spell {first : Bytes} {rest : List Bytes} (hfirst : slash ∉ first)
    (hrest : ∀ segment ∈ rest, slash ∉ segment) :
    (spell first rest).components = componentsOf (first :: rest ++ [[]]) := by
  unfold spell
  split
  · rename_i hroot
    rw [hroot.1, hroot.2]
    rfl
  · rename_i hroot
    have hsegments : (⟨[slash].intercalate (first :: rest)⟩ : Path).segments = first :: rest := by
      apply List.splitOn_intercalate
      · intro segment hmem
        rcases List.mem_cons.mp hmem with rfl | htail
        · exact hfirst
        · exact hrest segment htail
      · exact List.cons_ne_nil first rest
    rw [components, hsegments, componentsOf_append_slash]
    exact fun hnil hempty => hroot ⟨hnil, hempty⟩

/-- The parent of a path whose last stretch is a name has the components of what is before it. -/
theorem exists_parent?_of_segments {path : Path} {before : List Bytes} {segment : Bytes}
    (hsegments : path.segments = before ++ [segment]) (hname : IsName segment) :
    ∃ parent, path.parent? = some parent ∧
      parent.components = componentsOf (before ++ [[]]) := by
  have hslash : ∀ stretch ∈ before, slash ∉ stretch := by
    intro stretch hmem
    have hstretch : stretch ∈ path.segments := by
      rw [hsegments]
      exact List.mem_append_left _ hmem
    exact slash_not_mem_of_mem_segments hstretch
  unfold parent? ancestors
  rw [hsegments]
  cases before with
  | nil =>
    refine ⟨empty, ?_, rfl⟩
    show (ancestorsAbove segment []).head? = _
    rw [ancestorsAbove, if_neg hname.ne_nil]
    rfl
  | cons first rest =>
    have htrim : ∀ stretch ∈ (rest.reverse.dropWhile isIdle).reverse, slash ∉ stretch := by
      intro stretch hmem
      have hdrop := (List.dropWhile_sublist isIdle).mem (List.mem_reverse.mp hmem)
      exact hslash stretch (List.mem_cons_of_mem first (List.mem_reverse.mp hdrop))
    have hslashed : ∀ stretches : List Bytes, (stretches ++ [[]]).isEmpty = false := by
      intro stretches
      simp
    refine ⟨spell first (rest.reverse.dropWhile isIdle).reverse, ?_, ?_⟩
    · show (ancestorsAbove first (rest ++ [segment]).reverse).head? = _
      rw [List.reverse_concat, ancestorsAbove, hname.isIdle_eq_false,
        if_neg Bool.false_ne_true]
      rfl
    · rw [components_spell (hslash first List.mem_cons_self) htrim, List.cons_append,
        List.cons_append, componentsOf_cons, componentsOf_cons, List.filterMap_append,
        List.filterMap_append, List.filterMap_reverse, filterMap_step?_dropWhile,
        ← List.filterMap_reverse, List.reverse_reverse, hslashed, hslashed]

/-- The parent of a joined path is a spelling of the path that was joined. -/
theorem exists_parent?_join {left : Path} {segment : Bytes} (hname : IsName segment) :
    ∃ parent, (left.join ⟨segment⟩).parent? = some parent
      ∧ parent.components = left.components := by
  rw [components_eq_stem left]
  exact exists_parent?_of_segments (segments_join hname) hname

end Scaffolding.Path
