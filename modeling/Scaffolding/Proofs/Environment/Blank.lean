import Scaffolding.Proofs.Environment.Precedence

/-!
# A variable that is empty

An environment in which a variable is empty can hardly be told from one in
which it is not set.  They differ in what is loaded into them only if a
file of assignments gives the variable a value that is not empty: then the
one keeps the variable as it is.

* `IsBlank` says that a variable has no value but an empty one, and
  `others` are the strings of all other variables.
* `BlankedIn` relates two such environments, and `BlankedIn.get?_eq` and
  `BlankedIn.refer_eq` say that nobody can tell them apart.
* `BlankedIn.loadLines` is the induction on the lines of a file.
-/

namespace Scaffolding

namespace Environment

variable {environment environment' : Environment} {name other : String} {value : Bytes}

/-- The strings that are not that of a variable. -/
def others (environment : Environment) (name : String) : List Bytes :=
  environment.strings.filter fun string => !(start name).isPrefixOf string

/-- That a variable has no value but an empty one. -/
def IsBlank (environment : Environment) (name : String) : Prop :=
  ∀ string ∈ environment.strings, (start name).isPrefixOf string = true → string = start name

/-! ## Strings of other variables -/

/-- The string of an empty variable is not taken for that of another, whatever its name. -/
theorem isPrefixOf_start_eq_false (hname : IsName name) (hne : other ≠ name) :
    (start other).isPrefixOf (start name) = false := by
  apply Bool.eq_false_iff.mpr
  intro hbegins
  rcases List.prefix_concat_iff.mp (List.isPrefixOf_iff_prefix.mp hbegins) with hsame | hinside
  · exact hne (Text.encode_injective (List.append_cancel_right hsame))
  · exact hname.equals_not_mem (hinside.subset (List.mem_append_right _ List.mem_cons_self))

theorem isPrefixOf_start_append_eq_false (hname : IsName name) (hother : IsName other)
    (hne : other ≠ name) : (start name).isPrefixOf (start other ++ value) = false := by
  have hnone := valueIn?_start_of_ne hne hother.equals_not_mem hname.equals_not_mem value
  unfold valueIn? at hnone
  split at hnone
  · cases hnone
  · rename_i hbegins
    exact Bool.eq_false_iff.mpr hbegins

theorem mem_put {strings : List Bytes} {string : Bytes} (hmem : string ∈ put name value strings) :
    string ∈ strings ∨ string = start name ++ value := by
  induction strings with
  | nil => exact .inr (List.mem_singleton.mp hmem)
  | cons first rest ih =>
    unfold put at hmem
    split at hmem
    · rcases List.mem_cons.mp hmem with rfl | hmem
      · exact .inr rfl
      · exact .inl (List.mem_cons_of_mem _ hmem)
    · rcases List.mem_cons.mp hmem with rfl | hmem
      · exact .inl List.mem_cons_self
      · exact (ih hmem).imp_left (List.mem_cons_of_mem _)

theorem others_set_self (environment : Environment) (name : String) (value : Bytes) :
    (environment.set name value).others name = environment.others name := by
  have hself : (start name).isPrefixOf (start name ++ value) = true :=
    List.isPrefixOf_iff_prefix.mpr (List.prefix_append _ _)
  unfold others set
  simp only
  induction environment.strings with
  | nil => simp [put, hself]
  | cons string strings ih =>
    unfold put
    split
    · rename_i hbegins
      simp [hself, hbegins]
    · rw [List.filter_cons, List.filter_cons, ih]

/-- Setting another variable sets it among the strings that are not of this one.  A law on values
would not do: the name that a reference looks up may have any characters. -/
theorem others_set_of_ne (hblank : environment.IsBlank name) (hname : IsName name)
    (hother : IsName other) (hne : other ≠ name) (value : Bytes) :
    (environment.set other value).others name = put other value (environment.others name) := by
  have hnew : (start name).isPrefixOf (start other ++ value) = false :=
    isPrefixOf_start_append_eq_false hname hother hne
  unfold IsBlank at hblank
  unfold others set
  simp only
  generalize environment.strings = strings at hblank ⊢
  induction strings with
  | nil => simp [put, hnew]
  | cons string strings ih =>
    obtain ⟨hstring, hstrings⟩ := List.forall_mem_cons.mp hblank
    cases hbegins : (start name).isPrefixOf string with
    | true =>
      obtain rfl := hstring hbegins
      rw [put, if_neg (by rw [isPrefixOf_start_eq_false hname hne]; exact Bool.false_ne_true),
        List.filter_cons_of_neg (by rw [hbegins]; exact Bool.false_ne_true),
        List.filter_cons_of_neg (by rw [hbegins]; exact Bool.false_ne_true), ih hstrings]
    | false =>
      rw [List.filter_cons_of_pos (by rw [hbegins]; rfl), put, put]
      split
      · rw [List.filter_cons_of_pos (by rw [hnew]; rfl)]
      · rw [List.filter_cons_of_pos (by rw [hbegins]; rfl), ih hstrings]

/-! ## Blank variables -/

theorem IsBlank.get?_eq (hblank : environment.IsBlank name) (hname : IsName name)
    (hne : other ≠ name) :
    environment.get? other =
      if other = "" then none else (environment.others name).findSome? (valueIn? other) := by
  have hnone : valueIn? other (start name) = none :=
    if_neg (by rw [isPrefixOf_start_eq_false hname hne]; exact Bool.false_ne_true)
  unfold IsBlank at hblank
  unfold get? others
  congr 1
  generalize environment.strings = strings at hblank ⊢
  induction strings with
  | nil => rfl
  | cons string strings ih =>
    obtain ⟨hstring, hstrings⟩ := List.forall_mem_cons.mp hblank
    rw [List.findSome?_cons, ih hstrings]
    cases hbegins : (start name).isPrefixOf string with
    | true =>
      rw [List.filter_cons_of_neg (by rw [hbegins]; exact Bool.false_ne_true), hstring hbegins,
        hnone]
    | false => rw [List.filter_cons_of_pos (by rw [hbegins]; rfl), List.findSome?_cons]

theorem IsBlank.get?_cases (hblank : environment.IsBlank name) :
    environment.get? name = none ∨ environment.get? name = some [] := by
  unfold get?
  split
  · exact .inl rfl
  · cases hfind : environment.strings.findSome? (valueIn? name) with
    | none => exact .inl rfl
    | some value =>
      obtain ⟨string, hmem, hvalue⟩ := List.exists_of_findSome?_eq_some hfind
      unfold valueIn? at hvalue
      split at hvalue
      · rename_i hbegins
        rw [hblank string hmem hbegins, List.drop_length] at hvalue
        exact .inr (congrArg some (Option.some.inj hvalue).symm)
      · cases hvalue

theorem IsBlank.text?_getD (hblank : environment.IsBlank name) :
    (environment.text? name).getD "" = "" := by
  unfold text?
  rcases hblank.get?_cases with hunset | hempty
  · rw [hunset]
    rfl
  · rw [hempty]
    rfl

theorem isBlank_of_get? (hname : IsName name) (hunset : environment.get? name = none) :
    environment.IsBlank name := by
  intro string hmem hbegins
  unfold get? at hunset
  rw [if_neg hname.ne_empty, List.findSome?_eq_none_iff] at hunset
  have hnone := hunset string hmem
  unfold valueIn? at hnone
  rw [if_pos hbegins] at hnone
  cases hnone

theorem IsBlank.set_self (hblank : environment.IsBlank name) :
    (environment.set name []).IsBlank name := by
  intro string hmem hbegins
  rcases mem_put hmem with hold | hnew
  · exact hblank string hold hbegins
  · rw [hnew, List.append_nil]

theorem IsBlank.set_of_ne (hblank : environment.IsBlank name) (hname : IsName name)
    (hother : IsName other) (hne : other ≠ name) : (environment.set other value).IsBlank name := by
  intro string hmem hbegins
  rcases mem_put hmem with hold | rfl
  · exact hblank string hold hbegins
  · rw [isPrefixOf_start_append_eq_false hname hother hne] at hbegins
    cases hbegins

/-! ## Two environments -/

/-- That the second of two environments has an empty variable where the first may have none, and no
other difference that can be seen. -/
structure BlankedIn (name : String) (environment environment' : Environment) : Prop where
  isName : IsName name
  others_eq : environment.others name = environment'.others name
  isBlank : environment.IsBlank name
  isBlank' : environment'.IsBlank name
  text?_eq : environment'.text? name = some ""

theorem blankedIn_set (hname : IsName name) (hunset : environment.get? name = none) :
    BlankedIn name environment (environment.set name []) where
  isName := hname
  others_eq := (environment.others_set_self name []).symm
  isBlank := isBlank_of_get? hname hunset
  isBlank' := (isBlank_of_get? hname hunset).set_self
  text?_eq := by
    unfold text?
    rw [environment.get?_set hname.ne_empty]
    rfl

namespace BlankedIn

variable (hblanked : BlankedIn name environment environment') {earlier : List Assignment}

include hblanked

theorem get?_eq (hne : other ≠ name) : environment.get? other = environment'.get? other := by
  rw [hblanked.isBlank.get?_eq hblanked.isName hne, hblanked.isBlank'.get?_eq hblanked.isName hne,
    hblanked.others_eq]

theorem text?_eq_of_ne (hne : other ≠ name) :
    environment.text? other = environment'.text? other := by
  unfold text?
  rw [hblanked.get?_eq hne]

/-- The value of a reference is the same, as long as no earlier line counts that only the first
environment has taken. -/
theorem refer_eq (hearlier : environment.text? name = none → ∀ line ∈ earlier, line.name ≠ name) :
    environment.refer earlier = environment'.refer earlier := by
  funext other
  unfold refer
  by_cases hsame : other = name
  · rw [hsame, hblanked.text?_eq]
    have hempty := hblanked.isBlank.text?_getD
    cases htext : environment.text? name with
    | some text =>
      rw [htext] at hempty
      exact hempty
    | none =>
      have hnone : earlier.find? (·.name = name) = none :=
        List.find?_eq_none.mpr fun line hline => by simpa using hearlier htext line hline
      simp only [hnone]
      rfl
  · rw [hblanked.text?_eq_of_ne hsame]

/-- The second environment keeps its empty variable, and the first gets one. -/
theorem assign_self {assignment : Assignment} (hsame : assignment.name = name)
    (hempty : environment.text? name = none → assignment.value = "") :
    ∃ next, environment.assign assignment = .ok next ∧
      environment'.assign assignment = .ok environment' ∧ BlankedIn name next environment' := by
  have hkept : environment'.assign assignment = .ok environment' := by
    unfold assign
    rw [hsame, hblanked.text?_eq]
    rfl
  rcases environment.assign_cases assignment with
    ⟨-, hassign⟩ | ⟨hunset, hunfit, -⟩ | ⟨hunset, -, hassign⟩
  · exact ⟨environment, hassign, hkept, hblanked⟩
  · rw [hempty (hsame ▸ hunset)] at hunfit
    cases hunfit
  · refine ⟨_, hassign, hkept, ?_⟩
    rw [hsame, hempty (hsame ▸ hunset)]
    exact { hblanked with
      others_eq := (environment.others_set_self name []).trans hblanked.others_eq
      isBlank := hblanked.isBlank.set_self }

/-- An assignment to another variable breaks off in both environments or is made in both. -/
theorem assign_of_ne {assignment : Assignment} (hassignment : IsName assignment.name)
    (hne : assignment.name ≠ name) :
    (∃ crash, environment.assign assignment = .error crash ∧
        environment'.assign assignment = .error crash) ∨
      ∃ next next', environment.assign assignment = .ok next ∧
        environment'.assign assignment = .ok next' ∧ BlankedIn name next next' := by
  unfold assign
  rw [hblanked.text?_eq_of_ne hne]
  split
  · exact .inr ⟨_, _, rfl, rfl, hblanked⟩
  split
  · exact .inl ⟨_, rfl, rfl⟩
  · refine .inr ⟨_, _, rfl, rfl, hblanked.isName, ?_,
      hblanked.isBlank.set_of_ne hblanked.isName hassignment hne,
      hblanked.isBlank'.set_of_ne hblanked.isName hassignment hne, ?_⟩
    · rw [others_set_of_ne hblanked.isBlank hblanked.isName hassignment hne,
        others_set_of_ne hblanked.isBlank' hblanked.isName hassignment hne, hblanked.others_eq]
    · rw [text?_set _ hassignment hblanked.isName, if_neg hne, hblanked.text?_eq]

/-- Lines that give the variable no value but an empty one can be loaded in both environments or in
none, and leave environments that nobody can tell apart. -/
theorem loadLines {lines : List (Except Fault (List Char))}
    (hearlier : environment.text? name = none → ∀ line ∈ earlier, line.name ≠ name)
    (hfirst : environment.text? name = none → ∀ assignment,
      (environment.assignments earlier lines).find? (·.name = name) = some assignment →
        assignment.value = "") :
    (∃ halt, environment.loadLines earlier lines = .error halt ∧
        environment'.loadLines earlier lines = .error halt) ∨
      ∃ loaded loaded', environment.loadLines earlier lines = .ok loaded ∧
        environment'.loadLines earlier lines = .ok loaded' ∧ BlankedIn name loaded loaded' := by
  -- An earlier line is looked at only where a variable has no value.  So as soon as a line has
  -- given the variable one, nothing is left to show of the lines before and after it.
  induction lines generalizing environment environment' earlier with
  | nil => exact .inr ⟨environment, environment', rfl, rfl, hblanked⟩
  | cons line lines ih =>
    cases line with
    | error fault => exact .inl ⟨.fault fault, rfl, rfl⟩
    | ok line =>
      unfold assignments at hfirst
      unfold Environment.loadLines
      rw [← hblanked.refer_eq hearlier]
      cases hread : Assignment.read (environment.refer earlier) line with
      | error fault => exact .inl ⟨.fault fault, rfl, rfl⟩
      | ok read =>
        rw [hread] at hfirst
        cases read with
        | none => exact ih hblanked hearlier hfirst
        | some assignment =>
          have hassignment := Assignment.isName_of_read hread
          by_cases hsame : assignment.name = name
          · have hempty : environment.text? name = none → assignment.value = "" := by
              intro hunset
              apply hfirst hunset
              rw [List.find?_cons_of_pos (by simpa using hsame)]
            obtain ⟨next, hassign, hkept, hnext⟩ := hblanked.assign_self hsame hempty
            have hset := isSome_text?_assign hassign hassignment
            rw [hsame, Option.isSome_iff_ne_none] at hset
            simp only [hassign, hkept]
            exact ih hnext (fun hunset => absurd hunset hset) (fun hunset => absurd hunset hset)
          · rcases hblanked.assign_of_ne hassignment hsame with
              ⟨crash, hassign, hassign'⟩ | ⟨next, next', hassign, hassign', hnext⟩
            · simp only [hassign, hassign']
              exact .inl ⟨.crash crash, rfl, rfl⟩
            · have htext := text?_assign_of_ne hassign hassignment hblanked.isName hsame
              simp only [hassign, hassign'] at hfirst ⊢
              refine ih hnext ?_ ?_
              · intro hunset
                rw [htext] at hunset
                exact List.forall_mem_cons.mpr ⟨hsame, hearlier hunset⟩
              · intro hunset first hfind
                rw [htext] at hunset
                apply hfirst hunset first
                rw [List.find?_cons_of_neg (by simpa using hsame), hfind]

end BlankedIn

end Environment

end Scaffolding
