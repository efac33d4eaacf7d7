import Scaffolding.Log.Rule

/-!
# Filters

A filter has rules.  Of the rules that can be applied without knowing the spans, the one that
describes a record most closely decides about it.  A rule about spans lets more records pass while
the program is inside such a span.

- `Filter.through` gives a record as a filter shows it;
- `render` gives the lines that are shown;
- `through_of_isPlain` says what becomes of a record when all rules are about targets only, and
  `through_eq_none` which records do not pass then.
-/

namespace Scaffolding.Log

/-- A filter; of two rules about the same the later one counts. -/
structure Filter where
  rules : List Rule
  deriving DecidableEq, Repr

/-- What a filter has seen of the spans that a record is inside of: those that it shows, the
outermost first, and the levels that it lets pass inside of them. -/
structure Scope where
  spans : List Span
  levels : List Level
  deriving DecidableEq, Repr

/-- Outside of all spans. -/
def Scope.outside : Scope := ⟨[], []⟩

/-- Whether a level passes for a span that was entered. -/
def Scope.lets (scope : Scope) (level : Level) : Bool :=
  scope.levels.any (·.lets level)

/-- The heavier of two rules, the later one if they weigh the same. -/
def Rule.heavier (best : Option Rule) (rule : Rule) : Option Rule :=
  match best with
  | none => some rule
  | some other => if rule.weight < other.weight then some other else some rule

namespace Filter

/-! ## Rules -/

/-- The rules that count. -/
def inForce (filter : Filter) : List Rule :=
  filter.rules.foldr
    (fun rule later => if later.any rule.sameSubject then later else rule :: later) []

/-- The rule that decides about a target, for a record with some fields or for a span.  The fields
of a span do not matter here. -/
def decider? (filter : Filter) (target : String) (fields : Option (List String)) : Option Rule :=
  let concerns := fun rule : Rule =>
    rule.isTimeless && rule.concernsTarget target && fields.all rule.concernsFields
  (filter.inForce.filter concerns).foldl Rule.heavier none

/-- Whether a record with some fields or a span passes, wherever it comes from. -/
def lets (filter : Filter) (target : String) (fields : Option (List String)) (level : Level) :
    Bool :=
  (filter.decider? target fields).any (·.level.lets level)

/-! ## Spans -/

/-- The level that passes inside a span for its own sake, if a rule is about the span. -/
def levelInside? (filter : Filter) (span : Span) : Option Level :=
  let rules := filter.inForce.filter (·.concernsSpan span)
  if rules = [] then none
  else some (((rules.filter (·.fits span)).map Rule.level).foldl Level.max .off)

/-- The scope inside one more span. -/
def enter (filter : Filter) (scope : Scope) (span : Span) : Scope :=
  match filter.levelInside? span with
  | some level => ⟨scope.spans ++ [span], scope.levels ++ [level]⟩
  | none =>
    if filter.lets span.target none Span.level || scope.lets Span.level then
      { scope with spans := scope.spans ++ [span] }
    else scope

/-- A record as a filter shows it, if it does: without the spans that are not shown. -/
def through (filter : Filter) (record : Record) : Option Record :=
  let scope := record.spans.foldl filter.enter .outside
  if filter.lets record.target (some record.fieldNames) record.level || scope.lets record.level then
    some { record with spans := scope.spans }
  else none

/-! ## Filters in words -/

/-- Reads a filter: rules with commas between them.  Without a rule only errors pass. -/
def parse (text : String) : Except Rule.Obstacle Filter :=
  let parts := (text.toList.splitOn ',').filter (· ≠ [])
  if parts = [] then .ok ⟨[.general .error]⟩ else (parts.mapM Rule.parse).map Filter.mk

/-! ## Filters for targets -/

theorem mem_of_mem_inForce {filter : Filter} {rule : Rule} (hrule : rule ∈ filter.inForce) :
    rule ∈ filter.rules := by
  obtain ⟨rules⟩ := filter
  induction rules with
  | nil => exact hrule
  | cons first rules ih =>
    rw [inForce, List.foldr_cons] at hrule
    split at hrule
    · exact List.mem_cons_of_mem _ (ih hrule)
    · rcases List.mem_cons.1 hrule with hfirst | hlater
      · exact List.mem_cons.2 (.inl hfirst)
      · exact List.mem_cons_of_mem _ (ih hlater)

theorem levelInside?_of_isPlain {filter : Filter} (hplain : ∀ rule ∈ filter.rules, rule.isPlain)
    (span : Span) : filter.levelInside? span = none := by
  refine if_pos (List.filter_eq_nil_iff.2 fun rule hrule => ?_)
  simp [Rule.concernsSpan, hplain rule (mem_of_mem_inForce hrule)]

/-- When all rules are about targets only, a record passes as its target does, and so does each of
the spans that it is inside of. -/
theorem through_of_isPlain {filter : Filter} (hplain : ∀ rule ∈ filter.rules, rule.isPlain)
    (record : Record) : filter.through record =
      if filter.lets record.target (some record.fieldNames) record.level then
        some { record with
          spans := record.spans.filter fun span => filter.lets span.target none Span.level }
      else none := by
  have hscope : ∀ spans before : List Span, spans.foldl filter.enter ⟨before, []⟩
      = ⟨before ++ spans.filter fun span => filter.lets span.target none Span.level, []⟩ := by
    intro spans
    induction spans with
    | nil => simp
    | cons span spans ih =>
      intro before
      have henter : filter.enter ⟨before, []⟩ span
          = ⟨if filter.lets span.target none Span.level then before ++ [span] else before, []⟩ := by
        simp only [enter, levelInside?_of_isPlain hplain, Scope.lets, List.any_nil, Bool.or_false]
        split <;> rfl
      rw [List.foldl_cons, henter, ih, List.filter_cons]
      split <;> simp
  simp [through, Scope.outside, hscope, Scope.lets]

theorem mem_of_mem_foldl_heavier {rules : List Rule} {best : Option Rule} {rule : Rule}
    (hrule : rule ∈ rules.foldl Rule.heavier best) : rule ∈ best ∨ rule ∈ rules := by
  induction rules generalizing best with
  | nil => exact .inl hrule
  | cons first rules ih =>
    rw [List.foldl_cons] at hrule
    rcases ih hrule with hheavier | hlater
    · unfold Rule.heavier at hheavier
      split at hheavier
      · cases hheavier
        exact .inr List.mem_cons_self
      · split at hheavier
        · exact .inl hheavier
        · cases hheavier
          exact .inr List.mem_cons_self
    · exact .inr (List.mem_cons_of_mem _ hlater)

/-- It is one of its rules that decides. -/
theorem mem_rules_of_decider? {filter : Filter} {target : String} {fields : Option (List String)}
    {rule : Rule} (hdecider : filter.decider? target fields = some rule) : rule ∈ filter.rules := by
  rcases mem_of_mem_foldl_heavier (Option.mem_def.2 hdecider) with hnone | hrule
  · cases hnone
  · exact mem_of_mem_inForce (List.mem_filter.1 hrule).1

/-- No record passes that is finer than every rule lets pass, when all rules are about targets
only. -/
theorem through_eq_none {filter : Filter} (hplain : ∀ rule ∈ filter.rules, rule.isPlain)
    {record : Record} (hfine : ∀ rule ∈ filter.rules, rule.level.lets record.level = false) :
    filter.through record = none := by
  rw [through_of_isPlain hplain, if_neg]
  intro hlets
  obtain ⟨rule, hdecider, hpass⟩ := (Option.any_eq_true ..).1 hlets
  rw [hfine rule (mem_rules_of_decider? hdecider)] at hpass
  cases hpass

end Filter

/-! ## Lines -/

/-- The lines of the records that a filter shows. -/
def render (filter : Filter) (records : List Record) : String :=
  String.join ((records.filterMap filter.through).map Record.line)

/-- Nothing is logged where no record passes. -/
theorem render_eq_empty {filter : Filter} {records : List Record}
    (hnone : ∀ record ∈ records, filter.through record = none) : render filter records = "" := by
  rw [render, List.filterMap_eq_nil_iff.2 hnone]
  rfl

end Scaffolding.Log
