import Scaffolding.Proofs.Command.Stages

/-!
# Values that are settled late

A value waits until the next switch or option is read, or until the end.
This decides which of two faults is reported, but not whether there is
one: words are read to the same end if what waits is settled first.

* `Reads` says what words are read to, and `Waits` that the next word is
  taken for a value.
* `reads_iff_of_not_waits` is the result: unless an option waits for its
  value, the reading can be settled before the words.
* `parse_eq_ok_iff`: an invocation is concluded from what the words are
  read to.
-/

namespace Scaffolding.Command.Arguments

/-- A word is plain as it stands, or it is the divider, or a long option, or has letters. -/
theorem Word.of_cases (word : Bytes) :
    Word.of word = .plain word ∨ word = Text.encode "--" ∧ Word.of word = .divider ∨
      (∃ name value, Word.of word = .long name value) ∨
      ∃ letter letters, Word.of word = .cluster (letter :: letters) := by
  match word with
  | [] => exact .inl rfl
  | [_] => exact .inl rfl
  | first :: second :: rest =>
    simp only [Word.of]
    by_cases hfirst : first ≠ dash
    · exact .inl (if_pos hfirst)
    rw [if_neg hfirst]
    by_cases hsecond : second ≠ dash
    · rw [if_pos hsecond]
      cases hletters : Text.pieces (second :: rest) with
      | nil => cases Text.pieces_eq_nil_iff.mp hletters
      | cons letter letters => exact .inr (.inr (.inr ⟨letter, letters, rfl⟩))
    rw [if_neg hsecond]
    by_cases hrest : rest = []
    · rw [if_pos hrest]
      rw [ne_eq, not_not] at hfirst hsecond
      refine .inr (.inl ⟨?_, rfl⟩)
      rw [hfirst, hsecond, hrest]
      decide
    · rw [if_neg hrest]
      split
      · exact .inr (.inr (.inl ⟨_, _, rfl⟩))
      · exact .inr (.inr (.inl ⟨_, _, rfl⟩))

namespace Reading

variable {reading settled next final : Reading} {slot : Slot} {switch : Switch} {word value : Bytes}
  {words : List Bytes}

/-- That some words are read to the end, and everything is settled then. -/
def Reads (reading : Reading) (words : List Bytes) (final : Reading) : Prop :=
  words.foldlM Reading.word reading >>= settle = .ok final

/-- That an option waits for its value. -/
def Waits (reading : Reading) : Prop :=
  ∃ slot, reading.pending = some ⟨slot, none⟩

theorem reads_nil_iff : reading.Reads [] final ↔ reading.settle = .ok final := Iff.rfl

theorem reads_cons_iff :
    reading.Reads (word :: words) final ↔
      ∃ next, reading.word word = .ok next ∧ next.Reads words final := by
  unfold Reads
  rw [List.foldlM_cons, bind_assoc, bind_eq_ok_iff]

theorem reads_cons_of_word (hword : reading.word word = .ok next) :
    reading.Reads (word :: words) final ↔ next.Reads words final := by
  rw [reads_cons_iff, hword]
  simp only [Except.ok.injEq, exists_eq_left']

/-! ## Settling -/

theorem fill_eq_ok (hfill : reading.fill slot value = .ok next) :
    next.pending = reading.pending ∧ next.isNamed = reading.isNamed ∧
      next.isDivided = reading.isDivided := by
  unfold fill at hfill
  split at hfill
  · cases hfill
  · cases slot with
    | name | home | format =>
      obtain ⟨_, -, rfl⟩ := Script.exists_of_map_eq_ok hfill
      exact ⟨rfl, rfl, rfl⟩

theorem settle_of_settled (hpending : reading.pending = none) : reading.settle = .ok reading := by
  unfold settle
  rw [hpending]

theorem settle_eq_ok (hsettle : reading.settle = .ok settled) :
    settled.pending = none ∧ settled.isNamed = reading.isNamed ∧
      settled.isDivided = reading.isDivided := by
  unfold settle at hsettle
  split at hsettle
  · rename_i hpending
    cases hsettle
    exact ⟨hpending, rfl, rfl⟩
  · cases hsettle
  · exact fill_eq_ok hsettle

theorem not_waits_of_settle (hsettle : reading.settle = .ok settled) : ¬ reading.Waits := by
  rintro ⟨slot, hpending⟩
  unfold settle at hsettle
  rw [hpending] at hsettle
  cases hsettle

/-- The reading with every word from here on a plain one. -/
def divide (reading : Reading) : Reading :=
  { reading with isDivided := true }

theorem fill_divide (reading : Reading) (slot : Slot) (value : Bytes) :
    reading.divide.fill slot value = (reading.fill slot value).map divide := by
  have hfilled : reading.divide.isFilled slot = reading.isFilled slot := by
    cases slot <;> rfl
  unfold fill
  rw [hfilled]
  split
  · rfl
  · cases slot with
    | name => cases asText value <;> rfl
    | home => cases asText value <;> rfl
    | format => cases asFormat value <;> rfl

theorem settle_divide (reading : Reading) :
    reading.divide.settle = reading.settle.map divide := by
  unfold settle
  cases hpending : reading.pending with
  | none =>
    rw [show reading.divide.pending = none from hpending]
    rfl
  | some pending =>
    obtain ⟨slot, _ | value⟩ := pending
    · rw [show reading.divide.pending = _ from hpending]
      rfl
    · rw [show reading.divide.pending = _ from hpending]
      exact fill_divide { reading with pending := none } slot value

/-! ## Words -/

/-- That what waits can be settled before something is read, unless an option waits for that. -/
def SettlesFirst (read : Reading → Except Stop Reading) : Prop :=
  ∀ reading next, ¬ reading.Waits →
    (read reading = .ok next ↔
      ∃ settled, reading.settle = .ok settled ∧ read settled = .ok next)

theorem settlesFirst_error (stop : Stop) : SettlesFirst fun _ => .error stop := by
  intro reading next _
  refine iff_of_false nofun ?_
  rintro ⟨_, -, herror⟩
  cases herror

theorem SettlesFirst.bind {first : Reading → Except Stop Reading} (hfirst : SettlesFirst first)
    (second : Reading → Except Stop Reading) :
    SettlesFirst fun reading => first reading >>= second := by
  intro reading next hwaits
  simp only [bind_eq_ok_iff, hfirst reading _ hwaits]
  constructor
  · rintro ⟨middle, ⟨settled, hsettle, hfirst⟩, hsecond⟩
    exact ⟨settled, hsettle, middle, hfirst, hsecond⟩
  · rintro ⟨settled, hsettle, middle, hfirst, hsecond⟩
    exact ⟨middle, ⟨settled, hsettle, hfirst⟩, hsecond⟩

/-- To settle twice is to settle once. -/
theorem settlesFirst_settle : SettlesFirst settle := by
  intro reading next _
  constructor
  · intro hsettle
    exact ⟨next, hsettle, settle_of_settled (settle_eq_ok hsettle).1⟩
  · rintro ⟨settled, hsettle, hagain⟩
    rw [settle_of_settled (settle_eq_ok hsettle).1] at hagain
    exact hagain ▸ hsettle

theorem settlesFirst_turn (switch : Switch) : SettlesFirst fun reading => reading.turn switch :=
  settlesFirst_settle.bind _

theorem settlesFirst_option (slot : Slot) (value : Option Bytes) :
    SettlesFirst fun reading => reading.option slot value :=
  settlesFirst_settle.bind _

theorem plain_eq_named (hwaits : ¬ reading.Waits) (value : Bytes) :
    reading.plain value = plain.named reading value := by
  unfold plain
  split
  · exact absurd ⟨_, ‹_›⟩ hwaits
  · rfl

theorem named_divide (reading : Reading) (value : Bytes) :
    plain.named reading.divide value = (plain.named reading value).map divide := by
  have hnamed : reading.divide.isNamed = reading.isNamed := rfl
  unfold plain.named
  rw [settle_divide, hnamed]
  split
  · rfl
  · cases reading.settle <;> rfl

theorem settlesFirst_plain (value : Bytes) : SettlesFirst fun reading => reading.plain value := by
  intro reading next hwaits
  have hsettled : ∀ {settled}, reading.settle = .ok settled →
      settled.plain value = plain.named settled value ∧ settled.isNamed = reading.isNamed := by
    intro settled hsettle
    obtain ⟨hpending, hnamed, -⟩ := settle_eq_ok hsettle
    exact ⟨plain_eq_named (not_waits_of_settle (settle_of_settled hpending)) value, hnamed⟩
  simp only [plain_eq_named hwaits]
  by_cases hnamed : reading.isNamed = true
  · refine iff_of_false ?_ ?_
    · simp [plain.named, hnamed]
    · rintro ⟨settled, hsettle, hplain⟩
      rw [(hsettled hsettle).1] at hplain
      simp [plain.named, (hsettled hsettle).2, hnamed] at hplain
  · have hfirst := settlesFirst_settle.bind (fun settled => .ok
      { settled with pending := some ⟨.name, some value⟩, isNamed := true }) reading next hwaits
    unfold plain.named
    rw [if_neg hnamed]
    refine hfirst.trans (exists_congr fun settled => and_congr_right fun hsettle => ?_)
    rw [(hsettled hsettle).1]
    unfold plain.named
    rw [if_neg ((hsettled hsettle).2 ▸ hnamed)]

theorem settlesFirst_cluster (letter : Option Char) (letters : List (Option Char)) :
    SettlesFirst fun reading => reading.cluster (letter :: letters) := by
  unfold cluster
  split
  · exact (settlesFirst_turn _).bind _
  · exact settlesFirst_error _

theorem settlesFirst_long (name : Bytes) (value : Option Bytes) :
    SettlesFirst fun reading => reading.long name value := by
  unfold long
  split
  · split
    · exact settlesFirst_error _
    · exact settlesFirst_turn _
  · split
    · exact settlesFirst_option _ _
    · exact settlesFirst_error _

theorem word_of_divided (hdivided : reading.isDivided = true) (word : Bytes) :
    reading.word word = reading.plain word :=
  if_pos hdivided

theorem word_of_undivided (hdivided : reading.isDivided = false) (word : Bytes) :
    reading.word word =
      match Word.of word with
      | .divider => .ok reading.divide
      | .long name value => reading.long name value
      | .cluster letters => reading.cluster letters
      | .plain value => reading.plain value := by
  unfold Reading.word
  rw [hdivided, if_neg Bool.false_ne_true]
  rfl

/-- What waits can be settled before words are read, unless an option waits for its value. -/
theorem reads_iff_of_not_waits (hwaits : ¬ reading.Waits) :
    reading.Reads words final ↔
      ∃ settled, reading.settle = .ok settled ∧ settled.Reads words final := by
  induction words generalizing reading with
  | nil => exact settlesFirst_settle reading final hwaits
  | cons word words ih =>
    have hfirst : ∀ {read}, SettlesFirst read → reading.word word = read reading →
        (∀ settled, reading.settle = .ok settled → settled.word word = read settled) →
        (reading.Reads (word :: words) final ↔
          ∃ settled, reading.settle = .ok settled ∧ settled.Reads (word :: words) final) := by
      intro read hread hhere hthere
      simp only [reads_cons_iff, hhere, hread reading _ hwaits]
      constructor
      · rintro ⟨next, ⟨settled, hsettle, hnext⟩, hreads⟩
        exact ⟨settled, hsettle, next, (hthere settled hsettle).trans hnext, hreads⟩
      · rintro ⟨settled, hsettle, next, hnext, hreads⟩
        exact ⟨next, ⟨settled, hsettle, (hthere settled hsettle).symm.trans hnext⟩, hreads⟩
    cases hdivided : reading.isDivided with
    | true =>
      refine hfirst (settlesFirst_plain word) (word_of_divided hdivided word) ?_
      intro settled hsettle
      exact word_of_divided ((settle_eq_ok hsettle).2.2.trans hdivided) word
    | false =>
      have hhere := word_of_undivided hdivided word
      have hthere : ∀ settled, reading.settle = .ok settled → settled.word word = _ :=
        fun settled hsettle =>
          word_of_undivided ((settle_eq_ok hsettle).2.2.trans hdivided) word
      rcases Word.of_cases word with
        hof | ⟨-, hof⟩ | ⟨name, value, hof⟩ | ⟨letter, letters, hof⟩
      · rw [hof] at hhere hthere
        exact hfirst (settlesFirst_plain word) hhere hthere
      · rw [hof] at hhere hthere
        -- The divider settles nothing, so the words behind it have to do it.
        have hbehind : ¬ reading.divide.Waits := hwaits
        rw [reads_cons_of_word hhere, ih hbehind, settle_divide]
        constructor
        · rintro ⟨divided, hsettle, hreads⟩
          obtain ⟨settled, hbefore, rfl⟩ := Script.exists_of_map_eq_ok hsettle
          exact ⟨settled, hbefore, (reads_cons_of_word (hthere settled hbefore)).mpr hreads⟩
        · rintro ⟨settled, hsettle, hreads⟩
          refine ⟨settled.divide, ?_, (reads_cons_of_word (hthere settled hsettle)).mp hreads⟩
          rw [hsettle]
          rfl
      · rw [hof] at hhere hthere
        exact hfirst (settlesFirst_long name value) hhere hthere
      · rw [hof] at hhere hthere
        exact hfirst (settlesFirst_cluster letter letters) hhere hthere

end Reading

/-! ## In the end -/

/-- What is made of a reading in an environment. -/
def conclude (environment : Environment) (reading : Reading) : Except Stop Invocation := do
  let given := if reading.noColour then some true else none
  let noColour ← consult environment noColourVariable given isAffirmative
  let home ← consult environment homeVariable reading.home id
  if reading.quiet && 0 < reading.verbosity then .error (.misuse .argumentConflict)
  else
    .ok
      { name := reading.name
        home
        dryRun := reading.dryRun
        quiet := reading.quiet
        noColour := noColour.getD false
        verbosity := reading.verbosity
        format := reading.format.getD .auto }

variable {words : List Bytes} {environment : Environment} {invocation : Invocation}

/-- What is concluded is not quiet if it is asked to tell more. -/
theorem conclude_eq_ok {final : Reading} (hconclude : conclude environment final = .ok invocation) :
    invocation.name = final.name ∧ invocation.verbosity = final.verbosity ∧
      (0 < invocation.verbosity → invocation.quiet = false) := by
  obtain ⟨_, -, hconclude⟩ := exists_of_bind_eq_ok hconclude
  obtain ⟨home, -, hconclude⟩ := exists_of_bind_eq_ok hconclude
  split at hconclude
  · cases hconclude
  · rename_i hexclude
    cases hconclude
    refine ⟨rfl, rfl, fun hverbosity => ?_⟩
    simpa [hverbosity] using hexclude

theorem parse_eq_ok_iff :
    parse words environment = .ok invocation ↔
      ∃ final, Reading.start.Reads words final ∧ conclude environment final = .ok invocation := by
  have hparse : parse words environment =
      (words.foldlM Reading.word Reading.start >>= Reading.settle) >>= conclude environment := by
    rw [bind_assoc]
    rfl
  rw [hparse, bind_eq_ok_iff]
  rfl

end Scaffolding.Command.Arguments
