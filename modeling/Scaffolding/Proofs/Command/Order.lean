import Mathlib.Data.List.Induction
import Scaffolding.Proofs.Command.Phrases

/-!
# Arguments in any order

What the phrases of a command line ask for adds up: each switch but the
verbosity is turned on once at most, and each slot is filled once at most.
Sums do not depend on an order, so neither does an invocation.

* `AddUp` is the sum of some items, and `foldlM_take_iff` says that it is
  what the items are read to.
* `AddUp.perm` is that the order does not matter.
* `ordered_parse` is the result for whole command lines.
-/

namespace Scaffolding.Command.Arguments

namespace Reading

variable {reading final : Reading} {slot other : Slot} {switch : Switch} {value : Bytes}
  {items items' : List Item}

/-! ## Sums -/

/-- That a reading is the sum of some items. -/
structure AddUp (items : List Item) (reading : Reading) : Prop where
  isTidy : reading.IsTidy
  verbosity_eq : reading.verbosity = min maxVerbosity (items.count (.turn .verbose))
  isOn_eq : ∀ switch, switch ≠ .verbose →
    (reading.isOn switch).toNat = items.count (.turn switch)
  spelled_eq : ∀ slot, (reading.spelled slot).toList = items.filterMap (Item.value? slot)

theorem verbosity_without (reading : Reading) (slot : Slot) :
    (reading.without slot).verbosity = reading.verbosity := by
  cases slot <;> rfl

theorem isOn_without (reading : Reading) (slot : Slot) (switch : Switch) :
    (reading.without slot).isOn switch = reading.isOn switch := by
  cases slot <;> cases switch <;> rfl

theorem spelled_without (reading : Reading) (slot other : Slot) :
    (reading.without slot).spelled other =
      if slot = other then none else reading.spelled other := by
  cases slot <;> cases other <;> rfl

theorem IsTidy.without (htidy : reading.IsTidy) (slot : Slot) : (reading.without slot).IsTidy := by
  obtain ⟨hpending, hdivided, hnamed⟩ := htidy
  cases slot with
  | name => exact ⟨hpending, hdivided, rfl⟩
  | home | format => exact ⟨hpending, hdivided, hnamed⟩

theorem verbosity_off (reading : Reading) (switch : Switch) :
    (reading.off switch).verbosity = reading.verbosity := by
  cases switch <;> rfl

theorem isOn_off (reading : Reading) (switch other : Switch) :
    (reading.off switch).isOn other = if switch = other then false else reading.isOn other := by
  cases switch <;> cases other <;> rfl

theorem spelled_off (reading : Reading) (switch : Switch) (slot : Slot) :
    (reading.off switch).spelled slot = reading.spelled slot := by
  cases switch <;> cases slot <;> rfl

theorem IsTidy.off (htidy : reading.IsTidy) (switch : Switch) : (reading.off switch).IsTidy := by
  obtain ⟨hpending, hdivided, hnamed⟩ := htidy
  cases switch <;> exact ⟨hpending, hdivided, hnamed⟩

/-! ## One item more -/

theorem count_concat_fill (items : List Item) (slot : Slot) (value : Bytes) (switch : Switch) :
    (items ++ [Item.fill slot value]).count (.turn switch) = items.count (.turn switch) := by
  simp

theorem count_concat_turn (items : List Item) (switch other : Switch) :
    (items ++ [Item.turn switch]).count (.turn other) =
      items.count (.turn other) + if switch = other then 1 else 0 := by
  rw [List.count_append, List.count_singleton]
  simp

theorem values_concat_fill (items : List Item) (slot : Slot) (value : Bytes) (other : Slot) :
    (items ++ [Item.fill slot value]).filterMap (Item.value? other) =
      items.filterMap (Item.value? other) ++ if slot = other then [value] else [] := by
  rw [List.filterMap_append]
  by_cases hslot : slot = other
  · simp [Item.value?, hslot]
  · simp [Item.value?, hslot]

theorem values_concat_turn (items : List Item) (switch : Switch) (slot : Slot) :
    (items ++ [Item.turn switch]).filterMap (Item.value? slot) =
      items.filterMap (Item.value? slot) := by
  rw [List.filterMap_append]
  exact List.append_nil _

theorem eq_some_of_toList {filled : Option Bytes} {values : List Bytes}
    (hlist : filled.toList = values ++ [value]) : filled = some value ∧ values = [] := by
  cases filled with
  | none => simp at hlist
  | some other =>
    cases values with
    | nil =>
      cases hlist
      exact ⟨rfl, rfl⟩
    | cons first values => simp at hlist

theorem addUp_fill_iff :
    AddUp (items ++ [Item.fill slot value]) reading ↔
      reading.IsTidy ∧ reading.spelled slot = some value ∧ AddUp items (reading.without slot) := by
  constructor
  · rintro ⟨htidy, hverbosity, hon, hspelled⟩
    have hhere := hspelled slot
    rw [values_concat_fill, if_pos rfl] at hhere
    obtain ⟨hsome, hnil⟩ := eq_some_of_toList hhere
    refine ⟨htidy, hsome, htidy.without slot, ?_, ?_, ?_⟩
    · rw [verbosity_without, hverbosity, count_concat_fill]
    · intro switch hswitch
      rw [isOn_without, hon switch hswitch, count_concat_fill]
    · intro other
      rw [spelled_without]
      by_cases hslot : slot = other
      · rw [if_pos hslot, ← hslot, hnil]
        rfl
      · rw [if_neg hslot, hspelled other, values_concat_fill, if_neg hslot, List.append_nil]
  · rintro ⟨htidy, hsome, -, hverbosity, hon, hspelled⟩
    refine ⟨htidy, ?_, ?_, ?_⟩
    · rw [count_concat_fill, ← hverbosity, verbosity_without]
    · intro switch hswitch
      rw [count_concat_fill, ← hon switch hswitch, isOn_without]
    · intro other
      rw [values_concat_fill, ← hspelled other, spelled_without]
      by_cases hslot : slot = other
      · rw [if_pos hslot, if_pos hslot, ← hslot, hsome]
        rfl
      · rw [if_neg hslot, if_neg hslot, List.append_nil]

theorem addUp_turn_iff (hswitch : switch ≠ .verbose) :
    AddUp (items ++ [Item.turn switch]) reading ↔
      reading.IsTidy ∧ reading.isOn switch = true ∧ AddUp items (reading.off switch) := by
  constructor
  · rintro ⟨htidy, hverbosity, hon, hspelled⟩
    have hhere := hon switch hswitch
    rw [count_concat_turn, if_pos rfl] at hhere
    have hset : reading.isOn switch = true ∧ items.count (Item.turn switch) = 0 := by
      cases hstate : reading.isOn switch with
      | true =>
        rw [hstate, Bool.toNat_true] at hhere
        exact ⟨rfl, by omega⟩
      | false =>
        rw [hstate, Bool.toNat_false] at hhere
        omega
    refine ⟨htidy, hset.1, htidy.off switch, ?_, ?_, ?_⟩
    · rw [verbosity_off, hverbosity, count_concat_turn, if_neg hswitch, Nat.add_zero]
    · intro other hother
      rw [isOn_off]
      by_cases hsame : switch = other
      · rw [if_pos hsame, ← hsame, hset.2]
        rfl
      · rw [if_neg hsame, hon other hother, count_concat_turn, if_neg hsame, Nat.add_zero]
    · intro slot
      rw [spelled_off, hspelled slot, values_concat_turn]
  · rintro ⟨htidy, hset, -, hverbosity, hon, hspelled⟩
    refine ⟨htidy, ?_, ?_, ?_⟩
    · rw [count_concat_turn, if_neg hswitch, Nat.add_zero, ← hverbosity, verbosity_off]
    · intro other hother
      rw [count_concat_turn, ← hon other hother, isOn_off]
      by_cases hsame : switch = other
      · rw [if_pos hsame, if_pos hsame, ← hsame, hset]
        rfl
      · rw [if_neg hsame, if_neg hsame, Nat.add_zero]
    · intro slot
      rw [values_concat_turn, ← hspelled slot, spelled_off]

theorem addUp_verbose_iff :
    AddUp (items ++ [Item.turn .verbose]) final ↔
      ∃ reading, AddUp items reading ∧
        final = { reading with verbosity := min maxVerbosity (reading.verbosity + 1) } := by
  have hisOn : ∀ (reading : Reading) verbosity switch,
      { reading with verbosity }.isOn switch = reading.isOn switch := by
    intro reading verbosity switch
    cases switch <;> rfl
  have hspelled : ∀ (reading : Reading) verbosity slot,
      { reading with verbosity }.spelled slot = reading.spelled slot := by
    intro reading verbosity slot
    cases slot <;> rfl
  -- Beyond the greatest verbosity the number before does not follow from the number after.
  constructor
  · rintro ⟨⟨hpending, hdivided, hnamed⟩, hverbosity, hon, hfilled⟩
    refine ⟨{ final with verbosity := min maxVerbosity (items.count (.turn .verbose)) },
      ⟨⟨hpending, hdivided, hnamed⟩, rfl, ?_, ?_⟩, ?_⟩
    · intro switch hswitch
      rw [hisOn, hon switch hswitch, count_concat_turn, if_neg hswitch.symm, Nat.add_zero]
    · intro slot
      rw [hspelled, hfilled slot, values_concat_turn]
    · rw [count_concat_turn, if_pos rfl] at hverbosity
      have hsame : final.verbosity =
          min maxVerbosity (min maxVerbosity (items.count (.turn .verbose)) + 1) := by omega
      simp only [← hsame]
  · rintro ⟨reading, ⟨⟨hpending, hdivided, hnamed⟩, hverbosity, hon, hfilled⟩, rfl⟩
    refine ⟨⟨hpending, hdivided, hnamed⟩, ?_, ?_, ?_⟩
    · rw [count_concat_turn, if_pos rfl]
      simp only
      omega
    · intro switch hswitch
      rw [hisOn, hon switch hswitch, count_concat_turn, if_neg hswitch.symm, Nat.add_zero]
    · intro slot
      rw [hspelled, hfilled slot, values_concat_turn]

/-- Nothing adds up to the reading of nothing. -/
theorem addUp_nil_iff : AddUp [] reading ↔ reading = start := by
  constructor
  · rintro ⟨⟨hpending, hdivided, hnamed⟩, hverbosity, hon, hspelled⟩
    have hname : reading.name = none := by simpa [spelled] using hspelled .name
    have hhome : reading.home = none := by simpa [spelled] using hspelled .home
    have hformat : reading.format = none := by simpa [spelled] using hspelled .format
    have hquiet : reading.quiet = false := by simpa [isOn] using hon .quiet nofun
    have hcolour : reading.noColour = false := by simpa [isOn] using hon .noColour nofun
    have hdry : reading.dryRun = false := by simpa [isOn] using hon .dryRun nofun
    rw [List.count_nil, Nat.min_zero] at hverbosity
    rw [hname] at hnamed
    obtain ⟨_, _, _, _, _, _, _, _, _, _⟩ := reading
    cases hname
    cases hhome
    cases hformat
    cases hquiet
    cases hcolour
    cases hdry
    cases hverbosity
    cases hpending
    cases hdivided
    cases hnamed
    rfl
  · rintro rfl
    refine ⟨isTidy_start, rfl, ?_, ?_⟩
    · intro switch _
      cases switch <;> rfl
    · intro slot
      cases slot <;> rfl

/-! ## All items -/

/-- What items are read to is their sum. -/
theorem foldlM_take_iff : items.foldlM take start = .ok reading ↔ AddUp items reading := by
  induction items using List.reverseRecOn generalizing reading with
  | nil =>
    rw [addUp_nil_iff, List.foldlM_nil]
    exact ⟨fun h => by cases h; rfl, fun h => by rw [h]; rfl⟩
  | append_singleton items item ih =>
    have hone : ∀ middle, [item].foldlM take middle = middle.take item := fun _ => bind_pure _
    rw [List.foldlM_append, bind_eq_ok_iff]
    simp only [ih, hone]
    cases item with
    | fill slot value =>
      rw [addUp_fill_iff]
      constructor
      · rintro ⟨middle, hsum, htake⟩
        obtain ⟨htidy, hspelled, rfl⟩ := (take_fill_iff hsum.isTidy).mp htake
        exact ⟨htidy, hspelled, hsum⟩
      · rintro ⟨htidy, hspelled, hsum⟩
        exact ⟨_, hsum, (take_fill_iff hsum.isTidy).mpr ⟨htidy, hspelled, rfl⟩⟩
    | turn switch =>
      by_cases hswitch : switch = .verbose
      · subst hswitch
        rw [addUp_verbose_iff]
        refine exists_congr fun middle => and_congr_right fun hsum => ?_
        rw [take_verbose hsum.isTidy, Except.ok.injEq, eq_comm]
      · rw [addUp_turn_iff hswitch]
        constructor
        · rintro ⟨middle, hsum, htake⟩
          obtain ⟨htidy, hset, rfl⟩ := (take_turn_iff hsum.isTidy hswitch).mp htake
          exact ⟨htidy, hset, hsum⟩
        · rintro ⟨htidy, hset, hsum⟩
          exact ⟨_, hsum, (take_turn_iff hsum.isTidy hswitch).mpr ⟨htidy, hset, rfl⟩⟩

/-- A sum does not depend on the order of the items. -/
theorem AddUp.perm (hperm : items'.Perm items) (hsum : AddUp items reading) :
    AddUp items' reading where
  isTidy := hsum.isTidy
  verbosity_eq := by rw [hperm.count_eq, hsum.verbosity_eq]
  isOn_eq switch hswitch := by rw [hperm.count_eq, hsum.isOn_eq switch hswitch]
  spelled_eq slot := by
    have hvalues := hperm.filterMap (Item.value? slot)
    rw [← hsum.spelled_eq slot] at hvalues
    -- A slot has one value at most, and a list of one has no other order.
    cases hfilled : reading.spelled slot with
    | none =>
      rw [hfilled] at hvalues
      exact (List.perm_nil.mp hvalues).symm
    | some value =>
      rw [hfilled] at hvalues
      exact (List.perm_singleton.mp hvalues).symm

/-- A switch that is among some items is on in their sum. -/
theorem AddUp.noColour_of_mem (hsum : AddUp items reading) (hmem : .turn .noColour ∈ items) :
    reading.noColour = true := by
  have hpos := List.count_pos_iff.mpr hmem
  rw [← hsum.isOn_eq .noColour nofun] at hpos
  by_contra hoff
  rw [isOn, eq_false_of_ne_true hoff] at hpos
  cases hpos

/-- An option that is among some items is filled in their sum. -/
theorem AddUp.isSome_home_of_mem (hsum : AddUp items reading) (hmem : .fill .home value ∈ items) :
    reading.home.isSome = true := by
  have hvalue : value ∈ items.filterMap (Item.value? .home) :=
    List.mem_filterMap.mpr ⟨_, hmem, rfl⟩
  rw [← hsum.spelled_eq .home, Option.mem_toList] at hvalue
  obtain ⟨home, hhome, -⟩ := Option.map_eq_some_iff.mp hvalue
  rw [hhome]
  rfl

/-! ## Behind the divider -/

/-- The divider before a plain word makes no difference but to what would come behind. -/
theorem reads_divided (htidy : reading.IsTidy) (hvalue : Word.of value = .plain value)
    (hreads : reading.Reads [value] final) :
    reading.Reads [Text.encode "--", value] final.divide := by
  have hof : Word.of (Text.encode "--") = .divider := by decide
  have hwaits := not_waits_of_settle (settle_of_settled htidy.pending_eq)
  have hdivider : reading.word (Text.encode "--") = .ok reading.divide := by
    rw [word_of_undivided htidy.isDivided_eq, hof]
  obtain ⟨next, hword, hnext⟩ := reads_cons_iff.mp hreads
  rw [word_of_undivided htidy.isDivided_eq, hvalue] at hword
  have hnamed : plain.named reading value = .ok next :=
    (plain_eq_named hwaits value).symm.trans hword
  rw [reads_cons_of_word hdivider, reads_cons_iff]
  refine ⟨next.divide, ?_, ?_⟩
  · have hbehind : ¬ reading.divide.Waits := hwaits
    rw [word_of_divided rfl, plain_eq_named hbehind, named_divide, hnamed]
    rfl
  · rw [reads_nil_iff, settle_divide, reads_nil_iff.mp hnext]
    rfl

end Reading

/-! ## Whole command lines -/

variable {environment environment' : Environment} {invocation : Invocation} {final : Reading}
  {words : List Bytes} {phrases : List Phrase}

open Reading (AddUp)

/-- Phrases ask for the invocation that is concluded from the sum of their items. -/
theorem parse_phrases_iff :
    parse (phrases.flatMap Phrase.words) environment = .ok invocation ↔
      ∃ final, AddUp (phrases.flatMap Phrase.items) final ∧
        conclude environment final = .ok invocation := by
  rw [parse_eq_ok_iff]
  refine exists_congr fun final => and_congr_left fun _ => ?_
  have hreads := @Reading.reads_phrases_iff Reading.start final [] Reading.isTidy_start phrases
  rw [List.append_nil] at hreads
  rw [hreads]
  simp only [Reading.foldlM_take_iff, Reading.reads_nil_iff]
  constructor
  · rintro ⟨reading, hsum, hsettle⟩
    rw [Reading.settle_of_settled hsum.isTidy.pending_eq] at hsettle
    cases hsettle
    exact hsum
  · intro hsum
    exact ⟨final, hsum, Reading.settle_of_settled hsum.isTidy.pending_eq⟩

/-- A variable is not asked where the words say it already. -/
theorem consult_congr {α : Type} {read : Option α} {variableName : String} {meaning : String → α}
    (hget : read.isSome = true ∨
      environment'.get? variableName = environment.get? variableName) :
    consult environment' variableName read meaning =
      consult environment variableName read meaning := by
  cases read with
  | some value => rfl
  | none =>
    unfold consult
    rw [hget.resolve_left nofun]

theorem conclude_congr
    (hcolour : final.noColour = true ∨
      environment'.get? noColourVariable = environment.get? noColourVariable)
    (hhome : final.home.isSome = true ∨
      environment'.get? homeVariable = environment.get? homeVariable) :
    conclude environment' final = conclude environment final := by
  have hgiven : (if final.noColour then some true else none).isSome = true ∨
      environment'.get? noColourVariable = environment.get? noColourVariable := by
    refine hcolour.imp_left fun hgiven => ?_
    rw [hgiven]
    rfl
  unfold conclude
  simp only [consult_congr hgiven, consult_congr hhome]

/-- Words without a divider that ask for an invocation are made of phrases, and these can come in
any order.  The verbosity is the number of times that it is asked for, if that is not too great, and
the name is the one plain word among the phrases, if there is one.  The environment is not asked for
what the phrases give.  A divider can come before the name if that is last. -/
theorem ordered_parse (hdivider : Text.encode "--" ∉ words)
    (hparse : parse words environment = .ok invocation) :
    (∃ phrases : List Phrase, phrases.flatMap Phrase.words = words) ∧
    ∀ phrases : List Phrase, phrases.flatMap Phrase.words = words →
      let items := phrases.flatMap Phrase.items
      (∀ phrases' : List Phrase, phrases'.Perm phrases →
        parse (phrases'.flatMap Phrase.words) environment = .ok invocation) ∧
      invocation.verbosity = min 255 (items.count (.turn .verbose)) ∧
      items.filterMap (Item.value? .name) = (invocation.name.map Text.encode).toList ∧
      (∀ environment',
        (.turn .noColour ∈ items ∨
          environment'.get? noColourVariable = environment.get? noColourVariable) →
        ((∃ value, .fill .home value ∈ items) ∨
          environment'.get? homeVariable = environment.get? homeVariable) →
        parse words environment' = .ok invocation) ∧
      ∀ before value (hvalue : Word.of value = .plain value),
        phrases = before ++ [⟨[value], [.fill .name value], .name hvalue⟩] →
          parse (before.flatMap Phrase.words ++ [Text.encode "--", value]) environment =
            .ok invocation := by
  constructor
  · obtain ⟨final, hreads, -⟩ := parse_eq_ok_iff.mp hparse
    exact Reading.exists_phrases Reading.isTidy_start hdivider hreads
  rintro phrases rfl items
  obtain ⟨final, hsum, hconclude⟩ := parse_phrases_iff.mp hparse
  obtain ⟨hname, hverbosity, -⟩ := conclude_eq_ok hconclude
  refine ⟨?_, ?_, ?_, ?_, ?_⟩
  · intro phrases' hperm
    exact parse_phrases_iff.mpr
      ⟨final, hsum.perm (hperm.flatMap_right Phrase.items), hconclude⟩
  · rw [hverbosity]
    exact hsum.verbosity_eq
  · rw [hname]
    exact (hsum.spelled_eq .name).symm
  · intro environment' hcolour hhome
    refine parse_phrases_iff.mpr ⟨final, hsum, ?_⟩
    rw [conclude_congr (hcolour.imp_left hsum.noColour_of_mem) ?_]
    · exact hconclude
    · exact hhome.imp_left fun ⟨_, hmem⟩ => hsum.isSome_home_of_mem hmem
  · rintro before value hvalue rfl
    obtain ⟨final', hreads, hconclude'⟩ := parse_eq_ok_iff.mp hparse
    rw [List.flatMap_append, List.flatMap_singleton,
      Reading.reads_phrases_iff Reading.isTidy_start] at hreads
    obtain ⟨next, htake, hnext⟩ := hreads
    have hlast := Reading.reads_divided (Reading.isTidy_start.of_foldlM htake) hvalue hnext
    refine parse_eq_ok_iff.mpr ⟨final'.divide, ?_, hconclude'⟩
    exact (Reading.reads_phrases_iff Reading.isTidy_start before).mpr ⟨next, htake, hlast⟩

/-- Four phrases, read in their order, backwards, and with the divider before the name. -/
theorem ordered_parse_backwards :
    let verbose := [Text.encode "-v"]
    let home := [Text.encode "--biqt-home", Text.encode "/biqt"]
    let louder := [Text.encode "--verbose"]
    let name := Text.encode "X"
    let invocation : Invocation := ⟨some "X", some "/biqt", false, false, false, 2, .auto⟩
    parse (verbose ++ home ++ louder ++ [name]) .empty = .ok invocation ∧
      parse (name :: louder ++ home ++ verbose) .empty = .ok invocation ∧
      parse (verbose ++ home ++ louder ++ [Text.encode "--", name]) .empty = .ok invocation := by
  intro verbose home louder name invocation
  let before : List Phrase :=
    [ ⟨verbose, [.turn .verbose], @IsPhrase.cluster _ [.verbose] (by decide) (by decide)⟩,
      ⟨home, [.fill .home (Text.encode "/biqt")], .separate rfl (by decide) (by decide)⟩,
      ⟨louder, [.turn .verbose], .switch (by decide)⟩ ]
  have hname : Word.of name = .plain name := by decide
  let last : Phrase := ⟨[name], [.fill .name name], .name hname⟩
  have hparse : parse (verbose ++ home ++ louder ++ [name]) .empty = .ok invocation := by
    decide +kernel
  obtain ⟨-, hphrases⟩ := ordered_parse (by decide) hparse
  obtain ⟨hperm, -, -, -, hdivided⟩ := hphrases (before ++ [last]) rfl
  exact ⟨hparse, hperm _ (List.reverse_perm _), hdivided before name hname rfl⟩

end Scaffolding.Command.Arguments
