import Scaffolding.Proofs.Command.Settling

/-!
# The phrases of a command line

Words of a command line stand alone or in pairs: an option that is not
given its value in its own word takes the next one.  `Phrase` is what
stands together, with the items that it asks for.

* `take` reads one item at once, and `take_fill_iff` and `take_turn_iff`
  tell what is different afterwards.
* `reads_phrases_iff`: to read phrases is to take their items one after
  another.
* `exists_phrases`: whatever can be read without a divider is made of
  phrases.
-/

namespace Scaffolding.Command.Arguments

/-! ## Phrases -/

/-- What is asked for at once: a switch, or a value for a slot. -/
inductive Item where
  | turn (switch : Switch)
  | fill (slot : Slot) (value : Bytes)
  deriving DecidableEq

/-- The value that an item has for a slot. -/
def Item.value? (slot : Slot) : Item → Option Bytes
  | .turn _ => none
  | .fill other value => if other = slot then some value else none

/-- That some words have to stand together, and ask for some items. -/
inductive IsPhrase : List Bytes → List Item → Prop where
  /-- A switch by its long name. -/
  | switch {word : Bytes} {switch : Switch}
      (hword : Word.of word = .long (Text.encode switch.long) none) :
      IsPhrase [word] [.turn switch]
  /-- Switches by their letters. -/
  | cluster {word : Bytes} {switches : List Switch}
      (hshort : ∀ switch ∈ switches, switch.short?.isSome)
      (hword : Word.of word = .cluster (switches.map Switch.short?)) :
      IsPhrase [word] (switches.map .turn)
  /-- An option with its value. -/
  | attached {word value : Bytes} {slot : Slot} {name : String} (hslot : slot.long? = some name)
      (hword : Word.of word = .long (Text.encode name) (some value)) :
      IsPhrase [word] [.fill slot value]
  /-- An option and its value. -/
  | separate {word value : Bytes} {slot : Slot} {name : String} (hslot : slot.long? = some name)
      (hword : Word.of word = .long (Text.encode name) none)
      (hvalue : Word.of value = .plain value) :
      IsPhrase [word, value] [.fill slot value]
  /-- The name of the provider. -/
  | name {word : Bytes} (hword : Word.of word = .plain word) :
      IsPhrase [word] [.fill .name word]

/-- Words that have to stand together in a command line, and what they ask for. -/
structure Phrase where
  words : List Bytes
  items : List Item
  isPhrase : IsPhrase words items

namespace Reading

variable {reading next final : Reading} {slot : Slot} {switch : Switch} {word value : Bytes}
  {words : List Bytes} {items : List Item} {phrase : Phrase} {phrases : List Phrase}

/-! ## Items -/

/-- That nothing waits in a reading, and that its two marks tell of what was read so far. -/
structure IsTidy (reading : Reading) : Prop where
  pending_eq : reading.pending = none
  isDivided_eq : reading.isDivided = false
  isNamed_eq : reading.isNamed = reading.name.isSome

theorem isTidy_start : start.IsTidy := ⟨rfl, rfl, rfl⟩

/-- Reads one item at once. -/
def take (reading : Reading) : Item → Except Stop Reading
  | .turn switch => reading.turn switch
  | .fill .name value => { reading with isNamed := true }.fill .name value
  | .fill slot value => reading.fill slot value

/-- The bytes of what fills a slot. -/
def spelled (reading : Reading) : Slot → Option Bytes
  | .name => reading.name.map Text.encode
  | .home => reading.home.map Text.encode
  | .format => reading.format.map fun format => Text.encode format.word

/-- The reading with a slot empty. -/
def without (reading : Reading) : Slot → Reading
  | .name => { reading with name := none, isNamed := false }
  | .home => { reading with home := none }
  | .format => { reading with format := none }

/-- Whether a switch is on that is turned on once at most. -/
def isOn (reading : Reading) : Switch → Bool
  | .quiet => reading.quiet
  | .noColour => reading.noColour
  | .dryRun => reading.dryRun
  | .verbose | .help | .version => false

/-- The reading with such a switch off. -/
def off (reading : Reading) : Switch → Reading
  | .quiet => { reading with quiet := false }
  | .noColour => { reading with noColour := false }
  | .dryRun => { reading with dryRun := false }
  | .verbose | .help | .version => reading

theorem asText_eq_ok_iff {text : String} : asText value = .ok text ↔ Text.encode text = value := by
  rw [@eq_comm _ (Text.encode text), ← Text.decode?_eq_some_iff]
  unfold asText
  cases Text.decode? value with
  | none => exact iff_of_false nofun nofun
  | some other => rw [Except.ok.injEq, Option.some.injEq]

theorem asFormat_eq_ok_iff {format : Format} :
    asFormat value = .ok format ↔ Text.encode format.word = value := by
  unfold asFormat
  constructor
  · intro hformat
    split at hformat
    · rename_i found hfound
      cases hformat
      obtain ⟨text, htext, hword⟩ := Option.bind_eq_some_iff.mp hfound
      have hsame : format.word = text := by simpa using List.find?_some hword
      rw [Text.decode?_eq_some_iff.mp htext, hsame]
    · cases hformat
  · rintro rfl
    rw [Text.decode?_encode, Option.bind_some, Format.ofWord?_word]

/-- A value goes to its slot if the slot is empty, and nothing else is different then. -/
theorem take_fill_iff (htidy : reading.IsTidy) :
    reading.take (.fill slot value) = .ok next ↔
      next.IsTidy ∧ next.spelled slot = some value ∧ reading = next.without slot := by
  obtain ⟨name, home, format, dryRun, quiet, noColour, verbosity, pending, isNamed, isDivided⟩ :=
    reading
  obtain ⟨rfl, rfl, hnamed⟩ := htidy
  obtain rfl : isNamed = name.isSome := hnamed
  constructor
  · intro htake
    cases slot with
    | name =>
      unfold take fill at htake
      cases name with
      | some name => cases htake
      | none =>
        obtain ⟨text, htext, rfl⟩ := Script.exists_of_map_eq_ok htake
        exact ⟨⟨rfl, rfl, rfl⟩, congrArg some (asText_eq_ok_iff.mp htext), rfl⟩
    | home =>
      unfold take fill at htake
      cases home with
      | some home => cases htake
      | none =>
        obtain ⟨text, htext, rfl⟩ := Script.exists_of_map_eq_ok htake
        exact ⟨⟨rfl, rfl, rfl⟩, congrArg some (asText_eq_ok_iff.mp htext), rfl⟩
    | format =>
      unfold take fill at htake
      cases format with
      | some format => cases htake
      | none =>
        obtain ⟨found, hfound, rfl⟩ := Script.exists_of_map_eq_ok htake
        exact ⟨⟨rfl, rfl, rfl⟩, congrArg some (asFormat_eq_ok_iff.mp hfound), rfl⟩
  · obtain ⟨name', home', format', _, _, _, _, _, isNamed', _⟩ := next
    rintro ⟨⟨rfl, rfl, hnamed⟩, hspelled, hsame⟩
    obtain rfl : isNamed' = name'.isSome := hnamed
    cases slot with
    | name =>
      cases hsame
      obtain ⟨text, rfl, hvalue⟩ := Option.map_eq_some_iff.mp hspelled
      show (asText value).map _ = _
      rw [asText_eq_ok_iff.mpr hvalue]
      rfl
    | home =>
      cases hsame
      obtain ⟨text, rfl, hvalue⟩ := Option.map_eq_some_iff.mp hspelled
      show (asText value).map _ = _
      rw [asText_eq_ok_iff.mpr hvalue]
      rfl
    | format =>
      cases hsame
      obtain ⟨found, rfl, hvalue⟩ := Option.map_eq_some_iff.mp hspelled
      show (asFormat value).map _ = _
      rw [asFormat_eq_ok_iff.mpr hvalue]
      rfl

/-- A switch is turned on if it is off, and nothing else is different then. -/
theorem take_turn_iff (htidy : reading.IsTidy) (hswitch : switch ≠ .verbose) :
    reading.take (.turn switch) = .ok next ↔
      next.IsTidy ∧ next.isOn switch = true ∧ reading = next.off switch := by
  have hsettle := settle_of_settled htidy.pending_eq
  obtain ⟨name, home, format, dryRun, quiet, noColour, verbosity, pending, isNamed, isDivided⟩ :=
    reading
  obtain ⟨rfl, rfl, hnamed⟩ := htidy
  obtain rfl : isNamed = name.isSome := hnamed
  simp only [take, turn, hsettle]
  constructor
  · intro hturn
    cases switch with
    | verbose => exact absurd rfl hswitch
    | help | version => cases hturn
    | quiet =>
      cases quiet with
      | true => cases hturn
      | false =>
        cases hturn
        exact ⟨⟨rfl, rfl, rfl⟩, rfl, rfl⟩
    | noColour =>
      cases noColour with
      | true => cases hturn
      | false =>
        cases hturn
        exact ⟨⟨rfl, rfl, rfl⟩, rfl, rfl⟩
    | dryRun =>
      cases dryRun with
      | true => cases hturn
      | false =>
        cases hturn
        exact ⟨⟨rfl, rfl, rfl⟩, rfl, rfl⟩
  · obtain ⟨name', _, _, dryRun', quiet', noColour', _, _, isNamed', _⟩ := next
    rintro ⟨⟨rfl, rfl, hnamed⟩, hon, hsame⟩
    obtain rfl : isNamed' = name'.isSome := hnamed
    cases switch with
    | verbose => exact absurd rfl hswitch
    | help | version => cases hon
    | quiet | noColour | dryRun =>
      cases hsame
      cases hon
      rfl

theorem take_verbose (htidy : reading.IsTidy) :
    reading.take (.turn .verbose) =
      .ok { reading with verbosity := min maxVerbosity (reading.verbosity + 1) } := by
  unfold take turn
  rw [settle_of_settled htidy.pending_eq]
  rfl

theorem IsTidy.of_take (htidy : reading.IsTidy) {item : Item}
    (htake : reading.take item = .ok next) : next.IsTidy := by
  cases item with
  | fill slot value => exact ((take_fill_iff htidy).mp htake).1
  | turn switch =>
    by_cases hswitch : switch = .verbose
    · subst hswitch
      rw [take_verbose htidy] at htake
      cases htake
      exact ⟨htidy.pending_eq, htidy.isDivided_eq, htidy.isNamed_eq⟩
    · exact ((take_turn_iff htidy hswitch).mp htake).1

theorem IsTidy.of_foldlM (htidy : reading.IsTidy) (htake : items.foldlM take reading = .ok next) :
    next.IsTidy := by
  induction items generalizing reading with
  | nil =>
    cases htake
    exact htidy
  | cons item items ih =>
    obtain ⟨middle, hfirst, hrest⟩ := exists_of_bind_eq_ok htake
    exact ih (htidy.of_take hfirst) hrest

/-! ## From words to items -/

theorem long_switch (reading : Reading) (switch : Switch) :
    reading.long (Text.encode switch.long) none = reading.turn switch := by
  have hfind : (Switch.all.find? fun other => Text.encode other.long = Text.encode switch.long) =
      some switch := by
    cases switch <;> decide
  unfold long
  rw [hfind]
  rfl

theorem long_option {name : String} (hslot : slot.long? = some name) (value : Option Bytes) :
    reading.long (Text.encode name) value = reading.option slot value := by
  have hswitch : (Switch.all.find? fun other => Text.encode other.long = Text.encode name) =
      none := by
    cases slot <;> cases hslot <;> decide
  have hfind : ([Slot.home, Slot.format].find? fun other =>
      other.long?.map Text.encode = some (Text.encode name)) = some slot := by
    cases slot <;> cases hslot <;> decide
  unfold long
  rw [hswitch, hfind]

theorem take_option {name : String} (hslot : slot.long? = some name) (value : Bytes) :
    reading.take (.fill slot value) = reading.fill slot value := by
  cases slot with
  | name => cases hslot
  | home | format => rfl

theorem cluster_eq_foldlM {switches : List Switch}
    (hshort : ∀ switch ∈ switches, switch.short?.isSome) :
    reading.cluster (switches.map Switch.short?) =
      (switches.map Item.turn).foldlM take reading := by
  induction switches generalizing reading with
  | nil => rfl
  | cons switch switches ih =>
    obtain ⟨hhere, hrest⟩ := List.forall_mem_cons.mp hshort
    have hfind : (Switch.all.find? fun other =>
        other.short?.isSome && other.short? = switch.short?) = some switch := by
      cases switch with
      | noColour | dryRun => cases hhere
      | verbose | quiet | help | version => rfl
    simp only [List.map_cons, cluster, hfind, List.foldlM_cons]
    show (reading.turn switch >>= _) = reading.turn switch >>= _
    refine bind_congr fun turned => ih hrest

/-- A value that waits in a reading that is tidy otherwise is settled like one that is taken. -/
theorem settle_pending (htidy : reading.IsTidy) (slot : Slot) (value : Bytes) (isNamed : Bool) :
    { reading with pending := some ⟨slot, some value⟩, isNamed }.settle =
      { reading with isNamed }.fill slot value := by
  obtain ⟨name, home, format, dryRun, quiet, noColour, verbosity, pending, _, isDivided⟩ := reading
  obtain ⟨rfl, -, -⟩ := htidy
  rfl

/-- To read a phrase is to take its items. -/
theorem reads_phrase_iff (htidy : reading.IsTidy) (phrase : Phrase) :
    reading.Reads (phrase.words ++ words) final ↔
      ∃ next, phrase.items.foldlM take reading = .ok next ∧ next.Reads words final := by
  have hsettle := settle_of_settled htidy.pending_eq
  have hone : ∀ item, [item].foldlM take reading = reading.take item := fun item => bind_pure _
  obtain ⟨_, _, hphrase⟩ := phrase
  cases hphrase with
  | @switch word switch hword =>
    have hhere : reading.word word = reading.take (.turn switch) := by
      rw [word_of_undivided htidy.isDivided_eq, hword]
      exact reading.long_switch switch
    simp only [List.singleton_append, reads_cons_iff, hone, hhere]
  | @cluster word switches hshort hword =>
    have hhere : reading.word word = (switches.map Item.turn).foldlM take reading := by
      rw [word_of_undivided htidy.isDivided_eq, hword]
      exact cluster_eq_foldlM hshort
    simp only [List.singleton_append, reads_cons_iff, hhere]
  | @attached word value slot name hslot hword =>
    have hhere : reading.word word = reading.take (.fill slot value) := by
      rw [word_of_undivided htidy.isDivided_eq, hword, take_option hslot]
      show reading.long _ _ = _
      rw [long_option hslot]
      unfold option
      rw [hsettle]
      rfl
    simp only [List.singleton_append, reads_cons_iff, hone, hhere]
  | @separate word value slot name hslot hword hvalue =>
    have hhere : reading.word word = .ok { reading with pending := some ⟨slot, none⟩ } := by
      rw [word_of_undivided htidy.isDivided_eq, hword]
      show reading.long _ _ = _
      rw [long_option hslot]
      unfold option
      rw [hsettle]
      rfl
    have hthere : { reading with pending := some ⟨slot, none⟩ }.word value =
        .ok { reading with pending := some ⟨slot, some value⟩ } := by
      have hundivided : { reading with pending := some ⟨slot, none⟩ }.isDivided = false :=
        htidy.isDivided_eq
      rw [word_of_undivided hundivided, hvalue]
      simp only [plain, htidy.isDivided_eq, Bool.false_eq_true, if_false]
    have hwaits : ¬ { reading with pending := some ⟨slot, some value⟩ }.Waits := by
      rintro ⟨_, hpending⟩
      cases hpending
    have hfill := settle_pending htidy slot value reading.isNamed
    rw [List.cons_append, List.singleton_append, reads_cons_of_word hhere,
      reads_cons_of_word hthere, reads_iff_of_not_waits hwaits, hone, take_option hslot]
    simp only [hfill]
  | @name word hword =>
    have hhere : reading.word word = plain.named reading word := by
      rw [word_of_undivided htidy.isDivided_eq, hword]
      exact plain_eq_named (not_waits_of_settle hsettle) word
    rw [List.singleton_append, hone]
    cases hnamed : reading.isNamed with
    | true =>
      have hfilled : { reading with isNamed := true }.isFilled .name = true :=
        htidy.isNamed_eq.symm.trans hnamed
      rw [reads_cons_iff, hhere]
      simp only [plain.named, hnamed, take, fill, hfilled, if_true]
      simp
    | false =>
      have hwaiting : reading.word word =
          .ok { reading with pending := some ⟨.name, some word⟩, isNamed := true } := by
        rw [hhere]
        unfold plain.named
        rw [hnamed, if_neg Bool.false_ne_true, hsettle]
        rfl
      have hwaits :
          ¬ { reading with pending := some ⟨.name, some word⟩, isNamed := true }.Waits := by
        rintro ⟨_, hpending⟩
        cases hpending
      rw [reads_cons_of_word hwaiting, reads_iff_of_not_waits hwaits, settle_pending htidy]
      rfl

/-- To read phrases is to take their items one after another. -/
theorem reads_phrases_iff (htidy : reading.IsTidy) (phrases : List Phrase) :
    reading.Reads (phrases.flatMap Phrase.words ++ words) final ↔
      ∃ next, (phrases.flatMap Phrase.items).foldlM take reading = .ok next ∧
        next.Reads words final := by
  induction phrases generalizing reading with
  | nil =>
    constructor
    · intro hreads
      exact ⟨reading, rfl, hreads⟩
    · rintro ⟨next, hnext, hreads⟩
      cases hnext
      exact hreads
  | cons phrase phrases ih =>
    rw [List.flatMap_cons, List.flatMap_cons, List.append_assoc, reads_phrase_iff htidy]
    simp only [List.foldlM_append, bind_eq_ok_iff]
    constructor
    · rintro ⟨middle, hfirst, hreads⟩
      obtain ⟨next, hrest, hreads⟩ := (ih (htidy.of_foldlM hfirst)).mp hreads
      exact ⟨next, ⟨middle, hfirst, hrest⟩, hreads⟩
    · rintro ⟨next, ⟨middle, hfirst, hrest⟩, hreads⟩
      exact ⟨middle, hfirst, (ih (htidy.of_foldlM hfirst)).mpr ⟨next, hrest, hreads⟩⟩

/-! ## From words to phrases -/

theorem exists_switches_of_cluster {letters : List (Option Char)}
    (hcluster : reading.cluster letters = .ok next) :
    ∃ switches : List Switch, (∀ switch ∈ switches, switch.short?.isSome) ∧
      letters = switches.map Switch.short? := by
  induction letters generalizing reading with
  | nil => exact ⟨[], List.forall_mem_nil _, rfl⟩
  | cons letter letters ih =>
    simp only [cluster] at hcluster
    split at hcluster
    · rename_i switch hfind
      obtain ⟨turned, -, hrest⟩ := exists_of_bind_eq_ok hcluster
      obtain ⟨switches, hshort, rfl⟩ := ih hrest
      have hswitch : switch.short?.isSome = true ∧ switch.short? = letter := by
        simpa using List.find?_some hfind
      exact ⟨switch :: switches, List.forall_mem_cons.mpr ⟨hswitch.1, hshort⟩, by
        rw [List.map_cons, hswitch.2]⟩
    · cases hcluster

/-- Only a plain word can be read where an option waits for its value. -/
theorem plain_of_waits (hpending : reading.pending = some ⟨slot, none⟩)
    (hdivided : reading.isDivided = false) (hword : reading.word word = .ok next) :
    word = Text.encode "--" ∨ Word.of word = .plain word := by
  have hsettle : reading.settle = .error (.misuse .invalidValue) := by
    unfold settle
    rw [hpending]
  have hturn : ∀ switch, reading.turn switch = .error (.misuse .invalidValue) := by
    intro switch
    unfold turn
    rw [hsettle]
    rfl
  rw [word_of_undivided hdivided] at hword
  rcases Word.of_cases word with hof | ⟨hdivider, -⟩ | ⟨name, value, hof⟩ | ⟨letter, letters, hof⟩
  · exact .inr hof
  · exact .inl hdivider
  · rw [hof] at hword
    simp only [long, hturn] at hword
    split at hword
    · split at hword <;> cases hword
    · split at hword
      · unfold option at hword
        rw [hsettle] at hword
        cases hword
      · cases hword
  · rw [hof] at hword
    simp only [cluster, hturn] at hword
    split at hword <;> cases hword

/-- Words that can be read begin with a phrase, unless they begin with the divider. -/
theorem exists_phrase (htidy : reading.IsTidy) (hdivider : Text.encode "--" ∉ word :: words)
    (hreads : reading.Reads (word :: words) final) :
    ∃ (phrase : Phrase) (rest : List Bytes),
      phrase.words ++ rest = word :: words ∧ phrase.words ≠ [] := by
  obtain ⟨next, hword, hnext⟩ := reads_cons_iff.mp hreads
  have hsettle := settle_of_settled htidy.pending_eq
  rw [word_of_undivided htidy.isDivided_eq] at hword
  rcases Word.of_cases word with hof | ⟨rfl, -⟩ | ⟨name, value, hof⟩ | ⟨letter, letters, hof⟩
  · exact ⟨⟨_, _, .name hof⟩, words, rfl, List.cons_ne_nil _ _⟩
  · exact absurd List.mem_cons_self hdivider
  · rw [hof] at hword
    simp only [long] at hword
    split at hword
    · rename_i switch hfind
      split at hword
      · cases hword
      · rename_i hnone
        obtain rfl : Text.encode switch.long = name := by simpa using List.find?_some hfind
        rw [Option.not_isSome_iff_eq_none.mp hnone] at hof
        exact ⟨⟨_, _, .switch hof⟩, words, rfl, List.cons_ne_nil _ _⟩
    · split at hword
      · rename_i slot hfind
        have hslot : slot.long?.map Text.encode = some name := by simpa using List.find?_some hfind
        obtain ⟨long, hlong, rfl⟩ := Option.map_eq_some_iff.mp hslot
        cases value with
        | some value => exact ⟨⟨_, _, .attached hlong hof⟩, words, rfl, List.cons_ne_nil _ _⟩
        | none =>
          unfold option at hword
          rw [hsettle] at hword
          cases hword
          cases words with
          | nil => cases reads_nil_iff.mp hnext
          | cons value words =>
            obtain ⟨after, hvalue, -⟩ := reads_cons_iff.mp hnext
            have hundivided : { reading with pending := some ⟨slot, none⟩ }.isDivided = false :=
              htidy.isDivided_eq
            rcases plain_of_waits rfl hundivided hvalue with rfl | hplain
            · simp at hdivider
            · exact ⟨⟨_, _, .separate hlong hof hplain⟩, words, rfl, List.cons_ne_nil _ _⟩
      · cases hword
  · rw [hof] at hword
    obtain ⟨switches, hshort, hletters⟩ := exists_switches_of_cluster hword
    rw [hletters] at hof
    exact ⟨⟨_, _, .cluster hshort hof⟩, words, rfl, List.cons_ne_nil _ _⟩

/-- Words that can be read are made of phrases, unless the divider is among them. -/
theorem exists_phrases (htidy : reading.IsTidy) (hdivider : Text.encode "--" ∉ words)
    (hreads : reading.Reads words final) :
    ∃ phrases : List Phrase, phrases.flatMap Phrase.words = words := by
  induction hlength : words.length using Nat.strong_induction_on generalizing words reading with
  | _ length ih =>
    cases words with
    | nil => exact ⟨[], rfl⟩
    | cons word words =>
      obtain ⟨phrase, rest, hwords, hne⟩ := exists_phrase htidy hdivider hreads
      rw [← hwords] at hdivider hreads hlength ⊢
      obtain ⟨next, htake, hrest⟩ := (reads_phrase_iff htidy phrase).mp hreads
      have hshorter : rest.length < length := by
        have hpos := List.length_pos_iff.mpr hne
        rw [List.length_append] at hlength
        omega
      obtain ⟨phrases, hphrases⟩ := ih _ hshorter (htidy.of_foldlM htake)
        (fun hmem => hdivider (List.mem_append_right _ hmem)) hrest rfl
      exact ⟨phrase :: phrases, by rw [List.flatMap_cons, hphrases]⟩

end Reading

end Scaffolding.Command.Arguments
