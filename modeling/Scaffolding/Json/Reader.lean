import Scaffolding.Json.Spelling

/-!
# Reading JSON

Values are read from tokens from left to right, with a stack of the arrays and objects that have
been opened and not closed.

- `Json.read?` is the reader;
- `read?_of_spells` says that it gives back every value from every text that spells it.
-/

namespace Scaffolding

namespace Json

/-- A value that has been opened and not closed, up to the part that is being read. -/
inductive Opened where
  | array (items : List Json)
  | object (fields : List (String × Json)) (key : String)

/-- Where a reader of tokens stands. -/
inductive Parsing where
  /-- Before a value. -/
  | value
  /-- Behind the bracket that opens an array. -/
  | firstItem
  /-- Behind the brace that opens an object. -/
  | firstField
  /-- Behind a comma of an object that has these fields. -/
  | key (fields : List (String × Json))
  /-- Behind a key of an object that has these fields before it. -/
  | colon (fields : List (String × Json)) (key : String)
  /-- Behind a value. -/
  | done (value : Json)

/-- The first token of a value. -/
def start (outer : List Opened) : Token → Option (Parsing × List Opened)
  | .string text => some (.done (.string text), outer)
  | .openArray => some (.firstItem, outer)
  | .openObject => some (.firstField, outer)
  | _ => none

/-- One token: where the reader stands afterwards, and what is open then. -/
def step : Parsing × List Opened → Token → Option (Parsing × List Opened)
  | (.value, outer), token => start outer token
  | (.firstItem, outer), .closeArray => some (.done (.array []), outer)
  | (.firstItem, outer), token => start (.array [] :: outer) token
  | (.firstField, outer), .closeObject => some (.done (.object []), outer)
  | (.firstField, outer), .string key => some (.colon [] key, outer)
  | (.key fields, outer), .string key => some (.colon fields key, outer)
  | (.colon fields key, outer), .colon => some (.value, .object fields key :: outer)
  | (.done value, .array items :: outer), .comma =>
    some (.value, .array (items ++ [value]) :: outer)
  | (.done value, .array items :: outer), .closeArray =>
    some (.done (.array (items ++ [value])), outer)
  | (.done value, .object fields key :: outer), .comma =>
    some (.key (fields ++ [(key, value)]), outer)
  | (.done value, .object fields key :: outer), .closeObject =>
    some (.done (.object (fields ++ [(key, value)])), outer)
  | _, _ => none

/-- The value whose tokens these are. -/
def ofTokens? (tokens : List Token) : Option Json :=
  match tokens.foldlM step (.value, []) with
  | some (.done value, []) => some value
  | _ => none

/-- The value that a text spells. -/
def read? (text : String) : Option Json :=
  (tokens? text).bind ofTokens?

/-! ## What is spelled is read -/

/-- The first item of an array is read like any other. -/
theorem foldlM_firstItem (outer : List Opened) (rest : List Token) (item : Json) :
    (item.tokens ++ rest).foldlM step (.firstItem, outer)
      = (item.tokens ++ rest).foldlM step (.value, .array [] :: outer) := by
  rcases item with text | (_ | ⟨item, items⟩) | (_ | ⟨⟨key, value⟩, fields⟩) <;>
    simp [-List.foldlM_append, tokens, step, start]

mutual

/-- Behind its tokens a value is read, whatever is open around it and whatever follows. -/
theorem foldlM_tokens (outer : List Opened) (rest : List Token) :
    ∀ value : Json,
      (value.tokens ++ rest).foldlM step (.value, outer) = rest.foldlM step (.done value, outer)
  | .string text => by simp [tokens, step, start]
  | .array [] => by simp [tokens, step, start]
  | .array (item :: items) => by
    simpa [-List.foldlM_append, tokens, step, start, foldlM_firstItem, foldlM_tokens _ _ item]
      using foldlM_itemTokens outer rest [] item items
  | .object [] => by simp [tokens, step, start]
  | .object ((key, value) :: fields) => by
    simpa [-List.foldlM_append, tokens, step, start, foldlM_tokens _ _ value]
      using foldlM_fieldTokens outer rest [] key value fields

/-- Behind the tokens of its last items and the closing bracket an array is read. -/
theorem foldlM_itemTokens (outer : List Opened) (rest : List Token) (before : List Json)
    (item : Json) :
    ∀ items : List Json,
      (itemTokens items ++ .closeArray :: rest).foldlM step (.done item, .array before :: outer)
        = rest.foldlM step (.done (.array (before ++ item :: items)), outer)
  | [] => by simp [itemTokens, step]
  | next :: items => by
    simpa [-List.foldlM_append, itemTokens, step, foldlM_tokens _ _ next]
      using foldlM_itemTokens outer rest (before ++ [item]) next items

/-- Behind the tokens of its last fields and the closing brace an object is read. -/
theorem foldlM_fieldTokens (outer : List Opened) (rest : List Token)
    (before : List (String × Json)) (key : String) (value : Json) :
    ∀ fields : List (String × Json),
      (fieldTokens fields ++ .closeObject :: rest).foldlM step
          (.done value, .object before key :: outer)
        = rest.foldlM step (.done (.object (before ++ (key, value) :: fields)), outer)
  | [] => by simp [fieldTokens, step]
  | (nextKey, next) :: fields => by
    simpa [-List.foldlM_append, fieldTokens, step, foldlM_tokens _ _ next]
      using foldlM_fieldTokens outer rest (before ++ [(key, value)]) nextKey next fields

end

/-- The tokens of a value spell that value. -/
theorem ofTokens?_tokens (value : Json) : ofTokens? value.tokens = some value := by
  have hread := foldlM_tokens [] [] value
  rw [List.append_nil] at hread
  simp [ofTokens?, hread]

/-- A text that spells a value is read as that value. -/
theorem read?_of_spells {value : Json} {text : String} (hspells : value.Spells text) :
    read? text = some value := by
  rw [read?, tokens?_of_spells hspells, Option.bind_some, ofTokens?_tokens]

/-- A text spells one value at most. -/
theorem Spells.unique {value other : Json} {text : String} (hspells : value.Spells text)
    (hother : other.Spells text) : value = other :=
  Option.some.inj ((read?_of_spells hspells).symm.trans (read?_of_spells hother))

end Json

end Scaffolding
