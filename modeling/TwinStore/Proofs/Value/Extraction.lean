/-
**What a path selects from a stored document.** A column holds an array or an object as a document
in which values are tagged. A path of identifiers selects from the document what it leads to in the
value, in tagged form, and nothing where it leads nowhere.

* `Json.extract?` is the selection by a path: entries of objects by name, items of arrays by index,
  and nothing if an element of the path is null.
* `Value.follow?` follows names through the objects of a value.
* `child?_tagged` and `child?_columnForm`: one identifier. It is neither an index nor a tag, so it
  enters an object exactly where the object is the caller's.
* `extract?_columnForm` and `document_selects`: a path of identifiers.
-/

import TwinStore.Proofs.Identifier
import TwinStore.Proofs.Value.Column

namespace TwinStore

/-! ### Selection -/

namespace Json

/-- The white space that may stand in front of an index. -/
def spaces : List Char := [' ', '\t', '\n', '\x0b', '\x0c', '\r']

/-- The index that a text is, if it is an integer. -/
def index? (text : String) : Option Int :=
  (Word.readSigned? (text.toList.dropWhile spaces.contains)).map Int64.toInt

/-- The item at an index; a negative index counts from the end. -/
def item? (items : List Json) (index : Int) : Option Json :=
  if 0 ≤ index then items[index.toNat]?
  else if 0 ≤ items.length + index then items[(items.length + index).toNat]?
  else none

/-- What an element of a path selects: the entry of an object, or the item of an array. -/
def child? : Json → String → Option Json
  | .object fields, name => Fields.get? fields name
  | .array items, name => (index? name).bind (item? items)
  | _, _ => none

/-- What a path selects. A null in the path selects nothing. -/
def extract? (document : Json) (path : List (Option String)) : Option Json :=
  (path.mapM id).bind (List.foldlM child? document)

/-- A path without nulls selects element by element. -/
theorem extract?_map_some (document : Json) (path : List String) :
    document.extract? (path.map some) = List.foldlM child? document path := by
  have names : (path.map some).mapM id = some path := by
    induction path with
    | nil => rfl
    | cons name rest step =>
      rw [List.map_cons, List.mapM_cons, step]
      rfl
  rw [extract?, names, Option.bind_some]

/-- A null in a path selects nothing from any document. -/
theorem extract?_of_null (document : Json) {path : List (Option String)} (null : none ∈ path) :
    document.extract? path = none := by
  have nameless : path.mapM id = none := by
    induction path with
    | nil => cases null
    | cons element rest step =>
      rw [List.mapM_cons]
      cases element with
      | none => rfl
      | some name =>
        have later : none ∈ rest := by simpa using null
        rw [step later]
        rfl
  rw [extract?, nameless, Option.bind_none]

end Json

namespace Value

/-- The entry of an object. -/
def child? : Value → String → Option Value
  | .object fields, name => Fields.get? fields name
  | _, _ => none

/-- What names lead to through the objects of a value. -/
def follow? (value : Value) (path : List String) : Option Value := path.foldlM child? value

end Value

/-! ### One identifier -/

namespace Identifier

/-- An identifier begins with a letter or an underscore. -/
theorem exists_start (name : Identifier) :
    ∃ first rest, name.text.toList = first :: rest ∧ isIdentifierStart first = true := by
  have start := name.valid.2.1
  cases split : name.text.toList with
  | nil => simp [split] at start
  | cons first rest => exact ⟨first, rest, rfl, by simpa [split] using start⟩

/-- A letter or an underscore is no other character. -/
theorem ne_of_isStart {first mark : Char} (start : isIdentifierStart first = true)
    (other : isIdentifierStart mark = false) : first ≠ mark := by
  rintro rfl
  rw [start] at other
  cases other

theorem isDigit_of_isStart {first : Char} (start : isIdentifierStart first = true) :
    first.isDigit = false := by
  rw [isIdentifierStart_iff] at start
  rw [← Bool.not_eq_true, Char.isDigit]
  simp only [Char.le_def, UInt32.le_iff_toNat_le] at start
  simp only [Bool.and_eq_true, decide_eq_true_eq, ge_iff_le, UInt32.le_iff_toNat_le]
  rintro ⟨-, most⟩
  rcases start with ⟨least, -⟩ | ⟨least, -⟩ | rfl
  · exact absurd (Nat.le_trans least most) (by decide)
  · exact absurd (Nat.le_trans least most) (by decide)
  · exact absurd most (by decide)

/-- No identifier is an index. -/
theorem index?_eq_none (name : Identifier) : Json.index? name.text = none := by
  obtain ⟨first, rest, split, start⟩ := name.exists_start
  have unspaced : first ∉ Json.spaces := by
    intro space
    have others : Json.spaces.all (fun mark => !isIdentifierStart mark) = true := by decide
    have other := List.all_eq_true.mp others first space
    simp [start] at other
  have number : Digits.integer? (first :: rest) = none := by
    unfold Digits.integer?
    split
    · next same => exact absurd (List.cons.inj same).1 (ne_of_isStart start (by decide))
    · next same => exact absurd (List.cons.inj same).1 (ne_of_isStart start (by decide))
    · simp [Digits.natural?, isDigit_of_isStart start]
  rw [Json.index?, split, List.dropWhile_cons_of_neg (by simpa using unspaced), Word.readSigned?,
    number]
  rfl

/-- No identifier is a tag. -/
theorem ne_tag (name : Identifier) (tag : Tag) : tag.name ≠ name.text := by
  intro same
  obtain ⟨first, rest, split, start⟩ := name.exists_start
  have dollar : tag.name.toList.head? = some '$' := by cases tag <;> decide
  rw [same, split, List.head?_cons, Option.some.injEq] at dollar
  rw [dollar] at start
  exact absurd start (by decide)

end Identifier

namespace Value

/-- **An identifier enters no tag object**, whatever stands under the tag. -/
theorem child?_tag (tag : Tag) (payload : Json) (name : Identifier) :
    (Json.object [(tag.name, payload)]).child? name.text = none := by
  rw [Json.child?, Fields.get?, if_neg (name.ne_tag tag), Fields.get?]

theorem child?_wrap (tag : Tag) (text : List Char) (name : Identifier) :
    (tag.wrap text).toJson.child? name.text = none :=
  child?_tag tag _ name

/-- The entries of a document are the tagged entries of the object. -/
theorem get?_taggedFields (fields : List (String × Value)) (name : String) :
    Fields.get? (fieldsToJsonWith Decimal.toJsonText (taggedFields fields)) name =
      (Fields.get? fields name).map fun value => value.tagged.toJson := by
  induction fields with
  | nil => rfl
  | cons entry rest step =>
    obtain ⟨other, value⟩ := entry
    rw [taggedFields, fieldsToJsonWith, Fields.get?, Fields.get?, step]
    split <;> rfl

/-- An object that is escaped has one entry, whose name is a tag. -/
theorem exists_tag_of_looksTagged {fields : List (String × Value)}
    (escaped : looksTagged fields = true) :
    ∃ (tag : Tag) (inner : Value), fields = [(tag.name, inner)] := by
  unfold looksTagged at escaped
  split at escaped
  · next name inner =>
    obtain ⟨tag, known⟩ := Option.isSome_iff_exists.mp escaped
    have named : tag.name = name := by simpa using List.find?_some known
    exact ⟨tag, inner, by rw [named]⟩
  · cases escaped

/-- **An identifier selects from the tagged form of a value what it leads to in the value.** -/
theorem child?_tagged (value : Value) (name : Identifier) :
    value.tagged.toJson.child? name.text =
      (value.child? name.text).map fun inner => inner.tagged.toJson := by
  cases value with
  | object fields =>
    rw [tagged]
    split
    · next escaped =>
      -- The only name of an escaped object is a tag, so the identifier leads nowhere either.
      obtain ⟨tag, inner, rfl⟩ := exists_tag_of_looksTagged escaped
      have nowhere : Fields.get? [(tag.name, inner)] name.text = none := by
        rw [Fields.get?, if_neg (name.ne_tag tag), Fields.get?]
      rw [child?, nowhere]
      exact child?_tag .object _ name
    · exact get?_taggedFields fields name.text
  | array items =>
    show (Json.index? name.text).bind _ = none
    rw [name.index?_eq_none, Option.bind_none]
  | number value =>
    cases value with
    | float value =>
      show (Json.ofFloat value).child? name.text = none
      unfold Json.ofFloat
      split <;> rfl
    | signed | unsigned | decimal => exact child?_wrap _ _ name
  | instant | date | time | binary => exact child?_wrap _ _ name
  | null | boolean | text => rfl

/-- **An identifier selects from the document of a column what it leads to in the value.** The
outermost object is never escaped. -/
theorem child?_columnForm {value : Value} (container : value.IsContainer) (name : Identifier) :
    value.columnForm.toJson.child? name.text =
      (value.child? name.text).map fun inner => inner.tagged.toJson := by
  cases value with
  | object fields => exact get?_taggedFields fields name.text
  | array items =>
    show (Json.index? name.text).bind _ = none
    rw [name.index?_eq_none, Option.bind_none]
  | _ => exact container.elim

/-! ### Paths -/

/-- A path of identifiers selects from a tagged form what it leads to in the value. -/
theorem foldlM_child?_tagged (value : Value) (path : List Identifier) :
    (path.map Identifier.text).foldlM Json.child? value.tagged.toJson =
      (value.follow? (path.map Identifier.text)).map fun inner => inner.tagged.toJson := by
  induction path generalizing value with
  | nil => rfl
  | cons name rest step =>
    rw [List.map_cons, follow?, List.foldlM_cons, List.foldlM_cons, child?_tagged]
    cases value.child? name.text with
    | none => rfl
    | some inner => exact step inner

/-- **A path of identifiers selects from a column's document what it leads to in the value.** -/
theorem extract?_columnForm {value : Value} (container : value.IsContainer) {path : List Identifier}
    (some_ : path ≠ []) :
    value.columnForm.toJson.extract? ((path.map Identifier.text).map some) =
      (value.follow? (path.map Identifier.text)).map fun inner => inner.tagged.toJson := by
  obtain ⟨name, rest, rfl⟩ := List.exists_cons_of_ne_nil some_
  rw [Json.extract?_map_some, List.map_cons, follow?, List.foldlM_cons, List.foldlM_cons,
    child?_columnForm container]
  cases value.child? name.text with
  | none => rfl
  | some inner => exact foldlM_child?_tagged inner rest

/-- A path of identifiers selects nothing inside a tag object. -/
theorem extract?_tag (tag : Tag) (payload : Json) {path : List Identifier} (some_ : path ≠ []) :
    (Json.object [(tag.name, payload)]).extract? ((path.map Identifier.text).map some) = none := by
  obtain ⟨name, rest, rfl⟩ := List.exists_cons_of_ne_nil some_
  rw [Json.extract?_map_some, List.map_cons, List.foldlM_cons, child?_tag]
  rfl

/-- A path of identifiers enters an object that is not escaped. -/
theorem extract?_entry {fields : List (String × Value)} {inner : Value} {name : Identifier}
    (found : Fields.get? fields name.text = some inner) (rest : List Identifier) :
    (object fields).tagged.toJson.extract? (((name :: rest).map Identifier.text).map some) =
      inner.tagged.toJson.extract? ((rest.map Identifier.text).map some) := by
  rw [Json.extract?_map_some, Json.extract?_map_some, List.map_cons, List.foldlM_cons,
    child?_tagged, child?, found]
  rfl

/-- **A path addresses the value that the caller stored.** A container is sent as a document, from
which a path of identifiers selects the tagged form of what it leads to in the value, and nothing if
it leads nowhere. It selects nothing inside a tag object, and enters every object of the caller. -/
theorem path_addresses_value (value : Value) (container : value.IsContainer)
    (path : List Identifier) (some_ : path ≠ []) :
    (∃ document, Postgres.argumentCell (.ofColumn value) = ("JSONB", .json document) ∧
      document.extract? ((path.map Identifier.text).map some) =
        (value.follow? (path.map Identifier.text)).map fun inner => inner.tagged.toJson) ∧
    (∀ tag payload, (Json.object [(Tag.name tag, payload)]).extract?
      ((path.map Identifier.text).map some) = none) ∧
    ∀ fields name rest inner, path = name :: rest → Fields.get? fields name.text = some inner →
      (object fields).tagged.toJson.extract? ((path.map Identifier.text).map some) =
        inner.tagged.toJson.extract? ((rest.map Identifier.text).map some) := by
  refine ⟨⟨_, argumentCell_container container, extract?_columnForm container some_⟩, ?_, ?_⟩
  · exact fun tag payload => extract?_tag tag payload some_
  · rintro fields name rest inner rfl found
    exact extract?_entry found rest

/-- An object with an imitated tag, and a number inside another object. -/
def account : Value :=
  .object [("disguise", .object [("$signed", .text "5")]),
    ("stats", .object [("score", .ofSigned 7)])]

/-- The names that lead to the number. -/
def scorePath : List Identifier := [⟨"stats", by decide⟩, ⟨"score", by decide⟩]

theorem path_addresses_value_score :
    account.IsContainer ∧ scorePath ≠ [] ∧
      account.columnForm.toJson.extract? [some "stats", some "score"] =
        some (.object [("$signed", .text "7")]) := by
  have container : account.IsContainer := trivial
  have some_ : scorePath ≠ [] := List.cons_ne_nil _ _
  obtain ⟨⟨document, sent, selected⟩, -⟩ := path_addresses_value account container scorePath some_
  obtain rfl : account.columnForm.toJson = document := by
    rw [argumentCell_container container] at sent
    cases sent
    rfl
  exact ⟨container, some_, selected⟩

end Value

end TwinStore
