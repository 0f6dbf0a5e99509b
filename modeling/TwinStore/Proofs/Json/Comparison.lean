/-
**Comparisons of documents.** A column that holds documents compares them by their contents.

* `Json.equal`: two documents are equal if they are built alike from equal parts. There is one lemma
  for each kind of document that says what equals it.
* `Json.Precedes`: of two texts under the same name, the one that is less comes first.
-/

import TwinStore.Json.Basic

namespace TwinStore

namespace Json

/-! ### Equality -/

mutual

/-- Equality of documents: numbers of a kind by their values, all else as it is. -/
def equal : Json → Json → Bool
  | .null, .null => true
  | .boolean left, .boolean right => left == right
  | .integer left _ _, .integer right _ _ => left == right
  | .float left _, .float right _ => left.equal right
  | .text left, .text right => left == right
  | .array left, .array right => equalItems left right
  | .object left, .object right => equalFields left right
  | _, _ => false

/-- Item by item equality of lists of the same length. -/
def equalItems : List Json → List Json → Bool
  | [], [] => true
  | left :: lefts, right :: rights => left.equal right && equalItems lefts rights
  | _, _ => false

/-- Entry by entry equality of fields with the same names. -/
def equalFields : List (String × Json) → List (String × Json) → Bool
  | [], [] => true
  | (leftName, left) :: lefts, (rightName, right) :: rights =>
    leftName == rightName && left.equal right && equalFields lefts rights
  | _, _ => false

end

attribute [local simp] equal

theorem equal_text {content : String} {other : Json} :
    (text content).equal other = true ↔ other = .text content := by
  cases other with
  | text written => rw [equal, beq_iff_eq, Json.text.injEq, eq_comm]
  | _ => simp

theorem equal_null {other : Json} : null.equal other = true ↔ other = .null := by
  cases other <;> simp

theorem equal_boolean {value : Bool} {other : Json} :
    (boolean value).equal other = true ↔ other = .boolean value := by
  cases other with
  | boolean found => rw [equal, beq_iff_eq, Json.boolean.injEq, eq_comm]
  | _ => simp

theorem equal_float {value : Binary64} {finite : value.isFinite = true} {other : Json} :
    (float value finite).equal other = true ↔
      ∃ found finite, other = .float found finite ∧ value.equal found = true := by
  cases other with
  | float found finite =>
    rw [equal]
    constructor
    · exact fun same => ⟨found, finite, rfl, same⟩
    · rintro ⟨_, _, ⟨⟩, same⟩
      exact same
  | _ => simp

theorem equal_array {items : List Json} {other : Json} :
    (array items).equal other = true ↔
      ∃ others, other = .array others ∧ equalItems items others = true := by
  cases other with
  | array found =>
    rw [equal]
    constructor
    · exact fun same => ⟨found, rfl, same⟩
    · rintro ⟨_, ⟨⟩, same⟩
      exact same
  | _ => simp

theorem exists_of_equal_object {fields : List (String × Json)} {other : Json}
    (same : (object fields).equal other = true) : ∃ others, other = .object others := by
  cases other with
  | object found => exact ⟨found, rfl⟩
  | _ => simp at same

theorem equal_text_right {content : String} {other : Json} :
    other.equal (text content) = true ↔ other = .text content := by
  cases other <;> simp

theorem equalFields_singleton {name : String} {value : Json} {others : List (String × Json)} :
    equalFields [(name, value)] others = true ↔
      ∃ other, others = [(name, other)] ∧ value.equal other = true := by
  match others with
  | [] | [(_, _)] | _ :: _ :: _ => grind [equalFields]

theorem equalFields_singleton_right {name : String} {value : Json} {others : List (String × Json)} :
    equalFields others [(name, value)] = true ↔
      ∃ other, others = [(name, other)] ∧ other.equal value = true := by
  match others with
  | [] | [(_, _)] | _ :: _ :: _ => grind [equalFields]

/-- A text under one name is equal to itself only. -/
theorem equal_single_text {name content : String} {other : Json} :
    (object [(name, .text content)]).equal other = true ↔
      other = .object [(name, .text content)] := by
  cases other with
  | object fields =>
    rw [equal, equalFields_singleton]
    simp only [equal_text, exists_eq_right, object.injEq]
  | _ => simp

theorem equal_single_text_right {name content : String} {other : Json} :
    other.equal (object [(name, .text content)]) = true ↔
      other = .object [(name, .text content)] := by
  cases other with
  | object fields =>
    rw [equal, equalFields_singleton_right]
    simp only [equal_text_right, exists_eq_right, object.injEq]
  | _ => simp

theorem names_of_equalFields : ∀ {left right : List (String × Json)},
    equalFields left right = true → left.map Prod.fst = right.map Prod.fst
  | [], [], _ => rfl
  | [], _ :: _, same | _ :: _, [], same => by cases same
  | (_, _) :: _, (_, _) :: _, same => by
    simp only [equalFields, Bool.and_eq_true, beq_iff_eq] at same
    obtain ⟨⟨rfl, -⟩, rest⟩ := same
    exact congrArg (_ :: ·) (names_of_equalFields rest)

/-! ### Order -/

/-- Of two texts under one name, the first is less, character by character. Characters compare by
their codes, and so do the bytes that encode them. -/
inductive Precedes : Json → Json → Prop where
  | text (name : String) {left right : String} :
    left < right → Precedes (.object [(name, .text left)]) (.object [(name, .text right)])

theorem precedes_text {name : String} {left right : String} :
    Precedes (.object [(name, .text left)]) (.object [(name, .text right)]) ↔ left < right := by
  constructor
  · rintro ⟨_, order⟩
    exact order
  · exact .text name

end Json

end TwinStore
