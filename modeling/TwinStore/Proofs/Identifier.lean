/-
**Which names are identifiers.**

* `MatchesIdentifier`: the shape of an identifier, character by character.
* `isIdentifier_iff_matches`: exactly the names of this shape pass the check.
* `ofText_eq_ok` and `columnName_eq_ok`: a name that passes is kept as it is.
-/

import TwinStore.Identifier

namespace TwinStore

/-- An ASCII letter or an underscore, then at most sixty-two ASCII letters, digits and
underscores. -/
def MatchesIdentifier (text : List Char) : Prop :=
  ∃ first rest, text = first :: rest ∧ rest.length ≤ 62 ∧
    ('A' ≤ first ∧ first ≤ 'Z' ∨ 'a' ≤ first ∧ first ≤ 'z' ∨ first = '_') ∧
    ∀ char ∈ rest,
      'A' ≤ char ∧ char ≤ 'Z' ∨ 'a' ≤ char ∧ char ≤ 'z' ∨ '0' ≤ char ∧ char ≤ '9' ∨ char = '_'

theorem isIdentifierStart_iff {char : Char} : isIdentifierStart char = true ↔
    'A' ≤ char ∧ char ≤ 'Z' ∨ 'a' ≤ char ∧ char ≤ 'z' ∨ char = '_' := by
  delta isIdentifierStart Char.isAlpha Char.isUpper Char.isLower
  simp [Char.le_def, or_assoc]

theorem isIdentifierChar_iff {char : Char} : isIdentifierChar char = true ↔
    'A' ≤ char ∧ char ≤ 'Z' ∨ 'a' ≤ char ∧ char ≤ 'z' ∨ '0' ≤ char ∧ char ≤ '9' ∨ char = '_' := by
  delta isIdentifierChar Char.isAlphanum Char.isAlpha Char.isUpper Char.isLower Char.isDigit
  simp [Char.le_def, or_assoc]

theorem isIdentifierChar_of_start {char : Char} (start : isIdentifierStart char = true) :
    isIdentifierChar char = true := by
  rcases isIdentifierStart_iff.mp start with upper | lower | underscore
  · exact isIdentifierChar_iff.mpr (.inl upper)
  · exact isIdentifierChar_iff.mpr (.inr (.inl lower))
  · exact isIdentifierChar_iff.mpr (.inr (.inr (.inr underscore)))

/-- The characters of an identifier are one byte each. -/
theorem utf8Size_of_isIdentifierChar {char : Char} (inside : isIdentifierChar char = true) :
    char.utf8Size = 1 := by
  rw [isIdentifierChar_iff] at inside
  have ascii : char.val ≤ 127 := by
    rcases inside with ⟨-, most⟩ | ⟨-, most⟩ | ⟨-, most⟩ | rfl
    · exact UInt32.le_trans most (by decide)
    · exact UInt32.le_trans most (by decide)
    · exact UInt32.le_trans most (by decide)
    · decide
  exact Char.utf8Size_eq_one_iff.mpr ascii

theorem utf8ByteSize_of_identifier {chars : List Char}
    (inside : ∀ char ∈ chars, isIdentifierChar char = true) :
    (String.ofList chars).utf8ByteSize = chars.length := by
  induction chars with
  | nil => rfl
  | cons char rest step =>
    rw [String.ofList_cons, String.utf8ByteSize_append, String.utf8ByteSize_singleton,
      utf8Size_of_isIdentifierChar (inside char List.mem_cons_self),
      step fun other member => inside other (List.mem_cons_of_mem _ member), List.length_cons,
      Nat.add_comm]

/-- **The names that pass the check are those of the shape of an identifier.** -/
theorem isIdentifier_iff_matches {name : String} :
    IsIdentifier name ↔ MatchesIdentifier name.toList := by
  obtain ⟨text, rfl⟩ : ∃ text, name = String.ofList text := ⟨_, String.ofList_toList.symm⟩
  rw [IsIdentifier, String.toList_ofList]
  constructor
  · rintro ⟨short, start, inside⟩
    rw [List.all_eq_true] at inside
    rw [utf8ByteSize_of_identifier inside] at short
    cases text with
    | nil => cases start
    | cons first rest =>
      refine ⟨first, rest, rfl, Nat.le_of_succ_le_succ short, isIdentifierStart_iff.mp start, ?_⟩
      exact fun char member => isIdentifierChar_iff.mp (inside char (List.mem_cons_of_mem _ member))
  · rintro ⟨first, rest, rfl, short, start, inside⟩
    have begins := isIdentifierStart_iff.mpr start
    have all : ∀ char ∈ first :: rest, isIdentifierChar char = true := by
      intro char member
      rcases List.mem_cons.mp member with rfl | later
      · exact isIdentifierChar_of_start begins
      · exact isIdentifierChar_iff.mpr (inside char later)
    refine ⟨?_, begins, List.all_eq_true.mpr all⟩
    rw [utf8ByteSize_of_identifier all]
    exact Nat.succ_le_succ short

/-- A name that passes the check is kept as it is. -/
theorem Identifier.ofText_eq_ok {name : String} {identifier : Identifier} :
    Identifier.ofText name = .ok identifier ↔ identifier.text = name := by
  constructor
  · intro checked
    rw [Identifier.ofText] at checked
    repeat' split at checked
    all_goals cases checked
    rfl
  · rintro rfl
    exact Identifier.ofText_text identifier

theorem columnName_eq_ok {field : String} {column : Identifier} :
    columnName field = .ok column ↔
      column.text = if field = documentIdName then idName else field := by
  rw [columnName]
  split
  · constructor
    · rintro ⟨⟩
      rfl
    · intro same
      rw [← Identifier.ofText_text column, same, ← show idColumn.text = idName from rfl,
        Identifier.ofText_text]
  · exact Identifier.ofText_eq_ok

end TwinStore
