/-
**What a finished draft consists of.** A draft without a fault is its tokens, and so are the drafts
it was joined from.

* `append_eq_ofTokens`, `joined_eq_ofTokens` and `parenthesized_eq_ofTokens` take a draft apart.
* `spaced_ofTokens`: blanks stand between the parts that are not empty.
* `fault_append` and `fault_joined`: of several drafts the first one with a fault counts.
* `append_fault`, `joined_fault`, `spaced_fault` and `parenthesized_fault`: there is no fault in a
  whole exactly if there is none in its parts.
* `filterMap_intercalate`: what is picked from joined tokens, where the separator is not picked.
-/

import TwinStore.Sql.Draft

namespace TwinStore.Draft

/-- A draft is finished if it has no fault. -/
theorem finish_eq_ok {draft : Draft} {tokens : List Token} :
    draft.finish = .ok tokens ↔ draft = ofTokens tokens := by
  obtain ⟨written, fault⟩ := draft
  cases fault with
  | none => simp [finish, ofTokens]
  | some error => simp [finish, ofTokens]

theorem ofTokens_append (left right : List Token) :
    ofTokens left ++ ofTokens right = ofTokens (left ++ right) := rfl

theorem ofTokens_between (left : List Token) (word : Keyword) (right : List Token) :
    ofTokens left ++ words [word] ++ ofTokens right =
      ofTokens (left ++ .keyword word :: right) := by
  rw [words, ofTokens_append, ofTokens_append, List.append_assoc]
  rfl

/-- The parts of joined drafts without a fault have none. -/
theorem append_eq_ofTokens {left right : Draft} {tokens : List Token} :
    left ++ right = ofTokens tokens ↔
      ∃ first last, left = ofTokens first ∧ right = ofTokens last ∧ tokens = first ++ last := by
  constructor
  · intro joined
    obtain ⟨first, fault⟩ := left
    cases fault with
    | some error => cases joined
    | none =>
      obtain ⟨last, fault⟩ := right
      change Draft.mk (first ++ last) fault = _ at joined
      cases joined
      exact ⟨first, last, rfl, rfl, rfl⟩
  · rintro ⟨first, last, rfl, rfl, rfl⟩
    rfl

theorem ofTokens_inj {left right : List Token} : ofTokens left = ofTokens right ↔ left = right := by
  simp [ofTokens]

/-- A joined list of drafts has no fault if none of the drafts has. -/
theorem joined_eq_ofTokens {separator : Keyword} {drafts : List Draft} {tokens : List Token} :
    joined separator drafts = ofTokens tokens ↔
      ∃ parts, drafts = parts.map ofTokens ∧
        tokens = List.intercalate [.keyword separator] parts := by
  induction drafts generalizing tokens with
  | nil =>
    rw [joined, show nil = ofTokens [] from rfl, ofTokens_inj]
    constructor
    · rintro rfl
      exact ⟨[], rfl, rfl⟩
    · rintro ⟨parts, empty, rfl⟩
      rw [List.map_eq_nil_iff.mp empty.symm]
      rfl
  | cons draft rest step =>
    cases rest with
    | nil =>
      rw [joined]
      constructor
      · rintro rfl
        exact ⟨[tokens], rfl, (List.intercalate_singleton).symm⟩
      · rintro ⟨parts, single, rfl⟩
        obtain ⟨part, rfl, rfl⟩ := List.map_eq_singleton_iff.mp single.symm
        rw [List.intercalate_singleton]
    | cons second others =>
      show draft ++ words [separator] ++ joined separator (second :: others) = _ ↔ _
      rw [append_eq_ofTokens]
      constructor
      · rintro ⟨front, last, joinedFront, joinedRest, rfl⟩
        obtain ⟨first, mark, rfl, written, rfl⟩ := append_eq_ofTokens.mp joinedFront
        obtain ⟨parts, several, rfl⟩ := step.mp joinedRest
        obtain ⟨part, more, rfl, -, -⟩ := List.map_eq_cons_iff.mp several.symm
        rw [words, ofTokens_inj] at written
        refine ⟨first :: part :: more, by rw [List.map_cons, ← several], ?_⟩
        rw [List.intercalate_cons_cons, ← written]
        rfl
      · rintro ⟨parts, several, rfl⟩
        obtain ⟨part, more, rfl, rfl, others_⟩ := List.map_eq_cons_iff.mp several.symm
        obtain ⟨next, later, rfl, -, -⟩ := List.map_eq_cons_iff.mp others_
        refine ⟨_, _, ofTokens_append part [.keyword separator],
          step.mpr ⟨next :: later, others_.symm, rfl⟩, ?_⟩
        rw [List.intercalate_cons_cons]

theorem parenthesized_eq_ofTokens {draft : Draft} {tokens : List Token} :
    parenthesized draft = ofTokens tokens ↔
      ∃ inner, draft = ofTokens inner ∧
        tokens = .keyword .leftParenthesis :: inner ++ [.keyword .rightParenthesis] := by
  constructor
  · intro written
    obtain ⟨front, last, joinedFront, close, rfl⟩ := append_eq_ofTokens.mp written
    obtain ⟨mark, inner, open_, rfl, rfl⟩ := append_eq_ofTokens.mp joinedFront
    rw [words, ofTokens_inj] at open_ close
    exact ⟨inner, rfl, by rw [← open_, ← close]; rfl⟩
  · rintro ⟨inner, rfl, rfl⟩
    rfl

theorem joined_ofTokens (separator : Keyword) (parts : List (List Token)) :
    joined separator (parts.map ofTokens) =
      ofTokens (List.intercalate [.keyword separator] parts) :=
  joined_eq_ofTokens.mpr ⟨parts, rfl, rfl⟩

theorem spaced_ofTokens (parts : List (List Token)) :
    spaced (parts.map ofTokens) =
      ofTokens (List.intercalate [.keyword .space] (parts.filter fun part => !part.isEmpty)) := by
  rw [spaced, List.filter_map, joined_ofTokens]
  congr 3
  funext part
  simp [isBlank, ofTokens]

/-- Nothing is picked from a separator that is not picked itself. -/
theorem filterMap_intercalate {β : Type} {pick : Token → Option β} {separator : Keyword}
    (skipped : pick (.keyword separator) = none) (parts : List (List Token)) :
    (List.intercalate [.keyword separator] parts).filterMap pick =
      parts.flatMap fun part => part.filterMap pick := by
  induction parts with
  | nil => rfl
  | cons part rest step =>
    cases rest with
    | nil => rw [List.intercalate_singleton, List.flatMap_cons, List.flatMap_nil, List.append_nil]
    | cons second others =>
      rw [List.flatMap_cons, ← step, List.intercalate_cons_cons, List.filterMap_append,
        List.filterMap_append, List.filterMap_cons_none skipped, List.filterMap_nil,
        List.append_nil]

/-! ### Faults -/

/-- Of two drafts the first one with a fault counts. -/
theorem fault_append (left right : Draft) : (left ++ right).fault = left.fault.or right.fault := by
  obtain ⟨tokens, fault⟩ := left
  cases fault <;> rfl

/-- **Of joined drafts the first one with a fault counts.** -/
theorem fault_joined (separator : Keyword) (drafts : List Draft) :
    (joined separator drafts).fault = drafts.findSome? Draft.fault := by
  induction drafts with
  | nil => rfl
  | cons draft rest step =>
    rw [List.findSome?_cons]
    cases rest with
    | nil => cases faulty : draft.fault <;> simp [joined, faulty]
    | cons second others =>
      show (draft ++ words [separator] ++ joined separator (second :: others)).fault = _
      rw [fault_append, fault_append, step]
      cases draft.fault <;> rfl

@[simp] theorem fault_parenthesized (draft : Draft) :
    draft.parenthesized.fault = draft.fault := by
  rw [parenthesized, fault_append, fault_append]
  cases draft.fault <;> rfl

theorem append_fault {left right : Draft} :
    (left ++ right).fault = none ↔ left.fault = none ∧ right.fault = none := by
  rw [fault_append, Option.or_eq_none_iff]

theorem joined_fault {separator : Keyword} {drafts : List Draft} :
    (joined separator drafts).fault = none ↔ ∀ draft ∈ drafts, draft.fault = none := by
  rw [fault_joined, List.findSome?_eq_none_iff]

/-- A draft that is left out has no fault. -/
theorem spaced_fault {drafts : List Draft} :
    (spaced drafts).fault = none ↔ ∀ draft ∈ drafts, draft.fault = none := by
  rw [spaced, joined_fault]
  constructor
  · intro sound draft member
    cases blank : draft.isBlank with
    | true => exact Option.isNone_iff_eq_none.mp (Bool.and_eq_true_iff.mp blank).2
    | false => exact sound draft (List.mem_filter.mpr ⟨member, by rw [blank]; rfl⟩)
  · exact fun sound draft member => sound draft (List.mem_filter.mp member).1

theorem withIdentifier_fault {name : Except IdentifierError Identifier}
    {draft : Identifier → Draft} :
    (withIdentifier name draft).fault = none ↔
      ∃ identifier, name = .ok identifier ∧ (draft identifier).fault = none := by
  cases name with
  | ok identifier => simp [withIdentifier]
  | error error => simp [withIdentifier, fail]

theorem parenthesized_fault {draft : Draft} :
    (parenthesized draft).fault = none ↔ draft.fault = none := by
  rw [fault_parenthesized]

end TwinStore.Draft
