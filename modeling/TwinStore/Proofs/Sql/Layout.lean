/-
**The layout of drafts.** Separators stand between the tokens of everything that statements are
written from, and its arguments are the operands in their order.

* `Draft.Writes`: the tokens are apart and bind the given arguments, unless there is a fault.
* `Draft.Writes.between`, `.joined`, `.spaced` and `.parenthesized`: drafts that are joined by
  separators bind the arguments of one after those of the other.
* `Predicate.arguments` and `UpdateSet.arguments` are the operands that have to be bound, said
  without looking at drafts: none for a null and for a test of presence, one for each item that is
  not null.
* `Predicate.draft_writes` and `UpdateSet.draft_writes`: they are what the drafts bind.
-/

import Mathlib.Data.List.Forall2
import TwinStore.Proofs.Path
import TwinStore.Proofs.Result
import TwinStore.Proofs.Sql.Draft
import TwinStore.Proofs.Sql.Piece
import TwinStore.Sql.Assignment
import TwinStore.Sql.Clause
import TwinStore.Sql.Filter

namespace TwinStore

namespace Draft

/-- The tokens are apart, no path is empty, and unless there is a fault the tokens bind the given
arguments. -/
structure Writes (draft : Draft) (bound : List Argument) : Prop where
  apart : draft.tokens.IsChain Token.Apart
  binds : draft.fault = none → Token.arguments draft.tokens = bound
  paths : .path [] ∉ draft.tokens

/-- Keywords that are apart from each other. -/
def Apart (keywords : List Keyword) : Prop :=
  (keywords.map Token.keyword).IsChain Token.Apart

/-- Keywords that may follow anything. -/
def MayEnd (keywords : List Keyword) : Prop :=
  keywords.head?.any Keyword.startsApart = true ∧ Apart keywords

/-- Keywords that anything may follow. -/
def MayBegin (keywords : List Keyword) : Prop :=
  keywords.getLast?.any Keyword.endsApart = true ∧ Apart keywords

instance (keywords : List Keyword) : Decidable (Apart keywords) :=
  inferInstanceAs (Decidable (List.IsChain _ _))

instance (keywords : List Keyword) : Decidable (MayEnd keywords) :=
  inferInstanceAs (Decidable (_ ∧ _))

instance (keywords : List Keyword) : Decidable (MayBegin keywords) :=
  inferInstanceAs (Decidable (_ ∧ _))

/-! ### Parts -/

@[simp] theorem writes_nil : nil.Writes [] := ⟨.nil, fun _ => rfl, nofun⟩

theorem writes_fail (error : CompileError) (bound : List Argument) : (fail error).Writes bound :=
  ⟨.nil, nofun, nofun⟩

@[simp] theorem writes_name (identifier : Identifier) : (name identifier).Writes [] :=
  ⟨.singleton _, fun _ => rfl, by simp [name, ofTokens]⟩

@[simp] theorem writes_argument (bound : Argument) : (argument bound).Writes [bound] :=
  ⟨.singleton _, fun _ => rfl, by simp [argument, ofTokens]⟩

theorem writes_words {keywords : List Keyword} (apart : Apart keywords) :
    (words keywords).Writes [] := by
  refine ⟨apart, fun _ => ?_, by simp [words, ofTokens]⟩
  induction keywords with
  | nil => rfl
  | cons word rest step => exact step apart.tail rfl

@[simp] theorem writes_word (word : Keyword) : (words [word]).Writes [] :=
  writes_words (.singleton _)

theorem mayEnd_space (word : Keyword) : MayEnd [.space, word] :=
  ⟨rfl, .cons_cons (.inl rfl) (.singleton _)⟩

namespace Writes

variable {left right : Draft} {before after : List Argument}

theorem append (one : left.Writes before) (two : right.Writes after)
    (edge : ∀ last ∈ left.tokens.getLast?, ∀ first ∈ right.tokens.head?, Token.Apart last first) :
    (left ++ right).Writes (before ++ after) := by
  obtain ⟨tokens, fault⟩ := left
  cases fault with
  | some error => exact ⟨one.apart, nofun, one.paths⟩
  | none =>
    refine ⟨List.isChain_append.mpr ⟨one.apart, two.apart, edge⟩, fun finished => ?_, ?_⟩
    · show Token.arguments (tokens ++ right.tokens) = _
      rw [Token.arguments_append, one.binds rfl, two.binds finished]
    · exact fun empty => (List.mem_append.mp empty).elim one.paths two.paths

theorem append_words (one : left.Writes before) (keywords : List Keyword)
    (mayEnd : MayEnd keywords) : (left ++ words keywords).Writes before := by
  have joined := one.append (writes_words mayEnd.2) (by
    intro last _ first isFirst
    cases keywords with
    | nil => cases isFirst
    | cons word rest =>
      cases isFirst
      exact .inr mayEnd.1)
  rwa [List.append_nil] at joined

theorem words_append (two : right.Writes after) (keywords : List Keyword)
    (mayBegin : MayBegin keywords) : (words keywords ++ right).Writes after := by
  refine (writes_words mayBegin.2).append two ?_
  intro last isLast first _
  rw [words, ofTokens, List.getLast?_map, Option.mem_def, Option.map_eq_some_iff] at isLast
  obtain ⟨word, isWord, rfl⟩ := isLast
  have ends := mayBegin.1
  rw [isWord] at ends
  exact .inl ends

/-- **Keywords between two drafts**, with a separator at both ends. -/
theorem between (one : left.Writes before) (keywords : List Keyword) (two : right.Writes after)
    (mayEnd : MayEnd keywords) (mayBegin : MayBegin keywords) :
    (left ++ words keywords ++ right).Writes (before ++ after) := by
  rw [append_assoc]
  refine one.append (two.words_append keywords mayBegin) ?_
  intro last _ first isFirst
  cases keywords with
  | nil => cases mayEnd.1
  | cons word rest =>
    cases isFirst
    exact .inr mayEnd.1

theorem parenthesized (one : left.Writes before) : (parenthesized left).Writes before :=
  (one.words_append [.leftParenthesis] (by decide)).append_words [.rightParenthesis] (by decide)

variable {drafts : List Draft} {bounds : List (List Argument)} {α : Type}

/-- **Drafts that are joined by a separator bind their arguments one after the other.** -/
theorem joined (parts : List.Forall₂ Writes drafts bounds) {separator : Keyword}
    (mayEnd : MayEnd [separator]) (mayBegin : MayBegin [separator]) :
    (joined separator drafts).Writes bounds.flatten := by
  induction parts with
  | nil => exact writes_nil
  | cons first others step =>
    cases others with
    | nil => simpa [Draft.joined] using first
    | cons second others => exact first.between [separator] step mayEnd mayBegin

theorem listed {draft : α → Draft} {bound : α → List Argument} {items : List α}
    (writes : ∀ item ∈ items, (draft item).Writes (bound item)) :
    (listed (items.map draft)).Writes (items.flatMap bound) := by
  rw [List.flatMap_def]
  refine joined ?_ (by decide) (by decide)
  rw [List.forall₂_map_left_iff, List.forall₂_map_right_iff, List.forall₂_same]
  exact writes

/-- A draft in which there is nothing binds nothing. -/
theorem eq_nil_of_isBlank (one : left.Writes before) (blank : left.isBlank = true) :
    before = [] := by
  obtain ⟨empty, finished⟩ := Bool.and_eq_true_iff.mp blank
  rw [← one.binds (Option.isNone_iff_eq_none.mp finished), List.isEmpty_iff.mp empty]
  rfl

/-- **Drafts with blanks between them bind their arguments one after the other.** -/
theorem spaced (parts : List.Forall₂ Writes drafts bounds) :
    (spaced drafts).Writes bounds.flatten := by
  obtain ⟨kept, remain, same⟩ : ∃ kept : List (List Argument),
      List.Forall₂ Writes (drafts.filter fun draft => !draft.isBlank) kept ∧
        kept.flatten = bounds.flatten := by
    induction parts with
    | nil => exact ⟨[], .nil, rfl⟩
    | @cons draft bound _ _ first _ step =>
      obtain ⟨kept, remain, same⟩ := step
      cases blank : draft.isBlank with
      | true =>
        refine ⟨kept, ?_, ?_⟩
        · simpa [blank] using remain
        · rw [List.flatten_cons, first.eq_nil_of_isBlank blank, List.nil_append, same]
      | false =>
        refine ⟨bound :: kept, ?_, by rw [List.flatten_cons, List.flatten_cons, same]⟩
        simpa [blank] using ⟨first, remain⟩
  rw [← same]
  exact joined remain (by decide) (by decide)

/-- Drafts that bind nothing. -/
theorem exists_plain (writes : ∀ draft ∈ drafts, draft.Writes []) :
    ∃ bounds, List.Forall₂ Writes drafts bounds ∧ bounds.flatten = [] := by
  refine ⟨drafts.map fun _ => [], ?_, ?_⟩
  · rw [List.forall₂_map_right_iff, List.forall₂_same]
    exact writes
  · rw [List.flatten_eq_nil_iff]
    intro bound member
    obtain ⟨_, -, rfl⟩ := List.mem_map.mp member
    rfl

theorem listed_plain (writes : ∀ draft ∈ drafts, draft.Writes []) :
    (Draft.listed drafts).Writes [] := by
  obtain ⟨bounds, parts, nothing⟩ := exists_plain writes
  exact nothing ▸ joined parts (by decide) (by decide)

theorem spaced_plain (writes : ∀ draft ∈ drafts, draft.Writes []) :
    (Draft.spaced drafts).Writes [] := by
  obtain ⟨bounds, parts, nothing⟩ := exists_plain writes
  exact nothing ▸ spaced parts

end Writes

end Draft

open Draft

/-! ### Fields -/

namespace FieldReference

/-- The argument of a value that the field compares with. -/
def argument (field : FieldReference) (value : Value) : Argument :=
  match field.path with
  | [] => .ofColumn value
  | _ => .ofNested value

theorem draft_writes (field : FieldReference) : field.draft.Writes [] := by
  obtain ⟨column, path⟩ := field
  cases path with
  | nil => exact writes_name column
  | cons segment rest =>
    have path : (ofTokens [.path (segment :: rest)]).Writes [] :=
      ⟨.singleton _, fun _ => rfl, by simp [ofTokens]⟩
    exact ((writes_name column).between [.extract] path (by decide) (by decide)).parenthesized

theorem writes_nestedArgument (value : Value) :
    (nestedArgument value).Writes [.ofNested value] :=
  (writes_argument _).append_words [.jsonCast] (by decide)

theorem operand_writes (field : FieldReference) (value : Value) :
    (field.operand value).Writes [field.argument value] := by
  obtain ⟨column, path⟩ := field
  cases path with
  | nil => exact writes_argument _
  | cons segment rest => exact writes_nestedArgument value

theorem nullTest_writes (field : FieldReference) : field.nullTest.Writes [] := by
  have draft_ := field.draft_writes
  unfold nullTest
  split
  · exact draft_.append_words [.isNull] (by decide)
  · have either := draft_.between [.isNull, .or] draft_ (by decide) (by decide)
    exact (either.append_words [.equals, .jsonNull] (by decide)).parenthesized

theorem comparison_writes (field : FieldReference) (comparison : Comparison) (operand : Value) :
    (field.comparison comparison operand).Writes [field.argument operand] := by
  have operand_ := field.operand_writes operand
  cases comparison <;> exact field.draft_writes.between [_] operand_ (by decide) (by decide)

theorem membership_writes (field : FieldReference) (operands : List Value) :
    (field.membership operands).Writes (operands.map field.argument) := by
  have items := Writes.listed fun operand (_ : operand ∈ operands) => field.operand_writes operand
  rw [← List.map_eq_flatMap] at items
  exact field.draft_writes.between [.membership] items.parenthesized (by decide) (by decide)

theorem membershipOrNull_writes (field : FieldReference) (items : List Value) :
    (field.membershipOrNull items).Writes
      ((items.filter fun item => !item.isNull).map field.argument) := by
  have members := field.membership_writes (items.filter fun item => !item.isNull)
  have nullTest := field.nullTest_writes
  unfold membershipOrNull
  generalize (items.filter fun item => !item.isNull) = operands at members ⊢
  cases operands with
  | nil =>
    cases items.any Value.isNull with
    | false => exact writes_words (by decide)
    | true => exact nullTest
  | cons operand rest =>
    cases items.any Value.isNull with
    | false => exact members
    | true =>
      have either := (members.between [.or] nullTest (by decide) (by decide)).parenthesized
      rwa [List.append_nil] at either

end FieldReference

/-! ### Conditions -/

namespace Condition

/-- The operands that a condition compares with: a null is tested for and not compared. -/
def operands (condition : Condition) : List Value :=
  match condition.comparison with
  | .oneOf => (condition.operand.items?.getD []).filter fun item => !item.isNull
  | .present => []
  | _ => if condition.operand.isNull then [] else [condition.operand]

/-- The arguments of a condition: JSON documents for what is inside a column. -/
def arguments (condition : Condition) : List Argument :=
  condition.operands.map
    (if isDotted condition.field then Argument.ofNested else Argument.ofColumn)

end Condition

theorem FieldReference.test_writes (field : FieldReference) (condition : Condition) :
    (field.test condition).Writes (condition.operands.map field.argument) := by
  have nullTest := field.nullTest_writes
  have comparison_ := field.comparison_writes condition.comparison condition.operand
  have membership_ := field.membershipOrNull_writes
  obtain ⟨name, comparison, operand⟩ := condition
  cases comparison with
  | equal | atLeast | atMost =>
    cases null : operand.isNull with
    | true =>
      simp only [test, Condition.operands, null, if_true]
      exact nullTest
    | false =>
      simp only [test, Condition.operands, null, Bool.false_eq_true, if_false]
      exact comparison_
  | different =>
    cases null : operand.isNull with
    | true =>
      simp only [test, Condition.operands, null, if_true]
      exact nullTest.words_append [.not] (by decide)
    | false =>
      simp only [test, Condition.operands, null, Bool.false_eq_true, if_false]
      exact comparison_
  | greater | less =>
    cases null : operand.isNull with
    | true =>
      simp only [test, Condition.operands, null, if_true]
      exact writes_words (by decide)
    | false =>
      simp only [test, Condition.operands, null, Bool.false_eq_true, if_false]
      exact comparison_
  | oneOf =>
    cases listed : operand.items? with
    | none =>
      simp only [test, listed]
      exact writes_fail _ _
    | some items =>
      simp only [test, Condition.operands, listed, Option.getD_some]
      exact membership_ items
  | present =>
    cases known : operand.boolean? with
    | none =>
      simp only [test, known]
      exact writes_fail _ _
    | some there =>
      simp only [test, known, presence]
      cases there <;> exact field.draft_writes.append_words [_] (by decide)

theorem isDotted_iff {field : String} {reference : FieldReference}
    (read : FieldReference.ofText field = .ok reference) :
    isDotted field = true ↔ reference.path ≠ [] := by
  obtain ⟨column, _, more⟩ := Result.bind_eq_ok.mp read
  obtain ⟨path, segments, made⟩ := Result.bind_eq_ok.mp more
  cases made
  have same := Result.mapM_eq_ok.mp segments
  rw [fieldSegments, ← List.map_tail] at same
  rw [isDotted, List.contains_iff_mem, ne_eq, ← not_iff_not, not_not, ← splitDots_tail]
  constructor
  · intro alone
    rw [alone] at same
    exact List.forall₂_nil_left_iff.mp same
  · rintro ⟨⟩
    exact List.map_eq_nil_iff.mp (List.forall₂_nil_right_iff.mp same)

/-- **A condition binds its arguments.** -/
theorem Condition.draft_writes (condition : Condition) :
    condition.draft.Writes condition.arguments := by
  unfold Condition.draft
  split
  · next field read =>
    have test := field.test_writes condition
    have same : field.argument =
        if isDotted condition.field then Argument.ofNested else Argument.ofColumn := by
      have dotted := isDotted_iff read
      obtain ⟨column, path⟩ := field
      cases path with
      | nil => simp_all [FieldReference.argument, funext_iff]
      | cons segment rest => simp_all [FieldReference.argument, funext_iff]
    rwa [same] at test
  · exact writes_fail _ _

/-! ### Predicates -/

namespace Predicate

mutual

/-- The arguments of a predicate, from left to right. -/
def arguments : Predicate → List Argument
  | .condition test => test.arguments
  | .group _ members => argumentsOfAll members
  | .negation inner => inner.arguments

/-- The arguments of all members of a group. -/
def argumentsOfAll : List Predicate → List Argument
  | [] => []
  | member :: rest => member.arguments ++ argumentsOfAll rest

end

mutual

/-- **A predicate binds its arguments.** -/
theorem draft_writes : ∀ predicate : Predicate, predicate.draft.Writes predicate.arguments
  | .condition test => by
    rw [draft, arguments]
    exact test.draft_writes
  | .group .all [] | .group .any [] => writes_words (by decide)
  | .group _ [member] => by
    rw [draft, arguments, argumentsOfAll, argumentsOfAll, List.append_nil]
    exact draft_writes member
  | .group connective (first :: second :: rest) => by
    obtain ⟨bounds, parts, same⟩ := drafts_write (first :: second :: rest)
    rw [draft_group, arguments, ← same]
    cases connective <;> exact (Writes.joined parts (by decide) (by decide)).parenthesized
  | .negation inner => by
    rw [draft, arguments]
    exact ((draft_writes inner).words_append [.not, .coalesceGroup] (by decide)).append_words
      [.orFalse] (by decide)

/-- So do the members of a group. -/
theorem drafts_write : ∀ members : List Predicate, ∃ bounds,
    List.Forall₂ Writes (drafts members) bounds ∧ bounds.flatten = argumentsOfAll members
  | [] => ⟨[], .nil, rfl⟩
  | member :: rest => by
    obtain ⟨bounds, parts, same⟩ := drafts_write rest
    refine ⟨member.arguments :: bounds, .cons (draft_writes member) parts, ?_⟩
    rw [List.flatten_cons, same, argumentsOfAll]

end

theorem whereDraft_writes (predicate : Option Predicate) :
    (whereDraft predicate).Writes (predicate.elim [] arguments) := by
  cases predicate with
  | none => exact writes_nil
  | some predicate => exact (draft_writes predicate).words_append [.where, .space] (by decide)

end Predicate

/-! ### Updates -/

namespace UpdateOperation

/-- The arguments of an operation: JSON documents for what goes into an array or out of it. -/
def arguments : UpdateOperation → List Argument
  | .set .null | .popFirst | .popLast => []
  | .set value | .max value | .min value => [.ofColumn value]
  | .increment amount => [.typed (.number amount)]
  | .multiply factor => [.typed (.number factor)]
  | .push value | .removeAll value => [.ofNested value]

theorem draft_writes {field : String} {current : Draft} (read : current.Writes [])
    (operation : UpdateOperation) :
    (operation.draft field current).Writes operation.arguments := by
  have extremum : ∀ {function : Keyword} (value : Value), MayBegin [function] →
      (extremumDraft function current value).Writes [.ofColumn value] := by
    intro function value mayBegin
    exact ((read.words_append [function] mayBegin).between [.comma] (writes_argument _) (by decide)
      (by decide)).append_words [.rightParenthesis] (by decide)
  have arithmetic : ∀ {sign : List Keyword} (amount : Number), MayEnd (.orZero :: sign) →
      MayBegin (.orZero :: sign) →
      (arithmeticDraft current sign amount).Writes [.typed (.number amount)] := by
    intro sign amount mayEnd mayBegin
    exact (read.words_append [.coalesce] (by decide)).between _ (writes_argument _) mayEnd mayBegin
  cases operation with
  | set value =>
    cases value with
    | null => exact writes_words (by decide)
    | _ => exact writes_argument _
  | increment amount => exact arithmetic amount (by decide) (by decide)
  | multiply factor => exact arithmetic factor (by decide) (by decide)
  | max value | min value => exact extremum value (by decide)
  | push value =>
    exact ((read.words_append [.coalesce] (by decide)).between
      [.orEmptyArray, .concatenate, .buildArray] (FieldReference.writes_nestedArgument value)
      (by decide) (by decide)).append_words [.rightParenthesis] (by decide)
  | removeAll removed =>
    cases listed : removed.items? with
    | none =>
      simp only [UpdateOperation.draft, listed]
      exact writes_fail _ _
    | some items =>
      simp only [UpdateOperation.draft, listed]
      have tested := (read.words_append [.removalWhen] (by decide)).between [.removalItems] read
        (by decide) (by decide)
      exact (tested.between [.removalWithout] (FieldReference.writes_nestedArgument removed)
        (by decide) (by decide)).append_words [.removalEnd] (by decide)
  | popFirst => exact read.append_words [.dropFirst] (by decide)
  | popLast => exact read.append_words [.dropLast] (by decide)

end UpdateOperation

theorem columnOf_writes (table column : Identifier) : (columnOf table column).Writes [] :=
  (writes_name table).between [.dot] (writes_name column) (by decide) (by decide)

theorem withIdentifier_writes {name : Except IdentifierError Identifier}
    {draft : Identifier → Draft} {bound : List Argument}
    (writes : ∀ identifier, (draft identifier).Writes bound) :
    (withIdentifier name draft).Writes bound := by
  cases name with
  | ok identifier => exact writes identifier
  | error error => exact writes_fail _ _

/-- The arguments of an update, in the order of its fields. -/
def UpdateSet.arguments (update : UpdateSet) : List Argument :=
  update.flatMap fun entry => entry.2.arguments

/-- **An update binds its arguments.** -/
theorem UpdateSet.draft_writes (update : UpdateSet) (table : Identifier) :
    (update.draft table).Writes update.arguments := by
  refine Writes.listed fun entry _ => ?_
  obtain ⟨field, operation⟩ := entry
  show (assignmentDraft table field operation).Writes operation.arguments
  unfold assignmentDraft
  split
  · exact writes_fail _ _
  · refine withIdentifier_writes fun column => ?_
    exact (writes_name column).between [.equals]
      (operation.draft_writes (columnOf_writes table column)) (by decide) (by decide)

/-! ### Clauses -/

theorem orderDraft_writes (sort : SortList) : (orderDraft sort).Writes [] := by
  have key : ∀ entry ∈ sort, (sortKeyDraft entry.1 entry.2).Writes [] := by
    rintro ⟨field, order⟩ -
    unfold sortKeyDraft
    split
    · next reference _ =>
      have writes := reference.draft_writes
      exact writes.append_words _ (mayEnd_space _)
    · exact writes_fail _ _
  cases sort with
  | nil => exact writes_nil
  | cons first rest =>
    refine Writes.words_append (Writes.listed_plain ?_) [.orderBy, .space] (by decide)
    rintro draft member
    obtain ⟨entry, known, rfl⟩ := List.mem_map.mp member
    exact key entry known

theorem Window.draft_writes (window : Window) : window.draft.Writes [] := by
  have bound : ∀ {keyword : Keyword} (number : UInt64), (boundDraft keyword number).Writes [] :=
    fun number => ⟨.cons_cons (.inr rfl) (.cons_cons (.inl rfl) (.singleton _)), fun _ => rfl,
      by simp [boundDraft, ofTokens]⟩
  refine Writes.spaced_plain fun draft member => ?_
  rcases List.mem_append.mp member with limit | offset
  · obtain ⟨number, -, rfl⟩ := Option.map_eq_some_iff.mp (Option.mem_toList.mp limit)
    exact bound number
  · obtain ⟨number, -, rfl⟩ := Option.map_eq_some_iff.mp (Option.mem_toList.mp offset)
    exact bound number

theorem Projection.draft_writes (projection : Projection) (table : Option Identifier) :
    (projection.draft table).Writes [] := by
  have qualified : ∀ {draft : Draft}, draft.Writes [] →
      (qualifierDraft table ++ draft).Writes [] := by
    intro draft writes
    cases table with
    | none => exact writes
    | some table => exact (writes_name table).between [.dot] writes (by decide) (by decide)
  unfold Projection.draft
  split
  · exact qualified (writes_words (by decide))
  · split
    · refine Writes.listed_plain ?_
      intro draft member
      obtain ⟨column, -, rfl⟩ := List.mem_map.mp member
      exact qualified (writes_name column)
    · exact writes_fail _ _

end TwinStore
