/-
**Statements say what predicates mean.** The text of a predicate is true of a row exactly if the
predicate holds of the row in two-valued logic.

* `FieldReference.isTerm` and `FieldReference.operand_isTerm`: what a condition compares.
* `FieldReference.clause_of_test`: a condition is a clause; on a column, its truth value is true
  exactly if the condition holds of what the column holds.
* `Predicate.clause_of_draft`, by induction on the predicate: a group joins truth values, and a
  negation takes what is unknown for false, so being true is all that counts of a member.
* `Predicate.text_true_iff_holds` is the main result.
-/

import TwinStore.Proofs.Sql.Clause

namespace TwinStore

open Sql Draft

theorem Value.isNull_columnForm (value : Value) : value.columnForm.isNull = value.isNull := by
  cases value <;> rfl

variable {δ : Type} (server : Server δ) (row : Row δ)

namespace FieldReference

/-! ### Fields -/

/-- The names of a path, as a statement writes them. -/
def pathText (path : List Identifier) : String :=
  String.ofList ('\x7b' :: Token.pathChars path ++ ['\x7d'])

/-- What a field holds. -/
def content (field : FieldReference) : Option δ :=
  match field.path with
  | [] => row field.column.text
  | path =>
    (row field.column.text).bind fun document =>
      server.extract document (server.literal (pathText path))

/-- What a field compares with. -/
def datum (field : FieldReference) (value : Value) : Option δ :=
  match field.path with
  | [] => server.argument (.ofColumn value)
  | _ => (server.argument (.ofNested value)).map server.asDocument

variable {server row}

theorem isTerm_path (column : Identifier) (path : List Identifier) :
    IsTerm server row
      (parenthesized (.ofTokens [.name column, .keyword .extract, .path path]))
      ((row column.text).bind fun document =>
        server.extract document (server.literal (pathText path))) := by
  refine ⟨[.keyword .leftParenthesis, .name column, .keyword .extract, .path path,
    .keyword .rightParenthesis], .extract (.column column.text) (.literal (pathText path)), rfl,
    ?_, .extract column.text (pathText path), rfl⟩
  have extract : Separates .extract (.mark .extract) := ⟨by decide, rfl, rfl, rfl⟩
  exact readable_parenthesized (extract.readable (@Token.Readable.single (.name column) trivial)
    (@Token.Readable.single (.path path) trivial))

/-- **A field is a term.** -/
theorem isTerm (field : FieldReference) :
    IsTerm server row field.draft (field.content server row) := by
  obtain ⟨column, path⟩ := field
  cases path with
  | nil => exact isTerm_column column
  | cons segment rest => exact isTerm_path column (segment :: rest)

/-- **So is an operand.** -/
theorem operand_isTerm (field : FieldReference) (value : Value) :
    IsTerm server row (field.operand value) (field.datum server value) := by
  obtain ⟨column, path⟩ := field
  cases path with
  | nil => exact isTerm_argument (.ofColumn value)
  | cons segment rest => exact isTerm_argument_cast (.ofNested value)

/-- An operand that is not null is a datum. -/
theorem datum_of_column {field : FieldReference} (column : field.path = []) {value : Value}
    (given : value.isNull = false) : field.datum server value = some (server.operand value) := by
  rw [datum, column]
  show (if value.columnForm.isNull then none else _) = _
  rw [Value.isNull_columnForm, given]
  rfl

theorem content_of_column {field : FieldReference} (column : field.path = []) :
    field.content server row = row field.column.text := by
  rw [content, column]

/-! ### Tests of a field -/

/-- **A test for null is a clause**; a column is null if it holds nothing. -/
theorem clause_of_nullTest (field : FieldReference) :
    ∃ truth, IsClause server row field.nullTest truth ∧
      (field.path = [] → truth = some (field.content server row).isNone) := by
  have term : IsTerm server row field.draft (field.content server row) := field.isTerm
  by_cases column : field.path = []
  · refine ⟨_, ?_, fun _ => rfl⟩
    rw [nullTest, column]
    exact term.isNull
  · have equals : Separates .equals (.mark .equals) := ⟨by decide, rfl, rfl, rfl⟩
    have either := term.isNull.group .any (.cons (term.compare equals rfl isTerm_jsonNull) .nil)
    have layout : field.nullTest =
        parenthesized (joined .or [field.draft ++ words [.isNull],
          field.draft ++ words [.equals] ++ words [.jsonNull]]) := by
      unfold nullTest
      split
      · next isColumn => exact absurd isColumn column
      · show parenthesized (field.draft ++ (words [.isNull] ++ words [.or]) ++ field.draft ++
          (words [.equals] ++ words [.jsonNull])) = _
        simp only [joined, append_assoc]
    rw [layout]
    exact ⟨_, either, fun isColumn => absurd isColumn column⟩

theorem clause_of_comparison (field : FieldReference) {comparison : Comparison}
    (ordered : comparison ≠ .different) (operand : Value) :
    IsClause server row (field.comparison comparison operand)
      (server.test comparison.sign (field.content server row) (field.datum server operand)) := by
  obtain ⟨mark, separates, isSign⟩ : ∃ mark,
      Separates (comparisonKeyword comparison) (.mark mark) ∧
        mark.sign? = some comparison.sign := by
    cases comparison with
    | greater => exact ⟨.greater, ⟨by decide, rfl, rfl, rfl⟩, rfl⟩
    | atLeast => exact ⟨.atLeast, ⟨by decide, rfl, rfl, rfl⟩, rfl⟩
    | less => exact ⟨.less, ⟨by decide, rfl, rfl, rfl⟩, rfl⟩
    | atMost => exact ⟨.atMost, ⟨by decide, rfl, rfl, rfl⟩, rfl⟩
    | different => exact absurd rfl ordered
    | equal | oneOf | present => exact ⟨.equals, ⟨by decide, rfl, rfl, rfl⟩, rfl⟩
  exact field.isTerm.compare separates isSign (field.operand_isTerm operand)

/-- A difference from something but null is a clause that is never unknown. -/
theorem clause_of_difference (field : FieldReference) (operand : Value) :
    IsClause server row (field.comparison .different operand)
      (some (server.distinct (field.content server row) (field.datum server operand))) :=
  field.isTerm.distinct (field.operand_isTerm operand)

/-- **A membership in a list that is not empty is a clause.** -/
theorem clause_of_membership (field : FieldReference) {operands : List Value}
    (some_ : operands ≠ []) :
    IsClause server row (field.membership operands)
      (server.member (field.content server row) (operands.map (field.datum server))) := by
  obtain ⟨operand, others, rfl⟩ := List.exists_cons_of_ne_nil some_
  have terms : List.Forall₂ (IsTerm server row) (others.map field.operand)
      (others.map (field.datum server)) := by
    induction others with
    | nil => exact .nil
    | cons other others step => exact .cons (field.operand_isTerm other) (step nofun)
  exact field.isTerm.membership (field.operand_isTerm operand) terms

theorem clause_of_presence (field : FieldReference) (there : Bool) :
    IsClause server row (field.presence there)
      (some ((field.content server row).isSome == there)) := by
  cases there with
  | true =>
    rw [show ((field.content server row).isSome == true) = (field.content server row).isSome by
      cases (field.content server row).isSome <;> rfl]
    exact field.isTerm.isNotNull
  | false =>
    rw [show ((field.content server row).isSome == false) = (field.content server row).isNone by
      cases field.content server row <;> rfl]
    exact field.isTerm.isNull

/-! ### What a column holds -/

theorem member_eq_true (content : Option δ) (items : List (Option δ)) :
    server.member content items = some true ↔
      ∃ item ∈ items, server.test .equal content item = some true := by
  induction items with
  | nil => simp [Server.member]
  | cons item rest step =>
    rw [Server.member, Truth.or_eq_true, step]
    simp

/-- An item of a list equals what a column holds. -/
def Matches (server : Server δ) (content : Option δ) (item : Value) : Prop :=
  match content with
  | none => item.isNull = true
  | some held => item.isNull = false ∧ server.compare .equal held (server.operand item) = true

/-- A truth value is true of a column exactly if one of the items matches. -/
def DecidesMembership (server : Server δ) (row : Row δ) (field : FieldReference)
    (items : List Value) (truth : Truth) : Prop :=
  field.path = [] →
    (truth = some true ↔ ∃ item ∈ items, Matches server (field.content server row) item)

/-- A condition of membership holds if one of the items matches. -/
theorem holdsOfContent_oneOf {condition : Condition} (isOneOf : condition.comparison = .oneOf)
    {items : List Value} (listed : condition.operand.items? = some items) (content : Option δ) :
    condition.holdsOfContent server content = true ↔
      ∃ item ∈ items, Matches server content item := by
  cases content with
  | none => simp [Condition.holdsOfContent, Condition.holdsOfNull, isOneOf, listed, Matches]
  | some held => simp [Condition.holdsOfContent, Condition.holdsOf, isOneOf, listed, Matches]

/-- A column is a member of a list if one of the items that are not null matches. -/
theorem member_of_column {field : FieldReference} (column : field.path = [])
    (content : Option δ) (items : List Value) :
    server.member content ((items.filter fun item => !item.isNull).map (field.datum server)) =
        some true ↔
      ∃ item ∈ items, item.isNull = false ∧ Matches server content item := by
  rw [member_eq_true]
  constructor
  · rintro ⟨datum, member, equal⟩
    obtain ⟨item, kept, rfl⟩ := List.mem_map.mp member
    obtain ⟨listed, given⟩ := List.mem_filter.mp kept
    rw [Bool.not_eq_true'] at given
    refine ⟨item, listed, given, ?_⟩
    rw [datum_of_column column given] at equal
    cases content with
    | none => cases equal
    | some held => exact ⟨given, Option.some.inj equal⟩
  · rintro ⟨item, listed, given, matched⟩
    refine ⟨_, List.mem_map.mpr ⟨item, List.mem_filter.mpr ⟨listed, by simp [given]⟩, rfl⟩, ?_⟩
    rw [datum_of_column column given]
    cases content with
    | none =>
      have isNull : item.isNull = true := matched
      rw [given] at isNull
      cases isNull
    | some held => exact congrArg some matched.2

theorem matches_null {content : Option δ} {item : Value} (isNull : item.isNull = true) :
    Matches server content item ↔ content.isNone = true := by
  cases content <;> simp [Matches, isNull]

/-- A membership in a list of nothing but nulls is a clause. -/
theorem clause_of_nulls (field : FieldReference) {items : List Value}
    (nulls : ∀ item ∈ items, item.isNull = true) :
    ∃ truth, IsClause server row (field.membershipOrNull items) truth ∧
      DecidesMembership server row field items truth := by
  have noOperand : (items.filter fun item => !item.isNull) = [] := by
    refine List.filter_eq_nil_iff.mpr ?_
    intro item member
    simp [nulls item member]
  cases items with
  | nil => exact ⟨_, isClause_constant false, fun _ => by simp⟩
  | cons first others =>
    obtain ⟨nullTruth, nullClause, ofNull⟩ := @clause_of_nullTest δ server row field
    have firstNull : first.isNull = true := nulls first List.mem_cons_self
    have written : field.membershipOrNull (first :: others) = field.nullTest := by
      simp only [membershipOrNull, noOperand, List.isEmpty_nil, List.any_cons, firstNull,
        Bool.true_or]
    rw [written]
    refine ⟨nullTruth, nullClause, fun column => ?_⟩
    rw [ofNull column, Option.some_inj, ← matches_null firstNull]
    constructor
    · exact fun matched => ⟨first, List.mem_cons_self, matched⟩
    · rintro ⟨other, member, matched⟩
      exact (matches_null firstNull).mpr ((matches_null (nulls other member)).mp matched)

/-- A membership in a list without nulls is a clause. -/
theorem clause_of_operands (field : FieldReference) {items : List Value}
    (operands : (items.filter fun item => !item.isNull) ≠ [])
    (noNull : items.any Value.isNull = false) :
    ∃ truth, IsClause server row (field.membershipOrNull items) truth ∧
      DecidesMembership server row field items truth := by
  have written : field.membershipOrNull items =
      field.membership (items.filter fun item => !item.isNull) := by
    simp only [membershipOrNull, List.isEmpty_eq_false_iff.mpr operands, noNull]
  rw [written]
  refine ⟨_, field.clause_of_membership operands, fun column => ?_⟩
  rw [member_of_column column]
  constructor
  · rintro ⟨item, member, -, matched⟩
    exact ⟨item, member, matched⟩
  · rintro ⟨item, member, matched⟩
    have given := List.any_eq_false.mp noNull item member
    exact ⟨item, member, by simpa using given, matched⟩

/-- A membership in a list with null and something else is a clause: a group of both tests. -/
theorem clause_of_operands_and_null (field : FieldReference) {items : List Value}
    (operands : (items.filter fun item => !item.isNull) ≠ [])
    (anyNull : items.any Value.isNull = true) :
    ∃ truth, IsClause server row (field.membershipOrNull items) truth ∧
      DecidesMembership server row field items truth := by
  obtain ⟨nullTruth, nullClause, ofNull⟩ := @clause_of_nullTest δ server row field
  have members := @clause_of_membership δ server row field _ operands
  have written : field.membershipOrNull items =
      parenthesized (joined .or
        [field.membership (items.filter fun item => !item.isNull), field.nullTest]) := by
    simp only [membershipOrNull, List.isEmpty_eq_false_iff.mpr operands, anyNull, joined]
  rw [written]
  refine ⟨_, members.group .any (.cons nullClause .nil), fun column => ?_⟩
  obtain ⟨item, member, isNull⟩ := List.any_eq_true.mp anyNull
  show Truth.or _ nullTruth = some true ↔ _
  rw [Truth.or_eq_true, member_of_column column, ofNull column, Option.some_inj,
    ← matches_null isNull]
  constructor
  · rintro (⟨other, otherMember, -, matched⟩ | matched)
    · exact ⟨other, otherMember, matched⟩
    · exact ⟨item, member, matched⟩
  · rintro ⟨other, otherMember, matched⟩
    by_cases otherNull : other.isNull = true
    · exact .inr ((matches_null isNull).mpr ((matches_null otherNull).mp matched))
    · exact .inl ⟨other, otherMember, by simpa using otherNull, matched⟩

/-- **A membership is a clause**, true of a column if one of the items matches. -/
theorem clause_of_membershipOrNull (field : FieldReference) (items : List Value) :
    ∃ truth, IsClause server row (field.membershipOrNull items) truth ∧
      DecidesMembership server row field items truth := by
  by_cases nulls : ∀ item ∈ items, item.isNull = true
  · exact field.clause_of_nulls nulls
  · have operands : (items.filter fun item => !item.isNull) ≠ [] := by
      intro empty
      refine nulls ?_
      intro item member
      simpa using List.filter_eq_nil_iff.mp empty item member
    cases anyNull : items.any Value.isNull with
    | false => exact field.clause_of_operands operands anyNull
    | true => exact field.clause_of_operands_and_null operands anyNull

/-! ### Conditions -/

/-- A condition's truth value is true of a column exactly if the condition holds of its content. -/
def Decides (server : Server δ) (row : Row δ) (field : FieldReference) (condition : Condition)
    (truth : Truth) : Prop :=
  field.path = [] →
    (truth = some true ↔ condition.holdsOfContent server (field.content server row) = true)

theorem decides_comparison (field : FieldReference) {condition : Condition}
    (given : condition.operand.isNull = false)
    (ordered : condition.comparison ∈ [.equal, .greater, .atLeast, .less, .atMost]) :
    Decides server row field condition
      (server.test condition.comparison.sign (field.content server row)
        (field.datum server condition.operand)) := by
  intro column
  rw [datum_of_column column given]
  obtain ⟨name, comparison, operand⟩ := condition
  have nonNull : operand.isNull = false := given
  simp only [List.mem_cons, List.not_mem_nil, or_false] at ordered
  cases field.content server row with
  | none =>
    rcases ordered with rfl | rfl | rfl | rfl | rfl <;>
      simp [Server.test, Condition.holdsOfContent, Condition.holdsOfNull, nonNull]
  | some held =>
    rcases ordered with rfl | rfl | rfl | rfl | rfl <;>
      simp [Server.test, Condition.holdsOfContent, Condition.holdsOf, nonNull, Comparison.sign]

/-- A difference from something but null decides, and null differs. -/
theorem decides_difference (field : FieldReference) {condition : Condition}
    (given : condition.operand.isNull = false) (different : condition.comparison = .different) :
    Decides server row field condition
      (some (server.distinct (field.content server row)
        (field.datum server condition.operand))) := by
  intro column
  rw [datum_of_column column given]
  cases field.content server row with
  | none =>
    simp [Server.distinct, Condition.holdsOfContent, Condition.holdsOfNull, given, different]
  | some held =>
    simp [Server.distinct, Condition.holdsOfContent, Condition.holdsOf, given, different]

theorem decides_nullTest (field : FieldReference) {condition : Condition} {truth : Truth}
    (absent : field.path = [] → truth = some (field.content server row).isNone)
    (isNull : condition.operand.isNull = true)
    (inclusive : condition.comparison ∈ [.equal, .atLeast, .atMost]) :
    Decides server row field condition truth := by
  intro column
  rw [absent column, Option.some_inj]
  obtain ⟨name, comparison, operand⟩ := condition
  have null : operand.isNull = true := isNull
  simp only [List.mem_cons, List.not_mem_nil, or_false] at inclusive
  cases field.content server row with
  | none =>
    rcases inclusive with rfl | rfl | rfl <;>
      simp [Condition.holdsOfContent, Condition.holdsOfNull, null]
  | some held =>
    rcases inclusive with rfl | rfl | rfl <;>
      simp [Condition.holdsOfContent, Condition.holdsOf, null]

/-- **A condition with the null operand is a clause that decides it.** -/
theorem clause_of_test_null (field : FieldReference) {condition : Condition}
    (isNull : condition.operand.isNull = true)
    (compares : condition.comparison ≠ .oneOf ∧ condition.comparison ≠ .present) :
    ∃ truth, IsClause server row (field.test condition) truth ∧
      Decides server row field condition truth := by
  obtain ⟨nullTruth, nullClause, absent⟩ := @clause_of_nullTest δ server row field
  have inclusive : condition.comparison ∈ [.equal, .atLeast, .atMost] →
      Decides server row field condition nullTruth := field.decides_nullTest absent isNull
  obtain ⟨name, comparison, operand⟩ := condition
  have null : operand.isNull = true := isNull
  have exclusive : ∀ {held : Option δ}, comparison = .greater ∨ comparison = .less →
      Condition.holdsOfContent server ⟨name, comparison, operand⟩ held = false := by
    intro held strict
    cases held <;> rcases strict with rfl | rfl <;>
      simp [Condition.holdsOfContent, Condition.holdsOfNull, Condition.holdsOf, null]
  cases comparison with
  | equal | atLeast | atMost =>
    simp only [test, null, if_true]
    exact ⟨nullTruth, nullClause, inclusive (by simp)⟩
  | different =>
    simp only [test, null, if_true]
    refine ⟨_, nullClause.not, fun column => ?_⟩
    rw [absent column]
    cases field.content server row <;>
      simp [Truth.not, Condition.holdsOfContent, Condition.holdsOfNull, Condition.holdsOf, null]
  | greater | less =>
    simp only [test, null, if_true]
    refine ⟨_, isClause_constant false, fun _ => ?_⟩
    rw [exclusive (by simp)]
    simp
  | oneOf => exact absurd rfl compares.1
  | present => exact absurd rfl compares.2

/-- **A condition with another operand is a clause that decides it.** -/
theorem clause_of_test_given (field : FieldReference) {condition : Condition}
    (given : condition.operand.isNull = false)
    (compares : condition.comparison ≠ .oneOf ∧ condition.comparison ≠ .present) :
    ∃ truth, IsClause server row (field.test condition) truth ∧
      Decides server row field condition truth := by
  have comparison_ := fun ordered => @clause_of_comparison δ server row field
    condition.comparison ordered condition.operand
  have difference := @clause_of_difference δ server row field condition.operand
  have decides := @decides_comparison δ server row field condition given
  have decidesDifference := @decides_difference δ server row field condition given
  obtain ⟨name, comparison, operand⟩ := condition
  have nonNull : operand.isNull = false := given
  cases comparison with
  | equal | greater | atLeast | less | atMost =>
    simp only [test, nonNull, Bool.false_eq_true, if_false]
    exact ⟨_, comparison_ nofun, decides (by simp)⟩
  | different =>
    simp only [test, nonNull, Bool.false_eq_true, if_false]
    exact ⟨_, difference, decidesDifference rfl⟩
  | oneOf => exact absurd rfl compares.1
  | present => exact absurd rfl compares.2

/-- **A condition is a clause that decides it**, if it is written without a fault. -/
theorem clause_of_test (field : FieldReference) {condition : Condition} {tokens : List Token}
    (written : field.test condition = ofTokens tokens) :
    ∃ truth, IsClause server row (field.test condition) truth ∧
      Decides server row field condition truth := by
  by_cases isOneOf : condition.comparison = .oneOf
  · simp only [test, isOneOf] at written ⊢
    cases listed : condition.operand.items? with
    | none =>
      rw [listed] at written
      cases written
    | some items =>
      obtain ⟨truth, clause, matched⟩ := @clause_of_membershipOrNull δ server row field items
      refine ⟨truth, clause, fun column => ?_⟩
      rw [matched column, holdsOfContent_oneOf isOneOf listed]
  · by_cases isPresent : condition.comparison = .present
    · simp only [test, isPresent] at written ⊢
      cases known : condition.operand.boolean? with
      | none =>
        rw [known] at written
        cases written
      | some there =>
        refine ⟨_, field.clause_of_presence there, fun _ => ?_⟩
        cases field.content server row <;> cases there <;>
          simp [Condition.holdsOfContent, Condition.holdsOfNull, Condition.holdsOf, isPresent,
            known]
    · cases null : condition.operand.isNull with
      | true => exact field.clause_of_test_null null ⟨isOneOf, isPresent⟩
      | false => exact field.clause_of_test_given null ⟨isOneOf, isPresent⟩

end FieldReference

variable {server row}

/-- **A condition is a clause** that is true exactly if the condition holds. -/
theorem Condition.clause_of_draft {condition : Condition} {tokens : List Token}
    (written : condition.draft = ofTokens tokens) :
    ∃ truth, IsClause server row condition.draft truth ∧
      (truth = some true ↔ condition.holds server row = true) := by
  cases found : FieldReference.ofText condition.field with
  | error error =>
    rw [Condition.draft, found] at written
    cases written
  | ok field =>
    have draft : condition.draft = field.test condition := by rw [Condition.draft, found]
    obtain ⟨truth, clause, decides⟩ :=
      @FieldReference.clause_of_test δ server row field condition tokens (draft ▸ written)
    refine ⟨truth, draft ▸ clause, ?_⟩
    by_cases column : field.path = []
    · rw [decides column, FieldReference.content_of_column column, Condition.holds, found]
      obtain ⟨name, path⟩ := field
      cases column
      rfl
    · -- The text on its own is the case of nothing bound before and behind it.
      have alone : IsClause server row (ofTokens tokens) truth := by
        rw [← written, draft]
        exact clause
      have text := alone.textTruth? [] []
      rw [List.nil_append, List.append_nil] at text
      have own : condition.holds server row = condition.textHolds server row := by
        rw [Condition.holds, found]
        obtain ⟨name, _ | ⟨segment, rest⟩⟩ := field
        · exact absurd rfl column
        · rfl
      rw [own, Condition.textHolds, finish_eq_ok.mpr written]
      show _ ↔ (textTruth? server row (Token.arguments tokens) (Token.render 0 tokens) ==
        some (some true)) = true
      rw [show Token.render 0 tokens = Token.render ([] : List Argument).length tokens from rfl,
        text, beq_iff_eq, Option.some_inj]

namespace Predicate

/-! ### Groups -/

/-- Members joined by `AND` are true if every one of them is. -/
theorem foldl_and (truths : List Truth) (truth : Truth) :
    truths.foldl Truth.and truth = some true ↔ ∀ each ∈ truth :: truths, each = some true := by
  induction truths generalizing truth with
  | nil => simp
  | cons second rest step =>
    rw [List.foldl_cons, step]
    simp only [List.forall_mem_cons, Truth.and_eq_true, and_assoc]

/-- Members joined by `OR` are true if one of them is. -/
theorem foldl_or (truths : List Truth) (truth : Truth) :
    truths.foldl Truth.or truth = some true ↔ ∃ each ∈ truth :: truths, each = some true := by
  induction truths generalizing truth with
  | nil => rw [List.exists_mem_cons_iff, List.foldl_nil]; simp
  | cons second rest step =>
    rw [List.foldl_cons, step]
    simp only [List.exists_mem_cons_iff, Truth.or_eq_true, or_assoc]

/-- The truth value is true exactly if the predicate holds. -/
def Agrees (server : Server δ) (row : Row δ) (truth : Truth) (predicate : Predicate) : Prop :=
  truth = some true ↔ predicate.holds server row = true

theorem Agrees.iff {truth : Truth} {predicate : Predicate}
    (agrees : Agrees server row truth predicate) :
    truth = some true ↔ predicate.holds server row = true := agrees

theorem holdsAll_of_agrees {truths : List Truth} {members : List Predicate}
    (agree : List.Forall₂ (Agrees server row) truths members) :
    (∀ truth ∈ truths, truth = some true) ↔ holdsAll server row members = true := by
  induction agree with
  | nil => simp [holdsAll]
  | cons first _ step =>
    rw [List.forall_mem_cons, step, holdsAll, Bool.and_eq_true, Agrees.iff first]

theorem holdsAny_of_agrees {truths : List Truth} {members : List Predicate}
    (agree : List.Forall₂ (Agrees server row) truths members) :
    (∃ truth ∈ truths, truth = some true) ↔ holdsAny server row members = true := by
  induction agree with
  | nil => simp [holdsAny]
  | cons first _ step =>
    rw [List.exists_mem_cons_iff, step, holdsAny, Bool.or_eq_true, Agrees.iff first]

/-- **Of the members of a group it counts only whether they are true.** -/
theorem agrees_group (connective : Connective) {truth : Truth} {truths : List Truth}
    {member : Predicate} {members : List Predicate}
    (agree : List.Forall₂ (Agrees server row) (truth :: truths) (member :: members)) :
    Agrees server row (truths.foldl connective.truth truth)
      (.group connective (member :: members)) := by
  cases connective with
  | all =>
    show truths.foldl Truth.and truth = some true ↔ _
    rw [foldl_and, holdsAll_of_agrees agree, holds]
  | any =>
    show truths.foldl Truth.or truth = some true ↔ _
    rw [foldl_or, holdsAny_of_agrees agree, holds]

theorem agrees_negation {truth : Truth} {inner : Predicate}
    (agrees : Agrees server row truth inner) :
    Agrees server row (Truth.not (some (truth.getD false))) (.negation inner) := by
  rw [Agrees, Truth.not_certain_eq_true, holds, Bool.not_eq_true', ne_eq, agrees.iff,
    Bool.not_eq_true]

theorem agrees_single (connective : Connective) {truth : Truth} {member : Predicate}
    (agrees : Agrees server row truth member) :
    Agrees server row truth (.group connective [member]) :=
  agrees_group connective (.cons agrees .nil)

mutual

/-- **A predicate is a clause** that is true exactly if the predicate holds. -/
theorem clause_of_draft : ∀ {predicate : Predicate} {tokens : List Token},
    predicate.draft = ofTokens tokens →
      ∃ truth, IsClause server row predicate.draft truth ∧ Agrees server row truth predicate
  | .condition test, tokens, written => by
    rw [draft] at written ⊢
    obtain ⟨truth, clause, holds_⟩ := @Condition.clause_of_draft δ server row test tokens written
    refine ⟨truth, clause, ?_⟩
    rw [Agrees, holds]
    exact holds_
  | .group .all [], _, _ =>
    ⟨_, isClause_constant true, by simp [Agrees, holds, holdsAll]⟩
  | .group .any [], _, _ =>
    ⟨_, isClause_constant false, by simp [Agrees, holds, holdsAny]⟩
  | .group connective [member], tokens, written => by
    rw [draft] at written ⊢
    obtain ⟨truth, clause, agrees⟩ := clause_of_draft written
    exact ⟨truth, clause, agrees_single connective agrees⟩
  | .group connective (first :: second :: rest), tokens, written => by
    rw [draft] at written ⊢
    · obtain ⟨inner, joined_, -⟩ := parenthesized_eq_ofTokens.mp written
      obtain ⟨parts, several, -⟩ := joined_eq_ofTokens.mp joined_
      obtain ⟨truths, clauses, agree⟩ := clauses_of_drafts several
      cases clauses with
      | cons clause others =>
        exact ⟨_, clause.group connective others, agrees_group connective agree⟩
    all_goals nofun
  | .negation inner, tokens, written => by
    rw [draft] at written ⊢
    obtain ⟨front, -, joinedFront, -, -⟩ := append_eq_ofTokens.mp written
    obtain ⟨-, part, -, innerWritten, -⟩ := append_eq_ofTokens.mp joinedFront
    obtain ⟨truth, clause, agrees⟩ := clause_of_draft innerWritten
    exact ⟨_, clause.negation, agrees_negation agrees⟩

/-- So are the members of a group. -/
theorem clauses_of_drafts : ∀ {members : List Predicate} {parts : List (List Token)},
    drafts members = parts.map ofTokens →
      ∃ truths, List.Forall₂ (IsClause server row) (drafts members) truths ∧
        List.Forall₂ (Agrees server row) truths members
  | [], _, _ => ⟨[], .nil, .nil⟩
  | member :: rest, parts, several => by
    rw [drafts] at several ⊢
    obtain ⟨part, others, rfl, written, more⟩ := List.map_eq_cons_iff.mp several.symm
    obtain ⟨truth, clause, agrees⟩ := clause_of_draft written.symm
    obtain ⟨truths, clauses, agree⟩ := clauses_of_drafts more.symm
    exact ⟨truth :: truths, .cons clause clauses, .cons agrees agree⟩

end

/-- **The text of a predicate is true of a row exactly if the predicate holds**, whatever is bound
before and behind it. -/
theorem text_true_iff_holds {predicate : Predicate} {tokens : List Token}
    (written : predicate.draft.finish = .ok tokens) (before after : List Argument)
    (server : Server δ) (row : Row δ) :
    ∃ truth,
      textTruth? server row (before ++ Token.arguments tokens ++ after)
        (Token.render before.length tokens) = some truth ∧
      (truth = some true ↔ predicate.holds server row = true) := by
  have draft_ := finish_eq_ok.mp written
  obtain ⟨truth, clause, agrees⟩ := @clause_of_draft δ server row predicate tokens draft_
  rw [draft_] at clause
  exact ⟨truth, clause.textTruth? before after, agrees⟩

/-- A server of integers and documents. -/
def sampleServer : Server (Int ⊕ Json) where
  typed
    | .number (.signed value) => .inl value.toInt
    | value => .inr value.toJson
  document := .inr
  literal text := .inr (.text text)
  numeral value := .inl value
  asDocument := id
  extract _ _ := none
  compare
    | .equal, .inl left, .inl right => left == right
    | .greater, .inl left, .inl right => right < left
    | .atLeast, .inl left, .inl right => right ≤ left
    | .less, .inl left, .inl right => left < right
    | .atMost, .inl left, .inl right => left ≤ right
    | _, _, _ => false
  compare_numerals left right := by
    rw [Bool.eq_iff_iff, beq_iff_eq, beq_iff_eq]
    exact Int.ofNat_inj

/-- Neither more than 18 nor at most 3; it holds of a row whose first column is null. -/
def samplePredicate : Predicate :=
  .negation (.group .any
    [.compare "age" .greater (.number (.signed 18)),
      .compare "level" .atMost (.number (.signed 3))])

theorem text_true_iff_holds_samplePredicate :
    ∃ tokens, samplePredicate.draft.finish = .ok tokens ∧
      textTruth? sampleServer (fun name => if name = "level" then some (.inl 5) else none)
        (Token.arguments tokens) (Token.render 0 tokens) = some (some true) := by
  obtain ⟨tokens, written⟩ : ∃ tokens, samplePredicate.draft.finish = .ok tokens := ⟨_, rfl⟩
  obtain ⟨truth, text, agrees⟩ := text_true_iff_holds written [] [] sampleServer
    (fun name => if name = "level" then some (.inl 5) else none)
  have holds_ : truth = some true := agrees.mpr (by decide)
  rw [holds_, List.nil_append, List.append_nil] at text
  exact ⟨tokens, written, text⟩

end Predicate

end TwinStore
