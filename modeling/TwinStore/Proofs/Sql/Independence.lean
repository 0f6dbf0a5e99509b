/-
**Texts do not depend on operands.** Two requests that differ in operands of one shape have the same
text, or fail for the same reason.

* `Draft.Alike`: two drafts that differ in their arguments at most. Everything that drafts are
  joined with keeps them alike, and `ofParts_alike` says that their statements have one text.
* `Request.SameShape`: what two requests have to agree on. An operand counts as a null or not, the
  operand of a membership with its numbers of items and nulls, that of a presence as it is.
* `operands_stay_out` is the main result.
-/

import TwinStore.Proofs.Predicate
import TwinStore.Proofs.Sql.Request

namespace TwinStore

/-! ### Drafts that differ in arguments -/

/-- The token, with one and the same argument in place of any other. -/
def Token.outline : Token → Token
  | .argument _ => .argument (.json .null)
  | token => token

/-- The characters of tokens do not depend on what their arguments are. -/
theorem Token.charsFrom_outline (bound : Nat) (tokens : List Token) :
    charsFrom bound (tokens.map outline) = charsFrom bound tokens := by
  induction tokens generalizing bound with
  | nil => rfl
  | cons token rest step =>
    rw [List.map_cons, charsFrom, charsFrom, step]
    cases token <;> rfl

namespace Draft

/-- The drafts differ in their arguments at most. -/
structure Alike (left right : Draft) : Prop where
  tokens : left.tokens.map Token.outline = right.tokens.map Token.outline
  fault : left.fault = right.fault

namespace Alike

@[simp] theorem refl (draft : Draft) : draft.Alike draft := ⟨rfl, rfl⟩

variable {left right left' right' : Draft}

theorem append (one : left.Alike left') (two : right.Alike right') :
    (left ++ right).Alike (left' ++ right') := by
  obtain ⟨tokens, fault⟩ := left
  obtain ⟨tokens', fault'⟩ := left'
  obtain ⟨same, rfl⟩ := one
  cases fault with
  | some error => exact ⟨same, rfl⟩
  | none =>
    refine ⟨?_, two.fault⟩
    show (tokens ++ right.tokens).map Token.outline = (tokens' ++ right'.tokens).map Token.outline
    rw [List.map_append, List.map_append, two.tokens]
    exact congrArg (· ++ _) same

theorem parenthesized (one : left.Alike left') : left.parenthesized.Alike left'.parenthesized :=
  ((refl _).append one).append (refl _)

variable {lefts rights : List Draft}

theorem joined (parts : List.Forall₂ Alike lefts rights) (separator : Keyword) :
    (joined separator lefts).Alike (joined separator rights) := by
  induction parts with
  | nil => exact refl _
  | cons first others step =>
    cases others with
    | nil => exact first
    | cons second others => exact (first.append (refl _)).append step

theorem isBlank (one : left.Alike left') : left.isBlank = left'.isBlank := by
  have tokens : left.tokens.isEmpty = left'.tokens.isEmpty := by
    rw [← List.isEmpty_map, one.tokens, List.isEmpty_map]
  rw [Draft.isBlank, Draft.isBlank, tokens, one.fault]

theorem spaced (parts : List.Forall₂ Alike lefts rights) :
    (Draft.spaced lefts).Alike (Draft.spaced rights) := by
  refine joined (List.rel_filter ?_ parts) .space
  intro left right one
  show (!left.isBlank) = true ↔ (!right.isBlank) = true
  rw [one.isBlank]

/-- Drafts of which only the number matters. -/
theorem forall₂_map {α : Type} {draft : α → Draft}
    (alike : ∀ one other, (draft one).Alike (draft other)) {items others : List α}
    (same : items.length = others.length) :
    List.Forall₂ Alike (items.map draft) (others.map draft) := by
  rw [List.forall₂_map_left_iff, List.forall₂_map_right_iff]
  exact List.forall₂_of_length_eq_of_get same fun _ _ _ => alike _ _

end Alike

end Draft

open Draft

/-! ### Filters -/

namespace FieldReference

theorem operand_alike (field : FieldReference) (one other : Value) :
    (field.operand one).Alike (field.operand other) := by
  obtain ⟨column, path⟩ := field
  cases path <;> exact ⟨rfl, rfl⟩

theorem comparison_alike (field : FieldReference) (comparison : Comparison) (one other : Value) :
    (field.comparison comparison one).Alike (field.comparison comparison other) :=
  (Alike.refl _).append (field.operand_alike one other)

theorem membership_alike (field : FieldReference) {items others : List Value}
    (same : items.length = others.length) :
    (field.membership items).Alike (field.membership others) := by
  have list := Alike.joined (Alike.forall₂_map field.operand_alike same) .comma
  exact (Alike.refl _).append list.parenthesized

/-- A test for one of several items depends on their shape only. -/
theorem membershipOrNull_alike (field : FieldReference) {items others : List Value}
    (same : itemShape items = itemShape others) :
    (field.membershipOrNull items).Alike (field.membershipOrNull others) := by
  obtain ⟨length, null⟩ := Prod.mk.inj same
  have members := field.membership_alike length
  unfold membershipOrNull
  rw [null]
  generalize (items.filter fun item => !item.isNull) = left at length members ⊢
  generalize (others.filter fun item => !item.isNull) = right at length members ⊢
  cases left with
  | nil =>
    rw [List.eq_nil_of_length_eq_zero length.symm]
    exact Alike.refl _
  | cons first rest =>
    obtain ⟨first', rest', rfl⟩ := List.exists_cons_of_length_eq_add_one length.symm
    cases others.any Value.isNull with
    | false => exact members
    | true => exact ((members.append (Alike.refl _)).append (Alike.refl _)).parenthesized

theorem test_alike (field : FieldReference) {left right : Condition} (same : left.SameShape right) :
    (field.test left).Alike (field.test right) := by
  obtain ⟨name, comparison, operand⟩ := left
  obtain ⟨name', comparison', operand'⟩ := right
  obtain ⟨rfl, rfl, null, items, there⟩ := same
  have compared := field.comparison_alike comparison operand operand'
  simp only at null items there
  cases comparison with
  | equal | different | greater | less | atLeast | atMost =>
    simp only [test, null]
    split
    · exact Alike.refl _
    · exact compared
  | oneOf =>
    have same := items rfl
    cases one : operand.items? with
    | none =>
      rw [one] at same
      simp only [test, one, Option.map_eq_none_iff.mp same.symm]
      exact Alike.refl _
    | some list =>
      rw [one] at same
      obtain ⟨list', other, shape⟩ := Option.map_eq_some_iff.mp same.symm
      simp only [test, one, other]
      exact field.membershipOrNull_alike shape.symm
  | present =>
    simp only [test, there rfl]
    exact Alike.refl _

end FieldReference

theorem Condition.draft_alike {left right : Condition} (same : left.SameShape right) :
    left.draft.Alike right.draft := by
  unfold Condition.draft
  rw [same.field]
  split
  · next field _ => exact field.test_alike same
  · exact Alike.refl _

namespace Predicate

theorem group_alike (connective : Connective) {lefts rights : List Predicate}
    (parts : List.Forall₂ Alike (drafts lefts) (drafts rights)) :
    (group connective lefts).draft.Alike (group connective rights).draft := by
  match lefts, rights with
  | [], [] => exact Alike.refl _
  | [left], [right] =>
    rw [draft, draft]
    exact (List.forall₂_cons.mp parts).1
  | _ :: _ :: _, _ :: _ :: _ =>
    rw [draft_group, draft_group]
    exact (Alike.joined parts connective.keyword).parenthesized

mutual

/-- **Predicates of one shape have drafts that differ in arguments only.** -/
theorem draft_alike : ∀ left right : Predicate, left.SameShape right →
    left.draft.Alike right.draft
  | .condition left, .condition right, same => by
    rw [draft, draft]
    exact Condition.draft_alike same
  | .group one lefts, .group other rights, same => by
    obtain ⟨rfl, members⟩ := same
    exact group_alike one (drafts_alike lefts rights members)
  | .negation left, .negation right, same => by
    rw [draft, draft]
    exact ((Alike.refl _).append (draft_alike left right same)).append (Alike.refl _)

theorem drafts_alike : ∀ lefts rights : List Predicate, SameShapes lefts rights →
    List.Forall₂ Alike (drafts lefts) (drafts rights)
  | [], [], _ => .nil
  | left :: lefts, right :: rights, same =>
    .cons (draft_alike left right same.1) (drafts_alike lefts rights same.2)

end

end Predicate

/-! ### Queries -/

/-- The queries differ in the operands of their filters at most, which are of one shape. -/
structure FindQuery.SameShape (left right : FindQuery) : Prop where
  className : left.className = right.className
  filters : Predicate.SameShapes left.filters right.filters
  sort : left.sort = right.sort
  skip : left.skip = right.skip
  limit : left.limit = right.limit
  includes : left.includes = right.includes

namespace FindQuery.SameShape

variable {left right : FindQuery}

theorem table (same : left.SameShape right) : left.table = right.table := by
  rw [FindQuery.table, FindQuery.table, requireClass, requireClass, same.className]

theorem projection (same : left.SameShape right) : left.projection = right.projection := by
  rw [FindQuery.projection, FindQuery.projection, same.includes]

theorem window (same : left.SameShape right) : left.window = right.window := by
  rw [FindQuery.window, FindQuery.window, same.skip, same.limit]

theorem whereDraft_alike (same : left.SameShape right) :
    left.whereDraft.Alike right.whereDraft := by
  have filters := same.filters
  rw [FindQuery.whereDraft, FindQuery.whereDraft, predicate?, predicate?]
  generalize left.filters = lefts at filters
  generalize right.filters = rights at filters
  match lefts, rights with
  | [], [] => exact Alike.refl _
  | [one], [other] => exact (Alike.refl _).append (Predicate.draft_alike one other filters.1)
  | first :: second :: lefts, first' :: second' :: rights =>
    exact (Alike.refl _).append (Predicate.group_alike .all (Predicate.drafts_alike _ _ filters))

theorem firstMatch_alike (same : left.SameShape right) (table : Identifier) (columns : Draft) :
    (Statement.firstMatch left table columns).Alike (Statement.firstMatch right table columns) := by
  rw [Statement.firstMatch, Statement.firstMatch, same.sort]
  exact (Alike.spaced (by simp [same.whereDraft_alike])).parenthesized

end FindQuery.SameShape

/-! ### Updates and insertions -/

/-- The operations differ in their operands at most: a set null stays null, and what is removed is
an array or not. -/
def UpdateOperation.SameShape : UpdateOperation → UpdateOperation → Prop
  | .set one, .set other => one.isNull = other.isNull
  | .removeAll one, .removeAll other => one.items?.isSome = other.items?.isSome
  | .increment _, .increment _ | .multiply _, .multiply _ | .max _, .max _ | .min _, .min _
  | .push _, .push _ | .popFirst, .popFirst | .popLast, .popLast => True
  | _, _ => False

theorem columnArgument_alike (one other : Value) :
    (columnArgument one).Alike (columnArgument other) := ⟨rfl, rfl⟩

theorem nestedArgument_alike (one other : Value) :
    (nestedArgument one).Alike (nestedArgument other) := ⟨rfl, rfl⟩

theorem UpdateOperation.draft_alike (field : String) (current : Draft)
    {left right : UpdateOperation} (same : left.SameShape right) :
    (left.draft field current).Alike (right.draft field current) := by
  have numbers : ∀ one other : Number,
      (argument (.typed (.number one))).Alike (argument (.typed (.number other))) :=
    fun one other => ⟨rfl, rfl⟩
  match left, right with
  | .set one, .set other =>
    have null : one.isNull = other.isNull := same
    cases one <;> cases other <;>
      first | exact columnArgument_alike _ _ | exact Alike.refl _ | cases null
  | .removeAll one, .removeAll other =>
    have listed : one.items?.isSome = other.items?.isSome := same
    simp only [draft]
    cases items : one.items? with
    | none =>
      rw [items] at listed
      rw [Option.isSome_eq_false_iff.mp listed.symm |> Option.isNone_iff_eq_none.mp]
      exact Alike.refl _
    | some list =>
      rw [items] at listed
      obtain ⟨list', items'⟩ := Option.isSome_iff_exists.mp listed.symm
      rw [items']
      exact ((Alike.refl _).append (nestedArgument_alike one other)).append (Alike.refl _)
  | .increment one, .increment other | .multiply one, .multiply other =>
    exact (Alike.refl _).append (numbers one other)
  | .max one, .max other | .min one, .min other =>
    exact ((Alike.refl _).append (columnArgument_alike one other)).append (Alike.refl _)
  | .push one, .push other =>
    exact ((Alike.refl _).append (nestedArgument_alike one other)).append (Alike.refl _)
  | .popFirst, .popFirst | .popLast, .popLast => exact Alike.refl _

/-- The updates have operations of one shape on the same fields. -/
def UpdateSet.SameShape (left right : UpdateSet) : Prop :=
  List.Forall₂ (fun one other => one.1 = other.1 ∧ one.2.SameShape other.2) left right

theorem UpdateSet.draft_alike {left right : UpdateSet} (same : left.SameShape right)
    (table : Identifier) : (left.draft table).Alike (right.draft table) := by
  refine Alike.joined ?_ .comma
  rw [List.forall₂_map_left_iff, List.forall₂_map_right_iff]
  refine same.imp ?_
  rintro ⟨field, operation⟩ ⟨_, operation'⟩ ⟨rfl, alike⟩
  show (assignmentDraft table field operation).Alike (assignmentDraft table field operation')
  unfold assignmentDraft
  split
  · exact Alike.refl _
  · cases columnName field with
    | error error => exact Alike.refl _
    | ok column =>
      exact (Alike.refl _).append (UpdateOperation.draft_alike field (columnOf table column) alike)

/-- The plans have the same fields, and the same of them are null. -/
def InsertPlan.SameShape (left right : InsertPlan) : Prop :=
  left.fields.map (fun entry => (entry.1, entry.2.isNull)) =
    right.fields.map fun entry => (entry.1, entry.2.isNull)

theorem InsertPlan.SameShape.names {left right : InsertPlan} (same : left.SameShape right) :
    (Statement.insertEntries left).map Prod.fst = (Statement.insertEntries right).map Prod.fst := by
  have written : ∀ fields : Fields Value,
      (fields.filter fun entry => !entry.2.isNull).map Prod.fst =
        ((fields.map fun entry => (entry.1, entry.2.isNull)).filter fun entry =>
          !entry.2).map Prod.fst := by
    intro fields
    rw [List.filter_map, List.map_map]
    rfl
  rw [Statement.insertEntries, Statement.insertEntries, List.map_append, List.map_append, written,
    written, same]
  rfl

/-! ### Statements -/

namespace Statement

/-- **Parts that differ in arguments only form statements of one text.** -/
theorem ofParts_alike {lefts rights : List Draft} (parts : List.Forall₂ Alike lefts rights) :
    (ofParts lefts).map sql = (ofParts rights).map sql := by
  obtain ⟨tokens, fault⟩ := Alike.spaced parts
  rw [ofParts, ofParts, finish, finish, fault]
  cases (spaced rights).fault with
  | some error => rfl
  | none =>
    refine congrArg Except.ok ?_
    rw [sql, sql, Token.render, Token.render, ← Token.charsFrom_outline, tokens,
      Token.charsFrom_outline]

theorem map_bind_congr {α : Type} (first : Except StoreError α)
    {next other : α → Except StoreError Statement}
    (same : ∀ value, (next value).map sql = (other value).map sql) :
    (first >>= next).map sql = (first >>= other).map sql := by
  cases first with
  | error error => rfl
  | ok value => exact same value

/-- The requests are of one verb and differ in operands of one shape at most. -/
inductive Request.SameShape : Request → Request → Prop where
  | count {left right : FindQuery} (same : left.SameShape right) :
    SameShape (.count left) (.count right)
  | select {left right : FindQuery} (same : left.SameShape right) :
    SameShape (.select left) (.select right)
  | updateOne {left right : FindQuery} (same : left.SameShape right) {update update' : UpdateSet}
    (operations : update.SameShape update') (returning : Returning) :
    SameShape (.updateOne left update returning) (.updateOne right update' returning)
  | deleteOne {left right : FindQuery} (same : left.SameShape right) :
    SameShape (.deleteOne left) (.deleteOne right)
  | deleteAll {left right : FindQuery} (same : left.SameShape right) :
    SameShape (.deleteAll left) (.deleteAll right)
  | insert (className : String) {left right : InsertPlan} (same : left.SameShape right) :
    SameShape (.insert className left) (.insert className right)

theorem Request.sql_eq_of_sameShape {left right : Request} (same : left.SameShape right) :
    left.build.map sql = right.build.map sql := by
  cases same with
  | count query =>
    rw [build, build, Statement.count, Statement.count, query.table]
    exact map_bind_congr _ fun table => ofParts_alike (by simp [query.whereDraft_alike])
  | select query =>
    rw [build, build, Statement.select, Statement.select, query.table, query.projection, query.sort,
      query.window]
    exact map_bind_congr _ fun table => ofParts_alike (by simp [query.whereDraft_alike])
  | updateOne query operations returning =>
    rw [build, build, Statement.updateOne, Statement.updateOne, query.table, query.projection]
    refine map_bind_congr _ fun table => ofParts_alike ?_
    simp [UpdateSet.draft_alike operations table, query.firstMatch_alike]
  | deleteOne query =>
    rw [build, build, Statement.deleteOne, Statement.deleteOne, query.table, query.projection]
    refine map_bind_congr _ fun table => ofParts_alike ?_
    simp [(Alike.refl _).append (query.firstMatch_alike table _)]
  | deleteAll query =>
    rw [build, build, Statement.deleteAll, Statement.deleteAll, query.table]
    exact map_bind_congr _ fun table => ofParts_alike (by simp [query.whereDraft_alike])
  | @insert className left right plans =>
    rw [build, build, Statement.insert, Statement.insert]
    refine map_bind_congr _ fun table => ofParts_alike ?_
    have columns : ∀ plan : InsertPlan,
        ((insertEntries plan).map fun entry => withIdentifier (columnName entry.1) Draft.name) =
          ((insertEntries plan).map Prod.fst).map fun field =>
            withIdentifier (columnName field) Draft.name := by
      intro plan
      rw [List.map_map]
      rfl
    have length : (insertEntries left).length = (insertEntries right).length := by
      rw [← List.length_map Prod.fst, plans.names, List.length_map]
    have values := Alike.joined (Alike.forall₂_map (fun one other : String × Value =>
      columnArgument_alike one.2 other.2) length) .comma
    rw [columns, columns, plans.names]
    simp [listed, values.parenthesized]

end Statement

/-- **Operands stay out of the text.** Requests of one shape fail together, for the same reason, or
have statements of the same text. -/
theorem operands_stay_out {left right : Statement.Request} (same : left.SameShape right) :
    (∃ error, left.build = .error error ∧ right.build = .error error) ∨
      ∃ one other, left.build = .ok one ∧ right.build = .ok other ∧ one.sql = other.sql := by
  have texts := Statement.Request.sql_eq_of_sameShape same
  cases left_ : left.build with
  | error error =>
    cases right_ : right.build with
    | error other =>
      rw [left_, right_] at texts
      cases texts
      exact .inl ⟨error, rfl, rfl⟩
    | ok other =>
      rw [left_, right_] at texts
      cases texts
  | ok one =>
    cases right_ : right.build with
    | error error =>
      rw [left_, right_] at texts
      cases texts
    | ok other =>
      rw [left_, right_] at texts
      exact .inr ⟨one, other, rfl, rfl, Except.ok.inj texts⟩

/-- The sample request with other operands. -/
def Statement.otherSampleRequest : Statement.Request :=
  .updateOne
    { FindQuery.empty with
      className := some "Item"
      filters := [.compare "level" .less (.text "7"),
        .compare "place.shelf" .equal (.object [("row", .boolean true)])] }
    [("level", .increment (.signed 9))] .after

theorem operands_stay_out_sampleRequest :
    Statement.sampleRequest.SameShape Statement.otherSampleRequest ∧
      ∃ one other, Statement.sampleRequest.build = .ok one ∧
        Statement.otherSampleRequest.build = .ok other ∧ one.sql = other.sql := by
  have filters : Predicate.SameShapes
      [.compare "level" .less (.number (.signed 3)), .compare "place.shelf" .equal (.text "A")]
      [.compare "level" .less (.text "7"),
        .compare "place.shelf" .equal (.object [("row", .boolean true)])] :=
    ⟨⟨rfl, rfl, rfl, nofun, nofun⟩, ⟨rfl, rfl, rfl, nofun, nofun⟩, trivial⟩
  have same : Statement.sampleRequest.SameShape Statement.otherSampleRequest := by
    refine .updateOne ?_ ?_ .after
    · exact ⟨rfl, filters, rfl, rfl, rfl, rfl⟩
    · exact .cons ⟨rfl, trivial⟩ .nil
  refine ⟨same, ?_⟩
  rcases operands_stay_out same with ⟨error, failed, -⟩ | texts
  · cases failed
  · exact texts

end TwinStore
