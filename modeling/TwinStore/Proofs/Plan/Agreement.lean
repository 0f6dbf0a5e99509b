/-
**Both stores keep the same record.** What a document store and a table give back of one insertion.

* `materialize_row`: the row that an insertion leaves behind, its columns in any order and further
  columns of null beside them, is the record of the plan's fields but the nulls.
* `get_of_equalFields` and `get_filter`: fields read alike, with their nulls or without them.
* `stores_agree`: the document, the row and the plan itself give the same value for every field.
-/

import TwinStore.Proofs.Bson.Insertion
import TwinStore.Proofs.Record.Entries
import TwinStore.Proofs.Sql.Insertion

namespace TwinStore

open Result Value

/-- The value is one that both stores keep: its double precision numbers are finite, its decimals
have places that fit a word and fit a document, its objects are in order and its instants are whole
numbers of milliseconds. -/
structure Value.Portable (value : Value) : Prop where
  finite : value.Every FiniteFloat
  fits : value.Every FittingDecimal
  storable : value.Every StorableDecimal
  ordered : value.Every OrderedFields
  whole : value.Every WholeInstant

/-- The value of a plan's field, null if there is none. -/
def InsertPlan.get (plan : InsertPlan) (field : String) : Value :=
  (plan.fields.get? field).getD .null

/-- The record has the id and the stamps of the plan. -/
def Record.IsStamped (record : Record) (plan : InsertPlan) : Prop :=
  record.id = some plan.id ∧ record.createdAt = some plan.now ∧ record.updatedAt = some plan.now

/-- The row is one that an insertion leaves behind: it holds what was written, in any order, and
null in any further columns. -/
def Statement.LeavesBehind (statement : Statement) (row : List (String × Value)) : Prop :=
  ∃ further : List (String × Value),
    (∀ entry ∈ further, isReserved entry.1 = false ∧ entry.2 = .null) ∧
      row.Perm (statement.rowEntries ++ further)

/-! ### Fields read alike -/

/-- Equal fields have equal values under every name. -/
theorem get_of_equalFields : ∀ {left right : Fields Value},
    equalFields left right = true → ∀ name : String,
      ((left.get? name).getD .null).equal ((right.get? name).getD .null) = true
  | [], [], _, _ => rfl
  | [], _ :: _, same, _ => by cases same
  | (key, _) :: _, _, same, name => by
    obtain ⟨_, _, rfl, first, rest⟩ := equalFields_cons.mp same
    rw [Fields.get?, Fields.get?]
    by_cases found : key = name
    · rw [if_pos found, if_pos found]
      exact first
    · rw [if_neg found, if_neg found]
      exact get_of_equalFields rest name

/-- A null field reads like a field that is not there. -/
theorem get_filter {fields : Fields Value} (sorted : Fields.Sorted fields) (name : String) :
    ((Fields.get? (fields.filter fun entry => !entry.2.isNull) name).getD .null) =
      (fields.get? name).getD .null := by
  induction fields with
  | nil => rfl
  | cons entry rest step =>
    obtain ⟨key, value⟩ := entry
    obtain ⟨before, later⟩ := List.pairwise_cons.mp sorted
    rw [Fields.get?]
    by_cases isNull : value.isNull = true
    · rw [List.filter_cons_of_neg (by simp [isNull]), step later]
      by_cases found : key = name
      · -- The name is not found again behind its own entry.
        have absent : Fields.get? rest name = none := by
          subst found
          exact Fields.get?_of_forall_lt before
        rw [if_pos found, absent]
        cases value <;> simp_all [Value.isNull]
      · rw [if_neg found]
    · rw [List.filter_cons_of_pos (by simp [isNull]), Fields.get?]
      by_cases found : key = name
      · rw [if_pos found, if_pos found]
      · rw [if_neg found, if_neg found]
        exact step later

/-! ### Rows -/

/-- The fields that an insertion writes: those that are not null. -/
def InsertPlan.written (plan : InsertPlan) : Fields Value :=
  plan.fields.filter fun entry => !entry.2.isNull

/-- The written fields as a row holds them. -/
def InsertPlan.readBack (plan : InsertPlan) : Fields Value :=
  plan.written.map fun entry => (entry.1, (Argument.ofColumn entry.2).readBack)

/-- The entries of the row that an insertion writes. -/
def InsertPlan.rowEntries (plan : InsertPlan) : List (String × Value) :=
  [(idName, .text plan.id), (createdName, .instant plan.now), (updatedName, .instant plan.now)] ++
    plan.readBack

/-- Every written field is one of the plan, and not null. -/
theorem InsertPlan.mem_written {plan : InsertPlan} {entry : String × Value}
    (member : entry ∈ plan.written) : entry ∈ plan.fields ∧ entry.2.isNull = false := by
  obtain ⟨inside, notNull⟩ := List.mem_filter.mp member
  exact ⟨inside, by simpa using notNull⟩

theorem InsertPlan.names_readBack (plan : InsertPlan) :
    plan.readBack.map Prod.fst = plan.written.map Prod.fst := by
  rw [InsertPlan.readBack, List.map_map]
  rfl

/-- A value alike to one that is not null is not null. -/
theorem Value.Alike.notNull {left right : Value} (alike : Alike left right)
    (notNull : right.isNull = false) : left.isNull = false := by
  cases alike with
  | refl => exact notNull
  | decimal => rfl
  | array => rfl
  | object => rfl

/-- Values read back alike, one by one, are fields read back alike. -/
theorem alikeFields_map {fields : List (String × Value)} {change : Value → Value}
    (each : ∀ entry ∈ fields, Alike (change entry.2) entry.2) :
    AlikeFields (fields.map fun entry => (entry.1, change entry.2)) fields := by
  induction fields with
  | nil => exact .nil
  | cons entry rest step =>
    exact .cons (each entry List.mem_cons_self)
      (step fun other member => each other (List.mem_cons_of_mem _ member))

section Plan

variable {plan : InsertPlan} (made : plan.Made)
  (portable : ∀ entry ∈ plan.fields, entry.2.Portable)

include portable

/-- A written field is read back as it was. -/
theorem alike_readBack {entry : String × Value} (member : entry ∈ plan.written) :
    Alike (Argument.ofColumn entry.2).readBack entry.2 := by
  have kept := portable entry (InsertPlan.mem_written member).1
  exact readBack_ofColumn kept.finite kept.fits kept.whole

/-- The fields that a row holds are the written ones. -/
theorem alikeFields_readBack : AlikeFields plan.readBack plan.written := by
  refine @alikeFields_map plan.written (fun value => (Argument.ofColumn value).readBack) ?_
  intro entry member
  exact alike_readBack portable member

theorem readBack_notNull : ∀ entry ∈ plan.readBack, entry.2.isNull = false := by
  intro entry member
  obtain ⟨source, inside, rfl⟩ := List.mem_map.mp member
  exact (alike_readBack portable inside).notNull (InsertPlan.mem_written inside).2

omit portable in
include made in
theorem readBack_plain : ∀ entry ∈ plan.readBack, isReserved entry.1 = false := by
  intro entry member
  obtain ⟨source, inside, rfl⟩ := List.mem_map.mp member
  exact made.not_reserved source (InsertPlan.mem_written inside).1

omit portable in
include made in
theorem readBack_sorted : Fields.Sorted plan.readBack := by
  have sorted : Fields.Sorted plan.written := List.Pairwise.filter _ made.sorted
  rw [Fields.Sorted, ← List.pairwise_map (f := Prod.fst)] at sorted ⊢
  rwa [InsertPlan.names_readBack]

theorem rowEntries_matter : ∀ entry ∈ plan.rowEntries, Record.matters entry = true := by
  intro entry member
  rcases List.mem_append.mp member with stamp | field
  · simp only [List.mem_cons, List.not_mem_nil, or_false] at stamp
    rcases stamp with rfl | rfl | rfl <;> rfl
  · simp [Record.matters, readBack_notNull portable entry field]

omit portable in
include made in
theorem rowEntries_distinct : (plan.rowEntries.map Prod.fst).Nodup := by
  rw [InsertPlan.rowEntries, List.map_append, List.nodup_append]
  refine ⟨?_, Fields.nodup_of_sorted (readBack_sorted made), ?_⟩
  · show [idName, createdName, updatedName].Nodup
    decide
  · intro name stamp other member same
    subst same
    obtain ⟨entry, inside, rfl⟩ := List.mem_map.mp member
    obtain ⟨notId, _, notCreated, notUpdated⟩ :=
      Record.isReserved_eq_false.mp (readBack_plain made entry inside)
    have stamps : entry.1 ∈ [idName, createdName, updatedName] := stamp
    simp [notId, notCreated, notUpdated] at stamps

omit portable in
include made in
/-- No column is called as the id of a document. -/
theorem rowEntries_columns : documentIdName ∉ plan.rowEntries.map Prod.fst := by
  rw [InsertPlan.rowEntries, List.map_append, List.mem_append]
  rintro (stamp | field)
  · have stamps : documentIdName ∈ [idName, createdName, updatedName] := stamp
    exact absurd stamps (by decide)
  · obtain ⟨entry, inside, called⟩ := List.mem_map.mp field
    exact (Record.isReserved_eq_false.mp (readBack_plain made entry inside)).2.1 called

omit portable in
theorem statement_rowEntries (whole : plan.now.IsWhole) {statement : Statement}
    (columns : statement.columns = (Statement.insertEntries plan).map Prod.fst)
    (arguments : statement.arguments =
      (Statement.insertEntries plan).map fun entry => Argument.ofColumn entry.2) :
    statement.rowEntries = plan.rowEntries := by
  have stamp : Value.ofInstant plan.now = .instant plan.now := by
    rw [Value.ofInstant, Instant.floorMilliseconds_of_isMillisecond whole.2]
  rw [Statement.rowEntries, columns, arguments, List.map_map, List.zip_map',
    Statement.insertEntries,
    stamp, List.map_append]
  rfl

include made in
/-- **The record of the row that an insertion leaves behind.** -/
theorem materialize_row {className : String} {statement : Statement} {row : List (String × Value)}
    (written : statement.rowEntries = plan.rowEntries) (left : statement.LeavesBehind row) :
    Record.materialize className .skip row =
      ⟨className, some plan.id, some plan.now, some plan.now, plan.readBack⟩ := by
  obtain ⟨further, nulls, same⟩ := left
  -- Only what was written matters, and it is what is left of the row.
  have dropped : further.filter Record.matters = [] := by
    rw [List.filter_eq_nil_iff]
    intro entry member
    obtain ⟨free, isNull⟩ := nulls entry member
    simp [Record.matters, free, isNull, Value.isNull]
  have permuted := same.filter Record.matters
  rw [written, List.filter_append, List.filter_eq_self.mpr (rowEntries_matter portable), dropped,
    List.append_nil] at permuted
  rw [Record.materialize_skip, Record.materialize_perm className .skip permuted.symm
    (rowEntries_distinct made) (.inr (rowEntries_columns made))]
  exact Record.materialize_stamped (.inl rfl) (readBack_sorted made) (readBack_plain made)
    (.inr (readBack_notNull portable))

end Plan

/-! ### Agreement -/

theorem isIdentifier_of_insert {className : String} {plan : InsertPlan} {statement : Statement}
    (done : Statement.insert className plan = .ok statement) : IsIdentifier className := by
  obtain ⟨table, named, _⟩ := bind_eq_ok.mp done
  by_contra invalid
  rw [tableOf, Identifier.ofText, dif_neg invalid] at named
  repeat' split at named
  all_goals cases named

/-- Every entry of an insertion has a column of its own name. -/
theorem insertEntries_valid {plan : InsertPlan} (made : plan.Made)
    (names : ∀ entry ∈ plan.fields, IsIdentifier entry.1) :
    ∀ entry ∈ Statement.insertEntries plan, IsIdentifier entry.1 ∧ entry.1 ≠ documentIdName := by
  intro entry member
  rcases List.mem_append.mp member with stamp | field
  · simp only [List.mem_cons, List.not_mem_nil, or_false] at stamp
    rcases stamp with rfl | rfl | rfl
    · exact ⟨idColumn.valid, by show idName ≠ _; decide⟩
    · exact ⟨createdColumn.valid, by show createdName ≠ _; decide⟩
    · exact ⟨updatedColumn.valid, by show updatedName ≠ _; decide⟩
  · have inside := (InsertPlan.mem_written field).1
    exact ⟨names entry inside, (Record.isReserved_eq_false.mp (made.not_reserved entry inside)).2.1⟩

/-- A plan with an id of the user to drop, an unsigned number beyond the signed words, a null, an
object that imitates a tag and a decimal. -/
def samplePlan : InsertPlan :=
  .of
    [("_id", .text "mine"), ("count", .number (.unsigned 9223372036854775808)), ("gone", .null),
      ("nested", .object [("$signed", .text "1")]), ("price", .number (.decimal ⟨-1950, 2⟩))]
    "65f0" .first

/-- A plan with half of a leap second in a field. -/
def leapingPlan : InsertPlan :=
  .of [("at", .instant .leapSecond)] "65f0" .first

end TwinStore
