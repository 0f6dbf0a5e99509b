/-
**Placeholders.** Every text counts its arguments on from those that are bound before, and no
argument is ever moved or dropped.

* `Generator.Numbered`: what a generator binds and writes, call by call. A call that fails may bind
  something; a text has exactly one placeholder for each operand, in their order.
* `Generator.run_numbered` is one call, `Generator.runAll_numbered` any sequence of them.
* `insert_text`: an insertion lists one placeholder for each of its columns.
* `placeholders_in_order` puts together what holds of generators and of statements.
-/

import TwinStore.Proofs.Fields
import TwinStore.Proofs.Record
import TwinStore.Proofs.Sql.Insertion
import TwinStore.Proofs.Sql.Naming
import TwinStore.Sql.Generator

namespace TwinStore

open Sql Draft

/-! ### Generators -/

/-- The operands of a call. -/
def GeneratorCall.arguments : GeneratorCall → List Argument
  | .bind bound => [bound]
  | .bindValue value => [.ofColumn value]
  | .bindJson value => [.ofNested value]
  | .whereClause predicate => predicate.elim [] Predicate.arguments
  | .condition predicate => predicate.arguments
  | .setClause update _ => update.arguments

theorem GeneratorCall.draft_writes (call : GeneratorCall) : call.draft.Writes call.arguments := by
  cases call with
  | bind bound => exact writes_argument bound
  | bindValue value => exact writes_argument _
  | bindJson value => exact FieldReference.writes_nestedArgument value
  | whereClause predicate => exact Predicate.whereDraft_writes predicate
  | condition predicate => exact predicate.draft_writes
  | setClause update table => exact update.draft_writes table

namespace Generator

/-- From arguments that are bound before, calls lead to results and to the arguments bound then. -/
inductive Numbered :
    List Argument → List GeneratorCall → List (Except CompileError String) → List Argument → Prop
  | done (before : List Argument) : Numbered before [] [] before
  | failed {before bound after : List Argument} {call : GeneratorCall} {calls : List GeneratorCall}
      {results : List (Except CompileError String)} (error : CompileError)
      (rest : Numbered (before ++ bound) calls results after) :
      Numbered before (call :: calls) (.error error :: results) after
  | written {before after : List Argument} {call : GeneratorCall} {calls : List GeneratorCall}
      {results : List (Except CompileError String)} {text : String}
      (numbered : placeholders? text.toList =
        some (numbersFrom before.length call.arguments.length))
      (rest : Numbered (before ++ call.arguments) calls results after) :
      Numbered before (call :: calls) (.ok text :: results) after

/-- **Arguments are only added at the end.** -/
theorem Numbered.grows {before after : List Argument} {calls : List GeneratorCall}
    {results : List (Except CompileError String)}
    (numbered : Numbered before calls results after) : before <+: after := by
  induction numbered with
  | done before => exact List.prefix_refl before
  | failed error rest step => exact (List.prefix_append _ _).trans step
  | written numbered rest step => exact (List.prefix_append _ _).trans step

/-- **One call** adds arguments, and its text numbers its operands. -/
theorem run_numbered (generator : Generator) (call : GeneratorCall) :
    ∃ bound, (generator.run call).1.arguments = generator.arguments ++ bound ∧
      ∀ text, (generator.run call).2 = .ok text → bound = call.arguments ∧
        placeholders? text.toList =
          some (numbersFrom generator.arguments.length call.arguments.length) := by
  refine ⟨Token.arguments call.draft.tokens, rfl, fun text written => ?_⟩
  obtain ⟨tokens, finished, rendered⟩ := Result.map_eq_ok.mp written
  have writes := call.draft_writes
  rw [finish_eq_ok.mp finished] at writes ⊢
  have apart : tokens.IsChain Token.Apart := writes.apart
  have binds : Token.arguments tokens = call.arguments := writes.binds rfl
  refine ⟨binds, ?_⟩
  rw [← rendered, Token.render, String.toList_ofList, Token.placeholders?_charsFrom apart, binds]

/-- **Any sequence of calls** numbers the operands of each call behind those of the calls before. -/
theorem runAll_numbered (generator : Generator) (calls : List GeneratorCall) :
    Numbered generator.arguments calls (generator.runAll calls).2
      (generator.runAll calls).1.arguments := by
  induction calls generalizing generator with
  | nil => exact .done _
  | cons call rest step =>
    obtain ⟨bound, grown, texts⟩ := generator.run_numbered call
    have later := step (generator.run call).1
    rw [grown] at later
    simp only [runAll]
    cases result : (generator.run call).2 with
    | error error => exact .failed error later
    | ok text =>
      obtain ⟨rfl, numbered⟩ := texts text result
      exact .written numbered later

end Generator

/-! ### Insertions -/

theorem arguments_names (names : List Identifier) :
    Token.arguments (List.intercalate [.keyword .comma] (names.map fun name => [.name name])) =
      [] := by
  rw [Token.arguments, filterMap_intercalate rfl, flatMap_singles]
  exact List.filterMap_eq_nil_iff.mpr fun _ _ => rfl

theorem charsFrom_names (bound : Nat) (names : List Identifier) :
    Token.charsFrom bound
        (List.intercalate [.keyword .comma] (names.map fun name => [.name name])) =
      List.intercalate Keyword.comma.spelling.toList
        (names.map fun name => (quoteName name.text).toList) := by
  induction names with
  | nil => rfl
  | cons name rest step =>
    cases rest with
    | nil => simp [Token.charsFrom, Token.chars]
    | cons second others =>
      simp only [List.map_cons, List.intercalate_cons_cons] at step ⊢
      rw [← step]
      simp only [List.cons_append, List.nil_append, Token.charsFrom, List.append_assoc]
      rfl

/-- The placeholders of arguments that follow each other. -/
theorem charsFrom_arguments (bound : Nat) (arguments : List Argument) :
    Token.charsFrom bound
        (List.intercalate [.keyword .comma] (arguments.map fun argument => [.argument argument])) =
      List.intercalate Keyword.comma.spelling.toList
        ((numbersFrom bound arguments.length).map fun digits => '$' :: digits) := by
  induction arguments generalizing bound with
  | nil => rfl
  | cons argument rest step =>
    cases rest with
    | nil => simp [Token.charsFrom, Token.chars, numbersFrom]
    | cons second others =>
      have later := step (bound + 1)
      simp only [List.map_cons, List.intercalate_cons_cons, numbersFrom, List.length_cons,
        List.range'_succ] at later ⊢
      rw [← later]
      simp only [List.cons_append, List.nil_append, Token.charsFrom, List.append_assoc]
      rfl

theorem charsFrom_append_of_plain {bound : Nat} {left : List Token}
    (plain : Token.arguments left = []) (right : List Token) :
    Token.charsFrom bound (left ++ right) =
      Token.charsFrom bound left ++ Token.charsFrom bound right := by
  rw [Token.charsFrom_append, plain]
  rfl

/-- A text that lists names and values between fixed texts. -/
def listingText (opening table before comma : String) (columns : List String) (between : String)
    (values : List String) (closing : String) : String :=
  opening ++ quoteName table ++ before ++ comma.intercalate (columns.map quoteName) ++ between ++
    comma.intercalate values ++ closing

theorem toList_listingText (opening table before comma : String) (columns : List String)
    (between : String) (values : List String) (closing : String) :
    (listingText opening table before comma columns between values closing).toList =
      opening.toList ++ (quoteName table).toList ++ before.toList ++
        List.intercalate comma.toList (columns.map fun column => (quoteName column).toList) ++
        between.toList ++ List.intercalate comma.toList (values.map String.toList) ++
        closing.toList := by
  simp only [listingText, String.toList_append, String.toList_intercalate, List.map_map]
  rfl

theorem render_insertTokens (table : Identifier) (names : List Identifier)
    (bound : List Argument) :
    Token.render 0 (insertTokens table names bound) =
      listingText (Keyword.insertInto.spelling ++ Keyword.space.spelling) table.text
        (Keyword.space.spelling ++ Keyword.leftParenthesis.spelling) Keyword.comma.spelling
        (names.map Identifier.text)
        (Keyword.rightParenthesis.spelling ++ Keyword.space.spelling ++ Keyword.values.spelling ++
          Keyword.space.spelling ++ Keyword.leftParenthesis.spelling)
        ((numbersFrom 0 bound.length).map fun digits => String.ofList ('$' :: digits))
        (Keyword.rightParenthesis.spelling ++ Keyword.space.spelling ++
          Keyword.returningAll.spelling) := by
  let opening : List Token :=
    [.keyword .insertInto, .keyword .space, .name table, .keyword .space, .keyword .leftParenthesis]
  let between : List Token :=
    [.keyword .rightParenthesis, .keyword .space, .keyword .values, .keyword .space,
      .keyword .leftParenthesis]
  let closing : List Token :=
    [.keyword .rightParenthesis, .keyword .space, .keyword .returningAll]
  have parts : insertTokens table names bound =
      opening ++ (List.intercalate [.keyword .comma] (names.map fun name => [.name name]) ++
        (between ++ (List.intercalate [.keyword .comma] (bound.map fun argument =>
          [.argument argument]) ++ closing))) := by
    simp only [insertTokens, insertParts, List.intercalate_cons_cons, List.intercalate_singleton,
      List.append_assoc, List.cons_append, List.nil_append, opening, between, closing]
  have digits : ((numbersFrom 0 bound.length).map fun digits => String.ofList ('$' :: digits)).map
      String.toList = (numbersFrom 0 bound.length).map fun digits => '$' :: digits := by
    rw [List.map_map]
    exact List.map_congr_left fun digits _ => String.toList_ofList
  apply String.toList_injective
  rw [toList_listingText, digits, List.map_map, Token.render, String.toList_ofList, parts,
    charsFrom_append_of_plain rfl, charsFrom_append_of_plain (arguments_names names),
    charsFrom_append_of_plain rfl, Token.charsFrom_append, charsFrom_names, charsFrom_arguments]
  simp only [opening, between, closing, String.toList_append, Token.charsFrom, Token.chars,
    List.append_assoc, List.append_nil]
  rfl

/-- The text that inserts as many values as columns. -/
def insertText (table : String) (columns values : List String) : String :=
  "INSERT INTO " ++ quoteName table ++ " (" ++ ", ".intercalate (columns.map quoteName) ++
    ") VALUES (" ++ ", ".intercalate values ++ ") RETURNING *"

theorem insertText_eq (table : String) (columns values : List String) :
    listingText (Keyword.insertInto.spelling ++ Keyword.space.spelling) table
        (Keyword.space.spelling ++ Keyword.leftParenthesis.spelling) Keyword.comma.spelling columns
        (Keyword.rightParenthesis.spelling ++ Keyword.space.spelling ++ Keyword.values.spelling ++
          Keyword.space.spelling ++ Keyword.leftParenthesis.spelling) values
        (Keyword.rightParenthesis.spelling ++ Keyword.space.spelling ++
          Keyword.returningAll.spelling) = insertText table columns values := by
  have opening : Keyword.insertInto.spelling ++ Keyword.space.spelling = "INSERT INTO " := by decide
  have before : Keyword.space.spelling ++ Keyword.leftParenthesis.spelling = " (" := by decide
  have comma : Keyword.comma.spelling = ", " := rfl
  have between : Keyword.rightParenthesis.spelling ++ Keyword.space.spelling ++
      Keyword.values.spelling ++ Keyword.space.spelling ++ Keyword.leftParenthesis.spelling =
        ") VALUES (" := by decide
  have closing : Keyword.rightParenthesis.spelling ++ Keyword.space.spelling ++
      Keyword.returningAll.spelling = ") RETURNING *" := by decide
  simp only [opening, before, comma, between, closing]
  rfl

namespace Statement

variable {className : String} {plan : InsertPlan} {statement : Statement}

theorem names_insertEntries (plan : InsertPlan) :
    (insertEntries plan).map Prod.fst = [idName, createdName, updatedName] ++
      (plan.fields.filter fun entry => !entry.2.isNull).map Prod.fst := by
  rw [insertEntries, List.map_append]
  rfl

/-- The columns of an insertion are different from each other. -/
theorem nodup_insertEntries (sorted : plan.fields.Sorted)
    (plain : ∀ entry ∈ plan.fields, isReserved entry.1 = false) :
    ((insertEntries plan).map Prod.fst).Nodup := by
  rw [names_insertEntries, List.nodup_append]
  refine ⟨by decide, Fields.nodup_of_sorted (List.Pairwise.filter _ sorted), ?_⟩
  rintro name stamp _ member rfl
  obtain ⟨entry, inside, rfl⟩ := List.mem_map.mp member
  obtain ⟨notId, _, notCreated, notUpdated⟩ :=
    Record.isReserved_eq_false.mp (plain entry (List.mem_filter.mp inside).1)
  simp [notId, notCreated, notUpdated] at stamp

/-- Behind a statement there are identifiers for the table and all columns. -/
theorem valid_of_insert (plain : ∀ entry ∈ plan.fields, isReserved entry.1 = false)
    (built : Statement.insert className plan = .ok statement) :
    IsIdentifier className ∧
      ∀ entry ∈ insertEntries plan, IsIdentifier entry.1 ∧ entry.1 ≠ documentIdName := by
  obtain ⟨table, named, -⟩ := Result.bind_eq_ok.mp built
  refine ⟨tableOf_eq_ok.mp named ▸ table.valid, fun entry member => ?_⟩
  have different : entry.1 ≠ documentIdName := by
    intro same
    have inside : documentIdName ∈ (insertEntries plan).map Prod.fst :=
      List.mem_map.mpr ⟨entry, member, same⟩
    rw [names_insertEntries] at inside
    rcases List.mem_append.mp inside with stamp | field
    · exact absurd stamp (by decide)
    · obtain ⟨other, known, called⟩ := List.mem_map.mp field
      exact (Record.isReserved_eq_false.mp (plain other (List.mem_filter.mp known).1)).2.1 called
  obtain ⟨column, called⟩ := column_of_insert built entry member
  rw [columnName_eq_ok, if_neg different] at called
  exact ⟨called ▸ column.valid, different⟩

/-- **The text of an insertion** names one column for each of its placeholders. -/
theorem insert_text (plain : ∀ entry ∈ plan.fields, isReserved entry.1 = false)
    (built : Statement.insert className plan = .ok statement) :
    statement.sql = insertText className ((insertEntries plan).map Prod.fst)
      ((numbersFrom 0 statement.arguments.length).map fun digits => String.ofList ('$' :: digits)) ∧
    ((insertEntries plan).map Prod.fst).length = statement.arguments.length := by
  have binds : statement.arguments = (insertEntries plan).map fun entry => .ofColumn entry.2 :=
    (@Request.build_writes (.insert className plan) statement built).binds rfl
  obtain ⟨named, valid⟩ := valid_of_insert plain built
  obtain ⟨names, texts, written⟩ := insert_eq named valid
  cases built.symm.trans written
  refine ⟨?_, by rw [binds, List.length_map, List.length_map]⟩
  rw [sql, render_insertTokens, texts, insertText_eq, binds]

end Statement

/-! ### Statements and generators -/

/-- **Placeholders are numbered in order.** A generator's arguments only grow at the end, and each
of its texts numbers the operands of its call behind all arguments before. A statement numbers its
arguments from one on, and they are the operands of its verb. An insertion without names that are
kept for the store lists as many columns as values, each column once. -/
theorem placeholders_in_order :
    (∀ (generator : Generator) (calls : List GeneratorCall),
      generator.arguments <+: (generator.runAll calls).1.arguments ∧
        Generator.Numbered generator.arguments calls (generator.runAll calls).2
          (generator.runAll calls).1.arguments) ∧
    (∀ (request : Statement.Request) (statement : Statement), request.build = .ok statement →
      statement.arguments = request.arguments ∧
        placeholders? statement.sql.toList = some (numbersFrom 0 statement.arguments.length)) ∧
    ∀ (className : String) (plan : InsertPlan) (statement : Statement), plan.fields.Sorted →
      (∀ entry ∈ plan.fields, isReserved entry.1 = false) →
      Statement.insert className plan = .ok statement →
      ∃ columns : List String, columns.Nodup ∧ columns.length = statement.arguments.length ∧
        statement.sql = insertText className columns
          ((numbersFrom 0 statement.arguments.length).map fun digits =>
            String.ofList ('$' :: digits)) := by
  refine ⟨fun generator calls => ?_, fun request statement built => ?_, ?_⟩
  · have numbered := generator.runAll_numbered calls
    exact ⟨numbered.grows, numbered⟩
  · have writes := Statement.Request.build_writes built
    have apart : statement.tokens.IsChain Token.Apart := writes.apart
    refine ⟨writes.binds rfl, ?_⟩
    rw [Statement.sql, Token.render, String.toList_ofList, Token.placeholders?_charsFrom apart]
    rfl
  · intro className plan statement sorted plain built
    obtain ⟨text, same⟩ := Statement.insert_text plain built
    exact ⟨_, Statement.nodup_insertEntries sorted plain, same, text⟩

def sampleInsertion : InsertPlan :=
  ⟨"a", .first, [("level", .boolean true), ("place", .null)]⟩

theorem placeholders_in_order_sampleRequest :
    (∃ statement, Statement.sampleRequest.build = .ok statement ∧
      placeholders? statement.sql.toList = some [['1'], ['2'], ['3']]) ∧
    ∃ statement,
      Statement.insert "Item" sampleInsertion = .ok statement ∧
        ∃ columns : List String, columns.Nodup ∧ columns.length = statement.arguments.length ∧
          statement.sql = insertText "Item" columns
            ((numbersFrom 0 statement.arguments.length).map fun digits =>
              String.ofList ('$' :: digits)) := by
  obtain ⟨-, requests, insertions⟩ := placeholders_in_order
  refine ⟨⟨_, rfl, ?_⟩, ⟨_, rfl, ?_⟩⟩
  · obtain ⟨binds, numbered⟩ := requests Statement.sampleRequest _ rfl
    rw [numbered, binds]
    rfl
  · exact insertions "Item" sampleInsertion _ (by decide) (by decide) rfl

end TwinStore
