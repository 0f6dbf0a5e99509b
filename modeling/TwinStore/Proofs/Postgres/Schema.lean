/-
**Schemas.** What the definitions of tables and indexes do to a PostgreSQL schema. What is there
already is left alone, whatever it looks like.

* `Schema`: tables with typed columns, and named indexes. `Alteration` is what a statement is to do
  to it, and `Alteration.read?` reads the statement; `read?_createTable`, `read?_addColumns` and
  `read?_createIndex`: what is compiled can be read.
* `Alteration.made`: what an alteration makes of a schema.
* `Keeper`: the part of a server that is not decided by the statements. `Keeper.server` keeps a
  schema, and may refuse to change it.
-/

import TwinStore.Proofs.Postgres.Definition
import TwinStore.Proofs.Sql.Request

namespace TwinStore.Postgres

/-- An index that is kept in a schema: its table, its columns with their directions, and whether it
is unique. -/
structure StoredIndex where
  table : String
  columns : List (String × Keyword)
  isUnique : Bool
  deriving DecidableEq

/-- A schema: the columns of each table with their types, and the indexes by their names. -/
structure Schema where
  tables : Fields (Fields Keyword)
  indexes : Fields StoredIndex
  deriving DecidableEq

/-- What a statement is to do to a schema. -/
inductive Alteration where
  | createTable (name : String) (columns : List (String × Keyword))
  | addColumns (table : String) (columns : List (String × Keyword))
  | createIndex (name table : String) (columns : List (String × Keyword)) (isUnique : Bool)

/-! ### Statements -/

def isComma : Token → Bool
  | .keyword .comma => true
  | _ => false

/-- The parts of tokens between commas. -/
def commaParts (tokens : List Token) : List (List Token) := tokens.splitOnP isComma

/-- What stands in front of the parenthesis that closes. -/
def enclosed? (tokens : List Token) : Option (List Token) :=
  match tokens.getLast? with
  | some (.keyword .rightParenthesis) => some tokens.dropLast
  | _ => none

/-- The column of a definition with its type, or that of an index with its direction. -/
def columnOf? : List Token → Option (String × Keyword)
  | [.name column, .keyword .space, .keyword word] => some (column.text, word)
  | [.name column, .keyword .space, .keyword word, .keyword .space, .keyword .primaryKey] =>
    some (column.text, word)
  | _ => none

/-- The column of an addition with its type. -/
def addition? : List Token → Option (String × Keyword)
  | .keyword .addColumn :: .keyword .space :: column => columnOf? column
  | _ => none

/-- Columns between parentheses. -/
def columnsOf? (tokens : List Token) : Option (List (String × Keyword)) := do
  (commaParts (← enclosed? tokens)).mapM columnOf?

/-- Reads a statement. -/
def Alteration.read? : List Token → Option Alteration
  | .keyword .createTable :: .keyword .space :: .name table :: .keyword .space ::
      .keyword .leftParenthesis :: rest =>
    (columnsOf? rest).map (.createTable table.text)
  | .keyword .alterTable :: .keyword .space :: .name table :: .keyword .space :: rest =>
    ((commaParts rest).mapM addition?).map (.addColumns table.text)
  | .keyword word :: .keyword .space :: .name index :: .keyword .space :: .keyword .on ::
      .keyword .space :: .name table :: .keyword .space :: .keyword .leftParenthesis :: rest =>
    match word with
    | .createIndex => (columnsOf? rest).map (.createIndex index.text table.text · false)
    | .createUniqueIndex => (columnsOf? rest).map (.createIndex index.text table.text · true)
    | _ => none
  | _ => none

theorem enclosed?_append (tokens : List Token) :
    enclosed? (tokens ++ [.keyword .rightParenthesis]) = some tokens := by
  rw [enclosed?, List.getLast?_concat, List.dropLast_concat]

theorem commaParts_intercalate {parts : List (List Token)} (some_ : parts ≠ [])
    (free : ∀ part ∈ parts, ∀ token ∈ part, isComma token = false) :
    commaParts (List.intercalate [.keyword .comma] parts) = parts := by
  induction parts with
  | nil => exact absurd rfl some_
  | cons part rest step =>
    obtain ⟨first, later⟩ := List.forall_mem_cons.mp free
    cases rest with
    | nil =>
      rw [List.intercalate_singleton]
      exact List.splitOnP_eq_singleton first
    | cons second others =>
      rw [List.intercalate_cons_cons, List.append_assoc]
      show commaParts (part ++ .keyword .comma :: _) = _
      rw [commaParts, List.splitOnP_append_cons_of_forall_mem first _ rfl]
      exact congrArg (part :: ·) (step (List.cons_ne_nil _ _) later)

/-- A draft is a part without commas, in which an entry can be read. -/
def ReadAs (read? : List Token → Option (String × Keyword)) (draft : Draft)
    (entry : String × Keyword) : Prop :=
  ∃ part, draft = .ofTokens part ∧ read? part = some entry ∧ ∀ token ∈ part, isComma token = false

/-- The entries of a list can be read. -/
theorem read_listed {read? : List Token → Option (String × Keyword)} (drafts : List Draft)
    {entries : List (String × Keyword)} (some_ : drafts ≠ [])
    (read : List.Forall₂ (ReadAs read?) drafts entries) :
    ∃ tokens, Draft.listed drafts = .ofTokens tokens ∧
      (commaParts tokens).mapM read? = some entries := by
  have parts : ∃ parts : List (List Token), drafts = parts.map .ofTokens ∧
      parts.mapM read? = some entries ∧ ∀ part ∈ parts, ∀ token ∈ part, isComma token = false := by
    clear some_
    induction read with
    | nil => exact ⟨[], rfl, rfl, nofun⟩
    | cons one _ step =>
      obtain ⟨part, rfl, found, free⟩ := one
      obtain ⟨parts, rfl, others, plain⟩ := step
      refine ⟨part :: parts, rfl, ?_, List.forall_mem_cons.mpr ⟨free, plain⟩⟩
      rw [List.mapM_cons, found, others]
      rfl
  obtain ⟨parts, rfl, found, free⟩ := parts
  refine ⟨_, Draft.joined_ofTokens .comma parts, ?_⟩
  rwa [commaParts_intercalate (fun none => some_ (by rw [none, List.map_nil])) free]

/-- The name of the column that a field is stored in. -/
def storedName (field : String) : String := if field = documentIdName then idName else field

theorem readAs_definition {column : Column} {draft : Draft}
    (defined : column.definition = .ok draft) :
    ReadAs columnOf? draft (storedName column.name, column.type.keyword) := by
  obtain ⟨name, named, written⟩ := Result.bind_eq_ok.mp defined
  cases written
  have text := columnName_eq_ok.mp (liftIdentifier_eq_ok.mp named)
  refine ⟨[.name name, .keyword .space, .keyword column.type.keyword], rfl, ?_, ?_⟩
  · rw [storedName, ← text]
    rfl
  · cases column.type <;> simp [isComma, ColumnType.keyword]

theorem readAs_indexColumn {name : String} {order : SortOrder} {draft : Draft}
    (drafted : indexColumnDraft name order = .ok draft) :
    ReadAs columnOf? draft (storedName name, order.keyword) := by
  obtain ⟨column, named, written⟩ := Result.bind_eq_ok.mp drafted
  cases written
  have text := columnName_eq_ok.mp (liftIdentifier_eq_ok.mp named)
  refine ⟨[.name column, .keyword .space, .keyword order.keyword], rfl, ?_, ?_⟩
  · rw [storedName, ← text]
    rfl
  · cases order <;> simp [isComma, SortOrder.keyword]

/-- The columns that every table has. -/
def systemColumns : List (String × Keyword) :=
  [(idName, .text), (createdName, .timestamp), (updatedName, .timestamp)]

/-- The columns of users with their types. -/
def typedColumns (columns : List Column) : List (String × Keyword) :=
  columns.map fun column => (column.name, column.type.keyword)

theorem storedName_of_user {column : Column} (user : isReserved column.name = false) :
    storedName column.name = column.name := by
  refine if_neg fun same => ?_
  rw [same] at user
  exact absurd user (by decide)

/-- The tokens of a statement whose parts are known. -/
theorem tokens_of_parts {drafts : List Draft} {statement : Statement}
    (built : Statement.ofParts drafts = .ok statement) (parts : List (List Token))
    (same : drafts = parts.map .ofTokens) (some_ : ∀ part ∈ parts, part.isEmpty = false) :
    statement.tokens = List.intercalate [.keyword .space] parts := by
  have whole := Statement.ofParts_eq_ok.mp built
  rw [same, Draft.spaced_ofTokens, Draft.ofTokens_inj,
    List.filter_eq_self.mpr fun part member => by rw [some_ part member]; rfl] at whole
  exact whole.symm

/-- What is drafted for each item of a list can be read. -/
theorem readAs_mapM {α : Type} {read? : List Token → Option (String × Keyword)} {items : List α}
    {drafts : List Draft} {draftOf : α → Except StoreError Draft} {entry : α → String × Keyword}
    (readable : ∀ item draft, draftOf item = .ok draft → ReadAs read? draft (entry item))
    (drafted : items.mapM draftOf = .ok drafts) :
    List.Forall₂ (ReadAs read?) drafts (items.map entry) :=
  List.forall₂_map_right_iff.mpr ((Result.mapM_eq_ok.mp drafted).flip.imp fun draft item made =>
    readable item draft made)

/-- The columns of users are stored under their names. -/
theorem map_storedName (columns : List Column) :
    (columns.filter fun column => !isReserved column.name).map
        (fun column => (storedName column.name, column.type.keyword)) =
      typedColumns (columns.filter fun column => !isReserved column.name) := by
  refine List.map_congr_left fun column member => ?_
  rw [storedName_of_user (by simpa using (List.mem_filter.mp member).2)]

theorem readAs_system : List.Forall₂ (ReadAs columnOf?) systemDefinitions systemColumns :=
  .cons ⟨_, rfl, rfl, by decide⟩ (.cons ⟨_, rfl, rfl, by decide⟩
    (.cons ⟨_, rfl, rfl, by decide⟩ .nil))

theorem parenthesized_ofTokens (inner : List Token) :
    Draft.parenthesized (.ofTokens inner) =
      .ofTokens (.keyword .leftParenthesis :: (inner ++ [.keyword .rightParenthesis])) := rfl

/-- What stands between parentheses is read. -/
theorem columnsOf?_enclosed {tokens : List Token} {entries : List (String × Keyword)}
    (read : (commaParts tokens).mapM columnOf? = some entries) :
    columnsOf? (tokens ++ [.keyword .rightParenthesis]) = some entries := by
  rw [columnsOf?, enclosed?_append]
  exact read

/-- **The statement that creates a table** can be read. -/
theorem read?_createTable {table : Table} {statement : Statement}
    (compiled : Statement.createTable table = .ok statement) :
    Alteration.read? statement.tokens =
      some (.createTable table.name (systemColumns ++ typedColumns table.userColumns)) := by
  obtain ⟨definitions, drafted, more⟩ := Result.bind_eq_ok.mp compiled
  obtain ⟨name, named, built⟩ := Result.bind_eq_ok.mp more
  have users := readAs_mapM (fun _ _ => readAs_definition) drafted
  rw [Table.userColumns, map_storedName] at users
  obtain ⟨inner, listed, read⟩ :=
    read_listed (systemDefinitions ++ definitions) (List.cons_ne_nil _ _)
      (List.rel_append readAs_system users)
  rw [listed, parenthesized_ofTokens] at built
  have written := tokens_of_parts built [[.keyword .createTable], [.name name],
    .keyword .leftParenthesis :: (inner ++ [.keyword .rightParenthesis])] rfl (by simp)
  rw [written, List.intercalate_cons_cons, List.intercalate_cons_cons, List.intercalate_singleton]
  show (columnsOf? (inner ++ [.keyword .rightParenthesis])).map _ = _
  rw [columnsOf?_enclosed read, tableOf_eq_ok.mp named]
  rfl

/-- **The statement that adds columns** can be read. -/
theorem read?_addColumns {name : String} {columns : List Column} {statement : Statement}
    (compiled : Statement.addColumns name columns = .ok (some statement)) :
    Alteration.read? statement.tokens =
      some (.addColumns name
        (typedColumns (columns.filter fun column => !isReserved column.name))) := by
  obtain ⟨additions, drafted, altered⟩ := Result.bind_eq_ok.mp compiled
  have readable (column : Column) (draft : Draft)
      (added : (do return Draft.words [.addColumn, .space] ++ (← column.definition)) = .ok draft) :
      ReadAs addition? draft (storedName column.name, column.type.keyword) := by
    obtain ⟨draft, defined, written⟩ := Result.bind_eq_ok.mp added
    cases written
    obtain ⟨part, rfl, read, free⟩ := readAs_definition defined
    exact ⟨.keyword .addColumn :: .keyword .space :: part, rfl, read, by simpa [isComma] using free⟩
  have users := readAs_mapM readable drafted
  rw [map_storedName] at users
  unfold Statement.alterTable at altered
  split at altered
  · cases altered
  · next some_ =>
    obtain ⟨table, named, more⟩ := Result.bind_eq_ok.mp altered
    obtain ⟨made, built, same⟩ := Result.bind_eq_ok.mp more
    cases same
    obtain ⟨inner, listed, read⟩ := read_listed additions some_ users
    rw [listed] at built
    have filled : inner.isEmpty = false := by
      cases inner with
      | nil => simp [commaParts, addition?] at read
      | cons => rfl
    have written := tokens_of_parts built [[.keyword .alterTable], [.name table], inner] rfl
      (by simpa using filled)
    rw [written, List.intercalate_cons_cons, List.intercalate_cons_cons,
      List.intercalate_singleton]
    show ((commaParts inner).mapM addition?).map _ = _
    rw [read, tableOf_eq_ok.mp named]
    rfl

/-- **The statement that creates an index** can be read. -/
theorem read?_createIndex {name : String} {index : TableIndex} {statement : Statement}
    (compiled : Statement.createIndex name index = .ok statement) :
    Alteration.read? statement.tokens =
      some (.createIndex index.name name
        (index.columns.map fun column => (storedName column.1, column.2.keyword))
        index.isUnique) := by
  unfold Statement.createIndex at compiled
  by_cases none : index.columns = []
  · rw [if_pos none] at compiled
    cases compiled
  · rw [if_neg none] at compiled
    obtain ⟨columns, drafted, more⟩ := Result.bind_eq_ok.mp compiled
    obtain ⟨identifier, identified, more⟩ := Result.bind_eq_ok.mp more
    obtain ⟨table, named, built⟩ := Result.bind_eq_ok.mp more
    have read := readAs_mapM (fun _ _ => readAs_indexColumn) drafted
    have some_ : columns ≠ [] := by
      rintro rfl
      exact none (List.map_eq_nil_iff.mp (List.forall₂_nil_left_iff.mp read))
    obtain ⟨inner, listed, found⟩ := read_listed columns some_ read
    rw [listed, parenthesized_ofTokens] at built
    have written := tokens_of_parts built
      [[.keyword (if index.isUnique then .createUniqueIndex else .createIndex)],
        [.name identifier], [.keyword .on], [.name table],
        .keyword .leftParenthesis :: (inner ++ [.keyword .rightParenthesis])] rfl (by simp)
    simp only [List.intercalate_cons_cons, List.intercalate_singleton, List.singleton_append]
      at written
    have enclosed := columnsOf?_enclosed found
    rw [written, ← tableOf_eq_ok.mp named,
      ← Identifier.ofText_eq_ok.mp (liftIdentifier_eq_ok.mp identified)]
    cases index.isUnique with
    | true =>
      show (columnsOf? (inner ++ [.keyword .rightParenthesis])).map _ = _
      rw [enclosed]
      rfl
    | false =>
      show (columnsOf? (inner ++ [.keyword .rightParenthesis])).map _ = _
      rw [enclosed]
      rfl

/-! ### Changes -/

/-- Adds the columns that are not there yet. -/
def withColumns (stored : Fields Keyword) (columns : List (String × Keyword)) : Fields Keyword :=
  columns.foldl
    (fun stored column =>
      if stored.contains column.1 then stored else stored.insert column.1 column.2) stored

/-- What a server decides on its own: whether tables and indexes share their names, how the index of
a primary key is named, and which changes it refuses. -/
structure Keeper where
  /-- A name that a table has is taken for an index too, and the other way round. -/
  sharesNames : Bool
  keyName : Schema → String → String
  fresh : ∀ (schema : Schema) (table : String),
    schema.indexes.contains (keyName schema table) = false
  refuses : Alteration → Schema → Option ServerFault

namespace Keeper

variable (keeper : Keeper)

/-- There is something of this name where a table is to be created. -/
def takenForTable (schema : Schema) (name : String) : Bool :=
  schema.tables.contains name || keeper.sharesNames && schema.indexes.contains name

/-- There is something of this name where an index is to be created. -/
def takenForIndex (schema : Schema) (name : String) : Bool :=
  schema.indexes.contains name || keeper.sharesNames && schema.tables.contains name

/-- What an alteration makes of a schema. It is refused with the code for a column that is defined
twice, for a table or for a column that there is not. -/
def made (schema : Schema) : Alteration → Except ServerFault Schema
  | .createTable name columns =>
    if keeper.takenForTable schema name then .ok schema
    else if (columns.map Prod.fst).Nodup then
      .ok {
        tables := schema.tables.insert name (Fields.ofEntries columns)
        indexes := schema.indexes.insert (keeper.keyName schema name)
          ⟨name, [(idName, .ascending)], true⟩ }
    else .error (.refused "42701")
  | .addColumns table columns =>
    match schema.tables.get? table with
    | none => .error (.refused "42P01")
    | some stored =>
      if columns.all fun column => stored.contains column.1 then .ok schema
      else .ok { schema with tables := schema.tables.insert table (withColumns stored columns) }
  | .createIndex name table columns isUnique =>
    match schema.tables.get? table with
    | none => .error (.refused "42P01")
    | some stored =>
      if columns.all fun column => stored.contains column.1 then
        if keeper.takenForIndex schema name then .ok schema
        else .ok { schema with
          indexes := schema.indexes.insert name ⟨table, columns, isUnique⟩ }
      else .error (.refused "42703")

/-- What a statement makes of a schema. A change may be refused, but there is nothing to refuse
where nothing changes. -/
def run (statement : Statement) (schema : Schema) : Except ServerFault Schema :=
  match Alteration.read? statement.tokens with
  | none => .error (.refused "0A000")
  | some alteration => do
    let after ← keeper.made schema alteration
    if after = schema then return schema
    match keeper.refuses alteration schema with
    | some fault => .error fault
    | none => return after

/-- What a server answers, and the schema behind the answer. -/
def answer (request : Request) (schema : Schema) : Reply × Schema :=
  match request with
  | .listTables =>
    (⟨schema.tables.map fun table => ⟨[⟨"table_name", "TEXT"⟩], [.text table.1]⟩, 0, none⟩, schema)
  | .run statement =>
    match keeper.run statement schema with
    | .ok after => (⟨[], 0, none⟩, after)
    | .error fault => (⟨[], 0, some fault⟩, schema)
  | _ => (⟨[], 0, none⟩, schema)

/-- A server that keeps a schema. -/
def server : Server Schema := ⟨fun _ request => modifyGet (keeper.answer request)⟩

end Keeper

/-! ### What stays -/

namespace Schema

/-- Whatever was there is still there: every table, every column with its type, and every index. -/
structure Keeps (before after : Schema) : Prop where
  tables : ∀ name columns, before.tables.get? name = some columns →
    ∃ wider, after.tables.get? name = some wider ∧
      ∀ column type, columns.get? column = some type → wider.get? column = some type
  indexes : ∀ name index, before.indexes.get? name = some index →
    after.indexes.get? name = some index

variable {before middle after : Schema}

theorem Keeps.refl (schema : Schema) : schema.Keeps schema :=
  ⟨fun _ columns known => ⟨columns, known, fun _ _ same => same⟩, fun _ _ same => same⟩

theorem Keeps.trans (one : before.Keeps middle) (two : middle.Keeps after) :
    before.Keeps after := by
  refine ⟨fun name columns known => ?_, fun name index known =>
    two.indexes name index (one.indexes name index known)⟩
  obtain ⟨wider, found, kept⟩ := one.tables name columns known
  obtain ⟨widest, last, keptToo⟩ := two.tables name wider found
  exact ⟨widest, last, fun column type same => keptToo column type (kept column type same)⟩

end Schema

/-- A column that is added does not change those that are there. -/
theorem get?_withColumns (stored : Fields Keyword) (columns : List (String × Keyword))
    (name : String) :
    (withColumns stored columns).get? name =
      (stored.get? name).or ((columns.find? fun column => column.1 = name).map Prod.snd) := by
  induction columns generalizing stored with
  | nil => simp [withColumns]
  | cons column rest step =>
    refine (step _).trans ?_
    by_cases same : column.1 = name
    · rw [List.find?_cons_of_pos (by simpa using same), ← same]
      cases known : stored.get? column.1 with
      | some type => simp [Fields.contains, known]
      | none => simp [Fields.contains, known, Fields.get?_insert]
    · rw [List.find?_cons_of_neg (by simpa using same)]
      congr 1
      show Fields.get? (if stored.contains column.1 then stored else _) name = _
      split
      · rfl
      · rw [Fields.get?_insert, if_neg same]

/-- Columns that are added are there. -/
theorem contains_withColumns {stored : Fields Keyword} {columns : List (String × Keyword)}
    {column : String × Keyword} (member : column ∈ columns) :
    (withColumns stored columns).contains column.1 = true := by
  have found : (columns.find? fun other => other.1 = column.1).isSome = true :=
    List.find?_isSome.mpr ⟨column, member, by simp⟩
  rw [Fields.contains, get?_withColumns, Option.isSome_or, Option.isSome_map, found, Bool.or_true]

namespace Keeper

variable {keeper : Keeper} {schema after : Schema}

/-- A table is created unless its name is taken. -/
theorem made_createTable {name : String} {columns : List (String × Keyword)} :
    keeper.made schema (.createTable name columns) = .ok after ↔
      keeper.takenForTable schema name = true ∧ after = schema ∨
      keeper.takenForTable schema name = false ∧ (columns.map Prod.fst).Nodup ∧
        after = {
          tables := schema.tables.insert name (Fields.ofEntries columns)
          indexes := schema.indexes.insert (keeper.keyName schema name)
            ⟨name, [(idName, .ascending)], true⟩ } := by
  rw [made]
  cases keeper.takenForTable schema name with
  | true =>
    simp only [if_true, Except.ok.injEq, true_and, reduceCtorEq, false_and, or_false]
    exact eq_comm
  | false =>
    by_cases distinct : (columns.map Prod.fst).Nodup
    · simp only [reduceCtorEq, if_false, distinct, if_true, Except.ok.injEq, true_and, false_and,
        false_or]
      exact eq_comm
    · simp [distinct]

/-- Columns are added to a table that there is, unless it has them all. -/
theorem made_addColumns {name : String} {columns : List (String × Keyword)} :
    keeper.made schema (.addColumns name columns) = .ok after ↔
      ∃ stored, schema.tables.get? name = some stored ∧
        ((∀ column ∈ columns, stored.contains column.1 = true) ∧ after = schema ∨
          ¬(∀ column ∈ columns, stored.contains column.1 = true) ∧
            after = { schema with
              tables := schema.tables.insert name (withColumns stored columns) }) := by
  rw [made]
  cases schema.tables.get? name with
  | none => simp
  | some stored =>
    simp only [Option.some.injEq, exists_eq_left', List.all_eq_true]
    by_cases whole : ∀ column ∈ columns, stored.contains column.1 = true
    · rw [if_pos whole, Except.ok.injEq]
      exact ⟨fun same => .inl ⟨whole, same.symm⟩, fun cases_ => cases_.elim (fun one => one.2.symm)
        fun other => absurd whole other.1⟩
    · rw [if_neg whole, Except.ok.injEq]
      exact ⟨fun same => .inr ⟨whole, same.symm⟩, fun cases_ => cases_.elim
        (fun one => absurd one.1 whole) fun other => other.2.symm⟩

/-- An index is created on columns that there are, unless its name is taken. -/
theorem made_createIndex {name table : String} {columns : List (String × Keyword)}
    {isUnique : Bool} :
    keeper.made schema (.createIndex name table columns isUnique) = .ok after ↔
      ∃ stored, schema.tables.get? table = some stored ∧
        (∀ column ∈ columns, stored.contains column.1 = true) ∧
        (keeper.takenForIndex schema name = true ∧ after = schema ∨
          keeper.takenForIndex schema name = false ∧
            after = { schema with
              indexes := schema.indexes.insert name ⟨table, columns, isUnique⟩ }) := by
  rw [made]
  cases schema.tables.get? table with
  | none => simp
  | some stored =>
    simp only [Option.some.injEq, exists_eq_left', List.all_eq_true]
    by_cases whole : ∀ column ∈ columns, stored.contains column.1 = true
    · rw [if_pos whole, and_iff_right whole]
      cases keeper.takenForIndex schema name with
      | true =>
        simp only [if_true, Except.ok.injEq, true_and, reduceCtorEq, false_and, or_false]
        exact eq_comm
      | false =>
        simp only [reduceCtorEq, if_false, Except.ok.injEq, true_and, false_and, false_or]
        exact eq_comm
    · rw [if_neg whole]
      exact ⟨nofun, fun other => absurd other.1 whole⟩

/-- What a new name is given does not replace anything. -/
theorem get?_insert_new {α : Type} {fields : Fields α} {name other : String} {value known : α}
    (new : fields.contains name = false) (found : fields.get? other = some known) :
    (fields.insert name value).get? other = some known := by
  rw [Fields.get?_insert, if_neg, found]
  rintro rfl
  rw [Fields.contains, found] at new
  cases new

/-- **Alterations remove nothing.** -/
theorem keeps_made {alteration : Alteration} (done : keeper.made schema alteration = .ok after) :
    schema.Keeps after := by
  cases alteration with
  | createTable name columns =>
    obtain ⟨-, rfl⟩ | ⟨free, -, rfl⟩ := made_createTable.mp done
    · exact .refl _
    · have new : schema.tables.contains name = false := (Bool.or_eq_false_iff.mp free).1
      exact ⟨fun _ known found => ⟨known, get?_insert_new new found, fun _ _ same => same⟩,
        fun _ _ found => get?_insert_new (keeper.fresh schema name) found⟩
  | addColumns table columns =>
    obtain ⟨stored, present, ⟨-, rfl⟩ | ⟨-, rfl⟩⟩ := made_addColumns.mp done
    · exact .refl _
    · refine ⟨fun other known found => ?_, fun _ _ found => found⟩
      by_cases same : table = other
      · subst same
        cases present.symm.trans found
        refine ⟨withColumns stored columns, ?_, fun column type there => ?_⟩
        · rw [Fields.get?_insert, if_pos rfl]
        · rw [get?_withColumns, there, Option.some_or]
      · exact ⟨known, by rw [Fields.get?_insert, if_neg same, found], fun _ _ there => there⟩
  | createIndex name table columns isUnique =>
    obtain ⟨stored, present, -, ⟨-, rfl⟩ | ⟨free, rfl⟩⟩ := made_createIndex.mp done
    · exact .refl _
    · have new : schema.indexes.contains name = false := (Bool.or_eq_false_iff.mp free).1
      exact ⟨fun _ known found => ⟨known, found, fun _ _ there => there⟩,
        fun _ _ found => get?_insert_new new found⟩

theorem made_of_run {statement : Statement} {alteration : Alteration}
    (read : Alteration.read? statement.tokens = some alteration)
    (done : keeper.run statement schema = .ok after) :
    keeper.made schema alteration = .ok after := by
  unfold run at done
  rw [read] at done
  obtain ⟨changed, made, kept⟩ := Result.bind_eq_ok.mp done
  split at kept
  · next same =>
    cases kept
    exact same ▸ made
  · split at kept
    · cases kept
    · cases kept
      exact made

/-- Nothing is refused where nothing changes. -/
theorem run_of_unchanged {statement : Statement} {alteration : Alteration}
    (read : Alteration.read? statement.tokens = some alteration)
    (unchanged : keeper.made schema alteration = .ok schema) :
    keeper.run statement schema = .ok schema := by
  unfold run
  rw [read]
  refine Result.bind_eq_ok.mpr ⟨schema, unchanged, ?_⟩
  rw [if_pos rfl]
  rfl

end Keeper

end TwinStore.Postgres
