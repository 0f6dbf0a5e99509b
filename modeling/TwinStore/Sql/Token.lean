/-
**Statement tokens.** The parts that statements are written with. Everything that comes from a
caller is an identifier that passed the check, a number or an argument; all other text is fixed.

* `Token.render` writes tokens and numbers their arguments from left to right.
* `Token.arguments` are the arguments in the same order.
* `mem_pathText`: between the quotes of a path there are names, commas and braces only.
* `charsFrom_append` and `arguments_append`: texts join when the second counts on from the first.
-/

import TwinStore.Identifier
import TwinStore.Value.Json
import TwinStore.Value.Tagged

namespace TwinStore

/-- A value that is sent beside a statement. -/
inductive Argument where
  /-- A value of the column's own type. -/
  | typed (value : Value)
  /-- A JSON document. -/
  | json (document : Json)

/-- The argument for a column. -/
def Argument.ofColumn (value : Value) : Argument := .typed value.columnForm

/-- The argument for what is inside a column. -/
def Argument.ofNested (value : Value) : Argument := .json value.tagged.toJson

/-- The fixed texts of statements. -/
inductive Keyword where
  | space
  | leftParenthesis
  | rightParenthesis
  | comma
  | dot
  | star
  | equals
  | greater
  | atLeast
  | less
  | atMost
  | plus
  | concatenate
  | extract
  | jsonCast
  | jsonNull
  | jsonEmptyArray
  | true
  | false
  | isNull
  | isNotNull
  | isDistinctFrom
  | membership
  | not
  | and
  | or
  | coalesceGroup
  | orFalse
  | coalesce
  | orZero
  | orEmptyArray
  | greatest
  | least
  | buildArray
  | null
  | dropFirst
  | dropLast
  | removalWhen
  | removalItems
  | removalWithout
  | removalEnd
  | select
  | count
  | from
  | where
  | orderBy
  | ascending
  | descending
  | limit
  | offset
  | limitOneForUpdate
  | update
  | set
  | as
  | returning
  | returningAll
  | deleteFrom
  | insertInto
  | values
  | createTable
  | primaryKey
  | alterTable
  | addColumn
  | dropTable
  | dropColumn
  | createIndex
  | createUniqueIndex
  | on
  | dropIndex
  | text
  | bigint
  | numeric
  | double
  | boolean
  | timestamp
  | date
  | time
  | bytes
  | json
  deriving DecidableEq

/-- How a keyword is written. -/
def Keyword.spelling : Keyword → String
  | .space => " "
  | .leftParenthesis => "("
  | .rightParenthesis => ")"
  | .comma => ", "
  | .dot => "."
  | .star => "*"
  | .equals => " = "
  | .greater => " > "
  | .atLeast => " >= "
  | .less => " < "
  | .atMost => " <= "
  | .plus => " + "
  | .concatenate => " || "
  | .extract => " #> "
  | .jsonCast => "::jsonb"
  | .jsonNull => "'null'::jsonb"
  | .jsonEmptyArray => "'[]'::jsonb"
  | .true => "1=1"
  | .false => "1=0"
  | .isNull => " IS NULL"
  | .isNotNull => " IS NOT NULL"
  | .isDistinctFrom => " IS DISTINCT FROM "
  | .membership => " IN "
  | .not => "NOT "
  | .and => " AND "
  | .or => " OR "
  | .coalesceGroup => "COALESCE(("
  | .orFalse => "), FALSE)"
  | .coalesce => "COALESCE("
  | .orZero => ", 0)"
  | .orEmptyArray => ", '[]'::jsonb)"
  | .greatest => "GREATEST("
  | .least => "LEAST("
  | .buildArray => "jsonb_build_array("
  | .null => "NULL"
  | .dropFirst => " - 0"
  | .dropLast => " - -1"
  | .removalWhen => "CASE WHEN "
  | .removalItems =>
    " IS NULL THEN NULL ELSE (SELECT COALESCE(jsonb_agg(e.value ORDER BY e.ord), '[]'::jsonb)" ++
      " FROM jsonb_array_elements("
  | .removalWithout =>
    ") WITH ORDINALITY AS e(value, ord) WHERE e.value NOT IN (SELECT jsonb_array_elements("
  | .removalEnd => "))) END"
  | .select => "SELECT"
  | .count => "COUNT(*)"
  | .from => "FROM"
  | .where => "WHERE"
  | .orderBy => "ORDER BY"
  | .ascending => "ASC"
  | .descending => "DESC"
  | .limit => "LIMIT"
  | .offset => "OFFSET"
  | .limitOneForUpdate => "LIMIT 1 FOR UPDATE"
  | .update => "UPDATE"
  | .set => "SET"
  | .as => "AS"
  | .returning => "RETURNING"
  | .returningAll => "RETURNING *"
  | .deleteFrom => "DELETE FROM"
  | .insertInto => "INSERT INTO"
  | .values => "VALUES"
  | .createTable => "CREATE TABLE IF NOT EXISTS"
  | .primaryKey => "PRIMARY KEY"
  | .alterTable => "ALTER TABLE"
  | .addColumn => "ADD COLUMN IF NOT EXISTS"
  | .dropTable => "DROP TABLE IF EXISTS"
  | .dropColumn => "DROP COLUMN IF EXISTS"
  | .createIndex => "CREATE INDEX IF NOT EXISTS"
  | .createUniqueIndex => "CREATE UNIQUE INDEX IF NOT EXISTS"
  | .on => "ON"
  | .dropIndex => "DROP INDEX IF EXISTS"
  | .text => "TEXT"
  | .bigint => "BIGINT"
  | .numeric => "NUMERIC"
  | .double => "DOUBLE PRECISION"
  | .boolean => "BOOLEAN"
  | .timestamp => "TIMESTAMPTZ"
  | .date => "DATE"
  | .time => "TIME"
  | .bytes => "BYTEA"
  | .json => "JSONB"

/-- A part of a statement. -/
inductive Token where
  | keyword (keyword : Keyword)
  /-- A name between double quotes. -/
  | name (identifier : Identifier)
  /-- The names that lead into a JSON document, as an array literal. -/
  | path (segments : List Identifier)
  | number (value : UInt64)
  /-- An argument, written as a numbered placeholder. -/
  | argument (argument : Argument)

namespace Token

/-- The names of a path, separated by commas. -/
def pathChars : List Identifier → List Char
  | [] => []
  | [segment] => segment.text.toList
  | segment :: rest => segment.text.toList ++ ',' :: pathChars rest

/-- The characters of a token; an argument has the given number. -/
def chars (argumentNumber : Nat) : Token → List Char
  | .keyword word => word.spelling.toList
  | .name identifier => (quoteName identifier.text).toList
  | .path segments => ['\'', '\x7b'] ++ pathChars segments ++ ['\x7d', '\'']
  | .number value => Digits.ofNat value.toNat
  | .argument _ => '$' :: Digits.ofNat argumentNumber

def argument? : Token → Option Argument
  | .argument bound => some bound
  | _ => none

/-- The arguments of tokens from left to right. -/
def arguments (tokens : List Token) : List Argument := tokens.filterMap argument?

/-- The characters of tokens behind a number of arguments that are bound already. -/
def charsFrom (bound : Nat) : List Token → List Char
  | [] => []
  | token :: rest =>
    token.chars (bound + 1) ++ charsFrom (bound + (arguments [token]).length) rest

/-- The text of tokens behind a number of arguments that are bound already. -/
def render (bound : Nat) (tokens : List Token) : String := String.ofList (charsFrom bound tokens)

/-- The characters of a path are those of its names, and commas. -/
theorem mem_pathChars : ∀ {segments : List Identifier} {char : Char},
    char ∈ pathChars segments → isIdentifierChar char = true ∨ char = ','
  | [], _, member => by cases member
  | [_], _, member => .inl (Identifier.isIdentifierChar_of_mem member)
  | segment :: second :: others, char, member => by
    rw [pathChars] at member
    · rcases List.mem_append.mp member with first | rest
      · exact .inl (Identifier.isIdentifierChar_of_mem first)
      · rcases List.mem_cons.mp rest with comma | later
        · exact .inr comma
        · exact mem_pathChars later
    · exact List.cons_ne_nil _ _

/-- What stands between the quotes of a path. -/
theorem mem_pathText {segments : List Identifier} {char : Char}
    (member : char ∈ '\x7b' :: pathChars segments ++ ['\x7d']) :
    isIdentifierChar char = true ∨ char ∈ ['\x7b', ',', '\x7d'] := by
  simp only [List.cons_append, List.mem_cons, List.mem_append, List.not_mem_nil, or_false]
    at member ⊢
  rcases member with opening | inside | closing
  · exact .inr (.inl opening)
  · exact (mem_pathChars inside).imp_right fun comma => .inr (.inl comma)
  · exact .inr (.inr (.inr closing))

theorem chars_path (argumentNumber : Nat) (segments : List Identifier) :
    chars argumentNumber (.path segments) =
      '\'' :: ('\x7b' :: pathChars segments ++ ['\x7d'] ++ ['\'']) := by
  simp [chars]

/-- The arguments of joined tokens are the arguments of both parts. -/
@[simp] theorem arguments_append (left right : List Token) :
    arguments (left ++ right) = arguments left ++ arguments right :=
  List.filterMap_append

/-- The second part of joined tokens counts on from the first. -/
theorem charsFrom_append (bound : Nat) (left right : List Token) :
    charsFrom bound (left ++ right) =
      charsFrom bound left ++ charsFrom (bound + (arguments left).length) right := by
  induction left generalizing bound with
  | nil => simp [charsFrom, arguments]
  | cons token rest step =>
    have split : (arguments (token :: rest)).length =
        (arguments [token]).length + (arguments rest).length := by
      rw [← List.singleton_append, arguments_append, List.length_append]
    rw [List.cons_append, charsFrom, charsFrom, step, split, List.append_assoc, Nat.add_assoc]

end Token

end TwinStore
