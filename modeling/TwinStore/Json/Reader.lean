/-
**Reading JSON.** The strict grammar: no comments, no trailing commas, no control characters inside
texts, no unpaired surrogates, and at most a hundred and twenty-seven arrays and objects inside one
another.

* `Json.ofText?` reads a whole text. Of several entries of one name the last one stays, and entries
  are held in ascending order of their names.
-/

import TwinStore.Fields
import TwinStore.Json.Numeral
import TwinStore.Text.Hex

namespace TwinStore.Json

/-- The characters between tokens. -/
def isSpace (char : Char) : Bool :=
  char == ' ' || char == '\n' || char == '\t' || char == '\r'

/-- The text behind its leading blanks. -/
def skipSpace (source : List Char) : List Char := source.dropWhile isSpace

/-! ### Texts -/

/-- The number of four hexadecimal digits at the front of a text. -/
def scanCode? : List Char → Option (Nat × List Char)
  | first :: second :: third :: fourth :: rest => do
    let value := (← Hex.digitValue? first) * 16 + (← Hex.digitValue? second)
    let value := (value * 16 + (← Hex.digitValue? third)) * 16 + (← Hex.digitValue? fourth)
    return (value, rest)
  | _ => none

/-- The character of an escaped code; a high surrogate has to be followed by an escaped low one. -/
def scanCodedChar? (source : List Char) : Option (Char × List Char) := do
  let (high, rest) ← scanCode? source
  if 0xdc00 ≤ high ∧ high < 0xe000 then none
  else if 0xd800 ≤ high ∧ high < 0xdc00 then
    match rest with
    | '\\' :: 'u' :: rest =>
      let (low, rest) ← scanCode? rest
      if 0xdc00 ≤ low ∧ low < 0xe000 then
        return (Char.ofNat (0x10000 + (high - 0xd800) * 1024 + (low - 0xdc00)), rest)
      else none
    | _ => none
  else return (Char.ofNat high, rest)

/-- The character of an escape of one letter. -/
def letterEscape? : Char → Option Char
  | '"' => some '"'
  | '\\' => some '\\'
  | '/' => some '/'
  | 'b' => some '\x08'
  | 'f' => some '\x0c'
  | 'n' => some '\n'
  | 'r' => some '\r'
  | 't' => some '\t'
  | _ => none

/-- The character of an escape behind its backslash. -/
def scanEscape? : List Char → Option (Char × List Char)
  | 'u' :: rest => scanCodedChar? rest
  | letter :: rest => (letterEscape? letter).map fun char => (char, rest)
  | [] => none

/-- Reads a text behind its opening quote; the fuel bounds the number of characters. -/
def scanText? : Nat → List Char → Option (List Char × List Char)
  | 0, _ => none
  | _, [] => none
  | _, '"' :: rest => some ([], rest)
  | fuel + 1, '\\' :: rest => do
    let (char, rest) ← scanEscape? rest
    let (chars, rest) ← scanText? fuel rest
    return (char :: chars, rest)
  | fuel + 1, char :: rest => do
    if char.toNat < 32 then none
    let (chars, rest) ← scanText? fuel rest
    return (char :: chars, rest)

/-- Reads the name of an entry and the colon behind it. -/
def scanName? (source : List Char) : Option (String × List Char) :=
  match source with
  | '"' :: rest => do
    let (name, rest) ← scanText? rest.length.succ rest
    match skipSpace rest with
    | ':' :: rest => return (String.ofList name, rest)
    | _ => none
  | _ => none

/-! ### Documents -/

/-- How many arrays and objects may stand inside one another. -/
def depthLimit : Nat := 127

mutual

/-- Reads a document behind its leading blanks; the fuel bounds the number of tokens, the depth the
nesting that is left. -/
def scanValue? : Nat → Nat → List Char → Option (Json × List Char)
  | 0, _, _ => none
  | fuel + 1, depth, source =>
    match skipSpace source with
    | 'n' :: 'u' :: 'l' :: 'l' :: rest => some (.null, rest)
    | 't' :: 'r' :: 'u' :: 'e' :: rest => some (.boolean true, rest)
    | 'f' :: 'a' :: 'l' :: 's' :: 'e' :: rest => some (.boolean false, rest)
    | '"' :: rest =>
      (scanText? rest.length.succ rest).map fun (chars, rest) => (.text (String.ofList chars), rest)
    | '[' :: rest =>
      match depth with
      | 0 => none
      | depth + 1 =>
        match skipSpace rest with
        | ']' :: rest => some (.array [], rest)
        | rest => (scanItems? fuel depth rest).map fun (items, rest) => (.array items, rest)
    | '\x7b' :: rest =>
      match depth with
      | 0 => none
      | depth + 1 =>
        match skipSpace rest with
        | '\x7d' :: rest => some (.object [], rest)
        | rest =>
          (scanFields? fuel depth rest).map fun (fields, rest) =>
            (.object (Fields.ofEntries fields), rest)
    | source => scanNumeral? source

/-- Reads the items of an array up to its closing bracket. -/
def scanItems? : Nat → Nat → List Char → Option (List Json × List Char)
  | 0, _, _ => none
  | fuel + 1, depth, source => do
    let (item, rest) ← scanValue? fuel depth source
    match skipSpace rest with
    | ',' :: rest =>
      let (items, rest) ← scanItems? fuel depth rest
      return (item :: items, rest)
    | ']' :: rest => return ([item], rest)
    | _ => none

/-- Reads the entries of an object up to its closing brace. -/
def scanFields? : Nat → Nat → List Char → Option (List (String × Json) × List Char)
  | 0, _, _ => none
  | fuel + 1, depth, source => do
    let (name, rest) ← scanName? (skipSpace source)
    let (value, rest) ← scanValue? fuel depth rest
    match skipSpace rest with
    | ',' :: rest =>
      let (fields, rest) ← scanFields? fuel depth rest
      return ((name, value) :: fields, rest)
    | '\x7d' :: rest => return ([(name, value)], rest)
    | _ => none

end

/-- Reads a text that holds one document and blanks around it. -/
def ofText? (source : String) : Option Json := do
  let chars := source.toList
  let (document, rest) ← scanValue? (2 * chars.length + 2) depthLimit chars
  if skipSpace rest = [] then return document else none

end TwinStore.Json
