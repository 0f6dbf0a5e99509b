/-
**Texts and keys of TOML.** Keys are bare or quoted, and joined by dots. Texts are quoted once or
three times, by quotation marks, behind which escapes count, or by apostrophes, behind which they do
not.

* `Toml.scanText?` reads a text of any of the four kinds, `Toml.scanPath?` a dotted key.
* `Toml.skipGaps` passes over blanks, line ends and comments.
-/

import TwinStore.Text.Hex

namespace TwinStore.Toml

/-! ### Blanks, line ends and comments -/

/-- The character is a blank inside a line. -/
def isBlank (char : Char) : Bool := char == ' ' || char == '\t'

/-- The character may stand in no text and no comment. -/
def isControl (char : Char) : Bool := (char.toNat < 32 && char != '\t') || char.toNat == 127

/-- The text behind its leading blanks. -/
def skipBlanks (source : List Char) : List Char := source.dropWhile isBlank

/-- What follows the line end at the front of a text. -/
def lineEnd? : List Char → Option (List Char)
  | '\n' :: rest => some rest
  | '\r' :: '\n' :: rest => some rest
  | _ => none

/-- The text behind blanks and line ends. -/
def skipLines : List Char → List Char
  | [] => []
  | '\n' :: rest => skipLines rest
  | '\r' :: '\n' :: rest => skipLines rest
  | char :: rest => if isBlank char then skipLines rest else char :: rest

/-- The text behind blanks, line ends and comments; it may start inside a comment. -/
def skipGapsFrom : Bool → List Char → List Char
  | _, [] => []
  | _, '\n' :: rest => skipGapsFrom false rest
  | _, '\r' :: '\n' :: rest => skipGapsFrom false rest
  | false, '#' :: rest => skipGapsFrom true rest
  | inComment, char :: rest =>
    if isBlank char || (inComment && !isControl char) then skipGapsFrom inComment rest
    else char :: rest

/-- The text behind blanks, line ends and comments. -/
def skipGaps (source : List Char) : List Char := skipGapsFrom false source

/-- What follows the line that a statement ends: blanks, a comment and the line end, or the end of
the text. -/
def endOfLine? (source : List Char) : Option (List Char) :=
  let behindComment :=
    match skipBlanks source with
    | '#' :: rest => rest.dropWhile fun char => !isControl char
    | rest => rest
  if behindComment = [] then some [] else lineEnd? behindComment

/-! ### Texts -/

/-- The number of as many hexadecimal digits as are asked for. -/
def scanCode? : Nat → Nat → List Char → Option (Nat × List Char)
  | 0, code, rest => some (code, rest)
  | count + 1, code, char :: rest => do
    let digit ← Hex.digitValue? char
    scanCode? count (code * 16 + digit) rest
  | _ + 1, _, [] => none

/-- The character of a code point that is written with as many hexadecimal digits. -/
def scanCodePoint? (digits : Nat) (source : List Char) : Option (Char × List Char) := do
  let (code, rest) ← scanCode? digits 0 source
  if code.isValidChar then return (Char.ofNat code, rest) else none

/-- The character of an escape behind its backslash. -/
def scanEscape? : List Char → Option (Char × List Char)
  | '"' :: rest => some ('"', rest)
  | '\\' :: rest => some ('\\', rest)
  | 'b' :: rest => some ('\x08', rest)
  | 'e' :: rest => some ('\x1b', rest)
  | 'f' :: rest => some ('\x0c', rest)
  | 'n' :: rest => some ('\n', rest)
  | 'r' :: rest => some ('\r', rest)
  | 't' :: rest => some ('\t', rest)
  | 'x' :: rest => scanCodePoint? 2 rest
  | 'u' :: rest => scanCodePoint? 4 rest
  | 'U' :: rest => scanCodePoint? 8 rest
  | _ => none

/-- Puts a character before the text that is read next. -/
def prepend (char : Char) (read : Option (List Char × List Char)) :
    Option (List Char × List Char) :=
  read.map fun (chars, rest) => (char :: chars, rest)

/-- Reads a text of one line behind its apostrophe. -/
def scanLiteral? : List Char → Option (List Char × List Char)
  | [] => none
  | '\'' :: rest => some ([], rest)
  | char :: rest => if isControl char then none else prepend char (scanLiteral? rest)

/-- Reads a text of one line behind its quotation mark; the fuel bounds its characters. -/
def scanQuoted? : Nat → List Char → Option (List Char × List Char)
  | 0, _ => none
  | _, [] => none
  | _, '"' :: rest => some ([], rest)
  | fuel + 1, '\\' :: rest => do
    let (char, rest) ← scanEscape? rest
    prepend char (scanQuoted? fuel rest)
  | fuel + 1, char :: rest =>
    if isControl char then none else prepend char (scanQuoted? fuel rest)

/-- The end of a text behind its three closing marks: up to two further marks belong to it. -/
def closing (mark : Char) (source : List Char) : List Char × List Char :=
  match source with
  | first :: second :: rest =>
    if first = mark ∧ second = mark then ([mark, mark], rest)
    else if first = mark then ([mark], second :: rest)
    else ([], source)
  | [first] => if first = mark then ([mark], []) else ([], source)
  | [] => ([], [])

/-- The character may stand in a text of several lines, as what follows it shows. -/
def isMultilineChar (char : Char) (rest : List Char) : Bool :=
  !isControl char || char == '\n' || (char == '\r' && rest.head? == some '\n')

/-- Reads a text of several lines behind its three apostrophes. -/
def scanMultilineLiteral? : List Char → Option (List Char × List Char)
  | [] => none
  | '\'' :: '\'' :: '\'' :: rest => some (closing '\'' rest)
  | char :: rest =>
    if isMultilineChar char rest then prepend char (scanMultilineLiteral? rest) else none

/-- Reads a text of several lines behind its three quotation marks; a backslash at the end of a line
takes the blanks and line ends behind it away. The fuel bounds the characters. -/
def scanMultilineQuoted? : Nat → List Char → Option (List Char × List Char)
  | 0, _ => none
  | _, [] => none
  | _, '"' :: '"' :: '"' :: rest => some (closing '"' rest)
  | fuel + 1, '\\' :: rest =>
    match lineEnd? (skipBlanks rest) with
    | some rest => scanMultilineQuoted? fuel (skipLines rest)
    | none => do
      let (char, rest) ← scanEscape? rest
      prepend char (scanMultilineQuoted? fuel rest)
  | fuel + 1, char :: rest =>
    if isMultilineChar char rest then prepend char (scanMultilineQuoted? fuel rest) else none

/-- Reads a text of one line, whichever mark opens it. -/
def scanLine? : List Char → Option (List Char × List Char)
  | '"' :: rest => scanQuoted? rest.length.succ rest
  | '\'' :: rest => scanLiteral? rest
  | _ => none

/-- The text behind the line end that may follow three opening marks. -/
def behindOpening (source : List Char) : List Char := (lineEnd? source).getD source

/-- Reads a text of any kind. -/
def scanText? : List Char → Option (List Char × List Char)
  | '"' :: '"' :: '"' :: rest => scanMultilineQuoted? rest.length.succ (behindOpening rest)
  | '\'' :: '\'' :: '\'' :: rest => scanMultilineLiteral? (behindOpening rest)
  | source => scanLine? source

/-! ### Keys -/

/-- The character may stand in a bare key. -/
def isBareChar (char : Char) : Bool := char.isAlphanum || char == '_' || char == '-'

/-- Reads one part of a key. -/
def scanKey? (source : List Char) : Option (String × List Char) :=
  match source.span isBareChar with
  | ([], _) => (scanLine? source).map fun (chars, rest) => (String.ofList chars, rest)
  | (bare, rest) => some (String.ofList bare, rest)

/-- Reads a key of one or more parts, with dots between them and blanks around the dots; the fuel
bounds the number of parts. -/
def scanPathFrom? : Nat → List Char → Option (List String × List Char)
  | 0, _ => none
  | fuel + 1, source => do
    let (key, rest) ← scanKey? (skipBlanks source)
    match skipBlanks rest with
    | '.' :: rest =>
      let (keys, rest) ← scanPathFrom? fuel rest
      return (key :: keys, rest)
    | rest => return ([key], rest)

/-- How many parts a key may have. -/
def pathLimit : Nat := 80

/-- Reads a key of one or more parts and the blanks around it. -/
def scanPath? (source : List Char) : Option (List String × List Char) :=
  (scanPathFrom? source.length source).filter fun (keys, _) => keys.length ≤ pathLimit

end TwinStore.Toml
