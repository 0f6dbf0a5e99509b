/-
**Blank characters.** The characters with the Unicode property White_Space.
-/

namespace TwinStore.Blank

/-- The character is white space. -/
def isBlank (char : Char) : Bool :=
  let code := char.toNat
  (9 ≤ code && code ≤ 13) || code == 0x20 || code == 0x85 || code == 0xa0 || code == 0x1680 ||
    (0x2000 ≤ code && code ≤ 0x200a) || code == 0x2028 || code == 0x2029 || code == 0x202f ||
    code == 0x205f || code == 0x3000

/-- The text behind its leading blanks. -/
def skip (text : List Char) : List Char := text.dropWhile isBlank

/-- The text without blanks at either end. -/
def trim (text : List Char) : List Char := (skip (skip text).reverse).reverse

end TwinStore.Blank
