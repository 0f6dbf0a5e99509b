/-
**Unsupported values.** Why a value has no representation, or a representation no value.

* `Unsupported.message` is the wording, `Unsupported.reason` the part of it that tells the cause.
-/

import TwinStore.Text.Digits

namespace TwinStore

/-- The kinds of document values that no value corresponds to. -/
inductive ForeignKind where
  | regularExpression
  | javaScript
  | javaScriptWithScope
  | timestamp
  | symbol
  | minKey
  | maxKey
  | pointer
  deriving DecidableEq

def ForeignKind.name : ForeignKind → String
  | .regularExpression => "RegularExpression"
  | .javaScript => "JavaScriptCode"
  | .javaScriptWithScope => "JavaScriptCodeWithScope"
  | .timestamp => "Timestamp"
  | .symbol => "Symbol"
  | .minKey => "MinKey"
  | .maxKey => "MaxKey"
  | .pointer => "DbPointer"

/-- The causes for which a value cannot be converted. -/
inductive Unsupported where
  /-- A decimal, by its text, that no Decimal128 equals. -/
  | decimalRange (text : String)
  /-- A Decimal128, by its text, that is no number. -/
  | notANumber (text : String)
  /-- A document value of a foreign kind. -/
  | foreign (kind : ForeignKind)
  /-- Calendar components of the wrong length. -/
  | calendarLength (length : Nat)
  /-- Calendar components that hold neither a date nor a time. -/
  | calendarEmpty
  /-- A result column of a type that no value corresponds to. -/
  | columnType (column type : String)
  deriving DecidableEq

namespace Unsupported

def reason : Unsupported → String
  | .decimalRange text => "decimal " ++ text ++ " outside Decimal128 range"
  | .notANumber text => "decimal128 " ++ text
  | .foreign kind => "bson " ++ kind.name
  | .calendarLength length =>
    "calendar components of " ++ String.ofList (Digits.ofNat length) ++ " bytes"
  | .calendarEmpty => "calendar components without a date or time"
  | .columnType column type => "column '" ++ column ++ "' has type " ++ type

def message (cause : Unsupported) : String := "Unsupported type: " ++ cause.reason

end Unsupported

end TwinStore
