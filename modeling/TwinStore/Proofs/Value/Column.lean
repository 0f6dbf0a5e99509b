/-
**Typed columns lose nothing but what milliseconds do not count.** A column holds a scalar in its
own type and an array or an object as a JSON document. The outermost object of a document is never
tagged and never read as a tag; one level below, both codecs change over to tagged values.

* `columnForm_scalar` and `ofColumnForm_scalar`: scalars pass as they are.
* `alike_ofColumnForm`: the two codecs change over at the same depth.
* `ofJson_toJson_columnForm`: the document of a container holds the very same form.
* `read_unsigned`: whatever numeric comes back for an unsigned number, it is read as an equal one.
* `column_lossless` joins them.
-/

import TwinStore.Postgres.Row
import TwinStore.Proofs.Decimal.Value
import TwinStore.Proofs.Value.Tagged

namespace TwinStore.Value

open Postgres

/-- The value is an array or an object. -/
def IsContainer : Value → Prop
  | .array _ | .object _ => True
  | _ => False

instance : DecidablePred IsContainer := fun value => by
  cases value <;> unfold IsContainer <;> infer_instance

/-! ### Scalars -/

theorem columnForm_scalar {value : Value} (scalar : ¬value.IsContainer) :
    value.columnForm = value := by
  cases value with
  | array | object => exact absurd trivial scalar
  | _ => rfl

theorem ofColumnForm_scalar {value : Value} (scalar : ¬value.IsContainer) :
    value.ofColumnForm = value := by
  cases value with
  | array | object => exact absurd trivial scalar
  | _ => rfl

/-- An unsigned number is sent as a numeric. However many places that has when it comes back, it is
read as a decimal that equals the number. -/
theorem read_unsigned (word : UInt64) :
    ∃ sent, argumentCell (.ofColumn (.number (.unsigned word))) = ("NUMERIC", .numeric sent) ∧
      ∀ arrived : Decimal, arrived.sameValue sent = true →
        (number (.decimal arrived)).ofColumnForm.equal (.number (.unsigned word)) = true ∧
        ∀ name, Cell.read ⟨name, "NUMERIC"⟩ (.numeric arrived) =
          .ok (number (.decimal arrived)).ofColumnForm := by
  refine ⟨.ofInt word.toNat, rfl, fun arrived same => ⟨?_, fun name => rfl⟩⟩
  rw [ofColumnForm_scalar id, equal, Number.equal_iff]
  refine .inr ⟨arrived.toRat, rfl, ?_⟩
  show some (Decimal.ofInt word.toNat).toRat = some arrived.toRat
  rw [(Decimal.sameValue_iff _ _).mp same]

/-! ### Containers -/

/-- **The codecs change over at the same depth**: what one tags, the other restores. -/
theorem alike_ofColumnForm {value : Value} (fits : value.Every FittingDecimal)
    (container : value.IsContainer) : Alike value.columnForm.ofColumnForm value.restored := by
  cases value with
  | array items => exact .array (untaggedItems_tagged fits.items)
  | object fields => exact .object (untaggedFields_tagged fits.fields)
  | _ => exact container.elim

/-- The document of a container holds its column form. -/
theorem ofJson_toJson_columnForm {value : Value} (finite : value.Every FiniteFloat)
    (container : value.IsContainer) : ofJson value.columnForm.toJson = value.columnForm := by
  cases value with
  | array items =>
    show array (itemsOfJson _) = array _
    rw [itemsOfJson_tagged finite.items]
  | object fields =>
    show object (fieldsOfJson _) = object _
    rw [fieldsOfJson_tagged finite.fields]
  | _ => exact container.elim

/-- A container is sent as a document. -/
theorem argumentCell_container {value : Value} (container : value.IsContainer) :
    argumentCell (.ofColumn value) = ("JSONB", .json value.columnForm.toJson) := by
  cases value with
  | array | object => rfl
  | _ => exact container.elim

/-- **Typed columns lose nothing but what milliseconds do not count.** A container comes back with
the same kinds at every position and the instants that its tagged form restores, from its form and
from its document, and so does the cell that it is sent as; without leap seconds the instants are
floored to the millisecond. A scalar comes back as it is, and an unsigned number as an equal
decimal. -/
theorem column_lossless (value : Value) (fits : value.Every FittingDecimal)
    (finite : value.Every FiniteFloat) :
    (value.IsContainer →
      Alike value.columnForm.ofColumnForm value.restored ∧
      Alike (ofJson value.columnForm.toJson).ofColumnForm value.restored ∧
      (∀ name, ∃ read, Alike read value.restored ∧
        (argumentCell (.ofColumn value)).2.read ⟨name, (argumentCell (.ofColumn value)).1⟩ =
          .ok read) ∧
      (value.Every PlainInstant → value.restored = value.floored)) ∧
    (¬value.IsContainer → value.columnForm.ofColumnForm = value) ∧
    ∀ word, value = .number (.unsigned word) →
      ∃ sent, argumentCell (.ofColumn value) = ("NUMERIC", .numeric sent) ∧
        ∀ arrived : Decimal, arrived.sameValue sent = true →
          (number (.decimal arrived)).ofColumnForm.equal value = true ∧
          ∀ name, Cell.read ⟨name, "NUMERIC"⟩ (.numeric arrived) =
            .ok (number (.decimal arrived)).ofColumnForm := by
  refine ⟨fun container => ?_, fun scalar => ?_, ?_⟩
  · have back := alike_ofColumnForm fits container
    have document := ofJson_toJson_columnForm finite container
    rw [argumentCell_container container, document]
    refine ⟨back, back, fun name => ⟨value.columnForm.ofColumnForm, back, ?_⟩,
      mapLeaves_counted_of_plain⟩
    show Except.ok (ofJson value.columnForm.toJson).ofColumnForm = _
    rw [document]
  · rw [columnForm_scalar scalar, ofColumnForm_scalar scalar]
  · rintro word rfl
    exact read_unsigned word

/-- Outermost, a reserved name is a name; one level below it is a tag. -/
example : (object [("$signed", .text "5")]).ofColumnForm = object [("$signed", .text "5")] ∧
    (array [object [("$signed", .text "5")]]).ofColumnForm = array [.number (.signed 5)] :=
  ⟨rfl, rfl⟩

/-- The only name of the object is reserved, and so is the only name of an object inside it. -/
theorem column_lossless_imitation :
    (imitation .fine).Every FittingDecimal ∧ (imitation .fine).Every FiniteFloat ∧
      (imitation .fine).IsContainer ∧ (imitation .fine).Every PlainInstant ∧
        Alike (imitation .fine).columnForm.ofColumnForm (imitation .fine).floored ∧
          Alike (ofJson (imitation .fine).columnForm.toJson).ofColumnForm
            (imitation .fine).floored := by
  have plain := @imitation_plain .fine (by decide)
  obtain ⟨form, document, -, same⟩ :=
    (column_lossless _ (imitation_fits .fine) (imitation_finite .fine)).1 trivial
  rw [same plain] at form document
  exact ⟨imitation_fits _, imitation_finite _, trivial, plain, form, document⟩

/-- Half of a leap second in an array comes back as half of the second behind it. -/
theorem not_column_lossless_leapSecond :
    (array [.instant .leapSecond]).Every FittingDecimal ∧
      (array [.instant .leapSecond]).Every FiniteFloat ∧
      (array [.instant .leapSecond]).IsContainer ∧
        ¬Alike (array [.instant .leapSecond]).columnForm.ofColumnForm
            (array [.instant .leapSecond]).floored ∧
          ¬Alike (ofJson (array [.instant .leapSecond]).columnForm.toJson).ofColumnForm
            (array [.instant .leapSecond]).floored := by
  have every {property : Value → Prop} (outer : property (array [.instant .leapSecond]))
      (inner : property (instant .leapSecond)) :
      (array [.instant .leapSecond]).Every property :=
    every_array_iff.mpr ⟨outer, everyItem_cons_iff.mpr
      ⟨List.forall_mem_singleton.mpr inner, List.forall_mem_nil _⟩⟩
  have back : ¬Alike (array [.instant .leapSecond]).columnForm.ofColumnForm
      (array [.instant .leapSecond]).floored := by
    have form : (array [.instant .leapSecond]).columnForm.ofColumnForm =
        array [(instant .leapSecond).tagged.untagged] := rfl
    rw [form, untagged_tagged_instant]
    intro alike
    have same := alike.equal (every trivial trivial)
    revert same
    decide
  refine ⟨every trivial trivial, every trivial trivial, trivial, back, ?_⟩
  rw [ofJson_toJson_columnForm (every trivial trivial) trivial]
  exact back

end TwinStore.Value
