/-
**The order of bytes.** Texts are ordered character by character. Their bytes in UTF-8 are in the
same order.

* `compareBytes_of_lt_char`: a smaller character has smaller bytes, whatever follows. Characters of
  equally many bytes differ in a digit of base sixty-four; else the first byte tells how many bytes
  there are.
* `compareBytes_utf8Bytes`: so texts compare like their bytes.
-/

import TwinStore.Proofs.Calendar.Bytes
import TwinStore.Proofs.Text.Order

namespace TwinStore

open Value (compareBytes)

/-- The bytes of a text. -/
def utf8Bytes (text : String) : List UInt8 := text.toUTF8.data.toList

/-- They are those of its characters, one after the other. -/
theorem utf8Bytes_eq (text : String) :
    utf8Bytes text = text.toList.flatMap String.utf8EncodeChar := by
  have whole : String.ofList text.toList = text := String.ofList_toList
  conv => lhs; rw [← whole]
  rw [utf8Bytes, String.toUTF8_eq_toByteArray, String.toByteArray_ofList, List.utf8Encode]
  simp

/-- The other way round bytes compare the other way round. -/
theorem compareBytes_swap : ∀ left right : List UInt8,
    (compareBytes left right).swap = compareBytes right left
  | [], [] | [], _ :: _ | _ :: _, [] => rfl
  | left :: lefts, right :: rights => by
    rw [compareBytes, compareBytes, Ordering.swap_then, Nat.compare_swap,
      compareBytes_swap lefts rights]

/-! ### One character -/

section Character

open CalendarComponents (compareBytes_cons)

variable {left right : Nat} (after behind : List UInt8)

/-- A smaller first byte decides. -/
theorem compareBytes_of_lead {first second : Nat} (less : first < second) (small : second < 256) :
    compareBytes (.ofNat first :: after) (.ofNat second :: behind) = .lt := by
  rw [compareBytes_cons (by omega) small, Nat.compare_eq_lt.mpr less]
  rfl

/-- A mark on top of a byte makes no difference. -/
theorem compare_marked (mark : Nat) :
    compare (left + mark) (right + mark) = compare left right := by
  apply compare_eq_compare (α := Nat) (β := Nat) <;> omega

/-- Of two numbers in base sixty-four the greater digits count first. -/
theorem compare_digits (top : Nat) (rest : Ordering) (left right : Nat) :
    (compare (left / 64 + top) (right / 64 + top)).then
        ((compare (left % 64 + 128) (right % 64 + 128)).then rest) =
      (compare left right).then rest := by
  rw [compare_marked, compare_marked, ← Ordering.then_assoc, compare_div_mod]

/-- **A smaller character has smaller bytes**, whatever follows. -/
theorem compareBytes_of_lt_char {first second : Char} (less : first < second) :
    compareBytes (String.utf8EncodeChar first ++ after)
      (String.utf8EncodeChar second ++ behind) = .lt := by
  have before : first.val.toNat < second.val.toNat := less
  have last : second.val.toNat < 0x110000 := by
    rcases second.valid with low | high
    · exact low.trans (by decide)
    · exact high.2
  unfold String.utf8EncodeChar
  generalize first.val.toNat = left at before ⊢
  generalize second.val.toNat = right at before last ⊢
  dsimp only
  split_ifs
  all_goals try omega
  all_goals simp only [List.cons_append, List.nil_append]
  all_goals try exact compareBytes_of_lead _ _ (by omega) (by omega)
  · have top : left / 64 % 32 = left / 64 := Nat.mod_eq_of_lt (by omega)
    have other : right / 64 % 32 = right / 64 := Nat.mod_eq_of_lt (by omega)
    rw [top, other, compareBytes_cons (by omega) (by omega),
      compareBytes_cons (by omega) (by omega), compare_digits, Nat.compare_eq_lt.mpr before]
    rfl
  · have top : left / 4096 % 16 = left / 64 / 64 := by omega
    have other : right / 4096 % 16 = right / 64 / 64 := by omega
    rw [top, other, compareBytes_cons (by omega) (by omega),
      compareBytes_cons (by omega) (by omega), compareBytes_cons (by omega) (by omega),
      compare_digits, ← compare_marked 0, compare_digits, Nat.compare_eq_lt.mpr before]
    rfl
  · have top : left / 262144 % 8 = left / 64 / 64 / 64 := by omega
    have other : right / 262144 % 8 = right / 64 / 64 / 64 := by omega
    have second : left / 4096 = left / 64 / 64 := by omega
    have otherSecond : right / 4096 = right / 64 / 64 := by omega
    rw [top, other, second, otherSecond, compareBytes_cons (by omega) (by omega),
      compareBytes_cons (by omega) (by omega), compareBytes_cons (by omega) (by omega),
      compareBytes_cons (by omega) (by omega), compare_digits, ← compare_marked 0, compare_digits,
      ← compare_marked 0, compare_digits, Nat.compare_eq_lt.mpr before]
    rfl

end Character

/-! ### Texts -/

theorem utf8EncodeChar_ne_nil (char : Char) : String.utf8EncodeChar char ≠ [] := by
  unfold String.utf8EncodeChar
  dsimp only
  split_ifs <;> exact List.cons_ne_nil _ _

/-- A smaller text has smaller bytes. -/
theorem compareBytes_of_lt : ∀ {left right : List Char}, left < right →
    compareBytes (left.flatMap String.utf8EncodeChar) (right.flatMap String.utf8EncodeChar) = .lt
  | _, [], less => absurd less (List.not_lt_nil _)
  | [], second :: right, _ => by
    obtain ⟨byte, bytes, some⟩ := List.exists_cons_of_ne_nil (utf8EncodeChar_ne_nil second)
    rw [List.flatMap_cons, some]
    rfl
  | first :: left, second :: right, less => by
    rw [List.flatMap_cons, List.flatMap_cons]
    rcases List.cons_lt_cons_iff.mp less with before | ⟨rfl, later⟩
    · exact compareBytes_of_lt_char _ _ before
    · rw [CalendarComponents.compareBytes_append _ _ rfl, CalendarComponents.compareBytes_self,
        compareBytes_of_lt later]
      rfl

/-- **Texts compare like their bytes.** -/
theorem compareBytes_utf8Bytes (left right : String) :
    compareBytes (utf8Bytes left) (utf8Bytes right) = compare left right := by
  have natural : compare left right =
      if left < right then .lt else if left = right then .eq else .gt := rfl
  rw [natural, utf8Bytes_eq, utf8Bytes_eq]
  split_ifs with before same
  · exact compareBytes_of_lt (String.lt_iff.mp before)
  · rw [same, CalendarComponents.compareBytes_self]
  · have after : right < left := Std.lt_of_le_of_ne (String.not_lt.mp before) (Ne.symm same)
    rw [← compareBytes_swap, compareBytes_of_lt (String.lt_iff.mp after)]
    rfl

end TwinStore
