/-
**Base64 is read back.** Whatever bytes are encoded, decoding the text gives the same bytes.

The proof follows the groups of three bytes. The padding is never mistaken for a full group, because
no character of the alphabet is the padding character (`sextet_ne_padding`).
-/

import TwinStore.Text.Base64

namespace TwinStore.Base64

/-! ### The alphabet -/

theorem sextetValue?_sextet {number : Nat} (small : number < 64) :
    sextetValue? (sextet number) = some number := by
  have all : ∀ number : Fin 64, sextetValue? (sextet number.val) = some number.val := by decide
  exact all ⟨number, small⟩

theorem sextet_ne_padding (number : Nat) : sextet number ≠ '=' := by
  intro padding
  have noValue : sextetValue? '=' = none := by decide
  by_cases small : number < 64
  · have read := sextetValue?_sextet small
    rw [padding, noValue] at read
    cases read
  · unfold sextet at padding
    rw [if_neg (by omega), if_neg (by omega), if_neg (by omega), if_neg (by omega)] at padding
    exact absurd padding (by decide)

/-! ### One group -/

/-- The parts of a number in a mixed base, put together again. -/
theorem decodeThree?_encode (first second third : UInt8) :
    let group := first.toNat * 65536 + second.toNat * 256 + third.toNat
    decodeThree? (sextet (group / 262144)) (sextet (group / 4096 % 64)) (sextet (group / 64 % 64))
      (sextet (group % 64)) = some [first, second, third] := by
  intro group
  have firstSmall := first.toNat_lt
  have secondSmall := second.toNat_lt
  have thirdSmall := third.toNat_lt
  have whole : (group / 262144 * 64 + group / 4096 % 64) * 4096 +
      (group / 64 % 64 * 64 + group % 64) = group := by omega
  have high : group / 65536 = first.toNat := by omega
  have middle : group / 256 % 256 = second.toNat := by omega
  have low : group % 256 = third.toNat := by omega
  unfold decodeThree?
  rw [sextetValue?_sextet (by omega), sextetValue?_sextet (by omega),
    sextetValue?_sextet (by omega), sextetValue?_sextet (by omega)]
  simp only [Option.bind_eq_bind, Option.bind_some, whole, high, middle, low, UInt8.ofNat_toNat]
  rfl

theorem decodeTwo?_encode (first second : UInt8) :
    let group := first.toNat * 1024 + second.toNat * 4
    decodeTwo? (sextet (group / 4096)) (sextet (group / 64 % 64)) (sextet (group % 64)) =
      some [first, second] := by
  intro group
  have firstSmall := first.toNat_lt
  have secondSmall := second.toNat_lt
  have whole : (group / 4096 * 64 + group / 64 % 64) * 64 + group % 64 = group := by omega
  have unused : group % 4 = 0 := by omega
  have high : group / 1024 = first.toNat := by omega
  have low : group / 4 % 256 = second.toNat := by omega
  unfold decodeTwo?
  rw [sextetValue?_sextet (by omega), sextetValue?_sextet (by omega),
    sextetValue?_sextet (by omega)]
  simp only [Option.bind_eq_bind, Option.bind_some, whole, unused, high, low, UInt8.ofNat_toNat,
    if_true]

theorem decodeOne?_encode (first : UInt8) :
    let group := first.toNat * 16
    decodeOne? (sextet (group / 64)) (sextet (group % 64)) = some [first] := by
  intro group
  have firstSmall := first.toNat_lt
  have whole : group / 64 * 64 + group % 64 = group := by omega
  have unused : group % 16 = 0 := by omega
  have byte : group / 16 = first.toNat := by omega
  unfold decodeOne?
  rw [sextetValue?_sextet (by omega), sextetValue?_sextet (by omega)]
  simp only [Option.bind_eq_bind, Option.bind_some, whole, unused, byte, UInt8.ofNat_toNat, if_true]

/-! ### Whole texts -/

/-- A group whose last character is no padding is a full one. -/
theorem decode?_group (first second third fourth : Char) (rest : List Char)
    (full : fourth ≠ '=') :
    decode? (first :: second :: third :: fourth :: rest) =
      (do return (← decodeThree? first second third fourth) ++ (← decode? rest)) := by
  rw [decode?.eq_4]
  · intro _ padding
    exact absurd padding full
  · intro padding
    exact absurd padding full

/-- **Encoded bytes are read back.** -/
@[simp] theorem decode?_encode (bytes : List UInt8) : decode? (encode bytes) = some bytes := by
  induction bytes using encode.induct with
  | case1 first second third rest step =>
    rw [encode, decode?_group _ _ _ _ _ (sextet_ne_padding _), step,
      decodeThree?_encode first second third]
    rfl
  | case2 first second =>
    rw [encode, decode?.eq_3 _ _ _ (sextet_ne_padding _), decodeTwo?_encode first second]
  | case3 first => rw [encode, decode?, decodeOne?_encode first]
  | case4 => rfl

end TwinStore.Base64
