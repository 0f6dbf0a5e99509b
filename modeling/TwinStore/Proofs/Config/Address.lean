/-
**Ports in a text.** Where an address of a server can be cut apart.

* `HoldsPort`: a host that holds a port of its own. `host_unique` and `exists_host`: every text with
  a host, a port and a rest is cut into them in exactly one way in which the host holds none.
-/

import TwinStore.Config.Basic
import TwinStore.Proofs.Result
import TwinStore.Proofs.Text.Mark
import TwinStore.Proofs.Text.Numeral

namespace TwinStore

/-! ### Ports -/

/-- A port between a host and what stands behind the slash. -/
def portText (port : UInt16) : List Char := ':' :: (Digits.ofNat port.toNat ++ ['/'])

theorem not_mem_digits {mark : Char} (other : mark.isDigit = false) (number : Nat) :
    mark ∉ Digits.ofNat number := by
  intro member
  rw [Digits.isDigit_of_mem_ofNat member] at other
  cases other

theorem digits_inj {first second : UInt16}
    (same : Digits.ofNat first.toNat = Digits.ofNat second.toNat) : first = second := by
  have values := congrArg Digits.value same
  rw [Digits.value_ofNat, Digits.value_ofNat] at values
  exact UInt16.toNat_inj.mp values

/-- What begins with a port has one port. -/
theorem portText_append_inj {first second : UInt16} {rest other : List Char}
    (same : portText first ++ rest = portText second ++ other) : first = second ∧ rest = other := by
  simp only [portText, List.cons_append, List.append_assoc, List.nil_append, List.cons.injEq,
    true_and] at same
  have plain : ∀ number, '/' ∉ Digits.ofNat number := not_mem_digits rfl
  obtain ⟨digits, behind⟩ := first_unique (plain _) (plain _) same
  exact ⟨digits_inj digits, behind⟩

/-- The host could end in front of a port that it holds, with the opening behind that. -/
def HoldsPort (opening host : List Char) : Prop :=
  ∃ front port back, front ≠ [] ∧ port ≠ 0 ∧ host = front ++ (portText port ++ (opening ++ back))

theorem not_holdsPort_of_not_mem {opening host : List Char} (absent : '/' ∉ host) :
    ¬HoldsPort opening host := by
  rintro ⟨front, port, back, -, -, rfl⟩
  simp [portText] at absent

/-- What stands behind the slash is nothing, or begins with the opening. -/
def Opens (opening rest : List Char) : Prop := rest = [] ∨ ∃ back, rest = opening ++ back

variable {opening : List Char}

/-- A host that is read further than another one holds the other one's port. -/
theorem holdsPort_of_longer (unmarked : ':' ∉ opening) {host more rest other : List Char}
    {port later : UInt16} (some_ : host ≠ []) (used : port ≠ 0) (opens : Opens opening rest)
    (longer : more ≠ [])
    (same : portText port ++ rest = more ++ (portText later ++ other)) :
    HoldsPort opening (host ++ more) := by
  obtain ⟨first, inner, rfl⟩ := List.exists_cons_of_ne_nil longer
  obtain ⟨rfl, digits⟩ := List.cons.inj same
  have plain : ':' ∉ Digits.ofNat port.toNat ++ ['/'] := by simp [not_mem_digits]
  obtain ⟨between, rfl, behind⟩ := exists_behind plain digits
  rcases opens with rfl | ⟨back, rfl⟩
  · exact absurd behind.symm (by simp)
  · obtain ⟨source, rfl, -⟩ := exists_behind unmarked behind
    exact ⟨host, port, source, some_, used, by simp [portText]⟩

/-- **Hosts without ports of their own are read in one way.** -/
theorem host_unique (unmarked : ':' ∉ opening) {first second rest other : List Char}
    {port later : UInt16} (some_ : first ≠ []) (also : second ≠ []) (used : port ≠ 0)
    (alsoUsed : later ≠ 0) (opens : Opens opening rest) (alsoOpens : Opens opening other)
    (plain : ¬HoldsPort opening first) (alsoPlain : ¬HoldsPort opening second)
    (same : first ++ (portText port ++ rest) = second ++ (portText later ++ other)) :
    first = second ∧ port = later ∧ rest = other := by
  have equal : first = second := by
    rcases List.append_eq_append_iff.mp same with ⟨more, rfl, behind⟩ | ⟨more, rfl, behind⟩
    · by_cases end_ : more = []
      · rw [end_, List.append_nil]
      · exact absurd (holdsPort_of_longer unmarked some_ used opens end_ behind) alsoPlain
    · by_cases end_ : more = []
      · rw [end_, List.append_nil]
      · exact absurd (holdsPort_of_longer unmarked also alsoUsed alsoOpens end_ behind) plain
  subst equal
  exact ⟨rfl, portText_append_inj (List.append_cancel_left same)⟩

/-- **Every host can be read up to the first port in it.** -/
theorem exists_host (opening rest : List Char) {host : List Char} {port : UInt16}
    (some_ : host ≠ []) (used : port ≠ 0) : ∃ first own behind,
      first ≠ [] ∧ own ≠ 0 ∧ ¬HoldsPort opening first ∧
        (behind = rest ∨ ∃ back ≠ [], behind = opening ++ back) ∧
          first ++ (portText own ++ behind) = host ++ (portText port ++ rest) := by
  by_cases holds : HoldsPort opening host
  · obtain ⟨front, inner, back, there, also, rfl⟩ := holds
    have next : portText inner ++ (opening ++ back) ≠ [] := by simp [portText]
    have shorter : front.length < (front ++ (portText inner ++ (opening ++ back))).length := by
      rw [List.length_append]
      exact Nat.lt_add_of_pos_right (List.length_pos_of_ne_nil next)
    obtain ⟨first, own, behind, begins, counts, plain, opens, same⟩ :=
      exists_host opening (opening ++ (back ++ (portText port ++ rest))) there also
    refine ⟨first, own, behind, begins, counts, plain, .inr ?_, ?_⟩
    · rcases opens with rfl | found
      · exact ⟨_, by simp [portText], rfl⟩
      · exact found
    · rw [same]
      simp only [List.append_assoc]
  · exact ⟨host, port, rest, some_, used, holds, .inl rfl, rfl⟩
termination_by host.length

end TwinStore
