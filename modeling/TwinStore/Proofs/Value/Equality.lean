/-
**Equality of values.** Deep equality compares numbers by the number they denote. Among values whose
double precision numbers are numbers it is an equivalence.

* `Number.equal_of_toDecimal?`: integers are compared as such, and that is to compare their
  decimals.
* `Number.equal_iff`: exact numbers are equal if they denote the same rational number.
* `equal_refl`, `equal_symm` and `equal_trans` go through arrays and objects item by item; the
  lemmas `equal_number`, `equal_array`, `equal_object` and `eq_of_equal_plain` say what a value
  equals, by its kind.
* `Alike` is finer: the same kind at every position and the same content, but for the way decimals
  are written. `Alike.equal`: values alike are equal.
-/

import TwinStore.Proofs.Value.Parts

namespace TwinStore

/-! ### Numbers -/

/-- The rational number that an exact number denotes. -/
def Number.toRat? (number : Number) : Option ℚ := number.toDecimal?.map Decimal.toRat

/-- **Exact numbers of any two kinds are equal if their decimals have the same value.** -/
theorem Number.equal_of_toDecimal? {left right : Number} {first second : Decimal}
    (one : left.toDecimal? = some first) (two : right.toDecimal? = some second) :
    left.equal right = first.sameValue second := by
  have integers (m n : Int) : (Decimal.ofInt m).sameValue (.ofInt n) = true ↔ m = n := by
    rw [Decimal.sameValue_iff, Decimal.toRat_ofInt, Decimal.toRat_ofInt, Int.cast_inj]
  cases left with
  | float => cases one
  | signed word =>
    cases one
    cases right with
    | float => cases two
    | decimal => cases two; rfl
    | signed other =>
      cases two
      rw [Bool.eq_iff_iff, integers, Int64.toInt_inj]
      exact beq_iff_eq
    | unsigned other =>
      cases two
      rw [Bool.eq_iff_iff, integers]
      exact beq_iff_eq
  | unsigned word =>
    cases one
    cases right with
    | float => cases two
    | decimal => cases two; rfl
    | signed other =>
      cases two
      rw [Bool.eq_iff_iff, integers]
      exact beq_iff_eq.trans eq_comm
    | unsigned other =>
      cases two
      rw [Bool.eq_iff_iff, integers, Int.natCast_inj, UInt64.toNat_inj]
      exact beq_iff_eq
  | decimal number =>
    cases one
    cases right with
    | float => cases two
    | _ => cases two; rfl

/-- **Equal numbers**: double precision numbers compare as such, exact ones by the number they
denote. -/
theorem Number.equal_iff (left right : Number) :
    left.equal right = true ↔
      (∃ first second, left = .float first ∧ right = .float second ∧
        first.equal second = true) ∨
      ∃ value, left.toRat? = some value ∧ right.toRat? = some value := by
  cases one : left.toDecimal? with
  | none =>
    cases left with
    | float first =>
      cases right <;> simp [Number.equal, Number.toRat?, Number.toDecimal?]
    | _ => cases one
  | some first =>
    cases two : right.toDecimal? with
    | none =>
      cases right with
      | float second => cases left <;> simp [Number.equal, Number.toRat?, Number.toDecimal?]
      | _ => cases two
    | some second =>
      rw [Number.equal_of_toDecimal? one two, Decimal.sameValue_iff, Number.toRat?, one,
        Number.toRat?, two]
      constructor
      · intro same
        exact .inr ⟨_, rfl, congrArg some same.symm⟩
      · rintro (⟨floating, _, rfl, _⟩ | ⟨_, ⟨⟩, same⟩)
        · cases one
        · exact (Option.some.inj same).symm

/-- Exact numbers compare like the numbers they denote. -/
theorem Number.compare_of_toRat? {left right : Number} {first second : ℚ}
    (one : left.toRat? = some first) (two : right.toRat? = some second) :
    left.compare right = Ord.compare first second := by
  obtain ⟨decimal, exact_, rfl⟩ := Option.map_eq_some_iff.mp one
  obtain ⟨other, exacts, rfl⟩ := Option.map_eq_some_iff.mp two
  rw [Number.compare, exact_, exacts, ← Decimal.compare_eq_compare_toRat]

theorem Binary64.equal_symm {left right : Binary64} (same : left.equal right = true) :
    right.equal left = true := by
  simp only [Binary64.equal, Bool.and_eq_true, beq_iff_eq] at same ⊢
  exact ⟨⟨same.1.2, same.1.1⟩, same.2.symm⟩

theorem Binary64.equal_trans {first second third : Binary64} (one : first.equal second = true)
    (two : second.equal third = true) : first.equal third = true := by
  simp only [Binary64.equal, Bool.and_eq_true, beq_iff_eq] at one two ⊢
  exact ⟨⟨one.1.1, two.1.2⟩, one.2.trans two.2⟩

theorem Number.equal_symm {left right : Number} (same : left.equal right = true) :
    right.equal left = true := by
  rw [Number.equal_iff] at same ⊢
  rcases same with ⟨first, second, rfl, rfl, floats⟩ | ⟨value, one, two⟩
  · exact .inl ⟨second, first, rfl, rfl, Binary64.equal_symm floats⟩
  · exact .inr ⟨value, two, one⟩

theorem Number.equal_trans {first second third : Number} (one : first.equal second = true)
    (two : second.equal third = true) : first.equal third = true := by
  rw [Number.equal_iff] at one two ⊢
  rcases one with ⟨left, middle, rfl, rfl, floats⟩ | ⟨value, left, middle⟩
  · rcases two with ⟨_, right, same, rfl, more⟩ | ⟨value, none_, _⟩
    · cases same
      exact .inl ⟨left, right, rfl, rfl, Binary64.equal_trans floats more⟩
    · cases none_
  · rcases two with ⟨_, right, rfl, _, _⟩ | ⟨other, again, right⟩
    · cases middle
    · rw [middle] at again
      cases again
      exact .inr ⟨value, left, right⟩

namespace Value

/-! ### What a value equals -/

/-- Neither a number nor a container: such a value equals itself only. -/
def IsPlain : Value → Prop
  | .number _ | .array _ | .object _ => False
  | _ => True

section Kinds

attribute [local simp] equal

theorem equal_number {left : Number} {right : Value} :
    (number left).equal right = true ↔ ∃ other, right = number other ∧ left.equal other = true := by
  cases right <;> simp

theorem equal_array {left : List Value} {right : Value} :
    (array left).equal right = true ↔
      ∃ other, right = array other ∧ equalItems left other = true := by
  cases right <;> simp

theorem equal_object {left : List (String × Value)} {right : Value} :
    (object left).equal right = true ↔
      ∃ other, right = object other ∧ equalFields left other = true := by
  cases right <;> simp

theorem equal_self_of_plain {value : Value} (plain : value.IsPlain) :
    value.equal value = true := by
  cases value <;> simp_all [IsPlain]

theorem eq_of_equal_plain {left right : Value} (same : left.equal right = true)
    (plain : left.IsPlain) : right = left := by
  cases left <;> cases right <;> simp_all [IsPlain]

end Kinds

theorem equalItems_cons {left : Value} {lefts others : List Value} :
    equalItems (left :: lefts) others = true ↔
      ∃ right rights, others = right :: rights ∧ left.equal right = true ∧
        equalItems lefts rights = true := by
  cases others <;> simp [equalItems]

theorem equalFields_cons {name : String} {left : Value} {lefts others : List (String × Value)} :
    equalFields ((name, left) :: lefts) others = true ↔
      ∃ right rights, others = (name, right) :: rights ∧ left.equal right = true ∧
        equalFields lefts rights = true := by
  match others with
  | [] => simp [equalFields]
  | (other, right) :: rights =>
    simp only [equalFields, Bool.and_eq_true, beq_iff_eq, List.cons.injEq, Prod.mk.injEq]
    constructor
    · rintro ⟨⟨rfl, first⟩, rest⟩
      exact ⟨right, rights, ⟨⟨rfl, rfl⟩, rfl⟩, first, rest⟩
    · rintro ⟨_, _, ⟨⟨rfl, rfl⟩, rfl⟩, first, rest⟩
      exact ⟨⟨rfl, first⟩, rest⟩

/-! ### An equivalence -/

mutual

/-- A value without undefined numbers equals itself. -/
theorem equal_refl : ∀ {value : Value}, value.Every NumericFloat → value.equal value = true
  | .number (.float first), numeric => by
    have defined : first.isNaN = false := numeric.self
    simp [equal, Number.equal, Binary64.equal, defined]
  | .number (.signed _), _ | .number (.unsigned _), _ | .number (.decimal _), _ => by
    rw [equal, Number.equal_iff]
    exact .inr ⟨_, rfl, rfl⟩
  | .array items, numeric => by
    rw [equal]
    exact equalItems_refl numeric.items
  | .object fields, numeric => by
    rw [equal]
    exact equalFields_refl numeric.fields
  | .null, _ | .boolean _, _ | .text _, _ | .instant _, _ | .date _, _ | .time _, _
  | .binary _, _ =>
    equal_self_of_plain trivial

theorem equalItems_refl :
    ∀ {items : List Value}, EveryItem NumericFloat items → equalItems items items = true
  | [], _ => rfl
  | _ :: _, numeric =>
    equalItems_cons.mpr ⟨_, _, rfl, equal_refl numeric.head, equalItems_refl numeric.tail⟩

theorem equalFields_refl :
    ∀ {fields : List (String × Value)}, EveryField NumericFloat fields →
      equalFields fields fields = true
  | [], _ => rfl
  | (_, _) :: _, numeric =>
    equalFields_cons.mpr ⟨_, _, rfl, equal_refl numeric.head, equalFields_refl numeric.tail⟩

end

mutual

theorem equal_symm : ∀ {left right : Value}, left.equal right = true → right.equal left = true
  | .number _, _, same => by
    obtain ⟨_, rfl, numbers⟩ := equal_number.mp same
    exact equal_number.mpr ⟨_, rfl, Number.equal_symm numbers⟩
  | .array _, _, same => by
    obtain ⟨_, rfl, items⟩ := equal_array.mp same
    exact equal_array.mpr ⟨_, rfl, equalItems_symm items⟩
  | .object _, _, same => by
    obtain ⟨_, rfl, fields⟩ := equal_object.mp same
    exact equal_object.mpr ⟨_, rfl, equalFields_symm fields⟩
  | .null, _, same | .boolean _, _, same | .text _, _, same | .instant _, _, same
  | .date _, _, same | .time _, _, same | .binary _, _, same => by
    obtain rfl := eq_of_equal_plain same trivial
    exact same

theorem equalItems_symm :
    ∀ {left right : List Value}, equalItems left right = true → equalItems right left = true
  | [], [], _ => rfl
  | [], _ :: _, same => by cases same
  | _ :: _, _, same => by
    obtain ⟨_, _, rfl, first, rest⟩ := equalItems_cons.mp same
    exact equalItems_cons.mpr ⟨_, _, rfl, equal_symm first, equalItems_symm rest⟩

theorem equalFields_symm :
    ∀ {left right : List (String × Value)}, equalFields left right = true →
      equalFields right left = true
  | [], [], _ => rfl
  | [], _ :: _, same => by cases same
  | (_, _) :: _, _, same => by
    obtain ⟨_, _, rfl, first, rest⟩ := equalFields_cons.mp same
    exact equalFields_cons.mpr ⟨_, _, rfl, equal_symm first, equalFields_symm rest⟩

end

mutual

theorem equal_trans : ∀ {first second third : Value}, first.equal second = true →
    second.equal third = true → first.equal third = true
  | .number _, _, _, one, two => by
    obtain ⟨_, rfl, numbers⟩ := equal_number.mp one
    obtain ⟨_, rfl, others⟩ := equal_number.mp two
    exact equal_number.mpr ⟨_, rfl, Number.equal_trans numbers others⟩
  | .array _, _, _, one, two => by
    obtain ⟨_, rfl, items⟩ := equal_array.mp one
    obtain ⟨_, rfl, others⟩ := equal_array.mp two
    exact equal_array.mpr ⟨_, rfl, equalItems_trans items others⟩
  | .object _, _, _, one, two => by
    obtain ⟨_, rfl, fields⟩ := equal_object.mp one
    obtain ⟨_, rfl, others⟩ := equal_object.mp two
    exact equal_object.mpr ⟨_, rfl, equalFields_trans fields others⟩
  | .null, _, _, one, two | .boolean _, _, _, one, two | .text _, _, _, one, two
  | .instant _, _, _, one, two | .date _, _, _, one, two | .time _, _, _, one, two
  | .binary _, _, _, one, two => by
    obtain rfl := eq_of_equal_plain one trivial
    exact two

theorem equalItems_trans : ∀ {first second third : List Value}, equalItems first second = true →
    equalItems second third = true → equalItems first third = true
  | [], [], _, _, two => two
  | [], _ :: _, _, one, _ => by cases one
  | _ :: _, _, _, one, two => by
    obtain ⟨_, _, rfl, head, tail⟩ := equalItems_cons.mp one
    obtain ⟨_, _, rfl, nextHead, nextTail⟩ := equalItems_cons.mp two
    exact equalItems_cons.mpr ⟨_, _, rfl, equal_trans head nextHead,
      equalItems_trans tail nextTail⟩

theorem equalFields_trans : ∀ {first second third : List (String × Value)},
    equalFields first second = true → equalFields second third = true →
      equalFields first third = true
  | [], [], _, _, two => two
  | [], _ :: _, _, one, _ => by cases one
  | (_, _) :: _, _, _, one, two => by
    obtain ⟨_, _, rfl, head, tail⟩ := equalFields_cons.mp one
    obtain ⟨_, _, rfl, nextHead, nextTail⟩ := equalFields_cons.mp two
    exact equalFields_cons.mpr ⟨_, _, rfl, equal_trans head nextHead,
      equalFields_trans tail nextTail⟩

end

/-! ### Values alike -/

mutual

/-- The same kinds at the same positions, with the same content; decimals denote the same number but
may be written with other places. -/
inductive Alike : Value → Value → Prop where
  | refl (value : Value) : Alike value value
  | decimal {left right : Decimal} (same : left.toRat = right.toRat) :
      Alike (.number (.decimal left)) (.number (.decimal right))
  | array {left right : List Value} (items : AlikeItems left right) :
      Alike (.array left) (.array right)
  | object {left right : List (String × Value)} (fields : AlikeFields left right) :
      Alike (.object left) (.object right)

/-- Lists of the same length with items alike. -/
inductive AlikeItems : List Value → List Value → Prop where
  | nil : AlikeItems [] []
  | cons {left right : Value} {lefts rights : List Value} (first : Alike left right)
      (rest : AlikeItems lefts rights) : AlikeItems (left :: lefts) (right :: rights)

/-- Entries of the same names with values alike. -/
inductive AlikeFields : List (String × Value) → List (String × Value) → Prop where
  | nil : AlikeFields [] []
  | cons {name : String} {left right : Value} {lefts rights : List (String × Value)}
      (first : Alike left right) (rest : AlikeFields lefts rights) :
      AlikeFields ((name, left) :: lefts) ((name, right) :: rights)

end

mutual

/-- Values alike equal the same values. -/
theorem Alike.equal_iff : ∀ {left right third : Value}, Alike left right →
    (left.equal third = true ↔ right.equal third = true)
  | _, _, _, .refl _ => .rfl
  | .number (.decimal left), .number (.decimal right), _, .decimal numbers => by
    have first : (Number.decimal left).equal (.decimal right) = true :=
      (Decimal.sameValue_iff _ _).mpr numbers
    rw [equal_number, equal_number]
    exact exists_congr fun other => and_congr_right fun _ =>
      ⟨Number.equal_trans (Number.equal_symm first), Number.equal_trans first⟩
  | _, _, _, .array items => by
    rw [equal_array, equal_array]
    exact exists_congr fun other => and_congr_right fun _ => items.equal_iff
  | _, _, _, .object fields => by
    rw [equal_object, equal_object]
    exact exists_congr fun other => and_congr_right fun _ => fields.equal_iff

theorem AlikeItems.equal_iff : ∀ {left right third : List Value}, AlikeItems left right →
    (equalItems left third = true ↔ equalItems right third = true)
  | _, _, _, .nil => .rfl
  | _, _, _, .cons first rest => by
    rw [equalItems_cons, equalItems_cons]
    exact exists₂_congr fun other others => and_congr_right fun _ =>
      and_congr first.equal_iff rest.equal_iff

theorem AlikeFields.equal_iff : ∀ {left right third : List (String × Value)},
    AlikeFields left right → (equalFields left third = true ↔ equalFields right third = true)
  | _, _, _, .nil => .rfl
  | _, _, _, .cons first rest => by
    rw [equalFields_cons, equalFields_cons]
    exact exists₂_congr fun other others => and_congr_right fun _ =>
      and_congr first.equal_iff rest.equal_iff

end

/-- **Values alike are equal**, unless they hold undefined numbers. -/
theorem Alike.equal {left right : Value} (alike : Alike left right)
    (numeric : right.Every NumericFloat) : left.equal right = true :=
  alike.equal_iff.mpr (equal_refl numeric)

end Value

end TwinStore
