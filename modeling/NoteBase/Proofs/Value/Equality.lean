import NoteBase.Proofs.Number.Order
import NoteBase.Value.Compare

/-!
# Laws of equality

Both equalities are symmetric, although the loose one converts one side after the other: what is
left of two values after all conversions is compared alike in both orders. Strict equality is
transitive and implies loose equality. A value equals itself, in either way, unless `NaN` stands in
it at any depth, and null equals nothing else.
-/

namespace NoteBase.Value

/-! ## Values with `NaN` -/

mutual

/-- Whether a value is `NaN`, or a list with such a value at any depth. -/
def hasNaN : Value → Bool
  | .number value => Number.isNaN value
  | .list items => anyHasNaN items
  | _ => false

def anyHasNaN : List Value → Bool
  | [] => false
  | item :: rest => item.hasNaN || anyHasNaN rest

end

/-! ## Strict equality -/

mutual

theorem strictEq_comm (left right : Value) : left.strictEq right = right.strictEq left := by
  cases left with
  | null => cases right <;> rfl
  | bool value =>
      cases right with
      | bool other => exact Bool.beq_comm
      | _ => rfl
  | number value =>
      cases right with
      | number other => exact BEq.comm
      | _ => rfl
  | text value =>
      cases right with
      | text other => exact BEq.comm
      | _ => rfl
  | date value =>
      cases right with
      | date other => exact decide_eq_decide.mpr eq_comm
      | _ => rfl
  | list items =>
      cases right with
      | list others => exact strictEqItems_comm items others
      | _ => rfl

theorem strictEqItems_comm (lefts rights : List Value) :
    strictEqItems lefts rights = strictEqItems rights lefts := by
  cases lefts with
  | nil => cases rights <;> rfl
  | cons left lefts =>
      cases rights with
      | nil => rfl
      | cons right rights =>
          rw [strictEqItems, strictEqItems, strictEq_comm left right,
            strictEqItems_comm lefts rights]

end

mutual

theorem strictEq_trans {left middle right : Value} (first : left.strictEq middle = true)
    (second : middle.strictEq right = true) : left.strictEq right = true := by
  cases left with
  | null =>
      cases middle with
      | null => exact second
      | _ => cases first
  | bool value =>
      cases middle with
      | bool other => exact eq_of_beq first ▸ second
      | _ => cases first
  | number value =>
      cases middle with
      | number other =>
          cases right with
          | number last => exact BEq.trans first second
          | _ => cases second
      | _ => cases first
  | text value =>
      cases middle with
      | text other => exact eq_of_beq first ▸ second
      | _ => cases first
  | date value =>
      cases middle with
      | date other => exact of_decide_eq_true first ▸ second
      | _ => cases first
  | list items =>
      cases middle with
      | list others =>
          cases right with
          | list last => exact strictEqItems_trans first second
          | _ => cases second
      | _ => cases first

theorem strictEqItems_trans {lefts middles rights : List Value}
    (first : strictEqItems lefts middles = true) (second : strictEqItems middles rights = true) :
    strictEqItems lefts rights = true := by
  cases lefts with
  | nil =>
      cases middles with
      | nil => exact second
      | cons _ _ => cases first
  | cons left lefts =>
      cases middles with
      | nil => cases first
      | cons middle middles =>
          cases rights with
          | nil => cases second
          | cons right rights =>
              rw [strictEqItems, Bool.and_eq_true] at first second ⊢
              exact ⟨strictEq_trans first.1 second.1, strictEqItems_trans first.2 second.2⟩

end

mutual

/-- Only `NaN` keeps a value from being equal to itself. -/
theorem strictEq_self (value : Value) : value.strictEq value = !value.hasNaN := by
  cases value with
  | null => rfl
  | bool value => exact BEq.rfl
  | number value => exact Number.beq_self value
  | text value => exact BEq.rfl
  | date value => exact decide_eq_true rfl
  | list items => exact strictEqItems_self items

theorem strictEqItems_self (items : List Value) : strictEqItems items items = !anyHasNaN items := by
  cases items with
  | nil => rfl
  | cons item rest =>
      rw [strictEqItems, anyHasNaN, Bool.not_or, strictEq_self item, strictEqItems_self rest]

end

/-! ## Loose equality -/

/-- What loose equality compares in the end: truth values are numbers, and lists and dates are
texts. -/
def plain (value : Value) : Value :=
  value.boolAsNumber.compoundAsText

/-- The cases of loose equality, of which each one is told apart by both sides alike. -/
theorem looseEq_eq (left right : Value) :
    left.looseEq right =
      if left.isNull || right.isNull then left.isNull && right.isNull
      else if left.isCompound && right.isCompound then left.strictEq right
      else looseEqPlain left.plain right.plain := by
  cases left <;> cases right <;> rfl

theorem looseEqPlain_comm (left right : Value) :
    looseEqPlain left right = looseEqPlain right left := by
  cases left with
  | number value =>
      cases right with
      | text other => exact BEq.comm
      | _ => exact strictEq_comm _ _
  | text value =>
      cases right with
      | number other => exact BEq.comm
      | _ => exact strictEq_comm _ _
  | _ => cases right <;> exact strictEq_comm _ _

theorem looseEq_comm (left right : Value) : left.looseEq right = right.looseEq left := by
  rw [looseEq_eq, looseEq_eq right left, Bool.or_comm, Bool.and_comm,
    Bool.and_comm left.isCompound, strictEq_comm, looseEqPlain_comm]

/-- Strict equality holds of values of one kind only, and of these loose equality converts none but
truth values. -/
theorem looseEq_of_strictEq {left right : Value} (same : left.strictEq right = true) :
    left.looseEq right = true := by
  cases left with
  | null =>
      cases right with
      | null => rfl
      | _ => cases same
  | bool value =>
      cases right with
      | bool other =>
          obtain rfl := eq_of_beq same
          cases value <;> decide
      | _ => cases same
  | number value =>
      cases right with
      | number other => exact same
      | _ => cases same
  | text value =>
      cases right with
      | text other => exact same
      | _ => cases same
  | date value =>
      cases right with
      | date other => exact same
      | _ => cases same
  | list items =>
      cases right with
      | list others => exact same
      | _ => cases same

theorem looseEq_self (value : Value) : value.looseEq value = value.strictEq value := by
  cases value with
  | bool value => cases value <;> decide
  | _ => rfl

theorem isNull_iff {value : Value} : value.isNull = true ↔ value = .null := by
  cases value <;> simp [isNull]

theorem looseEq_null (value : Value) : Value.null.looseEq value = value.isNull := by
  cases value <;> rfl

/-! ## All laws -/

/-- Both equalities are symmetric, the strict one is transitive and the stronger one, a value equals
itself in either way unless `NaN` stands in it, and null equals null only. -/
theorem equality_laws :
    (∀ left right : Value, left.strictEq right = right.strictEq left) ∧
      (∀ left middle right : Value, left.strictEq middle = true → middle.strictEq right = true →
        left.strictEq right = true) ∧
      (∀ value : Value, value.strictEq value = true ↔ value.hasNaN = false) ∧
      (∀ left right : Value, left.looseEq right = right.looseEq left) ∧
      (∀ left right : Value, left.strictEq right = true → left.looseEq right = true) ∧
      (∀ value : Value, value.looseEq value = true ↔ value.strictEq value = true) ∧
      ∀ value : Value, Value.null.looseEq value = true ↔ value = .null := by
  refine ⟨strictEq_comm, fun _ _ _ => strictEq_trans, fun value => ?_, looseEq_comm,
    fun _ _ => looseEq_of_strictEq, fun value => ?_, fun value => ?_⟩
  · rw [strictEq_self, Bool.not_eq_true']
  · rw [looseEq_self]
  · rw [looseEq_null, isNull_iff]

/-- `[[0], null]`, or `[[-0], null]` -/
def nestedZero (negative : Bool) : Value :=
  .list [.list [.number (Number.ofMagnitude negative 0)], .null]

/-- `[true, ['NaN', NaN]]` -/
def nestedNaN : Value :=
  .list [.bool true, .list [.text "NaN", .number Number.notANumber]]

/-- Zeros of both signs are equal at any depth, and `NaN` at any depth is equal to nothing. -/
theorem equality_laws_nested :
    (nestedZero false).strictEq (nestedZero true) = true ∧
      (nestedZero true).strictEq (nestedZero false) = true ∧
      (nestedZero false).strictEq (nestedZero false) = true ∧
      (nestedZero false).looseEq (nestedZero true) = true ∧
      nestedNaN.hasNaN = true ∧ nestedNaN.strictEq nestedNaN ≠ true ∧
      nestedNaN.looseEq nestedNaN ≠ true := by
  obtain ⟨symmetric, transitive, selfStrict, _, stronger, selfLoose, _⟩ := equality_laws
  have first : (nestedZero false).strictEq (nestedZero true) = true := by decide
  have second := (symmetric _ _).symm.trans first
  have broken : nestedNaN.hasNaN = true := by decide
  have different : nestedNaN.strictEq nestedNaN ≠ true := fun same =>
    Bool.false_ne_true (((selfStrict _).mp same).symm.trans broken)
  exact ⟨first, second, transitive _ _ _ first second, stronger _ _ first, broken, different,
    fun same => different ((selfLoose _).mp same)⟩

end NoteBase.Value
