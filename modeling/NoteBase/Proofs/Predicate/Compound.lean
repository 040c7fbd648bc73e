import NoteBase.Proofs.Predicate.QuotedCall

/-!
# Predicates joined by logical operators

A predicate with `&&` or `||` outside of quotes is evaluated as an expression, whatever its operands
look like, unless the text is one call with a quoted argument as a whole. Since the argument of a
call reaches up to the last quote, two calls joined by an operator are such a text: they are read as
one call with a strange argument, and the operator is lost in it.
-/

namespace NoteBase.Predicate

open Calendar (Moment)

/-! ## Texts that are one call -/

/-- A text that is one call is answered by what the call asks. -/
theorem evaluate_of_quotedCall (now : Moment) (record : Record) {text : String}
    {call : QuotedCall} {test : Record → Bool}
    (valid : call.WellFormed)
    (written : call.chars = Text.trimChars text.toList)
    (asked : call.test? = some test) :
    evaluate now record text = negateIf call.negated (test record) := by
  have answered := QuotedCall.holds_of_shape? now record (Text.trim text) call
  rw [asked, Option.map_some] at answered
  obtain ⟨shape, shapeEq, holds⟩ := Option.map_eq_some_iff.mp answered
  have read : Shape.of (Text.trimChars text.toList) = shape := by
    rw [Shape.of, ← written, QuotedCall.callShape?_chars valid, shapeEq]
  rw [evaluate, read]
  exact holds

/-! ## Texts with an operator -/

/-- A text with an operator that is no call is an expression. -/
theorem evaluate_of_no_quotedCall (now : Moment) (record : Record) {text : String}
    (compound : hasLogicalOperator (Text.trimChars text.toList) = true)
    (noCall : ∀ call : QuotedCall, call.WellFormed →
      call.chars = Text.trimChars text.toList → call.test? = none) :
    evaluate now record text = holdsAsExpression now record (Text.trim text) := by
  have unread : callShape? (Text.trimChars text.toList) = none := by
    cases found : callShape? (Text.trimChars text.toList) with
    | none =>
        rfl
    | some shape =>
        obtain ⟨call, valid, written, shapeEq⟩ := QuotedCall.exists_of_callShape? found
        have answered := QuotedCall.holds_of_shape? now record (Text.trim text) call
        rw [shapeEq, noCall call valid written] at answered
        cases answered
  rw [evaluate, Shape.of, unread]
  simp only [compound, if_true]
  rfl

/-- A text with an operator outside of quotes is answered as an expression if and only if it is no
call as a whole, or the call happens to be answered alike; and what a call is answered is known. -/
theorem evaluate_compound (now : Moment) (record : Record) (text : String)
    (compound : hasLogicalOperator (Text.trimChars text.toList) = true) :
    (evaluate now record text = holdsAsExpression now record (Text.trim text) ↔
      ∀ (call : QuotedCall) (test : Record → Bool),
        call.WellFormed → call.chars = Text.trimChars text.toList → call.test? = some test →
          negateIf call.negated (test record) =
            holdsAsExpression now record (Text.trim text)) ∧
    ∀ (call : QuotedCall) (test : Record → Bool),
      call.WellFormed → call.chars = Text.trimChars text.toList → call.test? = some test →
        evaluate now record text = negateIf call.negated (test record) := by
  have answered :
      ∀ (call : QuotedCall) (test : Record → Bool),
        call.WellFormed → call.chars = Text.trimChars text.toList → call.test? = some test →
          evaluate now record text = negateIf call.negated (test record) :=
    fun call test valid written asked => evaluate_of_quotedCall now record valid written asked
  refine ⟨⟨?_, ?_⟩, answered⟩
  · intro agrees call test valid written asked
    rw [← answered call test valid written asked, agrees]
  · intro alike
    by_cases isCall : ∃ (call : QuotedCall) (test : Record → Bool),
        call.WellFormed ∧ call.chars = Text.trimChars text.toList ∧ call.test? = some test
    · obtain ⟨call, test, valid, written, asked⟩ := isCall
      rw [answered call test valid written asked, alike call test valid written asked]
    · refine evaluate_of_no_quotedCall now record compound fun call valid written => ?_
      cases asked : call.test? with
      | none =>
          rfl
      | some test =>
          exact absurd ⟨call, test, valid, written, asked⟩ isCall

def joinedChecks : String := "file.hasProperty('a') && file.hasProperty('b')"

def checkedNote : Record :=
  OrderedMap.ofList [("a", .text "x"), ("b", .text "y")]

/-- The one call that the joined checks are read as. -/
def joinedCall : QuotedCall where
  negated := false
  target := ["file".toList]
  name := "hasProperty".toList
  opening := '\''
  needle := "a') && file.hasProperty('b".toList
  closing := '\''

theorem evaluate_compound_joinedChecks :
    hasLogicalOperator (Text.trimChars joinedChecks.toList) = true ∧
      joinedCall.WellFormed ∧
      joinedCall.chars = Text.trimChars joinedChecks.toList ∧
      evaluate Moment.epoch checkedNote joinedChecks =
        negateIf false (checkedNote.hasProperty "a') && file.hasProperty('b") := by
  have compound : hasLogicalOperator (Text.trimChars joinedChecks.toList) = true := by decide
  have valid : joinedCall.WellFormed := by
    constructor <;> decide
  have written : joinedCall.chars = Text.trimChars joinedChecks.toList := by decide
  exact ⟨compound, valid, written,
    (evaluate_compound Moment.epoch checkedNote joinedChecks compound).2 joinedCall _ valid
      written rfl⟩

/-- Both checks hold of the note, and so does the expression, but the predicate does not. -/
theorem joinedChecks_not_as_expression :
    hasLogicalOperator (Text.trimChars joinedChecks.toList) = true ∧
      holdsAsExpression Moment.epoch checkedNote (Text.trim joinedChecks) = true ∧
      evaluate Moment.epoch checkedNote joinedChecks = false := by
  decide +kernel

end NoteBase.Predicate
