import Mathlib.Data.List.Infix
import Mathlib.Data.List.TakeWhile
import NoteBase.Text.Blank

/-!
# The edges of a text

What the front of a text and its trimming are if more text stands behind it, or no blank at its
ends.
-/

namespace NoteBase.Text

/-! ## Fronts -/

section Fronts

variable {good : Char → Bool} {back : List Char}

theorem takeWhile_append_of_head (ends : ∀ char ∈ back.head?, good char = false)
    (front : List Char) : (front ++ back).takeWhile good = front.takeWhile good := by
  induction front with
  | nil =>
      cases back with
      | nil => rfl
      | cons char rest => simp [ends char rfl]
  | cons char front inductionHypothesis =>
      simp only [List.cons_append, List.takeWhile_cons, inductionHypothesis]

theorem dropWhile_append_of_head (ends : ∀ char ∈ back.head?, good char = false)
    (front : List Char) : (front ++ back).dropWhile good = front.dropWhile good ++ back := by
  induction front with
  | nil =>
      cases back with
      | nil => rfl
      | cons char rest => simp [ends char rfl]
  | cons char front inductionHypothesis =>
      simp only [List.cons_append, List.dropWhile_cons, inductionHypothesis]
      split <;> rfl

theorem takeWhile_eq_self {chars : List Char} (all : ∀ char ∈ chars, good char = true) :
    chars.takeWhile good = chars := by
  simpa using @List.takeWhile_append_of_pos _ good chars [] all

theorem dropWhile_eq_nil {chars : List Char} (all : ∀ char ∈ chars, good char = true) :
    chars.dropWhile good = [] := by
  simpa using @List.dropWhile_append_of_pos _ good chars [] all

end Fronts

/-! ## Trimming the front -/

theorem trimStart_suffix (chars : List Char) : trimStart chars <:+ chars :=
  List.dropWhile_suffix isBlank

theorem trimStart_eq_self {chars : List Char}
    (shown : ∀ char ∈ chars.head?, isBlank char = false) : trimStart chars = chars := by
  cases chars with
  | nil => rfl
  | cons char rest => simp [trimStart, shown char rfl]

theorem trimStart_blanks {gap back : List Char}
    (blank : ∀ char ∈ gap, isBlank char = true)
    (shown : ∀ char ∈ back.head?, isBlank char = false) :
    trimStart (gap ++ back) = back := by
  rw [trimStart, dropWhile_append_of_head shown, dropWhile_eq_nil blank, List.nil_append]

/-- A text that does not end with a blank is not trimmed away. -/
theorem trimStart_append {front : List Char} (nonempty : front ≠ [])
    (shown : ∀ char ∈ front.getLast?, isBlank char = false) (back : List Char) :
    trimStart (front ++ back) = trimStart front ++ back ∧ trimStart front ≠ [] := by
  have kept : trimStart front ≠ [] := by
    intro gone
    have blank := List.dropWhile_eq_nil_iff.mp gone
    obtain ⟨inner, last, rfl⟩ := List.eq_nil_or_concat front |>.resolve_left nonempty
    have lastShown := shown last (by simp)
    rw [blank last (by simp)] at lastShown
    cases lastShown
  refine ⟨?_, kept⟩
  rw [trimStart, List.dropWhile_append]
  exact if_neg fun gone => kept (List.isEmpty_iff.mp gone)

/-! ## Trimming both ends -/

theorem isBlank_of_isAlpha {char : Char} (letter : char.isAlpha = true) :
    isBlank char = false := by
  have bounds : 65 ≤ char.toNat ∧ char.toNat ≤ 122 := by
    rcases Bool.or_eq_true_iff.mp letter with upper | lower
    · have within : 65 ≤ char.val ∧ char.val ≤ 90 := of_decide_eq_true upper
      exact ⟨UInt32.le_iff_toNat_le.mp within.1,
        Nat.le_trans (UInt32.le_iff_toNat_le.mp within.2) (by decide)⟩
    · obtain ⟨above, below⟩ := Bool.and_eq_true_iff.mp lower
      have low : 97 ≤ char.val := of_decide_eq_true above
      have high : char.val ≤ 122 := of_decide_eq_true below
      exact ⟨Nat.le_trans (by decide) (UInt32.le_iff_toNat_le.mp low),
        UInt32.le_iff_toNat_le.mp high⟩
  simp only [isBlank, Bool.or_eq_false_iff, Bool.and_eq_false_iff, decide_eq_false_iff_not,
    beq_eq_false_iff_ne]
  omega

theorem isBlank_of_isDigit {char : Char} (digit : char.isDigit = true) : isBlank char = false := by
  simp only [Char.isDigit, Bool.and_eq_true, decide_eq_true_eq, UInt32.le_iff_toNat_le] at digit
  have bounds : 48 ≤ char.toNat ∧ char.toNat ≤ 57 := digit
  simp only [isBlank, Bool.or_eq_false_iff, Bool.and_eq_false_iff, decide_eq_false_iff_not,
    beq_eq_false_iff_ne]
  omega

/-- No blank stands at either end. -/
structure IsTrimmed (chars : List Char) : Prop where
  head : ∀ char ∈ chars.head?, isBlank char = false
  last : ∀ char ∈ chars.getLast?, isBlank char = false

/-- A blank in a trimmed text is not its first character. -/
theorem IsTrimmed.mem_tail {chars : List Char} {char : Char} (trimmed : IsTrimmed chars)
    (blank : isBlank char = true) (member : char ∈ chars) : char ∈ chars.tail := by
  cases chars with
  | nil => cases member
  | cons first tail =>
      have shown := trimmed.head first rfl
      rcases List.mem_cons.mp member with rfl | inTail
      · rw [blank] at shown
        cases shown
      · exact inTail

/-- A text is its trimming at the end with blanks behind it. -/
theorem exists_trimEnd (chars : List Char) :
    ∃ gap, chars = trimEnd chars ++ gap ∧ (∀ char ∈ gap, isBlank char = true) ∧
      ∀ char ∈ (trimEnd chars).getLast?, isBlank char = false := by
  refine ⟨(chars.reverse.takeWhile isBlank).reverse, ?_, ?_, ?_⟩
  · rw [trimEnd, ← List.reverse_append, List.takeWhile_append_dropWhile, List.reverse_reverse]
  · intro char member
    exact List.mem_takeWhile_imp (List.mem_reverse.mp member)
  · intro char last
    have shown := List.head?_dropWhile_not isBlank chars.reverse
    rw [trimEnd, List.getLast?_reverse, Option.mem_def] at last
    rw [last] at shown
    simpa using shown

theorem trimChars_blanks {front inner back : List Char}
    (frontBlank : ∀ char ∈ front, isBlank char = true)
    (backBlank : ∀ char ∈ back, isBlank char = true) (nonempty : inner ≠ [])
    (trimmed : IsTrimmed inner) : trimChars (front ++ (inner ++ back)) = inner := by
  have starts : ∀ char ∈ (inner ++ back).head?, isBlank char = false := by
    rw [List.head?_append_of_ne_nil _ nonempty]
    exact trimmed.head
  have ends : ∀ char ∈ inner.reverse.head?, isBlank char = false := by
    rw [List.head?_reverse]
    exact trimmed.last
  have fromEnd : trimStart (back.reverse ++ inner.reverse) = inner.reverse :=
    trimStart_blanks (fun char member => backBlank char (List.mem_reverse.mp member)) ends
  rw [trimStart] at fromEnd
  rw [trimChars, trimStart_blanks frontBlank starts, trimEnd, List.reverse_append, fromEnd,
    List.reverse_reverse]

theorem IsTrimmed.trimChars_eq {chars : List Char} (trimmed : IsTrimmed chars)
    (nonempty : chars ≠ []) : trimChars chars = chars := by
  have whole := @trimChars_blanks [] chars [] nofun nofun nonempty trimmed
  rwa [List.append_nil] at whole

theorem trimChars_of_noBlank {chars : List Char} (shown : ∀ char ∈ chars, isBlank char = false) :
    trimChars chars = chars := by
  by_cases empty : chars = []
  · rw [empty]
    rfl
  · have trimmed : IsTrimmed chars :=
      ⟨fun char head => shown char (List.mem_of_mem_head? head),
        fun char last => shown char (List.mem_of_getLast? last)⟩
    exact trimmed.trimChars_eq empty

/-- A text without a blank at its ends is trimmed already. -/
theorem trimChars_of_ends {first last : Char} {chars inner : List Char}
    (firstShown : isBlank first = false) (lastShown : isBlank last = false)
    (starts : chars.head? = some first) (ends : chars = inner ++ [last]) :
    trimChars chars = chars := by
  have trimmed : IsTrimmed chars :=
    ⟨by simpa [starts] using firstShown, by simpa [ends] using lastShown⟩
  exact trimmed.trimChars_eq (by simp [ends])

/-- A text is its trimming between blanks. -/
theorem exists_trimChars (chars : List Char) :
    ∃ front back, chars = front ++ (trimChars chars ++ back) ∧
      (∀ char ∈ front, isBlank char = true) ∧ (∀ char ∈ back, isBlank char = true) ∧
      IsTrimmed (trimChars chars) := by
  have start : chars = chars.takeWhile isBlank ++ trimStart chars :=
    List.takeWhile_append_dropWhile.symm
  obtain ⟨back, behind, backBlank, lastShown⟩ := exists_trimEnd (trimStart chars)
  refine ⟨chars.takeWhile isBlank, back, start.trans (congrArg _ behind),
    fun _ member => List.mem_takeWhile_imp member, backBlank, fun char head => ?_, lastShown⟩
  have shown := List.head?_dropWhile_not isBlank chars
  have isFirst : (trimStart chars).head? = some char := by
    rw [behind, List.head?_append]
    exact congrArg (Option.or · back.head?) head
  rw [show chars.dropWhile isBlank = trimStart chars from rfl, isFirst] at shown
  simpa using shown

theorem trimChars_trimChars (chars : List Char) :
    trimChars (trimChars chars) = trimChars chars := by
  obtain ⟨_, _, _, _, _, trimmed⟩ := exists_trimChars chars
  by_cases empty : trimChars chars = []
  · rw [empty]
    rfl
  · exact trimmed.trimChars_eq empty

theorem trimChars_isInfix (chars : List Char) : trimChars chars <:+: chars := by
  obtain ⟨front, back, parts, _⟩ := exists_trimChars chars
  refine ⟨front, back, ?_⟩
  rw [List.append_assoc]
  exact parts.symm

end NoteBase.Text
