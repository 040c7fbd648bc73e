import Mathlib.Algebra.Group.Nat.Defs
import NoteBase.Text.Collation

/-!
# The order of UTF-8 bytes

Texts are in the same order by their bytes in UTF-8 as by their code points. The first byte of a
character grows with the number of bytes behind it and then with the upper part of the code point,
and each byte behind it holds one digit of the rest to the base 64.
-/

namespace NoteBase.Text

/-- Compares two texts by their bytes in UTF-8. -/
def compareBytes (left right : String) : Ordering :=
  List.compareLex (compareOn UInt8.toNat) left.toUTF8.data.toList right.toUTF8.data.toList

theorem toList_toUTF8 (text : String) :
    text.toUTF8.data.toList = text.toList.flatMap String.utf8EncodeChar := by
  rw [String.toUTF8_eq_toByteArray, ← String.utf8Encode_toList, List.utf8Encode,
    List.data_toByteArray]

/-! ## The bytes of a character -/

/-- The first byte of a character. -/
def leadByte (code : Nat) : Nat :=
  if code ≤ 0x7f then code
  else if code ≤ 0x7ff then code / 0x40 + 0xc0
  else if code ≤ 0xffff then code / 0x1000 + 0xe0
  else code / 0x40000 + 0xf0

/-- How many bytes stand behind the first one. -/
def tailCount (code : Nat) : Nat :=
  if code ≤ 0x7f then 0
  else if code ≤ 0x7ff then 1
  else if code ≤ 0xffff then 2
  else 3

/-- The last digits of a number to the base 64, each in a byte of its own. -/
def tailBytes : Nat → Nat → List UInt8
  | 0, _ => []
  | count + 1, code => UInt8.ofNat (code / 64 ^ count % 64 + 0x80) :: tailBytes count code

theorem toNat_lt (char : Char) : char.toNat < 0x110000 := by
  have valid := char.valid
  simp only [UInt32.isValidChar, Nat.isValidChar] at valid
  unfold Char.toNat
  omega

theorem utf8EncodeChar_eq (char : Char) :
    String.utf8EncodeChar char =
      UInt8.ofNat (leadByte char.toNat) :: tailBytes (tailCount char.toNat) char.toNat := by
  have bound := toNat_lt char
  unfold String.utf8EncodeChar leadByte tailCount
  unfold Char.toNat at *
  generalize char.val.toNat = code at bound ⊢
  dsimp only
  repeat' split
  · rfl
  all_goals
    -- what stands in the first byte is too small to be cut
    rw [Nat.mod_eq_of_lt (by omega)]
    simp [tailBytes]

theorem leadByte_lt {code : Nat} (bound : code < 0x110000) : leadByte code < 256 := by
  unfold leadByte
  repeat' split
  all_goals omega

/-- A smaller code point has a smaller first byte, or the same one and less in the other bytes. -/
theorem leadByte_or_tail {left right : Nat} (less : left < right) (bound : right < 0x110000) :
    leadByte left < leadByte right ∨
      leadByte left = leadByte right ∧ tailCount left = tailCount right ∧
        left % 64 ^ tailCount left < right % 64 ^ tailCount left := by
  unfold leadByte tailCount
  repeat' split
  all_goals omega

/-! ## Comparing bytes -/

theorem compareLex_byte_eq_lt {left right : Nat} {lefts rights : List UInt8} (leftByte : left < 256)
    (rightByte : right < 256)
    (less : left < right ∨
      left = right ∧ List.compareLex (compareOn UInt8.toNat) lefts rights = .lt) :
    List.compareLex (compareOn UInt8.toNat) (UInt8.ofNat left :: lefts)
      (UInt8.ofNat right :: rights) = .lt := by
  rw [List.compareLex_cons_cons, compareOn, UInt8.toNat_ofNat_of_lt' leftByte,
    UInt8.toNat_ofNat_of_lt' rightByte, Ordering.then_eq_lt, Nat.compare_eq_lt,
    Nat.compare_eq_eq]
  exact less

theorem compareLex_tailBytes {count left right : Nat} (lefts rights : List UInt8)
    (less : left % 64 ^ count < right % 64 ^ count) :
    List.compareLex (compareOn UInt8.toNat) (tailBytes count left ++ lefts)
      (tailBytes count right ++ rights) = .lt := by
  induction count with
  | zero =>
      rw [Nat.pow_zero, Nat.mod_one, Nat.mod_one] at less
      exact absurd less (Nat.lt_irrefl 0)
  | succ count inductionHypothesis =>
      rw [Nat.mod_pow_succ, Nat.mod_pow_succ] at less
      have small : right % 64 ^ count < 64 ^ count := Nat.mod_lt _ (Nat.pow_pos (by decide))
      rw [tailBytes, tailBytes, List.cons_append, List.cons_append]
      refine compareLex_byte_eq_lt (by omega) (by omega) ?_
      rcases Nat.lt_trichotomy (left / 64 ^ count % 64) (right / 64 ^ count % 64)
        with digit | digit | digit
      · exact .inl (Nat.add_lt_add_right digit _)
      · rw [digit] at less
        exact .inr ⟨by rw [digit], inductionHypothesis (Nat.lt_of_add_lt_add_right less)⟩
      · have above := Nat.mul_le_mul_left (64 ^ count) digit
        rw [Nat.succ_eq_add_one, Nat.mul_add, Nat.mul_one] at above
        omega

/-- Of two characters with different code points the smaller one has the smaller bytes, whatever
stands behind them. -/
theorem compareLex_utf8EncodeChar {left right : Char} (less : left.toNat < right.toNat)
    (lefts rights : List UInt8) :
    List.compareLex (compareOn UInt8.toNat) (String.utf8EncodeChar left ++ lefts)
      (String.utf8EncodeChar right ++ rights) = .lt := by
  have bound := toNat_lt right
  rw [utf8EncodeChar_eq, utf8EncodeChar_eq, List.cons_append, List.cons_append]
  refine compareLex_byte_eq_lt (leadByte_lt (Nat.lt_trans less bound)) (leadByte_lt bound) ?_
  rcases leadByte_or_tail less bound with lead | ⟨lead, sameCount, tail⟩
  · exact .inl lead
  · rw [← sameCount]
    exact .inr ⟨lead, compareLex_tailBytes lefts rights tail⟩

theorem compareLex_append_left {Item : Type} {order : Item → Item → Ordering} [Std.ReflCmp order]
    (front left right : List Item) :
    List.compareLex order (front ++ left) (front ++ right) = List.compareLex order left right := by
  induction front with
  | nil =>
      rfl
  | cons first front inductionHypothesis =>
      have self : order first first = .eq := Std.ReflCmp.compare_self
      rw [List.cons_append, List.cons_append, List.compareLex_cons_cons, self, inductionHypothesis]
      rfl

theorem compareLex_flatMap_utf8EncodeChar (left right : List Char) :
    List.compareLex (compareOn UInt8.toNat) (left.flatMap String.utf8EncodeChar)
        (right.flatMap String.utf8EncodeChar) =
      List.compareLex (compareOn Char.toNat) left right := by
  induction left generalizing right with
  | nil =>
      cases right with
      | nil =>
          rfl
      | cons other right =>
          rw [List.flatMap_cons, utf8EncodeChar_eq]
          rfl
  | cons first left inductionHypothesis =>
      cases right with
      | nil =>
          rw [List.flatMap_cons, utf8EncodeChar_eq]
          rfl
      | cons other right =>
          rw [List.flatMap_cons, List.flatMap_cons, List.compareLex_cons_cons]
          rcases Nat.lt_trichotomy first.toNat other.toNat with less | same | less
          · rw [compareLex_utf8EncodeChar less, compareOn, Nat.compare_eq_lt.mpr less]
            rfl
          · obtain rfl : first = other := Char.toNat_inj.mp same
            have self : compareOn Char.toNat first first = .eq := Std.ReflCmp.compare_self
            rw [compareLex_append_left, inductionHypothesis, self]
            rfl
          · have oriented : Std.OrientedCmp (List.compareLex (compareOn UInt8.toNat)) :=
              inferInstance
            rw [oriented.eq_swap, compareLex_utf8EncodeChar less, compareOn,
              Nat.compare_eq_gt.mpr less]
            rfl

/-- The bytes of texts are in the order of their code points. -/
theorem compareBytes_eq_compareCodes (left right : String) :
    compareBytes left right = compareCodes left right := by
  rw [compareBytes, toList_toUTF8, toList_toUTF8, compareLex_flatMap_utf8EncodeChar, compareCodes]

end NoteBase.Text
