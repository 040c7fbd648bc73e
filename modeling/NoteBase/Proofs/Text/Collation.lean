import NoteBase.Proofs.Text.Utf8

/-!
# Collation is a total order of texts

Texts are compared by weight, then by case, then by their bytes, which is by code point. Each of
these comparisons is total and transitive, so their combination is, and by the last one only
identical texts are equal. Nothing of this depends on what the table of characters says, so it is
shown for every table, also for one in which a character has several classes or none, or a
lower-case form of any length.
-/

namespace NoteBase.Text

/-! ## Comparing lists item by item -/

section Lexicographic

variable {Item : Type} {order : Item → Item → Ordering} [Std.ReflCmp order]

/-- Items that follow two lists of the same length decide nothing if they are the same. -/
theorem compareLex_append_right {left right : List Item} (back : List Item)
    (sameLength : left.length = right.length) :
    List.compareLex order (left ++ back) (right ++ back) = List.compareLex order left right := by
  induction left generalizing right with
  | nil =>
      obtain rfl : right = [] := List.length_eq_zero_iff.mp sameLength.symm
      exact Std.ReflCmp.compare_self
  | cons first left inductionHypothesis =>
      cases right with
      | nil =>
          cases sameLength
      | cons other right =>
          rw [List.cons_append, List.cons_append, List.compareLex_cons_cons,
            List.compareLex_cons_cons, inductionHypothesis (Nat.succ.inj sameLength)]

/-- A list stands before what it is the front of. -/
theorem compareLex_append_self (front : List Item) {back : List Item} (longer : back ≠ []) :
    List.compareLex order front (front ++ back) = .lt := by
  induction front with
  | nil =>
      obtain ⟨first, rest, rfl⟩ := List.exists_cons_of_ne_nil longer
      exact List.compareLex_nil_cons
  | cons first front inductionHypothesis =>
      have self : order first first = .eq := Std.ReflCmp.compare_self
      rw [List.cons_append, List.compareLex_cons_cons, self, inductionHypothesis]
      rfl

end Lexicographic

/-! ## Tables of characters -/

namespace CharTable

variable (table : CharTable)

/-- Collation of texts by any table. Texts that are the same by weight and by case are compared by
their bytes. -/
def collate (left right : String) : Ordering :=
  (List.compareLex table.compareWeight left.toList right.toList).then
    ((List.compareLex (compareOn table.isUppercase) left.toList right.toList).then
      (compareBytes left right))

theorem collate_eq_collateChars (left right : String) :
    table.collate left right = table.collateChars left.toList right.toList := by
  rw [collate, compareBytes_eq_compareCodes]
  rfl

theorem collate_standard : standard.collate = Text.collate := by
  funext left right
  rw [collate_eq_collateChars, Text.collate]

/-! ### Total order -/

instance transCmp_compareWeight : Std.TransCmp table.compareWeight := by
  unfold compareWeight
  infer_instance

instance transCmp_collateChars : Std.TransCmp table.collateChars := by
  unfold collateChars
  infer_instance

instance transCmp_collate : Std.TransCmp table.collate where
  eq_swap := by
    simp only [collate_eq_collateChars]
    exact Std.OrientedCmp.eq_swap
  isLE_trans := by
    simp only [collate_eq_collateChars]
    exact Std.TransCmp.isLE_trans

theorem lawfulEqCmp_codes : Std.LawfulEqCmp (compareOn Char.toNat) where
  compare_self := Std.ReflOrd.compare_self
  eq_of_compare same := Char.toNat_inj.mp (Std.LawfulEqOrd.eq_of_compare same)

theorem eq_of_collateChars {left right : List Char} (same : table.collateChars left right = .eq) :
    left = right := by
  have := lawfulEqCmp_codes
  obtain ⟨_, rest⟩ := Ordering.then_eq_eq.mp same
  obtain ⟨_, codes⟩ := Ordering.then_eq_eq.mp rest
  exact Std.LawfulEqCmp.eq_of_compare codes

instance lawfulEqCmp_collate : Std.LawfulEqCmp table.collate where
  compare_self := Std.ReflCmp.compare_self
  eq_of_compare {left right} same := by
    rw [collate_eq_collateChars] at same
    exact String.toList_injective (table.eq_of_collateChars same)

/-! ### Longer texts -/

theorem collate_append_self (front : String) {back : String} (longer : back ≠ "") :
    table.collate front (front ++ back) = .lt := by
  have someChar : back.toList ≠ [] := mt String.toList_eq_nil_iff.mp longer
  have byWeight :
      List.compareLex table.compareWeight front.toList (front ++ back).toList = .lt := by
    rw [String.toList_append]
    exact compareLex_append_self front.toList someChar
  exact Ordering.then_eq_lt.mpr (.inl byWeight)

theorem collate_append_right {left right : String} (back : String)
    (sameLength : left.length = right.length) :
    table.collate (left ++ back) (right ++ back) = table.collate left right := by
  have sameCount : left.toList.length = right.toList.length := by
    rw [String.length_toList, String.length_toList, sameLength]
  rw [collate_eq_collateChars, collate_eq_collateChars]
  unfold collateChars compareLex
  rw [String.toList_append, String.toList_append, compareLex_append_right _ sameCount,
    compareLex_append_right _ sameCount, compareLex_append_right _ sameCount]

end CharTable

/-! ## The order in which texts are shown -/

instance transCmp_collate : Std.TransCmp collate := by
  rw [← CharTable.collate_standard]
  infer_instance

instance lawfulEqCmp_collate : Std.LawfulEqCmp collate := by
  rw [← CharTable.collate_standard]
  infer_instance

/-- A strict total order of texts, in which a text stands before every longer one that starts with
it, and in which the same text behind two of the same length decides nothing. -/
structure IsCollation (order : String → String → Ordering) : Prop where
  swap : ∀ left right, order left right = (order right left).swap
  trans : ∀ left middle right, order left middle = .lt → order middle right = .lt →
    order left right = .lt
  eq_iff : ∀ left right, order left right = .eq ↔ left = right
  front : ∀ front back, back ≠ "" → order front (front ++ back) = .lt
  back : ∀ left right back, left.length = right.length →
    order (left ++ back) (right ++ back) = order left right

/-- Texts are collated in a strict total order, by the table in use and by every other one. -/
theorem collate_isCollation :
    IsCollation collate ∧ CharTable.standard.collate = collate ∧
      ∀ table : CharTable, IsCollation table.collate := by
  have anyTable : ∀ table : CharTable, IsCollation table.collate := fun table =>
    { swap := fun _ _ => Std.OrientedCmp.eq_swap
      trans := fun _ _ _ => Std.TransCmp.lt_trans
      eq_iff := fun _ _ => Std.LawfulEqCmp.compare_eq_iff_eq
      front := fun front _ => table.collate_append_self front
      back := fun _ _ back => table.collate_append_right back }
  exact ⟨CharTable.collate_standard ▸ anyTable .standard, CharTable.collate_standard, anyTable⟩

/-- The lower-case form of `İ` has two characters, of which the first one is `i`. -/
theorem collate_isCollation_dotted :
    (lowerChar 'İ').length = 2 ∧ collate "i" "İ" = .lt ∧ collate "İ" "İa" = .lt ∧
      collate "i" "İa" = .lt ∧ collate "iz" "İz" = .lt := by
  have law := collate_isCollation.1
  have byCase : collate "i" "İ" = .lt := by decide +kernel
  have longer : collate "İ" "İa" = .lt := law.front "İ" "a" (by decide)
  have sameBack : collate "iz" "İz" = collate "i" "İ" := law.back "i" "İ" "z" rfl
  exact ⟨by decide +kernel, byCase, longer, law.trans _ _ _ byCase longer, sameBack.trans byCase⟩

/-! ## The order of code points -/

theorem compareCodes_swap (left right : String) :
    (compareCodes left right).swap = compareCodes right left := by
  have oriented : Std.OrientedCmp (List.compareLex (compareOn Char.toNat)) := inferInstance
  exact oriented.eq_swap.symm

theorem compareCodes_eq_iff {left right : String} :
    compareCodes left right = .eq ↔ left = right := by
  have := CharTable.lawfulEqCmp_codes
  have lawful : Std.LawfulEqCmp (List.compareLex (compareOn Char.toNat)) := inferInstance
  exact lawful.compare_eq_iff_eq.trans String.toList_inj

end NoteBase.Text
