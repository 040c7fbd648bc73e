/-!
# Stable sorts

A list is sorted stably if it is ordered and keeps, of any items that compare equal, their order.
For an order that is total there is exactly one such list, and merging gives it. A list that is
sorted by one order and then by another one is sorted by the later order first, and by the earlier
one where the later one does not decide.
-/

namespace NoteBase

variable {Item : Type}

/-- The items that compare equal to one, in order. -/
def tiesWith (order : Item → Item → Ordering) (item : Item) (items : List Item) : List Item :=
  items.filter fun other => order item other == .eq

/-- The items are sorted, and items that compare equal have kept their order. -/
structure IsStableSort (order : Item → Item → Ordering) (items sorted : List Item) : Prop where
  perm : sorted.Perm items
  ordered : sorted.Pairwise fun left right => (order left right).isLE
  stable : ∀ item, tiesWith order item sorted = tiesWith order item items

section TotalOrder

variable {order : Item → Item → Ordering} [Std.TransCmp order]

theorem isLE_total (left right : Item) :
    (order left right).isLE ∨ (order right left).isLE := by
  have swapped : order right left = (order left right).swap := Std.OrientedCmp.eq_swap
  rw [swapped]
  cases order left right <;> simp

/-! ## There is one stable sort at most -/

theorem eq_of_ordered :
    ∀ {left right : List Item}, left.Perm right →
      (left.Pairwise fun one other => (order one other).isLE) →
      (right.Pairwise fun one other => (order one other).isLE) →
      (∀ item, tiesWith order item left = tiesWith order item right) → left = right
  | [], right, perm, _, _, _ => perm.nil_eq
  | first :: rest, [], perm, _, _, _ => by
      cases perm.symm.nil_eq
  | first :: rest, other :: others, perm, leftOrdered, rightOrdered, same => by
      have self : ∀ item, order item item = .eq := fun _ => Std.ReflCmp.compare_self
      have least : ∀ {head item : Item} {tail : List Item},
          ((head :: tail).Pairwise fun one other => (order one other).isLE) →
            item ∈ head :: tail → (order head item).isLE := by
        intro head item tail ordered member
        rcases List.mem_cons.mp member with rfl | inTail
        · rw [self]
          rfl
        · exact List.rel_of_pairwise_cons ordered inTail
      have firstLe := least leftOrdered (perm.mem_iff.mpr List.mem_cons_self)
      have otherLe := least rightOrdered (perm.mem_iff.mp List.mem_cons_self)
      have tied : order first other = .eq := Std.OrientedCmp.isLE_antisymm firstLe otherLe
      obtain rfl : first = other := by
        have heads := same first
        simp only [tiesWith, List.filter_cons, self, tied, beq_self_eq_true, if_true] at heads
        exact (List.cons.inj heads).1
      have restSame : ∀ item, tiesWith order item rest = tiesWith order item others := by
        intro item
        have whole := same item
        simp only [tiesWith, List.filter_cons] at whole
        split at whole
        · exact (List.cons.inj whole).2
        · exact whole
      rw [eq_of_ordered perm.cons_inv leftOrdered.tail rightOrdered.tail restSame]

theorem perm_of_tiesWith {left right : List Item}
    (same : ∀ item, tiesWith order item left = tiesWith order item right) : left.Perm right := by
  classical
  rw [List.perm_iff_count]
  intro item
  have self : (order item item == .eq) = true := by
    have reflexive : order item item = .eq := Std.ReflCmp.compare_self
    rw [reflexive]
    rfl
  have counted : ∀ items, List.count item (tiesWith order item items) = List.count item items :=
    fun items => List.count_filter self
  rw [← counted left, ← counted right, same item]

/-! ## Merging gives a stable sort -/

theorem ordered_tiesWith (item : Item) (items : List Item) :
    (tiesWith order item items).Pairwise fun left right => (order left right).isLE := by
  refine List.pairwise_of_forall_mem_list ?_
  intro left inLeft right inRight
  have leftTied : order item left = .eq := by simpa using (List.mem_filter.mp inLeft).2
  have rightTied : order item right = .eq := by simpa using (List.mem_filter.mp inRight).2
  rw [← Std.TransCmp.congr_left leftTied, rightTied]
  rfl

theorem isStableSort_mergeSort (items : List Item) :
    IsStableSort order items (items.mergeSort fun left right => (order left right).isLE) := by
  have trans : ∀ left middle right : Item, (order left middle).isLE = true →
      (order middle right).isLE = true → (order left right).isLE = true :=
    fun _ _ _ => Std.TransCmp.isLE_trans
  have total : ∀ left right : Item, ((order left right).isLE || (order right left).isLE) = true :=
    fun left right => by simpa using isLE_total left right
  have perm := List.mergeSort_perm items fun left right => (order left right).isLE
  refine ⟨perm, List.pairwise_mergeSort trans total items, fun item => ?_⟩
  have kept : (tiesWith order item items).Sublist
      (items.mergeSort fun left right => (order left right).isLE) :=
    List.sublist_mergeSort trans total (ordered_tiesWith item items) List.filter_sublist
  have within := kept.filter fun other => order item other == .eq
  simp only [tiesWith, List.filter_filter, Bool.and_self] at within
  exact (within.eq_of_length (perm.filter _).length_eq.symm).symm

theorem eq_mergeSort_iff (items sorted : List Item) :
    sorted = (items.mergeSort fun left right => (order left right).isLE) ↔
      IsStableSort order items sorted := by
  have merged : IsStableSort order items (items.mergeSort _) := isStableSort_mergeSort items
  constructor
  · rintro rfl
    exact merged
  · intro isSort
    refine eq_of_ordered (isSort.perm.trans merged.perm.symm) isSort.ordered merged.ordered ?_
    intro item
    rw [isSort.stable, merged.stable]

/-- Items that are all told apart have one order only. -/
theorem isStableSort_of_increasing {items sorted : List Item} (perm : sorted.Perm items)
    (increasing : sorted.Pairwise fun left right => order left right = .lt) :
    IsStableSort order items sorted := by
  refine ⟨perm, increasing.imp fun less => by rw [less]; rfl, fun item => ?_⟩
  have tied : (tiesWith order item sorted).Perm (tiesWith order item items) := perm.filter _
  have apart : (tiesWith order item sorted).Pairwise fun left right => order left right = .lt :=
    increasing.sublist List.filter_sublist
  have equal : ∀ other ∈ tiesWith order item sorted, order item other = .eq :=
    fun other member => by simpa using (List.mem_filter.mp member).2
  generalize tiesWith order item sorted = ties at tied apart equal
  cases ties with
  | nil => exact tied.nil_eq
  | cons first rest =>
      cases rest with
      | nil => exact (List.perm_singleton.mp tied.symm).symm
      | cons second others =>
          have less := List.rel_of_pairwise_cons apart (List.mem_cons_self (a := second))
          have firstTied := equal first (by simp)
          rw [← Std.TransCmp.congr_left firstTied, equal second (by simp)] at less
          cases less

end TotalOrder

/-! ## One sort after another -/

section Successive

variable {major minor : Item → Item → Ordering}

theorem tiesWith_compareLex (item : Item) (items : List Item) :
    tiesWith (compareLex major minor) item items =
      tiesWith minor item (tiesWith major item items) := by
  rw [tiesWith, tiesWith, tiesWith, List.filter_filter]
  refine List.filter_congr fun other _ => ?_
  rw [compareLex]
  cases major item other <;> cases minor item other <;> decide

theorem tiesWith_comm (item : Item) (items : List Item) :
    tiesWith minor item (tiesWith major item items) =
      tiesWith major item (tiesWith minor item items) := by
  rw [tiesWith, tiesWith, tiesWith, tiesWith, List.filter_filter, List.filter_filter]
  exact List.filter_congr fun other _ => Bool.and_comm _ _

/-- Of two items that the later order does not tell apart, the one in front stood in front before,
so the earlier order has put it there. -/
theorem IsStableSort.ordered_of_tied [Std.ReflCmp major] {middle sorted : List Item}
    (sort : IsStableSort major middle sorted)
    (ordered : middle.Pairwise fun left right => (minor left right).isLE) {left right : Item}
    (placed : [left, right].Sublist sorted) (tied : major left right = .eq) :
    (minor left right).isLE := by
  have self : major left left = .eq := Std.ReflCmp.compare_self
  have bothTied : tiesWith major left [left, right] = [left, right] := by
    simp [tiesWith, self, tied]
  have kept : [left, right].Sublist (tiesWith major left middle) := by
    rw [← sort.stable left, ← bothTied]
    exact placed.filter _
  exact List.pairwise_iff_forall_sublist.mp ordered (kept.trans List.filter_sublist)

/-- A sort by the minor order and then by the major one is a sort by both. -/
theorem IsStableSort.lex [Std.ReflCmp major] {items middle sorted : List Item}
    (first : IsStableSort minor items middle) (second : IsStableSort major middle sorted) :
    IsStableSort (compareLex major minor) items sorted where
  perm := second.perm.trans first.perm
  ordered := by
    rw [List.pairwise_iff_forall_sublist]
    intro left right placed
    have inOrder := List.pairwise_iff_forall_sublist.mp second.ordered placed
    rw [compareLex]
    cases decided : major left right with
    | lt => rfl
    | eq => exact second.ordered_of_tied first.ordered placed decided
    | gt =>
        rw [decided] at inOrder
        cases inOrder
  stable item := by
    rw [tiesWith_compareLex, second.stable, tiesWith_comm, first.stable, tiesWith_comm,
      tiesWith_compareLex]

theorem isStableSort_self {items : List Item}
    (ordered : items.Pairwise fun left right => (minor left right).isLE) :
    IsStableSort minor items items where
  perm := .refl items
  ordered := ordered
  stable _ := rfl

end Successive

end NoteBase
