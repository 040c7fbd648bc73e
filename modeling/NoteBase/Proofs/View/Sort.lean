import NoteBase.Proofs.Number.Order
import NoteBase.Proofs.Order.StableSort
import NoteBase.Proofs.Text.Collation
import NoteBase.View.Sort

/-!
# Sorting is stable and total

What a rule sorts by is totally ordered, whatever is mixed: numbers with any bit pattern, texts and
absent values. A list of rules orders lexicographically, so it is total as well, and sorting gives
the one stable sort. Sorting by one rule after another, the first rule last, gives it as well.
-/

namespace NoteBase

/-! ## Directions -/

instance SortDirection.transCmp_apply {Item : Type} {order : Item → Item → Ordering}
    [Std.TransCmp order] (direction : SortDirection) :
    Std.TransCmp fun left right => direction.apply (order left right) := by
  cases direction with
  | ascending =>
      exact inferInstanceAs (Std.TransCmp order)
  | descending =>
      have turned : (fun left right => SortDirection.descending.apply (order left right)) =
          fun left right => order right left := by
        funext left right
        exact Std.OrientedCmp.eq_swap.symm
      rw [turned]
      infer_instance

/-! ## Keys -/

instance Number.transCmp_compareBits : Std.TransCmp Number.compareBits :=
  inferInstanceAs (Std.TransCmp (compareOn Number.rankOfBits))

namespace SortKey

/-- The class of a key: numbers, other values, and null or missing values. -/
def rank : SortKey → Nat
  | .number _ => 0
  | .shown _ => 1
  | .absent => 2

theorem compare_swap (left right : SortKey) : left.compare right = (right.compare left).swap := by
  cases left <;> cases right
  case number.number left right =>
    exact Number.transCmp_compareBits.eq_swap
  case shown.shown left right =>
    exact Text.transCmp_collate.eq_swap
  all_goals rfl

theorem compare_of_rank_lt {left right : SortKey} (less : left.rank < right.rank) :
    left.compare right = .lt := by
  cases left <;> cases right <;> first | rfl | exact absurd less (by simp [rank])

theorem rank_le_of_isLE {left right : SortKey} (le : (left.compare right).isLE) :
    left.rank ≤ right.rank := by
  apply Nat.le_of_not_lt
  intro above
  rw [compare_swap, compare_of_rank_lt above] at le
  cases le

theorem compare_trans {left middle right : SortKey} (first : (left.compare middle).isLE)
    (second : (middle.compare right).isLE) : (left.compare right).isLE := by
  have firstRank := rank_le_of_isLE first
  have secondRank := rank_le_of_isLE second
  by_cases less : left.rank < right.rank
  · rw [compare_of_rank_lt less]
    rfl
  · have same : left.rank = middle.rank ∧ middle.rank = right.rank := by omega
    cases left <;> cases middle <;> cases right
    case number.number.number left middle right =>
      exact Number.transCmp_compareBits.isLE_trans first second
    case shown.shown.shown left middle right =>
      exact Text.transCmp_collate.isLE_trans first second
    all_goals first | rfl | simp [rank] at same

instance : Std.TransCmp SortKey.compare where
  eq_swap := compare_swap _ _
  isLE_trans := compare_trans

/-- In a class, lesser numbers come first. -/
theorem compare_ofValue_number {left right : Float} (less : left < right) :
    (ofValue (.number left)).compare (ofValue (.number right)) = .lt :=
  Number.compareBits_of_lt less

theorem ofValue_of_rank {value : Value} (shown : (ofValue value).rank = 1) :
    ofValue value = .shown value.display := by
  cases value <;> first | rfl | cases shown

/-- In a class, values that are no numbers are in the order of their texts. -/
theorem compare_ofValue_shown {left right : Value} (leftShown : (ofValue left).rank = 1)
    (rightShown : (ofValue right).rank = 1) :
    (ofValue left).compare (ofValue right) = Text.collate left.display right.display := by
  rw [ofValue_of_rank leftShown, ofValue_of_rank rightShown]
  rfl

end SortKey

/-! ## Rules -/

section Rules

variable {Item : Type} (key : SortRule → Item → SortKey)

/-- The comparison by the first rule that tells two items apart. -/
def firstDecided (rules : List SortRule) (left right : Item) : Ordering :=
  ((rules.map fun rule => rule.compareKeys (key rule left) (key rule right)).find?
    (· ≠ .eq)).getD .eq

theorem compareByKeys_eq_firstDecided (rules : List SortRule) (left right : Item) :
    compareByKeys key rules left right = firstDecided key rules left right := by
  induction rules with
  | nil =>
      rfl
  | cons rule rest inductionHypothesis =>
      rw [compareByKeys, inductionHypothesis, firstDecided, firstDecided, List.map_cons]
      cases decided : rule.compareKeys (key rule left) (key rule right) <;> simp [Ordering.then]

instance transCmp_compareByKeys (rules : List SortRule) :
    Std.TransCmp (compareByKeys key rules) := by
  induction rules with
  | nil =>
      exact
        { eq_swap := rfl
          isLE_trans := fun _ _ => rfl }
  | cons rule rest inductionHypothesis =>
      have directed : Std.TransCmp fun left right =>
          rule.direction.apply (SortKey.compare left right) := inferInstance
      have byRule : Std.TransCmp fun left right =>
          rule.compareKeys (key rule left) (key rule right) :=
        { eq_swap := directed.eq_swap
          isLE_trans := directed.isLE_trans }
      exact inferInstanceAs (Std.TransCmp (compareLex _ (compareByKeys key rest)))

theorem compareByKeys_of_rank_lt (rule : SortRule) {left right : Item}
    (less : (key rule left).rank < (key rule right).rank) :
    compareByKeys key [rule] left right = rule.direction.apply .lt := by
  rw [compareByKeys, SortRule.compareKeys, SortKey.compare_of_rank_lt less]
  cases rule.direction <;> rfl

/-- A way of sorting is by the rules: they give a total preorder, in which the first rule that tells
two items apart decides, and the result is the one that is ordered and stable. -/
structure SortsBy (rules : List SortRule) (sort : List Item → List Item) : Prop where
  total : ∀ left right, (compareByKeys key rules left right).isLE ∨
    (compareByKeys key rules right left).isLE
  trans : ∀ left middle right, (compareByKeys key rules left middle).isLE →
    (compareByKeys key rules middle right).isLE → (compareByKeys key rules left right).isLE
  swap : ∀ left right,
    compareByKeys key rules left right = (compareByKeys key rules right left).swap
  lexicographic : ∀ left right,
    compareByKeys key rules left right = firstDecided key rules left right
  unique : ∀ items sorted,
    sorted = sort items ↔ IsStableSort (compareByKeys key rules) items sorted

theorem sortsBy_sortByKeys (rules : List SortRule) :
    SortsBy key rules (sortByKeys key rules) where
  total := isLE_total
  trans _ _ _ := Std.TransCmp.isLE_trans
  swap _ _ := Std.OrientedCmp.eq_swap
  lexicographic := compareByKeys_eq_firstDecided key rules
  unique := eq_mergeSort_iff

/-! ### Rule by rule -/

theorem isStableSort_sortByKeys (rules : List SortRule) (items : List Item) :
    IsStableSort (compareByKeys key rules) items (sortByKeys key rules items) :=
  isStableSort_mergeSort items

theorem compareByKeys_cons (rule : SortRule) (rest : List SortRule) :
    compareByKeys key (rule :: rest) =
      compareLex (compareByKeys key [rule]) (compareByKeys key rest) := by
  funext left right
  rw [compareLex, compareByKeys, compareByKeys, compareByKeys, Ordering.then_eq]

theorem sortByKeys_nil (items : List Item) : sortByKeys key [] items = items := by
  have unsorted : IsStableSort (compareByKeys key []) items items :=
    isStableSort_self (List.pairwise_of_forall fun _ _ => rfl)
  exact ((eq_mergeSort_iff items items).mpr unsorted).symm

/-- The first rule sorts what the other rules have sorted. -/
theorem sortByKeys_cons (rule : SortRule) (rest : List SortRule) (items : List Item) :
    sortByKeys key (rule :: rest) items = sortByKeys key [rule] (sortByKeys key rest items) := by
  have byRest := isStableSort_sortByKeys key rest items
  have byRule := isStableSort_sortByKeys key [rule] (sortByKeys key rest items)
  have byBoth := byRest.lex byRule
  rw [← compareByKeys_cons] at byBoth
  exact ((eq_mergeSort_iff _ _).mpr byBoth).symm

theorem sortByKeys_eq_foldr (rules : List SortRule) (items : List Item) :
    sortByKeys key rules items =
      rules.foldr (fun rule sorted => sortByKeys key [rule] sorted) items := by
  induction rules with
  | nil =>
      exact sortByKeys_nil key items
  | cons rule rest inductionHypothesis =>
      rw [sortByKeys_cons, inductionHypothesis, List.foldr_cons]

end Rules

/-! ## Records -/

/-- The class of a value that may be missing: numbers, other values, and null or missing values. -/
def lookupRank : Option Value → Nat
  | some (.number _) => 0
  | some .null => 2
  | some _ => 1
  | none => 2

theorem rank_key (rule : SortRule) (record : Record) :
    (rule.key record).rank = lookupRank (record.lookup rule.property) := by
  unfold SortRule.key
  cases record.lookup rule.property with
  | none =>
      rfl
  | some value =>
      cases value <;> rfl

theorem compareByRules_singleton (rule : SortRule) {left right : Record}
    {leftValue rightValue : Value}
    (leftFound : left.lookup rule.property = some leftValue)
    (rightFound : right.lookup rule.property = some rightValue) :
    compareByRules [rule] left right = rule.direction.apply
      ((SortKey.ofValue leftValue).compare (SortKey.ofValue rightValue)) := by
  have leftKey : rule.key left = SortKey.ofValue leftValue := by rw [SortRule.key, leftFound]
  have rightKey : rule.key right = SortKey.ofValue rightValue := by rw [SortRule.key, rightFound]
  rw [compareByRules, compareByKeys, compareByKeys, SortRule.compareKeys, leftKey, rightKey]
  exact Ordering.then_eq

/-- Inside the classes a rule compares numbers by their order, and other values by their texts. -/
theorem compareByRules_of_same_class (rule : SortRule) {left right : Record} :
    (∀ leftNumber rightNumber : Float,
      left.lookup rule.property = some (.number leftNumber) →
      right.lookup rule.property = some (.number rightNumber) → leftNumber < rightNumber →
        compareByRules [rule] left right = rule.direction.apply .lt) ∧
    ∀ leftValue rightValue : Value,
      left.lookup rule.property = some leftValue → right.lookup rule.property = some rightValue →
      lookupRank (some leftValue) = 1 → lookupRank (some rightValue) = 1 →
        compareByRules [rule] left right =
          rule.direction.apply (Text.collate leftValue.display rightValue.display) := by
  constructor
  · intro leftNumber rightNumber leftFound rightFound less
    rw [compareByRules_singleton rule leftFound rightFound, SortKey.compare_ofValue_number less]
  · intro leftValue rightValue leftFound rightFound leftClass rightClass
    have shown : ∀ value : Value, lookupRank (some value) = 1 →
        (SortKey.ofValue value).rank = 1 := by
      intro value rank
      cases value <;> first | rfl | cases rank
    rw [compareByRules_singleton rule leftFound rightFound,
      SortKey.compare_ofValue_shown (shown _ leftClass) (shown _ rightClass)]

/-- Records are sorted by the rules whatever values they have, and so are items that are sorted by
numbers with any bit pattern. A single rule puts numbers first and null or missing values last, or
the other way around. -/
theorem sortRecords_sortsBy :
    (∀ rules : List SortRule, SortsBy SortRule.key rules (sortRecords rules)) ∧
    (∀ (rule : SortRule) (left right : Record),
      lookupRank (left.lookup rule.property) < lookupRank (right.lookup rule.property) →
        compareByRules [rule] left right = rule.direction.apply .lt) ∧
    ∀ {Item : Type} (key : SortRule → Item → SortKey),
      (∀ rules : List SortRule, SortsBy key rules (sortByKeys key rules)) ∧
      ∀ (rule : SortRule) (left right : Item), (key rule left).rank < (key rule right).rank →
        compareByKeys key [rule] left right = rule.direction.apply .lt := by
  refine ⟨sortsBy_sortByKeys SortRule.key, ?_, fun key => ⟨sortsBy_sortByKeys key, ?_⟩⟩
  · intro rule left right less
    rw [← rank_key, ← rank_key] at less
    exact compareByKeys_of_rank_lt SortRule.key rule less
  · intro rule left right less
    exact compareByKeys_of_rank_lt key rule less

/-- Records that the rules tell apart are sorted as soon as they increase. -/
theorem sortRecords_of_increasing {rules : List SortRule} {records sorted : List Record}
    (perm : sorted.Perm records)
    (increasing : sorted.Pairwise fun left right =>
      compareByKeys SortRule.key rules left right = .lt) :
    sortRecords rules records = sorted :=
  ((eq_mergeSort_iff records sorted).mpr (isStableSort_of_increasing perm increasing)).symm

/-- A missing value, two texts and two numbers, all of them falling. -/
def mixedRecords : List Record :=
  [.ofList [("w", .text "none")], .ofList [("v", .text "b")], .ofList [("v", .text "a")],
    .ofList [("v", .number (Number.ofNat 10))], .ofList [("v", .number (Number.ofNat 9))]]

/-- By rising values the numbers come first and the missing value last, and nine comes before ten.
By falling classes it is the other way around, and a negative `NaN` is a number as well. -/
theorem sortRecords_sortsBy_mixed :
    sortRecords [⟨"v", .ascending⟩] mixedRecords = mixedRecords.reverse ∧
      compareByRules [⟨"v", .descending⟩] (OrderedMap.ofList [("v", .number 4)])
        (OrderedMap.ofList [("v", .text "a")]) = .gt ∧
      compareByRules [⟨"v", .descending⟩] (OrderedMap.ofList [("v", .text "a")])
        (OrderedMap.ofList []) = .gt ∧
      compareByKeys (fun _ key => key) [⟨"v", .ascending⟩] (.number 0xFFF8000000000000)
        (.shown "a") = .lt := by
  have increasing : mixedRecords.reverse.Pairwise fun left right =>
      compareByKeys SortRule.key [⟨"v", .ascending⟩] left right = .lt := by decide +kernel
  have sorted : IsStableSort (compareByKeys SortRule.key [⟨"v", .ascending⟩]) mixedRecords
      mixedRecords.reverse :=
    isStableSort_of_increasing (List.reverse_perm _) increasing
  exact ⟨(((sortRecords_sortsBy.1 [⟨"v", .ascending⟩]).unique _ _).mpr sorted).symm,
    sortRecords_sortsBy.2.1 _ _ _ (by decide +kernel),
    sortRecords_sortsBy.2.1 _ _ _ (by decide +kernel),
    (sortRecords_sortsBy.2.2 _).2 _ _ _ (by decide)⟩

/-- Records that are sorted by the last rule alone, then by the one before it alone, and so on up to
the first rule, are sorted by all rules: what comes out is the one stable sort by them. The same
holds of items that are sorted by numbers with any bit pattern. -/
theorem sortRecords_ruleByRule :
    (∀ (rules : List SortRule) (records : List Record),
      sortRecords rules records =
          rules.foldr (fun rule sorted => sortRecords [rule] sorted) records ∧
        IsStableSort (compareByRules rules) records (sortRecords rules records)) ∧
    ∀ {Item : Type} (key : SortRule → Item → SortKey) (rules : List SortRule) (items : List Item),
      sortByKeys key rules items =
          rules.foldr (fun rule sorted => sortByKeys key [rule] sorted) items ∧
        IsStableSort (compareByKeys key rules) items (sortByKeys key rules items) := by
  refine ⟨fun rules records => ⟨?_, ?_⟩, fun key rules items => ⟨?_, ?_⟩⟩
  · exact sortByKeys_eq_foldr SortRule.key rules records
  · exact isStableSort_sortByKeys SortRule.key rules records
  · exact sortByKeys_eq_foldr key rules items
  · exact isStableSort_sortByKeys key rules items

end NoteBase
