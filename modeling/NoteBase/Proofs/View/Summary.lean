import NoteBase.Proofs.Number.Nearest
import NoteBase.Proofs.OrderedMap
import NoteBase.Proofs.View.Group

/-!
# Summaries describe the rows shown

The summaries are computed on the groups before these become rows. Reading the groups back from the
rows gives them again, so each summary can be stated by the rows alone: its columns are those asked
for, and its cells aggregate the numbers of the records listed under its header.
-/

namespace NoteBase

open Calendar (Moment)

/-! ## Groups as they are shown -/

def ViewRow.headerKey? : ViewRow → Option String
  | .header key _ => some key
  | .entry _ => none

/-- The records in front of the next header. -/
def recordsInFront : List ViewRow → List Record
  | .entry record :: rest => record :: recordsInFront rest
  | _ => []

/-- The key of each header with the records that are listed under it. -/
def groupsOfRows : List ViewRow → List (String × List Record)
  | [] => []
  | .header key _ :: rest => (key, recordsInFront rest) :: groupsOfRows rest
  | .entry _ :: rest => groupsOfRows rest

theorem keys_groupsOfRows (rows : List ViewRow) :
    Entries.keys (groupsOfRows rows) = rows.filterMap ViewRow.headerKey? := by
  induction rows with
  | nil =>
      rfl
  | cons row rest inductionHypothesis =>
      cases row with
      | header key property =>
          exact congrArg (key :: ·) inductionHypothesis
      | entry record =>
          exact inductionHypothesis

theorem recordsInFront_append (records : List Record) {rest : List ViewRow}
    (stops : recordsInFront rest = []) :
    recordsInFront (records.map .entry ++ rest) = records := by
  induction records with
  | nil =>
      exact stops
  | cons record records inductionHypothesis =>
      exact congrArg (record :: ·) inductionHypothesis

theorem groupsOfRows_append (records : List Record) (rest : List ViewRow) :
    groupsOfRows (records.map .entry ++ rest) = groupsOfRows rest := by
  induction records with
  | nil =>
      rfl
  | cons record records inductionHypothesis =>
      exact inductionHypothesis

theorem recordsInFront_rowsOfGroups (property : String) (groups : List (String × List Record)) :
    recordsInFront (rowsOfGroups property groups) = [] := by
  cases groups with
  | nil =>
      rfl
  | cons group rest =>
      rfl

/-- The rows of groups show these groups. -/
theorem groupsOfRows_rowsOfGroups (property : String) (groups : List (String × List Record)) :
    groupsOfRows (rowsOfGroups property groups) = groups := by
  induction groups with
  | nil =>
      rfl
  | cons group rest inductionHypothesis =>
      obtain ⟨key, records⟩ := group
      have rows : rowsOfGroups property ((key, records) :: rest) =
          .header key property :: (records.map .entry ++ rowsOfGroups property rest) := rfl
      rw [rows, groupsOfRows, groupsOfRows_append, inductionHypothesis,
        recordsInFront_append records (recordsInFront_rowsOfGroups property rest)]

/-! ## Cells -/

/-- The number that a record has in a column; a value of another type is none. -/
def numberIn (column : String) (record : Record) : Option Float :=
  match record.lookup column with
  | some (.number number) => some number
  | _ => none

theorem columnNumbers_eq (column : String) (records : List Record) :
    columnNumbers column records = records.filterMap (numberIn column) := by
  refine List.filterMap_congr fun record _ => ?_
  unfold numberIn
  cases record.lookup column with
  | none =>
      rfl
  | some value =>
      cases value <;> rfl

/-- A cell holds the aggregate, by the aggregation of this name, of some numbers. It is empty
exactly if there is no such aggregation or no number. -/
structure IsAggregate (name : String) (numbers : List Float) (cell : Option Float) : Prop where
  aggregated : cell = (Aggregation.ofName? name).bind (·.apply numbers)
  empty_iff : cell = none ↔ Aggregation.ofName? name = none ∨ numbers = []

theorem Aggregation.apply_eq_none_iff (aggregation : Aggregation) (numbers : List Float) :
    aggregation.apply numbers = none ↔ numbers = [] := by
  unfold Aggregation.apply
  split
  · next empty =>
    exact ⟨fun _ => List.isEmpty_iff.mp empty, fun _ => rfl⟩
  · next nonempty =>
    exact ⟨nofun, fun empty => absurd (List.isEmpty_iff.mpr empty) nonempty⟩

theorem isAggregate_summarizeColumn (records : List Record) (column name : String) :
    IsAggregate name (records.filterMap (numberIn column))
      (summarizeColumn records column name) := by
  rw [summarizeColumn, columnNumbers_eq]
  refine ⟨rfl, ?_⟩
  cases Aggregation.ofName? name with
  | none =>
      simp
  | some aggregation =>
      rw [Option.bind_some, aggregation.apply_eq_none_iff]
      simp only [reduceCtorEq, false_or]

/-- Cells summarize records: they have the columns asked for in their order, and each one holds the
aggregate of the numbers that the records have there. -/
structure Summarizes (spec : OrderedMap String) (records : List Record)
    (cells : OrderedMap (Option Float)) : Prop where
  columns : cells.keys = spec.keys
  cell : ∀ column name, spec.get? column = some name → ∃ cell, cells.get? column = some cell ∧
    IsAggregate name (records.filterMap (numberIn column)) cell

theorem Summarizes.join_get? {spec : OrderedMap String} {records : List Record}
    {cells : OrderedMap (Option Float)} (summarizes : Summarizes spec records cells)
    (column name : String) (asked : spec.get? column = some name) :
    (cells.get? column).join =
      (Aggregation.ofName? name).bind (·.apply (records.filterMap (numberIn column))) := by
  obtain ⟨cell, found, aggregate⟩ := summarizes.cell column name asked
  rw [found, Option.join_some, aggregate.aggregated]

theorem summarizes_summarizeGroup (spec : OrderedMap String) (records : List Record) :
    Summarizes spec records (summarizeGroup spec records) where
  columns := by
    simp [OrderedMap.keys, Entries.keys, summarizeGroup, OrderedMap.mapItems, Function.comp_def]
  cell := by
    intro column name found
    refine ⟨summarizeColumn records column name, ?_, isAggregate_summarizeColumn _ _ _⟩
    rw [OrderedMap.get?_eq_some_iff] at found ⊢
    exact List.mem_map.mpr ⟨(column, name), found, rfl⟩

/-! ## Counts -/

/-- What a cell counts; an empty one counts nothing. -/
def countOfCell (cell : Option Float) : Int :=
  match cell with
  | none => 0
  | some number => Number.truncate number

theorem countOfCell_apply {numbers : List Float} (small : numbers.length < 2 ^ 53) :
    countOfCell (Aggregation.count.apply numbers) = numbers.length := by
  cases numbers with
  | nil =>
      rfl
  | cons number rest =>
      exact Number.truncate_ofNat small

/-- In a column that is counted a summary counts the records with a number there. -/
theorem Summarizes.countOfCell {spec : OrderedMap String} {records : List Record}
    {cells : OrderedMap (Option Float)} (summarizes : Summarizes spec records cells)
    {column name : String} (asked : spec.get? column = some name)
    (counts : Aggregation.ofName? name = some .count)
    (small : (records.filterMap (numberIn column)).length < 2 ^ 53) :
    countOfCell (cells.get? column).join = (records.filterMap (numberIn column)).length := by
  rw [summarizes.join_get? column name asked, counts, Option.bind_some, countOfCell_apply small]

theorem select_perm (now : Moment) (view : ViewSpec) (records : List Record) :
    (view.select now records).Perm (FilterSpec.filterRecords now view.filters records) := by
  unfold ViewSpec.select
  simp only
  split
  · exact List.Perm.refl _
  · exact List.mergeSort_perm _ _

/-- The numbers of a column are spread over the groups, and none is lost or doubled. -/
theorem sum_length_numbers {group : GroupSpec} {rows : List Record}
    {blocks : List (String × List Record)} (grouping : IsGrouping group rows blocks)
    (column : String) :
    (blocks.map fun block => (block.2.filterMap (numberIn column)).length).sum =
      (rows.filterMap (numberIn column)).length := by
  have spread := (isStableSort_of_isGrouping grouping).perm.filterMap (numberIn column)
  rw [← spread.length_eq, List.filterMap_flatMap, List.length_flatMap]

/-- Summaries of blocks count in a column what the blocks have there, all together. -/
theorem sum_countOfCell {spec : OrderedMap String} {column name : String}
    (asked : spec.get? column = some name) (counts : Aggregation.ofName? name = some .count)
    {blocks : List (String × List Record)} {summaries : List (String × OrderedMap (Option Float))}
    (described : List.Forall₂ (fun block summary => block.1 = summary.1 ∧
      Summarizes spec block.2 summary.2) blocks summaries)
    (small : (blocks.map fun block => (block.2.filterMap (numberIn column)).length).sum < 2 ^ 53) :
    (summaries.map fun summary => countOfCell (summary.2.get? column).join).sum =
      (blocks.map fun block => (block.2.filterMap (numberIn column)).length).sum := by
  induction described with
  | nil =>
      rfl
  | cons head rest inductionHypothesis =>
      simp only [List.map_cons, List.sum_cons] at small ⊢
      rw [inductionHypothesis (by omega), head.2.countOfCell asked counts (by omega)]
      exact (Nat.cast_add _ _).symm

/-! ## Views -/

theorem groupsOfRows_apply (now : Moment) {view : ViewSpec} {group : GroupSpec}
    (records : List Record) (grouped : view.groupBy = some group) :
    groupsOfRows (view.apply now records).rows =
      groupRecords group (view.select now records) := by
  have rowsEq : (view.apply now records).rows =
      rowsOfGroups group.property (groupRecords group (view.select now records)) := by
    simp only [ViewSpec.apply, ViewSpec.arrange, grouped]
  rw [rowsEq, groupsOfRows_rowsOfGroups]

/-- A grouped view with summaries has one summary for each header, in the order of the headers. It
has the columns asked for, and each cell aggregates the numbers that the records listed under the
header have in its column, in their order. The counts of a column over all groups add up to the
number of records that pass the filter and have a number there. -/
theorem apply_summaries (now : Moment) {view : ViewSpec} {group : GroupSpec}
    {spec : OrderedMap String} (records : List Record) (grouped : view.groupBy = some group)
    (summarized : view.summaries = some spec) :
    Entries.keys (view.apply now records).summaries =
        (view.apply now records).rows.filterMap ViewRow.headerKey? ∧
      List.Forall₂ (fun shown summary => shown.1 = summary.1 ∧ Summarizes spec shown.2 summary.2)
        (groupsOfRows (view.apply now records).rows) (view.apply now records).summaries ∧
      ∀ column name, spec.get? column = some name → Aggregation.ofName? name = some .count →
        ∀ counted, counted =
            ((FilterSpec.filterRecords now view.filters records).filterMap
              (numberIn column)).length →
          ((groupsOfRows (view.apply now records).rows).map fun shown =>
            (shown.2.filterMap (numberIn column)).length).sum = counted ∧
          (counted < 2 ^ 53 → ((view.apply now records).summaries.map fun summary =>
            countOfCell (summary.2.get? column).join).sum = counted) := by
  have shown := groupsOfRows_apply now records grouped
  have summariesEq : (view.apply now records).summaries =
      summarize spec (groupRecords group (view.select now records)) := by
    simp only [ViewSpec.apply, ViewSpec.arrange, grouped, summarized]
  have described : List.Forall₂
      (fun block summary => block.1 = summary.1 ∧ Summarizes spec block.2 summary.2)
      (groupsOfRows (view.apply now records).rows) (view.apply now records).summaries := by
    rw [shown, summariesEq, summarize, List.forall₂_map_right_iff]
    exact List.forall₂_same.mpr fun block _ => ⟨rfl, summarizes_summarizeGroup spec block.2⟩
  refine ⟨?_, described, ?_⟩
  · have keys : List.Forall₂ (· = ·) (Entries.keys (groupsOfRows (view.apply now records).rows))
        (Entries.keys (view.apply now records).summaries) :=
      List.forall₂_map_left_iff.mpr
        (List.forall₂_map_right_iff.mpr (described.imp fun _ _ both => both.1))
    rw [List.forall₂_eq_eq_eq] at keys
    rw [← keys, keys_groupsOfRows]
  · rintro column name asked counts _ rfl
    have spread : ((groupsOfRows (view.apply now records).rows).map fun block =>
        (block.2.filterMap (numberIn column)).length).sum =
          ((FilterSpec.filterRecords now view.filters records).filterMap
            (numberIn column)).length := by
      rw [shown, sum_length_numbers (isGrouping_groupRecords group _) column,
        ((select_perm now view records).filterMap (numberIn column)).length_eq]
    refine ⟨spread, fun small => ?_⟩
    rw [← spread] at small ⊢
    exact sum_countOfCell asked counts described small

/-- All kinds of aggregates, and a name that is none. -/
def shelfSummaries : OrderedMap String :=
  .ofList [("rating", "Count"), ("pages", "Sum"), ("price", "avg"), ("year", "MIN"),
    ("length", "max"), ("title", "median")]

def ratedView : ViewSpec :=
  { shelfView (some byShelf) with summaries := some shelfSummaries }

def shelvedEarly : Record :=
  .ofList [("shelf", .text "B"), ("rating", .number (.ofNat 4)), ("pages", .number (.ofNat 100)),
    ("price", .number (.ofNat 10)), ("year", .number (.ofNat 1998)),
    ("length", .number (.ofNat 40))]

def shelvedLate : Record :=
  .ofList [("shelf", .text "B"), ("pages", .number (.ofNat 150)),
    ("price", .number (.ofNat 20)), ("year", .number (.ofNat 2001)),
    ("length", .number (.ofNat 60))]

def ratedByText : Record :=
  .ofList [("rating", .text "7"), ("pages", .text "80")]

def unshelved : Record :=
  .ofList [("rating", .number (.ofNat 5))]

/-- Four records in two groups. One of them is rated by a text, and one has no rating. -/
def ratedRecords : List Record :=
  [shelvedEarly, ratedByText, shelvedLate, unshelved]

/-- The rating that is a text is not counted, so that two ratings are left in two groups. The pages
that are a text are not added, so that one group has none. -/
theorem apply_summaries_rated :
    ratedView.groupBy = some byShelf ∧ ratedView.summaries = some shelfSummaries ∧
      shelfSummaries.get? "rating" = some "Count" ∧ Aggregation.ofName? "Count" = some .count ∧
      ((ratedView.apply Moment.epoch ratedRecords).summaries.map fun summary =>
        countOfCell (summary.2.get? "rating").join).sum = 2 ∧
      ∃ others shelved,
        (ratedView.apply Moment.epoch ratedRecords).summaries =
          [("Ungrouped", others), ("B", shelved)] ∧
        (others.get? "pages").join = none ∧
        (shelved.get? "pages").join = some (.ofNat 250) ∧
        (shelved.get? "price").join = some (.ofNat 15) ∧
        (shelved.get? "year").join = some (.ofNat 1998) ∧
        (shelved.get? "length").join = some (.ofNat 60) ∧
        (shelved.get? "title").join = none := by
  have asked : shelfSummaries.get? "rating" = some "Count" := by decide
  have counts : Aggregation.ofName? "Count" = some .count := by decide +kernel
  have counted : 2 = ((FilterSpec.filterRecords Moment.epoch ratedView.filters
      ratedRecords).filterMap (numberIn "rating")).length := by decide +kernel
  obtain ⟨_, described, sums⟩ :=
    @apply_summaries Moment.epoch ratedView byShelf shelfSummaries ratedRecords rfl rfl
  refine ⟨rfl, rfl, asked, counts, (sums "rating" "Count" asked counts 2 counted).2 (by decide), ?_⟩
  have collected : (collectGroups "shelf" ratedRecords).entries =
      [("B", [shelvedEarly, shelvedLate]), ("Ungrouped", [ratedByText, unshelved])] := rfl
  have shown : groupsOfRows (ratedView.apply Moment.epoch ratedRecords).rows =
      [("Ungrouped", [ratedByText, unshelved]), ("B", [shelvedEarly, shelvedLate])] := by
    rw [groupsOfRows_apply Moment.epoch ratedRecords rfl]
    refine groupRecords_of_increasing byShelf ?_ (by decide +kernel)
    rw [show ratedView.select Moment.epoch ratedRecords = ratedRecords from rfl]
    exact collected ▸ List.Perm.swap _ _ _
  rw [shown] at described
  generalize (ratedView.apply Moment.epoch ratedRecords).summaries = summaries at described ⊢
  cases described with
  | @cons _ first _ _ firstDescribed rest =>
    cases rest with
    | @cons _ second _ _ secondDescribed rest =>
      cases rest
      obtain ⟨_, others⟩ := first
      obtain ⟨_, shelved⟩ := second
      obtain ⟨rfl, plain⟩ := firstDescribed
      obtain ⟨rfl, shelf⟩ := secondDescribed
      exact ⟨others, shelved, rfl, plain.join_get? "pages" "Sum" rfl,
        shelf.join_get? "pages" "Sum" rfl, shelf.join_get? "price" "avg" rfl,
        shelf.join_get? "year" "MIN" rfl, shelf.join_get? "length" "max" rfl,
        shelf.join_get? "title" "median" rfl⟩

end NoteBase
