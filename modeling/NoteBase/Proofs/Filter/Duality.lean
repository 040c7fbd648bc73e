import NoteBase.Filter

/-!
# Negated and rearranged filters

A filter is negated by De Morgan's laws: its nodes change sides, and only its leaves are put under
`not`. What a node answers depends only on which answers there are below it, so the filters below
any node may be put in another order or be repeated. A conjunction keeps the records that its
filters keep one after another.
-/

namespace NoteBase.FilterSpec

open Calendar (Moment)

/-! ## De Morgan's laws -/

mutual

/-- The negation of a filter, with `not` only at its leaves. -/
def dual : FilterSpec → FilterSpec
  | .expression text => .not [.expression text]
  | .all filters => .or (duals filters)
  | .and filters => .or (duals filters)
  | .or filters => .and (duals filters)
  | .not filters => .or filters
  | .equals expected => .not [.equals expected]

def duals : List FilterSpec → List FilterSpec
  | [] => []
  | filter :: rest => dual filter :: duals rest

end

section Record

variable (now : Moment) (record : Record)

theorem passes_not_singleton (filter : FilterSpec) :
    passes now record (.not [filter]) = !passes now record filter := by
  rw [passes, passesAny, passesAny, Bool.or_false]

mutual

theorem passes_dual : ∀ filter : FilterSpec,
    filter.dual.passes now record = !filter.passes now record
  | .expression text => passes_not_singleton now record (.expression text)
  | .all filters => by
      rw [dual, passes, passes, passesAny_duals filters]
  | .and filters => by
      rw [dual, passes, passes, passesAny_duals filters]
  | .or filters => by
      rw [dual, passes, passes, passesAll_duals filters]
  | .not filters => by
      rw [dual, passes, passes, Bool.not_not]
  | .equals expected => passes_not_singleton now record (.equals expected)

theorem passesAny_duals : ∀ filters : List FilterSpec,
    passesAny now record (duals filters) = !passesAll now record filters
  | [] => rfl
  | filter :: rest => by
      rw [duals, passesAny, passesAll, passes_dual filter, passesAny_duals rest, Bool.not_and]

theorem passesAll_duals : ∀ filters : List FilterSpec,
    passesAll now record (duals filters) = !passesAny now record filters
  | [] => rfl
  | filter :: rest => by
      rw [duals, passesAll, passesAny, passes_dual filter, passesAll_duals rest, Bool.not_or]

end

end Record

/-! ## Rearranged filters -/

/-- A node that has filters below it. -/
inductive Branching where
  | all
  | and
  | or
  | not

def Branching.over : Branching → List FilterSpec → FilterSpec
  | .all => .all
  | .and => .and
  | .or => .or
  | .not => .not

/-- One filter becomes another one by steps each of which puts the filters below some node in
another order or repeats one of them. -/
inductive Rearranged : FilterSpec → FilterSpec → Prop
  | refl (filter : FilterSpec) : Rearranged filter filter
  | trans {first second third : FilterSpec} :
      Rearranged first second → Rearranged second third → Rearranged first third
  | permuted (node : Branching) {filters others : List FilterSpec} :
      filters.Perm others → Rearranged (node.over filters) (node.over others)
  | repeated (node : Branching) (front : List FilterSpec) (filter : FilterSpec)
      (back : List FilterSpec) :
      Rearranged (node.over (front ++ filter :: back))
        (node.over (front ++ filter :: filter :: back))
  | inside (node : Branching) (front : List FilterSpec) {filter other : FilterSpec}
      (back : List FilterSpec) :
      Rearranged filter other →
        Rearranged (node.over (front ++ filter :: back)) (node.over (front ++ other :: back))

section Answers

variable (now : Moment) (record : Record)

/-- What several filters answer. -/
def answers (filters : List FilterSpec) : List Bool :=
  filters.map (passes now record)

theorem passesAny_iff (filters : List FilterSpec) :
    passesAny now record filters = true ↔ true ∈ answers now record filters := by
  induction filters with
  | nil =>
      simp [passesAny, answers]
  | cons filter rest inductionHypothesis =>
      rw [passesAny, Bool.or_eq_true, inductionHypothesis, answers, answers, List.map_cons,
        List.mem_cons, eq_comm]

theorem passesAll_iff (filters : List FilterSpec) :
    passesAll now record filters = true ↔ false ∉ answers now record filters := by
  induction filters with
  | nil =>
      simp [passesAll, answers]
  | cons filter rest inductionHypothesis =>
      rw [passesAll, Bool.and_eq_true, inductionHypothesis, answers, answers, List.map_cons,
        List.mem_cons, not_or, ← Bool.ne_false_iff, ne_comm]

variable {now record}

/-- A node answers the same over two lists in which the same answers occur. -/
theorem passes_over_congr (node : Branching) {filters others : List FilterSpec}
    (same : ∀ answer, answer ∈ answers now record filters ↔ answer ∈ answers now record others) :
    (node.over filters).passes now record = (node.over others).passes now record := by
  have anySame : passesAny now record filters = passesAny now record others := by
    rw [Bool.eq_iff_iff, passesAny_iff, passesAny_iff, same]
  have allSame : passesAll now record filters = passesAll now record others := by
    rw [Bool.eq_iff_iff, passesAll_iff, passesAll_iff, same]
  cases node with
  | all => exact allSame
  | and => exact allSame
  | or => exact anySame
  | not => exact congrArg (! ·) anySame

theorem Rearranged.passes_eq {filter other : FilterSpec} (rearranged : Rearranged filter other) :
    filter.passes now record = other.passes now record := by
  induction rearranged with
  | refl _ =>
      rfl
  | trans _ _ firstSame secondSame =>
      exact firstSame.trans secondSame
  | permuted node perm =>
      exact passes_over_congr node fun _ => (perm.map _).mem_iff
  | repeated node front filter back =>
      refine passes_over_congr node fun answer => ?_
      simp [answers]
  | inside node front back _ same =>
      refine passes_over_congr node fun answer => ?_
      simp [answers, same]

end Answers

/-! ## Conjunctions -/

theorem filterRecords_and_cons (now : Moment) (filter : FilterSpec) (rest : List FilterSpec)
    (records : List Record) :
    filterRecords now (some (.and (filter :: rest))) records =
      filterRecords now (some (.and rest)) (filterRecords now (some filter) records) := by
  rw [filterRecords, filterRecords, filterRecords, List.filter_filter]
  refine List.filter_congr fun record _ => ?_
  rw [passesOption, passesOption, passesOption, passes, passes, passesAll, Bool.and_comm]

theorem filterRecords_and (now : Moment) (filters : List FilterSpec) (records : List Record) :
    filterRecords now (some (.and filters)) records =
      filters.foldl (fun kept filter => filterRecords now (some filter) kept) records := by
  induction filters generalizing records with
  | nil =>
      exact List.filter_eq_self.mpr fun _ _ => rfl
  | cons filter rest inductionHypothesis =>
      rw [filterRecords_and_cons, inductionHypothesis, List.foldl_cons]

/-! ## All laws -/

/-- The dual of a filter is its negation, rearranging a filter does not change which records pass,
and a conjunction keeps what its filters keep one after another. -/
theorem filter_laws (now : Moment) :
    (∀ (record : Record) (filter : FilterSpec),
      filter.dual.passes now record = !filter.passes now record) ∧
    (∀ (record : Record) (filter other : FilterSpec), Rearranged filter other →
      other.passes now record = filter.passes now record) ∧
    ∀ (filters : List FilterSpec) (records : List Record),
      filterRecords now (some (.and filters)) records =
        filters.foldl (fun kept filter => filterRecords now (some filter) kept) records :=
  ⟨passes_dual now, fun _ _ _ rearranged => rearranged.passes_eq.symm, filterRecords_and now⟩

def foxingOnly : FilterSpec :=
  .equals (OrderedMap.ofList [("artist", .text "Foxing")])

/-- Albums that are rated highly and are either by one artist or have an image. -/
def shownAlbums : FilterSpec :=
  .and [.expression "rating > 4", .or [foxingOnly, .not [.expression "image.isEmpty()"]]]

/-- The same albums: the conjunction is turned around, and one of the alternatives stands twice. -/
def turnedAlbums : FilterSpec :=
  .and [.or [foxingOnly, foxingOnly, .not [.expression "image.isEmpty()"]],
    .expression "rating > 4"]

def ratedAlbum : Record :=
  OrderedMap.ofList [("artist", .text "Foxing"), ("rating", .number (Number.ofNat 5))]

theorem rearranged_turnedAlbums : Rearranged shownAlbums turnedAlbums :=
  .trans (.permuted .and (.swap _ _ []))
    (.inside .and [] [.expression "rating > 4"] (.repeated .or [] foxingOnly [_]))

/-- An album without an image passes both filters and is dropped by the dual, which asks for the
opposite of each leaf. -/
theorem filter_laws_ratedAlbum :
    shownAlbums.dual =
        .or [.not [.expression "rating > 4"],
          .and [.not [foxingOnly], .or [.expression "image.isEmpty()"]]] ∧
      shownAlbums.passes Moment.epoch ratedAlbum = true ∧
      shownAlbums.dual.passes Moment.epoch ratedAlbum = false ∧
      Rearranged shownAlbums turnedAlbums ∧
      turnedAlbums.passes Moment.epoch ratedAlbum = true ∧
      filterRecords Moment.epoch (some shownAlbums) [ratedAlbum, OrderedMap.ofList []] =
        [.expression "rating > 4", .or [foxingOnly, .not [.expression "image.isEmpty()"]]].foldl
          (fun kept filter => filterRecords Moment.epoch (some filter) kept)
          [ratedAlbum, OrderedMap.ofList []] := by
  obtain ⟨negates, keeps, conjunction⟩ := filter_laws Moment.epoch
  have passed : shownAlbums.passes Moment.epoch ratedAlbum = true := by decide +kernel
  refine ⟨rfl, passed, ?_, rearranged_turnedAlbums, ?_, conjunction _ _⟩
  · rw [negates, passed]
    rfl
  · rw [keeps _ _ _ rearranged_turnedAlbums, passed]

end NoteBase.FilterSpec
