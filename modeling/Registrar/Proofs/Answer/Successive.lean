import Registrar.Proofs.Answer.Ordered

/-
  This file proves that rows ordered by several columns are rows
  ordered by one column after the other, the last column first.

  Each of these orders is stable, and so the order by the later
  columns is kept among rows that an earlier column does not
  tell apart.

  Key definitions include:
    * `compareInTurn`
    * `SortedInTurn`

  Main statements:
    * `sortedInTurn_iff_isStableOrder`
    * `Row.compareBy_eq_compareInTurn`
    * `Query.answerBy_isSortedInTurn`
-/

------------------------------------------------------------
-- One Order After Another
------------------------------------------------------------

namespace Registrar

variable {retry : Decimal.Conversion}

variable {α : Type}

/- The first comparison that tells two items apart decides. -/
def compareInTurn :
    List (α → α → Ordering) → α → α → Ordering
| [], _, _ => .eq
| compare :: rest, a, b =>
    (compare a b).then (compareInTurn rest a b)

/-
  Items that are put in stable order by several comparisons, one
  after the other, beginning with the last one.
-/
inductive SortedInTurn :
    List (α → α → Ordering) → List α → List α → Prop
| nil
    {items : List α} :
    SortedInTurn [] items items
| cons
    {compare : α → α → Ordering}
    {rest : List (α → α → Ordering)}
    {items sorted ordered : List α}
    (hRest : SortedInTurn rest items sorted)
    (hOrder : IsStableOrder compare sorted ordered) :
    SortedInTurn (compare :: rest) items ordered

/- A relation holds among tied items if it does in each tie. -/
private theorem pairwise_of_ties
    {compare : α → α → Ordering}
    {R : α → α → Prop}
    {items : List α}
    (hRefl : ∀ x ∈ items, compare x x = .eq)
    (hTies : ∀ x ∈ items,
      (items.filter fun y => compare x y = .eq).Pairwise R) :
    items.Pairwise fun a b => compare a b = .eq → R a b := by
  induction items with
  | nil => exact List.Pairwise.nil
  | cons x rest ih =>
      rcases List.forall_mem_cons.mp hRefl with ⟨hx, hRest⟩
      rcases List.forall_mem_cons.mp hTies with
        ⟨hHead, hOthers⟩
      refine List.pairwise_cons.mpr ⟨?_, ih hRest ?_⟩
      · intro y hMem hTied
        rw [List.filter_cons_of_pos (by simpa using hx)] at hHead
        apply (List.pairwise_cons.mp hHead).1
        exact List.mem_filter.mpr ⟨hMem, by simpa using hTied⟩
      · intro y hMem
        have hPart := (List.sublist_cons_self x rest).filter
          fun z => decide (compare y z = .eq)
        exact List.Pairwise.sublist hPart (hOthers y hMem)

/-
  To put items in one stable order and then in another one is to
  put them in the stable order in which the other one decides,
  and the first one decides where it does not.
-/
theorem IsStableOrder.thenBy
    {first next : α → α → Ordering}
    {items sorted ordered : List α}
    (hRefl : ∀ x ∈ items, first x x = .eq)
    (hNext : IsStableOrder next items sorted)
    (hFirst : IsStableOrder first sorted ordered) :
    IsStableOrder (fun a b => (first a b).then (next a b))
      items ordered := by
  have hMem : ∀ x ∈ ordered, x ∈ sorted := fun _ =>
    hFirst.perm.mem_iff.mp
  -- What is tied stands as it did when it was put in order.
  have hTies : ordered.Pairwise fun a b =>
      first a b = .eq → next a b ≠ .gt := by
    apply pairwise_of_ties
    · exact fun x hx =>
        hRefl x (hNext.perm.mem_iff.mp (hMem x hx))
    · intro x hx
      rw [hFirst.stable x (hMem x hx)]
      exact List.Pairwise.sublist List.filter_sublist
        hNext.sorted
  have hSplit : ∀ x y : Ordering,
      decide (x.then y = .eq) =
        (decide (x = .eq) && decide (y = .eq)) := by
    decide
  refine ⟨hFirst.perm.trans hNext.perm, ?_, ?_⟩
  · apply (hFirst.sorted.and hTies).imp
    rintro a b ⟨hLe, hTied⟩
    cases hOrder : first a b with
    | lt => exact fun hBack => by cases hBack
    | eq => exact hTied hOrder
    | gt => exact absurd hOrder hLe
  · intro x hx
    have hSorted : x ∈ sorted := hNext.perm.mem_iff.mpr hx
    let tied (y : α) : Bool := first x y = .eq
    let tiedNext (y : α) : Bool := next x y = .eq
    have hTurn : ∀ ys : List α,
        (ys.filter tiedNext).filter tied =
          (ys.filter tied).filter tiedNext := by
      intro ys
      rw [List.filter_filter, List.filter_filter]
      exact congrArg (List.filter · ys)
        (funext fun y => Bool.and_comm _ _)
    simp only [hSplit]
    calc ordered.filter (fun y => tied y && tiedNext y)
        = (ordered.filter tied).filter tiedNext := by
          rw [← hTurn, List.filter_filter]
      _ = (sorted.filter tied).filter tiedNext := by
          rw [hFirst.stable x hSorted]
      _ = (items.filter tiedNext).filter tied := by
          rw [← hTurn, hNext.stable x hx]
      _ = items.filter (fun y => tied y && tiedNext y) :=
          List.filter_filter

/- Items in the order of no comparison stay as they are. -/
private theorem isStableOrder_undecided_iff
    {items ordered : List α} :
    IsStableOrder (fun _ _ => Ordering.eq) items ordered ↔
      ordered = items := by
  constructor
  · intro h
    cases items with
    | nil => exact List.perm_nil.mp h.perm
    | cons x rest => simpa using h.stable x List.mem_cons_self
  · rintro rfl
    exact ⟨List.Perm.refl _, List.pairwise_of_forall (by simp),
      fun _ _ => rfl⟩

/- A comparison in turn orders what all comparisons order. -/
theorem compareInTurn_preordersOn
    {P : α → Prop}
    {comparisons : List (α → α → Ordering)}
    (h : ∀ compare ∈ comparisons, PreordersOn P compare) :
    PreordersOn P (compareInTurn comparisons) := by
  induction comparisons with
  | nil => exact PreordersOn.undecided
  | cons compare rest ih =>
      rcases List.forall_mem_cons.mp h with ⟨hFirst, hRest⟩
      exact hFirst.thenBy (ih hRest)

/-
  To put items in order by several comparisons, one after the
  other, is to put them in the stable order in which the first
  comparison decides that can, and there is one way to do so.
-/
theorem sortedInTurn_iff_isStableOrder
    {comparisons : List (α → α → Ordering)}
    {items ordered : List α}
    (h : ∀ compare ∈ comparisons,
      PreordersOn (· ∈ items) compare) :
    SortedInTurn comparisons items ordered ↔
      IsStableOrder (compareInTurn comparisons)
        items ordered := by
  induction comparisons generalizing ordered with
  | nil =>
      apply Iff.trans ?_ isStableOrder_undecided_iff.symm
      constructor
      · rintro ⟨⟩
        rfl
      · rintro rfl
        exact .nil
  | cons compare rest ih =>
      rcases List.forall_mem_cons.mp h with ⟨hFirst, hRest⟩
      have hStep : ∀ {sorted result : List α},
          SortedInTurn rest items sorted →
          IsStableOrder compare sorted result →
            IsStableOrder (compareInTurn (compare :: rest))
              items result := fun hSorted hResult =>
        ((ih hRest).mp hSorted).thenBy hFirst.refl hResult
      constructor
      · intro hTurns
        cases hTurns with
        | cons hSorted hOrder => exact hStep hSorted hOrder
      · intro hOrder
        -- The order by the others can be put in order itself.
        let sorted := arrange (compareInTurn rest) items
        have hSorted : SortedInTurn rest items sorted :=
          (ih hRest).mpr
            (arrange_isStableOrder
              (compareInTurn_preordersOn hRest))
        have hMono : PreordersOn (· ∈ sorted) compare :=
          hFirst.mono fun _ =>
            (arrange_perm _ items).mem_iff.mp
        have hResult := arrange_isStableOrder hMono
        have hEq := IsStableOrder.unique
          (compareInTurn_preordersOn h)
          hOrder (hStep hSorted hResult)
        rw [hEq]
        exact .cons hSorted hResult

------------------------------------------------------------
-- Rows By One Column After The Other
------------------------------------------------------------

/- The end of an order does not change what decides first. -/
theorem Direction.orient_then
    (direction : Direction)
    (x y : Ordering) :
    direction.orient (x.then y) =
      (direction.orient x).then (direction.orient y) := by
  cases direction with
  | up => rfl
  | down => exact Ordering.swap_then x y

namespace Row

variable
  {collate : TextOrder}
  {columns : List Column}
  {records : List Record}

/- The order of two rows by the value of one column. -/
def compareColumn
    (collate : TextOrder)
    (direction : Direction)
    (column : Column)
    (a b : Row) : Ordering :=
  match a.get? column.text, b.get? column.text with
  | some x, some y => direction.orient (x.compareBy collate y)
  | _, _ => .eq

/- More places decide where the first ones do not. -/
theorem comparePlaces_append
    (places others : List Nat)
    (a b : Row) :
    comparePlaces collate (places ++ others) a b =
      (comparePlaces collate places a b).then
        (comparePlaces collate others a b) := by
  induction places with
  | nil => rfl
  | cons place rest ih =>
      rw [List.cons_append, comparePlaces, comparePlaces, ih,
        Ordering.then_assoc]

/- One column's place is compared as the column is. -/
private theorem compareBy_singleton
    {a b : Row}
    {column : Column}
    (direction : Direction)
    (hNodup : (columns.map Column.text).Nodup)
    (ha : a.IsNamed columns)
    (hb : b.IsNamed columns)
    (hMem : column ∈ columns) :
    compareBy collate direction
        ([column].filterMap columns.idxOf?) a b =
      compareColumn collate direction column a b := by
  cases hPlace : columns.idxOf? column with
  | none => exact absurd hMem (List.idxOf?_eq_none_iff.mp hPlace)
  | some place =>
      have hPlaces :
          [column].filterMap columns.idxOf? = [place] := by
        simp [hPlace]
      unfold compareBy compareColumn
      rw [hPlaces, comparePlaces, comparePlaces, Ordering.then_eq,
        get?_text_eq hNodup ha hPlace,
        get?_text_eq hNodup hb hPlace, compareAt]
      cases a.values[place]? <;> cases b.values[place]? <;>
        cases direction <;> rfl

/- The places of columns are compared as the columns in turn. -/
theorem compareBy_eq_compareInTurn
    {a b : Row}
    {sorting : List Column}
    (direction : Direction)
    (hNodup : (columns.map Column.text).Nodup)
    (ha : a.IsNamed columns)
    (hb : b.IsNamed columns)
    (hSorting : sorting ⊆ columns) :
    compareBy collate direction
        (sorting.filterMap columns.idxOf?) a b =
      compareInTurn
        (sorting.map (compareColumn collate direction)) a b := by
  induction sorting with
  | nil => cases direction <;> rfl
  | cons column rest ih =>
      rcases List.cons_subset.mp hSorting with ⟨hMem, hRest⟩
      have hPlaces : (column :: rest).filterMap columns.idxOf? =
          [column].filterMap columns.idxOf? ++
            rest.filterMap columns.idxOf? :=
        List.filterMap_append (l := [column])
      rw [List.map_cons, compareInTurn, ← ih hRest,
        ← compareBy_singleton direction hNodup ha hb hMem,
        hPlaces]
      unfold compareBy
      rw [comparePlaces_append, Direction.orient_then]

/- A row has a value for each of its columns. -/
theorem exists_get?
    {row : Row}
    {column : Column}
    (hNodup : (columns.map Column.text).Nodup)
    (hRow : row.IsNamed columns)
    (hMem : column ∈ columns) :
    ∃ value, row.get? column.text = some value := by
  have hSubset : [column] ⊆ columns := by simpa using hMem
  rcases exists_valuesOf? hNodup hRow hSubset with
    ⟨values, hValues⟩
  cases hValue : row.get? column.text with
  | none => simp [valuesOf?, hValue] at hValues
  | some value => exact ⟨value, rfl⟩

/- Rows of one query are ordered by any of its columns. -/
theorem compareColumn_preordersOn
    {rows : List Row}
    {column : Column}
    (hCollate : PreordersOn (IsTextOf records) collate)
    (direction : Direction)
    (hNodup : (columns.map Column.text).Nodup)
    (hNamed : ∀ row ∈ rows, row.IsNamed columns)
    (hFits : ∀ row ∈ rows, Row.Fits records columns row)
    (hMem : column ∈ columns) :
    PreordersOn (· ∈ rows)
      (compareColumn collate direction column) := by
  have hPlace : PreordersOn (Row.Fits records columns)
      (compareBy collate direction
        ([column].filterMap columns.idxOf?)) :=
    compareBy_preordersOn hCollate direction _
  apply hPlace.of_comap (f := id) hFits
  intro a b ha hb
  exact (compareBy_singleton direction hNodup (hNamed a ha)
    (hNamed b hb) hMem).symm

end Row

------------------------------------------------------------
-- Ordered Queries
------------------------------------------------------------

section Ordered

variable {query : Query} {sorting : Sorting}
variable {records : List Record} {collate : TextOrder}

/- Ordered rows are in stable order by the columns in turn. -/
private theorem Query.isStableOrder_orderBy
    {rows : List Row}
    (hStated : query.IsStated)
    (hSorting : query.selection.sorting = some sorting)
    (hFinite : ∀ record ∈ records, record.IsFinite)
    (hCount : records.length < twoTo 64)
    (hCollate : PreordersOn (IsTextOf records) collate)
    (hRows : query.unordered retry records = .ok rows) :
    let comparisons := sorting.columns.map
      (Row.compareColumn collate sorting.direction)
    (∀ compare ∈ comparisons, PreordersOn (· ∈ rows) compare) ∧
      (∀ row ∈ rows, ∀ column ∈ sorting.columns,
        ∃ value, row.get? column.text = some value) ∧
      IsStableOrder (compareInTurn comparisons) rows
        (Row.orderBy collate sorting.direction
          query.selection.sortingPlaces rows) := by
  intro comparisons
  rcases hStated.selection_wellFormed with
    ⟨-, -, hNodup, -, hSubset⟩
  have hColumns : query.selection.sortingColumns =
      sorting.columns := by
    unfold Selection.sortingColumns
    rw [hSorting]
  rw [hColumns] at hSubset
  have hNamed := isNamed_of_unordered hRows
  have hFits := fits_of_unordered hFinite hCount hRows
  have hSame : ∀ a ∈ rows, ∀ b ∈ rows,
      compareInTurn comparisons a b =
        Row.compareBy collate sorting.direction
          query.selection.sortingPlaces a b := by
    intro a ha b hb
    unfold Selection.sortingPlaces
    rw [hColumns]
    exact (Row.compareBy_eq_compareInTurn _ hNodup (hNamed a ha)
      (hNamed b hb) hSubset).symm
  have hPlaces : PreordersOn (· ∈ rows)
      (Row.compareBy collate sorting.direction
        query.selection.sortingPlaces) :=
    (Row.compareBy_preordersOn hCollate _ _).mono hFits
  refine ⟨?_, ?_, ?_⟩
  · intro compare hMem
    rcases List.mem_map.mp hMem with ⟨column, hColumn, rfl⟩
    exact Row.compareColumn_preordersOn hCollate _ hNodup hNamed
      hFits (hSubset hColumn)
  · intro row hRow column hColumn
    exact Row.exists_get? hNodup (hNamed row hRow)
      (hSubset hColumn)
  · exact (arrange_isStableOrder hPlaces).congr
      fun a ha b hb => (hSame a ha b hb).symm

/-
  An ordered query fails if it does without its order.  Else its
  answer is what arises, and all that can arise, when the rows
  of the query without its order are put in stable order by its
  last sorting column, then by the one before it, and so on,
  each time in the same direction.

  There are fewer records than a word of 64 bits can count.
-/
theorem Query.answerBy_isSortedInTurn
    (hStated : query.IsStated)
    (hSorting : query.selection.sorting = some sorting)
    (hFinite : ∀ record ∈ records, record.IsFinite)
    (hCount : records.length < twoTo 64)
    (hCollate : PreordersOn (IsTextOf records) collate) :
    (∀ failure,
      query.withoutSorting.answerBy collate retry records =
          .error failure →
        query.answerBy collate retry records = .error failure) ∧
    ∀ rows,
      query.withoutSorting.answerBy collate retry records =
        .ok rows →
      ∃ ordered,
        query.answerBy collate retry records = .ok ordered ∧
        (∀ row ∈ rows, ∀ column ∈ sorting.columns,
          ∃ value, row.get? column.text = some value) ∧
        ∀ other,
          SortedInTurn
              (sorting.columns.map
                (Row.compareColumn collate sorting.direction))
              rows other ↔
            other = ordered := by
  rw [answerBy_withoutSorting]
  refine ⟨?_, ?_⟩
  · intro failure hFailure
    unfold answerBy
    rw [hFailure]
  · intro rows hRows
    rcases isStableOrder_orderBy hStated hSorting hFinite hCount
        hCollate hRows with
      ⟨hEach, hValues, hOrder⟩
    refine ⟨Row.orderBy collate sorting.direction
      query.selection.sortingPlaces rows, ?_, hValues, ?_⟩
    · unfold answerBy arrangeBy
      rw [hRows, hSorting]
    · intro other
      rw [sortedInTurn_iff_isStableOrder hEach]
      constructor
      · exact fun h => IsStableOrder.unique
          (compareInTurn_preordersOn hEach) h hOrder
      · rintro rfl
        exact hOrder

end Ordered

/- Rows by department are rows by year, put by department. -/
theorem Query.answerBy_isSortedInTurn_departments :
    let retry : Decimal.Conversion := Decimal.noRetry
    let collate : TextOrder := Collation.compareTexts
    let dept : Column := .stored ⟨"ubc", .dept⟩
    let year : Column := .stored ⟨"ubc", .year⟩
    let query : Query :=
      ⟨⟨.always,
          ⟨[year, dept], some (.several .down [dept, year])⟩,
          none⟩,
        "ubc"⟩
    let record (name : String) (n : Nat) : Record :=
      ⟨[("dept", .text name),
        ("year", .number (Binary64.ofNat n))]⟩
    let records : List Record :=
      [record "math" 1, record "cpsc" 2, record "math" 3]
    query.IsStated ∧
    (∀ record ∈ records, record.IsFinite) ∧
    PreordersOn (IsTextOf records) collate ∧
    ∃ rows ordered,
      query.withoutSorting.answerBy collate retry records =
        .ok rows ∧
      query.answerBy collate retry records = .ok ordered ∧
      SortedInTurn
        [Row.compareColumn collate .down dept,
          Row.compareColumn collate .down year]
        rows ordered := by
  intro retry collate dept year query record records
  have hStated : query.IsStated :=
    isStated_of_toJson (by decide +revert) (by decide +kernel)
  have hFinite : ∀ record ∈ records, record.IsFinite := by
    decide +kernel
  have hCollate :
      PreordersOn (IsTextOf records)
        collate := by
    apply compareTexts_preordersOn_pair.mono
    rintro s ⟨found, hFound, hText⟩
    simp only [records, List.mem_cons, List.not_mem_nil,
      or_false] at hFound
    rcases hFound with rfl | rfl | rfl <;>
      simp [record, Record.values] at hText <;> simp [hText]
  obtain ⟨rows, hRows⟩ :
      ∃ rows,
        query.withoutSorting.answerBy collate retry records =
          .ok rows :=
    exists_eq_ok_iff.mp (by decide +kernel)
  rcases (answerBy_isSortedInTurn hStated rfl hFinite
      (by decide) hCollate).2 rows hRows with
    ⟨ordered, hOrdered, -, hTurns⟩
  exact ⟨hStated, hFinite, hCollate, rows, ordered, hRows,
    hOrdered, (hTurns ordered).mpr rfl⟩

end Registrar
