import Registrar.Proofs.Answer.Permuted
import Registrar.Proofs.Answer.RowOrder
import Registrar.Proofs.StableOrder

/-
  This file proves that an answer does not depend on the order
  in which records arrive.  The rows are the same up to their
  order; and if they are ordered by all their columns, they are
  the same one by one.

  Rows in which texts are the same and numbers are numerically
  equal lie to all others in the same way.  If texts are only
  tied with themselves, rows that are tied in all places agree,
  and sorted lists of rows are tied one by one.

  Key definitions include:
    * `Row.IsOf`
    * `TextOrder.Separates`

  Main statements:
    * `Row.Agrees.compareBy_eq`
    * `Row.IsOf.agrees_of_tied`
    * `Query.answerBy_ignores_order`
-/

------------------------------------------------------------
-- Rows That Agree Are Ordered Alike
------------------------------------------------------------

namespace Registrar

variable {retry : Decimal.Conversion}

variable {collate : TextOrder} {records : List Record}

namespace Row

variable {columns : List Column} {a b : Row}

/- Rows that agree lie to others in the same way in each place. -/
theorem Agrees.compareAt_eq
    (h : Agrees a b)
    (collate : TextOrder)
    (place : Nat)
    (r : Row) :
    compareAt collate place r a = compareAt collate place r b := by
  have hLength := h.values.length_eq
  unfold compareAt
  by_cases hLess : place < a.values.length
  · have hOther : place < b.values.length := hLength ▸ hLess
    rw [List.getElem?_eq_getElem hLess,
      List.getElem?_eq_getElem hOther]
    have hAgree := h.values.get hLess hOther
    cases r.values[place]? with
    | none => rfl
    | some z => exact Value.compareBy_eq_of_agree hAgree collate z
  · have hOther : ¬ place < b.values.length := hLength ▸ hLess
    rw [List.getElem?_eq_none (Nat.not_lt.mp hLess),
      List.getElem?_eq_none (Nat.not_lt.mp hOther)]

/- So they do in several places, in both directions. -/
theorem Agrees.compareBy_eq
    (h : Agrees a b)
    (collate : TextOrder)
    (direction : Direction)
    (places : List Nat)
    (r : Row) :
    compareBy collate direction places r a =
      compareBy collate direction places r b := by
  have hPlaces : comparePlaces collate places r a =
      comparePlaces collate places r b := by
    induction places with
    | nil => rfl
    | cons place rest ih =>
        rw [comparePlaces, comparePlaces,
          h.compareAt_eq collate place r, ih]
  unfold compareBy
  rw [hPlaces]

/- Rows are tied if they are tied in each place. -/
theorem compareBy_eq_eq_iff
    {direction : Direction}
    {places : List Nat} :
    compareBy collate direction places a b = .eq ↔
      ∀ place ∈ places, compareAt collate place a b = .eq := by
  have hOrient : ∀ order : Ordering,
      direction.orient order = .eq ↔ order = .eq := by
    intro order
    cases direction <;> simp [Direction.orient]
  unfold compareBy
  rw [hOrient]
  induction places with
  | nil => simp [comparePlaces]
  | cons place rest ih =>
      simp only [comparePlaces, Ordering.then_eq_eq, ih,
        List.forall_mem_cons]

end Row

------------------------------------------------------------
-- Rows That Are Tied Agree
------------------------------------------------------------

/- A text order that ties no two different texts of records. -/
def TextOrder.Separates
    (collate : TextOrder)
    (records : List Record) : Prop :=
  ∀ s t, IsTextOf records s → IsTextOf records t →
    collate s t = .eq → s = t

/- Values of a column agree if they are tied. -/
theorem Column.Shows.agree_of_tied
    {column : Column}
    {x y : Value}
    (hSeparates : TextOrder.Separates collate records)
    (hx : column.Shows records x)
    (hy : column.Shows records y)
    (h : x.compareBy collate y = .eq) :
    Value.Agree (some x) (some y) := by
  have hDomain := hx.domain_eq.trans hy.domain_eq.symm
  cases x with
  | text s =>
      cases y with
      | number n => cases hDomain
      | text t =>
          exact hSeparates s t (hx.isTextOf s rfl)
            (hy.isTextOf t rfl) h
  | number m =>
      cases y with
      | text t => cases hDomain
      | number n =>
          have hm : ¬ m.IsNan := hx.not_isNan
          have hn : ¬ n.IsNan := hy.not_isNan
          rcases Binary64.exists_rank_iff.mpr hm with ⟨p, hp⟩
          rcases Binary64.exists_rank_iff.mpr hn with ⟨q, hq⟩
          apply (Binary64.isSame_iff_rank_eq hm).mpr
          simpa [Value.compareBy, Binary64.compare?, hp, hq,
            Std.compare_eq_iff_eq] using h

/- A row with the columns' names, and values that they show. -/
structure Row.IsOf
    (records : List Record)
    (columns : List Column)
    (row : Row) : Prop where
  names_eq : row.names = columns.map Column.text
  fits : Row.Fits records columns row

namespace Row

variable {columns : List Column} {a b : Row}

/- A row of records is one of others with the same texts. -/
theorem IsOf.mono
    {others : List Record}
    (h : a.IsOf others columns)
    (hTexts : ∀ s, IsTextOf others s → IsTextOf records s) :
    a.IsOf records columns where
  names_eq := h.names_eq
  fits := h.fits.imp fun _ _ hShows =>
    ⟨hShows.domain_eq, hShows.not_isNan, fun s hEq =>
      hTexts s (hShows.isTextOf s hEq)⟩

/- Rows with the same columns agree if all places are tied. -/
theorem IsOf.agrees_of_tied
    (hSeparates : TextOrder.Separates collate records)
    (ha : a.IsOf records columns)
    (hb : b.IsOf records columns)
    (h : ∀ place < columns.length,
      compareAt collate place a b = .eq) :
    Agrees a b := by
  refine ⟨ha.names_eq.trans hb.names_eq.symm,
    List.forall₂_iff_get.mpr ⟨?_, ?_⟩⟩
  · exact ha.fits.length_eq.symm.trans hb.fits.length_eq
  · intro place hLeft hRight
    have hPlace : place < columns.length :=
      ha.fits.length_eq ▸ hLeft
    have hTied := h place hPlace
    unfold compareAt at hTied
    rw [List.getElem?_eq_getElem hLeft,
      List.getElem?_eq_getElem hRight] at hTied
    exact Column.Shows.agree_of_tied hSeparates
      (ha.fits.get hPlace hLeft) (hb.fits.get hPlace hRight)
      hTied

/-
  Rows that are the same up to their order are the same one by
  one after they have been ordered by all their columns.
-/
theorem forall₂_agrees_of_orderBy
    {direction : Direction}
    {places : List Nat}
    {rows others : List Row}
    (hCollate : PreordersOn (IsTextOf records) collate)
    (hSeparates : TextOrder.Separates collate records)
    (hPlaces : ∀ place < columns.length, place ∈ places)
    (hLeft : ∀ row ∈ rows, row.IsOf records columns)
    (hRight : ∀ row ∈ others, row.IsOf records columns)
    (h : PermUpTo Agrees rows others) :
    List.Forall₂ Agrees
      (orderBy collate direction places rows)
      (orderBy collate direction places others) := by
  have hOrder : PreordersOn (IsOf records columns)
      (compareBy collate direction places) :=
    (compareBy_preordersOn hCollate direction places).mono
      fun _ hRow => hRow.fits
  have hSorted : ∀ items : List Row,
      (∀ row ∈ items, row.IsOf records columns) →
        IsStableOrder (compareBy collate direction places) items
          (orderBy collate direction places items) :=
    fun items hItems =>
      arrange_isStableOrder (hOrder.mono hItems)
  have hFirst := hSorted rows hLeft
  have hSecond := hSorted others hRight
  have hOrdered : PermUpTo Agrees
      (orderBy collate direction places rows)
      (orderBy collate direction places others) :=
    (h.perm_trans hFirst.perm).trans_perm hSecond.perm.symm
  have hFirstRows := fun row hMem =>
    hLeft row (hFirst.perm.mem_iff.mp hMem)
  have hSecondRows := fun row hMem =>
    hRight row (hSecond.perm.mem_iff.mp hMem)
  -- Rows that agree are tied with the same rows, so that both
  -- lists have as many rows tied with any one.
  have hTied := forall₂_tied_of_sorted hOrder hFirstRows
    hSecondRows hFirst.sorted hSecond.sorted fun r _ =>
      hOrdered.countP_eq fun a b hAgrees => by
        rw [hAgrees.compareBy_eq collate direction places r]
  apply (forall₂_with_mem hTied).imp
  rintro a b ⟨ha, hb, hEq⟩
  apply (hFirstRows a ha).agrees_of_tied hSeparates
    (hSecondRows b hb)
  intro place hPlace
  exact compareBy_eq_eq_iff.mp hEq place (hPlaces place hPlace)

end Row

------------------------------------------------------------
-- Answers To Records In Another Order
------------------------------------------------------------

/- Records in another order have the same texts. -/
theorem isTextOf_of_perm
    {first second : List Record}
    {s : String}
    (hPerm : first.Perm second)
    (h : IsTextOf second s) :
    IsTextOf first s := by
  rcases h with ⟨record, hMem, hText⟩
  exact ⟨record, hPerm.mem_iff.mpr hMem, hText⟩

namespace Query

/- The rows of a query have its columns. -/
theorem isOf_of_unordered
    {query : Query}
    {rows : List Row}
    (hStays : query.StaysNumeric retry records)
    (h : query.unordered retry records = .ok rows) :
    ∀ row ∈ rows, row.IsOf records query.selection.columns := by
  intro row hMem
  refine ⟨?_, fits_of_staysNumeric hStays h row hMem⟩
  exact (map_eq_map_of_forall₂
    ((shows_of_unordered hStays h row hMem).imp
      fun _ _ => And.left)).symm

/- A query that is ordered by all its columns compares them. -/
theorem mem_sortingPlaces
    {selection : Selection}
    {place : Nat}
    (hNodup : selection.columns.Nodup)
    (hCovered :
      selection.columns ⊆ selection.sortingColumns)
    (hLess : place < selection.columns.length) :
    place ∈ selection.sortingPlaces := by
  have hColumn := List.getElem?_eq_getElem hLess
  refine List.mem_filterMap.mpr
    ⟨selection.columns[place], ?_,
      idxOf?_eq_of_nodup hNodup hColumn⟩
  exact hCovered (List.getElem_mem hLess)

/-
  A query of which all rules take extremes or counts has an
  answer to records if it has one to the same records in another
  order.  The rows agree up to their order.  If it orders them
  by all its columns, where only equal texts are tied, they
  agree one by one.
-/
theorem answerBy_ignores_order
    {query : Query}
    {first second : List Record}
    (hStated : query.IsStated)
    (hRules : query.IgnoresOrder)
    (hNumbers : ∀ record ∈ first, record.WithoutNan)
    (hPerm : first.Perm second)
    (collate : TextOrder)
    (retry : Decimal.Conversion) :
    ((∃ rows, query.answerBy collate retry first = .ok rows) ↔
      ∃ rows, query.answerBy collate retry second = .ok rows) ∧
    ∀ rows others, query.answerBy collate retry first = .ok rows →
      query.answerBy collate retry second = .ok others →
        PermUpTo Row.Agrees rows others ∧
        (PreordersOn (IsTextOf first) collate →
          TextOrder.Separates collate first →
          query.selection.columns ⊆
            query.selection.sortingColumns →
          List.Forall₂ Row.Agrees rows others) := by
  have hQuery := hStated.isWellFormed
  have hOtherNumbers :
      ∀ record ∈ second, record.WithoutNan :=
    fun record hMem =>
      hNumbers record (hPerm.mem_iff.mpr hMem)
  refine ⟨?_, ?_⟩
  · rw [exists_answerBy_iff, exists_answerBy_iff]
    constructor
    · rintro ⟨sources, h⟩
      rcases sources_of_perm hQuery hRules hNumbers hPerm h with
        ⟨others, hOthers, -⟩
      exact ⟨others, hOthers⟩
    · rintro ⟨sources, h⟩
      rcases sources_of_perm hQuery hRules hOtherNumbers
          hPerm.symm h with
        ⟨others, hOthers, -⟩
      exact ⟨others, hOthers⟩
  · intro rows others hRows hOthers
    -- The order is put on rows that are the same up to theirs.
    rcases answerBy_eq_ok_iff.mp hRows with ⟨left, hLeft, rfl⟩
    rcases answerBy_eq_ok_iff.mp hOthers with
      ⟨right, hRight, rfl⟩
    rcases unordered_of_perm hQuery hRules hNumbers hPerm
        hLeft with
      ⟨found, hFound, hAgrees⟩
    obtain rfl : found = right :=
      Except.ok.inj (hFound.symm.trans hRight)
    refine ⟨?_, ?_⟩
    · apply (hAgrees.perm_trans (arrangeBy_perm ..)).trans_perm
      exact (arrangeBy_perm ..).symm
    · intro hCollate hSeparates hCovered
      have hPlaces := fun place =>
        @mem_sortingPlaces query.selection place
          hQuery.columns_nodup hCovered
      have hLeftRows := isOf_of_unordered
        (staysNumeric_of_ignoresOrder hRules hNumbers) hLeft
      have hRightRows := isOf_of_unordered
        (staysNumeric_of_ignoresOrder hRules hOtherNumbers)
        hRight
      unfold arrangeBy
      split
      · next hNone =>
          have hNil : query.selection.columns = [] := by
            apply List.subset_nil.mp
            simpa [Selection.sortingColumns, hNone]
              using hCovered
          exact absurd hNil
            hQuery.selection_wellFormed.columns_ne_nil
      · exact Row.forall₂_agrees_of_orderBy hCollate hSeparates
          hPlaces hLeftRows
          (fun row hMem => (hRightRows row hMem).mono
            fun _ => isTextOf_of_perm hPerm)
          hAgrees

/-
  Of two zeros in one class the first one is shown.  Records in
  another order show the other one, and the rows agree.
-/
theorem answerBy_ignores_order_zeros :
    let retry : Decimal.Conversion := Decimal.noRetry
    let collate : TextOrder := Collation.compareTexts
    let dept : Key := ⟨"ubc", .dept⟩
    let avg : Key := ⟨"ubc", .avg⟩
    let columns : List Column :=
      [.stored dept, .stored avg, .applied "latest"]
    let query : Query :=
      ⟨⟨.always, ⟨columns, some (.several .down columns)⟩,
          some ⟨[dept, avg],
            [⟨"latest", .max, ⟨"ubc", .year⟩⟩]⟩⟩,
        "ubc"⟩
    let record (name : String) (x : Binary64) (n : Nat) : Record :=
      ⟨[("avg", .number x), ("dept", .text name),
        ("year", .number (Binary64.ofNat n))]⟩
    let first : List Record :=
      [record "math" Binary64.zero 1,
        record "math" Binary64.zero.negate 2,
        record "cpsc" Binary64.zero 3]
    query.IsStated ∧ query.IgnoresOrder ∧
    (∀ record ∈ first, record.WithoutNan) ∧
    PreordersOn (IsTextOf first) collate ∧
    TextOrder.Separates collate first ∧
    ∃ rows others, query.answerBy collate retry first = .ok rows ∧
      query.answerBy collate retry first.reverse = .ok others ∧
      rows ≠ others ∧ List.Forall₂ Row.Agrees rows others := by
  intro retry collate dept avg columns query record first
  have hStated : query.IsStated :=
    isStated_of_toJson (by decide +revert) (by decide +kernel)
  have hRules : query.IgnoresOrder := by
    intro grouping hGrouping rule hRule
    cases hGrouping
    rw [List.mem_singleton.mp hRule]
    decide
  have hNumbers : ∀ record ∈ first, record.WithoutNan := by
    decide +kernel
  have hTexts : ∀ s, IsTextOf first s →
      s = "math" ∨ s = "cpsc" := by
    rintro s ⟨found, hFound, hText⟩
    simp only [first, List.mem_cons, List.not_mem_nil,
      or_false] at hFound
    rcases hFound with rfl | rfl | rfl <;>
      simp [record, Record.values] at hText <;> simp [hText]
  have hCollate :
      PreordersOn (IsTextOf first) collate :=
    compareTexts_preordersOn_pair.mono hTexts
  have hSeparates :
      TextOrder.Separates collate first := by
    intro s t hs ht
    rcases hTexts s hs with rfl | rfl <;>
      rcases hTexts t ht with rfl | rfl <;> decide
  have hAnswers := answerBy_ignores_order hStated hRules hNumbers
    first.reverse_perm.symm collate retry
  obtain ⟨rows, hRows⟩ :
      ∃ rows, query.answerBy collate retry first = .ok rows :=
    exists_eq_ok_iff.mp (by decide +kernel)
  rcases hAnswers.1.mp ⟨rows, hRows⟩ with ⟨others, hOthers⟩
  refine ⟨hStated, hRules, hNumbers, hCollate, hSeparates, rows,
    others, hRows, hOthers, ?_,
    (hAnswers.2 rows others hRows hOthers).2 hCollate hSeparates
      fun _ hMem => hMem⟩
  rintro rfl
  have hEq : (query.answerBy collate retry first).toOption ≠
      (query.answerBy collate retry first.reverse).toOption := by
    decide +kernel
  apply hEq
  rw [hRows]
  exact congrArg Except.toOption hOthers.symm

end Query

end Registrar
