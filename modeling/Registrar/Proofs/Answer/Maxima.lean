import Registrar.Proofs.Answer.Extremes
import Registrar.Proofs.Answer.Failures
import Registrar.Proofs.Numeric.Nearest

/-
  This file proves that a maximum and a minimum are taken among
  the numbers of the members: each is one of them, and none of
  the others is beyond it.  What is not a number is passed over,
  unless nothing else is there.

  Which numbers occur decides what the extremes are, so that the
  order of the members and their repetition do not matter, but
  for the sign of a zero.  Both extremes are one notion, for the
  order of numbers and for the opposite order.

  Key definitions include:
    * `Binary64.Coincides`
    * `Binary64.IsExtremeOf`
    * `Binary64.IsMaximumOf`
    * `Binary64.IsMinimumOf`
    * `Key.numbersOf`

  Main statements:
    * `Binary64.IsExtremeOf.coincides`
    * `AppliedRule.isExtremeOf_of_extreme`
    * `AppliedRule.exists_maximum`
    * `AppliedRule.exists_minimum`
    * `AppliedRule.evaluate_isExtreme`
-/

------------------------------------------------------------
-- Extremes Of Numbers
------------------------------------------------------------

namespace Registrar

variable {retry : Decimal.Conversion}

namespace Binary64

/- Numerically equal, or both of them are no numbers. -/
def Coincides (x y : Binary64) : Prop :=
  x.isSame y = true ∨ x.IsNan ∧ y.IsNan

/- A relation of numbers, both ways only between equal ones. -/
structure OrdersNumbers
    (Precedes : Binary64 → Binary64 → Prop) : Prop where
  not_isNan : ∀ {x y}, Precedes x y → ¬ x.IsNan ∧ ¬ y.IsNan
  coincides : ∀ {x y}, Precedes x y → Precedes y x →
    x.Coincides y

/- One of some values, which all numbers among them precede. -/
structure IsExtremeOf
    (Precedes : Binary64 → Binary64 → Prop)
    (values : Set Binary64)
    (x : Binary64) : Prop where
  mem : x ∈ values
  precedes : ∀ y ∈ values, ¬ y.IsNan → Precedes y x

/- One of some values; all numbers among them are at most it. -/
def IsMaximumOf
    (values : Set Binary64)
    (x : Binary64) : Prop :=
  IsExtremeOf (fun y x => y.AtMost x) values x

/- One of some values; it is at most all numbers among them. -/
def IsMinimumOf
    (values : Set Binary64)
    (x : Binary64) : Prop :=
  IsExtremeOf (fun y x => x.AtMost y) values x

variable {values : Set Binary64} {x y : Binary64}

/- Numbers are ordered by their places. -/
theorem ordersNumbers_atMost :
    OrdersNumbers (fun y x => y.AtMost x) := by
  refine ⟨?_, ?_⟩
  · rintro x y ⟨a, b, hA, hB, -⟩
    exact ⟨exists_rank_iff.mp ⟨a, hA⟩,
      exists_rank_iff.mp ⟨b, hB⟩⟩
  · rintro x y ⟨a, b, hA, hB, hLe⟩ ⟨b', a', hB', hA', hGe⟩
    cases hA.symm.trans hA'
    cases hB.symm.trans hB'
    have hEq : a = b := Int.le_antisymm hLe hGe
    exact .inl (isSame_iff_exists_rank.mpr ⟨a, hA, hEq ▸ hB⟩)

/- They are ordered the other way round, too. -/
theorem ordersNumbers_atLeast :
    OrdersNumbers (fun y x => x.AtMost y) :=
  ⟨fun h => (ordersNumbers_atMost.not_isNan h).symm,
    fun h hBack => ordersNumbers_atMost.coincides hBack h⟩

namespace IsExtremeOf

variable {Precedes : Binary64 → Binary64 → Prop}

/- An extreme is no number only if no value is one. -/
theorem isNan_all
    (hOrder : OrdersNumbers Precedes)
    (h : IsExtremeOf Precedes values x)
    (hNan : x.IsNan) :
    ∀ y ∈ values, y.IsNan := by
  intro y hMem
  by_contra hNumber
  exact (hOrder.not_isNan (h.precedes y hMem hNumber)).2 hNan

/- The extremes of the same values coincide. -/
theorem coincides
    (hOrder : OrdersNumbers Precedes)
    (hx : IsExtremeOf Precedes values x)
    (hy : IsExtremeOf Precedes values y) :
    x.Coincides y := by
  by_cases hNan : x.IsNan
  · exact .inr ⟨hNan, hx.isNan_all hOrder hNan y hy.mem⟩
  · have hLeft := hy.precedes x hx.mem hNan
    have hRight := hx.precedes y hy.mem (hOrder.not_isNan hLeft).2
    exact hOrder.coincides hLeft hRight

end IsExtremeOf

/- No minimum is above a maximum if there is a number. -/
theorem IsMinimumOf.atMost_maximum
    {lo hi : Binary64}
    (hLo : lo.IsMinimumOf values)
    (hHi : hi.IsMaximumOf values)
    (hNumber : ∃ x ∈ values, ¬ x.IsNan) :
    lo.AtMost hi := by
  rcases hNumber with ⟨x, hMem, hX⟩
  exact (hLo.precedes x hMem hX).trans (hHi.precedes x hMem hX)

end Binary64

------------------------------------------------------------
-- Extremes Of Members
------------------------------------------------------------

/- The numbers that members have for a key. -/
def Key.numbersOf
    (key : Key)
    (members : List Record) : Set Binary64 :=
  {x | ∃ record ∈ members,
    record.get? key.field = some (.number x)}

namespace AppliedRule

variable {key : Key} {members : List Record}

/-
  What is picked of each two numbers in turn is an extreme of
  all, if its place is one of their places.
-/
theorem isExtremeOf_of_extreme
    (rule : AppliedRule)
    {pick : Binary64 → Binary64 → Binary64}
    {op : Int → Int → Int}
    {Precedes : Binary64 → Binary64 → Prop}
    {xs : List Binary64}
    {x : Binary64}
    (hPick : ∀ y z, pick y z = y ∨ pick y z = z)
    (hRank : ∀ y z,
      (pick y z).rank = Option.merge op y.rank z.rank)
    (hPlaces : ∀ {places : List (Option Int)} {a b y},
      places.foldl (Option.merge op) none = some a →
      some b ∈ places → x.rank = some a → y.rank = some b →
        Precedes y x)
    (h : rule.extreme pick xs = .ok x) :
    Binary64.IsExtremeOf Precedes {y | y ∈ xs} x := by
  refine ⟨mem_of_extreme_eq_ok hPick h, ?_⟩
  intro y hMem hNan
  rcases Binary64.exists_rank_iff.mpr hNan with ⟨b, hB⟩
  have hPlace : some b ∈ xs.map Binary64.rank :=
    List.mem_map.mpr ⟨y, hMem, hB⟩
  have hFold := rank_of_extreme_eq_ok hRank h
  cases hA : x.rank with
  | none =>
      rw [hA] at hFold
      cases foldl_merge_eq_none_iff.mp hFold.symm _ hPlace
  | some a =>
      rw [hA] at hFold
      exact hPlaces hFold.symm hPlace hA hB

/- Members that all have numbers have a list of them. -/
private theorem exists_numbers
    (rule : AppliedRule)
    (hSome : members ≠ [])
    (hNumbers : ∀ record ∈ members,
      record.HasNumber rule.key.field) :
    ∃ first rest, rule.numbers members = .ok (first :: rest) ∧
      {y | y ∈ first :: rest} = rule.key.numbersOf members := by
  rcases exists_forall₂_iff.mpr hNumbers with ⟨xs, hXs⟩
  have hSet : {y | y ∈ xs} = rule.key.numbersOf members := by
    ext y
    constructor
    · exact exists_left_of_forall₂ hXs
    · rintro ⟨record, hMem, hGet⟩
      rcases exists_right_of_forall₂ hXs hMem with
        ⟨z, hZ, hSame⟩
      cases hGet.symm.trans hSame
      exact hZ
  cases xs with
  | nil => exact absurd (List.forall₂_nil_right_iff.mp hXs) hSome
  | cons first rest =>
      exact ⟨first, rest, numbers_eq_ok_iff.mpr hXs, hSet⟩

/- Members that all have numbers have a maximum. -/
theorem exists_maximum
    (name : String)
    (hSome : members ≠ [])
    (hDomain : key.field.domain = .numeric)
    (hNumbers : ∀ record ∈ members, record.HasNumber key.field) :
    ∃ hi, evaluate retry ⟨name, .max, key⟩ members = .ok hi ∧
      hi.IsMaximumOf (key.numbersOf members) := by
  rcases exists_numbers ⟨name, .max, key⟩ hSome hNumbers with
    ⟨first, rest, hRead, hSet⟩
  refine ⟨rest.foldl Binary64.larger first, ?_, ?_⟩
  · simp [evaluate, hDomain, hRead, extreme]
  · rw [← hSet]
    refine isExtremeOf_of_extreme ⟨name, .max, key⟩
      larger_eq_or_eq rank_larger ?_ rfl
    intro places a b y hFold hPlace hA hB
    exact ⟨b, a, hB, hA,
      (isGreatest_of_foldl_merge_max hFold).2 hPlace⟩

/- Members that all have numbers have a minimum. -/
theorem exists_minimum
    (name : String)
    (hSome : members ≠ [])
    (hDomain : key.field.domain = .numeric)
    (hNumbers : ∀ record ∈ members, record.HasNumber key.field) :
    ∃ lo, evaluate retry ⟨name, .min, key⟩ members = .ok lo ∧
      lo.IsMinimumOf (key.numbersOf members) := by
  rcases exists_numbers ⟨name, .min, key⟩ hSome hNumbers with
    ⟨first, rest, hRead, hSet⟩
  refine ⟨rest.foldl Binary64.smaller first, ?_, ?_⟩
  · simp [evaluate, hDomain, hRead, extreme]
  · rw [← hSet]
    refine isExtremeOf_of_extreme ⟨name, .min, key⟩
      smaller_eq_or_eq rank_smaller ?_ rfl
    intro places a b y hFold hPlace hA hB
    exact ⟨a, b, hA, hB,
      (isLeast_of_foldl_merge_min hFold).2 hPlace⟩

/-
  Members that all have numbers have a maximum and a minimum of
  these, which are no numbers only if no member has one, and else
  are in order.  Members of which there are the same records, in
  whatever order and however often, have the same extremes.
-/
theorem evaluate_isExtreme
    (greatest least : String)
    {key : Key}
    {members : List Record}
    (hSome : members ≠ [])
    (hDomain : key.field.domain = .numeric)
    (hNumbers : ∀ record ∈ members, record.HasNumber key.field) :
    ∃ hi lo,
      evaluate retry ⟨greatest, .max, key⟩ members = .ok hi ∧
      evaluate retry ⟨least, .min, key⟩ members = .ok lo ∧
      hi.IsMaximumOf (key.numbersOf members) ∧
      lo.IsMinimumOf (key.numbersOf members) ∧
      (hi.IsNan ∨ lo.IsNan →
        ∀ x ∈ key.numbersOf members, x.IsNan) ∧
      ((∃ x ∈ key.numbersOf members, ¬ x.IsNan) →
        lo.AtMost hi) ∧
      ∀ others : List Record,
        (∀ record, record ∈ others ↔ record ∈ members) →
        ∃ hi' lo',
          evaluate retry ⟨greatest, .max, key⟩ others = .ok hi' ∧
          evaluate retry ⟨least, .min, key⟩ others = .ok lo' ∧
          hi'.Coincides hi ∧ lo'.Coincides lo := by
  rcases exists_maximum greatest hSome hDomain hNumbers with
    ⟨hi, hMax, hHi⟩
  rcases exists_minimum least hSome hDomain hNumbers with
    ⟨lo, hMin, hLo⟩
  refine ⟨hi, lo, hMax, hMin, hHi, hLo,
    fun h => h.elim (hHi.isNan_all Binary64.ordersNumbers_atMost)
      (hLo.isNan_all Binary64.ordersNumbers_atLeast),
    hLo.atMost_maximum hHi, ?_⟩
  -- The same records have the same numbers, and so the same
  -- extremes.
  intro others hSame
  have hOthers : ∀ record ∈ others, record.HasNumber key.field :=
    fun record hMem => hNumbers record ((hSame record).mp hMem)
  have hOthersSome : others ≠ [] := by
    rcases List.exists_mem_of_ne_nil _ hSome with ⟨record, hMem⟩
    exact List.ne_nil_of_mem ((hSame record).mpr hMem)
  have hSet : key.numbersOf others = key.numbersOf members := by
    unfold Key.numbersOf
    simp only [hSame]
  rcases exists_maximum greatest hOthersSome hDomain hOthers with
    ⟨hi', hMax', hHi'⟩
  rcases exists_minimum least hOthersSome hDomain hOthers with
    ⟨lo', hMin', hLo'⟩
  rw [hSet] at hHi' hLo'
  exact ⟨hi', lo', hMax', hMin',
    hHi'.coincides Binary64.ordersNumbers_atMost hHi,
    hLo'.coincides Binary64.ordersNumbers_atLeast hLo⟩

/-
  What is not a number comes first and last, and both zeros and
  an infinity stand between: one of the zeros is the maximum, and
  the other one is if the members come twice and in reverse.
-/
theorem evaluate_isExtreme_zeros :
    let retry : Decimal.Conversion := Decimal.noRetry
    let record (x : Binary64) : Record := ⟨[("avg", .number x)]⟩
    let nan := Binary64.quietNan
    let key : Key := ⟨"ubc", .avg⟩
    let members : List Record :=
      [record nan.negate, record Binary64.zero.negate,
        record Binary64.zero, record (.infinite true),
        record nan]
    let others := members.reverse ++ members.reverse
    members ≠ [] ∧
    key.field.domain = .numeric ∧
    (∀ record ∈ members, record.HasNumber key.field) ∧
    (∀ record, record ∈ others ↔ record ∈ members) ∧
    evaluate retry ⟨"top", .max, key⟩ members = .ok Binary64.zero ∧
    ∃ hi lo,
      evaluate retry ⟨"top", .max, key⟩ others = .ok hi ∧
      evaluate retry ⟨"low", .min, key⟩ others = .ok lo ∧
      hi.Coincides Binary64.zero ∧
      lo.Coincides (.infinite true) := by
  intro retry record nan key members others
  have hRecord : ∀ x, (record x).HasNumber key.field :=
    fun x => ⟨x, rfl⟩
  have hNumbers :
      ∀ record ∈ members, record.HasNumber key.field := by
    simp [members, hRecord]
  have hSame : ∀ record, record ∈ others ↔ record ∈ members := by
    simp [others]
  have hMax : evaluate retry ⟨"top", .max, key⟩ members =
      .ok Binary64.zero := by
    decide +kernel
  have hMin : evaluate retry ⟨"low", .min, key⟩ members =
      .ok (.infinite true) := by
    decide +kernel
  rcases evaluate_isExtreme "top" "low" (by simp [members]) rfl
      hNumbers with
    ⟨hi, lo, hHi, hLo, -, -, -, -, hOthers⟩
  cases hMax.symm.trans hHi
  cases hMin.symm.trans hLo
  exact ⟨by simp [members], rfl, hNumbers, hSame, hMax,
    hOthers others hSame⟩

end AppliedRule

end Registrar
