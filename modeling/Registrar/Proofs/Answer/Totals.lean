import Mathlib.Algebra.Order.BigOperators.Group.List
import Mathlib.Algebra.Order.BigOperators.Group.Multiset
import Registrar.Answer.Total
import Registrar.Proofs.Answer.Rules
import Registrar.Proofs.Numeric.Quotients

/-
  This file proves that sums and averages of ordinary numbers
  are exact: they are the sum of the numbers as they are written
  in decimal, or that sum divided by their count, rounded once
  to two places, an exact half away from zero.  The order of the
  members plays no part.

  Key definitions include:
    * `Binary64.decimalValue`
    * `Total.IsOrdinary`

  Main statements:
    * `Total.exists_exact_ofList`
    * `AppliedRule.evaluate_of_isOrdinary`
-/

------------------------------------------------------------
-- Numbers As They Are Written
------------------------------------------------------------

namespace Registrar

variable {retry : Decimal.Conversion}

-- Powers up to 10^28 occur; none of them is to be computed.
attribute [local irreducible] tenTo

namespace Binary64

/- How many decimals the plain text of a value has. -/
def decimals (x : Binary64) : Nat :=
  x.numeral.decimals.length

/- The number that the plain text of a value denotes. -/
def decimalValue (x : Binary64) : ℚ :=
  x.numeral.value

/- A number whose digits fit is taken as it is written, and no
  second attempt is made. -/
theorem exists_decimal
    {x : Binary64}
    {places : Nat}
    (hFinite : x.IsFinite)
    (hDecimals : x.decimals ≤ places)
    (hPlaces : places ≤ Decimal.placesLimit)
    (hFits : |x.decimalValue| * 10 ^ places ≤
      Decimal.mantissaLimit) :
    ∃ a : Decimal,
      Decimal.ofDigits? x = some a ∧
      a.value = x.decimalValue ∧ a.places ≤ places := by
  have hScale : (10 : ℚ) ^ x.decimals ≤ 10 ^ places :=
    pow_le_pow_right₀ (by norm_num) hDecimals
  have hSignificand :
      (x.numeral.significand : ℚ) ≤ Decimal.mantissaLimit := by
    rw [← Json.Numeral.abs_value_mul x.exponent_numeral]
    exact le_trans
      (mul_le_mul_of_nonneg_left hScale (abs_nonneg _)) hFits
  rcases Decimal.exists_ofDigits? hFinite
      (Nat.le_trans hDecimals hPlaces)
      (by exact_mod_cast hSignificand) with
    ⟨a, hSome, hValue, hSame⟩
  exact ⟨a, hSome, hValue, hSame.trans_le hDecimals⟩

end Binary64

------------------------------------------------------------
-- Exact Totals
------------------------------------------------------------

namespace Total

/-
  Numbers that are finite and have at most so many decimals,
  twenty or fewer.  Neither their magnitudes together nor their
  count, in units of the last decimal, exceed 10^25.
-/
structure IsOrdinary
    (places : Nat)
    (xs : List Binary64) : Prop where
  finite : ∀ x ∈ xs, x.IsFinite
  decimals_le : ∀ x ∈ xs, x.decimals ≤ places
  places_le : places ≤ 20
  sum_le :
    (xs.map fun x => |x.decimalValue|).sum * 10 ^ places ≤
      10 ^ 25
  count_le : xs.length * 10 ^ places ≤ 10 ^ 25

/- The order of ordinary numbers plays no part. -/
theorem IsOrdinary.of_perm
    {places : Nat}
    {xs ys : List Binary64}
    (h : IsOrdinary places xs)
    (hPerm : xs.Perm ys) :
    IsOrdinary places ys where
  finite := fun y hMem => h.finite y (hPerm.mem_iff.mpr hMem)
  decimals_le := fun y hMem =>
    h.decimals_le y (hPerm.mem_iff.mpr hMem)
  places_le := h.places_le
  sum_le := by
    rw [← (hPerm.map _).sum_eq]
    exact h.sum_le
  count_le := by
    rw [← hPerm.length_eq]
    exact h.count_le

/- No sum is larger than the magnitudes together. -/
private theorem abs_sum_le (xs : List Binary64) :
    |(xs.map Binary64.decimalValue).sum| ≤
      (xs.map fun x => |x.decimalValue|).sum := by
  induction xs with
  | nil => simp
  | cons x xs ih =>
      rw [List.map_cons, List.map_cons, List.sum_cons,
        List.sum_cons]
      exact le_trans (abs_add_le _ _) (add_le_add_right ih _)

/- A total stays exact if the number and the sum fit. -/
theorem exists_exact_add
    {total : Total}
    {sum : Decimal}
    {x : Binary64}
    {places : Nat}
    (hPlaces : places ≤ Decimal.placesLimit)
    (hExact : total.exact = some sum)
    (hSumPlaces : sum.places ≤ places)
    (hFinite : x.IsFinite)
    (hDecimals : x.decimals ≤ places)
    (hNumber : |x.decimalValue| * 10 ^ places ≤
      Decimal.mantissaLimit)
    (hSum : |sum.value + x.decimalValue| * 10 ^ places ≤
      Decimal.mantissaLimit) :
    ∃ next : Decimal,
      (total.add retry x).exact = some next ∧
      next.value = sum.value + x.decimalValue ∧
      next.places ≤ places := by
  rcases Binary64.exists_decimal hFinite hDecimals hPlaces
      hNumber with
    ⟨a, hA, hValue, hAPlaces⟩
  rw [← hValue] at hSum ⊢
  rcases Decimal.exists_add? hSumPlaces hAPlaces hPlaces hSum with
    ⟨next, hNext, hNextParts⟩
  refine ⟨next, ?_, hNextParts⟩
  rw [add]
  simp only [hExact, Decimal.ofBinary64?_of_ofDigits? hA, hNext]

/-
  A total whose magnitudes together fit is kept as a decimal and
  is exact, whatever the sums on the way are.
-/
theorem exists_exact_ofList
    (retry : Decimal.Conversion)
    {places : Nat}
    (hPlaces : places ≤ Decimal.placesLimit)
    (xs : List Binary64)
    (hFinite : ∀ x ∈ xs, x.IsFinite)
    (hDecimals : ∀ x ∈ xs, x.decimals ≤ places)
    (hFits :
      (xs.map fun x => |x.decimalValue|).sum * 10 ^ places ≤
        Decimal.mantissaLimit) :
    ∃ sum : Decimal,
      (ofList retry xs).exact = some sum ∧
      sum.value = (xs.map Binary64.decimalValue).sum ∧
      sum.places ≤ places := by
  induction xs using List.reverseRecOn with
  | nil =>
      refine ⟨Decimal.zero, rfl, ?_, Nat.zero_le _⟩
      simp [Decimal.value, Decimal.zero]
  | append_singleton xs x ih =>
      rw [List.map_append, List.map_singleton, List.sum_append,
        List.sum_singleton] at hFits ⊢
      rcases List.forall_mem_append.mp hFinite with
        ⟨hFiniteBefore, hFiniteLast⟩
      rcases List.forall_mem_append.mp hDecimals with
        ⟨hDecimalsBefore, hDecimalsLast⟩
      have hScale : (0 : ℚ) ≤ 10 ^ places := by positivity
      have hBefore := abs_sum_le xs
      have hBeforeNonneg := abs_nonneg
        (xs.map Binary64.decimalValue).sum
      have hLastNonneg := abs_nonneg x.decimalValue
      have hTriangle := abs_add_le
        (xs.map Binary64.decimalValue).sum x.decimalValue
      -- What is at most all magnitudes together fits as they do.
      have hWithin : ∀ q : ℚ,
          q ≤ (xs.map fun x => |x.decimalValue|).sum +
            |x.decimalValue| →
          q * 10 ^ places ≤ Decimal.mantissaLimit :=
        fun q hLe =>
          le_trans (mul_le_mul_of_nonneg_right hLe hScale) hFits
      rcases ih hFiniteBefore hDecimalsBefore
          (hWithin _ (by linarith)) with
        ⟨sum, hSum, hValue, hSumPlaces⟩
      have hStep : ofList retry (xs ++ [x]) =
          (ofList retry xs).add retry x := by
        simp [ofList]
      rw [hStep, ← hValue]
      rw [← hValue] at hTriangle hBefore hBeforeNonneg
      exact exists_exact_add hPlaces hSum hSumPlaces
        (hFiniteLast x List.mem_cons_self)
        (hDecimalsLast x List.mem_cons_self)
        (hWithin _ (by linarith)) (hWithin _ (by linarith))

section Ordinary

variable {places : Nat} {xs : List Binary64}

/- The sum of ordinary numbers is exact. -/
theorem IsOrdinary.exists_sum
    (h : IsOrdinary places xs)
    (retry : Decimal.Conversion) :
    ∃ sum : Decimal,
      (ofList retry xs).exact = some sum ∧
      sum.value = (xs.map Binary64.decimalValue).sum ∧
      sum.places ≤ places ∧
      sum.mantissa.natAbs ≤ tenTo 25 := by
  have hLimit : (10 ^ 25 : ℚ) ≤ Decimal.mantissaLimit := by
    have hNat : tenTo 25 ≤ Decimal.mantissaLimit := by
      decide +kernel
    rw [← cast_tenTo]
    exact_mod_cast hNat
  have hPlaces : places ≤ Decimal.placesLimit :=
    Nat.le_trans h.places_le (by decide)
  rcases exists_exact_ofList retry hPlaces xs h.finite h.decimals_le
      (le_trans h.sum_le hLimit) with
    ⟨sum, hSum, hValue, hSumPlaces⟩
  have hMantissa : (sum.mantissa.natAbs : ℚ) ≤ tenTo 25 := by
    have hScale : (10 : ℚ) ^ sum.places ≤ 10 ^ places :=
      pow_le_pow_right₀ (by norm_num) hSumPlaces
    rw [Nat.cast_natAbs, Int.cast_abs, ← sum.value_mul, abs_mul,
      abs_of_pos (by positivity : (0 : ℚ) < 10 ^ sum.places),
      hValue, cast_tenTo]
    calc |(xs.map Binary64.decimalValue).sum| * 10 ^ sum.places
        ≤ |(xs.map Binary64.decimalValue).sum| * 10 ^ places :=
          mul_le_mul_of_nonneg_left hScale (abs_nonneg _)
      _ ≤ (xs.map fun x => |x.decimalValue|).sum * 10 ^ places :=
          mul_le_mul_of_nonneg_right (abs_sum_le xs)
            (by positivity)
      _ ≤ 10 ^ 25 := h.sum_le
  exact ⟨sum, hSum, hValue, hSumPlaces, by exact_mod_cast hMantissa⟩

/- The average of ordinary numbers is exact to two places. -/
theorem IsOrdinary.exists_average
    (h : IsOrdinary places xs)
    (hSome : xs ≠ [])
    (retry : Decimal.Conversion) :
    ∃ average : Decimal,
      ((ofList retry xs).divideBy xs.length).exact =
        some average ∧
      roundedTo 2 average.value =
        roundedTo 2
          ((xs.map Binary64.decimalValue).sum / xs.length) := by
  rcases h.exists_sum retry with
    ⟨sum, hSum, hValue, hSumPlaces, hMantissa⟩
  have hDen : tenTo sum.places * xs.length ≤ tenTo 25 := by
    have hCount := h.count_le
    calc tenTo sum.places * xs.length
        ≤ tenTo places * xs.length :=
          Nat.mul_le_mul_right _ (tenTo_le_tenTo hSumPlaces)
      _ = xs.length * tenTo places := Nat.mul_comm _ _
      _ ≤ tenTo 25 := by
          unfold tenTo
          exact hCount
  rcases Decimal.exists_divideBy?
      (List.length_pos_iff.mpr hSome) hMantissa hDen with
    ⟨average, hAverage, hRounded⟩
  refine ⟨average, ?_, ?_⟩
  · rw [divideBy, hSum]
    exact hAverage
  · rw [hRounded, hValue]

/- A total that is kept as a decimal is rounded as that. -/
theorem rounded_of_exact
    {total : Total}
    {d : Decimal}
    (h : total.exact = some d) :
    total.rounded = (d.roundPlaces 2).toBinary64 := by
  rw [rounded, h]
  rfl

end Ordinary

end Total

------------------------------------------------------------
-- Sums And Averages Of Members
------------------------------------------------------------

namespace AppliedRule

/-
  A sum or an average of members with ordinary numbers, in any
  order, is the exact sum of the numbers as they are written,
  divided by their count for an average, and rounded once to two
  places; no binary value stands in for it.
-/
theorem evaluate_of_isOrdinary
    {rule : AppliedRule}
    {members others : List Record}
    {xs : List Binary64}
    {places : Nat}
    (hSome : members ≠ [])
    (hDomain : rule.key.field.domain = .numeric)
    (hNumbers : rule.numbers members = .ok xs)
    (hOrdinary : Total.IsOrdinary places xs)
    (hOrder : members.Perm others) :
    ∃ ys,
      rule.numbers others = .ok ys ∧
      (rule.aggregate = .sum →
        ∃ d : Decimal,
          (Total.ofList retry ys).exact = some d ∧
          (d.roundPlaces 2).value =
            roundedTo 2 (xs.map Binary64.decimalValue).sum ∧
          rule.evaluate retry others =
            .ok (d.roundPlaces 2).toBinary64) ∧
      (rule.aggregate = .avg →
        ∃ d : Decimal,
          ((Total.ofList retry ys).divideBy others.length).exact =
            some d ∧
          (d.roundPlaces 2).value =
            roundedTo 2
              ((xs.map Binary64.decimalValue).sum /
                members.length) ∧
          rule.evaluate retry others =
            .ok (d.roundPlaces 2).toBinary64) := by
  rcases numbers_of_perm hOrder hNumbers with
    ⟨ys, hYs, hPerm⟩
  have hOrdinaryYs := hOrdinary.of_perm hPerm
  have hSum : (ys.map Binary64.decimalValue).sum =
      (xs.map Binary64.decimalValue).sum :=
    (hPerm.map _).sum_eq.symm
  have hLength : ys.length = others.length :=
    (numbers_eq_ok_iff.mp hYs).length_eq.symm
  have hCount : ys.length = members.length := by
    rw [hLength, hOrder.length_eq]
  have hChecked : ¬ (rule.aggregate.needsNumbers = true ∧
      rule.key.field.domain ≠ .numeric) :=
    fun hBoth => hBoth.2 hDomain
  refine ⟨ys, hYs, ?_, ?_⟩
  · intro hAggregate
    rcases hOrdinaryYs.exists_sum retry with
      ⟨d, hExact, hValue, -, -⟩
    refine ⟨d, hExact, ?_, ?_⟩
    · rw [Decimal.value_roundPlaces, hValue, hSum]
    · unfold evaluate
      rw [if_neg hChecked]
      simp only [hAggregate, hYs, ok_bind,
        Total.rounded_of_exact hExact]
      rfl
  · intro hAggregate
    have hYsSome : ys ≠ [] := by
      apply List.ne_nil_of_length_pos
      rw [hCount]
      exact List.length_pos_iff.mpr hSome
    rcases hOrdinaryYs.exists_average hYsSome retry with
      ⟨d, hExact, hRounded⟩
    rw [hLength] at hExact
    refine ⟨d, hExact, ?_, ?_⟩
    · rw [Decimal.value_roundPlaces, hRounded, hSum, hCount]
    · unfold evaluate
      rw [if_neg hChecked]
      simp only [hAggregate, hYs, ok_bind,
        Total.rounded_of_exact hExact]
      rfl

/-
  The average of 81.17, 81.18 and 77.13, in this order or in the
  opposite one, is 79.83.
-/
theorem evaluate_of_isOrdinary_means :
    let mean (hundredths : Nat) : Binary64 :=
      Binary64.ofScientific false hundredths (-2)
    let record (hundredths : Nat) : Record :=
      ⟨[("avg", .number (mean hundredths))]⟩
    let members := [8117, 8118, 7713].map record
    let others := [7713, 8118, 8117].map record
    let rule : AppliedRule := ⟨"mean", .avg, ⟨"ubc", .avg⟩⟩
    rule.numbers members = .ok ([8117, 8118, 7713].map mean) ∧
    Total.IsOrdinary 2 ([8117, 8118, 7713].map mean) ∧
    members.Perm others ∧
    ∃ d : Decimal,
      d.value = 7983 / 100 ∧
      rule.evaluate Decimal.noRetry others =
        .ok d.toBinary64 := by
  intro mean record members others rule
  have hNumbers : rule.numbers members =
      .ok ([8117, 8118, 7713].map mean) := by
    decide +kernel
  have hPerm : members.Perm others := by
    decide +kernel
  have hNumerals : ∀ n ∈ [8117, 8118, 7713],
      (mean n).numeral.negative = false ∧
      (mean n).numeral.significand = n ∧
      (mean n).numeral.decimals.length = 2 := by
    decide +kernel
  have hValues : ∀ n ∈ [8117, 8118, 7713],
      (mean n).decimalValue = (n : ℚ) / 100 := by
    intro n hMem
    rcases hNumerals n hMem with
      ⟨hNegative, hSignificand, hDecimals⟩
    unfold Binary64.decimalValue
    rw [Json.Numeral.value_of_exponent_eq_none
      (mean n).exponent_numeral, hNegative, hSignificand,
      hDecimals, cast_tenTo]
    norm_num
  have hOrdinary :
      Total.IsOrdinary 2 ([8117, 8118, 7713].map mean) := by
    refine ⟨?_, ?_, by decide, ?_, by norm_num⟩
    · decide +kernel
    · decide +kernel
    · simp [hValues]
      norm_num
  rcases evaluate_of_isOrdinary (by simp [members]) rfl hNumbers
      hOrdinary hPerm with
    ⟨ys, -, -, hAverage⟩
  rcases hAverage rfl with ⟨d, -, hValue, hEvaluate⟩
  refine ⟨hNumbers, hOrdinary, hPerm, d.roundPlaces 2, ?_,
    hEvaluate⟩
  have hExact :
      ((([8117, 8118, 7713].map mean).map
        Binary64.decimalValue).sum / members.length : ℚ) =
          ((23948 : Nat) : ℚ) / (300 : Nat) := by
    simp [hValues, members]
    norm_num
  have hRound : TieRule.awayFromZero.roundQuotient
      (23948 * tenTo 2) 300 = 7983 := by
    decide +kernel
  rw [hValue, hExact, roundedTo_div 2 _ (by decide), hRound]
  norm_num

end AppliedRule

end Registrar
