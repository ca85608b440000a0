import Registrar.Proofs.Answer.Conditions
import Registrar.Proofs.Answer.Partition

/-
  This file proves what values that agree have in common: they
  belong to one domain, lie to all others in the same way, and
  cannot be told apart by conditions.

  Main statements:
    * `Value.agree_iff`
    * `Value.compareBy_eq_of_agree`
    * `Record.AgreesOn.alikeIn`
-/

------------------------------------------------------------
-- Numbers In One Place
------------------------------------------------------------

namespace Registrar

/- How a number lies to others is known from its place. -/
theorem Binary64.compare?_eq_of_rank_eq
    {x y : Binary64}
    (h : x.rank = y.rank)
    (z : Binary64) :
    x.compare? z = y.compare? z ∧
      z.compare? x = z.compare? y := by
  unfold compare?
  rw [h]
  exact ⟨rfl, rfl⟩

/- So are the relations in which it stands. -/
theorem Relation.relates_eq_of_rank_eq
    {x y : Binary64}
    (h : x.rank = y.rank)
    (relation : Relation)
    (operand : Binary64) :
    relation.relates x operand =
      relation.relates y operand := by
  rcases Binary64.compare?_eq_of_rank_eq h operand with
    ⟨hLeft, hRight⟩
  cases relation <;>
    simp only [relates, Binary64.isBelow, Binary64.isSame,
      hLeft, hRight]

------------------------------------------------------------
-- Values That Agree
------------------------------------------------------------

namespace Value

variable {a b c : Option Value}

/-
  Values agree if both lack, if they are numbers in one place,
  or if they are one text.
-/
theorem agree_iff :
    Agree a b ↔
      (a = none ∧ b = none) ∨
      (∃ x y place, a = some (.number x) ∧
        b = some (.number y) ∧
        x.rank = some place ∧ y.rank = some place) ∨
      ∃ s, a = some (.text s) ∧ b = some (.text s) := by
  match a, b with
  | none, none => simp [Agree]
  | none, some y => simp [Agree]
  | some x, none => simp [Agree]
  | some (.number x), some (.text t) => simp [Agree]
  | some (.text s), some (.number y) => simp [Agree]
  | some (.text s), some (.text t) => simp [Agree, eq_comm]
  | some (.number x), some (.number y) =>
      simp [Agree, Binary64.isSame_iff_exists_rank]

/- Values without NaN agree with themselves. -/
theorem agree_self
    (h : ∀ value ∈ a, ¬ value.IsNan) :
    Agree a a := by
  rw [agree_iff]
  match a with
  | none => exact .inl ⟨rfl, rfl⟩
  | some (.text s) => exact .inr (.inr ⟨s, rfl, rfl⟩)
  | some (.number x) =>
      have hNe : ¬ x.IsNan := h (.number x) rfl
      rcases Binary64.exists_rank_iff.mpr hNe with ⟨place, hx⟩
      exact .inr (.inl ⟨x, x, place, rfl, rfl, hx, hx⟩)

/- Values that agree are of one domain. -/
theorem Agree.map_domain_eq (h : Agree a b) :
    a.map domain = b.map domain := by
  rcases agree_iff.mp h with
    ⟨rfl, rfl⟩ | ⟨x, y, place, rfl, rfl, -, -⟩ | ⟨s, rfl, rfl⟩
  · rfl
  · rfl
  · rfl

/- Values that agree still do if those of one domain are kept. -/
theorem Agree.filter
    (h : Agree a b)
    (d : Domain) :
    Agree (a.filter fun value => value.domain = d)
      (b.filter fun value => value.domain = d) := by
  have hDomain := h.map_domain_eq
  cases a with
  | none =>
      cases b with
      | none => exact h
      | some y => cases hDomain
  | some x =>
      cases b with
      | none => cases hDomain
      | some y =>
          have hSame : x.domain = y.domain :=
            Option.some.inj hDomain
          by_cases hKept : y.domain = d
          · simpa [Option.filter, hSame, hKept] using h
          · simp [Option.filter, hSame, hKept, Agree]

/- Values that agree lie to all others in the same way. -/
theorem compareBy_eq_of_agree
    {x y : Value}
    (h : Agree (some x) (some y))
    (collate : TextOrder)
    (z : Value) :
    z.compareBy collate x = z.compareBy collate y := by
  rcases agree_iff.mp h with
    ⟨hNone, -⟩ | ⟨m, n, place, hx, hy, hm, hn⟩ | ⟨s, hx, hy⟩
  · cases hNone
  · cases hx
    cases hy
    have hRank := hm.trans hn.symm
    cases z with
    | text t => rfl
    | number k =>
        simp only [compareBy,
          (Binary64.compare?_eq_of_rank_eq hRank k).2]
  · cases hx
    cases hy
    rfl

end Value

------------------------------------------------------------
-- Records That Agree
------------------------------------------------------------

/- Records that agree look alike to conditions. -/
theorem Record.AgreesOn.alikeIn
    {keys : List Key}
    {key : Key}
    {r s : Record}
    (h : Record.AgreesOn keys r s)
    (hMem : key ∈ keys) :
    Record.AlikeIn key.field r s := by
  unfold Record.AgreesOn at h
  constructor
  · intro relation operand
    unfold Condition.comparesTo
    rcases Value.agree_iff.mp (h key hMem) with
      ⟨hr, hs⟩ | ⟨x, y, place, hr, hs, hx, hy⟩ | ⟨t, hr, hs⟩
    · rw [hr, hs]
    · rw [hr, hs]
      exact relation.relates_eq_of_rank_eq (hx.trans hy.symm)
        operand
    · rw [hr, hs]
  · intro pattern
    unfold Condition.isLike
    rcases Value.agree_iff.mp (h key hMem) with
      ⟨hr, hs⟩ | ⟨x, y, place, hr, hs, -, -⟩ | ⟨t, hr, hs⟩
    · rw [hr, hs]
    · rw [hr, hs]
    · rw [hr, hs]

end Registrar
