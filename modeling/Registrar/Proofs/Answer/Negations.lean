import Mathlib.Logic.Relation
import Registrar.Proofs.Answer.Extremes
import Registrar.Proofs.Answer.Failures

/-
  This file proves that negations can be pushed inwards: which
  records meet a condition does not change if a negation of
  several conditions becomes one of each of them under the other
  connective, and two negations cancel out.  However these laws
  are applied, they lead to one negation normal form.

  The laws hold for records that lack a field or hold a value of
  the other domain, too.  There, however, the opposite of one
  comparison is not met by meeting another one.

  Key definitions include:
    * `Condition.PushesIn`
    * `Condition.negationNormal`
    * `Condition.IsNegationNormal`

  Main statements:
    * `Condition.PushesIn.holds_eq`
    * `Condition.pushesIn_signed_pushed`
    * `Condition.existsUnique_comparison`
    * `Condition.negationNormal_isEquivalent`
-/

------------------------------------------------------------
-- Laws Of Negation
------------------------------------------------------------

namespace Registrar

/- The connective of the negated operands. -/
def Connective.opposite : Connective → Connective
| .all => .any
| .any => .all

namespace Condition

/- One negation is pushed inwards, anywhere in a condition. -/
inductive PushesIn : Condition → Condition → Prop
| cancel
    {operand : Condition} :
    PushesIn (.negation (.negation operand)) operand
| distribute
    {connective : Connective}
    {operands : List Condition} :
    PushesIn (.negation (.junction connective operands))
      (.junction connective.opposite (operands.map .negation))
| negation
    {c d : Condition}
    (h : PushesIn c d) :
    PushesIn (.negation c) (.negation d)
| junction
    {connective : Connective}
    {c d : Condition}
    (front back : List Condition)
    (h : PushesIn c d) :
    PushesIn (.junction connective (front ++ c :: back))
      (.junction connective (front ++ d :: back))

/- A condition that consists of no others. -/
def IsLeaf : Condition → Prop
| .junction _ _ => False
| .negation _ => False
| _ => True

/- No negation stands before anything but a leaf. -/
inductive IsNegationNormal : Condition → Prop
| leaf
    {c : Condition}
    (h : c.IsLeaf) :
    IsNegationNormal c
| negation
    {c : Condition}
    (h : c.IsLeaf) :
    IsNegationNormal (.negation c)
| junction
    {connective : Connective}
    {operands : List Condition}
    (h : ∀ c ∈ operands, IsNegationNormal c) :
    IsNegationNormal (.junction connective operands)

/- A condition, or its negation. -/
def signed
    (negated : Bool)
    (c : Condition) : Condition :=
  if negated then .negation c else c

mutual

/- A signed condition with its negations pushed to the leaves. -/
def pushed
    (negated : Bool) : Condition → Condition
| .junction connective operands =>
    .junction
      (if negated then connective.opposite else connective)
      (pushedAll negated operands)
| .negation operand => pushed (!negated) operand
| .always => signed negated .always
| .comparison relation key operand =>
    signed negated (.comparison relation key operand)
| .likeness key pattern =>
    signed negated (.likeness key pattern)

/- Several signed conditions, each with its negations pushed. -/
def pushedAll
    (negated : Bool) : List Condition → List Condition
| [] => []
| first :: rest =>
    pushed negated first :: pushedAll negated rest

end

/- The negation normal form of a condition. -/
def negationNormal (c : Condition) : Condition :=
  pushed false c

------------------------------------------------------------
-- Operands One By One
------------------------------------------------------------

/-
  Conditions are covered if junctions are as soon as all of their
  operands are.
-/
@[elab_as_elim]
theorem operandsInduction
    {motive : Condition → Prop}
    (leaf : ∀ c, c.IsLeaf → motive c)
    (negation : ∀ c, motive c → motive (.negation c))
    (junction : ∀ connective operands,
      (∀ c ∈ operands, motive c) →
        motive (.junction connective operands))
    (c : Condition) : motive c :=
  @Condition.rec motive (fun cs => ∀ c ∈ cs, motive c)
    (leaf .always trivial) junction
    (fun relation key operand =>
      leaf (.comparison relation key operand) trivial)
    (fun key pattern => leaf (.likeness key pattern) trivial)
    negation (fun _ hMem => absurd hMem List.not_mem_nil)
    (fun _ _ hHead hTail =>
      List.forall_mem_cons.mpr ⟨hHead, hTail⟩) c

variable {record : Record}

theorem allHold_eq_all (cs : List Condition) :
    allHold record cs = cs.all (holds record) := by
  induction cs with
  | nil => rfl
  | cons c rest ih => rw [allHold, ih, List.all_cons]

theorem anyHolds_eq_any (cs : List Condition) :
    anyHolds record cs = cs.any (holds record) := by
  induction cs with
  | nil => rfl
  | cons c rest ih => rw [anyHolds, ih, List.any_cons]

theorem pushedAll_eq_map
    (negated : Bool)
    (cs : List Condition) :
    pushedAll negated cs = cs.map (pushed negated) := by
  induction cs with
  | nil => rfl
  | cons c rest ih => rw [pushedAll, ih, List.map_cons]

theorem pushed_of_isLeaf
    {c : Condition}
    (h : c.IsLeaf)
    (negated : Bool) :
    pushed negated c = signed negated c := by
  cases c with
  | junction connective operands => cases h
  | negation operand => cases h
  | _ => rfl

------------------------------------------------------------
-- Pushed Negations Change Nothing
------------------------------------------------------------

/- Records meet the same conditions after one law is applied. -/
theorem PushesIn.holds_eq
    {c d : Condition}
    (h : PushesIn c d) :
    holds record d = holds record c := by
  induction h with
  | cancel => simp only [holds, Bool.not_not]
  | @distribute connective operands =>
      cases connective <;>
        simp [Connective.opposite, holds, allHold_eq_all,
          anyHolds_eq_any, List.any_map, List.all_map,
          Function.comp_def, List.not_all_eq_any_not,
          List.not_any_eq_all_not]
  | negation h ih => simp only [holds, ih]
  | @junction connective c d front back h ih =>
      cases connective <;>
        simp [holds, allHold_eq_all, anyHolds_eq_any, ih]

/- The same is true of any number of laws. -/
theorem holds_eq_of_pushesIn
    {c d : Condition}
    (h : Relation.ReflTransGen PushesIn c d) :
    holds record d = holds record c := by
  induction h with
  | refl => rfl
  | tail _ hStep ih => rw [hStep.holds_eq, ih]

------------------------------------------------------------
-- The Normal Form
------------------------------------------------------------

/- Junctions are pushed operand by operand. -/
private theorem pushesIn_junction
    {connective : Connective}
    {cs ds : List Condition}
    (h : List.Forall₂ (Relation.ReflTransGen PushesIn) cs ds) :
    Relation.ReflTransGen PushesIn (.junction connective cs)
      (.junction connective ds) := by
  -- The operands that have been pushed are kept in front.
  have hFrom : ∀ front, Relation.ReflTransGen PushesIn
      (.junction connective (front ++ cs))
      (.junction connective (front ++ ds)) := by
    induction h with
    | nil => exact fun front => .refl
    | @cons c d cs ds hHead hTail ih =>
        intro front
        have hStep : ∀ a b, PushesIn a b →
            PushesIn (.junction connective (front ++ a :: cs))
              (.junction connective (front ++ b :: cs)) :=
          fun _ _ => PushesIn.junction front cs
        have hFirst := hHead.lift _ hStep
        have hRest := ih (front ++ [d])
        rw [List.append_assoc, List.append_assoc] at hRest
        exact hFirst.trans hRest
  exact hFrom []

/- The laws lead from a signed condition to its pushed form. -/
theorem pushesIn_signed_pushed
    (negated : Bool)
    (c : Condition) :
    Relation.ReflTransGen PushesIn (signed negated c)
      (pushed negated c) := by
  -- A negation turns the sign, so that both signs are covered.
  induction c using operandsInduction generalizing negated with
  | leaf c hLeaf =>
      rw [pushed_of_isLeaf hLeaf]
  | negation c ih =>
      cases negated with
      | false => exact ih true
      | true => exact .head .cancel (ih false)
  | junction connective operands ih =>
      have hOperands : List.Forall₂
          (Relation.ReflTransGen PushesIn)
          (operands.map (signed negated))
          (operands.map (pushed negated)) := by
        rw [List.forall₂_map_left_iff, List.forall₂_map_right_iff,
          List.forall₂_same]
        exact fun c hMem => ih c hMem negated
      rw [pushed, pushedAll_eq_map]
      cases negated with
      | false =>
          have hSame : operands.map (signed false) = operands :=
            List.map_id operands
          rw [hSame] at hOperands
          exact pushesIn_junction hOperands
      | true =>
          exact .head .distribute (pushesIn_junction hOperands)

/- A pushed form is normal. -/
theorem isNegationNormal_pushed
    (negated : Bool)
    (c : Condition) :
    (pushed negated c).IsNegationNormal := by
  induction c using operandsInduction generalizing negated with
  | leaf c hLeaf =>
      rw [pushed_of_isLeaf hLeaf]
      cases negated with
      | false => exact .leaf hLeaf
      | true => exact .negation hLeaf
  | negation c ih => exact ih (!negated)
  | junction connective operands ih =>
      rw [pushed, pushedAll_eq_map]
      apply IsNegationNormal.junction
      intro d hMem
      rcases List.mem_map.mp hMem with ⟨c, hC, rfl⟩
      exact ih c hC negated

/- What is normal is its own pushed form. -/
theorem IsNegationNormal.pushed_eq
    {c : Condition}
    (h : c.IsNegationNormal) :
    pushed false c = c := by
  induction h with
  | leaf h => exact pushed_of_isLeaf h false
  | negation h => exact pushed_of_isLeaf h true
  | @junction connective operands h ih =>
      rw [pushed, pushedAll_eq_map, List.map_congr_left ih,
        List.map_id']
      rfl

/- No law changes the pushed form. -/
theorem PushesIn.pushed_eq
    {c d : Condition}
    (h : PushesIn c d)
    (negated : Bool) :
    pushed negated d = pushed negated c := by
  induction h generalizing negated with
  | cancel => simp only [pushed, Bool.not_not]
  | @distribute connective operands =>
      have hOperands :
          pushed negated ∘ Condition.negation =
            pushed (!negated) := rfl
      simp only [pushed, pushedAll_eq_map, List.map_map,
        hOperands]
      cases negated <;> cases connective <;> rfl
  | negation h ih => exact ih (!negated)
  | junction front back h ih =>
      simp only [pushed, pushedAll_eq_map, List.map_append,
        List.map_cons, ih]

/- A normal form that the laws lead to is the pushed form. -/
theorem eq_negationNormal_of_pushesIn
    {c d : Condition}
    (h : Relation.ReflTransGen PushesIn c d)
    (hNormal : d.IsNegationNormal) :
    d = c.negationNormal := by
  -- All conditions on the way have one pushed form.
  have hSame : pushed false d = pushed false c := by
    clear hNormal
    induction h with
    | refl => rfl
    | tail _ hStep ih => rw [hStep.pushed_eq, ih]
  rw [negationNormal, ← hSame, hNormal.pushed_eq]

------------------------------------------------------------
-- Comparisons And Their Negations
------------------------------------------------------------

/- Two numbers stand in exactly one relation. -/
theorem existsUnique_relates
    {x y : Binary64}
    (hx : ¬ x.IsNan)
    (hy : ¬ y.IsNan) :
    ∃! relation : Relation, relation.relates x y = true := by
  rcases Binary64.exists_rank_iff.mpr hx with ⟨a, hA⟩
  rcases Binary64.exists_rank_iff.mpr hy with ⟨b, hB⟩
  have hBelow : Relation.relates .below x y = true ↔ a < b := by
    simp [Relation.relates, Binary64.isBelow_iff_exists_rank,
      hA, hB]
  have hAbove : Relation.relates .above x y = true ↔ b < a := by
    simp [Relation.relates, Binary64.isBelow_iff_exists_rank,
      hA, hB]
  have hEqual : Relation.relates .equal x y = true ↔ a = b := by
    simpa [Relation.relates, Binary64.isSame_iff_exists_rank,
      hA, hB] using eq_comm
  rcases lt_trichotomy a b with hLess | hEq | hLess
  · refine ⟨.below, hBelow.mpr hLess, ?_⟩
    intro relation h
    cases relation with
    | below => rfl
    | above => exact absurd (hAbove.mp h) hLess.asymm
    | equal => exact absurd (hEqual.mp h) hLess.ne
  · refine ⟨.equal, hEqual.mpr hEq, ?_⟩
    intro relation h
    cases relation with
    | below => exact absurd hEq (hBelow.mp h).ne
    | above => exact absurd hEq.symm (hAbove.mp h).ne
    | equal => rfl
  · refine ⟨.above, hAbove.mpr hLess, ?_⟩
    intro relation h
    cases relation with
    | below => exact absurd (hBelow.mp h) hLess.asymm
    | above => rfl
    | equal => exact absurd (hEqual.mp h).symm hLess.ne

variable {key : Key} {operand : Binary64}

/- A comparison is decided by the number that is there. -/
private theorem comparesTo_of_get?
    {field : Field}
    {x : Binary64}
    (h : record.get? field = some (.number x))
    (relation : Relation) :
    comparesTo record relation field operand =
      relation.relates x operand := by
  unfold comparesTo
  rw [h]

/- Without a number no comparison is met. -/
theorem comparison_eq_false
    (h : ¬ record.HasNumber key.field)
    (relation : Relation) :
    holds record (.comparison relation key operand) = false := by
  rw [holds]
  unfold comparesTo
  split
  · next x hX => exact absurd ⟨x, hX⟩ h
  · rfl

/- With a number exactly one of the comparisons is met. -/
theorem existsUnique_comparison
    (hNumbers : record.WithoutNan)
    (hOperand : ¬ operand.IsNan)
    (h : record.HasNumber key.field) :
    ∃! relation : Relation,
      holds record (.comparison relation key operand) = true := by
  rcases h with ⟨x, hX⟩
  have hNan : ¬ x.IsNan := hNumbers.not_isNan hX
  simp only [holds, comparesTo_of_get? hX]
  exact existsUnique_relates hNan hOperand

/-
  What is not below a number is above it or equal to it if and
  only if a number is there.
-/
theorem not_below_eq_iff
    (hNumbers : record.WithoutNan)
    (hOperand : ¬ operand.IsNan) :
    holds record (.negation (.comparison .below key operand)) =
        holds record
          (.junction .any
            [.comparison .above key operand,
              .comparison .equal key operand]) ↔
      record.HasNumber key.field := by
  have hNegation (c : Condition) :
      holds record (.negation c) = !holds record c := by
    rw [holds]
  have hEither (c d : Condition) :
      holds record (.junction .any [c, d]) =
        (holds record c || holds record d) := by
    simp only [holds, anyHolds, Bool.or_false]
  rw [hNegation, hEither]
  by_cases h : record.HasNumber key.field
  · rcases existsUnique_comparison hNumbers hOperand h with
      ⟨relation, hMet, hOnly⟩
    have hOther : ∀ other, other ≠ relation →
        holds record (.comparison other key operand) = false :=
      fun other hNe =>
        Bool.eq_false_iff.mpr fun hAlso => hNe (hOnly other hAlso)
    simp only [h, iff_true]
    cases relation with
    | below =>
        rw [hMet, hOther .above (by decide),
          hOther .equal (by decide)]
        rfl
    | above =>
        rw [hMet, hOther .below (by decide)]
        rfl
    | equal =>
        rw [hMet, hOther .below (by decide), Bool.or_true]
        rfl
  · simp [h, comparison_eq_false h]

/-
  The laws of negation lead from a condition to its negation
  normal form, and to no other one.  The same records meet it,
  and all that comes up on the way.  A record with a number for
  a key meets one comparison out of three, and a record without
  one meets none, so that only there what is not below is not
  above or equal either.
-/
theorem negationNormal_isEquivalent
    (record : Record)
    (c : Condition) :
    holds record c.negationNormal = holds record c ∧
    c.negationNormal.IsNegationNormal ∧
    Relation.ReflTransGen PushesIn c c.negationNormal ∧
    (∀ d, Relation.ReflTransGen PushesIn c d →
      holds record d = holds record c ∧
        (d.IsNegationNormal → d = c.negationNormal)) ∧
    ∀ (key : Key) (operand : Binary64),
      record.WithoutNan → ¬ operand.IsNan →
      (record.HasNumber key.field →
        ∃! relation : Relation,
          holds record (.comparison relation key operand) =
            true) ∧
      (¬ record.HasNumber key.field → ∀ relation : Relation,
        holds record (.comparison relation key operand) =
          false) ∧
      (holds record
            (.negation (.comparison .below key operand)) =
          holds record
            (.junction .any
              [.comparison .above key operand,
                .comparison .equal key operand]) ↔
        record.HasNumber key.field) := by
  have hReached : Relation.ReflTransGen PushesIn c
      c.negationNormal :=
    pushesIn_signed_pushed false c
  refine ⟨holds_eq_of_pushesIn hReached,
    isNegationNormal_pushed false c, hReached, ?_, ?_⟩
  · intro d h
    exact ⟨holds_eq_of_pushesIn h,
      eq_negationNormal_of_pushesIn h⟩
  · intro key operand hNumbers hOperand
    exact ⟨existsUnique_comparison hNumbers hOperand,
      comparison_eq_false, not_below_eq_iff hNumbers hOperand⟩

/-
  A record that has no department and a text for its mean meets
  the opposite of two conditions as it meets their opposites.
  Its mean is not below 75, nor above it or equal to it.
-/
theorem negationNormal_isEquivalent_text :
    let avg : Key := ⟨"ubc", .avg⟩
    let record : Record := ⟨[("avg", .text "high")]⟩
    let c : Condition := .likeness ⟨"ubc", .dept⟩
      ⟨false, true, ['c', 'p']⟩
    let d : Condition :=
      .comparison .above avg (Binary64.ofNat 75)
    record.WithoutNan ∧
    holds record
        (.negation (.junction .all [c, .negation d])) = true ∧
    holds record (.junction .any [.negation c, d]) = true ∧
    holds record
        (.negation
          (.comparison .below avg (Binary64.ofNat 75))) ≠
      holds record
        (.junction .any
          [d, .comparison .equal avg (Binary64.ofNat 75)]) := by
  intro avg record c d
  have hNumbers : record.WithoutNan := by decide
  have hHolds : holds record
      (.negation (.junction .all [c, .negation d])) = true := by
    decide +kernel
  have h := negationNormal_isEquivalent record
    (.negation (.junction .all [c, .negation d]))
  refine ⟨hNumbers, hHolds, h.1.trans hHolds, ?_⟩
  intro hSame
  rcases (h.2.2.2.2 avg _ hNumbers
      (Binary64.not_isNan_ofNat 75)).2.2.mp hSame with ⟨x, hX⟩
  cases hX

end Condition

end Registrar
