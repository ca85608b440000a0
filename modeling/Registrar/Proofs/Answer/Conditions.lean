import Registrar.Query.Condition

/-
  This file proves that a condition tells two records apart only
  if a comparison or a pattern does so in one of its fields.

  Key definitions include:
    * `Record.AlikeIn`

  Main statements:
    * `Condition.holds_eq_of_alikeIn`
-/

------------------------------------------------------------
-- Records That Look Alike
------------------------------------------------------------

namespace Registrar

/-
  Two records look alike in a field: it lies to all numbers in
  the same way, and the same patterns accept it.
-/
structure Record.AlikeIn
    (field : Field)
    (r s : Record) : Prop where
  comparesTo_eq : ∀ relation operand,
    Condition.comparesTo r relation field operand =
      Condition.comparesTo s relation field operand
  isLike_eq : ∀ pattern,
    Condition.isLike r field pattern =
      Condition.isLike s field pattern

namespace Condition

variable {r s : Record}

mutual

/- Records that look alike meet the same conditions. -/
theorem holds_eq_of_alikeIn :
    (c : Condition) →
      (∀ key ∈ c.keys, Record.AlikeIn key.field r s) →
        holds r c = holds s c
| .always, _ => by simp only [holds]
| .junction .all operands, h => by
    simp only [holds]
    exact allHold_eq_of_alikeIn operands h
| .junction .any operands, h => by
    simp only [holds]
    exact anyHolds_eq_of_alikeIn operands h
| .comparison relation key operand, h => by
    simp only [holds]
    exact (h key (List.mem_singleton_self key)).comparesTo_eq
      relation operand
| .likeness key pattern, h => by
    simp only [holds]
    exact (h key (List.mem_singleton_self key)).isLike_eq pattern
| .negation operand, h => by
    simp only [holds]
    rw [holds_eq_of_alikeIn operand h]

private theorem allHold_eq_of_alikeIn :
    (cs : List Condition) →
      (∀ key ∈ keysOfAll cs, Record.AlikeIn key.field r s) →
        allHold r cs = allHold s cs
| [], _ => by simp only [allHold]
| c :: cs, h => by
    rw [keysOfAll, List.forall_mem_append] at h
    simp only [allHold]
    rw [holds_eq_of_alikeIn c h.1, allHold_eq_of_alikeIn cs h.2]

private theorem anyHolds_eq_of_alikeIn :
    (cs : List Condition) →
      (∀ key ∈ keysOfAll cs, Record.AlikeIn key.field r s) →
        anyHolds r cs = anyHolds s cs
| [], _ => by simp only [anyHolds]
| c :: cs, h => by
    rw [keysOfAll, List.forall_mem_append] at h
    simp only [anyHolds]
    rw [holds_eq_of_alikeIn c h.1, anyHolds_eq_of_alikeIn cs h.2]

end

end Condition

end Registrar
