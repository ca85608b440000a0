/-
  This file names the powers that numbers are scaled by.

  Key definitions include:
    * `twoTo`
    * `fiveTo`
    * `tenTo`

  Powers are positive and grow, and those of two measure how
  many binary digits a number has:
    * `twoTo_pos`
    * `twoTo_add`
    * `twoTo_lt_twoTo`
    * `log2_lt_iff_lt_twoTo`
    * `tenTo_pos`
    * `tenTo_zero`
    * `tenTo_le_tenTo`
    * `tenTo_add`
-/

------------------------------------------------------------
-- Powers
------------------------------------------------------------

namespace Registrar

/- A power of two. -/
def twoTo (exponent : Nat) : Nat :=
  Nat.pow 2 exponent

/- A power of five. -/
def fiveTo (exponent : Nat) : Nat :=
  Nat.pow 5 exponent

/- A power of ten. -/
def tenTo (exponent : Nat) : Nat :=
  Nat.pow 10 exponent

/- Powers of two are positive. -/
theorem twoTo_pos (n : Nat) : 0 < twoTo n :=
  Nat.two_pow_pos n

/- Two to the power of zero is one. -/
theorem twoTo_zero : twoTo 0 = 1 :=
  rfl

/- The power of a sum is the product of the powers. -/
theorem twoTo_add (m n : Nat) :
    twoTo (m + n) = twoTo m * twoTo n :=
  Nat.pow_add 2 m n

/- Powers of two grow with the exponent. -/
theorem twoTo_le_twoTo
    {m n : Nat}
    (h : m ≤ n) :
    twoTo m ≤ twoTo n :=
  Nat.pow_le_pow_right (by decide) h

/- A larger exponent makes a larger power of two. -/
theorem twoTo_lt_twoTo
    {m n : Nat}
    (h : m < n) :
    twoTo m < twoTo n :=
  Nat.pow_lt_pow_right (by decide) h

/- A larger power of two is a multiple of a smaller one. -/
theorem twoTo_dvd_twoTo
    {m n : Nat}
    (h : m ≤ n) :
    twoTo m ∣ twoTo n :=
  Nat.pow_dvd_pow 2 h

/- A power of two has its exponent as the logarithm. -/
theorem log2_twoTo (n : Nat) : (twoTo n).log2 = n :=
  Nat.log2_two_pow

/- A number lies below a power if its logarithm does. -/
theorem log2_lt_iff_lt_twoTo
    {n k : Nat}
    (h : n ≠ 0) :
    n.log2 < k ↔ n < twoTo k :=
  Nat.log2_lt h

/- A number is at least the power with its logarithm. -/
theorem twoTo_log2_le
    {n : Nat}
    (h : n ≠ 0) :
    twoTo n.log2 ≤ n :=
  Nat.log2_self_le h

/- A number lies below the power above its logarithm. -/
theorem lt_twoTo_log2_succ (n : Nat) :
    n < twoTo (n.log2 + 1) :=
  Nat.lt_log2_self

/- Powers of ten are positive. -/
theorem tenTo_pos (n : Nat) : 0 < tenTo n :=
  Nat.pow_pos (by decide)

/- Ten to the power of zero is one. -/
theorem tenTo_zero : tenTo 0 = 1 :=
  rfl

/- Powers of ten grow with the exponent. -/
theorem tenTo_le_tenTo
    {m n : Nat}
    (h : m ≤ n) :
    tenTo m ≤ tenTo n :=
  Nat.pow_le_pow_right (by decide) h

/- The power of a sum is the product of the powers. -/
theorem tenTo_add (m n : Nat) :
    tenTo (m + n) = tenTo m * tenTo n :=
  Nat.pow_add 10 m n

end Registrar
