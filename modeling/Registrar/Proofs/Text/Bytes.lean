import Mathlib.Data.String.Basic

/-
  This file proves that texts are ordered by code points as they
  are by the bytes of their UTF-8 encoding.

  A character with a greater code point takes no fewer bytes.
  The first byte grows with their number, and bytes of the same
  number hold the digits of the code point, the highest first.

  Key definitions include:
    * `Text.bytesOf`

  Main statements:
    * `Text.encode_append_lt`
    * `Text.bytesOf_lt_iff`
-/

------------------------------------------------------------
-- Encoded Characters
------------------------------------------------------------

namespace Registrar

namespace Text

/- Small numbers are ordered as bytes. -/
private theorem byte_lt_iff
    {m n : Nat}
    (hLeft : m < 256)
    (hRight : n < 256) :
    UInt8.ofNat m < UInt8.ofNat n ↔ m < n := by
  rw [UInt8.lt_iff_toNat_lt, UInt8.toNat_ofNat',
    UInt8.toNat_ofNat', Nat.mod_eq_of_lt hLeft,
    Nat.mod_eq_of_lt hRight]

/- Small numbers differ as bytes. -/
private theorem byte_eq_iff
    {m n : Nat}
    (hLeft : m < 256)
    (hRight : n < 256) :
    UInt8.ofNat m = UInt8.ofNat n ↔ m = n := by
  rw [← UInt8.toNat_inj, UInt8.toNat_ofNat',
    UInt8.toNat_ofNat', Nat.mod_eq_of_lt hLeft,
    Nat.mod_eq_of_lt hRight]

/-
  The bytes of a lesser character are less, whatever follows
  them: no encoding is the start of another.
-/
theorem encode_append_lt
    {c d : Char}
    (h : c < d)
    (after others : List UInt8) :
    String.utf8EncodeChar c ++ after <
      String.utf8EncodeChar d ++ others := by
  have hLess : c.val.toNat < d.val.toNat := h
  have hLimit : d.val.toNat < 0x110000 := by
    rcases d.valid with hLow | ⟨-, hHigh⟩
    · omega
    · exact hHigh
  unfold String.utf8EncodeChar
  dsimp only
  generalize c.val.toNat = m at *
  generalize d.val.toNat = n at *
  -- Each case compares encodings of given lengths.
  split_ifs <;>
    simp (disch := omega) only [List.cons_append,
      List.nil_append, List.cons_lt_cons_iff, byte_lt_iff,
      byte_eq_iff, Nat.mod_eq_of_lt] <;>
    omega

------------------------------------------------------------
-- Encoded Texts
------------------------------------------------------------

/- The bytes that encode a text. -/
def bytesOf (s : String) : List UInt8 :=
  s.toUTF8.data.toList

private theorem bytesOf_eq (s : String) :
    bytesOf s = s.toList.flatMap String.utf8EncodeChar := by
  have hText : s = String.ofList s.toList :=
    String.ofList_toList.symm
  rw [bytesOf, hText, String.toUTF8_eq_toByteArray,
    String.toByteArray_ofList, String.toList_ofList]
  exact List.toList_data_toByteArray

/- Of characters that are less, the bytes are. -/
private theorem flatMap_encode_lt
    {cs ds : List Char}
    (h : cs < ds) :
    cs.flatMap String.utf8EncodeChar <
      ds.flatMap String.utf8EncodeChar := by
  induction cs generalizing ds with
  | nil =>
      cases ds with
      | nil => exact absurd h (List.lt_irrefl [])
      | cons d ds =>
          rcases List.exists_cons_of_ne_nil
              (String.utf8EncodeChar_ne_nil (c := d)) with
            ⟨byte, others, hBytes⟩
          rw [List.flatMap_cons, hBytes]
          exact List.nil_lt_cons _ _
  | cons c cs ih =>
      cases ds with
      | nil => exact absurd h (List.not_lt_nil _)
      | cons d ds =>
          rw [List.flatMap_cons, List.flatMap_cons]
          rcases List.cons_lt_cons_iff.mp h with
            hHead | ⟨rfl, hTail⟩
          · exact encode_append_lt hHead _ _
          · exact List.append_left_lt (ih hTail)

/- Texts are ordered as their bytes are. -/
theorem bytesOf_lt_iff {s t : String} :
    bytesOf s < bytesOf t ↔ s < t := by
  have hForward : ∀ {s t : String},
      s < t → bytesOf s < bytesOf t := by
    intro s t h
    rw [bytesOf_eq, bytesOf_eq]
    exact flatMap_encode_lt (String.lt_iff_toList_lt.mp h)
  refine ⟨?_, hForward⟩
  intro h
  rcases Std.lt_trichotomy s t with hLess | rfl | hMore
  · exact hLess
  · exact absurd h (List.lt_irrefl _)
  · exact absurd h (List.lt_asymm (hForward hMore))

end Text

end Registrar
