/-
  This file holds the collation elements of characters: what a
  character adds to the three levels on which texts are
  compared.

  Key definitions include:
    * `Collation.Element`
    * `Collation.listed?`
    * `Collation.pair?`
    * `Collation.computed`
-/

------------------------------------------------------------
-- Elements
------------------------------------------------------------

namespace Registrar

namespace Collation

/-
  A weight on each level; zero is skipped.  The levels tell
  letters, then accents, then case and variants.
-/
structure Element where
  letter : Nat
  accent : Nat
  variant : Nat
deriving DecidableEq, Repr

------------------------------------------------------------
-- Listed Characters
------------------------------------------------------------

/- Blanks, signs and digits up to U+0040. -/
def asciiSigns : List (Nat × List Element) :=
  [
    (0x9, [⟨0x100, 0x20, 0x2⟩]), (0xA, [⟨0x101, 0x20, 0x2⟩]),
    (0xB, [⟨0x102, 0x20, 0x2⟩]), (0xC, [⟨0x103, 0x20, 0x2⟩]),
    (0xD, [⟨0x104, 0x20, 0x2⟩]), (0x20, [⟨0x108, 0x20, 0x2⟩]),
    (0x21, [⟨0x167, 0x20, 0x2⟩]), (0x22, [⟨0x231, 0x20, 0x2⟩]),
    (0x23, [⟨0x2C0, 0x20, 0x2⟩]), (0x24, [⟨0x1D71, 0x20, 0x2⟩]),
    (0x25, [⟨0x2C1, 0x20, 0x2⟩]), (0x26, [⟨0x2BD, 0x20, 0x2⟩]),
    (0x27, [⟨0x22E, 0x20, 0x2⟩]), (0x28, [⟨0x234, 0x20, 0x2⟩]),
    (0x29, [⟨0x235, 0x20, 0x2⟩]), (0x2A, [⟨0x2B5, 0x20, 0x2⟩]),
    (0x2B, [⟨0x5A6, 0x20, 0x2⟩]), (0x2C, [⟨0x123, 0x20, 0x2⟩]),
    (0x2D, [⟨0x10C, 0x20, 0x2⟩]), (0x2E, [⟨0x180, 0x20, 0x2⟩]),
    (0x2F, [⟨0x2BA, 0x20, 0x2⟩]), (0x30, [⟨0x1FA0, 0x20, 0x2⟩]),
    (0x31, [⟨0x1FA1, 0x20, 0x2⟩]),
    (0x32, [⟨0x1FA2, 0x20, 0x2⟩]),
    (0x33, [⟨0x1FA3, 0x20, 0x2⟩]),
    (0x34, [⟨0x1FA4, 0x20, 0x2⟩]),
    (0x35, [⟨0x1FA5, 0x20, 0x2⟩]),
    (0x36, [⟨0x1FA6, 0x20, 0x2⟩]),
    (0x37, [⟨0x1FA7, 0x20, 0x2⟩]),
    (0x38, [⟨0x1FA8, 0x20, 0x2⟩]),
    (0x39, [⟨0x1FA9, 0x20, 0x2⟩]), (0x3A, [⟨0x140, 0x20, 0x2⟩]),
    (0x3B, [⟨0x13A, 0x20, 0x2⟩]), (0x3C, [⟨0x5AA, 0x20, 0x2⟩]),
    (0x3D, [⟨0x5AB, 0x20, 0x2⟩]), (0x3E, [⟨0x5AC, 0x20, 0x2⟩]),
    (0x3F, [⟨0x16E, 0x20, 0x2⟩]), (0x40, [⟨0x2B4, 0x20, 0x2⟩])
  ]

/- Letters and signs from U+0041 to U+007E. -/
def asciiLetters : List (Nat × List Element) :=
  [
    (0x41, [⟨0x20A9, 0x20, 0x8⟩]),
    (0x42, [⟨0x20C3, 0x20, 0x8⟩]),
    (0x43, [⟨0x20DD, 0x20, 0x8⟩]),
    (0x44, [⟨0x20F3, 0x20, 0x8⟩]),
    (0x45, [⟨0x2110, 0x20, 0x8⟩]),
    (0x46, [⟨0x214B, 0x20, 0x8⟩]),
    (0x47, [⟨0x215A, 0x20, 0x8⟩]),
    (0x48, [⟨0x2181, 0x20, 0x8⟩]),
    (0x49, [⟨0x219C, 0x20, 0x8⟩]),
    (0x4A, [⟨0x21B8, 0x20, 0x8⟩]),
    (0x4B, [⟨0x21D1, 0x20, 0x8⟩]),
    (0x4C, [⟨0x21E5, 0x20, 0x8⟩]),
    (0x4D, [⟨0x221E, 0x20, 0x8⟩]),
    (0x4E, [⟨0x222D, 0x20, 0x8⟩]),
    (0x4F, [⟨0x2254, 0x20, 0x8⟩]),
    (0x50, [⟨0x2284, 0x20, 0x8⟩]),
    (0x51, [⟨0x2299, 0x20, 0x8⟩]),
    (0x52, [⟨0x22AC, 0x20, 0x8⟩]),
    (0x53, [⟨0x22EE, 0x20, 0x8⟩]),
    (0x54, [⟨0x2318, 0x20, 0x8⟩]),
    (0x55, [⟨0x233B, 0x20, 0x8⟩]),
    (0x56, [⟨0x236B, 0x20, 0x8⟩]),
    (0x57, [⟨0x237D, 0x20, 0x8⟩]),
    (0x58, [⟨0x2387, 0x20, 0x8⟩]),
    (0x59, [⟨0x2393, 0x20, 0x8⟩]),
    (0x5A, [⟨0x23A9, 0x20, 0x8⟩]), (0x5B, [⟨0x236, 0x20, 0x2⟩]),
    (0x5C, [⟨0x2BB, 0x20, 0x2⟩]), (0x5D, [⟨0x237, 0x20, 0x2⟩]),
    (0x5E, [⟨0x3D5, 0x20, 0x2⟩]), (0x5F, [⟨0x10A, 0x20, 0x2⟩]),
    (0x60, [⟨0x3D2, 0x20, 0x2⟩]), (0x61, [⟨0x20A9, 0x20, 0x2⟩]),
    (0x62, [⟨0x20C3, 0x20, 0x2⟩]),
    (0x63, [⟨0x20DD, 0x20, 0x2⟩]),
    (0x64, [⟨0x20F3, 0x20, 0x2⟩]),
    (0x65, [⟨0x2110, 0x20, 0x2⟩]),
    (0x66, [⟨0x214B, 0x20, 0x2⟩]),
    (0x67, [⟨0x215A, 0x20, 0x2⟩]),
    (0x68, [⟨0x2181, 0x20, 0x2⟩]),
    (0x69, [⟨0x219C, 0x20, 0x2⟩]),
    (0x6A, [⟨0x21B8, 0x20, 0x2⟩]),
    (0x6B, [⟨0x21D1, 0x20, 0x2⟩]),
    (0x6C, [⟨0x21E5, 0x20, 0x2⟩]),
    (0x6D, [⟨0x221E, 0x20, 0x2⟩]),
    (0x6E, [⟨0x222D, 0x20, 0x2⟩]),
    (0x6F, [⟨0x2254, 0x20, 0x2⟩]),
    (0x70, [⟨0x2284, 0x20, 0x2⟩]),
    (0x71, [⟨0x2299, 0x20, 0x2⟩]),
    (0x72, [⟨0x22AC, 0x20, 0x2⟩]),
    (0x73, [⟨0x22EE, 0x20, 0x2⟩]),
    (0x74, [⟨0x2318, 0x20, 0x2⟩]),
    (0x75, [⟨0x233B, 0x20, 0x2⟩]),
    (0x76, [⟨0x236B, 0x20, 0x2⟩]),
    (0x77, [⟨0x237D, 0x20, 0x2⟩]),
    (0x78, [⟨0x2387, 0x20, 0x2⟩]),
    (0x79, [⟨0x2393, 0x20, 0x2⟩]),
    (0x7A, [⟨0x23A9, 0x20, 0x2⟩]), (0x7B, [⟨0x238, 0x20, 0x2⟩]),
    (0x7C, [⟨0x5AE, 0x20, 0x2⟩]), (0x7D, [⟨0x239, 0x20, 0x2⟩]),
    (0x7E, [⟨0x5B0, 0x20, 0x2⟩])
  ]

/- Signs and letters from U+0085 to U+00FE. -/
def latinSigns : List (Nat × List Element) :=
  [
    (0x85, [⟨0x105, 0x20, 0x2⟩]), (0xA0, [⟨0x108, 0x20, 0x1B⟩]),
    (0xA1, [⟨0x168, 0x20, 0x2⟩]), (0xA2, [⟨0x1D70, 0x20, 0x2⟩]),
    (0xA3, [⟨0x1D72, 0x20, 0x2⟩]),
    (0xA4, [⟨0x1D6F, 0x20, 0x2⟩]),
    (0xA5, [⟨0x1D73, 0x20, 0x2⟩]), (0xA6, [⟨0x5AF, 0x20, 0x2⟩]),
    (0xA7, [⟨0x2AE, 0x20, 0x2⟩]), (0xA8, [⟨0x3D9, 0x20, 0x2⟩]),
    (0xA9, [⟨0x512, 0x20, 0x2⟩]),
    (0xAA, [⟨0x20A9, 0x20, 0x14⟩]),
    (0xAB, [⟨0x232, 0x20, 0x2⟩]), (0xAC, [⟨0x5AD, 0x20, 0x2⟩]),
    (0xAE, [⟨0x514, 0x20, 0x2⟩]), (0xAF, [⟨0x3D6, 0x20, 0x2⟩]),
    (0xB0, [⟨0x455, 0x20, 0x2⟩]), (0xB1, [⟨0x5A7, 0x20, 0x2⟩]),
    (0xB2, [⟨0x1FA2, 0x20, 0x14⟩]),
    (0xB3, [⟨0x1FA3, 0x20, 0x14⟩]),
    (0xB4, [⟨0x3D3, 0x20, 0x2⟩]), (0xB5, [⟨0x2459, 0x20, 0x4⟩]),
    (0xB6, [⟨0x2B0, 0x20, 0x2⟩]), (0xB7, [⟨0x195, 0x20, 0x2⟩]),
    (0xB8, [⟨0x3DC, 0x20, 0x2⟩]),
    (0xB9, [⟨0x1FA1, 0x20, 0x14⟩]),
    (0xBA, [⟨0x2254, 0x20, 0x14⟩]),
    (0xBB, [⟨0x233, 0x20, 0x2⟩]),
    (0xBC, [⟨0x1FA1, 0x20, 0x1E⟩, ⟨0x5B6, 0x20, 0x1E⟩, ⟨0x1FA4, 0x20, 0x1E⟩]),
    (0xBD, [⟨0x1FA1, 0x20, 0x1E⟩, ⟨0x5B6, 0x20, 0x1E⟩, ⟨0x1FA2, 0x20, 0x1E⟩]),
    (0xBE, [⟨0x1FA3, 0x20, 0x1E⟩, ⟨0x5B6, 0x20, 0x1E⟩, ⟨0x1FA4, 0x20, 0x1E⟩]),
    (0xBF, [⟨0x16F, 0x20, 0x2⟩]),
    (0xC6, [⟨0x20A9, 0x20, 0xA⟩, ⟨0x0, 0x11C, 0x4⟩, ⟨0x2110, 0x20, 0xA⟩]),
    (0xD0, [⟨0x20F3, 0x20, 0xA⟩, ⟨0x0, 0x11C, 0x4⟩]),
    (0xD7, [⟨0x5A9, 0x20, 0x2⟩]),
    (0xD8, [⟨0x2254, 0x20, 0x8⟩, ⟨0x0, 0x2F, 0x2⟩]),
    (0xDE, [⟨0x23D9, 0x20, 0x8⟩]),
    (0xDF, [⟨0x22EE, 0x20, 0x4⟩, ⟨0x0, 0x11C, 0x4⟩, ⟨0x22EE, 0x20, 0x4⟩]),
    (0xE6, [⟨0x20A9, 0x20, 0x4⟩, ⟨0x0, 0x11C, 0x4⟩, ⟨0x2110, 0x20, 0x4⟩]),
    (0xF0, [⟨0x20F3, 0x20, 0x4⟩, ⟨0x0, 0x11C, 0x4⟩]),
    (0xF7, [⟨0x5A8, 0x20, 0x2⟩]),
    (0xF8, [⟨0x2254, 0x20, 0x2⟩, ⟨0x0, 0x2F, 0x2⟩]),
    (0xFE, [⟨0x23D9, 0x20, 0x2⟩])
  ]

/- Letters from U+0110 to U+017F. -/
def latinLetters : List (Nat × List Element) :=
  [
    (0x110, [⟨0x20F3, 0x20, 0x8⟩, ⟨0x0, 0x39, 0x2⟩]),
    (0x111, [⟨0x20F3, 0x20, 0x2⟩, ⟨0x0, 0x39, 0x2⟩]),
    (0x126, [⟨0x2181, 0x20, 0x8⟩, ⟨0x0, 0x39, 0x2⟩]),
    (0x127, [⟨0x2181, 0x20, 0x2⟩, ⟨0x0, 0x39, 0x2⟩]),
    (0x131, [⟨0x21A0, 0x20, 0x2⟩]),
    (0x132, [⟨0x219C, 0x20, 0xA⟩, ⟨0x21B8, 0x20, 0xA⟩]),
    (0x133, [⟨0x219C, 0x20, 0x4⟩, ⟨0x21B8, 0x20, 0x4⟩]),
    (0x138, [⟨0x22A8, 0x20, 0x2⟩]),
    (0x13F, [⟨0x21E5, 0x20, 0x8⟩, ⟨0x0, 0x11C, 0x2⟩]),
    (0x140, [⟨0x21E5, 0x20, 0x2⟩, ⟨0x0, 0x11C, 0x2⟩]),
    (0x141, [⟨0x21E5, 0x20, 0x8⟩, ⟨0x0, 0x39, 0x2⟩]),
    (0x142, [⟨0x21E5, 0x20, 0x2⟩, ⟨0x0, 0x39, 0x2⟩]),
    (0x149, [⟨0x2409, 0x20, 0x4⟩, ⟨0x222D, 0x20, 0x4⟩]),
    (0x14A, [⟨0x224D, 0x20, 0x8⟩]),
    (0x14B, [⟨0x224D, 0x20, 0x2⟩]),
    (0x152, [⟨0x2254, 0x20, 0xA⟩, ⟨0x0, 0x11C, 0x4⟩, ⟨0x2110, 0x20, 0xA⟩]),
    (0x153, [⟨0x2254, 0x20, 0x4⟩, ⟨0x0, 0x11C, 0x4⟩, ⟨0x2110, 0x20, 0x4⟩]),
    (0x166, [⟨0x231D, 0x20, 0x8⟩]),
    (0x167, [⟨0x231D, 0x20, 0x2⟩]),
    (0x17F, [⟨0x22EE, 0x20, 0x4⟩, ⟨0x0, 0x11D, 0x4⟩])
  ]

/- Combining marks and Greek letters. -/
def marksAndGreek : List (Nat × List Element) :=
  [
    (0x300, [⟨0x0, 0x25, 0x2⟩]), (0x301, [⟨0x0, 0x24, 0x2⟩]),
    (0x302, [⟨0x0, 0x27, 0x2⟩]), (0x303, [⟨0x0, 0x2D, 0x2⟩]),
    (0x304, [⟨0x0, 0x32, 0x2⟩]), (0x306, [⟨0x0, 0x26, 0x2⟩]),
    (0x307, [⟨0x0, 0x2E, 0x2⟩]), (0x308, [⟨0x0, 0x2B, 0x2⟩]),
    (0x30A, [⟨0x0, 0x29, 0x2⟩]), (0x30B, [⟨0x0, 0x2C, 0x2⟩]),
    (0x30C, [⟨0x0, 0x28, 0x2⟩]), (0x323, [⟨0x0, 0x42, 0x2⟩]),
    (0x327, [⟨0x0, 0x30, 0x2⟩]), (0x328, [⟨0x0, 0x31, 0x2⟩]),
    (0x331, [⟨0x0, 0x49, 0x2⟩]), (0x391, [⟨0x2447, 0x20, 0x8⟩]),
    (0x3B1, [⟨0x2447, 0x20, 0x2⟩]),
    (0x3B2, [⟨0x2448, 0x20, 0x2⟩]),
    (0x3C2, [⟨0x2465, 0x20, 0x19⟩]),
    (0x3C3, [⟨0x2465, 0x20, 0x2⟩]),
    (0x3C9, [⟨0x246F, 0x20, 0x2⟩])
  ]

/- Letters of other scripts and signs. -/
def others : List (Nat × List Element) :=
  [
    (0x411, [⟨0x24BC, 0x20, 0x8⟩]),
    (0x418, [⟨0x250E, 0x20, 0x8⟩]),
    (0x430, [⟨0x24B0, 0x20, 0x2⟩]),
    (0x431, [⟨0x24BC, 0x20, 0x2⟩]),
    (0x438, [⟨0x250E, 0x20, 0x2⟩]),
    (0x43A, [⟨0x2524, 0x20, 0x2⟩]),
    (0x44F, [⟨0x263D, 0x20, 0x2⟩]),
    (0x5D0, [⟨0x2748, 0x20, 0x2⟩]),
    (0x627, [⟨0x279C, 0x20, 0x2⟩]),
    (0x1100, [⟨0x4323, 0x20, 0x2⟩]),
    (0x1102, [⟨0x4325, 0x20, 0x2⟩]),
    (0x1161, [⟨0x43A1, 0x20, 0x2⟩]),
    (0x11A8, [⟨0x43FF, 0x20, 0x2⟩]),
    (0x2013, [⟨0x114, 0x20, 0x2⟩]),
    (0x2014, [⟨0x115, 0x20, 0x2⟩]),
    (0x2019, [⟨0x22E, 0x20, 0x4⟩, ⟨0x0, 0x11D, 0x4⟩]),
    (0x2026, [⟨0x180, 0x20, 0x4⟩, ⟨0x180, 0x20, 0x4⟩, ⟨0x180, 0x20, 0x4⟩]),
    (0x2028, [⟨0x106, 0x20, 0x2⟩]),
    (0x2044, [⟨0x5B6, 0x20, 0x2⟩]),
    (0x20AC, [⟨0x1D8F, 0x20, 0x2⟩]),
    (0x216B, [⟨0x2387, 0x20, 0xA⟩, ⟨0x219C, 0x20, 0xA⟩, ⟨0x219C, 0x20, 0xA⟩]),
    (0x3000, [⟨0x108, 0x20, 0x3⟩]),
    (0x3042, [⟨0x4488, 0x20, 0xE⟩]),
    (0x30A2, [⟨0x4488, 0x20, 0x11⟩]),
    (0xFB01, [⟨0x214B, 0x20, 0x4⟩, ⟨0x219C, 0x20, 0x4⟩]),
    (0xFF21, [⟨0x20A9, 0x20, 0x9⟩]),
    (0xFFEE, [⟨0x874, 0x20, 0x12⟩]),
    (0x1F600, [⟨0x1888, 0x20, 0x2⟩])
  ]

/-
  Characters that a text may hold and that are skipped on all
  levels: controls, the soft hyphen and the zero width space.
-/
def isSkipped (c : Nat) : Bool :=
  c ≤ 0x8 || (0xE ≤ c && c ≤ 0x1F) ||
    (0x7F ≤ c && c ≤ 0x9F && c != 0x85) ||
    c == 0xAD || c == 0x200B

/- The elements of a listed character. -/
def listed? (c : Nat) : Option (List Element) :=
  if isSkipped c then
    some []
  else
    asciiSigns.lookup c <|>
    asciiLetters.lookup c <|>
    latinSigns.lookup c <|>
    latinLetters.lookup c <|>
    marksAndGreek.lookup c <|>
    others.lookup c

/- Two characters that count as one. -/
def pairs : List ((Nat × Nat) × List Element) :=
  [
    ((0x4C, 0xB7), [⟨0x21E5, 0x20, 0x8⟩, ⟨0x0, 0x11C, 0x2⟩]),
    ((0x6C, 0xB7), [⟨0x21E5, 0x20, 0x2⟩, ⟨0x0, 0x11C, 0x2⟩]),
    ((0x418, 0x306), [⟨0x251B, 0x20, 0x8⟩]),
    ((0x438, 0x306), [⟨0x251B, 0x20, 0x2⟩])
  ]

/- The elements of two characters that count as one. -/
def pair? (c d : Nat) : Option (List Element) :=
  pairs.lookup (c, d)

/-
  Whether a character counts as one with some other.  The
  partners of the Arabic alef are marks that are not listed.
-/
def startsPair (c : Nat) : Bool :=
  c == 0x627 || pairs.any fun entry => entry.1.1 == c

------------------------------------------------------------
-- Computed Elements
------------------------------------------------------------

/- The ideographs of the basic and the compatibility block. -/
def isIdeograph (c : Nat) : Bool :=
  (0x4E00 ≤ c && c ≤ 0x9FFF) || (0xF900 ≤ c && c ≤ 0xFAFF)

/- The ideographs of the extension blocks. -/
def isRareIdeograph (c : Nat) : Bool :=
  (0x3400 ≤ c && c ≤ 0x4DBF) ||
    (0x20000 ≤ c && c ≤ 0x323AF)

/-
  The elements of a character that is not listed.  They keep
  the order of code points; ideographs come first.
-/
def computed (c : Nat) : List Element :=
  let base :=
    if isIdeograph c then 0xFB40
    else if isRareIdeograph c then 0xFB80
    else 0xFBC0
  [⟨base + c / 0x8000, 0x20, 0x2⟩,
    ⟨c % 0x8000 + 0x8000, 0, 0⟩]

/- The elements of a character on its own. -/
def elementsOf (c : Nat) : List Element :=
  (listed? c).getD (computed c)

end Collation

end Registrar
