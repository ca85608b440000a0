import Registrar.Text.CompatibilityIdeographs

/-
  This file holds canonical decompositions: the characters that
  a composed character stands for, fully decomposed.  Listed are
  the composed characters whose parts the collation knows; the
  syllables of Hangul are computed.

  Key definitions include:
    * `Text.combiningClass`
    * `Text.decomposition`
    * `Text.decomposed`
    * `Text.isSettled`
    * `Text.settled`
-/

------------------------------------------------------------
-- Decompositions
------------------------------------------------------------

namespace Registrar

namespace Text

/- Letters from U+00C0 to U+017F. -/
def latinDecompositions : List (Nat × List Nat) :=
  [
    (0xC0, [0x41, 0x300]), (0xC1, [0x41, 0x301]),
    (0xC2, [0x41, 0x302]), (0xC3, [0x41, 0x303]),
    (0xC4, [0x41, 0x308]), (0xC5, [0x41, 0x30A]),
    (0xC7, [0x43, 0x327]), (0xC8, [0x45, 0x300]),
    (0xC9, [0x45, 0x301]), (0xCA, [0x45, 0x302]),
    (0xCB, [0x45, 0x308]), (0xCC, [0x49, 0x300]),
    (0xCD, [0x49, 0x301]), (0xCE, [0x49, 0x302]),
    (0xCF, [0x49, 0x308]), (0xD1, [0x4E, 0x303]),
    (0xD2, [0x4F, 0x300]), (0xD3, [0x4F, 0x301]),
    (0xD4, [0x4F, 0x302]), (0xD5, [0x4F, 0x303]),
    (0xD6, [0x4F, 0x308]), (0xD9, [0x55, 0x300]),
    (0xDA, [0x55, 0x301]), (0xDB, [0x55, 0x302]),
    (0xDC, [0x55, 0x308]), (0xDD, [0x59, 0x301]),
    (0xE0, [0x61, 0x300]), (0xE1, [0x61, 0x301]),
    (0xE2, [0x61, 0x302]), (0xE3, [0x61, 0x303]),
    (0xE4, [0x61, 0x308]), (0xE5, [0x61, 0x30A]),
    (0xE7, [0x63, 0x327]), (0xE8, [0x65, 0x300]),
    (0xE9, [0x65, 0x301]), (0xEA, [0x65, 0x302]),
    (0xEB, [0x65, 0x308]), (0xEC, [0x69, 0x300]),
    (0xED, [0x69, 0x301]), (0xEE, [0x69, 0x302]),
    (0xEF, [0x69, 0x308]), (0xF1, [0x6E, 0x303]),
    (0xF2, [0x6F, 0x300]), (0xF3, [0x6F, 0x301]),
    (0xF4, [0x6F, 0x302]), (0xF5, [0x6F, 0x303]),
    (0xF6, [0x6F, 0x308]), (0xF9, [0x75, 0x300]),
    (0xFA, [0x75, 0x301]), (0xFB, [0x75, 0x302]),
    (0xFC, [0x75, 0x308]), (0xFD, [0x79, 0x301]),
    (0xFF, [0x79, 0x308]), (0x100, [0x41, 0x304]),
    (0x101, [0x61, 0x304]), (0x102, [0x41, 0x306]),
    (0x103, [0x61, 0x306]), (0x104, [0x41, 0x328]),
    (0x105, [0x61, 0x328]), (0x106, [0x43, 0x301]),
    (0x107, [0x63, 0x301]), (0x108, [0x43, 0x302]),
    (0x109, [0x63, 0x302]), (0x10A, [0x43, 0x307]),
    (0x10B, [0x63, 0x307]), (0x10C, [0x43, 0x30C]),
    (0x10D, [0x63, 0x30C]), (0x10E, [0x44, 0x30C]),
    (0x10F, [0x64, 0x30C]), (0x112, [0x45, 0x304]),
    (0x113, [0x65, 0x304]), (0x114, [0x45, 0x306]),
    (0x115, [0x65, 0x306]), (0x116, [0x45, 0x307]),
    (0x117, [0x65, 0x307]), (0x118, [0x45, 0x328]),
    (0x119, [0x65, 0x328]), (0x11A, [0x45, 0x30C]),
    (0x11B, [0x65, 0x30C]), (0x11C, [0x47, 0x302]),
    (0x11D, [0x67, 0x302]), (0x11E, [0x47, 0x306]),
    (0x11F, [0x67, 0x306]), (0x120, [0x47, 0x307]),
    (0x121, [0x67, 0x307]), (0x122, [0x47, 0x327]),
    (0x123, [0x67, 0x327]), (0x124, [0x48, 0x302]),
    (0x125, [0x68, 0x302]), (0x128, [0x49, 0x303]),
    (0x129, [0x69, 0x303]), (0x12A, [0x49, 0x304]),
    (0x12B, [0x69, 0x304]), (0x12C, [0x49, 0x306]),
    (0x12D, [0x69, 0x306]), (0x12E, [0x49, 0x328]),
    (0x12F, [0x69, 0x328]), (0x130, [0x49, 0x307]),
    (0x134, [0x4A, 0x302]), (0x135, [0x6A, 0x302]),
    (0x136, [0x4B, 0x327]), (0x137, [0x6B, 0x327]),
    (0x139, [0x4C, 0x301]), (0x13A, [0x6C, 0x301]),
    (0x13B, [0x4C, 0x327]), (0x13C, [0x6C, 0x327]),
    (0x13D, [0x4C, 0x30C]), (0x13E, [0x6C, 0x30C]),
    (0x143, [0x4E, 0x301]), (0x144, [0x6E, 0x301]),
    (0x145, [0x4E, 0x327]), (0x146, [0x6E, 0x327]),
    (0x147, [0x4E, 0x30C]), (0x148, [0x6E, 0x30C]),
    (0x14C, [0x4F, 0x304]), (0x14D, [0x6F, 0x304]),
    (0x14E, [0x4F, 0x306]), (0x14F, [0x6F, 0x306]),
    (0x150, [0x4F, 0x30B]), (0x151, [0x6F, 0x30B]),
    (0x154, [0x52, 0x301]), (0x155, [0x72, 0x301]),
    (0x156, [0x52, 0x327]), (0x157, [0x72, 0x327]),
    (0x158, [0x52, 0x30C]), (0x159, [0x72, 0x30C]),
    (0x15A, [0x53, 0x301]), (0x15B, [0x73, 0x301]),
    (0x15C, [0x53, 0x302]), (0x15D, [0x73, 0x302]),
    (0x15E, [0x53, 0x327]), (0x15F, [0x73, 0x327]),
    (0x160, [0x53, 0x30C]), (0x161, [0x73, 0x30C]),
    (0x162, [0x54, 0x327]), (0x163, [0x74, 0x327]),
    (0x164, [0x54, 0x30C]), (0x165, [0x74, 0x30C]),
    (0x168, [0x55, 0x303]), (0x169, [0x75, 0x303]),
    (0x16A, [0x55, 0x304]), (0x16B, [0x75, 0x304]),
    (0x16C, [0x55, 0x306]), (0x16D, [0x75, 0x306]),
    (0x16E, [0x55, 0x30A]), (0x16F, [0x75, 0x30A]),
    (0x170, [0x55, 0x30B]), (0x171, [0x75, 0x30B]),
    (0x172, [0x55, 0x328]), (0x173, [0x75, 0x328]),
    (0x174, [0x57, 0x302]), (0x175, [0x77, 0x302]),
    (0x176, [0x59, 0x302]), (0x177, [0x79, 0x302]),
    (0x178, [0x59, 0x308]), (0x179, [0x5A, 0x301]),
    (0x17A, [0x7A, 0x301]), (0x17B, [0x5A, 0x307]),
    (0x17C, [0x7A, 0x307]), (0x17D, [0x5A, 0x30C]),
    (0x17E, [0x7A, 0x30C])
  ]

/- Letters and signs from U+01CD to U+04E5. -/
def moreDecompositions : List (Nat × List Nat) :=
  [
    (0x1CD, [0x41, 0x30C]), (0x1CE, [0x61, 0x30C]),
    (0x1CF, [0x49, 0x30C]), (0x1D0, [0x69, 0x30C]),
    (0x1D1, [0x4F, 0x30C]), (0x1D2, [0x6F, 0x30C]),
    (0x1D3, [0x55, 0x30C]), (0x1D4, [0x75, 0x30C]),
    (0x1D5, [0x55, 0x308, 0x304]),
    (0x1D6, [0x75, 0x308, 0x304]),
    (0x1D7, [0x55, 0x308, 0x301]),
    (0x1D8, [0x75, 0x308, 0x301]),
    (0x1D9, [0x55, 0x308, 0x30C]),
    (0x1DA, [0x75, 0x308, 0x30C]),
    (0x1DB, [0x55, 0x308, 0x300]),
    (0x1DC, [0x75, 0x308, 0x300]),
    (0x1DE, [0x41, 0x308, 0x304]),
    (0x1DF, [0x61, 0x308, 0x304]),
    (0x1E0, [0x41, 0x307, 0x304]),
    (0x1E1, [0x61, 0x307, 0x304]), (0x1E2, [0xC6, 0x304]),
    (0x1E3, [0xE6, 0x304]), (0x1E6, [0x47, 0x30C]),
    (0x1E7, [0x67, 0x30C]), (0x1E8, [0x4B, 0x30C]),
    (0x1E9, [0x6B, 0x30C]), (0x1EA, [0x4F, 0x328]),
    (0x1EB, [0x6F, 0x328]), (0x1EC, [0x4F, 0x328, 0x304]),
    (0x1ED, [0x6F, 0x328, 0x304]), (0x1F0, [0x6A, 0x30C]),
    (0x1F4, [0x47, 0x301]), (0x1F5, [0x67, 0x301]),
    (0x1F8, [0x4E, 0x300]), (0x1F9, [0x6E, 0x300]),
    (0x1FA, [0x41, 0x30A, 0x301]),
    (0x1FB, [0x61, 0x30A, 0x301]), (0x1FC, [0xC6, 0x301]),
    (0x1FD, [0xE6, 0x301]), (0x1FE, [0xD8, 0x301]),
    (0x1FF, [0xF8, 0x301]), (0x21E, [0x48, 0x30C]),
    (0x21F, [0x68, 0x30C]), (0x226, [0x41, 0x307]),
    (0x227, [0x61, 0x307]), (0x228, [0x45, 0x327]),
    (0x229, [0x65, 0x327]), (0x22A, [0x4F, 0x308, 0x304]),
    (0x22B, [0x6F, 0x308, 0x304]),
    (0x22C, [0x4F, 0x303, 0x304]),
    (0x22D, [0x6F, 0x303, 0x304]), (0x22E, [0x4F, 0x307]),
    (0x22F, [0x6F, 0x307]), (0x230, [0x4F, 0x307, 0x304]),
    (0x231, [0x6F, 0x307, 0x304]), (0x232, [0x59, 0x304]),
    (0x233, [0x79, 0x304]), (0x340, [0x300]), (0x341, [0x301]),
    (0x344, [0x308, 0x301]), (0x37E, [0x3B]),
    (0x385, [0xA8, 0x301]), (0x386, [0x391, 0x301]),
    (0x387, [0xB7]), (0x3AC, [0x3B1, 0x301]),
    (0x3CE, [0x3C9, 0x301]), (0x40D, [0x418, 0x300]),
    (0x419, [0x418, 0x306]), (0x439, [0x438, 0x306]),
    (0x45C, [0x43A, 0x301]), (0x45D, [0x438, 0x300]),
    (0x4D1, [0x430, 0x306]), (0x4D3, [0x430, 0x308]),
    (0x4E2, [0x418, 0x304]), (0x4E3, [0x438, 0x304]),
    (0x4E4, [0x418, 0x308]), (0x4E5, [0x438, 0x308])
  ]

/- Latin letters from U+1E02 to U+1E7F. -/
def markedLatinDecompositions : List (Nat × List Nat) :=
  [
    (0x1E02, [0x42, 0x307]), (0x1E03, [0x62, 0x307]),
    (0x1E04, [0x42, 0x323]), (0x1E05, [0x62, 0x323]),
    (0x1E06, [0x42, 0x331]), (0x1E07, [0x62, 0x331]),
    (0x1E08, [0x43, 0x327, 0x301]),
    (0x1E09, [0x63, 0x327, 0x301]), (0x1E0A, [0x44, 0x307]),
    (0x1E0B, [0x64, 0x307]), (0x1E0C, [0x44, 0x323]),
    (0x1E0D, [0x64, 0x323]), (0x1E0E, [0x44, 0x331]),
    (0x1E0F, [0x64, 0x331]), (0x1E10, [0x44, 0x327]),
    (0x1E11, [0x64, 0x327]), (0x1E14, [0x45, 0x304, 0x300]),
    (0x1E15, [0x65, 0x304, 0x300]),
    (0x1E16, [0x45, 0x304, 0x301]),
    (0x1E17, [0x65, 0x304, 0x301]),
    (0x1E1C, [0x45, 0x327, 0x306]),
    (0x1E1D, [0x65, 0x327, 0x306]), (0x1E1E, [0x46, 0x307]),
    (0x1E1F, [0x66, 0x307]), (0x1E20, [0x47, 0x304]),
    (0x1E21, [0x67, 0x304]), (0x1E22, [0x48, 0x307]),
    (0x1E23, [0x68, 0x307]), (0x1E24, [0x48, 0x323]),
    (0x1E25, [0x68, 0x323]), (0x1E26, [0x48, 0x308]),
    (0x1E27, [0x68, 0x308]), (0x1E28, [0x48, 0x327]),
    (0x1E29, [0x68, 0x327]), (0x1E2E, [0x49, 0x308, 0x301]),
    (0x1E2F, [0x69, 0x308, 0x301]), (0x1E30, [0x4B, 0x301]),
    (0x1E31, [0x6B, 0x301]), (0x1E32, [0x4B, 0x323]),
    (0x1E33, [0x6B, 0x323]), (0x1E34, [0x4B, 0x331]),
    (0x1E35, [0x6B, 0x331]), (0x1E36, [0x4C, 0x323]),
    (0x1E37, [0x6C, 0x323]), (0x1E38, [0x4C, 0x323, 0x304]),
    (0x1E39, [0x6C, 0x323, 0x304]), (0x1E3A, [0x4C, 0x331]),
    (0x1E3B, [0x6C, 0x331]), (0x1E3E, [0x4D, 0x301]),
    (0x1E3F, [0x6D, 0x301]), (0x1E40, [0x4D, 0x307]),
    (0x1E41, [0x6D, 0x307]), (0x1E42, [0x4D, 0x323]),
    (0x1E43, [0x6D, 0x323]), (0x1E44, [0x4E, 0x307]),
    (0x1E45, [0x6E, 0x307]), (0x1E46, [0x4E, 0x323]),
    (0x1E47, [0x6E, 0x323]), (0x1E48, [0x4E, 0x331]),
    (0x1E49, [0x6E, 0x331]), (0x1E4C, [0x4F, 0x303, 0x301]),
    (0x1E4D, [0x6F, 0x303, 0x301]),
    (0x1E4E, [0x4F, 0x303, 0x308]),
    (0x1E4F, [0x6F, 0x303, 0x308]),
    (0x1E50, [0x4F, 0x304, 0x300]),
    (0x1E51, [0x6F, 0x304, 0x300]),
    (0x1E52, [0x4F, 0x304, 0x301]),
    (0x1E53, [0x6F, 0x304, 0x301]), (0x1E54, [0x50, 0x301]),
    (0x1E55, [0x70, 0x301]), (0x1E56, [0x50, 0x307]),
    (0x1E57, [0x70, 0x307]), (0x1E58, [0x52, 0x307]),
    (0x1E59, [0x72, 0x307]), (0x1E5A, [0x52, 0x323]),
    (0x1E5B, [0x72, 0x323]), (0x1E5C, [0x52, 0x323, 0x304]),
    (0x1E5D, [0x72, 0x323, 0x304]), (0x1E5E, [0x52, 0x331]),
    (0x1E5F, [0x72, 0x331]), (0x1E60, [0x53, 0x307]),
    (0x1E61, [0x73, 0x307]), (0x1E62, [0x53, 0x323]),
    (0x1E63, [0x73, 0x323]), (0x1E64, [0x53, 0x301, 0x307]),
    (0x1E65, [0x73, 0x301, 0x307]),
    (0x1E66, [0x53, 0x30C, 0x307]),
    (0x1E67, [0x73, 0x30C, 0x307]),
    (0x1E68, [0x53, 0x323, 0x307]),
    (0x1E69, [0x73, 0x323, 0x307]), (0x1E6A, [0x54, 0x307]),
    (0x1E6B, [0x74, 0x307]), (0x1E6C, [0x54, 0x323]),
    (0x1E6D, [0x74, 0x323]), (0x1E6E, [0x54, 0x331]),
    (0x1E6F, [0x74, 0x331]), (0x1E78, [0x55, 0x303, 0x301]),
    (0x1E79, [0x75, 0x303, 0x301]),
    (0x1E7A, [0x55, 0x304, 0x308]),
    (0x1E7B, [0x75, 0x304, 0x308]), (0x1E7C, [0x56, 0x303]),
    (0x1E7D, [0x76, 0x303]), (0x1E7E, [0x56, 0x323]),
    (0x1E7F, [0x76, 0x323])
  ]

/- Latin letters from U+1E80 to U+1EF9. -/
def vowelDecompositions : List (Nat × List Nat) :=
  [
    (0x1E80, [0x57, 0x300]), (0x1E81, [0x77, 0x300]),
    (0x1E82, [0x57, 0x301]), (0x1E83, [0x77, 0x301]),
    (0x1E84, [0x57, 0x308]), (0x1E85, [0x77, 0x308]),
    (0x1E86, [0x57, 0x307]), (0x1E87, [0x77, 0x307]),
    (0x1E88, [0x57, 0x323]), (0x1E89, [0x77, 0x323]),
    (0x1E8A, [0x58, 0x307]), (0x1E8B, [0x78, 0x307]),
    (0x1E8C, [0x58, 0x308]), (0x1E8D, [0x78, 0x308]),
    (0x1E8E, [0x59, 0x307]), (0x1E8F, [0x79, 0x307]),
    (0x1E90, [0x5A, 0x302]), (0x1E91, [0x7A, 0x302]),
    (0x1E92, [0x5A, 0x323]), (0x1E93, [0x7A, 0x323]),
    (0x1E94, [0x5A, 0x331]), (0x1E95, [0x7A, 0x331]),
    (0x1E96, [0x68, 0x331]), (0x1E97, [0x74, 0x308]),
    (0x1E98, [0x77, 0x30A]), (0x1E99, [0x79, 0x30A]),
    (0x1E9B, [0x17F, 0x307]), (0x1EA0, [0x41, 0x323]),
    (0x1EA1, [0x61, 0x323]), (0x1EA4, [0x41, 0x302, 0x301]),
    (0x1EA5, [0x61, 0x302, 0x301]),
    (0x1EA6, [0x41, 0x302, 0x300]),
    (0x1EA7, [0x61, 0x302, 0x300]),
    (0x1EAA, [0x41, 0x302, 0x303]),
    (0x1EAB, [0x61, 0x302, 0x303]),
    (0x1EAC, [0x41, 0x323, 0x302]),
    (0x1EAD, [0x61, 0x323, 0x302]),
    (0x1EAE, [0x41, 0x306, 0x301]),
    (0x1EAF, [0x61, 0x306, 0x301]),
    (0x1EB0, [0x41, 0x306, 0x300]),
    (0x1EB1, [0x61, 0x306, 0x300]),
    (0x1EB4, [0x41, 0x306, 0x303]),
    (0x1EB5, [0x61, 0x306, 0x303]),
    (0x1EB6, [0x41, 0x323, 0x306]),
    (0x1EB7, [0x61, 0x323, 0x306]), (0x1EB8, [0x45, 0x323]),
    (0x1EB9, [0x65, 0x323]), (0x1EBC, [0x45, 0x303]),
    (0x1EBD, [0x65, 0x303]), (0x1EBE, [0x45, 0x302, 0x301]),
    (0x1EBF, [0x65, 0x302, 0x301]),
    (0x1EC0, [0x45, 0x302, 0x300]),
    (0x1EC1, [0x65, 0x302, 0x300]),
    (0x1EC4, [0x45, 0x302, 0x303]),
    (0x1EC5, [0x65, 0x302, 0x303]),
    (0x1EC6, [0x45, 0x323, 0x302]),
    (0x1EC7, [0x65, 0x323, 0x302]), (0x1ECA, [0x49, 0x323]),
    (0x1ECB, [0x69, 0x323]), (0x1ECC, [0x4F, 0x323]),
    (0x1ECD, [0x6F, 0x323]), (0x1ED0, [0x4F, 0x302, 0x301]),
    (0x1ED1, [0x6F, 0x302, 0x301]),
    (0x1ED2, [0x4F, 0x302, 0x300]),
    (0x1ED3, [0x6F, 0x302, 0x300]),
    (0x1ED6, [0x4F, 0x302, 0x303]),
    (0x1ED7, [0x6F, 0x302, 0x303]),
    (0x1ED8, [0x4F, 0x323, 0x302]),
    (0x1ED9, [0x6F, 0x323, 0x302]), (0x1EE4, [0x55, 0x323]),
    (0x1EE5, [0x75, 0x323]), (0x1EF2, [0x59, 0x300]),
    (0x1EF3, [0x79, 0x300]), (0x1EF4, [0x59, 0x323]),
    (0x1EF5, [0x79, 0x323]), (0x1EF8, [0x59, 0x303]),
    (0x1EF9, [0x79, 0x303])
  ]

/- Greek letters and signs from U+1F70 to U+212B. -/
def symbolDecompositions : List (Nat × List Nat) :=
  [
    (0x1F70, [0x3B1, 0x300]), (0x1F71, [0x3B1, 0x301]),
    (0x1F7C, [0x3C9, 0x300]), (0x1F7D, [0x3C9, 0x301]),
    (0x1FB0, [0x3B1, 0x306]), (0x1FB1, [0x3B1, 0x304]),
    (0x1FB8, [0x391, 0x306]), (0x1FB9, [0x391, 0x304]),
    (0x1FBA, [0x391, 0x300]), (0x1FBB, [0x391, 0x301]),
    (0x1FED, [0xA8, 0x300]), (0x1FEE, [0xA8, 0x301]),
    (0x1FEF, [0x60]), (0x1FFD, [0xB4]), (0x212A, [0x4B]),
    (0x212B, [0x41, 0x30A])
  ]

/- The first syllable of Hangul. -/
def firstSyllable : Nat :=
  0xAC00

/- The number of Hangul syllables. -/
def syllableCount : Nat :=
  11172

/- Whether a character is a syllable of Hangul. -/
def isSyllable (c : Nat) : Bool :=
  firstSyllable ≤ c && c < firstSyllable + syllableCount

/- The parts of a syllable: two letters, or three. -/
def syllableParts (syllable : Nat) : List Nat :=
  let index := syllable - firstSyllable
  let parts :=
    [0x1100 + index / 588, 0x1161 + index % 588 / 28]
  if index % 28 = 0 then
    parts
  else
    parts ++ [0x11A7 + index % 28]

/- The characters that a character stands for. -/
def decomposition (c : Nat) : List Nat :=
  if isSyllable c then
    syllableParts c
  else
    let listed :=
      latinDecompositions.lookup c <|>
      moreDecompositions.lookup c <|>
      markedLatinDecompositions.lookup c <|>
      vowelDecompositions.lookup c <|>
      symbolDecompositions.lookup c <|>
      (unified? c).map fun ideograph => [ideograph]
    listed.getD [c]

------------------------------------------------------------
-- Marks
------------------------------------------------------------

/- Where a mark attaches; zero for what is no mark. -/
def combiningClass (c : Nat) : Nat :=
  if c ∈ [0x327, 0x328] then
    202
  else if c ∈ [0x323, 0x331] then
    220
  else if c ∈ [0x300, 0x301, 0x302, 0x303, 0x304, 0x306,
      0x307, 0x308, 0x30A, 0x30B, 0x30C] then
    230
  else
    0

/- A mark goes behind the marks of lower classes. -/
def insertMark (c : Nat) : List Nat → List Nat
| [] => [c]
| d :: rest =>
    if 0 < combiningClass d ∧
        combiningClass d < combiningClass c then
      d :: insertMark c rest
    else
      c :: d :: rest

/- Characters with each run of marks in order of class. -/
def inOrder (cs : List Nat) : List Nat :=
  cs.foldr insertMark []

/- The characters of a text, fully decomposed. -/
def decomposed (cs : List Nat) : List Nat :=
  inOrder (cs.flatMap decomposition)

/-
  Whether the parts of characters come in order of class as
  they stand, after a part of the class `last`.  Syllables of
  Hangul never do.
-/
def isSettledAfter : Nat → List Nat → Bool
| _, [] => true
| last, c :: rest =>
    if isSyllable c then
      false
    else
      let classes := (decomposition c).map combiningClass
      let first := classes.headD 0
      (first == 0 || decide (last ≤ first)) &&
        isSettledAfter (classes.getLastD 0) rest

/- Whether no character has to be moved or taken apart. -/
def isSettled (cs : List Nat) : Bool :=
  isSettledAfter 0 cs

/-
  The characters of a text, decomposed only if they are not
  in order as they stand.
-/
def settled (cs : List Nat) : List Nat :=
  if isSettled cs then cs else decomposed cs

end Text

end Registrar
