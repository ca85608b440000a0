/-
  This file holds the compatibility ideographs: characters that
  stand for one ideograph of another block each.

  Key definitions include:
    * `Text.compatibilityRuns`
    * `Text.unified?`
-/

------------------------------------------------------------
-- Compatibility Ideographs
------------------------------------------------------------

namespace Registrar

namespace Text

/- What the characters from U+F900 to U+F97F stand for. -/
def ideographsFromF900 : List Nat :=
  [0x8C48, 0x66F4, 0x8ECA, 0x8CC8, 0x6ED1, 0x4E32, 0x53E5,
    0x9F9C, 0x9F9C, 0x5951, 0x91D1, 0x5587, 0x5948, 0x61F6,
    0x7669, 0x7F85, 0x863F, 0x87BA, 0x88F8, 0x908F, 0x6A02,
    0x6D1B, 0x70D9, 0x73DE, 0x843D, 0x916A, 0x99F1, 0x4E82,
    0x5375, 0x6B04, 0x721B, 0x862D, 0x9E1E, 0x5D50, 0x6FEB,
    0x85CD, 0x8964, 0x62C9, 0x81D8, 0x881F, 0x5ECA, 0x6717,
    0x6D6A, 0x72FC, 0x90CE, 0x4F86, 0x51B7, 0x52DE, 0x64C4,
    0x6AD3, 0x7210, 0x76E7, 0x8001, 0x8606, 0x865C, 0x8DEF,
    0x9732, 0x9B6F, 0x9DFA, 0x788C, 0x797F, 0x7DA0, 0x83C9,
    0x9304, 0x9E7F, 0x8AD6, 0x58DF, 0x5F04, 0x7C60, 0x807E,
    0x7262, 0x78CA, 0x8CC2, 0x96F7, 0x58D8, 0x5C62, 0x6A13,
    0x6DDA, 0x6F0F, 0x7D2F, 0x7E37, 0x964B, 0x52D2, 0x808B,
    0x51DC, 0x51CC, 0x7A1C, 0x7DBE, 0x83F1, 0x9675, 0x8B80,
    0x62CF, 0x6A02, 0x8AFE, 0x4E39, 0x5BE7, 0x6012, 0x7387,
    0x7570, 0x5317, 0x78FB, 0x4FBF, 0x5FA9, 0x4E0D, 0x6CCC,
    0x6578, 0x7D22, 0x53C3, 0x585E, 0x7701, 0x8449, 0x8AAA,
    0x6BBA, 0x8FB0, 0x6C88, 0x62FE, 0x82E5, 0x63A0, 0x7565,
    0x4EAE, 0x5169, 0x51C9, 0x6881, 0x7CE7, 0x826F, 0x8AD2,
    0x91CF, 0x52F5]

/- What the characters from U+F980 to U+F9FF stand for. -/
def ideographsFromF980 : List Nat :=
  [0x5442, 0x5973, 0x5EEC, 0x65C5, 0x6FFE, 0x792A, 0x95AD,
    0x9A6A, 0x9E97, 0x9ECE, 0x529B, 0x66C6, 0x6B77, 0x8F62,
    0x5E74, 0x6190, 0x6200, 0x649A, 0x6F23, 0x7149, 0x7489,
    0x79CA, 0x7DF4, 0x806F, 0x8F26, 0x84EE, 0x9023, 0x934A,
    0x5217, 0x52A3, 0x54BD, 0x70C8, 0x88C2, 0x8AAA, 0x5EC9,
    0x5FF5, 0x637B, 0x6BAE, 0x7C3E, 0x7375, 0x4EE4, 0x56F9,
    0x5BE7, 0x5DBA, 0x601C, 0x73B2, 0x7469, 0x7F9A, 0x8046,
    0x9234, 0x96F6, 0x9748, 0x9818, 0x4F8B, 0x79AE, 0x91B4,
    0x96B8, 0x60E1, 0x4E86, 0x50DA, 0x5BEE, 0x5C3F, 0x6599,
    0x6A02, 0x71CE, 0x7642, 0x84FC, 0x907C, 0x9F8D, 0x6688,
    0x962E, 0x5289, 0x677B, 0x67F3, 0x6D41, 0x6E9C, 0x7409,
    0x7559, 0x786B, 0x7D10, 0x985E, 0x516D, 0x622E, 0x9678,
    0x502B, 0x5D19, 0x6DEA, 0x8F2A, 0x5F8B, 0x6144, 0x6817,
    0x7387, 0x9686, 0x5229, 0x540F, 0x5C65, 0x6613, 0x674E,
    0x68A8, 0x6CE5, 0x7406, 0x75E2, 0x7F79, 0x88CF, 0x88E1,
    0x91CC, 0x96E2, 0x533F, 0x6EBA, 0x541D, 0x71D0, 0x7498,
    0x85FA, 0x96A3, 0x9C57, 0x9E9F, 0x6797, 0x6DCB, 0x81E8,
    0x7ACB, 0x7B20, 0x7C92, 0x72C0, 0x7099, 0x8B58, 0x4EC0,
    0x8336, 0x523A]

/- What the characters from U+FA00 to U+FA0D stand for. -/
def ideographsFromFA00 : List Nat :=
  [0x5207, 0x5EA6, 0x62D3, 0x7CD6, 0x5B85, 0x6D1E, 0x66B4,
    0x8F3B, 0x884C, 0x964D, 0x898B, 0x5ED3, 0x5140, 0x55C0]

/- What the characters from U+FA2A to U+FA6D stand for. -/
def ideographsFromFA2A : List Nat :=
  [0x98EF, 0x98FC, 0x9928, 0x9DB4, 0x90DE, 0x96B7, 0x4FAE,
    0x50E7, 0x514D, 0x52C9, 0x52E4, 0x5351, 0x559D, 0x5606,
    0x5668, 0x5840, 0x58A8, 0x5C64, 0x5C6E, 0x6094, 0x6168,
    0x618E, 0x61F2, 0x654F, 0x65E2, 0x6691, 0x6885, 0x6D77,
    0x6E1A, 0x6F22, 0x716E, 0x722B, 0x7422, 0x7891, 0x793E,
    0x7949, 0x7948, 0x7950, 0x7956, 0x795D, 0x798D, 0x798E,
    0x7A40, 0x7A81, 0x7BC0, 0x7DF4, 0x7E09, 0x7E41, 0x7F72,
    0x8005, 0x81ED, 0x8279, 0x8279, 0x8457, 0x8910, 0x8996,
    0x8B01, 0x8B39, 0x8CD3, 0x8D08, 0x8FB6, 0x9038, 0x96E3,
    0x97FF, 0x983B, 0x6075, 0x242EE, 0x8218]

/- What the characters from U+FA70 to U+FA7F stand for. -/
def ideographsFromFA70 : List Nat :=
  [0x4E26, 0x51B5, 0x5168, 0x4F80, 0x5145, 0x5180, 0x52C7,
    0x52FA, 0x559D, 0x5555, 0x5599, 0x55E2, 0x585A, 0x58B3,
    0x5944, 0x5954]

/- What the characters from U+FA80 to U+FAD9 stand for. -/
def ideographsFromFA80 : List Nat :=
  [0x5A62, 0x5B28, 0x5ED2, 0x5ED9, 0x5F69, 0x5FAD, 0x60D8,
    0x614E, 0x6108, 0x618E, 0x6160, 0x61F2, 0x6234, 0x63C4,
    0x641C, 0x6452, 0x6556, 0x6674, 0x6717, 0x671B, 0x6756,
    0x6B79, 0x6BBA, 0x6D41, 0x6EDB, 0x6ECB, 0x6F22, 0x701E,
    0x716E, 0x77A7, 0x7235, 0x72AF, 0x732A, 0x7471, 0x7506,
    0x753B, 0x761D, 0x761F, 0x76CA, 0x76DB, 0x76F4, 0x774A,
    0x7740, 0x78CC, 0x7AB1, 0x7BC0, 0x7C7B, 0x7D5B, 0x7DF4,
    0x7F3E, 0x8005, 0x8352, 0x83EF, 0x8779, 0x8941, 0x8986,
    0x8996, 0x8ABF, 0x8AF8, 0x8ACB, 0x8B01, 0x8AFE, 0x8AED,
    0x8B39, 0x8B8A, 0x8D08, 0x8F38, 0x9072, 0x9199, 0x9276,
    0x967C, 0x96E3, 0x9756, 0x97DB, 0x97FF, 0x980B, 0x983B,
    0x9B12, 0x9F9C, 0x2284A, 0x22844, 0x233D5, 0x3B9D, 0x4018,
    0x4039, 0x25249, 0x25CD0, 0x27ED3, 0x9F43, 0x9F8E]

/- What the characters from U+2F800 to U+2F87F stand for. -/
def ideographsFrom2F800 : List Nat :=
  [0x4E3D, 0x4E38, 0x4E41, 0x20122, 0x4F60, 0x4FAE, 0x4FBB,
    0x5002, 0x507A, 0x5099, 0x50E7, 0x50CF, 0x349E, 0x2063A,
    0x514D, 0x5154, 0x5164, 0x5177, 0x2051C, 0x34B9, 0x5167,
    0x518D, 0x2054B, 0x5197, 0x51A4, 0x4ECC, 0x51AC, 0x51B5,
    0x291DF, 0x51F5, 0x5203, 0x34DF, 0x523B, 0x5246, 0x5272,
    0x5277, 0x3515, 0x52C7, 0x52C9, 0x52E4, 0x52FA, 0x5305,
    0x5306, 0x5317, 0x5349, 0x5351, 0x535A, 0x5373, 0x537D,
    0x537F, 0x537F, 0x537F, 0x20A2C, 0x7070, 0x53CA, 0x53DF,
    0x20B63, 0x53EB, 0x53F1, 0x5406, 0x549E, 0x5438, 0x5448,
    0x5468, 0x54A2, 0x54F6, 0x5510, 0x5553, 0x5563, 0x5584,
    0x5584, 0x5599, 0x55AB, 0x55B3, 0x55C2, 0x5716, 0x5606,
    0x5717, 0x5651, 0x5674, 0x5207, 0x58EE, 0x57CE, 0x57F4,
    0x580D, 0x578B, 0x5832, 0x5831, 0x58AC, 0x214E4, 0x58F2,
    0x58F7, 0x5906, 0x591A, 0x5922, 0x5962, 0x216A8, 0x216EA,
    0x59EC, 0x5A1B, 0x5A27, 0x59D8, 0x5A66, 0x36EE, 0x36FC,
    0x5B08, 0x5B3E, 0x5B3E, 0x219C8, 0x5BC3, 0x5BD8, 0x5BE7,
    0x5BF3, 0x21B18, 0x5BFF, 0x5C06, 0x5F53, 0x5C22, 0x3781,
    0x5C60, 0x5C6E, 0x5CC0, 0x5C8D, 0x21DE4, 0x5D43, 0x21DE6,
    0x5D6E, 0x5D6B]

/- What the characters from U+2F880 to U+2F8FF stand for. -/
def ideographsFrom2F880 : List Nat :=
  [0x5D7C, 0x5DE1, 0x5DE2, 0x382F, 0x5DFD, 0x5E28, 0x5E3D,
    0x5E69, 0x3862, 0x22183, 0x387C, 0x5EB0, 0x5EB3, 0x5EB6,
    0x5ECA, 0x2A392, 0x5EFE, 0x22331, 0x22331, 0x8201, 0x5F22,
    0x5F22, 0x38C7, 0x232B8, 0x261DA, 0x5F62, 0x5F6B, 0x38E3,
    0x5F9A, 0x5FCD, 0x5FD7, 0x5FF9, 0x6081, 0x393A, 0x391C,
    0x6094, 0x226D4, 0x60C7, 0x6148, 0x614C, 0x614E, 0x614C,
    0x617A, 0x618E, 0x61B2, 0x61A4, 0x61AF, 0x61DE, 0x61F2,
    0x61F6, 0x6210, 0x621B, 0x625D, 0x62B1, 0x62D4, 0x6350,
    0x22B0C, 0x633D, 0x62FC, 0x6368, 0x6383, 0x63E4, 0x22BF1,
    0x6422, 0x63C5, 0x63A9, 0x3A2E, 0x6469, 0x647E, 0x649D,
    0x6477, 0x3A6C, 0x654F, 0x656C, 0x2300A, 0x65E3, 0x66F8,
    0x6649, 0x3B19, 0x6691, 0x3B08, 0x3AE4, 0x5192, 0x5195,
    0x6700, 0x669C, 0x80AD, 0x43D9, 0x6717, 0x671B, 0x6721,
    0x675E, 0x6753, 0x233C3, 0x3B49, 0x67FA, 0x6785, 0x6852,
    0x6885, 0x2346D, 0x688E, 0x681F, 0x6914, 0x3B9D, 0x6942,
    0x69A3, 0x69EA, 0x6AA8, 0x236A3, 0x6ADB, 0x3C18, 0x6B21,
    0x238A7, 0x6B54, 0x3C4E, 0x6B72, 0x6B9F, 0x6BBA, 0x6BBB,
    0x23A8D, 0x21D0B, 0x23AFA, 0x6C4E, 0x23CBC, 0x6CBF, 0x6CCD,
    0x6C67, 0x6D16]

/- What the characters from U+2F900 to U+2F97F stand for. -/
def ideographsFrom2F900 : List Nat :=
  [0x6D3E, 0x6D77, 0x6D41, 0x6D69, 0x6D78, 0x6D85, 0x23D1E,
    0x6D34, 0x6E2F, 0x6E6E, 0x3D33, 0x6ECB, 0x6EC7, 0x23ED1,
    0x6DF9, 0x6F6E, 0x23F5E, 0x23F8E, 0x6FC6, 0x7039, 0x701E,
    0x701B, 0x3D96, 0x704A, 0x707D, 0x7077, 0x70AD, 0x20525,
    0x7145, 0x24263, 0x719C, 0x243AB, 0x7228, 0x7235, 0x7250,
    0x24608, 0x7280, 0x7295, 0x24735, 0x24814, 0x737A, 0x738B,
    0x3EAC, 0x73A5, 0x3EB8, 0x3EB8, 0x7447, 0x745C, 0x7471,
    0x7485, 0x74CA, 0x3F1B, 0x7524, 0x24C36, 0x753E, 0x24C92,
    0x7570, 0x2219F, 0x7610, 0x24FA1, 0x24FB8, 0x25044, 0x3FFC,
    0x4008, 0x76F4, 0x250F3, 0x250F2, 0x25119, 0x25133, 0x771E,
    0x771F, 0x771F, 0x774A, 0x4039, 0x778B, 0x4046, 0x4096,
    0x2541D, 0x784E, 0x788C, 0x78CC, 0x40E3, 0x25626, 0x7956,
    0x2569A, 0x256C5, 0x798F, 0x79EB, 0x412F, 0x7A40, 0x7A4A,
    0x7A4F, 0x2597C, 0x25AA7, 0x25AA7, 0x7AEE, 0x4202, 0x25BAB,
    0x7BC6, 0x7BC9, 0x4227, 0x25C80, 0x7CD2, 0x42A0, 0x7CE8,
    0x7CE3, 0x7D00, 0x25F86, 0x7D63, 0x4301, 0x7DC7, 0x7E02,
    0x7E45, 0x4334, 0x26228, 0x26247, 0x4359, 0x262D9, 0x7F7A,
    0x2633E, 0x7F95, 0x7FFA, 0x8005, 0x264DA, 0x26523, 0x8060,
    0x265A8, 0x8070]

/- What the characters from U+2F980 to U+2F9FF stand for. -/
def ideographsFrom2F980 : List Nat :=
  [0x2335F, 0x43D5, 0x80B2, 0x8103, 0x440B, 0x813E, 0x5AB5,
    0x267A7, 0x267B5, 0x23393, 0x2339C, 0x8201, 0x8204, 0x8F9E,
    0x446B, 0x8291, 0x828B, 0x829D, 0x52B3, 0x82B1, 0x82B3,
    0x82BD, 0x82E6, 0x26B3C, 0x82E5, 0x831D, 0x8363, 0x83AD,
    0x8323, 0x83BD, 0x83E7, 0x8457, 0x8353, 0x83CA, 0x83CC,
    0x83DC, 0x26C36, 0x26D6B, 0x26CD5, 0x452B, 0x84F1, 0x84F3,
    0x8516, 0x273CA, 0x8564, 0x26F2C, 0x455D, 0x4561, 0x26FB1,
    0x270D2, 0x456B, 0x8650, 0x865C, 0x8667, 0x8669, 0x86A9,
    0x8688, 0x870E, 0x86E2, 0x8779, 0x8728, 0x876B, 0x8786,
    0x45D7, 0x87E1, 0x8801, 0x45F9, 0x8860, 0x8863, 0x27667,
    0x88D7, 0x88DE, 0x4635, 0x88FA, 0x34BB, 0x278AE, 0x27966,
    0x46BE, 0x46C7, 0x8AA0, 0x8AED, 0x8B8A, 0x8C55, 0x27CA8,
    0x8CAB, 0x8CC1, 0x8D1B, 0x8D77, 0x27F2F, 0x20804, 0x8DCB,
    0x8DBC, 0x8DF0, 0x208DE, 0x8ED4, 0x8F38, 0x285D2, 0x285ED,
    0x9094, 0x90F1, 0x9111, 0x2872E, 0x911B, 0x9238, 0x92D7,
    0x92D8, 0x927C, 0x93F9, 0x9415, 0x28BFA, 0x958B, 0x4995,
    0x95B7, 0x28D77, 0x49E6, 0x96C3, 0x5DB2, 0x9723, 0x29145,
    0x2921A, 0x4A6E, 0x4A76, 0x97E0, 0x2940A, 0x4AB2, 0x29496,
    0x980B, 0x980B]

/- What the characters from U+2FA00 to U+2FA1D stand for. -/
def ideographsFrom2FA00 : List Nat :=
  [0x9829, 0x295B6, 0x98E2, 0x4B33, 0x9929, 0x99A7, 0x99C2,
    0x99FE, 0x4BCE, 0x29B30, 0x9B12, 0x9C40, 0x9CFD, 0x4CCE,
    0x4CED, 0x9D67, 0x2A0CE, 0x4CF8, 0x2A105, 0x2A20E, 0x2A291,
    0x9EBB, 0x4D56, 0x9EF9, 0x9EFE, 0x9F05, 0x9F0F, 0x9F16,
    0x9F3B, 0x2A600]

/-
  Runs of compatibility ideographs: the first of a run, and
  what it and those behind it stand for.
-/
def compatibilityRuns : List (Nat × List Nat) :=
  [(0xF900, ideographsFromF900), (0xF980, ideographsFromF980),
    (0xFA00, ideographsFromFA00), (0xFA10, [0x585A]),
    (0xFA12, [0x6674]),
    (0xFA15, [0x51DE, 0x732A, 0x76CA, 0x793C, 0x795E, 0x7965,
      0x798F, 0x9756, 0x7CBE, 0x7FBD]),
    (0xFA20, [0x8612]), (0xFA22, [0x8AF8]),
    (0xFA25, [0x9038, 0x90FD]), (0xFA2A, ideographsFromFA2A),
    (0xFA70, ideographsFromFA70), (0xFA80, ideographsFromFA80),
    (0x2F800, ideographsFrom2F800),
    (0x2F880, ideographsFrom2F880),
    (0x2F900, ideographsFrom2F900),
    (0x2F980, ideographsFrom2F980),
    (0x2FA00, ideographsFrom2FA00)]

/- The ideograph that a compatibility ideograph stands for. -/
def unified? (c : Nat) : Option Nat :=
  compatibilityRuns.findSome? fun run =>
    if run.1 ≤ c then run.2[c - run.1]? else none

end Text

end Registrar
