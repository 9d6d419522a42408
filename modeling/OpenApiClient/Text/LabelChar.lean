/-
Characters of the labels of hosts.

A label can hold the characters of names, as far as they are small and have no simpler form
that they could be taken for.  Some more can stand in it beside certain neighbours only, and
for that the scripts and the joining of letters are needed.  Text that runs from right to left
has rules of its own.  The tables are those of Unicode 14, and where a range has characters
that no label can hold, it goes on across them.
-/

import OpenApiClient.Text.LetterCase
import OpenApiClient.Text.NameChar

set_option autoImplicit false

namespace OpenApiClient.Text

/-! ## Characters -/

/-- The characters of names that have a simpler form, or none that can be seen. -/
def simplerRanges : List (Nat × Nat) := [
  (0x5F, 0x5F), (0xAA, 0xBA), (0x133, 0x133), (0x140, 0x140), (0x149, 0x149), (0x17F, 0x17F),
  (0x1C6, 0x1CC), (0x1F3, 0x1F3), (0x2B0, 0x2B8), (0x2E0, 0x2E4), (0x340, 0x341), (0x343, 0x345),
  (0x34F, 0x34F), (0x374, 0x374), (0x387, 0x387), (0x3D0, 0x3D6), (0x3F0, 0x3F2), (0x3F5, 0x3F5),
  (0x587, 0x587), (0x640, 0x640), (0x660, 0x669), (0x675, 0x678), (0x6F0, 0x6F9), (0x7FA, 0x7FA),
  (0x958, 0x95F), (0x9DC, 0x9DF), (0xA33, 0xA33), (0xA36, 0xA36), (0xA59, 0xA5B), (0xA5E, 0xA5E),
  (0xB5C, 0xB5D), (0xE33, 0xE33), (0xEB3, 0xEB3), (0xEDC, 0xEDD), (0xF43, 0xF43), (0xF4D, 0xF4D),
  (0xF52, 0xF52), (0xF57, 0xF57), (0xF5C, 0xF5C), (0xF69, 0xF69), (0xF73, 0xF73), (0xF75, 0xF79),
  (0xF81, 0xF81), (0xF93, 0xF93), (0xF9D, 0xF9D), (0xFA2, 0xFA2), (0xFA7, 0xFA7), (0xFAC, 0xFAC),
  (0xFB9, 0xFB9), (0x10FC, 0x10FC), (0x1100, 0x11FF), (0x1369, 0x1371), (0x13F8, 0x13FD),
  (0x16EE, 0x16F0), (0x17B4, 0x17B5), (0x180B, 0x180F), (0x19DA, 0x19DA), (0x1C80, 0x1C88),
  (0x1D2C, 0x1D2E), (0x1D30, 0x1D3A), (0x1D3C, 0x1D4D), (0x1D4F, 0x1D6A), (0x1D78, 0x1D78),
  (0x1D9B, 0x1DBF), (0x1E9A, 0x1E9B), (0x1F71, 0x1F71), (0x1F73, 0x1F73), (0x1F75, 0x1F75),
  (0x1F77, 0x1F77), (0x1F79, 0x1F79), (0x1F7B, 0x1F7B), (0x1F7D, 0x1FA7), (0x1FB2, 0x1FB4),
  (0x1FB7, 0x1FC4), (0x1FC7, 0x1FC7), (0x1FD3, 0x1FD3), (0x1FE3, 0x1FE3), (0x1FF2, 0x1FF4),
  (0x1FF7, 0x2149), (0x2170, 0x2182), (0x2185, 0x2188), (0x2C7C, 0x2C7D), (0x2D6F, 0x2D6F),
  (0x3021, 0x3029), (0x302E, 0x303B), (0x309F, 0x309F), (0x30FF, 0x30FF), (0x3131, 0x318E),
  (0xA69C, 0xA69D), (0xA6E6, 0xA6EF), (0xA770, 0xA770), (0xA7F2, 0xA7F4), (0xA7F8, 0xA7F9),
  (0xA960, 0xA97C), (0xAB5C, 0xAB5F), (0xAB69, 0xABBF), (0xD7B0, 0xFA0D), (0xFA10, 0xFA10),
  (0xFA12, 0xFA12), (0xFA15, 0xFA1E), (0xFA20, 0xFA20), (0xFA22, 0xFA22), (0xFA25, 0xFA26),
  (0xFA2A, 0xFB1D), (0xFB1F, 0xFE0F), (0xFE33, 0xFE71), (0xFE77, 0xFFDC), (0x10140, 0x10174),
  (0x10341, 0x10341), (0x1034A, 0x1034A), (0x103D1, 0x103D5), (0x10781, 0x107BA),
  (0x12400, 0x1246E), (0x1D165, 0x1D7FF), (0x1EE00, 0x1FBF9), (0x2F800, 0x2FA1D),
  (0xE0100, 0xE01EF)]

/-- The characters that labels can hold beside those of names. -/
def furtherRanges : List (Nat × Nat) := [
  (0x2D, 0x2D), (0x6FD, 0x6FE), (0xF0B, 0xF0B), (0x13A0, 0x13F5), (0x2E2F, 0x2E2F)]

/-- Whether a character can stand in a label beside any other one. -/
def isLabelChar (c : Char) : Bool :=
  (isNameChar c && small c.toNat = c.toNat && !inRanges simplerRanges c)
    || inRanges furtherRanges c

/-- Whether a character of a label combines with the one before. -/
def isMark (c : Char) : Bool := inRanges markRanges c && c ≠ '·'

/-! ## Directions -/

/-- The letters that run from right to left. -/
def leftwardRanges : List (Nat × Nat) := [
  (0x5D0, 0x64A), (0x66E, 0x6EF), (0x6FA, 0x8C9), (0xFE73, 0xFE73), (0x10800, 0x10D23),
  (0x10E80, 0x10FF6), (0x1E800, 0x1E959)]

/-- The digits that stand in their own order among such letters. -/
def eastDigitRanges : List (Nat × Nat) := [
  (0x660, 0x669), (0x10D30, 0x10D39)]

/-- The digits that are taken from elsewhere. -/
def digitRanges : List (Nat × Nat) := [
  (0x30, 0x39), (0x6F0, 0x6F9)]

/-- The marks that run from left to right. -/
def rightwardRanges : List (Nat × Nat) := [
  (0x903, 0x903), (0x93B, 0x93B), (0x93E, 0x940), (0x949, 0x94C), (0x94E, 0x94F), (0x982, 0x983),
  (0x9BE, 0x9C0), (0x9C7, 0x9CC), (0x9D7, 0x9D7), (0xA03, 0xA03), (0xA3E, 0xA40), (0xA83, 0xA83),
  (0xABE, 0xAC0), (0xAC9, 0xACC), (0xB02, 0xB03), (0xB3E, 0xB3E), (0xB40, 0xB40), (0xB47, 0xB4C),
  (0xB57, 0xB57), (0xBBE, 0xBBF), (0xBC1, 0xBCC), (0xBD7, 0xBD7), (0xC01, 0xC03), (0xC41, 0xC44),
  (0xC82, 0xC83), (0xCBE, 0xCBE), (0xCC0, 0xCC4), (0xCC7, 0xCCB), (0xCD5, 0xCD6), (0xD02, 0xD03),
  (0xD3E, 0xD40), (0xD46, 0xD4C), (0xD57, 0xD57), (0xD82, 0xD83), (0xDCF, 0xDD1), (0xDD8, 0xDF3),
  (0xF3E, 0xF3F), (0xF7F, 0xF7F), (0x102B, 0x102C), (0x1031, 0x1031), (0x1038, 0x1038),
  (0x103B, 0x103C), (0x1056, 0x1057), (0x1062, 0x106D), (0x1083, 0x1084), (0x1087, 0x108C),
  (0x108F, 0x109C), (0x1715, 0x1715), (0x1734, 0x1734), (0x17B6, 0x17B6), (0x17BE, 0x17C5),
  (0x17C7, 0x17C8), (0x1923, 0x1926), (0x1929, 0x1931), (0x1933, 0x1938), (0x1A19, 0x1A1A),
  (0x1A55, 0x1A55), (0x1A57, 0x1A57), (0x1A61, 0x1A61), (0x1A63, 0x1A64), (0x1A6D, 0x1A72),
  (0x1B04, 0x1B04), (0x1B35, 0x1B35), (0x1B3B, 0x1B3B), (0x1B3D, 0x1B41), (0x1B43, 0x1B44),
  (0x1B82, 0x1BA1), (0x1BA6, 0x1BA7), (0x1BAA, 0x1BAA), (0x1BE7, 0x1BE7), (0x1BEA, 0x1BEC),
  (0x1BEE, 0x1BEE), (0x1BF2, 0x1C2B), (0x1C34, 0x1C35), (0x1CE1, 0x1CE1), (0x1CF7, 0x1CF7),
  (0xA823, 0xA824), (0xA827, 0xA827), (0xA880, 0xA8C3), (0xA952, 0xA953), (0xA983, 0xA983),
  (0xA9B4, 0xA9B5), (0xA9BA, 0xA9BB), (0xA9BE, 0xA9C0), (0xAA2F, 0xAA30), (0xAA33, 0xAA34),
  (0xAA4D, 0xAA7B), (0xAA7D, 0xAA7D), (0xAAEB, 0xAAEB), (0xAAEE, 0xAAF5), (0xABE3, 0xABE4),
  (0xABE6, 0xABE7), (0xABE9, 0xABEC), (0x11000, 0x11000), (0x11002, 0x11002), (0x11082, 0x110B2),
  (0x110B7, 0x110B8), (0x1112C, 0x1112C), (0x11145, 0x11146), (0x11182, 0x111B5),
  (0x111BF, 0x111C0), (0x111CE, 0x111CE), (0x1122C, 0x1122E), (0x11232, 0x11233),
  (0x11235, 0x11235), (0x112E0, 0x112E2), (0x11302, 0x11303), (0x1133E, 0x1133F),
  (0x11341, 0x11363), (0x11435, 0x11437), (0x11440, 0x11441), (0x11445, 0x11445),
  (0x114B0, 0x114B2), (0x114B9, 0x114B9), (0x114BB, 0x114BE), (0x114C1, 0x114C1),
  (0x115AF, 0x115B1), (0x115B8, 0x115BB), (0x115BE, 0x115BE), (0x11630, 0x11632),
  (0x1163B, 0x1163C), (0x1163E, 0x1163E), (0x116AC, 0x116AC), (0x116AE, 0x116AF),
  (0x116B6, 0x116B6), (0x11720, 0x11721), (0x11726, 0x11726), (0x1182C, 0x1182E),
  (0x11838, 0x11838), (0x11930, 0x11938), (0x1193D, 0x1193D), (0x11940, 0x11942),
  (0x119D1, 0x119D3), (0x119DC, 0x119DF), (0x119E4, 0x119E4), (0x11A39, 0x11A39),
  (0x11A57, 0x11A58), (0x11A97, 0x11A97), (0x11C2F, 0x11C2F), (0x11C3E, 0x11C3E),
  (0x11CA9, 0x11CA9), (0x11CB1, 0x11CB1), (0x11CB4, 0x11CB4), (0x11D8A, 0x11D8E),
  (0x11D93, 0x11D94), (0x11D96, 0x11D96), (0x11EF5, 0x11EF6), (0x16F51, 0x16F87),
  (0x16FF0, 0x16FF1)]

/-- The characters that have no direction. -/
def neutralRanges : List (Nat × Nat) := [
  (0x2D, 0x2D), (0xB7, 0xB7), (0x2B9, 0x2BA), (0x2C6, 0x2CF), (0x2EC, 0x2EC), (0x375, 0x375),
  (0x200C, 0x200D), (0x2E2F, 0x2E2F), (0x30FB, 0x30FB), (0xA67F, 0xA67F), (0xA717, 0xA71F),
  (0xA788, 0xA788)]

/-! ## Neighbours -/

/-- The characters of the Greek script. -/
def greekRanges : List (Nat × Nat) := [
  (0x371, 0x3E1), (0x3F3, 0x3FC), (0x1D26, 0x1D2A), (0x1F00, 0x1FF6), (0xAB65, 0xAB65)]

/-- The characters of the Hebrew script. -/
def hebrewRanges : List (Nat × Nat) := [
  (0x591, 0x5F4), (0xFB1E, 0xFB1E)]

/-- The characters of the scripts of Japanese. -/
def eastRanges : List (Nat × Nat) := [
  (0x3005, 0x3005), (0x3007, 0x3007), (0x3041, 0x3096), (0x309D, 0x30FA), (0x30FD, 0x30FE),
  (0x31F0, 0x9FFF), (0xFA0E, 0xFA29), (0x16FE3, 0x16FE3), (0x16FF0, 0x16FF1), (0x1AFF0, 0x1B167),
  (0x20000, 0x3134A)]

/-- The letters that are joined to the letter after them. -/
def joinsAfterRanges : List (Nat × Nat) := [
  (0x620, 0x620), (0x626, 0x626), (0x628, 0x628), (0x62A, 0x62E), (0x633, 0x647), (0x649, 0x64A),
  (0x66E, 0x66F), (0x679, 0x687), (0x69A, 0x6BF), (0x6C1, 0x6C2), (0x6CC, 0x6CC), (0x6CE, 0x6CE),
  (0x6D0, 0x6D1), (0x6FA, 0x6FC), (0x6FF, 0x6FF), (0x712, 0x714), (0x71A, 0x71D), (0x71F, 0x727),
  (0x729, 0x729), (0x72B, 0x72B), (0x72D, 0x72E), (0x74E, 0x758), (0x75C, 0x76A), (0x76D, 0x770),
  (0x772, 0x772), (0x775, 0x777), (0x77A, 0x77F), (0x7CA, 0x7EA), (0x841, 0x845), (0x848, 0x848),
  (0x84A, 0x853), (0x855, 0x855), (0x860, 0x860), (0x862, 0x865), (0x868, 0x868), (0x886, 0x886),
  (0x889, 0x88D), (0x8A0, 0x8A9), (0x8AF, 0x8B0), (0x8B3, 0x8B8), (0x8BA, 0x8C8),
  (0x1820, 0x1878), (0x1887, 0x18AA), (0xA840, 0xA872), (0x10AC0, 0x10AC4), (0x10ACD, 0x10ACD),
  (0x10AD3, 0x10ADC), (0x10ADE, 0x10AE0), (0x10B80, 0x10B80), (0x10B82, 0x10B82),
  (0x10B86, 0x10B88), (0x10B8A, 0x10B8B), (0x10B8D, 0x10B8D), (0x10B90, 0x10B90),
  (0x10D00, 0x10D21), (0x10D23, 0x10D23), (0x10F30, 0x10F32), (0x10F34, 0x10F44),
  (0x10F70, 0x10F73), (0x10F76, 0x10FB0), (0x10FB2, 0x10FB3), (0x10FB8, 0x10FB8),
  (0x10FBB, 0x10FBC), (0x10FBE, 0x10FBF), (0x10FC1, 0x10FC1), (0x10FC4, 0x10FC4),
  (0x1E922, 0x1E943)]

/-- The letters that are joined to the letter before them. -/
def joinsBeforeRanges : List (Nat × Nat) := [
  (0x620, 0x620), (0x622, 0x64A), (0x66E, 0x673), (0x679, 0x6D5), (0x6EE, 0x6EF), (0x6FA, 0x6FC),
  (0x6FF, 0x77F), (0x7CA, 0x7EA), (0x840, 0x860), (0x862, 0x865), (0x867, 0x882), (0x886, 0x886),
  (0x889, 0x8AC), (0x8AE, 0x8C8), (0x1820, 0x1878), (0x1887, 0x18AA), (0xA840, 0xA871),
  (0x10AC0, 0x10AC5), (0x10AC7, 0x10ACA), (0x10ACE, 0x10AD6), (0x10AD8, 0x10AE1),
  (0x10AE4, 0x10AE4), (0x10B80, 0x10B91), (0x10D01, 0x10D23), (0x10F30, 0x10F44),
  (0x10F70, 0x10FB0), (0x10FB2, 0x10FB6), (0x10FB8, 0x10FBF), (0x10FC1, 0x10FC4),
  (0x1E922, 0x1E943)]

end OpenApiClient.Text
