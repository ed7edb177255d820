/-
  SoundLaw.Text.CanonicalMapping

  The full canonical decomposition of every character that has one, Hangul syllables apart:
  those follow an arithmetic rule of their own. A row of a page gives the low byte of the
  character and the code points that it stands for, none of which decomposes any further.
-/
import SoundLaw.Text.Basic

namespace SoundLaw

/-! ## One page for each 256 code points -/

/-- Canonical decompositions from `0x000` to `0x0FF`. -/
def mappings0 : CodeMap (List Nat) := [
  (0xC0, [0x41, 0x300]), (0xC1, [0x41, 0x301]), (0xC2, [0x41, 0x302]), (0xC3, [0x41, 0x303]),
  (0xC4, [0x41, 0x308]), (0xC5, [0x41, 0x30A]), (0xC7, [0x43, 0x327]), (0xC8, [0x45, 0x300]),
  (0xC9, [0x45, 0x301]), (0xCA, [0x45, 0x302]), (0xCB, [0x45, 0x308]), (0xCC, [0x49, 0x300]),
  (0xCD, [0x49, 0x301]), (0xCE, [0x49, 0x302]), (0xCF, [0x49, 0x308]), (0xD1, [0x4E, 0x303]),
  (0xD2, [0x4F, 0x300]), (0xD3, [0x4F, 0x301]), (0xD4, [0x4F, 0x302]), (0xD5, [0x4F, 0x303]),
  (0xD6, [0x4F, 0x308]), (0xD9, [0x55, 0x300]), (0xDA, [0x55, 0x301]), (0xDB, [0x55, 0x302]),
  (0xDC, [0x55, 0x308]), (0xDD, [0x59, 0x301]), (0xE0, [0x61, 0x300]), (0xE1, [0x61, 0x301]),
  (0xE2, [0x61, 0x302]), (0xE3, [0x61, 0x303]), (0xE4, [0x61, 0x308]), (0xE5, [0x61, 0x30A]),
  (0xE7, [0x63, 0x327]), (0xE8, [0x65, 0x300]), (0xE9, [0x65, 0x301]), (0xEA, [0x65, 0x302]),
  (0xEB, [0x65, 0x308]), (0xEC, [0x69, 0x300]), (0xED, [0x69, 0x301]), (0xEE, [0x69, 0x302]),
  (0xEF, [0x69, 0x308]), (0xF1, [0x6E, 0x303]), (0xF2, [0x6F, 0x300]), (0xF3, [0x6F, 0x301]),
  (0xF4, [0x6F, 0x302]), (0xF5, [0x6F, 0x303]), (0xF6, [0x6F, 0x308]), (0xF9, [0x75, 0x300]),
  (0xFA, [0x75, 0x301]), (0xFB, [0x75, 0x302]), (0xFC, [0x75, 0x308]), (0xFD, [0x79, 0x301]),
  (0xFF, [0x79, 0x308])]

/-- Canonical decompositions from `0x100` to `0x1FF`. -/
def mappings1 : CodeMap (List Nat) := [
  (0x00, [0x41, 0x304]), (0x01, [0x61, 0x304]), (0x02, [0x41, 0x306]), (0x03, [0x61, 0x306]),
  (0x04, [0x41, 0x328]), (0x05, [0x61, 0x328]), (0x06, [0x43, 0x301]), (0x07, [0x63, 0x301]),
  (0x08, [0x43, 0x302]), (0x09, [0x63, 0x302]), (0x0A, [0x43, 0x307]), (0x0B, [0x63, 0x307]),
  (0x0C, [0x43, 0x30C]), (0x0D, [0x63, 0x30C]), (0x0E, [0x44, 0x30C]), (0x0F, [0x64, 0x30C]),
  (0x12, [0x45, 0x304]), (0x13, [0x65, 0x304]), (0x14, [0x45, 0x306]), (0x15, [0x65, 0x306]),
  (0x16, [0x45, 0x307]), (0x17, [0x65, 0x307]), (0x18, [0x45, 0x328]), (0x19, [0x65, 0x328]),
  (0x1A, [0x45, 0x30C]), (0x1B, [0x65, 0x30C]), (0x1C, [0x47, 0x302]), (0x1D, [0x67, 0x302]),
  (0x1E, [0x47, 0x306]), (0x1F, [0x67, 0x306]), (0x20, [0x47, 0x307]), (0x21, [0x67, 0x307]),
  (0x22, [0x47, 0x327]), (0x23, [0x67, 0x327]), (0x24, [0x48, 0x302]), (0x25, [0x68, 0x302]),
  (0x28, [0x49, 0x303]), (0x29, [0x69, 0x303]), (0x2A, [0x49, 0x304]), (0x2B, [0x69, 0x304]),
  (0x2C, [0x49, 0x306]), (0x2D, [0x69, 0x306]), (0x2E, [0x49, 0x328]), (0x2F, [0x69, 0x328]),
  (0x30, [0x49, 0x307]), (0x34, [0x4A, 0x302]), (0x35, [0x6A, 0x302]), (0x36, [0x4B, 0x327]),
  (0x37, [0x6B, 0x327]), (0x39, [0x4C, 0x301]), (0x3A, [0x6C, 0x301]), (0x3B, [0x4C, 0x327]),
  (0x3C, [0x6C, 0x327]), (0x3D, [0x4C, 0x30C]), (0x3E, [0x6C, 0x30C]), (0x43, [0x4E, 0x301]),
  (0x44, [0x6E, 0x301]), (0x45, [0x4E, 0x327]), (0x46, [0x6E, 0x327]), (0x47, [0x4E, 0x30C]),
  (0x48, [0x6E, 0x30C]), (0x4C, [0x4F, 0x304]), (0x4D, [0x6F, 0x304]), (0x4E, [0x4F, 0x306]),
  (0x4F, [0x6F, 0x306]), (0x50, [0x4F, 0x30B]), (0x51, [0x6F, 0x30B]), (0x54, [0x52, 0x301]),
  (0x55, [0x72, 0x301]), (0x56, [0x52, 0x327]), (0x57, [0x72, 0x327]), (0x58, [0x52, 0x30C]),
  (0x59, [0x72, 0x30C]), (0x5A, [0x53, 0x301]), (0x5B, [0x73, 0x301]), (0x5C, [0x53, 0x302]),
  (0x5D, [0x73, 0x302]), (0x5E, [0x53, 0x327]), (0x5F, [0x73, 0x327]), (0x60, [0x53, 0x30C]),
  (0x61, [0x73, 0x30C]), (0x62, [0x54, 0x327]), (0x63, [0x74, 0x327]), (0x64, [0x54, 0x30C]),
  (0x65, [0x74, 0x30C]), (0x68, [0x55, 0x303]), (0x69, [0x75, 0x303]), (0x6A, [0x55, 0x304]),
  (0x6B, [0x75, 0x304]), (0x6C, [0x55, 0x306]), (0x6D, [0x75, 0x306]), (0x6E, [0x55, 0x30A]),
  (0x6F, [0x75, 0x30A]), (0x70, [0x55, 0x30B]), (0x71, [0x75, 0x30B]), (0x72, [0x55, 0x328]),
  (0x73, [0x75, 0x328]), (0x74, [0x57, 0x302]), (0x75, [0x77, 0x302]), (0x76, [0x59, 0x302]),
  (0x77, [0x79, 0x302]), (0x78, [0x59, 0x308]), (0x79, [0x5A, 0x301]), (0x7A, [0x7A, 0x301]),
  (0x7B, [0x5A, 0x307]), (0x7C, [0x7A, 0x307]), (0x7D, [0x5A, 0x30C]), (0x7E, [0x7A, 0x30C]),
  (0xA0, [0x4F, 0x31B]), (0xA1, [0x6F, 0x31B]), (0xAF, [0x55, 0x31B]), (0xB0, [0x75, 0x31B]),
  (0xCD, [0x41, 0x30C]), (0xCE, [0x61, 0x30C]), (0xCF, [0x49, 0x30C]), (0xD0, [0x69, 0x30C]),
  (0xD1, [0x4F, 0x30C]), (0xD2, [0x6F, 0x30C]), (0xD3, [0x55, 0x30C]), (0xD4, [0x75, 0x30C]),
  (0xD5, [0x55, 0x308, 0x304]), (0xD6, [0x75, 0x308, 0x304]), (0xD7, [0x55, 0x308, 0x301]),
  (0xD8, [0x75, 0x308, 0x301]), (0xD9, [0x55, 0x308, 0x30C]), (0xDA, [0x75, 0x308, 0x30C]),
  (0xDB, [0x55, 0x308, 0x300]), (0xDC, [0x75, 0x308, 0x300]), (0xDE, [0x41, 0x308, 0x304]),
  (0xDF, [0x61, 0x308, 0x304]), (0xE0, [0x41, 0x307, 0x304]), (0xE1, [0x61, 0x307, 0x304]),
  (0xE2, [0xC6, 0x304]), (0xE3, [0xE6, 0x304]), (0xE6, [0x47, 0x30C]), (0xE7, [0x67, 0x30C]),
  (0xE8, [0x4B, 0x30C]), (0xE9, [0x6B, 0x30C]), (0xEA, [0x4F, 0x328]), (0xEB, [0x6F, 0x328]),
  (0xEC, [0x4F, 0x328, 0x304]), (0xED, [0x6F, 0x328, 0x304]), (0xEE, [0x1B7, 0x30C]),
  (0xEF, [0x292, 0x30C]), (0xF0, [0x6A, 0x30C]), (0xF4, [0x47, 0x301]), (0xF5, [0x67, 0x301]),
  (0xF8, [0x4E, 0x300]), (0xF9, [0x6E, 0x300]), (0xFA, [0x41, 0x30A, 0x301]),
  (0xFB, [0x61, 0x30A, 0x301]), (0xFC, [0xC6, 0x301]), (0xFD, [0xE6, 0x301]),
  (0xFE, [0xD8, 0x301]), (0xFF, [0xF8, 0x301])]

/-- Canonical decompositions from `0x200` to `0x2FF`. -/
def mappings2 : CodeMap (List Nat) := [
  (0x00, [0x41, 0x30F]), (0x01, [0x61, 0x30F]), (0x02, [0x41, 0x311]), (0x03, [0x61, 0x311]),
  (0x04, [0x45, 0x30F]), (0x05, [0x65, 0x30F]), (0x06, [0x45, 0x311]), (0x07, [0x65, 0x311]),
  (0x08, [0x49, 0x30F]), (0x09, [0x69, 0x30F]), (0x0A, [0x49, 0x311]), (0x0B, [0x69, 0x311]),
  (0x0C, [0x4F, 0x30F]), (0x0D, [0x6F, 0x30F]), (0x0E, [0x4F, 0x311]), (0x0F, [0x6F, 0x311]),
  (0x10, [0x52, 0x30F]), (0x11, [0x72, 0x30F]), (0x12, [0x52, 0x311]), (0x13, [0x72, 0x311]),
  (0x14, [0x55, 0x30F]), (0x15, [0x75, 0x30F]), (0x16, [0x55, 0x311]), (0x17, [0x75, 0x311]),
  (0x18, [0x53, 0x326]), (0x19, [0x73, 0x326]), (0x1A, [0x54, 0x326]), (0x1B, [0x74, 0x326]),
  (0x1E, [0x48, 0x30C]), (0x1F, [0x68, 0x30C]), (0x26, [0x41, 0x307]), (0x27, [0x61, 0x307]),
  (0x28, [0x45, 0x327]), (0x29, [0x65, 0x327]), (0x2A, [0x4F, 0x308, 0x304]),
  (0x2B, [0x6F, 0x308, 0x304]), (0x2C, [0x4F, 0x303, 0x304]), (0x2D, [0x6F, 0x303, 0x304]),
  (0x2E, [0x4F, 0x307]), (0x2F, [0x6F, 0x307]), (0x30, [0x4F, 0x307, 0x304]),
  (0x31, [0x6F, 0x307, 0x304]), (0x32, [0x59, 0x304]), (0x33, [0x79, 0x304])]

/-- Canonical decompositions from `0x300` to `0x3FF`. -/
def mappings3 : CodeMap (List Nat) := [
  (0x40, [0x300]), (0x41, [0x301]), (0x43, [0x313]), (0x44, [0x308, 0x301]), (0x74, [0x2B9]),
  (0x7E, [0x3B]), (0x85, [0xA8, 0x301]), (0x86, [0x391, 0x301]), (0x87, [0xB7]),
  (0x88, [0x395, 0x301]), (0x89, [0x397, 0x301]), (0x8A, [0x399, 0x301]), (0x8C, [0x39F, 0x301]),
  (0x8E, [0x3A5, 0x301]), (0x8F, [0x3A9, 0x301]), (0x90, [0x3B9, 0x308, 0x301]),
  (0xAA, [0x399, 0x308]), (0xAB, [0x3A5, 0x308]), (0xAC, [0x3B1, 0x301]), (0xAD, [0x3B5, 0x301]),
  (0xAE, [0x3B7, 0x301]), (0xAF, [0x3B9, 0x301]), (0xB0, [0x3C5, 0x308, 0x301]),
  (0xCA, [0x3B9, 0x308]), (0xCB, [0x3C5, 0x308]), (0xCC, [0x3BF, 0x301]), (0xCD, [0x3C5, 0x301]),
  (0xCE, [0x3C9, 0x301]), (0xD3, [0x3D2, 0x301]), (0xD4, [0x3D2, 0x308])]

/-- Canonical decompositions from `0x400` to `0x4FF`. -/
def mappings4 : CodeMap (List Nat) := [
  (0x00, [0x415, 0x300]), (0x01, [0x415, 0x308]), (0x03, [0x413, 0x301]), (0x07, [0x406, 0x308]),
  (0x0C, [0x41A, 0x301]), (0x0D, [0x418, 0x300]), (0x0E, [0x423, 0x306]), (0x19, [0x418, 0x306]),
  (0x39, [0x438, 0x306]), (0x50, [0x435, 0x300]), (0x51, [0x435, 0x308]), (0x53, [0x433, 0x301]),
  (0x57, [0x456, 0x308]), (0x5C, [0x43A, 0x301]), (0x5D, [0x438, 0x300]), (0x5E, [0x443, 0x306]),
  (0x76, [0x474, 0x30F]), (0x77, [0x475, 0x30F]), (0xC1, [0x416, 0x306]), (0xC2, [0x436, 0x306]),
  (0xD0, [0x410, 0x306]), (0xD1, [0x430, 0x306]), (0xD2, [0x410, 0x308]), (0xD3, [0x430, 0x308]),
  (0xD6, [0x415, 0x306]), (0xD7, [0x435, 0x306]), (0xDA, [0x4D8, 0x308]), (0xDB, [0x4D9, 0x308]),
  (0xDC, [0x416, 0x308]), (0xDD, [0x436, 0x308]), (0xDE, [0x417, 0x308]), (0xDF, [0x437, 0x308]),
  (0xE2, [0x418, 0x304]), (0xE3, [0x438, 0x304]), (0xE4, [0x418, 0x308]), (0xE5, [0x438, 0x308]),
  (0xE6, [0x41E, 0x308]), (0xE7, [0x43E, 0x308]), (0xEA, [0x4E8, 0x308]), (0xEB, [0x4E9, 0x308]),
  (0xEC, [0x42D, 0x308]), (0xED, [0x44D, 0x308]), (0xEE, [0x423, 0x304]), (0xEF, [0x443, 0x304]),
  (0xF0, [0x423, 0x308]), (0xF1, [0x443, 0x308]), (0xF2, [0x423, 0x30B]), (0xF3, [0x443, 0x30B]),
  (0xF4, [0x427, 0x308]), (0xF5, [0x447, 0x308]), (0xF8, [0x42B, 0x308]), (0xF9, [0x44B, 0x308])]

/-- Canonical decompositions from `0x600` to `0x6FF`. -/
def mappings6 : CodeMap (List Nat) := [
  (0x22, [0x627, 0x653]), (0x23, [0x627, 0x654]), (0x24, [0x648, 0x654]), (0x25, [0x627, 0x655]),
  (0x26, [0x64A, 0x654]), (0xC0, [0x6D5, 0x654]), (0xC2, [0x6C1, 0x654]), (0xD3, [0x6D2, 0x654])]

/-- Canonical decompositions from `0x900` to `0x9FF`. -/
def mappings9 : CodeMap (List Nat) := [
  (0x29, [0x928, 0x93C]), (0x31, [0x930, 0x93C]), (0x34, [0x933, 0x93C]), (0x58, [0x915, 0x93C]),
  (0x59, [0x916, 0x93C]), (0x5A, [0x917, 0x93C]), (0x5B, [0x91C, 0x93C]), (0x5C, [0x921, 0x93C]),
  (0x5D, [0x922, 0x93C]), (0x5E, [0x92B, 0x93C]), (0x5F, [0x92F, 0x93C]), (0xCB, [0x9C7, 0x9BE]),
  (0xCC, [0x9C7, 0x9D7]), (0xDC, [0x9A1, 0x9BC]), (0xDD, [0x9A2, 0x9BC]), (0xDF, [0x9AF, 0x9BC])]

/-- Canonical decompositions from `0xA00` to `0xAFF`. -/
def mappingsA : CodeMap (List Nat) := [
  (0x33, [0xA32, 0xA3C]), (0x36, [0xA38, 0xA3C]), (0x59, [0xA16, 0xA3C]), (0x5A, [0xA17, 0xA3C]),
  (0x5B, [0xA1C, 0xA3C]), (0x5E, [0xA2B, 0xA3C])]

/-- Canonical decompositions from `0xB00` to `0xBFF`. -/
def mappingsB : CodeMap (List Nat) := [
  (0x48, [0xB47, 0xB56]), (0x4B, [0xB47, 0xB3E]), (0x4C, [0xB47, 0xB57]), (0x5C, [0xB21, 0xB3C]),
  (0x5D, [0xB22, 0xB3C]), (0x94, [0xB92, 0xBD7]), (0xCA, [0xBC6, 0xBBE]), (0xCB, [0xBC7, 0xBBE]),
  (0xCC, [0xBC6, 0xBD7])]

/-- Canonical decompositions from `0xC00` to `0xCFF`. -/
def mappingsC : CodeMap (List Nat) := [
  (0x48, [0xC46, 0xC56]), (0xC0, [0xCBF, 0xCD5]), (0xC7, [0xCC6, 0xCD5]), (0xC8, [0xCC6, 0xCD6]),
  (0xCA, [0xCC6, 0xCC2]), (0xCB, [0xCC6, 0xCC2, 0xCD5])]

/-- Canonical decompositions from `0xD00` to `0xDFF`. -/
def mappingsD : CodeMap (List Nat) := [
  (0x4A, [0xD46, 0xD3E]), (0x4B, [0xD47, 0xD3E]), (0x4C, [0xD46, 0xD57]), (0xDA, [0xDD9, 0xDCA]),
  (0xDC, [0xDD9, 0xDCF]), (0xDD, [0xDD9, 0xDCF, 0xDCA]), (0xDE, [0xDD9, 0xDDF])]

/-- Canonical decompositions from `0xF00` to `0xFFF`. -/
def mappingsF : CodeMap (List Nat) := [
  (0x43, [0xF42, 0xFB7]), (0x4D, [0xF4C, 0xFB7]), (0x52, [0xF51, 0xFB7]), (0x57, [0xF56, 0xFB7]),
  (0x5C, [0xF5B, 0xFB7]), (0x69, [0xF40, 0xFB5]), (0x73, [0xF71, 0xF72]), (0x75, [0xF71, 0xF74]),
  (0x76, [0xFB2, 0xF80]), (0x78, [0xFB3, 0xF80]), (0x81, [0xF71, 0xF80]), (0x93, [0xF92, 0xFB7]),
  (0x9D, [0xF9C, 0xFB7]), (0xA2, [0xFA1, 0xFB7]), (0xA7, [0xFA6, 0xFB7]), (0xAC, [0xFAB, 0xFB7]),
  (0xB9, [0xF90, 0xFB5])]

/-- Canonical decompositions from `0x1000` to `0x10FF`. -/
def mappings10 : CodeMap (List Nat) := [
  (0x26, [0x1025, 0x102E])]

/-- Canonical decompositions from `0x1B00` to `0x1BFF`. -/
def mappings1B : CodeMap (List Nat) := [
  (0x06, [0x1B05, 0x1B35]), (0x08, [0x1B07, 0x1B35]), (0x0A, [0x1B09, 0x1B35]),
  (0x0C, [0x1B0B, 0x1B35]), (0x0E, [0x1B0D, 0x1B35]), (0x12, [0x1B11, 0x1B35]),
  (0x3B, [0x1B3A, 0x1B35]), (0x3D, [0x1B3C, 0x1B35]), (0x40, [0x1B3E, 0x1B35]),
  (0x41, [0x1B3F, 0x1B35]), (0x43, [0x1B42, 0x1B35])]

/-- Canonical decompositions from `0x1E00` to `0x1EFF`. -/
def mappings1E : CodeMap (List Nat) := [
  (0x00, [0x41, 0x325]), (0x01, [0x61, 0x325]), (0x02, [0x42, 0x307]), (0x03, [0x62, 0x307]),
  (0x04, [0x42, 0x323]), (0x05, [0x62, 0x323]), (0x06, [0x42, 0x331]), (0x07, [0x62, 0x331]),
  (0x08, [0x43, 0x327, 0x301]), (0x09, [0x63, 0x327, 0x301]), (0x0A, [0x44, 0x307]),
  (0x0B, [0x64, 0x307]), (0x0C, [0x44, 0x323]), (0x0D, [0x64, 0x323]), (0x0E, [0x44, 0x331]),
  (0x0F, [0x64, 0x331]), (0x10, [0x44, 0x327]), (0x11, [0x64, 0x327]), (0x12, [0x44, 0x32D]),
  (0x13, [0x64, 0x32D]), (0x14, [0x45, 0x304, 0x300]), (0x15, [0x65, 0x304, 0x300]),
  (0x16, [0x45, 0x304, 0x301]), (0x17, [0x65, 0x304, 0x301]), (0x18, [0x45, 0x32D]),
  (0x19, [0x65, 0x32D]), (0x1A, [0x45, 0x330]), (0x1B, [0x65, 0x330]),
  (0x1C, [0x45, 0x327, 0x306]), (0x1D, [0x65, 0x327, 0x306]), (0x1E, [0x46, 0x307]),
  (0x1F, [0x66, 0x307]), (0x20, [0x47, 0x304]), (0x21, [0x67, 0x304]), (0x22, [0x48, 0x307]),
  (0x23, [0x68, 0x307]), (0x24, [0x48, 0x323]), (0x25, [0x68, 0x323]), (0x26, [0x48, 0x308]),
  (0x27, [0x68, 0x308]), (0x28, [0x48, 0x327]), (0x29, [0x68, 0x327]), (0x2A, [0x48, 0x32E]),
  (0x2B, [0x68, 0x32E]), (0x2C, [0x49, 0x330]), (0x2D, [0x69, 0x330]),
  (0x2E, [0x49, 0x308, 0x301]), (0x2F, [0x69, 0x308, 0x301]), (0x30, [0x4B, 0x301]),
  (0x31, [0x6B, 0x301]), (0x32, [0x4B, 0x323]), (0x33, [0x6B, 0x323]), (0x34, [0x4B, 0x331]),
  (0x35, [0x6B, 0x331]), (0x36, [0x4C, 0x323]), (0x37, [0x6C, 0x323]),
  (0x38, [0x4C, 0x323, 0x304]), (0x39, [0x6C, 0x323, 0x304]), (0x3A, [0x4C, 0x331]),
  (0x3B, [0x6C, 0x331]), (0x3C, [0x4C, 0x32D]), (0x3D, [0x6C, 0x32D]), (0x3E, [0x4D, 0x301]),
  (0x3F, [0x6D, 0x301]), (0x40, [0x4D, 0x307]), (0x41, [0x6D, 0x307]), (0x42, [0x4D, 0x323]),
  (0x43, [0x6D, 0x323]), (0x44, [0x4E, 0x307]), (0x45, [0x6E, 0x307]), (0x46, [0x4E, 0x323]),
  (0x47, [0x6E, 0x323]), (0x48, [0x4E, 0x331]), (0x49, [0x6E, 0x331]), (0x4A, [0x4E, 0x32D]),
  (0x4B, [0x6E, 0x32D]), (0x4C, [0x4F, 0x303, 0x301]), (0x4D, [0x6F, 0x303, 0x301]),
  (0x4E, [0x4F, 0x303, 0x308]), (0x4F, [0x6F, 0x303, 0x308]), (0x50, [0x4F, 0x304, 0x300]),
  (0x51, [0x6F, 0x304, 0x300]), (0x52, [0x4F, 0x304, 0x301]), (0x53, [0x6F, 0x304, 0x301]),
  (0x54, [0x50, 0x301]), (0x55, [0x70, 0x301]), (0x56, [0x50, 0x307]), (0x57, [0x70, 0x307]),
  (0x58, [0x52, 0x307]), (0x59, [0x72, 0x307]), (0x5A, [0x52, 0x323]), (0x5B, [0x72, 0x323]),
  (0x5C, [0x52, 0x323, 0x304]), (0x5D, [0x72, 0x323, 0x304]), (0x5E, [0x52, 0x331]),
  (0x5F, [0x72, 0x331]), (0x60, [0x53, 0x307]), (0x61, [0x73, 0x307]), (0x62, [0x53, 0x323]),
  (0x63, [0x73, 0x323]), (0x64, [0x53, 0x301, 0x307]), (0x65, [0x73, 0x301, 0x307]),
  (0x66, [0x53, 0x30C, 0x307]), (0x67, [0x73, 0x30C, 0x307]), (0x68, [0x53, 0x323, 0x307]),
  (0x69, [0x73, 0x323, 0x307]), (0x6A, [0x54, 0x307]), (0x6B, [0x74, 0x307]),
  (0x6C, [0x54, 0x323]), (0x6D, [0x74, 0x323]), (0x6E, [0x54, 0x331]), (0x6F, [0x74, 0x331]),
  (0x70, [0x54, 0x32D]), (0x71, [0x74, 0x32D]), (0x72, [0x55, 0x324]), (0x73, [0x75, 0x324]),
  (0x74, [0x55, 0x330]), (0x75, [0x75, 0x330]), (0x76, [0x55, 0x32D]), (0x77, [0x75, 0x32D]),
  (0x78, [0x55, 0x303, 0x301]), (0x79, [0x75, 0x303, 0x301]), (0x7A, [0x55, 0x304, 0x308]),
  (0x7B, [0x75, 0x304, 0x308]), (0x7C, [0x56, 0x303]), (0x7D, [0x76, 0x303]),
  (0x7E, [0x56, 0x323]), (0x7F, [0x76, 0x323]), (0x80, [0x57, 0x300]), (0x81, [0x77, 0x300]),
  (0x82, [0x57, 0x301]), (0x83, [0x77, 0x301]), (0x84, [0x57, 0x308]), (0x85, [0x77, 0x308]),
  (0x86, [0x57, 0x307]), (0x87, [0x77, 0x307]), (0x88, [0x57, 0x323]), (0x89, [0x77, 0x323]),
  (0x8A, [0x58, 0x307]), (0x8B, [0x78, 0x307]), (0x8C, [0x58, 0x308]), (0x8D, [0x78, 0x308]),
  (0x8E, [0x59, 0x307]), (0x8F, [0x79, 0x307]), (0x90, [0x5A, 0x302]), (0x91, [0x7A, 0x302]),
  (0x92, [0x5A, 0x323]), (0x93, [0x7A, 0x323]), (0x94, [0x5A, 0x331]), (0x95, [0x7A, 0x331]),
  (0x96, [0x68, 0x331]), (0x97, [0x74, 0x308]), (0x98, [0x77, 0x30A]), (0x99, [0x79, 0x30A]),
  (0x9B, [0x17F, 0x307]), (0xA0, [0x41, 0x323]), (0xA1, [0x61, 0x323]), (0xA2, [0x41, 0x309]),
  (0xA3, [0x61, 0x309]), (0xA4, [0x41, 0x302, 0x301]), (0xA5, [0x61, 0x302, 0x301]),
  (0xA6, [0x41, 0x302, 0x300]), (0xA7, [0x61, 0x302, 0x300]), (0xA8, [0x41, 0x302, 0x309]),
  (0xA9, [0x61, 0x302, 0x309]), (0xAA, [0x41, 0x302, 0x303]), (0xAB, [0x61, 0x302, 0x303]),
  (0xAC, [0x41, 0x323, 0x302]), (0xAD, [0x61, 0x323, 0x302]), (0xAE, [0x41, 0x306, 0x301]),
  (0xAF, [0x61, 0x306, 0x301]), (0xB0, [0x41, 0x306, 0x300]), (0xB1, [0x61, 0x306, 0x300]),
  (0xB2, [0x41, 0x306, 0x309]), (0xB3, [0x61, 0x306, 0x309]), (0xB4, [0x41, 0x306, 0x303]),
  (0xB5, [0x61, 0x306, 0x303]), (0xB6, [0x41, 0x323, 0x306]), (0xB7, [0x61, 0x323, 0x306]),
  (0xB8, [0x45, 0x323]), (0xB9, [0x65, 0x323]), (0xBA, [0x45, 0x309]), (0xBB, [0x65, 0x309]),
  (0xBC, [0x45, 0x303]), (0xBD, [0x65, 0x303]), (0xBE, [0x45, 0x302, 0x301]),
  (0xBF, [0x65, 0x302, 0x301]), (0xC0, [0x45, 0x302, 0x300]), (0xC1, [0x65, 0x302, 0x300]),
  (0xC2, [0x45, 0x302, 0x309]), (0xC3, [0x65, 0x302, 0x309]), (0xC4, [0x45, 0x302, 0x303]),
  (0xC5, [0x65, 0x302, 0x303]), (0xC6, [0x45, 0x323, 0x302]), (0xC7, [0x65, 0x323, 0x302]),
  (0xC8, [0x49, 0x309]), (0xC9, [0x69, 0x309]), (0xCA, [0x49, 0x323]), (0xCB, [0x69, 0x323]),
  (0xCC, [0x4F, 0x323]), (0xCD, [0x6F, 0x323]), (0xCE, [0x4F, 0x309]), (0xCF, [0x6F, 0x309]),
  (0xD0, [0x4F, 0x302, 0x301]), (0xD1, [0x6F, 0x302, 0x301]), (0xD2, [0x4F, 0x302, 0x300]),
  (0xD3, [0x6F, 0x302, 0x300]), (0xD4, [0x4F, 0x302, 0x309]), (0xD5, [0x6F, 0x302, 0x309]),
  (0xD6, [0x4F, 0x302, 0x303]), (0xD7, [0x6F, 0x302, 0x303]), (0xD8, [0x4F, 0x323, 0x302]),
  (0xD9, [0x6F, 0x323, 0x302]), (0xDA, [0x4F, 0x31B, 0x301]), (0xDB, [0x6F, 0x31B, 0x301]),
  (0xDC, [0x4F, 0x31B, 0x300]), (0xDD, [0x6F, 0x31B, 0x300]), (0xDE, [0x4F, 0x31B, 0x309]),
  (0xDF, [0x6F, 0x31B, 0x309]), (0xE0, [0x4F, 0x31B, 0x303]), (0xE1, [0x6F, 0x31B, 0x303]),
  (0xE2, [0x4F, 0x31B, 0x323]), (0xE3, [0x6F, 0x31B, 0x323]), (0xE4, [0x55, 0x323]),
  (0xE5, [0x75, 0x323]), (0xE6, [0x55, 0x309]), (0xE7, [0x75, 0x309]),
  (0xE8, [0x55, 0x31B, 0x301]), (0xE9, [0x75, 0x31B, 0x301]), (0xEA, [0x55, 0x31B, 0x300]),
  (0xEB, [0x75, 0x31B, 0x300]), (0xEC, [0x55, 0x31B, 0x309]), (0xED, [0x75, 0x31B, 0x309]),
  (0xEE, [0x55, 0x31B, 0x303]), (0xEF, [0x75, 0x31B, 0x303]), (0xF0, [0x55, 0x31B, 0x323]),
  (0xF1, [0x75, 0x31B, 0x323]), (0xF2, [0x59, 0x300]), (0xF3, [0x79, 0x300]),
  (0xF4, [0x59, 0x323]), (0xF5, [0x79, 0x323]), (0xF6, [0x59, 0x309]), (0xF7, [0x79, 0x309]),
  (0xF8, [0x59, 0x303]), (0xF9, [0x79, 0x303])]

/-- Canonical decompositions from `0x1F00` to `0x1FFF`. -/
def mappings1F : CodeMap (List Nat) := [
  (0x00, [0x3B1, 0x313]), (0x01, [0x3B1, 0x314]), (0x02, [0x3B1, 0x313, 0x300]),
  (0x03, [0x3B1, 0x314, 0x300]), (0x04, [0x3B1, 0x313, 0x301]), (0x05, [0x3B1, 0x314, 0x301]),
  (0x06, [0x3B1, 0x313, 0x342]), (0x07, [0x3B1, 0x314, 0x342]), (0x08, [0x391, 0x313]),
  (0x09, [0x391, 0x314]), (0x0A, [0x391, 0x313, 0x300]), (0x0B, [0x391, 0x314, 0x300]),
  (0x0C, [0x391, 0x313, 0x301]), (0x0D, [0x391, 0x314, 0x301]), (0x0E, [0x391, 0x313, 0x342]),
  (0x0F, [0x391, 0x314, 0x342]), (0x10, [0x3B5, 0x313]), (0x11, [0x3B5, 0x314]),
  (0x12, [0x3B5, 0x313, 0x300]), (0x13, [0x3B5, 0x314, 0x300]), (0x14, [0x3B5, 0x313, 0x301]),
  (0x15, [0x3B5, 0x314, 0x301]), (0x18, [0x395, 0x313]), (0x19, [0x395, 0x314]),
  (0x1A, [0x395, 0x313, 0x300]), (0x1B, [0x395, 0x314, 0x300]), (0x1C, [0x395, 0x313, 0x301]),
  (0x1D, [0x395, 0x314, 0x301]), (0x20, [0x3B7, 0x313]), (0x21, [0x3B7, 0x314]),
  (0x22, [0x3B7, 0x313, 0x300]), (0x23, [0x3B7, 0x314, 0x300]), (0x24, [0x3B7, 0x313, 0x301]),
  (0x25, [0x3B7, 0x314, 0x301]), (0x26, [0x3B7, 0x313, 0x342]), (0x27, [0x3B7, 0x314, 0x342]),
  (0x28, [0x397, 0x313]), (0x29, [0x397, 0x314]), (0x2A, [0x397, 0x313, 0x300]),
  (0x2B, [0x397, 0x314, 0x300]), (0x2C, [0x397, 0x313, 0x301]), (0x2D, [0x397, 0x314, 0x301]),
  (0x2E, [0x397, 0x313, 0x342]), (0x2F, [0x397, 0x314, 0x342]), (0x30, [0x3B9, 0x313]),
  (0x31, [0x3B9, 0x314]), (0x32, [0x3B9, 0x313, 0x300]), (0x33, [0x3B9, 0x314, 0x300]),
  (0x34, [0x3B9, 0x313, 0x301]), (0x35, [0x3B9, 0x314, 0x301]), (0x36, [0x3B9, 0x313, 0x342]),
  (0x37, [0x3B9, 0x314, 0x342]), (0x38, [0x399, 0x313]), (0x39, [0x399, 0x314]),
  (0x3A, [0x399, 0x313, 0x300]), (0x3B, [0x399, 0x314, 0x300]), (0x3C, [0x399, 0x313, 0x301]),
  (0x3D, [0x399, 0x314, 0x301]), (0x3E, [0x399, 0x313, 0x342]), (0x3F, [0x399, 0x314, 0x342]),
  (0x40, [0x3BF, 0x313]), (0x41, [0x3BF, 0x314]), (0x42, [0x3BF, 0x313, 0x300]),
  (0x43, [0x3BF, 0x314, 0x300]), (0x44, [0x3BF, 0x313, 0x301]), (0x45, [0x3BF, 0x314, 0x301]),
  (0x48, [0x39F, 0x313]), (0x49, [0x39F, 0x314]), (0x4A, [0x39F, 0x313, 0x300]),
  (0x4B, [0x39F, 0x314, 0x300]), (0x4C, [0x39F, 0x313, 0x301]), (0x4D, [0x39F, 0x314, 0x301]),
  (0x50, [0x3C5, 0x313]), (0x51, [0x3C5, 0x314]), (0x52, [0x3C5, 0x313, 0x300]),
  (0x53, [0x3C5, 0x314, 0x300]), (0x54, [0x3C5, 0x313, 0x301]), (0x55, [0x3C5, 0x314, 0x301]),
  (0x56, [0x3C5, 0x313, 0x342]), (0x57, [0x3C5, 0x314, 0x342]), (0x59, [0x3A5, 0x314]),
  (0x5B, [0x3A5, 0x314, 0x300]), (0x5D, [0x3A5, 0x314, 0x301]), (0x5F, [0x3A5, 0x314, 0x342]),
  (0x60, [0x3C9, 0x313]), (0x61, [0x3C9, 0x314]), (0x62, [0x3C9, 0x313, 0x300]),
  (0x63, [0x3C9, 0x314, 0x300]), (0x64, [0x3C9, 0x313, 0x301]), (0x65, [0x3C9, 0x314, 0x301]),
  (0x66, [0x3C9, 0x313, 0x342]), (0x67, [0x3C9, 0x314, 0x342]), (0x68, [0x3A9, 0x313]),
  (0x69, [0x3A9, 0x314]), (0x6A, [0x3A9, 0x313, 0x300]), (0x6B, [0x3A9, 0x314, 0x300]),
  (0x6C, [0x3A9, 0x313, 0x301]), (0x6D, [0x3A9, 0x314, 0x301]), (0x6E, [0x3A9, 0x313, 0x342]),
  (0x6F, [0x3A9, 0x314, 0x342]), (0x70, [0x3B1, 0x300]), (0x71, [0x3B1, 0x301]),
  (0x72, [0x3B5, 0x300]), (0x73, [0x3B5, 0x301]), (0x74, [0x3B7, 0x300]), (0x75, [0x3B7, 0x301]),
  (0x76, [0x3B9, 0x300]), (0x77, [0x3B9, 0x301]), (0x78, [0x3BF, 0x300]), (0x79, [0x3BF, 0x301]),
  (0x7A, [0x3C5, 0x300]), (0x7B, [0x3C5, 0x301]), (0x7C, [0x3C9, 0x300]), (0x7D, [0x3C9, 0x301]),
  (0x80, [0x3B1, 0x313, 0x345]), (0x81, [0x3B1, 0x314, 0x345]),
  (0x82, [0x3B1, 0x313, 0x300, 0x345]), (0x83, [0x3B1, 0x314, 0x300, 0x345]),
  (0x84, [0x3B1, 0x313, 0x301, 0x345]), (0x85, [0x3B1, 0x314, 0x301, 0x345]),
  (0x86, [0x3B1, 0x313, 0x342, 0x345]), (0x87, [0x3B1, 0x314, 0x342, 0x345]),
  (0x88, [0x391, 0x313, 0x345]), (0x89, [0x391, 0x314, 0x345]),
  (0x8A, [0x391, 0x313, 0x300, 0x345]), (0x8B, [0x391, 0x314, 0x300, 0x345]),
  (0x8C, [0x391, 0x313, 0x301, 0x345]), (0x8D, [0x391, 0x314, 0x301, 0x345]),
  (0x8E, [0x391, 0x313, 0x342, 0x345]), (0x8F, [0x391, 0x314, 0x342, 0x345]),
  (0x90, [0x3B7, 0x313, 0x345]), (0x91, [0x3B7, 0x314, 0x345]),
  (0x92, [0x3B7, 0x313, 0x300, 0x345]), (0x93, [0x3B7, 0x314, 0x300, 0x345]),
  (0x94, [0x3B7, 0x313, 0x301, 0x345]), (0x95, [0x3B7, 0x314, 0x301, 0x345]),
  (0x96, [0x3B7, 0x313, 0x342, 0x345]), (0x97, [0x3B7, 0x314, 0x342, 0x345]),
  (0x98, [0x397, 0x313, 0x345]), (0x99, [0x397, 0x314, 0x345]),
  (0x9A, [0x397, 0x313, 0x300, 0x345]), (0x9B, [0x397, 0x314, 0x300, 0x345]),
  (0x9C, [0x397, 0x313, 0x301, 0x345]), (0x9D, [0x397, 0x314, 0x301, 0x345]),
  (0x9E, [0x397, 0x313, 0x342, 0x345]), (0x9F, [0x397, 0x314, 0x342, 0x345]),
  (0xA0, [0x3C9, 0x313, 0x345]), (0xA1, [0x3C9, 0x314, 0x345]),
  (0xA2, [0x3C9, 0x313, 0x300, 0x345]), (0xA3, [0x3C9, 0x314, 0x300, 0x345]),
  (0xA4, [0x3C9, 0x313, 0x301, 0x345]), (0xA5, [0x3C9, 0x314, 0x301, 0x345]),
  (0xA6, [0x3C9, 0x313, 0x342, 0x345]), (0xA7, [0x3C9, 0x314, 0x342, 0x345]),
  (0xA8, [0x3A9, 0x313, 0x345]), (0xA9, [0x3A9, 0x314, 0x345]),
  (0xAA, [0x3A9, 0x313, 0x300, 0x345]), (0xAB, [0x3A9, 0x314, 0x300, 0x345]),
  (0xAC, [0x3A9, 0x313, 0x301, 0x345]), (0xAD, [0x3A9, 0x314, 0x301, 0x345]),
  (0xAE, [0x3A9, 0x313, 0x342, 0x345]), (0xAF, [0x3A9, 0x314, 0x342, 0x345]),
  (0xB0, [0x3B1, 0x306]), (0xB1, [0x3B1, 0x304]), (0xB2, [0x3B1, 0x300, 0x345]),
  (0xB3, [0x3B1, 0x345]), (0xB4, [0x3B1, 0x301, 0x345]), (0xB6, [0x3B1, 0x342]),
  (0xB7, [0x3B1, 0x342, 0x345]), (0xB8, [0x391, 0x306]), (0xB9, [0x391, 0x304]),
  (0xBA, [0x391, 0x300]), (0xBB, [0x391, 0x301]), (0xBC, [0x391, 0x345]), (0xBE, [0x3B9]),
  (0xC1, [0xA8, 0x342]), (0xC2, [0x3B7, 0x300, 0x345]), (0xC3, [0x3B7, 0x345]),
  (0xC4, [0x3B7, 0x301, 0x345]), (0xC6, [0x3B7, 0x342]), (0xC7, [0x3B7, 0x342, 0x345]),
  (0xC8, [0x395, 0x300]), (0xC9, [0x395, 0x301]), (0xCA, [0x397, 0x300]), (0xCB, [0x397, 0x301]),
  (0xCC, [0x397, 0x345]), (0xCD, [0x1FBF, 0x300]), (0xCE, [0x1FBF, 0x301]),
  (0xCF, [0x1FBF, 0x342]), (0xD0, [0x3B9, 0x306]), (0xD1, [0x3B9, 0x304]),
  (0xD2, [0x3B9, 0x308, 0x300]), (0xD3, [0x3B9, 0x308, 0x301]), (0xD6, [0x3B9, 0x342]),
  (0xD7, [0x3B9, 0x308, 0x342]), (0xD8, [0x399, 0x306]), (0xD9, [0x399, 0x304]),
  (0xDA, [0x399, 0x300]), (0xDB, [0x399, 0x301]), (0xDD, [0x1FFE, 0x300]),
  (0xDE, [0x1FFE, 0x301]), (0xDF, [0x1FFE, 0x342]), (0xE0, [0x3C5, 0x306]),
  (0xE1, [0x3C5, 0x304]), (0xE2, [0x3C5, 0x308, 0x300]), (0xE3, [0x3C5, 0x308, 0x301]),
  (0xE4, [0x3C1, 0x313]), (0xE5, [0x3C1, 0x314]), (0xE6, [0x3C5, 0x342]),
  (0xE7, [0x3C5, 0x308, 0x342]), (0xE8, [0x3A5, 0x306]), (0xE9, [0x3A5, 0x304]),
  (0xEA, [0x3A5, 0x300]), (0xEB, [0x3A5, 0x301]), (0xEC, [0x3A1, 0x314]), (0xED, [0xA8, 0x300]),
  (0xEE, [0xA8, 0x301]), (0xEF, [0x60]), (0xF2, [0x3C9, 0x300, 0x345]), (0xF3, [0x3C9, 0x345]),
  (0xF4, [0x3C9, 0x301, 0x345]), (0xF6, [0x3C9, 0x342]), (0xF7, [0x3C9, 0x342, 0x345]),
  (0xF8, [0x39F, 0x300]), (0xF9, [0x39F, 0x301]), (0xFA, [0x3A9, 0x300]), (0xFB, [0x3A9, 0x301]),
  (0xFC, [0x3A9, 0x345]), (0xFD, [0xB4])]

/-- Canonical decompositions from `0x2000` to `0x20FF`. -/
def mappings20 : CodeMap (List Nat) := [
  (0x00, [0x2002]), (0x01, [0x2003])]

/-- Canonical decompositions from `0x2100` to `0x21FF`. -/
def mappings21 : CodeMap (List Nat) := [
  (0x26, [0x3A9]), (0x2A, [0x4B]), (0x2B, [0x41, 0x30A]), (0x9A, [0x2190, 0x338]),
  (0x9B, [0x2192, 0x338]), (0xAE, [0x2194, 0x338]), (0xCD, [0x21D0, 0x338]),
  (0xCE, [0x21D4, 0x338]), (0xCF, [0x21D2, 0x338])]

/-- Canonical decompositions from `0x2200` to `0x22FF`. -/
def mappings22 : CodeMap (List Nat) := [
  (0x04, [0x2203, 0x338]), (0x09, [0x2208, 0x338]), (0x0C, [0x220B, 0x338]),
  (0x24, [0x2223, 0x338]), (0x26, [0x2225, 0x338]), (0x41, [0x223C, 0x338]),
  (0x44, [0x2243, 0x338]), (0x47, [0x2245, 0x338]), (0x49, [0x2248, 0x338]),
  (0x60, [0x3D, 0x338]), (0x62, [0x2261, 0x338]), (0x6D, [0x224D, 0x338]), (0x6E, [0x3C, 0x338]),
  (0x6F, [0x3E, 0x338]), (0x70, [0x2264, 0x338]), (0x71, [0x2265, 0x338]),
  (0x74, [0x2272, 0x338]), (0x75, [0x2273, 0x338]), (0x78, [0x2276, 0x338]),
  (0x79, [0x2277, 0x338]), (0x80, [0x227A, 0x338]), (0x81, [0x227B, 0x338]),
  (0x84, [0x2282, 0x338]), (0x85, [0x2283, 0x338]), (0x88, [0x2286, 0x338]),
  (0x89, [0x2287, 0x338]), (0xAC, [0x22A2, 0x338]), (0xAD, [0x22A8, 0x338]),
  (0xAE, [0x22A9, 0x338]), (0xAF, [0x22AB, 0x338]), (0xE0, [0x227C, 0x338]),
  (0xE1, [0x227D, 0x338]), (0xE2, [0x2291, 0x338]), (0xE3, [0x2292, 0x338]),
  (0xEA, [0x22B2, 0x338]), (0xEB, [0x22B3, 0x338]), (0xEC, [0x22B4, 0x338]),
  (0xED, [0x22B5, 0x338])]

/-- Canonical decompositions from `0x2300` to `0x23FF`. -/
def mappings23 : CodeMap (List Nat) := [
  (0x29, [0x3008]), (0x2A, [0x3009])]

/-- Canonical decompositions from `0x2A00` to `0x2AFF`. -/
def mappings2A : CodeMap (List Nat) := [
  (0xDC, [0x2ADD, 0x338])]

/-- Canonical decompositions from `0x3000` to `0x30FF`. -/
def mappings30 : CodeMap (List Nat) := [
  (0x4C, [0x304B, 0x3099]), (0x4E, [0x304D, 0x3099]), (0x50, [0x304F, 0x3099]),
  (0x52, [0x3051, 0x3099]), (0x54, [0x3053, 0x3099]), (0x56, [0x3055, 0x3099]),
  (0x58, [0x3057, 0x3099]), (0x5A, [0x3059, 0x3099]), (0x5C, [0x305B, 0x3099]),
  (0x5E, [0x305D, 0x3099]), (0x60, [0x305F, 0x3099]), (0x62, [0x3061, 0x3099]),
  (0x65, [0x3064, 0x3099]), (0x67, [0x3066, 0x3099]), (0x69, [0x3068, 0x3099]),
  (0x70, [0x306F, 0x3099]), (0x71, [0x306F, 0x309A]), (0x73, [0x3072, 0x3099]),
  (0x74, [0x3072, 0x309A]), (0x76, [0x3075, 0x3099]), (0x77, [0x3075, 0x309A]),
  (0x79, [0x3078, 0x3099]), (0x7A, [0x3078, 0x309A]), (0x7C, [0x307B, 0x3099]),
  (0x7D, [0x307B, 0x309A]), (0x94, [0x3046, 0x3099]), (0x9E, [0x309D, 0x3099]),
  (0xAC, [0x30AB, 0x3099]), (0xAE, [0x30AD, 0x3099]), (0xB0, [0x30AF, 0x3099]),
  (0xB2, [0x30B1, 0x3099]), (0xB4, [0x30B3, 0x3099]), (0xB6, [0x30B5, 0x3099]),
  (0xB8, [0x30B7, 0x3099]), (0xBA, [0x30B9, 0x3099]), (0xBC, [0x30BB, 0x3099]),
  (0xBE, [0x30BD, 0x3099]), (0xC0, [0x30BF, 0x3099]), (0xC2, [0x30C1, 0x3099]),
  (0xC5, [0x30C4, 0x3099]), (0xC7, [0x30C6, 0x3099]), (0xC9, [0x30C8, 0x3099]),
  (0xD0, [0x30CF, 0x3099]), (0xD1, [0x30CF, 0x309A]), (0xD3, [0x30D2, 0x3099]),
  (0xD4, [0x30D2, 0x309A]), (0xD6, [0x30D5, 0x3099]), (0xD7, [0x30D5, 0x309A]),
  (0xD9, [0x30D8, 0x3099]), (0xDA, [0x30D8, 0x309A]), (0xDC, [0x30DB, 0x3099]),
  (0xDD, [0x30DB, 0x309A]), (0xF4, [0x30A6, 0x3099]), (0xF7, [0x30EF, 0x3099]),
  (0xF8, [0x30F0, 0x3099]), (0xF9, [0x30F1, 0x3099]), (0xFA, [0x30F2, 0x3099]),
  (0xFE, [0x30FD, 0x3099])]

/-- Canonical decompositions from `0xF900` to `0xF9FF`. -/
def mappingsF9 : CodeMap (List Nat) := [
  (0x00, [0x8C48]), (0x01, [0x66F4]), (0x02, [0x8ECA]), (0x03, [0x8CC8]), (0x04, [0x6ED1]),
  (0x05, [0x4E32]), (0x06, [0x53E5]), (0x07, [0x9F9C]), (0x08, [0x9F9C]), (0x09, [0x5951]),
  (0x0A, [0x91D1]), (0x0B, [0x5587]), (0x0C, [0x5948]), (0x0D, [0x61F6]), (0x0E, [0x7669]),
  (0x0F, [0x7F85]), (0x10, [0x863F]), (0x11, [0x87BA]), (0x12, [0x88F8]), (0x13, [0x908F]),
  (0x14, [0x6A02]), (0x15, [0x6D1B]), (0x16, [0x70D9]), (0x17, [0x73DE]), (0x18, [0x843D]),
  (0x19, [0x916A]), (0x1A, [0x99F1]), (0x1B, [0x4E82]), (0x1C, [0x5375]), (0x1D, [0x6B04]),
  (0x1E, [0x721B]), (0x1F, [0x862D]), (0x20, [0x9E1E]), (0x21, [0x5D50]), (0x22, [0x6FEB]),
  (0x23, [0x85CD]), (0x24, [0x8964]), (0x25, [0x62C9]), (0x26, [0x81D8]), (0x27, [0x881F]),
  (0x28, [0x5ECA]), (0x29, [0x6717]), (0x2A, [0x6D6A]), (0x2B, [0x72FC]), (0x2C, [0x90CE]),
  (0x2D, [0x4F86]), (0x2E, [0x51B7]), (0x2F, [0x52DE]), (0x30, [0x64C4]), (0x31, [0x6AD3]),
  (0x32, [0x7210]), (0x33, [0x76E7]), (0x34, [0x8001]), (0x35, [0x8606]), (0x36, [0x865C]),
  (0x37, [0x8DEF]), (0x38, [0x9732]), (0x39, [0x9B6F]), (0x3A, [0x9DFA]), (0x3B, [0x788C]),
  (0x3C, [0x797F]), (0x3D, [0x7DA0]), (0x3E, [0x83C9]), (0x3F, [0x9304]), (0x40, [0x9E7F]),
  (0x41, [0x8AD6]), (0x42, [0x58DF]), (0x43, [0x5F04]), (0x44, [0x7C60]), (0x45, [0x807E]),
  (0x46, [0x7262]), (0x47, [0x78CA]), (0x48, [0x8CC2]), (0x49, [0x96F7]), (0x4A, [0x58D8]),
  (0x4B, [0x5C62]), (0x4C, [0x6A13]), (0x4D, [0x6DDA]), (0x4E, [0x6F0F]), (0x4F, [0x7D2F]),
  (0x50, [0x7E37]), (0x51, [0x964B]), (0x52, [0x52D2]), (0x53, [0x808B]), (0x54, [0x51DC]),
  (0x55, [0x51CC]), (0x56, [0x7A1C]), (0x57, [0x7DBE]), (0x58, [0x83F1]), (0x59, [0x9675]),
  (0x5A, [0x8B80]), (0x5B, [0x62CF]), (0x5C, [0x6A02]), (0x5D, [0x8AFE]), (0x5E, [0x4E39]),
  (0x5F, [0x5BE7]), (0x60, [0x6012]), (0x61, [0x7387]), (0x62, [0x7570]), (0x63, [0x5317]),
  (0x64, [0x78FB]), (0x65, [0x4FBF]), (0x66, [0x5FA9]), (0x67, [0x4E0D]), (0x68, [0x6CCC]),
  (0x69, [0x6578]), (0x6A, [0x7D22]), (0x6B, [0x53C3]), (0x6C, [0x585E]), (0x6D, [0x7701]),
  (0x6E, [0x8449]), (0x6F, [0x8AAA]), (0x70, [0x6BBA]), (0x71, [0x8FB0]), (0x72, [0x6C88]),
  (0x73, [0x62FE]), (0x74, [0x82E5]), (0x75, [0x63A0]), (0x76, [0x7565]), (0x77, [0x4EAE]),
  (0x78, [0x5169]), (0x79, [0x51C9]), (0x7A, [0x6881]), (0x7B, [0x7CE7]), (0x7C, [0x826F]),
  (0x7D, [0x8AD2]), (0x7E, [0x91CF]), (0x7F, [0x52F5]), (0x80, [0x5442]), (0x81, [0x5973]),
  (0x82, [0x5EEC]), (0x83, [0x65C5]), (0x84, [0x6FFE]), (0x85, [0x792A]), (0x86, [0x95AD]),
  (0x87, [0x9A6A]), (0x88, [0x9E97]), (0x89, [0x9ECE]), (0x8A, [0x529B]), (0x8B, [0x66C6]),
  (0x8C, [0x6B77]), (0x8D, [0x8F62]), (0x8E, [0x5E74]), (0x8F, [0x6190]), (0x90, [0x6200]),
  (0x91, [0x649A]), (0x92, [0x6F23]), (0x93, [0x7149]), (0x94, [0x7489]), (0x95, [0x79CA]),
  (0x96, [0x7DF4]), (0x97, [0x806F]), (0x98, [0x8F26]), (0x99, [0x84EE]), (0x9A, [0x9023]),
  (0x9B, [0x934A]), (0x9C, [0x5217]), (0x9D, [0x52A3]), (0x9E, [0x54BD]), (0x9F, [0x70C8]),
  (0xA0, [0x88C2]), (0xA1, [0x8AAA]), (0xA2, [0x5EC9]), (0xA3, [0x5FF5]), (0xA4, [0x637B]),
  (0xA5, [0x6BAE]), (0xA6, [0x7C3E]), (0xA7, [0x7375]), (0xA8, [0x4EE4]), (0xA9, [0x56F9]),
  (0xAA, [0x5BE7]), (0xAB, [0x5DBA]), (0xAC, [0x601C]), (0xAD, [0x73B2]), (0xAE, [0x7469]),
  (0xAF, [0x7F9A]), (0xB0, [0x8046]), (0xB1, [0x9234]), (0xB2, [0x96F6]), (0xB3, [0x9748]),
  (0xB4, [0x9818]), (0xB5, [0x4F8B]), (0xB6, [0x79AE]), (0xB7, [0x91B4]), (0xB8, [0x96B8]),
  (0xB9, [0x60E1]), (0xBA, [0x4E86]), (0xBB, [0x50DA]), (0xBC, [0x5BEE]), (0xBD, [0x5C3F]),
  (0xBE, [0x6599]), (0xBF, [0x6A02]), (0xC0, [0x71CE]), (0xC1, [0x7642]), (0xC2, [0x84FC]),
  (0xC3, [0x907C]), (0xC4, [0x9F8D]), (0xC5, [0x6688]), (0xC6, [0x962E]), (0xC7, [0x5289]),
  (0xC8, [0x677B]), (0xC9, [0x67F3]), (0xCA, [0x6D41]), (0xCB, [0x6E9C]), (0xCC, [0x7409]),
  (0xCD, [0x7559]), (0xCE, [0x786B]), (0xCF, [0x7D10]), (0xD0, [0x985E]), (0xD1, [0x516D]),
  (0xD2, [0x622E]), (0xD3, [0x9678]), (0xD4, [0x502B]), (0xD5, [0x5D19]), (0xD6, [0x6DEA]),
  (0xD7, [0x8F2A]), (0xD8, [0x5F8B]), (0xD9, [0x6144]), (0xDA, [0x6817]), (0xDB, [0x7387]),
  (0xDC, [0x9686]), (0xDD, [0x5229]), (0xDE, [0x540F]), (0xDF, [0x5C65]), (0xE0, [0x6613]),
  (0xE1, [0x674E]), (0xE2, [0x68A8]), (0xE3, [0x6CE5]), (0xE4, [0x7406]), (0xE5, [0x75E2]),
  (0xE6, [0x7F79]), (0xE7, [0x88CF]), (0xE8, [0x88E1]), (0xE9, [0x91CC]), (0xEA, [0x96E2]),
  (0xEB, [0x533F]), (0xEC, [0x6EBA]), (0xED, [0x541D]), (0xEE, [0x71D0]), (0xEF, [0x7498]),
  (0xF0, [0x85FA]), (0xF1, [0x96A3]), (0xF2, [0x9C57]), (0xF3, [0x9E9F]), (0xF4, [0x6797]),
  (0xF5, [0x6DCB]), (0xF6, [0x81E8]), (0xF7, [0x7ACB]), (0xF8, [0x7B20]), (0xF9, [0x7C92]),
  (0xFA, [0x72C0]), (0xFB, [0x7099]), (0xFC, [0x8B58]), (0xFD, [0x4EC0]), (0xFE, [0x8336]),
  (0xFF, [0x523A])]

/-- Canonical decompositions from `0xFA00` to `0xFAFF`. -/
def mappingsFA : CodeMap (List Nat) := [
  (0x00, [0x5207]), (0x01, [0x5EA6]), (0x02, [0x62D3]), (0x03, [0x7CD6]), (0x04, [0x5B85]),
  (0x05, [0x6D1E]), (0x06, [0x66B4]), (0x07, [0x8F3B]), (0x08, [0x884C]), (0x09, [0x964D]),
  (0x0A, [0x898B]), (0x0B, [0x5ED3]), (0x0C, [0x5140]), (0x0D, [0x55C0]), (0x10, [0x585A]),
  (0x12, [0x6674]), (0x15, [0x51DE]), (0x16, [0x732A]), (0x17, [0x76CA]), (0x18, [0x793C]),
  (0x19, [0x795E]), (0x1A, [0x7965]), (0x1B, [0x798F]), (0x1C, [0x9756]), (0x1D, [0x7CBE]),
  (0x1E, [0x7FBD]), (0x20, [0x8612]), (0x22, [0x8AF8]), (0x25, [0x9038]), (0x26, [0x90FD]),
  (0x2A, [0x98EF]), (0x2B, [0x98FC]), (0x2C, [0x9928]), (0x2D, [0x9DB4]), (0x2E, [0x90DE]),
  (0x2F, [0x96B7]), (0x30, [0x4FAE]), (0x31, [0x50E7]), (0x32, [0x514D]), (0x33, [0x52C9]),
  (0x34, [0x52E4]), (0x35, [0x5351]), (0x36, [0x559D]), (0x37, [0x5606]), (0x38, [0x5668]),
  (0x39, [0x5840]), (0x3A, [0x58A8]), (0x3B, [0x5C64]), (0x3C, [0x5C6E]), (0x3D, [0x6094]),
  (0x3E, [0x6168]), (0x3F, [0x618E]), (0x40, [0x61F2]), (0x41, [0x654F]), (0x42, [0x65E2]),
  (0x43, [0x6691]), (0x44, [0x6885]), (0x45, [0x6D77]), (0x46, [0x6E1A]), (0x47, [0x6F22]),
  (0x48, [0x716E]), (0x49, [0x722B]), (0x4A, [0x7422]), (0x4B, [0x7891]), (0x4C, [0x793E]),
  (0x4D, [0x7949]), (0x4E, [0x7948]), (0x4F, [0x7950]), (0x50, [0x7956]), (0x51, [0x795D]),
  (0x52, [0x798D]), (0x53, [0x798E]), (0x54, [0x7A40]), (0x55, [0x7A81]), (0x56, [0x7BC0]),
  (0x57, [0x7DF4]), (0x58, [0x7E09]), (0x59, [0x7E41]), (0x5A, [0x7F72]), (0x5B, [0x8005]),
  (0x5C, [0x81ED]), (0x5D, [0x8279]), (0x5E, [0x8279]), (0x5F, [0x8457]), (0x60, [0x8910]),
  (0x61, [0x8996]), (0x62, [0x8B01]), (0x63, [0x8B39]), (0x64, [0x8CD3]), (0x65, [0x8D08]),
  (0x66, [0x8FB6]), (0x67, [0x9038]), (0x68, [0x96E3]), (0x69, [0x97FF]), (0x6A, [0x983B]),
  (0x6B, [0x6075]), (0x6C, [0x242EE]), (0x6D, [0x8218]), (0x70, [0x4E26]), (0x71, [0x51B5]),
  (0x72, [0x5168]), (0x73, [0x4F80]), (0x74, [0x5145]), (0x75, [0x5180]), (0x76, [0x52C7]),
  (0x77, [0x52FA]), (0x78, [0x559D]), (0x79, [0x5555]), (0x7A, [0x5599]), (0x7B, [0x55E2]),
  (0x7C, [0x585A]), (0x7D, [0x58B3]), (0x7E, [0x5944]), (0x7F, [0x5954]), (0x80, [0x5A62]),
  (0x81, [0x5B28]), (0x82, [0x5ED2]), (0x83, [0x5ED9]), (0x84, [0x5F69]), (0x85, [0x5FAD]),
  (0x86, [0x60D8]), (0x87, [0x614E]), (0x88, [0x6108]), (0x89, [0x618E]), (0x8A, [0x6160]),
  (0x8B, [0x61F2]), (0x8C, [0x6234]), (0x8D, [0x63C4]), (0x8E, [0x641C]), (0x8F, [0x6452]),
  (0x90, [0x6556]), (0x91, [0x6674]), (0x92, [0x6717]), (0x93, [0x671B]), (0x94, [0x6756]),
  (0x95, [0x6B79]), (0x96, [0x6BBA]), (0x97, [0x6D41]), (0x98, [0x6EDB]), (0x99, [0x6ECB]),
  (0x9A, [0x6F22]), (0x9B, [0x701E]), (0x9C, [0x716E]), (0x9D, [0x77A7]), (0x9E, [0x7235]),
  (0x9F, [0x72AF]), (0xA0, [0x732A]), (0xA1, [0x7471]), (0xA2, [0x7506]), (0xA3, [0x753B]),
  (0xA4, [0x761D]), (0xA5, [0x761F]), (0xA6, [0x76CA]), (0xA7, [0x76DB]), (0xA8, [0x76F4]),
  (0xA9, [0x774A]), (0xAA, [0x7740]), (0xAB, [0x78CC]), (0xAC, [0x7AB1]), (0xAD, [0x7BC0]),
  (0xAE, [0x7C7B]), (0xAF, [0x7D5B]), (0xB0, [0x7DF4]), (0xB1, [0x7F3E]), (0xB2, [0x8005]),
  (0xB3, [0x8352]), (0xB4, [0x83EF]), (0xB5, [0x8779]), (0xB6, [0x8941]), (0xB7, [0x8986]),
  (0xB8, [0x8996]), (0xB9, [0x8ABF]), (0xBA, [0x8AF8]), (0xBB, [0x8ACB]), (0xBC, [0x8B01]),
  (0xBD, [0x8AFE]), (0xBE, [0x8AED]), (0xBF, [0x8B39]), (0xC0, [0x8B8A]), (0xC1, [0x8D08]),
  (0xC2, [0x8F38]), (0xC3, [0x9072]), (0xC4, [0x9199]), (0xC5, [0x9276]), (0xC6, [0x967C]),
  (0xC7, [0x96E3]), (0xC8, [0x9756]), (0xC9, [0x97DB]), (0xCA, [0x97FF]), (0xCB, [0x980B]),
  (0xCC, [0x983B]), (0xCD, [0x9B12]), (0xCE, [0x9F9C]), (0xCF, [0x2284A]), (0xD0, [0x22844]),
  (0xD1, [0x233D5]), (0xD2, [0x3B9D]), (0xD3, [0x4018]), (0xD4, [0x4039]), (0xD5, [0x25249]),
  (0xD6, [0x25CD0]), (0xD7, [0x27ED3]), (0xD8, [0x9F43]), (0xD9, [0x9F8E])]

/-- Canonical decompositions from `0xFB00` to `0xFBFF`. -/
def mappingsFB : CodeMap (List Nat) := [
  (0x1D, [0x5D9, 0x5B4]), (0x1F, [0x5F2, 0x5B7]), (0x2A, [0x5E9, 0x5C1]), (0x2B, [0x5E9, 0x5C2]),
  (0x2C, [0x5E9, 0x5BC, 0x5C1]), (0x2D, [0x5E9, 0x5BC, 0x5C2]), (0x2E, [0x5D0, 0x5B7]),
  (0x2F, [0x5D0, 0x5B8]), (0x30, [0x5D0, 0x5BC]), (0x31, [0x5D1, 0x5BC]), (0x32, [0x5D2, 0x5BC]),
  (0x33, [0x5D3, 0x5BC]), (0x34, [0x5D4, 0x5BC]), (0x35, [0x5D5, 0x5BC]), (0x36, [0x5D6, 0x5BC]),
  (0x38, [0x5D8, 0x5BC]), (0x39, [0x5D9, 0x5BC]), (0x3A, [0x5DA, 0x5BC]), (0x3B, [0x5DB, 0x5BC]),
  (0x3C, [0x5DC, 0x5BC]), (0x3E, [0x5DE, 0x5BC]), (0x40, [0x5E0, 0x5BC]), (0x41, [0x5E1, 0x5BC]),
  (0x43, [0x5E3, 0x5BC]), (0x44, [0x5E4, 0x5BC]), (0x46, [0x5E6, 0x5BC]), (0x47, [0x5E7, 0x5BC]),
  (0x48, [0x5E8, 0x5BC]), (0x49, [0x5E9, 0x5BC]), (0x4A, [0x5EA, 0x5BC]), (0x4B, [0x5D5, 0x5B9]),
  (0x4C, [0x5D1, 0x5BF]), (0x4D, [0x5DB, 0x5BF]), (0x4E, [0x5E4, 0x5BF])]

/-- Canonical decompositions from `0x11000` to `0x110FF`. -/
def mappings110 : CodeMap (List Nat) := [
  (0x9A, [0x11099, 0x110BA]), (0x9C, [0x1109B, 0x110BA]), (0xAB, [0x110A5, 0x110BA])]

/-- Canonical decompositions from `0x11100` to `0x111FF`. -/
def mappings111 : CodeMap (List Nat) := [
  (0x2E, [0x11131, 0x11127]), (0x2F, [0x11132, 0x11127])]

/-- Canonical decompositions from `0x11300` to `0x113FF`. -/
def mappings113 : CodeMap (List Nat) := [
  (0x4B, [0x11347, 0x1133E]), (0x4C, [0x11347, 0x11357])]

/-- Canonical decompositions from `0x11400` to `0x114FF`. -/
def mappings114 : CodeMap (List Nat) := [
  (0xBB, [0x114B9, 0x114BA]), (0xBC, [0x114B9, 0x114B0]), (0xBE, [0x114B9, 0x114BD])]

/-- Canonical decompositions from `0x11500` to `0x115FF`. -/
def mappings115 : CodeMap (List Nat) := [
  (0xBA, [0x115B8, 0x115AF]), (0xBB, [0x115B9, 0x115AF])]

/-- Canonical decompositions from `0x11900` to `0x119FF`. -/
def mappings119 : CodeMap (List Nat) := [
  (0x38, [0x11935, 0x11930])]

/-- Canonical decompositions from `0x1D100` to `0x1D1FF`. -/
def mappings1D1 : CodeMap (List Nat) := [
  (0x5E, [0x1D157, 0x1D165]), (0x5F, [0x1D158, 0x1D165]), (0x60, [0x1D158, 0x1D165, 0x1D16E]),
  (0x61, [0x1D158, 0x1D165, 0x1D16F]), (0x62, [0x1D158, 0x1D165, 0x1D170]),
  (0x63, [0x1D158, 0x1D165, 0x1D171]), (0x64, [0x1D158, 0x1D165, 0x1D172]),
  (0xBB, [0x1D1B9, 0x1D165]), (0xBC, [0x1D1BA, 0x1D165]), (0xBD, [0x1D1B9, 0x1D165, 0x1D16E]),
  (0xBE, [0x1D1BA, 0x1D165, 0x1D16E]), (0xBF, [0x1D1B9, 0x1D165, 0x1D16F]),
  (0xC0, [0x1D1BA, 0x1D165, 0x1D16F])]

/-- Canonical decompositions from `0x2F800` to `0x2F8FF`. -/
def mappings2F8 : CodeMap (List Nat) := [
  (0x00, [0x4E3D]), (0x01, [0x4E38]), (0x02, [0x4E41]), (0x03, [0x20122]), (0x04, [0x4F60]),
  (0x05, [0x4FAE]), (0x06, [0x4FBB]), (0x07, [0x5002]), (0x08, [0x507A]), (0x09, [0x5099]),
  (0x0A, [0x50E7]), (0x0B, [0x50CF]), (0x0C, [0x349E]), (0x0D, [0x2063A]), (0x0E, [0x514D]),
  (0x0F, [0x5154]), (0x10, [0x5164]), (0x11, [0x5177]), (0x12, [0x2051C]), (0x13, [0x34B9]),
  (0x14, [0x5167]), (0x15, [0x518D]), (0x16, [0x2054B]), (0x17, [0x5197]), (0x18, [0x51A4]),
  (0x19, [0x4ECC]), (0x1A, [0x51AC]), (0x1B, [0x51B5]), (0x1C, [0x291DF]), (0x1D, [0x51F5]),
  (0x1E, [0x5203]), (0x1F, [0x34DF]), (0x20, [0x523B]), (0x21, [0x5246]), (0x22, [0x5272]),
  (0x23, [0x5277]), (0x24, [0x3515]), (0x25, [0x52C7]), (0x26, [0x52C9]), (0x27, [0x52E4]),
  (0x28, [0x52FA]), (0x29, [0x5305]), (0x2A, [0x5306]), (0x2B, [0x5317]), (0x2C, [0x5349]),
  (0x2D, [0x5351]), (0x2E, [0x535A]), (0x2F, [0x5373]), (0x30, [0x537D]), (0x31, [0x537F]),
  (0x32, [0x537F]), (0x33, [0x537F]), (0x34, [0x20A2C]), (0x35, [0x7070]), (0x36, [0x53CA]),
  (0x37, [0x53DF]), (0x38, [0x20B63]), (0x39, [0x53EB]), (0x3A, [0x53F1]), (0x3B, [0x5406]),
  (0x3C, [0x549E]), (0x3D, [0x5438]), (0x3E, [0x5448]), (0x3F, [0x5468]), (0x40, [0x54A2]),
  (0x41, [0x54F6]), (0x42, [0x5510]), (0x43, [0x5553]), (0x44, [0x5563]), (0x45, [0x5584]),
  (0x46, [0x5584]), (0x47, [0x5599]), (0x48, [0x55AB]), (0x49, [0x55B3]), (0x4A, [0x55C2]),
  (0x4B, [0x5716]), (0x4C, [0x5606]), (0x4D, [0x5717]), (0x4E, [0x5651]), (0x4F, [0x5674]),
  (0x50, [0x5207]), (0x51, [0x58EE]), (0x52, [0x57CE]), (0x53, [0x57F4]), (0x54, [0x580D]),
  (0x55, [0x578B]), (0x56, [0x5832]), (0x57, [0x5831]), (0x58, [0x58AC]), (0x59, [0x214E4]),
  (0x5A, [0x58F2]), (0x5B, [0x58F7]), (0x5C, [0x5906]), (0x5D, [0x591A]), (0x5E, [0x5922]),
  (0x5F, [0x5962]), (0x60, [0x216A8]), (0x61, [0x216EA]), (0x62, [0x59EC]), (0x63, [0x5A1B]),
  (0x64, [0x5A27]), (0x65, [0x59D8]), (0x66, [0x5A66]), (0x67, [0x36EE]), (0x68, [0x36FC]),
  (0x69, [0x5B08]), (0x6A, [0x5B3E]), (0x6B, [0x5B3E]), (0x6C, [0x219C8]), (0x6D, [0x5BC3]),
  (0x6E, [0x5BD8]), (0x6F, [0x5BE7]), (0x70, [0x5BF3]), (0x71, [0x21B18]), (0x72, [0x5BFF]),
  (0x73, [0x5C06]), (0x74, [0x5F53]), (0x75, [0x5C22]), (0x76, [0x3781]), (0x77, [0x5C60]),
  (0x78, [0x5C6E]), (0x79, [0x5CC0]), (0x7A, [0x5C8D]), (0x7B, [0x21DE4]), (0x7C, [0x5D43]),
  (0x7D, [0x21DE6]), (0x7E, [0x5D6E]), (0x7F, [0x5D6B]), (0x80, [0x5D7C]), (0x81, [0x5DE1]),
  (0x82, [0x5DE2]), (0x83, [0x382F]), (0x84, [0x5DFD]), (0x85, [0x5E28]), (0x86, [0x5E3D]),
  (0x87, [0x5E69]), (0x88, [0x3862]), (0x89, [0x22183]), (0x8A, [0x387C]), (0x8B, [0x5EB0]),
  (0x8C, [0x5EB3]), (0x8D, [0x5EB6]), (0x8E, [0x5ECA]), (0x8F, [0x2A392]), (0x90, [0x5EFE]),
  (0x91, [0x22331]), (0x92, [0x22331]), (0x93, [0x8201]), (0x94, [0x5F22]), (0x95, [0x5F22]),
  (0x96, [0x38C7]), (0x97, [0x232B8]), (0x98, [0x261DA]), (0x99, [0x5F62]), (0x9A, [0x5F6B]),
  (0x9B, [0x38E3]), (0x9C, [0x5F9A]), (0x9D, [0x5FCD]), (0x9E, [0x5FD7]), (0x9F, [0x5FF9]),
  (0xA0, [0x6081]), (0xA1, [0x393A]), (0xA2, [0x391C]), (0xA3, [0x6094]), (0xA4, [0x226D4]),
  (0xA5, [0x60C7]), (0xA6, [0x6148]), (0xA7, [0x614C]), (0xA8, [0x614E]), (0xA9, [0x614C]),
  (0xAA, [0x617A]), (0xAB, [0x618E]), (0xAC, [0x61B2]), (0xAD, [0x61A4]), (0xAE, [0x61AF]),
  (0xAF, [0x61DE]), (0xB0, [0x61F2]), (0xB1, [0x61F6]), (0xB2, [0x6210]), (0xB3, [0x621B]),
  (0xB4, [0x625D]), (0xB5, [0x62B1]), (0xB6, [0x62D4]), (0xB7, [0x6350]), (0xB8, [0x22B0C]),
  (0xB9, [0x633D]), (0xBA, [0x62FC]), (0xBB, [0x6368]), (0xBC, [0x6383]), (0xBD, [0x63E4]),
  (0xBE, [0x22BF1]), (0xBF, [0x6422]), (0xC0, [0x63C5]), (0xC1, [0x63A9]), (0xC2, [0x3A2E]),
  (0xC3, [0x6469]), (0xC4, [0x647E]), (0xC5, [0x649D]), (0xC6, [0x6477]), (0xC7, [0x3A6C]),
  (0xC8, [0x654F]), (0xC9, [0x656C]), (0xCA, [0x2300A]), (0xCB, [0x65E3]), (0xCC, [0x66F8]),
  (0xCD, [0x6649]), (0xCE, [0x3B19]), (0xCF, [0x6691]), (0xD0, [0x3B08]), (0xD1, [0x3AE4]),
  (0xD2, [0x5192]), (0xD3, [0x5195]), (0xD4, [0x6700]), (0xD5, [0x669C]), (0xD6, [0x80AD]),
  (0xD7, [0x43D9]), (0xD8, [0x6717]), (0xD9, [0x671B]), (0xDA, [0x6721]), (0xDB, [0x675E]),
  (0xDC, [0x6753]), (0xDD, [0x233C3]), (0xDE, [0x3B49]), (0xDF, [0x67FA]), (0xE0, [0x6785]),
  (0xE1, [0x6852]), (0xE2, [0x6885]), (0xE3, [0x2346D]), (0xE4, [0x688E]), (0xE5, [0x681F]),
  (0xE6, [0x6914]), (0xE7, [0x3B9D]), (0xE8, [0x6942]), (0xE9, [0x69A3]), (0xEA, [0x69EA]),
  (0xEB, [0x6AA8]), (0xEC, [0x236A3]), (0xED, [0x6ADB]), (0xEE, [0x3C18]), (0xEF, [0x6B21]),
  (0xF0, [0x238A7]), (0xF1, [0x6B54]), (0xF2, [0x3C4E]), (0xF3, [0x6B72]), (0xF4, [0x6B9F]),
  (0xF5, [0x6BBA]), (0xF6, [0x6BBB]), (0xF7, [0x23A8D]), (0xF8, [0x21D0B]), (0xF9, [0x23AFA]),
  (0xFA, [0x6C4E]), (0xFB, [0x23CBC]), (0xFC, [0x6CBF]), (0xFD, [0x6CCD]), (0xFE, [0x6C67]),
  (0xFF, [0x6D16])]

/-- Canonical decompositions from `0x2F900` to `0x2F9FF`. -/
def mappings2F9 : CodeMap (List Nat) := [
  (0x00, [0x6D3E]), (0x01, [0x6D77]), (0x02, [0x6D41]), (0x03, [0x6D69]), (0x04, [0x6D78]),
  (0x05, [0x6D85]), (0x06, [0x23D1E]), (0x07, [0x6D34]), (0x08, [0x6E2F]), (0x09, [0x6E6E]),
  (0x0A, [0x3D33]), (0x0B, [0x6ECB]), (0x0C, [0x6EC7]), (0x0D, [0x23ED1]), (0x0E, [0x6DF9]),
  (0x0F, [0x6F6E]), (0x10, [0x23F5E]), (0x11, [0x23F8E]), (0x12, [0x6FC6]), (0x13, [0x7039]),
  (0x14, [0x701E]), (0x15, [0x701B]), (0x16, [0x3D96]), (0x17, [0x704A]), (0x18, [0x707D]),
  (0x19, [0x7077]), (0x1A, [0x70AD]), (0x1B, [0x20525]), (0x1C, [0x7145]), (0x1D, [0x24263]),
  (0x1E, [0x719C]), (0x1F, [0x243AB]), (0x20, [0x7228]), (0x21, [0x7235]), (0x22, [0x7250]),
  (0x23, [0x24608]), (0x24, [0x7280]), (0x25, [0x7295]), (0x26, [0x24735]), (0x27, [0x24814]),
  (0x28, [0x737A]), (0x29, [0x738B]), (0x2A, [0x3EAC]), (0x2B, [0x73A5]), (0x2C, [0x3EB8]),
  (0x2D, [0x3EB8]), (0x2E, [0x7447]), (0x2F, [0x745C]), (0x30, [0x7471]), (0x31, [0x7485]),
  (0x32, [0x74CA]), (0x33, [0x3F1B]), (0x34, [0x7524]), (0x35, [0x24C36]), (0x36, [0x753E]),
  (0x37, [0x24C92]), (0x38, [0x7570]), (0x39, [0x2219F]), (0x3A, [0x7610]), (0x3B, [0x24FA1]),
  (0x3C, [0x24FB8]), (0x3D, [0x25044]), (0x3E, [0x3FFC]), (0x3F, [0x4008]), (0x40, [0x76F4]),
  (0x41, [0x250F3]), (0x42, [0x250F2]), (0x43, [0x25119]), (0x44, [0x25133]), (0x45, [0x771E]),
  (0x46, [0x771F]), (0x47, [0x771F]), (0x48, [0x774A]), (0x49, [0x4039]), (0x4A, [0x778B]),
  (0x4B, [0x4046]), (0x4C, [0x4096]), (0x4D, [0x2541D]), (0x4E, [0x784E]), (0x4F, [0x788C]),
  (0x50, [0x78CC]), (0x51, [0x40E3]), (0x52, [0x25626]), (0x53, [0x7956]), (0x54, [0x2569A]),
  (0x55, [0x256C5]), (0x56, [0x798F]), (0x57, [0x79EB]), (0x58, [0x412F]), (0x59, [0x7A40]),
  (0x5A, [0x7A4A]), (0x5B, [0x7A4F]), (0x5C, [0x2597C]), (0x5D, [0x25AA7]), (0x5E, [0x25AA7]),
  (0x5F, [0x7AEE]), (0x60, [0x4202]), (0x61, [0x25BAB]), (0x62, [0x7BC6]), (0x63, [0x7BC9]),
  (0x64, [0x4227]), (0x65, [0x25C80]), (0x66, [0x7CD2]), (0x67, [0x42A0]), (0x68, [0x7CE8]),
  (0x69, [0x7CE3]), (0x6A, [0x7D00]), (0x6B, [0x25F86]), (0x6C, [0x7D63]), (0x6D, [0x4301]),
  (0x6E, [0x7DC7]), (0x6F, [0x7E02]), (0x70, [0x7E45]), (0x71, [0x4334]), (0x72, [0x26228]),
  (0x73, [0x26247]), (0x74, [0x4359]), (0x75, [0x262D9]), (0x76, [0x7F7A]), (0x77, [0x2633E]),
  (0x78, [0x7F95]), (0x79, [0x7FFA]), (0x7A, [0x8005]), (0x7B, [0x264DA]), (0x7C, [0x26523]),
  (0x7D, [0x8060]), (0x7E, [0x265A8]), (0x7F, [0x8070]), (0x80, [0x2335F]), (0x81, [0x43D5]),
  (0x82, [0x80B2]), (0x83, [0x8103]), (0x84, [0x440B]), (0x85, [0x813E]), (0x86, [0x5AB5]),
  (0x87, [0x267A7]), (0x88, [0x267B5]), (0x89, [0x23393]), (0x8A, [0x2339C]), (0x8B, [0x8201]),
  (0x8C, [0x8204]), (0x8D, [0x8F9E]), (0x8E, [0x446B]), (0x8F, [0x8291]), (0x90, [0x828B]),
  (0x91, [0x829D]), (0x92, [0x52B3]), (0x93, [0x82B1]), (0x94, [0x82B3]), (0x95, [0x82BD]),
  (0x96, [0x82E6]), (0x97, [0x26B3C]), (0x98, [0x82E5]), (0x99, [0x831D]), (0x9A, [0x8363]),
  (0x9B, [0x83AD]), (0x9C, [0x8323]), (0x9D, [0x83BD]), (0x9E, [0x83E7]), (0x9F, [0x8457]),
  (0xA0, [0x8353]), (0xA1, [0x83CA]), (0xA2, [0x83CC]), (0xA3, [0x83DC]), (0xA4, [0x26C36]),
  (0xA5, [0x26D6B]), (0xA6, [0x26CD5]), (0xA7, [0x452B]), (0xA8, [0x84F1]), (0xA9, [0x84F3]),
  (0xAA, [0x8516]), (0xAB, [0x273CA]), (0xAC, [0x8564]), (0xAD, [0x26F2C]), (0xAE, [0x455D]),
  (0xAF, [0x4561]), (0xB0, [0x26FB1]), (0xB1, [0x270D2]), (0xB2, [0x456B]), (0xB3, [0x8650]),
  (0xB4, [0x865C]), (0xB5, [0x8667]), (0xB6, [0x8669]), (0xB7, [0x86A9]), (0xB8, [0x8688]),
  (0xB9, [0x870E]), (0xBA, [0x86E2]), (0xBB, [0x8779]), (0xBC, [0x8728]), (0xBD, [0x876B]),
  (0xBE, [0x8786]), (0xBF, [0x45D7]), (0xC0, [0x87E1]), (0xC1, [0x8801]), (0xC2, [0x45F9]),
  (0xC3, [0x8860]), (0xC4, [0x8863]), (0xC5, [0x27667]), (0xC6, [0x88D7]), (0xC7, [0x88DE]),
  (0xC8, [0x4635]), (0xC9, [0x88FA]), (0xCA, [0x34BB]), (0xCB, [0x278AE]), (0xCC, [0x27966]),
  (0xCD, [0x46BE]), (0xCE, [0x46C7]), (0xCF, [0x8AA0]), (0xD0, [0x8AED]), (0xD1, [0x8B8A]),
  (0xD2, [0x8C55]), (0xD3, [0x27CA8]), (0xD4, [0x8CAB]), (0xD5, [0x8CC1]), (0xD6, [0x8D1B]),
  (0xD7, [0x8D77]), (0xD8, [0x27F2F]), (0xD9, [0x20804]), (0xDA, [0x8DCB]), (0xDB, [0x8DBC]),
  (0xDC, [0x8DF0]), (0xDD, [0x208DE]), (0xDE, [0x8ED4]), (0xDF, [0x8F38]), (0xE0, [0x285D2]),
  (0xE1, [0x285ED]), (0xE2, [0x9094]), (0xE3, [0x90F1]), (0xE4, [0x9111]), (0xE5, [0x2872E]),
  (0xE6, [0x911B]), (0xE7, [0x9238]), (0xE8, [0x92D7]), (0xE9, [0x92D8]), (0xEA, [0x927C]),
  (0xEB, [0x93F9]), (0xEC, [0x9415]), (0xED, [0x28BFA]), (0xEE, [0x958B]), (0xEF, [0x4995]),
  (0xF0, [0x95B7]), (0xF1, [0x28D77]), (0xF2, [0x49E6]), (0xF3, [0x96C3]), (0xF4, [0x5DB2]),
  (0xF5, [0x9723]), (0xF6, [0x29145]), (0xF7, [0x2921A]), (0xF8, [0x4A6E]), (0xF9, [0x4A76]),
  (0xFA, [0x97E0]), (0xFB, [0x2940A]), (0xFC, [0x4AB2]), (0xFD, [0x29496]), (0xFE, [0x980B]),
  (0xFF, [0x980B])]

/-- Canonical decompositions from `0x2FA00` to `0x2FAFF`. -/
def mappings2FA : CodeMap (List Nat) := [
  (0x00, [0x9829]), (0x01, [0x295B6]), (0x02, [0x98E2]), (0x03, [0x4B33]), (0x04, [0x9929]),
  (0x05, [0x99A7]), (0x06, [0x99C2]), (0x07, [0x99FE]), (0x08, [0x4BCE]), (0x09, [0x29B30]),
  (0x0A, [0x9B12]), (0x0B, [0x9C40]), (0x0C, [0x9CFD]), (0x0D, [0x4CCE]), (0x0E, [0x4CED]),
  (0x0F, [0x9D67]), (0x10, [0x2A0CE]), (0x11, [0x4CF8]), (0x12, [0x2A105]), (0x13, [0x2A20E]),
  (0x14, [0x2A291]), (0x15, [0x9EBB]), (0x16, [0x4D56]), (0x17, [0x9EF9]), (0x18, [0x9EFE]),
  (0x19, [0x9F05]), (0x1A, [0x9F0F]), (0x1B, [0x9F16]), (0x1C, [0x9F3B]), (0x1D, [0x2A600])]

/-! ## Look-up -/

/-- The canonical decompositions, by the high part of the code point. -/
def canonicalMappings : CodePages (List Nat) := [
  (0x0, mappings0), (0x1, mappings1), (0x2, mappings2), (0x3, mappings3), (0x4, mappings4),
  (0x6, mappings6), (0x9, mappings9), (0xA, mappingsA), (0xB, mappingsB), (0xC, mappingsC),
  (0xD, mappingsD), (0xF, mappingsF), (0x10, mappings10), (0x1B, mappings1B), (0x1E, mappings1E),
  (0x1F, mappings1F), (0x20, mappings20), (0x21, mappings21), (0x22, mappings22),
  (0x23, mappings23), (0x2A, mappings2A), (0x30, mappings30), (0xF9, mappingsF9),
  (0xFA, mappingsFA), (0xFB, mappingsFB), (0x110, mappings110), (0x111, mappings111),
  (0x113, mappings113), (0x114, mappings114), (0x115, mappings115), (0x119, mappings119),
  (0x1D1, mappings1D1), (0x2F8, mappings2F8), (0x2F9, mappings2F9), (0x2FA, mappings2FA)]

/-- The canonical decomposition of a character that the tables list. -/
def canonicalMapping? (c : Char) : Option Text :=
  (CodePages.find? canonicalMappings c).map (List.map Char.ofNat)

end SoundLaw
