import UsageTree.Text.CharTable

/-!
# Canonical combining classes, the data

Marks of different classes attach to a letter in different places and may be written in any order;
class 0 is that of letters and of marks that keep their place.

## Main definitions

* `CombiningClass.table` — the class of every character of another class than 0.
-/

namespace UsageTree.Text.CombiningClass

/-- Combining classes from U+0300 on. -/
def from0300 : CharTable Nat := [
  ⟨0x300, #[
    230, 230, 230, 230, 230, 230, 230, 230, 230, 230, 230, 230, 230, 230, 230, 230, 230, 230,
    230, 230, 230, 232, 220, 220, 220, 220, 232, 216, 220, 220, 220, 220, 220, 202, 202, 220,
    220, 220, 220, 202, 202, 220, 220, 220, 220, 220, 220, 220, 220, 220, 220, 220, 1, 1, 1, 1,
    1, 220, 220, 220, 220, 230, 230, 230, 230, 230, 230, 230, 230, 240, 230, 220, 220, 220, 230,
    230, 230, 220, 220, 0, 230, 230, 230, 220, 220, 220, 220, 230, 232, 220, 220, 230, 233, 234,
    234, 233, 234, 234, 233, 230, 230, 230, 230, 230, 230, 230, 230, 230, 230, 230, 230, 230]⟩,
  ⟨0x483, #[230, 230, 230, 230, 230]⟩,
  ⟨0x591, #[
    220, 230, 230, 230, 230, 220, 230, 230, 230, 222, 220, 230, 230, 230, 230, 230, 230, 220,
    220, 220, 220, 220, 220, 230, 230, 220, 230, 230, 222, 228, 230, 10, 11, 12, 13, 14, 15, 16,
    17, 18, 19, 19, 20, 21, 22, 0, 23, 0, 24, 25, 0, 230, 220, 0, 18]⟩,
  ⟨0x610, #[230, 230, 230, 230, 230, 230, 230, 230, 30, 31, 32]⟩,
  ⟨0x64B, #[
    27, 28, 29, 30, 31, 32, 33, 34, 230, 230, 220, 220, 230, 230, 230, 230, 230, 220, 230, 230,
    220]⟩,
  ⟨0x670, #[35]⟩]

/-- Combining classes from U+06D6 on. -/
def from06D6 : CharTable Nat := [
  ⟨0x6D6, #[
    230, 230, 230, 230, 230, 230, 230, 0, 0, 230, 230, 230, 230, 220, 230, 0, 0, 230, 230, 0,
    220, 230, 230, 220]⟩,
  ⟨0x711, #[36]⟩,
  ⟨0x730, #[
    230, 220, 230, 230, 220, 230, 230, 220, 220, 220, 230, 220, 220, 230, 220, 230, 230, 230,
    220, 230, 220, 230, 220, 230, 220, 230, 230]⟩,
  ⟨0x7EB, #[230, 230, 230, 230, 230, 230, 230, 220, 230]⟩,
  ⟨0x7FD, #[220]⟩,
  ⟨0x816, #[
    230, 230, 230, 230, 0, 230, 230, 230, 230, 230, 230, 230, 230, 230, 0, 230, 230, 230, 0, 230,
    230, 230, 230, 230]⟩,
  ⟨0x859, #[220, 220, 220]⟩,
  ⟨0x898, #[230, 220, 220, 220, 230, 230, 230, 230]⟩,
  ⟨0x8CA, #[
    230, 230, 230, 230, 230, 220, 220, 220, 220, 220, 230, 230, 230, 230, 230, 230, 230, 230,
    230, 230, 230, 230, 230, 230, 0, 220, 230, 230, 220, 230, 230, 220, 230, 230, 230, 220, 220,
    220, 27, 28, 29, 230, 230, 230, 220, 230, 230, 220, 220, 230, 230, 230, 230, 230]⟩,
  ⟨0x93C, #[7]⟩,
  ⟨0x94D, #[9, 0, 0, 0, 230, 220, 230, 230]⟩,
  ⟨0x9BC, #[7]⟩,
  ⟨0x9CD, #[9]⟩,
  ⟨0x9FE, #[230]⟩,
  ⟨0xA3C, #[7]⟩,
  ⟨0xA4D, #[9]⟩,
  ⟨0xABC, #[7]⟩,
  ⟨0xACD, #[9]⟩,
  ⟨0xB3C, #[7]⟩,
  ⟨0xB4D, #[9]⟩,
  ⟨0xBCD, #[9]⟩,
  ⟨0xC3C, #[7]⟩,
  ⟨0xC4D, #[9]⟩,
  ⟨0xC55, #[84, 91]⟩,
  ⟨0xCBC, #[7]⟩,
  ⟨0xCCD, #[9]⟩,
  ⟨0xD3B, #[9, 9]⟩,
  ⟨0xD4D, #[9]⟩,
  ⟨0xDCA, #[9]⟩,
  ⟨0xE38, #[103, 103, 9]⟩,
  ⟨0xE48, #[107, 107, 107, 107]⟩,
  ⟨0xEB8, #[118, 118, 9]⟩,
  ⟨0xEC8, #[122, 122, 122, 122]⟩,
  ⟨0xF18, #[220, 220]⟩,
  ⟨0xF35, #[220, 0, 220, 0, 216]⟩,
  ⟨0xF71, #[129, 130, 0, 132]⟩,
  ⟨0xF7A, #[130, 130, 130, 130, 0, 0, 130, 0, 230, 230, 9, 0, 230, 230]⟩,
  ⟨0xFC6, #[220]⟩]

/-- Combining classes from U+1037 on. -/
def from1037 : CharTable Nat := [
  ⟨0x1037, #[7, 0, 9, 9]⟩,
  ⟨0x108D, #[220]⟩,
  ⟨0x135D, #[230, 230, 230]⟩,
  ⟨0x1714, #[9, 9]⟩,
  ⟨0x1734, #[9]⟩,
  ⟨0x17D2, #[9]⟩,
  ⟨0x17DD, #[230]⟩,
  ⟨0x18A9, #[228]⟩,
  ⟨0x1939, #[222, 230, 220]⟩,
  ⟨0x1A17, #[230, 220]⟩,
  ⟨0x1A60, #[9]⟩,
  ⟨0x1A75, #[230, 230, 230, 230, 230, 230, 230, 230, 0, 0, 220]⟩,
  ⟨0x1AB0, #[
    230, 230, 230, 230, 230, 220, 220, 220, 220, 220, 220, 230, 230, 220, 0, 220, 220, 230, 230,
    220, 220, 230, 230, 230, 230, 230, 220, 230, 230, 230, 230]⟩,
  ⟨0x1B34, #[7]⟩,
  ⟨0x1B44, #[9]⟩,
  ⟨0x1B6B, #[230, 220, 230, 230, 230, 230, 230, 230, 230]⟩,
  ⟨0x1BAA, #[9, 9]⟩,
  ⟨0x1BE6, #[7]⟩,
  ⟨0x1BF2, #[9, 9]⟩,
  ⟨0x1C37, #[7]⟩,
  ⟨0x1CD0, #[
    230, 230, 230, 0, 1, 220, 220, 220, 220, 220, 230, 230, 220, 220, 220, 220, 230, 0, 1, 1, 1,
    1, 1, 1, 1]⟩,
  ⟨0x1CED, #[220]⟩,
  ⟨0x1CF4, #[230, 0, 0, 0, 230, 230]⟩,
  ⟨0x1DC0, #[
    230, 230, 220, 230, 230, 230, 230, 230, 230, 230, 220, 230, 230, 234, 214, 220, 202, 230,
    230, 230, 230, 230, 230, 230, 230, 230, 230, 230, 230, 230, 230, 230, 230, 230, 230, 230,
    230, 230, 230, 230, 230, 230, 230, 230, 230, 230, 230, 230, 230, 230, 230, 230, 230, 230,
    232, 228, 228, 220, 218, 230, 233, 220, 230, 220]⟩,
  ⟨0x20D0, #[230, 230, 1, 1, 230, 230, 230, 230, 1, 1, 1, 230, 230]⟩,
  ⟨0x20E1, #[230, 0, 0, 0, 1, 1, 230, 220, 230, 1, 1, 220, 220, 220, 220, 230]⟩,
  ⟨0x2CEF, #[230, 230, 230]⟩,
  ⟨0x2D7F, #[9]⟩]

/-- Combining classes from U+2DE0 on. -/
def from2DE0 : CharTable Nat := [
  ⟨0x2DE0, #[
    230, 230, 230, 230, 230, 230, 230, 230, 230, 230, 230, 230, 230, 230, 230, 230, 230, 230,
    230, 230, 230, 230, 230, 230, 230, 230, 230, 230, 230, 230, 230, 230]⟩,
  ⟨0x302A, #[218, 228, 232, 222, 224, 224]⟩,
  ⟨0x3099, #[8, 8]⟩,
  ⟨0xA66F, #[230]⟩,
  ⟨0xA674, #[230, 230, 230, 230, 230, 230, 230, 230, 230, 230]⟩,
  ⟨0xA69E, #[230, 230]⟩,
  ⟨0xA6F0, #[230, 230]⟩,
  ⟨0xA806, #[9]⟩,
  ⟨0xA82C, #[9]⟩,
  ⟨0xA8C4, #[9]⟩,
  ⟨0xA8E0, #[
    230, 230, 230, 230, 230, 230, 230, 230, 230, 230, 230, 230, 230, 230, 230, 230, 230, 230]⟩,
  ⟨0xA92B, #[220, 220, 220]⟩,
  ⟨0xA953, #[9]⟩,
  ⟨0xA9B3, #[7]⟩,
  ⟨0xA9C0, #[9]⟩,
  ⟨0xAAB0, #[230, 0, 230, 230, 220, 0, 0, 230, 230]⟩,
  ⟨0xAABE, #[230, 230, 0, 230]⟩,
  ⟨0xAAF6, #[9]⟩,
  ⟨0xABED, #[9]⟩,
  ⟨0xFB1E, #[26]⟩,
  ⟨0xFE20, #[230, 230, 230, 230, 230, 230, 230, 220, 220, 220, 220, 220, 220, 220, 230, 230]⟩,
  ⟨0x101FD, #[220]⟩,
  ⟨0x102E0, #[220]⟩,
  ⟨0x10376, #[230, 230, 230, 230, 230]⟩,
  ⟨0x10A0D, #[220, 0, 230]⟩,
  ⟨0x10A38, #[230, 1, 220]⟩,
  ⟨0x10A3F, #[9]⟩,
  ⟨0x10AE5, #[230, 220]⟩,
  ⟨0x10D24, #[230, 230, 230, 230]⟩,
  ⟨0x10EAB, #[230, 230]⟩,
  ⟨0x10F46, #[220, 220, 230, 230, 230, 220, 230, 220, 220, 220, 220]⟩,
  ⟨0x10F82, #[230, 220, 230, 220]⟩,
  ⟨0x11046, #[9]⟩,
  ⟨0x11070, #[9]⟩,
  ⟨0x1107F, #[9]⟩,
  ⟨0x110B9, #[9, 7]⟩,
  ⟨0x11100, #[230, 230, 230]⟩,
  ⟨0x11133, #[9, 9]⟩,
  ⟨0x11173, #[7]⟩,
  ⟨0x111C0, #[9]⟩,
  ⟨0x111CA, #[7]⟩,
  ⟨0x11235, #[9, 7]⟩,
  ⟨0x112E9, #[7, 9]⟩,
  ⟨0x1133B, #[7, 7]⟩,
  ⟨0x1134D, #[9]⟩,
  ⟨0x11366, #[230, 230, 230, 230, 230, 230, 230, 0, 0, 0, 230, 230, 230, 230, 230]⟩,
  ⟨0x11442, #[9, 0, 0, 0, 7]⟩,
  ⟨0x1145E, #[230]⟩,
  ⟨0x114C2, #[9, 7]⟩,
  ⟨0x115BF, #[9, 7]⟩,
  ⟨0x1163F, #[9]⟩,
  ⟨0x116B6, #[9, 7]⟩,
  ⟨0x1172B, #[9]⟩,
  ⟨0x11839, #[9, 7]⟩,
  ⟨0x1193D, #[9, 9]⟩,
  ⟨0x11943, #[7]⟩,
  ⟨0x119E0, #[9]⟩,
  ⟨0x11A34, #[9]⟩,
  ⟨0x11A47, #[9]⟩,
  ⟨0x11A99, #[9]⟩,
  ⟨0x11C3F, #[9]⟩,
  ⟨0x11D42, #[7, 0, 9, 9]⟩,
  ⟨0x11D97, #[9]⟩,
  ⟨0x16AF0, #[1, 1, 1, 1, 1]⟩]

/-- Combining classes from U+16B30 on. -/
def from16B30 : CharTable Nat := [
  ⟨0x16B30, #[230, 230, 230, 230, 230, 230, 230]⟩,
  ⟨0x16FF0, #[6, 6]⟩,
  ⟨0x1BC9E, #[1]⟩,
  ⟨0x1D165, #[216, 216, 1, 1, 1, 0, 0, 0, 226, 216, 216, 216, 216, 216]⟩,
  ⟨0x1D17B, #[220, 220, 220, 220, 220, 220, 220, 220, 0, 0, 230, 230, 230, 230, 230, 220, 220]⟩,
  ⟨0x1D1AA, #[230, 230, 230, 230]⟩,
  ⟨0x1D242, #[230, 230, 230]⟩,
  ⟨0x1E000, #[
    230, 230, 230, 230, 230, 230, 230, 0, 230, 230, 230, 230, 230, 230, 230, 230, 230, 230, 230,
    230, 230, 230, 230, 230, 230, 0, 0, 230, 230, 230, 230, 230, 230, 230, 0, 230, 230, 0, 230,
    230, 230, 230, 230]⟩,
  ⟨0x1E130, #[230, 230, 230, 230, 230, 230, 230]⟩,
  ⟨0x1E2AE, #[230]⟩,
  ⟨0x1E2EC, #[230, 230, 230, 230]⟩,
  ⟨0x1E8D0, #[220, 220, 220, 220, 220, 220, 220]⟩,
  ⟨0x1E944, #[230, 230, 230, 230, 230, 230, 7]⟩]

/-- The classes of all characters whose class is not 0. -/
def table : CharTable Nat :=
  from0300 ++ from06D6 ++ from1037 ++ from2DE0 ++ from16B30

end UsageTree.Text.CombiningClass
