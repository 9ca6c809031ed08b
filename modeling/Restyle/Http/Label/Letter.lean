import Restyle.Text.Case
import Restyle.Text.Word

/-!
# Letters of labels

A label may hold letters, digits and marks in small letters, and hyphens. It may not hold those
that only stand for other ones: compatible forms, numbers that are no digits, and marks that are
not seen. Of some code points no more is known than that a label may hold them.
-/
namespace Restyle.Label

/-- Code points of letters, numbers and marks, no capitals, that no label holds. -/
def excludedRanges : Text.Ranges :=
  [(0x5F, 0x5F), (0xAA, 0xBE), (0x130, 0x130), (0x133, 0x133), (0x140, 0x140), (0x149, 0x149),
   (0x17F, 0x17F), (0x1C6, 0x1CC), (0x1F3, 0x1F3), (0x2B0, 0x2B8), (0x2E0, 0x2E4), (0x340, 0x341),
   (0x343, 0x345), (0x34F, 0x34F), (0x374, 0x374), (0x37A, 0x37A), (0x3D0, 0x3D6), (0x3F0, 0x3F2),
   (0x3F5, 0x3F5), (0x488, 0x489), (0x587, 0x587), (0x640, 0x640), (0x660, 0x669), (0x675, 0x678),
   (0x6F0, 0x6F9), (0x7FA, 0x7FA), (0x958, 0x95F), (0x9DC, 0x9DF), (0x9F4, 0x9F9), (0xA33, 0xA33),
   (0xA36, 0xA36), (0xA59, 0xA5B), (0xA5E, 0xA5E), (0xB5C, 0xB5D), (0xB72, 0xB77), (0xBF0, 0xBF2),
   (0xC78, 0xC7E), (0xD58, 0xD5E), (0xD70, 0xD78), (0xE33, 0xE33), (0xEB3, 0xEB3), (0xEDC, 0xEDD),
   (0xF2A, 0xF33), (0xF43, 0xF43), (0xF4D, 0xF4D), (0xF52, 0xF52), (0xF57, 0xF57), (0xF5C, 0xF5C),
   (0xF69, 0xF69), (0xF73, 0xF73), (0xF75, 0xF79), (0xF81, 0xF81), (0xF93, 0xF93), (0xF9D, 0xF9D),
   (0xFA2, 0xFA2), (0xFA7, 0xFA7), (0xFAC, 0xFAC), (0xFB9, 0xFB9), (0x10FC, 0x10FC),
   (0x1100, 0x11FF), (0x1369, 0x137C), (0x13F8, 0x13FD), (0x16EE, 0x16F0), (0x17B4, 0x17B5),
   (0x17F0, 0x180F), (0x19DA, 0x19DA), (0x1ABE, 0x1ABE), (0x1C80, 0x1C88), (0x1D2C, 0x1D2E),
   (0x1D30, 0x1D3A), (0x1D3C, 0x1D4D), (0x1D4F, 0x1D6A), (0x1D78, 0x1D78), (0x1D9B, 0x1DBF),
   (0x1E9A, 0x1E9B), (0x1F71, 0x1F71), (0x1F73, 0x1F73), (0x1F75, 0x1F75), (0x1F77, 0x1F77),
   (0x1F79, 0x1F79), (0x1F7B, 0x1F7B), (0x1F7D, 0x1FA7), (0x1FB2, 0x1FB4), (0x1FB7, 0x1FC4),
   (0x1FC7, 0x1FC7), (0x1FD3, 0x1FD3), (0x1FE3, 0x1FE3), (0x1FF2, 0x1FF4), (0x1FF7, 0x2149),
   (0x2150, 0x2182), (0x2185, 0x2793), (0x2C7C, 0x2C7D), (0x2CFD, 0x2CFD), (0x2D6F, 0x2D6F),
   (0x3021, 0x3029), (0x302E, 0x303B), (0x309F, 0x309F), (0x30FF, 0x30FF), (0x3131, 0x3195),
   (0x3220, 0x32BF), (0xA670, 0xA672), (0xA69C, 0xA69D), (0xA6E6, 0xA6EF), (0xA770, 0xA770),
   (0xA7F2, 0xA7F4), (0xA7F8, 0xA7F9), (0xA830, 0xA835), (0xA960, 0xA97C), (0xAB5C, 0xAB5F),
   (0xAB69, 0xABBF), (0xD7B0, 0xD7FB), (0xF900, 0xFA0D), (0xFA10, 0xFA10), (0xFA12, 0xFA12),
   (0xFA15, 0xFA1E), (0xFA20, 0xFA20), (0xFA22, 0xFA22), (0xFA25, 0xFA26), (0xFA2A, 0xFB1D),
   (0xFB1F, 0xFE0F), (0xFE70, 0xFE72), (0xFE74, 0xFFDC), (0x10107, 0x1018B), (0x102E1, 0x102FB),
   (0x10320, 0x10323), (0x10341, 0x10341), (0x1034A, 0x1034A), (0x103D1, 0x103D5),
   (0x10781, 0x107BA), (0x10858, 0x1085F), (0x10879, 0x1087F), (0x108A7, 0x108AF),
   (0x108FB, 0x108FF), (0x10916, 0x1091B), (0x109BC, 0x109BD), (0x109C0, 0x109FF),
   (0x10A40, 0x10A48), (0x10A7D, 0x10A7E), (0x10A9D, 0x10A9F), (0x10AEB, 0x10AEF),
   (0x10B58, 0x10B5F), (0x10B78, 0x10B7F), (0x10BA9, 0x10BAF), (0x10CFA, 0x10CFF),
   (0x10E60, 0x10E7E), (0x10F1D, 0x10F26), (0x10F51, 0x10F54), (0x10FC5, 0x10FCB),
   (0x11052, 0x11065), (0x111E1, 0x111F4), (0x1173A, 0x1173B), (0x118EA, 0x118F2),
   (0x11C5A, 0x11C6C), (0x11FC0, 0x11FD4), (0x12400, 0x1246E), (0x16B5B, 0x16B61),
   (0x16E80, 0x16E96), (0x1D165, 0x1D7FF), (0x1E8C7, 0x1E8CF), (0x1EC71, 0x1FBF9),
   (0x2F800, 0x2FA1D), (0xE0100, 0xE01EF)]

/-- Code points that labels hold and of which no more is known. -/
def bareRanges : Text.Ranges :=
  [(0x88F, 0x88F), (0x897, 0x897), (0xC5C, 0xC5C), (0xCDC, 0xCDC), (0xCF3, 0xCF3), (0xECE, 0xECE),
   (0x1ACF, 0x1ADD), (0x1AE0, 0x1AEB), (0x1C8A, 0x1C8A), (0xA7CD, 0xA7CD), (0xA7CF, 0xA7CF),
   (0xA7DB, 0xA7DB), (0x105C0, 0x105F3), (0x10940, 0x10959), (0x10D40, 0x10D4F),
   (0x10D69, 0x10D6D), (0x10D6F, 0x10D85), (0x10EC2, 0x10EC7), (0x10EFA, 0x10EFF),
   (0x1123F, 0x11241), (0x11380, 0x11389), (0x1138B, 0x1138B), (0x1138E, 0x1138E),
   (0x11390, 0x113B5), (0x113B7, 0x113C0), (0x113C2, 0x113C2), (0x113C5, 0x113C5),
   (0x113C7, 0x113CA), (0x113CC, 0x113D3), (0x113E1, 0x113E2), (0x116D0, 0x116E3),
   (0x11B60, 0x11B67), (0x11BC0, 0x11BE0), (0x11BF0, 0x11BF9), (0x11DB0, 0x11DDB),
   (0x11DE0, 0x11DE9), (0x11F00, 0x11F10), (0x11F12, 0x11F3A), (0x11F3E, 0x11F42),
   (0x11F50, 0x11F5A), (0x1342F, 0x1342F), (0x13440, 0x13455), (0x13460, 0x143FA),
   (0x16100, 0x16139), (0x16D40, 0x16D6C), (0x16D70, 0x16D79), (0x16EBB, 0x16ED3),
   (0x16FF2, 0x16FF3), (0x187F8, 0x187FF), (0x18CFF, 0x18CFF), (0x18D09, 0x18D1E),
   (0x18D80, 0x18DF2), (0x1B132, 0x1B132), (0x1B155, 0x1B155), (0x1DF25, 0x1DF2A),
   (0x1E08F, 0x1E08F), (0x1E4D0, 0x1E4F9), (0x1E5D0, 0x1E5FA), (0x1E6C0, 0x1E6DE),
   (0x1E6E0, 0x1E6F5), (0x1E6FE, 0x1E6FF), (0x2B739, 0x2B73F), (0x2CEA2, 0x2CEAD),
   (0x2EBF0, 0x2EE5D), (0x31350, 0x33479)]

/-- The code points that labels hold beside small letters, digits, marks and those. -/
def furtherRanges : Text.Ranges :=
  [(0x2D, 0x2D), (0x6FD, 0x6FE), (0xF0B, 0xF0B), (0x13A0, 0x13F5)]

/-- Whether no more is known of a code point than that labels hold it. -/
def isBare (code : Nat) : Bool := bareRanges.holds code

/-- Whether a label may hold a code point wherever it stands. -/
def isPermitted (code : Nat) : Bool :=
  furtherRanges.holds code || isBare code ||
    ((Text.wordRanges.holds code || Text.isMark code) && Text.smallCode code = code &&
      !excludedRanges.holds code)

end Restyle.Label
