import ReflectCalc.Unicode.Unassigned

/-!
# Characters of domains

The characters beyond ASCII that a label of a domain can have: those that stand for themselves.
Capital letters, variants of other characters, and characters that cannot be seen do not. The tables
are those of Unicode 17.
-/

namespace ReflectCalc.DomainChar

open Unicode

/-- The characters that no domain has. Code points that stand for no character are counted to the
range around them. -/
def refusedRanges : Ranges := [
  (0x80, 0xA0), (0xA8, 0xA8), (0xAA, 0xAA), (0xAD, 0xAD), (0xAF, 0xAF), (0xB2, 0xB5), (0xB8, 0xBA),
  (0xBC, 0xBE), (0xC0, 0xD6), (0xD8, 0xDE), (0x132, 0x134), (0x136, 0x136), (0x13F, 0x141),
  (0x149, 0x14A), (0x178, 0x179), (0x181, 0x182), (0x184, 0x184), (0x186, 0x187), (0x189, 0x18B),
  (0x18E, 0x191), (0x193, 0x194), (0x196, 0x198), (0x19C, 0x19D), (0x19F, 0x1A0), (0x1A2, 0x1A2),
  (0x1A4, 0x1A4), (0x1A6, 0x1A7), (0x1A9, 0x1A9), (0x1AC, 0x1AC), (0x1AE, 0x1AF), (0x1B1, 0x1B3),
  (0x1B5, 0x1B5), (0x1B7, 0x1B8), (0x1BC, 0x1BC), (0x1C4, 0x1CD), (0x1F1, 0x1F4), (0x1F6, 0x1F8),
  (0x23A, 0x23B), (0x23D, 0x23E), (0x241, 0x241), (0x243, 0x246), (0x2B0, 0x2B8), (0x2D8, 0x2DD),
  (0x2E0, 0x2E4), (0x340, 0x341), (0x343, 0x345), (0x34F, 0x34F), (0x37A, 0x37A), (0x37E, 0x38F),
  (0x391, 0x3AB), (0x3CF, 0x3D6), (0x3F0, 0x3F2), (0x3F4, 0x3F5), (0x3F7, 0x3F7), (0x3F9, 0x3FA),
  (0x3FD, 0x42F), (0x4C0, 0x4C1), (0x531, 0x556), (0x587, 0x587), (0x600, 0x605), (0x61C, 0x61C),
  (0x675, 0x678), (0x6DD, 0x6DD), (0x70F, 0x70F), (0x890, 0x891), (0x8E2, 0x8E2), (0x958, 0x95F),
  (0x9DC, 0x9DF), (0xA33, 0xA33), (0xA36, 0xA36), (0xA59, 0xA5B), (0xA5E, 0xA5E), (0xB5C, 0xB5D),
  (0xE33, 0xE33), (0xEB3, 0xEB3), (0xEDC, 0xEDD), (0xF0C, 0xF0C), (0xF43, 0xF43), (0xF4D, 0xF4D),
  (0xF52, 0xF52), (0xF57, 0xF57), (0xF5C, 0xF5C), (0xF69, 0xF69), (0xF73, 0xF73), (0xF75, 0xF79),
  (0xF81, 0xF81), (0xF93, 0xF93), (0xF9D, 0xF9D), (0xFA2, 0xFA2), (0xFA7, 0xFA7), (0xFAC, 0xFAC),
  (0xFB9, 0xFB9), (0x10A0, 0x10CD), (0x10FC, 0x10FC), (0x115F, 0x1160), (0x13F8, 0x13FD),
  (0x1680, 0x1680), (0x17B4, 0x17B5), (0x180B, 0x180F), (0x1C80, 0x1C89), (0x1C90, 0x1CBF),
  (0x1D2C, 0x1D2E), (0x1D30, 0x1D3A), (0x1D3C, 0x1D4D), (0x1D4F, 0x1D6A), (0x1D78, 0x1D78),
  (0x1D9B, 0x1DBF), (0x1E9A, 0x1E9B), (0x1F08, 0x1F0F), (0x1F18, 0x1F1D), (0x1F28, 0x1F2F),
  (0x1F38, 0x1F3F), (0x1F48, 0x1F4D), (0x1F59, 0x1F5F), (0x1F68, 0x1F6F), (0x1F7D, 0x1FAF),
  (0x1FB2, 0x1FB4), (0x1FB7, 0x1FC4), (0x1FC7, 0x1FCF), (0x1FD3, 0x1FD3), (0x1FD8, 0x1FDF),
  (0x1FE3, 0x1FE3), (0x1FE8, 0x1FF4), (0x1FF7, 0x200B), (0x200E, 0x200F), (0x2011, 0x2011),
  (0x2017, 0x2017), (0x2024, 0x2026), (0x2028, 0x202F), (0x2033, 0x2034), (0x2036, 0x2037),
  (0x203C, 0x203C), (0x203E, 0x203E), (0x2047, 0x2049), (0x2057, 0x2057), (0x205F, 0x209C),
  (0x20A8, 0x20A8), (0x2100, 0x2103), (0x2105, 0x2107), (0x2109, 0x2113), (0x2115, 0x2116),
  (0x2119, 0x211D), (0x2120, 0x2122), (0x212A, 0x212D), (0x212F, 0x2139), (0x213B, 0x2140),
  (0x2145, 0x2149), (0x2150, 0x217F), (0x2183, 0x2183), (0x2189, 0x2189), (0x222C, 0x222D),
  (0x222F, 0x2230), (0x2329, 0x232A), (0x2460, 0x24EA), (0x2A0C, 0x2A0C), (0x2A74, 0x2A76),
  (0x2ADC, 0x2ADC), (0x2C00, 0x2C2F), (0x2C60, 0x2C60), (0x2C62, 0x2C64), (0x2C6D, 0x2C70),
  (0x2C72, 0x2C72), (0x2C75, 0x2C75), (0x2C7C, 0x2C80), (0x2CEB, 0x2CEB), (0x2CED, 0x2CED),
  (0x2CF2, 0x2CF2), (0x2D6F, 0x2D6F), (0x2E9F, 0x2E9F), (0x2EF3, 0x3000), (0x3002, 0x3002),
  (0x3036, 0x3036), (0x3038, 0x303A), (0x309B, 0x309C), (0x309F, 0x309F), (0x30FF, 0x30FF),
  (0x3131, 0x318E), (0x3192, 0x319F), (0x31EF, 0x31EF), (0x3200, 0x3247), (0x3250, 0x327E),
  (0x3280, 0x33FF), (0xA69C, 0xA69D), (0xA779, 0xA779), (0xA77B, 0xA77B), (0xA77D, 0xA77E),
  (0xA78B, 0xA78B), (0xA78D, 0xA78D), (0xA790, 0xA790), (0xA792, 0xA792), (0xA7AA, 0xA7AE),
  (0xA7B0, 0xA7B4), (0xA7C4, 0xA7C7), (0xA7C9, 0xA7C9), (0xA7CB, 0xA7CC), (0xA7DC, 0xA7F5),
  (0xA7F8, 0xA7F9), (0xAB5C, 0xAB5F), (0xAB69, 0xAB69), (0xAB70, 0xABBF), (0xD800, 0xFA0D),
  (0xFA10, 0xFA10), (0xFA12, 0xFA12), (0xFA15, 0xFA1E), (0xFA20, 0xFA20), (0xFA22, 0xFA22),
  (0xFA25, 0xFA26), (0xFA2A, 0xFB1D), (0xFB1F, 0xFBB1), (0xFBD3, 0xFD3D), (0xFD50, 0xFD8F),
  (0xFD92, 0xFDC7), (0xFDF0, 0xFDFC), (0xFE00, 0xFE19), (0xFE30, 0xFE44), (0xFE47, 0xFE72),
  (0xFE74, 0xFFFD), (0x10400, 0x10427), (0x104B0, 0x104D3), (0x10570, 0x10595), (0x10781, 0x107BA),
  (0x10C80, 0x10CB2), (0x10D50, 0x10D65), (0x110BD, 0x110BD), (0x110CD, 0x110CD),
  (0x118A0, 0x118BF), (0x13430, 0x1343F), (0x16E40, 0x16E5F), (0x16EA0, 0x16EB8),
  (0x1BCA0, 0x1BCA3), (0x1CCD6, 0x1CCF9), (0x1D15E, 0x1D164), (0x1D173, 0x1D17A),
  (0x1D1BB, 0x1D1C0), (0x1D400, 0x1D7FF), (0x1E030, 0x1E06D), (0x1E900, 0x1E921),
  (0x1EE00, 0x1EEBB), (0x1F100, 0x1F10A), (0x1F110, 0x1F12E), (0x1F130, 0x1F14F),
  (0x1F16A, 0x1F16C), (0x1F190, 0x1F190), (0x1F200, 0x1F251), (0x1FBF0, 0x1FBF9),
  (0x2F800, 0x2FA1D), (0xE0001, 0x10FFFD)]

/-- Further ranges in which every second character, the first and the last among them, is a capital
letter or a variant. -/
def refusedCapitals : Ranges := [
  (0x100, 0x130), (0x139, 0x13D), (0x143, 0x147), (0x14C, 0x176), (0x17B, 0x17F), (0x1CF, 0x1DB),
  (0x1DE, 0x1EE), (0x1FA, 0x232), (0x248, 0x24E), (0x370, 0x376), (0x3D8, 0x3EE), (0x460, 0x480),
  (0x48A, 0x4BE), (0x4C3, 0x4CD), (0x4D0, 0x52E), (0x1E00, 0x1E94), (0x1E9E, 0x1EFE),
  (0x1F71, 0x1F7B), (0x2124, 0x2128), (0x2C67, 0x2C6B), (0x2C82, 0x2CE2), (0xA640, 0xA66C),
  (0xA680, 0xA69A), (0xA722, 0xA72E), (0xA732, 0xA770), (0xA780, 0xA786), (0xA796, 0xA7A8),
  (0xA7B6, 0xA7C2), (0xA7CE, 0xA7DA)]

/-- Whether a label can have the character. For ASCII this is decided elsewhere. -/
def isAllowed (c : Char) : Bool :=
  c.toNat < 0x80 ||
    !(unassigned.has c || refusedRanges.has c ||
      refusedCapitals.any fun r =>
        r.1 ≤ c.toNat && c.toNat ≤ r.2 && (c.toNat - r.1) % 2 == 0)

end ReflectCalc.DomainChar
