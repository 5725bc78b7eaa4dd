import MeshControl.Text.CodePoints

/-!
# Directions of writing

Where the writing systems that run from right to left are, which digits count as numbers among them
and beside them, and which characters take the direction of those around them.
-/

namespace MeshControl.Text

/-- The blocks of the writing systems that run from right to left. -/
def rightToLeftRuns : List Run := [
  ⟨0x590, 0x8FF, 1⟩, ⟨0xFB1D, 0xFDFF, 1⟩, ⟨0xFE70, 0xFEFF, 1⟩, ⟨0x10800, 0x10FFF, 1⟩,
  ⟨0x1E800, 0x1EFFF, 1⟩]

/-- The digits and number signs of Arabic. -/
def arabicNumberRuns : List Run := [
  ⟨0x600, 0x605, 1⟩, ⟨0x660, 0x669, 1⟩, ⟨0x66B, 0x66C, 1⟩, ⟨0x6DD, 0x6DD, 1⟩, ⟨0x890, 0x891, 1⟩,
  ⟨0x8E2, 0x8E2, 1⟩, ⟨0x10D30, 0x10D39, 1⟩, ⟨0x10D40, 0x10D49, 1⟩, ⟨0x10E60, 0x10E7E, 1⟩]

/-- The digits that are written from left to right among letters of any direction. -/
def europeanNumberRuns : List Run := [
  ⟨0x30, 0x39, 1⟩, ⟨0xB2, 0xB3, 1⟩, ⟨0xB9, 0xB9, 1⟩, ⟨0x6F0, 0x6F9, 1⟩, ⟨0x2070, 0x2070, 1⟩,
  ⟨0x2074, 0x2079, 1⟩, ⟨0x2080, 0x2089, 1⟩, ⟨0x2488, 0x249B, 1⟩, ⟨0xFF10, 0xFF19, 1⟩,
  ⟨0x102E1, 0x102FB, 1⟩, ⟨0x1CCF0, 0x1CCF9, 1⟩, ⟨0x1D7CE, 0x1D7FF, 1⟩, ⟨0x1F100, 0x1F10A, 1⟩,
  ⟨0x1FBF0, 0x1FBF9, 1⟩]

/-- The characters that take the direction of those around them: signs, punctuation, symbols and
formats. -/
def neutralRuns : List Run := [
  ⟨0x0, 0x8, 1⟩, ⟨0xE, 0x1B, 1⟩, ⟨0x21, 0x2F, 1⟩, ⟨0x3A, 0x40, 1⟩, ⟨0x5B, 0x60, 1⟩, ⟨0x7B, 0x84, 1⟩,
  ⟨0x86, 0xA9, 1⟩, ⟨0xAB, 0xB1, 1⟩, ⟨0xB4, 0xB6, 2⟩, ⟨0xB7, 0xB8, 1⟩, ⟨0xBB, 0xBF, 1⟩,
  ⟨0xD7, 0xD7, 1⟩, ⟨0xF7, 0xF7, 1⟩, ⟨0x2B9, 0x2BA, 1⟩, ⟨0x2C2, 0x2CF, 1⟩, ⟨0x2D2, 0x2DF, 1⟩,
  ⟨0x2E5, 0x2ED, 1⟩, ⟨0x2EF, 0x2FF, 1⟩, ⟨0x374, 0x375, 1⟩, ⟨0x37E, 0x37E, 1⟩, ⟨0x384, 0x385, 1⟩,
  ⟨0x387, 0x387, 1⟩, ⟨0x3F6, 0x3F6, 1⟩, ⟨0x58A, 0x58A, 1⟩, ⟨0x58D, 0x58F, 1⟩, ⟨0x606, 0x607, 1⟩,
  ⟨0x609, 0x60A, 1⟩, ⟨0x60C, 0x60E, 2⟩, ⟨0x60F, 0x60F, 1⟩, ⟨0x66A, 0x66A, 1⟩, ⟨0x6DE, 0x6DE, 1⟩,
  ⟨0x6E9, 0x6E9, 1⟩, ⟨0x7F6, 0x7F9, 1⟩, ⟨0x9F2, 0x9F3, 1⟩, ⟨0x9FB, 0x9FB, 1⟩, ⟨0xAF1, 0xAF1, 1⟩,
  ⟨0xBF3, 0xBFA, 1⟩, ⟨0xC78, 0xC7E, 1⟩, ⟨0xE3F, 0xE3F, 1⟩, ⟨0xF3A, 0xF3D, 1⟩, ⟨0x1390, 0x1399, 1⟩,
  ⟨0x1400, 0x1400, 1⟩, ⟨0x169B, 0x169C, 1⟩, ⟨0x17DB, 0x17DB, 1⟩, ⟨0x17F0, 0x17F9, 1⟩,
  ⟨0x1800, 0x180A, 1⟩, ⟨0x180E, 0x180E, 1⟩, ⟨0x1940, 0x1940, 1⟩, ⟨0x1944, 0x1945, 1⟩,
  ⟨0x19DE, 0x19FF, 1⟩, ⟨0x1FBD, 0x1FBF, 2⟩, ⟨0x1FC0, 0x1FC1, 1⟩, ⟨0x1FCD, 0x1FCF, 1⟩,
  ⟨0x1FDD, 0x1FDF, 1⟩, ⟨0x1FED, 0x1FEF, 1⟩, ⟨0x1FFD, 0x1FFE, 1⟩, ⟨0x200B, 0x200D, 1⟩,
  ⟨0x2010, 0x2027, 1⟩, ⟨0x202F, 0x205E, 1⟩, ⟨0x2060, 0x2064, 1⟩, ⟨0x206A, 0x206F, 1⟩,
  ⟨0x207A, 0x207E, 1⟩, ⟨0x208A, 0x208E, 1⟩, ⟨0x20A0, 0x20C1, 1⟩, ⟨0x2100, 0x2101, 1⟩,
  ⟨0x2103, 0x2106, 1⟩, ⟨0x2108, 0x2109, 1⟩, ⟨0x2114, 0x2116, 2⟩, ⟨0x2117, 0x2118, 1⟩,
  ⟨0x211E, 0x2123, 1⟩, ⟨0x2125, 0x2129, 2⟩, ⟨0x212E, 0x212E, 1⟩, ⟨0x213A, 0x213B, 1⟩,
  ⟨0x2140, 0x2144, 1⟩, ⟨0x214A, 0x214D, 1⟩, ⟨0x2150, 0x215F, 1⟩, ⟨0x2189, 0x218B, 1⟩,
  ⟨0x2190, 0x2335, 1⟩, ⟨0x237B, 0x2394, 1⟩, ⟨0x2396, 0x2429, 1⟩, ⟨0x2440, 0x244A, 1⟩,
  ⟨0x2460, 0x2487, 1⟩, ⟨0x24EA, 0x26AB, 1⟩, ⟨0x26AD, 0x27FF, 1⟩, ⟨0x2900, 0x2B73, 1⟩,
  ⟨0x2B76, 0x2BFF, 1⟩, ⟨0x2CE5, 0x2CEA, 1⟩, ⟨0x2CF9, 0x2CFF, 1⟩, ⟨0x2E00, 0x2E5D, 1⟩,
  ⟨0x2E80, 0x2E99, 1⟩, ⟨0x2E9B, 0x2EF3, 1⟩, ⟨0x2F00, 0x2FD5, 1⟩, ⟨0x2FF0, 0x2FFF, 1⟩,
  ⟨0x3001, 0x3004, 1⟩, ⟨0x3008, 0x3020, 1⟩, ⟨0x3030, 0x3030, 1⟩, ⟨0x3036, 0x3037, 1⟩,
  ⟨0x303D, 0x303F, 1⟩, ⟨0x309B, 0x309C, 1⟩, ⟨0x30A0, 0x30A0, 1⟩, ⟨0x30FB, 0x30FB, 1⟩,
  ⟨0x31C0, 0x31E5, 1⟩, ⟨0x31EF, 0x31EF, 1⟩, ⟨0x321D, 0x321E, 1⟩, ⟨0x3250, 0x325F, 1⟩,
  ⟨0x327C, 0x327E, 1⟩, ⟨0x32B1, 0x32BF, 1⟩, ⟨0x32CC, 0x32CF, 1⟩, ⟨0x3377, 0x337A, 1⟩,
  ⟨0x33DE, 0x33DF, 1⟩, ⟨0x33FF, 0x33FF, 1⟩, ⟨0x4DC0, 0x4DFF, 1⟩, ⟨0xA490, 0xA4C6, 1⟩,
  ⟨0xA60D, 0xA60F, 1⟩, ⟨0xA673, 0xA673, 1⟩, ⟨0xA67E, 0xA67F, 1⟩, ⟨0xA700, 0xA721, 1⟩,
  ⟨0xA788, 0xA788, 1⟩, ⟨0xA828, 0xA82B, 1⟩, ⟨0xA838, 0xA839, 1⟩, ⟨0xA874, 0xA877, 1⟩,
  ⟨0xAB6A, 0xAB6B, 1⟩, ⟨0xFB29, 0xFB29, 1⟩, ⟨0xFBC3, 0xFBD2, 1⟩, ⟨0xFD3E, 0xFD4F, 1⟩,
  ⟨0xFD90, 0xFD91, 1⟩, ⟨0xFDC8, 0xFDCF, 1⟩, ⟨0xFDFD, 0xFDFF, 1⟩, ⟨0xFE10, 0xFE19, 1⟩,
  ⟨0xFE30, 0xFE52, 1⟩, ⟨0xFE54, 0xFE66, 1⟩, ⟨0xFE68, 0xFE6B, 1⟩, ⟨0xFEFF, 0xFF01, 2⟩,
  ⟨0xFF02, 0xFF0F, 1⟩, ⟨0xFF1A, 0xFF20, 1⟩, ⟨0xFF3B, 0xFF40, 1⟩, ⟨0xFF5B, 0xFF65, 1⟩,
  ⟨0xFFE0, 0xFFE6, 1⟩, ⟨0xFFE8, 0xFFEE, 1⟩, ⟨0xFFF9, 0xFFFD, 1⟩, ⟨0x10101, 0x10101, 1⟩,
  ⟨0x10140, 0x1018C, 1⟩, ⟨0x10190, 0x1019C, 1⟩, ⟨0x101A0, 0x101A0, 1⟩, ⟨0x1091F, 0x1091F, 1⟩,
  ⟨0x10B39, 0x10B3F, 1⟩, ⟨0x10D6E, 0x10D6E, 1⟩, ⟨0x10ED0, 0x10ED8, 1⟩, ⟨0x11052, 0x11065, 1⟩,
  ⟨0x11660, 0x1166C, 1⟩, ⟨0x11FD5, 0x11FF1, 1⟩, ⟨0x16FE2, 0x16FE2, 1⟩, ⟨0x1BCA0, 0x1BCA3, 1⟩,
  ⟨0x1CC00, 0x1CCD5, 1⟩, ⟨0x1CCFA, 0x1CCFC, 1⟩, ⟨0x1CD00, 0x1CEB3, 1⟩, ⟨0x1CEBA, 0x1CED0, 1⟩,
  ⟨0x1CEE0, 0x1CEF0, 1⟩, ⟨0x1D173, 0x1D17A, 1⟩, ⟨0x1D1E9, 0x1D1EA, 1⟩, ⟨0x1D200, 0x1D241, 1⟩,
  ⟨0x1D245, 0x1D245, 1⟩, ⟨0x1D300, 0x1D356, 1⟩, ⟨0x1D6C1, 0x1D6C1, 1⟩, ⟨0x1D6DB, 0x1D6DB, 1⟩,
  ⟨0x1D6FB, 0x1D6FB, 1⟩, ⟨0x1D715, 0x1D715, 1⟩, ⟨0x1D735, 0x1D735, 1⟩, ⟨0x1D74F, 0x1D74F, 1⟩,
  ⟨0x1D76F, 0x1D76F, 1⟩, ⟨0x1D789, 0x1D789, 1⟩, ⟨0x1D7A9, 0x1D7A9, 1⟩, ⟨0x1D7C3, 0x1D7C3, 1⟩,
  ⟨0x1E2FF, 0x1E2FF, 1⟩, ⟨0x1EEF0, 0x1EEF1, 1⟩, ⟨0x1F000, 0x1F02B, 1⟩, ⟨0x1F030, 0x1F093, 1⟩,
  ⟨0x1F0A0, 0x1F0AE, 1⟩, ⟨0x1F0B1, 0x1F0BF, 1⟩, ⟨0x1F0C1, 0x1F0CF, 1⟩, ⟨0x1F0D1, 0x1F0F5, 1⟩,
  ⟨0x1F10B, 0x1F10F, 1⟩, ⟨0x1F12F, 0x1F12F, 1⟩, ⟨0x1F16A, 0x1F16F, 1⟩, ⟨0x1F1AD, 0x1F1AD, 1⟩,
  ⟨0x1F260, 0x1F265, 1⟩, ⟨0x1F300, 0x1F6D8, 1⟩, ⟨0x1F6DC, 0x1F6EC, 1⟩, ⟨0x1F6F0, 0x1F6FC, 1⟩,
  ⟨0x1F700, 0x1F7D9, 1⟩, ⟨0x1F7E0, 0x1F7EB, 1⟩, ⟨0x1F7F0, 0x1F7F0, 1⟩, ⟨0x1F800, 0x1F80B, 1⟩,
  ⟨0x1F810, 0x1F847, 1⟩, ⟨0x1F850, 0x1F859, 1⟩, ⟨0x1F860, 0x1F887, 1⟩, ⟨0x1F890, 0x1F8AD, 1⟩,
  ⟨0x1F8B0, 0x1F8BB, 1⟩, ⟨0x1F8C0, 0x1F8C1, 1⟩, ⟨0x1F8D0, 0x1F8D8, 1⟩, ⟨0x1F900, 0x1FA57, 1⟩,
  ⟨0x1FA60, 0x1FA6D, 1⟩, ⟨0x1FA70, 0x1FA7C, 1⟩, ⟨0x1FA80, 0x1FA8A, 1⟩, ⟨0x1FA8E, 0x1FAC6, 1⟩,
  ⟨0x1FAC8, 0x1FAC8, 1⟩, ⟨0x1FACD, 0x1FADC, 1⟩, ⟨0x1FADF, 0x1FAEA, 1⟩, ⟨0x1FAEF, 0x1FAF8, 1⟩,
  ⟨0x1FB00, 0x1FB92, 1⟩, ⟨0x1FB94, 0x1FBEF, 1⟩, ⟨0x1FBFA, 0x1FBFA, 1⟩, ⟨0xE0001, 0xE0001, 1⟩,
  ⟨0xE0020, 0xE007F, 1⟩]

/-- The marks without room of their own that count as letters from left to right. -/
def letterlikeMarkRuns : List Run := [
  ⟨0xCBF, 0xCBF, 1⟩, ⟨0xCC6, 0xCC6, 1⟩, ⟨0x11A07, 0x11A08, 1⟩, ⟨0x11C3F, 0x11C3F, 1⟩]

end MeshControl.Text
