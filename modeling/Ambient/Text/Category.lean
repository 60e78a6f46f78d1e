/-!
The Unicode general categories that decide which characters an identifier may have, as ranges of
code points in ascending order with both ends included. The five categories of letters count as one
here, and so do the marks that take room and those that take none.
-/
namespace Ambient.Text

inductive Category where
  | letter
  | letterNumber
  | decimalDigit
  | otherNumber
  /-- Combining marks, spacing or not. -/
  | mark
  /-- The punctuation that connects words. -/
  | connector
  | otherSymbol
  deriving DecidableEq

def basicPlane : List (Nat × Nat × Category) := [
    (0x30, 0x39, .decimalDigit), (0x41, 0x5A, .letter), (0x5F, 0x5F, .connector),
    (0x61, 0x7A, .letter), (0xA6, 0xA6, .otherSymbol), (0xA9, 0xA9, .otherSymbol),
    (0xAA, 0xAA, .letter), (0xAE, 0xAE, .otherSymbol), (0xB0, 0xB0, .otherSymbol),
    (0xB2, 0xB3, .otherNumber), (0xB5, 0xB5, .letter), (0xB9, 0xB9, .otherNumber),
    (0xBA, 0xBA, .letter), (0xBC, 0xBE, .otherNumber), (0xC0, 0xD6, .letter), (0xD8, 0xF6, .letter),
    (0xF8, 0x2C1, .letter), (0x2C6, 0x2D1, .letter), (0x2E0, 0x2E4, .letter),
    (0x2EC, 0x2EC, .letter), (0x2EE, 0x2EE, .letter), (0x300, 0x36F, .mark),
    (0x370, 0x374, .letter), (0x376, 0x377, .letter), (0x37A, 0x37D, .letter),
    (0x37F, 0x37F, .letter), (0x386, 0x386, .letter), (0x388, 0x38A, .letter),
    (0x38C, 0x38C, .letter), (0x38E, 0x3A1, .letter), (0x3A3, 0x3F5, .letter),
    (0x3F7, 0x481, .letter), (0x482, 0x482, .otherSymbol), (0x483, 0x487, .mark),
    (0x48A, 0x52F, .letter), (0x531, 0x556, .letter), (0x559, 0x559, .letter),
    (0x560, 0x588, .letter), (0x58D, 0x58E, .otherSymbol), (0x591, 0x5BD, .mark),
    (0x5BF, 0x5BF, .mark), (0x5C1, 0x5C2, .mark), (0x5C4, 0x5C5, .mark), (0x5C7, 0x5C7, .mark),
    (0x5D0, 0x5EA, .letter), (0x5EF, 0x5F2, .letter), (0x60E, 0x60F, .otherSymbol),
    (0x610, 0x61A, .mark), (0x620, 0x64A, .letter), (0x64B, 0x65F, .mark),
    (0x660, 0x669, .decimalDigit), (0x66E, 0x66F, .letter), (0x670, 0x670, .mark),
    (0x671, 0x6D3, .letter), (0x6D5, 0x6D5, .letter), (0x6D6, 0x6DC, .mark),
    (0x6DE, 0x6DE, .otherSymbol), (0x6DF, 0x6E4, .mark), (0x6E5, 0x6E6, .letter),
    (0x6E7, 0x6E8, .mark), (0x6E9, 0x6E9, .otherSymbol), (0x6EA, 0x6ED, .mark),
    (0x6EE, 0x6EF, .letter), (0x6F0, 0x6F9, .decimalDigit), (0x6FA, 0x6FC, .letter),
    (0x6FD, 0x6FE, .otherSymbol), (0x6FF, 0x6FF, .letter), (0x710, 0x710, .letter),
    (0x711, 0x711, .mark), (0x712, 0x72F, .letter), (0x730, 0x74A, .mark), (0x74D, 0x7A5, .letter),
    (0x7A6, 0x7B0, .mark), (0x7B1, 0x7B1, .letter), (0x7C0, 0x7C9, .decimalDigit),
    (0x7CA, 0x7EA, .letter), (0x7EB, 0x7F3, .mark), (0x7F4, 0x7F5, .letter),
    (0x7F6, 0x7F6, .otherSymbol), (0x7FA, 0x7FA, .letter), (0x7FD, 0x7FD, .mark),
    (0x800, 0x815, .letter), (0x816, 0x819, .mark), (0x81A, 0x81A, .letter), (0x81B, 0x823, .mark),
    (0x824, 0x824, .letter), (0x825, 0x827, .mark), (0x828, 0x828, .letter), (0x829, 0x82D, .mark),
    (0x840, 0x858, .letter), (0x859, 0x85B, .mark), (0x860, 0x86A, .letter),
    (0x870, 0x887, .letter), (0x889, 0x88F, .letter), (0x897, 0x89F, .mark),
    (0x8A0, 0x8C9, .letter), (0x8CA, 0x8E1, .mark), (0x8E3, 0x903, .mark), (0x904, 0x939, .letter),
    (0x93A, 0x93C, .mark), (0x93D, 0x93D, .letter), (0x93E, 0x94F, .mark), (0x950, 0x950, .letter),
    (0x951, 0x957, .mark), (0x958, 0x961, .letter), (0x962, 0x963, .mark),
    (0x966, 0x96F, .decimalDigit), (0x971, 0x980, .letter), (0x981, 0x983, .mark),
    (0x985, 0x98C, .letter), (0x98F, 0x990, .letter), (0x993, 0x9A8, .letter),
    (0x9AA, 0x9B0, .letter), (0x9B2, 0x9B2, .letter), (0x9B6, 0x9B9, .letter),
    (0x9BC, 0x9BC, .mark), (0x9BD, 0x9BD, .letter), (0x9BE, 0x9C4, .mark), (0x9C7, 0x9C8, .mark),
    (0x9CB, 0x9CD, .mark), (0x9CE, 0x9CE, .letter), (0x9D7, 0x9D7, .mark), (0x9DC, 0x9DD, .letter),
    (0x9DF, 0x9E1, .letter), (0x9E2, 0x9E3, .mark), (0x9E6, 0x9EF, .decimalDigit),
    (0x9F0, 0x9F1, .letter), (0x9F4, 0x9F9, .otherNumber), (0x9FA, 0x9FA, .otherSymbol),
    (0x9FC, 0x9FC, .letter), (0x9FE, 0x9FE, .mark), (0xA01, 0xA03, .mark), (0xA05, 0xA0A, .letter),
    (0xA0F, 0xA10, .letter), (0xA13, 0xA28, .letter), (0xA2A, 0xA30, .letter),
    (0xA32, 0xA33, .letter), (0xA35, 0xA36, .letter), (0xA38, 0xA39, .letter),
    (0xA3C, 0xA3C, .mark), (0xA3E, 0xA42, .mark), (0xA47, 0xA48, .mark), (0xA4B, 0xA4D, .mark),
    (0xA51, 0xA51, .mark), (0xA59, 0xA5C, .letter), (0xA5E, 0xA5E, .letter),
    (0xA66, 0xA6F, .decimalDigit), (0xA70, 0xA71, .mark), (0xA72, 0xA74, .letter),
    (0xA75, 0xA75, .mark), (0xA81, 0xA83, .mark), (0xA85, 0xA8D, .letter), (0xA8F, 0xA91, .letter),
    (0xA93, 0xAA8, .letter), (0xAAA, 0xAB0, .letter), (0xAB2, 0xAB3, .letter),
    (0xAB5, 0xAB9, .letter), (0xABC, 0xABC, .mark), (0xABD, 0xABD, .letter), (0xABE, 0xAC5, .mark),
    (0xAC7, 0xAC9, .mark), (0xACB, 0xACD, .mark), (0xAD0, 0xAD0, .letter), (0xAE0, 0xAE1, .letter),
    (0xAE2, 0xAE3, .mark), (0xAE6, 0xAEF, .decimalDigit), (0xAF9, 0xAF9, .letter),
    (0xAFA, 0xAFF, .mark), (0xB01, 0xB03, .mark), (0xB05, 0xB0C, .letter), (0xB0F, 0xB10, .letter),
    (0xB13, 0xB28, .letter), (0xB2A, 0xB30, .letter), (0xB32, 0xB33, .letter),
    (0xB35, 0xB39, .letter), (0xB3C, 0xB3C, .mark), (0xB3D, 0xB3D, .letter), (0xB3E, 0xB44, .mark),
    (0xB47, 0xB48, .mark), (0xB4B, 0xB4D, .mark), (0xB55, 0xB57, .mark), (0xB5C, 0xB5D, .letter),
    (0xB5F, 0xB61, .letter), (0xB62, 0xB63, .mark), (0xB66, 0xB6F, .decimalDigit),
    (0xB70, 0xB70, .otherSymbol), (0xB71, 0xB71, .letter), (0xB72, 0xB77, .otherNumber),
    (0xB82, 0xB82, .mark), (0xB83, 0xB83, .letter), (0xB85, 0xB8A, .letter),
    (0xB8E, 0xB90, .letter), (0xB92, 0xB95, .letter), (0xB99, 0xB9A, .letter),
    (0xB9C, 0xB9C, .letter), (0xB9E, 0xB9F, .letter), (0xBA3, 0xBA4, .letter),
    (0xBA8, 0xBAA, .letter), (0xBAE, 0xBB9, .letter), (0xBBE, 0xBC2, .mark), (0xBC6, 0xBC8, .mark),
    (0xBCA, 0xBCD, .mark), (0xBD0, 0xBD0, .letter), (0xBD7, 0xBD7, .mark),
    (0xBE6, 0xBEF, .decimalDigit), (0xBF0, 0xBF2, .otherNumber), (0xBF3, 0xBF8, .otherSymbol),
    (0xBFA, 0xBFA, .otherSymbol), (0xC00, 0xC04, .mark), (0xC05, 0xC0C, .letter),
    (0xC0E, 0xC10, .letter), (0xC12, 0xC28, .letter), (0xC2A, 0xC39, .letter),
    (0xC3C, 0xC3C, .mark), (0xC3D, 0xC3D, .letter), (0xC3E, 0xC44, .mark), (0xC46, 0xC48, .mark),
    (0xC4A, 0xC4D, .mark), (0xC55, 0xC56, .mark), (0xC58, 0xC5A, .letter), (0xC5C, 0xC5D, .letter),
    (0xC60, 0xC61, .letter), (0xC62, 0xC63, .mark), (0xC66, 0xC6F, .decimalDigit),
    (0xC78, 0xC7E, .otherNumber), (0xC7F, 0xC7F, .otherSymbol), (0xC80, 0xC80, .letter),
    (0xC81, 0xC83, .mark), (0xC85, 0xC8C, .letter), (0xC8E, 0xC90, .letter),
    (0xC92, 0xCA8, .letter), (0xCAA, 0xCB3, .letter), (0xCB5, 0xCB9, .letter),
    (0xCBC, 0xCBC, .mark), (0xCBD, 0xCBD, .letter), (0xCBE, 0xCC4, .mark), (0xCC6, 0xCC8, .mark),
    (0xCCA, 0xCCD, .mark), (0xCD5, 0xCD6, .mark), (0xCDC, 0xCDE, .letter), (0xCE0, 0xCE1, .letter),
    (0xCE2, 0xCE3, .mark), (0xCE6, 0xCEF, .decimalDigit), (0xCF1, 0xCF2, .letter),
    (0xCF3, 0xCF3, .mark), (0xD00, 0xD03, .mark), (0xD04, 0xD0C, .letter), (0xD0E, 0xD10, .letter),
    (0xD12, 0xD3A, .letter), (0xD3B, 0xD3C, .mark), (0xD3D, 0xD3D, .letter), (0xD3E, 0xD44, .mark),
    (0xD46, 0xD48, .mark), (0xD4A, 0xD4D, .mark), (0xD4E, 0xD4E, .letter),
    (0xD4F, 0xD4F, .otherSymbol), (0xD54, 0xD56, .letter), (0xD57, 0xD57, .mark),
    (0xD58, 0xD5E, .otherNumber), (0xD5F, 0xD61, .letter), (0xD62, 0xD63, .mark),
    (0xD66, 0xD6F, .decimalDigit), (0xD70, 0xD78, .otherNumber), (0xD79, 0xD79, .otherSymbol),
    (0xD7A, 0xD7F, .letter), (0xD81, 0xD83, .mark), (0xD85, 0xD96, .letter),
    (0xD9A, 0xDB1, .letter), (0xDB3, 0xDBB, .letter), (0xDBD, 0xDBD, .letter),
    (0xDC0, 0xDC6, .letter), (0xDCA, 0xDCA, .mark), (0xDCF, 0xDD4, .mark), (0xDD6, 0xDD6, .mark),
    (0xDD8, 0xDDF, .mark), (0xDE6, 0xDEF, .decimalDigit), (0xDF2, 0xDF3, .mark),
    (0xE01, 0xE30, .letter), (0xE31, 0xE31, .mark), (0xE32, 0xE33, .letter), (0xE34, 0xE3A, .mark),
    (0xE40, 0xE46, .letter), (0xE47, 0xE4E, .mark), (0xE50, 0xE59, .decimalDigit),
    (0xE81, 0xE82, .letter), (0xE84, 0xE84, .letter), (0xE86, 0xE8A, .letter),
    (0xE8C, 0xEA3, .letter), (0xEA5, 0xEA5, .letter), (0xEA7, 0xEB0, .letter),
    (0xEB1, 0xEB1, .mark), (0xEB2, 0xEB3, .letter), (0xEB4, 0xEBC, .mark), (0xEBD, 0xEBD, .letter),
    (0xEC0, 0xEC4, .letter), (0xEC6, 0xEC6, .letter), (0xEC8, 0xECE, .mark),
    (0xED0, 0xED9, .decimalDigit), (0xEDC, 0xEDF, .letter), (0xF00, 0xF00, .letter),
    (0xF01, 0xF03, .otherSymbol), (0xF13, 0xF13, .otherSymbol), (0xF15, 0xF17, .otherSymbol),
    (0xF18, 0xF19, .mark), (0xF1A, 0xF1F, .otherSymbol), (0xF20, 0xF29, .decimalDigit),
    (0xF2A, 0xF33, .otherNumber), (0xF34, 0xF34, .otherSymbol), (0xF35, 0xF35, .mark),
    (0xF36, 0xF36, .otherSymbol), (0xF37, 0xF37, .mark), (0xF38, 0xF38, .otherSymbol),
    (0xF39, 0xF39, .mark), (0xF3E, 0xF3F, .mark), (0xF40, 0xF47, .letter), (0xF49, 0xF6C, .letter),
    (0xF71, 0xF84, .mark), (0xF86, 0xF87, .mark), (0xF88, 0xF8C, .letter), (0xF8D, 0xF97, .mark),
    (0xF99, 0xFBC, .mark), (0xFBE, 0xFC5, .otherSymbol), (0xFC6, 0xFC6, .mark),
    (0xFC7, 0xFCC, .otherSymbol), (0xFCE, 0xFCF, .otherSymbol), (0xFD5, 0xFD8, .otherSymbol),
    (0x1000, 0x102A, .letter), (0x102B, 0x103E, .mark), (0x103F, 0x103F, .letter),
    (0x1040, 0x1049, .decimalDigit), (0x1050, 0x1055, .letter), (0x1056, 0x1059, .mark),
    (0x105A, 0x105D, .letter), (0x105E, 0x1060, .mark), (0x1061, 0x1061, .letter),
    (0x1062, 0x1064, .mark), (0x1065, 0x1066, .letter), (0x1067, 0x106D, .mark),
    (0x106E, 0x1070, .letter), (0x1071, 0x1074, .mark), (0x1075, 0x1081, .letter),
    (0x1082, 0x108D, .mark), (0x108E, 0x108E, .letter), (0x108F, 0x108F, .mark),
    (0x1090, 0x1099, .decimalDigit), (0x109A, 0x109D, .mark), (0x109E, 0x109F, .otherSymbol),
    (0x10A0, 0x10C5, .letter), (0x10C7, 0x10C7, .letter), (0x10CD, 0x10CD, .letter),
    (0x10D0, 0x10FA, .letter), (0x10FC, 0x1248, .letter), (0x124A, 0x124D, .letter),
    (0x1250, 0x1256, .letter), (0x1258, 0x1258, .letter), (0x125A, 0x125D, .letter),
    (0x1260, 0x1288, .letter), (0x128A, 0x128D, .letter), (0x1290, 0x12B0, .letter),
    (0x12B2, 0x12B5, .letter), (0x12B8, 0x12BE, .letter), (0x12C0, 0x12C0, .letter),
    (0x12C2, 0x12C5, .letter), (0x12C8, 0x12D6, .letter), (0x12D8, 0x1310, .letter),
    (0x1312, 0x1315, .letter), (0x1318, 0x135A, .letter), (0x135D, 0x135F, .mark),
    (0x1369, 0x137C, .otherNumber), (0x1380, 0x138F, .letter), (0x1390, 0x1399, .otherSymbol),
    (0x13A0, 0x13F5, .letter), (0x13F8, 0x13FD, .letter), (0x1401, 0x166C, .letter),
    (0x166D, 0x166D, .otherSymbol), (0x166F, 0x167F, .letter), (0x1681, 0x169A, .letter),
    (0x16A0, 0x16EA, .letter), (0x16EE, 0x16F0, .letterNumber), (0x16F1, 0x16F8, .letter),
    (0x1700, 0x1711, .letter), (0x1712, 0x1715, .mark), (0x171F, 0x1731, .letter),
    (0x1732, 0x1734, .mark), (0x1740, 0x1751, .letter), (0x1752, 0x1753, .mark),
    (0x1760, 0x176C, .letter), (0x176E, 0x1770, .letter), (0x1772, 0x1773, .mark),
    (0x1780, 0x17B3, .letter), (0x17B4, 0x17D3, .mark), (0x17D7, 0x17D7, .letter),
    (0x17DC, 0x17DC, .letter), (0x17DD, 0x17DD, .mark), (0x17E0, 0x17E9, .decimalDigit),
    (0x17F0, 0x17F9, .otherNumber), (0x180B, 0x180D, .mark), (0x180F, 0x180F, .mark),
    (0x1810, 0x1819, .decimalDigit), (0x1820, 0x1878, .letter), (0x1880, 0x1884, .letter),
    (0x1885, 0x1886, .mark), (0x1887, 0x18A8, .letter), (0x18A9, 0x18A9, .mark),
    (0x18AA, 0x18AA, .letter), (0x18B0, 0x18F5, .letter), (0x1900, 0x191E, .letter),
    (0x1920, 0x192B, .mark), (0x1930, 0x193B, .mark), (0x1940, 0x1940, .otherSymbol),
    (0x1946, 0x194F, .decimalDigit), (0x1950, 0x196D, .letter), (0x1970, 0x1974, .letter),
    (0x1980, 0x19AB, .letter), (0x19B0, 0x19C9, .letter), (0x19D0, 0x19D9, .decimalDigit),
    (0x19DA, 0x19DA, .otherNumber), (0x19DE, 0x19FF, .otherSymbol), (0x1A00, 0x1A16, .letter),
    (0x1A17, 0x1A1B, .mark), (0x1A20, 0x1A54, .letter), (0x1A55, 0x1A5E, .mark),
    (0x1A60, 0x1A7C, .mark), (0x1A7F, 0x1A7F, .mark), (0x1A80, 0x1A89, .decimalDigit),
    (0x1A90, 0x1A99, .decimalDigit), (0x1AA7, 0x1AA7, .letter), (0x1AB0, 0x1ABD, .mark),
    (0x1ABF, 0x1ADD, .mark), (0x1AE0, 0x1AEB, .mark), (0x1B00, 0x1B04, .mark),
    (0x1B05, 0x1B33, .letter), (0x1B34, 0x1B44, .mark), (0x1B45, 0x1B4C, .letter),
    (0x1B50, 0x1B59, .decimalDigit), (0x1B61, 0x1B6A, .otherSymbol), (0x1B6B, 0x1B73, .mark),
    (0x1B74, 0x1B7C, .otherSymbol), (0x1B80, 0x1B82, .mark), (0x1B83, 0x1BA0, .letter),
    (0x1BA1, 0x1BAD, .mark), (0x1BAE, 0x1BAF, .letter), (0x1BB0, 0x1BB9, .decimalDigit),
    (0x1BBA, 0x1BE5, .letter), (0x1BE6, 0x1BF3, .mark), (0x1C00, 0x1C23, .letter),
    (0x1C24, 0x1C37, .mark), (0x1C40, 0x1C49, .decimalDigit), (0x1C4D, 0x1C4F, .letter),
    (0x1C50, 0x1C59, .decimalDigit), (0x1C5A, 0x1C7D, .letter), (0x1C80, 0x1C8A, .letter),
    (0x1C90, 0x1CBA, .letter), (0x1CBD, 0x1CBF, .letter), (0x1CD0, 0x1CD2, .mark),
    (0x1CD4, 0x1CE8, .mark), (0x1CE9, 0x1CEC, .letter), (0x1CED, 0x1CED, .mark),
    (0x1CEE, 0x1CF3, .letter), (0x1CF4, 0x1CF4, .mark), (0x1CF5, 0x1CF6, .letter),
    (0x1CF7, 0x1CF9, .mark), (0x1CFA, 0x1CFA, .letter), (0x1D00, 0x1DBF, .letter),
    (0x1DC0, 0x1DFF, .mark), (0x1E00, 0x1F15, .letter), (0x1F18, 0x1F1D, .letter),
    (0x1F20, 0x1F45, .letter), (0x1F48, 0x1F4D, .letter), (0x1F50, 0x1F57, .letter),
    (0x1F59, 0x1F59, .letter), (0x1F5B, 0x1F5B, .letter), (0x1F5D, 0x1F5D, .letter),
    (0x1F5F, 0x1F7D, .letter), (0x1F80, 0x1FB4, .letter), (0x1FB6, 0x1FBC, .letter),
    (0x1FBE, 0x1FBE, .letter), (0x1FC2, 0x1FC4, .letter), (0x1FC6, 0x1FCC, .letter),
    (0x1FD0, 0x1FD3, .letter), (0x1FD6, 0x1FDB, .letter), (0x1FE0, 0x1FEC, .letter),
    (0x1FF2, 0x1FF4, .letter), (0x1FF6, 0x1FFC, .letter), (0x203F, 0x2040, .connector),
    (0x2054, 0x2054, .connector), (0x2070, 0x2070, .otherNumber), (0x2071, 0x2071, .letter),
    (0x2074, 0x2079, .otherNumber), (0x207F, 0x207F, .letter), (0x2080, 0x2089, .otherNumber),
    (0x2090, 0x209C, .letter), (0x20D0, 0x20DC, .mark), (0x20E1, 0x20E1, .mark),
    (0x20E5, 0x20F0, .mark), (0x2100, 0x2101, .otherSymbol), (0x2102, 0x2102, .letter),
    (0x2103, 0x2106, .otherSymbol), (0x2107, 0x2107, .letter), (0x2108, 0x2109, .otherSymbol),
    (0x210A, 0x2113, .letter), (0x2114, 0x2114, .otherSymbol), (0x2115, 0x2115, .letter),
    (0x2116, 0x2117, .otherSymbol), (0x2119, 0x211D, .letter), (0x211E, 0x2123, .otherSymbol),
    (0x2124, 0x2124, .letter), (0x2125, 0x2125, .otherSymbol), (0x2126, 0x2126, .letter),
    (0x2127, 0x2127, .otherSymbol), (0x2128, 0x2128, .letter), (0x2129, 0x2129, .otherSymbol),
    (0x212A, 0x212D, .letter), (0x212E, 0x212E, .otherSymbol), (0x212F, 0x2139, .letter),
    (0x213A, 0x213B, .otherSymbol), (0x213C, 0x213F, .letter), (0x2145, 0x2149, .letter),
    (0x214A, 0x214A, .otherSymbol), (0x214C, 0x214D, .otherSymbol), (0x214E, 0x214E, .letter),
    (0x214F, 0x214F, .otherSymbol), (0x2150, 0x215F, .otherNumber), (0x2160, 0x2182, .letterNumber),
    (0x2183, 0x2184, .letter), (0x2185, 0x2188, .letterNumber), (0x2189, 0x2189, .otherNumber),
    (0x218A, 0x218B, .otherSymbol), (0x2195, 0x2199, .otherSymbol), (0x219C, 0x219F, .otherSymbol),
    (0x21A1, 0x21A2, .otherSymbol), (0x21A4, 0x21A5, .otherSymbol), (0x21A7, 0x21AD, .otherSymbol),
    (0x21AF, 0x21CD, .otherSymbol), (0x21D0, 0x21D1, .otherSymbol), (0x21D3, 0x21D3, .otherSymbol),
    (0x21D5, 0x21F3, .otherSymbol), (0x2300, 0x2307, .otherSymbol), (0x230C, 0x231F, .otherSymbol),
    (0x2322, 0x2328, .otherSymbol), (0x232B, 0x237B, .otherSymbol), (0x237D, 0x239A, .otherSymbol),
    (0x23B4, 0x23DB, .otherSymbol), (0x23E2, 0x2429, .otherSymbol), (0x2440, 0x244A, .otherSymbol),
    (0x2460, 0x249B, .otherNumber), (0x249C, 0x24E9, .otherSymbol), (0x24EA, 0x24FF, .otherNumber),
    (0x2500, 0x25B6, .otherSymbol), (0x25B8, 0x25C0, .otherSymbol), (0x25C2, 0x25F7, .otherSymbol),
    (0x2600, 0x266E, .otherSymbol), (0x2670, 0x2767, .otherSymbol), (0x2776, 0x2793, .otherNumber),
    (0x2794, 0x27BF, .otherSymbol), (0x2800, 0x28FF, .otherSymbol), (0x2B00, 0x2B2F, .otherSymbol),
    (0x2B45, 0x2B46, .otherSymbol), (0x2B4D, 0x2B73, .otherSymbol), (0x2B76, 0x2BFF, .otherSymbol),
    (0x2C00, 0x2CE4, .letter), (0x2CE5, 0x2CEA, .otherSymbol), (0x2CEB, 0x2CEE, .letter),
    (0x2CEF, 0x2CF1, .mark), (0x2CF2, 0x2CF3, .letter), (0x2CFD, 0x2CFD, .otherNumber),
    (0x2D00, 0x2D25, .letter), (0x2D27, 0x2D27, .letter), (0x2D2D, 0x2D2D, .letter),
    (0x2D30, 0x2D67, .letter), (0x2D6F, 0x2D6F, .letter), (0x2D7F, 0x2D7F, .mark),
    (0x2D80, 0x2D96, .letter), (0x2DA0, 0x2DA6, .letter), (0x2DA8, 0x2DAE, .letter),
    (0x2DB0, 0x2DB6, .letter), (0x2DB8, 0x2DBE, .letter), (0x2DC0, 0x2DC6, .letter),
    (0x2DC8, 0x2DCE, .letter), (0x2DD0, 0x2DD6, .letter), (0x2DD8, 0x2DDE, .letter),
    (0x2DE0, 0x2DFF, .mark), (0x2E2F, 0x2E2F, .letter), (0x2E50, 0x2E51, .otherSymbol),
    (0x2E80, 0x2E99, .otherSymbol), (0x2E9B, 0x2EF3, .otherSymbol), (0x2F00, 0x2FD5, .otherSymbol),
    (0x2FF0, 0x2FFF, .otherSymbol), (0x3004, 0x3004, .otherSymbol), (0x3005, 0x3006, .letter),
    (0x3007, 0x3007, .letterNumber), (0x3012, 0x3013, .otherSymbol), (0x3020, 0x3020, .otherSymbol),
    (0x3021, 0x3029, .letterNumber), (0x302A, 0x302F, .mark), (0x3031, 0x3035, .letter),
    (0x3036, 0x3037, .otherSymbol), (0x3038, 0x303A, .letterNumber), (0x303B, 0x303C, .letter),
    (0x303E, 0x303F, .otherSymbol), (0x3041, 0x3096, .letter), (0x3099, 0x309A, .mark),
    (0x309D, 0x309F, .letter), (0x30A1, 0x30FA, .letter), (0x30FC, 0x30FF, .letter),
    (0x3105, 0x312F, .letter), (0x3131, 0x318E, .letter), (0x3190, 0x3191, .otherSymbol),
    (0x3192, 0x3195, .otherNumber), (0x3196, 0x319F, .otherSymbol), (0x31A0, 0x31BF, .letter),
    (0x31C0, 0x31E5, .otherSymbol), (0x31EF, 0x31EF, .otherSymbol), (0x31F0, 0x31FF, .letter),
    (0x3200, 0x321E, .otherSymbol), (0x3220, 0x3229, .otherNumber), (0x322A, 0x3247, .otherSymbol),
    (0x3248, 0x324F, .otherNumber), (0x3250, 0x3250, .otherSymbol), (0x3251, 0x325F, .otherNumber),
    (0x3260, 0x327F, .otherSymbol), (0x3280, 0x3289, .otherNumber), (0x328A, 0x32B0, .otherSymbol),
    (0x32B1, 0x32BF, .otherNumber), (0x32C0, 0x33FF, .otherSymbol), (0x3400, 0x4DBF, .letter),
    (0x4DC0, 0x4DFF, .otherSymbol), (0x4E00, 0xA48C, .letter), (0xA490, 0xA4C6, .otherSymbol),
    (0xA4D0, 0xA4FD, .letter), (0xA500, 0xA60C, .letter), (0xA610, 0xA61F, .letter),
    (0xA620, 0xA629, .decimalDigit), (0xA62A, 0xA62B, .letter), (0xA640, 0xA66E, .letter),
    (0xA66F, 0xA66F, .mark), (0xA674, 0xA67D, .mark), (0xA67F, 0xA69D, .letter),
    (0xA69E, 0xA69F, .mark), (0xA6A0, 0xA6E5, .letter), (0xA6E6, 0xA6EF, .letterNumber),
    (0xA6F0, 0xA6F1, .mark), (0xA717, 0xA71F, .letter), (0xA722, 0xA788, .letter),
    (0xA78B, 0xA7DC, .letter), (0xA7F1, 0xA801, .letter), (0xA802, 0xA802, .mark),
    (0xA803, 0xA805, .letter), (0xA806, 0xA806, .mark), (0xA807, 0xA80A, .letter),
    (0xA80B, 0xA80B, .mark), (0xA80C, 0xA822, .letter), (0xA823, 0xA827, .mark),
    (0xA828, 0xA82B, .otherSymbol), (0xA82C, 0xA82C, .mark), (0xA830, 0xA835, .otherNumber),
    (0xA836, 0xA837, .otherSymbol), (0xA839, 0xA839, .otherSymbol), (0xA840, 0xA873, .letter),
    (0xA880, 0xA881, .mark), (0xA882, 0xA8B3, .letter), (0xA8B4, 0xA8C5, .mark),
    (0xA8D0, 0xA8D9, .decimalDigit), (0xA8E0, 0xA8F1, .mark), (0xA8F2, 0xA8F7, .letter),
    (0xA8FB, 0xA8FB, .letter), (0xA8FD, 0xA8FE, .letter), (0xA8FF, 0xA8FF, .mark),
    (0xA900, 0xA909, .decimalDigit), (0xA90A, 0xA925, .letter), (0xA926, 0xA92D, .mark),
    (0xA930, 0xA946, .letter), (0xA947, 0xA953, .mark), (0xA960, 0xA97C, .letter),
    (0xA980, 0xA983, .mark), (0xA984, 0xA9B2, .letter), (0xA9B3, 0xA9C0, .mark),
    (0xA9CF, 0xA9CF, .letter), (0xA9D0, 0xA9D9, .decimalDigit), (0xA9E0, 0xA9E4, .letter),
    (0xA9E5, 0xA9E5, .mark), (0xA9E6, 0xA9EF, .letter), (0xA9F0, 0xA9F9, .decimalDigit),
    (0xA9FA, 0xA9FE, .letter), (0xAA00, 0xAA28, .letter), (0xAA29, 0xAA36, .mark),
    (0xAA40, 0xAA42, .letter), (0xAA43, 0xAA43, .mark), (0xAA44, 0xAA4B, .letter),
    (0xAA4C, 0xAA4D, .mark), (0xAA50, 0xAA59, .decimalDigit), (0xAA60, 0xAA76, .letter),
    (0xAA77, 0xAA79, .otherSymbol), (0xAA7A, 0xAA7A, .letter), (0xAA7B, 0xAA7D, .mark),
    (0xAA7E, 0xAAAF, .letter), (0xAAB0, 0xAAB0, .mark), (0xAAB1, 0xAAB1, .letter),
    (0xAAB2, 0xAAB4, .mark), (0xAAB5, 0xAAB6, .letter), (0xAAB7, 0xAAB8, .mark),
    (0xAAB9, 0xAABD, .letter), (0xAABE, 0xAABF, .mark), (0xAAC0, 0xAAC0, .letter),
    (0xAAC1, 0xAAC1, .mark), (0xAAC2, 0xAAC2, .letter), (0xAADB, 0xAADD, .letter),
    (0xAAE0, 0xAAEA, .letter), (0xAAEB, 0xAAEF, .mark), (0xAAF2, 0xAAF4, .letter),
    (0xAAF5, 0xAAF6, .mark), (0xAB01, 0xAB06, .letter), (0xAB09, 0xAB0E, .letter),
    (0xAB11, 0xAB16, .letter), (0xAB20, 0xAB26, .letter), (0xAB28, 0xAB2E, .letter),
    (0xAB30, 0xAB5A, .letter), (0xAB5C, 0xAB69, .letter), (0xAB70, 0xABE2, .letter),
    (0xABE3, 0xABEA, .mark), (0xABEC, 0xABED, .mark), (0xABF0, 0xABF9, .decimalDigit),
    (0xAC00, 0xD7A3, .letter), (0xD7B0, 0xD7C6, .letter), (0xD7CB, 0xD7FB, .letter),
    (0xF900, 0xFA6D, .letter), (0xFA70, 0xFAD9, .letter), (0xFB00, 0xFB06, .letter),
    (0xFB13, 0xFB17, .letter), (0xFB1D, 0xFB1D, .letter), (0xFB1E, 0xFB1E, .mark),
    (0xFB1F, 0xFB28, .letter), (0xFB2A, 0xFB36, .letter), (0xFB38, 0xFB3C, .letter),
    (0xFB3E, 0xFB3E, .letter), (0xFB40, 0xFB41, .letter), (0xFB43, 0xFB44, .letter),
    (0xFB46, 0xFBB1, .letter), (0xFBC3, 0xFBD2, .otherSymbol), (0xFBD3, 0xFD3D, .letter),
    (0xFD40, 0xFD4F, .otherSymbol), (0xFD50, 0xFD8F, .letter), (0xFD90, 0xFD91, .otherSymbol),
    (0xFD92, 0xFDC7, .letter), (0xFDC8, 0xFDCF, .otherSymbol), (0xFDF0, 0xFDFB, .letter),
    (0xFDFD, 0xFDFF, .otherSymbol), (0xFE00, 0xFE0F, .mark), (0xFE20, 0xFE2F, .mark),
    (0xFE33, 0xFE34, .connector), (0xFE4D, 0xFE4F, .connector), (0xFE70, 0xFE74, .letter),
    (0xFE76, 0xFEFC, .letter), (0xFF10, 0xFF19, .decimalDigit), (0xFF21, 0xFF3A, .letter),
    (0xFF3F, 0xFF3F, .connector), (0xFF41, 0xFF5A, .letter), (0xFF66, 0xFFBE, .letter),
    (0xFFC2, 0xFFC7, .letter), (0xFFCA, 0xFFCF, .letter), (0xFFD2, 0xFFD7, .letter),
    (0xFFDA, 0xFFDC, .letter), (0xFFE4, 0xFFE4, .otherSymbol), (0xFFE8, 0xFFE8, .otherSymbol),
    (0xFFED, 0xFFEE, .otherSymbol), (0xFFFC, 0xFFFD, .otherSymbol)]

def higherPlanes : List (Nat × Nat × Category) := [
    (0x10000, 0x1000B, .letter), (0x1000D, 0x10026, .letter), (0x10028, 0x1003A, .letter),
    (0x1003C, 0x1003D, .letter), (0x1003F, 0x1004D, .letter), (0x10050, 0x1005D, .letter),
    (0x10080, 0x100FA, .letter), (0x10107, 0x10133, .otherNumber), (0x10137, 0x1013F, .otherSymbol),
    (0x10140, 0x10174, .letterNumber), (0x10175, 0x10178, .otherNumber),
    (0x10179, 0x10189, .otherSymbol), (0x1018A, 0x1018B, .otherNumber),
    (0x1018C, 0x1018E, .otherSymbol), (0x10190, 0x1019C, .otherSymbol),
    (0x101A0, 0x101A0, .otherSymbol), (0x101D0, 0x101FC, .otherSymbol), (0x101FD, 0x101FD, .mark),
    (0x10280, 0x1029C, .letter), (0x102A0, 0x102D0, .letter), (0x102E0, 0x102E0, .mark),
    (0x102E1, 0x102FB, .otherNumber), (0x10300, 0x1031F, .letter), (0x10320, 0x10323, .otherNumber),
    (0x1032D, 0x10340, .letter), (0x10341, 0x10341, .letterNumber), (0x10342, 0x10349, .letter),
    (0x1034A, 0x1034A, .letterNumber), (0x10350, 0x10375, .letter), (0x10376, 0x1037A, .mark),
    (0x10380, 0x1039D, .letter), (0x103A0, 0x103C3, .letter), (0x103C8, 0x103CF, .letter),
    (0x103D1, 0x103D5, .letterNumber), (0x10400, 0x1049D, .letter),
    (0x104A0, 0x104A9, .decimalDigit), (0x104B0, 0x104D3, .letter), (0x104D8, 0x104FB, .letter),
    (0x10500, 0x10527, .letter), (0x10530, 0x10563, .letter), (0x10570, 0x1057A, .letter),
    (0x1057C, 0x1058A, .letter), (0x1058C, 0x10592, .letter), (0x10594, 0x10595, .letter),
    (0x10597, 0x105A1, .letter), (0x105A3, 0x105B1, .letter), (0x105B3, 0x105B9, .letter),
    (0x105BB, 0x105BC, .letter), (0x105C0, 0x105F3, .letter), (0x10600, 0x10736, .letter),
    (0x10740, 0x10755, .letter), (0x10760, 0x10767, .letter), (0x10780, 0x10785, .letter),
    (0x10787, 0x107B0, .letter), (0x107B2, 0x107BA, .letter), (0x10800, 0x10805, .letter),
    (0x10808, 0x10808, .letter), (0x1080A, 0x10835, .letter), (0x10837, 0x10838, .letter),
    (0x1083C, 0x1083C, .letter), (0x1083F, 0x10855, .letter), (0x10858, 0x1085F, .otherNumber),
    (0x10860, 0x10876, .letter), (0x10877, 0x10878, .otherSymbol), (0x10879, 0x1087F, .otherNumber),
    (0x10880, 0x1089E, .letter), (0x108A7, 0x108AF, .otherNumber), (0x108E0, 0x108F2, .letter),
    (0x108F4, 0x108F5, .letter), (0x108FB, 0x108FF, .otherNumber), (0x10900, 0x10915, .letter),
    (0x10916, 0x1091B, .otherNumber), (0x10920, 0x10939, .letter), (0x10940, 0x10959, .letter),
    (0x10980, 0x109B7, .letter), (0x109BC, 0x109BD, .otherNumber), (0x109BE, 0x109BF, .letter),
    (0x109C0, 0x109CF, .otherNumber), (0x109D2, 0x109FF, .otherNumber), (0x10A00, 0x10A00, .letter),
    (0x10A01, 0x10A03, .mark), (0x10A05, 0x10A06, .mark), (0x10A0C, 0x10A0F, .mark),
    (0x10A10, 0x10A13, .letter), (0x10A15, 0x10A17, .letter), (0x10A19, 0x10A35, .letter),
    (0x10A38, 0x10A3A, .mark), (0x10A3F, 0x10A3F, .mark), (0x10A40, 0x10A48, .otherNumber),
    (0x10A60, 0x10A7C, .letter), (0x10A7D, 0x10A7E, .otherNumber), (0x10A80, 0x10A9C, .letter),
    (0x10A9D, 0x10A9F, .otherNumber), (0x10AC0, 0x10AC7, .letter), (0x10AC8, 0x10AC8, .otherSymbol),
    (0x10AC9, 0x10AE4, .letter), (0x10AE5, 0x10AE6, .mark), (0x10AEB, 0x10AEF, .otherNumber),
    (0x10B00, 0x10B35, .letter), (0x10B40, 0x10B55, .letter), (0x10B58, 0x10B5F, .otherNumber),
    (0x10B60, 0x10B72, .letter), (0x10B78, 0x10B7F, .otherNumber), (0x10B80, 0x10B91, .letter),
    (0x10BA9, 0x10BAF, .otherNumber), (0x10C00, 0x10C48, .letter), (0x10C80, 0x10CB2, .letter),
    (0x10CC0, 0x10CF2, .letter), (0x10CFA, 0x10CFF, .otherNumber), (0x10D00, 0x10D23, .letter),
    (0x10D24, 0x10D27, .mark), (0x10D30, 0x10D39, .decimalDigit), (0x10D40, 0x10D49, .decimalDigit),
    (0x10D4A, 0x10D65, .letter), (0x10D69, 0x10D6D, .mark), (0x10D6F, 0x10D85, .letter),
    (0x10E60, 0x10E7E, .otherNumber), (0x10E80, 0x10EA9, .letter), (0x10EAB, 0x10EAC, .mark),
    (0x10EB0, 0x10EB1, .letter), (0x10EC2, 0x10EC7, .letter), (0x10ED1, 0x10ED8, .otherSymbol),
    (0x10EFA, 0x10EFF, .mark), (0x10F00, 0x10F1C, .letter), (0x10F1D, 0x10F26, .otherNumber),
    (0x10F27, 0x10F27, .letter), (0x10F30, 0x10F45, .letter), (0x10F46, 0x10F50, .mark),
    (0x10F51, 0x10F54, .otherNumber), (0x10F70, 0x10F81, .letter), (0x10F82, 0x10F85, .mark),
    (0x10FB0, 0x10FC4, .letter), (0x10FC5, 0x10FCB, .otherNumber), (0x10FE0, 0x10FF6, .letter),
    (0x11000, 0x11002, .mark), (0x11003, 0x11037, .letter), (0x11038, 0x11046, .mark),
    (0x11052, 0x11065, .otherNumber), (0x11066, 0x1106F, .decimalDigit), (0x11070, 0x11070, .mark),
    (0x11071, 0x11072, .letter), (0x11073, 0x11074, .mark), (0x11075, 0x11075, .letter),
    (0x1107F, 0x11082, .mark), (0x11083, 0x110AF, .letter), (0x110B0, 0x110BA, .mark),
    (0x110C2, 0x110C2, .mark), (0x110D0, 0x110E8, .letter), (0x110F0, 0x110F9, .decimalDigit),
    (0x11100, 0x11102, .mark), (0x11103, 0x11126, .letter), (0x11127, 0x11134, .mark),
    (0x11136, 0x1113F, .decimalDigit), (0x11144, 0x11144, .letter), (0x11145, 0x11146, .mark),
    (0x11147, 0x11147, .letter), (0x11150, 0x11172, .letter), (0x11173, 0x11173, .mark),
    (0x11176, 0x11176, .letter), (0x11180, 0x11182, .mark), (0x11183, 0x111B2, .letter),
    (0x111B3, 0x111C0, .mark), (0x111C1, 0x111C4, .letter), (0x111C9, 0x111CC, .mark),
    (0x111CE, 0x111CF, .mark), (0x111D0, 0x111D9, .decimalDigit), (0x111DA, 0x111DA, .letter),
    (0x111DC, 0x111DC, .letter), (0x111E1, 0x111F4, .otherNumber), (0x11200, 0x11211, .letter),
    (0x11213, 0x1122B, .letter), (0x1122C, 0x11237, .mark), (0x1123E, 0x1123E, .mark),
    (0x1123F, 0x11240, .letter), (0x11241, 0x11241, .mark), (0x11280, 0x11286, .letter),
    (0x11288, 0x11288, .letter), (0x1128A, 0x1128D, .letter), (0x1128F, 0x1129D, .letter),
    (0x1129F, 0x112A8, .letter), (0x112B0, 0x112DE, .letter), (0x112DF, 0x112EA, .mark),
    (0x112F0, 0x112F9, .decimalDigit), (0x11300, 0x11303, .mark), (0x11305, 0x1130C, .letter),
    (0x1130F, 0x11310, .letter), (0x11313, 0x11328, .letter), (0x1132A, 0x11330, .letter),
    (0x11332, 0x11333, .letter), (0x11335, 0x11339, .letter), (0x1133B, 0x1133C, .mark),
    (0x1133D, 0x1133D, .letter), (0x1133E, 0x11344, .mark), (0x11347, 0x11348, .mark),
    (0x1134B, 0x1134D, .mark), (0x11350, 0x11350, .letter), (0x11357, 0x11357, .mark),
    (0x1135D, 0x11361, .letter), (0x11362, 0x11363, .mark), (0x11366, 0x1136C, .mark),
    (0x11370, 0x11374, .mark), (0x11380, 0x11389, .letter), (0x1138B, 0x1138B, .letter),
    (0x1138E, 0x1138E, .letter), (0x11390, 0x113B5, .letter), (0x113B7, 0x113B7, .letter),
    (0x113B8, 0x113C0, .mark), (0x113C2, 0x113C2, .mark), (0x113C5, 0x113C5, .mark),
    (0x113C7, 0x113CA, .mark), (0x113CC, 0x113D0, .mark), (0x113D1, 0x113D1, .letter),
    (0x113D2, 0x113D2, .mark), (0x113D3, 0x113D3, .letter), (0x113E1, 0x113E2, .mark),
    (0x11400, 0x11434, .letter), (0x11435, 0x11446, .mark), (0x11447, 0x1144A, .letter),
    (0x11450, 0x11459, .decimalDigit), (0x1145E, 0x1145E, .mark), (0x1145F, 0x11461, .letter),
    (0x11480, 0x114AF, .letter), (0x114B0, 0x114C3, .mark), (0x114C4, 0x114C5, .letter),
    (0x114C7, 0x114C7, .letter), (0x114D0, 0x114D9, .decimalDigit), (0x11580, 0x115AE, .letter),
    (0x115AF, 0x115B5, .mark), (0x115B8, 0x115C0, .mark), (0x115D8, 0x115DB, .letter),
    (0x115DC, 0x115DD, .mark), (0x11600, 0x1162F, .letter), (0x11630, 0x11640, .mark),
    (0x11644, 0x11644, .letter), (0x11650, 0x11659, .decimalDigit), (0x11680, 0x116AA, .letter),
    (0x116AB, 0x116B7, .mark), (0x116B8, 0x116B8, .letter), (0x116C0, 0x116C9, .decimalDigit),
    (0x116D0, 0x116E3, .decimalDigit), (0x11700, 0x1171A, .letter), (0x1171D, 0x1172B, .mark),
    (0x11730, 0x11739, .decimalDigit), (0x1173A, 0x1173B, .otherNumber),
    (0x1173F, 0x1173F, .otherSymbol), (0x11740, 0x11746, .letter), (0x11800, 0x1182B, .letter),
    (0x1182C, 0x1183A, .mark), (0x118A0, 0x118DF, .letter), (0x118E0, 0x118E9, .decimalDigit),
    (0x118EA, 0x118F2, .otherNumber), (0x118FF, 0x11906, .letter), (0x11909, 0x11909, .letter),
    (0x1190C, 0x11913, .letter), (0x11915, 0x11916, .letter), (0x11918, 0x1192F, .letter),
    (0x11930, 0x11935, .mark), (0x11937, 0x11938, .mark), (0x1193B, 0x1193E, .mark),
    (0x1193F, 0x1193F, .letter), (0x11940, 0x11940, .mark), (0x11941, 0x11941, .letter),
    (0x11942, 0x11943, .mark), (0x11950, 0x11959, .decimalDigit), (0x119A0, 0x119A7, .letter),
    (0x119AA, 0x119D0, .letter), (0x119D1, 0x119D7, .mark), (0x119DA, 0x119E0, .mark),
    (0x119E1, 0x119E1, .letter), (0x119E3, 0x119E3, .letter), (0x119E4, 0x119E4, .mark),
    (0x11A00, 0x11A00, .letter), (0x11A01, 0x11A0A, .mark), (0x11A0B, 0x11A32, .letter),
    (0x11A33, 0x11A39, .mark), (0x11A3A, 0x11A3A, .letter), (0x11A3B, 0x11A3E, .mark),
    (0x11A47, 0x11A47, .mark), (0x11A50, 0x11A50, .letter), (0x11A51, 0x11A5B, .mark),
    (0x11A5C, 0x11A89, .letter), (0x11A8A, 0x11A99, .mark), (0x11A9D, 0x11A9D, .letter),
    (0x11AB0, 0x11AF8, .letter), (0x11B60, 0x11B67, .mark), (0x11BC0, 0x11BE0, .letter),
    (0x11BF0, 0x11BF9, .decimalDigit), (0x11C00, 0x11C08, .letter), (0x11C0A, 0x11C2E, .letter),
    (0x11C2F, 0x11C36, .mark), (0x11C38, 0x11C3F, .mark), (0x11C40, 0x11C40, .letter),
    (0x11C50, 0x11C59, .decimalDigit), (0x11C5A, 0x11C6C, .otherNumber),
    (0x11C72, 0x11C8F, .letter), (0x11C92, 0x11CA7, .mark), (0x11CA9, 0x11CB6, .mark),
    (0x11D00, 0x11D06, .letter), (0x11D08, 0x11D09, .letter), (0x11D0B, 0x11D30, .letter),
    (0x11D31, 0x11D36, .mark), (0x11D3A, 0x11D3A, .mark), (0x11D3C, 0x11D3D, .mark),
    (0x11D3F, 0x11D45, .mark), (0x11D46, 0x11D46, .letter), (0x11D47, 0x11D47, .mark),
    (0x11D50, 0x11D59, .decimalDigit), (0x11D60, 0x11D65, .letter), (0x11D67, 0x11D68, .letter),
    (0x11D6A, 0x11D89, .letter), (0x11D8A, 0x11D8E, .mark), (0x11D90, 0x11D91, .mark),
    (0x11D93, 0x11D97, .mark), (0x11D98, 0x11D98, .letter), (0x11DA0, 0x11DA9, .decimalDigit),
    (0x11DB0, 0x11DDB, .letter), (0x11DE0, 0x11DE9, .decimalDigit), (0x11EE0, 0x11EF2, .letter),
    (0x11EF3, 0x11EF6, .mark), (0x11F00, 0x11F01, .mark), (0x11F02, 0x11F02, .letter),
    (0x11F03, 0x11F03, .mark), (0x11F04, 0x11F10, .letter), (0x11F12, 0x11F33, .letter),
    (0x11F34, 0x11F3A, .mark), (0x11F3E, 0x11F42, .mark), (0x11F50, 0x11F59, .decimalDigit),
    (0x11F5A, 0x11F5A, .mark), (0x11FB0, 0x11FB0, .letter), (0x11FC0, 0x11FD4, .otherNumber),
    (0x11FD5, 0x11FDC, .otherSymbol), (0x11FE1, 0x11FF1, .otherSymbol), (0x12000, 0x12399, .letter),
    (0x12400, 0x1246E, .letterNumber), (0x12480, 0x12543, .letter), (0x12F90, 0x12FF0, .letter),
    (0x13000, 0x1342F, .letter), (0x13440, 0x13440, .mark), (0x13441, 0x13446, .letter),
    (0x13447, 0x13455, .mark), (0x13460, 0x143FA, .letter), (0x14400, 0x14646, .letter),
    (0x16100, 0x1611D, .letter), (0x1611E, 0x1612F, .mark), (0x16130, 0x16139, .decimalDigit),
    (0x16800, 0x16A38, .letter), (0x16A40, 0x16A5E, .letter), (0x16A60, 0x16A69, .decimalDigit),
    (0x16A70, 0x16ABE, .letter), (0x16AC0, 0x16AC9, .decimalDigit), (0x16AD0, 0x16AED, .letter),
    (0x16AF0, 0x16AF4, .mark), (0x16B00, 0x16B2F, .letter), (0x16B30, 0x16B36, .mark),
    (0x16B3C, 0x16B3F, .otherSymbol), (0x16B40, 0x16B43, .letter), (0x16B45, 0x16B45, .otherSymbol),
    (0x16B50, 0x16B59, .decimalDigit), (0x16B5B, 0x16B61, .otherNumber),
    (0x16B63, 0x16B77, .letter), (0x16B7D, 0x16B8F, .letter), (0x16D40, 0x16D6C, .letter),
    (0x16D70, 0x16D79, .decimalDigit), (0x16E40, 0x16E7F, .letter),
    (0x16E80, 0x16E96, .otherNumber), (0x16EA0, 0x16EB8, .letter), (0x16EBB, 0x16ED3, .letter),
    (0x16F00, 0x16F4A, .letter), (0x16F4F, 0x16F4F, .mark), (0x16F50, 0x16F50, .letter),
    (0x16F51, 0x16F87, .mark), (0x16F8F, 0x16F92, .mark), (0x16F93, 0x16F9F, .letter),
    (0x16FE0, 0x16FE1, .letter), (0x16FE3, 0x16FE3, .letter), (0x16FE4, 0x16FE4, .mark),
    (0x16FF0, 0x16FF1, .mark), (0x16FF2, 0x16FF3, .letter), (0x16FF4, 0x16FF6, .letterNumber),
    (0x17000, 0x18CD5, .letter), (0x18CFF, 0x18D1E, .letter), (0x18D80, 0x18DF2, .letter),
    (0x1AFF0, 0x1AFF3, .letter), (0x1AFF5, 0x1AFFB, .letter), (0x1AFFD, 0x1AFFE, .letter),
    (0x1B000, 0x1B122, .letter), (0x1B132, 0x1B132, .letter), (0x1B150, 0x1B152, .letter),
    (0x1B155, 0x1B155, .letter), (0x1B164, 0x1B167, .letter), (0x1B170, 0x1B2FB, .letter),
    (0x1BC00, 0x1BC6A, .letter), (0x1BC70, 0x1BC7C, .letter), (0x1BC80, 0x1BC88, .letter),
    (0x1BC90, 0x1BC99, .letter), (0x1BC9C, 0x1BC9C, .otherSymbol), (0x1BC9D, 0x1BC9E, .mark),
    (0x1CC00, 0x1CCEF, .otherSymbol), (0x1CCF0, 0x1CCF9, .decimalDigit),
    (0x1CCFA, 0x1CCFC, .otherSymbol), (0x1CD00, 0x1CEB3, .otherSymbol),
    (0x1CEBA, 0x1CED0, .otherSymbol), (0x1CEE0, 0x1CEEF, .otherSymbol), (0x1CF00, 0x1CF2D, .mark),
    (0x1CF30, 0x1CF46, .mark), (0x1CF50, 0x1CFC3, .otherSymbol), (0x1D000, 0x1D0F5, .otherSymbol),
    (0x1D100, 0x1D126, .otherSymbol), (0x1D129, 0x1D164, .otherSymbol), (0x1D165, 0x1D169, .mark),
    (0x1D16A, 0x1D16C, .otherSymbol), (0x1D16D, 0x1D172, .mark), (0x1D17B, 0x1D182, .mark),
    (0x1D183, 0x1D184, .otherSymbol), (0x1D185, 0x1D18B, .mark), (0x1D18C, 0x1D1A9, .otherSymbol),
    (0x1D1AA, 0x1D1AD, .mark), (0x1D1AE, 0x1D1EA, .otherSymbol), (0x1D200, 0x1D241, .otherSymbol),
    (0x1D242, 0x1D244, .mark), (0x1D245, 0x1D245, .otherSymbol), (0x1D2C0, 0x1D2D3, .otherNumber),
    (0x1D2E0, 0x1D2F3, .otherNumber), (0x1D300, 0x1D356, .otherSymbol),
    (0x1D360, 0x1D378, .otherNumber), (0x1D400, 0x1D454, .letter), (0x1D456, 0x1D49C, .letter),
    (0x1D49E, 0x1D49F, .letter), (0x1D4A2, 0x1D4A2, .letter), (0x1D4A5, 0x1D4A6, .letter),
    (0x1D4A9, 0x1D4AC, .letter), (0x1D4AE, 0x1D4B9, .letter), (0x1D4BB, 0x1D4BB, .letter),
    (0x1D4BD, 0x1D4C3, .letter), (0x1D4C5, 0x1D505, .letter), (0x1D507, 0x1D50A, .letter),
    (0x1D50D, 0x1D514, .letter), (0x1D516, 0x1D51C, .letter), (0x1D51E, 0x1D539, .letter),
    (0x1D53B, 0x1D53E, .letter), (0x1D540, 0x1D544, .letter), (0x1D546, 0x1D546, .letter),
    (0x1D54A, 0x1D550, .letter), (0x1D552, 0x1D6A5, .letter), (0x1D6A8, 0x1D6C0, .letter),
    (0x1D6C2, 0x1D6DA, .letter), (0x1D6DC, 0x1D6FA, .letter), (0x1D6FC, 0x1D714, .letter),
    (0x1D716, 0x1D734, .letter), (0x1D736, 0x1D74E, .letter), (0x1D750, 0x1D76E, .letter),
    (0x1D770, 0x1D788, .letter), (0x1D78A, 0x1D7A8, .letter), (0x1D7AA, 0x1D7C2, .letter),
    (0x1D7C4, 0x1D7CB, .letter), (0x1D7CE, 0x1D7FF, .decimalDigit),
    (0x1D800, 0x1D9FF, .otherSymbol), (0x1DA00, 0x1DA36, .mark), (0x1DA37, 0x1DA3A, .otherSymbol),
    (0x1DA3B, 0x1DA6C, .mark), (0x1DA6D, 0x1DA74, .otherSymbol), (0x1DA75, 0x1DA75, .mark),
    (0x1DA76, 0x1DA83, .otherSymbol), (0x1DA84, 0x1DA84, .mark), (0x1DA85, 0x1DA86, .otherSymbol),
    (0x1DA9B, 0x1DA9F, .mark), (0x1DAA1, 0x1DAAF, .mark), (0x1DF00, 0x1DF1E, .letter),
    (0x1DF25, 0x1DF2A, .letter), (0x1E000, 0x1E006, .mark), (0x1E008, 0x1E018, .mark),
    (0x1E01B, 0x1E021, .mark), (0x1E023, 0x1E024, .mark), (0x1E026, 0x1E02A, .mark),
    (0x1E030, 0x1E06D, .letter), (0x1E08F, 0x1E08F, .mark), (0x1E100, 0x1E12C, .letter),
    (0x1E130, 0x1E136, .mark), (0x1E137, 0x1E13D, .letter), (0x1E140, 0x1E149, .decimalDigit),
    (0x1E14E, 0x1E14E, .letter), (0x1E14F, 0x1E14F, .otherSymbol), (0x1E290, 0x1E2AD, .letter),
    (0x1E2AE, 0x1E2AE, .mark), (0x1E2C0, 0x1E2EB, .letter), (0x1E2EC, 0x1E2EF, .mark),
    (0x1E2F0, 0x1E2F9, .decimalDigit), (0x1E4D0, 0x1E4EB, .letter), (0x1E4EC, 0x1E4EF, .mark),
    (0x1E4F0, 0x1E4F9, .decimalDigit), (0x1E5D0, 0x1E5ED, .letter), (0x1E5EE, 0x1E5EF, .mark),
    (0x1E5F0, 0x1E5F0, .letter), (0x1E5F1, 0x1E5FA, .decimalDigit), (0x1E6C0, 0x1E6DE, .letter),
    (0x1E6E0, 0x1E6E2, .letter), (0x1E6E3, 0x1E6E3, .mark), (0x1E6E4, 0x1E6E5, .letter),
    (0x1E6E6, 0x1E6E6, .mark), (0x1E6E7, 0x1E6ED, .letter), (0x1E6EE, 0x1E6EF, .mark),
    (0x1E6F0, 0x1E6F4, .letter), (0x1E6F5, 0x1E6F5, .mark), (0x1E6FE, 0x1E6FF, .letter),
    (0x1E7E0, 0x1E7E6, .letter), (0x1E7E8, 0x1E7EB, .letter), (0x1E7ED, 0x1E7EE, .letter),
    (0x1E7F0, 0x1E7FE, .letter), (0x1E800, 0x1E8C4, .letter), (0x1E8C7, 0x1E8CF, .otherNumber),
    (0x1E8D0, 0x1E8D6, .mark), (0x1E900, 0x1E943, .letter), (0x1E944, 0x1E94A, .mark),
    (0x1E94B, 0x1E94B, .letter), (0x1E950, 0x1E959, .decimalDigit),
    (0x1EC71, 0x1ECAB, .otherNumber), (0x1ECAC, 0x1ECAC, .otherSymbol),
    (0x1ECAD, 0x1ECAF, .otherNumber), (0x1ECB1, 0x1ECB4, .otherNumber),
    (0x1ED01, 0x1ED2D, .otherNumber), (0x1ED2E, 0x1ED2E, .otherSymbol),
    (0x1ED2F, 0x1ED3D, .otherNumber), (0x1EE00, 0x1EE03, .letter), (0x1EE05, 0x1EE1F, .letter),
    (0x1EE21, 0x1EE22, .letter), (0x1EE24, 0x1EE24, .letter), (0x1EE27, 0x1EE27, .letter),
    (0x1EE29, 0x1EE32, .letter), (0x1EE34, 0x1EE37, .letter), (0x1EE39, 0x1EE39, .letter),
    (0x1EE3B, 0x1EE3B, .letter), (0x1EE42, 0x1EE42, .letter), (0x1EE47, 0x1EE47, .letter),
    (0x1EE49, 0x1EE49, .letter), (0x1EE4B, 0x1EE4B, .letter), (0x1EE4D, 0x1EE4F, .letter),
    (0x1EE51, 0x1EE52, .letter), (0x1EE54, 0x1EE54, .letter), (0x1EE57, 0x1EE57, .letter),
    (0x1EE59, 0x1EE59, .letter), (0x1EE5B, 0x1EE5B, .letter), (0x1EE5D, 0x1EE5D, .letter),
    (0x1EE5F, 0x1EE5F, .letter), (0x1EE61, 0x1EE62, .letter), (0x1EE64, 0x1EE64, .letter),
    (0x1EE67, 0x1EE6A, .letter), (0x1EE6C, 0x1EE72, .letter), (0x1EE74, 0x1EE77, .letter),
    (0x1EE79, 0x1EE7C, .letter), (0x1EE7E, 0x1EE7E, .letter), (0x1EE80, 0x1EE89, .letter),
    (0x1EE8B, 0x1EE9B, .letter), (0x1EEA1, 0x1EEA3, .letter), (0x1EEA5, 0x1EEA9, .letter),
    (0x1EEAB, 0x1EEBB, .letter), (0x1F000, 0x1F02B, .otherSymbol), (0x1F030, 0x1F093, .otherSymbol),
    (0x1F0A0, 0x1F0AE, .otherSymbol), (0x1F0B1, 0x1F0BF, .otherSymbol),
    (0x1F0C1, 0x1F0CF, .otherSymbol), (0x1F0D1, 0x1F0F5, .otherSymbol),
    (0x1F100, 0x1F10C, .otherNumber), (0x1F10D, 0x1F1AD, .otherSymbol),
    (0x1F1E6, 0x1F202, .otherSymbol), (0x1F210, 0x1F23B, .otherSymbol),
    (0x1F240, 0x1F248, .otherSymbol), (0x1F250, 0x1F251, .otherSymbol),
    (0x1F260, 0x1F265, .otherSymbol), (0x1F300, 0x1F3FA, .otherSymbol),
    (0x1F400, 0x1F6D8, .otherSymbol), (0x1F6DC, 0x1F6EC, .otherSymbol),
    (0x1F6F0, 0x1F6FC, .otherSymbol), (0x1F700, 0x1F7D9, .otherSymbol),
    (0x1F7E0, 0x1F7EB, .otherSymbol), (0x1F7F0, 0x1F7F0, .otherSymbol),
    (0x1F800, 0x1F80B, .otherSymbol), (0x1F810, 0x1F847, .otherSymbol),
    (0x1F850, 0x1F859, .otherSymbol), (0x1F860, 0x1F887, .otherSymbol),
    (0x1F890, 0x1F8AD, .otherSymbol), (0x1F8B0, 0x1F8BB, .otherSymbol),
    (0x1F8C0, 0x1F8C1, .otherSymbol), (0x1F900, 0x1FA57, .otherSymbol),
    (0x1FA60, 0x1FA6D, .otherSymbol), (0x1FA70, 0x1FA7C, .otherSymbol),
    (0x1FA80, 0x1FA8A, .otherSymbol), (0x1FA8E, 0x1FAC6, .otherSymbol),
    (0x1FAC8, 0x1FAC8, .otherSymbol), (0x1FACD, 0x1FADC, .otherSymbol),
    (0x1FADF, 0x1FAEA, .otherSymbol), (0x1FAEF, 0x1FAF8, .otherSymbol),
    (0x1FB00, 0x1FB92, .otherSymbol), (0x1FB94, 0x1FBEF, .otherSymbol),
    (0x1FBF0, 0x1FBF9, .decimalDigit), (0x1FBFA, 0x1FBFA, .otherSymbol),
    (0x20000, 0x2A6DF, .letter), (0x2A700, 0x2B81D, .letter), (0x2B820, 0x2CEAD, .letter),
    (0x2CEB0, 0x2EBE0, .letter), (0x2EBF0, 0x2EE5D, .letter), (0x2F800, 0x2FA1D, .letter),
    (0x30000, 0x3134A, .letter), (0x31350, 0x33479, .letter), (0xE0100, 0xE01EF, .mark)]

def categoryRanges : List (Nat × Nat × Category) := basicPlane ++ higherPlanes

def category? (c : Char) : Option Category :=
  (categoryRanges.find? fun r => r.1 ≤ c.toNat && c.toNat ≤ r.2.1).map (·.2.2)

end Ambient.Text
