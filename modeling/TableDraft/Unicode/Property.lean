import TableDraft.Unicode.Category
import TableDraft.Text.Blank

/-!
# Binary properties

Yes-or-no properties of characters, put together from the category tables and the characters that a
property adds to them. Where ASCII text is the common case the answer for it is spelled out, so that
it can be read off without a table: `isWord`, `isCased`, `isCaseIgnorable`.
-/

namespace TableDraft.Unicode

/-- A character below 128. -/
def isAscii (c : Char) : Bool := c.toNat < 128

/-- What Alphabetic holds beside letters and letter numbers. -/
def otherAlphabetic : RangeTable where
  ranges :=
    [(0x345, 0x345), (0x5b0, 0x5bd), (0x5bf, 0x5bf), (0x5c1, 0x5c2), (0x5c4, 0x5c5), (0x5c7, 0x5c7),
     (0x610, 0x61a), (0x64b, 0x657), (0x659, 0x65f), (0x670, 0x670), (0x6d6, 0x6dc), (0x6e1, 0x6e4),
     (0x6e7, 0x6e8), (0x6ed, 0x6ed), (0x711, 0x711), (0x730, 0x73f), (0x7a6, 0x7b0), (0x816, 0x817),
     (0x81b, 0x823), (0x825, 0x827), (0x829, 0x82c), (0x8d4, 0x8df), (0x8e3, 0x8e9), (0x8f0, 0x903),
     (0x93a, 0x93b), (0x93e, 0x94c), (0x94e, 0x94f), (0x955, 0x957), (0x962, 0x963), (0x981, 0x983),
     (0x9be, 0x9c4), (0x9c7, 0x9c8), (0x9cb, 0x9cc), (0x9d7, 0x9d7), (0x9e2, 0x9e3), (0xa01, 0xa03),
     (0xa3e, 0xa42), (0xa47, 0xa48), (0xa4b, 0xa4c), (0xa51, 0xa51), (0xa70, 0xa71), (0xa75, 0xa75),
     (0xa81, 0xa83), (0xabe, 0xac5), (0xac7, 0xac9), (0xacb, 0xacc), (0xae2, 0xae3), (0xafa, 0xafc),
     (0xb01, 0xb03), (0xb3e, 0xb44), (0xb47, 0xb48), (0xb4b, 0xb4c), (0xb56, 0xb57), (0xb62, 0xb63),
     (0xb82, 0xb82), (0xbbe, 0xbc2), (0xbc6, 0xbc8), (0xbca, 0xbcc), (0xbd7, 0xbd7), (0xc00, 0xc04),
     (0xc3e, 0xc44), (0xc46, 0xc48), (0xc4a, 0xc4c), (0xc55, 0xc56), (0xc62, 0xc63), (0xc81, 0xc83),
     (0xcbe, 0xcc4), (0xcc6, 0xcc8), (0xcca, 0xccc), (0xcd5, 0xcd6), (0xce2, 0xce3), (0xcf3, 0xcf3),
     (0xd00, 0xd03), (0xd3e, 0xd44), (0xd46, 0xd48), (0xd4a, 0xd4c), (0xd57, 0xd57), (0xd62, 0xd63),
     (0xd81, 0xd83), (0xdcf, 0xdd4), (0xdd6, 0xdd6), (0xdd8, 0xddf), (0xdf2, 0xdf3), (0xe31, 0xe31),
     (0xe34, 0xe3a), (0xe4d, 0xe4d), (0xeb1, 0xeb1), (0xeb4, 0xeb9), (0xebb, 0xebc), (0xecd, 0xecd),
     (0xf71, 0xf83), (0xf8d, 0xf97), (0xf99, 0xfbc), (0x102b, 0x1036), (0x1038, 0x1038),
     (0x103b, 0x103e), (0x1056, 0x1059), (0x105e, 0x1060), (0x1062, 0x1064), (0x1067, 0x106d),
     (0x1071, 0x1074), (0x1082, 0x108d), (0x108f, 0x108f), (0x109a, 0x109d), (0x1712, 0x1713),
     (0x1732, 0x1733), (0x1752, 0x1753), (0x1772, 0x1773), (0x17b6, 0x17c8), (0x1885, 0x1886),
     (0x18a9, 0x18a9), (0x1920, 0x192b), (0x1930, 0x1938), (0x1a17, 0x1a1b), (0x1a55, 0x1a5e),
     (0x1a61, 0x1a74), (0x1abf, 0x1ac0), (0x1acc, 0x1ace), (0x1b00, 0x1b04), (0x1b35, 0x1b43),
     (0x1b80, 0x1b82), (0x1ba1, 0x1ba9), (0x1bac, 0x1bad), (0x1be7, 0x1bf1), (0x1c24, 0x1c36),
     (0x1de7, 0x1df4), (0x24b6, 0x24e9), (0x2de0, 0x2dff), (0xa674, 0xa67b), (0xa69e, 0xa69f),
     (0xa802, 0xa802), (0xa80b, 0xa80b), (0xa823, 0xa827), (0xa880, 0xa881), (0xa8b4, 0xa8c3),
     (0xa8c5, 0xa8c5), (0xa8ff, 0xa8ff), (0xa926, 0xa92a), (0xa947, 0xa952), (0xa980, 0xa983),
     (0xa9b4, 0xa9bf), (0xa9e5, 0xa9e5), (0xaa29, 0xaa36), (0xaa43, 0xaa43), (0xaa4c, 0xaa4d),
     (0xaa7b, 0xaa7d), (0xaab0, 0xaab0), (0xaab2, 0xaab4), (0xaab7, 0xaab8), (0xaabe, 0xaabe),
     (0xaaeb, 0xaaef), (0xaaf5, 0xaaf5), (0xabe3, 0xabea), (0xfb1e, 0xfb1e), (0x10376, 0x1037a),
     (0x10a01, 0x10a03), (0x10a05, 0x10a06), (0x10a0c, 0x10a0f), (0x10d24, 0x10d27),
     (0x10eab, 0x10eac), (0x11000, 0x11002), (0x11038, 0x11045), (0x11073, 0x11074),
     (0x11080, 0x11082), (0x110b0, 0x110b8), (0x110c2, 0x110c2), (0x11100, 0x11102),
     (0x11127, 0x11132), (0x11145, 0x11146), (0x11180, 0x11182), (0x111b3, 0x111bf),
     (0x111ce, 0x111cf), (0x1122c, 0x11234), (0x11237, 0x11237), (0x1123e, 0x1123e),
     (0x11241, 0x11241), (0x112df, 0x112e8), (0x11300, 0x11303), (0x1133e, 0x11344),
     (0x11347, 0x11348), (0x1134b, 0x1134c), (0x11357, 0x11357), (0x11362, 0x11363),
     (0x11435, 0x11441), (0x11443, 0x11445), (0x114b0, 0x114c1), (0x115af, 0x115b5),
     (0x115b8, 0x115be), (0x115dc, 0x115dd), (0x11630, 0x1163e), (0x11640, 0x11640),
     (0x116ab, 0x116b5), (0x1171d, 0x1172a), (0x1182c, 0x11838), (0x11930, 0x11935),
     (0x11937, 0x11938), (0x1193b, 0x1193c), (0x11940, 0x11940), (0x11942, 0x11942),
     (0x119d1, 0x119d7), (0x119da, 0x119df), (0x119e4, 0x119e4), (0x11a01, 0x11a0a),
     (0x11a35, 0x11a39), (0x11a3b, 0x11a3e), (0x11a51, 0x11a5b), (0x11a8a, 0x11a97),
     (0x11c2f, 0x11c36), (0x11c38, 0x11c3e), (0x11c92, 0x11ca7), (0x11ca9, 0x11cb6),
     (0x11d31, 0x11d36), (0x11d3a, 0x11d3a), (0x11d3c, 0x11d3d), (0x11d3f, 0x11d41),
     (0x11d43, 0x11d43), (0x11d47, 0x11d47), (0x11d8a, 0x11d8e), (0x11d90, 0x11d91),
     (0x11d93, 0x11d96), (0x11ef3, 0x11ef6), (0x11f00, 0x11f01), (0x11f03, 0x11f03),
     (0x11f34, 0x11f3a), (0x11f3e, 0x11f40), (0x16f4f, 0x16f4f), (0x16f51, 0x16f87),
     (0x16f8f, 0x16f92), (0x16ff0, 0x16ff1), (0x1bc9e, 0x1bc9e), (0x1e000, 0x1e006),
     (0x1e008, 0x1e018), (0x1e01b, 0x1e021), (0x1e023, 0x1e024), (0x1e026, 0x1e02a),
     (0x1e08f, 0x1e08f), (0x1e947, 0x1e947), (0x1f130, 0x1f149), (0x1f150, 0x1f169),
     (0x1f170, 0x1f189)]

/-- What Lowercase holds beside the lowercase letters. -/
def otherLowercase : RangeTable where
  ranges :=
    [(0xaa, 0xaa), (0xba, 0xba), (0x2b0, 0x2b8), (0x2c0, 0x2c1), (0x2e0, 0x2e4), (0x345, 0x345),
     (0x37a, 0x37a), (0x10fc, 0x10fc), (0x1d2c, 0x1d6a), (0x1d78, 0x1d78), (0x1d9b, 0x1dbf),
     (0x2071, 0x2071), (0x207f, 0x207f), (0x2090, 0x209c), (0x2170, 0x217f), (0x24d0, 0x24e9),
     (0x2c7c, 0x2c7d), (0xa69c, 0xa69d), (0xa770, 0xa770), (0xa7f2, 0xa7f4), (0xa7f8, 0xa7f9),
     (0xab5c, 0xab5f), (0xab69, 0xab69), (0x10780, 0x10780), (0x10783, 0x10785), (0x10787, 0x107b0),
     (0x107b2, 0x107ba), (0x1e030, 0x1e06d)]

/-- What Uppercase holds beside the uppercase letters. -/
def otherUppercase : RangeTable where
  ranges :=
    [(0x2160, 0x216f), (0x24b6, 0x24cf), (0x1f130, 0x1f149), (0x1f150, 0x1f169), (0x1f170, 0x1f189)]

/-- What Grapheme_Extend holds beside nonspacing and enclosing marks. -/
def otherGraphemeExtend : RangeTable where
  ranges :=
    [(0x9be, 0x9be), (0x9d7, 0x9d7), (0xb3e, 0xb3e), (0xb57, 0xb57), (0xbbe, 0xbbe), (0xbd7, 0xbd7),
     (0xcc2, 0xcc2), (0xcd5, 0xcd6), (0xd3e, 0xd3e), (0xd57, 0xd57), (0xdcf, 0xdcf), (0xddf, 0xddf),
     (0x1b35, 0x1b35), (0x200c, 0x200c), (0x302e, 0x302f), (0xff9e, 0xff9f), (0x1133e, 0x1133e),
     (0x11357, 0x11357), (0x114b0, 0x114b0), (0x114bd, 0x114bd), (0x115af, 0x115af),
     (0x11930, 0x11930), (0x1d165, 0x1d165), (0x1d16e, 0x1d172), (0xe0020, 0xe007f)]

/-- What Case_Ignorable holds beside marks, format characters, modifier letters and symbols. -/
def otherCaseIgnorable : RangeTable where
  ranges :=
    [(0x27, 0x27), (0x2e, 0x2e), (0x3a, 0x3a), (0xb7, 0xb7), (0x387, 0x387), (0x55f, 0x55f),
     (0x5f4, 0x5f4), (0x2018, 0x2019), (0x2024, 0x2024), (0x2027, 0x2027), (0xfe13, 0xfe13),
     (0xfe52, 0xfe52), (0xfe55, 0xfe55), (0xff07, 0xff07), (0xff0e, 0xff0e), (0xff1a, 0xff1a)]

/-- The property Alphabetic. -/
def isAlphabetic (c : Char) : Bool :=
  if isAscii c then c.isAlpha
  else [otherLetter, lowercaseLetter, uppercaseLetter, modifierLetter, titlecaseLetter, letterNumber,
    otherAlphabetic].any (·.contains c)

/-- A character with a decimal, letter or other number category. -/
def isNumeric (c : Char) : Bool :=
  if isAscii c then c.isDigit
  else [decimalNumber, letterNumber, otherNumber].any (·.contains c)

/-- A decimal digit of some script. -/
def isDecimalDigit (c : Char) : Bool :=
  if isAscii c then c.isDigit else decimalNumber.contains c

/-- The property Lowercase. -/
def isLowercase (c : Char) : Bool :=
  if isAscii c then c.isLower else lowercaseLetter.contains c || otherLowercase.contains c

/-- The property Uppercase. -/
def isUppercase (c : Char) : Bool :=
  if isAscii c then c.isUpper else uppercaseLetter.contains c || otherUppercase.contains c

/-- The property Cased: a lowercase, uppercase or titlecase character. -/
def isCased (c : Char) : Bool :=
  if isAscii c then c.isAlpha
  else isLowercase c || isUppercase c || titlecaseLetter.contains c

/-- The property Case_Ignorable: characters that a search for the neighbouring letter steps over. -/
def isCaseIgnorable (c : Char) : Bool :=
  if isAscii c then c == '\'' || c == '.' || c == ':' || c == '^' || c.toNat == 0x60
  else [nonspacingMark, enclosingMark, format, modifierLetter, modifierSymbol,
    otherCaseIgnorable].any (·.contains c)

/-- The property Grapheme_Extend: characters that only continue the one before. -/
def isGraphemeExtend (c : Char) : Bool :=
  if isAscii c then false
  else [nonspacingMark, enclosingMark, otherGraphemeExtend].any (·.contains c)

/-- A word character: alphabetic, a mark, a decimal digit, a connector or a joiner. -/
def isWord (c : Char) : Bool :=
  if isAscii c then c.isAlphanum || c == '_'
  else isAlphabetic c || c.toNat == 0x200C || c.toNat == 0x200D ||
    [nonspacingMark, spacingMark, enclosingMark, decimalNumber, connectorPunctuation].any (·.contains c)

/-- A character with a picture of its own: no control, format, private, unassigned or separating
character but the plain space. -/
def isPrintable (c : Char) : Bool :=
  if isAscii c then 32 ≤ c.toNat && c.toNat ≠ 127
  else isAssigned c &&
    ([control, format, privateUse, spaceSeparator, lineSeparator, paragraphSeparator].all fun t =>
      !t.contains c)

/-- Properties that are a plain table, under their names in the loose spelling of `looseName`. -/
def propertyTables : List (List String × RangeTable) :=
  [(["asciihexdigit", "ahex"], ⟨
     [(0x30, 0x39), (0x41, 0x46), (0x61, 0x66)]⟩),
   (["bidicontrol", "bidic"], ⟨
     [(0x61c, 0x61c), (0x200e, 0x200f), (0x202a, 0x202e), (0x2066, 0x2069)]⟩),
   (["dash"], ⟨
     [(0x2d, 0x2d), (0x58a, 0x58a), (0x5be, 0x5be), (0x1400, 0x1400), (0x1806, 0x1806),
      (0x2010, 0x2015), (0x2053, 0x2053), (0x207b, 0x207b), (0x208b, 0x208b), (0x2212, 0x2212),
      (0x2e17, 0x2e17), (0x2e1a, 0x2e1a), (0x2e3a, 0x2e3b), (0x2e40, 0x2e40), (0x2e5d, 0x2e5d),
      (0x301c, 0x301c), (0x3030, 0x3030), (0x30a0, 0x30a0), (0xfe31, 0xfe32), (0xfe58, 0xfe58),
      (0xfe63, 0xfe63), (0xff0d, 0xff0d), (0x10ead, 0x10ead)]⟩),
   (["deprecated", "dep"], ⟨
     [(0x149, 0x149), (0x673, 0x673), (0xf77, 0xf77), (0xf79, 0xf79), (0x17a3, 0x17a4),
      (0x206a, 0x206f), (0x2329, 0x232a), (0xe0001, 0xe0001)]⟩),
   (["diacritic", "dia"], ⟨
     [(0x5e, 0x5e), (0x60, 0x60), (0xa8, 0xa8), (0xaf, 0xaf), (0xb4, 0xb4), (0xb7, 0xb8),
      (0x2b0, 0x34e), (0x350, 0x357), (0x35d, 0x362), (0x374, 0x375), (0x37a, 0x37a),
      (0x384, 0x385), (0x483, 0x487), (0x559, 0x559), (0x591, 0x5a1), (0x5a3, 0x5bd),
      (0x5bf, 0x5bf), (0x5c1, 0x5c2), (0x5c4, 0x5c4), (0x64b, 0x652), (0x657, 0x658),
      (0x6df, 0x6e0), (0x6e5, 0x6e6), (0x6ea, 0x6ec), (0x730, 0x74a), (0x7a6, 0x7b0),
      (0x7eb, 0x7f5), (0x818, 0x819), (0x898, 0x89f), (0x8c9, 0x8d2), (0x8e3, 0x8fe),
      (0x93c, 0x93c), (0x94d, 0x94d), (0x951, 0x954), (0x971, 0x971), (0x9bc, 0x9bc),
      (0x9cd, 0x9cd), (0xa3c, 0xa3c), (0xa4d, 0xa4d), (0xabc, 0xabc), (0xacd, 0xacd),
      (0xafd, 0xaff), (0xb3c, 0xb3c), (0xb4d, 0xb4d), (0xb55, 0xb55), (0xbcd, 0xbcd),
      (0xc3c, 0xc3c), (0xc4d, 0xc4d), (0xcbc, 0xcbc), (0xccd, 0xccd), (0xd3b, 0xd3c),
      (0xd4d, 0xd4d), (0xdca, 0xdca), (0xe47, 0xe4c), (0xe4e, 0xe4e), (0xeba, 0xeba),
      (0xec8, 0xecc), (0xf18, 0xf19), (0xf35, 0xf35), (0xf37, 0xf37), (0xf39, 0xf39),
      (0xf3e, 0xf3f), (0xf82, 0xf84), (0xf86, 0xf87), (0xfc6, 0xfc6), (0x1037, 0x1037),
      (0x1039, 0x103a), (0x1063, 0x1064), (0x1069, 0x106d), (0x1087, 0x108d), (0x108f, 0x108f),
      (0x109a, 0x109b), (0x135d, 0x135f), (0x1714, 0x1715), (0x17c9, 0x17d3), (0x17dd, 0x17dd),
      (0x1939, 0x193b), (0x1a75, 0x1a7c), (0x1a7f, 0x1a7f), (0x1ab0, 0x1abe), (0x1ac1, 0x1acb),
      (0x1b34, 0x1b34), (0x1b44, 0x1b44), (0x1b6b, 0x1b73), (0x1baa, 0x1bab), (0x1c36, 0x1c37),
      (0x1c78, 0x1c7d), (0x1cd0, 0x1ce8), (0x1ced, 0x1ced), (0x1cf4, 0x1cf4), (0x1cf7, 0x1cf9),
      (0x1d2c, 0x1d6a), (0x1dc4, 0x1dcf), (0x1df5, 0x1dff), (0x1fbd, 0x1fbd), (0x1fbf, 0x1fc1),
      (0x1fcd, 0x1fcf), (0x1fdd, 0x1fdf), (0x1fed, 0x1fef), (0x1ffd, 0x1ffe), (0x2cef, 0x2cf1),
      (0x2e2f, 0x2e2f), (0x302a, 0x302f), (0x3099, 0x309c), (0x30fc, 0x30fc), (0xa66f, 0xa66f),
      (0xa67c, 0xa67d), (0xa67f, 0xa67f), (0xa69c, 0xa69d), (0xa6f0, 0xa6f1), (0xa700, 0xa721),
      (0xa788, 0xa78a), (0xa7f8, 0xa7f9), (0xa8c4, 0xa8c4), (0xa8e0, 0xa8f1), (0xa92b, 0xa92e),
      (0xa953, 0xa953), (0xa9b3, 0xa9b3), (0xa9c0, 0xa9c0), (0xa9e5, 0xa9e5), (0xaa7b, 0xaa7d),
      (0xaabf, 0xaac2), (0xaaf6, 0xaaf6), (0xab5b, 0xab5f), (0xab69, 0xab6b), (0xabec, 0xabed),
      (0xfb1e, 0xfb1e), (0xfe20, 0xfe2f), (0xff3e, 0xff3e), (0xff40, 0xff40), (0xff70, 0xff70),
      (0xff9e, 0xff9f), (0xffe3, 0xffe3), (0x102e0, 0x102e0), (0x10780, 0x10785),
      (0x10787, 0x107b0), (0x107b2, 0x107ba), (0x10ae5, 0x10ae6), (0x10d22, 0x10d27),
      (0x10efd, 0x10eff), (0x10f46, 0x10f50), (0x10f82, 0x10f85), (0x11046, 0x11046),
      (0x11070, 0x11070), (0x110b9, 0x110ba), (0x11133, 0x11134), (0x11173, 0x11173),
      (0x111c0, 0x111c0), (0x111ca, 0x111cc), (0x11235, 0x11236), (0x112e9, 0x112ea),
      (0x1133c, 0x1133c), (0x1134d, 0x1134d), (0x11366, 0x1136c), (0x11370, 0x11374),
      (0x11442, 0x11442), (0x11446, 0x11446), (0x114c2, 0x114c3), (0x115bf, 0x115c0),
      (0x1163f, 0x1163f), (0x116b6, 0x116b7), (0x1172b, 0x1172b), (0x11839, 0x1183a),
      (0x1193d, 0x1193e), (0x11943, 0x11943), (0x119e0, 0x119e0), (0x11a34, 0x11a34),
      (0x11a47, 0x11a47), (0x11a99, 0x11a99), (0x11c3f, 0x11c3f), (0x11d42, 0x11d42),
      (0x11d44, 0x11d45), (0x11d97, 0x11d97), (0x13447, 0x13455), (0x16af0, 0x16af4),
      (0x16b30, 0x16b36), (0x16f8f, 0x16f9f), (0x16ff0, 0x16ff1), (0x1aff0, 0x1aff3),
      (0x1aff5, 0x1affb), (0x1affd, 0x1affe), (0x1cf00, 0x1cf2d), (0x1cf30, 0x1cf46),
      (0x1d167, 0x1d169), (0x1d16d, 0x1d172), (0x1d17b, 0x1d182), (0x1d185, 0x1d18b),
      (0x1d1aa, 0x1d1ad), (0x1e030, 0x1e06d), (0x1e130, 0x1e136), (0x1e2ae, 0x1e2ae),
      (0x1e2ec, 0x1e2ef), (0x1e8d0, 0x1e8d6), (0x1e944, 0x1e946), (0x1e948, 0x1e94a)]⟩),
   (["emoji"], ⟨
     [(0x23, 0x23), (0x2a, 0x2a), (0x30, 0x39), (0xa9, 0xa9), (0xae, 0xae), (0x203c, 0x203c),
      (0x2049, 0x2049), (0x2122, 0x2122), (0x2139, 0x2139), (0x2194, 0x2199), (0x21a9, 0x21aa),
      (0x231a, 0x231b), (0x2328, 0x2328), (0x23cf, 0x23cf), (0x23e9, 0x23f3), (0x23f8, 0x23fa),
      (0x24c2, 0x24c2), (0x25aa, 0x25ab), (0x25b6, 0x25b6), (0x25c0, 0x25c0), (0x25fb, 0x25fe),
      (0x2600, 0x2604), (0x260e, 0x260e), (0x2611, 0x2611), (0x2614, 0x2615), (0x2618, 0x2618),
      (0x261d, 0x261d), (0x2620, 0x2620), (0x2622, 0x2623), (0x2626, 0x2626), (0x262a, 0x262a),
      (0x262e, 0x262f), (0x2638, 0x263a), (0x2640, 0x2640), (0x2642, 0x2642), (0x2648, 0x2653),
      (0x265f, 0x2660), (0x2663, 0x2663), (0x2665, 0x2666), (0x2668, 0x2668), (0x267b, 0x267b),
      (0x267e, 0x267f), (0x2692, 0x2697), (0x2699, 0x2699), (0x269b, 0x269c), (0x26a0, 0x26a1),
      (0x26a7, 0x26a7), (0x26aa, 0x26ab), (0x26b0, 0x26b1), (0x26bd, 0x26be), (0x26c4, 0x26c5),
      (0x26c8, 0x26c8), (0x26ce, 0x26cf), (0x26d1, 0x26d1), (0x26d3, 0x26d4), (0x26e9, 0x26ea),
      (0x26f0, 0x26f5), (0x26f7, 0x26fa), (0x26fd, 0x26fd), (0x2702, 0x2702), (0x2705, 0x2705),
      (0x2708, 0x270d), (0x270f, 0x270f), (0x2712, 0x2712), (0x2714, 0x2714), (0x2716, 0x2716),
      (0x271d, 0x271d), (0x2721, 0x2721), (0x2728, 0x2728), (0x2733, 0x2734), (0x2744, 0x2744),
      (0x2747, 0x2747), (0x274c, 0x274c), (0x274e, 0x274e), (0x2753, 0x2755), (0x2757, 0x2757),
      (0x2763, 0x2764), (0x2795, 0x2797), (0x27a1, 0x27a1), (0x27b0, 0x27b0), (0x27bf, 0x27bf),
      (0x2934, 0x2935), (0x2b05, 0x2b07), (0x2b1b, 0x2b1c), (0x2b50, 0x2b50), (0x2b55, 0x2b55),
      (0x3030, 0x3030), (0x303d, 0x303d), (0x3297, 0x3297), (0x3299, 0x3299), (0x1f004, 0x1f004),
      (0x1f0cf, 0x1f0cf), (0x1f170, 0x1f171), (0x1f17e, 0x1f17f), (0x1f18e, 0x1f18e),
      (0x1f191, 0x1f19a), (0x1f1e6, 0x1f1ff), (0x1f201, 0x1f202), (0x1f21a, 0x1f21a),
      (0x1f22f, 0x1f22f), (0x1f232, 0x1f23a), (0x1f250, 0x1f251), (0x1f300, 0x1f321),
      (0x1f324, 0x1f393), (0x1f396, 0x1f397), (0x1f399, 0x1f39b), (0x1f39e, 0x1f3f0),
      (0x1f3f3, 0x1f3f5), (0x1f3f7, 0x1f4fd), (0x1f4ff, 0x1f53d), (0x1f549, 0x1f54e),
      (0x1f550, 0x1f567), (0x1f56f, 0x1f570), (0x1f573, 0x1f57a), (0x1f587, 0x1f587),
      (0x1f58a, 0x1f58d), (0x1f590, 0x1f590), (0x1f595, 0x1f596), (0x1f5a4, 0x1f5a5),
      (0x1f5a8, 0x1f5a8), (0x1f5b1, 0x1f5b2), (0x1f5bc, 0x1f5bc), (0x1f5c2, 0x1f5c4),
      (0x1f5d1, 0x1f5d3), (0x1f5dc, 0x1f5de), (0x1f5e1, 0x1f5e1), (0x1f5e3, 0x1f5e3),
      (0x1f5e8, 0x1f5e8), (0x1f5ef, 0x1f5ef), (0x1f5f3, 0x1f5f3), (0x1f5fa, 0x1f64f),
      (0x1f680, 0x1f6c5), (0x1f6cb, 0x1f6d2), (0x1f6d5, 0x1f6d7), (0x1f6dc, 0x1f6e5),
      (0x1f6e9, 0x1f6e9), (0x1f6eb, 0x1f6ec), (0x1f6f0, 0x1f6f0), (0x1f6f3, 0x1f6fc),
      (0x1f7e0, 0x1f7eb), (0x1f7f0, 0x1f7f0), (0x1f90c, 0x1f93a), (0x1f93c, 0x1f945),
      (0x1f947, 0x1f9ff), (0x1fa70, 0x1fa7c), (0x1fa80, 0x1fa88), (0x1fa90, 0x1fabd),
      (0x1fabf, 0x1fac5), (0x1face, 0x1fadb), (0x1fae0, 0x1fae8), (0x1faf0, 0x1faf8)]⟩),
   (["emojicomponent", "ecomp"], ⟨
     [(0x23, 0x23), (0x2a, 0x2a), (0x30, 0x39), (0x200d, 0x200d), (0x20e3, 0x20e3),
      (0xfe0f, 0xfe0f), (0x1f1e6, 0x1f1ff), (0x1f3fb, 0x1f3ff), (0x1f9b0, 0x1f9b3),
      (0xe0020, 0xe007f)]⟩),
   (["emojimodifier", "emod"], ⟨
     [(0x1f3fb, 0x1f3ff)]⟩),
   (["emojimodifierbase", "ebase"], ⟨
     [(0x261d, 0x261d), (0x26f9, 0x26f9), (0x270a, 0x270d), (0x1f385, 0x1f385), (0x1f3c2, 0x1f3c4),
      (0x1f3c7, 0x1f3c7), (0x1f3ca, 0x1f3cc), (0x1f442, 0x1f443), (0x1f446, 0x1f450),
      (0x1f466, 0x1f478), (0x1f47c, 0x1f47c), (0x1f481, 0x1f483), (0x1f485, 0x1f487),
      (0x1f48f, 0x1f48f), (0x1f491, 0x1f491), (0x1f4aa, 0x1f4aa), (0x1f574, 0x1f575),
      (0x1f57a, 0x1f57a), (0x1f590, 0x1f590), (0x1f595, 0x1f596), (0x1f645, 0x1f647),
      (0x1f64b, 0x1f64f), (0x1f6a3, 0x1f6a3), (0x1f6b4, 0x1f6b6), (0x1f6c0, 0x1f6c0),
      (0x1f6cc, 0x1f6cc), (0x1f90c, 0x1f90c), (0x1f90f, 0x1f90f), (0x1f918, 0x1f91f),
      (0x1f926, 0x1f926), (0x1f930, 0x1f939), (0x1f93c, 0x1f93e), (0x1f977, 0x1f977),
      (0x1f9b5, 0x1f9b6), (0x1f9b8, 0x1f9b9), (0x1f9bb, 0x1f9bb), (0x1f9cd, 0x1f9cf),
      (0x1f9d1, 0x1f9dd), (0x1fac3, 0x1fac5), (0x1faf0, 0x1faf8)]⟩),
   (["emojipresentation", "epres"], ⟨
     [(0x231a, 0x231b), (0x23e9, 0x23ec), (0x23f0, 0x23f0), (0x23f3, 0x23f3), (0x25fd, 0x25fe),
      (0x2614, 0x2615), (0x2648, 0x2653), (0x267f, 0x267f), (0x2693, 0x2693), (0x26a1, 0x26a1),
      (0x26aa, 0x26ab), (0x26bd, 0x26be), (0x26c4, 0x26c5), (0x26ce, 0x26ce), (0x26d4, 0x26d4),
      (0x26ea, 0x26ea), (0x26f2, 0x26f3), (0x26f5, 0x26f5), (0x26fa, 0x26fa), (0x26fd, 0x26fd),
      (0x2705, 0x2705), (0x270a, 0x270b), (0x2728, 0x2728), (0x274c, 0x274c), (0x274e, 0x274e),
      (0x2753, 0x2755), (0x2757, 0x2757), (0x2795, 0x2797), (0x27b0, 0x27b0), (0x27bf, 0x27bf),
      (0x2b1b, 0x2b1c), (0x2b50, 0x2b50), (0x2b55, 0x2b55), (0x1f004, 0x1f004), (0x1f0cf, 0x1f0cf),
      (0x1f18e, 0x1f18e), (0x1f191, 0x1f19a), (0x1f1e6, 0x1f1ff), (0x1f201, 0x1f201),
      (0x1f21a, 0x1f21a), (0x1f22f, 0x1f22f), (0x1f232, 0x1f236), (0x1f238, 0x1f23a),
      (0x1f250, 0x1f251), (0x1f300, 0x1f320), (0x1f32d, 0x1f335), (0x1f337, 0x1f37c),
      (0x1f37e, 0x1f393), (0x1f3a0, 0x1f3ca), (0x1f3cf, 0x1f3d3), (0x1f3e0, 0x1f3f0),
      (0x1f3f4, 0x1f3f4), (0x1f3f8, 0x1f43e), (0x1f440, 0x1f440), (0x1f442, 0x1f4fc),
      (0x1f4ff, 0x1f53d), (0x1f54b, 0x1f54e), (0x1f550, 0x1f567), (0x1f57a, 0x1f57a),
      (0x1f595, 0x1f596), (0x1f5a4, 0x1f5a4), (0x1f5fb, 0x1f64f), (0x1f680, 0x1f6c5),
      (0x1f6cc, 0x1f6cc), (0x1f6d0, 0x1f6d2), (0x1f6d5, 0x1f6d7), (0x1f6dc, 0x1f6df),
      (0x1f6eb, 0x1f6ec), (0x1f6f4, 0x1f6fc), (0x1f7e0, 0x1f7eb), (0x1f7f0, 0x1f7f0),
      (0x1f90c, 0x1f93a), (0x1f93c, 0x1f945), (0x1f947, 0x1f9ff), (0x1fa70, 0x1fa7c),
      (0x1fa80, 0x1fa88), (0x1fa90, 0x1fabd), (0x1fabf, 0x1fac5), (0x1face, 0x1fadb),
      (0x1fae0, 0x1fae8), (0x1faf0, 0x1faf8)]⟩),
   (["extendedpictographic", "extpict"], ⟨
     [(0xa9, 0xa9), (0xae, 0xae), (0x203c, 0x203c), (0x2049, 0x2049), (0x2122, 0x2122),
      (0x2139, 0x2139), (0x2194, 0x2199), (0x21a9, 0x21aa), (0x231a, 0x231b), (0x2328, 0x2328),
      (0x2388, 0x2388), (0x23cf, 0x23cf), (0x23e9, 0x23f3), (0x23f8, 0x23fa), (0x24c2, 0x24c2),
      (0x25aa, 0x25ab), (0x25b6, 0x25b6), (0x25c0, 0x25c0), (0x25fb, 0x25fe), (0x2600, 0x2605),
      (0x2607, 0x2612), (0x2614, 0x2685), (0x2690, 0x2705), (0x2708, 0x2712), (0x2714, 0x2714),
      (0x2716, 0x2716), (0x271d, 0x271d), (0x2721, 0x2721), (0x2728, 0x2728), (0x2733, 0x2734),
      (0x2744, 0x2744), (0x2747, 0x2747), (0x274c, 0x274c), (0x274e, 0x274e), (0x2753, 0x2755),
      (0x2757, 0x2757), (0x2763, 0x2767), (0x2795, 0x2797), (0x27a1, 0x27a1), (0x27b0, 0x27b0),
      (0x27bf, 0x27bf), (0x2934, 0x2935), (0x2b05, 0x2b07), (0x2b1b, 0x2b1c), (0x2b50, 0x2b50),
      (0x2b55, 0x2b55), (0x3030, 0x3030), (0x303d, 0x303d), (0x3297, 0x3297), (0x3299, 0x3299),
      (0x1f000, 0x1f0ff), (0x1f10d, 0x1f10f), (0x1f12f, 0x1f12f), (0x1f16c, 0x1f171),
      (0x1f17e, 0x1f17f), (0x1f18e, 0x1f18e), (0x1f191, 0x1f19a), (0x1f1ad, 0x1f1e5),
      (0x1f201, 0x1f20f), (0x1f21a, 0x1f21a), (0x1f22f, 0x1f22f), (0x1f232, 0x1f23a),
      (0x1f23c, 0x1f23f), (0x1f249, 0x1f3fa), (0x1f400, 0x1f53d), (0x1f546, 0x1f64f),
      (0x1f680, 0x1f6ff), (0x1f774, 0x1f77f), (0x1f7d5, 0x1f7ff), (0x1f80c, 0x1f80f),
      (0x1f848, 0x1f84f), (0x1f85a, 0x1f85f), (0x1f888, 0x1f88f), (0x1f8ae, 0x1f8ff),
      (0x1f90c, 0x1f93a), (0x1f93c, 0x1f945), (0x1f947, 0x1faff), (0x1fc00, 0x1fffd)]⟩),
   (["extender", "ext"], ⟨
     [(0xb7, 0xb7), (0x2d0, 0x2d1), (0x640, 0x640), (0x7fa, 0x7fa), (0xb55, 0xb55), (0xe46, 0xe46),
      (0xec6, 0xec6), (0x180a, 0x180a), (0x1843, 0x1843), (0x1aa7, 0x1aa7), (0x1c36, 0x1c36),
      (0x1c7b, 0x1c7b), (0x3005, 0x3005), (0x3031, 0x3035), (0x309d, 0x309e), (0x30fc, 0x30fe),
      (0xa015, 0xa015), (0xa60c, 0xa60c), (0xa9cf, 0xa9cf), (0xa9e6, 0xa9e6), (0xaa70, 0xaa70),
      (0xaadd, 0xaadd), (0xaaf3, 0xaaf4), (0xff70, 0xff70), (0x10781, 0x10782), (0x1135d, 0x1135d),
      (0x115c6, 0x115c8), (0x11a98, 0x11a98), (0x16b42, 0x16b43), (0x16fe0, 0x16fe1),
      (0x16fe3, 0x16fe3), (0x1e13c, 0x1e13d), (0x1e944, 0x1e946)]⟩),
   (["hexdigit", "hex"], ⟨
     [(0x30, 0x39), (0x41, 0x46), (0x61, 0x66), (0xff10, 0xff19), (0xff21, 0xff26),
      (0xff41, 0xff46)]⟩),
   (["ideographic", "ideo"], ⟨
     [(0x3006, 0x3007), (0x3021, 0x3029), (0x3038, 0x303a), (0x3400, 0x4dbf), (0x4e00, 0x9fff),
      (0xf900, 0xfa6d), (0xfa70, 0xfad9), (0x16fe4, 0x16fe4), (0x17000, 0x187f7),
      (0x18800, 0x18cd5), (0x18d00, 0x18d08), (0x1b170, 0x1b2fb), (0x20000, 0x2a6df),
      (0x2a700, 0x2b739), (0x2b740, 0x2b81d), (0x2b820, 0x2cea1), (0x2ceb0, 0x2ebe0),
      (0x2f800, 0x2fa1d), (0x30000, 0x3134a), (0x31350, 0x323af)]⟩),
   (["logicalorderexception", "loe"], ⟨
     [(0xe40, 0xe44), (0xec0, 0xec4), (0x19b5, 0x19b7), (0x19ba, 0x19ba), (0xaab5, 0xaab6),
      (0xaab9, 0xaab9), (0xaabb, 0xaabc)]⟩),
   (["math"], ⟨
     [(0x2b, 0x2b), (0x3c, 0x3e), (0x5e, 0x5e), (0x7c, 0x7c), (0x7e, 0x7e), (0xac, 0xac),
      (0xb1, 0xb1), (0xd7, 0xd7), (0xf7, 0xf7), (0x3d0, 0x3d2), (0x3d5, 0x3d5), (0x3f0, 0x3f1),
      (0x3f4, 0x3f6), (0x606, 0x608), (0x2016, 0x2016), (0x2032, 0x2034), (0x2040, 0x2040),
      (0x2044, 0x2044), (0x2052, 0x2052), (0x2061, 0x2064), (0x207a, 0x207e), (0x208a, 0x208e),
      (0x20d0, 0x20dc), (0x20e1, 0x20e1), (0x20e5, 0x20e6), (0x20eb, 0x20ef), (0x2102, 0x2102),
      (0x2107, 0x2107), (0x210a, 0x2113), (0x2115, 0x2115), (0x2118, 0x211d), (0x2124, 0x2124),
      (0x2128, 0x2129), (0x212c, 0x212d), (0x212f, 0x2131), (0x2133, 0x2138), (0x213c, 0x2149),
      (0x214b, 0x214b), (0x2190, 0x21a7), (0x21a9, 0x21ae), (0x21b0, 0x21b1), (0x21b6, 0x21b7),
      (0x21bc, 0x21db), (0x21dd, 0x21dd), (0x21e4, 0x21e5), (0x21f4, 0x22ff), (0x2308, 0x230b),
      (0x2320, 0x2321), (0x237c, 0x237c), (0x239b, 0x23b5), (0x23b7, 0x23b7), (0x23d0, 0x23d0),
      (0x23dc, 0x23e2), (0x25a0, 0x25a1), (0x25ae, 0x25b7), (0x25bc, 0x25c1), (0x25c6, 0x25c7),
      (0x25ca, 0x25cb), (0x25cf, 0x25d3), (0x25e2, 0x25e2), (0x25e4, 0x25e4), (0x25e7, 0x25ec),
      (0x25f8, 0x25ff), (0x2605, 0x2606), (0x2640, 0x2640), (0x2642, 0x2642), (0x2660, 0x2663),
      (0x266d, 0x266f), (0x27c0, 0x27ff), (0x2900, 0x2aff), (0x2b30, 0x2b44), (0x2b47, 0x2b4c),
      (0xfb29, 0xfb29), (0xfe61, 0xfe66), (0xfe68, 0xfe68), (0xff0b, 0xff0b), (0xff1c, 0xff1e),
      (0xff3c, 0xff3c), (0xff3e, 0xff3e), (0xff5c, 0xff5c), (0xff5e, 0xff5e), (0xffe2, 0xffe2),
      (0xffe9, 0xffec), (0x1d400, 0x1d454), (0x1d456, 0x1d49c), (0x1d49e, 0x1d49f),
      (0x1d4a2, 0x1d4a2), (0x1d4a5, 0x1d4a6), (0x1d4a9, 0x1d4ac), (0x1d4ae, 0x1d4b9),
      (0x1d4bb, 0x1d4bb), (0x1d4bd, 0x1d4c3), (0x1d4c5, 0x1d505), (0x1d507, 0x1d50a),
      (0x1d50d, 0x1d514), (0x1d516, 0x1d51c), (0x1d51e, 0x1d539), (0x1d53b, 0x1d53e),
      (0x1d540, 0x1d544), (0x1d546, 0x1d546), (0x1d54a, 0x1d550), (0x1d552, 0x1d6a5),
      (0x1d6a8, 0x1d7cb), (0x1d7ce, 0x1d7ff), (0x1ee00, 0x1ee03), (0x1ee05, 0x1ee1f),
      (0x1ee21, 0x1ee22), (0x1ee24, 0x1ee24), (0x1ee27, 0x1ee27), (0x1ee29, 0x1ee32),
      (0x1ee34, 0x1ee37), (0x1ee39, 0x1ee39), (0x1ee3b, 0x1ee3b), (0x1ee42, 0x1ee42),
      (0x1ee47, 0x1ee47), (0x1ee49, 0x1ee49), (0x1ee4b, 0x1ee4b), (0x1ee4d, 0x1ee4f),
      (0x1ee51, 0x1ee52), (0x1ee54, 0x1ee54), (0x1ee57, 0x1ee57), (0x1ee59, 0x1ee59),
      (0x1ee5b, 0x1ee5b), (0x1ee5d, 0x1ee5d), (0x1ee5f, 0x1ee5f), (0x1ee61, 0x1ee62),
      (0x1ee64, 0x1ee64), (0x1ee67, 0x1ee6a), (0x1ee6c, 0x1ee72), (0x1ee74, 0x1ee77),
      (0x1ee79, 0x1ee7c), (0x1ee7e, 0x1ee7e), (0x1ee80, 0x1ee89), (0x1ee8b, 0x1ee9b),
      (0x1eea1, 0x1eea3), (0x1eea5, 0x1eea9), (0x1eeab, 0x1eebb), (0x1eef0, 0x1eef1)]⟩),
   (["noncharactercodepoint", "nchar"], ⟨
     [(0xfdd0, 0xfdef), (0xfffe, 0xffff), (0x1fffe, 0x1ffff), (0x2fffe, 0x2ffff),
      (0x3fffe, 0x3ffff), (0x4fffe, 0x4ffff), (0x5fffe, 0x5ffff), (0x6fffe, 0x6ffff),
      (0x7fffe, 0x7ffff), (0x8fffe, 0x8ffff), (0x9fffe, 0x9ffff), (0xafffe, 0xaffff),
      (0xbfffe, 0xbffff), (0xcfffe, 0xcffff), (0xdfffe, 0xdffff), (0xefffe, 0xeffff),
      (0xffffe, 0xfffff), (0x10fffe, 0x10ffff)]⟩),
   (["patternsyntax", "patsyn"], ⟨
     [(0x21, 0x2f), (0x3a, 0x40), (0x5b, 0x5e), (0x60, 0x60), (0x7b, 0x7e), (0xa1, 0xa7),
      (0xa9, 0xa9), (0xab, 0xac), (0xae, 0xae), (0xb0, 0xb1), (0xb6, 0xb6), (0xbb, 0xbb),
      (0xbf, 0xbf), (0xd7, 0xd7), (0xf7, 0xf7), (0x2010, 0x2027), (0x2030, 0x203e),
      (0x2041, 0x2053), (0x2055, 0x205e), (0x2190, 0x245f), (0x2500, 0x2775), (0x2794, 0x2bff),
      (0x2e00, 0x2e7f), (0x3001, 0x3003), (0x3008, 0x3020), (0x3030, 0x3030), (0xfd3e, 0xfd3f),
      (0xfe45, 0xfe46)]⟩),
   (["patternwhitespace", "patws"], ⟨
     [(0x9, 0xd), (0x20, 0x20), (0x85, 0x85), (0x200e, 0x200f), (0x2028, 0x2029)]⟩),
   (["quotationmark", "qmark"], ⟨
     [(0x22, 0x22), (0x27, 0x27), (0xab, 0xab), (0xbb, 0xbb), (0x2018, 0x201f), (0x2039, 0x203a),
      (0x2e42, 0x2e42), (0x300c, 0x300f), (0x301d, 0x301f), (0xfe41, 0xfe44), (0xff02, 0xff02),
      (0xff07, 0xff07), (0xff62, 0xff63)]⟩),
   (["radical"], ⟨
     [(0x2e80, 0x2e99), (0x2e9b, 0x2ef3), (0x2f00, 0x2fd5)]⟩),
   (["regionalindicator", "ri"], ⟨
     [(0x1f1e6, 0x1f1ff)]⟩),
   (["sentenceterminal", "sterm"], ⟨
     [(0x21, 0x21), (0x2e, 0x2e), (0x3f, 0x3f), (0x589, 0x589), (0x61d, 0x61f), (0x6d4, 0x6d4),
      (0x700, 0x702), (0x7f9, 0x7f9), (0x837, 0x837), (0x839, 0x839), (0x83d, 0x83e),
      (0x964, 0x965), (0x104a, 0x104b), (0x1362, 0x1362), (0x1367, 0x1368), (0x166e, 0x166e),
      (0x1735, 0x1736), (0x1803, 0x1803), (0x1809, 0x1809), (0x1944, 0x1945), (0x1aa8, 0x1aab),
      (0x1b5a, 0x1b5b), (0x1b5e, 0x1b5f), (0x1b7d, 0x1b7e), (0x1c3b, 0x1c3c), (0x1c7e, 0x1c7f),
      (0x203c, 0x203d), (0x2047, 0x2049), (0x2e2e, 0x2e2e), (0x2e3c, 0x2e3c), (0x2e53, 0x2e54),
      (0x3002, 0x3002), (0xa4ff, 0xa4ff), (0xa60e, 0xa60f), (0xa6f3, 0xa6f3), (0xa6f7, 0xa6f7),
      (0xa876, 0xa877), (0xa8ce, 0xa8cf), (0xa92f, 0xa92f), (0xa9c8, 0xa9c9), (0xaa5d, 0xaa5f),
      (0xaaf0, 0xaaf1), (0xabeb, 0xabeb), (0xfe52, 0xfe52), (0xfe56, 0xfe57), (0xff01, 0xff01),
      (0xff0e, 0xff0e), (0xff1f, 0xff1f), (0xff61, 0xff61), (0x10a56, 0x10a57), (0x10f55, 0x10f59),
      (0x10f86, 0x10f89), (0x11047, 0x11048), (0x110be, 0x110c1), (0x11141, 0x11143),
      (0x111c5, 0x111c6), (0x111cd, 0x111cd), (0x111de, 0x111df), (0x11238, 0x11239),
      (0x1123b, 0x1123c), (0x112a9, 0x112a9), (0x1144b, 0x1144c), (0x115c2, 0x115c3),
      (0x115c9, 0x115d7), (0x11641, 0x11642), (0x1173c, 0x1173e), (0x11944, 0x11944),
      (0x11946, 0x11946), (0x11a42, 0x11a43), (0x11a9b, 0x11a9c), (0x11c41, 0x11c42),
      (0x11ef7, 0x11ef8), (0x11f43, 0x11f44), (0x16a6e, 0x16a6f), (0x16af5, 0x16af5),
      (0x16b37, 0x16b38), (0x16b44, 0x16b44), (0x16e98, 0x16e98), (0x1bc9f, 0x1bc9f),
      (0x1da88, 0x1da88)]⟩),
   (["softdotted", "sd"], ⟨
     [(0x69, 0x6a), (0x12f, 0x12f), (0x249, 0x249), (0x268, 0x268), (0x29d, 0x29d), (0x2b2, 0x2b2),
      (0x3f3, 0x3f3), (0x456, 0x456), (0x458, 0x458), (0x1d62, 0x1d62), (0x1d96, 0x1d96),
      (0x1da4, 0x1da4), (0x1da8, 0x1da8), (0x1e2d, 0x1e2d), (0x1ecb, 0x1ecb), (0x2071, 0x2071),
      (0x2148, 0x2149), (0x2c7c, 0x2c7c), (0x1d422, 0x1d423), (0x1d456, 0x1d457),
      (0x1d48a, 0x1d48b), (0x1d4be, 0x1d4bf), (0x1d4f2, 0x1d4f3), (0x1d526, 0x1d527),
      (0x1d55a, 0x1d55b), (0x1d58e, 0x1d58f), (0x1d5c2, 0x1d5c3), (0x1d5f6, 0x1d5f7),
      (0x1d62a, 0x1d62b), (0x1d65e, 0x1d65f), (0x1d692, 0x1d693), (0x1df1a, 0x1df1a),
      (0x1e04c, 0x1e04d), (0x1e068, 0x1e068)]⟩),
   (["terminalpunctuation", "term"], ⟨
     [(0x21, 0x21), (0x2c, 0x2c), (0x2e, 0x2e), (0x3a, 0x3b), (0x3f, 0x3f), (0x37e, 0x37e),
      (0x387, 0x387), (0x589, 0x589), (0x5c3, 0x5c3), (0x60c, 0x60c), (0x61b, 0x61b),
      (0x61d, 0x61f), (0x6d4, 0x6d4), (0x700, 0x70a), (0x70c, 0x70c), (0x7f8, 0x7f9),
      (0x830, 0x83e), (0x85e, 0x85e), (0x964, 0x965), (0xe5a, 0xe5b), (0xf08, 0xf08),
      (0xf0d, 0xf12), (0x104a, 0x104b), (0x1361, 0x1368), (0x166e, 0x166e), (0x16eb, 0x16ed),
      (0x1735, 0x1736), (0x17d4, 0x17d6), (0x17da, 0x17da), (0x1802, 0x1805), (0x1808, 0x1809),
      (0x1944, 0x1945), (0x1aa8, 0x1aab), (0x1b5a, 0x1b5b), (0x1b5d, 0x1b5f), (0x1b7d, 0x1b7e),
      (0x1c3b, 0x1c3f), (0x1c7e, 0x1c7f), (0x203c, 0x203d), (0x2047, 0x2049), (0x2e2e, 0x2e2e),
      (0x2e3c, 0x2e3c), (0x2e41, 0x2e41), (0x2e4c, 0x2e4c), (0x2e4e, 0x2e4f), (0x2e53, 0x2e54),
      (0x3001, 0x3002), (0xa4fe, 0xa4ff), (0xa60d, 0xa60f), (0xa6f3, 0xa6f7), (0xa876, 0xa877),
      (0xa8ce, 0xa8cf), (0xa92f, 0xa92f), (0xa9c7, 0xa9c9), (0xaa5d, 0xaa5f), (0xaadf, 0xaadf),
      (0xaaf0, 0xaaf1), (0xabeb, 0xabeb), (0xfe50, 0xfe52), (0xfe54, 0xfe57), (0xff01, 0xff01),
      (0xff0c, 0xff0c), (0xff0e, 0xff0e), (0xff1a, 0xff1b), (0xff1f, 0xff1f), (0xff61, 0xff61),
      (0xff64, 0xff64), (0x1039f, 0x1039f), (0x103d0, 0x103d0), (0x10857, 0x10857),
      (0x1091f, 0x1091f), (0x10a56, 0x10a57), (0x10af0, 0x10af5), (0x10b3a, 0x10b3f),
      (0x10b99, 0x10b9c), (0x10f55, 0x10f59), (0x10f86, 0x10f89), (0x11047, 0x1104d),
      (0x110be, 0x110c1), (0x11141, 0x11143), (0x111c5, 0x111c6), (0x111cd, 0x111cd),
      (0x111de, 0x111df), (0x11238, 0x1123c), (0x112a9, 0x112a9), (0x1144b, 0x1144d),
      (0x1145a, 0x1145b), (0x115c2, 0x115c5), (0x115c9, 0x115d7), (0x11641, 0x11642),
      (0x1173c, 0x1173e), (0x11944, 0x11944), (0x11946, 0x11946), (0x11a42, 0x11a43),
      (0x11a9b, 0x11a9c), (0x11aa1, 0x11aa2), (0x11c41, 0x11c43), (0x11c71, 0x11c71),
      (0x11ef7, 0x11ef8), (0x11f43, 0x11f44), (0x12470, 0x12474), (0x16a6e, 0x16a6f),
      (0x16af5, 0x16af5), (0x16b37, 0x16b39), (0x16b44, 0x16b44), (0x16e97, 0x16e98),
      (0x1bc9f, 0x1bc9f), (0x1da87, 0x1da8a)]⟩),
   (["unifiedideograph", "uideo"], ⟨
     [(0x3400, 0x4dbf), (0x4e00, 0x9fff), (0xfa0e, 0xfa0f), (0xfa11, 0xfa11), (0xfa13, 0xfa14),
      (0xfa1f, 0xfa1f), (0xfa21, 0xfa21), (0xfa23, 0xfa24), (0xfa27, 0xfa29), (0x20000, 0x2a6df),
      (0x2a700, 0x2b739), (0x2b740, 0x2b81d), (0x2b820, 0x2cea1), (0x2ceb0, 0x2ebe0),
      (0x30000, 0x3134a), (0x31350, 0x323af)]⟩),
   (["variationselector", "vs"], ⟨
     [(0x180b, 0x180d), (0x180f, 0x180f), (0xfe00, 0xfe0f), (0xe0100, 0xe01ef)]⟩),
   (["defaultignorablecodepoint", "di"], ⟨
     [(0xad, 0xad), (0x34f, 0x34f), (0x61c, 0x61c), (0x115f, 0x1160), (0x17b4, 0x17b5),
      (0x180b, 0x180f), (0x200b, 0x200f), (0x202a, 0x202e), (0x2060, 0x206f), (0x3164, 0x3164),
      (0xfe00, 0xfe0f), (0xfeff, 0xfeff), (0xffa0, 0xffa0), (0xfff0, 0xfff8), (0x1bca0, 0x1bca3),
      (0x1d173, 0x1d17a), (0xe0000, 0xe0fff)]⟩)]

/-- A property that is put together from several tables: its names in the loose spelling, its test,
and about how many ranges it has. -/
structure PropertyTest where
  names : List String
  test : Char → Bool
  ranges : Nat

/-- Properties that are put together from several tables. -/
def propertyTests : List PropertyTest :=
  [⟨["alphabetic", "alpha"], isAlphabetic, 732⟩,
   ⟨["lowercase", "lower"], isLowercase, 671⟩,
   ⟨["uppercase", "upper"], isUppercase, 651⟩,
   ⟨["cased"], isCased, 157⟩,
   ⟨["caseignorable", "ci"], isCaseIgnorable, 437⟩,
   ⟨["graphemeextend", "grext"], isGraphemeExtend, 375⟩,
   ⟨["joincontrol", "joinc"], fun c => c.toNat == 0x200C || c.toNat == 0x200D, 1⟩,
   ⟨["whitespace", "wspace", "space"], Text.isBlank, 10⟩]

end TableDraft.Unicode
