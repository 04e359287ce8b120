/-
  What characters are when a text is divided, as of version 16 of the character standard: into
  characters as readers count them, into words, and into sentences.

  For each kind of division a character has at most one role, given like a property.
-/
import Pinpoint.Text.Property

namespace Pinpoint.Text

/-- Each of the Hangul syllables without a final consonant, and of those with one. -/
def syllables (final : Bool) : List (Nat × Nat) :=
  (List.range 399).map fun k =>
    let first := 0xac00 + 28 * k
    if final then (first + 1, first + 27) else (first, first)

example : (syllables true).take 2 = [(0xac01, 0xac1b), (0xac1d, 0xac37)] := by decide +kernel

set_option maxRecDepth 10000 in
/-- Roles in a character as readers count them. -/
def graphemeRoles : List Property :=
  [⟨["cr"], [], [(0xd, 0xd)], []⟩,
   ⟨["control", "cn"],
    [.cc],
    [(0xad, 0xad), (0x61c, 0x61c), (0x180e, 0x180e), (0x200b, 0x200b), (0x200e, 0x200f),
     (0x2028, 0x202e), (0x2060, 0x206f), (0xfeff, 0xfeff), (0xfff0, 0xfffb), (0x13430, 0x1343f),
     (0x1bca0, 0x1bca3), (0x1d173, 0x1d17a), (0xe0000, 0xe001f), (0xe0080, 0xe00ff),
     (0xe01f0, 0xe0fff)],
    [(0xa, 0xa), (0xd, 0xd)]⟩,
   ⟨["extend", "ex"],
    [.mn, .me],
    [(0x9be, 0x9be), (0x9d7, 0x9d7), (0xb3e, 0xb3e), (0xb57, 0xb57), (0xbbe, 0xbbe),
     (0xbd7, 0xbd7), (0xcc0, 0xcc0), (0xcc2, 0xcc2), (0xcc7, 0xcc8), (0xcca, 0xccb),
     (0xcd5, 0xcd6), (0xd3e, 0xd3e), (0xd57, 0xd57), (0xdcf, 0xdcf), (0xddf, 0xddf),
     (0x1715, 0x1715), (0x1734, 0x1734), (0x1b35, 0x1b35), (0x1b3b, 0x1b3b), (0x1b3d, 0x1b3d),
     (0x1b43, 0x1b44), (0x1baa, 0x1baa), (0x1bf2, 0x1bf3), (0x200c, 0x200c), (0x302e, 0x302f),
     (0xa953, 0xa953), (0xa9c0, 0xa9c0), (0xff9e, 0xff9f), (0x111c0, 0x111c0), (0x11235, 0x11235),
     (0x1133e, 0x1133e), (0x1134d, 0x1134d), (0x11357, 0x11357), (0x113b8, 0x113b8),
     (0x113c2, 0x113c2), (0x113c5, 0x113c5), (0x113c7, 0x113c9), (0x113cf, 0x113cf),
     (0x114b0, 0x114b0), (0x114bd, 0x114bd), (0x115af, 0x115af), (0x116b6, 0x116b6),
     (0x11930, 0x11930), (0x1193d, 0x1193d), (0x11f41, 0x11f41), (0x16ff0, 0x16ff1),
     (0x1d165, 0x1d166), (0x1d16d, 0x1d172), (0x1f3fb, 0x1f3ff), (0xe0020, 0xe007f)],
    []⟩,
   ⟨["l"], [], [(0x1100, 0x115f), (0xa960, 0xa97c)], []⟩,
   ⟨["lf"], [], [(0xa, 0xa)], []⟩,
   ⟨["prepend", "pp"],
    [],
    [(0x600, 0x605), (0x6dd, 0x6dd), (0x70f, 0x70f), (0x890, 0x891), (0x8e2, 0x8e2),
     (0xd4e, 0xd4e), (0x110bd, 0x110bd), (0x110cd, 0x110cd), (0x111c2, 0x111c3),
     (0x113d1, 0x113d1), (0x1193f, 0x1193f), (0x11941, 0x11941), (0x11a3a, 0x11a3a),
     (0x11a84, 0x11a89), (0x11d46, 0x11d46), (0x11f02, 0x11f02)],
    []⟩,
   ⟨["regionalindicator", "ri"], [], [(0x1f1e6, 0x1f1ff)], []⟩,
   ⟨["spacingmark", "sm"],
    [.mc],
    [(0xe33, 0xe33), (0xeb3, 0xeb3)],
    [(0x9be, 0x9be), (0x9d7, 0x9d7), (0xb3e, 0xb3e), (0xb57, 0xb57), (0xbbe, 0xbbe),
     (0xbd7, 0xbd7), (0xcc0, 0xcc0), (0xcc2, 0xcc2), (0xcc7, 0xcc8), (0xcca, 0xccb),
     (0xcd5, 0xcd6), (0xd3e, 0xd3e), (0xd57, 0xd57), (0xdcf, 0xdcf), (0xddf, 0xddf),
     (0x102b, 0x102c), (0x1038, 0x1038), (0x1062, 0x1064), (0x1067, 0x106d), (0x1083, 0x1083),
     (0x1087, 0x108c), (0x108f, 0x108f), (0x109a, 0x109c), (0x1715, 0x1715), (0x1734, 0x1734),
     (0x1a61, 0x1a61), (0x1a63, 0x1a64), (0x1b35, 0x1b35), (0x1b3b, 0x1b3b), (0x1b3d, 0x1b3d),
     (0x1b43, 0x1b44), (0x1baa, 0x1baa), (0x1bf2, 0x1bf3), (0x302e, 0x302f), (0xa953, 0xa953),
     (0xa9c0, 0xa9c0), (0xaa7b, 0xaa7b), (0xaa7d, 0xaa7d), (0x111c0, 0x111c0), (0x11235, 0x11235),
     (0x1133e, 0x1133e), (0x1134d, 0x1134d), (0x11357, 0x11357), (0x113b8, 0x113b8),
     (0x113c2, 0x113c2), (0x113c5, 0x113c5), (0x113c7, 0x113c9), (0x113cf, 0x113cf),
     (0x114b0, 0x114b0), (0x114bd, 0x114bd), (0x115af, 0x115af), (0x116b6, 0x116b6),
     (0x11720, 0x11721), (0x11930, 0x11930), (0x1193d, 0x1193d), (0x11f41, 0x11f41),
     (0x16ff0, 0x16ff1), (0x1d165, 0x1d166), (0x1d16d, 0x1d172)]⟩,
   ⟨["t"], [], [(0x11a8, 0x11ff), (0xd7cb, 0xd7fb)], []⟩,
   ⟨["v"], [], [(0x1160, 0x11a7), (0xd7b0, 0xd7c6), (0x16d63, 0x16d63), (0x16d67, 0x16d6a)], []⟩,
   ⟨["zwj"], [], [(0x200d, 0x200d)], []⟩,
   ⟨["lv"], [], syllables false, []⟩,
   ⟨["lvt"], [], syllables true, []⟩]

set_option maxRecDepth 10000 in
/-- Roles in a word. -/
def wordRoles : List Property :=
  [⟨["aletter", "le"],
    [.lu, .ll, .lt, .lm, .lo, .nl],
    [(0x2c2, 0x2c5), (0x2d2, 0x2d7), (0x2de, 0x2df), (0x2e5, 0x2eb), (0x2ed, 0x2ed),
     (0x2ef, 0x2ff), (0x55a, 0x55c), (0x55e, 0x55e), (0x58a, 0x58a), (0x5f3, 0x5f3),
     (0x70f, 0x70f), (0x24b6, 0x24e9), (0xa708, 0xa716), (0xa720, 0xa721), (0xa789, 0xa78a),
     (0xab5b, 0xab5b), (0x1f130, 0x1f149), (0x1f150, 0x1f169), (0x1f170, 0x1f189)],
    [(0x5d0, 0x5ea), (0x5ef, 0x5f2), (0xe01, 0xe30), (0xe32, 0xe33), (0xe40, 0xe46),
     (0xe81, 0xe82), (0xe84, 0xe84), (0xe86, 0xe8a), (0xe8c, 0xea3), (0xea5, 0xea5),
     (0xea7, 0xeb0), (0xeb2, 0xeb3), (0xebd, 0xebd), (0xec0, 0xec4), (0xec6, 0xec6),
     (0xedc, 0xedf), (0x1000, 0x102a), (0x103f, 0x103f), (0x1050, 0x1055), (0x105a, 0x105d),
     (0x1061, 0x1061), (0x1065, 0x1066), (0x106e, 0x1070), (0x1075, 0x1081), (0x108e, 0x108e),
     (0x1780, 0x17b3), (0x17d7, 0x17d7), (0x17dc, 0x17dc), (0x1950, 0x196d), (0x1970, 0x1974),
     (0x1980, 0x19ab), (0x19b0, 0x19c9), (0x1a20, 0x1a54), (0x1aa7, 0x1aa7), (0x3006, 0x3007),
     (0x3021, 0x3029), (0x3031, 0x3035), (0x3038, 0x303a), (0x3041, 0x3096), (0x309d, 0x309f),
     (0x30a1, 0x30fa), (0x30fc, 0x30ff), (0x31f0, 0x31ff), (0x3400, 0x4dbf), (0x4e00, 0x9fff),
     (0xa9e0, 0xa9e4), (0xa9e6, 0xa9ef), (0xa9fa, 0xa9fe), (0xaa60, 0xaa76), (0xaa7a, 0xaa7a),
     (0xaa7e, 0xaaaf), (0xaab1, 0xaab1), (0xaab5, 0xaab6), (0xaab9, 0xaabd), (0xaac0, 0xaac0),
     (0xaac2, 0xaac2), (0xaadb, 0xaadd), (0xf900, 0xfa6d), (0xfa70, 0xfad9), (0xfb1d, 0xfb1d),
     (0xfb1f, 0xfb28), (0xfb2a, 0xfb36), (0xfb38, 0xfb3c), (0xfb3e, 0xfb3e), (0xfb40, 0xfb41),
     (0xfb43, 0xfb44), (0xfb46, 0xfb4f), (0xff66, 0xff9f), (0x11700, 0x1171a), (0x11740, 0x11746),
     (0x17000, 0x187f7), (0x18800, 0x18cd5), (0x18cff, 0x18d08), (0x1aff0, 0x1aff3),
     (0x1aff5, 0x1affb), (0x1affd, 0x1affe), (0x1b000, 0x1b122), (0x1b132, 0x1b132),
     (0x1b150, 0x1b152), (0x1b155, 0x1b155), (0x1b164, 0x1b167), (0x1b170, 0x1b2fb),
     (0x20000, 0x2a6df), (0x2a700, 0x2b739), (0x2b740, 0x2b81d), (0x2b820, 0x2cea1),
     (0x2ceb0, 0x2ebe0), (0x2ebf0, 0x2ee5d), (0x2f800, 0x2fa1d), (0x30000, 0x3134a),
     (0x31350, 0x323af)]⟩,
   ⟨["cr"], [], [(0xd, 0xd)], []⟩,
   ⟨["doublequote", "dq"], [], [(0x22, 0x22)], []⟩,
   ⟨["extend"],
    [.mn, .mc, .me],
    [(0x200c, 0x200c), (0xff9e, 0xff9f), (0x1f3fb, 0x1f3ff), (0xe0020, 0xe007f)],
    []⟩,
   ⟨["extendnumlet", "ex"], [.pc], [(0x202f, 0x202f)], []⟩,
   ⟨["format", "fo"],
    [.cf],
    [],
    [(0x600, 0x605), (0x6dd, 0x6dd), (0x70f, 0x70f), (0x890, 0x891), (0x8e2, 0x8e2),
     (0x200b, 0x200d), (0x110bd, 0x110bd), (0x110cd, 0x110cd), (0xe0020, 0xe007f)]⟩,
   ⟨["hebrewletter", "hl"],
    [],
    [(0x5d0, 0x5ea), (0x5ef, 0x5f2), (0xfb1d, 0xfb1d), (0xfb1f, 0xfb28), (0xfb2a, 0xfb36),
     (0xfb38, 0xfb3c), (0xfb3e, 0xfb3e), (0xfb40, 0xfb41), (0xfb43, 0xfb44), (0xfb46, 0xfb4f)],
    []⟩,
   ⟨["katakana", "ka"],
    [],
    [(0x3031, 0x3035), (0x309b, 0x309c), (0x30a0, 0x30fa), (0x30fc, 0x30ff), (0x31f0, 0x31ff),
     (0x32d0, 0x32fe), (0x3300, 0x3357), (0xff66, 0xff9d), (0x1aff0, 0x1aff3), (0x1aff5, 0x1affb),
     (0x1affd, 0x1affe), (0x1b000, 0x1b000), (0x1b120, 0x1b122), (0x1b155, 0x1b155),
     (0x1b164, 0x1b167)],
    []⟩,
   ⟨["lf"], [], [(0xa, 0xa)], []⟩,
   ⟨["midletter", "ml"],
    [],
    [(0x3a, 0x3a), (0xb7, 0xb7), (0x387, 0x387), (0x55f, 0x55f), (0x5f4, 0x5f4), (0x2027, 0x2027),
     (0xfe13, 0xfe13), (0xfe55, 0xfe55), (0xff1a, 0xff1a)],
    []⟩,
   ⟨["midnum", "mn"],
    [],
    [(0x2c, 0x2c), (0x3b, 0x3b), (0x37e, 0x37e), (0x589, 0x589), (0x60c, 0x60d), (0x66c, 0x66c),
     (0x7f8, 0x7f8), (0x2044, 0x2044), (0xfe50, 0xfe50), (0xfe54, 0xfe54), (0xff0c, 0xff0c),
     (0xff1b, 0xff1b)],
    []⟩,
   ⟨["midnumlet", "mb"],
    [],
    [(0x2e, 0x2e), (0x2018, 0x2019), (0x2024, 0x2024), (0xfe52, 0xfe52), (0xff07, 0xff07),
     (0xff0e, 0xff0e)],
    []⟩,
   ⟨["newline", "nl"], [], [(0xb, 0xc), (0x85, 0x85), (0x2028, 0x2029)], []⟩,
   ⟨["numeric", "nu"],
    [.nd],
    [(0x600, 0x605), (0x66b, 0x66b), (0x6dd, 0x6dd), (0x890, 0x891), (0x8e2, 0x8e2),
     (0x19da, 0x19da), (0x110bd, 0x110bd), (0x110cd, 0x110cd)],
    []⟩,
   ⟨["regionalindicator", "ri"], [], [(0x1f1e6, 0x1f1ff)], []⟩,
   ⟨["singlequote", "sq"], [], [(0x27, 0x27)], []⟩,
   ⟨["wsegspace"], [.zs], [], [(0xa0, 0xa0), (0x2007, 0x2007), (0x202f, 0x202f)]⟩,
   ⟨["zwj"], [], [(0x200d, 0x200d)], []⟩]

set_option maxRecDepth 10000 in
/-- Roles in a sentence. -/
def sentenceRoles : List Property :=
  [⟨["aterm", "at"], [], [(0x2e, 0x2e), (0x2024, 0x2024), (0xfe52, 0xfe52), (0xff0e, 0xff0e)], []⟩,
   ⟨["cr"], [], [(0xd, 0xd)], []⟩,
   ⟨["close", "cl"],
    [],
    [(0x22, 0x22), (0x27, 0x29), (0x5b, 0x5b), (0x5d, 0x5d), (0x7b, 0x7b), (0x7d, 0x7d),
     (0xab, 0xab), (0xbb, 0xbb), (0xf3a, 0xf3d), (0x169b, 0x169c), (0x2018, 0x201f),
     (0x2039, 0x203a), (0x2045, 0x2046), (0x207d, 0x207e), (0x208d, 0x208e), (0x2308, 0x230b),
     (0x2329, 0x232a), (0x275b, 0x2760), (0x2768, 0x2775), (0x27c5, 0x27c6), (0x27e6, 0x27ef),
     (0x2983, 0x2998), (0x29d8, 0x29db), (0x29fc, 0x29fd), (0x2e00, 0x2e0d), (0x2e1c, 0x2e1d),
     (0x2e20, 0x2e29), (0x2e42, 0x2e42), (0x2e55, 0x2e5c), (0x3008, 0x3011), (0x3014, 0x301b),
     (0x301d, 0x301f), (0xfd3e, 0xfd3f), (0xfe17, 0xfe18), (0xfe35, 0xfe44), (0xfe47, 0xfe48),
     (0xfe59, 0xfe5e), (0xff08, 0xff09), (0xff3b, 0xff3b), (0xff3d, 0xff3d), (0xff5b, 0xff5b),
     (0xff5d, 0xff5d), (0xff5f, 0xff60), (0xff62, 0xff63), (0x1f676, 0x1f678)],
    []⟩,
   ⟨["extend", "ex"],
    [.mn, .mc, .me],
    [(0x200c, 0x200d), (0xff9e, 0xff9f), (0xe0020, 0xe007f)],
    []⟩,
   ⟨["format", "fo"],
    [.cf],
    [],
    [(0x600, 0x605), (0x6dd, 0x6dd), (0x890, 0x891), (0x8e2, 0x8e2), (0x200c, 0x200d),
     (0x110bd, 0x110bd), (0x110cd, 0x110cd), (0xe0020, 0xe007f)]⟩,
   ⟨["lf"], [], [(0xa, 0xa)], []⟩,
   ⟨["lower", "lo"],
    [.ll],
    [(0xaa, 0xaa), (0xba, 0xba), (0x2b0, 0x2b8), (0x2c0, 0x2c1), (0x2e0, 0x2e4), (0x37a, 0x37a),
     (0x10fc, 0x10fc), (0x1d2c, 0x1d6a), (0x1d78, 0x1d78), (0x1d9b, 0x1dbf), (0x2071, 0x2071),
     (0x207f, 0x207f), (0x2090, 0x209c), (0x2170, 0x217f), (0x24d0, 0x24e9), (0x2c7c, 0x2c7d),
     (0xa69c, 0xa69d), (0xa770, 0xa770), (0xa7f2, 0xa7f4), (0xa7f8, 0xa7f9), (0xab5c, 0xab5f),
     (0xab69, 0xab69), (0x10780, 0x10780), (0x10783, 0x10785), (0x10787, 0x107b0),
     (0x107b2, 0x107ba), (0x1e030, 0x1e06d)],
    [(0x10d0, 0x10fa), (0x10fd, 0x10ff)]⟩,
   ⟨["numeric", "nu"],
    [.nd],
    [(0x600, 0x605), (0x66b, 0x66c), (0x6dd, 0x6dd), (0x890, 0x891), (0x8e2, 0x8e2),
     (0x19da, 0x19da), (0x110bd, 0x110bd), (0x110cd, 0x110cd)],
    []⟩,
   ⟨["oletter", "le"],
    [.lm, .lo, .nl],
    [(0x5f3, 0x5f3), (0x10d0, 0x10fa), (0x10fd, 0x10ff), (0x1c90, 0x1cba), (0x1cbd, 0x1cbf)],
    [(0xaa, 0xaa), (0xba, 0xba), (0x2b0, 0x2b8), (0x2c0, 0x2c1), (0x2e0, 0x2e4), (0x37a, 0x37a),
     (0x10fc, 0x10fc), (0x1d2c, 0x1d6a), (0x1d78, 0x1d78), (0x1d9b, 0x1dbf), (0x2071, 0x2071),
     (0x207f, 0x207f), (0x2090, 0x209c), (0x2160, 0x217f), (0x2c7c, 0x2c7d), (0xa69c, 0xa69d),
     (0xa770, 0xa770), (0xa7f2, 0xa7f4), (0xa7f8, 0xa7f9), (0xab5c, 0xab5f), (0xab69, 0xab69),
     (0xff9e, 0xff9f), (0x10780, 0x10780), (0x10783, 0x10785), (0x10787, 0x107b0),
     (0x107b2, 0x107ba), (0x1e030, 0x1e06d)]⟩,
   ⟨["scontinue", "sc"],
    [],
    [(0x2c, 0x2d), (0x3a, 0x3b), (0x37e, 0x37e), (0x55d, 0x55d), (0x60c, 0x60d), (0x7f8, 0x7f8),
     (0x1802, 0x1802), (0x1808, 0x1808), (0x2013, 0x2014), (0x3001, 0x3001), (0xfe10, 0xfe11),
     (0xfe13, 0xfe14), (0xfe31, 0xfe32), (0xfe50, 0xfe51), (0xfe54, 0xfe55), (0xfe58, 0xfe58),
     (0xfe63, 0xfe63), (0xff0c, 0xff0d), (0xff1a, 0xff1b), (0xff64, 0xff64)],
    []⟩,
   ⟨["sterm", "st"],
    [],
    [(0x21, 0x21), (0x3f, 0x3f), (0x589, 0x589), (0x61d, 0x61f), (0x6d4, 0x6d4), (0x700, 0x702),
     (0x7f9, 0x7f9), (0x837, 0x837), (0x839, 0x839), (0x83d, 0x83e), (0x964, 0x965),
     (0x104a, 0x104b), (0x1362, 0x1362), (0x1367, 0x1368), (0x166e, 0x166e), (0x1735, 0x1736),
     (0x17d4, 0x17d5), (0x1803, 0x1803), (0x1809, 0x1809), (0x1944, 0x1945), (0x1aa8, 0x1aab),
     (0x1b4e, 0x1b4f), (0x1b5a, 0x1b5b), (0x1b5e, 0x1b5f), (0x1b7d, 0x1b7f), (0x1c3b, 0x1c3c),
     (0x1c7e, 0x1c7f), (0x203c, 0x203d), (0x2047, 0x2049), (0x2cf9, 0x2cfb), (0x2e2e, 0x2e2e),
     (0x2e3c, 0x2e3c), (0x2e53, 0x2e54), (0x3002, 0x3002), (0xa4ff, 0xa4ff), (0xa60e, 0xa60f),
     (0xa6f3, 0xa6f3), (0xa6f7, 0xa6f7), (0xa876, 0xa877), (0xa8ce, 0xa8cf), (0xa92f, 0xa92f),
     (0xa9c8, 0xa9c9), (0xaa5d, 0xaa5f), (0xaaf0, 0xaaf1), (0xabeb, 0xabeb), (0xfe12, 0xfe12),
     (0xfe15, 0xfe16), (0xfe56, 0xfe57), (0xff01, 0xff01), (0xff1f, 0xff1f), (0xff61, 0xff61),
     (0x10a56, 0x10a57), (0x10f55, 0x10f59), (0x10f86, 0x10f89), (0x11047, 0x11048),
     (0x110be, 0x110c1), (0x11141, 0x11143), (0x111c5, 0x111c6), (0x111cd, 0x111cd),
     (0x111de, 0x111df), (0x11238, 0x11239), (0x1123b, 0x1123c), (0x112a9, 0x112a9),
     (0x113d4, 0x113d5), (0x1144b, 0x1144c), (0x115c2, 0x115c3), (0x115c9, 0x115d7),
     (0x11641, 0x11642), (0x1173c, 0x1173e), (0x11944, 0x11944), (0x11946, 0x11946),
     (0x11a42, 0x11a43), (0x11a9b, 0x11a9c), (0x11c41, 0x11c42), (0x11ef7, 0x11ef8),
     (0x11f43, 0x11f44), (0x16a6e, 0x16a6f), (0x16af5, 0x16af5), (0x16b37, 0x16b38),
     (0x16b44, 0x16b44), (0x16d6e, 0x16d6f), (0x16e98, 0x16e98), (0x1bc9f, 0x1bc9f),
     (0x1da88, 0x1da88)],
    []⟩,
   ⟨["sep", "se"], [], [(0x85, 0x85), (0x2028, 0x2029)], []⟩,
   ⟨["sp"], [.zs], [(0x9, 0x9), (0xb, 0xc)], []⟩,
   ⟨["upper", "up"],
    [.lu, .lt],
    [(0x2160, 0x216f), (0x24b6, 0x24cf), (0x1f130, 0x1f149), (0x1f150, 0x1f169),
     (0x1f170, 0x1f189)],
    [(0x1c90, 0x1cba), (0x1cbd, 0x1cbf)]⟩]

end Pinpoint.Text
