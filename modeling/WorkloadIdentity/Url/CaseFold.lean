/-! Host names are compared without regard to case and width, so each character has one form that
stands for all its variants. -/

namespace WorkloadIdentity.CaseFold

/-- Runs of characters that fold alike: first and last code point, step between the members of the
run, and what the first one folds to. -/
def runs : Array (Nat × Nat × Nat × Nat) := #[
  (0xa0, 0xa0, 1, 0x20), (0xaa, 0xaa, 1, 0x61), (0xb2, 0xb3, 1, 0x32), (0xb5, 0xb5, 1, 0x3bc),
  (0xb9, 0xb9, 1, 0x31), (0xba, 0xba, 1, 0x6f), (0xc0, 0xd6, 1, 0xe0), (0xd8, 0xde, 1, 0xf8),
  (0x100, 0x12e, 2, 0x101), (0x134, 0x136, 2, 0x135), (0x139, 0x13d, 2, 0x13a),
  (0x141, 0x147, 2, 0x142), (0x14a, 0x176, 2, 0x14b), (0x178, 0x178, 1, 0xff),
  (0x179, 0x17d, 2, 0x17a), (0x17f, 0x17f, 1, 0x73), (0x181, 0x181, 1, 0x253),
  (0x182, 0x184, 2, 0x183), (0x186, 0x186, 1, 0x254), (0x187, 0x187, 1, 0x188),
  (0x189, 0x18a, 1, 0x256), (0x18b, 0x18b, 1, 0x18c), (0x18e, 0x18e, 1, 0x1dd),
  (0x18f, 0x18f, 1, 0x259), (0x190, 0x190, 1, 0x25b), (0x191, 0x191, 1, 0x192),
  (0x193, 0x193, 1, 0x260), (0x194, 0x194, 1, 0x263), (0x196, 0x196, 1, 0x269),
  (0x197, 0x197, 1, 0x268), (0x198, 0x198, 1, 0x199), (0x19c, 0x19c, 1, 0x26f),
  (0x19d, 0x19d, 1, 0x272), (0x19f, 0x19f, 1, 0x275), (0x1a0, 0x1a4, 2, 0x1a1),
  (0x1a6, 0x1a6, 1, 0x280), (0x1a7, 0x1a7, 1, 0x1a8), (0x1a9, 0x1a9, 1, 0x283),
  (0x1ac, 0x1ac, 1, 0x1ad), (0x1ae, 0x1ae, 1, 0x288), (0x1af, 0x1af, 1, 0x1b0),
  (0x1b1, 0x1b2, 1, 0x28a), (0x1b3, 0x1b5, 2, 0x1b4), (0x1b7, 0x1b7, 1, 0x292),
  (0x1b8, 0x1b8, 1, 0x1b9), (0x1bc, 0x1bc, 1, 0x1bd), (0x1cd, 0x1db, 2, 0x1ce),
  (0x1de, 0x1ee, 2, 0x1df), (0x1f4, 0x1f4, 1, 0x1f5), (0x1f6, 0x1f6, 1, 0x195),
  (0x1f7, 0x1f7, 1, 0x1bf), (0x1f8, 0x21e, 2, 0x1f9), (0x220, 0x220, 1, 0x19e),
  (0x222, 0x232, 2, 0x223), (0x23a, 0x23a, 1, 0x2c65), (0x23b, 0x23b, 1, 0x23c),
  (0x23d, 0x23d, 1, 0x19a), (0x23e, 0x23e, 1, 0x2c66), (0x241, 0x241, 1, 0x242),
  (0x243, 0x243, 1, 0x180), (0x244, 0x244, 1, 0x289), (0x245, 0x245, 1, 0x28c),
  (0x246, 0x24e, 2, 0x247), (0x2b0, 0x2b0, 1, 0x68), (0x2b1, 0x2b1, 1, 0x266),
  (0x2b2, 0x2b2, 1, 0x6a), (0x2b3, 0x2b3, 1, 0x72), (0x2b4, 0x2b4, 1, 0x279),
  (0x2b5, 0x2b5, 1, 0x27b), (0x2b6, 0x2b6, 1, 0x281), (0x2b7, 0x2b7, 1, 0x77),
  (0x2b8, 0x2b8, 1, 0x79), (0x2e0, 0x2e0, 1, 0x263), (0x2e1, 0x2e1, 1, 0x6c),
  (0x2e2, 0x2e2, 1, 0x73), (0x2e3, 0x2e3, 1, 0x78), (0x2e4, 0x2e4, 1, 0x295),
  (0x340, 0x341, 1, 0x300), (0x343, 0x343, 1, 0x313), (0x345, 0x345, 1, 0x3b9),
  (0x370, 0x372, 2, 0x371), (0x374, 0x374, 1, 0x2b9), (0x376, 0x376, 1, 0x377),
  (0x37e, 0x37e, 1, 0x3b), (0x37f, 0x37f, 1, 0x3f3), (0x386, 0x386, 1, 0x3ac),
  (0x387, 0x387, 1, 0xb7), (0x388, 0x38a, 1, 0x3ad), (0x38c, 0x38c, 1, 0x3cc),
  (0x38e, 0x38f, 1, 0x3cd), (0x391, 0x3a1, 1, 0x3b1), (0x3a3, 0x3ab, 1, 0x3c3),
  (0x3cf, 0x3cf, 1, 0x3d7), (0x3d0, 0x3d0, 1, 0x3b2), (0x3d1, 0x3d1, 1, 0x3b8),
  (0x3d2, 0x3d2, 1, 0x3c5), (0x3d3, 0x3d3, 1, 0x3cd), (0x3d4, 0x3d4, 1, 0x3cb),
  (0x3d5, 0x3d5, 1, 0x3c6), (0x3d6, 0x3d6, 1, 0x3c0), (0x3d8, 0x3ee, 2, 0x3d9),
  (0x3f0, 0x3f0, 1, 0x3ba), (0x3f1, 0x3f1, 1, 0x3c1), (0x3f2, 0x3f2, 1, 0x3c3),
  (0x3f4, 0x3f4, 1, 0x3b8), (0x3f5, 0x3f5, 1, 0x3b5), (0x3f7, 0x3f7, 1, 0x3f8),
  (0x3f9, 0x3f9, 1, 0x3c3), (0x3fa, 0x3fa, 1, 0x3fb), (0x3fd, 0x3ff, 1, 0x37b),
  (0x400, 0x40f, 1, 0x450), (0x410, 0x42f, 1, 0x430), (0x460, 0x480, 2, 0x461),
  (0x48a, 0x4be, 2, 0x48b), (0x4c0, 0x4c0, 1, 0x4cf), (0x4c1, 0x4cd, 2, 0x4c2),
  (0x4d0, 0x52e, 2, 0x4d1), (0x531, 0x556, 1, 0x561), (0x10a0, 0x10c5, 1, 0x2d00),
  (0x10c7, 0x10c7, 1, 0x2d27), (0x10cd, 0x10cd, 1, 0x2d2d), (0x10fc, 0x10fc, 1, 0x10dc),
  (0x13f8, 0x13fd, 1, 0x13f0), (0x1e00, 0x1e94, 2, 0x1e01), (0x1e9b, 0x1e9b, 1, 0x1e61),
  (0x1ea0, 0x1efe, 2, 0x1ea1), (0x1f08, 0x1f0f, 1, 0x1f00), (0x1f18, 0x1f1d, 1, 0x1f10),
  (0x1f28, 0x1f2f, 1, 0x1f20), (0x1f38, 0x1f3f, 1, 0x1f30), (0x1f48, 0x1f4d, 1, 0x1f40),
  (0x1f59, 0x1f5f, 2, 0x1f51), (0x1f68, 0x1f6f, 1, 0x1f60), (0x1f71, 0x1f71, 1, 0x3ac),
  (0x1f73, 0x1f73, 1, 0x3ad), (0x1f75, 0x1f75, 1, 0x3ae), (0x1f77, 0x1f77, 1, 0x3af),
  (0x1f79, 0x1f79, 1, 0x3cc), (0x1f7b, 0x1f7b, 1, 0x3cd), (0x1f7d, 0x1f7d, 1, 0x3ce),
  (0x1fb8, 0x1fb9, 1, 0x1fb0), (0x1fba, 0x1fba, 1, 0x1f70), (0x1fbb, 0x1fbb, 1, 0x3ac),
  (0x1fbe, 0x1fbe, 1, 0x3b9), (0x1fc8, 0x1fc8, 1, 0x1f72), (0x1fc9, 0x1fc9, 1, 0x3ad),
  (0x1fca, 0x1fca, 1, 0x1f74), (0x1fcb, 0x1fcb, 1, 0x3ae), (0x1fd3, 0x1fd3, 1, 0x390),
  (0x1fd8, 0x1fd9, 1, 0x1fd0), (0x1fda, 0x1fda, 1, 0x1f76), (0x1fdb, 0x1fdb, 1, 0x3af),
  (0x1fe3, 0x1fe3, 1, 0x3b0), (0x1fe8, 0x1fe9, 1, 0x1fe0), (0x1fea, 0x1fea, 1, 0x1f7a),
  (0x1feb, 0x1feb, 1, 0x3cd), (0x1fec, 0x1fec, 1, 0x1fe5), (0x1fef, 0x1fef, 1, 0x60),
  (0x1ff8, 0x1ff8, 1, 0x1f78), (0x1ff9, 0x1ff9, 1, 0x3cc), (0x1ffa, 0x1ffa, 1, 0x1f7c),
  (0x1ffb, 0x1ffb, 1, 0x3ce), (0x2000, 0x2000, 1, 0x20), (0x2001, 0x2001, 1, 0x20),
  (0x2002, 0x2002, 1, 0x20), (0x2003, 0x2003, 1, 0x20), (0x2004, 0x2004, 1, 0x20),
  (0x2005, 0x2005, 1, 0x20), (0x2006, 0x2006, 1, 0x20), (0x2007, 0x2007, 1, 0x20),
  (0x2008, 0x2008, 1, 0x20), (0x2009, 0x2009, 1, 0x20), (0x200a, 0x200a, 1, 0x20),
  (0x2011, 0x2011, 1, 0x2010), (0x2024, 0x2024, 1, 0x2e), (0x202f, 0x202f, 1, 0x20),
  (0x205f, 0x205f, 1, 0x20), (0x2070, 0x2070, 1, 0x30), (0x2071, 0x2071, 1, 0x69),
  (0x2074, 0x2079, 1, 0x34), (0x207a, 0x207a, 1, 0x2b), (0x207b, 0x207b, 1, 0x2212),
  (0x207c, 0x207c, 1, 0x3d), (0x207d, 0x207e, 1, 0x28), (0x207f, 0x207f, 1, 0x6e),
  (0x2080, 0x2089, 1, 0x30), (0x208a, 0x208a, 1, 0x2b), (0x208b, 0x208b, 1, 0x2212),
  (0x208c, 0x208c, 1, 0x3d), (0x208d, 0x208e, 1, 0x28), (0x2090, 0x2090, 1, 0x61),
  (0x2091, 0x2091, 1, 0x65), (0x2092, 0x2092, 1, 0x6f), (0x2093, 0x2093, 1, 0x78),
  (0x2094, 0x2094, 1, 0x259), (0x2095, 0x2095, 1, 0x68), (0x2096, 0x2099, 1, 0x6b),
  (0x209a, 0x209a, 1, 0x70), (0x209b, 0x209c, 1, 0x73), (0x2102, 0x2102, 1, 0x63),
  (0x2107, 0x2107, 1, 0x25b), (0x210a, 0x210b, 1, 0x67), (0x210c, 0x210c, 1, 0x68),
  (0x210d, 0x210d, 1, 0x68), (0x210e, 0x210e, 1, 0x68), (0x210f, 0x210f, 1, 0x127),
  (0x2110, 0x2110, 1, 0x69), (0x2111, 0x2111, 1, 0x69), (0x2112, 0x2112, 1, 0x6c),
  (0x2113, 0x2115, 2, 0x6c), (0x2119, 0x211b, 1, 0x70), (0x211c, 0x211c, 1, 0x72),
  (0x211d, 0x211d, 1, 0x72), (0x2124, 0x2124, 1, 0x7a), (0x2126, 0x2126, 1, 0x3c9),
  (0x2128, 0x2128, 1, 0x7a), (0x212a, 0x212a, 1, 0x6b), (0x212b, 0x212b, 1, 0xe5),
  (0x212c, 0x212d, 1, 0x62), (0x212f, 0x212f, 1, 0x65), (0x2130, 0x2131, 1, 0x65),
  (0x2132, 0x2132, 1, 0x214e), (0x2133, 0x2133, 1, 0x6d), (0x2134, 0x2134, 1, 0x6f),
  (0x2135, 0x2138, 1, 0x5d0), (0x2139, 0x2139, 1, 0x69), (0x213c, 0x213c, 1, 0x3c0),
  (0x213d, 0x213d, 1, 0x3b3), (0x213e, 0x213e, 1, 0x3b3), (0x213f, 0x213f, 1, 0x3c0),
  (0x2140, 0x2140, 1, 0x2211), (0x2145, 0x2145, 1, 0x64), (0x2146, 0x2147, 1, 0x64),
  (0x2148, 0x2149, 1, 0x69), (0x2160, 0x2160, 1, 0x69), (0x2164, 0x2164, 1, 0x76),
  (0x2169, 0x2169, 1, 0x78), (0x216c, 0x216c, 1, 0x6c), (0x216d, 0x216e, 1, 0x63),
  (0x216f, 0x216f, 1, 0x6d), (0x2170, 0x2170, 1, 0x69), (0x2174, 0x2174, 1, 0x76),
  (0x2179, 0x2179, 1, 0x78), (0x217c, 0x217c, 1, 0x6c), (0x217d, 0x217e, 1, 0x63),
  (0x217f, 0x217f, 1, 0x6d), (0x2183, 0x2183, 1, 0x2184), (0x2460, 0x2468, 1, 0x31),
  (0x24b6, 0x24cf, 1, 0x61), (0x24d0, 0x24e9, 1, 0x61), (0x24ea, 0x24ea, 1, 0x30),
  (0x2c00, 0x2c2f, 1, 0x2c30), (0x2c60, 0x2c60, 1, 0x2c61), (0x2c62, 0x2c62, 1, 0x26b),
  (0x2c63, 0x2c63, 1, 0x1d7d), (0x2c64, 0x2c64, 1, 0x27d), (0x2c67, 0x2c6b, 2, 0x2c68),
  (0x2c6d, 0x2c6d, 1, 0x251), (0x2c6e, 0x2c6e, 1, 0x271), (0x2c6f, 0x2c6f, 1, 0x250),
  (0x2c70, 0x2c70, 1, 0x252), (0x2c72, 0x2c72, 1, 0x2c73), (0x2c75, 0x2c75, 1, 0x2c76),
  (0x2c7c, 0x2c7c, 1, 0x6a), (0x2c7d, 0x2c7d, 1, 0x76), (0x2c7e, 0x2c7f, 1, 0x23f),
  (0x2c80, 0x2ce2, 2, 0x2c81), (0x2ceb, 0x2ced, 2, 0x2cec), (0x2cf2, 0x2cf2, 1, 0x2cf3),
  (0x2d6f, 0x2d6f, 1, 0x2d61), (0xa640, 0xa66c, 2, 0xa641), (0xa680, 0xa69a, 2, 0xa681),
  (0xa69c, 0xa69c, 1, 0x44a), (0xa69d, 0xa69d, 1, 0x44c), (0xa722, 0xa72e, 2, 0xa723),
  (0xa732, 0xa76e, 2, 0xa733), (0xa770, 0xa770, 1, 0xa76f), (0xa779, 0xa77b, 2, 0xa77a),
  (0xa77d, 0xa77d, 1, 0x1d79), (0xa77e, 0xa786, 2, 0xa77f), (0xa78b, 0xa78b, 1, 0xa78c),
  (0xa78d, 0xa78d, 1, 0x265), (0xa790, 0xa792, 2, 0xa791), (0xa796, 0xa7a8, 2, 0xa797),
  (0xa7aa, 0xa7aa, 1, 0x266), (0xa7ab, 0xa7ab, 1, 0x25c), (0xa7ac, 0xa7ac, 1, 0x261),
  (0xa7ad, 0xa7ad, 1, 0x26c), (0xa7ae, 0xa7ae, 1, 0x26a), (0xa7b0, 0xa7b0, 1, 0x29e),
  (0xa7b1, 0xa7b1, 1, 0x287), (0xa7b2, 0xa7b2, 1, 0x29d), (0xa7b3, 0xa7b3, 1, 0xab53),
  (0xa7b4, 0xa7c2, 2, 0xa7b5), (0xa7c4, 0xa7c4, 1, 0xa794), (0xa7c5, 0xa7c5, 1, 0x282),
  (0xa7c6, 0xa7c6, 1, 0x1d8e), (0xa7c7, 0xa7c9, 2, 0xa7c8), (0xa7d0, 0xa7d0, 1, 0xa7d1),
  (0xa7d6, 0xa7d8, 2, 0xa7d7), (0xa7f2, 0xa7f2, 1, 0x63), (0xa7f3, 0xa7f3, 1, 0x66),
  (0xa7f4, 0xa7f4, 1, 0x71), (0xa7f5, 0xa7f5, 1, 0xa7f6), (0xa7f8, 0xa7f8, 1, 0x127),
  (0xa7f9, 0xa7f9, 1, 0x153), (0xff01, 0xff20, 1, 0x21), (0xff21, 0xff3a, 1, 0x61),
  (0xff3b, 0xff5e, 1, 0x5b), (0xff5f, 0xff60, 1, 0x2985), (0xff61, 0xff61, 1, 0x3002),
  (0xff62, 0xff63, 1, 0x300c), (0xff64, 0xff64, 1, 0x3001), (0xff65, 0xff65, 1, 0x30fb),
  (0xff66, 0xff66, 1, 0x30f2), (0xff67, 0xff67, 1, 0x30a1), (0xff68, 0xff68, 1, 0x30a3),
  (0xff69, 0xff69, 1, 0x30a5), (0xff6a, 0xff6a, 1, 0x30a7), (0xff6b, 0xff6b, 1, 0x30a9),
  (0xff6c, 0xff6c, 1, 0x30e3), (0xff6d, 0xff6d, 1, 0x30e5), (0xff6e, 0xff6e, 1, 0x30e7),
  (0xff6f, 0xff6f, 1, 0x30c3), (0xff70, 0xff70, 1, 0x30fc), (0xff71, 0xff71, 1, 0x30a2),
  (0xff72, 0xff72, 1, 0x30a4), (0xff73, 0xff73, 1, 0x30a6), (0xff74, 0xff74, 1, 0x30a8),
  (0xff75, 0xff76, 1, 0x30aa), (0xff77, 0xff77, 1, 0x30ad), (0xff78, 0xff78, 1, 0x30af),
  (0xff79, 0xff79, 1, 0x30b1), (0xff7a, 0xff7a, 1, 0x30b3), (0xff7b, 0xff7b, 1, 0x30b5),
  (0xff7c, 0xff7c, 1, 0x30b7), (0xff7d, 0xff7d, 1, 0x30b9), (0xff7e, 0xff7e, 1, 0x30bb),
  (0xff7f, 0xff7f, 1, 0x30bd), (0xff80, 0xff80, 1, 0x30bf), (0xff81, 0xff81, 1, 0x30c1),
  (0xff82, 0xff82, 1, 0x30c4), (0xff83, 0xff83, 1, 0x30c6), (0xff84, 0xff84, 1, 0x30c8),
  (0xff85, 0xff8a, 1, 0x30ca), (0xff8b, 0xff8b, 1, 0x30d2), (0xff8c, 0xff8c, 1, 0x30d5),
  (0xff8d, 0xff8d, 1, 0x30d8), (0xff8e, 0xff8e, 1, 0x30db), (0xff8f, 0xff93, 1, 0x30de),
  (0xff94, 0xff94, 1, 0x30e4), (0xff95, 0xff95, 1, 0x30e6), (0xff96, 0xff9b, 1, 0x30e8),
  (0xff9c, 0xff9c, 1, 0x30ef), (0xff9d, 0xff9d, 1, 0x30f3), (0xff9e, 0xff9f, 1, 0x3099),
  (0xffa1, 0xffa2, 1, 0x1100), (0xffa3, 0xffa3, 1, 0x11aa), (0xffa4, 0xffa4, 1, 0x1102),
  (0xffa5, 0xffa6, 1, 0x11ac), (0xffa7, 0xffa9, 1, 0x1103), (0xffaa, 0xffaf, 1, 0x11b0),
  (0xffb0, 0xffb0, 1, 0x111a), (0xffb1, 0xffb3, 1, 0x1106), (0xffb4, 0xffb4, 1, 0x1121),
  (0xffb5, 0xffbe, 1, 0x1109), (0xffc2, 0xffc7, 1, 0x1161), (0xffca, 0xffcf, 1, 0x1167),
  (0xffd2, 0xffd7, 1, 0x116d), (0xffda, 0xffdc, 1, 0x1173), (0xffe0, 0xffe1, 1, 0xa2),
  (0xffe2, 0xffe2, 1, 0xac), (0xffe4, 0xffe4, 1, 0xa6), (0xffe5, 0xffe5, 1, 0xa5),
  (0xffe6, 0xffe6, 1, 0x20a9), (0xffe8, 0xffe8, 1, 0x2502), (0xffe9, 0xffec, 1, 0x2190),
  (0xffed, 0xffed, 1, 0x25a0), (0xffee, 0xffee, 1, 0x25cb), (0x10400, 0x10427, 1, 0x10428),
  (0x104b0, 0x104d3, 1, 0x104d8)]

/-- A letter and a mark that join into one character. -/
def joined : Array (Nat × Nat × Nat) := #[
  (0x41, 0x300, 0xc0), (0x41, 0x301, 0xc1), (0x41, 0x302, 0xc2), (0x41, 0x303, 0xc3),
  (0x41, 0x308, 0xc4), (0x41, 0x30a, 0xc5), (0x43, 0x327, 0xc7), (0x45, 0x300, 0xc8),
  (0x45, 0x301, 0xc9), (0x45, 0x302, 0xca), (0x45, 0x308, 0xcb), (0x49, 0x300, 0xcc),
  (0x49, 0x301, 0xcd), (0x49, 0x302, 0xce), (0x49, 0x308, 0xcf), (0x4e, 0x303, 0xd1),
  (0x4f, 0x300, 0xd2), (0x4f, 0x301, 0xd3), (0x4f, 0x302, 0xd4), (0x4f, 0x303, 0xd5),
  (0x4f, 0x308, 0xd6), (0x55, 0x300, 0xd9), (0x55, 0x301, 0xda), (0x55, 0x302, 0xdb),
  (0x55, 0x308, 0xdc), (0x59, 0x301, 0xdd), (0x61, 0x300, 0xe0), (0x61, 0x301, 0xe1),
  (0x61, 0x302, 0xe2), (0x61, 0x303, 0xe3), (0x61, 0x308, 0xe4), (0x61, 0x30a, 0xe5),
  (0x63, 0x327, 0xe7), (0x65, 0x300, 0xe8), (0x65, 0x301, 0xe9), (0x65, 0x302, 0xea),
  (0x65, 0x308, 0xeb), (0x69, 0x300, 0xec), (0x69, 0x301, 0xed), (0x69, 0x302, 0xee),
  (0x69, 0x308, 0xef), (0x6e, 0x303, 0xf1), (0x6f, 0x300, 0xf2), (0x6f, 0x301, 0xf3),
  (0x6f, 0x302, 0xf4), (0x6f, 0x303, 0xf5), (0x6f, 0x308, 0xf6), (0x75, 0x300, 0xf9),
  (0x75, 0x301, 0xfa), (0x75, 0x302, 0xfb), (0x75, 0x308, 0xfc), (0x79, 0x301, 0xfd),
  (0x79, 0x308, 0xff), (0x61, 0x304, 0x101), (0x61, 0x306, 0x103), (0x61, 0x328, 0x105),
  (0x63, 0x301, 0x107), (0x63, 0x302, 0x109), (0x63, 0x307, 0x10b), (0x63, 0x30c, 0x10d),
  (0x64, 0x30c, 0x10f), (0x65, 0x304, 0x113), (0x65, 0x306, 0x115), (0x65, 0x307, 0x117),
  (0x65, 0x328, 0x119), (0x65, 0x30c, 0x11b), (0x67, 0x302, 0x11d), (0x67, 0x306, 0x11f),
  (0x67, 0x307, 0x121), (0x67, 0x327, 0x123), (0x68, 0x302, 0x125), (0x69, 0x303, 0x129),
  (0x69, 0x304, 0x12b), (0x69, 0x306, 0x12d), (0x69, 0x328, 0x12f), (0x6a, 0x302, 0x135),
  (0x6b, 0x327, 0x137), (0x6c, 0x301, 0x13a), (0x6c, 0x327, 0x13c), (0x6c, 0x30c, 0x13e),
  (0x6e, 0x301, 0x144), (0x6e, 0x327, 0x146), (0x6e, 0x30c, 0x148), (0x6f, 0x304, 0x14d),
  (0x6f, 0x306, 0x14f), (0x6f, 0x30b, 0x151), (0x72, 0x301, 0x155), (0x72, 0x327, 0x157),
  (0x72, 0x30c, 0x159), (0x73, 0x301, 0x15b), (0x73, 0x302, 0x15d), (0x73, 0x327, 0x15f),
  (0x73, 0x30c, 0x161), (0x74, 0x327, 0x163), (0x74, 0x30c, 0x165), (0x75, 0x303, 0x169),
  (0x75, 0x304, 0x16b), (0x75, 0x306, 0x16d), (0x75, 0x30a, 0x16f), (0x75, 0x30b, 0x171),
  (0x75, 0x328, 0x173), (0x77, 0x302, 0x175), (0x79, 0x302, 0x177), (0x7a, 0x301, 0x17a),
  (0x7a, 0x307, 0x17c), (0x7a, 0x30c, 0x17e), (0x6f, 0x31b, 0x1a1), (0x75, 0x31b, 0x1b0),
  (0x61, 0x30c, 0x1ce), (0x69, 0x30c, 0x1d0), (0x6f, 0x30c, 0x1d2), (0x75, 0x30c, 0x1d4),
  (0xe6, 0x304, 0x1e3), (0x67, 0x30c, 0x1e7), (0x6b, 0x30c, 0x1e9), (0x6f, 0x328, 0x1eb),
  (0x292, 0x30c, 0x1ef), (0x6a, 0x30c, 0x1f0), (0x67, 0x301, 0x1f5), (0x6e, 0x300, 0x1f9),
  (0xe6, 0x301, 0x1fd), (0xf8, 0x301, 0x1ff), (0x61, 0x30f, 0x201), (0x61, 0x311, 0x203),
  (0x65, 0x30f, 0x205), (0x65, 0x311, 0x207), (0x69, 0x30f, 0x209), (0x69, 0x311, 0x20b),
  (0x6f, 0x30f, 0x20d), (0x6f, 0x311, 0x20f), (0x72, 0x30f, 0x211), (0x72, 0x311, 0x213),
  (0x75, 0x30f, 0x215), (0x75, 0x311, 0x217), (0x73, 0x326, 0x219), (0x74, 0x326, 0x21b),
  (0x68, 0x30c, 0x21f), (0x61, 0x307, 0x227), (0x65, 0x327, 0x229), (0x6f, 0x307, 0x22f),
  (0x79, 0x304, 0x233), (0x61, 0x325, 0x1e01), (0x62, 0x307, 0x1e03), (0x62, 0x323, 0x1e05),
  (0x62, 0x331, 0x1e07), (0x64, 0x307, 0x1e0b), (0x64, 0x323, 0x1e0d), (0x64, 0x331, 0x1e0f),
  (0x64, 0x327, 0x1e11), (0x64, 0x32d, 0x1e13), (0x65, 0x32d, 0x1e19), (0x65, 0x330, 0x1e1b),
  (0x66, 0x307, 0x1e1f), (0x67, 0x304, 0x1e21), (0x68, 0x307, 0x1e23), (0x68, 0x323, 0x1e25),
  (0x68, 0x308, 0x1e27), (0x68, 0x327, 0x1e29), (0x68, 0x32e, 0x1e2b), (0x69, 0x330, 0x1e2d),
  (0x6b, 0x301, 0x1e31), (0x6b, 0x323, 0x1e33), (0x6b, 0x331, 0x1e35), (0x6c, 0x323, 0x1e37),
  (0x6c, 0x331, 0x1e3b), (0x6c, 0x32d, 0x1e3d), (0x6d, 0x301, 0x1e3f), (0x6d, 0x307, 0x1e41),
  (0x6d, 0x323, 0x1e43), (0x6e, 0x307, 0x1e45), (0x6e, 0x323, 0x1e47), (0x6e, 0x331, 0x1e49),
  (0x6e, 0x32d, 0x1e4b), (0x70, 0x301, 0x1e55), (0x70, 0x307, 0x1e57), (0x72, 0x307, 0x1e59),
  (0x72, 0x323, 0x1e5b), (0x72, 0x331, 0x1e5f), (0x73, 0x307, 0x1e61), (0x73, 0x323, 0x1e63),
  (0x74, 0x307, 0x1e6b), (0x74, 0x323, 0x1e6d), (0x74, 0x331, 0x1e6f), (0x74, 0x32d, 0x1e71),
  (0x75, 0x324, 0x1e73), (0x75, 0x330, 0x1e75), (0x75, 0x32d, 0x1e77), (0x76, 0x303, 0x1e7d),
  (0x76, 0x323, 0x1e7f), (0x77, 0x300, 0x1e81), (0x77, 0x301, 0x1e83), (0x77, 0x308, 0x1e85),
  (0x77, 0x307, 0x1e87), (0x77, 0x323, 0x1e89), (0x78, 0x307, 0x1e8b), (0x78, 0x308, 0x1e8d),
  (0x79, 0x307, 0x1e8f), (0x7a, 0x302, 0x1e91), (0x7a, 0x323, 0x1e93), (0x7a, 0x331, 0x1e95),
  (0x68, 0x331, 0x1e96), (0x74, 0x308, 0x1e97), (0x77, 0x30a, 0x1e98), (0x79, 0x30a, 0x1e99),
  (0x17f, 0x307, 0x1e9b), (0x61, 0x323, 0x1ea1), (0x61, 0x309, 0x1ea3), (0x65, 0x323, 0x1eb9),
  (0x65, 0x309, 0x1ebb), (0x65, 0x303, 0x1ebd), (0x69, 0x309, 0x1ec9), (0x69, 0x323, 0x1ecb),
  (0x6f, 0x323, 0x1ecd), (0x6f, 0x309, 0x1ecf), (0x75, 0x323, 0x1ee5), (0x75, 0x309, 0x1ee7),
  (0x79, 0x300, 0x1ef3), (0x79, 0x323, 0x1ef5), (0x79, 0x309, 0x1ef7), (0x79, 0x303, 0x1ef9),
  (0x3b1, 0x301, 0x3ac), (0x3b5, 0x301, 0x3ad), (0x3b7, 0x301, 0x3ae), (0x3b9, 0x301, 0x3af),
  (0x3b9, 0x308, 0x3ca), (0x3c5, 0x308, 0x3cb), (0x3bf, 0x301, 0x3cc), (0x3c5, 0x301, 0x3cd),
  (0x3c9, 0x301, 0x3ce), (0x438, 0x306, 0x439), (0x435, 0x300, 0x450), (0x435, 0x308, 0x451),
  (0x433, 0x301, 0x453), (0x456, 0x308, 0x457), (0x43a, 0x301, 0x45c), (0x438, 0x300, 0x45d),
  (0x443, 0x306, 0x45e)]

/-- Characters that are left out of a host name. -/
def isIgnored (code : Nat) : Bool :=
  code = 0xAD || code = 0x34F || (0x180B ≤ code && code ≤ 0x180F) || code = 0x200B ||
    code = 0x2060 || code = 0x2064 || (0xFE00 ≤ code && code ≤ 0xFE0F) || code = 0xFEFF

/-- The characters that stand for `c` in a host name. -/
def fold (c : Char) : List Char :=
  let code := c.toNat
  if code < 128 then [c.toLower]
  else if isIgnored code then []
  else if code = 0x3002 || code = 0xFF0E || code = 0xFF61 then ['.']
  else if code = 0x1E9E then ['s', 's']
  else
    match runs.find? (fun (first, last, step, _) =>
        first ≤ code && code ≤ last && (code - first) % step == 0) with
    | some (first, _, _, folded) => [Char.ofNat (code - first + folded)]
    | none => [c]

/-- Joins each letter with the marks behind it. -/
def compose : List Char → List Char
  | [] => []
  | c :: rest =>
    match compose rest with
    | [] => [c]
    | mark :: others =>
      match joined.find? (fun (letter, m, _) => letter = c.toNat && m = mark.toNat) with
      | some (_, _, whole) => Char.ofNat whole :: others
      | none => c :: mark :: others

end WorkloadIdentity.CaseFold
