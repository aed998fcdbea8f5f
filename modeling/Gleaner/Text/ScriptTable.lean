import Gleaner.Text.Span

/-!
# Scripts and other properties

The characters of the common scripts, and the properties that add some characters to a general
category.
-/

namespace Gleaner.Text.Script

def latin : List Span :=
  [⟨0x41, 0x5a, 1⟩, ⟨0x61, 0x7a, 1⟩, ⟨0xaa, 0xaa, 1⟩, ⟨0xba, 0xba, 1⟩, ⟨0xc0, 0xd6, 1⟩,
   ⟨0xd8, 0xf6, 1⟩, ⟨0xf8, 0x2b8, 1⟩, ⟨0x2e0, 0x2e4, 1⟩, ⟨0x1d00, 0x1d25, 1⟩, ⟨0x1d2c, 0x1d5c, 1⟩,
   ⟨0x1d62, 0x1d65, 1⟩, ⟨0x1d6b, 0x1d77, 1⟩, ⟨0x1d79, 0x1dbe, 1⟩, ⟨0x1e00, 0x1eff, 1⟩,
   ⟨0x2071, 0x2071, 1⟩, ⟨0x207f, 0x207f, 1⟩, ⟨0x2090, 0x209c, 1⟩, ⟨0x212a, 0x212b, 1⟩,
   ⟨0x2132, 0x2132, 1⟩, ⟨0x214e, 0x214e, 1⟩, ⟨0x2160, 0x2188, 1⟩, ⟨0x2c60, 0x2c7f, 1⟩,
   ⟨0xa722, 0xa787, 1⟩, ⟨0xa78b, 0xa7dc, 1⟩, ⟨0xa7f1, 0xa7ff, 1⟩, ⟨0xab30, 0xab5a, 1⟩,
   ⟨0xab5c, 0xab64, 1⟩, ⟨0xab66, 0xab69, 1⟩, ⟨0xfb00, 0xfb06, 1⟩, ⟨0xff21, 0xff3a, 1⟩,
   ⟨0xff41, 0xff5a, 1⟩, ⟨0x10780, 0x10785, 1⟩, ⟨0x10787, 0x107b0, 1⟩, ⟨0x107b2, 0x107ba, 1⟩,
   ⟨0x1df00, 0x1df1e, 1⟩, ⟨0x1df25, 0x1df2a, 1⟩]

def greek : List Span :=
  [⟨0x370, 0x373, 1⟩, ⟨0x375, 0x377, 1⟩, ⟨0x37a, 0x37d, 1⟩, ⟨0x37f, 0x37f, 1⟩, ⟨0x384, 0x384, 1⟩,
   ⟨0x386, 0x386, 1⟩, ⟨0x388, 0x38a, 1⟩, ⟨0x38c, 0x38c, 1⟩, ⟨0x38e, 0x3a1, 1⟩, ⟨0x3a3, 0x3e1, 1⟩,
   ⟨0x3f0, 0x3ff, 1⟩, ⟨0x1d26, 0x1d2a, 1⟩, ⟨0x1d5d, 0x1d61, 1⟩, ⟨0x1d66, 0x1d6a, 1⟩,
   ⟨0x1dbf, 0x1dbf, 1⟩, ⟨0x1f00, 0x1f15, 1⟩, ⟨0x1f18, 0x1f1d, 1⟩, ⟨0x1f20, 0x1f45, 1⟩,
   ⟨0x1f48, 0x1f4d, 1⟩, ⟨0x1f50, 0x1f57, 1⟩, ⟨0x1f59, 0x1f5d, 2⟩, ⟨0x1f5f, 0x1f7d, 1⟩,
   ⟨0x1f80, 0x1fb4, 1⟩, ⟨0x1fb6, 0x1fc4, 1⟩, ⟨0x1fc6, 0x1fd3, 1⟩, ⟨0x1fd6, 0x1fdb, 1⟩,
   ⟨0x1fdd, 0x1fef, 1⟩, ⟨0x1ff2, 0x1ff4, 1⟩, ⟨0x1ff6, 0x1ffe, 1⟩, ⟨0x2126, 0x2126, 1⟩,
   ⟨0xab65, 0xab65, 1⟩, ⟨0x10140, 0x1018e, 1⟩, ⟨0x101a0, 0x101a0, 1⟩, ⟨0x1d200, 0x1d245, 1⟩]

def cyrillic : List Span :=
  [⟨0x400, 0x484, 1⟩, ⟨0x487, 0x52f, 1⟩, ⟨0x1c80, 0x1c8a, 1⟩, ⟨0x1d2b, 0x1d2b, 1⟩,
   ⟨0x1d78, 0x1d78, 1⟩, ⟨0x2de0, 0x2dff, 1⟩, ⟨0xa640, 0xa69f, 1⟩, ⟨0xfe2e, 0xfe2f, 1⟩,
   ⟨0x1e030, 0x1e06d, 1⟩, ⟨0x1e08f, 0x1e08f, 1⟩]

def armenian : List Span :=
  [⟨0x531, 0x556, 1⟩, ⟨0x559, 0x58a, 1⟩, ⟨0x58d, 0x58f, 1⟩, ⟨0xfb13, 0xfb17, 1⟩]

def hebrew : List Span :=
  [⟨0x591, 0x5c7, 1⟩, ⟨0x5d0, 0x5ea, 1⟩, ⟨0x5ef, 0x5f4, 1⟩, ⟨0xfb1d, 0xfb36, 1⟩,
   ⟨0xfb38, 0xfb3c, 1⟩, ⟨0xfb3e, 0xfb3e, 1⟩, ⟨0xfb40, 0xfb41, 1⟩, ⟨0xfb43, 0xfb44, 1⟩,
   ⟨0xfb46, 0xfb4f, 1⟩]

def arabic : List Span :=
  [⟨0x600, 0x604, 1⟩, ⟨0x606, 0x60b, 1⟩, ⟨0x60d, 0x61a, 1⟩, ⟨0x61c, 0x61e, 1⟩, ⟨0x620, 0x63f, 1⟩,
   ⟨0x641, 0x64a, 1⟩, ⟨0x656, 0x66f, 1⟩, ⟨0x671, 0x6dc, 1⟩, ⟨0x6de, 0x6ff, 1⟩, ⟨0x750, 0x77f, 1⟩,
   ⟨0x870, 0x891, 1⟩, ⟨0x897, 0x8e1, 1⟩, ⟨0x8e3, 0x8ff, 1⟩, ⟨0xfb50, 0xfd3d, 1⟩,
   ⟨0xfd40, 0xfdcf, 1⟩, ⟨0xfdf0, 0xfdff, 1⟩, ⟨0xfe70, 0xfe74, 1⟩, ⟨0xfe76, 0xfefc, 1⟩,
   ⟨0x10e60, 0x10e7e, 1⟩, ⟨0x10ec2, 0x10ec7, 1⟩, ⟨0x10ed0, 0x10ed8, 1⟩, ⟨0x10efa, 0x10eff, 1⟩,
   ⟨0x1ee00, 0x1ee03, 1⟩, ⟨0x1ee05, 0x1ee1f, 1⟩, ⟨0x1ee21, 0x1ee22, 1⟩, ⟨0x1ee24, 0x1ee24, 1⟩,
   ⟨0x1ee27, 0x1ee27, 1⟩, ⟨0x1ee29, 0x1ee32, 1⟩, ⟨0x1ee34, 0x1ee37, 1⟩, ⟨0x1ee39, 0x1ee39, 1⟩,
   ⟨0x1ee3b, 0x1ee3b, 1⟩, ⟨0x1ee42, 0x1ee42, 1⟩, ⟨0x1ee47, 0x1ee4b, 2⟩, ⟨0x1ee4d, 0x1ee4f, 1⟩,
   ⟨0x1ee51, 0x1ee52, 1⟩, ⟨0x1ee54, 0x1ee54, 1⟩, ⟨0x1ee57, 0x1ee5f, 2⟩, ⟨0x1ee61, 0x1ee62, 1⟩,
   ⟨0x1ee64, 0x1ee64, 1⟩, ⟨0x1ee67, 0x1ee6a, 1⟩, ⟨0x1ee6c, 0x1ee72, 1⟩, ⟨0x1ee74, 0x1ee77, 1⟩,
   ⟨0x1ee79, 0x1ee7c, 1⟩, ⟨0x1ee7e, 0x1ee7e, 1⟩, ⟨0x1ee80, 0x1ee89, 1⟩, ⟨0x1ee8b, 0x1ee9b, 1⟩,
   ⟨0x1eea1, 0x1eea3, 1⟩, ⟨0x1eea5, 0x1eea9, 1⟩, ⟨0x1eeab, 0x1eebb, 1⟩, ⟨0x1eef0, 0x1eef1, 1⟩]

def devanagari : List Span :=
  [⟨0x900, 0x950, 1⟩, ⟨0x955, 0x963, 1⟩, ⟨0x966, 0x97f, 1⟩, ⟨0xa8e0, 0xa8ff, 1⟩,
   ⟨0x11b00, 0x11b09, 1⟩]

def bengali : List Span :=
  [⟨0x980, 0x983, 1⟩, ⟨0x985, 0x98c, 1⟩, ⟨0x98f, 0x990, 1⟩, ⟨0x993, 0x9a8, 1⟩, ⟨0x9aa, 0x9b0, 1⟩,
   ⟨0x9b2, 0x9b2, 1⟩, ⟨0x9b6, 0x9b9, 1⟩, ⟨0x9bc, 0x9c4, 1⟩, ⟨0x9c7, 0x9c8, 1⟩, ⟨0x9cb, 0x9ce, 1⟩,
   ⟨0x9d7, 0x9d7, 1⟩, ⟨0x9dc, 0x9dd, 1⟩, ⟨0x9df, 0x9e3, 1⟩, ⟨0x9e6, 0x9fe, 1⟩]

def tamil : List Span :=
  [⟨0xb82, 0xb83, 1⟩, ⟨0xb85, 0xb8a, 1⟩, ⟨0xb8e, 0xb90, 1⟩, ⟨0xb92, 0xb95, 1⟩, ⟨0xb99, 0xb9a, 1⟩,
   ⟨0xb9c, 0xb9c, 1⟩, ⟨0xb9e, 0xb9f, 1⟩, ⟨0xba3, 0xba4, 1⟩, ⟨0xba8, 0xbaa, 1⟩, ⟨0xbae, 0xbb9, 1⟩,
   ⟨0xbbe, 0xbc2, 1⟩, ⟨0xbc6, 0xbc8, 1⟩, ⟨0xbca, 0xbcd, 1⟩, ⟨0xbd0, 0xbd0, 1⟩, ⟨0xbd7, 0xbd7, 1⟩,
   ⟨0xbe6, 0xbfa, 1⟩, ⟨0x11fc0, 0x11ff1, 1⟩, ⟨0x11fff, 0x11fff, 1⟩]

def thai : List Span :=
  [⟨0xe01, 0xe3a, 1⟩, ⟨0xe40, 0xe5b, 1⟩]

def georgian : List Span :=
  [⟨0x10a0, 0x10c5, 1⟩, ⟨0x10c7, 0x10c7, 1⟩, ⟨0x10cd, 0x10cd, 1⟩, ⟨0x10d0, 0x10fa, 1⟩,
   ⟨0x10fc, 0x10ff, 1⟩, ⟨0x1c90, 0x1cba, 1⟩, ⟨0x1cbd, 0x1cbf, 1⟩, ⟨0x2d00, 0x2d25, 1⟩,
   ⟨0x2d27, 0x2d27, 1⟩, ⟨0x2d2d, 0x2d2d, 1⟩]

def hangul : List Span :=
  [⟨0x1100, 0x11ff, 1⟩, ⟨0x302e, 0x302f, 1⟩, ⟨0x3131, 0x318e, 1⟩, ⟨0x3200, 0x321e, 1⟩,
   ⟨0x3260, 0x327e, 1⟩, ⟨0xa960, 0xa97c, 1⟩, ⟨0xac00, 0xd7a3, 1⟩, ⟨0xd7b0, 0xd7c6, 1⟩,
   ⟨0xd7cb, 0xd7fb, 1⟩, ⟨0xffa0, 0xffbe, 1⟩, ⟨0xffc2, 0xffc7, 1⟩, ⟨0xffca, 0xffcf, 1⟩,
   ⟨0xffd2, 0xffd7, 1⟩, ⟨0xffda, 0xffdc, 1⟩]

def hiragana : List Span :=
  [⟨0x3041, 0x3096, 1⟩, ⟨0x309d, 0x309f, 1⟩, ⟨0x1b001, 0x1b11f, 1⟩, ⟨0x1b132, 0x1b132, 1⟩,
   ⟨0x1b150, 0x1b152, 1⟩, ⟨0x1f200, 0x1f200, 1⟩]

def katakana : List Span :=
  [⟨0x30a1, 0x30fa, 1⟩, ⟨0x30fd, 0x30ff, 1⟩, ⟨0x31f0, 0x31ff, 1⟩, ⟨0x32d0, 0x32fe, 1⟩,
   ⟨0x3300, 0x3357, 1⟩, ⟨0xff66, 0xff6f, 1⟩, ⟨0xff71, 0xff9d, 1⟩, ⟨0x1aff0, 0x1aff3, 1⟩,
   ⟨0x1aff5, 0x1affb, 1⟩, ⟨0x1affd, 0x1affe, 1⟩, ⟨0x1b000, 0x1b000, 1⟩, ⟨0x1b120, 0x1b122, 1⟩,
   ⟨0x1b155, 0x1b155, 1⟩, ⟨0x1b164, 0x1b167, 1⟩]

def han : List Span :=
  [⟨0x2e80, 0x2e99, 1⟩, ⟨0x2e9b, 0x2ef3, 1⟩, ⟨0x2f00, 0x2fd5, 1⟩, ⟨0x3005, 0x3005, 1⟩,
   ⟨0x3007, 0x3007, 1⟩, ⟨0x3021, 0x3029, 1⟩, ⟨0x3038, 0x303b, 1⟩, ⟨0x3400, 0x4dbf, 1⟩,
   ⟨0x4e00, 0x9fff, 1⟩, ⟨0xf900, 0xfa6d, 1⟩, ⟨0xfa70, 0xfad9, 1⟩, ⟨0x16fe2, 0x16fe3, 1⟩,
   ⟨0x16ff0, 0x16ff6, 1⟩, ⟨0x20000, 0x2a6df, 1⟩, ⟨0x2a700, 0x2b81d, 1⟩, ⟨0x2b820, 0x2cead, 1⟩,
   ⟨0x2ceb0, 0x2ebe0, 1⟩, ⟨0x2ebf0, 0x2ee5d, 1⟩, ⟨0x2f800, 0x2fa1d, 1⟩, ⟨0x30000, 0x3134a, 1⟩,
   ⟨0x31350, 0x33479, 1⟩]

def common : List Span :=
  [⟨0x0, 0x40, 1⟩, ⟨0x5b, 0x60, 1⟩, ⟨0x7b, 0xa9, 1⟩, ⟨0xab, 0xb9, 1⟩, ⟨0xbb, 0xbf, 1⟩,
   ⟨0xd7, 0xd7, 1⟩, ⟨0xf7, 0xf7, 1⟩, ⟨0x2b9, 0x2df, 1⟩, ⟨0x2e5, 0x2e9, 1⟩, ⟨0x2ec, 0x2ff, 1⟩,
   ⟨0x374, 0x374, 1⟩, ⟨0x37e, 0x37e, 1⟩, ⟨0x385, 0x385, 1⟩, ⟨0x387, 0x387, 1⟩, ⟨0x605, 0x605, 1⟩,
   ⟨0x60c, 0x60c, 1⟩, ⟨0x61b, 0x61b, 1⟩, ⟨0x61f, 0x61f, 1⟩, ⟨0x640, 0x640, 1⟩, ⟨0x6dd, 0x6dd, 1⟩,
   ⟨0x8e2, 0x8e2, 1⟩, ⟨0x964, 0x965, 1⟩, ⟨0xe3f, 0xe3f, 1⟩, ⟨0xfd5, 0xfd8, 1⟩, ⟨0x10fb, 0x10fb, 1⟩,
   ⟨0x16eb, 0x16ed, 1⟩, ⟨0x1735, 0x1736, 1⟩, ⟨0x1802, 0x1803, 1⟩, ⟨0x1805, 0x1805, 1⟩,
   ⟨0x1cd3, 0x1cd3, 1⟩, ⟨0x1ce1, 0x1ce1, 1⟩, ⟨0x1ce9, 0x1cec, 1⟩, ⟨0x1cee, 0x1cf3, 1⟩,
   ⟨0x1cf5, 0x1cf7, 1⟩, ⟨0x1cfa, 0x1cfa, 1⟩, ⟨0x2000, 0x200b, 1⟩, ⟨0x200e, 0x2064, 1⟩,
   ⟨0x2066, 0x2070, 1⟩, ⟨0x2074, 0x207e, 1⟩, ⟨0x2080, 0x208e, 1⟩, ⟨0x20a0, 0x20c1, 1⟩,
   ⟨0x2100, 0x2125, 1⟩, ⟨0x2127, 0x2129, 1⟩, ⟨0x212c, 0x2131, 1⟩, ⟨0x2133, 0x214d, 1⟩,
   ⟨0x214f, 0x215f, 1⟩, ⟨0x2189, 0x218b, 1⟩, ⟨0x2190, 0x2429, 1⟩, ⟨0x2440, 0x244a, 1⟩,
   ⟨0x2460, 0x27ff, 1⟩, ⟨0x2900, 0x2b73, 1⟩, ⟨0x2b76, 0x2bff, 1⟩, ⟨0x2e00, 0x2e5d, 1⟩,
   ⟨0x2ff0, 0x3004, 1⟩, ⟨0x3006, 0x3006, 1⟩, ⟨0x3008, 0x3020, 1⟩, ⟨0x3030, 0x3037, 1⟩,
   ⟨0x303c, 0x303f, 1⟩, ⟨0x309b, 0x309c, 1⟩, ⟨0x30a0, 0x30a0, 1⟩, ⟨0x30fb, 0x30fc, 1⟩,
   ⟨0x3190, 0x319f, 1⟩, ⟨0x31c0, 0x31e5, 1⟩, ⟨0x31ef, 0x31ef, 1⟩, ⟨0x3220, 0x325f, 1⟩,
   ⟨0x327f, 0x32cf, 1⟩, ⟨0x32ff, 0x32ff, 1⟩, ⟨0x3358, 0x33ff, 1⟩, ⟨0x4dc0, 0x4dff, 1⟩,
   ⟨0xa700, 0xa721, 1⟩, ⟨0xa788, 0xa78a, 1⟩, ⟨0xa830, 0xa839, 1⟩, ⟨0xa92e, 0xa92e, 1⟩,
   ⟨0xa9cf, 0xa9cf, 1⟩, ⟨0xab5b, 0xab5b, 1⟩, ⟨0xab6a, 0xab6b, 1⟩, ⟨0xfd3e, 0xfd3f, 1⟩,
   ⟨0xfe10, 0xfe19, 1⟩, ⟨0xfe30, 0xfe52, 1⟩, ⟨0xfe54, 0xfe66, 1⟩, ⟨0xfe68, 0xfe6b, 1⟩,
   ⟨0xfeff, 0xfeff, 1⟩, ⟨0xff01, 0xff20, 1⟩, ⟨0xff3b, 0xff40, 1⟩, ⟨0xff5b, 0xff65, 1⟩,
   ⟨0xff70, 0xff70, 1⟩, ⟨0xff9e, 0xff9f, 1⟩, ⟨0xffe0, 0xffe6, 1⟩, ⟨0xffe8, 0xffee, 1⟩,
   ⟨0xfff9, 0xfffd, 1⟩, ⟨0x10100, 0x10102, 1⟩, ⟨0x10107, 0x10133, 1⟩, ⟨0x10137, 0x1013f, 1⟩,
   ⟨0x10190, 0x1019c, 1⟩, ⟨0x101d0, 0x101fc, 1⟩, ⟨0x102e1, 0x102fb, 1⟩, ⟨0x1bca0, 0x1bca3, 1⟩,
   ⟨0x1cc00, 0x1ccfc, 1⟩, ⟨0x1cd00, 0x1ceb3, 1⟩, ⟨0x1ceba, 0x1ced0, 1⟩, ⟨0x1cee0, 0x1cef0, 1⟩,
   ⟨0x1cf50, 0x1cfc3, 1⟩, ⟨0x1d000, 0x1d0f5, 1⟩, ⟨0x1d100, 0x1d126, 1⟩, ⟨0x1d129, 0x1d166, 1⟩,
   ⟨0x1d16a, 0x1d17a, 1⟩, ⟨0x1d183, 0x1d184, 1⟩, ⟨0x1d18c, 0x1d1a9, 1⟩, ⟨0x1d1ae, 0x1d1ea, 1⟩,
   ⟨0x1d2c0, 0x1d2d3, 1⟩, ⟨0x1d2e0, 0x1d2f3, 1⟩, ⟨0x1d300, 0x1d356, 1⟩, ⟨0x1d360, 0x1d378, 1⟩,
   ⟨0x1d400, 0x1d454, 1⟩, ⟨0x1d456, 0x1d49c, 1⟩, ⟨0x1d49e, 0x1d49f, 1⟩, ⟨0x1d4a2, 0x1d4a2, 1⟩,
   ⟨0x1d4a5, 0x1d4a6, 1⟩, ⟨0x1d4a9, 0x1d4ac, 1⟩, ⟨0x1d4ae, 0x1d4b9, 1⟩, ⟨0x1d4bb, 0x1d4bb, 1⟩,
   ⟨0x1d4bd, 0x1d4c3, 1⟩, ⟨0x1d4c5, 0x1d505, 1⟩, ⟨0x1d507, 0x1d50a, 1⟩, ⟨0x1d50d, 0x1d514, 1⟩,
   ⟨0x1d516, 0x1d51c, 1⟩, ⟨0x1d51e, 0x1d539, 1⟩, ⟨0x1d53b, 0x1d53e, 1⟩, ⟨0x1d540, 0x1d544, 1⟩,
   ⟨0x1d546, 0x1d546, 1⟩, ⟨0x1d54a, 0x1d550, 1⟩, ⟨0x1d552, 0x1d6a5, 1⟩, ⟨0x1d6a8, 0x1d7cb, 1⟩,
   ⟨0x1d7ce, 0x1d7ff, 1⟩, ⟨0x1ec71, 0x1ecb4, 1⟩, ⟨0x1ed01, 0x1ed3d, 1⟩, ⟨0x1f000, 0x1f02b, 1⟩,
   ⟨0x1f030, 0x1f093, 1⟩, ⟨0x1f0a0, 0x1f0ae, 1⟩, ⟨0x1f0b1, 0x1f0bf, 1⟩, ⟨0x1f0c1, 0x1f0cf, 1⟩,
   ⟨0x1f0d1, 0x1f0f5, 1⟩, ⟨0x1f100, 0x1f1ad, 1⟩, ⟨0x1f1e6, 0x1f1ff, 1⟩, ⟨0x1f201, 0x1f202, 1⟩,
   ⟨0x1f210, 0x1f23b, 1⟩, ⟨0x1f240, 0x1f248, 1⟩, ⟨0x1f250, 0x1f251, 1⟩, ⟨0x1f260, 0x1f265, 1⟩,
   ⟨0x1f300, 0x1f6d8, 1⟩, ⟨0x1f6dc, 0x1f6ec, 1⟩, ⟨0x1f6f0, 0x1f6fc, 1⟩, ⟨0x1f700, 0x1f7d9, 1⟩,
   ⟨0x1f7e0, 0x1f7eb, 1⟩, ⟨0x1f7f0, 0x1f7f0, 1⟩, ⟨0x1f800, 0x1f80b, 1⟩, ⟨0x1f810, 0x1f847, 1⟩,
   ⟨0x1f850, 0x1f859, 1⟩, ⟨0x1f860, 0x1f887, 1⟩, ⟨0x1f890, 0x1f8ad, 1⟩, ⟨0x1f8b0, 0x1f8bb, 1⟩,
   ⟨0x1f8c0, 0x1f8c1, 1⟩, ⟨0x1f8d0, 0x1f8d8, 1⟩, ⟨0x1f900, 0x1fa57, 1⟩, ⟨0x1fa60, 0x1fa6d, 1⟩,
   ⟨0x1fa70, 0x1fa7c, 1⟩, ⟨0x1fa80, 0x1fa8a, 1⟩, ⟨0x1fa8e, 0x1fac6, 1⟩, ⟨0x1fac8, 0x1fac8, 1⟩,
   ⟨0x1facd, 0x1fadc, 1⟩, ⟨0x1fadf, 0x1faea, 1⟩, ⟨0x1faef, 0x1faf8, 1⟩, ⟨0x1fb00, 0x1fb92, 1⟩,
   ⟨0x1fb94, 0x1fbfa, 1⟩, ⟨0xe0001, 0xe0001, 1⟩, ⟨0xe0020, 0xe007f, 1⟩]

def inherited : List Span :=
  [⟨0x300, 0x36f, 1⟩, ⟨0x485, 0x486, 1⟩, ⟨0x64b, 0x655, 1⟩, ⟨0x670, 0x670, 1⟩, ⟨0x951, 0x954, 1⟩,
   ⟨0x1ab0, 0x1add, 1⟩, ⟨0x1ae0, 0x1aeb, 1⟩, ⟨0x1cd0, 0x1cd2, 1⟩, ⟨0x1cd4, 0x1ce0, 1⟩,
   ⟨0x1ce2, 0x1ce8, 1⟩, ⟨0x1ced, 0x1ced, 1⟩, ⟨0x1cf4, 0x1cf4, 1⟩, ⟨0x1cf8, 0x1cf9, 1⟩,
   ⟨0x1dc0, 0x1dff, 1⟩, ⟨0x200c, 0x200d, 1⟩, ⟨0x20d0, 0x20f0, 1⟩, ⟨0x302a, 0x302d, 1⟩,
   ⟨0x3099, 0x309a, 1⟩, ⟨0xfe00, 0xfe0f, 1⟩, ⟨0xfe20, 0xfe2d, 1⟩, ⟨0x101fd, 0x101fd, 1⟩,
   ⟨0x102e0, 0x102e0, 1⟩, ⟨0x1133b, 0x1133b, 1⟩, ⟨0x1cf00, 0x1cf2d, 1⟩, ⟨0x1cf30, 0x1cf46, 1⟩,
   ⟨0x1d167, 0x1d169, 1⟩, ⟨0x1d17b, 0x1d182, 1⟩, ⟨0x1d185, 0x1d18b, 1⟩, ⟨0x1d1aa, 0x1d1ad, 1⟩,
   ⟨0xe0100, 0xe01ef, 1⟩]

end Gleaner.Text.Script

namespace Gleaner.Text.Property

/-- Alphabetic characters that are neither letters nor letter numbers. -/
def furtherAlphabetic : List Span :=
  [⟨0x345, 0x345, 1⟩, ⟨0x363, 0x36f, 1⟩, ⟨0x5b0, 0x5bd, 1⟩, ⟨0x5bf, 0x5bf, 1⟩, ⟨0x5c1, 0x5c2, 1⟩,
   ⟨0x5c4, 0x5c5, 1⟩, ⟨0x5c7, 0x5c7, 1⟩, ⟨0x610, 0x61a, 1⟩, ⟨0x64b, 0x657, 1⟩, ⟨0x659, 0x65f, 1⟩,
   ⟨0x670, 0x670, 1⟩, ⟨0x6d6, 0x6dc, 1⟩, ⟨0x6e1, 0x6e4, 1⟩, ⟨0x6e7, 0x6e8, 1⟩, ⟨0x6ed, 0x6ed, 1⟩,
   ⟨0x711, 0x711, 1⟩, ⟨0x730, 0x73f, 1⟩, ⟨0x7a6, 0x7b0, 1⟩, ⟨0x816, 0x817, 1⟩, ⟨0x81b, 0x823, 1⟩,
   ⟨0x825, 0x827, 1⟩, ⟨0x829, 0x82c, 1⟩, ⟨0x897, 0x897, 1⟩, ⟨0x8d4, 0x8df, 1⟩, ⟨0x8e3, 0x8e9, 1⟩,
   ⟨0x8f0, 0x903, 1⟩, ⟨0x93a, 0x93b, 1⟩, ⟨0x93e, 0x94c, 1⟩, ⟨0x94e, 0x94f, 1⟩, ⟨0x955, 0x957, 1⟩,
   ⟨0x962, 0x963, 1⟩, ⟨0x981, 0x983, 1⟩, ⟨0x9be, 0x9c4, 1⟩, ⟨0x9c7, 0x9c8, 1⟩, ⟨0x9cb, 0x9cc, 1⟩,
   ⟨0x9d7, 0x9d7, 1⟩, ⟨0x9e2, 0x9e3, 1⟩, ⟨0xa01, 0xa03, 1⟩, ⟨0xa3e, 0xa42, 1⟩, ⟨0xa47, 0xa48, 1⟩,
   ⟨0xa4b, 0xa4c, 1⟩, ⟨0xa51, 0xa51, 1⟩, ⟨0xa70, 0xa71, 1⟩, ⟨0xa75, 0xa75, 1⟩, ⟨0xa81, 0xa83, 1⟩,
   ⟨0xabe, 0xac5, 1⟩, ⟨0xac7, 0xac9, 1⟩, ⟨0xacb, 0xacc, 1⟩, ⟨0xae2, 0xae3, 1⟩, ⟨0xafa, 0xafc, 1⟩,
   ⟨0xb01, 0xb03, 1⟩, ⟨0xb3e, 0xb44, 1⟩, ⟨0xb47, 0xb48, 1⟩, ⟨0xb4b, 0xb4c, 1⟩, ⟨0xb56, 0xb57, 1⟩,
   ⟨0xb62, 0xb63, 1⟩, ⟨0xb82, 0xb82, 1⟩, ⟨0xbbe, 0xbc2, 1⟩, ⟨0xbc6, 0xbc8, 1⟩, ⟨0xbca, 0xbcc, 1⟩,
   ⟨0xbd7, 0xbd7, 1⟩, ⟨0xc00, 0xc04, 1⟩, ⟨0xc3e, 0xc44, 1⟩, ⟨0xc46, 0xc48, 1⟩, ⟨0xc4a, 0xc4c, 1⟩,
   ⟨0xc55, 0xc56, 1⟩, ⟨0xc62, 0xc63, 1⟩, ⟨0xc81, 0xc83, 1⟩, ⟨0xcbe, 0xcc4, 1⟩, ⟨0xcc6, 0xcc8, 1⟩,
   ⟨0xcca, 0xccc, 1⟩, ⟨0xcd5, 0xcd6, 1⟩, ⟨0xce2, 0xce3, 1⟩, ⟨0xcf3, 0xcf3, 1⟩, ⟨0xd00, 0xd03, 1⟩,
   ⟨0xd3e, 0xd44, 1⟩, ⟨0xd46, 0xd48, 1⟩, ⟨0xd4a, 0xd4c, 1⟩, ⟨0xd57, 0xd57, 1⟩, ⟨0xd62, 0xd63, 1⟩,
   ⟨0xd81, 0xd83, 1⟩, ⟨0xdcf, 0xdd4, 1⟩, ⟨0xdd6, 0xdd6, 1⟩, ⟨0xdd8, 0xddf, 1⟩, ⟨0xdf2, 0xdf3, 1⟩,
   ⟨0xe31, 0xe31, 1⟩, ⟨0xe34, 0xe3a, 1⟩, ⟨0xe4d, 0xe4d, 1⟩, ⟨0xeb1, 0xeb1, 1⟩, ⟨0xeb4, 0xeb9, 1⟩,
   ⟨0xebb, 0xebc, 1⟩, ⟨0xecd, 0xecd, 1⟩, ⟨0xf71, 0xf83, 1⟩, ⟨0xf8d, 0xf97, 1⟩, ⟨0xf99, 0xfbc, 1⟩,
   ⟨0x102b, 0x1036, 1⟩, ⟨0x1038, 0x1038, 1⟩, ⟨0x103b, 0x103e, 1⟩, ⟨0x1056, 0x1059, 1⟩,
   ⟨0x105e, 0x1060, 1⟩, ⟨0x1062, 0x1064, 1⟩, ⟨0x1067, 0x106d, 1⟩, ⟨0x1071, 0x1074, 1⟩,
   ⟨0x1082, 0x108d, 1⟩, ⟨0x108f, 0x108f, 1⟩, ⟨0x109a, 0x109d, 1⟩, ⟨0x1712, 0x1713, 1⟩,
   ⟨0x1732, 0x1733, 1⟩, ⟨0x1752, 0x1753, 1⟩, ⟨0x1772, 0x1773, 1⟩, ⟨0x17b6, 0x17c8, 1⟩,
   ⟨0x1885, 0x1886, 1⟩, ⟨0x18a9, 0x18a9, 1⟩, ⟨0x1920, 0x192b, 1⟩, ⟨0x1930, 0x1938, 1⟩,
   ⟨0x1a17, 0x1a1b, 1⟩, ⟨0x1a55, 0x1a5e, 1⟩, ⟨0x1a61, 0x1a74, 1⟩, ⟨0x1abf, 0x1ac0, 1⟩,
   ⟨0x1acc, 0x1ace, 1⟩, ⟨0x1b00, 0x1b04, 1⟩, ⟨0x1b35, 0x1b43, 1⟩, ⟨0x1b80, 0x1b82, 1⟩,
   ⟨0x1ba1, 0x1ba9, 1⟩, ⟨0x1bac, 0x1bad, 1⟩, ⟨0x1be7, 0x1bf1, 1⟩, ⟨0x1c24, 0x1c36, 1⟩,
   ⟨0x1dd3, 0x1df4, 1⟩, ⟨0x24b6, 0x24e9, 1⟩, ⟨0x2de0, 0x2dff, 1⟩, ⟨0xa674, 0xa67b, 1⟩,
   ⟨0xa69e, 0xa69f, 1⟩, ⟨0xa802, 0xa802, 1⟩, ⟨0xa80b, 0xa80b, 1⟩, ⟨0xa823, 0xa827, 1⟩,
   ⟨0xa880, 0xa881, 1⟩, ⟨0xa8b4, 0xa8c3, 1⟩, ⟨0xa8c5, 0xa8c5, 1⟩, ⟨0xa8ff, 0xa8ff, 1⟩,
   ⟨0xa926, 0xa92a, 1⟩, ⟨0xa947, 0xa952, 1⟩, ⟨0xa980, 0xa983, 1⟩, ⟨0xa9b4, 0xa9bf, 1⟩,
   ⟨0xa9e5, 0xa9e5, 1⟩, ⟨0xaa29, 0xaa36, 1⟩, ⟨0xaa43, 0xaa43, 1⟩, ⟨0xaa4c, 0xaa4d, 1⟩,
   ⟨0xaa7b, 0xaa7d, 1⟩, ⟨0xaab0, 0xaab0, 1⟩, ⟨0xaab2, 0xaab4, 1⟩, ⟨0xaab7, 0xaab8, 1⟩,
   ⟨0xaabe, 0xaabe, 1⟩, ⟨0xaaeb, 0xaaef, 1⟩, ⟨0xaaf5, 0xaaf5, 1⟩, ⟨0xabe3, 0xabea, 1⟩,
   ⟨0xfb1e, 0xfb1e, 1⟩, ⟨0x10376, 0x1037a, 1⟩, ⟨0x10a01, 0x10a03, 1⟩, ⟨0x10a05, 0x10a06, 1⟩,
   ⟨0x10a0c, 0x10a0f, 1⟩, ⟨0x10d24, 0x10d27, 1⟩, ⟨0x10d69, 0x10d69, 1⟩, ⟨0x10eab, 0x10eac, 1⟩,
   ⟨0x10efa, 0x10efc, 1⟩, ⟨0x11000, 0x11002, 1⟩, ⟨0x11038, 0x11045, 1⟩, ⟨0x11073, 0x11074, 1⟩,
   ⟨0x11080, 0x11082, 1⟩, ⟨0x110b0, 0x110b8, 1⟩, ⟨0x110c2, 0x110c2, 1⟩, ⟨0x11100, 0x11102, 1⟩,
   ⟨0x11127, 0x11132, 1⟩, ⟨0x11145, 0x11146, 1⟩, ⟨0x11180, 0x11182, 1⟩, ⟨0x111b3, 0x111bf, 1⟩,
   ⟨0x111ce, 0x111cf, 1⟩, ⟨0x1122c, 0x11234, 1⟩, ⟨0x11237, 0x11237, 1⟩, ⟨0x1123e, 0x1123e, 1⟩,
   ⟨0x11241, 0x11241, 1⟩, ⟨0x112df, 0x112e8, 1⟩, ⟨0x11300, 0x11303, 1⟩, ⟨0x1133e, 0x11344, 1⟩,
   ⟨0x11347, 0x11348, 1⟩, ⟨0x1134b, 0x1134c, 1⟩, ⟨0x11357, 0x11357, 1⟩, ⟨0x11362, 0x11363, 1⟩,
   ⟨0x113b8, 0x113c0, 1⟩, ⟨0x113c2, 0x113c2, 1⟩, ⟨0x113c5, 0x113c5, 1⟩, ⟨0x113c7, 0x113ca, 1⟩,
   ⟨0x113cc, 0x113cd, 1⟩, ⟨0x11435, 0x11441, 1⟩, ⟨0x11443, 0x11445, 1⟩, ⟨0x114b0, 0x114c1, 1⟩,
   ⟨0x115af, 0x115b5, 1⟩, ⟨0x115b8, 0x115be, 1⟩, ⟨0x115dc, 0x115dd, 1⟩, ⟨0x11630, 0x1163e, 1⟩,
   ⟨0x11640, 0x11640, 1⟩, ⟨0x116ab, 0x116b5, 1⟩, ⟨0x1171d, 0x1172a, 1⟩, ⟨0x1182c, 0x11838, 1⟩,
   ⟨0x11930, 0x11935, 1⟩, ⟨0x11937, 0x11938, 1⟩, ⟨0x1193b, 0x1193c, 1⟩, ⟨0x11940, 0x11940, 1⟩,
   ⟨0x11942, 0x11942, 1⟩, ⟨0x119d1, 0x119d7, 1⟩, ⟨0x119da, 0x119df, 1⟩, ⟨0x119e4, 0x119e4, 1⟩,
   ⟨0x11a01, 0x11a0a, 1⟩, ⟨0x11a35, 0x11a39, 1⟩, ⟨0x11a3b, 0x11a3e, 1⟩, ⟨0x11a51, 0x11a5b, 1⟩,
   ⟨0x11a8a, 0x11a97, 1⟩, ⟨0x11b60, 0x11b67, 1⟩, ⟨0x11c2f, 0x11c36, 1⟩, ⟨0x11c38, 0x11c3e, 1⟩,
   ⟨0x11c92, 0x11ca7, 1⟩, ⟨0x11ca9, 0x11cb6, 1⟩, ⟨0x11d31, 0x11d36, 1⟩, ⟨0x11d3a, 0x11d3a, 1⟩,
   ⟨0x11d3c, 0x11d3d, 1⟩, ⟨0x11d3f, 0x11d41, 1⟩, ⟨0x11d43, 0x11d43, 1⟩, ⟨0x11d47, 0x11d47, 1⟩,
   ⟨0x11d8a, 0x11d8e, 1⟩, ⟨0x11d90, 0x11d91, 1⟩, ⟨0x11d93, 0x11d96, 1⟩, ⟨0x11ef3, 0x11ef6, 1⟩,
   ⟨0x11f00, 0x11f01, 1⟩, ⟨0x11f03, 0x11f03, 1⟩, ⟨0x11f34, 0x11f3a, 1⟩, ⟨0x11f3e, 0x11f40, 1⟩,
   ⟨0x1611e, 0x1612e, 1⟩, ⟨0x16f4f, 0x16f4f, 1⟩, ⟨0x16f51, 0x16f87, 1⟩, ⟨0x16f8f, 0x16f92, 1⟩,
   ⟨0x16ff0, 0x16ff1, 1⟩, ⟨0x1bc9e, 0x1bc9e, 1⟩, ⟨0x1e000, 0x1e006, 1⟩, ⟨0x1e008, 0x1e018, 1⟩,
   ⟨0x1e01b, 0x1e021, 1⟩, ⟨0x1e023, 0x1e024, 1⟩, ⟨0x1e026, 0x1e02a, 1⟩, ⟨0x1e08f, 0x1e08f, 1⟩,
   ⟨0x1e6e3, 0x1e6e3, 1⟩, ⟨0x1e6e6, 0x1e6e6, 1⟩, ⟨0x1e6ee, 0x1e6ef, 1⟩, ⟨0x1e6f5, 0x1e6f5, 1⟩,
   ⟨0x1e947, 0x1e947, 1⟩, ⟨0x1f130, 0x1f149, 1⟩, ⟨0x1f150, 0x1f169, 1⟩, ⟨0x1f170, 0x1f189, 1⟩]

/-- Lower-case characters that are no lower-case letters. -/
def furtherLowerCase : List Span :=
  [⟨0xaa, 0xaa, 1⟩, ⟨0xba, 0xba, 1⟩, ⟨0x2b0, 0x2b8, 1⟩, ⟨0x2c0, 0x2c1, 1⟩, ⟨0x2e0, 0x2e4, 1⟩,
   ⟨0x345, 0x345, 1⟩, ⟨0x37a, 0x37a, 1⟩, ⟨0x10fc, 0x10fc, 1⟩, ⟨0x1d2c, 0x1d6a, 1⟩,
   ⟨0x1d78, 0x1d78, 1⟩, ⟨0x1d9b, 0x1dbf, 1⟩, ⟨0x2071, 0x2071, 1⟩, ⟨0x207f, 0x207f, 1⟩,
   ⟨0x2090, 0x209c, 1⟩, ⟨0x2170, 0x217f, 1⟩, ⟨0x24d0, 0x24e9, 1⟩, ⟨0x2c7c, 0x2c7d, 1⟩,
   ⟨0xa69c, 0xa69d, 1⟩, ⟨0xa770, 0xa770, 1⟩, ⟨0xa7f1, 0xa7f4, 1⟩, ⟨0xa7f8, 0xa7f9, 1⟩,
   ⟨0xab5c, 0xab5f, 1⟩, ⟨0xab69, 0xab69, 1⟩, ⟨0x10780, 0x10780, 1⟩, ⟨0x10783, 0x10785, 1⟩,
   ⟨0x10787, 0x107b0, 1⟩, ⟨0x107b2, 0x107ba, 1⟩, ⟨0x1e030, 0x1e06d, 1⟩]

/-- Upper-case characters that are no upper-case letters. -/
def furtherUpperCase : List Span :=
  [⟨0x2160, 0x216f, 1⟩, ⟨0x24b6, 0x24cf, 1⟩, ⟨0x1f130, 0x1f149, 1⟩, ⟨0x1f150, 0x1f169, 1⟩,
   ⟨0x1f170, 0x1f189, 1⟩]

/-- Characters that extend the one before and are no nonspacing or enclosing marks. -/
def furtherExtending : List Span :=
  [⟨0x9be, 0x9be, 1⟩, ⟨0x9d7, 0x9d7, 1⟩, ⟨0xb3e, 0xb3e, 1⟩, ⟨0xb57, 0xb57, 1⟩, ⟨0xbbe, 0xbbe, 1⟩,
   ⟨0xbd7, 0xbd7, 1⟩, ⟨0xcc0, 0xcc0, 1⟩, ⟨0xcc2, 0xcc2, 1⟩, ⟨0xcc7, 0xcc8, 1⟩, ⟨0xcca, 0xccb, 1⟩,
   ⟨0xcd5, 0xcd6, 1⟩, ⟨0xd3e, 0xd3e, 1⟩, ⟨0xd57, 0xd57, 1⟩, ⟨0xdcf, 0xdcf, 1⟩, ⟨0xddf, 0xddf, 1⟩,
   ⟨0x1715, 0x1715, 1⟩, ⟨0x1734, 0x1734, 1⟩, ⟨0x1b35, 0x1b35, 1⟩, ⟨0x1b3b, 0x1b3b, 1⟩,
   ⟨0x1b3d, 0x1b3d, 1⟩, ⟨0x1b43, 0x1b44, 1⟩, ⟨0x1baa, 0x1baa, 1⟩, ⟨0x1bf2, 0x1bf3, 1⟩,
   ⟨0x200c, 0x200c, 1⟩, ⟨0x302e, 0x302f, 1⟩, ⟨0xa953, 0xa953, 1⟩, ⟨0xa9c0, 0xa9c0, 1⟩,
   ⟨0xff9e, 0xff9f, 1⟩, ⟨0x111c0, 0x111c0, 1⟩, ⟨0x11235, 0x11235, 1⟩, ⟨0x1133e, 0x1133e, 1⟩,
   ⟨0x1134d, 0x1134d, 1⟩, ⟨0x11357, 0x11357, 1⟩, ⟨0x113b8, 0x113b8, 1⟩, ⟨0x113c2, 0x113c2, 1⟩,
   ⟨0x113c5, 0x113c5, 1⟩, ⟨0x113c7, 0x113c9, 1⟩, ⟨0x113cf, 0x113cf, 1⟩, ⟨0x114b0, 0x114b0, 1⟩,
   ⟨0x114bd, 0x114bd, 1⟩, ⟨0x115af, 0x115af, 1⟩, ⟨0x116b6, 0x116b6, 1⟩, ⟨0x11930, 0x11930, 1⟩,
   ⟨0x1193d, 0x1193d, 1⟩, ⟨0x11f41, 0x11f41, 1⟩, ⟨0x16ff0, 0x16ff1, 1⟩, ⟨0x1d165, 0x1d166, 1⟩,
   ⟨0x1d16d, 0x1d172, 1⟩, ⟨0xe0020, 0xe007f, 1⟩]

def emoji : List Span :=
  [⟨0x23, 0x23, 1⟩, ⟨0x2a, 0x2a, 1⟩, ⟨0x30, 0x39, 1⟩, ⟨0xa9, 0xa9, 1⟩, ⟨0xae, 0xae, 1⟩,
   ⟨0x203c, 0x203c, 1⟩, ⟨0x2049, 0x2049, 1⟩, ⟨0x2122, 0x2122, 1⟩, ⟨0x2139, 0x2139, 1⟩,
   ⟨0x2194, 0x2199, 1⟩, ⟨0x21a9, 0x21aa, 1⟩, ⟨0x231a, 0x231b, 1⟩, ⟨0x2328, 0x2328, 1⟩,
   ⟨0x23cf, 0x23cf, 1⟩, ⟨0x23e9, 0x23f3, 1⟩, ⟨0x23f8, 0x23fa, 1⟩, ⟨0x24c2, 0x24c2, 1⟩,
   ⟨0x25aa, 0x25ab, 1⟩, ⟨0x25b6, 0x25b6, 1⟩, ⟨0x25c0, 0x25c0, 1⟩, ⟨0x25fb, 0x25fe, 1⟩,
   ⟨0x2600, 0x2604, 1⟩, ⟨0x260e, 0x260e, 1⟩, ⟨0x2611, 0x2611, 1⟩, ⟨0x2614, 0x2615, 1⟩,
   ⟨0x2618, 0x2618, 1⟩, ⟨0x261d, 0x261d, 1⟩, ⟨0x2620, 0x2620, 1⟩, ⟨0x2622, 0x2623, 1⟩,
   ⟨0x2626, 0x2626, 1⟩, ⟨0x262a, 0x262a, 1⟩, ⟨0x262e, 0x262f, 1⟩, ⟨0x2638, 0x263a, 1⟩,
   ⟨0x2640, 0x2640, 1⟩, ⟨0x2642, 0x2642, 1⟩, ⟨0x2648, 0x2653, 1⟩, ⟨0x265f, 0x2660, 1⟩,
   ⟨0x2663, 0x2663, 1⟩, ⟨0x2665, 0x2666, 1⟩, ⟨0x2668, 0x2668, 1⟩, ⟨0x267b, 0x267b, 1⟩,
   ⟨0x267e, 0x267f, 1⟩, ⟨0x2692, 0x2697, 1⟩, ⟨0x2699, 0x2699, 1⟩, ⟨0x269b, 0x269c, 1⟩,
   ⟨0x26a0, 0x26a1, 1⟩, ⟨0x26a7, 0x26a7, 1⟩, ⟨0x26aa, 0x26ab, 1⟩, ⟨0x26b0, 0x26b1, 1⟩,
   ⟨0x26bd, 0x26be, 1⟩, ⟨0x26c4, 0x26c5, 1⟩, ⟨0x26c8, 0x26c8, 1⟩, ⟨0x26ce, 0x26cf, 1⟩,
   ⟨0x26d1, 0x26d1, 1⟩, ⟨0x26d3, 0x26d4, 1⟩, ⟨0x26e9, 0x26ea, 1⟩, ⟨0x26f0, 0x26f5, 1⟩,
   ⟨0x26f7, 0x26fa, 1⟩, ⟨0x26fd, 0x26fd, 1⟩, ⟨0x2702, 0x2702, 1⟩, ⟨0x2705, 0x2705, 1⟩,
   ⟨0x2708, 0x270d, 1⟩, ⟨0x270f, 0x270f, 1⟩, ⟨0x2712, 0x2716, 2⟩, ⟨0x271d, 0x271d, 1⟩,
   ⟨0x2721, 0x2721, 1⟩, ⟨0x2728, 0x2728, 1⟩, ⟨0x2733, 0x2734, 1⟩, ⟨0x2744, 0x2744, 1⟩,
   ⟨0x2747, 0x2747, 1⟩, ⟨0x274c, 0x274c, 1⟩, ⟨0x274e, 0x274e, 1⟩, ⟨0x2753, 0x2755, 1⟩,
   ⟨0x2757, 0x2757, 1⟩, ⟨0x2763, 0x2764, 1⟩, ⟨0x2795, 0x2797, 1⟩, ⟨0x27a1, 0x27a1, 1⟩,
   ⟨0x27b0, 0x27b0, 1⟩, ⟨0x27bf, 0x27bf, 1⟩, ⟨0x2934, 0x2935, 1⟩, ⟨0x2b05, 0x2b07, 1⟩,
   ⟨0x2b1b, 0x2b1c, 1⟩, ⟨0x2b50, 0x2b50, 1⟩, ⟨0x2b55, 0x2b55, 1⟩, ⟨0x3030, 0x3030, 1⟩,
   ⟨0x303d, 0x303d, 1⟩, ⟨0x3297, 0x3297, 1⟩, ⟨0x3299, 0x3299, 1⟩, ⟨0x1f004, 0x1f004, 1⟩,
   ⟨0x1f0cf, 0x1f0cf, 1⟩, ⟨0x1f170, 0x1f171, 1⟩, ⟨0x1f17e, 0x1f17f, 1⟩, ⟨0x1f18e, 0x1f18e, 1⟩,
   ⟨0x1f191, 0x1f19a, 1⟩, ⟨0x1f1e6, 0x1f1ff, 1⟩, ⟨0x1f201, 0x1f202, 1⟩, ⟨0x1f21a, 0x1f21a, 1⟩,
   ⟨0x1f22f, 0x1f22f, 1⟩, ⟨0x1f232, 0x1f23a, 1⟩, ⟨0x1f250, 0x1f251, 1⟩, ⟨0x1f300, 0x1f321, 1⟩,
   ⟨0x1f324, 0x1f393, 1⟩, ⟨0x1f396, 0x1f397, 1⟩, ⟨0x1f399, 0x1f39b, 1⟩, ⟨0x1f39e, 0x1f3f0, 1⟩,
   ⟨0x1f3f3, 0x1f3f5, 1⟩, ⟨0x1f3f7, 0x1f4fd, 1⟩, ⟨0x1f4ff, 0x1f53d, 1⟩, ⟨0x1f549, 0x1f54e, 1⟩,
   ⟨0x1f550, 0x1f567, 1⟩, ⟨0x1f56f, 0x1f570, 1⟩, ⟨0x1f573, 0x1f57a, 1⟩, ⟨0x1f587, 0x1f587, 1⟩,
   ⟨0x1f58a, 0x1f58d, 1⟩, ⟨0x1f590, 0x1f590, 1⟩, ⟨0x1f595, 0x1f596, 1⟩, ⟨0x1f5a4, 0x1f5a5, 1⟩,
   ⟨0x1f5a8, 0x1f5a8, 1⟩, ⟨0x1f5b1, 0x1f5b2, 1⟩, ⟨0x1f5bc, 0x1f5bc, 1⟩, ⟨0x1f5c2, 0x1f5c4, 1⟩,
   ⟨0x1f5d1, 0x1f5d3, 1⟩, ⟨0x1f5dc, 0x1f5de, 1⟩, ⟨0x1f5e1, 0x1f5e1, 1⟩, ⟨0x1f5e3, 0x1f5e3, 1⟩,
   ⟨0x1f5e8, 0x1f5e8, 1⟩, ⟨0x1f5ef, 0x1f5ef, 1⟩, ⟨0x1f5f3, 0x1f5f3, 1⟩, ⟨0x1f5fa, 0x1f64f, 1⟩,
   ⟨0x1f680, 0x1f6c5, 1⟩, ⟨0x1f6cb, 0x1f6d2, 1⟩, ⟨0x1f6d5, 0x1f6d8, 1⟩, ⟨0x1f6dc, 0x1f6e5, 1⟩,
   ⟨0x1f6e9, 0x1f6e9, 1⟩, ⟨0x1f6eb, 0x1f6ec, 1⟩, ⟨0x1f6f0, 0x1f6f0, 1⟩, ⟨0x1f6f3, 0x1f6fc, 1⟩,
   ⟨0x1f7e0, 0x1f7eb, 1⟩, ⟨0x1f7f0, 0x1f7f0, 1⟩, ⟨0x1f90c, 0x1f93a, 1⟩, ⟨0x1f93c, 0x1f945, 1⟩,
   ⟨0x1f947, 0x1f9ff, 1⟩, ⟨0x1fa70, 0x1fa7c, 1⟩, ⟨0x1fa80, 0x1fa8a, 1⟩, ⟨0x1fa8e, 0x1fac6, 1⟩,
   ⟨0x1fac8, 0x1fac8, 1⟩, ⟨0x1facd, 0x1fadc, 1⟩, ⟨0x1fadf, 0x1faea, 1⟩, ⟨0x1faef, 0x1faf8, 1⟩]

end Gleaner.Text.Property
