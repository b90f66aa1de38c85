import SubspaceOps.Text.Hangul
import SubspaceOps.Text.Split

/-!
# Decompositions of characters

The full compatibility decompositions of the Unicode standard, as of version 14.0, for the
characters that can stand in an identifier. Syllables of Hangul are decomposed into their letters,
all others by a table. A character that is in neither stands for itself.
-/
namespace SubspaceOps.Text

/-- Neighbouring characters from one code point to another, with their decompositions in order,
separated by spaces. -/
abbrev DecompositionRun := Nat × Nat × String

set_option maxRecDepth 4000 in
/-- The decompositions, in the order of their characters. -/
def decompositionRuns : List DecompositionRun :=
  [(0xaa, 0xaa, "a"), (0xb5, 0xb5, "μ"), (0xba, 0xba, "o"),
    (0xc0, 0xc5, "A\u0300 A\u0301 A\u0302 A\u0303 A\u0308 A\u030a"),
    (0xc7, 0xcf, "C\u0327 E\u0300 E\u0301 E\u0302 E\u0308 I\u0300 I\u0301 I\u0302 I\u0308"),
    (0xd1, 0xd6, "N\u0303 O\u0300 O\u0301 O\u0302 O\u0303 O\u0308"),
    (0xd9, 0xdd, "U\u0300 U\u0301 U\u0302 U\u0308 Y\u0301"),
    (0xe0, 0xe5, "a\u0300 a\u0301 a\u0302 a\u0303 a\u0308 a\u030a"),
    (0xe7, 0xef, "c\u0327 e\u0300 e\u0301 e\u0302 e\u0308 i\u0300 i\u0301 i\u0302 i\u0308"),
    (0xf1, 0xf6, "n\u0303 o\u0300 o\u0301 o\u0302 o\u0303 o\u0308"),
    (0xf9, 0xfd, "u\u0300 u\u0301 u\u0302 u\u0308 y\u0301"),
    (0xff, 0x107, "y\u0308 A\u0304 a\u0304 A\u0306 a\u0306 A\u0328 a\u0328 C\u0301 c\u0301"),
    (0x108, 0x10f, "C\u0302 c\u0302 C\u0307 c\u0307 C\u030c c\u030c D\u030c d\u030c"),
    (0x112, 0x11a, "E\u0304 e\u0304 E\u0306 e\u0306 E\u0307 e\u0307 E\u0328 e\u0328 E\u030c"),
    (0x11b, 0x123, "e\u030c G\u0302 g\u0302 G\u0306 g\u0306 G\u0307 g\u0307 G\u0327 g\u0327"),
    (0x124, 0x125, "H\u0302 h\u0302"),
    (0x128, 0x130, "I\u0303 i\u0303 I\u0304 i\u0304 I\u0306 i\u0306 I\u0328 i\u0328 I\u0307"),
    (0x132, 0x137, "IJ ij J\u0302 j\u0302 K\u0327 k\u0327"),
    (0x139, 0x140, "L\u0301 l\u0301 L\u0327 l\u0327 L\u030c l\u030c L· l·"),
    (0x143, 0x149, "N\u0301 n\u0301 N\u0327 n\u0327 N\u030c n\u030c \u02bcn"),
    (0x14c, 0x151, "O\u0304 o\u0304 O\u0306 o\u0306 O\u030b o\u030b"),
    (0x154, 0x15c, "R\u0301 r\u0301 R\u0327 r\u0327 R\u030c r\u030c S\u0301 s\u0301 S\u0302"),
    (0x15d, 0x165, "s\u0302 S\u0327 s\u0327 S\u030c s\u030c T\u0327 t\u0327 T\u030c t\u030c"),
    (0x168, 0x170, "U\u0303 u\u0303 U\u0304 u\u0304 U\u0306 u\u0306 U\u030a u\u030a U\u030b"),
    (0x171, 0x179, "u\u030b U\u0328 u\u0328 W\u0302 w\u0302 Y\u0302 y\u0302 Y\u0308 Z\u0301"),
    (0x17a, 0x17f, "z\u0301 Z\u0307 z\u0307 Z\u030c z\u030c s"), (0x1a0, 0x1a1, "O\u031b o\u031b"),
    (0x1af, 0x1b0, "U\u031b u\u031b"),
    (0x1c4, 0x1d0, "DZ\u030c Dz\u030c dz\u030c LJ Lj lj NJ Nj nj A\u030c a\u030c I\u030c i\u030c"),
    (0x1d1, 0x1d7, "O\u030c o\u030c U\u030c u\u030c U\u0308\u0304 u\u0308\u0304 U\u0308\u0301"),
    (0x1d8, 0x1dc, "u\u0308\u0301 U\u0308\u030c u\u0308\u030c U\u0308\u0300 u\u0308\u0300"),
    (0x1de, 0x1e3, "A\u0308\u0304 a\u0308\u0304 A\u0307\u0304 a\u0307\u0304 Æ\u0304 æ\u0304"),
    (0x1e6, 0x1ed, "G\u030c g\u030c K\u030c k\u030c O\u0328 o\u0328 O\u0328\u0304 o\u0328\u0304"),
    (0x1ee, 0x1f5, "Ʒ\u030c ʒ\u030c j\u030c DZ Dz dz G\u0301 g\u0301"),
    (0x1f8, 0x1ff, "N\u0300 n\u0300 A\u030a\u0301 a\u030a\u0301 Æ\u0301 æ\u0301 Ø\u0301 ø\u0301"),
    (0x200, 0x208, "A\u030f a\u030f A\u0311 a\u0311 E\u030f e\u030f E\u0311 e\u0311 I\u030f"),
    (0x209, 0x211, "i\u030f I\u0311 i\u0311 O\u030f o\u030f O\u0311 o\u0311 R\u030f r\u030f"),
    (0x212, 0x21a, "R\u0311 r\u0311 U\u030f u\u030f U\u0311 u\u0311 S\u0326 s\u0326 T\u0326"),
    (0x21b, 0x21b, "t\u0326"), (0x21e, 0x21f, "H\u030c h\u030c"),
    (0x226, 0x22c, "A\u0307 a\u0307 E\u0327 e\u0327 O\u0308\u0304 o\u0308\u0304 O\u0303\u0304"),
    (0x22d, 0x233, "o\u0303\u0304 O\u0307 o\u0307 O\u0307\u0304 o\u0307\u0304 Y\u0304 y\u0304"),
    (0x2b0, 0x2b8, "h ɦ j r ɹ ɻ ʁ w y"), (0x2e0, 0x2e4, "ɣ l s x ʕ"),
    (0x340, 0x341, "\u0300 \u0301"), (0x343, 0x344, "\u0313 \u0308\u0301"),
    (0x374, 0x374, "\u02b9"), (0x386, 0x38a, "Α\u0301 · Ε\u0301 Η\u0301 Ι\u0301"),
    (0x38c, 0x38c, "Ο\u0301"), (0x38e, 0x390, "Υ\u0301 Ω\u0301 ι\u0308\u0301"),
    (0x3aa, 0x3b0, "Ι\u0308 Υ\u0308 α\u0301 ε\u0301 η\u0301 ι\u0301 υ\u0308\u0301"),
    (0x3ca, 0x3ce, "ι\u0308 υ\u0308 ο\u0301 υ\u0301 ω\u0301"),
    (0x3d0, 0x3d6, "β θ Υ Υ\u0301 Υ\u0308 φ π"), (0x3f0, 0x3f2, "κ ρ ς"), (0x3f4, 0x3f5, "Θ ε"),
    (0x3f9, 0x3f9, "Σ"), (0x400, 0x401, "Е\u0300 Е\u0308"), (0x403, 0x403, "Г\u0301"),
    (0x407, 0x407, "І\u0308"), (0x40c, 0x40e, "К\u0301 И\u0300 У\u0306"), (0x419, 0x419, "И\u0306"),
    (0x439, 0x439, "и\u0306"), (0x450, 0x451, "е\u0300 е\u0308"), (0x453, 0x453, "г\u0301"),
    (0x457, 0x457, "і\u0308"), (0x45c, 0x45e, "к\u0301 и\u0300 у\u0306"),
    (0x476, 0x477, "Ѵ\u030f ѵ\u030f"), (0x4c1, 0x4c2, "Ж\u0306 ж\u0306"),
    (0x4d0, 0x4d3, "А\u0306 а\u0306 А\u0308 а\u0308"), (0x4d6, 0x4d7, "Е\u0306 е\u0306"),
    (0x4da, 0x4df, "Ә\u0308 ә\u0308 Ж\u0308 ж\u0308 З\u0308 з\u0308"),
    (0x4e2, 0x4e7, "И\u0304 и\u0304 И\u0308 и\u0308 О\u0308 о\u0308"),
    (0x4ea, 0x4f2, "Ө\u0308 ө\u0308 Э\u0308 э\u0308 У\u0304 у\u0304 У\u0308 у\u0308 У\u030b"),
    (0x4f3, 0x4f5, "у\u030b Ч\u0308 ч\u0308"), (0x4f8, 0x4f9, "Ы\u0308 ы\u0308"),
    (0x587, 0x587, "եւ"),
    (0x622, 0x626, "\u0627\u0653 \u0627\u0654 \u0648\u0654 \u0627\u0655 \u064a\u0654"),
    (0x675, 0x678, "\u0627\u0674 \u0648\u0674 \u06c7\u0674 \u064a\u0674"),
    (0x6c0, 0x6c0, "\u06d5\u0654"), (0x6c2, 0x6c2, "\u06c1\u0654"), (0x6d3, 0x6d3, "\u06d2\u0654"),
    (0x929, 0x929, "न\u093c"), (0x931, 0x931, "र\u093c"), (0x934, 0x934, "ळ\u093c"),
    (0x958, 0x95f, "क\u093c ख\u093c ग\u093c ज\u093c ड\u093c ढ\u093c फ\u093c य\u093c"),
    (0x9cb, 0x9cc, "\u09c7\u09be \u09c7\u09d7"), (0x9dc, 0x9dd, "ড\u09bc ঢ\u09bc"),
    (0x9df, 0x9df, "য\u09bc"), (0xa33, 0xa33, "ਲ\u0a3c"), (0xa36, 0xa36, "ਸ\u0a3c"),
    (0xa59, 0xa5b, "ਖ\u0a3c ਗ\u0a3c ਜ\u0a3c"), (0xa5e, 0xa5e, "ਫ\u0a3c"),
    (0xb48, 0xb48, "\u0b47\u0b56"), (0xb4b, 0xb4c, "\u0b47\u0b3e \u0b47\u0b57"),
    (0xb5c, 0xb5d, "ଡ\u0b3c ଢ\u0b3c"), (0xb94, 0xb94, "ஒ\u0bd7"),
    (0xbca, 0xbcc, "\u0bc6\u0bbe \u0bc7\u0bbe \u0bc6\u0bd7"), (0xc48, 0xc48, "\u0c46\u0c56"),
    (0xcc0, 0xcc0, "\u0cbf\u0cd5"), (0xcc7, 0xcc8, "\u0cc6\u0cd5 \u0cc6\u0cd6"),
    (0xcca, 0xccb, "\u0cc6\u0cc2 \u0cc6\u0cc2\u0cd5"),
    (0xd4a, 0xd4c, "\u0d46\u0d3e \u0d47\u0d3e \u0d46\u0d57"), (0xdda, 0xdda, "\u0dd9\u0dca"),
    (0xddc, 0xdde, "\u0dd9\u0dcf \u0dd9\u0dcf\u0dca \u0dd9\u0ddf"), (0xe33, 0xe33, "\u0e4dา"),
    (0xeb3, 0xeb3, "\u0ecdາ"), (0xedc, 0xedd, "ຫນ ຫມ"), (0xf43, 0xf43, "ག\u0fb7"),
    (0xf4d, 0xf4d, "ཌ\u0fb7"), (0xf52, 0xf52, "ད\u0fb7"), (0xf57, 0xf57, "བ\u0fb7"),
    (0xf5c, 0xf5c, "ཛ\u0fb7"), (0xf69, 0xf69, "ཀ\u0fb5"), (0xf73, 0xf73, "\u0f71\u0f72"),
    (0xf75, 0xf79, "\u0f71\u0f74 \u0fb2\u0f80 \u0fb2\u0f71\u0f80 \u0fb3\u0f80 \u0fb3\u0f71\u0f80"),
    (0xf81, 0xf81, "\u0f71\u0f80"), (0xf93, 0xf93, "\u0f92\u0fb7"), (0xf9d, 0xf9d, "\u0f9c\u0fb7"),
    (0xfa2, 0xfa2, "\u0fa1\u0fb7"), (0xfa7, 0xfa7, "\u0fa6\u0fb7"), (0xfac, 0xfac, "\u0fab\u0fb7"),
    (0xfb9, 0xfb9, "\u0f90\u0fb5"), (0x1026, 0x1026, "ဥ\u102e"), (0x10fc, 0x10fc, "ნ"),
    (0x1b06, 0x1b06, "ᬅ\u1b35"), (0x1b08, 0x1b08, "ᬇ\u1b35"), (0x1b0a, 0x1b0a, "ᬉ\u1b35"),
    (0x1b0c, 0x1b0c, "ᬋ\u1b35"), (0x1b0e, 0x1b0e, "ᬍ\u1b35"), (0x1b12, 0x1b12, "ᬑ\u1b35"),
    (0x1b3b, 0x1b3b, "\u1b3a\u1b35"), (0x1b3d, 0x1b3d, "\u1b3c\u1b35"),
    (0x1b40, 0x1b41, "\u1b3e\u1b35 \u1b3f\u1b35"), (0x1b43, 0x1b43, "\u1b42\u1b35"),
    (0x1d2c, 0x1d2e, "A Æ B"), (0x1d30, 0x1d3a, "D E Ǝ G H I J K L M N"),
    (0x1d3c, 0x1d4d, "O Ȣ P R T U W a ɐ ɑ ᴂ b d e ə ɛ ɜ g"),
    (0x1d4f, 0x1d6a, "k m ŋ o ɔ ᴖ ᴗ p t u ᴝ ɯ v ᴥ β γ δ φ χ i r u v β γ ρ φ χ"),
    (0x1d78, 0x1d78, "н"),
    (0x1d9b, 0x1dbf, "ɒ c ɕ ð ɜ f ɟ ɡ ɥ ɨ ɩ ɪ ᵻ ʝ ɭ ᶅ ʟ ɱ ɰ ɲ ɳ ɴ ɵ ɸ ʂ ʃ ƫ ʉ ʊ ᴜ ʋ ʌ z ʐ ʑ ʒ θ"),
    (0x1e00, 0x1e07, "A\u0325 a\u0325 B\u0307 b\u0307 B\u0323 b\u0323 B\u0331 b\u0331"),
    (0x1e08, 0x1e0f, "C\u0327\u0301 c\u0327\u0301 D\u0307 d\u0307 D\u0323 d\u0323 D\u0331 d\u0331"),
    (0x1e10, 0x1e16, "D\u0327 d\u0327 D\u032d d\u032d E\u0304\u0300 e\u0304\u0300 E\u0304\u0301"),
    (0x1e17, 0x1e1d, "e\u0304\u0301 E\u032d e\u032d E\u0330 e\u0330 E\u0327\u0306 e\u0327\u0306"),
    (0x1e1e, 0x1e26, "F\u0307 f\u0307 G\u0304 g\u0304 H\u0307 h\u0307 H\u0323 h\u0323 H\u0308"),
    (0x1e27, 0x1e2e, "h\u0308 H\u0327 h\u0327 H\u032e h\u032e I\u0330 i\u0330 I\u0308\u0301"),
    (0x1e2f, 0x1e36, "i\u0308\u0301 K\u0301 k\u0301 K\u0323 k\u0323 K\u0331 k\u0331 L\u0323"),
    (0x1e37, 0x1e3e, "l\u0323 L\u0323\u0304 l\u0323\u0304 L\u0331 l\u0331 L\u032d l\u032d M\u0301"),
    (0x1e3f, 0x1e47, "m\u0301 M\u0307 m\u0307 M\u0323 m\u0323 N\u0307 n\u0307 N\u0323 n\u0323"),
    (0x1e48, 0x1e4e, "N\u0331 n\u0331 N\u032d n\u032d O\u0303\u0301 o\u0303\u0301 O\u0303\u0308"),
    (0x1e4f, 0x1e53, "o\u0303\u0308 O\u0304\u0300 o\u0304\u0300 O\u0304\u0301 o\u0304\u0301"),
    (0x1e54, 0x1e5b, "P\u0301 p\u0301 P\u0307 p\u0307 R\u0307 r\u0307 R\u0323 r\u0323"),
    (0x1e5c, 0x1e63, "R\u0323\u0304 r\u0323\u0304 R\u0331 r\u0331 S\u0307 s\u0307 S\u0323 s\u0323"),
    (0x1e64, 0x1e68, "S\u0301\u0307 s\u0301\u0307 S\u030c\u0307 s\u030c\u0307 S\u0323\u0307"),
    (0x1e69, 0x1e70, "s\u0323\u0307 T\u0307 t\u0307 T\u0323 t\u0323 T\u0331 t\u0331 T\u032d"),
    (0x1e71, 0x1e78, "t\u032d U\u0324 u\u0324 U\u0330 u\u0330 U\u032d u\u032d U\u0303\u0301"),
    (0x1e79, 0x1e7f, "u\u0303\u0301 U\u0304\u0308 u\u0304\u0308 V\u0303 v\u0303 V\u0323 v\u0323"),
    (0x1e80, 0x1e88, "W\u0300 w\u0300 W\u0301 w\u0301 W\u0308 w\u0308 W\u0307 w\u0307 W\u0323"),
    (0x1e89, 0x1e91, "w\u0323 X\u0307 x\u0307 X\u0308 x\u0308 Y\u0307 y\u0307 Z\u0302 z\u0302"),
    (0x1e92, 0x1e9a, "Z\u0323 z\u0323 Z\u0331 z\u0331 h\u0331 t\u0308 w\u030a y\u030a a\u02be"),
    (0x1e9b, 0x1e9b, "s\u0307"),
    (0x1ea0, 0x1ea6, "A\u0323 a\u0323 A\u0309 a\u0309 A\u0302\u0301 a\u0302\u0301 A\u0302\u0300"),
    (0x1ea7, 0x1eab, "a\u0302\u0300 A\u0302\u0309 a\u0302\u0309 A\u0302\u0303 a\u0302\u0303"),
    (0x1eac, 0x1eb0, "A\u0323\u0302 a\u0323\u0302 A\u0306\u0301 a\u0306\u0301 A\u0306\u0300"),
    (0x1eb1, 0x1eb5, "a\u0306\u0300 A\u0306\u0309 a\u0306\u0309 A\u0306\u0303 a\u0306\u0303"),
    (0x1eb6, 0x1ebd, "A\u0323\u0306 a\u0323\u0306 E\u0323 e\u0323 E\u0309 e\u0309 E\u0303 e\u0303"),
    (0x1ebe, 0x1ec2, "E\u0302\u0301 e\u0302\u0301 E\u0302\u0300 e\u0302\u0300 E\u0302\u0309"),
    (0x1ec3, 0x1ec7, "e\u0302\u0309 E\u0302\u0303 e\u0302\u0303 E\u0323\u0302 e\u0323\u0302"),
    (0x1ec8, 0x1ecf, "I\u0309 i\u0309 I\u0323 i\u0323 O\u0323 o\u0323 O\u0309 o\u0309"),
    (0x1ed0, 0x1ed4, "O\u0302\u0301 o\u0302\u0301 O\u0302\u0300 o\u0302\u0300 O\u0302\u0309"),
    (0x1ed5, 0x1ed9, "o\u0302\u0309 O\u0302\u0303 o\u0302\u0303 O\u0323\u0302 o\u0323\u0302"),
    (0x1eda, 0x1ede, "O\u031b\u0301 o\u031b\u0301 O\u031b\u0300 o\u031b\u0300 O\u031b\u0309"),
    (0x1edf, 0x1ee3, "o\u031b\u0309 O\u031b\u0303 o\u031b\u0303 O\u031b\u0323 o\u031b\u0323"),
    (0x1ee4, 0x1eea, "U\u0323 u\u0323 U\u0309 u\u0309 U\u031b\u0301 u\u031b\u0301 U\u031b\u0300"),
    (0x1eeb, 0x1eef, "u\u031b\u0300 U\u031b\u0309 u\u031b\u0309 U\u031b\u0303 u\u031b\u0303"),
    (0x1ef0, 0x1ef7, "U\u031b\u0323 u\u031b\u0323 Y\u0300 y\u0300 Y\u0323 y\u0323 Y\u0309 y\u0309"),
    (0x1ef8, 0x1ef9, "Y\u0303 y\u0303"),
    (0x1f00, 0x1f05, "α\u0313 α\u0314 α\u0313\u0300 α\u0314\u0300 α\u0313\u0301 α\u0314\u0301"),
    (0x1f06, 0x1f0b, "α\u0313\u0342 α\u0314\u0342 Α\u0313 Α\u0314 Α\u0313\u0300 Α\u0314\u0300"),
    (0x1f0c, 0x1f11, "Α\u0313\u0301 Α\u0314\u0301 Α\u0313\u0342 Α\u0314\u0342 ε\u0313 ε\u0314"),
    (0x1f12, 0x1f15, "ε\u0313\u0300 ε\u0314\u0300 ε\u0313\u0301 ε\u0314\u0301"),
    (0x1f18, 0x1f1d, "Ε\u0313 Ε\u0314 Ε\u0313\u0300 Ε\u0314\u0300 Ε\u0313\u0301 Ε\u0314\u0301"),
    (0x1f20, 0x1f25, "η\u0313 η\u0314 η\u0313\u0300 η\u0314\u0300 η\u0313\u0301 η\u0314\u0301"),
    (0x1f26, 0x1f2b, "η\u0313\u0342 η\u0314\u0342 Η\u0313 Η\u0314 Η\u0313\u0300 Η\u0314\u0300"),
    (0x1f2c, 0x1f31, "Η\u0313\u0301 Η\u0314\u0301 Η\u0313\u0342 Η\u0314\u0342 ι\u0313 ι\u0314"),
    (0x1f32, 0x1f36, "ι\u0313\u0300 ι\u0314\u0300 ι\u0313\u0301 ι\u0314\u0301 ι\u0313\u0342"),
    (0x1f37, 0x1f3c, "ι\u0314\u0342 Ι\u0313 Ι\u0314 Ι\u0313\u0300 Ι\u0314\u0300 Ι\u0313\u0301"),
    (0x1f3d, 0x1f42, "Ι\u0314\u0301 Ι\u0313\u0342 Ι\u0314\u0342 ο\u0313 ο\u0314 ο\u0313\u0300"),
    (0x1f43, 0x1f45, "ο\u0314\u0300 ο\u0313\u0301 ο\u0314\u0301"),
    (0x1f48, 0x1f4d, "Ο\u0313 Ο\u0314 Ο\u0313\u0300 Ο\u0314\u0300 Ο\u0313\u0301 Ο\u0314\u0301"),
    (0x1f50, 0x1f55, "υ\u0313 υ\u0314 υ\u0313\u0300 υ\u0314\u0300 υ\u0313\u0301 υ\u0314\u0301"),
    (0x1f56, 0x1f57, "υ\u0313\u0342 υ\u0314\u0342"), (0x1f59, 0x1f59, "Υ\u0314"),
    (0x1f5b, 0x1f5b, "Υ\u0314\u0300"), (0x1f5d, 0x1f5d, "Υ\u0314\u0301"),
    (0x1f5f, 0x1f64, "Υ\u0314\u0342 ω\u0313 ω\u0314 ω\u0313\u0300 ω\u0314\u0300 ω\u0313\u0301"),
    (0x1f65, 0x1f6a, "ω\u0314\u0301 ω\u0313\u0342 ω\u0314\u0342 Ω\u0313 Ω\u0314 Ω\u0313\u0300"),
    (0x1f6b, 0x1f6f, "Ω\u0314\u0300 Ω\u0313\u0301 Ω\u0314\u0301 Ω\u0313\u0342 Ω\u0314\u0342"),
    (0x1f70, 0x1f78, "α\u0300 α\u0301 ε\u0300 ε\u0301 η\u0300 η\u0301 ι\u0300 ι\u0301 ο\u0300"),
    (0x1f79, 0x1f7d, "ο\u0301 υ\u0300 υ\u0301 ω\u0300 ω\u0301"),
    (0x1f80, 0x1f83, "α\u0313\u0345 α\u0314\u0345 α\u0313\u0300\u0345 α\u0314\u0300\u0345"),
    (0x1f84, 0x1f86, "α\u0313\u0301\u0345 α\u0314\u0301\u0345 α\u0313\u0342\u0345"),
    (0x1f87, 0x1f8a, "α\u0314\u0342\u0345 Α\u0313\u0345 Α\u0314\u0345 Α\u0313\u0300\u0345"),
    (0x1f8b, 0x1f8d, "Α\u0314\u0300\u0345 Α\u0313\u0301\u0345 Α\u0314\u0301\u0345"),
    (0x1f8e, 0x1f91, "Α\u0313\u0342\u0345 Α\u0314\u0342\u0345 η\u0313\u0345 η\u0314\u0345"),
    (0x1f92, 0x1f94, "η\u0313\u0300\u0345 η\u0314\u0300\u0345 η\u0313\u0301\u0345"),
    (0x1f95, 0x1f98, "η\u0314\u0301\u0345 η\u0313\u0342\u0345 η\u0314\u0342\u0345 Η\u0313\u0345"),
    (0x1f99, 0x1f9c, "Η\u0314\u0345 Η\u0313\u0300\u0345 Η\u0314\u0300\u0345 Η\u0313\u0301\u0345"),
    (0x1f9d, 0x1fa0, "Η\u0314\u0301\u0345 Η\u0313\u0342\u0345 Η\u0314\u0342\u0345 ω\u0313\u0345"),
    (0x1fa1, 0x1fa4, "ω\u0314\u0345 ω\u0313\u0300\u0345 ω\u0314\u0300\u0345 ω\u0313\u0301\u0345"),
    (0x1fa5, 0x1fa8, "ω\u0314\u0301\u0345 ω\u0313\u0342\u0345 ω\u0314\u0342\u0345 Ω\u0313\u0345"),
    (0x1fa9, 0x1fac, "Ω\u0314\u0345 Ω\u0313\u0300\u0345 Ω\u0314\u0300\u0345 Ω\u0313\u0301\u0345"),
    (0x1fad, 0x1fb1, "Ω\u0314\u0301\u0345 Ω\u0313\u0342\u0345 Ω\u0314\u0342\u0345 α\u0306 α\u0304"),
    (0x1fb2, 0x1fb4, "α\u0300\u0345 α\u0345 α\u0301\u0345"),
    (0x1fb6, 0x1fbc, "α\u0342 α\u0342\u0345 Α\u0306 Α\u0304 Α\u0300 Α\u0301 Α\u0345"),
    (0x1fbe, 0x1fbe, "ι"), (0x1fc2, 0x1fc4, "η\u0300\u0345 η\u0345 η\u0301\u0345"),
    (0x1fc6, 0x1fcc, "η\u0342 η\u0342\u0345 Ε\u0300 Ε\u0301 Η\u0300 Η\u0301 Η\u0345"),
    (0x1fd0, 0x1fd3, "ι\u0306 ι\u0304 ι\u0308\u0300 ι\u0308\u0301"),
    (0x1fd6, 0x1fdb, "ι\u0342 ι\u0308\u0342 Ι\u0306 Ι\u0304 Ι\u0300 Ι\u0301"),
    (0x1fe0, 0x1fe6, "υ\u0306 υ\u0304 υ\u0308\u0300 υ\u0308\u0301 ρ\u0313 ρ\u0314 υ\u0342"),
    (0x1fe7, 0x1fec, "υ\u0308\u0342 Υ\u0306 Υ\u0304 Υ\u0300 Υ\u0301 Ρ\u0314"),
    (0x1ff2, 0x1ff4, "ω\u0300\u0345 ω\u0345 ω\u0301\u0345"),
    (0x1ff6, 0x1ffc, "ω\u0342 ω\u0342\u0345 Ο\u0300 Ο\u0301 Ω\u0300 Ω\u0301 Ω\u0345"),
    (0x2071, 0x2071, "i"), (0x207f, 0x207f, "n"), (0x2090, 0x209c, "a e o x ə h k l m n p s t"),
    (0x2102, 0x2102, "C"), (0x2107, 0x2107, "Ɛ"), (0x210a, 0x2113, "g H H H h ħ I I L l"),
    (0x2115, 0x2115, "N"), (0x2119, 0x211d, "P Q R R R"), (0x2124, 0x2124, "Z"),
    (0x2126, 0x2126, "Ω"), (0x2128, 0x2128, "Z"), (0x212a, 0x212d, "K A\u030a B C"),
    (0x212f, 0x2131, "e E F"), (0x2133, 0x2139, "M o \u05d0 \u05d1 \u05d2 \u05d3 i"),
    (0x213c, 0x213f, "π γ Γ Π"), (0x2145, 0x2149, "D d e i j"),
    (0x2160, 0x2178, "I II III IV V VI VII VIII IX X XI XII L C D M i ii iii iv v vi vii viii ix"),
    (0x2179, 0x217f, "x xi xii l c d m"), (0x2c7c, 0x2c7d, "j V"), (0x2d6f, 0x2d6f, "ⵡ"),
    (0x3038, 0x303a, "十 卄 卅"), (0x304c, 0x304c, "か\u3099"), (0x304e, 0x304e, "き\u3099"),
    (0x3050, 0x3050, "く\u3099"), (0x3052, 0x3052, "け\u3099"), (0x3054, 0x3054, "こ\u3099"),
    (0x3056, 0x3056, "さ\u3099"), (0x3058, 0x3058, "し\u3099"), (0x305a, 0x305a, "す\u3099"),
    (0x305c, 0x305c, "せ\u3099"), (0x305e, 0x305e, "そ\u3099"), (0x3060, 0x3060, "た\u3099"),
    (0x3062, 0x3062, "ち\u3099"), (0x3065, 0x3065, "つ\u3099"), (0x3067, 0x3067, "て\u3099"),
    (0x3069, 0x3069, "と\u3099"), (0x3070, 0x3071, "は\u3099 は\u309a"),
    (0x3073, 0x3074, "ひ\u3099 ひ\u309a"), (0x3076, 0x3077, "ふ\u3099 ふ\u309a"),
    (0x3079, 0x307a, "へ\u3099 へ\u309a"), (0x307c, 0x307d, "ほ\u3099 ほ\u309a"),
    (0x3094, 0x3094, "う\u3099"), (0x309e, 0x309f, "\u309d\u3099 より"), (0x30ac, 0x30ac, "カ\u3099"),
    (0x30ae, 0x30ae, "キ\u3099"), (0x30b0, 0x30b0, "ク\u3099"), (0x30b2, 0x30b2, "ケ\u3099"),
    (0x30b4, 0x30b4, "コ\u3099"), (0x30b6, 0x30b6, "サ\u3099"), (0x30b8, 0x30b8, "シ\u3099"),
    (0x30ba, 0x30ba, "ス\u3099"), (0x30bc, 0x30bc, "セ\u3099"), (0x30be, 0x30be, "ソ\u3099"),
    (0x30c0, 0x30c0, "タ\u3099"), (0x30c2, 0x30c2, "チ\u3099"), (0x30c5, 0x30c5, "ツ\u3099"),
    (0x30c7, 0x30c7, "テ\u3099"), (0x30c9, 0x30c9, "ト\u3099"), (0x30d0, 0x30d1, "ハ\u3099 ハ\u309a"),
    (0x30d3, 0x30d4, "ヒ\u3099 ヒ\u309a"), (0x30d6, 0x30d7, "フ\u3099 フ\u309a"),
    (0x30d9, 0x30da, "ヘ\u3099 ヘ\u309a"), (0x30dc, 0x30dd, "ホ\u3099 ホ\u309a"),
    (0x30f4, 0x30f4, "ウ\u3099"), (0x30f7, 0x30fa, "ワ\u3099 ヰ\u3099 ヱ\u3099 ヲ\u3099"),
    (0x30fe, 0x30ff, "\u30fd\u3099 コト"),
    (0x3131, 0x3156, "ᄀ ᄁ ᆪ ᄂ ᆬ ᆭ ᄃ ᄄ ᄅ ᆰ ᆱ ᆲ ᆳ ᆴ ᆵ ᄚ ᄆ ᄇ ᄈ ᄡ ᄉ ᄊ ᄋ ᄌ ᄍ ᄎ ᄏ ᄐ ᄑ ᄒ ᅡ ᅢ ᅣ ᅤ ᅥ ᅦ ᅧ ᅨ"),
    (0x3157, 0x317c, "ᅩ ᅪ ᅫ ᅬ ᅭ ᅮ ᅯ ᅰ ᅱ ᅲ ᅳ ᅴ ᅵ ᅠ ᄔ ᄕ ᇇ ᇈ ᇌ ᇎ ᇓ ᇗ ᇙ ᄜ ᇝ ᇟ ᄝ ᄞ ᄠ ᄢ ᄣ ᄧ ᄩ ᄫ ᄬ ᄭ ᄮ ᄯ"),
    (0x317d, 0x318e, "ᄲ ᄶ ᅀ ᅇ ᅌ ᇱ ᇲ ᅗ ᅘ ᅙ ᆄ ᆅ ᆈ ᆑ ᆒ ᆔ ᆞ ᆡ"), (0xa69c, 0xa69d, "ъ ь"),
    (0xa770, 0xa770, "ꝯ"), (0xa7f2, 0xa7f4, "C F Q"), (0xa7f8, 0xa7f9, "Ħ œ"),
    (0xab5c, 0xab5f, "ꜧ ꬷ ɫ ꭒ"), (0xab69, 0xab69, "ʍ"),
    (0xf900, 0xf925, "豈 更 車 賈 滑 串 句 龜 龜 契 金 喇 奈 懶 癩 羅 蘿 螺 裸 邏 樂 洛 烙 珞 落 酪 駱 亂 卵 欄 爛 蘭 鸞 嵐 濫 藍 襤 拉"),
    (0xf926, 0xf94b, "臘 蠟 廊 朗 浪 狼 郎 來 冷 勞 擄 櫓 爐 盧 老 蘆 虜 路 露 魯 鷺 碌 祿 綠 菉 錄 鹿 論 壟 弄 籠 聾 牢 磊 賂 雷 壘 屢"),
    (0xf94c, 0xf971, "樓 淚 漏 累 縷 陋 勒 肋 凜 凌 稜 綾 菱 陵 讀 拏 樂 諾 丹 寧 怒 率 異 北 磻 便 復 不 泌 數 索 參 塞 省 葉 說 殺 辰"),
    (0xf972, 0xf997, "沈 拾 若 掠 略 亮 兩 凉 梁 糧 良 諒 量 勵 呂 女 廬 旅 濾 礪 閭 驪 麗 黎 力 曆 歷 轢 年 憐 戀 撚 漣 煉 璉 秊 練 聯"),
    (0xf998, 0xf9bd, "輦 蓮 連 鍊 列 劣 咽 烈 裂 說 廉 念 捻 殮 簾 獵 令 囹 寧 嶺 怜 玲 瑩 羚 聆 鈴 零 靈 領 例 禮 醴 隸 惡 了 僚 寮 尿"),
    (0xf9be, 0xf9e3, "料 樂 燎 療 蓼 遼 龍 暈 阮 劉 杻 柳 流 溜 琉 留 硫 紐 類 六 戮 陸 倫 崙 淪 輪 律 慄 栗 率 隆 利 吏 履 易 李 梨 泥"),
    (0xf9e4, 0xfa09, "理 痢 罹 裏 裡 里 離 匿 溺 吝 燐 璘 藺 隣 鱗 麟 林 淋 臨 立 笠 粒 狀 炙 識 什 茶 刺 切 度 拓 糖 宅 洞 暴 輻 行 降"),
    (0xfa0a, 0xfa0d, "見 廓 兀 嗀"), (0xfa10, 0xfa10, "塚"), (0xfa12, 0xfa12, "晴"),
    (0xfa15, 0xfa1e, "凞 猪 益 礼 神 祥 福 靖 精 羽"), (0xfa20, 0xfa20, "蘒"), (0xfa22, 0xfa22, "諸"),
    (0xfa25, 0xfa26, "逸 都"),
    (0xfa2a, 0xfa4f, "飯 飼 館 鶴 郞 隷 侮 僧 免 勉 勤 卑 喝 嘆 器 塀 墨 層 屮 悔 慨 憎 懲 敏 既 暑 梅 海 渚 漢 煮 爫 琢 碑 社 祉 祈 祐"),
    (0xfa50, 0xfa6d, "祖 祝 禍 禎 穀 突 節 練 縉 繁 署 者 臭 艹 艹 著 褐 視 謁 謹 賓 贈 辶 逸 難 響 頻 恵 𤋮 舘"),
    (0xfa70, 0xfa95, "並 况 全 侀 充 冀 勇 勺 喝 啕 喙 嗢 塚 墳 奄 奔 婢 嬨 廒 廙 彩 徭 惘 慎 愈 憎 慠 懲 戴 揄 搜 摒 敖 晴 朗 望 杖 歹"),
    (0xfa96, 0xfabb, "殺 流 滛 滋 漢 瀞 煮 瞧 爵 犯 猪 瑱 甆 画 瘝 瘟 益 盛 直 睊 着 磌 窱 節 类 絛 練 缾 者 荒 華 蝹 襁 覆 視 調 諸 請"),
    (0xfabc, 0xfad9, "謁 諾 諭 謹 變 贈 輸 遲 醙 鉶 陼 難 靖 韛 響 頋 頻 鬒 龜 𢡊 𢡄 𣏕 㮝 䀘 䀹 𥉉 𥳐 𧻓 齃 龎"),
    (0xfb00, 0xfb06, "ff fi fl ffi ffl st st"), (0xfb13, 0xfb17, "մն մե մի վն մխ"),
    (0xfb1d, 0xfb1d, "\u05d9\u05b4"),
    (0xfb1f, 0xfb28, "\u05f2\u05b7 \u05e2 \u05d0 \u05d3 \u05d4 \u05db \u05dc \u05dd \u05e8 \u05ea"),
    (0xfb2a, 0xfb2d, "\u05e9\u05c1 \u05e9\u05c2 \u05e9\u05bc\u05c1 \u05e9\u05bc\u05c2"),
    (0xfb2e, 0xfb32, "\u05d0\u05b7 \u05d0\u05b8 \u05d0\u05bc \u05d1\u05bc \u05d2\u05bc"),
    (0xfb33, 0xfb36, "\u05d3\u05bc \u05d4\u05bc \u05d5\u05bc \u05d6\u05bc"),
    (0xfb38, 0xfb3c, "\u05d8\u05bc \u05d9\u05bc \u05da\u05bc \u05db\u05bc \u05dc\u05bc"),
    (0xfb3e, 0xfb3e, "\u05de\u05bc"), (0xfb40, 0xfb41, "\u05e0\u05bc \u05e1\u05bc"),
    (0xfb43, 0xfb44, "\u05e3\u05bc \u05e4\u05bc"),
    (0xfb46, 0xfb4a, "\u05e6\u05bc \u05e7\u05bc \u05e8\u05bc \u05e9\u05bc \u05ea\u05bc"),
    (0xfb4b, 0xfb50, "\u05d5\u05b9 \u05d1\u05bf \u05db\u05bf \u05e4\u05bf \u05d0\u05dc \u0671"),
    (0xfb51, 0xfb5a, "\u0671 \u067b \u067b \u067b \u067b \u067e \u067e \u067e \u067e \u0680"),
    (0xfb5b, 0xfb64, "\u0680 \u0680 \u0680 \u067a \u067a \u067a \u067a \u067f \u067f \u067f"),
    (0xfb65, 0xfb6e, "\u067f \u0679 \u0679 \u0679 \u0679 \u06a4 \u06a4 \u06a4 \u06a4 \u06a6"),
    (0xfb6f, 0xfb78, "\u06a6 \u06a6 \u06a6 \u0684 \u0684 \u0684 \u0684 \u0683 \u0683 \u0683"),
    (0xfb79, 0xfb82, "\u0683 \u0686 \u0686 \u0686 \u0686 \u0687 \u0687 \u0687 \u0687 \u068d"),
    (0xfb83, 0xfb8c, "\u068d \u068c \u068c \u068e \u068e \u0688 \u0688 \u0698 \u0698 \u0691"),
    (0xfb8d, 0xfb96, "\u0691 \u06a9 \u06a9 \u06a9 \u06a9 \u06af \u06af \u06af \u06af \u06b3"),
    (0xfb97, 0xfba0, "\u06b3 \u06b3 \u06b3 \u06b1 \u06b1 \u06b1 \u06b1 \u06ba \u06ba \u06bb"),
    (0xfba1, 0xfba9, "\u06bb \u06bb \u06bb \u06d5\u0654 \u06d5\u0654 \u06c1 \u06c1 \u06c1 \u06c1"),
    (0xfbaa, 0xfbb1, "\u06be \u06be \u06be \u06be \u06d2 \u06d2 \u06d2\u0654 \u06d2\u0654"),
    (0xfbd3, 0xfbdc, "\u06ad \u06ad \u06ad \u06ad \u06c7 \u06c7 \u06c6 \u06c6 \u06c8 \u06c8"),
    (0xfbdd, 0xfbe6, "\u06c7\u0674 \u06cb \u06cb \u06c5 \u06c5 \u06c9 \u06c9 \u06d0 \u06d0 \u06d0"),
    (0xfbe7, 0xfbeb, "\u06d0 \u0649 \u0649 \u064a\u0654\u0627 \u064a\u0654\u0627"),
    (0xfbec, 0xfbef, "\u064a\u0654\u06d5 \u064a\u0654\u06d5 \u064a\u0654\u0648 \u064a\u0654\u0648"),
    (0xfbf0, 0xfbf3, "\u064a\u0654\u06c7 \u064a\u0654\u06c7 \u064a\u0654\u06c6 \u064a\u0654\u06c6"),
    (0xfbf4, 0xfbf7, "\u064a\u0654\u06c8 \u064a\u0654\u06c8 \u064a\u0654\u06d0 \u064a\u0654\u06d0"),
    (0xfbf8, 0xfbfb, "\u064a\u0654\u06d0 \u064a\u0654\u0649 \u064a\u0654\u0649 \u064a\u0654\u0649"),
    (0xfbfc, 0xfc01, "\u06cc \u06cc \u06cc \u06cc \u064a\u0654\u062c \u064a\u0654\u062d"),
    (0xfc02, 0xfc05, "\u064a\u0654\u0645 \u064a\u0654\u0649 \u064a\u0654\u064a \u0628\u062c"),
    (0xfc06, 0xfc0a, "\u0628\u062d \u0628\u062e \u0628\u0645 \u0628\u0649 \u0628\u064a"),
    (0xfc0b, 0xfc0f, "\u062a\u062c \u062a\u062d \u062a\u062e \u062a\u0645 \u062a\u0649"),
    (0xfc10, 0xfc14, "\u062a\u064a \u062b\u062c \u062b\u0645 \u062b\u0649 \u062b\u064a"),
    (0xfc15, 0xfc19, "\u062c\u062d \u062c\u0645 \u062d\u062c \u062d\u0645 \u062e\u062c"),
    (0xfc1a, 0xfc1e, "\u062e\u062d \u062e\u0645 \u0633\u062c \u0633\u062d \u0633\u062e"),
    (0xfc1f, 0xfc23, "\u0633\u0645 \u0635\u062d \u0635\u0645 \u0636\u062c \u0636\u062d"),
    (0xfc24, 0xfc28, "\u0636\u062e \u0636\u0645 \u0637\u062d \u0637\u0645 \u0638\u0645"),
    (0xfc29, 0xfc2d, "\u0639\u062c \u0639\u0645 \u063a\u062c \u063a\u0645 \u0641\u062c"),
    (0xfc2e, 0xfc32, "\u0641\u062d \u0641\u062e \u0641\u0645 \u0641\u0649 \u0641\u064a"),
    (0xfc33, 0xfc37, "\u0642\u062d \u0642\u0645 \u0642\u0649 \u0642\u064a \u0643\u0627"),
    (0xfc38, 0xfc3c, "\u0643\u062c \u0643\u062d \u0643\u062e \u0643\u0644 \u0643\u0645"),
    (0xfc3d, 0xfc41, "\u0643\u0649 \u0643\u064a \u0644\u062c \u0644\u062d \u0644\u062e"),
    (0xfc42, 0xfc46, "\u0644\u0645 \u0644\u0649 \u0644\u064a \u0645\u062c \u0645\u062d"),
    (0xfc47, 0xfc4b, "\u0645\u062e \u0645\u0645 \u0645\u0649 \u0645\u064a \u0646\u062c"),
    (0xfc4c, 0xfc50, "\u0646\u062d \u0646\u062e \u0646\u0645 \u0646\u0649 \u0646\u064a"),
    (0xfc51, 0xfc55, "\u0647\u062c \u0647\u0645 \u0647\u0649 \u0647\u064a \u064a\u062c"),
    (0xfc56, 0xfc5a, "\u064a\u062d \u064a\u062e \u064a\u0645 \u064a\u0649 \u064a\u064a"),
    (0xfc5b, 0xfc5d, "\u0630\u0670 \u0631\u0670 \u0649\u0670"),
    (0xfc64, 0xfc67, "\u064a\u0654\u0631 \u064a\u0654\u0632 \u064a\u0654\u0645 \u064a\u0654\u0646"),
    (0xfc68, 0xfc6b, "\u064a\u0654\u0649 \u064a\u0654\u064a \u0628\u0631 \u0628\u0632"),
    (0xfc6c, 0xfc70, "\u0628\u0645 \u0628\u0646 \u0628\u0649 \u0628\u064a \u062a\u0631"),
    (0xfc71, 0xfc75, "\u062a\u0632 \u062a\u0645 \u062a\u0646 \u062a\u0649 \u062a\u064a"),
    (0xfc76, 0xfc7a, "\u062b\u0631 \u062b\u0632 \u062b\u0645 \u062b\u0646 \u062b\u0649"),
    (0xfc7b, 0xfc7f, "\u062b\u064a \u0641\u0649 \u0641\u064a \u0642\u0649 \u0642\u064a"),
    (0xfc80, 0xfc84, "\u0643\u0627 \u0643\u0644 \u0643\u0645 \u0643\u0649 \u0643\u064a"),
    (0xfc85, 0xfc89, "\u0644\u0645 \u0644\u0649 \u0644\u064a \u0645\u0627 \u0645\u0645"),
    (0xfc8a, 0xfc8e, "\u0646\u0631 \u0646\u0632 \u0646\u0645 \u0646\u0646 \u0646\u0649"),
    (0xfc8f, 0xfc93, "\u0646\u064a \u0649\u0670 \u064a\u0631 \u064a\u0632 \u064a\u0645"),
    (0xfc94, 0xfc97, "\u064a\u0646 \u064a\u0649 \u064a\u064a \u064a\u0654\u062c"),
    (0xfc98, 0xfc9b, "\u064a\u0654\u062d \u064a\u0654\u062e \u064a\u0654\u0645 \u064a\u0654\u0647"),
    (0xfc9c, 0xfca0, "\u0628\u062c \u0628\u062d \u0628\u062e \u0628\u0645 \u0628\u0647"),
    (0xfca1, 0xfca5, "\u062a\u062c \u062a\u062d \u062a\u062e \u062a\u0645 \u062a\u0647"),
    (0xfca6, 0xfcaa, "\u062b\u0645 \u062c\u062d \u062c\u0645 \u062d\u062c \u062d\u0645"),
    (0xfcab, 0xfcaf, "\u062e\u062c \u062e\u0645 \u0633\u062c \u0633\u062d \u0633\u062e"),
    (0xfcb0, 0xfcb4, "\u0633\u0645 \u0635\u062d \u0635\u062e \u0635\u0645 \u0636\u062c"),
    (0xfcb5, 0xfcb9, "\u0636\u062d \u0636\u062e \u0636\u0645 \u0637\u062d \u0638\u0645"),
    (0xfcba, 0xfcbe, "\u0639\u062c \u0639\u0645 \u063a\u062c \u063a\u0645 \u0641\u062c"),
    (0xfcbf, 0xfcc3, "\u0641\u062d \u0641\u062e \u0641\u0645 \u0642\u062d \u0642\u0645"),
    (0xfcc4, 0xfcc8, "\u0643\u062c \u0643\u062d \u0643\u062e \u0643\u0644 \u0643\u0645"),
    (0xfcc9, 0xfccd, "\u0644\u062c \u0644\u062d \u0644\u062e \u0644\u0645 \u0644\u0647"),
    (0xfcce, 0xfcd2, "\u0645\u062c \u0645\u062d \u0645\u062e \u0645\u0645 \u0646\u062c"),
    (0xfcd3, 0xfcd7, "\u0646\u062d \u0646\u062e \u0646\u0645 \u0646\u0647 \u0647\u062c"),
    (0xfcd8, 0xfcdc, "\u0647\u0645 \u0647\u0670 \u064a\u062c \u064a\u062d \u064a\u062e"),
    (0xfcdd, 0xfce0, "\u064a\u0645 \u064a\u0647 \u064a\u0654\u0645 \u064a\u0654\u0647"),
    (0xfce1, 0xfce5, "\u0628\u0645 \u0628\u0647 \u062a\u0645 \u062a\u0647 \u062b\u0645"),
    (0xfce6, 0xfcea, "\u062b\u0647 \u0633\u0645 \u0633\u0647 \u0634\u0645 \u0634\u0647"),
    (0xfceb, 0xfcef, "\u0643\u0644 \u0643\u0645 \u0644\u0645 \u0646\u0645 \u0646\u0647"),
    (0xfcf0, 0xfcf3, "\u064a\u0645 \u064a\u0647 \u0640\u064e\u0651 \u0640\u064f\u0651"),
    (0xfcf4, 0xfcf8, "\u0640\u0650\u0651 \u0637\u0649 \u0637\u064a \u0639\u0649 \u0639\u064a"),
    (0xfcf9, 0xfcfd, "\u063a\u0649 \u063a\u064a \u0633\u0649 \u0633\u064a \u0634\u0649"),
    (0xfcfe, 0xfd02, "\u0634\u064a \u062d\u0649 \u062d\u064a \u062c\u0649 \u062c\u064a"),
    (0xfd03, 0xfd07, "\u062e\u0649 \u062e\u064a \u0635\u0649 \u0635\u064a \u0636\u0649"),
    (0xfd08, 0xfd0c, "\u0636\u064a \u0634\u062c \u0634\u062d \u0634\u062e \u0634\u0645"),
    (0xfd0d, 0xfd11, "\u0634\u0631 \u0633\u0631 \u0635\u0631 \u0636\u0631 \u0637\u0649"),
    (0xfd12, 0xfd16, "\u0637\u064a \u0639\u0649 \u0639\u064a \u063a\u0649 \u063a\u064a"),
    (0xfd17, 0xfd1b, "\u0633\u0649 \u0633\u064a \u0634\u0649 \u0634\u064a \u062d\u0649"),
    (0xfd1c, 0xfd20, "\u062d\u064a \u062c\u0649 \u062c\u064a \u062e\u0649 \u062e\u064a"),
    (0xfd21, 0xfd25, "\u0635\u0649 \u0635\u064a \u0636\u0649 \u0636\u064a \u0634\u062c"),
    (0xfd26, 0xfd2a, "\u0634\u062d \u0634\u062e \u0634\u0645 \u0634\u0631 \u0633\u0631"),
    (0xfd2b, 0xfd2f, "\u0635\u0631 \u0636\u0631 \u0634\u062c \u0634\u062d \u0634\u062e"),
    (0xfd30, 0xfd34, "\u0634\u0645 \u0633\u0647 \u0634\u0647 \u0637\u0645 \u0633\u062c"),
    (0xfd35, 0xfd39, "\u0633\u062d \u0633\u062e \u0634\u062c \u0634\u062d \u0634\u062e"),
    (0xfd3a, 0xfd3d, "\u0637\u0645 \u0638\u0645 \u0627\u064b \u0627\u064b"),
    (0xfd50, 0xfd53, "\u062a\u062c\u0645 \u062a\u062d\u062c \u062a\u062d\u062c \u062a\u062d\u0645"),
    (0xfd54, 0xfd57, "\u062a\u062e\u0645 \u062a\u0645\u062c \u062a\u0645\u062d \u062a\u0645\u062e"),
    (0xfd58, 0xfd5b, "\u062c\u0645\u062d \u062c\u0645\u062d \u062d\u0645\u064a \u062d\u0645\u0649"),
    (0xfd5c, 0xfd5f, "\u0633\u062d\u062c \u0633\u062c\u062d \u0633\u062c\u0649 \u0633\u0645\u062d"),
    (0xfd60, 0xfd63, "\u0633\u0645\u062d \u0633\u0645\u062c \u0633\u0645\u0645 \u0633\u0645\u0645"),
    (0xfd64, 0xfd67, "\u0635\u062d\u062d \u0635\u062d\u062d \u0635\u0645\u0645 \u0634\u062d\u0645"),
    (0xfd68, 0xfd6b, "\u0634\u062d\u0645 \u0634\u062c\u064a \u0634\u0645\u062e \u0634\u0645\u062e"),
    (0xfd6c, 0xfd6f, "\u0634\u0645\u0645 \u0634\u0645\u0645 \u0636\u062d\u0649 \u0636\u062e\u0645"),
    (0xfd70, 0xfd73, "\u0636\u062e\u0645 \u0637\u0645\u062d \u0637\u0645\u062d \u0637\u0645\u0645"),
    (0xfd74, 0xfd77, "\u0637\u0645\u064a \u0639\u062c\u0645 \u0639\u0645\u0645 \u0639\u0645\u0645"),
    (0xfd78, 0xfd7b, "\u0639\u0645\u0649 \u063a\u0645\u0645 \u063a\u0645\u064a \u063a\u0645\u0649"),
    (0xfd7c, 0xfd7f, "\u0641\u062e\u0645 \u0641\u062e\u0645 \u0642\u0645\u062d \u0642\u0645\u0645"),
    (0xfd80, 0xfd83, "\u0644\u062d\u0645 \u0644\u062d\u064a \u0644\u062d\u0649 \u0644\u062c\u062c"),
    (0xfd84, 0xfd87, "\u0644\u062c\u062c \u0644\u062e\u0645 \u0644\u062e\u0645 \u0644\u0645\u062d"),
    (0xfd88, 0xfd8b, "\u0644\u0645\u062d \u0645\u062d\u062c \u0645\u062d\u0645 \u0645\u062d\u064a"),
    (0xfd8c, 0xfd8f, "\u0645\u062c\u062d \u0645\u062c\u0645 \u0645\u062e\u062c \u0645\u062e\u0645"),
    (0xfd92, 0xfd95, "\u0645\u062c\u062e \u0647\u0645\u062c \u0647\u0645\u0645 \u0646\u062d\u0645"),
    (0xfd96, 0xfd99, "\u0646\u062d\u0649 \u0646\u062c\u0645 \u0646\u062c\u0645 \u0646\u062c\u0649"),
    (0xfd9a, 0xfd9d, "\u0646\u0645\u064a \u0646\u0645\u0649 \u064a\u0645\u0645 \u064a\u0645\u0645"),
    (0xfd9e, 0xfda1, "\u0628\u062e\u064a \u062a\u062c\u064a \u062a\u062c\u0649 \u062a\u062e\u064a"),
    (0xfda2, 0xfda5, "\u062a\u062e\u0649 \u062a\u0645\u064a \u062a\u0645\u0649 \u062c\u0645\u064a"),
    (0xfda6, 0xfda9, "\u062c\u062d\u0649 \u062c\u0645\u0649 \u0633\u062e\u0649 \u0635\u062d\u064a"),
    (0xfdaa, 0xfdad, "\u0634\u062d\u064a \u0636\u062d\u064a \u0644\u062c\u064a \u0644\u0645\u064a"),
    (0xfdae, 0xfdb1, "\u064a\u062d\u064a \u064a\u062c\u064a \u064a\u0645\u064a \u0645\u0645\u064a"),
    (0xfdb2, 0xfdb5, "\u0642\u0645\u064a \u0646\u062d\u064a \u0642\u0645\u062d \u0644\u062d\u0645"),
    (0xfdb6, 0xfdb9, "\u0639\u0645\u064a \u0643\u0645\u064a \u0646\u062c\u062d \u0645\u062e\u064a"),
    (0xfdba, 0xfdbd, "\u0644\u062c\u0645 \u0643\u0645\u0645 \u0644\u062c\u0645 \u0646\u062c\u062d"),
    (0xfdbe, 0xfdc1, "\u062c\u062d\u064a \u062d\u062c\u064a \u0645\u062c\u064a \u0641\u0645\u064a"),
    (0xfdc2, 0xfdc5, "\u0628\u062d\u064a \u0643\u0645\u0645 \u0639\u062c\u0645 \u0635\u0645\u0645"),
    (0xfdc6, 0xfdc7, "\u0633\u062e\u064a \u0646\u062c\u064a"),
    (0xfdf0, 0xfdf2, "\u0635\u0644\u06d2 \u0642\u0644\u06d2 \u0627\u0644\u0644\u0647"),
    (0xfdf3, 0xfdf5, "\u0627\u0643\u0628\u0631 \u0645\u062d\u0645\u062f \u0635\u0644\u0639\u0645"),
    (0xfdf6, 0xfdf8, "\u0631\u0633\u0648\u0644 \u0639\u0644\u064a\u0647 \u0648\u0633\u0644\u0645"),
    (0xfdf9, 0xfdf9, "\u0635\u0644\u0649"), (0xfe33, 0xfe34, "_ _"), (0xfe4d, 0xfe4f, "_ _ _"),
    (0xfe71, 0xfe71, "\u0640\u064b"), (0xfe77, 0xfe77, "\u0640\u064e"),
    (0xfe79, 0xfe79, "\u0640\u064f"), (0xfe7b, 0xfe7b, "\u0640\u0650"),
    (0xfe7d, 0xfe7d, "\u0640\u0651"),
    (0xfe7f, 0xfe84, "\u0640\u0652 \u0621 \u0627\u0653 \u0627\u0653 \u0627\u0654 \u0627\u0654"),
    (0xfe85, 0xfe89, "\u0648\u0654 \u0648\u0654 \u0627\u0655 \u0627\u0655 \u064a\u0654"),
    (0xfe8a, 0xfe91, "\u064a\u0654 \u064a\u0654 \u064a\u0654 \u0627 \u0627 \u0628 \u0628 \u0628"),
    (0xfe92, 0xfe9b, "\u0628 \u0629 \u0629 \u062a \u062a \u062a \u062a \u062b \u062b \u062b"),
    (0xfe9c, 0xfea5, "\u062b \u062c \u062c \u062c \u062c \u062d \u062d \u062d \u062d \u062e"),
    (0xfea6, 0xfeaf, "\u062e \u062e \u062e \u062f \u062f \u0630 \u0630 \u0631 \u0631 \u0632"),
    (0xfeb0, 0xfeb9, "\u0632 \u0633 \u0633 \u0633 \u0633 \u0634 \u0634 \u0634 \u0634 \u0635"),
    (0xfeba, 0xfec3, "\u0635 \u0635 \u0635 \u0636 \u0636 \u0636 \u0636 \u0637 \u0637 \u0637"),
    (0xfec4, 0xfecd, "\u0637 \u0638 \u0638 \u0638 \u0638 \u0639 \u0639 \u0639 \u0639 \u063a"),
    (0xfece, 0xfed7, "\u063a \u063a \u063a \u0641 \u0641 \u0641 \u0641 \u0642 \u0642 \u0642"),
    (0xfed8, 0xfee1, "\u0642 \u0643 \u0643 \u0643 \u0643 \u0644 \u0644 \u0644 \u0644 \u0645"),
    (0xfee2, 0xfeeb, "\u0645 \u0645 \u0645 \u0646 \u0646 \u0646 \u0646 \u0647 \u0647 \u0647"),
    (0xfeec, 0xfef4, "\u0647 \u0648 \u0648 \u0649 \u0649 \u064a \u064a \u064a \u064a"),
    (0xfef5, 0xfef8, "\u0644\u0627\u0653 \u0644\u0627\u0653 \u0644\u0627\u0654 \u0644\u0627\u0654"),
    (0xfef9, 0xfefc, "\u0644\u0627\u0655 \u0644\u0627\u0655 \u0644\u0627 \u0644\u0627"),
    (0xff10, 0xff19, "0 1 2 3 4 5 6 7 8 9"),
    (0xff21, 0xff3a, "A B C D E F G H I J K L M N O P Q R S T U V W X Y Z"), (0xff3f, 0xff3f, "_"),
    (0xff41, 0xff5a, "a b c d e f g h i j k l m n o p q r s t u v w x y z"),
    (0xff66, 0xff88, "ヲ ァ ィ ゥ ェ ォ ャ ュ ョ ッ \u30fc ア イ ウ エ オ カ キ ク ケ コ サ シ ス セ ソ タ チ ツ テ ト ナ ニ ヌ ネ"),
    (0xff89, 0xffa9, "ノ ハ ヒ フ ヘ ホ マ ミ ム メ モ ヤ ユ ヨ ラ リ ル レ ロ ワ ン \u3099 \u309a ᅠ ᄀ ᄁ ᆪ ᄂ ᆬ ᆭ ᄃ ᄄ ᄅ"),
    (0xffaa, 0xffbe, "ᆰ ᆱ ᆲ ᆳ ᆴ ᆵ ᄚ ᄆ ᄇ ᄈ ᄡ ᄉ ᄊ ᄋ ᄌ ᄍ ᄎ ᄏ ᄐ ᄑ ᄒ"), (0xffc2, 0xffc7, "ᅡ ᅢ ᅣ ᅤ ᅥ ᅦ"),
    (0xffca, 0xffcf, "ᅧ ᅨ ᅩ ᅪ ᅫ ᅬ"), (0xffd2, 0xffd7, "ᅭ ᅮ ᅯ ᅰ ᅱ ᅲ"), (0xffda, 0xffdc, "ᅳ ᅴ ᅵ"),
    (0x10781, 0x10785, "\u02d0 \u02d1 æ ʙ ɓ"),
    (0x10787, 0x107ab, "ʣ ꭦ ʥ ʤ ɖ ɗ ᶑ ɘ ɞ ʩ ɤ ɢ ɠ ʛ ħ ʜ ɧ ʄ ʪ ʫ ɬ 𝼄 ꞎ ɮ 𝼅 ʎ 𝼆 ø ɶ ɷ q ɺ 𝼈 ɽ ɾ ʀ ʨ"),
    (0x107ac, 0x107b0, "ʦ ꭧ ʧ ʈ ⱱ"), (0x107b2, 0x107ba, "ʏ ʡ ʢ ʘ ǀ ǁ ǂ 𝼊 𝼞"),
    (0x1109a, 0x1109a, "𑂚"), (0x1109c, 0x1109c, "𑂜"), (0x110ab, 0x110ab, "𑂫"),
    (0x1112e, 0x1112f, "𑄮 𑄯"), (0x1134b, 0x1134c, "𑍋 𑍌"), (0x114bb, 0x114bc, "𑒻 𑒼"),
    (0x114be, 0x114be, "𑒾"), (0x115ba, 0x115bb, "𑖺 𑖻"), (0x11938, 0x11938, "𑤸"),
    (0x1d400, 0x1d424, "A B C D E F G H I J K L M N O P Q R S T U V W X Y Z a b c d e f g h i j k"),
    (0x1d425, 0x1d449, "l m n o p q r s t u v w x y z A B C D E F G H I J K L M N O P Q R S T U V"),
    (0x1d44a, 0x1d454, "W X Y Z a b c d e f g"),
    (0x1d456, 0x1d47a, "i j k l m n o p q r s t u v w x y z A B C D E F G H I J K L M N O P Q R S"),
    (0x1d47b, 0x1d49c, "T U V W X Y Z a b c d e f g h i j k l m n o p q r s t u v w x y z A"),
    (0x1d49e, 0x1d49f, "C D"), (0x1d4a2, 0x1d4a2, "G"), (0x1d4a5, 0x1d4a6, "J K"),
    (0x1d4a9, 0x1d4ac, "N O P Q"), (0x1d4ae, 0x1d4b9, "S T U V W X Y Z a b c d"),
    (0x1d4bb, 0x1d4bb, "f"), (0x1d4bd, 0x1d4c3, "h i j k l m n"),
    (0x1d4c5, 0x1d4e9, "p q r s t u v w x y z A B C D E F G H I J K L M N O P Q R S T U V W X Y Z"),
    (0x1d4ea, 0x1d505, "a b c d e f g h i j k l m n o p q r s t u v w x y z A B"),
    (0x1d507, 0x1d50a, "D E F G"), (0x1d50d, 0x1d514, "J K L M N O P Q"),
    (0x1d516, 0x1d51c, "S T U V W X Y"),
    (0x1d51e, 0x1d539, "a b c d e f g h i j k l m n o p q r s t u v w x y z A B"),
    (0x1d53b, 0x1d53e, "D E F G"), (0x1d540, 0x1d544, "I J K L M"), (0x1d546, 0x1d546, "O"),
    (0x1d54a, 0x1d550, "S T U V W X Y"),
    (0x1d552, 0x1d576, "a b c d e f g h i j k l m n o p q r s t u v w x y z A B C D E F G H I J K"),
    (0x1d577, 0x1d59b, "L M N O P Q R S T U V W X Y Z a b c d e f g h i j k l m n o p q r s t u v"),
    (0x1d59c, 0x1d5c0, "w x y z A B C D E F G H I J K L M N O P Q R S T U V W X Y Z a b c d e f g"),
    (0x1d5c1, 0x1d5e5, "h i j k l m n o p q r s t u v w x y z A B C D E F G H I J K L M N O P Q R"),
    (0x1d5e6, 0x1d60a, "S T U V W X Y Z a b c d e f g h i j k l m n o p q r s t u v w x y z A B C"),
    (0x1d60b, 0x1d62f, "D E F G H I J K L M N O P Q R S T U V W X Y Z a b c d e f g h i j k l m n"),
    (0x1d630, 0x1d654, "o p q r s t u v w x y z A B C D E F G H I J K L M N O P Q R S T U V W X Y"),
    (0x1d655, 0x1d679, "Z a b c d e f g h i j k l m n o p q r s t u v w x y z A B C D E F G H I J"),
    (0x1d67a, 0x1d69e, "K L M N O P Q R S T U V W X Y Z a b c d e f g h i j k l m n o p q r s t u"),
    (0x1d69f, 0x1d6a5, "v w x y z ı ȷ"),
    (0x1d6a8, 0x1d6c0, "Α Β Γ Δ Ε Ζ Η Θ Ι Κ Λ Μ Ν Ξ Ο Π Ρ Θ Σ Τ Υ Φ Χ Ψ Ω"),
    (0x1d6c2, 0x1d6da, "α β γ δ ε ζ η θ ι κ λ μ ν ξ ο π ρ ς σ τ υ φ χ ψ ω"),
    (0x1d6dc, 0x1d6fa, "ε θ κ φ ρ π Α Β Γ Δ Ε Ζ Η Θ Ι Κ Λ Μ Ν Ξ Ο Π Ρ Θ Σ Τ Υ Φ Χ Ψ Ω"),
    (0x1d6fc, 0x1d714, "α β γ δ ε ζ η θ ι κ λ μ ν ξ ο π ρ ς σ τ υ φ χ ψ ω"),
    (0x1d716, 0x1d734, "ε θ κ φ ρ π Α Β Γ Δ Ε Ζ Η Θ Ι Κ Λ Μ Ν Ξ Ο Π Ρ Θ Σ Τ Υ Φ Χ Ψ Ω"),
    (0x1d736, 0x1d74e, "α β γ δ ε ζ η θ ι κ λ μ ν ξ ο π ρ ς σ τ υ φ χ ψ ω"),
    (0x1d750, 0x1d76e, "ε θ κ φ ρ π Α Β Γ Δ Ε Ζ Η Θ Ι Κ Λ Μ Ν Ξ Ο Π Ρ Θ Σ Τ Υ Φ Χ Ψ Ω"),
    (0x1d770, 0x1d788, "α β γ δ ε ζ η θ ι κ λ μ ν ξ ο π ρ ς σ τ υ φ χ ψ ω"),
    (0x1d78a, 0x1d7a8, "ε θ κ φ ρ π Α Β Γ Δ Ε Ζ Η Θ Ι Κ Λ Μ Ν Ξ Ο Π Ρ Θ Σ Τ Υ Φ Χ Ψ Ω"),
    (0x1d7aa, 0x1d7c2, "α β γ δ ε ζ η θ ι κ λ μ ν ξ ο π ρ ς σ τ υ φ χ ψ ω"),
    (0x1d7c4, 0x1d7cb, "ε θ κ φ ρ π Ϝ ϝ"),
    (0x1d7ce, 0x1d7f2, "0 1 2 3 4 5 6 7 8 9 0 1 2 3 4 5 6 7 8 9 0 1 2 3 4 5 6 7 8 9 0 1 2 3 4 5 6"),
    (0x1d7f3, 0x1d7ff, "7 8 9 0 1 2 3 4 5 6 7 8 9"),
    (0x1ee00, 0x1ee03, "\u0627 \u0628 \u062c \u062f"),
    (0x1ee05, 0x1ee0e, "\u0648 \u0632 \u062d \u0637 \u064a \u0643 \u0644 \u0645 \u0646 \u0633"),
    (0x1ee0f, 0x1ee18, "\u0639 \u0641 \u0635 \u0642 \u0631 \u0634 \u062a \u062b \u062e \u0630"),
    (0x1ee19, 0x1ee1f, "\u0636 \u0638 \u063a \u066e \u06ba \u06a1 \u066f"),
    (0x1ee21, 0x1ee22, "\u0628 \u062c"), (0x1ee24, 0x1ee24, "\u0647"), (0x1ee27, 0x1ee27, "\u062d"),
    (0x1ee29, 0x1ee32, "\u064a \u0643 \u0644 \u0645 \u0646 \u0633 \u0639 \u0641 \u0635 \u0642"),
    (0x1ee34, 0x1ee37, "\u0634 \u062a \u062b \u062e"), (0x1ee39, 0x1ee39, "\u0636"),
    (0x1ee3b, 0x1ee3b, "\u063a"), (0x1ee42, 0x1ee42, "\u062c"), (0x1ee47, 0x1ee47, "\u062d"),
    (0x1ee49, 0x1ee49, "\u064a"), (0x1ee4b, 0x1ee4b, "\u0644"),
    (0x1ee4d, 0x1ee4f, "\u0646 \u0633 \u0639"), (0x1ee51, 0x1ee52, "\u0635 \u0642"),
    (0x1ee54, 0x1ee54, "\u0634"), (0x1ee57, 0x1ee57, "\u062e"), (0x1ee59, 0x1ee59, "\u0636"),
    (0x1ee5b, 0x1ee5b, "\u063a"), (0x1ee5d, 0x1ee5d, "\u06ba"), (0x1ee5f, 0x1ee5f, "\u066f"),
    (0x1ee61, 0x1ee62, "\u0628 \u062c"), (0x1ee64, 0x1ee64, "\u0647"),
    (0x1ee67, 0x1ee6a, "\u062d \u0637 \u064a \u0643"),
    (0x1ee6c, 0x1ee72, "\u0645 \u0646 \u0633 \u0639 \u0641 \u0635 \u0642"),
    (0x1ee74, 0x1ee77, "\u0634 \u062a \u062b \u062e"),
    (0x1ee79, 0x1ee7c, "\u0636 \u0638 \u063a \u066e"), (0x1ee7e, 0x1ee7e, "\u06a1"),
    (0x1ee80, 0x1ee89, "\u0627 \u0628 \u062c \u062f \u0647 \u0648 \u0632 \u062d \u0637 \u064a"),
    (0x1ee8b, 0x1ee94, "\u0644 \u0645 \u0646 \u0633 \u0639 \u0641 \u0635 \u0642 \u0631 \u0634"),
    (0x1ee95, 0x1ee9b, "\u062a \u062b \u062e \u0630 \u0636 \u0638 \u063a"),
    (0x1eea1, 0x1eea3, "\u0628 \u062c \u062f"),
    (0x1eea5, 0x1eea9, "\u0648 \u0632 \u062d \u0637 \u064a"),
    (0x1eeab, 0x1eeb4, "\u0644 \u0645 \u0646 \u0633 \u0639 \u0641 \u0635 \u0642 \u0631 \u0634"),
    (0x1eeb5, 0x1eebb, "\u062a \u062b \u062e \u0630 \u0636 \u0638 \u063a"),
    (0x1fbf0, 0x1fbf9, "0 1 2 3 4 5 6 7 8 9"),
    (0x2f800, 0x2f824, "丽 丸 乁 𠄢 你 侮 侻 倂 偺 備 僧 像 㒞 𠘺 免 兔 兤 具 𠔜 㒹 內 再 𠕋 冗 冤 仌 冬 况 𩇟 凵 刃 㓟 刻 剆 割 剷 㔕"),
    (0x2f825, 0x2f849, "勇 勉 勤 勺 包 匆 北 卉 卑 博 即 卽 卿 卿 卿 𠨬 灰 及 叟 𠭣 叫 叱 吆 咞 吸 呈 周 咢 哶 唐 啓 啣 善 善 喙 喫 喳"),
    (0x2f84a, 0x2f86e, "嗂 圖 嘆 圗 噑 噴 切 壮 城 埴 堍 型 堲 報 墬 𡓤 売 壷 夆 多 夢 奢 𡚨 𡛪 姬 娛 娧 姘 婦 㛮 㛼 嬈 嬾 嬾 𡧈 寃 寘"),
    (0x2f86f, 0x2f893, "寧 寳 𡬘 寿 将 当 尢 㞁 屠 屮 峀 岍 𡷤 嵃 𡷦 嵮 嵫 嵼 巡 巢 㠯 巽 帨 帽 幩 㡢 𢆃 㡼 庰 庳 庶 廊 𪎒 廾 𢌱 𢌱 舁"),
    (0x2f894, 0x2f8b8, "弢 弢 㣇 𣊸 𦇚 形 彫 㣣 徚 忍 志 忹 悁 㤺 㤜 悔 𢛔 惇 慈 慌 慎 慌 慺 憎 憲 憤 憯 懞 懲 懶 成 戛 扝 抱 拔 捐 𢬌"),
    (0x2f8b9, 0x2f8dd, "挽 拼 捨 掃 揤 𢯱 搢 揅 掩 㨮 摩 摾 撝 摷 㩬 敏 敬 𣀊 旣 書 晉 㬙 暑 㬈 㫤 冒 冕 最 暜 肭 䏙 朗 望 朡 杞 杓 𣏃"),
    (0x2f8de, 0x2f902, "㭉 柺 枅 桒 梅 𣑭 梎 栟 椔 㮝 楂 榣 槪 檨 𣚣 櫛 㰘 次 𣢧 歔 㱎 歲 殟 殺 殻 𣪍 𡴋 𣫺 汎 𣲼 沿 泍 汧 洖 派 海 流"),
    (0x2f903, 0x2f927, "浩 浸 涅 𣴞 洴 港 湮 㴳 滋 滇 𣻑 淹 潮 𣽞 𣾎 濆 瀹 瀞 瀛 㶖 灊 災 灷 炭 𠔥 煅 𤉣 熜 𤎫 爨 爵 牐 𤘈 犀 犕 𤜵 𤠔"),
    (0x2f928, 0x2f94c, "獺 王 㺬 玥 㺸 㺸 瑇 瑜 瑱 璅 瓊 㼛 甤 𤰶 甾 𤲒 異 𢆟 瘐 𤾡 𤾸 𥁄 㿼 䀈 直 𥃳 𥃲 𥄙 𥄳 眞 真 真 睊 䀹 瞋 䁆 䂖"),
    (0x2f94d, 0x2f971, "𥐝 硎 碌 磌 䃣 𥘦 祖 𥚚 𥛅 福 秫 䄯 穀 穊 穏 𥥼 𥪧 𥪧 竮 䈂 𥮫 篆 築 䈧 𥲀 糒 䊠 糨 糣 紀 𥾆 絣 䌁 緇 縂 繅 䌴"),
    (0x2f972, 0x2f996, "𦈨 𦉇 䍙 𦋙 罺 𦌾 羕 翺 者 𦓚 𦔣 聠 𦖨 聰 𣍟 䏕 育 脃 䐋 脾 媵 𦞧 𦞵 𣎓 𣎜 舁 舄 辞 䑫 芑 芋 芝 劳 花 芳 芽 苦"),
    (0x2f997, 0x2f9bb, "𦬼 若 茝 荣 莭 茣 莽 菧 著 荓 菊 菌 菜 𦰶 𦵫 𦳕 䔫 蓱 蓳 蔖 𧏊 蕤 𦼬 䕝 䕡 𦾱 𧃒 䕫 虐 虜 虧 虩 蚩 蚈 蜎 蛢 蝹"),
    (0x2f9bc, 0x2f9e0, "蜨 蝫 螆 䗗 蟡 蠁 䗹 衠 衣 𧙧 裗 裞 䘵 裺 㒻 𧢮 𧥦 䚾 䛇 誠 諭 變 豕 𧲨 貫 賁 贛 起 𧼯 𠠄 跋 趼 跰 𠣞 軔 輸 𨗒"),
    (0x2f9e1, 0x2fa05, "𨗭 邔 郱 鄑 𨜮 鄛 鈸 鋗 鋘 鉼 鏹 鐕 𨯺 開 䦕 閷 𨵷 䧦 雃 嶲 霣 𩅅 𩈚 䩮 䩶 韠 𩐊 䪲 𩒖 頋 頋 頩 𩖶 飢 䬳 餩 馧"),
    (0x2fa06, 0x2fa1d, "駂 駾 䯎 𩬰 鬒 鱀 鳽 䳎 䳭 鵧 𪃎 䳸 𪄅 𪈎 𪊑 麻 䵖 黹 黾 鼅 鼏 鼖 鼻 𪘀")]

namespace DecompositionRun

def covers (r : DecompositionRun) (n : Nat) : Bool := r.1 ≤ n && n ≤ r.2.1

def at? (r : DecompositionRun) (n : Nat) : Option String := (split ' ' r.2.2)[n - r.1]?

end DecompositionRun

/-- The characters that a character is made of. -/
def decomposition (c : Char) : List Char :=
  let n := c.toNat
  if Hangul.isSyllable n then (Hangul.letters n).map Char.ofNat
  else match (decompositionRuns.find? (·.covers n)).bind (·.at? n) with
    | some s => s.toList
    | none => [c]

theorem le_of_mem_decompositionRuns : ∀ r ∈ decompositionRuns, 0xaa ≤ r.1 := by decide +kernel

theorem decomposition_of_ascii {c : Char} (h : c.toNat < 0x80) : decomposition c = [c] := by
  have hs : Hangul.isSyllable c.toNat = false := by
    rw [Bool.eq_false_iff, ne_eq, Hangul.isSyllable_iff]
    omega
  have hr : decompositionRuns.find? (·.covers c.toNat) = none := by
    rw [List.find?_eq_none]
    intro r hr
    have := le_of_mem_decompositionRuns r hr
    simp only [DecompositionRun.covers, Bool.and_eq_true, decide_eq_true_eq]
    omega
  simp [decomposition, hs, hr]

end SubspaceOps.Text
