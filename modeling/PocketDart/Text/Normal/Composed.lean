import PocketDart.Text.Normal.Spelling

/-
  This file holds the characters that are composed of another
  one and a mark, by Unicode 14, as far as they may stand in
  a name.

  Key definitions include:
    * `composedRows`
-/

------------------------------------------------------------
-- Composed Characters
------------------------------------------------------------

namespace PocketDart

namespace Text

/- Characters with their two parts, with blanks between. -/
def composedRows : List SpellingRow :=
  [⟨0x00C0, "A\u0300 A\u0301 A\u0302 A\u0303 A\u0308"⟩,
   ⟨0x00C5, "A\u030a"⟩,
   ⟨0x00C7, "C\u0327 E\u0300 E\u0301 E\u0302 E\u0308"⟩,
   ⟨0x00CC, "I\u0300 I\u0301 I\u0302 I\u0308"⟩,
   ⟨0x00D1, "N\u0303 O\u0300 O\u0301 O\u0302 O\u0303"⟩,
   ⟨0x00D6, "O\u0308"⟩,
   ⟨0x00D9, "U\u0300 U\u0301 U\u0302 U\u0308 Y\u0301"⟩,
   ⟨0x00E0, "a\u0300 a\u0301 a\u0302 a\u0303 a\u0308"⟩,
   ⟨0x00E5, "a\u030a"⟩,
   ⟨0x00E7, "c\u0327 e\u0300 e\u0301 e\u0302 e\u0308"⟩,
   ⟨0x00EC, "i\u0300 i\u0301 i\u0302 i\u0308"⟩,
   ⟨0x00F1, "n\u0303 o\u0300 o\u0301 o\u0302 o\u0303"⟩,
   ⟨0x00F6, "o\u0308"⟩,
   ⟨0x00F9, "u\u0300 u\u0301 u\u0302 u\u0308 y\u0301"⟩,
   ⟨0x00FF, "y\u0308 A\u0304 a\u0304 A\u0306 a\u0306"⟩,
   ⟨0x0104, "A\u0328 a\u0328 C\u0301 c\u0301 C\u0302"⟩,
   ⟨0x0109, "c\u0302 C\u0307 c\u0307 C\u030c c\u030c"⟩,
   ⟨0x010E, "D\u030c d\u030c"⟩,
   ⟨0x0112, "E\u0304 e\u0304 E\u0306 e\u0306 E\u0307"⟩,
   ⟨0x0117, "e\u0307 E\u0328 e\u0328 E\u030c e\u030c"⟩,
   ⟨0x011C, "G\u0302 g\u0302 G\u0306 g\u0306 G\u0307"⟩,
   ⟨0x0121, "g\u0307 G\u0327 g\u0327 H\u0302 h\u0302"⟩,
   ⟨0x0128, "I\u0303 i\u0303 I\u0304 i\u0304 I\u0306"⟩,
   ⟨0x012D, "i\u0306 I\u0328 i\u0328 I\u0307"⟩,
   ⟨0x0134, "J\u0302 j\u0302 K\u0327 k\u0327"⟩,
   ⟨0x0139, "L\u0301 l\u0301 L\u0327 l\u0327 L\u030c"⟩,
   ⟨0x013E, "l\u030c"⟩,
   ⟨0x0143, "N\u0301 n\u0301 N\u0327 n\u0327 N\u030c"⟩,
   ⟨0x0148, "n\u030c"⟩,
   ⟨0x014C, "O\u0304 o\u0304 O\u0306 o\u0306 O\u030b"⟩,
   ⟨0x0151, "o\u030b"⟩,
   ⟨0x0154, "R\u0301 r\u0301 R\u0327 r\u0327 R\u030c"⟩,
   ⟨0x0159, "r\u030c S\u0301 s\u0301 S\u0302 s\u0302"⟩,
   ⟨0x015E, "S\u0327 s\u0327 S\u030c s\u030c T\u0327"⟩,
   ⟨0x0163, "t\u0327 T\u030c t\u030c"⟩,
   ⟨0x0168, "U\u0303 u\u0303 U\u0304 u\u0304 U\u0306"⟩,
   ⟨0x016D, "u\u0306 U\u030a u\u030a U\u030b u\u030b"⟩,
   ⟨0x0172, "U\u0328 u\u0328 W\u0302 w\u0302 Y\u0302"⟩,
   ⟨0x0177, "y\u0302 Y\u0308 Z\u0301 z\u0301 Z\u0307"⟩,
   ⟨0x017C, "z\u0307 Z\u030c z\u030c"⟩,
   ⟨0x01A0, "O\u031b o\u031b"⟩, ⟨0x01AF, "U\u031b u\u031b"⟩,
   ⟨0x01CD, "A\u030c a\u030c I\u030c i\u030c O\u030c"⟩,
   ⟨0x01D2, "o\u030c U\u030c u\u030c Ü\u0304 ü\u0304"⟩,
   ⟨0x01D7, "Ü\u0301 ü\u0301 Ü\u030c ü\u030c Ü\u0300"⟩,
   ⟨0x01DC, "ü\u0300"⟩,
   ⟨0x01DE, "Ä\u0304 ä\u0304 Ȧ\u0304 ȧ\u0304 Æ\u0304"⟩,
   ⟨0x01E3, "æ\u0304"⟩,
   ⟨0x01E6, "G\u030c g\u030c K\u030c k\u030c O\u0328"⟩,
   ⟨0x01EB, "o\u0328 Ǫ\u0304 ǫ\u0304 Ʒ\u030c ʒ\u030c"⟩,
   ⟨0x01F0, "j\u030c"⟩, ⟨0x01F4, "G\u0301 g\u0301"⟩,
   ⟨0x01F8, "N\u0300 n\u0300 Å\u0301 å\u0301 Æ\u0301"⟩,
   ⟨0x01FD, "æ\u0301 Ø\u0301 ø\u0301 A\u030f a\u030f"⟩,
   ⟨0x0202, "A\u0311 a\u0311 E\u030f e\u030f E\u0311"⟩,
   ⟨0x0207, "e\u0311 I\u030f i\u030f I\u0311 i\u0311"⟩,
   ⟨0x020C, "O\u030f o\u030f O\u0311 o\u0311 R\u030f"⟩,
   ⟨0x0211, "r\u030f R\u0311 r\u0311 U\u030f u\u030f"⟩,
   ⟨0x0216, "U\u0311 u\u0311 S\u0326 s\u0326 T\u0326"⟩,
   ⟨0x021B, "t\u0326"⟩, ⟨0x021E, "H\u030c h\u030c"⟩,
   ⟨0x0226, "A\u0307 a\u0307 E\u0327 e\u0327 Ö\u0304"⟩,
   ⟨0x022B, "ö\u0304 Õ\u0304 õ\u0304 O\u0307 o\u0307"⟩,
   ⟨0x0230, "Ȯ\u0304 ȯ\u0304 Y\u0304 y\u0304"⟩,
   ⟨0x0386, "Α\u0301"⟩, ⟨0x0388, "Ε\u0301 Η\u0301 Ι\u0301"⟩,
   ⟨0x038C, "Ο\u0301"⟩, ⟨0x038E, "Υ\u0301 Ω\u0301 ϊ\u0301"⟩,
   ⟨0x03AA, "Ι\u0308 Υ\u0308 α\u0301 ε\u0301 η\u0301"⟩,
   ⟨0x03AF, "ι\u0301 ϋ\u0301"⟩,
   ⟨0x03CA, "ι\u0308 υ\u0308 ο\u0301 υ\u0301 ω\u0301"⟩,
   ⟨0x03D3, "ϒ\u0301 ϒ\u0308"⟩, ⟨0x0400, "Е\u0300 Е\u0308"⟩,
   ⟨0x0403, "Г\u0301"⟩, ⟨0x0407, "І\u0308"⟩,
   ⟨0x040C, "К\u0301 И\u0300 У\u0306"⟩, ⟨0x0419, "И\u0306"⟩,
   ⟨0x0439, "и\u0306"⟩, ⟨0x0450, "е\u0300 е\u0308"⟩,
   ⟨0x0453, "г\u0301"⟩, ⟨0x0457, "і\u0308"⟩,
   ⟨0x045C, "к\u0301 и\u0300 у\u0306"⟩,
   ⟨0x0476, "Ѵ\u030f ѵ\u030f"⟩, ⟨0x04C1, "Ж\u0306 ж\u0306"⟩,
   ⟨0x04D0, "А\u0306 а\u0306 А\u0308 а\u0308"⟩,
   ⟨0x04D6, "Е\u0306 е\u0306"⟩,
   ⟨0x04DA, "Ә\u0308 ә\u0308 Ж\u0308 ж\u0308 З\u0308"⟩,
   ⟨0x04DF, "з\u0308"⟩,
   ⟨0x04E2, "И\u0304 и\u0304 И\u0308 и\u0308 О\u0308"⟩,
   ⟨0x04E7, "о\u0308"⟩,
   ⟨0x04EA, "Ө\u0308 ө\u0308 Э\u0308 э\u0308 У\u0304"⟩,
   ⟨0x04EF, "у\u0304 У\u0308 у\u0308 У\u030b у\u030b"⟩,
   ⟨0x04F4, "Ч\u0308 ч\u0308"⟩, ⟨0x04F8, "Ы\u0308 ы\u0308"⟩,
   ⟨0x0622, "\u0627\u0653 \u0627\u0654 \u0648\u0654"⟩,
   ⟨0x0625, "\u0627\u0655 \u064a\u0654"⟩,
   ⟨0x06C0, "\u06d5\u0654"⟩, ⟨0x06C2, "\u06c1\u0654"⟩,
   ⟨0x06D3, "\u06d2\u0654"⟩, ⟨0x0929, "न\u093c"⟩,
   ⟨0x0931, "र\u093c"⟩, ⟨0x0934, "ळ\u093c"⟩,
   ⟨0x09CB, "\u09c7\u09be \u09c7\u09d7"⟩,
   ⟨0x0B48, "\u0b47\u0b56"⟩,
   ⟨0x0B4B, "\u0b47\u0b3e \u0b47\u0b57"⟩,
   ⟨0x0B94, "ஒ\u0bd7"⟩,
   ⟨0x0BCA, "\u0bc6\u0bbe \u0bc7\u0bbe \u0bc6\u0bd7"⟩,
   ⟨0x0C48, "\u0c46\u0c56"⟩, ⟨0x0CC0, "\u0cbf\u0cd5"⟩,
   ⟨0x0CC7, "\u0cc6\u0cd5 \u0cc6\u0cd6"⟩,
   ⟨0x0CCA, "\u0cc6\u0cc2 \u0cca\u0cd5"⟩,
   ⟨0x0D4A, "\u0d46\u0d3e \u0d47\u0d3e \u0d46\u0d57"⟩,
   ⟨0x0DDA, "\u0dd9\u0dca"⟩,
   ⟨0x0DDC, "\u0dd9\u0dcf \u0ddc\u0dca \u0dd9\u0ddf"⟩,
   ⟨0x1026, "ဥ\u102e"⟩, ⟨0x1B06, "ᬅ\u1b35"⟩,
   ⟨0x1B08, "ᬇ\u1b35"⟩, ⟨0x1B0A, "ᬉ\u1b35"⟩,
   ⟨0x1B0C, "ᬋ\u1b35"⟩, ⟨0x1B0E, "ᬍ\u1b35"⟩,
   ⟨0x1B12, "ᬑ\u1b35"⟩, ⟨0x1B3B, "\u1b3a\u1b35"⟩,
   ⟨0x1B3D, "\u1b3c\u1b35"⟩,
   ⟨0x1B40, "\u1b3e\u1b35 \u1b3f\u1b35"⟩,
   ⟨0x1B43, "\u1b42\u1b35"⟩,
   ⟨0x1E00, "A\u0325 a\u0325 B\u0307 b\u0307 B\u0323"⟩,
   ⟨0x1E05, "b\u0323 B\u0331 b\u0331 Ç\u0301 ç\u0301"⟩,
   ⟨0x1E0A, "D\u0307 d\u0307 D\u0323 d\u0323 D\u0331"⟩,
   ⟨0x1E0F, "d\u0331 D\u0327 d\u0327 D\u032d d\u032d"⟩,
   ⟨0x1E14, "Ē\u0300 ē\u0300 Ē\u0301 ē\u0301 E\u032d"⟩,
   ⟨0x1E19, "e\u032d E\u0330 e\u0330 Ȩ\u0306 ȩ\u0306"⟩,
   ⟨0x1E1E, "F\u0307 f\u0307 G\u0304 g\u0304 H\u0307"⟩,
   ⟨0x1E23, "h\u0307 H\u0323 h\u0323 H\u0308 h\u0308"⟩,
   ⟨0x1E28, "H\u0327 h\u0327 H\u032e h\u032e I\u0330"⟩,
   ⟨0x1E2D, "i\u0330 Ï\u0301 ï\u0301 K\u0301 k\u0301"⟩,
   ⟨0x1E32, "K\u0323 k\u0323 K\u0331 k\u0331 L\u0323"⟩,
   ⟨0x1E37, "l\u0323 Ḷ\u0304 ḷ\u0304 L\u0331 l\u0331"⟩,
   ⟨0x1E3C, "L\u032d l\u032d M\u0301 m\u0301 M\u0307"⟩,
   ⟨0x1E41, "m\u0307 M\u0323 m\u0323 N\u0307 n\u0307"⟩,
   ⟨0x1E46, "N\u0323 n\u0323 N\u0331 n\u0331 N\u032d"⟩,
   ⟨0x1E4B, "n\u032d Õ\u0301 õ\u0301 Õ\u0308 õ\u0308"⟩,
   ⟨0x1E50, "Ō\u0300 ō\u0300 Ō\u0301 ō\u0301 P\u0301"⟩,
   ⟨0x1E55, "p\u0301 P\u0307 p\u0307 R\u0307 r\u0307"⟩,
   ⟨0x1E5A, "R\u0323 r\u0323 Ṛ\u0304 ṛ\u0304 R\u0331"⟩,
   ⟨0x1E5F, "r\u0331 S\u0307 s\u0307 S\u0323 s\u0323"⟩,
   ⟨0x1E64, "Ś\u0307 ś\u0307 Š\u0307 š\u0307 Ṣ\u0307"⟩,
   ⟨0x1E69, "ṣ\u0307 T\u0307 t\u0307 T\u0323 t\u0323"⟩,
   ⟨0x1E6E, "T\u0331 t\u0331 T\u032d t\u032d U\u0324"⟩,
   ⟨0x1E73, "u\u0324 U\u0330 u\u0330 U\u032d u\u032d"⟩,
   ⟨0x1E78, "Ũ\u0301 ũ\u0301 Ū\u0308 ū\u0308 V\u0303"⟩,
   ⟨0x1E7D, "v\u0303 V\u0323 v\u0323 W\u0300 w\u0300"⟩,
   ⟨0x1E82, "W\u0301 w\u0301 W\u0308 w\u0308 W\u0307"⟩,
   ⟨0x1E87, "w\u0307 W\u0323 w\u0323 X\u0307 x\u0307"⟩,
   ⟨0x1E8C, "X\u0308 x\u0308 Y\u0307 y\u0307 Z\u0302"⟩,
   ⟨0x1E91, "z\u0302 Z\u0323 z\u0323 Z\u0331 z\u0331"⟩,
   ⟨0x1E96, "h\u0331 t\u0308 w\u030a y\u030a"⟩,
   ⟨0x1E9B, "ſ\u0307"⟩,
   ⟨0x1EA0, "A\u0323 a\u0323 A\u0309 a\u0309 Â\u0301"⟩,
   ⟨0x1EA5, "â\u0301 Â\u0300 â\u0300 Â\u0309 â\u0309"⟩,
   ⟨0x1EAA, "Â\u0303 â\u0303 Ạ\u0302 ạ\u0302 Ă\u0301"⟩,
   ⟨0x1EAF, "ă\u0301 Ă\u0300 ă\u0300 Ă\u0309 ă\u0309"⟩,
   ⟨0x1EB4, "Ă\u0303 ă\u0303 Ạ\u0306 ạ\u0306 E\u0323"⟩,
   ⟨0x1EB9, "e\u0323 E\u0309 e\u0309 E\u0303 e\u0303"⟩,
   ⟨0x1EBE, "Ê\u0301 ê\u0301 Ê\u0300 ê\u0300 Ê\u0309"⟩,
   ⟨0x1EC3, "ê\u0309 Ê\u0303 ê\u0303 Ẹ\u0302 ẹ\u0302"⟩,
   ⟨0x1EC8, "I\u0309 i\u0309 I\u0323 i\u0323 O\u0323"⟩,
   ⟨0x1ECD, "o\u0323 O\u0309 o\u0309 Ô\u0301 ô\u0301"⟩,
   ⟨0x1ED2, "Ô\u0300 ô\u0300 Ô\u0309 ô\u0309 Ô\u0303"⟩,
   ⟨0x1ED7, "ô\u0303 Ọ\u0302 ọ\u0302 Ơ\u0301 ơ\u0301"⟩,
   ⟨0x1EDC, "Ơ\u0300 ơ\u0300 Ơ\u0309 ơ\u0309 Ơ\u0303"⟩,
   ⟨0x1EE1, "ơ\u0303 Ơ\u0323 ơ\u0323 U\u0323 u\u0323"⟩,
   ⟨0x1EE6, "U\u0309 u\u0309 Ư\u0301 ư\u0301 Ư\u0300"⟩,
   ⟨0x1EEB, "ư\u0300 Ư\u0309 ư\u0309 Ư\u0303 ư\u0303"⟩,
   ⟨0x1EF0, "Ư\u0323 ư\u0323 Y\u0300 y\u0300 Y\u0323"⟩,
   ⟨0x1EF5, "y\u0323 Y\u0309 y\u0309 Y\u0303 y\u0303"⟩,
   ⟨0x1F00, "α\u0313 α\u0314 ἀ\u0300 ἁ\u0300 ἀ\u0301"⟩,
   ⟨0x1F05, "ἁ\u0301 ἀ\u0342 ἁ\u0342 Α\u0313 Α\u0314"⟩,
   ⟨0x1F0A, "Ἀ\u0300 Ἁ\u0300 Ἀ\u0301 Ἁ\u0301 Ἀ\u0342"⟩,
   ⟨0x1F0F, "Ἁ\u0342 ε\u0313 ε\u0314 ἐ\u0300 ἑ\u0300"⟩,
   ⟨0x1F14, "ἐ\u0301 ἑ\u0301"⟩,
   ⟨0x1F18, "Ε\u0313 Ε\u0314 Ἐ\u0300 Ἑ\u0300 Ἐ\u0301"⟩,
   ⟨0x1F1D, "Ἑ\u0301"⟩,
   ⟨0x1F20, "η\u0313 η\u0314 ἠ\u0300 ἡ\u0300 ἠ\u0301"⟩,
   ⟨0x1F25, "ἡ\u0301 ἠ\u0342 ἡ\u0342 Η\u0313 Η\u0314"⟩,
   ⟨0x1F2A, "Ἠ\u0300 Ἡ\u0300 Ἠ\u0301 Ἡ\u0301 Ἠ\u0342"⟩,
   ⟨0x1F2F, "Ἡ\u0342 ι\u0313 ι\u0314 ἰ\u0300 ἱ\u0300"⟩,
   ⟨0x1F34, "ἰ\u0301 ἱ\u0301 ἰ\u0342 ἱ\u0342 Ι\u0313"⟩,
   ⟨0x1F39, "Ι\u0314 Ἰ\u0300 Ἱ\u0300 Ἰ\u0301 Ἱ\u0301"⟩,
   ⟨0x1F3E, "Ἰ\u0342 Ἱ\u0342 ο\u0313 ο\u0314 ὀ\u0300"⟩,
   ⟨0x1F43, "ὁ\u0300 ὀ\u0301 ὁ\u0301"⟩,
   ⟨0x1F48, "Ο\u0313 Ο\u0314 Ὀ\u0300 Ὁ\u0300 Ὀ\u0301"⟩,
   ⟨0x1F4D, "Ὁ\u0301"⟩,
   ⟨0x1F50, "υ\u0313 υ\u0314 ὐ\u0300 ὑ\u0300 ὐ\u0301"⟩,
   ⟨0x1F55, "ὑ\u0301 ὐ\u0342 ὑ\u0342"⟩, ⟨0x1F59, "Υ\u0314"⟩,
   ⟨0x1F5B, "Ὑ\u0300"⟩, ⟨0x1F5D, "Ὑ\u0301"⟩,
   ⟨0x1F5F, "Ὑ\u0342 ω\u0313 ω\u0314 ὠ\u0300 ὡ\u0300"⟩,
   ⟨0x1F64, "ὠ\u0301 ὡ\u0301 ὠ\u0342 ὡ\u0342 Ω\u0313"⟩,
   ⟨0x1F69, "Ω\u0314 Ὠ\u0300 Ὡ\u0300 Ὠ\u0301 Ὡ\u0301"⟩,
   ⟨0x1F6E, "Ὠ\u0342 Ὡ\u0342 α\u0300"⟩, ⟨0x1F72, "ε\u0300"⟩,
   ⟨0x1F74, "η\u0300"⟩, ⟨0x1F76, "ι\u0300"⟩,
   ⟨0x1F78, "ο\u0300"⟩, ⟨0x1F7A, "υ\u0300"⟩,
   ⟨0x1F7C, "ω\u0300"⟩,
   ⟨0x1F80, "ἀ\u0345 ἁ\u0345 ἂ\u0345 ἃ\u0345 ἄ\u0345"⟩,
   ⟨0x1F85, "ἅ\u0345 ἆ\u0345 ἇ\u0345 Ἀ\u0345 Ἁ\u0345"⟩,
   ⟨0x1F8A, "Ἂ\u0345 Ἃ\u0345 Ἄ\u0345 Ἅ\u0345 Ἆ\u0345"⟩,
   ⟨0x1F8F, "Ἇ\u0345 ἠ\u0345 ἡ\u0345 ἢ\u0345 ἣ\u0345"⟩,
   ⟨0x1F94, "ἤ\u0345 ἥ\u0345 ἦ\u0345 ἧ\u0345 Ἠ\u0345"⟩,
   ⟨0x1F99, "Ἡ\u0345 Ἢ\u0345 Ἣ\u0345 Ἤ\u0345 Ἥ\u0345"⟩,
   ⟨0x1F9E, "Ἦ\u0345 Ἧ\u0345 ὠ\u0345 ὡ\u0345 ὢ\u0345"⟩,
   ⟨0x1FA3, "ὣ\u0345 ὤ\u0345 ὥ\u0345 ὦ\u0345 ὧ\u0345"⟩,
   ⟨0x1FA8, "Ὠ\u0345 Ὡ\u0345 Ὢ\u0345 Ὣ\u0345 Ὤ\u0345"⟩,
   ⟨0x1FAD, "Ὥ\u0345 Ὦ\u0345 Ὧ\u0345 α\u0306 α\u0304"⟩,
   ⟨0x1FB2, "ὰ\u0345 α\u0345 ά\u0345"⟩,
   ⟨0x1FB6, "α\u0342 ᾶ\u0345 Α\u0306 Α\u0304 Α\u0300"⟩,
   ⟨0x1FBC, "Α\u0345"⟩, ⟨0x1FC2, "ὴ\u0345 η\u0345 ή\u0345"⟩,
   ⟨0x1FC6, "η\u0342 ῆ\u0345 Ε\u0300"⟩, ⟨0x1FCA, "Η\u0300"⟩,
   ⟨0x1FCC, "Η\u0345"⟩, ⟨0x1FD0, "ι\u0306 ι\u0304 ϊ\u0300"⟩,
   ⟨0x1FD6, "ι\u0342 ϊ\u0342 Ι\u0306 Ι\u0304 Ι\u0300"⟩,
   ⟨0x1FE0, "υ\u0306 υ\u0304 ϋ\u0300"⟩,
   ⟨0x1FE4, "ρ\u0313 ρ\u0314 υ\u0342 ϋ\u0342 Υ\u0306"⟩,
   ⟨0x1FE9, "Υ\u0304 Υ\u0300"⟩, ⟨0x1FEC, "Ρ\u0314"⟩,
   ⟨0x1FF2, "ὼ\u0345 ω\u0345 ώ\u0345"⟩,
   ⟨0x1FF6, "ω\u0342 ῶ\u0345 Ο\u0300"⟩, ⟨0x1FFA, "Ω\u0300"⟩,
   ⟨0x1FFC, "Ω\u0345"⟩, ⟨0x304C, "か\u3099"⟩,
   ⟨0x304E, "き\u3099"⟩, ⟨0x3050, "く\u3099"⟩,
   ⟨0x3052, "け\u3099"⟩, ⟨0x3054, "こ\u3099"⟩,
   ⟨0x3056, "さ\u3099"⟩, ⟨0x3058, "し\u3099"⟩,
   ⟨0x305A, "す\u3099"⟩, ⟨0x305C, "せ\u3099"⟩,
   ⟨0x305E, "そ\u3099"⟩, ⟨0x3060, "た\u3099"⟩,
   ⟨0x3062, "ち\u3099"⟩, ⟨0x3065, "つ\u3099"⟩,
   ⟨0x3067, "て\u3099"⟩, ⟨0x3069, "と\u3099"⟩,
   ⟨0x3070, "は\u3099 は\u309a"⟩,
   ⟨0x3073, "ひ\u3099 ひ\u309a"⟩,
   ⟨0x3076, "ふ\u3099 ふ\u309a"⟩,
   ⟨0x3079, "へ\u3099 へ\u309a"⟩,
   ⟨0x307C, "ほ\u3099 ほ\u309a"⟩, ⟨0x3094, "う\u3099"⟩,
   ⟨0x309E, "ゝ\u3099"⟩, ⟨0x30AC, "カ\u3099"⟩,
   ⟨0x30AE, "キ\u3099"⟩, ⟨0x30B0, "ク\u3099"⟩,
   ⟨0x30B2, "ケ\u3099"⟩, ⟨0x30B4, "コ\u3099"⟩,
   ⟨0x30B6, "サ\u3099"⟩, ⟨0x30B8, "シ\u3099"⟩,
   ⟨0x30BA, "ス\u3099"⟩, ⟨0x30BC, "セ\u3099"⟩,
   ⟨0x30BE, "ソ\u3099"⟩, ⟨0x30C0, "タ\u3099"⟩,
   ⟨0x30C2, "チ\u3099"⟩, ⟨0x30C5, "ツ\u3099"⟩,
   ⟨0x30C7, "テ\u3099"⟩, ⟨0x30C9, "ト\u3099"⟩,
   ⟨0x30D0, "ハ\u3099 ハ\u309a"⟩,
   ⟨0x30D3, "ヒ\u3099 ヒ\u309a"⟩,
   ⟨0x30D6, "フ\u3099 フ\u309a"⟩,
   ⟨0x30D9, "ヘ\u3099 ヘ\u309a"⟩,
   ⟨0x30DC, "ホ\u3099 ホ\u309a"⟩, ⟨0x30F4, "ウ\u3099"⟩,
   ⟨0x30F7, "ワ\u3099 ヰ\u3099 ヱ\u3099 ヲ\u3099"⟩,
   ⟨0x30FE, "ヽ\u3099"⟩, ⟨0x1109A, "𑂚"⟩, ⟨0x1109C, "𑂜"⟩,
   ⟨0x110AB, "𑂫"⟩, ⟨0x1112E, "𑄮 𑄯"⟩, ⟨0x1134B, "𑍋 𑍌"⟩,
   ⟨0x114BB, "𑒻 𑒼"⟩, ⟨0x114BE, "𑒾"⟩, ⟨0x115BA, "𑖺 𑖻"⟩,
   ⟨0x11938, "𑤸"⟩]

end Text

end PocketDart
