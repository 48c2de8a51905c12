import Cosmac.Number.Numeral

/-!
# Names of characters

Characters by their names: `namedPoint?` gives the code point of a name. It knows the names of the
Latin, Greek and Cyrillic letters that are widely used, of the controls and the punctuation, of wide
forms, and of ideographs, whose names are numbers.
-/

set_option autoImplicit false

namespace Cosmac.Text

/-- Names of neighbours: the first code point, the distance from one to the next, what the names
start with, and how they go on, with commas between them. -/
abbrev NameRow := Nat × Nat × String × String

/-- The names of characters that stand in order. -/
def nameRows : Array NameRow :=
  #[(0x20, 1, "", "SPACE,EXCLAMATION MARK,QUOTATION MARK,NUMBER SIGN,DOLLAR SIGN,PERCENT SIGN"),
  (0x26, 1, "", "AMPERSAND,APOSTROPHE,LEFT PARENTHESIS,RIGHT PARENTHESIS,ASTERISK,PLUS SIGN,COMMA"),
  (0x2D, 1, "", "HYPHEN-MINUS,FULL STOP,SOLIDUS"),
  (0x30, 1, "DIGIT ", "ZERO,ONE,TWO,THREE,FOUR,FIVE,SIX,SEVEN,EIGHT,NINE"),
  (0x3A, 1, "", "COLON,SEMICOLON,LESS-THAN SIGN,EQUALS SIGN,GREATER-THAN SIGN,QUESTION MARK"),
  (0x40, 1, "", "COMMERCIAL AT"),
  (0x41, 1, "LATIN CAPITAL LETTER ", "A,B,C,D,E,F,G,H,I,J,K,L,M,N,O,P,Q,R,S,T,U,V,W,X,Y,Z"),
  (0x5B, 1, "", "LEFT SQUARE BRACKET,REVERSE SOLIDUS,RIGHT SQUARE BRACKET,CIRCUMFLEX ACCENT"),
  (0x5F, 1, "", "LOW LINE,GRAVE ACCENT"),
  (0x61, 1, "LATIN SMALL LETTER ", "A,B,C,D,E,F,G,H,I,J,K,L,M,N,O,P,Q,R,S,T,U,V,W,X,Y,Z"),
  (0x7B, 1, "", "LEFT CURLY BRACKET,VERTICAL LINE,RIGHT CURLY BRACKET,TILDE"),
  (0xA0, 1, "", "NO-BREAK SPACE,INVERTED EXCLAMATION MARK,CENT SIGN,POUND SIGN,CURRENCY SIGN"),
  (0xA5, 1, "", "YEN SIGN,BROKEN BAR,SECTION SIGN,DIAERESIS,COPYRIGHT SIGN"),
  (0xAA, 1, "", "FEMININE ORDINAL INDICATOR,LEFT-POINTING DOUBLE ANGLE QUOTATION MARK,NOT SIGN"),
  (0xAD, 1, "", "SOFT HYPHEN,REGISTERED SIGN,MACRON,DEGREE SIGN,PLUS-MINUS SIGN,SUPERSCRIPT TWO"),
  (0xB3, 1, "", "SUPERSCRIPT THREE,ACUTE ACCENT,MICRO SIGN,PILCROW SIGN,MIDDLE DOT,CEDILLA"),
  (0xB9, 1, "", "SUPERSCRIPT ONE,MASCULINE ORDINAL INDICATOR"),
  (0xBB, 1, "", "RIGHT-POINTING DOUBLE ANGLE QUOTATION MARK,VULGAR FRACTION ONE QUARTER"),
  (0xBD, 1, "", "VULGAR FRACTION ONE HALF,VULGAR FRACTION THREE QUARTERS,INVERTED QUESTION MARK"),
  (0xC0, 1, "LATIN CAPITAL LETTER ", "A WITH GRAVE,A WITH ACUTE,A WITH CIRCUMFLEX,A WITH TILDE"),
  (0xC4, 1, "LATIN CAPITAL LETTER ", "A WITH DIAERESIS,A WITH RING ABOVE,AE,C WITH CEDILLA"),
  (0xC8, 1, "LATIN CAPITAL LETTER ", "E WITH GRAVE,E WITH ACUTE,E WITH CIRCUMFLEX"),
  (0xCB, 1, "LATIN CAPITAL LETTER ", "E WITH DIAERESIS,I WITH GRAVE,I WITH ACUTE"),
  (0xCE, 1, "LATIN CAPITAL LETTER ", "I WITH CIRCUMFLEX,I WITH DIAERESIS,ETH,N WITH TILDE"),
  (0xD2, 1, "LATIN CAPITAL LETTER ", "O WITH GRAVE,O WITH ACUTE,O WITH CIRCUMFLEX,O WITH TILDE"),
  (0xD6, 1, "LATIN CAPITAL LETTER ", "O WITH DIAERESIS"), (0xD7, 1, "", "MULTIPLICATION SIGN"),
  (0xD8, 1, "LATIN CAPITAL LETTER ", "O WITH STROKE,U WITH GRAVE,U WITH ACUTE,U WITH CIRCUMFLEX"),
  (0xDC, 1, "LATIN CAPITAL LETTER ", "U WITH DIAERESIS,Y WITH ACUTE,THORN"),
  (0xDF, 1, "LATIN SMALL LETTER ", "SHARP S,A WITH GRAVE,A WITH ACUTE,A WITH CIRCUMFLEX"),
  (0xE3, 1, "LATIN SMALL LETTER ", "A WITH TILDE,A WITH DIAERESIS,A WITH RING ABOVE,AE"),
  (0xE7, 1, "LATIN SMALL LETTER ", "C WITH CEDILLA,E WITH GRAVE,E WITH ACUTE,E WITH CIRCUMFLEX"),
  (0xEB, 1, "LATIN SMALL LETTER ", "E WITH DIAERESIS,I WITH GRAVE,I WITH ACUTE,I WITH CIRCUMFLEX"),
  (0xEF, 1, "LATIN SMALL LETTER ", "I WITH DIAERESIS,ETH,N WITH TILDE,O WITH GRAVE,O WITH ACUTE"),
  (0xF4, 1, "LATIN SMALL LETTER ", "O WITH CIRCUMFLEX,O WITH TILDE,O WITH DIAERESIS"),
  (0xF7, 1, "", "DIVISION SIGN"),
  (0xF8, 1, "LATIN SMALL LETTER ", "O WITH STROKE,U WITH GRAVE,U WITH ACUTE,U WITH CIRCUMFLEX"),
  (0xFC, 1, "LATIN SMALL LETTER ", "U WITH DIAERESIS,Y WITH ACUTE,THORN,Y WITH DIAERESIS"),
  (0x100, 2, "LATIN CAPITAL LETTER ", "A WITH MACRON,A WITH BREVE,A WITH OGONEK,C WITH ACUTE"),
  (0x101, 2, "LATIN SMALL LETTER ", "A WITH MACRON,A WITH BREVE,A WITH OGONEK,C WITH ACUTE"),
  (0x108, 2, "LATIN CAPITAL LETTER ", "C WITH CIRCUMFLEX,C WITH DOT ABOVE,C WITH CARON"),
  (0x109, 2, "LATIN SMALL LETTER ", "C WITH CIRCUMFLEX,C WITH DOT ABOVE,C WITH CARON,D WITH CARON"),
  (0x10E, 2, "LATIN CAPITAL LETTER ", "D WITH CARON,D WITH STROKE,E WITH MACRON,E WITH BREVE"),
  (0x111, 2, "LATIN SMALL LETTER ", "D WITH STROKE,E WITH MACRON,E WITH BREVE,E WITH DOT ABOVE"),
  (0x116, 2, "LATIN CAPITAL LETTER ", "E WITH DOT ABOVE,E WITH OGONEK,E WITH CARON"),
  (0x119, 2, "LATIN SMALL LETTER ", "E WITH OGONEK,E WITH CARON,G WITH CIRCUMFLEX,G WITH BREVE"),
  (0x11C, 2, "LATIN CAPITAL LETTER ", "G WITH CIRCUMFLEX,G WITH BREVE,G WITH DOT ABOVE"),
  (0x121, 2, "LATIN SMALL LETTER ", "G WITH DOT ABOVE,G WITH CEDILLA,H WITH CIRCUMFLEX"),
  (0x122, 2, "LATIN CAPITAL LETTER ", "G WITH CEDILLA,H WITH CIRCUMFLEX,H WITH STROKE"),
  (0x127, 2, "LATIN SMALL LETTER ", "H WITH STROKE,I WITH TILDE,I WITH MACRON,I WITH BREVE"),
  (0x128, 2, "LATIN CAPITAL LETTER ", "I WITH TILDE,I WITH MACRON,I WITH BREVE,I WITH OGONEK"),
  (0x12F, 2, "LATIN SMALL LETTER ", "I WITH OGONEK,DOTLESS I"),
  (0x130, 1, "LATIN CAPITAL LETTER ", "I WITH DOT ABOVE"),
  (0x132, 1, "", "LATIN CAPITAL LIGATURE IJ,LATIN SMALL LIGATURE IJ"),
  (0x134, 2, "LATIN CAPITAL LETTER ", "J WITH CIRCUMFLEX,K WITH CEDILLA"),
  (0x135, 2, "LATIN SMALL LETTER ", "J WITH CIRCUMFLEX,K WITH CEDILLA"),
  (0x138, 2, "LATIN SMALL LETTER ", "KRA,L WITH ACUTE,L WITH CEDILLA,L WITH CARON"),
  (0x139, 2, "LATIN CAPITAL LETTER ", "L WITH ACUTE,L WITH CEDILLA,L WITH CARON,L WITH MIDDLE DOT"),
  (0x140, 2, "LATIN SMALL LETTER ", "L WITH MIDDLE DOT,L WITH STROKE,N WITH ACUTE,N WITH CEDILLA"),
  (0x141, 2, "LATIN CAPITAL LETTER ", "L WITH STROKE,N WITH ACUTE,N WITH CEDILLA,N WITH CARON"),
  (0x148, 1, "LATIN SMALL LETTER ", "N WITH CARON,N PRECEDED BY APOSTROPHE"),
  (0x14A, 2, "LATIN CAPITAL LETTER ", "ENG,O WITH MACRON,O WITH BREVE,O WITH DOUBLE ACUTE"),
  (0x14B, 2, "LATIN SMALL LETTER ", "ENG,O WITH MACRON,O WITH BREVE,O WITH DOUBLE ACUTE"),
  (0x152, 1, "", "LATIN CAPITAL LIGATURE OE,LATIN SMALL LIGATURE OE"),
  (0x154, 2, "LATIN CAPITAL LETTER ", "R WITH ACUTE,R WITH CEDILLA,R WITH CARON,S WITH ACUTE"),
  (0x155, 2, "LATIN SMALL LETTER ", "R WITH ACUTE,R WITH CEDILLA,R WITH CARON,S WITH ACUTE"),
  (0x15C, 2, "LATIN CAPITAL LETTER ", "S WITH CIRCUMFLEX,S WITH CEDILLA,S WITH CARON"),
  (0x15D, 2, "LATIN SMALL LETTER ", "S WITH CIRCUMFLEX,S WITH CEDILLA,S WITH CARON,T WITH CEDILLA"),
  (0x162, 2, "LATIN CAPITAL LETTER ", "T WITH CEDILLA,T WITH CARON,T WITH STROKE,U WITH TILDE"),
  (0x165, 2, "LATIN SMALL LETTER ", "T WITH CARON,T WITH STROKE,U WITH TILDE,U WITH MACRON"),
  (0x16A, 2, "LATIN CAPITAL LETTER ", "U WITH MACRON,U WITH BREVE,U WITH RING ABOVE"),
  (0x16D, 2, "LATIN SMALL LETTER ", "U WITH BREVE,U WITH RING ABOVE,U WITH DOUBLE ACUTE"),
  (0x170, 2, "LATIN CAPITAL LETTER ", "U WITH DOUBLE ACUTE,U WITH OGONEK,W WITH CIRCUMFLEX"),
  (0x173, 2, "LATIN SMALL LETTER ", "U WITH OGONEK,W WITH CIRCUMFLEX,Y WITH CIRCUMFLEX"),
  (0x176, 2, "LATIN CAPITAL LETTER ", "Y WITH CIRCUMFLEX,Y WITH DIAERESIS"),
  (0x179, 2, "LATIN CAPITAL LETTER ", "Z WITH ACUTE,Z WITH DOT ABOVE,Z WITH CARON"),
  (0x17A, 2, "LATIN SMALL LETTER ", "Z WITH ACUTE,Z WITH DOT ABOVE,Z WITH CARON"),
  (0x17F, 1, "LATIN SMALL LETTER ", "LONG S"),
  (0x386, 1, "GREEK CAPITAL LETTER ", "ALPHA WITH TONOS"), (0x387, 1, "", "GREEK ANO TELEIA"),
  (0x388, 1, "GREEK CAPITAL LETTER ", "EPSILON WITH TONOS,ETA WITH TONOS,IOTA WITH TONOS"),
  (0x38C, 1, "GREEK CAPITAL LETTER ", "OMICRON WITH TONOS"),
  (0x38E, 1, "GREEK CAPITAL LETTER ", "UPSILON WITH TONOS,OMEGA WITH TONOS"),
  (0x390, 1, "GREEK SMALL LETTER ", "IOTA WITH DIALYTIKA AND TONOS"),
  (0x391, 1, "GREEK CAPITAL LETTER ", "ALPHA,BETA,GAMMA,DELTA,EPSILON,ZETA,ETA,THETA,IOTA,KAPPA"),
  (0x39B, 1, "GREEK CAPITAL LETTER ", "LAMDA,MU,NU,XI,OMICRON,PI,RHO"),
  (0x3A3, 1, "GREEK CAPITAL LETTER ", "SIGMA,TAU,UPSILON,PHI,CHI,PSI,OMEGA,IOTA WITH DIALYTIKA"),
  (0x3AB, 1, "GREEK CAPITAL LETTER ", "UPSILON WITH DIALYTIKA"),
  (0x3AC, 1, "GREEK SMALL LETTER ", "ALPHA WITH TONOS,EPSILON WITH TONOS,ETA WITH TONOS"),
  (0x3AF, 1, "GREEK SMALL LETTER ", "IOTA WITH TONOS,UPSILON WITH DIALYTIKA AND TONOS,ALPHA,BETA"),
  (0x3B3, 1, "GREEK SMALL LETTER ", "GAMMA,DELTA,EPSILON,ZETA,ETA,THETA,IOTA,KAPPA,LAMDA,MU,NU,XI"),
  (0x3BF, 1, "GREEK SMALL LETTER ", "OMICRON,PI,RHO,FINAL SIGMA,SIGMA,TAU,UPSILON,PHI,CHI,PSI"),
  (0x3C9, 1, "GREEK SMALL LETTER ", "OMEGA,IOTA WITH DIALYTIKA,UPSILON WITH DIALYTIKA"),
  (0x3CC, 1, "GREEK SMALL LETTER ", "OMICRON WITH TONOS,UPSILON WITH TONOS,OMEGA WITH TONOS"),
  (0x3CF, 1, "", "GREEK CAPITAL KAI SYMBOL"),
  (0x400, 1, "CYRILLIC CAPITAL LETTER ", "IE WITH GRAVE,IO,DJE,GJE,UKRAINIAN IE,DZE"),
  (0x406, 1, "CYRILLIC CAPITAL LETTER ", "BYELORUSSIAN-UKRAINIAN I,YI,JE,LJE,NJE,TSHE,KJE"),
  (0x40D, 1, "CYRILLIC CAPITAL LETTER ", "I WITH GRAVE,SHORT U,DZHE,A,BE,VE,GHE,DE,IE,ZHE,ZE,I"),
  (0x419, 1, "CYRILLIC CAPITAL LETTER ", "SHORT I,KA,EL,EM,EN,O,PE,ER,ES,TE,U,EF,HA,TSE,CHE,SHA"),
  (0x429, 1, "CYRILLIC CAPITAL LETTER ", "SHCHA,HARD SIGN,YERU,SOFT SIGN,E,YU,YA"),
  (0x430, 1, "CYRILLIC SMALL LETTER ", "A,BE,VE,GHE,DE,IE,ZHE,ZE,I,SHORT I,KA,EL,EM,EN,O,PE,ER,ES"),
  (0x442, 1, "CYRILLIC SMALL LETTER ", "TE,U,EF,HA,TSE,CHE,SHA,SHCHA,HARD SIGN,YERU,SOFT SIGN,E"),
  (0x44E, 1, "CYRILLIC SMALL LETTER ", "YU,YA,IE WITH GRAVE,IO,DJE,GJE,UKRAINIAN IE,DZE"),
  (0x456, 1, "CYRILLIC SMALL LETTER ", "BYELORUSSIAN-UKRAINIAN I,YI,JE,LJE,NJE,TSHE,KJE"),
  (0x45D, 1, "CYRILLIC SMALL LETTER ", "I WITH GRAVE,SHORT U,DZHE"),
  (0x2000, 1, "", "EN QUAD,EM QUAD,EN SPACE,EM SPACE,THREE-PER-EM SPACE,FOUR-PER-EM SPACE"),
  (0x2006, 1, "", "SIX-PER-EM SPACE,FIGURE SPACE,PUNCTUATION SPACE,THIN SPACE,HAIR SPACE"),
  (0x200B, 1, "", "ZERO WIDTH SPACE,ZERO WIDTH NON-JOINER,ZERO WIDTH JOINER,LEFT-TO-RIGHT MARK"),
  (0x200F, 1, "", "RIGHT-TO-LEFT MARK,HYPHEN,NON-BREAKING HYPHEN,FIGURE DASH,EN DASH,EM DASH"),
  (0x2015, 1, "", "HORIZONTAL BAR,DOUBLE VERTICAL LINE,DOUBLE LOW LINE,LEFT SINGLE QUOTATION MARK"),
  (0x2019, 1, "", "RIGHT SINGLE QUOTATION MARK,SINGLE LOW-9 QUOTATION MARK"),
  (0x201B, 1, "", "SINGLE HIGH-REVERSED-9 QUOTATION MARK,LEFT DOUBLE QUOTATION MARK"),
  (0x201D, 1, "", "RIGHT DOUBLE QUOTATION MARK,DOUBLE LOW-9 QUOTATION MARK"),
  (0x201F, 1, "", "DOUBLE HIGH-REVERSED-9 QUOTATION MARK,DAGGER,DOUBLE DAGGER,BULLET"),
  (0x2023, 1, "", "TRIANGULAR BULLET,ONE DOT LEADER,TWO DOT LEADER,HORIZONTAL ELLIPSIS"),
  (0x2027, 1, "", "HYPHENATION POINT,LINE SEPARATOR,PARAGRAPH SEPARATOR,LEFT-TO-RIGHT EMBEDDING"),
  (0x202B, 1, "", "RIGHT-TO-LEFT EMBEDDING,POP DIRECTIONAL FORMATTING,LEFT-TO-RIGHT OVERRIDE"),
  (0x202E, 1, "", "RIGHT-TO-LEFT OVERRIDE,NARROW NO-BREAK SPACE,PER MILLE SIGN"),
  (0x2031, 1, "", "PER TEN THOUSAND SIGN,PRIME,DOUBLE PRIME,TRIPLE PRIME,REVERSED PRIME"),
  (0x2036, 1, "", "REVERSED DOUBLE PRIME,REVERSED TRIPLE PRIME,CARET"),
  (0x2039, 1, "", "SINGLE LEFT-POINTING ANGLE QUOTATION MARK"),
  (0x203A, 1, "", "SINGLE RIGHT-POINTING ANGLE QUOTATION MARK,REFERENCE MARK"),
  (0x203C, 1, "", "DOUBLE EXCLAMATION MARK,INTERROBANG,OVERLINE,UNDERTIE,CHARACTER TIE"),
  (0x2041, 1, "", "CARET INSERTION POINT,ASTERISM,HYPHEN BULLET,FRACTION SLASH"),
  (0x2045, 1, "", "LEFT SQUARE BRACKET WITH QUILL,RIGHT SQUARE BRACKET WITH QUILL"),
  (0x2047, 1, "", "DOUBLE QUESTION MARK,QUESTION EXCLAMATION MARK,EXCLAMATION QUESTION MARK"),
  (0x204A, 1, "", "TIRONIAN SIGN ET,REVERSED PILCROW SIGN,BLACK LEFTWARDS BULLET"),
  (0x204D, 1, "", "BLACK RIGHTWARDS BULLET,LOW ASTERISK,REVERSED SEMICOLON,CLOSE UP"),
  (0x2051, 1, "", "TWO ASTERISKS ALIGNED VERTICALLY,COMMERCIAL MINUS SIGN,SWUNG DASH"),
  (0x2054, 1, "", "INVERTED UNDERTIE,FLOWER PUNCTUATION MARK,THREE DOT PUNCTUATION"),
  (0x2057, 1, "", "QUADRUPLE PRIME,FOUR DOT PUNCTUATION,FIVE DOT PUNCTUATION,TWO DOT PUNCTUATION"),
  (0x205B, 1, "", "FOUR DOT MARK,DOTTED CROSS,TRICOLON,VERTICAL FOUR DOTS"),
  (0x205F, 1, "", "MEDIUM MATHEMATICAL SPACE,WORD JOINER,FUNCTION APPLICATION,INVISIBLE TIMES"),
  (0x2063, 1, "", "INVISIBLE SEPARATOR,INVISIBLE PLUS"),
  (0x2066, 1, "", "LEFT-TO-RIGHT ISOLATE,RIGHT-TO-LEFT ISOLATE,FIRST STRONG ISOLATE"),
  (0x2069, 1, "", "POP DIRECTIONAL ISOLATE,INHIBIT SYMMETRIC SWAPPING,ACTIVATE SYMMETRIC SWAPPING"),
  (0x206C, 1, "", "INHIBIT ARABIC FORM SHAPING,ACTIVATE ARABIC FORM SHAPING,NATIONAL DIGIT SHAPES"),
  (0x206F, 1, "", "NOMINAL DIGIT SHAPES"), (0x20AC, 1, "", "EURO SIGN"),
  (0x2122, 1, "", "TRADE MARK SIGN")]

/-- Other names. -/
def otherNames : Array (String × Nat) :=
  #[("NULL", 0x0), ("NUL", 0x0), ("START OF HEADING", 0x1), ("SOH", 0x1), ("START OF TEXT", 0x2),
  ("STX", 0x2), ("END OF TEXT", 0x3), ("ETX", 0x3), ("END OF TRANSMISSION", 0x4), ("EOT", 0x4),
  ("ENQUIRY", 0x5), ("ENQ", 0x5), ("ACKNOWLEDGE", 0x6), ("ACK", 0x6), ("ALERT", 0x7), ("BEL", 0x7),
  ("BACKSPACE", 0x8), ("BS", 0x8), ("CHARACTER TABULATION", 0x9), ("HT", 0x9),
  ("HORIZONTAL TABULATION", 0x9), ("TAB", 0x9), ("LINE FEED", 0xA), ("LF", 0xA), ("NEW LINE", 0xA),
  ("NL", 0xA), ("END OF LINE", 0xA), ("EOL", 0xA), ("LINE TABULATION", 0xB), ("VT", 0xB),
  ("VERTICAL TABULATION", 0xB), ("FORM FEED", 0xC), ("FF", 0xC), ("CARRIAGE RETURN", 0xD),
  ("CR", 0xD), ("SHIFT OUT", 0xE), ("SO", 0xE), ("LOCKING-SHIFT ONE", 0xE), ("SHIFT IN", 0xF),
  ("SI", 0xF), ("LOCKING-SHIFT ZERO", 0xF), ("DATA LINK ESCAPE", 0x10), ("DLE", 0x10),
  ("DEVICE CONTROL ONE", 0x11), ("DC1", 0x11), ("DEVICE CONTROL TWO", 0x12), ("DC2", 0x12),
  ("DEVICE CONTROL THREE", 0x13), ("DC3", 0x13), ("DEVICE CONTROL FOUR", 0x14), ("DC4", 0x14),
  ("NEGATIVE ACKNOWLEDGE", 0x15), ("NAK", 0x15), ("SYNCHRONOUS IDLE", 0x16), ("SYN", 0x16),
  ("END OF TRANSMISSION BLOCK", 0x17), ("ETB", 0x17), ("CANCEL", 0x18), ("CAN", 0x18),
  ("END OF MEDIUM", 0x19), ("EOM", 0x19), ("SUBSTITUTE", 0x1A), ("SUB", 0x1A), ("ESCAPE", 0x1B),
  ("ESC", 0x1B), ("INFORMATION SEPARATOR FOUR", 0x1C), ("FS", 0x1C), ("FILE SEPARATOR", 0x1C),
  ("INFORMATION SEPARATOR THREE", 0x1D), ("GS", 0x1D), ("GROUP SEPARATOR", 0x1D),
  ("INFORMATION SEPARATOR TWO", 0x1E), ("RS", 0x1E), ("RECORD SEPARATOR", 0x1E),
  ("INFORMATION SEPARATOR ONE", 0x1F), ("US", 0x1F), ("UNIT SEPARATOR", 0x1F), ("SP", 0x20),
  ("DELETE", 0x7F), ("DEL", 0x7F), ("PADDING CHARACTER", 0x80), ("PAD", 0x80),
  ("HIGH OCTET PRESET", 0x81), ("HOP", 0x81), ("BREAK PERMITTED HERE", 0x82), ("BPH", 0x82),
  ("NO BREAK HERE", 0x83), ("NBH", 0x83), ("INDEX", 0x84), ("IND", 0x84), ("NEXT LINE", 0x85),
  ("NEL", 0x85), ("START OF SELECTED AREA", 0x86), ("SSA", 0x86), ("END OF SELECTED AREA", 0x87),
  ("ESA", 0x87), ("CHARACTER TABULATION SET", 0x88), ("HTS", 0x88),
  ("HORIZONTAL TABULATION SET", 0x88), ("CHARACTER TABULATION WITH JUSTIFICATION", 0x89),
  ("HTJ", 0x89), ("HORIZONTAL TABULATION WITH JUSTIFICATION", 0x89), ("LINE TABULATION SET", 0x8A),
  ("VTS", 0x8A), ("VERTICAL TABULATION SET", 0x8A), ("PARTIAL LINE FORWARD", 0x8B), ("PLD", 0x8B),
  ("PARTIAL LINE DOWN", 0x8B), ("PARTIAL LINE BACKWARD", 0x8C), ("PLU", 0x8C),
  ("PARTIAL LINE UP", 0x8C), ("REVERSE LINE FEED", 0x8D), ("RI", 0x8D), ("REVERSE INDEX", 0x8D),
  ("SINGLE SHIFT TWO", 0x8E), ("SS2", 0x8E), ("SINGLE-SHIFT-2", 0x8E), ("SINGLE SHIFT THREE", 0x8F),
  ("SS3", 0x8F), ("SINGLE-SHIFT-3", 0x8F), ("DEVICE CONTROL STRING", 0x90), ("DCS", 0x90),
  ("PRIVATE USE ONE", 0x91), ("PU1", 0x91), ("PRIVATE USE-1", 0x91), ("PRIVATE USE TWO", 0x92),
  ("PU2", 0x92), ("PRIVATE USE-2", 0x92), ("SET TRANSMIT STATE", 0x93), ("STS", 0x93),
  ("CANCEL CHARACTER", 0x94), ("CCH", 0x94), ("MESSAGE WAITING", 0x95), ("MW", 0x95),
  ("START OF GUARDED AREA", 0x96), ("SPA", 0x96), ("START OF PROTECTED AREA", 0x96),
  ("END OF GUARDED AREA", 0x97), ("EPA", 0x97), ("END OF PROTECTED AREA", 0x97),
  ("START OF STRING", 0x98), ("SOS", 0x98), ("SINGLE GRAPHIC CHARACTER INTRODUCER", 0x99),
  ("SGC", 0x99), ("SINGLE CHARACTER INTRODUCER", 0x9A), ("SCI", 0x9A),
  ("CONTROL SEQUENCE INTRODUCER", 0x9B), ("CSI", 0x9B), ("STRING TERMINATOR", 0x9C), ("ST", 0x9C),
  ("OPERATING SYSTEM COMMAND", 0x9D), ("OSC", 0x9D), ("PRIVACY MESSAGE", 0x9E), ("PM", 0x9E),
  ("APPLICATION PROGRAM COMMAND", 0x9F), ("APC", 0x9F), ("NBSP", 0xA0), ("SHY", 0xAD),
  ("ZWSP", 0x200B), ("ZWNJ", 0x200C), ("ZWJ", 0x200D), ("LRM", 0x200E), ("RLM", 0x200F),
  ("LRE", 0x202A), ("RLE", 0x202B), ("PDF", 0x202C), ("LRO", 0x202D), ("RLO", 0x202E),
  ("NNBSP", 0x202F), ("MMSP", 0x205F), ("WJ", 0x2060), ("LRI", 0x2066), ("RLI", 0x2067),
  ("FSI", 0x2068), ("PDI", 0x2069), ("BOM", 0xFEFF), ("BYTE ORDER MARK", 0xFEFF),
  ("ZWNBSP", 0xFEFF), ("ZERO WIDTH NO-BREAK SPACE", 0xFEFF), ("REPLACEMENT CHARACTER", 0xFFFD)]

/-- What comes after a beginning, if a text has that beginning. -/
def after? (beginning : String) (cs : List Char) : Option (List Char) :=
  if beginning.toList.isPrefixOf cs then some (cs.drop beginning.length) else none

/-- The code point that a row has under a name. -/
def NameRow.point? (row : NameRow) (name : List Char) : Option Nat :=
  let (first, stride, beginning, rest) := row
  (after? beginning name).bind fun ending ↦
    ((rest.splitOn ",").idxOf? (String.ofList ending)).map (first + stride * ·)

/-- The code point of a name that is in capitals. -/
def listedPoint? (name : List Char) : Option Nat :=
  (nameRows.findSome? fun row ↦ row.point? name).or
    ((otherNames.find? fun entry ↦ entry.1 = String.ofList name).map Prod.snd)

/-- The ideographs whose names are their numbers. -/
def numberedIdeographs : Array (Nat × Nat) :=
  #[(0x3400, 0x4DBF), (0x4E00, 0x9FFF), (0x20000, 0x2A6DF), (0x2A700, 0x2B738), (0x2B740, 0x2B81D),
  (0x2B820, 0x2CEA1), (0x2CEB0, 0x2EBE0), (0x30000, 0x3134A)]

/-- The code point of an ideograph by its number, which has four or five digits in capitals. -/
def ideograph? (name : List Char) : Option Nat := do
  let digits ← after? "CJK UNIFIED IDEOGRAPH-" name
  let point := Numeral.ofDigits 16 (digits.filterMap (Numeral.digitBelow? 16))
  let isWritten := [4, 5].any fun count ↦ Numeral.hexDigits count point = digits
  if isWritten && numberedIdeographs.any fun run ↦ run.1 ≤ point && point ≤ run.2 then
    return point
  else none

/-- The code point of a wide form: its name is that of the narrow character after a word. -/
def wideForm? (name : List Char) : Option Nat := do
  let point ← listedPoint? (← after? "FULLWIDTH " name)
  if 0x21 ≤ point ∧ point ≤ 0x7E then return point + 0xFEE0 else none

/-- The code point of a name. Case matters in the names of ideographs only. -/
def namedPoint? (name : List Char) : Option Nat :=
  let capitals := name.map Char.toUpper
  (ideograph? name).or ((listedPoint? capitals).or (wideForm? capitals))

end Cosmac.Text
