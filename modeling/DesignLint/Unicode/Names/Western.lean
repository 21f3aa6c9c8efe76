/-! # Names of characters from U+0000 to U+0FFF -/

namespace DesignLint.Unicode.Names

def westernNames : String :=
  "@20
0 SPACE
0 EXCLAMATION MARK
0 QUOTATION MARK
0 NUMBER SIGN
0 DOLLAR SIGN
0 PERCENT SIGN
0 AMPERSAND
0 APOSTROPHE
0 LEFT PARENTHESIS
0 RIGHT PARENTHESIS
0 ASTERISK
0 PLUS SIGN
0 COMMA
0 HYPHEN-MINUS
0 FULL STOP
0 SOLIDUS
0 DIGIT ZERO
1 ONE
1 TWO
1 THREE
1 FOUR
1 FIVE
1 SIX
1 SEVEN
1 EIGHT
1 NINE
0 COLON
0 SEMICOLON
0 LESS-THAN SIGN
0 EQUALS SIGN
0 GREATER-THAN SIGN
0 QUESTION MARK
0 COMMERCIAL AT
0 LATIN CAPITAL LETTER A
3 B
3 C
3 D
3 E
3 F
3 G
3 H
3 I
3 J
3 K
3 L
3 M
3 N
3 O
3 P
3 Q
3 R
3 S
3 T
3 U
3 V
3 W
3 X
3 Y
3 Z
0 LEFT SQUARE BRACKET
0 REVERSE SOLIDUS
0 RIGHT SQUARE BRACKET
0 CIRCUMFLEX ACCENT
0 LOW LINE
0 GRAVE ACCENT
0 LATIN SMALL LETTER A
3 B
3 C
3 D
3 E
3 F
3 G
3 H
3 I
3 J
3 K
3 L
3 M
3 N
3 O
3 P
3 Q
3 R
3 S
3 T
3 U
3 V
3 W
3 X
3 Y
3 Z
0 LEFT CURLY BRACKET
0 VERTICAL LINE
0 RIGHT CURLY BRACKET
0 TILDE
@A0
0 NO-BREAK SPACE
0 INVERTED EXCLAMATION MARK
0 CENT SIGN
0 POUND SIGN
0 CURRENCY SIGN
0 YEN SIGN
0 BROKEN BAR
0 SECTION SIGN
0 DIAERESIS
0 COPYRIGHT SIGN
0 FEMININE ORDINAL INDICATOR
0 LEFT-POINTING DOUBLE ANGLE QUOTATION MARK
0 NOT SIGN
0 SOFT HYPHEN
0 REGISTERED SIGN
0 MACRON
0 DEGREE SIGN
0 PLUS-MINUS SIGN
0 SUPERSCRIPT TWO
1 THREE
0 ACUTE ACCENT
0 MICRO SIGN
0 PILCROW SIGN
0 MIDDLE DOT
0 CEDILLA
0 SUPERSCRIPT ONE
0 MASCULINE ORDINAL INDICATOR
0 RIGHT-POINTING DOUBLE ANGLE QUOTATION MARK
0 VULGAR FRACTION ONE QUARTER
3 HALF
2 THREE QUARTERS
0 INVERTED QUESTION MARK
0 LATIN CAPITAL LETTER A WITH GRAVE
5 ACUTE
5 CIRCUMFLEX
5 TILDE
5 DIAERESIS
5 RING ABOVE
3 AE
3 C WITH CEDILLA
3 E WITH GRAVE
5 ACUTE
5 CIRCUMFLEX
5 DIAERESIS
3 I WITH GRAVE
5 ACUTE
5 CIRCUMFLEX
5 DIAERESIS
3 ETH
3 N WITH TILDE
3 O WITH GRAVE
5 ACUTE
5 CIRCUMFLEX
5 TILDE
5 DIAERESIS
0 MULTIPLICATION SIGN
0 LATIN CAPITAL LETTER O WITH STROKE
3 U WITH GRAVE
5 ACUTE
5 CIRCUMFLEX
5 DIAERESIS
3 Y WITH ACUTE
3 THORN
1 SMALL LETTER SHARP S
3 A WITH GRAVE
5 ACUTE
5 CIRCUMFLEX
5 TILDE
5 DIAERESIS
5 RING ABOVE
3 AE
3 C WITH CEDILLA
3 E WITH GRAVE
5 ACUTE
5 CIRCUMFLEX
5 DIAERESIS
3 I WITH GRAVE
5 ACUTE
5 CIRCUMFLEX
5 DIAERESIS
3 ETH
3 N WITH TILDE
3 O WITH GRAVE
5 ACUTE
5 CIRCUMFLEX
5 TILDE
5 DIAERESIS
0 DIVISION SIGN
0 LATIN SMALL LETTER O WITH STROKE
3 U WITH GRAVE
5 ACUTE
5 CIRCUMFLEX
5 DIAERESIS
3 Y WITH ACUTE
3 THORN
3 Y WITH DIAERESIS
1 CAPITAL LETTER A WITH MACRON
1 SMALL LETTER A WITH MACRON
1 CAPITAL LETTER A WITH BREVE
1 SMALL LETTER A WITH BREVE
1 CAPITAL LETTER A WITH OGONEK
1 SMALL LETTER A WITH OGONEK
1 CAPITAL LETTER C WITH ACUTE
1 SMALL LETTER C WITH ACUTE
1 CAPITAL LETTER C WITH CIRCUMFLEX
1 SMALL LETTER C WITH CIRCUMFLEX
1 CAPITAL LETTER C WITH DOT ABOVE
1 SMALL LETTER C WITH DOT ABOVE
1 CAPITAL LETTER C WITH CARON
1 SMALL LETTER C WITH CARON
1 CAPITAL LETTER D WITH CARON
1 SMALL LETTER D WITH CARON
1 CAPITAL LETTER D WITH STROKE
1 SMALL LETTER D WITH STROKE
1 CAPITAL LETTER E WITH MACRON
1 SMALL LETTER E WITH MACRON
1 CAPITAL LETTER E WITH BREVE
1 SMALL LETTER E WITH BREVE
1 CAPITAL LETTER E WITH DOT ABOVE
1 SMALL LETTER E WITH DOT ABOVE
1 CAPITAL LETTER E WITH OGONEK
1 SMALL LETTER E WITH OGONEK
1 CAPITAL LETTER E WITH CARON
1 SMALL LETTER E WITH CARON
1 CAPITAL LETTER G WITH CIRCUMFLEX
1 SMALL LETTER G WITH CIRCUMFLEX
1 CAPITAL LETTER G WITH BREVE
1 SMALL LETTER G WITH BREVE
1 CAPITAL LETTER G WITH DOT ABOVE
1 SMALL LETTER G WITH DOT ABOVE
1 CAPITAL LETTER G WITH CEDILLA
1 SMALL LETTER G WITH CEDILLA
1 CAPITAL LETTER H WITH CIRCUMFLEX
1 SMALL LETTER H WITH CIRCUMFLEX
1 CAPITAL LETTER H WITH STROKE
1 SMALL LETTER H WITH STROKE
1 CAPITAL LETTER I WITH TILDE
1 SMALL LETTER I WITH TILDE
1 CAPITAL LETTER I WITH MACRON
1 SMALL LETTER I WITH MACRON
1 CAPITAL LETTER I WITH BREVE
1 SMALL LETTER I WITH BREVE
1 CAPITAL LETTER I WITH OGONEK
1 SMALL LETTER I WITH OGONEK
1 CAPITAL LETTER I WITH DOT ABOVE
1 SMALL LETTER DOTLESS I
1 CAPITAL LIGATURE IJ
1 SMALL LIGATURE IJ
1 CAPITAL LETTER J WITH CIRCUMFLEX
1 SMALL LETTER J WITH CIRCUMFLEX
1 CAPITAL LETTER K WITH CEDILLA
1 SMALL LETTER K WITH CEDILLA
3 KRA
1 CAPITAL LETTER L WITH ACUTE
1 SMALL LETTER L WITH ACUTE
1 CAPITAL LETTER L WITH CEDILLA
1 SMALL LETTER L WITH CEDILLA
1 CAPITAL LETTER L WITH CARON
1 SMALL LETTER L WITH CARON
1 CAPITAL LETTER L WITH MIDDLE DOT
1 SMALL LETTER L WITH MIDDLE DOT
1 CAPITAL LETTER L WITH STROKE
1 SMALL LETTER L WITH STROKE
1 CAPITAL LETTER N WITH ACUTE
1 SMALL LETTER N WITH ACUTE
1 CAPITAL LETTER N WITH CEDILLA
1 SMALL LETTER N WITH CEDILLA
1 CAPITAL LETTER N WITH CARON
1 SMALL LETTER N WITH CARON
4 PRECEDED BY APOSTROPHE
1 CAPITAL LETTER ENG
1 SMALL LETTER ENG
1 CAPITAL LETTER O WITH MACRON
1 SMALL LETTER O WITH MACRON
1 CAPITAL LETTER O WITH BREVE
1 SMALL LETTER O WITH BREVE
1 CAPITAL LETTER O WITH DOUBLE ACUTE
1 SMALL LETTER O WITH DOUBLE ACUTE
1 CAPITAL LIGATURE OE
1 SMALL LIGATURE OE
1 CAPITAL LETTER R WITH ACUTE
1 SMALL LETTER R WITH ACUTE
1 CAPITAL LETTER R WITH CEDILLA
1 SMALL LETTER R WITH CEDILLA
1 CAPITAL LETTER R WITH CARON
1 SMALL LETTER R WITH CARON
1 CAPITAL LETTER S WITH ACUTE
1 SMALL LETTER S WITH ACUTE
1 CAPITAL LETTER S WITH CIRCUMFLEX
1 SMALL LETTER S WITH CIRCUMFLEX
1 CAPITAL LETTER S WITH CEDILLA
1 SMALL LETTER S WITH CEDILLA
1 CAPITAL LETTER S WITH CARON
1 SMALL LETTER S WITH CARON
1 CAPITAL LETTER T WITH CEDILLA
1 SMALL LETTER T WITH CEDILLA
1 CAPITAL LETTER T WITH CARON
1 SMALL LETTER T WITH CARON
1 CAPITAL LETTER T WITH STROKE
1 SMALL LETTER T WITH STROKE
1 CAPITAL LETTER U WITH TILDE
1 SMALL LETTER U WITH TILDE
1 CAPITAL LETTER U WITH MACRON
1 SMALL LETTER U WITH MACRON
1 CAPITAL LETTER U WITH BREVE
1 SMALL LETTER U WITH BREVE
1 CAPITAL LETTER U WITH RING ABOVE
1 SMALL LETTER U WITH RING ABOVE
1 CAPITAL LETTER U WITH DOUBLE ACUTE
1 SMALL LETTER U WITH DOUBLE ACUTE
1 CAPITAL LETTER U WITH OGONEK
1 SMALL LETTER U WITH OGONEK
1 CAPITAL LETTER W WITH CIRCUMFLEX
1 SMALL LETTER W WITH CIRCUMFLEX
1 CAPITAL LETTER Y WITH CIRCUMFLEX
1 SMALL LETTER Y WITH CIRCUMFLEX
1 CAPITAL LETTER Y WITH DIAERESIS
3 Z WITH ACUTE
1 SMALL LETTER Z WITH ACUTE
1 CAPITAL LETTER Z WITH DOT ABOVE
1 SMALL LETTER Z WITH DOT ABOVE
1 CAPITAL LETTER Z WITH CARON
1 SMALL LETTER Z WITH CARON
3 LONG S
3 B WITH STROKE
1 CAPITAL LETTER B WITH HOOK
5 TOPBAR
1 SMALL LETTER B WITH TOPBAR
1 CAPITAL LETTER TONE SIX
1 SMALL LETTER TONE SIX
1 CAPITAL LETTER OPEN O
3 C WITH HOOK
1 SMALL LETTER C WITH HOOK
1 CAPITAL LETTER AFRICAN D
3 D WITH HOOK
5 TOPBAR
1 SMALL LETTER D WITH TOPBAR
3 TURNED DELTA
1 CAPITAL LETTER REVERSED E
3 SCHWA
3 OPEN E
3 F WITH HOOK
1 SMALL LETTER F WITH HOOK
1 CAPITAL LETTER G WITH HOOK
3 GAMMA
1 SMALL LETTER HV
1 CAPITAL LETTER IOTA
3 I WITH STROKE
3 K WITH HOOK
1 SMALL LETTER K WITH HOOK
3 L WITH BAR
3 LAMBDA WITH STROKE
1 CAPITAL LETTER TURNED M
3 N WITH LEFT HOOK
1 SMALL LETTER N WITH LONG RIGHT LEG
1 CAPITAL LETTER O WITH MIDDLE TILDE
5 HORN
1 SMALL LETTER O WITH HORN
1 CAPITAL LETTER OI
1 SMALL LETTER OI
1 CAPITAL LETTER P WITH HOOK
1 SMALL LETTER P WITH HOOK
1 LETTER YR
1 CAPITAL LETTER TONE TWO
1 SMALL LETTER TONE TWO
1 CAPITAL LETTER ESH
1 LETTER REVERSED ESH LOOP
1 SMALL LETTER T WITH PALATAL HOOK
1 CAPITAL LETTER T WITH HOOK
1 SMALL LETTER T WITH HOOK
1 CAPITAL LETTER T WITH RETROFLEX HOOK
3 U WITH HORN
1 SMALL LETTER U WITH HORN
1 CAPITAL LETTER UPSILON
3 V WITH HOOK
3 Y WITH HOOK
1 SMALL LETTER Y WITH HOOK
1 CAPITAL LETTER Z WITH STROKE
1 SMALL LETTER Z WITH STROKE
1 CAPITAL LETTER EZH
4 REVERSED
1 SMALL LETTER EZH REVERSED
4 WITH TAIL
1 LETTER TWO WITH STROKE
1 CAPITAL LETTER TONE FIVE
1 SMALL LETTER TONE FIVE
1 LETTER INVERTED GLOTTAL STOP WITH STROKE
2 WYNN
2 DENTAL CLICK
2 LATERAL CLICK
2 ALVEOLAR CLICK
2 RETROFLEX CLICK
1 CAPITAL LETTER DZ WITH CARON
3 D WITH SMALL LETTER Z WITH CARON
1 SMALL LETTER DZ WITH CARON
1 CAPITAL LETTER LJ
3 L WITH SMALL LETTER J
1 SMALL LETTER LJ
1 CAPITAL LETTER NJ
3 N WITH SMALL LETTER J
1 SMALL LETTER NJ
1 CAPITAL LETTER A WITH CARON
1 SMALL LETTER A WITH CARON
1 CAPITAL LETTER I WITH CARON
1 SMALL LETTER I WITH CARON
1 CAPITAL LETTER O WITH CARON
1 SMALL LETTER O WITH CARON
1 CAPITAL LETTER U WITH CARON
1 SMALL LETTER U WITH CARON
1 CAPITAL LETTER U WITH DIAERESIS AND MACRON
1 SMALL LETTER U WITH DIAERESIS AND MACRON
1 CAPITAL LETTER U WITH DIAERESIS AND ACUTE
1 SMALL LETTER U WITH DIAERESIS AND ACUTE
1 CAPITAL LETTER U WITH DIAERESIS AND CARON
1 SMALL LETTER U WITH DIAERESIS AND CARON
1 CAPITAL LETTER U WITH DIAERESIS AND GRAVE
1 SMALL LETTER U WITH DIAERESIS AND GRAVE
3 TURNED E
1 CAPITAL LETTER A WITH DIAERESIS AND MACRON
1 SMALL LETTER A WITH DIAERESIS AND MACRON
1 CAPITAL LETTER A WITH DOT ABOVE AND MACRON
1 SMALL LETTER A WITH DOT ABOVE AND MACRON
1 CAPITAL LETTER AE WITH MACRON
1 SMALL LETTER AE WITH MACRON
1 CAPITAL LETTER G WITH STROKE
1 SMALL LETTER G WITH STROKE
1 CAPITAL LETTER G WITH CARON
1 SMALL LETTER G WITH CARON
1 CAPITAL LETTER K WITH CARON
1 SMALL LETTER K WITH CARON
1 CAPITAL LETTER O WITH OGONEK
1 SMALL LETTER O WITH OGONEK
1 CAPITAL LETTER O WITH OGONEK AND MACRON
1 SMALL LETTER O WITH OGONEK AND MACRON
1 CAPITAL LETTER EZH WITH CARON
1 SMALL LETTER EZH WITH CARON
3 J WITH CARON
1 CAPITAL LETTER DZ
3 D WITH SMALL LETTER Z
1 SMALL LETTER DZ
1 CAPITAL LETTER G WITH ACUTE
1 SMALL LETTER G WITH ACUTE
1 CAPITAL LETTER HWAIR
3 WYNN
3 N WITH GRAVE
1 SMALL LETTER N WITH GRAVE
1 CAPITAL LETTER A WITH RING ABOVE AND ACUTE
1 SMALL LETTER A WITH RING ABOVE AND ACUTE
1 CAPITAL LETTER AE WITH ACUTE
1 SMALL LETTER AE WITH ACUTE
1 CAPITAL LETTER O WITH STROKE AND ACUTE
1 SMALL LETTER O WITH STROKE AND ACUTE
1 CAPITAL LETTER A WITH DOUBLE GRAVE
1 SMALL LETTER A WITH DOUBLE GRAVE
1 CAPITAL LETTER A WITH INVERTED BREVE
1 SMALL LETTER A WITH INVERTED BREVE
1 CAPITAL LETTER E WITH DOUBLE GRAVE
1 SMALL LETTER E WITH DOUBLE GRAVE
1 CAPITAL LETTER E WITH INVERTED BREVE
1 SMALL LETTER E WITH INVERTED BREVE
1 CAPITAL LETTER I WITH DOUBLE GRAVE
1 SMALL LETTER I WITH DOUBLE GRAVE
1 CAPITAL LETTER I WITH INVERTED BREVE
1 SMALL LETTER I WITH INVERTED BREVE
1 CAPITAL LETTER O WITH DOUBLE GRAVE
1 SMALL LETTER O WITH DOUBLE GRAVE
1 CAPITAL LETTER O WITH INVERTED BREVE
1 SMALL LETTER O WITH INVERTED BREVE
1 CAPITAL LETTER R WITH DOUBLE GRAVE
1 SMALL LETTER R WITH DOUBLE GRAVE
1 CAPITAL LETTER R WITH INVERTED BREVE
1 SMALL LETTER R WITH INVERTED BREVE
1 CAPITAL LETTER U WITH DOUBLE GRAVE
1 SMALL LETTER U WITH DOUBLE GRAVE
1 CAPITAL LETTER U WITH INVERTED BREVE
1 SMALL LETTER U WITH INVERTED BREVE
1 CAPITAL LETTER S WITH COMMA BELOW
1 SMALL LETTER S WITH COMMA BELOW
1 CAPITAL LETTER T WITH COMMA BELOW
1 SMALL LETTER T WITH COMMA BELOW
1 CAPITAL LETTER YOGH
1 SMALL LETTER YOGH
1 CAPITAL LETTER H WITH CARON
1 SMALL LETTER H WITH CARON
1 CAPITAL LETTER N WITH LONG RIGHT LEG
1 SMALL LETTER D WITH CURL
1 CAPITAL LETTER OU
1 SMALL LETTER OU
1 CAPITAL LETTER Z WITH HOOK
1 SMALL LETTER Z WITH HOOK
1 CAPITAL LETTER A WITH DOT ABOVE
1 SMALL LETTER A WITH DOT ABOVE
1 CAPITAL LETTER E WITH CEDILLA
1 SMALL LETTER E WITH CEDILLA
1 CAPITAL LETTER O WITH DIAERESIS AND MACRON
1 SMALL LETTER O WITH DIAERESIS AND MACRON
1 CAPITAL LETTER O WITH TILDE AND MACRON
1 SMALL LETTER O WITH TILDE AND MACRON
1 CAPITAL LETTER O WITH DOT ABOVE
1 SMALL LETTER O WITH DOT ABOVE
1 CAPITAL LETTER O WITH DOT ABOVE AND MACRON
1 SMALL LETTER O WITH DOT ABOVE AND MACRON
1 CAPITAL LETTER Y WITH MACRON
1 SMALL LETTER Y WITH MACRON
3 L WITH CURL
3 N WITH CURL
3 T WITH CURL
3 DOTLESS J
3 DB DIGRAPH
3 QP DIGRAPH
1 CAPITAL LETTER A WITH STROKE
3 C WITH STROKE
1 SMALL LETTER C WITH STROKE
1 CAPITAL LETTER L WITH BAR
3 T WITH DIAGONAL STROKE
1 SMALL LETTER S WITH SWASH TAIL
3 Z WITH SWASH TAIL
1 CAPITAL LETTER GLOTTAL STOP
1 SMALL LETTER GLOTTAL STOP
1 CAPITAL LETTER B WITH STROKE
3 U BAR
3 TURNED V
3 E WITH STROKE
1 SMALL LETTER E WITH STROKE
1 CAPITAL LETTER J WITH STROKE
1 SMALL LETTER J WITH STROKE
1 CAPITAL LETTER SMALL Q WITH HOOK TAIL
1 SMALL LETTER Q WITH HOOK TAIL
1 CAPITAL LETTER R WITH STROKE
1 SMALL LETTER R WITH STROKE
1 CAPITAL LETTER Y WITH STROKE
1 SMALL LETTER Y WITH STROKE
3 TURNED A
3 ALPHA
3 TURNED ALPHA
3 B WITH HOOK
3 OPEN O
3 C WITH CURL
3 D WITH TAIL
5 HOOK
3 REVERSED E
3 SCHWA
4 WITH HOOK
3 OPEN E
3 REVERSED OPEN E
6 WITH HOOK
3 CLOSED REVERSED OPEN E
3 DOTLESS J WITH STROKE
3 G WITH HOOK
3 SCRIPT G
1 LETTER SMALL CAPITAL G
1 SMALL LETTER GAMMA
3 RAMS HORN
3 TURNED H
3 H WITH HOOK
3 HENG WITH HOOK
3 I WITH STROKE
3 IOTA
1 LETTER SMALL CAPITAL I
1 SMALL LETTER L WITH MIDDLE TILDE
5 BELT
5 RETROFLEX HOOK
3 LEZH
3 TURNED M
5 WITH LONG LEG
3 M WITH HOOK
3 N WITH LEFT HOOK
5 RETROFLEX HOOK
1 LETTER SMALL CAPITAL N
1 SMALL LETTER BARRED O
1 LETTER SMALL CAPITAL OE
1 SMALL LETTER CLOSED OMEGA
3 PHI
3 TURNED R
5 WITH LONG LEG
6 HOOK
3 R WITH LONG LEG
5 TAIL
5 FISHHOOK
3 REVERSED R WITH FISHHOOK
1 LETTER SMALL CAPITAL R
4 INVERTED R
1 SMALL LETTER S WITH HOOK
3 ESH
3 DOTLESS J WITH STROKE AND HOOK
3 SQUAT REVERSED ESH
3 ESH WITH CURL
3 TURNED T
3 T WITH RETROFLEX HOOK
3 U BAR
3 UPSILON
3 V WITH HOOK
3 TURNED V
4 W
4 Y
1 LETTER SMALL CAPITAL Y
1 SMALL LETTER Z WITH RETROFLEX HOOK
5 CURL
3 EZH
4 WITH CURL
1 LETTER GLOTTAL STOP
2 PHARYNGEAL VOICED FRICATIVE
2 INVERTED GLOTTAL STOP
2 STRETCHED C
2 BILABIAL CLICK
2 SMALL CAPITAL B
1 SMALL LETTER CLOSED OPEN E
1 LETTER SMALL CAPITAL G WITH HOOK
4 H
1 SMALL LETTER J WITH CROSSED-TAIL
3 TURNED K
1 LETTER SMALL CAPITAL L
1 SMALL LETTER Q WITH HOOK
1 LETTER GLOTTAL STOP WITH STROKE
2 REVERSED GLOTTAL STOP WITH STROKE
1 SMALL LETTER DZ DIGRAPH
3 DEZH DIGRAPH
3 DZ DIGRAPH WITH CURL
3 TS DIGRAPH
3 TESH DIGRAPH
3 TC DIGRAPH WITH CURL
3 FENG DIGRAPH
3 LS DIGRAPH
3 LZ DIGRAPH
1 LETTER BILABIAL PERCUSSIVE
2 BIDENTAL PERCUSSIVE
1 SMALL LETTER TURNED H WITH FISHHOOK
7 AND TAIL
0 MODIFIER LETTER SMALL H
4 WITH HOOK
3 J
3 R
3 TURNED R
5 WITH HOOK
3 CAPITAL INVERTED R
3 W
3 Y
2 PRIME
2 DOUBLE PRIME
2 TURNED COMMA
2 APOSTROPHE
2 REVERSED COMMA
2 RIGHT HALF RING
2 LEFT HALF RING
2 GLOTTAL STOP
2 REVERSED GLOTTAL STOP
2 LEFT ARROWHEAD
2 RIGHT ARROWHEAD
2 UP ARROWHEAD
2 DOWN ARROWHEAD
2 CIRCUMFLEX ACCENT
0 CARON
0 MODIFIER LETTER VERTICAL LINE
2 MACRON
2 ACUTE ACCENT
2 GRAVE ACCENT
2 LOW VERTICAL LINE
3 MACRON
3 GRAVE ACCENT
3 ACUTE ACCENT
2 TRIANGULAR COLON
2 HALF TRIANGULAR COLON
2 CENTRED RIGHT HALF RING
3 LEFT HALF RING
2 UP TACK
2 DOWN TACK
2 PLUS SIGN
2 MINUS SIGN
0 BREVE
0 DOT ABOVE
0 RING ABOVE
0 OGONEK
0 SMALL TILDE
0 DOUBLE ACUTE ACCENT
0 MODIFIER LETTER RHOTIC HOOK
2 CROSS ACCENT
2 SMALL GAMMA
3 L
3 S
3 X
3 REVERSED GLOTTAL STOP
2 EXTRA-HIGH TONE BAR
2 HIGH TONE BAR
2 MID TONE BAR
2 LOW TONE BAR
2 EXTRA-LOW TONE BAR
2 YIN DEPARTING TONE MARK
2 YANG DEPARTING TONE MARK
2 VOICING
2 UNASPIRATED
2 DOUBLE APOSTROPHE
2 LOW DOWN ARROWHEAD
3 UP ARROWHEAD
3 LEFT ARROWHEAD
3 RIGHT ARROWHEAD
3 RING
2 MIDDLE GRAVE ACCENT
3 DOUBLE GRAVE ACCENT
4 ACUTE ACCENT
2 LOW TILDE
2 RAISED COLON
2 BEGIN HIGH TONE
2 END HIGH TONE
2 BEGIN LOW TONE
2 END LOW TONE
2 SHELF
2 OPEN SHELF
2 LOW LEFT ARROW
0 COMBINING GRAVE ACCENT
1 ACUTE ACCENT
1 CIRCUMFLEX ACCENT
1 TILDE
1 MACRON
1 OVERLINE
1 BREVE
1 DOT ABOVE
1 DIAERESIS
1 HOOK ABOVE
1 RING ABOVE
1 DOUBLE ACUTE ACCENT
1 CARON
1 VERTICAL LINE ABOVE
1 DOUBLE VERTICAL LINE ABOVE
2 GRAVE ACCENT
1 CANDRABINDU
1 INVERTED BREVE
1 TURNED COMMA ABOVE
1 COMMA ABOVE
1 REVERSED COMMA ABOVE
1 COMMA ABOVE RIGHT
1 GRAVE ACCENT BELOW
1 ACUTE ACCENT BELOW
1 LEFT TACK BELOW
1 RIGHT TACK BELOW
1 LEFT ANGLE ABOVE
1 HORN
1 LEFT HALF RING BELOW
1 UP TACK BELOW
1 DOWN TACK BELOW
1 PLUS SIGN BELOW
1 MINUS SIGN BELOW
1 PALATALIZED HOOK BELOW
1 RETROFLEX HOOK BELOW
1 DOT BELOW
1 DIAERESIS BELOW
1 RING BELOW
1 COMMA BELOW
1 CEDILLA
1 OGONEK
1 VERTICAL LINE BELOW
1 BRIDGE BELOW
1 INVERTED DOUBLE ARCH BELOW
1 CARON BELOW
1 CIRCUMFLEX ACCENT BELOW
1 BREVE BELOW
1 INVERTED BREVE BELOW
1 TILDE BELOW
1 MACRON BELOW
1 LOW LINE
1 DOUBLE LOW LINE
1 TILDE OVERLAY
1 SHORT STROKE OVERLAY
1 LONG STROKE OVERLAY
1 SHORT SOLIDUS OVERLAY
1 LONG SOLIDUS OVERLAY
1 RIGHT HALF RING BELOW
1 INVERTED BRIDGE BELOW
1 SQUARE BELOW
1 SEAGULL BELOW
1 X ABOVE
1 VERTICAL TILDE
1 DOUBLE OVERLINE
1 GRAVE TONE MARK
1 ACUTE TONE MARK
1 GREEK PERISPOMENI
2 KORONIS
2 DIALYTIKA TONOS
2 YPOGEGRAMMENI
1 BRIDGE ABOVE
1 EQUALS SIGN BELOW
1 DOUBLE VERTICAL LINE BELOW
1 LEFT ANGLE BELOW
1 NOT TILDE ABOVE
1 HOMOTHETIC ABOVE
1 ALMOST EQUAL TO ABOVE
1 LEFT RIGHT ARROW BELOW
1 UPWARDS ARROW BELOW
1 GRAPHEME JOINER
1 RIGHT ARROWHEAD ABOVE
1 LEFT HALF RING ABOVE
1 FERMATA
1 X BELOW
1 LEFT ARROWHEAD BELOW
1 RIGHT ARROWHEAD BELOW
3 AND UP ARROWHEAD BELOW
2 HALF RING ABOVE
1 DOT ABOVE RIGHT
1 ASTERISK BELOW
1 DOUBLE RING BELOW
1 ZIGZAG ABOVE
1 DOUBLE BREVE BELOW
3
2 MACRON
3 BELOW
2 TILDE
2 INVERTED BREVE
2 RIGHTWARDS ARROW BELOW
1 LATIN SMALL LETTER A
4 E
4 I
4 O
4 U
4 C
4 D
4 H
4 M
4 R
4 T
4 V
4 X
0 GREEK CAPITAL LETTER HETA
1 SMALL LETTER HETA
1 CAPITAL LETTER ARCHAIC SAMPI
1 SMALL LETTER ARCHAIC SAMPI
1 NUMERAL SIGN
1 LOWER NUMERAL SIGN
1 CAPITAL LETTER PAMPHYLIAN DIGAMMA
1 SMALL LETTER PAMPHYLIAN DIGAMMA
@37A
1 YPOGEGRAMMENI
1 SMALL REVERSED LUNATE SIGMA SYMBOL
2 DOTTED LUNATE SIGMA SYMBOL
2 REVERSED DOTTED LUNATE SIGMA SYMBOL
1 QUESTION MARK
1 CAPITAL LETTER YOT
@384
1 TONOS
1 DIALYTIKA TONOS
1 CAPITAL LETTER ALPHA WITH TONOS
1 ANO TELEIA
1 CAPITAL LETTER EPSILON WITH TONOS
3 ETA WITH TONOS
3 IOTA WITH TONOS
@38C
3 OMICRON WITH TONOS
@38E
3 UPSILON WITH TONOS
3 OMEGA WITH TONOS
1 SMALL LETTER IOTA WITH DIALYTIKA AND TONOS
1 CAPITAL LETTER ALPHA
3 BETA
3 GAMMA
3 DELTA
3 EPSILON
3 ZETA
3 ETA
3 THETA
3 IOTA
3 KAPPA
3 LAMDA
3 MU
3 NU
3 XI
3 OMICRON
3 PI
3 RHO
@3A3
3 SIGMA
3 TAU
3 UPSILON
3 PHI
3 CHI
3 PSI
3 OMEGA
3 IOTA WITH DIALYTIKA
3 UPSILON WITH DIALYTIKA
1 SMALL LETTER ALPHA WITH TONOS
3 EPSILON WITH TONOS
3 ETA WITH TONOS
3 IOTA WITH TONOS
3 UPSILON WITH DIALYTIKA AND TONOS
3 ALPHA
3 BETA
3 GAMMA
3 DELTA
3 EPSILON
3 ZETA
3 ETA
3 THETA
3 IOTA
3 KAPPA
3 LAMDA
3 MU
3 NU
3 XI
3 OMICRON
3 PI
3 RHO
3 FINAL SIGMA
3 SIGMA
3 TAU
3 UPSILON
3 PHI
3 CHI
3 PSI
3 OMEGA
3 IOTA WITH DIALYTIKA
3 UPSILON WITH DIALYTIKA
3 OMICRON WITH TONOS
3 UPSILON WITH TONOS
3 OMEGA WITH TONOS
1 CAPITAL KAI SYMBOL
1 BETA SYMBOL
1 THETA SYMBOL
1 UPSILON WITH HOOK SYMBOL
3 ACUTE AND HOOK SYMBOL
3 DIAERESIS AND HOOK SYMBOL
1 PHI SYMBOL
1 PI SYMBOL
1 KAI SYMBOL
1 LETTER ARCHAIC KOPPA
1 SMALL LETTER ARCHAIC KOPPA
1 LETTER STIGMA
1 SMALL LETTER STIGMA
1 LETTER DIGAMMA
1 SMALL LETTER DIGAMMA
1 LETTER KOPPA
1 SMALL LETTER KOPPA
1 LETTER SAMPI
1 SMALL LETTER SAMPI
0 COPTIC CAPITAL LETTER SHEI
1 SMALL LETTER SHEI
1 CAPITAL LETTER FEI
1 SMALL LETTER FEI
1 CAPITAL LETTER KHEI
1 SMALL LETTER KHEI
1 CAPITAL LETTER HORI
1 SMALL LETTER HORI
1 CAPITAL LETTER GANGIA
1 SMALL LETTER GANGIA
1 CAPITAL LETTER SHIMA
1 SMALL LETTER SHIMA
1 CAPITAL LETTER DEI
1 SMALL LETTER DEI
0 GREEK KAPPA SYMBOL
1 RHO SYMBOL
1 LUNATE SIGMA SYMBOL
1 LETTER YOT
1 CAPITAL THETA SYMBOL
1 LUNATE EPSILON SYMBOL
1 REVERSED LUNATE EPSILON SYMBOL
1 CAPITAL LETTER SHO
1 SMALL LETTER SHO
1 CAPITAL LUNATE SIGMA SYMBOL
2 LETTER SAN
1 SMALL LETTER SAN
1 RHO WITH STROKE SYMBOL
1 CAPITAL REVERSED LUNATE SIGMA SYMBOL
2 DOTTED LUNATE SIGMA SYMBOL
2 REVERSED DOTTED LUNATE SIGMA SYMBOL
0 CYRILLIC CAPITAL LETTER IE WITH GRAVE
3 IO
3 DJE
3 GJE
3 UKRAINIAN IE
3 DZE
3 BYELORUSSIAN-UKRAINIAN I
3 YI
3 JE
3 LJE
3 NJE
3 TSHE
3 KJE
3 I WITH GRAVE
3 SHORT U
3 DZHE
3 A
3 BE
3 VE
3 GHE
3 DE
3 IE
3 ZHE
3 ZE
3 I
3 SHORT I
3 KA
3 EL
3 EM
3 EN
3 O
3 PE
3 ER
3 ES
3 TE
3 U
3 EF
3 HA
3 TSE
3 CHE
3 SHA
3 SHCHA
3 HARD SIGN
3 YERU
3 SOFT SIGN
3 E
3 YU
3 YA
1 SMALL LETTER A
3 BE
3 VE
3 GHE
3 DE
3 IE
3 ZHE
3 ZE
3 I
3 SHORT I
3 KA
3 EL
3 EM
3 EN
3 O
3 PE
3 ER
3 ES
3 TE
3 U
3 EF
3 HA
3 TSE
3 CHE
3 SHA
3 SHCHA
3 HARD SIGN
3 YERU
3 SOFT SIGN
3 E
3 YU
3 YA
3 IE WITH GRAVE
3 IO
3 DJE
3 GJE
3 UKRAINIAN IE
3 DZE
3 BYELORUSSIAN-UKRAINIAN I
3 YI
3 JE
3 LJE
3 NJE
3 TSHE
3 KJE
3 I WITH GRAVE
3 SHORT U
3 DZHE
1 CAPITAL LETTER OMEGA
1 SMALL LETTER OMEGA
1 CAPITAL LETTER YAT
1 SMALL LETTER YAT
1 CAPITAL LETTER IOTIFIED E
1 SMALL LETTER IOTIFIED E
1 CAPITAL LETTER LITTLE YUS
1 SMALL LETTER LITTLE YUS
1 CAPITAL LETTER IOTIFIED LITTLE YUS
1 SMALL LETTER IOTIFIED LITTLE YUS
1 CAPITAL LETTER BIG YUS
1 SMALL LETTER BIG YUS
1 CAPITAL LETTER IOTIFIED BIG YUS
1 SMALL LETTER IOTIFIED BIG YUS
1 CAPITAL LETTER KSI
1 SMALL LETTER KSI
1 CAPITAL LETTER PSI
1 SMALL LETTER PSI
1 CAPITAL LETTER FITA
1 SMALL LETTER FITA
1 CAPITAL LETTER IZHITSA
1 SMALL LETTER IZHITSA
1 CAPITAL LETTER IZHITSA WITH DOUBLE GRAVE ACCENT
1 SMALL LETTER IZHITSA WITH DOUBLE GRAVE ACCENT
1 CAPITAL LETTER UK
1 SMALL LETTER UK
1 CAPITAL LETTER ROUND OMEGA
1 SMALL LETTER ROUND OMEGA
1 CAPITAL LETTER OMEGA WITH TITLO
1 SMALL LETTER OMEGA WITH TITLO
1 CAPITAL LETTER OT
1 SMALL LETTER OT
1 CAPITAL LETTER KOPPA
1 SMALL LETTER KOPPA
1 THOUSANDS SIGN
0 COMBINING CYRILLIC TITLO
2 PALATALIZATION
2 DASIA PNEUMATA
2 PSILI PNEUMATA
2 POKRYTIE
2 HUNDRED THOUSANDS SIGN
2 MILLIONS SIGN
0 CYRILLIC CAPITAL LETTER SHORT I WITH TAIL
1 SMALL LETTER SHORT I WITH TAIL
1 CAPITAL LETTER SEMISOFT SIGN
1 SMALL LETTER SEMISOFT SIGN
1 CAPITAL LETTER ER WITH TICK
1 SMALL LETTER ER WITH TICK
1 CAPITAL LETTER GHE WITH UPTURN
1 SMALL LETTER GHE WITH UPTURN
1 CAPITAL LETTER GHE WITH STROKE
1 SMALL LETTER GHE WITH STROKE
1 CAPITAL LETTER GHE WITH MIDDLE HOOK
1 SMALL LETTER GHE WITH MIDDLE HOOK
1 CAPITAL LETTER ZHE WITH DESCENDER
1 SMALL LETTER ZHE WITH DESCENDER
1 CAPITAL LETTER ZE WITH DESCENDER
1 SMALL LETTER ZE WITH DESCENDER
1 CAPITAL LETTER KA WITH DESCENDER
1 SMALL LETTER KA WITH DESCENDER
1 CAPITAL LETTER KA WITH VERTICAL STROKE
1 SMALL LETTER KA WITH VERTICAL STROKE
1 CAPITAL LETTER KA WITH STROKE
1 SMALL LETTER KA WITH STROKE
1 CAPITAL LETTER BASHKIR KA
1 SMALL LETTER BASHKIR KA
1 CAPITAL LETTER EN WITH DESCENDER
1 SMALL LETTER EN WITH DESCENDER
1 CAPITAL LIGATURE EN GHE
1 SMALL LIGATURE EN GHE
1 CAPITAL LETTER PE WITH MIDDLE HOOK
1 SMALL LETTER PE WITH MIDDLE HOOK
1 CAPITAL LETTER ABKHASIAN HA
1 SMALL LETTER ABKHASIAN HA
1 CAPITAL LETTER ES WITH DESCENDER
1 SMALL LETTER ES WITH DESCENDER
1 CAPITAL LETTER TE WITH DESCENDER
1 SMALL LETTER TE WITH DESCENDER
1 CAPITAL LETTER STRAIGHT U
1 SMALL LETTER STRAIGHT U
1 CAPITAL LETTER STRAIGHT U WITH STROKE
1 SMALL LETTER STRAIGHT U WITH STROKE
1 CAPITAL LETTER HA WITH DESCENDER
1 SMALL LETTER HA WITH DESCENDER
1 CAPITAL LIGATURE TE TSE
1 SMALL LIGATURE TE TSE
1 CAPITAL LETTER CHE WITH DESCENDER
1 SMALL LETTER CHE WITH DESCENDER
1 CAPITAL LETTER CHE WITH VERTICAL STROKE
1 SMALL LETTER CHE WITH VERTICAL STROKE
1 CAPITAL LETTER SHHA
1 SMALL LETTER SHHA
1 CAPITAL LETTER ABKHASIAN CHE
1 SMALL LETTER ABKHASIAN CHE
1 CAPITAL LETTER ABKHASIAN CHE WITH DESCENDER
1 SMALL LETTER ABKHASIAN CHE WITH DESCENDER
1 LETTER PALOCHKA
1 CAPITAL LETTER ZHE WITH BREVE
1 SMALL LETTER ZHE WITH BREVE
1 CAPITAL LETTER KA WITH HOOK
1 SMALL LETTER KA WITH HOOK
1 CAPITAL LETTER EL WITH TAIL
1 SMALL LETTER EL WITH TAIL
1 CAPITAL LETTER EN WITH HOOK
1 SMALL LETTER EN WITH HOOK
1 CAPITAL LETTER EN WITH TAIL
1 SMALL LETTER EN WITH TAIL
1 CAPITAL LETTER KHAKASSIAN CHE
1 SMALL LETTER KHAKASSIAN CHE
1 CAPITAL LETTER EM WITH TAIL
1 SMALL LETTER EM WITH TAIL
3 PALOCHKA
1 CAPITAL LETTER A WITH BREVE
1 SMALL LETTER A WITH BREVE
1 CAPITAL LETTER A WITH DIAERESIS
1 SMALL LETTER A WITH DIAERESIS
1 CAPITAL LIGATURE A IE
1 SMALL LIGATURE A IE
1 CAPITAL LETTER IE WITH BREVE
1 SMALL LETTER IE WITH BREVE
1 CAPITAL LETTER SCHWA
1 SMALL LETTER SCHWA
1 CAPITAL LETTER SCHWA WITH DIAERESIS
1 SMALL LETTER SCHWA WITH DIAERESIS
1 CAPITAL LETTER ZHE WITH DIAERESIS
1 SMALL LETTER ZHE WITH DIAERESIS
1 CAPITAL LETTER ZE WITH DIAERESIS
1 SMALL LETTER ZE WITH DIAERESIS
1 CAPITAL LETTER ABKHASIAN DZE
1 SMALL LETTER ABKHASIAN DZE
1 CAPITAL LETTER I WITH MACRON
1 SMALL LETTER I WITH MACRON
1 CAPITAL LETTER I WITH DIAERESIS
1 SMALL LETTER I WITH DIAERESIS
1 CAPITAL LETTER O WITH DIAERESIS
1 SMALL LETTER O WITH DIAERESIS
1 CAPITAL LETTER BARRED O
1 SMALL LETTER BARRED O
1 CAPITAL LETTER BARRED O WITH DIAERESIS
1 SMALL LETTER BARRED O WITH DIAERESIS
1 CAPITAL LETTER E WITH DIAERESIS
1 SMALL LETTER E WITH DIAERESIS
1 CAPITAL LETTER U WITH MACRON
1 SMALL LETTER U WITH MACRON
1 CAPITAL LETTER U WITH DIAERESIS
1 SMALL LETTER U WITH DIAERESIS
1 CAPITAL LETTER U WITH DOUBLE ACUTE
1 SMALL LETTER U WITH DOUBLE ACUTE
1 CAPITAL LETTER CHE WITH DIAERESIS
1 SMALL LETTER CHE WITH DIAERESIS
1 CAPITAL LETTER GHE WITH DESCENDER
1 SMALL LETTER GHE WITH DESCENDER
1 CAPITAL LETTER YERU WITH DIAERESIS
1 SMALL LETTER YERU WITH DIAERESIS
1 CAPITAL LETTER GHE WITH STROKE AND HOOK
1 SMALL LETTER GHE WITH STROKE AND HOOK
1 CAPITAL LETTER HA WITH HOOK
1 SMALL LETTER HA WITH HOOK
1 CAPITAL LETTER HA WITH STROKE
1 SMALL LETTER HA WITH STROKE
1 CAPITAL LETTER KOMI DE
1 SMALL LETTER KOMI DE
1 CAPITAL LETTER KOMI DJE
1 SMALL LETTER KOMI DJE
1 CAPITAL LETTER KOMI ZJE
1 SMALL LETTER KOMI ZJE
1 CAPITAL LETTER KOMI DZJE
1 SMALL LETTER KOMI DZJE
1 CAPITAL LETTER KOMI LJE
1 SMALL LETTER KOMI LJE
1 CAPITAL LETTER KOMI NJE
1 SMALL LETTER KOMI NJE
1 CAPITAL LETTER KOMI SJE
1 SMALL LETTER KOMI SJE
1 CAPITAL LETTER KOMI TJE
1 SMALL LETTER KOMI TJE
1 CAPITAL LETTER REVERSED ZE
1 SMALL LETTER REVERSED ZE
1 CAPITAL LETTER EL WITH HOOK
1 SMALL LETTER EL WITH HOOK
1 CAPITAL LETTER LHA
1 SMALL LETTER LHA
1 CAPITAL LETTER RHA
1 SMALL LETTER RHA
1 CAPITAL LETTER YAE
1 SMALL LETTER YAE
1 CAPITAL LETTER QA
1 SMALL LETTER QA
1 CAPITAL LETTER WE
1 SMALL LETTER WE
1 CAPITAL LETTER ALEUT KA
1 SMALL LETTER ALEUT KA
1 CAPITAL LETTER EL WITH MIDDLE HOOK
1 SMALL LETTER EL WITH MIDDLE HOOK
1 CAPITAL LETTER EN WITH MIDDLE HOOK
1 SMALL LETTER EN WITH MIDDLE HOOK
1 CAPITAL LETTER PE WITH DESCENDER
1 SMALL LETTER PE WITH DESCENDER
1 CAPITAL LETTER SHHA WITH DESCENDER
1 SMALL LETTER SHHA WITH DESCENDER
1 CAPITAL LETTER EN WITH LEFT HOOK
1 SMALL LETTER EN WITH LEFT HOOK
1 CAPITAL LETTER DZZHE
1 SMALL LETTER DZZHE
1 CAPITAL LETTER DCHE
1 SMALL LETTER DCHE
1 CAPITAL LETTER EL WITH DESCENDER
1 SMALL LETTER EL WITH DESCENDER
@531
0 ARMENIAN CAPITAL LETTER AYB
3 BEN
3 GIM
3 DA
3 ECH
3 ZA
3 EH
3 ET
3 TO
3 ZHE
3 INI
3 LIWN
3 XEH
3 CA
3 KEN
3 HO
3 JA
3 GHAD
3 CHEH
3 MEN
3 YI
3 NOW
3 SHA
3 VO
3 CHA
3 PEH
3 JHEH
3 RA
3 SEH
3 VEW
3 TIWN
3 REH
3 CO
3 YIWN
3 PIWR
3 KEH
3 OH
3 FEH
@559
1 MODIFIER LETTER LEFT HALF RING
1 APOSTROPHE
1 EMPHASIS MARK
1 EXCLAMATION MARK
1 COMMA
1 QUESTION MARK
1 ABBREVIATION MARK
1 SMALL LETTER TURNED AYB
3 AYB
3 BEN
3 GIM
3 DA
3 ECH
3 ZA
3 EH
3 ET
3 TO
3 ZHE
3 INI
3 LIWN
3 XEH
3 CA
3 KEN
3 HO
3 JA
3 GHAD
3 CHEH
3 MEN
3 YI
3 NOW
3 SHA
3 VO
3 CHA
3 PEH
3 JHEH
3 RA
3 SEH
3 VEW
3 TIWN
3 REH
3 CO
3 YIWN
3 PIWR
3 KEH
3 OH
3 FEH
2 LIGATURE ECH YIWN
2 LETTER YI WITH STROKE
1 FULL STOP
1 HYPHEN
@58D
0 RIGHT-FACING ARMENIAN ETERNITY SIGN
0 LEFT-FACING ARMENIAN ETERNITY SIGN
0 ARMENIAN DRAM SIGN
@591
0 HEBREW ACCENT ETNAHTA
2 SEGOL
2 SHALSHELET
2 ZAQEF QATAN
3 GADOL
2 TIPEHA
2 REVIA
2 ZARQA
2 PASHTA
2 YETIV
2 TEVIR
2 GERESH
3 MUQDAM
2 GERSHAYIM
2 QARNEY PARA
2 TELISHA GEDOLA
2 PAZER
2 ATNAH HAFUKH
2 MUNAH
2 MAHAPAKH
2 MERKHA
3 KEFULA
2 DARGA
2 QADMA
2 TELISHA QETANA
2 YERAH BEN YOMO
2 OLE
2 ILUY
2 DEHI
2 ZINOR
1 MARK MASORA CIRCLE
1 POINT SHEVA
2 HATAF SEGOL
3 PATAH
3 QAMATS
2 HIRIQ
2 TSERE
2 SEGOL
2 PATAH
2 QAMATS
2 HOLAM
3 HASER FOR VAV
2 QUBUTS
2 DAGESH OR MAPIQ
2 METEG
1 PUNCTUATION MAQAF
1 POINT RAFE
1 PUNCTUATION PASEQ
1 POINT SHIN DOT
2 SIN DOT
1 PUNCTUATION SOF PASUQ
1 MARK UPPER DOT
2 LOWER DOT
1 PUNCTUATION NUN HAFUKHA
1 POINT QAMATS QATAN
@5D0
1 LETTER ALEF
2 BET
2 GIMEL
2 DALET
2 HE
2 VAV
2 ZAYIN
2 HET
2 TET
2 YOD
2 FINAL KAF
2 KAF
2 LAMED
2 FINAL MEM
2 MEM
2 FINAL NUN
2 NUN
2 SAMEKH
2 AYIN
2 FINAL PE
2 PE
2 FINAL TSADI
2 TSADI
2 QOF
2 RESH
2 SHIN
2 TAV
@5EF
1 YOD TRIANGLE
1 LIGATURE YIDDISH DOUBLE VAV
3 VAV YOD
3 DOUBLE YOD
1 PUNCTUATION GERESH
2 GERSHAYIM
@600
0 ARABIC NUMBER SIGN
1 SIGN SANAH
1 FOOTNOTE MARKER
1 SIGN SAFHA
2 SAMVAT
1 NUMBER MARK ABOVE
0 ARABIC-INDIC CUBE ROOT
1 FOURTH ROOT
0 ARABIC RAY
0 ARABIC-INDIC PER MILLE SIGN
2 TEN THOUSAND SIGN
0 AFGHANI SIGN
0 ARABIC COMMA
1 DATE SEPARATOR
1 POETIC VERSE SIGN
1 SIGN MISRA
2 SALLALLAHOU ALAYHE WASSALLAM
2 ALAYHE ASSALLAM
2 RAHMATULLAH ALAYHE
2 RADI ALLAHOU ANHU
2 TAKHALLUS
1 SMALL HIGH TAH
3 LIGATURE ALEF WITH LAM WITH YEH
3 ZAIN
2 FATHA
2 DAMMA
2 KASRA
1 SEMICOLON
1 LETTER MARK
1 END OF TEXT MARK
1 TRIPLE DOT PUNCTUATION MARK
1 QUESTION MARK
1 LETTER KASHMIRI YEH
2 HAMZA
2 ALEF WITH MADDA ABOVE
4 HAMZA ABOVE
2 WAW WITH HAMZA ABOVE
2 ALEF WITH HAMZA BELOW
2 YEH WITH HAMZA ABOVE
2 ALEF
2 BEH
2 TEH MARBUTA
3
2 THEH
2 JEEM
2 HAH
2 KHAH
2 DAL
2 THAL
2 REH
2 ZAIN
2 SEEN
2 SHEEN
2 SAD
2 DAD
2 TAH
2 ZAH
2 AIN
2 GHAIN
2 KEHEH WITH TWO DOTS ABOVE
4 THREE DOTS BELOW
2 FARSI YEH WITH INVERTED V
5 TWO DOTS ABOVE
5 THREE DOTS ABOVE
1 TATWEEL
1 LETTER FEH
2 QAF
2 KAF
2 LAM
2 MEEM
2 NOON
2 HEH
2 WAW
2 ALEF MAKSURA
2 YEH
1 FATHATAN
1 DAMMATAN
1 KASRATAN
1 FATHA
1 DAMMA
1 KASRA
1 SHADDA
1 SUKUN
1 MADDAH ABOVE
1 HAMZA ABOVE
2 BELOW
1 SUBSCRIPT ALEF
1 INVERTED DAMMA
1 MARK NOON GHUNNA
1 ZWARAKAY
1 VOWEL SIGN SMALL V ABOVE
3 INVERTED SMALL V ABOVE
3 DOT BELOW
1 REVERSED DAMMA
1 FATHA WITH TWO DOTS
1 WAVY HAMZA BELOW
0 ARABIC-INDIC DIGIT ZERO
2 ONE
2 TWO
2 THREE
2 FOUR
2 FIVE
2 SIX
2 SEVEN
2 EIGHT
2 NINE
0 ARABIC PERCENT SIGN
1 DECIMAL SEPARATOR
1 THOUSANDS SEPARATOR
1 FIVE POINTED STAR
1 LETTER DOTLESS BEH
3 QAF
2 SUPERSCRIPT ALEF
2 ALEF WASLA
3 WITH WAVY HAMZA ABOVE
6 BELOW
2 HIGH HAMZA
4 ALEF
4 WAW
2 U WITH HAMZA ABOVE
2 HIGH HAMZA YEH
2 TTEH
2 TTEHEH
2 BEEH
2 TEH WITH RING
4 THREE DOTS ABOVE DOWNWARDS
2 PEH
2 TEHEH
2 BEHEH
2 HAH WITH HAMZA ABOVE
4 TWO DOTS VERTICAL ABOVE
2 NYEH
2 DYEH
2 HAH WITH THREE DOTS ABOVE
2 TCHEH
2 TCHEHEH
2 DDAL
2 DAL WITH RING
4 DOT BELOW
6 AND SMALL TAH
2 DAHAL
2 DDAHAL
2 DUL
2 DAL WITH THREE DOTS ABOVE DOWNWARDS
4 FOUR DOTS ABOVE
2 RREH
2 REH WITH SMALL V
4 RING
4 DOT BELOW
4 SMALL V BELOW
4 DOT BELOW AND DOT ABOVE
4 TWO DOTS ABOVE
2 JEH
2 REH WITH FOUR DOTS ABOVE
2 SEEN WITH DOT BELOW AND DOT ABOVE
4 THREE DOTS BELOW
7 AND THREE DOTS ABOVE
2 SAD WITH TWO DOTS BELOW
4 THREE DOTS ABOVE
2 TAH WITH THREE DOTS ABOVE
2 AIN WITH THREE DOTS ABOVE
2 DOTLESS FEH
2 FEH WITH DOT MOVED BELOW
5 BELOW
2 VEH
2 FEH WITH THREE DOTS BELOW
2 PEHEH
2 QAF WITH DOT ABOVE
4 THREE DOTS ABOVE
2 KEHEH
2 SWASH KAF
2 KAF WITH RING
4 DOT ABOVE
2 NG
2 KAF WITH THREE DOTS BELOW
2 GAF
3 WITH RING
2 NGOEH
2 GAF WITH TWO DOTS BELOW
2 GUEH
2 GAF WITH THREE DOTS ABOVE
2 LAM WITH SMALL V
4 DOT ABOVE
4 THREE DOTS ABOVE
6 BELOW
2 NOON WITH DOT BELOW
3 GHUNNA
2 RNOON
2 NOON WITH RING
4 THREE DOTS ABOVE
2 HEH DOACHASHMEE
2 TCHEH WITH DOT ABOVE
2 HEH WITH YEH ABOVE
3 GOAL
4 WITH HAMZA ABOVE
2 TEH MARBUTA GOAL
2 WAW WITH RING
2 KIRGHIZ OE
2 OE
2 U
2 YU
2 KIRGHIZ YU
2 WAW WITH TWO DOTS ABOVE
2 VE
2 FARSI YEH
2 YEH WITH TAIL
4 SMALL V
2 WAW WITH DOT ABOVE
2 E
2 YEH WITH THREE DOTS BELOW
3 BARREE
4 WITH HAMZA ABOVE
1 FULL STOP
1 LETTER AE
1 SMALL HIGH LIGATURE SAD WITH LAM WITH ALEF MAKSURA
4 QAF WITH LAM WITH ALEF MAKSURA
3 MEEM INITIAL FORM
3 LAM ALEF
3 JEEM
3 THREE DOTS
3 SEEN
1 END OF AYAH
1 START OF RUB EL HIZB
1 SMALL HIGH ROUNDED ZERO
3 UPRIGHT RECTANGULAR ZERO
3 DOTLESS HEAD OF KHAH
3 MEEM ISOLATED FORM
2 LOW SEEN
2 HIGH MADDA
2 WAW
2 YEH
2 HIGH YEH
3 NOON
1 PLACE OF SAJDAH
1 EMPTY CENTRE LOW STOP
3 HIGH STOP
1 ROUNDED HIGH STOP WITH FILLED CENTRE
1 SMALL LOW MEEM
1 LETTER DAL WITH INVERTED V
2 REH WITH INVERTED V
0 EXTENDED ARABIC-INDIC DIGIT ZERO
3 ONE
3 TWO
3 THREE
3 FOUR
3 FIVE
3 SIX
3 SEVEN
3 EIGHT
3 NINE
0 ARABIC LETTER SHEEN WITH DOT BELOW
2 DAD WITH DOT BELOW
2 GHAIN WITH DOT BELOW
1 SIGN SINDHI AMPERSAND
3 POSTPOSITION MEN
1 LETTER HEH WITH INVERTED V
0 SYRIAC END OF PARAGRAPH
1 SUPRALINEAR FULL STOP
1 SUBLINEAR FULL STOP
1 SUPRALINEAR COLON
1 SUBLINEAR COLON
1 HORIZONTAL COLON
1 COLON SKEWED LEFT
3 RIGHT
1 SUPRALINEAR COLON SKEWED LEFT
1 SUBLINEAR COLON SKEWED RIGHT
1 CONTRACTION
1 HARKLEAN OBELUS
2 METOBELUS
2 ASTERISCUS
@70F
1 ABBREVIATION MARK
1 LETTER ALAPH
2 SUPERSCRIPT ALAPH
2 BETH
2 GAMAL
3 GARSHUNI
2 DALATH
2 DOTLESS DALATH RISH
2 HE
2 WAW
2 ZAIN
2 HETH
2 TETH
3 GARSHUNI
2 YUDH
3 HE
2 KAPH
2 LAMADH
2 MIM
2 NUN
2 SEMKATH
2 FINAL SEMKATH
2 E
2 PE
2 REVERSED PE
2 SADHE
2 QAPH
2 RISH
2 SHIN
2 TAW
2 PERSIAN BHETH
3 GHAMAL
3 DHALATH
1 PTHAHA ABOVE
2 BELOW
2 DOTTED
1 ZQAPHA ABOVE
2 BELOW
2 DOTTED
1 RBASA ABOVE
2 BELOW
1 DOTTED ZLAMA HORIZONTAL
3 ANGULAR
1 HBASA ABOVE
2 BELOW
1 HBASA-ESASA DOTTED
1 ESASA ABOVE
2 BELOW
1 RWAHA
1 FEMININE DOT
1 QUSHSHAYA
1 RUKKAKHA
1 TWO VERTICAL DOTS ABOVE
4 BELOW
1 THREE DOTS ABOVE
3 BELOW
1 OBLIQUE LINE ABOVE
3 BELOW
1 MUSIC
1 BARREKH
@74D
1 LETTER SOGDIAN ZHAIN
3 KHAPH
3 FE
0 ARABIC LETTER BEH WITH THREE DOTS HORIZONTALLY BELOW
4 DOT BELOW AND THREE DOTS ABOVE
4 THREE DOTS POINTING UPWARDS BELOW
9 AND TWO DOTS ABOVE
4 TWO DOTS BELOW AND DOT ABOVE
4 INVERTED SMALL V BELOW
4 SMALL V
2 HAH WITH TWO DOTS ABOVE
4 THREE DOTS POINTING UPWARDS BELOW
2 DAL WITH TWO DOTS VERTICALLY BELOW AND SMALL TAH
4 INVERTED SMALL V BELOW
2 REH WITH STROKE
2 SEEN WITH FOUR DOTS ABOVE
2 AIN WITH TWO DOTS ABOVE
4 THREE DOTS POINTING DOWNWARDS ABOVE
4 TWO DOTS VERTICALLY ABOVE
2 FEH WITH TWO DOTS BELOW
4 THREE DOTS POINTING UPWARDS BELOW
2 KEHEH WITH DOT ABOVE
4 THREE DOTS ABOVE
6 POINTING UPWARDS BELOW
2 MEEM WITH DOT ABOVE
5 BELOW
2 NOON WITH TWO DOTS BELOW
4 SMALL TAH
5 V
2 LAM WITH BAR
2 REH WITH TWO DOTS VERTICALLY ABOVE
4 HAMZA ABOVE
2 SEEN WITH TWO DOTS VERTICALLY ABOVE
2 HAH WITH SMALL ARABIC LETTER TAH BELOW
8 AND TWO DOTS
2 SEEN WITH SMALL ARABIC LETTER TAH AND TWO DOTS
2 REH WITH SMALL ARABIC LETTER TAH AND TWO DOTS
2 HAH WITH SMALL ARABIC LETTER TAH ABOVE
2 ALEF WITH EXTENDED ARABIC-INDIC DIGIT TWO ABOVE
7 THREE ABOVE
2 FARSI YEH WITH EXTENDED ARABIC-INDIC DIGIT TWO ABOVE
8 THREE ABOVE
8 FOUR BELOW
2 WAW WITH EXTENDED ARABIC-INDIC DIGIT TWO ABOVE
7 THREE ABOVE
2 YEH BARREE WITH EXTENDED ARABIC-INDIC DIGIT TWO ABOVE
8 THREE ABOVE
2 HAH WITH EXTENDED ARABIC-INDIC DIGIT FOUR BELOW
2 SEEN WITH EXTENDED ARABIC-INDIC DIGIT FOUR ABOVE
4 INVERTED V
2 KAF WITH TWO DOTS ABOVE
0 THAANA LETTER HAA
2 SHAVIYANI
2 NOONU
2 RAA
2 BAA
2 LHAVIYANI
2 KAAFU
2 ALIFU
2 VAAVU
2 MEEMU
2 FAAFU
2 DHAALU
2 THAA
2 LAAMU
2 GAAFU
2 GNAVIYANI
2 SEENU
2 DAVIYANI
2 ZAVIYANI
2 TAVIYANI
2 YAA
2 PAVIYANI
2 JAVIYANI
2 CHAVIYANI
2 TTAA
2 HHAA
2 KHAA
2 THAALU
2 ZAA
2 SHEENU
2 SAADHU
2 DAADHU
2 TO
2 ZO
2 AINU
2 GHAINU
2 QAAFU
2 WAAVU
1 ABAFILI
1 AABAAFILI
1 IBIFILI
1 EEBEEFILI
1 UBUFILI
1 OOBOOFILI
1 EBEFILI
1 EYBEYFILI
1 OBOFILI
1 OABOAFILI
1 SUKUN
1 LETTER NAA
@7C0
0 NKO DIGIT ZERO
2 ONE
2 TWO
2 THREE
2 FOUR
2 FIVE
2 SIX
2 SEVEN
2 EIGHT
2 NINE
1 LETTER A
2 EE
2 I
2 E
2 U
2 OO
2 O
2 DAGBASINNA
2 N
2 BA
2 PA
2 TA
2 JA
2 CHA
2 DA
2 RA
2 RRA
2 SA
2 GBA
2 FA
2 KA
2 LA
2 NA WOLOSO
2 MA
2 NYA
2 NA
2 HA
2 WA
2 YA
2 NYA WOLOSO
2 JONA JA
3 CHA
3 RA
1 COMBINING SHORT HIGH TONE
3 LOW TONE
3 RISING TONE
2 LONG DESCENDING TONE
3 HIGH TONE
3 LOW TONE
3 RISING TONE
2 NASALIZATION MARK
2 DOUBLE DOT ABOVE
1 HIGH TONE APOSTROPHE
1 LOW TONE APOSTROPHE
1 SYMBOL OO DENNEN
2 GBAKURUNEN
1 COMMA
1 EXCLAMATION MARK
1 LAJANYALAN
@7FD
1 DANTAYALAN
1 DOROME SIGN
1 TAMAN SIGN
0 SAMARITAN LETTER ALAF
2 BIT
2 GAMAN
2 DALAT
2 IY
2 BAA
2 ZEN
2 IT
2 TIT
2 YUT
2 KAAF
2 LABAT
2 MIM
2 NUN
2 SINGAAT
2 IN
2 FI
2 TSAADIY
2 QUF
2 RISH
2 SHAN
2 TAAF
1 MARK IN
2 IN-ALAF
2 OCCLUSION
2 DAGESH
1 MODIFIER LETTER EPENTHETIC YUT
1 MARK EPENTHETIC YUT
1 VOWEL SIGN LONG E
3 E
3 OVERLONG AA
3 LONG AA
3 AA
3 OVERLONG A
3 LONG A
3 A
1 MODIFIER LETTER SHORT A
1 VOWEL SIGN SHORT A
3 LONG U
3 U
1 MODIFIER LETTER I
1 VOWEL SIGN LONG I
3 I
3 O
3 SUKUN
1 MARK NEQUDAA
@830
1 PUNCTUATION NEQUDAA
2 AFSAAQ
2 ANGED
2 BAU
2 ATMAAU
2 SHIYYAALAA
1 ABBREVIATION MARK
1 PUNCTUATION MELODIC QITSA
2 ZIQAA
2 QITSA
2 ZAEF
2 TURU
2 ARKAANU
2 SOF MASHFAAT
2 ANNAAU
@840
0 MANDAIC LETTER HALQA
2 AB
2 AG
2 AD
2 AH
2 USHENNA
2 AZ
2 IT
2 ATT
2 AKSA
2 AK
2 AL
2 AM
2 AN
2 AS
2 IN
2 AP
2 ASZ
2 AQ
2 AR
2 ASH
2 AT
2 DUSHENNA
2 KAD
2 AIN
1 AFFRICATION MARK
1 VOCALIZATION MARK
1 GEMINATION MARK
@85E
1 PUNCTUATION
@860
0 SYRIAC LETTER MALAYALAM NGA
3 JA
3 NYA
3 TTA
3 NNA
3 NNNA
3 BHA
3 RA
3 LLA
3 LLLA
3 SSA
@870
0 ARABIC LETTER ALEF WITH ATTACHED FATHA
5 TOP RIGHT FATHA
4 RIGHT MIDDLE STROKE
4 LEFT MIDDLE STROKE
4 ATTACHED KASRA
5 BOTTOM RIGHT KASRA
5 ROUND DOT ABOVE
5 RIGHT ROUND DOT
5 LEFT ROUND DOT
5 ROUND DOT BELOW
4 DOT ABOVE
4 ATTACHED TOP RIGHT FATHA AND DOT ABOVE
4 RIGHT MIDDLE STROKE AND DOT ABOVE
4 ATTACHED BOTTOM RIGHT KASRA AND DOT ABOVE
5 TOP RIGHT FATHA AND LEFT RING
4 RIGHT MIDDLE STROKE AND LEFT RING
4 ATTACHED BOTTOM RIGHT KASRA AND LEFT RING
5 RIGHT HAMZA
5 LEFT HAMZA
1 TATWEEL WITH OVERSTRUCK HAMZA
4 WAW
3 TWO DOTS BELOW
1 LETTER THIN YEH
1 BASELINE ROUND DOT
1 RAISED ROUND DOT
1 LETTER NOON WITH INVERTED SMALL V
2 HAH WITH INVERTED SMALL V BELOW
2 TAH WITH DOT BELOW
4 THREE DOTS BELOW
2 KEHEH WITH TWO DOTS VERTICALLY BELOW
1 VERTICAL TAIL
@890
1 POUND MARK ABOVE
1 PIASTRE MARK ABOVE
@898
1 SMALL HIGH WORD AL-JUZ
2 LOW WORD ISHMAAM
4 IMAALA
4 TASHEEL
1 MADDA WAAJIB
1 SUPERSCRIPT ALEF MOKHASSAS
1 DOUBLED MADDA
1 HALF MADDA OVER MADDA
1 LETTER BEH WITH SMALL V BELOW
4 HAMZA ABOVE
2 JEEM WITH TWO DOTS ABOVE
2 TAH WITH TWO DOTS ABOVE
2 FEH WITH DOT BELOW AND THREE DOTS ABOVE
2 QAF WITH DOT BELOW
2 LAM WITH DOUBLE BAR
2 MEEM WITH THREE DOTS ABOVE
2 YEH WITH TWO DOTS BELOW AND HAMZA ABOVE
8 DOT ABOVE
2 REH WITH LOOP
2 WAW WITH DOT WITHIN
2 ROHINGYA YEH
2 LOW ALEF
2 DAL WITH THREE DOTS BELOW
2 SAD WITH THREE DOTS BELOW
2 GAF WITH INVERTED STROKE
2 STRAIGHT WAW
2 ZAIN WITH INVERTED V ABOVE
2 AIN WITH THREE DOTS BELOW
2 KAF WITH DOT BELOW
2 QAF WITH DOT BELOW AND NO DOTS ABOVE
2 BEH WITH SMALL MEEM ABOVE
2 PEH WITH SMALL MEEM ABOVE
2 TEH WITH SMALL TEH ABOVE
2 REH WITH SMALL NOON ABOVE
2 YEH WITH TWO DOTS BELOW AND SMALL NOON ABOVE
2 AFRICAN FEH
3 QAF
3 NOON
2 PEH WITH SMALL V
2 TEH WITH SMALL V
2 TTEH WITH SMALL V
2 TCHEH WITH SMALL V
2 KEHEH WITH SMALL V
2 GHAIN WITH THREE DOTS ABOVE
2 AFRICAN QAF WITH THREE DOTS ABOVE
2 JEEM WITH THREE DOTS ABOVE
6 BELOW
2 LAM WITH SMALL ARABIC LETTER TAH ABOVE
2 GRAF
1 SMALL FARSI YEH
2 HIGH FARSI YEH
3 YEH BARREE WITH TWO DOTS BELOW
3 WORD SAH
3 ZAH
1 LARGE ROUND DOT ABOVE
4 BELOW
1 SUKUN BELOW
1 LARGE CIRCLE BELOW
2 ROUND DOT INSIDE CIRCLE BELOW
1 SMALL LOW WAW
2 HIGH WORD AR-RUB
3 SAD
3 AIN
3 QAF
3 NOON WITH KASRA
2 LOW NOON WITH KASRA
2 HIGH WORD ATH-THALATHA
4 AS-SAJDA
4 AN-NISF
4 SAKTA
4 QIF
4 WAQFA
3 FOOTNOTE MARKER
3 SIGN SAFHA
1 DISPUTED END OF AYAH
1 TURNED DAMMA BELOW
1 CURLY FATHA
2 DAMMA
2 KASRA
2 FATHATAN
2 DAMMATAN
2 KASRATAN
1 TONE ONE DOT ABOVE
2 TWO DOTS ABOVE
2 LOOP ABOVE
2 ONE DOT BELOW
2 TWO DOTS BELOW
2 LOOP BELOW
1 OPEN FATHATAN
2 DAMMATAN
2 KASRATAN
1 SMALL HIGH WAW
1 FATHA WITH RING
3 DOT ABOVE
1 KASRA WITH DOT BELOW
1 LEFT ARROWHEAD ABOVE
1 RIGHT ARROWHEAD ABOVE
1 LEFT ARROWHEAD BELOW
1 RIGHT ARROWHEAD BELOW
1 DOUBLE RIGHT ARROWHEAD ABOVE
5 WITH DOT
1 RIGHT ARROWHEAD ABOVE WITH DOT
1 DAMMA WITH DOT
1 MARK SIDEWAYS NOON GHUNNA
0 DEVANAGARI SIGN INVERTED CANDRABINDU
2 CANDRABINDU
2 ANUSVARA
2 VISARGA
1 LETTER SHORT A
2 A
2 AA
2 I
2 II
2 U
2 UU
2 VOCALIC R
3 L
2 CANDRA E
2 SHORT E
2 E
2 AI
2 CANDRA O
2 SHORT O
2 O
2 AU
2 KA
2 KHA
2 GA
2 GHA
2 NGA
2 CA
2 CHA
2 JA
2 JHA
2 NYA
2 TTA
2 TTHA
2 DDA
2 DDHA
2 NNA
2 TA
2 THA
2 DA
2 DHA
2 NA
2 NNNA
2 PA
2 PHA
2 BA
2 BHA
2 MA
2 YA
2 RA
2 RRA
2 LA
2 LLA
2 LLLA
2 VA
2 SHA
2 SSA
2 SA
2 HA
1 VOWEL SIGN OE
3 OOE
1 SIGN NUKTA
2 AVAGRAHA
1 VOWEL SIGN AA
3 I
3 II
3 U
3 UU
3 VOCALIC R
4 RR
3 CANDRA E
3 SHORT E
3 E
3 AI
3 CANDRA O
3 SHORT O
3 O
3 AU
1 SIGN VIRAMA
1 VOWEL SIGN PRISHTHAMATRA E
3 AW
1 OM
1 STRESS SIGN UDATTA
3 ANUDATTA
1 GRAVE ACCENT
1 ACUTE ACCENT
1 VOWEL SIGN CANDRA LONG E
3 UE
3 UUE
1 LETTER QA
2 KHHA
2 GHHA
2 ZA
2 DDDHA
2 RHA
2 FA
2 YYA
2 VOCALIC RR
3 LL
1 VOWEL SIGN VOCALIC L
4 LL
1 DANDA
1 DOUBLE DANDA
1 DIGIT ZERO
2 ONE
2 TWO
2 THREE
2 FOUR
2 FIVE
2 SIX
2 SEVEN
2 EIGHT
2 NINE
1 ABBREVIATION SIGN
1 SIGN HIGH SPACING DOT
1 LETTER CANDRA A
2 OE
2 OOE
2 AW
2 UE
2 UUE
2 MARWARI DDA
2 ZHA
2 HEAVY YA
2 GGA
2 JJA
2 GLOTTAL STOP
2 DDDA
2 BBA
0 BENGALI ANJI
1 SIGN CANDRABINDU
2 ANUSVARA
2 VISARGA
@985
1 LETTER A
2 AA
2 I
2 II
2 U
2 UU
2 VOCALIC R
3 L
@98F
2 E
2 AI
@993
2 O
2 AU
2 KA
2 KHA
2 GA
2 GHA
2 NGA
2 CA
2 CHA
2 JA
2 JHA
2 NYA
2 TTA
2 TTHA
2 DDA
2 DDHA
2 NNA
2 TA
2 THA
2 DA
2 DHA
2 NA
@9AA
2 PA
2 PHA
2 BA
2 BHA
2 MA
2 YA
2 RA
@9B2
2 LA
@9B6
2 SHA
2 SSA
2 SA
2 HA
@9BC
1 SIGN NUKTA
2 AVAGRAHA
1 VOWEL SIGN AA
3 I
3 II
3 U
3 UU
3 VOCALIC R
4 RR
@9C7
3 E
3 AI
@9CB
3 O
3 AU
1 SIGN VIRAMA
1 LETTER KHANDA TA
@9D7
1 AU LENGTH MARK
@9DC
1 LETTER RRA
2 RHA
@9DF
2 YYA
2 VOCALIC RR
3 LL
1 VOWEL SIGN VOCALIC L
4 LL
@9E6
1 DIGIT ZERO
2 ONE
2 TWO
2 THREE
2 FOUR
2 FIVE
2 SIX
2 SEVEN
2 EIGHT
2 NINE
1 LETTER RA WITH MIDDLE DIAGONAL
4 LOWER DIAGONAL
1 RUPEE MARK
2 SIGN
1 CURRENCY NUMERATOR ONE
3 TWO
3 THREE
3 FOUR
3 ONE LESS THAN THE DENOMINATOR
2 DENOMINATOR SIXTEEN
1 ISSHAR
1 GANDA MARK
1 LETTER VEDIC ANUSVARA
1 ABBREVIATION SIGN
1 SANDHI MARK
@A01
0 GURMUKHI SIGN ADAK BINDI
2 BINDI
2 VISARGA
@A05
1 LETTER A
2 AA
2 I
2 II
2 U
2 UU
@A0F
2 EE
2 AI
@A13
2 OO
2 AU
2 KA
2 KHA
2 GA
2 GHA
2 NGA
2 CA
2 CHA
2 JA
2 JHA
2 NYA
2 TTA
2 TTHA
2 DDA
2 DDHA
2 NNA
2 TA
2 THA
2 DA
2 DHA
2 NA
@A2A
2 PA
2 PHA
2 BA
2 BHA
2 MA
2 YA
2 RA
@A32
2 LA
2 LLA
@A35
2 VA
2 SHA
@A38
2 SA
2 HA
@A3C
1 SIGN NUKTA
@A3E
1 VOWEL SIGN AA
3 I
3 II
3 U
3 UU
@A47
3 EE
3 AI
@A4B
3 OO
3 AU
1 SIGN VIRAMA
@A51
2 UDAAT
@A59
1 LETTER KHHA
2 GHHA
2 ZA
2 RRA
@A5E
2 FA
@A66
1 DIGIT ZERO
2 ONE
2 TWO
2 THREE
2 FOUR
2 FIVE
2 SIX
2 SEVEN
2 EIGHT
2 NINE
1 TIPPI
1 ADDAK
1 IRI
1 URA
1 EK ONKAR
1 SIGN YAKASH
1 ABBREVIATION SIGN
@A81
0 GUJARATI SIGN CANDRABINDU
2 ANUSVARA
2 VISARGA
@A85
1 LETTER A
2 AA
2 I
2 II
2 U
2 UU
2 VOCALIC R
3 L
1 VOWEL CANDRA E
@A8F
1 LETTER E
2 AI
1 VOWEL CANDRA O
@A93
1 LETTER O
2 AU
2 KA
2 KHA
2 GA
2 GHA
2 NGA
2 CA
2 CHA
2 JA
2 JHA
2 NYA
2 TTA
2 TTHA
2 DDA
2 DDHA
2 NNA
2 TA
2 THA
2 DA
2 DHA
2 NA
@AAA
2 PA
2 PHA
2 BA
2 BHA
2 MA
2 YA
2 RA
@AB2
2 LA
2 LLA
@AB5
2 VA
2 SHA
2 SSA
2 SA
2 HA
@ABC
1 SIGN NUKTA
2 AVAGRAHA
1 VOWEL SIGN AA
3 I
3 II
3 U
3 UU
3 VOCALIC R
4 RR
3 CANDRA E
@AC7
3 E
3 AI
3 CANDRA O
@ACB
3 O
3 AU
1 SIGN VIRAMA
@AD0
1 OM
@AE0
1 LETTER VOCALIC RR
3 LL
1 VOWEL SIGN VOCALIC L
4 LL
@AE6
1 DIGIT ZERO
2 ONE
2 TWO
2 THREE
2 FOUR
2 FIVE
2 SIX
2 SEVEN
2 EIGHT
2 NINE
1 ABBREVIATION SIGN
1 RUPEE SIGN
@AF9
1 LETTER ZHA
1 SIGN SUKUN
2 SHADDA
2 MADDAH
2 THREE-DOT NUKTA ABOVE
2 CIRCLE NUKTA ABOVE
2 TWO-CIRCLE NUKTA ABOVE
@B01
0 ORIYA SIGN CANDRABINDU
2 ANUSVARA
2 VISARGA
@B05
1 LETTER A
2 AA
2 I
2 II
2 U
2 UU
2 VOCALIC R
3 L
@B0F
2 E
2 AI
@B13
2 O
2 AU
2 KA
2 KHA
2 GA
2 GHA
2 NGA
2 CA
2 CHA
2 JA
2 JHA
2 NYA
2 TTA
2 TTHA
2 DDA
2 DDHA
2 NNA
2 TA
2 THA
2 DA
2 DHA
2 NA
@B2A
2 PA
2 PHA
2 BA
2 BHA
2 MA
2 YA
2 RA
@B32
2 LA
2 LLA
@B35
2 VA
2 SHA
2 SSA
2 SA
2 HA
@B3C
1 SIGN NUKTA
2 AVAGRAHA
1 VOWEL SIGN AA
3 I
3 II
3 U
3 UU
3 VOCALIC R
4 RR
@B47
3 E
3 AI
@B4B
3 O
3 AU
1 SIGN VIRAMA
@B55
2 OVERLINE
1 AI LENGTH MARK
1 AU LENGTH MARK
@B5C
1 LETTER RRA
2 RHA
@B5F
2 YYA
2 VOCALIC RR
3 LL
1 VOWEL SIGN VOCALIC L
4 LL
@B66
1 DIGIT ZERO
2 ONE
2 TWO
2 THREE
2 FOUR
2 FIVE
2 SIX
2 SEVEN
2 EIGHT
2 NINE
1 ISSHAR
1 LETTER WA
1 FRACTION ONE QUARTER
3 HALF
2 THREE QUARTERS
2 ONE SIXTEENTH
3 EIGHTH
2 THREE SIXTEENTHS
@B82
0 TAMIL SIGN ANUSVARA
2 VISARGA
@B85
1 LETTER A
2 AA
2 I
2 II
2 U
2 UU
@B8E
2 E
2 EE
2 AI
@B92
2 O
2 OO
2 AU
2 KA
@B99
2 NGA
2 CA
@B9C
2 JA
@B9E
2 NYA
2 TTA
@BA3
2 NNA
2 TA
@BA8
2 NA
2 NNNA
2 PA
@BAE
2 MA
2 YA
2 RA
2 RRA
2 LA
2 LLA
2 LLLA
2 VA
2 SHA
2 SSA
2 SA
2 HA
@BBE
1 VOWEL SIGN AA
3 I
3 II
3 U
3 UU
@BC6
3 E
3 EE
3 AI
@BCA
3 O
3 OO
3 AU
1 SIGN VIRAMA
@BD0
1 OM
@BD7
1 AU LENGTH MARK
@BE6
1 DIGIT ZERO
2 ONE
2 TWO
2 THREE
2 FOUR
2 FIVE
2 SIX
2 SEVEN
2 EIGHT
2 NINE
1 NUMBER TEN
2 ONE HUNDRED
3 THOUSAND
1 DAY SIGN
1 MONTH SIGN
1 YEAR SIGN
1 DEBIT SIGN
1 CREDIT SIGN
1 AS ABOVE SIGN
1 RUPEE SIGN
1 NUMBER SIGN
@C00
0 TELUGU SIGN COMBINING CANDRABINDU ABOVE
2 CANDRABINDU
2 ANUSVARA
2 VISARGA
2 COMBINING ANUSVARA ABOVE
1 LETTER A
2 AA
2 I
2 II
2 U
2 UU
2 VOCALIC R
3 L
@C0E
2 E
2 EE
2 AI
@C12
2 O
2 OO
2 AU
2 KA
2 KHA
2 GA
2 GHA
2 NGA
2 CA
2 CHA
2 JA
2 JHA
2 NYA
2 TTA
2 TTHA
2 DDA
2 DDHA
2 NNA
2 TA
2 THA
2 DA
2 DHA
2 NA
@C2A
2 PA
2 PHA
2 BA
2 BHA
2 MA
2 YA
2 RA
2 RRA
2 LA
2 LLA
2 LLLA
2 VA
2 SHA
2 SSA
2 SA
2 HA
@C3C
1 SIGN NUKTA
2 AVAGRAHA
1 VOWEL SIGN AA
3 I
3 II
3 U
3 UU
3 VOCALIC R
4 RR
@C46
3 E
3 EE
3 AI
@C4A
3 O
3 OO
3 AU
1 SIGN VIRAMA
@C55
1 LENGTH MARK
1 AI LENGTH MARK
@C58
1 LETTER TSA
2 DZA
2 RRRA
@C5D
2 NAKAARA POLLU
@C60
2 VOCALIC RR
3 LL
1 VOWEL SIGN VOCALIC L
4 LL
@C66
1 DIGIT ZERO
2 ONE
2 TWO
2 THREE
2 FOUR
2 FIVE
2 SIX
2 SEVEN
2 EIGHT
2 NINE
@C77
1 SIGN SIDDHAM
1 FRACTION DIGIT ZERO FOR ODD POWERS OF FOUR
3 ONE FOR ODD POWERS OF FOUR
3 TWO FOR ODD POWERS OF FOUR
3 THREE FOR ODD POWERS OF FOUR
3 ONE FOR EVEN POWERS OF FOUR
3 TWO FOR EVEN POWERS OF FOUR
3 THREE FOR EVEN POWERS OF FOUR
1 SIGN TUUMU
0 KANNADA SIGN SPACING CANDRABINDU
2 CANDRABINDU
2 ANUSVARA
2 VISARGA
2 SIDDHAM
1 LETTER A
2 AA
2 I
2 II
2 U
2 UU
2 VOCALIC R
3 L
@C8E
2 E
2 EE
2 AI
@C92
2 O
2 OO
2 AU
2 KA
2 KHA
2 GA
2 GHA
2 NGA
2 CA
2 CHA
2 JA
2 JHA
2 NYA
2 TTA
2 TTHA
2 DDA
2 DDHA
2 NNA
2 TA
2 THA
2 DA
2 DHA
2 NA
@CAA
2 PA
2 PHA
2 BA
2 BHA
2 MA
2 YA
2 RA
2 RRA
2 LA
2 LLA
@CB5
2 VA
2 SHA
2 SSA
2 SA
2 HA
@CBC
1 SIGN NUKTA
2 AVAGRAHA
1 VOWEL SIGN AA
3 I
3 II
3 U
3 UU
3 VOCALIC R
4 RR
@CC6
3 E
3 EE
3 AI
@CCA
3 O
3 OO
3 AU
1 SIGN VIRAMA
@CD5
1 LENGTH MARK
1 AI LENGTH MARK
@CDD
1 LETTER NAKAARA POLLU
2 FA
@CE0
2 VOCALIC RR
3 LL
1 VOWEL SIGN VOCALIC L
4 LL
@CE6
1 DIGIT ZERO
2 ONE
2 TWO
2 THREE
2 FOUR
2 FIVE
2 SIX
2 SEVEN
2 EIGHT
2 NINE
@CF1
1 SIGN JIHVAMULIYA
2 UPADHMANIYA
@D00
0 MALAYALAM SIGN COMBINING ANUSVARA ABOVE
2 CANDRABINDU
2 ANUSVARA
2 VISARGA
1 LETTER VEDIC ANUSVARA
2 A
2 AA
2 I
2 II
2 U
2 UU
2 VOCALIC R
3 L
@D0E
2 E
2 EE
2 AI
@D12
2 O
2 OO
2 AU
2 KA
2 KHA
2 GA
2 GHA
2 NGA
2 CA
2 CHA
2 JA
2 JHA
2 NYA
2 TTA
2 TTHA
2 DDA
2 DDHA
2 NNA
2 TA
2 THA
2 DA
2 DHA
2 NA
2 NNNA
2 PA
2 PHA
2 BA
2 BHA
2 MA
2 YA
2 RA
2 RRA
2 LA
2 LLA
2 LLLA
2 VA
2 SHA
2 SSA
2 SA
2 HA
2 TTTA
1 SIGN VERTICAL BAR VIRAMA
2 CIRCULAR VIRAMA
2 AVAGRAHA
1 VOWEL SIGN AA
3 I
3 II
3 U
3 UU
3 VOCALIC R
4 RR
@D46
3 E
3 EE
3 AI
@D4A
3 O
3 OO
3 AU
1 SIGN VIRAMA
1 LETTER DOT REPH
1 SIGN PARA
@D54
1 LETTER CHILLU M
3 Y
3 LLL
1 AU LENGTH MARK
1 FRACTION ONE ONE-HUNDRED-AND-SIXTIETH
3 FORTIETH
2 THREE EIGHTIETHS
2 ONE TWENTIETH
3 TENTH
2 THREE TWENTIETHS
2 ONE FIFTH
1 LETTER ARCHAIC II
2 VOCALIC RR
3 LL
1 VOWEL SIGN VOCALIC L
4 LL
@D66
1 DIGIT ZERO
2 ONE
2 TWO
2 THREE
2 FOUR
2 FIVE
2 SIX
2 SEVEN
2 EIGHT
2 NINE
1 NUMBER TEN
2 ONE HUNDRED
3 THOUSAND
1 FRACTION ONE QUARTER
3 HALF
2 THREE QUARTERS
2 ONE SIXTEENTH
3 EIGHTH
2 THREE SIXTEENTHS
1 DATE MARK
1 LETTER CHILLU NN
3 N
3 RR
3 L
3 LL
3 K
@D81
0 SINHALA SIGN CANDRABINDU
2 ANUSVARAYA
2 VISARGAYA
@D85
1 LETTER AYANNA
2 AAYANNA
2 AEYANNA
2 AEEYANNA
2 IYANNA
2 IIYANNA
2 UYANNA
2 UUYANNA
2 IRUYANNA
2 IRUUYANNA
2 ILUYANNA
2 ILUUYANNA
2 EYANNA
2 EEYANNA
2 AIYANNA
2 OYANNA
2 OOYANNA
2 AUYANNA
@D9A
2 ALPAPRAANA KAYANNA
2 MAHAAPRAANA KAYANNA
2 ALPAPRAANA GAYANNA
2 MAHAAPRAANA GAYANNA
2 KANTAJA NAASIKYAYA
2 SANYAKA GAYANNA
2 ALPAPRAANA CAYANNA
2 MAHAAPRAANA CAYANNA
2 ALPAPRAANA JAYANNA
2 MAHAAPRAANA JAYANNA
2 TAALUJA NAASIKYAYA
3 SANYOOGA NAAKSIKYAYA
2 SANYAKA JAYANNA
2 ALPAPRAANA TTAYANNA
2 MAHAAPRAANA TTAYANNA
2 ALPAPRAANA DDAYANNA
2 MAHAAPRAANA DDAYANNA
2 MUURDHAJA NAYANNA
2 SANYAKA DDAYANNA
2 ALPAPRAANA TAYANNA
2 MAHAAPRAANA TAYANNA
2 ALPAPRAANA DAYANNA
2 MAHAAPRAANA DAYANNA
2 DANTAJA NAYANNA
@DB3
2 SANYAKA DAYANNA
2 ALPAPRAANA PAYANNA
2 MAHAAPRAANA PAYANNA
2 ALPAPRAANA BAYANNA
2 MAHAAPRAANA BAYANNA
2 MAYANNA
2 AMBA BAYANNA
2 YAYANNA
2 RAYANNA
@DBD
2 DANTAJA LAYANNA
@DC0
2 VAYANNA
2 TAALUJA SAYANNA
2 MUURDHAJA SAYANNA
2 DANTAJA SAYANNA
2 HAYANNA
2 MUURDHAJA LAYANNA
2 FAYANNA
@DCA
1 SIGN AL-LAKUNA
@DCF
1 VOWEL SIGN AELA-PILLA
3 KETTI AEDA-PILLA
3 DIGA AEDA-PILLA
3 KETTI IS-PILLA
3 DIGA IS-PILLA
3 KETTI PAA-PILLA
@DD6
3 DIGA PAA-PILLA
@DD8
3 GAETTA-PILLA
3 KOMBUVA
3 DIGA KOMBUVA
3 KOMBU DEKA
3 KOMBUVA HAA AELA-PILLA
5 DIGA AELA-PILLA
5 GAYANUKITTA
3 GAYANUKITTA
@DE6
1 LITH DIGIT ZERO
3 ONE
3 TWO
3 THREE
3 FOUR
3 FIVE
3 SIX
3 SEVEN
3 EIGHT
3 NINE
@DF2
1 VOWEL SIGN DIGA GAETTA-PILLA
4 GAYANUKITTA
1 PUNCTUATION KUNDDALIYA
@E01
0 THAI CHARACTER KO KAI
2 KHO KHAI
3 KHUAT
3 KHWAI
3 KHON
3 RAKHANG
2 NGO NGU
2 CHO CHAN
3 CHING
3 CHANG
2 SO SO
2 CHO CHOE
2 YO YING
2 DO CHADA
2 TO PATAK
2 THO THAN
3 NANGMONTHO
3 PHUTHAO
2 NO NEN
2 DO DEK
2 TO TAO
2 THO THUNG
3 THAHAN
3 THONG
2 NO NU
2 BO BAIMAI
2 PO PLA
2 PHO PHUNG
2 FO FA
2 PHO PHAN
2 FO FAN
2 PHO SAMPHAO
2 MO MA
2 YO YAK
2 RO RUA
2 RU
2 LO LING
2 LU
2 WO WAEN
2 SO SALA
3 RUSI
3 SUA
2 HO HIP
2 LO CHULA
2 O ANG
2 HO NOKHUK
2 PAIYANNOI
2 SARA A
2 MAI HAN-AKAT
2 SARA AA
3 AM
3 I
3 II
3 UE
3 UEE
3 U
3 UU
2 PHINTHU
@E3F
1 CURRENCY SYMBOL BAHT
1 CHARACTER SARA E
3 AE
3 O
3 AI MAIMUAN
4 MAIMALAI
2 LAKKHANGYAO
2 MAIYAMOK
2 MAITAIKHU
2 MAI EK
3 THO
3 TRI
3 CHATTAWA
2 THANTHAKHAT
2 NIKHAHIT
2 YAMAKKAN
2 FONGMAN
1 DIGIT ZERO
2 ONE
2 TWO
2 THREE
2 FOUR
2 FIVE
2 SIX
2 SEVEN
2 EIGHT
2 NINE
1 CHARACTER ANGKHANKHU
2 KHOMUT
@E81
0 LAO LETTER KO
2 KHO SUNG
@E84
3 TAM
@E86
2 PALI GHA
2 NGO
2 CO
2 PALI CHA
2 SO TAM
@E8C
2 PALI JHA
2 NYO
2 PALI NYA
3 TTA
3 TTHA
3 DDA
3 DDHA
3 NNA
2 DO
2 TO
2 THO SUNG
3 TAM
2 PALI DHA
2 NO
2 BO
2 PO
2 PHO SUNG
2 FO TAM
2 PHO TAM
2 FO SUNG
2 PALI BHA
2 MO
2 YO
2 LO LING
@EA5
3 LOOT
@EA7
2 WO
2 SANSKRIT SHA
3 SSA
2 SO SUNG
2 HO SUNG
2 PALI LLA
2 O
2 HO TAM
1 ELLIPSIS
1 VOWEL SIGN A
3 MAI KAN
3 AA
3 AM
3 I
3 II
3 Y
3 YY
3 U
3 UU
1 SIGN PALI VIRAMA
1 VOWEL SIGN MAI KON
1 SEMIVOWEL SIGN LO
3 NYO
@EC0
1 VOWEL SIGN E
3 EI
3 O
3 AY
3 AI
@EC6
1 KO LA
@EC8
1 TONE MAI EK
3 THO
3 TI
3 CATAWA
1 CANCELLATION MARK
1 NIGGAHITA
@ED0
1 DIGIT ZERO
2 ONE
2 TWO
2 THREE
2 FOUR
2 FIVE
2 SIX
2 SEVEN
2 EIGHT
2 NINE
@EDC
1 HO NO
2 MO
1 LETTER KHMU GO
3 NYO
@F00
0 TIBETAN SYLLABLE OM
1 MARK GTER YIG MGO TRUNCATED A
5 -UM RNAM BCAD MA
6 GTER TSHEG MA
2 INITIAL YIG MGO MDUN MA
2 CLOSING YIG MGO SGAB MA
2 CARET YIG MGO PHUR SHAD MA
2 YIG MGO TSHEG SHAD MA
2 SBRUL SHAD
2 BSKUR YIG MGO
2 BKA- SHOG YIG MGO
2 INTERSYLLABIC TSHEG
2 DELIMITER TSHEG BSTAR
2 SHAD
2 NYIS SHAD
2 TSHEG SHAD
2 NYIS TSHEG SHAD
2 RIN CHEN SPUNGS SHAD
2 RGYA GRAM SHAD
2 CARET -DZUD RTAGS ME LONG CAN
2 GTER TSHEG
1 LOGOTYPE SIGN CHAD RTAGS
3 LHAG RTAGS
1 ASTROLOGICAL SIGN SGRA GCAN -CHAR RTAGS
3 -KHYUD PA
3 SDONG TSHUGS
1 SIGN RDEL DKAR GCIG
4 GNYIS
4 GSUM
3 NAG GCIG
4 GNYIS
3 DKAR RDEL NAG
1 DIGIT ZERO
2 ONE
2 TWO
2 THREE
2 FOUR
2 FIVE
2 SIX
2 SEVEN
2 EIGHT
2 NINE
2 HALF ONE
3 TWO
3 THREE
3 FOUR
3 FIVE
3 SIX
3 SEVEN
3 EIGHT
3 NINE
3 ZERO
1 MARK BSDUS RTAGS
2 NGAS BZUNG NYI ZLA
2 CARET -DZUD RTAGS BZHI MIG CAN
2 NGAS BZUNG SGOR RTAGS
2 CHE MGO
2 TSA -PHRU
2 GUG RTAGS GYON
4 GYAS
2 ANG KHANG GYON
4 GYAS
1 SIGN YAR TSHES
2 MAR TSHES
1 LETTER KA
2 KHA
2 GA
2 GHA
2 NGA
2 CA
2 CHA
2 JA
@F49
2 NYA
2 TTA
2 TTHA
2 DDA
2 DDHA
2 NNA
2 TA
2 THA
2 DA
2 DHA
2 NA
2 PA
2 PHA
2 BA
2 BHA
2 MA
2 TSA
2 TSHA
2 DZA
2 DZHA
2 WA
2 ZHA
2 ZA
2 -A
2 YA
2 RA
2 LA
2 SHA
2 SSA
2 SA
2 HA
2 A
2 KSSA
2 FIXED-FORM RA
2 KKA
2 RRA
@F71
1 VOWEL SIGN AA
3 I
3 II
3 U
3 UU
3 VOCALIC R
4 RR
4 L
4 LL
3 E
3 EE
3 O
3 OO
1 SIGN RJES SU NGA RO
2 RNAM BCAD
1 VOWEL SIGN REVERSED I
4 II
1 SIGN NYI ZLA NAA DA
2 SNA LDAN
1 MARK HALANTA
2 PALUTA
1 SIGN LCI RTAGS
2 YANG RTAGS
2 LCE TSA CAN
2 MCHU CAN
2 GRU CAN RGYINGS
3 MED RGYINGS
2 INVERTED MCHU CAN
1 SUBJOINED SIGN LCE TSA CAN
3 MCHU CAN
3 INVERTED MCHU CAN
2 LETTER KA
3 KHA
3 GA
3 GHA
3 NGA
3 CA
3 CHA
3 JA
@F99
3 NYA
3 TTA
3 TTHA
3 DDA
3 DDHA
3 NNA
3 TA
3 THA
3 DA
3 DHA
3 NA
3 PA
3 PHA
3 BA
3 BHA
3 MA
3 TSA
3 TSHA
3 DZA
3 DZHA
3 WA
3 ZHA
3 ZA
3 -A
3 YA
3 RA
3 LA
3 SHA
3 SSA
3 SA
3 HA
3 A
3 KSSA
3 FIXED-FORM WA
4 YA
4 RA
@FBE
1 KU RU KHA
4 BZHI MIG CAN
1 CANTILLATION SIGN HEAVY BEAT
3 LIGHT BEAT
3 CANG TE-U
3 SBUB -CHAL
1 SYMBOL DRIL BU
2 RDO RJE
2 PADMA GDAN
2 RDO RJE RGYA GRAM
2 PHUR PA
2 NOR BU
4 NYIS -KHYIL
4 GSUM -KHYIL
4 BZHI -KHYIL
@FCE
1 SIGN RDEL NAG RDEL DKAR
4 GSUM
1 MARK BSKA- SHOG GI MGO RGYAN
2 MNYAM YIG GI MGO RGYAN
2 NYIS TSHEG
2 INITIAL BRDA RNYING YIG MGO MDUN MA
2 CLOSING BRDA RNYING YIG MGO SGAB MA
0 RIGHT-FACING SVASTI SIGN
0 LEFT-FACING SVASTI SIGN
0 RIGHT-FACING SVASTI SIGN WITH DOTS
0 LEFT-FACING SVASTI SIGN WITH DOTS
0 TIBETAN MARK LEADING MCHAN RTAGS
2 TRAILING MCHAN RTAGS"

end DesignLint.Unicode.Names
