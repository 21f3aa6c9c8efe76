/-! # Names of characters from U+2000 to U+2E7F -/

namespace DesignLint.Unicode.Names

def symbolsNames : String :=
  "@2000
0 EN QUAD
0 EM QUAD
0 EN SPACE
0 EM SPACE
0 THREE-PER-EM SPACE
0 FOUR-PER-EM SPACE
0 SIX-PER-EM SPACE
0 FIGURE SPACE
0 PUNCTUATION SPACE
0 THIN SPACE
0 HAIR SPACE
0 ZERO WIDTH SPACE
2 NON-JOINER
2 JOINER
0 LEFT-TO-RIGHT MARK
0 RIGHT-TO-LEFT MARK
0 HYPHEN
0 NON-BREAKING HYPHEN
0 FIGURE DASH
0 EN DASH
0 EM DASH
0 HORIZONTAL BAR
0 DOUBLE VERTICAL LINE
1 LOW LINE
0 LEFT SINGLE QUOTATION MARK
0 RIGHT SINGLE QUOTATION MARK
0 SINGLE LOW-9 QUOTATION MARK
1 HIGH-REVERSED-9 QUOTATION MARK
0 LEFT DOUBLE QUOTATION MARK
0 RIGHT DOUBLE QUOTATION MARK
0 DOUBLE LOW-9 QUOTATION MARK
1 HIGH-REVERSED-9 QUOTATION MARK
0 DAGGER
0 DOUBLE DAGGER
0 BULLET
0 TRIANGULAR BULLET
0 ONE DOT LEADER
0 TWO DOT LEADER
0 HORIZONTAL ELLIPSIS
0 HYPHENATION POINT
0 LINE SEPARATOR
0 PARAGRAPH SEPARATOR
0 LEFT-TO-RIGHT EMBEDDING
0 RIGHT-TO-LEFT EMBEDDING
0 POP DIRECTIONAL FORMATTING
0 LEFT-TO-RIGHT OVERRIDE
0 RIGHT-TO-LEFT OVERRIDE
0 NARROW NO-BREAK SPACE
0 PER MILLE SIGN
1 TEN THOUSAND SIGN
0 PRIME
0 DOUBLE PRIME
0 TRIPLE PRIME
0 REVERSED PRIME
1 DOUBLE PRIME
1 TRIPLE PRIME
0 CARET
0 SINGLE LEFT-POINTING ANGLE QUOTATION MARK
1 RIGHT-POINTING ANGLE QUOTATION MARK
0 REFERENCE MARK
0 DOUBLE EXCLAMATION MARK
0 INTERROBANG
0 OVERLINE
0 UNDERTIE
0 CHARACTER TIE
0 CARET INSERTION POINT
0 ASTERISM
0 HYPHEN BULLET
0 FRACTION SLASH
0 LEFT SQUARE BRACKET WITH QUILL
0 RIGHT SQUARE BRACKET WITH QUILL
0 DOUBLE QUESTION MARK
0 QUESTION EXCLAMATION MARK
0 EXCLAMATION QUESTION MARK
0 TIRONIAN SIGN ET
0 REVERSED PILCROW SIGN
0 BLACK LEFTWARDS BULLET
1 RIGHTWARDS BULLET
0 LOW ASTERISK
0 REVERSED SEMICOLON
0 CLOSE UP
0 TWO ASTERISKS ALIGNED VERTICALLY
0 COMMERCIAL MINUS SIGN
0 SWUNG DASH
0 INVERTED UNDERTIE
0 FLOWER PUNCTUATION MARK
0 THREE DOT PUNCTUATION
0 QUADRUPLE PRIME
0 FOUR DOT PUNCTUATION
0 FIVE DOT PUNCTUATION
0 TWO DOT PUNCTUATION
0 FOUR DOT MARK
0 DOTTED CROSS
0 TRICOLON
0 VERTICAL FOUR DOTS
0 MEDIUM MATHEMATICAL SPACE
0 WORD JOINER
0 FUNCTION APPLICATION
0 INVISIBLE TIMES
1 SEPARATOR
1 PLUS
@2066
0 LEFT-TO-RIGHT ISOLATE
0 RIGHT-TO-LEFT ISOLATE
0 FIRST STRONG ISOLATE
0 POP DIRECTIONAL ISOLATE
0 INHIBIT SYMMETRIC SWAPPING
0 ACTIVATE SYMMETRIC SWAPPING
0 INHIBIT ARABIC FORM SHAPING
0 ACTIVATE ARABIC FORM SHAPING
0 NATIONAL DIGIT SHAPES
0 NOMINAL DIGIT SHAPES
0 SUPERSCRIPT ZERO
1 LATIN SMALL LETTER I
@2074
1 FOUR
1 FIVE
1 SIX
1 SEVEN
1 EIGHT
1 NINE
1 PLUS SIGN
1 MINUS
1 EQUALS SIGN
1 LEFT PARENTHESIS
1 RIGHT PARENTHESIS
1 LATIN SMALL LETTER N
0 SUBSCRIPT ZERO
1 ONE
1 TWO
1 THREE
1 FOUR
1 FIVE
1 SIX
1 SEVEN
1 EIGHT
1 NINE
1 PLUS SIGN
1 MINUS
1 EQUALS SIGN
1 LEFT PARENTHESIS
1 RIGHT PARENTHESIS
@2090
0 LATIN SUBSCRIPT SMALL LETTER A
4 E
4 O
4 X
4 SCHWA
4 H
4 K
4 L
4 M
4 N
4 P
4 S
4 T
@20A0
0 EURO-CURRENCY SIGN
0 COLON SIGN
0 CRUZEIRO SIGN
0 FRENCH FRANC SIGN
0 LIRA SIGN
0 MILL SIGN
0 NAIRA SIGN
0 PESETA SIGN
0 RUPEE SIGN
0 WON SIGN
0 NEW SHEQEL SIGN
0 DONG SIGN
0 EURO SIGN
0 KIP SIGN
0 TUGRIK SIGN
0 DRACHMA SIGN
0 GERMAN PENNY SIGN
0 PESO SIGN
0 GUARANI SIGN
0 AUSTRAL SIGN
0 HRYVNIA SIGN
0 CEDI SIGN
0 LIVRE TOURNOIS SIGN
0 SPESMILO SIGN
0 TENGE SIGN
0 INDIAN RUPEE SIGN
0 TURKISH LIRA SIGN
0 NORDIC MARK SIGN
0 MANAT SIGN
0 RUBLE SIGN
0 LARI SIGN
0 BITCOIN SIGN
0 SOM SIGN
@20D0
0 COMBINING LEFT HARPOON ABOVE
1 RIGHT HARPOON ABOVE
1 LONG VERTICAL LINE OVERLAY
1 SHORT VERTICAL LINE OVERLAY
1 ANTICLOCKWISE ARROW ABOVE
1 CLOCKWISE ARROW ABOVE
1 LEFT ARROW ABOVE
1 RIGHT ARROW ABOVE
1 RING OVERLAY
1 CLOCKWISE RING OVERLAY
1 ANTICLOCKWISE RING OVERLAY
1 THREE DOTS ABOVE
1 FOUR DOTS ABOVE
1 ENCLOSING CIRCLE
2 SQUARE
2 DIAMOND
2 CIRCLE BACKSLASH
1 LEFT RIGHT ARROW ABOVE
1 ENCLOSING SCREEN
2 KEYCAP
2 UPWARD POINTING TRIANGLE
1 REVERSE SOLIDUS OVERLAY
1 DOUBLE VERTICAL STROKE OVERLAY
1 ANNUITY SYMBOL
1 TRIPLE UNDERDOT
1 WIDE BRIDGE ABOVE
1 LEFTWARDS ARROW OVERLAY
1 LONG DOUBLE SOLIDUS OVERLAY
1 RIGHTWARDS HARPOON WITH BARB DOWNWARDS
1 LEFTWARDS HARPOON WITH BARB DOWNWARDS
1 LEFT ARROW BELOW
1 RIGHT ARROW BELOW
1 ASTERISK ABOVE
@2100
0 ACCOUNT OF
0 ADDRESSED TO THE SUBJECT
0 DOUBLE-STRUCK CAPITAL C
0 DEGREE CELSIUS
0 CENTRE LINE SYMBOL
0 CARE OF
0 CADA UNA
0 EULER CONSTANT
0 SCRUPLE
0 DEGREE FAHRENHEIT
0 SCRIPT SMALL G
1 CAPITAL H
0 BLACK-LETTER CAPITAL H
0 DOUBLE-STRUCK CAPITAL H
0 PLANCK CONSTANT
2 OVER TWO PI
0 SCRIPT CAPITAL I
0 BLACK-LETTER CAPITAL I
0 SCRIPT CAPITAL L
1 SMALL L
0 L B BAR SYMBOL
0 DOUBLE-STRUCK CAPITAL N
0 NUMERO SIGN
0 SOUND RECORDING COPYRIGHT
0 SCRIPT CAPITAL P
0 DOUBLE-STRUCK CAPITAL P
2 Q
0 SCRIPT CAPITAL R
0 BLACK-LETTER CAPITAL R
0 DOUBLE-STRUCK CAPITAL R
0 PRESCRIPTION TAKE
0 RESPONSE
0 SERVICE MARK
0 TELEPHONE SIGN
0 TRADE MARK SIGN
0 VERSICLE
0 DOUBLE-STRUCK CAPITAL Z
0 OUNCE SIGN
0 OHM SIGN
0 INVERTED OHM SIGN
0 BLACK-LETTER CAPITAL Z
0 TURNED GREEK SMALL LETTER IOTA
0 KELVIN SIGN
0 ANGSTROM SIGN
0 SCRIPT CAPITAL B
0 BLACK-LETTER CAPITAL C
0 ESTIMATED SYMBOL
0 SCRIPT SMALL E
1 CAPITAL E
2 F
0 TURNED CAPITAL F
0 SCRIPT CAPITAL M
1 SMALL O
0 ALEF SYMBOL
0 BET SYMBOL
0 GIMEL SYMBOL
0 DALET SYMBOL
0 INFORMATION SOURCE
0 ROTATED CAPITAL Q
0 FACSIMILE SIGN
0 DOUBLE-STRUCK SMALL PI
2 GAMMA
1 CAPITAL GAMMA
2 PI
1 N-ARY SUMMATION
0 TURNED SANS-SERIF CAPITAL G
3 L
0 REVERSED SANS-SERIF CAPITAL L
0 TURNED SANS-SERIF CAPITAL Y
0 DOUBLE-STRUCK ITALIC CAPITAL D
2 SMALL D
3 E
3 I
3 J
0 PROPERTY LINE
0 TURNED AMPERSAND
0 PER SIGN
0 AKTIESELSKAB
0 TURNED SMALL F
0 SYMBOL FOR SAMARITAN SOURCE
0 VULGAR FRACTION ONE SEVENTH
3 NINTH
3 TENTH
3 THIRD
2 TWO THIRDS
2 ONE FIFTH
2 TWO FIFTHS
2 THREE FIFTHS
2 FOUR FIFTHS
2 ONE SIXTH
2 FIVE SIXTHS
2 ONE EIGHTH
2 THREE EIGHTHS
2 FIVE EIGHTHS
2 SEVEN EIGHTHS
0 FRACTION NUMERATOR ONE
0 ROMAN NUMERAL ONE
2 TWO
2 THREE
2 FOUR
2 FIVE
2 SIX
2 SEVEN
2 EIGHT
2 NINE
2 TEN
2 ELEVEN
2 TWELVE
2 FIFTY
2 ONE HUNDRED
2 FIVE HUNDRED
2 ONE THOUSAND
0 SMALL ROMAN NUMERAL ONE
3 TWO
3 THREE
3 FOUR
3 FIVE
3 SIX
3 SEVEN
3 EIGHT
3 NINE
3 TEN
3 ELEVEN
3 TWELVE
3 FIFTY
3 ONE HUNDRED
3 FIVE HUNDRED
3 ONE THOUSAND
0 ROMAN NUMERAL ONE THOUSAND C D
2 FIVE THOUSAND
2 TEN THOUSAND
2 REVERSED ONE HUNDRED
0 LATIN SMALL LETTER REVERSED C
0 ROMAN NUMERAL SIX LATE FORM
2 FIFTY EARLY FORM
3 THOUSAND
2 ONE HUNDRED THOUSAND
0 VULGAR FRACTION ZERO THIRDS
0 TURNED DIGIT TWO
2 THREE
@2190
0 LEFTWARDS ARROW
0 UPWARDS ARROW
0 RIGHTWARDS ARROW
0 DOWNWARDS ARROW
0 LEFT RIGHT ARROW
0 UP DOWN ARROW
0 NORTH WEST ARROW
1 EAST ARROW
0 SOUTH EAST ARROW
1 WEST ARROW
0 LEFTWARDS ARROW WITH STROKE
0 RIGHTWARDS ARROW WITH STROKE
0 LEFTWARDS WAVE ARROW
0 RIGHTWARDS WAVE ARROW
0 LEFTWARDS TWO HEADED ARROW
0 UPWARDS TWO HEADED ARROW
0 RIGHTWARDS TWO HEADED ARROW
0 DOWNWARDS TWO HEADED ARROW
0 LEFTWARDS ARROW WITH TAIL
0 RIGHTWARDS ARROW WITH TAIL
0 LEFTWARDS ARROW FROM BAR
0 UPWARDS ARROW FROM BAR
0 RIGHTWARDS ARROW FROM BAR
0 DOWNWARDS ARROW FROM BAR
0 UP DOWN ARROW WITH BASE
0 LEFTWARDS ARROW WITH HOOK
0 RIGHTWARDS ARROW WITH HOOK
0 LEFTWARDS ARROW WITH LOOP
0 RIGHTWARDS ARROW WITH LOOP
0 LEFT RIGHT WAVE ARROW
2 ARROW WITH STROKE
0 DOWNWARDS ZIGZAG ARROW
0 UPWARDS ARROW WITH TIP LEFTWARDS
4 RIGHTWARDS
0 DOWNWARDS ARROW WITH TIP LEFTWARDS
4 RIGHTWARDS
0 RIGHTWARDS ARROW WITH CORNER DOWNWARDS
0 DOWNWARDS ARROW WITH CORNER LEFTWARDS
0 ANTICLOCKWISE TOP SEMICIRCLE ARROW
0 CLOCKWISE TOP SEMICIRCLE ARROW
0 NORTH WEST ARROW TO LONG BAR
0 LEFTWARDS ARROW TO BAR OVER RIGHTWARDS ARROW TO BAR
0 ANTICLOCKWISE OPEN CIRCLE ARROW
0 CLOCKWISE OPEN CIRCLE ARROW
0 LEFTWARDS HARPOON WITH BARB UPWARDS
4 DOWNWARDS
0 UPWARDS HARPOON WITH BARB RIGHTWARDS
4 LEFTWARDS
0 RIGHTWARDS HARPOON WITH BARB UPWARDS
4 DOWNWARDS
0 DOWNWARDS HARPOON WITH BARB RIGHTWARDS
4 LEFTWARDS
0 RIGHTWARDS ARROW OVER LEFTWARDS ARROW
0 UPWARDS ARROW LEFTWARDS OF DOWNWARDS ARROW
0 LEFTWARDS ARROW OVER RIGHTWARDS ARROW
1 PAIRED ARROWS
0 UPWARDS PAIRED ARROWS
0 RIGHTWARDS PAIRED ARROWS
0 DOWNWARDS PAIRED ARROWS
0 LEFTWARDS HARPOON OVER RIGHTWARDS HARPOON
0 RIGHTWARDS HARPOON OVER LEFTWARDS HARPOON
0 LEFTWARDS DOUBLE ARROW WITH STROKE
0 LEFT RIGHT DOUBLE ARROW WITH STROKE
0 RIGHTWARDS DOUBLE ARROW WITH STROKE
0 LEFTWARDS DOUBLE ARROW
0 UPWARDS DOUBLE ARROW
0 RIGHTWARDS DOUBLE ARROW
0 DOWNWARDS DOUBLE ARROW
0 LEFT RIGHT DOUBLE ARROW
0 UP DOWN DOUBLE ARROW
0 NORTH WEST DOUBLE ARROW
1 EAST DOUBLE ARROW
0 SOUTH EAST DOUBLE ARROW
1 WEST DOUBLE ARROW
0 LEFTWARDS TRIPLE ARROW
0 RIGHTWARDS TRIPLE ARROW
0 LEFTWARDS SQUIGGLE ARROW
0 RIGHTWARDS SQUIGGLE ARROW
0 UPWARDS ARROW WITH DOUBLE STROKE
0 DOWNWARDS ARROW WITH DOUBLE STROKE
0 LEFTWARDS DASHED ARROW
0 UPWARDS DASHED ARROW
0 RIGHTWARDS DASHED ARROW
0 DOWNWARDS DASHED ARROW
0 LEFTWARDS ARROW TO BAR
0 RIGHTWARDS ARROW TO BAR
0 LEFTWARDS WHITE ARROW
0 UPWARDS WHITE ARROW
0 RIGHTWARDS WHITE ARROW
0 DOWNWARDS WHITE ARROW
0 UPWARDS WHITE ARROW FROM BAR
3 ON PEDESTAL
5 WITH HORIZONTAL BAR
6 VERTICAL BAR
2 DOUBLE ARROW
4 ON PEDESTAL
0 RIGHTWARDS WHITE ARROW FROM WALL
0 NORTH WEST ARROW TO CORNER
0 SOUTH EAST ARROW TO CORNER
0 UP DOWN WHITE ARROW
0 RIGHT ARROW WITH SMALL CIRCLE
0 DOWNWARDS ARROW LEFTWARDS OF UPWARDS ARROW
0 THREE RIGHTWARDS ARROWS
0 LEFTWARDS ARROW WITH VERTICAL STROKE
0 RIGHTWARDS ARROW WITH VERTICAL STROKE
0 LEFT RIGHT ARROW WITH VERTICAL STROKE
0 LEFTWARDS ARROW WITH DOUBLE VERTICAL STROKE
0 RIGHTWARDS ARROW WITH DOUBLE VERTICAL STROKE
0 LEFT RIGHT ARROW WITH DOUBLE VERTICAL STROKE
0 LEFTWARDS OPEN-HEADED ARROW
0 RIGHTWARDS OPEN-HEADED ARROW
0 LEFT RIGHT OPEN-HEADED ARROW
0 FOR ALL
0 COMPLEMENT
0 PARTIAL DIFFERENTIAL
0 THERE EXISTS
1 DOES NOT EXIST
0 EMPTY SET
0 INCREMENT
0 NABLA
0 ELEMENT OF
0 NOT AN ELEMENT OF
0 SMALL ELEMENT OF
0 CONTAINS AS MEMBER
0 DOES NOT CONTAIN AS MEMBER
0 SMALL CONTAINS AS MEMBER
0 END OF PROOF
0 N-ARY PRODUCT
1 COPRODUCT
1 SUMMATION
0 MINUS SIGN
0 MINUS-OR-PLUS SIGN
0 DOT PLUS
0 DIVISION SLASH
0 SET MINUS
0 ASTERISK OPERATOR
0 RING OPERATOR
0 BULLET OPERATOR
0 SQUARE ROOT
0 CUBE ROOT
0 FOURTH ROOT
0 PROPORTIONAL TO
0 INFINITY
0 RIGHT ANGLE
0 ANGLE
0 MEASURED ANGLE
0 SPHERICAL ANGLE
0 DIVIDES
0 DOES NOT DIVIDE
0 PARALLEL TO
0 NOT PARALLEL TO
0 LOGICAL AND
1 OR
0 INTERSECTION
0 UNION
0 INTEGRAL
0 DOUBLE INTEGRAL
0 TRIPLE INTEGRAL
0 CONTOUR INTEGRAL
0 SURFACE INTEGRAL
0 VOLUME INTEGRAL
0 CLOCKWISE INTEGRAL
1 CONTOUR INTEGRAL
0 ANTICLOCKWISE CONTOUR INTEGRAL
0 THEREFORE
0 BECAUSE
0 RATIO
0 PROPORTION
0 DOT MINUS
0 EXCESS
0 GEOMETRIC PROPORTION
0 HOMOTHETIC
0 TILDE OPERATOR
0 REVERSED TILDE
0 INVERTED LAZY S
0 SINE WAVE
0 WREATH PRODUCT
0 NOT TILDE
0 MINUS TILDE
0 ASYMPTOTICALLY EQUAL TO
0 NOT ASYMPTOTICALLY EQUAL TO
0 APPROXIMATELY EQUAL TO
1 BUT NOT ACTUALLY EQUAL TO
0 NEITHER APPROXIMATELY NOR ACTUALLY EQUAL TO
0 ALMOST EQUAL TO
0 NOT ALMOST EQUAL TO
0 ALMOST EQUAL OR EQUAL TO
0 TRIPLE TILDE
0 ALL EQUAL TO
0 EQUIVALENT TO
0 GEOMETRICALLY EQUIVALENT TO
0 DIFFERENCE BETWEEN
0 APPROACHES THE LIMIT
0 GEOMETRICALLY EQUAL TO
0 APPROXIMATELY EQUAL TO OR THE IMAGE OF
0 IMAGE OF OR APPROXIMATELY EQUAL TO
0 COLON EQUALS
0 EQUALS COLON
0 RING IN EQUAL TO
1 EQUAL TO
0 CORRESPONDS TO
0 ESTIMATES
0 EQUIANGULAR TO
0 STAR EQUALS
0 DELTA EQUAL TO
0 EQUAL TO BY DEFINITION
0 MEASURED BY
0 QUESTIONED EQUAL TO
0 NOT EQUAL TO
0 IDENTICAL TO
0 NOT IDENTICAL TO
0 STRICTLY EQUIVALENT TO
0 LESS-THAN OR EQUAL TO
0 GREATER-THAN OR EQUAL TO
0 LESS-THAN OVER EQUAL TO
0 GREATER-THAN OVER EQUAL TO
0 LESS-THAN BUT NOT EQUAL TO
0 GREATER-THAN BUT NOT EQUAL TO
0 MUCH LESS-THAN
1 GREATER-THAN
0 BETWEEN
0 NOT EQUIVALENT TO
1 LESS-THAN
1 GREATER-THAN
0 NEITHER LESS-THAN NOR EQUAL TO
1 GREATER-THAN NOR EQUAL TO
0 LESS-THAN OR EQUIVALENT TO
0 GREATER-THAN OR EQUIVALENT TO
0 NEITHER LESS-THAN NOR EQUIVALENT TO
1 GREATER-THAN NOR EQUIVALENT TO
0 LESS-THAN OR GREATER-THAN
0 GREATER-THAN OR LESS-THAN
0 NEITHER LESS-THAN NOR GREATER-THAN
1 GREATER-THAN NOR LESS-THAN
0 PRECEDES
0 SUCCEEDS
0 PRECEDES OR EQUAL TO
0 SUCCEEDS OR EQUAL TO
0 PRECEDES OR EQUIVALENT TO
0 SUCCEEDS OR EQUIVALENT TO
0 DOES NOT PRECEDE
2 SUCCEED
0 SUBSET OF
0 SUPERSET OF
0 NOT A SUBSET OF
2 SUPERSET OF
0 SUBSET OF OR EQUAL TO
0 SUPERSET OF OR EQUAL TO
0 NEITHER A SUBSET OF NOR EQUAL TO
2 SUPERSET OF NOR EQUAL TO
0 SUBSET OF WITH NOT EQUAL TO
0 SUPERSET OF WITH NOT EQUAL TO
0 MULTISET
1 MULTIPLICATION
1 UNION
0 SQUARE IMAGE OF
1 ORIGINAL OF
1 IMAGE OF OR EQUAL TO
1 ORIGINAL OF OR EQUAL TO
1 CAP
1 CUP
0 CIRCLED PLUS
1 MINUS
1 TIMES
1 DIVISION SLASH
1 DOT OPERATOR
1 RING OPERATOR
1 ASTERISK OPERATOR
1 EQUALS
1 DASH
0 SQUARED PLUS
1 MINUS
1 TIMES
1 DOT OPERATOR
0 RIGHT TACK
0 LEFT TACK
0 DOWN TACK
0 UP TACK
0 ASSERTION
0 MODELS
0 TRUE
0 FORCES
0 TRIPLE VERTICAL BAR RIGHT TURNSTILE
0 DOUBLE VERTICAL BAR DOUBLE RIGHT TURNSTILE
0 DOES NOT PROVE
0 NOT TRUE
0 DOES NOT FORCE
0 NEGATED DOUBLE VERTICAL BAR DOUBLE RIGHT TURNSTILE
0 PRECEDES UNDER RELATION
0 SUCCEEDS UNDER RELATION
0 NORMAL SUBGROUP OF
0 CONTAINS AS NORMAL SUBGROUP
0 NORMAL SUBGROUP OF OR EQUAL TO
0 CONTAINS AS NORMAL SUBGROUP OR EQUAL TO
0 ORIGINAL OF
0 IMAGE OF
0 MULTIMAP
0 HERMITIAN CONJUGATE MATRIX
0 INTERCALATE
0 XOR
0 NAND
0 NOR
0 RIGHT ANGLE WITH ARC
1 TRIANGLE
0 N-ARY LOGICAL AND
2 OR
1 INTERSECTION
1 UNION
0 DIAMOND OPERATOR
0 DOT OPERATOR
0 STAR OPERATOR
0 DIVISION TIMES
0 BOWTIE
0 LEFT NORMAL FACTOR SEMIDIRECT PRODUCT
0 RIGHT NORMAL FACTOR SEMIDIRECT PRODUCT
0 LEFT SEMIDIRECT PRODUCT
0 RIGHT SEMIDIRECT PRODUCT
0 REVERSED TILDE EQUALS
0 CURLY LOGICAL OR
2 AND
0 DOUBLE SUBSET
1 SUPERSET
1 INTERSECTION
1 UNION
0 PITCHFORK
0 EQUAL AND PARALLEL TO
0 LESS-THAN WITH DOT
0 GREATER-THAN WITH DOT
0 VERY MUCH LESS-THAN
2 GREATER-THAN
0 LESS-THAN EQUAL TO OR GREATER-THAN
0 GREATER-THAN EQUAL TO OR LESS-THAN
0 EQUAL TO OR LESS-THAN
3 GREATER-THAN
3 PRECEDES
3 SUCCEEDS
0 DOES NOT PRECEDE OR EQUAL
2 SUCCEED OR EQUAL
0 NOT SQUARE IMAGE OF OR EQUAL TO
2 ORIGINAL OF OR EQUAL TO
0 SQUARE IMAGE OF OR NOT EQUAL TO
1 ORIGINAL OF OR NOT EQUAL TO
0 LESS-THAN BUT NOT EQUIVALENT TO
0 GREATER-THAN BUT NOT EQUIVALENT TO
0 PRECEDES BUT NOT EQUIVALENT TO
0 SUCCEEDS BUT NOT EQUIVALENT TO
0 NOT NORMAL SUBGROUP OF
0 DOES NOT CONTAIN AS NORMAL SUBGROUP
0 NOT NORMAL SUBGROUP OF OR EQUAL TO
0 DOES NOT CONTAIN AS NORMAL SUBGROUP OR EQUAL
0 VERTICAL ELLIPSIS
0 MIDLINE HORIZONTAL ELLIPSIS
0 UP RIGHT DIAGONAL ELLIPSIS
0 DOWN RIGHT DIAGONAL ELLIPSIS
0 ELEMENT OF WITH LONG HORIZONTAL STROKE
3 VERTICAL BAR AT END OF HORIZONTAL STROKE
0 SMALL ELEMENT OF WITH VERTICAL BAR AT END OF HORIZONTAL STROKE
0 ELEMENT OF WITH DOT ABOVE
3 OVERBAR
0 SMALL ELEMENT OF WITH OVERBAR
0 ELEMENT OF WITH UNDERBAR
3 TWO HORIZONTAL STROKES
0 CONTAINS WITH LONG HORIZONTAL STROKE
2 VERTICAL BAR AT END OF HORIZONTAL STROKE
0 SMALL CONTAINS WITH VERTICAL BAR AT END OF HORIZONTAL STROKE
0 CONTAINS WITH OVERBAR
0 SMALL CONTAINS WITH OVERBAR
0 Z NOTATION BAG MEMBERSHIP
0 DIAMETER SIGN
0 ELECTRIC ARROW
0 HOUSE
0 UP ARROWHEAD
0 DOWN ARROWHEAD
0 PROJECTIVE
0 PERSPECTIVE
0 WAVY LINE
0 LEFT CEILING
0 RIGHT CEILING
0 LEFT FLOOR
0 RIGHT FLOOR
0 BOTTOM RIGHT CROP
1 LEFT CROP
0 TOP RIGHT CROP
1 LEFT CROP
0 REVERSED NOT SIGN
0 SQUARE LOZENGE
0 ARC
0 SEGMENT
0 SECTOR
0 TELEPHONE RECORDER
0 POSITION INDICATOR
0 VIEWDATA SQUARE
0 PLACE OF INTEREST SIGN
0 TURNED NOT SIGN
0 WATCH
0 HOURGLASS
0 TOP LEFT CORNER
1 RIGHT CORNER
0 BOTTOM LEFT CORNER
1 RIGHT CORNER
0 TOP HALF INTEGRAL
0 BOTTOM HALF INTEGRAL
0 FROWN
0 SMILE
0 UP ARROWHEAD BETWEEN TWO HORIZONTAL BARS
0 OPTION KEY
0 ERASE TO THE RIGHT
0 X IN A RECTANGLE BOX
0 KEYBOARD
0 LEFT-POINTING ANGLE BRACKET
0 RIGHT-POINTING ANGLE BRACKET
0 ERASE TO THE LEFT
0 BENZENE RING
0 CYLINDRICITY
0 ALL AROUND-PROFILE
0 SYMMETRY
0 TOTAL RUNOUT
0 DIMENSION ORIGIN
0 CONICAL TAPER
0 SLOPE
0 COUNTERBORE
0 COUNTERSINK
0 APL FUNCTIONAL SYMBOL I-BEAM
3 SQUISH QUAD
3 QUAD EQUAL
4 DIVIDE
4 DIAMOND
4 JOT
4 CIRCLE
3 CIRCLE STILE
4 JOT
3 SLASH BAR
3 BACKSLASH BAR
3 QUAD SLASH
4 BACKSLASH
4 LESS-THAN
4 GREATER-THAN
3 LEFTWARDS VANE
3 RIGHTWARDS VANE
3 QUAD LEFTWARDS ARROW
4 RIGHTWARDS ARROW
3 CIRCLE BACKSLASH
3 DOWN TACK UNDERBAR
3 DELTA STILE
3 QUAD DOWN CARET
4 DELTA
3 DOWN TACK JOT
3 UPWARDS VANE
3 QUAD UPWARDS ARROW
3 UP TACK OVERBAR
3 DEL STILE
3 QUAD UP CARET
4 DEL
3 UP TACK JOT
3 DOWNWARDS VANE
3 QUAD DOWNWARDS ARROW
3 QUOTE UNDERBAR
3 DELTA UNDERBAR
3 DIAMOND UNDERBAR
3 JOT UNDERBAR
3 CIRCLE UNDERBAR
3 UP SHOE JOT
3 QUOTE QUAD
3 CIRCLE STAR
3 QUAD COLON
3 UP TACK DIAERESIS
3 DEL DIAERESIS
3 STAR DIAERESIS
3 JOT DIAERESIS
3 CIRCLE DIAERESIS
3 DOWN SHOE STILE
3 LEFT SHOE STILE
3 TILDE DIAERESIS
3 GREATER-THAN DIAERESIS
3 COMMA BAR
3 DEL TILDE
3 ZILDE
3 STILE TILDE
3 SEMICOLON UNDERBAR
3 QUAD NOT EQUAL
4 QUESTION
3 DOWN CARET TILDE
3 UP CARET TILDE
3 IOTA
3 RHO
3 OMEGA
3 ALPHA UNDERBAR
3 EPSILON UNDERBAR
3 IOTA UNDERBAR
3 OMEGA UNDERBAR
3 ALPHA
0 NOT CHECK MARK
0 RIGHT ANGLE WITH DOWNWARDS ZIGZAG ARROW
0 SHOULDERED OPEN BOX
0 BELL SYMBOL
0 VERTICAL LINE WITH MIDDLE DOT
0 INSERTION SYMBOL
0 CONTINUOUS UNDERLINE SYMBOL
0 DISCONTINUOUS UNDERLINE SYMBOL
0 EMPHASIS SYMBOL
0 COMPOSITION SYMBOL
0 WHITE SQUARE WITH CENTRE VERTICAL LINE
0 ENTER SYMBOL
0 ALTERNATIVE KEY SYMBOL
0 HELM SYMBOL
0 CIRCLED HORIZONTAL BAR WITH NOTCH
1 TRIANGLE DOWN
0 BROKEN CIRCLE WITH NORTHWEST ARROW
0 UNDO SYMBOL
0 MONOSTABLE SYMBOL
0 HYSTERESIS SYMBOL
0 OPEN-CIRCUIT-OUTPUT H-TYPE SYMBOL
1 L-TYPE SYMBOL
0 PASSIVE-PULL-DOWN-OUTPUT SYMBOL
0 PASSIVE-PULL-UP-OUTPUT SYMBOL
0 DIRECT CURRENT SYMBOL FORM TWO
0 SOFTWARE-FUNCTION SYMBOL
0 APL FUNCTIONAL SYMBOL QUAD
0 DECIMAL SEPARATOR KEY SYMBOL
0 PREVIOUS PAGE
0 NEXT PAGE
0 PRINT SCREEN SYMBOL
0 CLEAR SCREEN SYMBOL
0 LEFT PARENTHESIS UPPER HOOK
2 EXTENSION
2 LOWER HOOK
0 RIGHT PARENTHESIS UPPER HOOK
2 EXTENSION
2 LOWER HOOK
0 LEFT SQUARE BRACKET UPPER CORNER
3 EXTENSION
3 LOWER CORNER
0 RIGHT SQUARE BRACKET UPPER CORNER
3 EXTENSION
3 LOWER CORNER
0 LEFT CURLY BRACKET UPPER HOOK
3 MIDDLE PIECE
3 LOWER HOOK
0 CURLY BRACKET EXTENSION
0 RIGHT CURLY BRACKET UPPER HOOK
3 MIDDLE PIECE
3 LOWER HOOK
0 INTEGRAL EXTENSION
0 HORIZONTAL LINE EXTENSION
0 UPPER LEFT OR LOWER RIGHT CURLY BRACKET SECTION
1 RIGHT OR LOWER LEFT CURLY BRACKET SECTION
0 SUMMATION TOP
1 BOTTOM
0 TOP SQUARE BRACKET
0 BOTTOM SQUARE BRACKET
3 OVER TOP SQUARE BRACKET
0 RADICAL SYMBOL BOTTOM
0 LEFT VERTICAL BOX LINE
0 RIGHT VERTICAL BOX LINE
0 HORIZONTAL SCAN LINE-1
2 LINE-3
2 LINE-7
2 LINE-9
0 DENTISTRY SYMBOL LIGHT VERTICAL AND TOP RIGHT
5 BOTTOM RIGHT
4 WITH CIRCLE
3 DOWN AND HORIZONTAL WITH CIRCLE
3 UP AND HORIZONTAL WITH CIRCLE
3 VERTICAL WITH TRIANGLE
3 DOWN AND HORIZONTAL WITH TRIANGLE
3 UP AND HORIZONTAL WITH TRIANGLE
3 VERTICAL AND WAVE
3 DOWN AND HORIZONTAL WITH WAVE
3 UP AND HORIZONTAL WITH WAVE
3 DOWN AND HORIZONTAL
3 UP AND HORIZONTAL
3 VERTICAL AND TOP LEFT
5 BOTTOM LEFT
0 SQUARE FOOT
0 RETURN SYMBOL
0 EJECT SYMBOL
0 VERTICAL LINE EXTENSION
0 METRICAL BREVE
1 LONG OVER SHORT
1 SHORT OVER LONG
1 LONG OVER TWO SHORTS
1 TWO SHORTS OVER LONG
3 JOINED
1 TRISEME
1 TETRASEME
1 PENTASEME
0 EARTH GROUND
0 FUSE
0 TOP PARENTHESIS
0 BOTTOM PARENTHESIS
0 TOP CURLY BRACKET
0 BOTTOM CURLY BRACKET
0 TOP TORTOISE SHELL BRACKET
0 BOTTOM TORTOISE SHELL BRACKET
0 WHITE TRAPEZIUM
0 BENZENE RING WITH CIRCLE
0 STRAIGHTNESS
0 FLATNESS
0 AC CURRENT
0 ELECTRICAL INTERSECTION
0 DECIMAL EXPONENT SYMBOL
0 BLACK RIGHT-POINTING DOUBLE TRIANGLE
1 LEFT-POINTING DOUBLE TRIANGLE
1 UP-POINTING DOUBLE TRIANGLE
1 DOWN-POINTING DOUBLE TRIANGLE
1 RIGHT-POINTING DOUBLE TRIANGLE WITH VERTICAL BAR
1 LEFT-POINTING DOUBLE TRIANGLE WITH VERTICAL BAR
1 RIGHT-POINTING TRIANGLE WITH DOUBLE VERTICAL BAR
0 ALARM CLOCK
0 STOPWATCH
0 TIMER CLOCK
0 HOURGLASS WITH FLOWING SAND
0 BLACK MEDIUM LEFT-POINTING TRIANGLE
2 RIGHT-POINTING TRIANGLE
2 UP-POINTING TRIANGLE
2 DOWN-POINTING TRIANGLE
0 DOUBLE VERTICAL BAR
0 BLACK SQUARE FOR STOP
1 CIRCLE FOR RECORD
0 POWER SYMBOL
1 ON-OFF SYMBOL
1 ON SYMBOL
1 SLEEP SYMBOL
0 OBSERVER EYE SYMBOL
0 SYMBOL FOR NULL
2 START OF HEADING
4 TEXT
2 END OF TEXT
4 TRANSMISSION
2 ENQUIRY
2 ACKNOWLEDGE
2 BELL
2 BACKSPACE
2 HORIZONTAL TABULATION
2 LINE FEED
2 VERTICAL TABULATION
2 FORM FEED
2 CARRIAGE RETURN
2 SHIFT OUT
3 IN
2 DATA LINK ESCAPE
2 DEVICE CONTROL ONE
4 TWO
4 THREE
4 FOUR
2 NEGATIVE ACKNOWLEDGE
2 SYNCHRONOUS IDLE
2 END OF TRANSMISSION BLOCK
2 CANCEL
2 END OF MEDIUM
2 SUBSTITUTE
2 ESCAPE
2 FILE SEPARATOR
2 GROUP SEPARATOR
2 RECORD SEPARATOR
2 UNIT SEPARATOR
2 SPACE
2 DELETE
0 BLANK SYMBOL
0 OPEN BOX
0 SYMBOL FOR NEWLINE
2 DELETE FORM TWO
2 SUBSTITUTE FORM TWO
@2440
0 OCR HOOK
1 CHAIR
1 FORK
1 INVERTED FORK
1 BELT BUCKLE
1 BOW TIE
1 BRANCH BANK IDENTIFICATION
1 AMOUNT OF CHECK
1 DASH
1 CUSTOMER ACCOUNT NUMBER
1 DOUBLE BACKSLASH
@2460
0 CIRCLED DIGIT ONE
2 TWO
2 THREE
2 FOUR
2 FIVE
2 SIX
2 SEVEN
2 EIGHT
2 NINE
1 NUMBER TEN
2 ELEVEN
2 TWELVE
2 THIRTEEN
2 FOURTEEN
2 FIFTEEN
2 SIXTEEN
2 SEVENTEEN
2 EIGHTEEN
2 NINETEEN
2 TWENTY
0 PARENTHESIZED DIGIT ONE
2 TWO
2 THREE
2 FOUR
2 FIVE
2 SIX
2 SEVEN
2 EIGHT
2 NINE
1 NUMBER TEN
2 ELEVEN
2 TWELVE
2 THIRTEEN
2 FOURTEEN
2 FIFTEEN
2 SIXTEEN
2 SEVENTEEN
2 EIGHTEEN
2 NINETEEN
2 TWENTY
0 DIGIT ONE FULL STOP
1 TWO FULL STOP
1 THREE FULL STOP
1 FOUR FULL STOP
1 FIVE FULL STOP
1 SIX FULL STOP
1 SEVEN FULL STOP
1 EIGHT FULL STOP
1 NINE FULL STOP
0 NUMBER TEN FULL STOP
1 ELEVEN FULL STOP
1 TWELVE FULL STOP
1 THIRTEEN FULL STOP
1 FOURTEEN FULL STOP
1 FIFTEEN FULL STOP
1 SIXTEEN FULL STOP
1 SEVENTEEN FULL STOP
1 EIGHTEEN FULL STOP
1 NINETEEN FULL STOP
1 TWENTY FULL STOP
0 PARENTHESIZED LATIN SMALL LETTER A
4 B
4 C
4 D
4 E
4 F
4 G
4 H
4 I
4 J
4 K
4 L
4 M
4 N
4 O
4 P
4 Q
4 R
4 S
4 T
4 U
4 V
4 W
4 X
4 Y
4 Z
0 CIRCLED LATIN CAPITAL LETTER A
4 B
4 C
4 D
4 E
4 F
4 G
4 H
4 I
4 J
4 K
4 L
4 M
4 N
4 O
4 P
4 Q
4 R
4 S
4 T
4 U
4 V
4 W
4 X
4 Y
4 Z
2 SMALL LETTER A
4 B
4 C
4 D
4 E
4 F
4 G
4 H
4 I
4 J
4 K
4 L
4 M
4 N
4 O
4 P
4 Q
4 R
4 S
4 T
4 U
4 V
4 W
4 X
4 Y
4 Z
1 DIGIT ZERO
0 NEGATIVE CIRCLED NUMBER ELEVEN
3 TWELVE
3 THIRTEEN
3 FOURTEEN
3 FIFTEEN
3 SIXTEEN
3 SEVENTEEN
3 EIGHTEEN
3 NINETEEN
3 TWENTY
0 DOUBLE CIRCLED DIGIT ONE
3 TWO
3 THREE
3 FOUR
3 FIVE
3 SIX
3 SEVEN
3 EIGHT
3 NINE
2 NUMBER TEN
0 NEGATIVE CIRCLED DIGIT ZERO
0 BOX DRAWINGS LIGHT HORIZONTAL
2 HEAVY HORIZONTAL
2 LIGHT VERTICAL
2 HEAVY VERTICAL
2 LIGHT TRIPLE DASH HORIZONTAL
2 HEAVY TRIPLE DASH HORIZONTAL
2 LIGHT TRIPLE DASH VERTICAL
2 HEAVY TRIPLE DASH VERTICAL
2 LIGHT QUADRUPLE DASH HORIZONTAL
2 HEAVY QUADRUPLE DASH HORIZONTAL
2 LIGHT QUADRUPLE DASH VERTICAL
2 HEAVY QUADRUPLE DASH VERTICAL
2 LIGHT DOWN AND RIGHT
2 DOWN LIGHT AND RIGHT HEAVY
3 HEAVY AND RIGHT LIGHT
2 HEAVY DOWN AND RIGHT
2 LIGHT DOWN AND LEFT
2 DOWN LIGHT AND LEFT HEAVY
3 HEAVY AND LEFT LIGHT
2 HEAVY DOWN AND LEFT
2 LIGHT UP AND RIGHT
2 UP LIGHT AND RIGHT HEAVY
3 HEAVY AND RIGHT LIGHT
2 HEAVY UP AND RIGHT
2 LIGHT UP AND LEFT
2 UP LIGHT AND LEFT HEAVY
3 HEAVY AND LEFT LIGHT
2 HEAVY UP AND LEFT
2 LIGHT VERTICAL AND RIGHT
2 VERTICAL LIGHT AND RIGHT HEAVY
2 UP HEAVY AND RIGHT DOWN LIGHT
2 DOWN HEAVY AND RIGHT UP LIGHT
2 VERTICAL HEAVY AND RIGHT LIGHT
2 DOWN LIGHT AND RIGHT UP HEAVY
2 UP LIGHT AND RIGHT DOWN HEAVY
2 HEAVY VERTICAL AND RIGHT
2 LIGHT VERTICAL AND LEFT
2 VERTICAL LIGHT AND LEFT HEAVY
2 UP HEAVY AND LEFT DOWN LIGHT
2 DOWN HEAVY AND LEFT UP LIGHT
2 VERTICAL HEAVY AND LEFT LIGHT
2 DOWN LIGHT AND LEFT UP HEAVY
2 UP LIGHT AND LEFT DOWN HEAVY
2 HEAVY VERTICAL AND LEFT
2 LIGHT DOWN AND HORIZONTAL
2 LEFT HEAVY AND RIGHT DOWN LIGHT
2 RIGHT HEAVY AND LEFT DOWN LIGHT
2 DOWN LIGHT AND HORIZONTAL HEAVY
3 HEAVY AND HORIZONTAL LIGHT
2 RIGHT LIGHT AND LEFT DOWN HEAVY
2 LEFT LIGHT AND RIGHT DOWN HEAVY
2 HEAVY DOWN AND HORIZONTAL
2 LIGHT UP AND HORIZONTAL
2 LEFT HEAVY AND RIGHT UP LIGHT
2 RIGHT HEAVY AND LEFT UP LIGHT
2 UP LIGHT AND HORIZONTAL HEAVY
3 HEAVY AND HORIZONTAL LIGHT
2 RIGHT LIGHT AND LEFT UP HEAVY
2 LEFT LIGHT AND RIGHT UP HEAVY
2 HEAVY UP AND HORIZONTAL
2 LIGHT VERTICAL AND HORIZONTAL
2 LEFT HEAVY AND RIGHT VERTICAL LIGHT
2 RIGHT HEAVY AND LEFT VERTICAL LIGHT
2 VERTICAL LIGHT AND HORIZONTAL HEAVY
2 UP HEAVY AND DOWN HORIZONTAL LIGHT
2 DOWN HEAVY AND UP HORIZONTAL LIGHT
2 VERTICAL HEAVY AND HORIZONTAL LIGHT
2 LEFT UP HEAVY AND RIGHT DOWN LIGHT
2 RIGHT UP HEAVY AND LEFT DOWN LIGHT
2 LEFT DOWN HEAVY AND RIGHT UP LIGHT
2 RIGHT DOWN HEAVY AND LEFT UP LIGHT
2 DOWN LIGHT AND UP HORIZONTAL HEAVY
2 UP LIGHT AND DOWN HORIZONTAL HEAVY
2 RIGHT LIGHT AND LEFT VERTICAL HEAVY
2 LEFT LIGHT AND RIGHT VERTICAL HEAVY
2 HEAVY VERTICAL AND HORIZONTAL
2 LIGHT DOUBLE DASH HORIZONTAL
2 HEAVY DOUBLE DASH HORIZONTAL
2 LIGHT DOUBLE DASH VERTICAL
2 HEAVY DOUBLE DASH VERTICAL
2 DOUBLE HORIZONTAL
3 VERTICAL
2 DOWN SINGLE AND RIGHT DOUBLE
3 DOUBLE AND RIGHT SINGLE
2 DOUBLE DOWN AND RIGHT
2 DOWN SINGLE AND LEFT DOUBLE
3 DOUBLE AND LEFT SINGLE
2 DOUBLE DOWN AND LEFT
2 UP SINGLE AND RIGHT DOUBLE
3 DOUBLE AND RIGHT SINGLE
2 DOUBLE UP AND RIGHT
2 UP SINGLE AND LEFT DOUBLE
3 DOUBLE AND LEFT SINGLE
2 DOUBLE UP AND LEFT
2 VERTICAL SINGLE AND RIGHT DOUBLE
3 DOUBLE AND RIGHT SINGLE
2 DOUBLE VERTICAL AND RIGHT
2 VERTICAL SINGLE AND LEFT DOUBLE
3 DOUBLE AND LEFT SINGLE
2 DOUBLE VERTICAL AND LEFT
2 DOWN SINGLE AND HORIZONTAL DOUBLE
3 DOUBLE AND HORIZONTAL SINGLE
2 DOUBLE DOWN AND HORIZONTAL
2 UP SINGLE AND HORIZONTAL DOUBLE
3 DOUBLE AND HORIZONTAL SINGLE
2 DOUBLE UP AND HORIZONTAL
2 VERTICAL SINGLE AND HORIZONTAL DOUBLE
3 DOUBLE AND HORIZONTAL SINGLE
2 DOUBLE VERTICAL AND HORIZONTAL
2 LIGHT ARC DOWN AND RIGHT
6 LEFT
4 UP AND LEFT
6 RIGHT
3 DIAGONAL UPPER RIGHT TO LOWER LEFT
5 LEFT TO LOWER RIGHT
4 CROSS
3 LEFT
3 UP
3 RIGHT
3 DOWN
2 HEAVY LEFT
3 UP
3 RIGHT
3 DOWN
2 LIGHT LEFT AND HEAVY RIGHT
3 UP AND HEAVY DOWN
2 HEAVY LEFT AND LIGHT RIGHT
3 UP AND LIGHT DOWN
0 UPPER HALF BLOCK
0 LOWER ONE EIGHTH BLOCK
2 QUARTER BLOCK
1 THREE EIGHTHS BLOCK
1 HALF BLOCK
1 FIVE EIGHTHS BLOCK
1 THREE QUARTERS BLOCK
1 SEVEN EIGHTHS BLOCK
0 FULL BLOCK
0 LEFT SEVEN EIGHTHS BLOCK
1 THREE QUARTERS BLOCK
1 FIVE EIGHTHS BLOCK
1 HALF BLOCK
1 THREE EIGHTHS BLOCK
1 ONE QUARTER BLOCK
2 EIGHTH BLOCK
0 RIGHT HALF BLOCK
0 LIGHT SHADE
0 MEDIUM SHADE
0 DARK SHADE
0 UPPER ONE EIGHTH BLOCK
0 RIGHT ONE EIGHTH BLOCK
0 QUADRANT LOWER LEFT
2 RIGHT
1 UPPER LEFT
3 AND LOWER LEFT AND LOWER RIGHT
5 RIGHT
4 UPPER RIGHT AND LOWER LEFT
8 RIGHT
2 RIGHT
3 AND LOWER LEFT
6 AND LOWER RIGHT
0 BLACK SQUARE
0 WHITE SQUARE
2 WITH ROUNDED CORNERS
2 CONTAINING BLACK SMALL SQUARE
0 SQUARE WITH HORIZONTAL FILL
2 VERTICAL FILL
2 ORTHOGONAL CROSSHATCH FILL
2 UPPER LEFT TO LOWER RIGHT FILL
3 RIGHT TO LOWER LEFT FILL
2 DIAGONAL CROSSHATCH FILL
0 BLACK SMALL SQUARE
0 WHITE SMALL SQUARE
0 BLACK RECTANGLE
0 WHITE RECTANGLE
0 BLACK VERTICAL RECTANGLE
0 WHITE VERTICAL RECTANGLE
0 BLACK PARALLELOGRAM
0 WHITE PARALLELOGRAM
0 BLACK UP-POINTING TRIANGLE
0 WHITE UP-POINTING TRIANGLE
0 BLACK UP-POINTING SMALL TRIANGLE
0 WHITE UP-POINTING SMALL TRIANGLE
0 BLACK RIGHT-POINTING TRIANGLE
0 WHITE RIGHT-POINTING TRIANGLE
0 BLACK RIGHT-POINTING SMALL TRIANGLE
0 WHITE RIGHT-POINTING SMALL TRIANGLE
0 BLACK RIGHT-POINTING POINTER
0 WHITE RIGHT-POINTING POINTER
0 BLACK DOWN-POINTING TRIANGLE
0 WHITE DOWN-POINTING TRIANGLE
0 BLACK DOWN-POINTING SMALL TRIANGLE
0 WHITE DOWN-POINTING SMALL TRIANGLE
0 BLACK LEFT-POINTING TRIANGLE
0 WHITE LEFT-POINTING TRIANGLE
0 BLACK LEFT-POINTING SMALL TRIANGLE
0 WHITE LEFT-POINTING SMALL TRIANGLE
0 BLACK LEFT-POINTING POINTER
0 WHITE LEFT-POINTING POINTER
0 BLACK DIAMOND
0 WHITE DIAMOND
2 CONTAINING BLACK SMALL DIAMOND
0 FISHEYE
0 LOZENGE
0 WHITE CIRCLE
0 DOTTED CIRCLE
0 CIRCLE WITH VERTICAL FILL
0 BULLSEYE
0 BLACK CIRCLE
0 CIRCLE WITH LEFT HALF BLACK
2 RIGHT HALF BLACK
2 LOWER HALF BLACK
2 UPPER HALF BLACK
3 RIGHT QUADRANT BLACK
2 ALL BUT UPPER LEFT QUADRANT BLACK
0 LEFT HALF BLACK CIRCLE
0 RIGHT HALF BLACK CIRCLE
0 INVERSE BULLET
1 WHITE CIRCLE
0 UPPER HALF INVERSE WHITE CIRCLE
0 LOWER HALF INVERSE WHITE CIRCLE
0 UPPER LEFT QUADRANT CIRCULAR ARC
1 RIGHT QUADRANT CIRCULAR ARC
0 LOWER RIGHT QUADRANT CIRCULAR ARC
1 LEFT QUADRANT CIRCULAR ARC
0 UPPER HALF CIRCLE
0 LOWER HALF CIRCLE
0 BLACK LOWER RIGHT TRIANGLE
2 LEFT TRIANGLE
1 UPPER LEFT TRIANGLE
2 RIGHT TRIANGLE
0 WHITE BULLET
0 SQUARE WITH LEFT HALF BLACK
2 RIGHT HALF BLACK
2 UPPER LEFT DIAGONAL HALF BLACK
2 LOWER RIGHT DIAGONAL HALF BLACK
0 WHITE SQUARE WITH VERTICAL BISECTING LINE
1 UP-POINTING TRIANGLE WITH DOT
0 UP-POINTING TRIANGLE WITH LEFT HALF BLACK
3 RIGHT HALF BLACK
0 LARGE CIRCLE
0 WHITE SQUARE WITH UPPER LEFT QUADRANT
3 LOWER LEFT QUADRANT
4 RIGHT QUADRANT
3 UPPER RIGHT QUADRANT
1 CIRCLE WITH UPPER LEFT QUADRANT
3 LOWER LEFT QUADRANT
4 RIGHT QUADRANT
3 UPPER RIGHT QUADRANT
0 UPPER LEFT TRIANGLE
1 RIGHT TRIANGLE
0 LOWER LEFT TRIANGLE
0 WHITE MEDIUM SQUARE
0 BLACK MEDIUM SQUARE
0 WHITE MEDIUM SMALL SQUARE
0 BLACK MEDIUM SMALL SQUARE
0 LOWER RIGHT TRIANGLE
0 BLACK SUN WITH RAYS
0 CLOUD
0 UMBRELLA
0 SNOWMAN
0 COMET
0 BLACK STAR
0 WHITE STAR
0 LIGHTNING
0 THUNDERSTORM
0 SUN
0 ASCENDING NODE
0 DESCENDING NODE
0 CONJUNCTION
0 OPPOSITION
0 BLACK TELEPHONE
0 WHITE TELEPHONE
0 BALLOT BOX
2 WITH CHECK
3 X
0 SALTIRE
0 UMBRELLA WITH RAIN DROPS
0 HOT BEVERAGE
0 WHITE SHOGI PIECE
0 BLACK SHOGI PIECE
0 SHAMROCK
0 REVERSED ROTATED FLORAL HEART BULLET
0 BLACK LEFT POINTING INDEX
1 RIGHT POINTING INDEX
0 WHITE LEFT POINTING INDEX
1 UP POINTING INDEX
1 RIGHT POINTING INDEX
1 DOWN POINTING INDEX
0 SKULL AND CROSSBONES
0 CAUTION SIGN
0 RADIOACTIVE SIGN
0 BIOHAZARD SIGN
0 CADUCEUS
0 ANKH
0 ORTHODOX CROSS
0 CHI RHO
0 CROSS OF LORRAINE
2 JERUSALEM
0 STAR AND CRESCENT
0 FARSI SYMBOL
0 ADI SHAKTI
0 HAMMER AND SICKLE
0 PEACE SYMBOL
0 YIN YANG
0 TRIGRAM FOR HEAVEN
2 LAKE
2 FIRE
2 THUNDER
2 WIND
2 WATER
2 MOUNTAIN
2 EARTH
0 WHEEL OF DHARMA
0 WHITE FROWNING FACE
1 SMILING FACE
0 BLACK SMILING FACE
0 WHITE SUN WITH RAYS
0 FIRST QUARTER MOON
0 LAST QUARTER MOON
0 MERCURY
0 FEMALE SIGN
0 EARTH
0 MALE SIGN
0 JUPITER
0 SATURN
0 URANUS
0 NEPTUNE
0 PLUTO
0 ARIES
0 TAURUS
0 GEMINI
0 CANCER
0 LEO
0 VIRGO
0 LIBRA
0 SCORPIUS
0 SAGITTARIUS
0 CAPRICORN
0 AQUARIUS
0 PISCES
0 WHITE CHESS KING
2 QUEEN
2 ROOK
2 BISHOP
2 KNIGHT
2 PAWN
0 BLACK CHESS KING
2 QUEEN
2 ROOK
2 BISHOP
2 KNIGHT
2 PAWN
1 SPADE SUIT
0 WHITE HEART SUIT
1 DIAMOND SUIT
0 BLACK CLUB SUIT
0 WHITE SPADE SUIT
0 BLACK HEART SUIT
1 DIAMOND SUIT
0 WHITE CLUB SUIT
0 HOT SPRINGS
0 QUARTER NOTE
0 EIGHTH NOTE
0 BEAMED EIGHTH NOTES
1 SIXTEENTH NOTES
0 MUSIC FLAT SIGN
1 NATURAL SIGN
1 SHARP SIGN
0 WEST SYRIAC CROSS
0 EAST SYRIAC CROSS
0 UNIVERSAL RECYCLING SYMBOL
0 RECYCLING SYMBOL FOR TYPE-1 PLASTICS
3 TYPE-2 PLASTICS
3 TYPE-3 PLASTICS
3 TYPE-4 PLASTICS
3 TYPE-5 PLASTICS
3 TYPE-6 PLASTICS
3 TYPE-7 PLASTICS
3 GENERIC MATERIALS
0 BLACK UNIVERSAL RECYCLING SYMBOL
0 RECYCLED PAPER SYMBOL
0 PARTIALLY-RECYCLED PAPER SYMBOL
0 PERMANENT PAPER SIGN
0 WHEELCHAIR SYMBOL
0 DIE FACE-1
1 FACE-2
1 FACE-3
1 FACE-4
1 FACE-5
1 FACE-6
0 WHITE CIRCLE WITH DOT RIGHT
3 TWO DOTS
0 BLACK CIRCLE WITH WHITE DOT RIGHT
3 TWO WHITE DOTS
0 MONOGRAM FOR YANG
2 YIN
0 DIGRAM FOR GREATER YANG
2 LESSER YIN
3 YANG
2 GREATER YIN
0 WHITE FLAG
0 BLACK FLAG
0 HAMMER AND PICK
0 ANCHOR
0 CROSSED SWORDS
0 STAFF OF AESCULAPIUS
0 SCALES
0 ALEMBIC
0 FLOWER
0 GEAR
0 STAFF OF HERMES
0 ATOM SYMBOL
0 FLEUR-DE-LIS
0 OUTLINED WHITE STAR
0 THREE LINES CONVERGING RIGHT
3 LEFT
0 WARNING SIGN
0 HIGH VOLTAGE SIGN
0 DOUBLED FEMALE SIGN
1 MALE SIGN
0 INTERLOCKED FEMALE AND MALE SIGN
0 MALE AND FEMALE SIGN
1 WITH STROKE SIGN
3 AND MALE AND FEMALE SIGN
0 VERTICAL MALE WITH STROKE SIGN
0 HORIZONTAL MALE WITH STROKE SIGN
0 MEDIUM WHITE CIRCLE
1 BLACK CIRCLE
1 SMALL WHITE CIRCLE
0 MARRIAGE SYMBOL
0 DIVORCE SYMBOL
0 UNMARRIED PARTNERSHIP SYMBOL
0 COFFIN
0 FUNERAL URN
0 NEUTER
0 CERES
0 PALLAS
0 JUNO
0 VESTA
0 CHIRON
0 BLACK MOON LILITH
0 SEXTILE
0 SEMISEXTILE
0 QUINCUNX
0 SESQUIQUADRATE
0 SOCCER BALL
0 BASEBALL
0 SQUARED KEY
0 WHITE DRAUGHTS MAN
2 KING
0 BLACK DRAUGHTS MAN
2 KING
0 SNOWMAN WITHOUT SNOW
0 SUN BEHIND CLOUD
0 RAIN
0 BLACK SNOWMAN
0 THUNDER CLOUD AND RAIN
0 TURNED WHITE SHOGI PIECE
1 BLACK SHOGI PIECE
0 WHITE DIAMOND IN SQUARE
0 CROSSING LANES
0 DISABLED CAR
0 OPHIUCHUS
0 PICK
0 CAR SLIDING
0 HELMET WITH WHITE CROSS
0 CIRCLED CROSSING LANES
0 CHAINS
0 NO ENTRY
0 ALTERNATE ONE-WAY LEFT WAY TRAFFIC
0 BLACK TWO-WAY LEFT WAY TRAFFIC
0 WHITE TWO-WAY LEFT WAY TRAFFIC
0 BLACK LEFT LANE MERGE
0 WHITE LEFT LANE MERGE
0 DRIVE SLOW SIGN
0 HEAVY WHITE DOWN-POINTING TRIANGLE
0 LEFT CLOSED ENTRY
0 SQUARED SALTIRE
0 FALLING DIAGONAL IN WHITE CIRCLE IN BLACK SQUARE
0 BLACK TRUCK
0 RESTRICTED LEFT ENTRY-1
2 ENTRY-2
0 ASTRONOMICAL SYMBOL FOR URANUS
0 HEAVY CIRCLE WITH STROKE AND TWO DOTS ABOVE
0 PENTAGRAM
0 RIGHT-HANDED INTERLACED PENTAGRAM
0 LEFT-HANDED INTERLACED PENTAGRAM
0 INVERTED PENTAGRAM
0 BLACK CROSS ON SHIELD
0 SHINTO SHRINE
0 CHURCH
0 CASTLE
0 HISTORIC SITE
0 GEAR WITHOUT HUB
1 WITH HANDLES
0 MAP SYMBOL FOR LIGHTHOUSE
0 MOUNTAIN
0 UMBRELLA ON GROUND
0 FOUNTAIN
0 FLAG IN HOLE
0 FERRY
0 SAILBOAT
0 SQUARE FOUR CORNERS
0 SKIER
0 ICE SKATE
0 PERSON WITH BALL
0 TENT
0 JAPANESE BANK SYMBOL
0 HEADSTONE GRAVEYARD SYMBOL
0 FUEL PUMP
0 CUP ON BLACK SQUARE
0 WHITE FLAG WITH HORIZONTAL MIDDLE BLACK STRIPE
0 BLACK SAFETY SCISSORS
0 UPPER BLADE SCISSORS
0 BLACK SCISSORS
0 LOWER BLADE SCISSORS
0 WHITE SCISSORS
1 HEAVY CHECK MARK
0 TELEPHONE LOCATION SIGN
0 TAPE DRIVE
0 AIRPLANE
0 ENVELOPE
0 RAISED FIST
1 HAND
0 VICTORY HAND
0 WRITING HAND
0 LOWER RIGHT PENCIL
0 PENCIL
0 UPPER RIGHT PENCIL
0 WHITE NIB
0 BLACK NIB
0 CHECK MARK
0 HEAVY CHECK MARK
0 MULTIPLICATION X
0 HEAVY MULTIPLICATION X
0 BALLOT X
0 HEAVY BALLOT X
0 OUTLINED GREEK CROSS
0 HEAVY GREEK CROSS
0 OPEN CENTRE CROSS
0 HEAVY OPEN CENTRE CROSS
0 LATIN CROSS
0 SHADOWED WHITE LATIN CROSS
0 OUTLINED LATIN CROSS
0 MALTESE CROSS
0 STAR OF DAVID
0 FOUR TEARDROP-SPOKED ASTERISK
1 BALLOON-SPOKED ASTERISK
0 HEAVY FOUR BALLOON-SPOKED ASTERISK
0 FOUR CLUB-SPOKED ASTERISK
0 BLACK FOUR POINTED STAR
0 WHITE FOUR POINTED STAR
0 SPARKLES
0 STRESS OUTLINED WHITE STAR
0 CIRCLED WHITE STAR
0 OPEN CENTRE BLACK STAR
0 BLACK CENTRE WHITE STAR
0 OUTLINED BLACK STAR
0 HEAVY OUTLINED BLACK STAR
0 PINWHEEL STAR
0 SHADOWED WHITE STAR
0 HEAVY ASTERISK
0 OPEN CENTRE ASTERISK
0 EIGHT SPOKED ASTERISK
1 POINTED BLACK STAR
2 PINWHEEL STAR
0 SIX POINTED BLACK STAR
0 EIGHT POINTED RECTILINEAR BLACK STAR
0 HEAVY EIGHT POINTED RECTILINEAR BLACK STAR
0 TWELVE POINTED BLACK STAR
0 SIXTEEN POINTED ASTERISK
0 TEARDROP-SPOKED ASTERISK
0 OPEN CENTRE TEARDROP-SPOKED ASTERISK
0 HEAVY TEARDROP-SPOKED ASTERISK
0 SIX PETALLED BLACK AND WHITE FLORETTE
0 BLACK FLORETTE
0 WHITE FLORETTE
0 EIGHT PETALLED OUTLINED BLACK FLORETTE
0 CIRCLED OPEN CENTRE EIGHT POINTED STAR
0 HEAVY TEARDROP-SPOKED PINWHEEL ASTERISK
0 SNOWFLAKE
0 TIGHT TRIFOLIATE SNOWFLAKE
0 HEAVY CHEVRON SNOWFLAKE
0 SPARKLE
0 HEAVY SPARKLE
0 BALLOON-SPOKED ASTERISK
0 EIGHT TEARDROP-SPOKED PROPELLER ASTERISK
0 HEAVY EIGHT TEARDROP-SPOKED PROPELLER ASTERISK
0 CROSS MARK
0 SHADOWED WHITE CIRCLE
0 NEGATIVE SQUARED CROSS MARK
0 LOWER RIGHT DROP-SHADOWED WHITE SQUARE
0 UPPER RIGHT DROP-SHADOWED WHITE SQUARE
0 LOWER RIGHT SHADOWED WHITE SQUARE
0 UPPER RIGHT SHADOWED WHITE SQUARE
0 BLACK QUESTION MARK ORNAMENT
0 WHITE QUESTION MARK ORNAMENT
1 EXCLAMATION MARK ORNAMENT
0 BLACK DIAMOND MINUS WHITE X
0 HEAVY EXCLAMATION MARK SYMBOL
0 LIGHT VERTICAL BAR
0 MEDIUM VERTICAL BAR
0 HEAVY VERTICAL BAR
1 SINGLE TURNED COMMA QUOTATION MARK ORNAMENT
2 COMMA QUOTATION MARK ORNAMENT
1 DOUBLE TURNED COMMA QUOTATION MARK ORNAMENT
2 COMMA QUOTATION MARK ORNAMENT
1 LOW SINGLE COMMA QUOTATION MARK ORNAMENT
2 DOUBLE COMMA QUOTATION MARK ORNAMENT
0 CURVED STEM PARAGRAPH SIGN ORNAMENT
0 HEAVY EXCLAMATION MARK ORNAMENT
1 HEART EXCLAMATION MARK ORNAMENT
1 BLACK HEART
0 ROTATED HEAVY BLACK HEART BULLET
0 FLORAL HEART
0 ROTATED FLORAL HEART BULLET
0 MEDIUM LEFT PARENTHESIS ORNAMENT
1 RIGHT PARENTHESIS ORNAMENT
1 FLATTENED LEFT PARENTHESIS ORNAMENT
2 RIGHT PARENTHESIS ORNAMENT
1 LEFT-POINTING ANGLE BRACKET ORNAMENT
1 RIGHT-POINTING ANGLE BRACKET ORNAMENT
0 HEAVY LEFT-POINTING ANGLE QUOTATION MARK ORNAMENT
1 RIGHT-POINTING ANGLE QUOTATION MARK ORNAMENT
1 LEFT-POINTING ANGLE BRACKET ORNAMENT
1 RIGHT-POINTING ANGLE BRACKET ORNAMENT
0 LIGHT LEFT TORTOISE SHELL BRACKET ORNAMENT
1 RIGHT TORTOISE SHELL BRACKET ORNAMENT
0 MEDIUM LEFT CURLY BRACKET ORNAMENT
1 RIGHT CURLY BRACKET ORNAMENT
0 DINGBAT NEGATIVE CIRCLED DIGIT ONE
4 TWO
4 THREE
4 FOUR
4 FIVE
4 SIX
4 SEVEN
4 EIGHT
4 NINE
3 NUMBER TEN
1 CIRCLED SANS-SERIF DIGIT ONE
4 TWO
4 THREE
4 FOUR
4 FIVE
4 SIX
4 SEVEN
4 EIGHT
4 NINE
3 NUMBER TEN
1 NEGATIVE CIRCLED SANS-SERIF DIGIT ONE
5 TWO
5 THREE
5 FOUR
5 FIVE
5 SIX
5 SEVEN
5 EIGHT
5 NINE
4 NUMBER TEN
0 HEAVY WIDE-HEADED RIGHTWARDS ARROW
1 PLUS SIGN
1 MINUS SIGN
1 DIVISION SIGN
1 SOUTH EAST ARROW
1 RIGHTWARDS ARROW
1 NORTH EAST ARROW
0 DRAFTING POINT RIGHTWARDS ARROW
0 HEAVY ROUND-TIPPED RIGHTWARDS ARROW
0 TRIANGLE-HEADED RIGHTWARDS ARROW
0 HEAVY TRIANGLE-HEADED RIGHTWARDS ARROW
0 DASHED TRIANGLE-HEADED RIGHTWARDS ARROW
0 HEAVY DASHED TRIANGLE-HEADED RIGHTWARDS ARROW
0 BLACK RIGHTWARDS ARROW
0 THREE-D TOP-LIGHTED RIGHTWARDS ARROWHEAD
1 BOTTOM-LIGHTED RIGHTWARDS ARROWHEAD
0 BLACK RIGHTWARDS ARROWHEAD
0 HEAVY BLACK CURVED DOWNWARDS AND RIGHTWARDS ARROW
3 UPWARDS AND RIGHTWARDS ARROW
0 SQUAT BLACK RIGHTWARDS ARROW
0 HEAVY CONCAVE-POINTED BLACK RIGHTWARDS ARROW
0 RIGHT-SHADED WHITE RIGHTWARDS ARROW
0 LEFT-SHADED WHITE RIGHTWARDS ARROW
0 BACK-TILTED SHADOWED WHITE RIGHTWARDS ARROW
0 FRONT-TILTED SHADOWED WHITE RIGHTWARDS ARROW
0 HEAVY LOWER RIGHT-SHADOWED WHITE RIGHTWARDS ARROW
1 UPPER RIGHT-SHADOWED WHITE RIGHTWARDS ARROW
0 NOTCHED LOWER RIGHT-SHADOWED WHITE RIGHTWARDS ARROW
0 CURLY LOOP
0 NOTCHED UPPER RIGHT-SHADOWED WHITE RIGHTWARDS ARROW
0 CIRCLED HEAVY WHITE RIGHTWARDS ARROW
0 WHITE-FEATHERED RIGHTWARDS ARROW
0 BLACK-FEATHERED SOUTH EAST ARROW
1 RIGHTWARDS ARROW
1 NORTH EAST ARROW
0 HEAVY BLACK-FEATHERED SOUTH EAST ARROW
2 RIGHTWARDS ARROW
2 NORTH EAST ARROW
0 TEARDROP-BARBED RIGHTWARDS ARROW
0 HEAVY TEARDROP-SHANKED RIGHTWARDS ARROW
0 WEDGE-TAILED RIGHTWARDS ARROW
0 HEAVY WEDGE-TAILED RIGHTWARDS ARROW
0 OPEN-OUTLINED RIGHTWARDS ARROW
0 DOUBLE CURLY LOOP
0 THREE DIMENSIONAL ANGLE
0 WHITE TRIANGLE CONTAINING SMALL WHITE TRIANGLE
0 PERPENDICULAR
0 OPEN SUBSET
1 SUPERSET
0 LEFT S-SHAPED BAG DELIMITER
0 RIGHT S-SHAPED BAG DELIMITER
0 OR WITH DOT INSIDE
0 REVERSE SOLIDUS PRECEDING SUBSET
0 SUPERSET PRECEDING SOLIDUS
0 VERTICAL BAR WITH HORIZONTAL STROKE
0 MATHEMATICAL RISING DIAGONAL
0 LONG DIVISION
0 MATHEMATICAL FALLING DIAGONAL
0 SQUARED LOGICAL AND
2 OR
0 WHITE DIAMOND WITH CENTRED DOT
0 AND WITH DOT
0 ELEMENT OF OPENING UPWARDS
0 LOWER RIGHT CORNER WITH DOT
0 UPPER LEFT CORNER WITH DOT
0 LEFT OUTER JOIN
0 RIGHT OUTER JOIN
0 FULL OUTER JOIN
0 LARGE UP TACK
1 DOWN TACK
0 LEFT AND RIGHT DOUBLE TURNSTILE
3 TACK
1 MULTIMAP
0 LONG RIGHT TACK
1 LEFT TACK
0 UP TACK WITH CIRCLE ABOVE
0 LOZENGE DIVIDED BY HORIZONTAL RULE
0 WHITE CONCAVE-SIDED DIAMOND
3 WITH LEFTWARDS TICK
4 RIGHTWARDS TICK
1 SQUARE WITH LEFTWARDS TICK
3 RIGHTWARDS TICK
0 MATHEMATICAL LEFT WHITE SQUARE BRACKET
1 RIGHT WHITE SQUARE BRACKET
1 LEFT ANGLE BRACKET
1 RIGHT ANGLE BRACKET
1 LEFT DOUBLE ANGLE BRACKET
1 RIGHT DOUBLE ANGLE BRACKET
1 LEFT WHITE TORTOISE SHELL BRACKET
1 RIGHT WHITE TORTOISE SHELL BRACKET
1 LEFT FLATTENED PARENTHESIS
1 RIGHT FLATTENED PARENTHESIS
0 UPWARDS QUADRUPLE ARROW
0 DOWNWARDS QUADRUPLE ARROW
0 ANTICLOCKWISE GAPPED CIRCLE ARROW
0 CLOCKWISE GAPPED CIRCLE ARROW
0 RIGHT ARROW WITH CIRCLED PLUS
0 LONG LEFTWARDS ARROW
1 RIGHTWARDS ARROW
1 LEFT RIGHT ARROW
1 LEFTWARDS DOUBLE ARROW
1 RIGHTWARDS DOUBLE ARROW
1 LEFT RIGHT DOUBLE ARROW
1 LEFTWARDS ARROW FROM BAR
1 RIGHTWARDS ARROW FROM BAR
1 LEFTWARDS DOUBLE ARROW FROM BAR
1 RIGHTWARDS DOUBLE ARROW FROM BAR
2 SQUIGGLE ARROW
0 BRAILLE PATTERN BLANK
2 DOTS-1
2 DOTS-2
2 DOTS-12
2 DOTS-3
2 DOTS-13
2 DOTS-23
2 DOTS-123
2 DOTS-4
2 DOTS-14
2 DOTS-24
2 DOTS-124
2 DOTS-34
2 DOTS-134
2 DOTS-234
2 DOTS-1234
2 DOTS-5
2 DOTS-15
2 DOTS-25
2 DOTS-125
2 DOTS-35
2 DOTS-135
2 DOTS-235
2 DOTS-1235
2 DOTS-45
2 DOTS-145
2 DOTS-245
2 DOTS-1245
2 DOTS-345
2 DOTS-1345
2 DOTS-2345
2 DOTS-12345
2 DOTS-6
2 DOTS-16
2 DOTS-26
2 DOTS-126
2 DOTS-36
2 DOTS-136
2 DOTS-236
2 DOTS-1236
2 DOTS-46
2 DOTS-146
2 DOTS-246
2 DOTS-1246
2 DOTS-346
2 DOTS-1346
2 DOTS-2346
2 DOTS-12346
2 DOTS-56
2 DOTS-156
2 DOTS-256
2 DOTS-1256
2 DOTS-356
2 DOTS-1356
2 DOTS-2356
2 DOTS-12356
2 DOTS-456
2 DOTS-1456
2 DOTS-2456
2 DOTS-12456
2 DOTS-3456
2 DOTS-13456
2 DOTS-23456
2 DOTS-123456
2 DOTS-7
2 DOTS-17
2 DOTS-27
2 DOTS-127
2 DOTS-37
2 DOTS-137
2 DOTS-237
2 DOTS-1237
2 DOTS-47
2 DOTS-147
2 DOTS-247
2 DOTS-1247
2 DOTS-347
2 DOTS-1347
2 DOTS-2347
2 DOTS-12347
2 DOTS-57
2 DOTS-157
2 DOTS-257
2 DOTS-1257
2 DOTS-357
2 DOTS-1357
2 DOTS-2357
2 DOTS-12357
2 DOTS-457
2 DOTS-1457
2 DOTS-2457
2 DOTS-12457
2 DOTS-3457
2 DOTS-13457
2 DOTS-23457
2 DOTS-123457
2 DOTS-67
2 DOTS-167
2 DOTS-267
2 DOTS-1267
2 DOTS-367
2 DOTS-1367
2 DOTS-2367
2 DOTS-12367
2 DOTS-467
2 DOTS-1467
2 DOTS-2467
2 DOTS-12467
2 DOTS-3467
2 DOTS-13467
2 DOTS-23467
2 DOTS-123467
2 DOTS-567
2 DOTS-1567
2 DOTS-2567
2 DOTS-12567
2 DOTS-3567
2 DOTS-13567
2 DOTS-23567
2 DOTS-123567
2 DOTS-4567
2 DOTS-14567
2 DOTS-24567
2 DOTS-124567
2 DOTS-34567
2 DOTS-134567
2 DOTS-234567
2 DOTS-1234567
2 DOTS-8
2 DOTS-18
2 DOTS-28
2 DOTS-128
2 DOTS-38
2 DOTS-138
2 DOTS-238
2 DOTS-1238
2 DOTS-48
2 DOTS-148
2 DOTS-248
2 DOTS-1248
2 DOTS-348
2 DOTS-1348
2 DOTS-2348
2 DOTS-12348
2 DOTS-58
2 DOTS-158
2 DOTS-258
2 DOTS-1258
2 DOTS-358
2 DOTS-1358
2 DOTS-2358
2 DOTS-12358
2 DOTS-458
2 DOTS-1458
2 DOTS-2458
2 DOTS-12458
2 DOTS-3458
2 DOTS-13458
2 DOTS-23458
2 DOTS-123458
2 DOTS-68
2 DOTS-168
2 DOTS-268
2 DOTS-1268
2 DOTS-368
2 DOTS-1368
2 DOTS-2368
2 DOTS-12368
2 DOTS-468
2 DOTS-1468
2 DOTS-2468
2 DOTS-12468
2 DOTS-3468
2 DOTS-13468
2 DOTS-23468
2 DOTS-123468
2 DOTS-568
2 DOTS-1568
2 DOTS-2568
2 DOTS-12568
2 DOTS-3568
2 DOTS-13568
2 DOTS-23568
2 DOTS-123568
2 DOTS-4568
2 DOTS-14568
2 DOTS-24568
2 DOTS-124568
2 DOTS-34568
2 DOTS-134568
2 DOTS-234568
2 DOTS-1234568
2 DOTS-78
2 DOTS-178
2 DOTS-278
2 DOTS-1278
2 DOTS-378
2 DOTS-1378
2 DOTS-2378
2 DOTS-12378
2 DOTS-478
2 DOTS-1478
2 DOTS-2478
2 DOTS-12478
2 DOTS-3478
2 DOTS-13478
2 DOTS-23478
2 DOTS-123478
2 DOTS-578
2 DOTS-1578
2 DOTS-2578
2 DOTS-12578
2 DOTS-3578
2 DOTS-13578
2 DOTS-23578
2 DOTS-123578
2 DOTS-4578
2 DOTS-14578
2 DOTS-24578
2 DOTS-124578
2 DOTS-34578
2 DOTS-134578
2 DOTS-234578
2 DOTS-1234578
2 DOTS-678
2 DOTS-1678
2 DOTS-2678
2 DOTS-12678
2 DOTS-3678
2 DOTS-13678
2 DOTS-23678
2 DOTS-123678
2 DOTS-4678
2 DOTS-14678
2 DOTS-24678
2 DOTS-124678
2 DOTS-34678
2 DOTS-134678
2 DOTS-234678
2 DOTS-1234678
2 DOTS-5678
2 DOTS-15678
2 DOTS-25678
2 DOTS-125678
2 DOTS-35678
2 DOTS-135678
2 DOTS-235678
2 DOTS-1235678
2 DOTS-45678
2 DOTS-145678
2 DOTS-245678
2 DOTS-1245678
2 DOTS-345678
2 DOTS-1345678
2 DOTS-2345678
2 DOTS-12345678
0 RIGHTWARDS TWO-HEADED ARROW WITH VERTICAL STROKE
4 DOUBLE VERTICAL STROKE
0 LEFTWARDS DOUBLE ARROW WITH VERTICAL STROKE
0 RIGHTWARDS DOUBLE ARROW WITH VERTICAL STROKE
0 LEFT RIGHT DOUBLE ARROW WITH VERTICAL STROKE
0 RIGHTWARDS TWO-HEADED ARROW FROM BAR
0 LEFTWARDS DOUBLE ARROW FROM BAR
0 RIGHTWARDS DOUBLE ARROW FROM BAR
0 DOWNWARDS ARROW WITH HORIZONTAL STROKE
0 UPWARDS ARROW WITH HORIZONTAL STROKE
1 TRIPLE ARROW
0 DOWNWARDS TRIPLE ARROW
0 LEFTWARDS DOUBLE DASH ARROW
0 RIGHTWARDS DOUBLE DASH ARROW
0 LEFTWARDS TRIPLE DASH ARROW
0 RIGHTWARDS TRIPLE DASH ARROW
1 TWO-HEADED TRIPLE DASH ARROW
1 ARROW WITH DOTTED STEM
0 UPWARDS ARROW TO BAR
0 DOWNWARDS ARROW TO BAR
0 RIGHTWARDS ARROW WITH TAIL WITH VERTICAL STROKE
5 DOUBLE VERTICAL STROKE
1 TWO-HEADED ARROW WITH TAIL
5 WITH VERTICAL STROKE
6 DOUBLE VERTICAL STROKE
0 LEFTWARDS ARROW-TAIL
0 RIGHTWARDS ARROW-TAIL
0 LEFTWARDS DOUBLE ARROW-TAIL
0 RIGHTWARDS DOUBLE ARROW-TAIL
0 LEFTWARDS ARROW TO BLACK DIAMOND
0 RIGHTWARDS ARROW TO BLACK DIAMOND
0 LEFTWARDS ARROW FROM BAR TO BLACK DIAMOND
0 RIGHTWARDS ARROW FROM BAR TO BLACK DIAMOND
0 NORTH WEST AND SOUTH EAST ARROW
1 EAST AND SOUTH WEST ARROW
1 WEST ARROW WITH HOOK
1 EAST ARROW WITH HOOK
0 SOUTH EAST ARROW WITH HOOK
1 WEST ARROW WITH HOOK
0 NORTH WEST ARROW AND NORTH EAST ARROW
1 EAST ARROW AND SOUTH EAST ARROW
0 SOUTH EAST ARROW AND SOUTH WEST ARROW
1 WEST ARROW AND NORTH WEST ARROW
0 RISING DIAGONAL CROSSING FALLING DIAGONAL
0 FALLING DIAGONAL CROSSING RISING DIAGONAL
0 SOUTH EAST ARROW CROSSING NORTH EAST ARROW
0 NORTH EAST ARROW CROSSING SOUTH EAST ARROW
0 FALLING DIAGONAL CROSSING NORTH EAST ARROW
0 RISING DIAGONAL CROSSING SOUTH EAST ARROW
0 NORTH EAST ARROW CROSSING NORTH WEST ARROW
1 WEST ARROW CROSSING NORTH EAST ARROW
0 WAVE ARROW POINTING DIRECTLY RIGHT
0 ARROW POINTING RIGHTWARDS THEN CURVING UPWARDS
5 DOWNWARDS
2 DOWNWARDS THEN CURVING LEFTWARDS
5 RIGHTWARDS
0 RIGHT-SIDE ARC CLOCKWISE ARROW
0 LEFT-SIDE ARC ANTICLOCKWISE ARROW
0 TOP ARC ANTICLOCKWISE ARROW
0 BOTTOM ARC ANTICLOCKWISE ARROW
0 TOP ARC CLOCKWISE ARROW WITH MINUS
2 ANTICLOCKWISE ARROW WITH PLUS
0 LOWER RIGHT SEMICIRCULAR CLOCKWISE ARROW
1 LEFT SEMICIRCULAR ANTICLOCKWISE ARROW
0 ANTICLOCKWISE CLOSED CIRCLE ARROW
0 CLOCKWISE CLOSED CIRCLE ARROW
0 RIGHTWARDS ARROW ABOVE SHORT LEFTWARDS ARROW
0 LEFTWARDS ARROW ABOVE SHORT RIGHTWARDS ARROW
0 SHORT RIGHTWARDS ARROW ABOVE LEFTWARDS ARROW
0 RIGHTWARDS ARROW WITH PLUS BELOW
0 LEFTWARDS ARROW WITH PLUS BELOW
0 RIGHTWARDS ARROW THROUGH X
0 LEFT RIGHT ARROW THROUGH SMALL CIRCLE
0 UPWARDS TWO-HEADED ARROW FROM SMALL CIRCLE
0 LEFT BARB UP RIGHT BARB DOWN HARPOON
2 DOWN RIGHT BARB UP HARPOON
0 UP BARB RIGHT DOWN BARB LEFT HARPOON
2 LEFT DOWN BARB RIGHT HARPOON
0 LEFT BARB UP RIGHT BARB UP HARPOON
0 UP BARB RIGHT DOWN BARB RIGHT HARPOON
0 LEFT BARB DOWN RIGHT BARB DOWN HARPOON
0 UP BARB LEFT DOWN BARB LEFT HARPOON
0 LEFTWARDS HARPOON WITH BARB UP TO BAR
0 RIGHTWARDS HARPOON WITH BARB UP TO BAR
0 UPWARDS HARPOON WITH BARB RIGHT TO BAR
0 DOWNWARDS HARPOON WITH BARB RIGHT TO BAR
0 LEFTWARDS HARPOON WITH BARB DOWN TO BAR
0 RIGHTWARDS HARPOON WITH BARB DOWN TO BAR
0 UPWARDS HARPOON WITH BARB LEFT TO BAR
0 DOWNWARDS HARPOON WITH BARB LEFT TO BAR
0 LEFTWARDS HARPOON WITH BARB UP FROM BAR
0 RIGHTWARDS HARPOON WITH BARB UP FROM BAR
0 UPWARDS HARPOON WITH BARB RIGHT FROM BAR
0 DOWNWARDS HARPOON WITH BARB RIGHT FROM BAR
0 LEFTWARDS HARPOON WITH BARB DOWN FROM BAR
0 RIGHTWARDS HARPOON WITH BARB DOWN FROM BAR
0 UPWARDS HARPOON WITH BARB LEFT FROM BAR
0 DOWNWARDS HARPOON WITH BARB LEFT FROM BAR
0 LEFTWARDS HARPOON WITH BARB UP ABOVE LEFTWARDS HARPOON WITH BARB DOWN
0 UPWARDS HARPOON WITH BARB LEFT BESIDE UPWARDS HARPOON WITH BARB RIGHT
0 RIGHTWARDS HARPOON WITH BARB UP ABOVE RIGHTWARDS HARPOON WITH BARB DOWN
0 DOWNWARDS HARPOON WITH BARB LEFT BESIDE DOWNWARDS HARPOON WITH BARB RIGHT
0 LEFTWARDS HARPOON WITH BARB UP ABOVE RIGHTWARDS HARPOON WITH BARB UP
4 DOWN ABOVE RIGHTWARDS HARPOON WITH BARB DOWN
0 RIGHTWARDS HARPOON WITH BARB UP ABOVE LEFTWARDS HARPOON WITH BARB UP
4 DOWN ABOVE LEFTWARDS HARPOON WITH BARB DOWN
0 LEFTWARDS HARPOON WITH BARB UP ABOVE LONG DASH
4 DOWN BELOW LONG DASH
0 RIGHTWARDS HARPOON WITH BARB UP ABOVE LONG DASH
4 DOWN BELOW LONG DASH
0 UPWARDS HARPOON WITH BARB LEFT BESIDE DOWNWARDS HARPOON WITH BARB RIGHT
0 DOWNWARDS HARPOON WITH BARB LEFT BESIDE UPWARDS HARPOON WITH BARB RIGHT
0 RIGHT DOUBLE ARROW WITH ROUNDED HEAD
0 EQUALS SIGN ABOVE RIGHTWARDS ARROW
0 TILDE OPERATOR ABOVE RIGHTWARDS ARROW
0 LEFTWARDS ARROW ABOVE TILDE OPERATOR
0 RIGHTWARDS ARROW ABOVE TILDE OPERATOR
3 ALMOST EQUAL TO
0 LESS-THAN ABOVE LEFTWARDS ARROW
0 LEFTWARDS ARROW THROUGH LESS-THAN
0 GREATER-THAN ABOVE RIGHTWARDS ARROW
0 SUBSET ABOVE RIGHTWARDS ARROW
0 LEFTWARDS ARROW THROUGH SUBSET
0 SUPERSET ABOVE LEFTWARDS ARROW
0 LEFT FISH TAIL
0 RIGHT FISH TAIL
0 UP FISH TAIL
0 DOWN FISH TAIL
0 TRIPLE VERTICAL BAR DELIMITER
0 Z NOTATION SPOT
2 TYPE COLON
0 LEFT WHITE CURLY BRACKET
0 RIGHT WHITE CURLY BRACKET
0 LEFT WHITE PARENTHESIS
0 RIGHT WHITE PARENTHESIS
0 Z NOTATION LEFT IMAGE BRACKET
2 RIGHT IMAGE BRACKET
2 LEFT BINDING BRACKET
2 RIGHT BINDING BRACKET
0 LEFT SQUARE BRACKET WITH UNDERBAR
0 RIGHT SQUARE BRACKET WITH UNDERBAR
0 LEFT SQUARE BRACKET WITH TICK IN TOP CORNER
0 RIGHT SQUARE BRACKET WITH TICK IN BOTTOM CORNER
0 LEFT SQUARE BRACKET WITH TICK IN BOTTOM CORNER
0 RIGHT SQUARE BRACKET WITH TICK IN TOP CORNER
0 LEFT ANGLE BRACKET WITH DOT
0 RIGHT ANGLE BRACKET WITH DOT
0 LEFT ARC LESS-THAN BRACKET
0 RIGHT ARC GREATER-THAN BRACKET
0 DOUBLE LEFT ARC GREATER-THAN BRACKET
1 RIGHT ARC LESS-THAN BRACKET
0 LEFT BLACK TORTOISE SHELL BRACKET
0 RIGHT BLACK TORTOISE SHELL BRACKET
0 DOTTED FENCE
0 VERTICAL ZIGZAG LINE
0 MEASURED ANGLE OPENING LEFT
0 RIGHT ANGLE VARIANT WITH SQUARE
0 MEASURED RIGHT ANGLE WITH DOT
0 ANGLE WITH S INSIDE
0 ACUTE ANGLE
0 SPHERICAL ANGLE OPENING LEFT
3 UP
0 TURNED ANGLE
0 REVERSED ANGLE
0 ANGLE WITH UNDERBAR
0 REVERSED ANGLE WITH UNDERBAR
0 OBLIQUE ANGLE OPENING UP
3 DOWN
0 MEASURED ANGLE WITH OPEN ARM ENDING IN ARROW POINTING UP AND RIGHT
11 LEFT
9 DOWN AND RIGHT
11 LEFT
9 RIGHT AND UP
9 LEFT AND UP
9 RIGHT AND DOWN
9 LEFT AND DOWN
0 REVERSED EMPTY SET
0 EMPTY SET WITH OVERBAR
3 SMALL CIRCLE ABOVE
3 RIGHT ARROW ABOVE
3 LEFT ARROW ABOVE
0 CIRCLE WITH HORIZONTAL BAR
0 CIRCLED VERTICAL BAR
1 PARALLEL
1 REVERSE SOLIDUS
1 PERPENDICULAR
0 CIRCLE DIVIDED BY HORIZONTAL BAR AND TOP HALF DIVIDED BY VERTICAL BAR
1 WITH SUPERIMPOSED X
0 CIRCLED ANTICLOCKWISE-ROTATED DIVISION SIGN
0 UP ARROW THROUGH CIRCLE
0 CIRCLED WHITE BULLET
1 BULLET
1 LESS-THAN
1 GREATER-THAN
0 CIRCLE WITH SMALL CIRCLE TO THE RIGHT
2 TWO HORIZONTAL STROKES TO THE RIGHT
0 SQUARED RISING DIAGONAL SLASH
1 FALLING DIAGONAL SLASH
1 ASTERISK
1 SMALL CIRCLE
1 SQUARE
0 TWO JOINED SQUARES
0 TRIANGLE WITH DOT ABOVE
2 UNDERBAR
0 S IN TRIANGLE
0 TRIANGLE WITH SERIFS AT BOTTOM
0 RIGHT TRIANGLE ABOVE LEFT TRIANGLE
0 LEFT TRIANGLE BESIDE VERTICAL BAR
0 VERTICAL BAR BESIDE RIGHT TRIANGLE
0 BOWTIE WITH LEFT HALF BLACK
2 RIGHT HALF BLACK
0 BLACK BOWTIE
0 TIMES WITH LEFT HALF BLACK
2 RIGHT HALF BLACK
0 WHITE HOURGLASS
0 BLACK HOURGLASS
0 LEFT WIGGLY FENCE
0 RIGHT WIGGLY FENCE
0 LEFT DOUBLE WIGGLY FENCE
0 RIGHT DOUBLE WIGGLY FENCE
0 INCOMPLETE INFINITY
0 TIE OVER INFINITY
0 INFINITY NEGATED WITH VERTICAL BAR
0 DOUBLE-ENDED MULTIMAP
0 SQUARE WITH CONTOURED OUTLINE
0 INCREASES AS
0 SHUFFLE PRODUCT
0 EQUALS SIGN AND SLANTED PARALLEL
5 WITH TILDE ABOVE
0 IDENTICAL TO AND SLANTED PARALLEL
0 GLEICH STARK
0 THERMODYNAMIC
0 DOWN-POINTING TRIANGLE WITH LEFT HALF BLACK
3 RIGHT HALF BLACK
0 BLACK DIAMOND WITH DOWN ARROW
1 LOZENGE
0 WHITE CIRCLE WITH DOWN ARROW
0 BLACK CIRCLE WITH DOWN ARROW
0 ERROR-BARRED WHITE SQUARE
1 BLACK SQUARE
1 WHITE DIAMOND
1 BLACK DIAMOND
1 WHITE CIRCLE
1 BLACK CIRCLE
0 RULE-DELAYED
0 REVERSE SOLIDUS OPERATOR
0 SOLIDUS WITH OVERBAR
0 REVERSE SOLIDUS WITH HORIZONTAL STROKE
0 BIG SOLIDUS
1 REVERSE SOLIDUS
0 DOUBLE PLUS
0 TRIPLE PLUS
0 LEFT-POINTING CURVED ANGLE BRACKET
0 RIGHT-POINTING CURVED ANGLE BRACKET
0 TINY
0 MINY
0 N-ARY CIRCLED DOT OPERATOR
2 PLUS OPERATOR
2 TIMES OPERATOR
1 UNION OPERATOR WITH DOT
4 PLUS
1 SQUARE INTERSECTION OPERATOR
2 UNION OPERATOR
0 TWO LOGICAL AND OPERATOR
2 OR OPERATOR
0 N-ARY TIMES OPERATOR
0 MODULO TWO SUM
0 SUMMATION WITH INTEGRAL
0 QUADRUPLE INTEGRAL OPERATOR
0 FINITE PART INTEGRAL
0 INTEGRAL WITH DOUBLE STROKE
1 AVERAGE WITH SLASH
0 CIRCULATION FUNCTION
0 ANTICLOCKWISE INTEGRATION
0 LINE INTEGRATION WITH RECTANGULAR PATH AROUND POLE
3 SEMICIRCULAR PATH AROUND POLE
2 NOT INCLUDING THE POLE
0 INTEGRAL AROUND A POINT OPERATOR
0 QUATERNION INTEGRAL OPERATOR
0 INTEGRAL WITH LEFTWARDS ARROW WITH HOOK
2 TIMES SIGN
2 INTERSECTION
2 UNION
2 OVERBAR
2 UNDERBAR
0 JOIN
0 LARGE LEFT TRIANGLE OPERATOR
0 Z NOTATION SCHEMA COMPOSITION
3 PIPING
3 PROJECTION
0 PLUS SIGN WITH SMALL CIRCLE ABOVE
3 CIRCUMFLEX ACCENT ABOVE
3 TILDE ABOVE
3 DOT BELOW
3 TILDE BELOW
3 SUBSCRIPT TWO
3 BLACK TRIANGLE
0 MINUS SIGN WITH COMMA ABOVE
3 DOT BELOW
3 FALLING DOTS
3 RISING DOTS
0 PLUS SIGN IN LEFT HALF CIRCLE
3 RIGHT HALF CIRCLE
0 VECTOR OR CROSS PRODUCT
0 MULTIPLICATION SIGN WITH DOT ABOVE
3 UNDERBAR
0 SEMIDIRECT PRODUCT WITH BOTTOM CLOSED
0 SMASH PRODUCT
0 MULTIPLICATION SIGN IN LEFT HALF CIRCLE
3 RIGHT HALF CIRCLE
0 CIRCLED MULTIPLICATION SIGN WITH CIRCUMFLEX ACCENT
0 MULTIPLICATION SIGN IN DOUBLE CIRCLE
0 CIRCLED DIVISION SIGN
0 PLUS SIGN IN TRIANGLE
0 MINUS SIGN IN TRIANGLE
0 MULTIPLICATION SIGN IN TRIANGLE
0 INTERIOR PRODUCT
0 RIGHTHAND INTERIOR PRODUCT
0 Z NOTATION RELATIONAL COMPOSITION
0 AMALGAMATION OR COPRODUCT
0 INTERSECTION WITH DOT
0 UNION WITH MINUS SIGN
2 OVERBAR
0 INTERSECTION WITH OVERBAR
2 LOGICAL AND
0 UNION WITH LOGICAL OR
1 ABOVE INTERSECTION
0 INTERSECTION ABOVE UNION
0 UNION ABOVE BAR ABOVE INTERSECTION
0 INTERSECTION ABOVE BAR ABOVE UNION
0 UNION BESIDE AND JOINED WITH UNION
0 INTERSECTION BESIDE AND JOINED WITH INTERSECTION
0 CLOSED UNION WITH SERIFS
1 INTERSECTION WITH SERIFS
0 DOUBLE SQUARE INTERSECTION
2 UNION
0 CLOSED UNION WITH SERIFS AND SMASH PRODUCT
0 LOGICAL AND WITH DOT ABOVE
1 OR WITH DOT ABOVE
0 DOUBLE LOGICAL AND
2 OR
0 TWO INTERSECTING LOGICAL AND
3 OR
0 SLOPING LARGE OR
2 AND
0 LOGICAL OR OVERLAPPING LOGICAL AND
1 AND WITH MIDDLE STEM
1 OR WITH MIDDLE STEM
1 AND WITH HORIZONTAL DASH
1 OR WITH HORIZONTAL DASH
1 AND WITH DOUBLE OVERBAR
3 UNDERBAR
3 DOUBLE UNDERBAR
0 SMALL VEE WITH UNDERBAR
0 LOGICAL OR WITH DOUBLE OVERBAR
4 UNDERBAR
0 Z NOTATION DOMAIN ANTIRESTRICTION
2 RANGE ANTIRESTRICTION
0 EQUALS SIGN WITH DOT BELOW
0 IDENTICAL WITH DOT ABOVE
0 TRIPLE HORIZONTAL BAR WITH DOUBLE VERTICAL STROKE
4 TRIPLE VERTICAL STROKE
0 TILDE OPERATOR WITH DOT ABOVE
3 RISING DOTS
0 SIMILAR MINUS SIMILAR
0 CONGRUENT WITH DOT ABOVE
0 EQUALS WITH ASTERISK
0 ALMOST EQUAL TO WITH CIRCUMFLEX ACCENT
0 APPROXIMATELY EQUAL OR EQUAL TO
0 EQUALS SIGN ABOVE PLUS SIGN
0 PLUS SIGN ABOVE EQUALS SIGN
0 EQUALS SIGN ABOVE TILDE OPERATOR
0 DOUBLE COLON EQUAL
0 TWO CONSECUTIVE EQUALS SIGNS
0 THREE CONSECUTIVE EQUALS SIGNS
0 EQUALS SIGN WITH TWO DOTS ABOVE AND TWO DOTS BELOW
0 EQUIVALENT WITH FOUR DOTS ABOVE
0 LESS-THAN WITH CIRCLE INSIDE
0 GREATER-THAN WITH CIRCLE INSIDE
0 LESS-THAN WITH QUESTION MARK ABOVE
0 GREATER-THAN WITH QUESTION MARK ABOVE
0 LESS-THAN OR SLANTED EQUAL TO
0 GREATER-THAN OR SLANTED EQUAL TO
0 LESS-THAN OR SLANTED EQUAL TO WITH DOT INSIDE
0 GREATER-THAN OR SLANTED EQUAL TO WITH DOT INSIDE
0 LESS-THAN OR SLANTED EQUAL TO WITH DOT ABOVE
0 GREATER-THAN OR SLANTED EQUAL TO WITH DOT ABOVE
0 LESS-THAN OR SLANTED EQUAL TO WITH DOT ABOVE RIGHT
0 GREATER-THAN OR SLANTED EQUAL TO WITH DOT ABOVE LEFT
0 LESS-THAN OR APPROXIMATE
0 GREATER-THAN OR APPROXIMATE
0 LESS-THAN AND SINGLE-LINE NOT EQUAL TO
0 GREATER-THAN AND SINGLE-LINE NOT EQUAL TO
0 LESS-THAN AND NOT APPROXIMATE
0 GREATER-THAN AND NOT APPROXIMATE
0 LESS-THAN ABOVE DOUBLE-LINE EQUAL ABOVE GREATER-THAN
0 GREATER-THAN ABOVE DOUBLE-LINE EQUAL ABOVE LESS-THAN
0 LESS-THAN ABOVE SIMILAR OR EQUAL
0 GREATER-THAN ABOVE SIMILAR OR EQUAL
0 LESS-THAN ABOVE SIMILAR ABOVE GREATER-THAN
0 GREATER-THAN ABOVE SIMILAR ABOVE LESS-THAN
0 LESS-THAN ABOVE GREATER-THAN ABOVE DOUBLE-LINE EQUAL
0 GREATER-THAN ABOVE LESS-THAN ABOVE DOUBLE-LINE EQUAL
0 LESS-THAN ABOVE SLANTED EQUAL ABOVE GREATER-THAN ABOVE SLANTED EQUAL
0 GREATER-THAN ABOVE SLANTED EQUAL ABOVE LESS-THAN ABOVE SLANTED EQUAL
0 SLANTED EQUAL TO OR LESS-THAN
4 GREATER-THAN
4 LESS-THAN WITH DOT INSIDE
4 GREATER-THAN WITH DOT INSIDE
0 DOUBLE-LINE EQUAL TO OR LESS-THAN
4 GREATER-THAN
1 SLANTED EQUAL TO OR LESS-THAN
5 GREATER-THAN
0 SIMILAR OR LESS-THAN
2 GREATER-THAN
1 ABOVE LESS-THAN ABOVE EQUALS SIGN
2 GREATER-THAN ABOVE EQUALS SIGN
0 DOUBLE NESTED LESS-THAN
2 GREATER-THAN
2 LESS-THAN WITH UNDERBAR
0 GREATER-THAN OVERLAPPING LESS-THAN
1 BESIDE LESS-THAN
0 LESS-THAN CLOSED BY CURVE
0 GREATER-THAN CLOSED BY CURVE
0 LESS-THAN CLOSED BY CURVE ABOVE SLANTED EQUAL
0 GREATER-THAN CLOSED BY CURVE ABOVE SLANTED EQUAL
0 SMALLER THAN
0 LARGER THAN
0 SMALLER THAN OR EQUAL TO
0 LARGER THAN OR EQUAL TO
0 EQUALS SIGN WITH BUMPY ABOVE
0 PRECEDES ABOVE SINGLE-LINE EQUALS SIGN
0 SUCCEEDS ABOVE SINGLE-LINE EQUALS SIGN
0 PRECEDES ABOVE SINGLE-LINE NOT EQUAL TO
0 SUCCEEDS ABOVE SINGLE-LINE NOT EQUAL TO
0 PRECEDES ABOVE EQUALS SIGN
0 SUCCEEDS ABOVE EQUALS SIGN
0 PRECEDES ABOVE NOT EQUAL TO
0 SUCCEEDS ABOVE NOT EQUAL TO
0 PRECEDES ABOVE ALMOST EQUAL TO
0 SUCCEEDS ABOVE ALMOST EQUAL TO
0 PRECEDES ABOVE NOT ALMOST EQUAL TO
0 SUCCEEDS ABOVE NOT ALMOST EQUAL TO
0 DOUBLE PRECEDES
1 SUCCEEDS
0 SUBSET WITH DOT
0 SUPERSET WITH DOT
0 SUBSET WITH PLUS SIGN BELOW
0 SUPERSET WITH PLUS SIGN BELOW
0 SUBSET WITH MULTIPLICATION SIGN BELOW
0 SUPERSET WITH MULTIPLICATION SIGN BELOW
0 SUBSET OF OR EQUAL TO WITH DOT ABOVE
0 SUPERSET OF OR EQUAL TO WITH DOT ABOVE
0 SUBSET OF ABOVE EQUALS SIGN
0 SUPERSET OF ABOVE EQUALS SIGN
0 SUBSET OF ABOVE TILDE OPERATOR
0 SUPERSET OF ABOVE TILDE OPERATOR
0 SUBSET OF ABOVE ALMOST EQUAL TO
0 SUPERSET OF ABOVE ALMOST EQUAL TO
0 SUBSET OF ABOVE NOT EQUAL TO
0 SUPERSET OF ABOVE NOT EQUAL TO
0 SQUARE LEFT OPEN BOX OPERATOR
1 RIGHT OPEN BOX OPERATOR
0 CLOSED SUBSET
1 SUPERSET
1 SUBSET OR EQUAL TO
1 SUPERSET OR EQUAL TO
0 SUBSET ABOVE SUPERSET
0 SUPERSET ABOVE SUBSET
0 SUBSET ABOVE SUBSET
0 SUPERSET ABOVE SUPERSET
1 BESIDE SUBSET
2 AND JOINED BY DASH WITH SUBSET
0 ELEMENT OF OPENING DOWNWARDS
0 PITCHFORK WITH TEE TOP
0 TRANSVERSAL INTERSECTION
0 FORKING
0 NONFORKING
0 SHORT LEFT TACK
1 DOWN TACK
1 UP TACK
0 PERPENDICULAR WITH S
0 VERTICAL BAR TRIPLE RIGHT TURNSTILE
0 DOUBLE VERTICAL BAR LEFT TURNSTILE
0 VERTICAL BAR DOUBLE LEFT TURNSTILE
0 DOUBLE VERTICAL BAR DOUBLE LEFT TURNSTILE
0 LONG DASH FROM LEFT MEMBER OF DOUBLE VERTICAL
0 SHORT DOWN TACK WITH OVERBAR
1 UP TACK WITH UNDERBAR
3 ABOVE SHORT DOWN TACK
0 DOUBLE DOWN TACK
1 UP TACK
1 STROKE NOT SIGN
0 REVERSED DOUBLE STROKE NOT SIGN
0 DOES NOT DIVIDE WITH REVERSED NEGATION SLASH
0 VERTICAL LINE WITH CIRCLE ABOVE
4 BELOW
0 DOWN TACK WITH CIRCLE BELOW
0 PARALLEL WITH HORIZONTAL STROKE
2 TILDE OPERATOR
0 TRIPLE VERTICAL BAR BINARY RELATION
3 WITH HORIZONTAL STROKE
1 COLON OPERATOR
1 NESTED LESS-THAN
2 GREATER-THAN
0 DOUBLE-LINE SLANTED LESS-THAN OR EQUAL TO
2 GREATER-THAN OR EQUAL TO
0 TRIPLE SOLIDUS BINARY RELATION
0 LARGE TRIPLE VERTICAL BAR OPERATOR
0 DOUBLE SOLIDUS OPERATOR
0 WHITE VERTICAL BAR
0 N-ARY WHITE VERTICAL BAR
0 NORTH EAST WHITE ARROW
1 WEST WHITE ARROW
0 SOUTH EAST WHITE ARROW
1 WEST WHITE ARROW
0 LEFT RIGHT WHITE ARROW
0 LEFTWARDS BLACK ARROW
0 UPWARDS BLACK ARROW
0 DOWNWARDS BLACK ARROW
0 NORTH EAST BLACK ARROW
1 WEST BLACK ARROW
0 SOUTH EAST BLACK ARROW
1 WEST BLACK ARROW
0 LEFT RIGHT BLACK ARROW
0 UP DOWN BLACK ARROW
0 RIGHTWARDS ARROW WITH TIP DOWNWARDS
4 UPWARDS
0 LEFTWARDS ARROW WITH TIP DOWNWARDS
4 UPWARDS
0 SQUARE WITH TOP HALF BLACK
2 BOTTOM HALF BLACK
2 UPPER RIGHT DIAGONAL HALF BLACK
2 LOWER LEFT DIAGONAL HALF BLACK
0 DIAMOND WITH LEFT HALF BLACK
2 RIGHT HALF BLACK
2 TOP HALF BLACK
2 BOTTOM HALF BLACK
0 DOTTED SQUARE
0 BLACK LARGE SQUARE
0 WHITE LARGE SQUARE
0 BLACK VERY SMALL SQUARE
0 WHITE VERY SMALL SQUARE
0 BLACK PENTAGON
0 WHITE PENTAGON
1 HEXAGON
0 BLACK HEXAGON
0 HORIZONTAL BLACK HEXAGON
0 BLACK LARGE CIRCLE
1 MEDIUM DIAMOND
0 WHITE MEDIUM DIAMOND
0 BLACK MEDIUM LOZENGE
0 WHITE MEDIUM LOZENGE
0 BLACK SMALL DIAMOND
2 LOZENGE
0 WHITE SMALL LOZENGE
0 BLACK HORIZONTAL ELLIPSE
0 WHITE HORIZONTAL ELLIPSE
0 BLACK VERTICAL ELLIPSE
0 WHITE VERTICAL ELLIPSE
0 LEFT ARROW WITH SMALL CIRCLE
0 THREE LEFTWARDS ARROWS
0 LEFT ARROW WITH CIRCLED PLUS
0 LONG LEFTWARDS SQUIGGLE ARROW
0 LEFTWARDS TWO-HEADED ARROW WITH VERTICAL STROKE
4 DOUBLE VERTICAL STROKE
3 FROM BAR
2 TRIPLE DASH ARROW
1 ARROW WITH DOTTED STEM
3 TAIL WITH VERTICAL STROKE
5 DOUBLE VERTICAL STROKE
1 TWO-HEADED ARROW WITH TAIL
5 WITH VERTICAL STROKE
6 DOUBLE VERTICAL STROKE
1 ARROW THROUGH X
0 WAVE ARROW POINTING DIRECTLY LEFT
0 EQUALS SIGN ABOVE LEFTWARDS ARROW
0 REVERSE TILDE OPERATOR ABOVE LEFTWARDS ARROW
0 LEFTWARDS ARROW ABOVE REVERSE ALMOST EQUAL TO
0 RIGHTWARDS ARROW THROUGH GREATER-THAN
3 SUPERSET
0 LEFTWARDS QUADRUPLE ARROW
0 RIGHTWARDS QUADRUPLE ARROW
0 REVERSE TILDE OPERATOR ABOVE RIGHTWARDS ARROW
0 RIGHTWARDS ARROW ABOVE REVERSE ALMOST EQUAL TO
0 TILDE OPERATOR ABOVE LEFTWARDS ARROW
0 LEFTWARDS ARROW ABOVE ALMOST EQUAL TO
3 REVERSE TILDE OPERATOR
0 RIGHTWARDS ARROW ABOVE REVERSE TILDE OPERATOR
0 DOWNWARDS TRIANGLE-HEADED ZIGZAG ARROW
0 SHORT SLANTED NORTH ARROW
1 BACKSLANTED SOUTH ARROW
0 WHITE MEDIUM STAR
0 BLACK SMALL STAR
0 WHITE SMALL STAR
0 BLACK RIGHT-POINTING PENTAGON
0 WHITE RIGHT-POINTING PENTAGON
0 HEAVY LARGE CIRCLE
1 OVAL WITH OVAL INSIDE
1 CIRCLE WITH CIRCLE INSIDE
2
1 CIRCLED SALTIRE
0 SLANTED NORTH ARROW WITH HOOKED HEAD
0 BACKSLANTED SOUTH ARROW WITH HOOKED TAIL
0 SLANTED NORTH ARROW WITH HORIZONTAL TAIL
0 BACKSLANTED SOUTH ARROW WITH HORIZONTAL TAIL
0 BENT ARROW POINTING DOWNWARDS THEN NORTH EAST
0 SHORT BENT ARROW POINTING DOWNWARDS THEN NORTH EAST
0 LEFTWARDS TRIANGLE-HEADED ARROW
0 UPWARDS TRIANGLE-HEADED ARROW
0 RIGHTWARDS TRIANGLE-HEADED ARROW
0 DOWNWARDS TRIANGLE-HEADED ARROW
0 LEFT RIGHT TRIANGLE-HEADED ARROW
0 UP DOWN TRIANGLE-HEADED ARROW
0 NORTH WEST TRIANGLE-HEADED ARROW
1 EAST TRIANGLE-HEADED ARROW
0 SOUTH EAST TRIANGLE-HEADED ARROW
1 WEST TRIANGLE-HEADED ARROW
0 LEFTWARDS TRIANGLE-HEADED DASHED ARROW
0 UPWARDS TRIANGLE-HEADED DASHED ARROW
0 RIGHTWARDS TRIANGLE-HEADED DASHED ARROW
0 DOWNWARDS TRIANGLE-HEADED DASHED ARROW
0 CLOCKWISE TRIANGLE-HEADED OPEN CIRCLE ARROW
0 ANTICLOCKWISE TRIANGLE-HEADED OPEN CIRCLE ARROW
0 LEFTWARDS TRIANGLE-HEADED ARROW TO BAR
0 UPWARDS TRIANGLE-HEADED ARROW TO BAR
0 RIGHTWARDS TRIANGLE-HEADED ARROW TO BAR
0 DOWNWARDS TRIANGLE-HEADED ARROW TO BAR
@2B76
0 NORTH WEST TRIANGLE-HEADED ARROW TO BAR
1 EAST TRIANGLE-HEADED ARROW TO BAR
0 SOUTH EAST TRIANGLE-HEADED ARROW TO BAR
1 WEST TRIANGLE-HEADED ARROW TO BAR
0 LEFTWARDS TRIANGLE-HEADED ARROW WITH DOUBLE HORIZONTAL STROKE
0 UPWARDS TRIANGLE-HEADED ARROW WITH DOUBLE HORIZONTAL STROKE
0 RIGHTWARDS TRIANGLE-HEADED ARROW WITH DOUBLE HORIZONTAL STROKE
0 DOWNWARDS TRIANGLE-HEADED ARROW WITH DOUBLE HORIZONTAL STROKE
0 HORIZONTAL TAB KEY
0 VERTICAL TAB KEY
0 LEFTWARDS TRIANGLE-HEADED ARROW OVER RIGHTWARDS TRIANGLE-HEADED ARROW
0 UPWARDS TRIANGLE-HEADED ARROW LEFTWARDS OF DOWNWARDS TRIANGLE-HEADED ARROW
0 RIGHTWARDS TRIANGLE-HEADED ARROW OVER LEFTWARDS TRIANGLE-HEADED ARROW
0 DOWNWARDS TRIANGLE-HEADED ARROW LEFTWARDS OF UPWARDS TRIANGLE-HEADED ARROW
0 LEFTWARDS TRIANGLE-HEADED PAIRED ARROWS
0 UPWARDS TRIANGLE-HEADED PAIRED ARROWS
0 RIGHTWARDS TRIANGLE-HEADED PAIRED ARROWS
0 DOWNWARDS TRIANGLE-HEADED PAIRED ARROWS
0 LEFTWARDS BLACK CIRCLED WHITE ARROW
0 UPWARDS BLACK CIRCLED WHITE ARROW
0 RIGHTWARDS BLACK CIRCLED WHITE ARROW
0 DOWNWARDS BLACK CIRCLED WHITE ARROW
0 ANTICLOCKWISE TRIANGLE-HEADED RIGHT U-SHAPED ARROW
2 BOTTOM U-SHAPED ARROW
2 LEFT U-SHAPED ARROW
2 TOP U-SHAPED ARROW
0 RETURN LEFT
1 RIGHT
0 NEWLINE LEFT
1 RIGHT
0 FOUR CORNER ARROWS CIRCLING ANTICLOCKWISE
0 RIGHTWARDS BLACK ARROW
@2B97
0 SYMBOL FOR TYPE A ELECTRONICS
0 THREE-D TOP-LIGHTED LEFTWARDS EQUILATERAL ARROWHEAD
1 RIGHT-LIGHTED UPWARDS EQUILATERAL ARROWHEAD
1 TOP-LIGHTED RIGHTWARDS EQUILATERAL ARROWHEAD
1 LEFT-LIGHTED DOWNWARDS EQUILATERAL ARROWHEAD
0 BLACK LEFTWARDS EQUILATERAL ARROWHEAD
1 UPWARDS EQUILATERAL ARROWHEAD
1 RIGHTWARDS EQUILATERAL ARROWHEAD
1 DOWNWARDS EQUILATERAL ARROWHEAD
0 DOWNWARDS TRIANGLE-HEADED ARROW WITH LONG TIP LEFTWARDS
6 RIGHTWARDS
0 UPWARDS TRIANGLE-HEADED ARROW WITH LONG TIP LEFTWARDS
6 RIGHTWARDS
0 LEFTWARDS TRIANGLE-HEADED ARROW WITH LONG TIP UPWARDS
0 RIGHTWARDS TRIANGLE-HEADED ARROW WITH LONG TIP UPWARDS
0 LEFTWARDS TRIANGLE-HEADED ARROW WITH LONG TIP DOWNWARDS
0 RIGHTWARDS TRIANGLE-HEADED ARROW WITH LONG TIP DOWNWARDS
0 BLACK CURVED DOWNWARDS AND LEFTWARDS ARROW
4 RIGHTWARDS ARROW
2 UPWARDS AND LEFTWARDS ARROW
4 RIGHTWARDS ARROW
2 LEFTWARDS AND UPWARDS ARROW
2 RIGHTWARDS AND UPWARDS ARROW
2 LEFTWARDS AND DOWNWARDS ARROW
2 RIGHTWARDS AND DOWNWARDS ARROW
0 RIBBON ARROW DOWN LEFT
3 RIGHT
2 UP LEFT
3 RIGHT
2 LEFT UP
2 RIGHT UP
2 LEFT DOWN
2 RIGHT DOWN
0 UPWARDS WHITE ARROW FROM BAR WITH HORIZONTAL BAR
0 UP ARROWHEAD IN A RECTANGLE BOX
0 OVERLAPPING WHITE SQUARES
2 AND BLACK SQUARES
1 BLACK SQUARES
0 BALLOT BOX WITH LIGHT X
0 CIRCLED X
1 BOLD X
0 BLACK SQUARE CENTRED
1 DIAMOND CENTRED
0 TURNED BLACK PENTAGON
0 HORIZONTAL BLACK OCTAGON
0 BLACK OCTAGON
1 MEDIUM UP-POINTING TRIANGLE CENTRED
2 DOWN-POINTING TRIANGLE CENTRED
2 LEFT-POINTING TRIANGLE CENTRED
2 RIGHT-POINTING TRIANGLE CENTRED
0 NEPTUNE FORM TWO
0 TOP HALF BLACK CIRCLE
0 BOTTOM HALF BLACK CIRCLE
0 LIGHT FOUR POINTED BLACK CUSP
0 ROTATED LIGHT FOUR POINTED BLACK CUSP
0 WHITE FOUR POINTED CUSP
0 ROTATED WHITE FOUR POINTED CUSP
0 SQUARE POSITION INDICATOR
0 UNCERTAINTY SIGN
0 GROUP MARK
0 PLUTO FORM TWO
2 THREE
2 FOUR
2 FIVE
0 TRANSPLUTO
0 PROSERPINA
0 ASTRAEA
0 HYGIEA
0 PHOLUS
0 NESSUS
0 WHITE MOON SELENA
0 BLACK DIAMOND ON CROSS
0 TRUE LIGHT MOON ARTA
0 CUPIDO
0 HADES
0 ZEUS
0 KRONOS
0 APOLLON
0 ADMETOS
0 VULCANUS
0 POSEIDON
0 LEFT HALF BLACK STAR
0 RIGHT HALF BLACK STAR
0 STAR WITH LEFT HALF BLACK
2 RIGHT HALF BLACK
0 LEFTWARDS TWO-HEADED ARROW WITH TRIANGLE ARROWHEADS
0 UPWARDS TWO-HEADED ARROW WITH TRIANGLE ARROWHEADS
0 RIGHTWARDS TWO-HEADED ARROW WITH TRIANGLE ARROWHEADS
0 DOWNWARDS TWO-HEADED ARROW WITH TRIANGLE ARROWHEADS
0 ERIS FORM ONE
2 TWO
0 SEDNA
0 RUSSIAN ASTROLOGICAL SYMBOL VIGINTILE
3 NOVILE
3 QUINTILE
3 BINOVILE
3 SENTAGON
3 TREDECILE
0 EQUALS SIGN WITH INFINITY BELOW
0 UNITED SYMBOL
0 SEPARATED SYMBOL
0 DOUBLED SYMBOL
0 PASSED SYMBOL
0 REVERSED RIGHT ANGLE
0 HELLSCHREIBER PAUSE SYMBOL
0 GLAGOLITIC CAPITAL LETTER AZU
3 BUKY
3 VEDE
3 GLAGOLI
3 DOBRO
3 YESTU
3 ZHIVETE
3 DZELO
3 ZEMLJA
3 IZHE
3 INITIAL IZHE
3 I
3 DJERVI
3 KAKO
3 LJUDIJE
3 MYSLITE
3 NASHI
3 ONU
3 POKOJI
3 RITSI
3 SLOVO
3 TVRIDO
3 UKU
3 FRITU
3 HERU
3 OTU
3 PE
3 SHTA
3 TSI
3 CHRIVI
3 SHA
3 YERU
3 YERI
3 YATI
3 SPIDERY HA
3 YU
3 SMALL YUS
5 WITH TAIL
3 YO
3 IOTATED SMALL YUS
3 BIG YUS
3 IOTATED BIG YUS
3 FITA
3 IZHITSA
3 SHTAPIC
3 TROKUTASTI A
3 LATINATE MYSLITE
3 CAUDATE CHRIVI
1 SMALL LETTER AZU
3 BUKY
3 VEDE
3 GLAGOLI
3 DOBRO
3 YESTU
3 ZHIVETE
3 DZELO
3 ZEMLJA
3 IZHE
3 INITIAL IZHE
3 I
3 DJERVI
3 KAKO
3 LJUDIJE
3 MYSLITE
3 NASHI
3 ONU
3 POKOJI
3 RITSI
3 SLOVO
3 TVRIDO
3 UKU
3 FRITU
3 HERU
3 OTU
3 PE
3 SHTA
3 TSI
3 CHRIVI
3 SHA
3 YERU
3 YERI
3 YATI
3 SPIDERY HA
3 YU
3 SMALL YUS
5 WITH TAIL
3 YO
3 IOTATED SMALL YUS
3 BIG YUS
3 IOTATED BIG YUS
3 FITA
3 IZHITSA
3 SHTAPIC
3 TROKUTASTI A
3 LATINATE MYSLITE
3 CAUDATE CHRIVI
0 LATIN CAPITAL LETTER L WITH DOUBLE BAR
1 SMALL LETTER L WITH DOUBLE BAR
1 CAPITAL LETTER L WITH MIDDLE TILDE
3 P WITH STROKE
3 R WITH TAIL
1 SMALL LETTER A WITH STROKE
3 T WITH DIAGONAL STROKE
1 CAPITAL LETTER H WITH DESCENDER
1 SMALL LETTER H WITH DESCENDER
1 CAPITAL LETTER K WITH DESCENDER
1 SMALL LETTER K WITH DESCENDER
1 CAPITAL LETTER Z WITH DESCENDER
1 SMALL LETTER Z WITH DESCENDER
1 CAPITAL LETTER ALPHA
3 M WITH HOOK
3 TURNED A
4 ALPHA
1 SMALL LETTER V WITH RIGHT HOOK
1 CAPITAL LETTER W WITH HOOK
1 SMALL LETTER W WITH HOOK
3 V WITH CURL
1 CAPITAL LETTER HALF H
1 SMALL LETTER HALF H
3 TAILLESS PHI
3 E WITH NOTCH
3 TURNED R WITH TAIL
3 O WITH LOW RING INSIDE
1 LETTER SMALL CAPITAL TURNED E
1 SUBSCRIPT SMALL LETTER J
0 MODIFIER LETTER CAPITAL V
0 LATIN CAPITAL LETTER S WITH SWASH TAIL
3 Z WITH SWASH TAIL
0 COPTIC CAPITAL LETTER ALFA
1 SMALL LETTER ALFA
1 CAPITAL LETTER VIDA
1 SMALL LETTER VIDA
1 CAPITAL LETTER GAMMA
1 SMALL LETTER GAMMA
1 CAPITAL LETTER DALDA
1 SMALL LETTER DALDA
1 CAPITAL LETTER EIE
1 SMALL LETTER EIE
1 CAPITAL LETTER SOU
1 SMALL LETTER SOU
1 CAPITAL LETTER ZATA
1 SMALL LETTER ZATA
1 CAPITAL LETTER HATE
1 SMALL LETTER HATE
1 CAPITAL LETTER THETHE
1 SMALL LETTER THETHE
1 CAPITAL LETTER IAUDA
1 SMALL LETTER IAUDA
1 CAPITAL LETTER KAPA
1 SMALL LETTER KAPA
1 CAPITAL LETTER LAULA
1 SMALL LETTER LAULA
1 CAPITAL LETTER MI
1 SMALL LETTER MI
1 CAPITAL LETTER NI
1 SMALL LETTER NI
1 CAPITAL LETTER KSI
1 SMALL LETTER KSI
1 CAPITAL LETTER O
1 SMALL LETTER O
1 CAPITAL LETTER PI
1 SMALL LETTER PI
1 CAPITAL LETTER RO
1 SMALL LETTER RO
1 CAPITAL LETTER SIMA
1 SMALL LETTER SIMA
1 CAPITAL LETTER TAU
1 SMALL LETTER TAU
1 CAPITAL LETTER UA
1 SMALL LETTER UA
1 CAPITAL LETTER FI
1 SMALL LETTER FI
1 CAPITAL LETTER KHI
1 SMALL LETTER KHI
1 CAPITAL LETTER PSI
1 SMALL LETTER PSI
1 CAPITAL LETTER OOU
1 SMALL LETTER OOU
1 CAPITAL LETTER DIALECT-P ALEF
1 SMALL LETTER DIALECT-P ALEF
1 CAPITAL LETTER OLD COPTIC AIN
1 SMALL LETTER OLD COPTIC AIN
1 CAPITAL LETTER CRYPTOGRAMMIC EIE
1 SMALL LETTER CRYPTOGRAMMIC EIE
1 CAPITAL LETTER DIALECT-P KAPA
1 SMALL LETTER DIALECT-P KAPA
1 CAPITAL LETTER DIALECT-P NI
1 SMALL LETTER DIALECT-P NI
1 CAPITAL LETTER CRYPTOGRAMMIC NI
1 SMALL LETTER CRYPTOGRAMMIC NI
1 CAPITAL LETTER OLD COPTIC OOU
1 SMALL LETTER OLD COPTIC OOU
1 CAPITAL LETTER SAMPI
1 SMALL LETTER SAMPI
1 CAPITAL LETTER CROSSED SHEI
1 SMALL LETTER CROSSED SHEI
1 CAPITAL LETTER OLD COPTIC SHEI
1 SMALL LETTER OLD COPTIC SHEI
1 CAPITAL LETTER OLD COPTIC ESH
1 SMALL LETTER OLD COPTIC ESH
1 CAPITAL LETTER AKHMIMIC KHEI
1 SMALL LETTER AKHMIMIC KHEI
1 CAPITAL LETTER DIALECT-P HORI
1 SMALL LETTER DIALECT-P HORI
1 CAPITAL LETTER OLD COPTIC HORI
1 SMALL LETTER OLD COPTIC HORI
1 CAPITAL LETTER OLD COPTIC HA
1 SMALL LETTER OLD COPTIC HA
1 CAPITAL LETTER L-SHAPED HA
1 SMALL LETTER L-SHAPED HA
1 CAPITAL LETTER OLD COPTIC HEI
1 SMALL LETTER OLD COPTIC HEI
1 CAPITAL LETTER OLD COPTIC HAT
1 SMALL LETTER OLD COPTIC HAT
1 CAPITAL LETTER OLD COPTIC GANGIA
1 SMALL LETTER OLD COPTIC GANGIA
1 CAPITAL LETTER OLD COPTIC DJA
1 SMALL LETTER OLD COPTIC DJA
1 CAPITAL LETTER OLD COPTIC SHIMA
1 SMALL LETTER OLD COPTIC SHIMA
1 CAPITAL LETTER OLD NUBIAN SHIMA
1 SMALL LETTER OLD NUBIAN SHIMA
1 CAPITAL LETTER OLD NUBIAN NGI
1 SMALL LETTER OLD NUBIAN NGI
1 CAPITAL LETTER OLD NUBIAN NYI
1 SMALL LETTER OLD NUBIAN NYI
1 CAPITAL LETTER OLD NUBIAN WAU
1 SMALL LETTER OLD NUBIAN WAU
1 SYMBOL KAI
2 MI RO
2 PI RO
2 STAUROS
2 TAU RO
2 KHI RO
2 SHIMA SIMA
1 CAPITAL LETTER CRYPTOGRAMMIC SHEI
1 SMALL LETTER CRYPTOGRAMMIC SHEI
1 CAPITAL LETTER CRYPTOGRAMMIC GANGIA
1 SMALL LETTER CRYPTOGRAMMIC GANGIA
1 COMBINING NI ABOVE
2 SPIRITUS ASPER
3 LENIS
1 CAPITAL LETTER BOHAIRIC KHEI
1 SMALL LETTER BOHAIRIC KHEI
@2CF9
1 OLD NUBIAN FULL STOP
3 DIRECT QUESTION MARK
3 INDIRECT QUESTION MARK
3 VERSE DIVIDER
1 FRACTION ONE HALF
1 FULL STOP
1 MORPHOLOGICAL DIVIDER
0 GEORGIAN SMALL LETTER AN
3 BAN
3 GAN
3 DON
3 EN
3 VIN
3 ZEN
3 TAN
3 IN
3 KAN
3 LAS
3 MAN
3 NAR
3 ON
3 PAR
3 ZHAR
3 RAE
3 SAN
3 TAR
3 UN
3 PHAR
3 KHAR
3 GHAN
3 QAR
3 SHIN
3 CHIN
3 CAN
3 JIL
3 CIL
3 CHAR
3 XAN
3 JHAN
3 HAE
3 HE
3 HIE
3 WE
3 HAR
3 HOE
@2D27
3 YN
@2D2D
3 AEN
@2D30
0 TIFINAGH LETTER YA
2 YAB
2 YABH
2 YAG
2 YAGHH
2 BERBER ACADEMY YAJ
2 YAJ
2 YAD
2 YADH
2 YADD
2 YADDH
2 YEY
2 YAF
2 YAK
2 TUAREG YAK
2 YAKHH
2 YAH
2 BERBER ACADEMY YAH
2 TUAREG YAH
2 YAHH
2 YAA
2 YAKH
2 TUAREG YAKH
2 YAQ
2 TUAREG YAQ
2 YI
2 YAZH
2 AHAGGAR YAZH
2 TUAREG YAZH
2 YAL
2 YAM
2 YAN
2 TUAREG YAGN
3 YANG
2 YAP
2 YU
2 YAR
2 YARR
2 YAGH
2 TUAREG YAGH
2 AYER YAGH
2 YAS
2 YASS
2 YASH
2 YAT
2 YATH
2 YACH
2 YATT
2 YAV
2 YAW
2 YAY
2 YAZ
2 TAWELLEMET YAZ
2 YAZZ
2 YE
2 YO
@2D6F
1 MODIFIER LETTER LABIALIZATION MARK
1 SEPARATOR MARK
@2D7F
1 CONSONANT JOINER
0 ETHIOPIC SYLLABLE LOA
2 MOA
2 ROA
2 SOA
2 SHOA
2 BOA
2 TOA
2 COA
2 NOA
2 NYOA
2 GLOTTAL OA
2 ZOA
2 DOA
2 DDOA
2 JOA
2 THOA
2 CHOA
2 PHOA
2 POA
2 GGWA
2 GGWI
2 GGWEE
2 GGWE
@2DA0
2 SSA
2 SSU
2 SSI
2 SSAA
2 SSEE
2 SSE
2 SSO
@2DA8
2 CCA
2 CCU
2 CCI
2 CCAA
2 CCEE
2 CCE
2 CCO
@2DB0
2 ZZA
2 ZZU
2 ZZI
2 ZZAA
2 ZZEE
2 ZZE
2 ZZO
@2DB8
2 CCHA
2 CCHU
2 CCHI
2 CCHAA
2 CCHEE
2 CCHE
2 CCHO
@2DC0
2 QYA
2 QYU
2 QYI
2 QYAA
2 QYEE
2 QYE
2 QYO
@2DC8
2 KYA
2 KYU
2 KYI
2 KYAA
2 KYEE
2 KYE
2 KYO
@2DD0
2 XYA
2 XYU
2 XYI
2 XYAA
2 XYEE
2 XYE
2 XYO
@2DD8
2 GYA
2 GYU
2 GYI
2 GYAA
2 GYEE
2 GYE
2 GYO
@2DE0
0 COMBINING CYRILLIC LETTER BE
3 VE
3 GHE
3 DE
3 ZHE
3 ZE
3 KA
3 EL
3 EM
3 EN
3 O
3 PE
3 ER
3 ES
3 TE
3 HA
3 TSE
3 CHE
3 SHA
3 SHCHA
3 FITA
3 ES-TE
3 A
3 IE
3 DJERV
3 MONOGRAPH UK
3 YAT
3 YU
3 IOTIFIED A
3 LITTLE YUS
3 BIG YUS
3 IOTIFIED BIG YUS
0 RIGHT ANGLE SUBSTITUTION MARKER
2 DOTTED SUBSTITUTION MARKER
0 LEFT SUBSTITUTION BRACKET
0 RIGHT SUBSTITUTION BRACKET
0 LEFT DOTTED SUBSTITUTION BRACKET
0 RIGHT DOTTED SUBSTITUTION BRACKET
0 RAISED INTERPOLATION MARKER
1 DOTTED INTERPOLATION MARKER
0 DOTTED TRANSPOSITION MARKER
0 LEFT TRANSPOSITION BRACKET
0 RIGHT TRANSPOSITION BRACKET
0 RAISED SQUARE
0 LEFT RAISED OMISSION BRACKET
0 RIGHT RAISED OMISSION BRACKET
0 EDITORIAL CORONIS
0 PARAGRAPHOS
0 FORKED PARAGRAPHOS
0 REVERSED FORKED PARAGRAPHOS
0 HYPODIASTOLE
0 DOTTED OBELOS
0 DOWNWARDS ANCORA
0 UPWARDS ANCORA
0 DOTTED RIGHT-POINTING ANGLE
0 DOUBLE OBLIQUE HYPHEN
0 INVERTED INTERROBANG
0 PALM BRANCH
0 HYPHEN WITH DIAERESIS
0 TILDE WITH RING ABOVE
0 LEFT LOW PARAPHRASE BRACKET
0 RIGHT LOW PARAPHRASE BRACKET
0 TILDE WITH DOT ABOVE
3 BELOW
0 LEFT VERTICAL BAR WITH QUILL
0 RIGHT VERTICAL BAR WITH QUILL
0 TOP LEFT HALF BRACKET
1 RIGHT HALF BRACKET
0 BOTTOM LEFT HALF BRACKET
1 RIGHT HALF BRACKET
0 LEFT SIDEWAYS U BRACKET
0 RIGHT SIDEWAYS U BRACKET
0 LEFT DOUBLE PARENTHESIS
0 RIGHT DOUBLE PARENTHESIS
0 TWO DOTS OVER ONE DOT PUNCTUATION
0 ONE DOT OVER TWO DOTS PUNCTUATION
0 SQUARED FOUR DOT PUNCTUATION
0 FIVE DOT MARK
0 REVERSED QUESTION MARK
0 VERTICAL TILDE
0 RING POINT
0 WORD SEPARATOR MIDDLE DOT
0 TURNED COMMA
0 RAISED DOT
1 COMMA
0 TURNED SEMICOLON
0 DAGGER WITH LEFT GUARD
2 RIGHT GUARD
0 TURNED DAGGER
0 TOP HALF SECTION SIGN
0 TWO-EM DASH
0 THREE-EM DASH
0 STENOGRAPHIC FULL STOP
0 VERTICAL SIX DOTS
0 WIGGLY VERTICAL LINE
0 CAPITULUM
0 DOUBLE HYPHEN
0 REVERSED COMMA
0 DOUBLE LOW-REVERSED-9 QUOTATION MARK
0 DASH WITH LEFT UPTURN
0 DOUBLE SUSPENSION MARK
0 INVERTED LOW KAVYKA
3 WITH KAVYKA ABOVE
0 LOW KAVYKA
2 WITH DOT
0 DOUBLE STACKED COMMA
0 DOTTED SOLIDUS
0 TRIPLE DAGGER
0 MEDIEVAL COMMA
0 PARAGRAPHUS MARK
0 PUNCTUS ELEVATUS MARK
0 CORNISH VERSE DIVIDER
0 CROSS PATTY WITH RIGHT CROSSBAR
3 LEFT CROSSBAR
0 TIRONIAN SIGN CAPITAL ET
0 MEDIEVAL EXCLAMATION MARK
1 QUESTION MARK
0 LEFT SQUARE BRACKET WITH STROKE
0 RIGHT SQUARE BRACKET WITH STROKE
0 LEFT SQUARE BRACKET WITH DOUBLE STROKE
0 RIGHT SQUARE BRACKET WITH DOUBLE STROKE
0 TOP HALF LEFT PARENTHESIS
2 RIGHT PARENTHESIS
0 BOTTOM HALF LEFT PARENTHESIS
2 RIGHT PARENTHESIS
0 OBLIQUE HYPHEN"

end DesignLint.Unicode.Names
