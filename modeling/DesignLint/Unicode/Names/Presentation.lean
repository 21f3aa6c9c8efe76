/-! # Names of characters from U+AC00 to U+FFFF -/

namespace DesignLint.Unicode.Names

def presentationNames : String :=
  "@D7B0
0 HANGUL JUNGSEONG O-YEO
2 O-O-I
2 YO-A
2 YO-AE
2 YO-EO
2 U-YEO
2 U-I-I
2 YU-AE
2 YU-O
2 EU-A
2 EU-EO
2 EU-E
2 EU-O
2 I-YA-O
2 I-YAE
2 I-YEO
2 I-YE
2 I-O-I
2 I-YO
2 I-YU
2 I-I
2 ARAEA-A
2 ARAEA-E
@D7CB
1 JONGSEONG NIEUN-RIEUL
2 NIEUN-CHIEUCH
2 SSANGTIKEUT
2 SSANGTIKEUT-PIEUP
2 TIKEUT-PIEUP
2 TIKEUT-SIOS
2 TIKEUT-SIOS-KIYEOK
2 TIKEUT-CIEUC
2 TIKEUT-CHIEUCH
2 TIKEUT-THIEUTH
2 RIEUL-SSANGKIYEOK
2 RIEUL-KIYEOK-HIEUH
2 SSANGRIEUL-KHIEUKH
2 RIEUL-MIEUM-HIEUH
2 RIEUL-PIEUP-TIKEUT
2 RIEUL-PIEUP-PHIEUPH
2 RIEUL-YESIEUNG
2 RIEUL-YEORINHIEUH-HIEUH
2 KAPYEOUNRIEUL
2 MIEUM-NIEUN
2 MIEUM-SSANGNIEUN
2 SSANGMIEUM
2 MIEUM-PIEUP-SIOS
2 MIEUM-CIEUC
2 PIEUP-TIKEUT
2 PIEUP-RIEUL-PHIEUPH
2 PIEUP-MIEUM
2 SSANGPIEUP
2 PIEUP-SIOS-TIKEUT
2 PIEUP-CIEUC
2 PIEUP-CHIEUCH
2 SIOS-MIEUM
2 SIOS-KAPYEOUNPIEUP
2 SSANGSIOS-KIYEOK
2 SSANGSIOS-TIKEUT
2 SIOS-PANSIOS
2 SIOS-CIEUC
2 SIOS-CHIEUCH
2 SIOS-THIEUTH
2 SIOS-HIEUH
2 PANSIOS-PIEUP
2 PANSIOS-KAPYEOUNPIEUP
2 YESIEUNG-MIEUM
2 YESIEUNG-HIEUH
2 CIEUC-PIEUP
2 CIEUC-SSANGPIEUP
2 SSANGCIEUC
2 PHIEUPH-SIOS
2 PHIEUPH-THIEUTH
@FB00
0 LATIN SMALL LIGATURE FF
3 FI
3 FL
3 FFI
3 FFL
3 LONG S T
3 ST
@FB13
0 ARMENIAN SMALL LIGATURE MEN NOW
4 ECH
4 INI
3 VEW NOW
3 MEN XEH
@FB1D
0 HEBREW LETTER YOD WITH HIRIQ
1 POINT JUDEO-SPANISH VARIKA
1 LIGATURE YIDDISH YOD YOD PATAH
1 LETTER ALTERNATIVE AYIN
2 WIDE ALEF
3 DALET
3 HE
3 KAF
3 LAMED
3 FINAL MEM
3 RESH
3 TAV
2 ALTERNATIVE PLUS SIGN
2 SHIN WITH SHIN DOT
4 SIN DOT
4 DAGESH AND SHIN DOT
6 SIN DOT
2 ALEF WITH PATAH
4 QAMATS
4 MAPIQ
2 BET WITH DAGESH
2 GIMEL WITH DAGESH
2 DALET WITH DAGESH
2 HE WITH MAPIQ
2 VAV WITH DAGESH
2 ZAYIN WITH DAGESH
@FB38
2 TET WITH DAGESH
2 YOD WITH DAGESH
2 FINAL KAF WITH DAGESH
2 KAF WITH DAGESH
2 LAMED WITH DAGESH
@FB3E
2 MEM WITH DAGESH
@FB40
2 NUN WITH DAGESH
2 SAMEKH WITH DAGESH
@FB43
2 FINAL PE WITH DAGESH
2 PE WITH DAGESH
@FB46
2 TSADI WITH DAGESH
2 QOF WITH DAGESH
2 RESH WITH DAGESH
2 SHIN WITH DAGESH
2 TAV WITH DAGESH
2 VAV WITH HOLAM
2 BET WITH RAFE
2 KAF WITH RAFE
2 PE WITH RAFE
1 LIGATURE ALEF LAMED
0 ARABIC LETTER ALEF WASLA ISOLATED FORM
4 FINAL FORM
2 BEEH ISOLATED FORM
3 FINAL FORM
3 INITIAL FORM
3 MEDIAL FORM
2 PEH ISOLATED FORM
3 FINAL FORM
3 INITIAL FORM
3 MEDIAL FORM
2 BEHEH ISOLATED FORM
3 FINAL FORM
3 INITIAL FORM
3 MEDIAL FORM
2 TTEHEH ISOLATED FORM
3 FINAL FORM
3 INITIAL FORM
3 MEDIAL FORM
2 TEHEH ISOLATED FORM
3 FINAL FORM
3 INITIAL FORM
3 MEDIAL FORM
2 TTEH ISOLATED FORM
3 FINAL FORM
3 INITIAL FORM
3 MEDIAL FORM
2 VEH ISOLATED FORM
3 FINAL FORM
3 INITIAL FORM
3 MEDIAL FORM
2 PEHEH ISOLATED FORM
3 FINAL FORM
3 INITIAL FORM
3 MEDIAL FORM
2 DYEH ISOLATED FORM
3 FINAL FORM
3 INITIAL FORM
3 MEDIAL FORM
2 NYEH ISOLATED FORM
3 FINAL FORM
3 INITIAL FORM
3 MEDIAL FORM
2 TCHEH ISOLATED FORM
3 FINAL FORM
3 INITIAL FORM
3 MEDIAL FORM
2 TCHEHEH ISOLATED FORM
3 FINAL FORM
3 INITIAL FORM
3 MEDIAL FORM
2 DDAHAL ISOLATED FORM
3 FINAL FORM
2 DAHAL ISOLATED FORM
3 FINAL FORM
2 DUL ISOLATED FORM
3 FINAL FORM
2 DDAL ISOLATED FORM
3 FINAL FORM
2 JEH ISOLATED FORM
3 FINAL FORM
2 RREH ISOLATED FORM
3 FINAL FORM
2 KEHEH ISOLATED FORM
3 FINAL FORM
3 INITIAL FORM
3 MEDIAL FORM
2 GAF ISOLATED FORM
3 FINAL FORM
3 INITIAL FORM
3 MEDIAL FORM
2 GUEH ISOLATED FORM
3 FINAL FORM
3 INITIAL FORM
3 MEDIAL FORM
2 NGOEH ISOLATED FORM
3 FINAL FORM
3 INITIAL FORM
3 MEDIAL FORM
2 NOON GHUNNA ISOLATED FORM
4 FINAL FORM
2 RNOON ISOLATED FORM
3 FINAL FORM
3 INITIAL FORM
3 MEDIAL FORM
2 HEH WITH YEH ABOVE ISOLATED FORM
6 FINAL FORM
3 GOAL ISOLATED FORM
4 FINAL FORM
4 INITIAL FORM
4 MEDIAL FORM
3 DOACHASHMEE ISOLATED FORM
4 FINAL FORM
4 INITIAL FORM
4 MEDIAL FORM
2 YEH BARREE ISOLATED FORM
4 FINAL FORM
4 WITH HAMZA ABOVE ISOLATED FORM
7 FINAL FORM
1 SYMBOL DOT ABOVE
3 BELOW
2 TWO DOTS ABOVE
4 BELOW
2 THREE DOTS ABOVE
4 BELOW
4 POINTING DOWNWARDS ABOVE
6 BELOW
2 FOUR DOTS ABOVE
4 BELOW
2 DOUBLE VERTICAL BAR BELOW
2 TWO DOTS VERTICALLY ABOVE
5 BELOW
2 RING
2 SMALL TAH ABOVE
4 BELOW
2 WASLA ABOVE
@FBD3
1 LETTER NG ISOLATED FORM
3 FINAL FORM
3 INITIAL FORM
3 MEDIAL FORM
2 U ISOLATED FORM
3 FINAL FORM
2 OE ISOLATED FORM
3 FINAL FORM
2 YU ISOLATED FORM
3 FINAL FORM
2 U WITH HAMZA ABOVE ISOLATED FORM
2 VE ISOLATED FORM
3 FINAL FORM
2 KIRGHIZ OE ISOLATED FORM
4 FINAL FORM
3 YU ISOLATED FORM
4 FINAL FORM
2 E ISOLATED FORM
3 FINAL FORM
3 INITIAL FORM
3 MEDIAL FORM
2 UIGHUR KAZAKH KIRGHIZ ALEF MAKSURA INITIAL FORM
7 MEDIAL FORM
1 LIGATURE YEH WITH HAMZA ABOVE WITH ALEF ISOLATED FORM
8 FINAL FORM
7 AE ISOLATED FORM
8 FINAL FORM
7 WAW ISOLATED FORM
8 FINAL FORM
7 U ISOLATED FORM
8 FINAL FORM
7 OE ISOLATED FORM
8 FINAL FORM
7 YU ISOLATED FORM
8 FINAL FORM
7 E ISOLATED FORM
8 FINAL FORM
8 INITIAL FORM
2 UIGHUR KIRGHIZ YEH WITH HAMZA ABOVE WITH ALEF MAKSURA ISOLATED FORM
11 FINAL FORM
11 INITIAL FORM
1 LETTER FARSI YEH ISOLATED FORM
4 FINAL FORM
4 INITIAL FORM
4 MEDIAL FORM
1 LIGATURE YEH WITH HAMZA ABOVE WITH JEEM ISOLATED FORM
7 HAH ISOLATED FORM
7 MEEM ISOLATED FORM
7 ALEF MAKSURA ISOLATED FORM
7 YEH ISOLATED FORM
2 BEH WITH JEEM ISOLATED FORM
4 HAH ISOLATED FORM
4 KHAH ISOLATED FORM
4 MEEM ISOLATED FORM
4 ALEF MAKSURA ISOLATED FORM
4 YEH ISOLATED FORM
2 TEH WITH JEEM ISOLATED FORM
4 HAH ISOLATED FORM
4 KHAH ISOLATED FORM
4 MEEM ISOLATED FORM
4 ALEF MAKSURA ISOLATED FORM
4 YEH ISOLATED FORM
2 THEH WITH JEEM ISOLATED FORM
4 MEEM ISOLATED FORM
4 ALEF MAKSURA ISOLATED FORM
4 YEH ISOLATED FORM
2 JEEM WITH HAH ISOLATED FORM
4 MEEM ISOLATED FORM
2 HAH WITH JEEM ISOLATED FORM
4 MEEM ISOLATED FORM
2 KHAH WITH JEEM ISOLATED FORM
4 HAH ISOLATED FORM
4 MEEM ISOLATED FORM
2 SEEN WITH JEEM ISOLATED FORM
4 HAH ISOLATED FORM
4 KHAH ISOLATED FORM
4 MEEM ISOLATED FORM
2 SAD WITH HAH ISOLATED FORM
4 MEEM ISOLATED FORM
2 DAD WITH JEEM ISOLATED FORM
4 HAH ISOLATED FORM
4 KHAH ISOLATED FORM
4 MEEM ISOLATED FORM
2 TAH WITH HAH ISOLATED FORM
4 MEEM ISOLATED FORM
2 ZAH WITH MEEM ISOLATED FORM
2 AIN WITH JEEM ISOLATED FORM
4 MEEM ISOLATED FORM
2 GHAIN WITH JEEM ISOLATED FORM
4 MEEM ISOLATED FORM
2 FEH WITH JEEM ISOLATED FORM
4 HAH ISOLATED FORM
4 KHAH ISOLATED FORM
4 MEEM ISOLATED FORM
4 ALEF MAKSURA ISOLATED FORM
4 YEH ISOLATED FORM
2 QAF WITH HAH ISOLATED FORM
4 MEEM ISOLATED FORM
4 ALEF MAKSURA ISOLATED FORM
4 YEH ISOLATED FORM
2 KAF WITH ALEF ISOLATED FORM
4 JEEM ISOLATED FORM
4 HAH ISOLATED FORM
4 KHAH ISOLATED FORM
4 LAM ISOLATED FORM
4 MEEM ISOLATED FORM
4 ALEF MAKSURA ISOLATED FORM
4 YEH ISOLATED FORM
2 LAM WITH JEEM ISOLATED FORM
4 HAH ISOLATED FORM
4 KHAH ISOLATED FORM
4 MEEM ISOLATED FORM
4 ALEF MAKSURA ISOLATED FORM
4 YEH ISOLATED FORM
2 MEEM WITH JEEM ISOLATED FORM
4 HAH ISOLATED FORM
4 KHAH ISOLATED FORM
4 MEEM ISOLATED FORM
4 ALEF MAKSURA ISOLATED FORM
4 YEH ISOLATED FORM
2 NOON WITH JEEM ISOLATED FORM
4 HAH ISOLATED FORM
4 KHAH ISOLATED FORM
4 MEEM ISOLATED FORM
4 ALEF MAKSURA ISOLATED FORM
4 YEH ISOLATED FORM
2 HEH WITH JEEM ISOLATED FORM
4 MEEM ISOLATED FORM
4 ALEF MAKSURA ISOLATED FORM
4 YEH ISOLATED FORM
2 YEH WITH JEEM ISOLATED FORM
4 HAH ISOLATED FORM
4 KHAH ISOLATED FORM
4 MEEM ISOLATED FORM
4 ALEF MAKSURA ISOLATED FORM
4 YEH ISOLATED FORM
2 THAL WITH SUPERSCRIPT ALEF ISOLATED FORM
2 REH WITH SUPERSCRIPT ALEF ISOLATED FORM
2 ALEF MAKSURA WITH SUPERSCRIPT ALEF ISOLATED FORM
2 SHADDA WITH DAMMATAN ISOLATED FORM
4 KASRATAN ISOLATED FORM
4 FATHA ISOLATED FORM
4 DAMMA ISOLATED FORM
4 KASRA ISOLATED FORM
4 SUPERSCRIPT ALEF ISOLATED FORM
2 YEH WITH HAMZA ABOVE WITH REH FINAL FORM
7 ZAIN FINAL FORM
7 MEEM FINAL FORM
7 NOON FINAL FORM
7 ALEF MAKSURA FINAL FORM
7 YEH FINAL FORM
2 BEH WITH REH FINAL FORM
4 ZAIN FINAL FORM
4 MEEM FINAL FORM
4 NOON FINAL FORM
4 ALEF MAKSURA FINAL FORM
4 YEH FINAL FORM
2 TEH WITH REH FINAL FORM
4 ZAIN FINAL FORM
4 MEEM FINAL FORM
4 NOON FINAL FORM
4 ALEF MAKSURA FINAL FORM
4 YEH FINAL FORM
2 THEH WITH REH FINAL FORM
4 ZAIN FINAL FORM
4 MEEM FINAL FORM
4 NOON FINAL FORM
4 ALEF MAKSURA FINAL FORM
4 YEH FINAL FORM
2 FEH WITH ALEF MAKSURA FINAL FORM
4 YEH FINAL FORM
2 QAF WITH ALEF MAKSURA FINAL FORM
4 YEH FINAL FORM
2 KAF WITH ALEF FINAL FORM
4 LAM FINAL FORM
4 MEEM FINAL FORM
4 ALEF MAKSURA FINAL FORM
4 YEH FINAL FORM
2 LAM WITH MEEM FINAL FORM
4 ALEF MAKSURA FINAL FORM
4 YEH FINAL FORM
2 MEEM WITH ALEF FINAL FORM
4 MEEM FINAL FORM
2 NOON WITH REH FINAL FORM
4 ZAIN FINAL FORM
4 MEEM FINAL FORM
4 NOON FINAL FORM
4 ALEF MAKSURA FINAL FORM
4 YEH FINAL FORM
2 ALEF MAKSURA WITH SUPERSCRIPT ALEF FINAL FORM
2 YEH WITH REH FINAL FORM
4 ZAIN FINAL FORM
4 MEEM FINAL FORM
4 NOON FINAL FORM
4 ALEF MAKSURA FINAL FORM
4 YEH FINAL FORM
4 HAMZA ABOVE WITH JEEM INITIAL FORM
7 HAH INITIAL FORM
7 KHAH INITIAL FORM
7 MEEM INITIAL FORM
7 HEH INITIAL FORM
2 BEH WITH JEEM INITIAL FORM
4 HAH INITIAL FORM
4 KHAH INITIAL FORM
4 MEEM INITIAL FORM
4 HEH INITIAL FORM
2 TEH WITH JEEM INITIAL FORM
4 HAH INITIAL FORM
4 KHAH INITIAL FORM
4 MEEM INITIAL FORM
4 HEH INITIAL FORM
2 THEH WITH MEEM INITIAL FORM
2 JEEM WITH HAH INITIAL FORM
4 MEEM INITIAL FORM
2 HAH WITH JEEM INITIAL FORM
4 MEEM INITIAL FORM
2 KHAH WITH JEEM INITIAL FORM
4 MEEM INITIAL FORM
2 SEEN WITH JEEM INITIAL FORM
4 HAH INITIAL FORM
4 KHAH INITIAL FORM
4 MEEM INITIAL FORM
2 SAD WITH HAH INITIAL FORM
4 KHAH INITIAL FORM
4 MEEM INITIAL FORM
2 DAD WITH JEEM INITIAL FORM
4 HAH INITIAL FORM
4 KHAH INITIAL FORM
4 MEEM INITIAL FORM
2 TAH WITH HAH INITIAL FORM
2 ZAH WITH MEEM INITIAL FORM
2 AIN WITH JEEM INITIAL FORM
4 MEEM INITIAL FORM
2 GHAIN WITH JEEM INITIAL FORM
4 MEEM INITIAL FORM
2 FEH WITH JEEM INITIAL FORM
4 HAH INITIAL FORM
4 KHAH INITIAL FORM
4 MEEM INITIAL FORM
2 QAF WITH HAH INITIAL FORM
4 MEEM INITIAL FORM
2 KAF WITH JEEM INITIAL FORM
4 HAH INITIAL FORM
4 KHAH INITIAL FORM
4 LAM INITIAL FORM
4 MEEM INITIAL FORM
2 LAM WITH JEEM INITIAL FORM
4 HAH INITIAL FORM
4 KHAH INITIAL FORM
4 MEEM INITIAL FORM
4 HEH INITIAL FORM
2 MEEM WITH JEEM INITIAL FORM
4 HAH INITIAL FORM
4 KHAH INITIAL FORM
4 MEEM INITIAL FORM
2 NOON WITH JEEM INITIAL FORM
4 HAH INITIAL FORM
4 KHAH INITIAL FORM
4 MEEM INITIAL FORM
4 HEH INITIAL FORM
2 HEH WITH JEEM INITIAL FORM
4 MEEM INITIAL FORM
4 SUPERSCRIPT ALEF INITIAL FORM
2 YEH WITH JEEM INITIAL FORM
4 HAH INITIAL FORM
4 KHAH INITIAL FORM
4 MEEM INITIAL FORM
4 HEH INITIAL FORM
4 HAMZA ABOVE WITH MEEM MEDIAL FORM
7 HEH MEDIAL FORM
2 BEH WITH MEEM MEDIAL FORM
4 HEH MEDIAL FORM
2 TEH WITH MEEM MEDIAL FORM
4 HEH MEDIAL FORM
2 THEH WITH MEEM MEDIAL FORM
4 HEH MEDIAL FORM
2 SEEN WITH MEEM MEDIAL FORM
4 HEH MEDIAL FORM
2 SHEEN WITH MEEM MEDIAL FORM
4 HEH MEDIAL FORM
2 KAF WITH LAM MEDIAL FORM
4 MEEM MEDIAL FORM
2 LAM WITH MEEM MEDIAL FORM
2 NOON WITH MEEM MEDIAL FORM
4 HEH MEDIAL FORM
2 YEH WITH MEEM MEDIAL FORM
4 HEH MEDIAL FORM
2 SHADDA WITH FATHA MEDIAL FORM
4 DAMMA MEDIAL FORM
4 KASRA MEDIAL FORM
2 TAH WITH ALEF MAKSURA ISOLATED FORM
4 YEH ISOLATED FORM
2 AIN WITH ALEF MAKSURA ISOLATED FORM
4 YEH ISOLATED FORM
2 GHAIN WITH ALEF MAKSURA ISOLATED FORM
4 YEH ISOLATED FORM
2 SEEN WITH ALEF MAKSURA ISOLATED FORM
4 YEH ISOLATED FORM
2 SHEEN WITH ALEF MAKSURA ISOLATED FORM
4 YEH ISOLATED FORM
2 HAH WITH ALEF MAKSURA ISOLATED FORM
4 YEH ISOLATED FORM
2 JEEM WITH ALEF MAKSURA ISOLATED FORM
4 YEH ISOLATED FORM
2 KHAH WITH ALEF MAKSURA ISOLATED FORM
4 YEH ISOLATED FORM
2 SAD WITH ALEF MAKSURA ISOLATED FORM
4 YEH ISOLATED FORM
2 DAD WITH ALEF MAKSURA ISOLATED FORM
4 YEH ISOLATED FORM
2 SHEEN WITH JEEM ISOLATED FORM
4 HAH ISOLATED FORM
4 KHAH ISOLATED FORM
4 MEEM ISOLATED FORM
4 REH ISOLATED FORM
2 SEEN WITH REH ISOLATED FORM
2 SAD WITH REH ISOLATED FORM
2 DAD WITH REH ISOLATED FORM
2 TAH WITH ALEF MAKSURA FINAL FORM
4 YEH FINAL FORM
2 AIN WITH ALEF MAKSURA FINAL FORM
4 YEH FINAL FORM
2 GHAIN WITH ALEF MAKSURA FINAL FORM
4 YEH FINAL FORM
2 SEEN WITH ALEF MAKSURA FINAL FORM
4 YEH FINAL FORM
2 SHEEN WITH ALEF MAKSURA FINAL FORM
4 YEH FINAL FORM
2 HAH WITH ALEF MAKSURA FINAL FORM
4 YEH FINAL FORM
2 JEEM WITH ALEF MAKSURA FINAL FORM
4 YEH FINAL FORM
2 KHAH WITH ALEF MAKSURA FINAL FORM
4 YEH FINAL FORM
2 SAD WITH ALEF MAKSURA FINAL FORM
4 YEH FINAL FORM
2 DAD WITH ALEF MAKSURA FINAL FORM
4 YEH FINAL FORM
2 SHEEN WITH JEEM FINAL FORM
4 HAH FINAL FORM
4 KHAH FINAL FORM
4 MEEM FINAL FORM
4 REH FINAL FORM
2 SEEN WITH REH FINAL FORM
2 SAD WITH REH FINAL FORM
2 DAD WITH REH FINAL FORM
2 SHEEN WITH JEEM INITIAL FORM
4 HAH INITIAL FORM
4 KHAH INITIAL FORM
4 MEEM INITIAL FORM
2 SEEN WITH HEH INITIAL FORM
2 SHEEN WITH HEH INITIAL FORM
2 TAH WITH MEEM INITIAL FORM
2 SEEN WITH JEEM MEDIAL FORM
4 HAH MEDIAL FORM
4 KHAH MEDIAL FORM
2 SHEEN WITH JEEM MEDIAL FORM
4 HAH MEDIAL FORM
4 KHAH MEDIAL FORM
2 TAH WITH MEEM MEDIAL FORM
2 ZAH WITH MEEM MEDIAL FORM
2 ALEF WITH FATHATAN FINAL FORM
5 ISOLATED FORM
0 ORNATE LEFT PARENTHESIS
1 RIGHT PARENTHESIS
0 ARABIC LIGATURE RAHIMAHU ALLAAH
2 RADI ALLAAHU ANH
4 ANHAA
4 ANHUM
4 ANHUMAA
4 ANHUNNA
2 SALLALLAAHU ALAYHI WA-AALIH
2 ALAYHI AS-SALAAM
2 ALAYHIM AS-SALAAM
2 ALAYHIMAA AS-SALAAM
2 ALAYHI AS-SALAATU WAS-SALAAM
2 QUDDISA SIRRAH
2 SALLALLAHU ALAYHI WAAALIHEE WA-SALLAM
2 ALAYHAA AS-SALAAM
2 TABAARAKA WA-TAAALAA
2 RAHIMAHUM ALLAAH
2 TEH WITH JEEM WITH MEEM INITIAL FORM
4 HAH WITH JEEM FINAL FORM
7 INITIAL FORM
6 MEEM INITIAL FORM
4 KHAH WITH MEEM INITIAL FORM
4 MEEM WITH JEEM INITIAL FORM
6 HAH INITIAL FORM
6 KHAH INITIAL FORM
2 JEEM WITH MEEM WITH HAH FINAL FORM
7 INITIAL FORM
2 HAH WITH MEEM WITH YEH FINAL FORM
6 ALEF MAKSURA FINAL FORM
2 SEEN WITH HAH WITH JEEM INITIAL FORM
4 JEEM WITH HAH INITIAL FORM
6 ALEF MAKSURA FINAL FORM
4 MEEM WITH HAH FINAL FORM
7 INITIAL FORM
6 JEEM INITIAL FORM
6 MEEM FINAL FORM
7 INITIAL FORM
2 SAD WITH HAH WITH HAH FINAL FORM
7 INITIAL FORM
4 MEEM WITH MEEM FINAL FORM
2 SHEEN WITH HAH WITH MEEM FINAL FORM
7 INITIAL FORM
4 JEEM WITH YEH FINAL FORM
4 MEEM WITH KHAH FINAL FORM
7 INITIAL FORM
6 MEEM FINAL FORM
7 INITIAL FORM
2 DAD WITH HAH WITH ALEF MAKSURA FINAL FORM
4 KHAH WITH MEEM FINAL FORM
7 INITIAL FORM
2 TAH WITH MEEM WITH HAH FINAL FORM
7 INITIAL FORM
6 MEEM INITIAL FORM
6 YEH FINAL FORM
2 AIN WITH JEEM WITH MEEM FINAL FORM
4 MEEM WITH MEEM FINAL FORM
7 INITIAL FORM
6 ALEF MAKSURA FINAL FORM
2 GHAIN WITH MEEM WITH MEEM FINAL FORM
6 YEH FINAL FORM
6 ALEF MAKSURA FINAL FORM
2 FEH WITH KHAH WITH MEEM FINAL FORM
7 INITIAL FORM
2 QAF WITH MEEM WITH HAH FINAL FORM
6 MEEM FINAL FORM
2 LAM WITH HAH WITH MEEM FINAL FORM
6 YEH FINAL FORM
6 ALEF MAKSURA FINAL FORM
4 JEEM WITH JEEM INITIAL FORM
7 FINAL FORM
4 KHAH WITH MEEM FINAL FORM
7 INITIAL FORM
4 MEEM WITH HAH FINAL FORM
7 INITIAL FORM
2 MEEM WITH HAH WITH JEEM INITIAL FORM
6 MEEM INITIAL FORM
6 YEH FINAL FORM
4 JEEM WITH HAH INITIAL FORM
6 MEEM INITIAL FORM
4 KHAH WITH JEEM INITIAL FORM
6 MEEM INITIAL FORM
@FD92
4 JEEM WITH KHAH INITIAL FORM
2 HEH WITH MEEM WITH JEEM INITIAL FORM
6 MEEM INITIAL FORM
2 NOON WITH HAH WITH MEEM INITIAL FORM
6 ALEF MAKSURA FINAL FORM
4 JEEM WITH MEEM FINAL FORM
7 INITIAL FORM
6 ALEF MAKSURA FINAL FORM
4 MEEM WITH YEH FINAL FORM
6 ALEF MAKSURA FINAL FORM
2 YEH WITH MEEM WITH MEEM FINAL FORM
7 INITIAL FORM
2 BEH WITH KHAH WITH YEH FINAL FORM
2 TEH WITH JEEM WITH YEH FINAL FORM
6 ALEF MAKSURA FINAL FORM
4 KHAH WITH YEH FINAL FORM
6 ALEF MAKSURA FINAL FORM
4 MEEM WITH YEH FINAL FORM
6 ALEF MAKSURA FINAL FORM
2 JEEM WITH MEEM WITH YEH FINAL FORM
4 HAH WITH ALEF MAKSURA FINAL FORM
4 MEEM WITH ALEF MAKSURA FINAL FORM
2 SEEN WITH KHAH WITH ALEF MAKSURA FINAL FORM
2 SAD WITH HAH WITH YEH FINAL FORM
2 SHEEN WITH HAH WITH YEH FINAL FORM
2 DAD WITH HAH WITH YEH FINAL FORM
2 LAM WITH JEEM WITH YEH FINAL FORM
4 MEEM WITH YEH FINAL FORM
2 YEH WITH HAH WITH YEH FINAL FORM
4 JEEM WITH YEH FINAL FORM
4 MEEM WITH YEH FINAL FORM
2 MEEM WITH MEEM WITH YEH FINAL FORM
2 QAF WITH MEEM WITH YEH FINAL FORM
2 NOON WITH HAH WITH YEH FINAL FORM
2 QAF WITH MEEM WITH HAH INITIAL FORM
2 LAM WITH HAH WITH MEEM INITIAL FORM
2 AIN WITH MEEM WITH YEH FINAL FORM
2 KAF WITH MEEM WITH YEH FINAL FORM
2 NOON WITH JEEM WITH HAH INITIAL FORM
2 MEEM WITH KHAH WITH YEH FINAL FORM
2 LAM WITH JEEM WITH MEEM INITIAL FORM
2 KAF WITH MEEM WITH MEEM FINAL FORM
2 LAM WITH JEEM WITH MEEM FINAL FORM
2 NOON WITH JEEM WITH HAH FINAL FORM
2 JEEM WITH HAH WITH YEH FINAL FORM
2 HAH WITH JEEM WITH YEH FINAL FORM
2 MEEM WITH JEEM WITH YEH FINAL FORM
2 FEH WITH MEEM WITH YEH FINAL FORM
2 BEH WITH HAH WITH YEH FINAL FORM
2 KAF WITH MEEM WITH MEEM INITIAL FORM
2 AIN WITH JEEM WITH MEEM INITIAL FORM
2 SAD WITH MEEM WITH MEEM INITIAL FORM
2 SEEN WITH KHAH WITH YEH FINAL FORM
2 NOON WITH JEEM WITH YEH FINAL FORM
@FDCF
2 SALAAMUHU ALAYNAA
@FDF0
2 SALLA USED AS KORANIC STOP SIGN ISOLATED FORM
2 QALA USED AS KORANIC STOP SIGN ISOLATED FORM
2 ALLAH ISOLATED FORM
2 AKBAR ISOLATED FORM
2 MOHAMMAD ISOLATED FORM
2 SALAM ISOLATED FORM
2 RASOUL ISOLATED FORM
2 ALAYHE ISOLATED FORM
2 WASALLAM ISOLATED FORM
2 SALLA ISOLATED FORM
2 SALLALLAHOU ALAYHE WASALLAM
2 JALLAJALALOUHOU
0 RIAL SIGN
0 ARABIC LIGATURE BISMILLAH AR-RAHMAN AR-RAHEEM
2 SUBHAANAHU WA TAAALAA
2 AZZA WA JALL
0 VARIATION SELECTOR-1
1 SELECTOR-2
1 SELECTOR-3
1 SELECTOR-4
1 SELECTOR-5
1 SELECTOR-6
1 SELECTOR-7
1 SELECTOR-8
1 SELECTOR-9
1 SELECTOR-10
1 SELECTOR-11
1 SELECTOR-12
1 SELECTOR-13
1 SELECTOR-14
1 SELECTOR-15
1 SELECTOR-16
0 PRESENTATION FORM FOR VERTICAL COMMA
4 IDEOGRAPHIC COMMA
5 FULL STOP
4 COLON
4 SEMICOLON
4 EXCLAMATION MARK
4 QUESTION MARK
4 LEFT WHITE LENTICULAR BRACKET
4 RIGHT WHITE LENTICULAR BRAKCET
4 HORIZONTAL ELLIPSIS
@FE20
0 COMBINING LIGATURE LEFT HALF
2 RIGHT HALF
1 DOUBLE TILDE LEFT HALF
3 RIGHT HALF
1 MACRON LEFT HALF
2 RIGHT HALF
1 CONJOINING MACRON
1 LIGATURE LEFT HALF BELOW
2 RIGHT HALF BELOW
1 TILDE LEFT HALF BELOW
2 RIGHT HALF BELOW
1 MACRON LEFT HALF BELOW
2 RIGHT HALF BELOW
1 CONJOINING MACRON BELOW
1 CYRILLIC TITLO LEFT HALF
3 RIGHT HALF
0 PRESENTATION FORM FOR VERTICAL TWO DOT LEADER
4 EM DASH
4 EN DASH
4 LOW LINE
4 WAVY LOW LINE
4 LEFT PARENTHESIS
4 RIGHT PARENTHESIS
4 LEFT CURLY BRACKET
4 RIGHT CURLY BRACKET
4 LEFT TORTOISE SHELL BRACKET
4 RIGHT TORTOISE SHELL BRACKET
4 LEFT BLACK LENTICULAR BRACKET
4 RIGHT BLACK LENTICULAR BRACKET
4 LEFT DOUBLE ANGLE BRACKET
4 RIGHT DOUBLE ANGLE BRACKET
4 LEFT ANGLE BRACKET
4 RIGHT ANGLE BRACKET
4 LEFT CORNER BRACKET
4 RIGHT CORNER BRACKET
4 LEFT WHITE CORNER BRACKET
4 RIGHT WHITE CORNER BRACKET
0 SESAME DOT
0 WHITE SESAME DOT
0 PRESENTATION FORM FOR VERTICAL LEFT SQUARE BRACKET
4 RIGHT SQUARE BRACKET
0 DASHED OVERLINE
0 CENTRELINE OVERLINE
0 WAVY OVERLINE
0 DOUBLE WAVY OVERLINE
0 DASHED LOW LINE
0 CENTRELINE LOW LINE
0 WAVY LOW LINE
0 SMALL COMMA
1 IDEOGRAPHIC COMMA
1 FULL STOP
@FE54
1 SEMICOLON
1 COLON
1 QUESTION MARK
1 EXCLAMATION MARK
1 EM DASH
1 LEFT PARENTHESIS
1 RIGHT PARENTHESIS
1 LEFT CURLY BRACKET
1 RIGHT CURLY BRACKET
1 LEFT TORTOISE SHELL BRACKET
1 RIGHT TORTOISE SHELL BRACKET
1 NUMBER SIGN
1 AMPERSAND
1 ASTERISK
1 PLUS SIGN
1 HYPHEN-MINUS
1 LESS-THAN SIGN
1 GREATER-THAN SIGN
1 EQUALS SIGN
@FE68
1 REVERSE SOLIDUS
1 DOLLAR SIGN
1 PERCENT SIGN
1 COMMERCIAL AT
@FE70
0 ARABIC FATHATAN ISOLATED FORM
1 TATWEEL WITH FATHATAN ABOVE
1 DAMMATAN ISOLATED FORM
1 TAIL FRAGMENT
1 KASRATAN ISOLATED FORM
@FE76
1 FATHA ISOLATED FORM
2 MEDIAL FORM
1 DAMMA ISOLATED FORM
2 MEDIAL FORM
1 KASRA ISOLATED FORM
2 MEDIAL FORM
1 SHADDA ISOLATED FORM
2 MEDIAL FORM
1 SUKUN ISOLATED FORM
2 MEDIAL FORM
1 LETTER HAMZA ISOLATED FORM
2 ALEF WITH MADDA ABOVE ISOLATED FORM
6 FINAL FORM
4 HAMZA ABOVE ISOLATED FORM
6 FINAL FORM
2 WAW WITH HAMZA ABOVE ISOLATED FORM
6 FINAL FORM
2 ALEF WITH HAMZA BELOW ISOLATED FORM
6 FINAL FORM
2 YEH WITH HAMZA ABOVE ISOLATED FORM
6 FINAL FORM
6 INITIAL FORM
6 MEDIAL FORM
2 ALEF ISOLATED FORM
3 FINAL FORM
2 BEH ISOLATED FORM
3 FINAL FORM
3 INITIAL FORM
3 MEDIAL FORM
2 TEH MARBUTA ISOLATED FORM
4 FINAL FORM
3 ISOLATED FORM
3 FINAL FORM
3 INITIAL FORM
3 MEDIAL FORM
2 THEH ISOLATED FORM
3 FINAL FORM
3 INITIAL FORM
3 MEDIAL FORM
2 JEEM ISOLATED FORM
3 FINAL FORM
3 INITIAL FORM
3 MEDIAL FORM
2 HAH ISOLATED FORM
3 FINAL FORM
3 INITIAL FORM
3 MEDIAL FORM
2 KHAH ISOLATED FORM
3 FINAL FORM
3 INITIAL FORM
3 MEDIAL FORM
2 DAL ISOLATED FORM
3 FINAL FORM
2 THAL ISOLATED FORM
3 FINAL FORM
2 REH ISOLATED FORM
3 FINAL FORM
2 ZAIN ISOLATED FORM
3 FINAL FORM
2 SEEN ISOLATED FORM
3 FINAL FORM
3 INITIAL FORM
3 MEDIAL FORM
2 SHEEN ISOLATED FORM
3 FINAL FORM
3 INITIAL FORM
3 MEDIAL FORM
2 SAD ISOLATED FORM
3 FINAL FORM
3 INITIAL FORM
3 MEDIAL FORM
2 DAD ISOLATED FORM
3 FINAL FORM
3 INITIAL FORM
3 MEDIAL FORM
2 TAH ISOLATED FORM
3 FINAL FORM
3 INITIAL FORM
3 MEDIAL FORM
2 ZAH ISOLATED FORM
3 FINAL FORM
3 INITIAL FORM
3 MEDIAL FORM
2 AIN ISOLATED FORM
3 FINAL FORM
3 INITIAL FORM
3 MEDIAL FORM
2 GHAIN ISOLATED FORM
3 FINAL FORM
3 INITIAL FORM
3 MEDIAL FORM
2 FEH ISOLATED FORM
3 FINAL FORM
3 INITIAL FORM
3 MEDIAL FORM
2 QAF ISOLATED FORM
3 FINAL FORM
3 INITIAL FORM
3 MEDIAL FORM
2 KAF ISOLATED FORM
3 FINAL FORM
3 INITIAL FORM
3 MEDIAL FORM
2 LAM ISOLATED FORM
3 FINAL FORM
3 INITIAL FORM
3 MEDIAL FORM
2 MEEM ISOLATED FORM
3 FINAL FORM
3 INITIAL FORM
3 MEDIAL FORM
2 NOON ISOLATED FORM
3 FINAL FORM
3 INITIAL FORM
3 MEDIAL FORM
2 HEH ISOLATED FORM
3 FINAL FORM
3 INITIAL FORM
3 MEDIAL FORM
2 WAW ISOLATED FORM
3 FINAL FORM
2 ALEF MAKSURA ISOLATED FORM
4 FINAL FORM
2 YEH ISOLATED FORM
3 FINAL FORM
3 INITIAL FORM
3 MEDIAL FORM
1 LIGATURE LAM WITH ALEF WITH MADDA ABOVE ISOLATED FORM
8 FINAL FORM
6 HAMZA ABOVE ISOLATED FORM
8 FINAL FORM
7 BELOW ISOLATED FORM
8 FINAL FORM
5 ISOLATED FORM
5 FINAL FORM
@FEFF
0 ZERO WIDTH NO-BREAK SPACE
@FF01
0 FULLWIDTH EXCLAMATION MARK
1 QUOTATION MARK
1 NUMBER SIGN
1 DOLLAR SIGN
1 PERCENT SIGN
1 AMPERSAND
1 APOSTROPHE
1 LEFT PARENTHESIS
1 RIGHT PARENTHESIS
1 ASTERISK
1 PLUS SIGN
1 COMMA
1 HYPHEN-MINUS
1 FULL STOP
1 SOLIDUS
1 DIGIT ZERO
2 ONE
2 TWO
2 THREE
2 FOUR
2 FIVE
2 SIX
2 SEVEN
2 EIGHT
2 NINE
1 COLON
1 SEMICOLON
1 LESS-THAN SIGN
1 EQUALS SIGN
1 GREATER-THAN SIGN
1 QUESTION MARK
1 COMMERCIAL AT
1 LATIN CAPITAL LETTER A
4 B
4 C
4 D
4 E
4 F
4 G
4 H
4 I
4 J
4 K
4 L
4 M
4 N
4 O
4 P
4 Q
4 R
4 S
4 T
4 U
4 V
4 W
4 X
4 Y
4 Z
1 LEFT SQUARE BRACKET
1 REVERSE SOLIDUS
1 RIGHT SQUARE BRACKET
1 CIRCUMFLEX ACCENT
1 LOW LINE
1 GRAVE ACCENT
1 LATIN SMALL LETTER A
4 B
4 C
4 D
4 E
4 F
4 G
4 H
4 I
4 J
4 K
4 L
4 M
4 N
4 O
4 P
4 Q
4 R
4 S
4 T
4 U
4 V
4 W
4 X
4 Y
4 Z
1 LEFT CURLY BRACKET
1 VERTICAL LINE
1 RIGHT CURLY BRACKET
1 TILDE
1 LEFT WHITE PARENTHESIS
1 RIGHT WHITE PARENTHESIS
0 HALFWIDTH IDEOGRAPHIC FULL STOP
1 LEFT CORNER BRACKET
1 RIGHT CORNER BRACKET
1 IDEOGRAPHIC COMMA
1 KATAKANA MIDDLE DOT
2 LETTER WO
3 SMALL A
4 I
4 U
4 E
4 O
4 YA
4 YU
4 YO
4 TU
1 KATAKANA-HIRAGANA PROLONGED SOUND MARK
1 KATAKANA LETTER A
3 I
3 U
3 E
3 O
3 KA
3 KI
3 KU
3 KE
3 KO
3 SA
3 SI
3 SU
3 SE
3 SO
3 TA
3 TI
3 TU
3 TE
3 TO
3 NA
3 NI
3 NU
3 NE
3 NO
3 HA
3 HI
3 HU
3 HE
3 HO
3 MA
3 MI
3 MU
3 ME
3 MO
3 YA
3 YU
3 YO
3 RA
3 RI
3 RU
3 RE
3 RO
3 WA
3 N
2 VOICED SOUND MARK
2 SEMI-VOICED SOUND MARK
1 HANGUL FILLER
2 LETTER KIYEOK
3 SSANGKIYEOK
3 KIYEOK-SIOS
3 NIEUN
3 NIEUN-CIEUC
3 NIEUN-HIEUH
3 TIKEUT
3 SSANGTIKEUT
3 RIEUL
3 RIEUL-KIYEOK
3 RIEUL-MIEUM
3 RIEUL-PIEUP
3 RIEUL-SIOS
3 RIEUL-THIEUTH
3 RIEUL-PHIEUPH
3 RIEUL-HIEUH
3 MIEUM
3 PIEUP
3 SSANGPIEUP
3 PIEUP-SIOS
3 SIOS
3 SSANGSIOS
3 IEUNG
3 CIEUC
3 SSANGCIEUC
3 CHIEUCH
3 KHIEUKH
3 THIEUTH
3 PHIEUPH
3 HIEUH
@FFC2
3 A
3 AE
3 YA
3 YAE
3 EO
3 E
@FFCA
3 YEO
3 YE
3 O
3 WA
3 WAE
3 OE
@FFD2
3 YO
3 U
3 WEO
3 WE
3 WI
3 YU
@FFDA
3 EU
3 YI
3 I
@FFE0
0 FULLWIDTH CENT SIGN
1 POUND SIGN
1 NOT SIGN
1 MACRON
1 BROKEN BAR
1 YEN SIGN
1 WON SIGN
@FFE8
0 HALFWIDTH FORMS LIGHT VERTICAL
1 LEFTWARDS ARROW
1 UPWARDS ARROW
1 RIGHTWARDS ARROW
1 DOWNWARDS ARROW
1 BLACK SQUARE
1 WHITE CIRCLE
@FFF9
0 INTERLINEAR ANNOTATION ANCHOR
2 SEPARATOR
2 TERMINATOR
0 OBJECT REPLACEMENT CHARACTER
0 REPLACEMENT CHARACTER"

end DesignLint.Unicode.Names
