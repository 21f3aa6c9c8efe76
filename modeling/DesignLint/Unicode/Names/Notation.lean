/-! # Names of characters from U+1B000 to U+1E8FF -/

namespace DesignLint.Unicode.Names

def notationNames : String :=
  "@1B000
0 KATAKANA LETTER ARCHAIC E
0 HIRAGANA LETTER ARCHAIC YE
0 HENTAIGANA LETTER A-1
2 A-2
2 A-3
2 A-WO
2 I-1
2 I-2
2 I-3
2 I-4
2 U-1
2 U-2
2 U-3
2 U-4
2 U-5
2 E-2
2 E-3
2 E-4
2 E-5
2 E-6
2 O-1
2 O-2
2 O-3
2 KA-1
2 KA-2
2 KA-3
2 KA-4
2 KA-5
2 KA-6
2 KA-7
2 KA-8
2 KA-9
2 KA-10
2 KA-11
2 KA-KE
2 KI-1
2 KI-2
2 KI-3
2 KI-4
2 KI-5
2 KI-6
2 KI-7
2 KI-8
2 KU-1
2 KU-2
2 KU-3
2 KU-4
2 KU-5
2 KU-6
2 KU-7
2 KE-1
2 KE-2
2 KE-3
2 KE-4
2 KE-5
2 KE-6
2 KO-1
2 KO-2
2 KO-3
2 KO-KI
2 SA-1
2 SA-2
2 SA-3
2 SA-4
2 SA-5
2 SA-6
2 SA-7
2 SA-8
2 SI-1
2 SI-2
2 SI-3
2 SI-4
2 SI-5
2 SI-6
2 SU-1
2 SU-2
2 SU-3
2 SU-4
2 SU-5
2 SU-6
2 SU-7
2 SU-8
2 SE-1
2 SE-2
2 SE-3
2 SE-4
2 SE-5
2 SO-1
2 SO-2
2 SO-3
2 SO-4
2 SO-5
2 SO-6
2 SO-7
2 TA-1
2 TA-2
2 TA-3
2 TA-4
2 TI-1
2 TI-2
2 TI-3
2 TI-4
2 TI-5
2 TI-6
2 TI-7
2 TU-1
2 TU-2
2 TU-3
2 TU-4
2 TU-TO
2 TE-1
2 TE-2
2 TE-3
2 TE-4
2 TE-5
2 TE-6
2 TE-7
2 TE-8
2 TE-9
2 TO-1
2 TO-2
2 TO-3
2 TO-4
2 TO-5
2 TO-6
2 TO-RA
2 NA-1
2 NA-2
2 NA-3
2 NA-4
2 NA-5
2 NA-6
2 NA-7
2 NA-8
2 NA-9
2 NI-1
2 NI-2
2 NI-3
2 NI-4
2 NI-5
2 NI-6
2 NI-7
2 NI-TE
2 NU-1
2 NU-2
2 NU-3
2 NE-1
2 NE-2
2 NE-3
2 NE-4
2 NE-5
2 NE-6
2 NE-KO
2 NO-1
2 NO-2
2 NO-3
2 NO-4
2 NO-5
2 HA-1
2 HA-2
2 HA-3
2 HA-4
2 HA-5
2 HA-6
2 HA-7
2 HA-8
2 HA-9
2 HA-10
2 HA-11
2 HI-1
2 HI-2
2 HI-3
2 HI-4
2 HI-5
2 HI-6
2 HI-7
2 HU-1
2 HU-2
2 HU-3
2 HE-1
2 HE-2
2 HE-3
2 HE-4
2 HE-5
2 HE-6
2 HE-7
2 HO-1
2 HO-2
2 HO-3
2 HO-4
2 HO-5
2 HO-6
2 HO-7
2 HO-8
2 MA-1
2 MA-2
2 MA-3
2 MA-4
2 MA-5
2 MA-6
2 MA-7
2 MI-1
2 MI-2
2 MI-3
2 MI-4
2 MI-5
2 MI-6
2 MI-7
2 MU-1
2 MU-2
2 MU-3
2 MU-4
2 ME-1
2 ME-2
2 ME-MA
2 MO-1
2 MO-2
2 MO-3
2 MO-4
2 MO-5
2 MO-6
2 YA-1
2 YA-2
2 YA-3
2 YA-4
2 YA-5
2 YA-YO
2 YU-1
2 YU-2
2 YU-3
2 YU-4
2 YO-1
2 YO-2
2 YO-3
2 YO-4
2 YO-5
2 YO-6
2 RA-1
2 RA-2
2 RA-3
2 RA-4
2 RI-1
2 RI-2
2 RI-3
2 RI-4
2 RI-5
2 RI-6
2 RI-7
2 RU-1
2 RU-2
2 RU-3
2 RU-4
2 RU-5
2 RU-6
2 RE-1
2 RE-2
2 RE-3
2 RE-4
2 RO-1
2 RO-2
2 RO-3
2 RO-4
2 RO-5
2 RO-6
2 WA-1
2 WA-2
2 WA-3
2 WA-4
2 WA-5
2 WI-1
2 WI-2
2 WI-3
2 WI-4
2 WI-5
2 WE-1
2 WE-2
2 WE-3
2 WE-4
2 WO-1
2 WO-2
2 WO-3
2 WO-4
2 WO-5
2 WO-6
2 WO-7
2 N-MU-MO-1
2 N-MU-MO-2
0 HIRAGANA LETTER ARCHAIC WU
0 KATAKANA LETTER ARCHAIC YI
3 YE
3 WU
@1B150
0 HIRAGANA LETTER SMALL WI
3 WE
3 WO
@1B164
0 KATAKANA LETTER SMALL WI
3 WE
3 WO
3 N
@1BC00
0 DUPLOYAN LETTER H
2 X
2 P
2 T
2 F
2 K
2 L
2 B
2 D
2 V
2 G
2 R
2 P N
2 D S
2 F N
2 K M
2 R S
2 TH
2 SLOAN DH
2 DH
2 KK
2 SLOAN J
2 HL
2 LH
2 RH
2 M
2 N
2 J
2 S
2 M N
2 N M
2 J M
2 S J
2 M WITH DOT
2 N WITH DOT
2 J WITH DOT
4 DOTS INSIDE AND ABOVE
2 S WITH DOT
5 BELOW
2 M S
2 N S
2 J S
2 S S
2 M N S
2 N M S
2 J M S
2 S J S
2 J S WITH DOT
3 N
4 S
2 S T
4 R
3 P
4 R
2 T S
3 R S
2 W
2 WH
2 W R
2 S N
3 M
2 K R S
2 G R S
2 S K
4 R
2 A
2 SLOAN OW
2 OA
2 O
2 AOU
2 I
2 E
2 IE
2 SHORT I
2 UI
2 EE
2 SLOAN EH
2 ROMANIAN I
2 SLOAN EE
2 LONG I
2 YE
2 U
2 EU
2 XW
2 U N
2 LONG U
2 ROMANIAN U
2 UH
2 SLOAN U
2 OOH
2 OW
2 OU
2 WA
2 WO
2 WI
2 WEI
2 WOW
2 NASAL U
3 O
3 I
3 A
2 PERNIN AN
3 AM
2 SLOAN EN
3 AN
3 ON
2 VOCALIC M
@1BC70
1 AFFIX LEFT HORIZONTAL SECANT
2 MID HORIZONTAL SECANT
2 RIGHT HORIZONTAL SECANT
2 LOW VERTICAL SECANT
2 MID VERTICAL SECANT
2 HIGH VERTICAL SECANT
2 ATTACHED SECANT
3 LEFT-TO-RIGHT SECANT
3 TANGENT
3 TAIL
3 E HOOK
3 I HOOK
3 TANGENT HOOK
@1BC80
2 HIGH ACUTE
3 TIGHT ACUTE
3 GRAVE
3 LONG GRAVE
3 DOT
3 CIRCLE
3 LINE
3 WAVE
3 VERTICAL
@1BC90
2 LOW ACUTE
3 TIGHT ACUTE
3 GRAVE
3 LONG GRAVE
3 DOT
3 CIRCLE
3 LINE
3 WAVE
3 VERTICAL
3 ARROW
@1BC9C
1 SIGN O WITH CROSS
1 THICK LETTER SELECTOR
1 DOUBLE MARK
1 PUNCTUATION CHINOOK FULL STOP
0 SHORTHAND FORMAT LETTER OVERLAP
2 CONTINUING OVERLAP
2 DOWN STEP
2 UP STEP
@1CF00
0 ZNAMENNY COMBINING MARK GORAZDO NIZKO S KRYZHEM ON LEFT
3 NIZKO S KRYZHEM ON LEFT
3 TSATA ON LEFT
3 GORAZDO NIZKO ON LEFT
3 NIZKO ON LEFT
3 SREDNE ON LEFT
3 MALO POVYSHE ON LEFT
3 POVYSHE ON LEFT
3 VYSOKO ON LEFT
3 MALO POVYSHE S KHOKHLOM ON LEFT
3 POVYSHE S KHOKHLOM ON LEFT
3 VYSOKO S KHOKHLOM ON LEFT
3 GORAZDO NIZKO S KRYZHEM ON RIGHT
3 NIZKO S KRYZHEM ON RIGHT
3 TSATA ON RIGHT
3 GORAZDO NIZKO ON RIGHT
3 NIZKO ON RIGHT
3 SREDNE ON RIGHT
3 MALO POVYSHE ON RIGHT
3 POVYSHE ON RIGHT
3 VYSOKO ON RIGHT
3 MALO POVYSHE S KHOKHLOM ON RIGHT
3 POVYSHE S KHOKHLOM ON RIGHT
3 VYSOKO S KHOKHLOM ON RIGHT
3 TSATA S KRYZHEM
3 MALO POVYSHE S KRYZHEM
3 STRANNO MALO POVYSHE
3 POVYSHE S KRYZHEM
4 STRANNO
3 VYSOKO S KRYZHEM
3 MALO POVYSHE STRANNO
3 GORAZDO VYSOKO
3 ZELO
3 ON
3 RAVNO
3 TIKHAYA
3 BORZAYA
3 UDARKA
3 PODVERTKA
3 LOMKA
3 KUPNAYA
3 KACHKA
3 ZEVOK
3 SKOBA
3 RAZSEKA
3 KRYZH ON LEFT
@1CF30
2 TONAL RANGE MARK MRACHNO
5 SVETLO
5 TRESVETLO
2 MARK ZADERZHKA
3 DEMESTVENNY ZADERZHKA
3 OTSECHKA
3 PODCHASHIE
4 WITH VERTICAL STROKE
3 CHASHKA
4 POLNAYA
3 OBLACHKO
3 SOROCHYA NOZHKA
3 TOCHKA
3 DVOETOCHIE
2 ATTACHING VERTICAL OMET
2 MARK CURVED OMET
3 KRYZH
2 LOWER TONAL RANGE INDICATOR
1 PRIZNAK MODIFIER LEVEL-2
3 LEVEL-3
3 DIRECTION FLIP
3 KRYZH
3 ROG
@1CF50
1 NEUME KRYUK
3 TIKHY
2 PARAKLIT
2 DVA V CHELNU
2 KLYUCH
2 ZANOZHEK
2 STOPITSA
3 S OCHKOM
2 PEREVODKA
3 NEPOSTOYANNAYA
2 STOPITSA WITH SOROCHYA NOZHKA
2 CHELYUSTKA
2 PALKA
2 ZAPYATAYA
2 GOLUBCHIK BORZY
3 TIKHY
3 MRACHNY
3 SVETLY
3 TRESVETLY
2 VRAKHIYA PROSTAYA
3 MRACHNAYA
3 SVETLAYA
3 TRESVETLAYA
3 KLYUCHEVAYA PROSTAYA
4 MRACHNAYA
4 SVETLAYA
4 TRESVETLAYA
2 DOUBLE ZAPYATAYA
2 REVERSED CHELYUSTKA
2 DERBITSA
2 KHAMILO
2 CHASHKA
2 PODCHASHIE
2 SKAMEYTSA MRACHNAYA
3 SVETLAYA
3 TRESVETLAYA
3 TIKHAYA
2 DEMESTVENNY KLYUCH
2 SKAMEYTSA KLYUCHEVAYA SVETLAYA
3 KLYUCHENEPOSTOYANNAYA
3 KLYUCHEVAYA TIKHAYA
3 DVOECHELNAYA PROSTAYA
4 SVETLAYA
4 NEPOSTOYANNAYA
4 KLYUCHEVAYA
2 SLOZHITIE
3 S ZAPYATOY
3 ZAKRYTOE
3 S KRYZHEM
2 KRYZH
2 ROG
2 FITA
2 KOBYLA
2 ZMEYTSA
2 STATYA
3 S ZAPYATOY
4 KRYZHEM
4 ZAPYATOY I KRYZHEM
4 KRYZHEM I ZAPYATOY
3 ZAKRYTAYA
4 S ZAPYATOY
3 S ROGOM
4 DVUMYA ZAPYATYMI
4 ZAPYATOY I PODCHASHIEM
2 POLKULIZMY
2 STATYA NEPOSTOYANNAYA
2 STRELA PROSTAYA
3 MRACHNOTIKHAYA
3 KRYZHEVAYA
3 POLUPOVODNAYA
3 POVODNAYA
3 NEPOSTOYANNAYA
3 KLYUCHEPOVODNAYA
3 KLYUCHENEPOSTOYANNAYA
3 TIKHAYA PUTNAYA
3 DVOECHELNAYA
3 DVOECHELNOKRYZHEVAYA
3 DVOECHELNOPOVODNAYA
3 DVOECHELNAYA KLYUCHEVAYA
3 DVOECHELNOPOVODNAYA KLYUCHEVAYA
3 GROMNAYA WITH SINGLE ZAPYATAYA
3 GROMOPOVODNAYA WITH SINGLE ZAPYATAYA
3 GROMNAYA
3 GROMOPOVODNAYA
4 WITH DOUBLE ZAPYATAYA
3 GROMOKRYZHEVAYA
4 POVODNAYA
2 MECHIK
3 POVODNY
3 KLYUCHEVOY
3 KLYUCHEPOVODNY
3 KLYUCHENEPOSTOYANNY
2 STRELA TRYASOGLASNAYA
3 TRYASOPOVODNAYA
3 TRYASOSTRELNAYA
2 OSOKA
3 SVETLAYA
3 TRESVETLAYA
3 KRYUKOVAYA SVETLAYA
3 KLYUCHEVAYA SVETLAYA
4 NEPOSTOYANNAYA
2 STRELA KRYUKOVAYA
4 POVODNAYA
4 GROMNAYA WITH SINGLE ZAPYATAYA
4 GROMOPOVODNAYA WITH SINGLE ZAPYATAYA
4 GROMNAYA
4 GROMOPOVODNAYA
5 WITH DOUBLE ZAPYATAYA
4 GROMOKRYZHEVAYA
5 POVODNAYA
4 TRYASKA
2 KUFISMA
2 OBLAKO
2 DUDA
2 NEMKA
2 PAUK
@1D000
0 BYZANTINE MUSICAL SYMBOL PSILI
3 DASEIA
3 PERISPOMENI
3 OXEIA EKFONITIKON
4 DIPLI
3 VAREIA EKFONITIKON
4 DIPLI
3 KATHISTI
3 SYRMATIKI
3 PARAKLITIKI
3 YPOKRISIS
4 DIPLI
3 KREMASTI
3 APESO EKFONITIKON
3 EXO EKFONITIKON
3 TELEIA
3 KENTIMATA
3 APOSTROFOS
4 DIPLI
3 SYNEVMA
3 THITA
3 OLIGON ARCHAION
3 GORGON ARCHAION
3 PSILON
3 CHAMILON
3 VATHY
3 ISON ARCHAION
3 KENTIMA ARCHAION
3 KENTIMATA ARCHAION
3 SAXIMATA
3 PARICHON
3 STAVROS APODEXIA
3 OXEIAI ARCHAION
3 VAREIAI ARCHAION
3 APODERMA ARCHAION
3 APOTHEMA
3 KLASMA
3 REVMA
3 PIASMA ARCHAION
3 TINAGMA
3 ANATRICHISMA
3 SEISMA
3 SYNAGMA ARCHAION
4 META STAVROU
3 OYRANISMA ARCHAION
3 THEMA
3 LEMOI
3 DYO
3 TRIA
3 TESSERA
3 KRATIMATA
3 APESO EXO NEO
3 FTHORA ARCHAION
3 IMIFTHORA
3 TROMIKON ARCHAION
3 KATAVA TROMIKON
3 PELASTON
3 PSIFISTON
3 KONTEVMA
3 CHOREVMA ARCHAION
3 RAPISMA
3 PARAKALESMA ARCHAION
3 PARAKLITIKI ARCHAION
3 ICHADIN
3 NANA
3 PETASMA
3 KONTEVMA ALLO
3 TROMIKON ALLO
3 STRAGGISMATA
3 GRONTHISMATA
3 ISON NEO
3 OLIGON NEO
3 OXEIA NEO
3 PETASTI
3 KOUFISMA
3 PETASTOKOUFISMA
3 KRATIMOKOUFISMA
3 PELASTON NEO
3 KENTIMATA NEO ANO
3 KENTIMA NEO ANO
3 YPSILI
3 APOSTROFOS NEO
3 APOSTROFOI SYNDESMOS NEO
3 YPORROI
3 KRATIMOYPORROON
3 ELAFRON
3 CHAMILI
3 MIKRON ISON
3 VAREIA NEO
3 PIASMA NEO
3 PSIFISTON NEO
3 OMALON
3 ANTIKENOMA
3 LYGISMA
3 PARAKLITIKI NEO
3 PARAKALESMA NEO
3 ETERON PARAKALESMA
3 KYLISMA
3 ANTIKENOKYLISMA
3 TROMIKON NEO
3 EKSTREPTON
3 SYNAGMA NEO
3 SYRMA
3 CHOREVMA NEO
3 EPEGERMA
3 SEISMA NEO
3 XIRON KLASMA
3 TROMIKOPSIFISTON
3 PSIFISTOLYGISMA
3 TROMIKOLYGISMA
3 TROMIKOPARAKALESMA
3 PSIFISTOPARAKALESMA
3 TROMIKOSYNAGMA
3 PSIFISTOSYNAGMA
3 GORGOSYNTHETON
3 ARGOSYNTHETON
3 ETERON ARGOSYNTHETON
3 OYRANISMA NEO
3 THEMATISMOS ESO
4 EXO
3 THEMA APLOUN
3 THES KAI APOTHES
3 KATAVASMA
3 ENDOFONON
3 YFEN KATO
4 ANO
3 STAVROS
3 KLASMA ANO
3 DIPLI ARCHAION
3 KRATIMA ARCHAION
4 ALLO
4 NEO
3 APODERMA NEO
3 APLI
3 DIPLI
3 TRIPLI
3 TETRAPLI
3 KORONIS
3 LEIMMA ENOS CHRONOU
4 DYO CHRONON
4 TRION CHRONON
4 TESSARON CHRONON
4 IMISEOS CHRONOU
3 GORGON NEO ANO
4 PARESTIGMENON ARISTERA
5 DEXIA
3 DIGORGON
4 PARESTIGMENON ARISTERA KATO
6 ANO
5 DEXIA
3 TRIGORGON
3 ARGON
3 IMIDIARGON
3 DIARGON
3 AGOGI POLI ARGI
4 ARGOTERI
4 ARGI
4 METRIA
4 MESI
4 GORGI
4 GORGOTERI
4 POLI GORGI
3 MARTYRIA PROTOS ICHOS
4 ALLI PROTOS ICHOS
4 DEYTEROS ICHOS
4 ALLI DEYTEROS ICHOS
4 TRITOS ICHOS
4 TRIFONIAS
4 TETARTOS ICHOS
5 LEGETOS ICHOS
4 LEGETOS ICHOS
4 PLAGIOS ICHOS
3 ISAKIA TELOUS ICHIMATOS
3 APOSTROFOI TELOUS ICHIMATOS
3 FANEROSIS TETRAFONIAS
4 MONOFONIAS
4 DIFONIAS
3 MARTYRIA VARYS ICHOS
4 PROTOVARYS ICHOS
4 PLAGIOS TETARTOS ICHOS
3 GORTHMIKON N APLOUN
5 DIPLOUN
3 ENARXIS KAI FTHORA VOU
3 IMIFONON
3 IMIFTHORON
3 FTHORA ARCHAION DEYTEROU ICHOU
4 DIATONIKI PA
5 NANA
4 NAOS ICHOS
4 DIATONIKI DI
4 SKLIRON DIATONON DI
4 DIATONIKI KE
5 ZO
5 NI KATO
6 ANO
4 MALAKON CHROMA DIFONIAS
6 MONOFONIAS
3 FHTORA SKLIRON CHROMA VASIS
3 FTHORA SKLIRON CHROMA SYNAFI
4 NENANO
3 CHROA ZYGOS
4 KLITON
4 SPATHI
3 FTHORA I YFESIS TETARTIMORION
4 ENARMONIOS ANTIFONIA
3 YFESIS TRITIMORION
3 DIESIS TRITIMORION
4 TETARTIMORION
4 APLI DYO DODEKATA
4 MONOGRAMMOS TESSERA DODEKATA
4 DIGRAMMOS EX DODEKATA
4 TRIGRAMMOS OKTO DODEKATA
3 YFESIS APLI DYO DODEKATA
4 MONOGRAMMOS TESSERA DODEKATA
4 DIGRAMMOS EX DODEKATA
4 TRIGRAMMOS OKTO DODEKATA
3 GENIKI DIESIS
4 YFESIS
3 DIASTOLI APLI MIKRI
5 MEGALI
4 DIPLI
4 THESEOS
3 SIMANSIS THESEOS
5 DISIMOU
5 TRISIMOU
5 TETRASIMOU
4 ARSEOS
5 DISIMOU
5 TRISIMOU
5 TETRASIMOU
3 DIGRAMMA GG
3 DIFTOGGOS OU
3 STIGMA
3 ARKTIKO PA
4 VOU
4 GA
4 DI
4 KE
4 ZO
4 NI
3 KENTIMATA NEO MESO
3 KENTIMA NEO MESO
3 KENTIMATA NEO KATO
3 KENTIMA NEO KATO
3 KLASMA KATO
3 GORGON NEO KATO
@1D100
0 MUSICAL SYMBOL SINGLE BARLINE
2 DOUBLE BARLINE
2 FINAL BARLINE
2 REVERSE FINAL BARLINE
2 DASHED BARLINE
2 SHORT BARLINE
2 LEFT REPEAT SIGN
2 RIGHT REPEAT SIGN
2 REPEAT DOTS
2 DAL SEGNO
2 DA CAPO
2 SEGNO
2 CODA
2 REPEATED FIGURE-1
3 FIGURE-2
3 FIGURE-3
2 FERMATA
3 BELOW
2 BREATH MARK
2 CAESURA
2 BRACE
2 BRACKET
2 ONE-LINE STAFF
2 TWO-LINE STAFF
2 THREE-LINE STAFF
2 FOUR-LINE STAFF
2 FIVE-LINE STAFF
2 SIX-LINE STAFF
2 SIX-STRING FRETBOARD
2 FOUR-STRING FRETBOARD
2 G CLEF
4 OTTAVA ALTA
5 BASSA
2 C CLEF
2 F CLEF
4 OTTAVA ALTA
5 BASSA
2 DRUM CLEF-1
3 CLEF-2
@1D129
2 MULTIPLE MEASURE REST
2 DOUBLE SHARP
3 FLAT
2 FLAT UP
3 DOWN
2 NATURAL UP
3 DOWN
2 SHARP UP
3 DOWN
2 QUARTER TONE SHARP
4 FLAT
2 COMMON TIME
2 CUT TIME
2 OTTAVA ALTA
3 BASSA
2 QUINDICESIMA ALTA
3 BASSA
2 MULTI REST
2 WHOLE REST
2 HALF REST
2 QUARTER REST
2 EIGHTH REST
2 SIXTEENTH REST
2 THIRTY-SECOND REST
2 SIXTY-FOURTH REST
2 ONE HUNDRED TWENTY-EIGHTH REST
2 X NOTEHEAD
2 PLUS NOTEHEAD
2 CIRCLE X NOTEHEAD
2 SQUARE NOTEHEAD WHITE
4 BLACK
2 TRIANGLE NOTEHEAD UP WHITE
5 BLACK
4 LEFT WHITE
5 BLACK
4 RIGHT WHITE
5 BLACK
4 DOWN WHITE
5 BLACK
4 UP RIGHT WHITE
6 BLACK
2 MOON NOTEHEAD WHITE
4 BLACK
2 TRIANGLE-ROUND NOTEHEAD DOWN WHITE
5 BLACK
2 PARENTHESIS NOTEHEAD
2 VOID NOTEHEAD
2 NOTEHEAD BLACK
2 NULL NOTEHEAD
2 CLUSTER NOTEHEAD WHITE
4 BLACK
2 BREVE
2 WHOLE NOTE
2 HALF NOTE
2 QUARTER NOTE
2 EIGHTH NOTE
2 SIXTEENTH NOTE
2 THIRTY-SECOND NOTE
2 SIXTY-FOURTH NOTE
2 ONE HUNDRED TWENTY-EIGHTH NOTE
2 COMBINING STEM
3 SPRECHGESANG STEM
3 TREMOLO-1
3 TREMOLO-2
3 TREMOLO-3
2 FINGERED TREMOLO-1
3 TREMOLO-2
3 TREMOLO-3
2 COMBINING AUGMENTATION DOT
3 FLAG-1
3 FLAG-2
3 FLAG-3
3 FLAG-4
3 FLAG-5
2 BEGIN BEAM
2 END BEAM
2 BEGIN TIE
2 END TIE
2 BEGIN SLUR
2 END SLUR
2 BEGIN PHRASE
2 END PHRASE
2 COMBINING ACCENT
3 STACCATO
3 TENUTO
3 STACCATISSIMO
3 MARCATO
3 MARCATO-STACCATO
3 ACCENT-STACCATO
3 LOURE
2 ARPEGGIATO UP
3 DOWN
2 COMBINING DOIT
3 RIP
3 FLIP
3 SMEAR
3 BEND
3 DOUBLE TONGUE
3 TRIPLE TONGUE
2 RINFORZANDO
2 SUBITO
2 Z
2 PIANO
2 MEZZO
2 FORTE
2 CRESCENDO
2 DECRESCENDO
2 GRACE NOTE SLASH
4 NO SLASH
2 TR
2 TURN
2 INVERTED TURN
2 TURN SLASH
3 UP
2 ORNAMENT STROKE-1
3 STROKE-2
3 STROKE-3
3 STROKE-4
3 STROKE-5
3 STROKE-6
3 STROKE-7
3 STROKE-8
3 STROKE-9
3 STROKE-10
3 STROKE-11
2 HAUPTSTIMME
2 NEBENSTIMME
2 END OF STIMME
2 DEGREE SLASH
2 COMBINING DOWN BOW
3 UP BOW
3 HARMONIC
3 SNAP PIZZICATO
2 PEDAL MARK
3 UP MARK
2 HALF PEDAL MARK
2 GLISSANDO UP
3 DOWN
2 WITH FINGERNAILS
2 DAMP
3 ALL
2 MAXIMA
2 LONGA
2 BREVIS
2 SEMIBREVIS WHITE
3 BLACK
2 MINIMA
3 BLACK
2 SEMIMINIMA WHITE
3 BLACK
2 FUSA WHITE
3 BLACK
2 LONGA PERFECTA REST
3 IMPERFECTA REST
2 BREVIS REST
2 SEMIBREVIS REST
2 MINIMA REST
2 SEMIMINIMA REST
2 TEMPUS PERFECTUM CUM PROLATIONE PERFECTA
6 IMPERFECTA
6 PERFECTA DIMINUTION-1
3 IMPERFECTUM CUM PROLATIONE PERFECTA
6 IMPERFECTA
7 DIMINUTION-1
7 DIMINUTION-2
7 DIMINUTION-3
2 CROIX
2 GREGORIAN C CLEF
3 F CLEF
2 SQUARE B
2 VIRGA
2 PODATUS
2 CLIVIS
2 SCANDICUS
2 CLIMACUS
2 TORCULUS
2 PORRECTUS
3 FLEXUS
2 SCANDICUS FLEXUS
2 TORCULUS RESUPINUS
2 PES SUBPUNCTIS
2 KIEVAN C CLEF
3 END OF PIECE
3 FINAL NOTE
3 RECITATIVE MARK
3 WHOLE NOTE
3 HALF NOTE
3 QUARTER NOTE STEM DOWN
6 UP
3 EIGHTH NOTE STEM DOWN
6 UP
3 FLAT SIGN
2 SORI
2 KORON
@1D200
0 GREEK VOCAL NOTATION SYMBOL-1
3 SYMBOL-2
3 SYMBOL-3
3 SYMBOL-4
3 SYMBOL-5
3 SYMBOL-6
3 SYMBOL-7
3 SYMBOL-8
3 SYMBOL-9
3 SYMBOL-10
3 SYMBOL-11
3 SYMBOL-12
3 SYMBOL-13
3 SYMBOL-14
3 SYMBOL-15
3 SYMBOL-16
3 SYMBOL-17
3 SYMBOL-18
3 SYMBOL-19
3 SYMBOL-20
3 SYMBOL-21
3 SYMBOL-22
3 SYMBOL-23
3 SYMBOL-24
3 SYMBOL-50
3 SYMBOL-51
3 SYMBOL-52
3 SYMBOL-53
3 SYMBOL-54
1 INSTRUMENTAL NOTATION SYMBOL-1
3 SYMBOL-2
3 SYMBOL-4
3 SYMBOL-5
3 SYMBOL-7
3 SYMBOL-8
3 SYMBOL-11
3 SYMBOL-12
3 SYMBOL-13
3 SYMBOL-14
3 SYMBOL-17
3 SYMBOL-18
3 SYMBOL-19
3 SYMBOL-23
3 SYMBOL-24
3 SYMBOL-25
3 SYMBOL-26
3 SYMBOL-27
3 SYMBOL-29
3 SYMBOL-30
3 SYMBOL-32
3 SYMBOL-36
3 SYMBOL-37
3 SYMBOL-38
3 SYMBOL-39
3 SYMBOL-40
3 SYMBOL-42
3 SYMBOL-43
3 SYMBOL-45
3 SYMBOL-47
3 SYMBOL-48
3 SYMBOL-49
3 SYMBOL-50
3 SYMBOL-51
3 SYMBOL-52
3 SYMBOL-53
3 SYMBOL-54
0 COMBINING GREEK MUSICAL TRISEME
3 TETRASEME
3 PENTASEME
0 GREEK MUSICAL LEIMMA
@1D2E0
0 MAYAN NUMERAL ZERO
2 ONE
2 TWO
2 THREE
2 FOUR
2 FIVE
2 SIX
2 SEVEN
2 EIGHT
2 NINE
2 TEN
2 ELEVEN
2 TWELVE
2 THIRTEEN
2 FOURTEEN
2 FIFTEEN
2 SIXTEEN
2 SEVENTEEN
2 EIGHTEEN
2 NINETEEN
@1D300
0 MONOGRAM FOR EARTH
0 DIGRAM FOR HEAVENLY EARTH
2 HUMAN EARTH
2 EARTHLY HEAVEN
3 HUMAN
2 EARTH
0 TETRAGRAM FOR CENTRE
2 FULL CIRCLE
2 MIRED
2 BARRIER
2 KEEPING SMALL
2 CONTRARIETY
2 ASCENT
2 OPPOSITION
2 BRANCHING OUT
2 DEFECTIVENESS OR DISTORTION
2 DIVERGENCE
2 YOUTHFULNESS
2 INCREASE
2 PENETRATION
2 REACH
2 CONTACT
2 HOLDING BACK
2 WAITING
2 FOLLOWING
2 ADVANCE
2 RELEASE
2 RESISTANCE
2 EASE
2 JOY
2 CONTENTION
2 ENDEAVOUR
2 DUTIES
2 CHANGE
2 DECISIVENESS
2 BOLD RESOLUTION
2 PACKING
2 LEGION
2 CLOSENESS
2 KINSHIP
2 GATHERING
2 STRENGTH
2 PURITY
2 FULLNESS
2 RESIDENCE
2 LAW OR MODEL
2 RESPONSE
2 GOING TO MEET
2 ENCOUNTERS
2 STOVE
2 GREATNESS
2 ENLARGEMENT
2 PATTERN
2 RITUAL
2 FLIGHT
2 VASTNESS OR WASTING
2 CONSTANCY
2 MEASURE
2 ETERNITY
2 UNITY
2 DIMINISHMENT
2 CLOSED MOUTH
2 GUARDEDNESS
2 GATHERING IN
2 MASSING
2 ACCUMULATION
2 EMBELLISHMENT
2 DOUBT
2 WATCH
2 SINKING
2 INNER
2 DEPARTURE
2 DARKENING
2 DIMMING
2 EXHAUSTION
2 SEVERANCE
2 STOPPAGE
2 HARDNESS
2 COMPLETION
2 CLOSURE
2 FAILURE
2 AGGRAVATION
2 COMPLIANCE
2 ON THE VERGE
2 DIFFICULTIES
2 LABOURING
2 FOSTERING
@1D360
0 COUNTING ROD UNIT DIGIT ONE
4 TWO
4 THREE
4 FOUR
4 FIVE
4 SIX
4 SEVEN
4 EIGHT
4 NINE
2 TENS DIGIT ONE
4 TWO
4 THREE
4 FOUR
4 FIVE
4 SIX
4 SEVEN
4 EIGHT
4 NINE
0 IDEOGRAPHIC TALLY MARK ONE
3 TWO
3 THREE
3 FOUR
3 FIVE
0 TALLY MARK ONE
2 FIVE
@1D400
0 MATHEMATICAL BOLD CAPITAL A
3 B
3 C
3 D
3 E
3 F
3 G
3 H
3 I
3 J
3 K
3 L
3 M
3 N
3 O
3 P
3 Q
3 R
3 S
3 T
3 U
3 V
3 W
3 X
3 Y
3 Z
2 SMALL A
3 B
3 C
3 D
3 E
3 F
3 G
3 H
3 I
3 J
3 K
3 L
3 M
3 N
3 O
3 P
3 Q
3 R
3 S
3 T
3 U
3 V
3 W
3 X
3 Y
3 Z
1 ITALIC CAPITAL A
3 B
3 C
3 D
3 E
3 F
3 G
3 H
3 I
3 J
3 K
3 L
3 M
3 N
3 O
3 P
3 Q
3 R
3 S
3 T
3 U
3 V
3 W
3 X
3 Y
3 Z
2 SMALL A
3 B
3 C
3 D
3 E
3 F
3 G
@1D456
3 I
3 J
3 K
3 L
3 M
3 N
3 O
3 P
3 Q
3 R
3 S
3 T
3 U
3 V
3 W
3 X
3 Y
3 Z
1 BOLD ITALIC CAPITAL A
4 B
4 C
4 D
4 E
4 F
4 G
4 H
4 I
4 J
4 K
4 L
4 M
4 N
4 O
4 P
4 Q
4 R
4 S
4 T
4 U
4 V
4 W
4 X
4 Y
4 Z
3 SMALL A
4 B
4 C
4 D
4 E
4 F
4 G
4 H
4 I
4 J
4 K
4 L
4 M
4 N
4 O
4 P
4 Q
4 R
4 S
4 T
4 U
4 V
4 W
4 X
4 Y
4 Z
1 SCRIPT CAPITAL A
@1D49E
3 C
3 D
@1D4A2
3 G
@1D4A5
3 J
3 K
@1D4A9
3 N
3 O
3 P
3 Q
@1D4AE
3 S
3 T
3 U
3 V
3 W
3 X
3 Y
3 Z
2 SMALL A
3 B
3 C
3 D
@1D4BB
3 F
@1D4BD
3 H
3 I
3 J
3 K
3 L
3 M
3 N
@1D4C5
3 P
3 Q
3 R
3 S
3 T
3 U
3 V
3 W
3 X
3 Y
3 Z
1 BOLD SCRIPT CAPITAL A
4 B
4 C
4 D
4 E
4 F
4 G
4 H
4 I
4 J
4 K
4 L
4 M
4 N
4 O
4 P
4 Q
4 R
4 S
4 T
4 U
4 V
4 W
4 X
4 Y
4 Z
3 SMALL A
4 B
4 C
4 D
4 E
4 F
4 G
4 H
4 I
4 J
4 K
4 L
4 M
4 N
4 O
4 P
4 Q
4 R
4 S
4 T
4 U
4 V
4 W
4 X
4 Y
4 Z
1 FRAKTUR CAPITAL A
3 B
@1D507
3 D
3 E
3 F
3 G
@1D50D
3 J
3 K
3 L
3 M
3 N
3 O
3 P
3 Q
@1D516
3 S
3 T
3 U
3 V
3 W
3 X
3 Y
@1D51E
2 SMALL A
3 B
3 C
3 D
3 E
3 F
3 G
3 H
3 I
3 J
3 K
3 L
3 M
3 N
3 O
3 P
3 Q
3 R
3 S
3 T
3 U
3 V
3 W
3 X
3 Y
3 Z
1 DOUBLE-STRUCK CAPITAL A
3 B
@1D53B
3 D
3 E
3 F
3 G
@1D540
3 I
3 J
3 K
3 L
3 M
@1D546
3 O
@1D54A
3 S
3 T
3 U
3 V
3 W
3 X
3 Y
@1D552
2 SMALL A
3 B
3 C
3 D
3 E
3 F
3 G
3 H
3 I
3 J
3 K
3 L
3 M
3 N
3 O
3 P
3 Q
3 R
3 S
3 T
3 U
3 V
3 W
3 X
3 Y
3 Z
1 BOLD FRAKTUR CAPITAL A
4 B
4 C
4 D
4 E
4 F
4 G
4 H
4 I
4 J
4 K
4 L
4 M
4 N
4 O
4 P
4 Q
4 R
4 S
4 T
4 U
4 V
4 W
4 X
4 Y
4 Z
3 SMALL A
4 B
4 C
4 D
4 E
4 F
4 G
4 H
4 I
4 J
4 K
4 L
4 M
4 N
4 O
4 P
4 Q
4 R
4 S
4 T
4 U
4 V
4 W
4 X
4 Y
4 Z
1 SANS-SERIF CAPITAL A
3 B
3 C
3 D
3 E
3 F
3 G
3 H
3 I
3 J
3 K
3 L
3 M
3 N
3 O
3 P
3 Q
3 R
3 S
3 T
3 U
3 V
3 W
3 X
3 Y
3 Z
2 SMALL A
3 B
3 C
3 D
3 E
3 F
3 G
3 H
3 I
3 J
3 K
3 L
3 M
3 N
3 O
3 P
3 Q
3 R
3 S
3 T
3 U
3 V
3 W
3 X
3 Y
3 Z
2 BOLD CAPITAL A
4 B
4 C
4 D
4 E
4 F
4 G
4 H
4 I
4 J
4 K
4 L
4 M
4 N
4 O
4 P
4 Q
4 R
4 S
4 T
4 U
4 V
4 W
4 X
4 Y
4 Z
3 SMALL A
4 B
4 C
4 D
4 E
4 F
4 G
4 H
4 I
4 J
4 K
4 L
4 M
4 N
4 O
4 P
4 Q
4 R
4 S
4 T
4 U
4 V
4 W
4 X
4 Y
4 Z
2 ITALIC CAPITAL A
4 B
4 C
4 D
4 E
4 F
4 G
4 H
4 I
4 J
4 K
4 L
4 M
4 N
4 O
4 P
4 Q
4 R
4 S
4 T
4 U
4 V
4 W
4 X
4 Y
4 Z
3 SMALL A
4 B
4 C
4 D
4 E
4 F
4 G
4 H
4 I
4 J
4 K
4 L
4 M
4 N
4 O
4 P
4 Q
4 R
4 S
4 T
4 U
4 V
4 W
4 X
4 Y
4 Z
2 BOLD ITALIC CAPITAL A
5 B
5 C
5 D
5 E
5 F
5 G
5 H
5 I
5 J
5 K
5 L
5 M
5 N
5 O
5 P
5 Q
5 R
5 S
5 T
5 U
5 V
5 W
5 X
5 Y
5 Z
4 SMALL A
5 B
5 C
5 D
5 E
5 F
5 G
5 H
5 I
5 J
5 K
5 L
5 M
5 N
5 O
5 P
5 Q
5 R
5 S
5 T
5 U
5 V
5 W
5 X
5 Y
5 Z
1 MONOSPACE CAPITAL A
3 B
3 C
3 D
3 E
3 F
3 G
3 H
3 I
3 J
3 K
3 L
3 M
3 N
3 O
3 P
3 Q
3 R
3 S
3 T
3 U
3 V
3 W
3 X
3 Y
3 Z
2 SMALL A
3 B
3 C
3 D
3 E
3 F
3 G
3 H
3 I
3 J
3 K
3 L
3 M
3 N
3 O
3 P
3 Q
3 R
3 S
3 T
3 U
3 V
3 W
3 X
3 Y
3 Z
1 ITALIC SMALL DOTLESS I
4 J
@1D6A8
1 BOLD CAPITAL ALPHA
3 BETA
3 GAMMA
3 DELTA
3 EPSILON
3 ZETA
3 ETA
3 THETA
3 IOTA
3 KAPPA
3 LAMDA
3 MU
3 NU
3 XI
3 OMICRON
3 PI
3 RHO
3 THETA SYMBOL
3 SIGMA
3 TAU
3 UPSILON
3 PHI
3 CHI
3 PSI
3 OMEGA
2 NABLA
2 SMALL ALPHA
3 BETA
3 GAMMA
3 DELTA
3 EPSILON
3 ZETA
3 ETA
3 THETA
3 IOTA
3 KAPPA
3 LAMDA
3 MU
3 NU
3 XI
3 OMICRON
3 PI
3 RHO
3 FINAL SIGMA
3 SIGMA
3 TAU
3 UPSILON
3 PHI
3 CHI
3 PSI
3 OMEGA
2 PARTIAL DIFFERENTIAL
2 EPSILON SYMBOL
2 THETA SYMBOL
2 KAPPA SYMBOL
2 PHI SYMBOL
2 RHO SYMBOL
2 PI SYMBOL
1 ITALIC CAPITAL ALPHA
3 BETA
3 GAMMA
3 DELTA
3 EPSILON
3 ZETA
3 ETA
3 THETA
3 IOTA
3 KAPPA
3 LAMDA
3 MU
3 NU
3 XI
3 OMICRON
3 PI
3 RHO
3 THETA SYMBOL
3 SIGMA
3 TAU
3 UPSILON
3 PHI
3 CHI
3 PSI
3 OMEGA
2 NABLA
2 SMALL ALPHA
3 BETA
3 GAMMA
3 DELTA
3 EPSILON
3 ZETA
3 ETA
3 THETA
3 IOTA
3 KAPPA
3 LAMDA
3 MU
3 NU
3 XI
3 OMICRON
3 PI
3 RHO
3 FINAL SIGMA
3 SIGMA
3 TAU
3 UPSILON
3 PHI
3 CHI
3 PSI
3 OMEGA
2 PARTIAL DIFFERENTIAL
2 EPSILON SYMBOL
2 THETA SYMBOL
2 KAPPA SYMBOL
2 PHI SYMBOL
2 RHO SYMBOL
2 PI SYMBOL
1 BOLD ITALIC CAPITAL ALPHA
4 BETA
4 GAMMA
4 DELTA
4 EPSILON
4 ZETA
4 ETA
4 THETA
4 IOTA
4 KAPPA
4 LAMDA
4 MU
4 NU
4 XI
4 OMICRON
4 PI
4 RHO
4 THETA SYMBOL
4 SIGMA
4 TAU
4 UPSILON
4 PHI
4 CHI
4 PSI
4 OMEGA
3 NABLA
3 SMALL ALPHA
4 BETA
4 GAMMA
4 DELTA
4 EPSILON
4 ZETA
4 ETA
4 THETA
4 IOTA
4 KAPPA
4 LAMDA
4 MU
4 NU
4 XI
4 OMICRON
4 PI
4 RHO
4 FINAL SIGMA
4 SIGMA
4 TAU
4 UPSILON
4 PHI
4 CHI
4 PSI
4 OMEGA
3 PARTIAL DIFFERENTIAL
3 EPSILON SYMBOL
3 THETA SYMBOL
3 KAPPA SYMBOL
3 PHI SYMBOL
3 RHO SYMBOL
3 PI SYMBOL
1 SANS-SERIF BOLD CAPITAL ALPHA
4 BETA
4 GAMMA
4 DELTA
4 EPSILON
4 ZETA
4 ETA
4 THETA
4 IOTA
4 KAPPA
4 LAMDA
4 MU
4 NU
4 XI
4 OMICRON
4 PI
4 RHO
4 THETA SYMBOL
4 SIGMA
4 TAU
4 UPSILON
4 PHI
4 CHI
4 PSI
4 OMEGA
3 NABLA
3 SMALL ALPHA
4 BETA
4 GAMMA
4 DELTA
4 EPSILON
4 ZETA
4 ETA
4 THETA
4 IOTA
4 KAPPA
4 LAMDA
4 MU
4 NU
4 XI
4 OMICRON
4 PI
4 RHO
4 FINAL SIGMA
4 SIGMA
4 TAU
4 UPSILON
4 PHI
4 CHI
4 PSI
4 OMEGA
3 PARTIAL DIFFERENTIAL
3 EPSILON SYMBOL
3 THETA SYMBOL
3 KAPPA SYMBOL
3 PHI SYMBOL
3 RHO SYMBOL
3 PI SYMBOL
3 ITALIC CAPITAL ALPHA
5 BETA
5 GAMMA
5 DELTA
5 EPSILON
5 ZETA
5 ETA
5 THETA
5 IOTA
5 KAPPA
5 LAMDA
5 MU
5 NU
5 XI
5 OMICRON
5 PI
5 RHO
5 THETA SYMBOL
5 SIGMA
5 TAU
5 UPSILON
5 PHI
5 CHI
5 PSI
5 OMEGA
4 NABLA
4 SMALL ALPHA
5 BETA
5 GAMMA
5 DELTA
5 EPSILON
5 ZETA
5 ETA
5 THETA
5 IOTA
5 KAPPA
5 LAMDA
5 MU
5 NU
5 XI
5 OMICRON
5 PI
5 RHO
5 FINAL SIGMA
5 SIGMA
5 TAU
5 UPSILON
5 PHI
5 CHI
5 PSI
5 OMEGA
4 PARTIAL DIFFERENTIAL
4 EPSILON SYMBOL
4 THETA SYMBOL
4 KAPPA SYMBOL
4 PHI SYMBOL
4 RHO SYMBOL
4 PI SYMBOL
1 BOLD CAPITAL DIGAMMA
2 SMALL DIGAMMA
@1D7CE
2 DIGIT ZERO
3 ONE
3 TWO
3 THREE
3 FOUR
3 FIVE
3 SIX
3 SEVEN
3 EIGHT
3 NINE
1 DOUBLE-STRUCK DIGIT ZERO
3 ONE
3 TWO
3 THREE
3 FOUR
3 FIVE
3 SIX
3 SEVEN
3 EIGHT
3 NINE
1 SANS-SERIF DIGIT ZERO
3 ONE
3 TWO
3 THREE
3 FOUR
3 FIVE
3 SIX
3 SEVEN
3 EIGHT
3 NINE
2 BOLD DIGIT ZERO
4 ONE
4 TWO
4 THREE
4 FOUR
4 FIVE
4 SIX
4 SEVEN
4 EIGHT
4 NINE
1 MONOSPACE DIGIT ZERO
3 ONE
3 TWO
3 THREE
3 FOUR
3 FIVE
3 SIX
3 SEVEN
3 EIGHT
3 NINE
0 SIGNWRITING HAND-FIST INDEX
1 HAND-CIRCLE INDEX
1 HAND-CUP INDEX
1 HAND-OVAL INDEX
1 HAND-HINGE INDEX
1 HAND-ANGLE INDEX
1 HAND-FIST INDEX BENT
1 HAND-CIRCLE INDEX BENT
1 HAND-FIST THUMB UNDER INDEX BENT
2 INDEX RAISED KNUCKLE
3 CUPPED
3 HINGED
4 LOW
1 HAND-CIRCLE INDEX HINGE
1 HAND-FIST INDEX MIDDLE
1 HAND-CIRCLE INDEX MIDDLE
1 HAND-FIST INDEX MIDDLE BENT
4 RAISED KNUCKLES
4 HINGED
3 UP MIDDLE HINGED
3 HINGED MIDDLE UP
3 MIDDLE CONJOINED
5 INDEX BENT
5 MIDDLE BENT
5 CUPPED
5 HINGED
4 CROSSED
1 HAND-CIRCLE INDEX MIDDLE CROSSED
1 HAND-FIST MIDDLE BENT OVER INDEX
2 INDEX BENT OVER MIDDLE
3 MIDDLE THUMB
1 HAND-CIRCLE INDEX MIDDLE THUMB
1 HAND-FIST INDEX MIDDLE STRAIGHT THUMB BENT
4 BENT THUMB STRAIGHT
4 THUMB BENT
4 HINGED SPREAD THUMB SIDE
3 UP MIDDLE HINGED THUMB SIDE
7 CONJOINED
3 HINGED MIDDLE UP THUMB SIDE
3 MIDDLE UP SPREAD THUMB FORWARD
4 THUMB CUPPED
5 CIRCLED
5 HOOKED
5 HINGED
2 THUMB BETWEEN INDEX MIDDLE STRAIGHT
2 INDEX MIDDLE CONJOINED THUMB SIDE
7 CONJOINED
7 BENT
2 MIDDLE THUMB HOOKED INDEX UP
2 INDEX THUMB HOOKED MIDDLE UP
3 MIDDLE CONJOINED HINGED THUMB SIDE
4 CROSSED THUMB SIDE
4 CONJOINED THUMB FORWARD
5 CUPPED THUMB FORWARD
2 MIDDLE THUMB CUPPED INDEX UP
2 INDEX THUMB CUPPED MIDDLE UP
2 MIDDLE THUMB CIRCLED INDEX UP
6 HINGED
2 INDEX THUMB ANGLED OUT MIDDLE UP
5 IN MIDDLE UP
4 CIRCLED MIDDLE UP
3 MIDDLE THUMB CONJOINED HINGED
5 ANGLED OUT
6
2 MIDDLE THUMB ANGLED OUT INDEX UP
7 CROSSED
5 INDEX UP
2 INDEX THUMB HOOKED MIDDLE HINGED
1 HAND-FLAT FOUR FINGERS
4 BENT
4 HINGED
4 CONJOINED
5 SPLIT
1 HAND-CLAW FOUR FINGERS CONJOINED
1 HAND-FIST FOUR FINGERS CONJOINED BENT
1 HAND-HINGE FOUR FINGERS CONJOINED
1 HAND-FLAT FIVE FINGERS SPREAD
2 HEEL FIVE FINGERS SPREAD
2 FIVE FINGERS SPREAD FOUR BENT
2 HEEL FIVE FINGERS SPREAD FOUR BENT
2 FIVE FINGERS SPREAD BENT
2 HEEL FIVE FINGERS SPREAD BENT
2 FIVE FINGERS SPREAD THUMB FORWARD
1 HAND-CUP FIVE FINGERS SPREAD
5 OPEN
1 HAND-HINGE FIVE FINGERS SPREAD OPEN
1 HAND-OVAL FIVE FINGERS SPREAD
1 HAND-FLAT FIVE FINGERS SPREAD HINGED
6 THUMB SIDE
6 NO THUMB
2
2 BETWEEN PALM FACINGS
2 HEEL
2 THUMB SIDE
2 HEEL THUMB SIDE
2 THUMB BENT
3 FORWARD
2 SPLIT INDEX THUMB SIDE
3 CENTRE
4 THUMB SIDE
6 BENT
3 LITTLE
1 HAND-CLAW
2 THUMB SIDE
2 NO THUMB
2 THUMB FORWARD
1 HAND-HOOK CURLICUE
2
1 HAND-CUP OPEN
2
2 OPEN THUMB SIDE
2 THUMB SIDE
2 OPEN NO THUMB
2 NO THUMB
2 OPEN THUMB FORWARD
2 THUMB FORWARD
1 HAND-CURLICUE OPEN
2
1 HAND-CIRCLE
1 HAND-OVAL
2 THUMB SIDE
2 NO THUMB
2 THUMB FORWARD
1 HAND-HINGE OPEN
3 THUMB FORWARD
2
2 SMALL
2 OPEN THUMB SIDE
2 THUMB SIDE
2 OPEN NO THUMB
2 NO THUMB
2 THUMB SIDE TOUCHING INDEX
3 BETWEEN MIDDLE RING
1 HAND-ANGLE
1 HAND-FIST INDEX MIDDLE RING
1 HAND-CIRCLE INDEX MIDDLE RING
1 HAND-HINGE INDEX MIDDLE RING
1 HAND-ANGLE INDEX MIDDLE RING
1 HAND-HINGE LITTLE
1 HAND-FIST INDEX MIDDLE RING BENT
5 CONJOINED
1 HAND-HINGE INDEX MIDDLE RING CONJOINED
1 HAND-FIST LITTLE DOWN
4 RIPPLE STRAIGHT
5 CURVED
4 OTHERS CIRCLED
3 UP
2 THUMB UNDER LITTLE UP
1 HAND-CIRCLE LITTLE UP
1 HAND-OVAL LITTLE UP
1 HAND-ANGLE LITTLE UP
1 HAND-FIST LITTLE RAISED KNUCKLE
3 BENT
3 TOUCHES THUMB
3 THUMB
1 HAND-HINGE LITTLE THUMB
1 HAND-FIST LITTLE INDEX THUMB
1 HAND-HINGE LITTLE INDEX THUMB
1 HAND-ANGLE LITTLE INDEX THUMB INDEX THUMB OUT
7
1 HAND-FIST LITTLE INDEX
1 HAND-CIRCLE LITTLE INDEX
1 HAND-HINGE LITTLE INDEX
1 HAND-ANGLE LITTLE INDEX
1 HAND-FIST INDEX MIDDLE LITTLE
1 HAND-CIRCLE INDEX MIDDLE LITTLE
1 HAND-HINGE INDEX MIDDLE LITTLE
2 RING
1 HAND-ANGLE INDEX MIDDLE LITTLE
1 HAND-FIST INDEX MIDDLE CROSS LITTLE
1 HAND-CIRCLE INDEX MIDDLE CROSS LITTLE
1 HAND-FIST RING DOWN
1 HAND-HINGE RING DOWN INDEX THUMB HOOK MIDDLE
1 HAND-ANGLE RING DOWN MIDDLE THUMB INDEX CROSS
1 HAND-FIST RING UP
3 RAISED KNUCKLE
3 LITTLE
1 HAND-CIRCLE RING LITTLE
1 HAND-OVAL RING LITTLE
1 HAND-ANGLE RING LITTLE
1 HAND-FIST RING MIDDLE
4 CONJOINED
4 RAISED KNUCKLES
3 INDEX
3 THUMB
1 HAND-HOOK RING THUMB
1 HAND-FIST INDEX RING LITTLE
1 HAND-CIRCLE INDEX RING LITTLE
1 HAND-CURLICUE INDEX RING LITTLE ON
1 HAND-HOOK INDEX RING LITTLE OUT
5 IN
5 UNDER
1 HAND-CUP INDEX RING LITTLE
1 HAND-HINGE INDEX RING LITTLE
1 HAND-ANGLE INDEX RING LITTLE OUT
5
1 HAND-FIST MIDDLE DOWN
1 HAND-HINGE MIDDLE
1 HAND-FIST MIDDLE UP
1 HAND-CIRCLE MIDDLE UP
1 HAND-FIST MIDDLE RAISED KNUCKLE
3 UP THUMB SIDE
1 HAND-HOOK MIDDLE THUMB
1 HAND-FIST MIDDLE THUMB LITTLE
3 LITTLE
3 RING LITTLE
1 HAND-CIRCLE MIDDLE RING LITTLE
1 HAND-CURLICUE MIDDLE RING LITTLE ON
1 HAND-CUP MIDDLE RING LITTLE
1 HAND-HINGE MIDDLE RING LITTLE
1 HAND-ANGLE MIDDLE RING LITTLE OUT
5 IN
5
1 HAND-CIRCLE MIDDLE RING LITTLE BENT
1 HAND-CLAW MIDDLE RING LITTLE CONJOINED
6 SIDE
1 HAND-HOOK MIDDLE RING LITTLE CONJOINED OUT
6 IN
6
1 HAND-HINGE INDEX HINGED
1 HAND-FIST INDEX THUMB SIDE
1 HAND-HINGE INDEX THUMB SIDE
1 HAND-FIST INDEX THUMB SIDE THUMB DIAGONAL
6 CONJOINED
6 BENT
5 INDEX BENT
5 BOTH BENT
5 INDEX HINGE
4 FORWARD INDEX STRAIGHT
6 BENT
4 HOOK
4 CURLICUE
4 CURVE THUMB INSIDE
1 HAND-CLAW INDEX THUMB CURVE THUMB INSIDE
1 HAND-FIST INDEX THUMB CURVE THUMB UNDER
4 CIRCLE
1 HAND-CUP INDEX THUMB
4 OPEN
1 HAND-HINGE INDEX THUMB OPEN
4 LARGE
4
4 SMALL
1 HAND-ANGLE INDEX THUMB OUT
4 IN
4
1 HAND-FIST THUMB
3 HEEL
3 SIDE DIAGONAL
4 CONJOINED
4 BENT
3 FORWARD
3 BETWEEN INDEX MIDDLE
4 MIDDLE RING
4 RING LITTLE
3 UNDER TWO FINGERS
3 OVER TWO FINGERS
3 UNDER THREE FINGERS
4 FOUR FINGERS
3 OVER FOUR RAISED KNUCKLES
2
2 HEEL
1 TOUCH SINGLE
2 MULTIPLE
2 BETWEEN
1 GRASP SINGLE
2 MULTIPLE
2 BETWEEN
1 STRIKE SINGLE
2 MULTIPLE
2 BETWEEN
1 BRUSH SINGLE
2 MULTIPLE
2 BETWEEN
1 RUB SINGLE
2 MULTIPLE
2 BETWEEN
1 SURFACE SYMBOLS
2 BETWEEN
1 SQUEEZE LARGE SINGLE
2 SMALL SINGLE
2 LARGE MULTIPLE
2 SMALL MULTIPLE
2 SEQUENTIAL
1 FLICK LARGE SINGLE
2 SMALL SINGLE
2 LARGE MULTIPLE
2 SMALL MULTIPLE
2 SEQUENTIAL
1 SQUEEZE FLICK ALTERNATING
1 MOVEMENT-HINGE UP DOWN LARGE
4 SMALL
3 SEQUENTIAL
2 DOWN SEQUENTIAL
2 UP DOWN ALTERNATING LARGE
5 SMALL
2 SIDE TO SIDE SCISSORS
1 MOVEMENT-WALLPLANE FINGER CONTACT
1 MOVEMENT-FLOORPLANE FINGER CONTACT
1 MOVEMENT-WALLPLANE SINGLE STRAIGHT SMALL
4 MEDIUM
4 LARGE
4 LARGEST
3 WRIST FLEX
2 DOUBLE STRAIGHT
3 WRIST FLEX
3 ALTERNATING
4 WRIST FLEX
2 CROSS
2 TRIPLE STRAIGHT MOVEMENT
3 WRIST FLEX
3 ALTERNATING
4 WRIST FLEX
2 BEND SMALL
3 MEDIUM
3 LARGE
2 CORNER SMALL
3 MEDIUM
3 LARGE
3 ROTATION
2 CHECK SMALL
3 MEDIUM
3 LARGE
2 BOX SMALL
3 MEDIUM
3 LARGE
2 ZIGZAG SMALL
3 MEDIUM
3 LARGE
2 PEAKS SMALL
3 MEDIUM
3 LARGE
1 TRAVEL-WALLPLANE ROTATION-WALLPLANE SINGLE
3 DOUBLE
3 ALTERNATING
2 ROTATION-FLOORPLANE SINGLE
3 DOUBLE
3 ALTERNATING
2 SHAKING
2 ARM SPIRAL SINGLE
4 DOUBLE
4 TRIPLE
1 MOVEMENT-DIAGONAL AWAY SMALL
3 MEDIUM
3 LARGE
3 LARGEST
2 TOWARDS SMALL
3 MEDIUM
3 LARGE
3 LARGEST
2 BETWEEN AWAY SMALL
4 MEDIUM
4 LARGE
4 LARGEST
3 TOWARDS SMALL
4 MEDIUM
4 LARGE
4 LARGEST
1 MOVEMENT-FLOORPLANE SINGLE STRAIGHT SMALL
4 MEDIUM
4 LARGE
4 LARGEST
3 WRIST FLEX
2 DOUBLE STRAIGHT
3 WRIST FLEX
3 ALTERNATING
4 WRIST FLEX
2 CROSS
2 TRIPLE STRAIGHT MOVEMENT
3 WRIST FLEX
3 ALTERNATING MOVEMENT
4 WRIST FLEX
2 BEND
2 CORNER SMALL
3 MEDIUM
3 LARGE
2 CHECK
2 BOX SMALL
3 MEDIUM
3 LARGE
2 ZIGZAG SMALL
3 MEDIUM
3 LARGE
2 PEAKS SMALL
3 MEDIUM
3 LARGE
1 TRAVEL-FLOORPLANE ROTATION-FLOORPLANE SINGLE
3 DOUBLE
3 ALTERNATING
2 ROTATION-WALLPLANE SINGLE
3 DOUBLE
3 ALTERNATING
2 SHAKING
1 MOVEMENT-WALLPLANE CURVE QUARTER SMALL
4 MEDIUM
4 LARGE
4 LARGEST
3 HALF-CIRCLE SMALL
4 MEDIUM
4 LARGE
4 LARGEST
3 THREE-QUARTER CIRCLE SMALL
5 MEDIUM
2 HUMP SMALL
3 MEDIUM
3 LARGE
2 LOOP SMALL
3 MEDIUM
3 LARGE
3 SMALL DOUBLE
2 WAVE CURVE DOUBLE SMALL
5 MEDIUM
5 LARGE
4 TRIPLE SMALL
5 MEDIUM
5 LARGE
2 CURVE THEN STRAIGHT
2 CURVED CROSS SMALL
4 MEDIUM
1 ROTATION-WALLPLANE SINGLE
2 DOUBLE
2 ALTERNATE
1 MOVEMENT-WALLPLANE SHAKING
2 CURVE HITTING FRONT WALL
2 HUMP HITTING FRONT WALL
2 LOOP HITTING FRONT WALL
2 WAVE HITTING FRONT WALL
1 ROTATION-WALLPLANE SINGLE HITTING FRONT WALL
2 DOUBLE HITTING FRONT WALL
2 ALTERNATING HITTING FRONT WALL
1 MOVEMENT-WALLPLANE CURVE HITTING CHEST
2 HUMP HITTING CHEST
2 LOOP HITTING CHEST
2 WAVE HITTING CHEST
1 ROTATION-WALLPLANE SINGLE HITTING CHEST
2 DOUBLE HITTING CHEST
2 ALTERNATING HITTING CHEST
1 MOVEMENT-WALLPLANE WAVE DIAGONAL PATH SMALL
5 MEDIUM
5 LARGE
1 MOVEMENT-FLOORPLANE CURVE HITTING CEILING SMALL
5 LARGE
2 HUMP HITTING CEILING SMALL DOUBLE
5 LARGE DOUBLE
5 SMALL TRIPLE
5 LARGE TRIPLE
2 LOOP HITTING CEILING SMALL SINGLE
5 LARGE SINGLE
5 SMALL DOUBLE
5 LARGE DOUBLE
2 WAVE HITTING CEILING SMALL
5 LARGE
1 ROTATION-FLOORPLANE SINGLE HITTING CEILING
2 DOUBLE HITTING CEILING
2 ALTERNATING HITTING CEILING
1 MOVEMENT-FLOORPLANE CURVE HITTING FLOOR SMALL
5 LARGE
2 HUMP HITTING FLOOR SMALL DOUBLE
5 LARGE DOUBLE
5 TRIPLE SMALL TRIPLE
6 LARGE TRIPLE
2 LOOP HITTING FLOOR SMALL SINGLE
5 LARGE SINGLE
5 SMALL DOUBLE
5 LARGE DOUBLE
2 WAVE HITTING FLOOR SMALL
5 LARGE
1 ROTATION-FLOORPLANE SINGLE HITTING FLOOR
2 DOUBLE HITTING FLOOR
2 ALTERNATING HITTING FLOOR
1 MOVEMENT-FLOORPLANE CURVE SMALL
3 MEDIUM
3 LARGE
3 LARGEST
3 COMBINED
2 HUMP SMALL
2 LOOP SMALL
2 WAVE SNAKE
3 SMALL
3 LARGE
1 ROTATION-FLOORPLANE SINGLE
2 DOUBLE
2 ALTERNATING
1 MOVEMENT-FLOORPLANE SHAKING PARALLEL
1 MOVEMENT-WALLPLANE ARM CIRCLE SMALL SINGLE
4 MEDIUM SINGLE
4 SMALL DOUBLE
4 MEDIUM DOUBLE
1 MOVEMENT-FLOORPLANE ARM CIRCLE HITTING WALL SMALL SINGLE
6 MEDIUM SINGLE
6 LARGE SINGLE
6 SMALL DOUBLE
6 MEDIUM DOUBLE
6 LARGE DOUBLE
1 MOVEMENT-WALLPLANE WRIST CIRCLE FRONT SINGLE
5 DOUBLE
1 MOVEMENT-FLOORPLANE WRIST CIRCLE HITTING WALL SINGLE
6 DOUBLE
1 MOVEMENT-WALLPLANE FINGER CIRCLES SINGLE
4 DOUBLE
1 MOVEMENT-FLOORPLANE FINGER CIRCLES HITTING WALL SINGLE
6 DOUBLE
1 DYNAMIC ARROWHEAD SMALL
3 LARGE
2 FAST
2 SLOW
2 TENSE
2 RELAXED
2 SIMULTANEOUS
3 ALTERNATING
2 EVERY OTHER TIME
2 GRADUAL
1 HEAD
2 RIM
2 MOVEMENT-WALLPLANE STRAIGHT
3 TILT
2 MOVEMENT-FLOORPLANE STRAIGHT
2 MOVEMENT-WALLPLANE CURVE
2 MOVEMENT-FLOORPLANE CURVE
2 MOVEMENT CIRCLE
1 FACE DIRECTION POSITION NOSE FORWARD TILTING
5 UP OR DOWN
8 TILTING
1 EYEBROWS STRAIGHT UP
3 NEUTRAL
3 DOWN
1 DREAMY EYEBROWS NEUTRAL DOWN
3 DOWN NEUTRAL
3 UP NEUTRAL
3 NEUTRAL UP
1 FOREHEAD NEUTRAL
2 CONTACT
2 WRINKLED
1 EYES OPEN
2 SQUEEZED
2 CLOSED
1 EYE BLINK SINGLE
3 MULTIPLE
1 EYES HALF OPEN
2 WIDE OPEN
2 HALF CLOSED
2 WIDENING MOVEMENT
1 EYE WINK
1 EYELASHES UP
2 DOWN
2 FLUTTERING
1 EYEGAZE-WALLPLANE STRAIGHT
3 DOUBLE
3 ALTERNATING
1 EYEGAZE-FLOORPLANE STRAIGHT
3 DOUBLE
3 ALTERNATING
1 EYEGAZE-WALLPLANE CURVED
1 EYEGAZE-FLOORPLANE CURVED
1 EYEGAZE-WALLPLANE CIRCLING
1 CHEEKS PUFFED
2 NEUTRAL
2 SUCKED
1 TENSE CHEEKS HIGH
3 MIDDLE
3 LOW
1 EARS
1 NOSE NEUTRAL
2 CONTACT
2 WRINKLES
2 WIGGLES
1 AIR BLOWING OUT
2 SUCKING IN
2 BLOW SMALL ROTATIONS
2 SUCK SMALL ROTATIONS
1 BREATH INHALE
2 EXHALE
1 MOUTH CLOSED NEUTRAL
3 FORWARD
3 CONTACT
2 SMILE
3 WRINKLED
3 OPEN
2 FROWN
3 WRINKLED
3 OPEN
2 OPEN CIRCLE
3 FORWARD
3 WRINKLED
3 OVAL
4 WRINKLED
4 YAWN
3 RECTANGLE
4 WRINKLED
4 YAWN
2 KISS
3 FORWARD
3 WRINKLED
2 TENSE
3 FORWARD
3 SUCKED
1 LIPS PRESSED TOGETHER
1 LIP LOWER OVER UPPER
2 UPPER OVER LOWER
1 MOUTH CORNERS
2 WRINKLES SINGLE
3 DOUBLE
1 TONGUE STICKING OUT FAR
2 LICKING LIPS
2 TIP BETWEEN LIPS
3 TOUCHING INSIDE MOUTH
2 INSIDE MOUTH RELAXED
2 MOVES AGAINST CHEEK
2 CENTRE STICKING OUT
3 INSIDE MOUTH
1 TEETH
2 MOVEMENT
2 ON TONGUE
4 MOVEMENT
3 LIPS
4 MOVEMENT
2 BITE LIPS
1 MOVEMENT-WALLPLANE JAW
1 MOVEMENT-FLOORPLANE JAW
1 NECK
1 HAIR
1 EXCITEMENT
1 SHOULDER HIP SPINE
3 POSITIONS
1 WALLPLANE SHOULDER HIP MOVE
1 FLOORPLANE SHOULDER HIP MOVE
1 SHOULDER TILTING FROM WAIST
1 TORSO-WALLPLANE STRAIGHT STRETCH
2 CURVED BEND
1 TORSO-FLOORPLANE TWISTING
1 UPPER BODY TILTING FROM HIP JOINTS
1 LIMB COMBINATION
2 LENGTH-1
2 LENGTH-2
2 LENGTH-3
2 LENGTH-4
2 LENGTH-5
2 LENGTH-6
2 LENGTH-7
1 FINGER
1 LOCATION-WALLPLANE SPACE
1 LOCATION-FLOORPLANE SPACE
1 LOCATION HEIGHT
2 WIDTH
2 DEPTH
2 HEAD NECK
2 TORSO
2 LIMBS DIGITS
1 COMMA
1 FULL STOP
1 SEMICOLON
1 COLON
1 PARENTHESIS
@1DA9B
1 FILL MODIFIER-2
2 MODIFIER-3
2 MODIFIER-4
2 MODIFIER-5
2 MODIFIER-6
@1DAA1
1 ROTATION MODIFIER-2
2 MODIFIER-3
2 MODIFIER-4
2 MODIFIER-5
2 MODIFIER-6
2 MODIFIER-7
2 MODIFIER-8
2 MODIFIER-9
2 MODIFIER-10
2 MODIFIER-11
2 MODIFIER-12
2 MODIFIER-13
2 MODIFIER-14
2 MODIFIER-15
2 MODIFIER-16
@1DF00
0 LATIN SMALL LETTER FENG DIGRAPH WITH TRILL
3 REVERSED SCRIPT G
1 LETTER SMALL CAPITAL TURNED G
1 SMALL LETTER REVERSED K
1 LETTER SMALL CAPITAL L WITH BELT
1 SMALL LETTER LEZH WITH RETROFLEX HOOK
3 TURNED Y WITH BELT
3 REVERSED ENG
3 TURNED R WITH LONG LEG AND RETROFLEX HOOK
3 T WITH HOOK AND RETROFLEX HOOK
1 LETTER RETROFLEX CLICK WITH RETROFLEX HOOK
1 SMALL LETTER ESH WITH DOUBLE BAR
7 AND CURL
3 TURNED T WITH CURL
1 LETTER INVERTED GLOTTAL STOP WITH CURL
2 STRETCHED C WITH CURL
2 SMALL CAPITAL TURNED K
1 SMALL LETTER L WITH FISHHOOK
3 DEZH DIGRAPH WITH PALATAL HOOK
3 L WITH BELT AND PALATAL HOOK
3 ENG WITH PALATAL HOOK
3 TURNED R WITH PALATAL HOOK
3 R WITH FISHHOOK AND PALATAL HOOK
3 TESH DIGRAPH WITH PALATAL HOOK
3 EZH WITH PALATAL HOOK
3 DEZH DIGRAPH WITH RETROFLEX HOOK
3 I WITH STROKE AND RETROFLEX HOOK
3 O WITH RETROFLEX HOOK
3 TESH DIGRAPH WITH RETROFLEX HOOK
3 C WITH RETROFLEX HOOK
3 S WITH CURL
@1E000
0 COMBINING GLAGOLITIC LETTER AZU
3 BUKY
3 VEDE
3 GLAGOLI
3 DOBRO
3 YESTU
3 ZHIVETE
@1E008
3 ZEMLJA
3 IZHE
3 INITIAL IZHE
3 I
3 DJERVI
3 KAKO
3 LJUDIJE
3 MYSLITE
3 NASHI
3 ONU
3 POKOJI
3 RITSI
3 SLOVO
3 TVRIDO
3 UKU
3 FRITU
3 HERU
@1E01B
3 SHTA
3 TSI
3 CHRIVI
3 SHA
3 YERU
3 YERI
3 YATI
@1E023
3 YU
3 SMALL YUS
@1E026
3 YO
3 IOTATED SMALL YUS
3 BIG YUS
3 IOTATED BIG YUS
3 FITA
@1E100
0 NYIAKENG PUACHUE HMONG LETTER MA
4 TSA
4 NTA
4 TA
4 HA
4 NA
4 XA
4 NKA
4 CA
4 LA
4 SA
4 ZA
4 NCA
4 NTSA
4 KA
4 DA
4 NYA
4 NRA
4 VA
4 NTXA
4 TXA
4 FA
4 RA
4 QA
4 YA
4 NQA
4 PA
4 XYA
4 NPA
4 DLA
4 NPLA
4 HAH
4 MLA
4 PLA
4 GA
4 RRA
4 A
4 AA
4 I
4 U
4 O
4 OO
4 E
4 EE
4 W
@1E130
3 TONE-B
3 TONE-M
3 TONE-J
3 TONE-V
3 TONE-S
3 TONE-G
3 TONE-D
3 SIGN FOR PERSON
5 THING
5 LOCATION
5 ANIMAL
5 INVERTEBRATE
4 XW XW
3 SYLLABLE LENGTHENER
@1E140
3 DIGIT ZERO
4 ONE
4 TWO
4 THREE
4 FOUR
4 FIVE
4 SIX
4 SEVEN
4 EIGHT
4 NINE
@1E14E
3 LOGOGRAM NYAJ
3 CIRCLED CA
@1E290
0 TOTO LETTER PA
2 BA
2 TA
2 DA
2 KA
2 GA
2 MA
2 NA
2 NGA
2 SA
2 CHA
2 YA
2 WA
2 JA
2 HA
2 RA
2 LA
2 I
2 BREATHY I
2 IU
2 BREATHY IU
2 U
2 E
2 BREATHY E
2 EO
2 BREATHY EO
2 O
2 AE
2 BREATHY AE
2 A
1 SIGN RISING TONE
@1E2C0
0 WANCHO LETTER AA
2 A
2 BA
2 CA
2 DA
2 GA
2 YA
2 PHA
2 LA
2 NA
2 PA
2 TA
2 THA
2 FA
2 SA
2 SHA
2 JA
2 ZA
2 WA
2 VA
2 KA
2 O
2 AU
2 RA
2 MA
2 KHA
2 HA
2 E
2 I
2 NGA
2 U
2 LLHA
2 TSA
2 TRA
2 ONG
2 AANG
2 ANG
2 ING
2 ON
2 EN
2 AAN
2 NYA
2 UEN
2 YIH
1 TONE TUP
2 TUPNI
2 KOI
2 KOINI
1 DIGIT ZERO
2 ONE
2 TWO
2 THREE
2 FOUR
2 FIVE
2 SIX
2 SEVEN
2 EIGHT
2 NINE
@1E2FF
1 NGUN SIGN
@1E7E0
0 ETHIOPIC SYLLABLE HHYA
2 HHYU
2 HHYI
2 HHYAA
2 HHYEE
2 HHYE
2 HHYO
@1E7E8
2 GURAGE HHWA
2 HHWI
2 HHWEE
2 HHWE
@1E7ED
2 GURAGE MWI
3 MWEE
@1E7F0
3 QWI
3 QWEE
3 QWE
3 BWI
3 BWEE
3 KWI
3 KWEE
3 KWE
3 GWI
3 GWEE
3 GWE
3 FWI
3 FWEE
3 PWI
3 PWEE
@1E800
0 MENDE KIKAKUI SYLLABLE M001 KI
3 M002 KA
3 M003 KU
3 M065 KEE
3 M095 KE
3 M076 KOO
3 M048 KO
3 M179 KUA
3 M004 WI
3 M005 WA
3 M006 WU
3 M126 WEE
3 M118 WE
3 M114 WOO
3 M045 WO
3 M194 WUI
3 M143 WEI
3 M061 WVI
3 M049 WVA
3 M139 WVE
3 M007 MIN
3 M008 MAN
3 M009 MUN
3 M059 MEN
3 M094 MON
3 M154 MUAN
3 M189 MUEN
3 M010 BI
3 M011 BA
3 M012 BU
3 M150 BEE
3 M097 BE
3 M103 BOO
3 M138 BO
3 M013 I
3 M014 A
3 M015 U
3 M163 EE
3 M100 E
3 M165 OO
3 M147 O
3 M137 EI
3 M131 IN
3 M135 IN
3 M195 AN
3 M178 EN
3 M019 SI
3 M020 SA
3 M021 SU
3 M162 SEE
3 M116 SE
3 M136 SOO
3 M079 SO
3 M196 SIA
3 M025 LI
3 M026 LA
3 M027 LU
3 M084 LEE
3 M073 LE
3 M054 LOO
3 M153 LO
3 M110 LONG LE
3 M016 DI
3 M017 DA
3 M018 DU
3 M089 DEE
3 M180 DOO
3 M181 DO
3 M022 TI
3 M023 TA
3 M024 TU
3 M091 TEE
3 M055 TE
3 M104 TOO
3 M069 TO
3 M028 JI
3 M029 JA
3 M030 JU
3 M157 JEE
3 M113 JE
3 M160 JOO
3 M063 JO
3 M175 LONG JO
3 M031 YI
3 M032 YA
3 M033 YU
3 M109 YEE
3 M080 YE
3 M141 YOO
3 M121 YO
3 M034 FI
3 M035 FA
3 M036 FU
3 M078 FEE
3 M075 FE
3 M133 FOO
3 M088 FO
3 M197 FUA
3 M101 FAN
3 M037 NIN
3 M038 NAN
3 M039 NUN
3 M117 NEN
3 M169 NON
3 M176 HI
3 M041 HA
3 M186 HU
3 M040 HEE
3 M096 HE
3 M042 HOO
3 M140 HO
3 M083 HEEI
3 M128 HOOU
3 M053 HIN
3 M130 HAN
3 M087 HUN
3 M052 HEN
3 M193 HON
3 M046 HUAN
3 M090 NGGI
3 M043 NGGA
3 M082 NGGU
3 M115 NGGEE
3 M146 NGGE
3 M156 NGGOO
3 M120 NGGO
3 M159 NGGAA
3 M127 NGGUA
3 M086 LONG NGGE
3 M106 LONG NGGOO
3 M183 LONG NGGO
3 M155 GI
3 M111 GA
3 M168 GU
3 M190 GEE
3 M166 GUEI
3 M167 GUAN
3 M184 NGEN
3 M057 NGON
3 M177 NGUAN
3 M068 PI
3 M099 PA
3 M050 PU
3 M081 PEE
3 M051 PE
3 M102 POO
3 M066 PO
3 M145 MBI
3 M062 MBA
3 M122 MBU
3 M047 MBEE
3 M188 MBEE
3 M072 MBE
3 M172 MBOO
3 M174 MBO
3 M187 MBUU
3 M161 LONG MBE
3 M105 LONG MBOO
3 M142 LONG MBO
3 M132 KPI
3 M092 KPA
3 M074 KPU
3 M044 KPEE
3 M108 KPE
3 M112 KPOO
3 M158 KPO
3 M124 GBI
3 M056 GBA
3 M148 GBU
3 M093 GBEE
3 M107 GBE
3 M071 GBOO
3 M070 GBO
3 M171 RA
3 M123 NDI
3 M129 NDA
3 M125 NDU
3 M191 NDEE
3 M119 NDE
3 M067 NDOO
3 M064 NDO
3 M152 NJA
3 M192 NJU
3 M149 NJEE
3 M134 NJOO
3 M182 VI
3 M185 VA
3 M151 VU
3 M173 VEE
3 M085 VE
3 M144 VOO
3 M077 VO
3 M164 NYIN
3 M058 NYAN
3 M170 NYUN
3 M098 NYEN
3 M060 NYON
@1E8C7
2 DIGIT ONE
3 TWO
3 THREE
3 FOUR
3 FIVE
3 SIX
3 SEVEN
3 EIGHT
3 NINE
2 COMBINING NUMBER TEENS
4 TENS
4 HUNDREDS
4 THOUSANDS
4 TEN THOUSANDS
4 HUNDRED THOUSANDS
4 MILLIONS"

end DesignLint.Unicode.Names
