import DesignLint.Unicode.Table

/-! # Letters that differ in case only -/

namespace DesignLint.Unicode

/-- The orbits in runs: the ranges of one word have the same length, and the members of an orbit
have the same place in each of them. -/
def foldingRuns : String :=
  "41-4A,61-6A 4B,6B,212A 4C-52,6C-72 53,73,17F 54-5A,74-7A B5,39C,3BC C0-C4,E0-E4 C5,E5,212B
  C6-D6,E6-F6 D8-DE,F8-FE DF,1E9E FF,178 100-12E/2,101-12F/2 132-136/2,133-137/2
  139-147/2,13A-148/2 14A-176/2,14B-177/2 179-17D/2,17A-17E/2 180,243 181,253 182-184/2,183-185/2
  186,254 187,188 189-18A,256-257 18B,18C 18E,1DD 18F,259 190,25B 191,192 193,260 194,263 195,1F6
  196,269 197,268 198,199 19A,23D 19B,A7DC 19C,26F 19D,272 19E,220 19F,275 1A0-1A4/2,1A1-1A5/2
  1A6,280 1A7,1A8 1A9,283 1AC,1AD 1AE,288 1AF,1B0 1B1-1B2,28A-28B 1B3-1B5/2,1B4-1B6/2 1B7,292
  1B8,1B9 1BC,1BD 1BF,1F7 1C4,1C5,1C6 1C7,1C8,1C9 1CA,1CB,1CC 1CD-1DB/2,1CE-1DC/2
  1DE-1EE/2,1DF-1EF/2 1F1,1F2,1F3 1F4,1F5 1F8-21E/2,1F9-21F/2 222-232/2,223-233/2 23A,2C65 23B,23C
  23E,2C66 23F-240,2C7E-2C7F 241,242 244,289 245,28C 246-24E/2,247-24F/2 250,2C6F 251,2C6D
  252,2C70 25C,A7AB 261,A7AC 264,A7CB 265,A78D 266,A7AA 26A,A7AE 26B,2C62 26C,A7AD 271,2C6E
  27D,2C64 282,A7C5 287,A7B1 29D,A7B2 29E,A7B0 345,399,3B9,1FBE 370-372/2,371-373/2 376,377
  37B-37D,3FD-3FF 37F,3F3 386,3AC 388-38A,3AD-3AF 38C,3CC 38E-38F,3CD-3CE 390,1FD3 391,3B1
  392,3B2,3D0 393-394,3B3-3B4 395,3B5,3F5 396-397,3B6-3B7 398,3B8,3D1,3F4 39A,3BA,3F0
  39B-39D/2,3BB-3BD/2 39E-39F,3BE-3BF 3A0,3C0,3D6 3A1,3C1,3F1 3A3,3C2,3C3 3A4-3A5,3C4-3C5
  3A6,3C6,3D5 3A7-3A8,3C7-3C8 3A9,3C9,2126 3AA-3AB,3CA-3CB 3B0,1FE3 3CF,3D7 3D8-3EE/2,3D9-3EF/2
  3F2,3F9 3F7,3F8 3FA,3FB 400-40F,450-45F 410-411,430-431 412,432,1C80 413,433 414,434,1C81
  415-41D,435-43D 41E,43E,1C82 41F-420,43F-440 421,441,1C83 422,442,1C84,1C85 423-429,443-449
  42A,44A,1C86 42B-42F,44B-44F 460,461 462,463,1C87 464-480/2,465-481/2 48A-4BE/2,48B-4BF/2
  4C0,4CF 4C1-4CD/2,4C2-4CE/2 4D0-52E/2,4D1-52F/2 531-556,561-586 10A0-10C5,2D00-2D25 10C7,2D27
  10CD,2D2D 10D0-10FA,1C90-1CBA 10FD-10FF,1CBD-1CBF 13A0-13EF,AB70-ABBF 13F0-13F5,13F8-13FD
  1C88,A64A,A64B 1C89,1C8A 1D79,A77D 1D7D,2C63 1D8E,A7C6 1E00-1E5E/2,1E01-1E5F/2 1E60,1E61,1E9B
  1E62-1E94/2,1E63-1E95/2 1EA0-1EFE/2,1EA1-1EFF/2 1F00-1F07,1F08-1F0F 1F10-1F15,1F18-1F1D
  1F20-1F27,1F28-1F2F 1F30-1F37,1F38-1F3F 1F40-1F45,1F48-1F4D 1F51-1F57/2,1F59-1F5F/2
  1F60-1F67,1F68-1F6F 1F70-1F71,1FBA-1FBB 1F72-1F75,1FC8-1FCB 1F76-1F77,1FDA-1FDB
  1F78-1F79,1FF8-1FF9 1F7A-1F7B,1FEA-1FEB 1F7C-1F7D,1FFA-1FFB 1F80-1F87,1F88-1F8F
  1F90-1F97,1F98-1F9F 1FA0-1FA7,1FA8-1FAF 1FB0-1FB1,1FB8-1FB9 1FB3,1FBC 1FC3,1FCC
  1FD0-1FD1,1FD8-1FD9 1FE0-1FE1,1FE8-1FE9 1FE5,1FEC 1FF3,1FFC 2132,214E 2160-216F,2170-217F
  2183,2184 24B6-24CF,24D0-24E9 2C00-2C2F,2C30-2C5F 2C60,2C61 2C67-2C6B/2,2C68-2C6C/2 2C72,2C73
  2C75,2C76 2C80-2CE2/2,2C81-2CE3/2 2CEB-2CED/2,2CEC-2CEE/2 2CF2,2CF3 A640-A648/2,A641-A649/2
  A64C-A66C/2,A64D-A66D/2 A680-A69A/2,A681-A69B/2 A722-A72E/2,A723-A72F/2 A732-A76E/2,A733-A76F/2
  A779-A77B/2,A77A-A77C/2 A77E-A786/2,A77F-A787/2 A78B,A78C A790-A792/2,A791-A793/2 A794,A7C4
  A796-A7A8/2,A797-A7A9/2 A7B3,AB53 A7B4-A7C2/2,A7B5-A7C3/2 A7C7-A7C9/2,A7C8-A7CA/2 A7CC,A7CD
  A7D0,A7D1 A7D6-A7DA/2,A7D7-A7DB/2 A7F5,A7F6 FB05,FB06 FF21-FF3A,FF41-FF5A
  10400-10427,10428-1044F 104B0-104D3,104D8-104FB 10570-1057A,10597-105A1 1057C-1058A,105A3-105B1
  1058C-10592,105B3-105B9 10594-10595,105BB-105BC 10C80-10CB2,10CC0-10CF2 10D50-10D65,10D70-10D85
  118A0-118BF,118C0-118DF 16E40-16E5F,16E60-16E7F 1E900-1E921,1E922-1E943"

def orbits : List (List Nat) :=
  (wordsOf foldingRuns).flatMap fun w => transposed ((w.splitOn ',').map codePointsOf)
where
  transposed (rows : List (List Nat)) : List (List Nat) :=
    (List.range (rows.headD []).length).map fun i => rows.filterMap fun r => r[i]?

/-- The characters of a set and all that equal one of them without case. -/
def folded (s : Text.Ranges) : Text.Ranges :=
  s ++ (orbits.filter fun o => o.any s.hasCode).flatMap fun o => o.map fun n => (n, n)

end DesignLint.Unicode
