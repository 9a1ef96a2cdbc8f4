/-! # Character names: rows for U+1D00 to U+1FFE

    The names of phonetic signs and of further Latin and Greek letters. -/

namespace ElementLocator.Regex.CharacterName

/-- Names from U+1D00 to U+1FFE. -/
def phoneticRows : List String := [
  "1D00 LATIN LETTER SMALL CAPITAL |A;AE",
  "1D02 LATIN SMALL LETTER TURNED |AE",
  "1D03 LATIN LETTER SMALL CAPITAL |BARRED B;C;D;ETH;E",
  "1D08 LATIN SMALL LETTER TURNED |OPEN E;I",
  "1D0A LATIN LETTER SMALL CAPITAL |J;K;L WITH STROKE;M;REVERSED N;O;OPEN O",
  "1D11 LATIN SMALL LETTER |SIDEWAYS O;SIDEWAYS OPEN O;SIDEWAYS O WITH STROKE;TURNED OE",
  "1D15 LATIN |LETTER SMALL CAPITAL OU;SMALL LETTER TOP HALF O;SMALL LETTER BOTTOM HALF O",
  "1D18 LATIN LETTER SMALL CAPITAL |P;REVERSED R;TURNED R;T;U",
  "1D1D LATIN SMALL LETTER SIDEWAYS |U;DIAERESIZED U;TURNED M",
  "1D20 LATIN LETTER SMALL CAPITAL |V;W;Z;EZH",
  "1D24 LATIN LETTER |VOICED LARYNGEAL SPIRANT;AIN",
  "1D26 GREEK LETTER SMALL CAPITAL |GAMMA;LAMDA;PI;RHO;PSI",
  "1D2B CYRILLIC LETTER SMALL CAPITAL |EL",
  "1D2C MODIFIER LETTER CAPITAL |A;AE;B;BARRED B",
  "1D30 MODIFIER LETTER CAPITAL |D;E;REVERSED E;G;H;I;J;K;L;M;N;REVERSED N;O;OU;P;R;T;U;W",
  "1D43 MODIFIER LETTER SMALL |A;TURNED A;ALPHA;TURNED AE;B;D;E;SCHWA;OPEN E;TURNED OPEN E",
  "1D4D MODIFIER LETTER SMALL |G;TURNED I;K;M;ENG;O;OPEN O;TOP HALF O;BOTTOM HALF O;P",
  "1D57 MODIFIER LETTER SMALL |T;U;SIDEWAYS U;TURNED M;V;AIN;BETA;GREEK GAMMA;DELTA;GREEK PHI;CHI",
  "1D62 LATIN SUBSCRIPT SMALL LETTER |I;R;U;V",
  "1D66 GREEK SUBSCRIPT SMALL LETTER |BETA;GAMMA;RHO;PHI;CHI",
  "1D6B LATIN SMALL LETTER |UE;B WITH MIDDLE TILDE;D WITH MIDDLE TILDE;F WITH MIDDLE TILDE",
  "1D6F LATIN SMALL LETTER |M WITH MIDDLE TILDE;N WITH MIDDLE TILDE;P WITH MIDDLE TILDE",
  "1D72 LATIN SMALL LETTER R WITH |MIDDLE TILDE;FISHHOOK AND MIDDLE TILDE",
  "1D74 LATIN SMALL LETTER |S WITH MIDDLE TILDE;T WITH MIDDLE TILDE;Z WITH MIDDLE TILDE;TURNED G",
  "1D78 MODIFIER LETTER CYRILLIC |EN",
  "1D79 LATIN SMALL |LETTER INSULAR G;LETTER TH WITH STRIKETHROUGH;CAPITAL LETTER I WITH STROKE",
  "1D7C LATIN SMALL |LETTER IOTA WITH STROKE;LETTER P WITH STROKE;CAPITAL LETTER U WITH STROKE",
  "1D7F LATIN SMALL LETTER |UPSILON WITH STROKE;B WITH PALATAL HOOK;D WITH PALATAL HOOK",
  "1D82 LATIN SMALL LETTER |F WITH PALATAL HOOK;G WITH PALATAL HOOK;K WITH PALATAL HOOK",
  "1D85 LATIN SMALL LETTER |L WITH PALATAL HOOK;M WITH PALATAL HOOK;N WITH PALATAL HOOK",
  "1D88 LATIN SMALL LETTER |P WITH PALATAL HOOK;R WITH PALATAL HOOK;S WITH PALATAL HOOK",
  "1D8B LATIN SMALL LETTER |ESH WITH PALATAL HOOK;V WITH PALATAL HOOK;X WITH PALATAL HOOK",
  "1D8E LATIN SMALL LETTER |Z WITH PALATAL HOOK;A WITH RETROFLEX HOOK;ALPHA WITH RETROFLEX HOOK",
  "1D91 LATIN SMALL LETTER |D WITH HOOK AND TAIL;E WITH RETROFLEX HOOK;OPEN E WITH RETROFLEX HOOK",
  "1D94 LATIN SMALL LETTER |REVERSED OPEN E WITH RETROFLEX HOOK;SCHWA WITH RETROFLEX HOOK",
  "1D96 LATIN SMALL LETTER |I WITH RETROFLEX HOOK;OPEN O WITH RETROFLEX HOOK",
  "1D98 LATIN SMALL LETTER |ESH WITH RETROFLEX HOOK;U WITH RETROFLEX HOOK;EZH WITH RETROFLEX HOOK",
  "1D9B MODIFIER LETTER SMALL |TURNED ALPHA;C;C WITH CURL;ETH;REVERSED OPEN E",
  "1DA0 MODIFIER LETTER SMALL |F;DOTLESS J WITH STROKE;SCRIPT G;TURNED H;I WITH STROKE;IOTA",
  "1DA6 MODIFIER LETTER SMALL CAPITAL |I;I WITH STROKE",
  "1DA8 MODIFIER LETTER SMALL |J WITH CROSSED-TAIL;L WITH RETROFLEX HOOK",
  "1DAA MODIFIER LETTER SMALL |L WITH PALATAL HOOK;CAPITAL L;M WITH HOOK;TURNED M WITH LONG LEG",
  "1DAE MODIFIER LETTER SMALL |N WITH LEFT HOOK;N WITH RETROFLEX HOOK;CAPITAL N;BARRED O",
  "1DB2 MODIFIER LETTER SMALL |PHI;S WITH HOOK;ESH;T WITH PALATAL HOOK;U BAR;UPSILON;CAPITAL U",
  "1DB9 MODIFIER LETTER SMALL |V WITH HOOK;TURNED V;Z;Z WITH RETROFLEX HOOK;Z WITH CURL;EZH;THETA",
  "1DC0 COMBINING |DOTTED GRAVE ACCENT;DOTTED ACUTE ACCENT;SNAKE BELOW;SUSPENSION MARK",
  "1DC4 COMBINING |MACRON-ACUTE;GRAVE-MACRON;MACRON-GRAVE;ACUTE-MACRON;GRAVE-ACUTE-GRAVE",
  "1DC9 COMBINING |ACUTE-GRAVE-ACUTE;LATIN SMALL LETTER R BELOW;BREVE-MACRON;MACRON-BREVE",
  "1DCD COMBINING |DOUBLE CIRCUMFLEX ABOVE;OGONEK ABOVE;ZIGZAG BELOW;IS BELOW;UR ABOVE;US ABOVE",
  "1DD3 COMBINING LATIN SMALL LETTER |FLATTENED OPEN A ABOVE;AE;AO;AV;C CEDILLA;INSULAR D;ETH;G",
  "1DDB COMBINING LATIN |LETTER SMALL CAPITAL G;SMALL LETTER K;SMALL LETTER L",
  "1DDE COMBINING LATIN |LETTER SMALL CAPITAL L;LETTER SMALL CAPITAL M;SMALL LETTER N",
  "1DE1 COMBINING LATIN |LETTER SMALL CAPITAL N;LETTER SMALL CAPITAL R;SMALL LETTER R ROTUNDA",
  "1DE4 COMBINING LATIN SMALL LETTER |S;LONG S;Z;ALPHA;B;BETA;SCHWA;F;L WITH DOUBLE MIDDLE TILDE",
  "1DED COMBINING LATIN SMALL LETTER O WITH LIGHT CENTRALIZATION |STROKE",
  "1DEE COMBINING LATIN SMALL LETTER |P;ESH;U WITH LIGHT CENTRALIZATION STROKE",
  "1DF1 COMBINING LATIN SMALL LETTER |W;A WITH DIAERESIS;O WITH DIAERESIS;U WITH DIAERESIS",
  "1DF5 COMBINING UP TACK |ABOVE",
  "1DF6 COMBINING |KAVYKA ABOVE RIGHT;KAVYKA ABOVE LEFT;DOT ABOVE LEFT;WIDE INVERTED BRIDGE BELOW",
  "1DFA COMBINING |DOT BELOW LEFT;DELETION MARK;DOUBLE INVERTED BREVE BELOW;ALMOST EQUAL TO BELOW",
  "1DFE COMBINING |LEFT ARROWHEAD ABOVE;RIGHT ARROWHEAD AND DOWN ARROWHEAD BELOW",
  "1E00 LATIN CAPITAL LETTER A WITH RING |BELOW",
  "1E01 LATIN |SMALL LETTER A WITH RING BELOW;CAPITAL LETTER B WITH DOT ABOVE",
  "1E03 LATIN |SMALL LETTER B WITH DOT ABOVE;CAPITAL LETTER B WITH DOT BELOW",
  "1E05 LATIN |SMALL LETTER B WITH DOT BELOW;CAPITAL LETTER B WITH LINE BELOW",
  "1E07 LATIN |SMALL LETTER B WITH LINE BELOW;CAPITAL LETTER C WITH CEDILLA AND ACUTE",
  "1E09 LATIN |SMALL LETTER C WITH CEDILLA AND ACUTE;CAPITAL LETTER D WITH DOT ABOVE",
  "1E0B LATIN |SMALL LETTER D WITH DOT ABOVE;CAPITAL LETTER D WITH DOT BELOW",
  "1E0D LATIN |SMALL LETTER D WITH DOT BELOW;CAPITAL LETTER D WITH LINE BELOW",
  "1E0F LATIN |SMALL LETTER D WITH LINE BELOW;CAPITAL LETTER D WITH CEDILLA",
  "1E11 LATIN |SMALL LETTER D WITH CEDILLA;CAPITAL LETTER D WITH CIRCUMFLEX BELOW",
  "1E13 LATIN |SMALL LETTER D WITH CIRCUMFLEX BELOW;CAPITAL LETTER E WITH MACRON AND GRAVE",
  "1E15 LATIN |SMALL LETTER E WITH MACRON AND GRAVE;CAPITAL LETTER E WITH MACRON AND ACUTE",
  "1E17 LATIN |SMALL LETTER E WITH MACRON AND ACUTE;CAPITAL LETTER E WITH CIRCUMFLEX BELOW",
  "1E19 LATIN |SMALL LETTER E WITH CIRCUMFLEX BELOW;CAPITAL LETTER E WITH TILDE BELOW",
  "1E1B LATIN |SMALL LETTER E WITH TILDE BELOW;CAPITAL LETTER E WITH CEDILLA AND BREVE",
  "1E1D LATIN |SMALL LETTER E WITH CEDILLA AND BREVE;CAPITAL LETTER F WITH DOT ABOVE",
  "1E1F LATIN |SMALL LETTER F WITH DOT ABOVE;CAPITAL LETTER G WITH MACRON",
  "1E21 LATIN |SMALL LETTER G WITH MACRON;CAPITAL LETTER H WITH DOT ABOVE",
  "1E23 LATIN |SMALL LETTER H WITH DOT ABOVE;CAPITAL LETTER H WITH DOT BELOW",
  "1E25 LATIN |SMALL LETTER H WITH DOT BELOW;CAPITAL LETTER H WITH DIAERESIS",
  "1E27 LATIN |SMALL LETTER H WITH DIAERESIS;CAPITAL LETTER H WITH CEDILLA",
  "1E29 LATIN |SMALL LETTER H WITH CEDILLA;CAPITAL LETTER H WITH BREVE BELOW",
  "1E2B LATIN |SMALL LETTER H WITH BREVE BELOW;CAPITAL LETTER I WITH TILDE BELOW",
  "1E2D LATIN |SMALL LETTER I WITH TILDE BELOW;CAPITAL LETTER I WITH DIAERESIS AND ACUTE",
  "1E2F LATIN |SMALL LETTER I WITH DIAERESIS AND ACUTE;CAPITAL LETTER K WITH ACUTE",
  "1E31 LATIN |SMALL LETTER K WITH ACUTE;CAPITAL LETTER K WITH DOT BELOW",
  "1E33 LATIN |SMALL LETTER K WITH DOT BELOW;CAPITAL LETTER K WITH LINE BELOW",
  "1E35 LATIN |SMALL LETTER K WITH LINE BELOW;CAPITAL LETTER L WITH DOT BELOW",
  "1E37 LATIN |SMALL LETTER L WITH DOT BELOW;CAPITAL LETTER L WITH DOT BELOW AND MACRON",
  "1E39 LATIN |SMALL LETTER L WITH DOT BELOW AND MACRON;CAPITAL LETTER L WITH LINE BELOW",
  "1E3B LATIN |SMALL LETTER L WITH LINE BELOW;CAPITAL LETTER L WITH CIRCUMFLEX BELOW",
  "1E3D LATIN |SMALL LETTER L WITH CIRCUMFLEX BELOW;CAPITAL LETTER M WITH ACUTE",
  "1E3F LATIN |SMALL LETTER M WITH ACUTE;CAPITAL LETTER M WITH DOT ABOVE",
  "1E41 LATIN |SMALL LETTER M WITH DOT ABOVE;CAPITAL LETTER M WITH DOT BELOW",
  "1E43 LATIN |SMALL LETTER M WITH DOT BELOW;CAPITAL LETTER N WITH DOT ABOVE",
  "1E45 LATIN |SMALL LETTER N WITH DOT ABOVE;CAPITAL LETTER N WITH DOT BELOW",
  "1E47 LATIN |SMALL LETTER N WITH DOT BELOW;CAPITAL LETTER N WITH LINE BELOW",
  "1E49 LATIN |SMALL LETTER N WITH LINE BELOW;CAPITAL LETTER N WITH CIRCUMFLEX BELOW",
  "1E4B LATIN |SMALL LETTER N WITH CIRCUMFLEX BELOW;CAPITAL LETTER O WITH TILDE AND ACUTE",
  "1E4D LATIN |SMALL LETTER O WITH TILDE AND ACUTE;CAPITAL LETTER O WITH TILDE AND DIAERESIS",
  "1E4F LATIN |SMALL LETTER O WITH TILDE AND DIAERESIS;CAPITAL LETTER O WITH MACRON AND GRAVE",
  "1E51 LATIN |SMALL LETTER O WITH MACRON AND GRAVE;CAPITAL LETTER O WITH MACRON AND ACUTE",
  "1E53 LATIN |SMALL LETTER O WITH MACRON AND ACUTE;CAPITAL LETTER P WITH ACUTE",
  "1E55 LATIN |SMALL LETTER P WITH ACUTE;CAPITAL LETTER P WITH DOT ABOVE",
  "1E57 LATIN |SMALL LETTER P WITH DOT ABOVE;CAPITAL LETTER R WITH DOT ABOVE",
  "1E59 LATIN |SMALL LETTER R WITH DOT ABOVE;CAPITAL LETTER R WITH DOT BELOW",
  "1E5B LATIN |SMALL LETTER R WITH DOT BELOW;CAPITAL LETTER R WITH DOT BELOW AND MACRON",
  "1E5D LATIN SMALL LETTER R WITH DOT BELOW AND |MACRON",
  "1E5E LATIN |CAPITAL LETTER R WITH LINE BELOW;SMALL LETTER R WITH LINE BELOW",
  "1E60 LATIN |CAPITAL LETTER S WITH DOT ABOVE;SMALL LETTER S WITH DOT ABOVE",
  "1E62 LATIN |CAPITAL LETTER S WITH DOT BELOW;SMALL LETTER S WITH DOT BELOW",
  "1E64 LATIN |CAPITAL LETTER S WITH ACUTE AND DOT ABOVE;SMALL LETTER S WITH ACUTE AND DOT ABOVE",
  "1E66 LATIN |CAPITAL LETTER S WITH CARON AND DOT ABOVE;SMALL LETTER S WITH CARON AND DOT ABOVE",
  "1E68 LATIN CAPITAL LETTER S WITH DOT BELOW AND DOT |ABOVE",
  "1E69 LATIN |SMALL LETTER S WITH DOT BELOW AND DOT ABOVE;CAPITAL LETTER T WITH DOT ABOVE",
  "1E6B LATIN |SMALL LETTER T WITH DOT ABOVE;CAPITAL LETTER T WITH DOT BELOW",
  "1E6D LATIN |SMALL LETTER T WITH DOT BELOW;CAPITAL LETTER T WITH LINE BELOW",
  "1E6F LATIN |SMALL LETTER T WITH LINE BELOW;CAPITAL LETTER T WITH CIRCUMFLEX BELOW",
  "1E71 LATIN |SMALL LETTER T WITH CIRCUMFLEX BELOW;CAPITAL LETTER U WITH DIAERESIS BELOW",
  "1E73 LATIN |SMALL LETTER U WITH DIAERESIS BELOW;CAPITAL LETTER U WITH TILDE BELOW",
  "1E75 LATIN |SMALL LETTER U WITH TILDE BELOW;CAPITAL LETTER U WITH CIRCUMFLEX BELOW",
  "1E77 LATIN |SMALL LETTER U WITH CIRCUMFLEX BELOW;CAPITAL LETTER U WITH TILDE AND ACUTE",
  "1E79 LATIN |SMALL LETTER U WITH TILDE AND ACUTE;CAPITAL LETTER U WITH MACRON AND DIAERESIS",
  "1E7B LATIN SMALL LETTER U WITH MACRON AND |DIAERESIS",
  "1E7C LATIN |CAPITAL LETTER V WITH TILDE;SMALL LETTER V WITH TILDE",
  "1E7E LATIN |CAPITAL LETTER V WITH DOT BELOW;SMALL LETTER V WITH DOT BELOW",
  "1E80 LATIN |CAPITAL LETTER W WITH GRAVE;SMALL LETTER W WITH GRAVE;CAPITAL LETTER W WITH ACUTE",
  "1E83 LATIN |SMALL LETTER W WITH ACUTE;CAPITAL LETTER W WITH DIAERESIS",
  "1E85 LATIN |SMALL LETTER W WITH DIAERESIS;CAPITAL LETTER W WITH DOT ABOVE",
  "1E87 LATIN |SMALL LETTER W WITH DOT ABOVE;CAPITAL LETTER W WITH DOT BELOW",
  "1E89 LATIN |SMALL LETTER W WITH DOT BELOW;CAPITAL LETTER X WITH DOT ABOVE",
  "1E8B LATIN |SMALL LETTER X WITH DOT ABOVE;CAPITAL LETTER X WITH DIAERESIS",
  "1E8D LATIN |SMALL LETTER X WITH DIAERESIS;CAPITAL LETTER Y WITH DOT ABOVE",
  "1E8F LATIN |SMALL LETTER Y WITH DOT ABOVE;CAPITAL LETTER Z WITH CIRCUMFLEX",
  "1E91 LATIN |SMALL LETTER Z WITH CIRCUMFLEX;CAPITAL LETTER Z WITH DOT BELOW",
  "1E93 LATIN |SMALL LETTER Z WITH DOT BELOW;CAPITAL LETTER Z WITH LINE BELOW",
  "1E95 LATIN SMALL LETTER |Z WITH LINE BELOW;H WITH LINE BELOW;T WITH DIAERESIS",
  "1E98 LATIN SMALL LETTER |W WITH RING ABOVE;Y WITH RING ABOVE;A WITH RIGHT HALF RING",
  "1E9B LATIN SMALL LETTER LONG S WITH |DOT ABOVE;DIAGONAL STROKE;HIGH STROKE",
  "1E9E LATIN |CAPITAL LETTER SHARP S;SMALL LETTER DELTA;CAPITAL LETTER A WITH DOT BELOW",
  "1EA1 LATIN |SMALL LETTER A WITH DOT BELOW;CAPITAL LETTER A WITH HOOK ABOVE",
  "1EA3 LATIN |SMALL LETTER A WITH HOOK ABOVE;CAPITAL LETTER A WITH CIRCUMFLEX AND ACUTE",
  "1EA5 LATIN SMALL LETTER A WITH CIRCUMFLEX AND |ACUTE",
  "1EA6 LATIN CAPITAL LETTER A WITH CIRCUMFLEX AND |GRAVE",
  "1EA7 LATIN SMALL LETTER A WITH CIRCUMFLEX AND |GRAVE",
  "1EA8 LATIN CAPITAL LETTER A WITH CIRCUMFLEX AND HOOK |ABOVE",
  "1EA9 LATIN SMALL LETTER A WITH CIRCUMFLEX AND HOOK |ABOVE",
  "1EAA LATIN CAPITAL LETTER A WITH CIRCUMFLEX AND |TILDE",
  "1EAB LATIN SMALL LETTER A WITH CIRCUMFLEX AND |TILDE",
  "1EAC LATIN CAPITAL LETTER A WITH CIRCUMFLEX AND DOT |BELOW",
  "1EAD LATIN |SMALL LETTER A WITH CIRCUMFLEX AND DOT BELOW;CAPITAL LETTER A WITH BREVE AND ACUTE",
  "1EAF LATIN |SMALL LETTER A WITH BREVE AND ACUTE;CAPITAL LETTER A WITH BREVE AND GRAVE",
  "1EB1 LATIN |SMALL LETTER A WITH BREVE AND GRAVE;CAPITAL LETTER A WITH BREVE AND HOOK ABOVE",
  "1EB3 LATIN |SMALL LETTER A WITH BREVE AND HOOK ABOVE;CAPITAL LETTER A WITH BREVE AND TILDE",
  "1EB5 LATIN |SMALL LETTER A WITH BREVE AND TILDE;CAPITAL LETTER A WITH BREVE AND DOT BELOW",
  "1EB7 LATIN |SMALL LETTER A WITH BREVE AND DOT BELOW;CAPITAL LETTER E WITH DOT BELOW",
  "1EB9 LATIN |SMALL LETTER E WITH DOT BELOW;CAPITAL LETTER E WITH HOOK ABOVE",
  "1EBB LATIN |SMALL LETTER E WITH HOOK ABOVE;CAPITAL LETTER E WITH TILDE",
  "1EBD LATIN |SMALL LETTER E WITH TILDE;CAPITAL LETTER E WITH CIRCUMFLEX AND ACUTE",
  "1EBF LATIN SMALL LETTER E WITH CIRCUMFLEX AND |ACUTE",
  "1EC0 LATIN CAPITAL LETTER E WITH CIRCUMFLEX AND |GRAVE",
  "1EC1 LATIN SMALL LETTER E WITH CIRCUMFLEX AND |GRAVE",
  "1EC2 LATIN CAPITAL LETTER E WITH CIRCUMFLEX AND HOOK |ABOVE",
  "1EC3 LATIN SMALL LETTER E WITH CIRCUMFLEX AND HOOK |ABOVE",
  "1EC4 LATIN CAPITAL LETTER E WITH CIRCUMFLEX AND |TILDE",
  "1EC5 LATIN SMALL LETTER E WITH CIRCUMFLEX AND |TILDE",
  "1EC6 LATIN CAPITAL LETTER E WITH CIRCUMFLEX AND DOT |BELOW",
  "1EC7 LATIN |SMALL LETTER E WITH CIRCUMFLEX AND DOT BELOW;CAPITAL LETTER I WITH HOOK ABOVE",
  "1EC9 LATIN |SMALL LETTER I WITH HOOK ABOVE;CAPITAL LETTER I WITH DOT BELOW",
  "1ECB LATIN |SMALL LETTER I WITH DOT BELOW;CAPITAL LETTER O WITH DOT BELOW",
  "1ECD LATIN |SMALL LETTER O WITH DOT BELOW;CAPITAL LETTER O WITH HOOK ABOVE",
  "1ECF LATIN |SMALL LETTER O WITH HOOK ABOVE;CAPITAL LETTER O WITH CIRCUMFLEX AND ACUTE",
  "1ED1 LATIN SMALL LETTER O WITH CIRCUMFLEX AND |ACUTE",
  "1ED2 LATIN CAPITAL LETTER O WITH CIRCUMFLEX AND |GRAVE",
  "1ED3 LATIN SMALL LETTER O WITH CIRCUMFLEX AND |GRAVE",
  "1ED4 LATIN CAPITAL LETTER O WITH CIRCUMFLEX AND HOOK |ABOVE",
  "1ED5 LATIN SMALL LETTER O WITH CIRCUMFLEX AND HOOK |ABOVE",
  "1ED6 LATIN CAPITAL LETTER O WITH CIRCUMFLEX AND |TILDE",
  "1ED7 LATIN SMALL LETTER O WITH CIRCUMFLEX AND |TILDE",
  "1ED8 LATIN CAPITAL LETTER O WITH CIRCUMFLEX AND DOT |BELOW",
  "1ED9 LATIN |SMALL LETTER O WITH CIRCUMFLEX AND DOT BELOW;CAPITAL LETTER O WITH HORN AND ACUTE",
  "1EDB LATIN |SMALL LETTER O WITH HORN AND ACUTE;CAPITAL LETTER O WITH HORN AND GRAVE",
  "1EDD LATIN |SMALL LETTER O WITH HORN AND GRAVE;CAPITAL LETTER O WITH HORN AND HOOK ABOVE",
  "1EDF LATIN |SMALL LETTER O WITH HORN AND HOOK ABOVE;CAPITAL LETTER O WITH HORN AND TILDE",
  "1EE1 LATIN |SMALL LETTER O WITH HORN AND TILDE;CAPITAL LETTER O WITH HORN AND DOT BELOW",
  "1EE3 LATIN |SMALL LETTER O WITH HORN AND DOT BELOW;CAPITAL LETTER U WITH DOT BELOW",
  "1EE5 LATIN |SMALL LETTER U WITH DOT BELOW;CAPITAL LETTER U WITH HOOK ABOVE",
  "1EE7 LATIN |SMALL LETTER U WITH HOOK ABOVE;CAPITAL LETTER U WITH HORN AND ACUTE",
  "1EE9 LATIN |SMALL LETTER U WITH HORN AND ACUTE;CAPITAL LETTER U WITH HORN AND GRAVE",
  "1EEB LATIN |SMALL LETTER U WITH HORN AND GRAVE;CAPITAL LETTER U WITH HORN AND HOOK ABOVE",
  "1EED LATIN |SMALL LETTER U WITH HORN AND HOOK ABOVE;CAPITAL LETTER U WITH HORN AND TILDE",
  "1EEF LATIN |SMALL LETTER U WITH HORN AND TILDE;CAPITAL LETTER U WITH HORN AND DOT BELOW",
  "1EF1 LATIN |SMALL LETTER U WITH HORN AND DOT BELOW;CAPITAL LETTER Y WITH GRAVE",
  "1EF3 LATIN |SMALL LETTER Y WITH GRAVE;CAPITAL LETTER Y WITH DOT BELOW",
  "1EF5 LATIN |SMALL LETTER Y WITH DOT BELOW;CAPITAL LETTER Y WITH HOOK ABOVE",
  "1EF7 LATIN |SMALL LETTER Y WITH HOOK ABOVE;CAPITAL LETTER Y WITH TILDE",
  "1EF9 LATIN |SMALL LETTER Y WITH TILDE;CAPITAL LETTER MIDDLE-WELSH LL",
  "1EFB LATIN |SMALL LETTER MIDDLE-WELSH LL;CAPITAL LETTER MIDDLE-WELSH V",
  "1EFD LATIN |SMALL LETTER MIDDLE-WELSH V;CAPITAL LETTER Y WITH LOOP;SMALL LETTER Y WITH LOOP",
  "1F00 GREEK SMALL LETTER ALPHA WITH |PSILI;DASIA;PSILI AND VARIA;DASIA AND VARIA;PSILI AND OXIA",
  "1F05 GREEK SMALL LETTER ALPHA WITH |DASIA AND OXIA;PSILI AND PERISPOMENI;DASIA AND PERISPOMENI",
  "1F08 GREEK CAPITAL LETTER ALPHA WITH |PSILI;DASIA;PSILI AND VARIA",
  "1F0B GREEK CAPITAL LETTER ALPHA WITH |DASIA AND VARIA;PSILI AND OXIA;DASIA AND OXIA",
  "1F0E GREEK CAPITAL LETTER ALPHA WITH |PSILI AND PERISPOMENI;DASIA AND PERISPOMENI",
  "1F10 GREEK SMALL LETTER EPSILON WITH |PSILI;DASIA;PSILI AND VARIA",
  "1F13 GREEK SMALL LETTER EPSILON WITH |DASIA AND VARIA;PSILI AND OXIA;DASIA AND OXIA",
  "1F18 GREEK CAPITAL LETTER EPSILON WITH |PSILI;DASIA;PSILI AND VARIA",
  "1F1B GREEK CAPITAL LETTER EPSILON WITH |DASIA AND VARIA;PSILI AND OXIA;DASIA AND OXIA",
  "1F20 GREEK SMALL LETTER ETA WITH |PSILI;DASIA;PSILI AND VARIA;DASIA AND VARIA;PSILI AND OXIA",
  "1F25 GREEK SMALL LETTER ETA WITH |DASIA AND OXIA;PSILI AND PERISPOMENI;DASIA AND PERISPOMENI",
  "1F28 GREEK CAPITAL LETTER ETA WITH |PSILI;DASIA;PSILI AND VARIA;DASIA AND VARIA;PSILI AND OXIA",
  "1F2D GREEK CAPITAL LETTER ETA WITH |DASIA AND OXIA;PSILI AND PERISPOMENI;DASIA AND PERISPOMENI",
  "1F30 GREEK SMALL LETTER IOTA WITH |PSILI;DASIA;PSILI AND VARIA;DASIA AND VARIA;PSILI AND OXIA",
  "1F35 GREEK SMALL LETTER IOTA WITH |DASIA AND OXIA;PSILI AND PERISPOMENI;DASIA AND PERISPOMENI",
  "1F38 GREEK CAPITAL LETTER IOTA WITH |PSILI;DASIA;PSILI AND VARIA",
  "1F3B GREEK CAPITAL LETTER IOTA WITH |DASIA AND VARIA;PSILI AND OXIA;DASIA AND OXIA",
  "1F3E GREEK CAPITAL LETTER IOTA WITH |PSILI AND PERISPOMENI;DASIA AND PERISPOMENI",
  "1F40 GREEK SMALL LETTER OMICRON WITH |PSILI;DASIA;PSILI AND VARIA",
  "1F43 GREEK SMALL LETTER OMICRON WITH |DASIA AND VARIA;PSILI AND OXIA;DASIA AND OXIA",
  "1F48 GREEK CAPITAL LETTER OMICRON WITH |PSILI;DASIA;PSILI AND VARIA",
  "1F4B GREEK CAPITAL LETTER OMICRON WITH |DASIA AND VARIA;PSILI AND OXIA;DASIA AND OXIA",
  "1F50 GREEK SMALL LETTER UPSILON WITH |PSILI;DASIA;PSILI AND VARIA",
  "1F53 GREEK SMALL LETTER UPSILON WITH |DASIA AND VARIA;PSILI AND OXIA;DASIA AND OXIA",
  "1F56 GREEK SMALL LETTER UPSILON WITH |PSILI AND PERISPOMENI;DASIA AND PERISPOMENI",
  "1F59 GREEK CAPITAL LETTER UPSILON WITH |DASIA",
  "1F5B GREEK CAPITAL LETTER UPSILON WITH DASIA AND |VARIA",
  "1F5D GREEK CAPITAL LETTER UPSILON WITH DASIA AND |OXIA",
  "1F5F GREEK CAPITAL LETTER UPSILON WITH DASIA AND |PERISPOMENI",
  "1F60 GREEK SMALL LETTER OMEGA WITH |PSILI;DASIA;PSILI AND VARIA;DASIA AND VARIA;PSILI AND OXIA",
  "1F65 GREEK SMALL LETTER OMEGA WITH |DASIA AND OXIA;PSILI AND PERISPOMENI;DASIA AND PERISPOMENI",
  "1F68 GREEK CAPITAL LETTER OMEGA WITH |PSILI;DASIA;PSILI AND VARIA",
  "1F6B GREEK CAPITAL LETTER OMEGA WITH |DASIA AND VARIA;PSILI AND OXIA;DASIA AND OXIA",
  "1F6E GREEK CAPITAL LETTER OMEGA WITH |PSILI AND PERISPOMENI;DASIA AND PERISPOMENI",
  "1F70 GREEK SMALL LETTER |ALPHA WITH VARIA;ALPHA WITH OXIA;EPSILON WITH VARIA;EPSILON WITH OXIA",
  "1F74 GREEK SMALL LETTER |ETA WITH VARIA;ETA WITH OXIA;IOTA WITH VARIA;IOTA WITH OXIA",
  "1F78 GREEK SMALL LETTER OMICRON WITH |VARIA;OXIA",
  "1F7A GREEK SMALL LETTER |UPSILON WITH VARIA;UPSILON WITH OXIA;OMEGA WITH VARIA;OMEGA WITH OXIA",
  "1F80 GREEK SMALL LETTER ALPHA WITH PSILI AND |YPOGEGRAMMENI",
  "1F81 GREEK SMALL LETTER ALPHA WITH |DASIA AND YPOGEGRAMMENI;PSILI AND VARIA AND YPOGEGRAMMENI",
  "1F83 GREEK SMALL LETTER ALPHA WITH DASIA AND VARIA AND |YPOGEGRAMMENI",
  "1F84 GREEK SMALL LETTER ALPHA WITH PSILI AND OXIA AND |YPOGEGRAMMENI",
  "1F85 GREEK SMALL LETTER ALPHA WITH DASIA AND OXIA AND |YPOGEGRAMMENI",
  "1F86 GREEK SMALL LETTER ALPHA WITH PSILI AND PERISPOMENI AND |YPOGEGRAMMENI",
  "1F87 GREEK SMALL LETTER ALPHA WITH DASIA AND PERISPOMENI AND |YPOGEGRAMMENI",
  "1F88 GREEK CAPITAL LETTER ALPHA WITH |PSILI AND PROSGEGRAMMENI;DASIA AND PROSGEGRAMMENI",
  "1F8A GREEK CAPITAL LETTER ALPHA WITH PSILI AND VARIA AND |PROSGEGRAMMENI",
  "1F8B GREEK CAPITAL LETTER ALPHA WITH DASIA AND VARIA AND |PROSGEGRAMMENI",
  "1F8C GREEK CAPITAL LETTER ALPHA WITH PSILI AND OXIA AND |PROSGEGRAMMENI",
  "1F8D GREEK CAPITAL LETTER ALPHA WITH DASIA AND OXIA AND |PROSGEGRAMMENI",
  "1F8E GREEK CAPITAL LETTER ALPHA WITH PSILI AND PERISPOMENI AND |PROSGEGRAMMENI",
  "1F8F GREEK CAPITAL LETTER ALPHA WITH DASIA AND PERISPOMENI AND |PROSGEGRAMMENI",
  "1F90 GREEK SMALL LETTER ETA WITH PSILI AND |YPOGEGRAMMENI",
  "1F91 GREEK SMALL LETTER ETA WITH |DASIA AND YPOGEGRAMMENI;PSILI AND VARIA AND YPOGEGRAMMENI",
  "1F93 GREEK SMALL LETTER ETA WITH DASIA AND VARIA AND |YPOGEGRAMMENI",
  "1F94 GREEK SMALL LETTER ETA WITH PSILI AND OXIA AND |YPOGEGRAMMENI",
  "1F95 GREEK SMALL LETTER ETA WITH DASIA AND OXIA AND |YPOGEGRAMMENI",
  "1F96 GREEK SMALL LETTER ETA WITH PSILI AND PERISPOMENI AND |YPOGEGRAMMENI",
  "1F97 GREEK SMALL LETTER ETA WITH DASIA AND PERISPOMENI AND |YPOGEGRAMMENI",
  "1F98 GREEK CAPITAL LETTER ETA WITH |PSILI AND PROSGEGRAMMENI;DASIA AND PROSGEGRAMMENI",
  "1F9A GREEK CAPITAL LETTER ETA WITH PSILI AND VARIA AND |PROSGEGRAMMENI",
  "1F9B GREEK CAPITAL LETTER ETA WITH DASIA AND VARIA AND |PROSGEGRAMMENI",
  "1F9C GREEK CAPITAL LETTER ETA WITH PSILI AND OXIA AND |PROSGEGRAMMENI",
  "1F9D GREEK CAPITAL LETTER ETA WITH DASIA AND OXIA AND |PROSGEGRAMMENI",
  "1F9E GREEK CAPITAL LETTER ETA WITH PSILI AND PERISPOMENI AND |PROSGEGRAMMENI",
  "1F9F GREEK CAPITAL LETTER ETA WITH DASIA AND PERISPOMENI AND |PROSGEGRAMMENI",
  "1FA0 GREEK SMALL LETTER OMEGA WITH PSILI AND |YPOGEGRAMMENI",
  "1FA1 GREEK SMALL LETTER OMEGA WITH |DASIA AND YPOGEGRAMMENI;PSILI AND VARIA AND YPOGEGRAMMENI",
  "1FA3 GREEK SMALL LETTER OMEGA WITH DASIA AND VARIA AND |YPOGEGRAMMENI",
  "1FA4 GREEK SMALL LETTER OMEGA WITH PSILI AND OXIA AND |YPOGEGRAMMENI",
  "1FA5 GREEK SMALL LETTER OMEGA WITH DASIA AND OXIA AND |YPOGEGRAMMENI",
  "1FA6 GREEK SMALL LETTER OMEGA WITH PSILI AND PERISPOMENI AND |YPOGEGRAMMENI",
  "1FA7 GREEK SMALL LETTER OMEGA WITH DASIA AND PERISPOMENI AND |YPOGEGRAMMENI",
  "1FA8 GREEK CAPITAL LETTER OMEGA WITH |PSILI AND PROSGEGRAMMENI;DASIA AND PROSGEGRAMMENI",
  "1FAA GREEK CAPITAL LETTER OMEGA WITH PSILI AND VARIA AND |PROSGEGRAMMENI",
  "1FAB GREEK CAPITAL LETTER OMEGA WITH DASIA AND VARIA AND |PROSGEGRAMMENI",
  "1FAC GREEK CAPITAL LETTER OMEGA WITH PSILI AND OXIA AND |PROSGEGRAMMENI",
  "1FAD GREEK CAPITAL LETTER OMEGA WITH DASIA AND OXIA AND |PROSGEGRAMMENI",
  "1FAE GREEK CAPITAL LETTER OMEGA WITH PSILI AND PERISPOMENI AND |PROSGEGRAMMENI",
  "1FAF GREEK CAPITAL LETTER OMEGA WITH DASIA AND PERISPOMENI AND |PROSGEGRAMMENI",
  "1FB0 GREEK SMALL LETTER ALPHA WITH |VRACHY;MACRON;VARIA AND YPOGEGRAMMENI",
  "1FB3 GREEK SMALL LETTER ALPHA WITH |YPOGEGRAMMENI;OXIA AND YPOGEGRAMMENI",
  "1FB6 GREEK SMALL LETTER ALPHA WITH |PERISPOMENI;PERISPOMENI AND YPOGEGRAMMENI",
  "1FB8 GREEK CAPITAL LETTER ALPHA WITH |VRACHY;MACRON;VARIA;OXIA;PROSGEGRAMMENI",
  "1FBD GREEK |KORONIS;PROSGEGRAMMENI;PSILI;PERISPOMENI;DIALYTIKA AND PERISPOMENI",
  "1FC2 GREEK SMALL LETTER ETA WITH |VARIA AND YPOGEGRAMMENI;YPOGEGRAMMENI;OXIA AND YPOGEGRAMMENI",
  "1FC6 GREEK SMALL LETTER ETA WITH |PERISPOMENI;PERISPOMENI AND YPOGEGRAMMENI",
  "1FC8 GREEK CAPITAL LETTER EPSILON WITH |VARIA;OXIA",
  "1FCA GREEK CAPITAL LETTER ETA WITH |VARIA;OXIA;PROSGEGRAMMENI",
  "1FCD GREEK PSILI AND |VARIA;OXIA;PERISPOMENI",
  "1FD0 GREEK SMALL LETTER IOTA WITH |VRACHY;MACRON;DIALYTIKA AND VARIA;DIALYTIKA AND OXIA",
  "1FD6 GREEK SMALL LETTER IOTA WITH |PERISPOMENI;DIALYTIKA AND PERISPOMENI",
  "1FD8 GREEK CAPITAL LETTER IOTA WITH |VRACHY;MACRON;VARIA;OXIA",
  "1FDD GREEK DASIA AND |VARIA;OXIA;PERISPOMENI",
  "1FE0 GREEK SMALL LETTER UPSILON WITH |VRACHY;MACRON;DIALYTIKA AND VARIA;DIALYTIKA AND OXIA",
  "1FE4 GREEK SMALL LETTER RHO WITH |PSILI;DASIA",
  "1FE6 GREEK SMALL LETTER UPSILON WITH |PERISPOMENI;DIALYTIKA AND PERISPOMENI",
  "1FE8 GREEK CAPITAL LETTER UPSILON WITH |VRACHY;MACRON;VARIA;OXIA",
  "1FEC GREEK |CAPITAL LETTER RHO WITH DASIA;DIALYTIKA AND VARIA;DIALYTIKA AND OXIA;VARIA",
  "1FF2 GREEK SMALL LETTER OMEGA WITH VARIA AND |YPOGEGRAMMENI",
  "1FF3 GREEK SMALL LETTER OMEGA WITH |YPOGEGRAMMENI;OXIA AND YPOGEGRAMMENI",
  "1FF6 GREEK SMALL LETTER OMEGA WITH |PERISPOMENI;PERISPOMENI AND YPOGEGRAMMENI",
  "1FF8 GREEK CAPITAL LETTER OMICRON WITH |VARIA;OXIA",
  "1FFA GREEK CAPITAL LETTER OMEGA WITH |VARIA;OXIA;PROSGEGRAMMENI",
  "1FFD GREEK |OXIA;DASIA"]

end ElementLocator.Regex.CharacterName
