/-! # Character names: rows for U+2000 to U+2BFF

    The names of punctuation, arrows, mathematical and other signs. -/

namespace ElementLocator.Regex.CharacterName

/-- Names from U+2000 to U+2BFF. -/
def signRows : List String := [
  "2000 |EN QUAD;EM QUAD;EN SPACE;EM SPACE;THREE-PER-EM SPACE",
  "2005 |FOUR-PER-EM SPACE;SIX-PER-EM SPACE;FIGURE SPACE;PUNCTUATION SPACE;THIN SPACE;HAIR SPACE",
  "200B ZERO WIDTH |SPACE;NON-JOINER;JOINER",
  "200E |LEFT-TO-RIGHT MARK;RIGHT-TO-LEFT MARK;HYPHEN",
  "2011 |NON-BREAKING HYPHEN;FIGURE DASH;EN DASH;EM DASH;HORIZONTAL BAR;DOUBLE VERTICAL LINE",
  "2017 |DOUBLE LOW LINE;LEFT SINGLE QUOTATION MARK;RIGHT SINGLE QUOTATION MARK",
  "201A SINGLE |LOW-9 QUOTATION MARK;HIGH-REVERSED-9 QUOTATION MARK",
  "201C |LEFT DOUBLE QUOTATION MARK;RIGHT DOUBLE QUOTATION MARK",
  "201E DOUBLE |LOW-9 QUOTATION MARK;HIGH-REVERSED-9 QUOTATION MARK",
  "2020 |DAGGER;DOUBLE DAGGER;BULLET;TRIANGULAR BULLET;ONE DOT LEADER",
  "2025 |TWO DOT LEADER;HORIZONTAL ELLIPSIS;HYPHENATION POINT;LINE SEPARATOR;PARAGRAPH SEPARATOR",
  "202A |LEFT-TO-RIGHT EMBEDDING;RIGHT-TO-LEFT EMBEDDING;POP DIRECTIONAL FORMATTING",
  "202D |LEFT-TO-RIGHT OVERRIDE;RIGHT-TO-LEFT OVERRIDE;NARROW NO-BREAK SPACE",
  "2030 |PER MILLE SIGN;PER TEN THOUSAND SIGN;PRIME;DOUBLE PRIME;TRIPLE PRIME",
  "2035 REVERSED |PRIME;DOUBLE PRIME;TRIPLE PRIME",
  "2038 |CARET;SINGLE LEFT-POINTING ANGLE QUOTATION MARK",
  "203A |SINGLE RIGHT-POINTING ANGLE QUOTATION MARK;REFERENCE MARK;DOUBLE EXCLAMATION MARK",
  "203D |INTERROBANG;OVERLINE;UNDERTIE;CHARACTER TIE;CARET INSERTION POINT",
  "2042 |ASTERISM;HYPHEN BULLET;FRACTION SLASH;LEFT SQUARE BRACKET WITH QUILL",
  "2046 |RIGHT SQUARE BRACKET WITH QUILL;DOUBLE QUESTION MARK;QUESTION EXCLAMATION MARK",
  "2049 |EXCLAMATION QUESTION MARK;TIRONIAN SIGN ET;REVERSED PILCROW SIGN",
  "204C |BLACK LEFTWARDS BULLET;BLACK RIGHTWARDS BULLET;LOW ASTERISK;REVERSED SEMICOLON",
  "2050 |CLOSE UP;TWO ASTERISKS ALIGNED VERTICALLY;COMMERCIAL MINUS SIGN;SWUNG DASH",
  "2054 |INVERTED UNDERTIE;FLOWER PUNCTUATION MARK;THREE DOT PUNCTUATION;QUADRUPLE PRIME",
  "2058 |FOUR DOT PUNCTUATION;FIVE DOT PUNCTUATION;TWO DOT PUNCTUATION;FOUR DOT MARK;DOTTED CROSS",
  "205D |TRICOLON;VERTICAL FOUR DOTS;MEDIUM MATHEMATICAL SPACE;WORD JOINER;FUNCTION APPLICATION",
  "2062 INVISIBLE |TIMES;SEPARATOR;PLUS",
  "2066 |LEFT-TO-RIGHT ISOLATE;RIGHT-TO-LEFT ISOLATE;FIRST STRONG ISOLATE;POP DIRECTIONAL ISOLATE",
  "206A |INHIBIT SYMMETRIC SWAPPING;ACTIVATE SYMMETRIC SWAPPING;INHIBIT ARABIC FORM SHAPING",
  "206D |ACTIVATE ARABIC FORM SHAPING;NATIONAL DIGIT SHAPES;NOMINAL DIGIT SHAPES",
  "2070 SUPERSCRIPT |ZERO;LATIN SMALL LETTER I",
  "2074 SUPERSCRIPT |FOUR;FIVE;SIX;SEVEN;EIGHT;NINE;PLUS SIGN",
  "207B SUPERSCRIPT |MINUS;EQUALS SIGN;LEFT PARENTHESIS;RIGHT PARENTHESIS;LATIN SMALL LETTER N",
  "2080 SUBSCRIPT |ZERO;ONE;TWO;THREE;FOUR;FIVE;SIX;SEVEN",
  "2088 SUBSCRIPT |EIGHT;NINE;PLUS SIGN;MINUS;EQUALS SIGN;LEFT PARENTHESIS;RIGHT PARENTHESIS",
  "2090 LATIN SUBSCRIPT SMALL LETTER |A;E;O;X;SCHWA;H;K;L;M;N;P;S;T",
  "20A0 |EURO-CURRENCY SIGN;COLON SIGN;CRUZEIRO SIGN;FRENCH FRANC SIGN;LIRA SIGN",
  "20A5 |MILL SIGN;NAIRA SIGN;PESETA SIGN;RUPEE SIGN;WON SIGN;NEW SHEQEL SIGN;DONG SIGN;EURO SIGN",
  "20AD |KIP SIGN;TUGRIK SIGN;DRACHMA SIGN;GERMAN PENNY SIGN;PESO SIGN;GUARANI SIGN;AUSTRAL SIGN",
  "20B4 |HRYVNIA SIGN;CEDI SIGN;LIVRE TOURNOIS SIGN;SPESMILO SIGN;TENGE SIGN;INDIAN RUPEE SIGN",
  "20BA |TURKISH LIRA SIGN;NORDIC MARK SIGN;MANAT SIGN;RUBLE SIGN;LARI SIGN;BITCOIN SIGN;SOM SIGN",
  "20D0 COMBINING |LEFT HARPOON ABOVE;RIGHT HARPOON ABOVE;LONG VERTICAL LINE OVERLAY",
  "20D3 COMBINING |SHORT VERTICAL LINE OVERLAY;ANTICLOCKWISE ARROW ABOVE;CLOCKWISE ARROW ABOVE",
  "20D6 COMBINING |LEFT ARROW ABOVE;RIGHT ARROW ABOVE;RING OVERLAY;CLOCKWISE RING OVERLAY",
  "20DA COMBINING |ANTICLOCKWISE RING OVERLAY;THREE DOTS ABOVE;FOUR DOTS ABOVE",
  "20DD COMBINING ENCLOSING |CIRCLE;SQUARE;DIAMOND;CIRCLE BACKSLASH",
  "20E1 COMBINING |LEFT RIGHT ARROW ABOVE;ENCLOSING SCREEN",
  "20E3 COMBINING |ENCLOSING KEYCAP;ENCLOSING UPWARD POINTING TRIANGLE;REVERSE SOLIDUS OVERLAY",
  "20E6 COMBINING |DOUBLE VERTICAL STROKE OVERLAY;ANNUITY SYMBOL;TRIPLE UNDERDOT",
  "20E9 COMBINING |WIDE BRIDGE ABOVE;LEFTWARDS ARROW OVERLAY;LONG DOUBLE SOLIDUS OVERLAY",
  "20EC COMBINING |RIGHTWARDS HARPOON WITH BARB DOWNWARDS;LEFTWARDS HARPOON WITH BARB DOWNWARDS",
  "20EE COMBINING |LEFT ARROW BELOW;RIGHT ARROW BELOW;ASTERISK ABOVE",
  "2100 |ACCOUNT OF;ADDRESSED TO THE SUBJECT;DOUBLE-STRUCK CAPITAL C;DEGREE CELSIUS",
  "2104 |CENTRE LINE SYMBOL;CARE OF;CADA UNA;EULER CONSTANT;SCRUPLE;DEGREE FAHRENHEIT",
  "210A |SCRIPT SMALL G;SCRIPT CAPITAL H;BLACK-LETTER CAPITAL H;DOUBLE-STRUCK CAPITAL H",
  "210E PLANCK |CONSTANT;CONSTANT OVER TWO PI",
  "2110 |SCRIPT CAPITAL I;BLACK-LETTER CAPITAL I;SCRIPT CAPITAL L;SCRIPT SMALL L;L B BAR SYMBOL",
  "2115 |DOUBLE-STRUCK CAPITAL N;NUMERO SIGN;SOUND RECORDING COPYRIGHT;SCRIPT CAPITAL P",
  "2119 DOUBLE-STRUCK CAPITAL |P;Q",
  "211B SCRIPT CAPITAL |R",
  "211C |BLACK-LETTER CAPITAL R;DOUBLE-STRUCK CAPITAL R;PRESCRIPTION TAKE;RESPONSE;SERVICE MARK",
  "2121 |TELEPHONE SIGN;TRADE MARK SIGN;VERSICLE;DOUBLE-STRUCK CAPITAL Z;OUNCE SIGN;OHM SIGN",
  "2127 |INVERTED OHM SIGN;BLACK-LETTER CAPITAL Z;TURNED GREEK SMALL LETTER IOTA;KELVIN SIGN",
  "212B |ANGSTROM SIGN;SCRIPT CAPITAL B;BLACK-LETTER CAPITAL C;ESTIMATED SYMBOL;SCRIPT SMALL E",
  "2130 SCRIPT CAPITAL |E;F",
  "2132 |TURNED CAPITAL F;SCRIPT CAPITAL M;SCRIPT SMALL O;ALEF SYMBOL",
  "2136 |BET SYMBOL;GIMEL SYMBOL;DALET SYMBOL;INFORMATION SOURCE;ROTATED CAPITAL Q;FACSIMILE SIGN",
  "213C DOUBLE-STRUCK |SMALL PI;SMALL GAMMA;CAPITAL GAMMA;CAPITAL PI;N-ARY SUMMATION",
  "2141 TURNED SANS-SERIF CAPITAL |G;L",
  "2143 |REVERSED SANS-SERIF CAPITAL L;TURNED SANS-SERIF CAPITAL Y",
  "2145 DOUBLE-STRUCK ITALIC |CAPITAL D;SMALL D;SMALL E;SMALL I;SMALL J",
  "214A PROPERTY |LINE",
  "214B |TURNED AMPERSAND;PER SIGN;AKTIESELSKAB;TURNED SMALL F;SYMBOL FOR SAMARITAN SOURCE",
  "2150 VULGAR FRACTION ONE |SEVENTH;NINTH;TENTH;THIRD",
  "2154 VULGAR FRACTION |TWO THIRDS;ONE FIFTH;TWO FIFTHS;THREE FIFTHS;FOUR FIFTHS;ONE SIXTH",
  "215A VULGAR FRACTION |FIVE SIXTHS;ONE EIGHTH;THREE EIGHTHS;FIVE EIGHTHS;SEVEN EIGHTHS",
  "215F FRACTION NUMERATOR |ONE",
  "2160 ROMAN NUMERAL |ONE;TWO;THREE;FOUR;FIVE;SIX;SEVEN",
  "2167 ROMAN NUMERAL |EIGHT;NINE;TEN;ELEVEN;TWELVE;FIFTY;ONE HUNDRED;FIVE HUNDRED;ONE THOUSAND",
  "2170 SMALL ROMAN NUMERAL |ONE;TWO;THREE;FOUR;FIVE;SIX;SEVEN;EIGHT",
  "2178 SMALL ROMAN NUMERAL |NINE;TEN;ELEVEN;TWELVE;FIFTY;ONE HUNDRED;FIVE HUNDRED;ONE THOUSAND",
  "2180 ROMAN NUMERAL |ONE THOUSAND C D;FIVE THOUSAND;TEN THOUSAND;REVERSED ONE HUNDRED",
  "2184 LATIN SMALL LETTER REVERSED |C",
  "2185 ROMAN NUMERAL |SIX LATE FORM;FIFTY EARLY FORM;FIFTY THOUSAND;ONE HUNDRED THOUSAND",
  "2189 VULGAR FRACTION ZERO |THIRDS",
  "218A TURNED DIGIT |TWO;THREE",
  "2190 |LEFTWARDS ARROW;UPWARDS ARROW",
  "2192 |RIGHTWARDS ARROW;DOWNWARDS ARROW;LEFT RIGHT ARROW;UP DOWN ARROW;NORTH WEST ARROW",
  "2197 |NORTH EAST ARROW;SOUTH EAST ARROW;SOUTH WEST ARROW;LEFTWARDS ARROW WITH STROKE",
  "219B |RIGHTWARDS ARROW WITH STROKE;LEFTWARDS WAVE ARROW;RIGHTWARDS WAVE ARROW",
  "219E |LEFTWARDS TWO HEADED ARROW;UPWARDS TWO HEADED ARROW;RIGHTWARDS TWO HEADED ARROW",
  "21A1 |DOWNWARDS TWO HEADED ARROW;LEFTWARDS ARROW WITH TAIL;RIGHTWARDS ARROW WITH TAIL",
  "21A4 |LEFTWARDS ARROW FROM BAR;UPWARDS ARROW FROM BAR;RIGHTWARDS ARROW FROM BAR",
  "21A7 |DOWNWARDS ARROW FROM BAR;UP DOWN ARROW WITH BASE;LEFTWARDS ARROW WITH HOOK",
  "21AA |RIGHTWARDS ARROW WITH HOOK;LEFTWARDS ARROW WITH LOOP;RIGHTWARDS ARROW WITH LOOP",
  "21AD |LEFT RIGHT WAVE ARROW;LEFT RIGHT ARROW WITH STROKE;DOWNWARDS ZIGZAG ARROW",
  "21B0 UPWARDS ARROW WITH TIP |LEFTWARDS;RIGHTWARDS",
  "21B2 DOWNWARDS ARROW WITH TIP |LEFTWARDS;RIGHTWARDS",
  "21B4 |RIGHTWARDS ARROW WITH CORNER DOWNWARDS;DOWNWARDS ARROW WITH CORNER LEFTWARDS",
  "21B6 |ANTICLOCKWISE TOP SEMICIRCLE ARROW;CLOCKWISE TOP SEMICIRCLE ARROW",
  "21B8 |NORTH WEST ARROW TO LONG BAR;LEFTWARDS ARROW TO BAR OVER RIGHTWARDS ARROW TO BAR",
  "21BA |ANTICLOCKWISE OPEN CIRCLE ARROW;CLOCKWISE OPEN CIRCLE ARROW",
  "21BC LEFTWARDS HARPOON WITH BARB |UPWARDS;DOWNWARDS",
  "21BE UPWARDS HARPOON WITH BARB |RIGHTWARDS;LEFTWARDS",
  "21C0 RIGHTWARDS HARPOON WITH BARB |UPWARDS;DOWNWARDS",
  "21C2 DOWNWARDS HARPOON WITH BARB |RIGHTWARDS;LEFTWARDS",
  "21C4 |RIGHTWARDS ARROW OVER LEFTWARDS ARROW;UPWARDS ARROW LEFTWARDS OF DOWNWARDS ARROW",
  "21C6 LEFTWARDS |ARROW OVER RIGHTWARDS ARROW;PAIRED ARROWS",
  "21C8 |UPWARDS PAIRED ARROWS;RIGHTWARDS PAIRED ARROWS;DOWNWARDS PAIRED ARROWS",
  "21CB |LEFTWARDS HARPOON OVER RIGHTWARDS HARPOON;RIGHTWARDS HARPOON OVER LEFTWARDS HARPOON",
  "21CD |LEFTWARDS DOUBLE ARROW WITH STROKE;LEFT RIGHT DOUBLE ARROW WITH STROKE",
  "21CF |RIGHTWARDS DOUBLE ARROW WITH STROKE;LEFTWARDS DOUBLE ARROW;UPWARDS DOUBLE ARROW",
  "21D2 |RIGHTWARDS DOUBLE ARROW;DOWNWARDS DOUBLE ARROW;LEFT RIGHT DOUBLE ARROW",
  "21D5 |UP DOWN DOUBLE ARROW;NORTH WEST DOUBLE ARROW;NORTH EAST DOUBLE ARROW",
  "21D8 |SOUTH EAST DOUBLE ARROW;SOUTH WEST DOUBLE ARROW;LEFTWARDS TRIPLE ARROW",
  "21DB |RIGHTWARDS TRIPLE ARROW;LEFTWARDS SQUIGGLE ARROW;RIGHTWARDS SQUIGGLE ARROW",
  "21DE |UPWARDS ARROW WITH DOUBLE STROKE;DOWNWARDS ARROW WITH DOUBLE STROKE",
  "21E0 |LEFTWARDS DASHED ARROW;UPWARDS DASHED ARROW;RIGHTWARDS DASHED ARROW",
  "21E3 |DOWNWARDS DASHED ARROW;LEFTWARDS ARROW TO BAR;RIGHTWARDS ARROW TO BAR",
  "21E6 |LEFTWARDS WHITE ARROW;UPWARDS WHITE ARROW;RIGHTWARDS WHITE ARROW;DOWNWARDS WHITE ARROW",
  "21EA UPWARDS WHITE ARROW |FROM BAR;ON PEDESTAL;ON PEDESTAL WITH HORIZONTAL BAR",
  "21ED UPWARDS WHITE |ARROW ON PEDESTAL WITH VERTICAL BAR;DOUBLE ARROW;DOUBLE ARROW ON PEDESTAL",
  "21F0 RIGHTWARDS WHITE ARROW FROM |WALL",
  "21F1 |NORTH WEST ARROW TO CORNER;SOUTH EAST ARROW TO CORNER;UP DOWN WHITE ARROW",
  "21F4 |RIGHT ARROW WITH SMALL CIRCLE;DOWNWARDS ARROW LEFTWARDS OF UPWARDS ARROW",
  "21F6 |THREE RIGHTWARDS ARROWS;LEFTWARDS ARROW WITH VERTICAL STROKE",
  "21F8 |RIGHTWARDS ARROW WITH VERTICAL STROKE;LEFT RIGHT ARROW WITH VERTICAL STROKE",
  "21FA |LEFTWARDS ARROW WITH DOUBLE VERTICAL STROKE;RIGHTWARDS ARROW WITH DOUBLE VERTICAL STROKE",
  "21FC LEFT RIGHT ARROW WITH DOUBLE VERTICAL |STROKE",
  "21FD |LEFTWARDS OPEN-HEADED ARROW;RIGHTWARDS OPEN-HEADED ARROW;LEFT RIGHT OPEN-HEADED ARROW",
  "2200 |FOR ALL;COMPLEMENT;PARTIAL DIFFERENTIAL;THERE EXISTS;THERE DOES NOT EXIST",
  "2205 |EMPTY SET;INCREMENT;NABLA;ELEMENT OF;NOT AN ELEMENT OF;SMALL ELEMENT OF",
  "220B |CONTAINS AS MEMBER;DOES NOT CONTAIN AS MEMBER;SMALL CONTAINS AS MEMBER;END OF PROOF",
  "220F N-ARY |PRODUCT;COPRODUCT;SUMMATION",
  "2212 |MINUS SIGN;MINUS-OR-PLUS SIGN;DOT PLUS;DIVISION SLASH;SET MINUS;ASTERISK OPERATOR",
  "2218 |RING OPERATOR;BULLET OPERATOR;SQUARE ROOT;CUBE ROOT;FOURTH ROOT;PROPORTIONAL TO",
  "221E |INFINITY;RIGHT ANGLE;ANGLE;MEASURED ANGLE;SPHERICAL ANGLE;DIVIDES;DOES NOT DIVIDE",
  "2225 |PARALLEL TO;NOT PARALLEL TO;LOGICAL AND;LOGICAL OR;INTERSECTION;UNION;INTEGRAL",
  "222C |DOUBLE INTEGRAL;TRIPLE INTEGRAL;CONTOUR INTEGRAL;SURFACE INTEGRAL;VOLUME INTEGRAL",
  "2231 CLOCKWISE |INTEGRAL;CONTOUR INTEGRAL",
  "2233 |ANTICLOCKWISE CONTOUR INTEGRAL;THEREFORE;BECAUSE;RATIO;PROPORTION;DOT MINUS;EXCESS",
  "223A |GEOMETRIC PROPORTION;HOMOTHETIC;TILDE OPERATOR;REVERSED TILDE;INVERTED LAZY S;SINE WAVE",
  "2240 |WREATH PRODUCT;NOT TILDE;MINUS TILDE;ASYMPTOTICALLY EQUAL TO;NOT ASYMPTOTICALLY EQUAL TO",
  "2245 APPROXIMATELY |EQUAL TO;BUT NOT ACTUALLY EQUAL TO",
  "2247 NEITHER APPROXIMATELY NOR ACTUALLY EQUAL |TO",
  "2248 |ALMOST EQUAL TO;NOT ALMOST EQUAL TO;ALMOST EQUAL OR EQUAL TO",
  "224B |TRIPLE TILDE;ALL EQUAL TO;EQUIVALENT TO;GEOMETRICALLY EQUIVALENT TO;DIFFERENCE BETWEEN",
  "2250 |APPROACHES THE LIMIT;GEOMETRICALLY EQUAL TO;APPROXIMATELY EQUAL TO OR THE IMAGE OF",
  "2253 |IMAGE OF OR APPROXIMATELY EQUAL TO;COLON EQUALS;EQUALS COLON;RING IN EQUAL TO",
  "2257 |RING EQUAL TO;CORRESPONDS TO;ESTIMATES;EQUIANGULAR TO;STAR EQUALS;DELTA EQUAL TO",
  "225D |EQUAL TO BY DEFINITION;MEASURED BY;QUESTIONED EQUAL TO;NOT EQUAL TO;IDENTICAL TO",
  "2262 |NOT IDENTICAL TO;STRICTLY EQUIVALENT TO;LESS-THAN OR EQUAL TO;GREATER-THAN OR EQUAL TO",
  "2266 |LESS-THAN OVER EQUAL TO;GREATER-THAN OVER EQUAL TO;LESS-THAN BUT NOT EQUAL TO",
  "2269 |GREATER-THAN BUT NOT EQUAL TO;MUCH LESS-THAN;MUCH GREATER-THAN;BETWEEN",
  "226D NOT |EQUIVALENT TO;LESS-THAN;GREATER-THAN",
  "2270 NEITHER |LESS-THAN NOR EQUAL TO;GREATER-THAN NOR EQUAL TO",
  "2272 |LESS-THAN OR EQUIVALENT TO;GREATER-THAN OR EQUIVALENT TO",
  "2274 NEITHER |LESS-THAN NOR EQUIVALENT TO;GREATER-THAN NOR EQUIVALENT TO",
  "2276 |LESS-THAN OR GREATER-THAN;GREATER-THAN OR LESS-THAN",
  "2278 NEITHER |LESS-THAN NOR GREATER-THAN;GREATER-THAN NOR LESS-THAN",
  "227A |PRECEDES;SUCCEEDS;PRECEDES OR EQUAL TO;SUCCEEDS OR EQUAL TO;PRECEDES OR EQUIVALENT TO",
  "227F |SUCCEEDS OR EQUIVALENT TO;DOES NOT PRECEDE;DOES NOT SUCCEED;SUBSET OF;SUPERSET OF",
  "2284 |NOT A SUBSET OF;NOT A SUPERSET OF;SUBSET OF OR EQUAL TO;SUPERSET OF OR EQUAL TO",
  "2288 NEITHER A |SUBSET OF NOR EQUAL TO;SUPERSET OF NOR EQUAL TO",
  "228A |SUBSET OF WITH NOT EQUAL TO;SUPERSET OF WITH NOT EQUAL TO;MULTISET",
  "228D MULTISET |MULTIPLICATION;UNION",
  "228F SQUARE |IMAGE OF;ORIGINAL OF;IMAGE OF OR EQUAL TO;ORIGINAL OF OR EQUAL TO;CAP;CUP",
  "2295 CIRCLED |PLUS;MINUS",
  "2297 CIRCLED |TIMES;DIVISION SLASH;DOT OPERATOR;RING OPERATOR;ASTERISK OPERATOR;EQUALS;DASH",
  "229E SQUARED |PLUS;MINUS;TIMES;DOT OPERATOR",
  "22A2 |RIGHT TACK;LEFT TACK",
  "22A4 |DOWN TACK;UP TACK;ASSERTION;MODELS;TRUE;FORCES;TRIPLE VERTICAL BAR RIGHT TURNSTILE",
  "22AB |DOUBLE VERTICAL BAR DOUBLE RIGHT TURNSTILE;DOES NOT PROVE;NOT TRUE;DOES NOT FORCE",
  "22AF |NEGATED DOUBLE VERTICAL BAR DOUBLE RIGHT TURNSTILE;PRECEDES UNDER RELATION",
  "22B1 |SUCCEEDS UNDER RELATION;NORMAL SUBGROUP OF;CONTAINS AS NORMAL SUBGROUP",
  "22B4 |NORMAL SUBGROUP OF OR EQUAL TO;CONTAINS AS NORMAL SUBGROUP OR EQUAL TO",
  "22B6 |ORIGINAL OF;IMAGE OF;MULTIMAP;HERMITIAN CONJUGATE MATRIX;INTERCALATE;XOR;NAND;NOR",
  "22BE RIGHT |ANGLE WITH ARC;TRIANGLE",
  "22C0 N-ARY |LOGICAL AND;LOGICAL OR;INTERSECTION;UNION",
  "22C4 |DIAMOND OPERATOR;DOT OPERATOR;STAR OPERATOR;DIVISION TIMES",
  "22C8 |BOWTIE;LEFT NORMAL FACTOR SEMIDIRECT PRODUCT;RIGHT NORMAL FACTOR SEMIDIRECT PRODUCT",
  "22CB |LEFT SEMIDIRECT PRODUCT;RIGHT SEMIDIRECT PRODUCT;REVERSED TILDE EQUALS",
  "22CE CURLY LOGICAL |OR;AND",
  "22D0 DOUBLE |SUBSET;SUPERSET;INTERSECTION;UNION",
  "22D4 |PITCHFORK;EQUAL AND PARALLEL TO;LESS-THAN WITH DOT;GREATER-THAN WITH DOT",
  "22D8 VERY MUCH |LESS-THAN;GREATER-THAN",
  "22DA |LESS-THAN EQUAL TO OR GREATER-THAN;GREATER-THAN EQUAL TO OR LESS-THAN",
  "22DC EQUAL TO OR |LESS-THAN;GREATER-THAN;PRECEDES;SUCCEEDS",
  "22E0 DOES NOT |PRECEDE OR EQUAL;SUCCEED OR EQUAL",
  "22E2 NOT SQUARE |IMAGE OF OR EQUAL TO;ORIGINAL OF OR EQUAL TO",
  "22E4 SQUARE |IMAGE OF OR NOT EQUAL TO;ORIGINAL OF OR NOT EQUAL TO",
  "22E6 |LESS-THAN BUT NOT EQUIVALENT TO;GREATER-THAN BUT NOT EQUIVALENT TO",
  "22E8 |PRECEDES BUT NOT EQUIVALENT TO;SUCCEEDS BUT NOT EQUIVALENT TO;NOT NORMAL SUBGROUP OF",
  "22EB |DOES NOT CONTAIN AS NORMAL SUBGROUP;NOT NORMAL SUBGROUP OF OR EQUAL TO",
  "22ED |DOES NOT CONTAIN AS NORMAL SUBGROUP OR EQUAL;VERTICAL ELLIPSIS",
  "22EF |MIDLINE HORIZONTAL ELLIPSIS;UP RIGHT DIAGONAL ELLIPSIS;DOWN RIGHT DIAGONAL ELLIPSIS",
  "22F2 ELEMENT OF WITH |LONG HORIZONTAL STROKE;VERTICAL BAR AT END OF HORIZONTAL STROKE",
  "22F4 SMALL ELEMENT OF WITH VERTICAL BAR AT END OF HORIZONTAL |STROKE",
  "22F5 ELEMENT OF WITH |DOT ABOVE;OVERBAR",
  "22F7 SMALL ELEMENT OF WITH |OVERBAR",
  "22F8 ELEMENT OF WITH |UNDERBAR;TWO HORIZONTAL STROKES",
  "22FA CONTAINS WITH |LONG HORIZONTAL STROKE;VERTICAL BAR AT END OF HORIZONTAL STROKE",
  "22FC SMALL CONTAINS WITH VERTICAL BAR AT END OF HORIZONTAL |STROKE",
  "22FD |CONTAINS WITH OVERBAR;SMALL CONTAINS WITH OVERBAR",
  "22FF |Z NOTATION BAG MEMBERSHIP;DIAMETER SIGN;ELECTRIC ARROW;HOUSE;UP ARROWHEAD;DOWN ARROWHEAD",
  "2305 |PROJECTIVE;PERSPECTIVE;WAVY LINE;LEFT CEILING;RIGHT CEILING;LEFT FLOOR;RIGHT FLOOR",
  "230C |BOTTOM RIGHT CROP;BOTTOM LEFT CROP;TOP RIGHT CROP;TOP LEFT CROP;REVERSED NOT SIGN",
  "2311 |SQUARE LOZENGE;ARC;SEGMENT;SECTOR;TELEPHONE RECORDER;POSITION INDICATOR;VIEWDATA SQUARE",
  "2318 |PLACE OF INTEREST SIGN;TURNED NOT SIGN;WATCH;HOURGLASS;TOP LEFT CORNER;TOP RIGHT CORNER",
  "231E |BOTTOM LEFT CORNER;BOTTOM RIGHT CORNER;TOP HALF INTEGRAL;BOTTOM HALF INTEGRAL",
  "2322 |FROWN;SMILE;UP ARROWHEAD BETWEEN TWO HORIZONTAL BARS;OPTION KEY;ERASE TO THE RIGHT",
  "2327 |X IN A RECTANGLE BOX;KEYBOARD;LEFT-POINTING ANGLE BRACKET;RIGHT-POINTING ANGLE BRACKET",
  "232B |ERASE TO THE LEFT;BENZENE RING;CYLINDRICITY;ALL AROUND-PROFILE",
  "232F |SYMMETRY;TOTAL RUNOUT;DIMENSION ORIGIN;CONICAL TAPER;SLOPE;COUNTERBORE;COUNTERSINK",
  "2336 APL FUNCTIONAL SYMBOL |I-BEAM;SQUISH QUAD",
  "2338 APL FUNCTIONAL SYMBOL QUAD |EQUAL;DIVIDE;DIAMOND;JOT;CIRCLE",
  "233D APL FUNCTIONAL SYMBOL |CIRCLE STILE;CIRCLE JOT;SLASH BAR;BACKSLASH BAR;QUAD SLASH",
  "2342 APL FUNCTIONAL SYMBOL |QUAD BACKSLASH;QUAD LESS-THAN;QUAD GREATER-THAN;LEFTWARDS VANE",
  "2346 APL FUNCTIONAL SYMBOL |RIGHTWARDS VANE;QUAD LEFTWARDS ARROW;QUAD RIGHTWARDS ARROW",
  "2349 APL FUNCTIONAL SYMBOL |CIRCLE BACKSLASH;DOWN TACK UNDERBAR;DELTA STILE;QUAD DOWN CARET",
  "234D APL FUNCTIONAL SYMBOL |QUAD DELTA;DOWN TACK JOT;UPWARDS VANE;QUAD UPWARDS ARROW",
  "2351 APL FUNCTIONAL SYMBOL |UP TACK OVERBAR;DEL STILE;QUAD UP CARET;QUAD DEL;UP TACK JOT",
  "2356 APL FUNCTIONAL SYMBOL |DOWNWARDS VANE;QUAD DOWNWARDS ARROW;QUOTE UNDERBAR;DELTA UNDERBAR",
  "235A APL FUNCTIONAL SYMBOL |DIAMOND UNDERBAR;JOT UNDERBAR;CIRCLE UNDERBAR;UP SHOE JOT",
  "235E APL FUNCTIONAL SYMBOL |QUOTE QUAD;CIRCLE STAR;QUAD COLON;UP TACK DIAERESIS;DEL DIAERESIS",
  "2363 APL FUNCTIONAL SYMBOL |STAR DIAERESIS;JOT DIAERESIS;CIRCLE DIAERESIS;DOWN SHOE STILE",
  "2367 APL FUNCTIONAL SYMBOL |LEFT SHOE STILE;TILDE DIAERESIS;GREATER-THAN DIAERESIS;COMMA BAR",
  "236B APL FUNCTIONAL SYMBOL |DEL TILDE;ZILDE;STILE TILDE;SEMICOLON UNDERBAR;QUAD NOT EQUAL",
  "2370 APL FUNCTIONAL SYMBOL |QUAD QUESTION;DOWN CARET TILDE;UP CARET TILDE;IOTA;RHO;OMEGA",
  "2376 APL FUNCTIONAL SYMBOL |ALPHA UNDERBAR;EPSILON UNDERBAR;IOTA UNDERBAR;OMEGA UNDERBAR;ALPHA",
  "237B |NOT CHECK MARK;RIGHT ANGLE WITH DOWNWARDS ZIGZAG ARROW;SHOULDERED OPEN BOX",
  "237E |BELL SYMBOL;VERTICAL LINE WITH MIDDLE DOT;INSERTION SYMBOL;CONTINUOUS UNDERLINE SYMBOL",
  "2382 |DISCONTINUOUS UNDERLINE SYMBOL;EMPHASIS SYMBOL;COMPOSITION SYMBOL",
  "2385 |WHITE SQUARE WITH CENTRE VERTICAL LINE;ENTER SYMBOL;ALTERNATIVE KEY SYMBOL;HELM SYMBOL",
  "2389 CIRCLED |HORIZONTAL BAR WITH NOTCH;TRIANGLE DOWN",
  "238B |BROKEN CIRCLE WITH NORTHWEST ARROW;UNDO SYMBOL;MONOSTABLE SYMBOL;HYSTERESIS SYMBOL",
  "238F OPEN-CIRCUIT-OUTPUT |H-TYPE SYMBOL;L-TYPE SYMBOL",
  "2391 PASSIVE-PULL-|DOWN-OUTPUT SYMBOL;UP-OUTPUT SYMBOL",
  "2393 DIRECT CURRENT SYMBOL FORM |TWO",
  "2394 |SOFTWARE-FUNCTION SYMBOL;APL FUNCTIONAL SYMBOL QUAD;DECIMAL SEPARATOR KEY SYMBOL",
  "2397 |PREVIOUS PAGE;NEXT PAGE;PRINT SCREEN SYMBOL;CLEAR SCREEN SYMBOL",
  "239B LEFT PARENTHESIS |UPPER HOOK;EXTENSION;LOWER HOOK",
  "239E RIGHT PARENTHESIS |UPPER HOOK;EXTENSION;LOWER HOOK",
  "23A1 LEFT SQUARE BRACKET |UPPER CORNER;EXTENSION;LOWER CORNER",
  "23A4 RIGHT SQUARE BRACKET |UPPER CORNER;EXTENSION;LOWER CORNER",
  "23A7 LEFT CURLY BRACKET |UPPER HOOK;MIDDLE PIECE;LOWER HOOK",
  "23AA CURLY BRACKET |EXTENSION",
  "23AB RIGHT CURLY BRACKET |UPPER HOOK;MIDDLE PIECE;LOWER HOOK",
  "23AE INTEGRAL |EXTENSION",
  "23AF |HORIZONTAL LINE EXTENSION;UPPER LEFT OR LOWER RIGHT CURLY BRACKET SECTION",
  "23B1 UPPER RIGHT OR LOWER LEFT CURLY BRACKET |SECTION",
  "23B2 |SUMMATION TOP;SUMMATION BOTTOM;TOP SQUARE BRACKET",
  "23B5 BOTTOM SQUARE |BRACKET;BRACKET OVER TOP SQUARE BRACKET",
  "23B7 |RADICAL SYMBOL BOTTOM;LEFT VERTICAL BOX LINE;RIGHT VERTICAL BOX LINE",
  "23BA HORIZONTAL SCAN LINE-|1;3;7;9",
  "23BE DENTISTRY SYMBOL LIGHT VERTICAL |AND TOP RIGHT;AND BOTTOM RIGHT;WITH CIRCLE",
  "23C1 DENTISTRY SYMBOL LIGHT DOWN AND HORIZONTAL WITH |CIRCLE",
  "23C2 DENTISTRY SYMBOL LIGHT |UP AND HORIZONTAL WITH CIRCLE;VERTICAL WITH TRIANGLE",
  "23C4 DENTISTRY SYMBOL LIGHT |DOWN AND HORIZONTAL WITH TRIANGLE;UP AND HORIZONTAL WITH TRIANGLE",
  "23C6 DENTISTRY SYMBOL LIGHT |VERTICAL AND WAVE;DOWN AND HORIZONTAL WITH WAVE",
  "23C8 DENTISTRY SYMBOL LIGHT |UP AND HORIZONTAL WITH WAVE;DOWN AND HORIZONTAL;UP AND HORIZONTAL",
  "23CB DENTISTRY SYMBOL LIGHT VERTICAL AND |TOP LEFT;BOTTOM LEFT",
  "23CD |SQUARE FOOT;RETURN SYMBOL;EJECT SYMBOL;VERTICAL LINE EXTENSION",
  "23D1 METRICAL |BREVE;LONG OVER SHORT;SHORT OVER LONG;LONG OVER TWO SHORTS",
  "23D5 METRICAL |TWO SHORTS OVER LONG;TWO SHORTS JOINED;TRISEME;TETRASEME;PENTASEME",
  "23DA |EARTH GROUND;FUSE;TOP PARENTHESIS;BOTTOM PARENTHESIS;TOP CURLY BRACKET",
  "23DF |BOTTOM CURLY BRACKET;TOP TORTOISE SHELL BRACKET;BOTTOM TORTOISE SHELL BRACKET",
  "23E2 |WHITE TRAPEZIUM;BENZENE RING WITH CIRCLE;STRAIGHTNESS;FLATNESS;AC CURRENT",
  "23E7 |ELECTRICAL INTERSECTION;DECIMAL EXPONENT SYMBOL;BLACK RIGHT-POINTING DOUBLE TRIANGLE",
  "23EA BLACK |LEFT-POINTING DOUBLE TRIANGLE;UP-POINTING DOUBLE TRIANGLE",
  "23EC BLACK |DOWN-POINTING DOUBLE TRIANGLE;RIGHT-POINTING DOUBLE TRIANGLE WITH VERTICAL BAR",
  "23EE BLACK LEFT-POINTING DOUBLE TRIANGLE WITH VERTICAL |BAR",
  "23EF |BLACK RIGHT-POINTING TRIANGLE WITH DOUBLE VERTICAL BAR;ALARM CLOCK",
  "23F1 |STOPWATCH;TIMER CLOCK;HOURGLASS WITH FLOWING SAND;BLACK MEDIUM LEFT-POINTING TRIANGLE",
  "23F5 BLACK MEDIUM |RIGHT-POINTING TRIANGLE;UP-POINTING TRIANGLE;DOWN-POINTING TRIANGLE",
  "23F8 |DOUBLE VERTICAL BAR;BLACK SQUARE FOR STOP;BLACK CIRCLE FOR RECORD",
  "23FB POWER |SYMBOL;ON-OFF SYMBOL;ON SYMBOL;SLEEP SYMBOL",
  "23FF |OBSERVER EYE SYMBOL;SYMBOL FOR NULL;SYMBOL FOR START OF HEADING",
  "2402 SYMBOL FOR |START OF TEXT;END OF TEXT;END OF TRANSMISSION;ENQUIRY;ACKNOWLEDGE",
  "2407 SYMBOL FOR |BELL;BACKSPACE;HORIZONTAL TABULATION;LINE FEED;VERTICAL TABULATION",
  "240C SYMBOL FOR |FORM FEED;CARRIAGE RETURN;SHIFT OUT;SHIFT IN;DATA LINK ESCAPE",
  "2411 SYMBOL FOR DEVICE CONTROL |ONE;TWO;THREE;FOUR",
  "2415 SYMBOL FOR |NEGATIVE ACKNOWLEDGE;SYNCHRONOUS IDLE",
  "2417 SYMBOL FOR |END OF TRANSMISSION BLOCK;CANCEL;END OF MEDIUM;SUBSTITUTE;ESCAPE",
  "241C SYMBOL FOR |FILE SEPARATOR;GROUP SEPARATOR;RECORD SEPARATOR;UNIT SEPARATOR;SPACE;DELETE",
  "2422 |BLANK SYMBOL;OPEN BOX",
  "2424 SYMBOL FOR |NEWLINE;DELETE FORM TWO;SUBSTITUTE FORM TWO",
  "2440 OCR |HOOK;CHAIR;FORK;INVERTED FORK;BELT BUCKLE;BOW TIE;BRANCH BANK IDENTIFICATION",
  "2447 OCR |AMOUNT OF CHECK;DASH;CUSTOMER ACCOUNT NUMBER;DOUBLE BACKSLASH",
  "2460 CIRCLED DIGIT |ONE;TWO;THREE;FOUR;FIVE;SIX;SEVEN;EIGHT;NINE",
  "2469 CIRCLED NUMBER |TEN;ELEVEN;TWELVE",
  "246C CIRCLED NUMBER |THIRTEEN;FOURTEEN;FIFTEEN;SIXTEEN;SEVENTEEN;EIGHTEEN;NINETEEN;TWENTY",
  "2474 PARENTHESIZED DIGIT |ONE;TWO;THREE;FOUR;FIVE;SIX;SEVEN;EIGHT;NINE",
  "247D PARENTHESIZED NUMBER |TEN;ELEVEN;TWELVE;THIRTEEN",
  "2481 PARENTHESIZED NUMBER |FOURTEEN;FIFTEEN;SIXTEEN;SEVENTEEN;EIGHTEEN;NINETEEN;TWENTY",
  "2488 DIGIT |ONE FULL STOP;TWO FULL STOP;THREE FULL STOP;FOUR FULL STOP",
  "248C DIGIT |FIVE FULL STOP;SIX FULL STOP;SEVEN FULL STOP;EIGHT FULL STOP;NINE FULL STOP",
  "2491 NUMBER |TEN FULL STOP;ELEVEN FULL STOP;TWELVE FULL STOP",
  "2494 NUMBER |THIRTEEN FULL STOP;FOURTEEN FULL STOP;FIFTEEN FULL STOP;SIXTEEN FULL STOP",
  "2498 NUMBER |SEVENTEEN FULL STOP;EIGHTEEN FULL STOP;NINETEEN FULL STOP;TWENTY FULL STOP",
  "249C PARENTHESIZED LATIN SMALL LETTER |A;B;C;D;E;F;G;H;I;J;K;L;M;N;O;P;Q;R;S;T;U;V;W;X;Y;Z",
  "24B6 CIRCLED LATIN CAPITAL LETTER |A;B;C;D;E;F;G;H;I;J;K;L;M;N;O;P;Q;R;S;T;U;V;W;X;Y;Z",
  "24D0 CIRCLED LATIN SMALL LETTER |A;B;C;D;E;F;G;H;I;J;K;L;M;N;O;P;Q;R;S;T;U;V;W;X;Y;Z",
  "24EA CIRCLED DIGIT |ZERO",
  "24EB NEGATIVE CIRCLED NUMBER |ELEVEN;TWELVE;THIRTEEN",
  "24EE NEGATIVE CIRCLED NUMBER |FOURTEEN;FIFTEEN;SIXTEEN;SEVENTEEN;EIGHTEEN;NINETEEN;TWENTY",
  "24F5 DOUBLE CIRCLED DIGIT |ONE;TWO;THREE;FOUR;FIVE;SIX;SEVEN;EIGHT;NINE",
  "24FE |DOUBLE CIRCLED NUMBER TEN;NEGATIVE CIRCLED DIGIT ZERO",
  "2500 BOX DRAWINGS |LIGHT HORIZONTAL;HEAVY HORIZONTAL;LIGHT VERTICAL",
  "2503 BOX DRAWINGS |HEAVY VERTICAL;LIGHT TRIPLE DASH HORIZONTAL;HEAVY TRIPLE DASH HORIZONTAL",
  "2506 BOX DRAWINGS |LIGHT TRIPLE DASH VERTICAL;HEAVY TRIPLE DASH VERTICAL",
  "2508 BOX DRAWINGS |LIGHT QUADRUPLE DASH HORIZONTAL;HEAVY QUADRUPLE DASH HORIZONTAL",
  "250A BOX DRAWINGS |LIGHT QUADRUPLE DASH VERTICAL;HEAVY QUADRUPLE DASH VERTICAL",
  "250C BOX DRAWINGS |LIGHT DOWN AND RIGHT;DOWN LIGHT AND RIGHT HEAVY;DOWN HEAVY AND RIGHT LIGHT",
  "250F BOX DRAWINGS |HEAVY DOWN AND RIGHT;LIGHT DOWN AND LEFT;DOWN LIGHT AND LEFT HEAVY",
  "2512 BOX DRAWINGS |DOWN HEAVY AND LEFT LIGHT;HEAVY DOWN AND LEFT;LIGHT UP AND RIGHT",
  "2515 BOX DRAWINGS |UP LIGHT AND RIGHT HEAVY;UP HEAVY AND RIGHT LIGHT;HEAVY UP AND RIGHT",
  "2518 BOX DRAWINGS |LIGHT UP AND LEFT;UP LIGHT AND LEFT HEAVY;UP HEAVY AND LEFT LIGHT",
  "251B BOX DRAWINGS |HEAVY UP AND LEFT;LIGHT VERTICAL AND RIGHT;VERTICAL LIGHT AND RIGHT HEAVY",
  "251E BOX DRAWINGS |UP HEAVY AND RIGHT DOWN LIGHT;DOWN HEAVY AND RIGHT UP LIGHT",
  "2520 BOX DRAWINGS |VERTICAL HEAVY AND RIGHT LIGHT;DOWN LIGHT AND RIGHT UP HEAVY",
  "2522 BOX DRAWINGS |UP LIGHT AND RIGHT DOWN HEAVY;HEAVY VERTICAL AND RIGHT",
  "2524 BOX DRAWINGS |LIGHT VERTICAL AND LEFT;VERTICAL LIGHT AND LEFT HEAVY",
  "2526 BOX DRAWINGS |UP HEAVY AND LEFT DOWN LIGHT;DOWN HEAVY AND LEFT UP LIGHT",
  "2528 BOX DRAWINGS |VERTICAL HEAVY AND LEFT LIGHT;DOWN LIGHT AND LEFT UP HEAVY",
  "252A BOX DRAWINGS |UP LIGHT AND LEFT DOWN HEAVY;HEAVY VERTICAL AND LEFT",
  "252C BOX DRAWINGS |LIGHT DOWN AND HORIZONTAL;LEFT HEAVY AND RIGHT DOWN LIGHT",
  "252E BOX DRAWINGS |RIGHT HEAVY AND LEFT DOWN LIGHT;DOWN LIGHT AND HORIZONTAL HEAVY",
  "2530 BOX DRAWINGS |DOWN HEAVY AND HORIZONTAL LIGHT;RIGHT LIGHT AND LEFT DOWN HEAVY",
  "2532 BOX DRAWINGS |LEFT LIGHT AND RIGHT DOWN HEAVY;HEAVY DOWN AND HORIZONTAL",
  "2534 BOX DRAWINGS |LIGHT UP AND HORIZONTAL;LEFT HEAVY AND RIGHT UP LIGHT",
  "2536 BOX DRAWINGS |RIGHT HEAVY AND LEFT UP LIGHT;UP LIGHT AND HORIZONTAL HEAVY",
  "2538 BOX DRAWINGS |UP HEAVY AND HORIZONTAL LIGHT;RIGHT LIGHT AND LEFT UP HEAVY",
  "253A BOX DRAWINGS |LEFT LIGHT AND RIGHT UP HEAVY;HEAVY UP AND HORIZONTAL",
  "253C BOX DRAWINGS |LIGHT VERTICAL AND HORIZONTAL;LEFT HEAVY AND RIGHT VERTICAL LIGHT",
  "253E BOX DRAWINGS |RIGHT HEAVY AND LEFT VERTICAL LIGHT;VERTICAL LIGHT AND HORIZONTAL HEAVY",
  "2540 BOX DRAWINGS |UP HEAVY AND DOWN HORIZONTAL LIGHT;DOWN HEAVY AND UP HORIZONTAL LIGHT",
  "2542 BOX DRAWINGS |VERTICAL HEAVY AND HORIZONTAL LIGHT;LEFT UP HEAVY AND RIGHT DOWN LIGHT",
  "2544 BOX DRAWINGS |RIGHT UP HEAVY AND LEFT DOWN LIGHT;LEFT DOWN HEAVY AND RIGHT UP LIGHT",
  "2546 BOX DRAWINGS |RIGHT DOWN HEAVY AND LEFT UP LIGHT;DOWN LIGHT AND UP HORIZONTAL HEAVY",
  "2548 BOX DRAWINGS |UP LIGHT AND DOWN HORIZONTAL HEAVY;RIGHT LIGHT AND LEFT VERTICAL HEAVY",
  "254A BOX DRAWINGS |LEFT LIGHT AND RIGHT VERTICAL HEAVY;HEAVY VERTICAL AND HORIZONTAL",
  "254C BOX DRAWINGS |LIGHT DOUBLE DASH HORIZONTAL;HEAVY DOUBLE DASH HORIZONTAL",
  "254E BOX DRAWINGS |LIGHT DOUBLE DASH VERTICAL;HEAVY DOUBLE DASH VERTICAL;DOUBLE HORIZONTAL",
  "2551 BOX DRAWINGS |DOUBLE VERTICAL;DOWN SINGLE AND RIGHT DOUBLE;DOWN DOUBLE AND RIGHT SINGLE",
  "2554 BOX DRAWINGS |DOUBLE DOWN AND RIGHT;DOWN SINGLE AND LEFT DOUBLE",
  "2556 BOX DRAWINGS |DOWN DOUBLE AND LEFT SINGLE;DOUBLE DOWN AND LEFT",
  "2558 BOX DRAWINGS |UP SINGLE AND RIGHT DOUBLE;UP DOUBLE AND RIGHT SINGLE;DOUBLE UP AND RIGHT",
  "255B BOX DRAWINGS |UP SINGLE AND LEFT DOUBLE;UP DOUBLE AND LEFT SINGLE;DOUBLE UP AND LEFT",
  "255E BOX DRAWINGS VERTICAL |SINGLE AND RIGHT DOUBLE;DOUBLE AND RIGHT SINGLE",
  "2560 BOX DRAWINGS |DOUBLE VERTICAL AND RIGHT;VERTICAL SINGLE AND LEFT DOUBLE",
  "2562 BOX DRAWINGS |VERTICAL DOUBLE AND LEFT SINGLE;DOUBLE VERTICAL AND LEFT",
  "2564 BOX DRAWINGS DOWN |SINGLE AND HORIZONTAL DOUBLE;DOUBLE AND HORIZONTAL SINGLE",
  "2566 BOX DRAWINGS |DOUBLE DOWN AND HORIZONTAL;UP SINGLE AND HORIZONTAL DOUBLE",
  "2568 BOX DRAWINGS |UP DOUBLE AND HORIZONTAL SINGLE;DOUBLE UP AND HORIZONTAL",
  "256A BOX DRAWINGS VERTICAL |SINGLE AND HORIZONTAL DOUBLE;DOUBLE AND HORIZONTAL SINGLE",
  "256C BOX DRAWINGS DOUBLE VERTICAL AND |HORIZONTAL",
  "256D BOX DRAWINGS LIGHT ARC |DOWN AND RIGHT;DOWN AND LEFT;UP AND LEFT;UP AND RIGHT",
  "2571 BOX DRAWINGS LIGHT DIAGONAL |UPPER RIGHT TO LOWER LEFT;UPPER LEFT TO LOWER RIGHT;CROSS",
  "2574 BOX DRAWINGS LIGHT |LEFT;UP;RIGHT;DOWN",
  "2578 BOX DRAWINGS HEAVY |LEFT;UP;RIGHT;DOWN",
  "257C BOX DRAWINGS LIGHT |LEFT AND HEAVY RIGHT;UP AND HEAVY DOWN",
  "257E BOX DRAWINGS HEAVY |LEFT AND LIGHT RIGHT;UP AND LIGHT DOWN",
  "2580 UPPER HALF |BLOCK",
  "2581 LOWER |ONE EIGHTH BLOCK;ONE QUARTER BLOCK;THREE EIGHTHS BLOCK;HALF BLOCK",
  "2585 |LOWER FIVE EIGHTHS BLOCK;LOWER THREE QUARTERS BLOCK;LOWER SEVEN EIGHTHS BLOCK;FULL BLOCK",
  "2589 LEFT |SEVEN EIGHTHS BLOCK;THREE QUARTERS BLOCK;FIVE EIGHTHS BLOCK;HALF BLOCK",
  "258D |LEFT THREE EIGHTHS BLOCK;LEFT ONE QUARTER BLOCK;LEFT ONE EIGHTH BLOCK;RIGHT HALF BLOCK",
  "2591 |LIGHT SHADE;MEDIUM SHADE;DARK SHADE;UPPER ONE EIGHTH BLOCK;RIGHT ONE EIGHTH BLOCK",
  "2596 QUADRANT |LOWER LEFT;LOWER RIGHT;UPPER LEFT",
  "2599 QUADRANT UPPER LEFT AND LOWER |LEFT AND LOWER RIGHT;RIGHT",
  "259B QUADRANT UPPER LEFT AND UPPER RIGHT AND LOWER |LEFT;RIGHT",
  "259D QUADRANT UPPER |RIGHT;RIGHT AND LOWER LEFT;RIGHT AND LOWER LEFT AND LOWER RIGHT",
  "25A0 |BLACK SQUARE;WHITE SQUARE",
  "25A2 WHITE SQUARE |WITH ROUNDED CORNERS;CONTAINING BLACK SMALL SQUARE",
  "25A4 SQUARE WITH |HORIZONTAL FILL;VERTICAL FILL;ORTHOGONAL CROSSHATCH FILL",
  "25A7 SQUARE WITH UPPER |LEFT TO LOWER RIGHT FILL;RIGHT TO LOWER LEFT FILL",
  "25A9 |SQUARE WITH DIAGONAL CROSSHATCH FILL;BLACK SMALL SQUARE",
  "25AB |WHITE SMALL SQUARE;BLACK RECTANGLE;WHITE RECTANGLE;BLACK VERTICAL RECTANGLE",
  "25AF |WHITE VERTICAL RECTANGLE;BLACK PARALLELOGRAM;WHITE PARALLELOGRAM",
  "25B2 |BLACK UP-POINTING TRIANGLE;WHITE UP-POINTING TRIANGLE;BLACK UP-POINTING SMALL TRIANGLE",
  "25B5 |WHITE UP-POINTING SMALL TRIANGLE;BLACK RIGHT-POINTING TRIANGLE",
  "25B7 |WHITE RIGHT-POINTING TRIANGLE;BLACK RIGHT-POINTING SMALL TRIANGLE",
  "25B9 |WHITE RIGHT-POINTING SMALL TRIANGLE;BLACK RIGHT-POINTING POINTER",
  "25BB |WHITE RIGHT-POINTING POINTER;BLACK DOWN-POINTING TRIANGLE;WHITE DOWN-POINTING TRIANGLE",
  "25BE |BLACK DOWN-POINTING SMALL TRIANGLE;WHITE DOWN-POINTING SMALL TRIANGLE",
  "25C0 |BLACK LEFT-POINTING TRIANGLE;WHITE LEFT-POINTING TRIANGLE",
  "25C2 |BLACK LEFT-POINTING SMALL TRIANGLE;WHITE LEFT-POINTING SMALL TRIANGLE",
  "25C4 |BLACK LEFT-POINTING POINTER;WHITE LEFT-POINTING POINTER",
  "25C6 |BLACK DIAMOND;WHITE DIAMOND;WHITE DIAMOND CONTAINING BLACK SMALL DIAMOND;FISHEYE",
  "25CA |LOZENGE;WHITE CIRCLE;DOTTED CIRCLE;CIRCLE WITH VERTICAL FILL;BULLSEYE;BLACK CIRCLE",
  "25D0 CIRCLE WITH |LEFT HALF BLACK;RIGHT HALF BLACK;LOWER HALF BLACK;UPPER HALF BLACK",
  "25D4 CIRCLE WITH |UPPER RIGHT QUADRANT BLACK;ALL BUT UPPER LEFT QUADRANT BLACK",
  "25D6 |LEFT HALF BLACK CIRCLE;RIGHT HALF BLACK CIRCLE;INVERSE BULLET",
  "25D9 |INVERSE WHITE CIRCLE;UPPER HALF INVERSE WHITE CIRCLE;LOWER HALF INVERSE WHITE CIRCLE",
  "25DC UPPER |LEFT QUADRANT CIRCULAR ARC;RIGHT QUADRANT CIRCULAR ARC",
  "25DE LOWER |RIGHT QUADRANT CIRCULAR ARC;LEFT QUADRANT CIRCULAR ARC",
  "25E0 |UPPER HALF CIRCLE;LOWER HALF CIRCLE",
  "25E2 BLACK |LOWER RIGHT TRIANGLE;LOWER LEFT TRIANGLE;UPPER LEFT TRIANGLE;UPPER RIGHT TRIANGLE",
  "25E6 |WHITE BULLET;SQUARE WITH LEFT HALF BLACK;SQUARE WITH RIGHT HALF BLACK",
  "25E9 SQUARE WITH |UPPER LEFT DIAGONAL HALF BLACK;LOWER RIGHT DIAGONAL HALF BLACK",
  "25EB WHITE |SQUARE WITH VERTICAL BISECTING LINE;UP-POINTING TRIANGLE WITH DOT",
  "25ED UP-POINTING TRIANGLE WITH |LEFT HALF BLACK;RIGHT HALF BLACK",
  "25EF |LARGE CIRCLE;WHITE SQUARE WITH UPPER LEFT QUADRANT",
  "25F1 WHITE SQUARE WITH |LOWER LEFT QUADRANT;LOWER RIGHT QUADRANT;UPPER RIGHT QUADRANT",
  "25F4 WHITE CIRCLE WITH |UPPER LEFT QUADRANT;LOWER LEFT QUADRANT;LOWER RIGHT QUADRANT",
  "25F7 |WHITE CIRCLE WITH UPPER RIGHT QUADRANT;UPPER LEFT TRIANGLE;UPPER RIGHT TRIANGLE",
  "25FA |LOWER LEFT TRIANGLE;WHITE MEDIUM SQUARE;BLACK MEDIUM SQUARE;WHITE MEDIUM SMALL SQUARE",
  "25FE |BLACK MEDIUM SMALL SQUARE;LOWER RIGHT TRIANGLE;BLACK SUN WITH RAYS;CLOUD",
  "2602 |UMBRELLA;SNOWMAN;COMET;BLACK STAR;WHITE STAR;LIGHTNING;THUNDERSTORM;SUN;ASCENDING NODE",
  "260B |DESCENDING NODE;CONJUNCTION;OPPOSITION;BLACK TELEPHONE;WHITE TELEPHONE;BALLOT BOX",
  "2611 BALLOT BOX WITH |CHECK;X",
  "2613 |SALTIRE;UMBRELLA WITH RAIN DROPS;HOT BEVERAGE",
  "2616 |WHITE SHOGI PIECE;BLACK SHOGI PIECE;SHAMROCK;REVERSED ROTATED FLORAL HEART BULLET",
  "261A BLACK |LEFT POINTING INDEX;RIGHT POINTING INDEX",
  "261C WHITE |LEFT POINTING INDEX;UP POINTING INDEX;RIGHT POINTING INDEX;DOWN POINTING INDEX",
  "2620 |SKULL AND CROSSBONES;CAUTION SIGN;RADIOACTIVE SIGN",
  "2623 |BIOHAZARD SIGN;CADUCEUS;ANKH;ORTHODOX CROSS;CHI RHO;CROSS OF LORRAINE;CROSS OF JERUSALEM",
  "262A |STAR AND CRESCENT;FARSI SYMBOL;ADI SHAKTI;HAMMER AND SICKLE;PEACE SYMBOL;YIN YANG",
  "2630 TRIGRAM FOR |HEAVEN;LAKE;FIRE;THUNDER;WIND;WATER;MOUNTAIN;EARTH",
  "2638 |WHEEL OF DHARMA;WHITE FROWNING FACE;WHITE SMILING FACE",
  "263B |BLACK SMILING FACE;WHITE SUN WITH RAYS;FIRST QUARTER MOON;LAST QUARTER MOON",
  "263F |MERCURY;FEMALE SIGN;EARTH;MALE SIGN;JUPITER;SATURN;URANUS;NEPTUNE;PLUTO;ARIES",
  "2649 |TAURUS;GEMINI;CANCER;LEO;VIRGO;LIBRA;SCORPIUS;SAGITTARIUS;CAPRICORN;AQUARIUS;PISCES",
  "2654 WHITE CHESS |KING;QUEEN;ROOK;BISHOP;KNIGHT;PAWN",
  "265A BLACK CHESS |KING;QUEEN;ROOK;BISHOP;KNIGHT;PAWN",
  "2660 |BLACK SPADE SUIT;WHITE HEART SUIT;WHITE DIAMOND SUIT;BLACK CLUB SUIT;WHITE SPADE SUIT",
  "2665 |BLACK HEART SUIT;BLACK DIAMOND SUIT;WHITE CLUB SUIT;HOT SPRINGS;QUARTER NOTE;EIGHTH NOTE",
  "266B BEAMED |EIGHTH NOTES;SIXTEENTH NOTES",
  "266D MUSIC |FLAT SIGN;NATURAL SIGN;SHARP SIGN",
  "2670 |WEST SYRIAC CROSS;EAST SYRIAC CROSS;UNIVERSAL RECYCLING SYMBOL",
  "2673 RECYCLING SYMBOL FOR TYPE-|1 PLASTICS;2 PLASTICS;3 PLASTICS;4 PLASTICS;5 PLASTICS",
  "2678 RECYCLING SYMBOL FOR |TYPE-6 PLASTICS;TYPE-7 PLASTICS;GENERIC MATERIALS",
  "267B |BLACK UNIVERSAL RECYCLING SYMBOL;RECYCLED PAPER SYMBOL",
  "267D |PARTIALLY-RECYCLED PAPER SYMBOL;PERMANENT PAPER SIGN;WHEELCHAIR SYMBOL",
  "2680 DIE FACE-|1;2;3;4;5;6",
  "2686 WHITE CIRCLE WITH |DOT RIGHT;TWO DOTS",
  "2688 BLACK CIRCLE WITH |WHITE DOT RIGHT;TWO WHITE DOTS",
  "268A MONOGRAM FOR |YANG;YIN",
  "268C DIGRAM FOR |GREATER YANG;LESSER YIN;LESSER YANG;GREATER YIN",
  "2690 |WHITE FLAG;BLACK FLAG;HAMMER AND PICK;ANCHOR;CROSSED SWORDS;STAFF OF AESCULAPIUS",
  "2696 |SCALES;ALEMBIC;FLOWER;GEAR;STAFF OF HERMES;ATOM SYMBOL;FLEUR-DE-LIS;OUTLINED WHITE STAR",
  "269E THREE LINES CONVERGING |RIGHT;LEFT",
  "26A0 |WARNING SIGN;HIGH VOLTAGE SIGN;DOUBLED FEMALE SIGN",
  "26A3 |DOUBLED MALE SIGN;INTERLOCKED FEMALE AND MALE SIGN;MALE AND FEMALE SIGN",
  "26A6 MALE WITH STROKE |SIGN;AND MALE AND FEMALE SIGN",
  "26A8 |VERTICAL MALE WITH STROKE SIGN;HORIZONTAL MALE WITH STROKE SIGN",
  "26AA MEDIUM |WHITE CIRCLE;BLACK CIRCLE;SMALL WHITE CIRCLE",
  "26AD |MARRIAGE SYMBOL;DIVORCE SYMBOL;UNMARRIED PARTNERSHIP SYMBOL",
  "26B0 |COFFIN;FUNERAL URN;NEUTER;CERES;PALLAS;JUNO;VESTA;CHIRON;BLACK MOON LILITH",
  "26B9 |SEXTILE;SEMISEXTILE;QUINCUNX;SESQUIQUADRATE;SOCCER BALL;BASEBALL;SQUARED KEY",
  "26C0 WHITE DRAUGHTS |MAN;KING",
  "26C2 BLACK DRAUGHTS |MAN;KING",
  "26C4 |SNOWMAN WITHOUT SNOW;SUN BEHIND CLOUD;RAIN;BLACK SNOWMAN;THUNDER CLOUD AND RAIN",
  "26C9 |TURNED WHITE SHOGI PIECE;TURNED BLACK SHOGI PIECE;WHITE DIAMOND IN SQUARE;CROSSING LANES",
  "26CD |DISABLED CAR;OPHIUCHUS;PICK;CAR SLIDING;HELMET WITH WHITE CROSS;CIRCLED CROSSING LANES",
  "26D3 |CHAINS;NO ENTRY;ALTERNATE ONE-WAY LEFT WAY TRAFFIC;BLACK TWO-WAY LEFT WAY TRAFFIC",
  "26D7 |WHITE TWO-WAY LEFT WAY TRAFFIC;BLACK LEFT LANE MERGE;WHITE LEFT LANE MERGE",
  "26DA |DRIVE SLOW SIGN;HEAVY WHITE DOWN-POINTING TRIANGLE;LEFT CLOSED ENTRY",
  "26DD |SQUARED SALTIRE;FALLING DIAGONAL IN WHITE CIRCLE IN BLACK SQUARE;BLACK TRUCK",
  "26E0 RESTRICTED LEFT ENTRY-|1;2",
  "26E2 ASTRONOMICAL SYMBOL FOR |URANUS",
  "26E3 |HEAVY CIRCLE WITH STROKE AND TWO DOTS ABOVE;PENTAGRAM;RIGHT-HANDED INTERLACED PENTAGRAM",
  "26E6 |LEFT-HANDED INTERLACED PENTAGRAM;INVERTED PENTAGRAM;BLACK CROSS ON SHIELD;SHINTO SHRINE",
  "26EA |CHURCH;CASTLE;HISTORIC SITE;GEAR WITHOUT HUB;GEAR WITH HANDLES;MAP SYMBOL FOR LIGHTHOUSE",
  "26F0 |MOUNTAIN;UMBRELLA ON GROUND;FOUNTAIN;FLAG IN HOLE;FERRY;SAILBOAT;SQUARE FOUR CORNERS",
  "26F7 |SKIER;ICE SKATE;PERSON WITH BALL;TENT;JAPANESE BANK SYMBOL;HEADSTONE GRAVEYARD SYMBOL",
  "26FD |FUEL PUMP;CUP ON BLACK SQUARE;WHITE FLAG WITH HORIZONTAL MIDDLE BLACK STRIPE",
  "2700 |BLACK SAFETY SCISSORS;UPPER BLADE SCISSORS;BLACK SCISSORS;LOWER BLADE SCISSORS",
  "2704 |WHITE SCISSORS;WHITE HEAVY CHECK MARK;TELEPHONE LOCATION SIGN;TAPE DRIVE;AIRPLANE",
  "2709 |ENVELOPE;RAISED FIST;RAISED HAND;VICTORY HAND;WRITING HAND;LOWER RIGHT PENCIL;PENCIL",
  "2710 |UPPER RIGHT PENCIL;WHITE NIB;BLACK NIB;CHECK MARK;HEAVY CHECK MARK;MULTIPLICATION X",
  "2716 |HEAVY MULTIPLICATION X;BALLOT X;HEAVY BALLOT X;OUTLINED GREEK CROSS;HEAVY GREEK CROSS",
  "271B |OPEN CENTRE CROSS;HEAVY OPEN CENTRE CROSS;LATIN CROSS;SHADOWED WHITE LATIN CROSS",
  "271F |OUTLINED LATIN CROSS;MALTESE CROSS;STAR OF DAVID;FOUR TEARDROP-SPOKED ASTERISK",
  "2723 |FOUR BALLOON-SPOKED ASTERISK;HEAVY FOUR BALLOON-SPOKED ASTERISK",
  "2725 |FOUR CLUB-SPOKED ASTERISK;BLACK FOUR POINTED STAR;WHITE FOUR POINTED STAR",
  "2728 |SPARKLES;STRESS OUTLINED WHITE STAR;CIRCLED WHITE STAR;OPEN CENTRE BLACK STAR",
  "272C |BLACK CENTRE WHITE STAR;OUTLINED BLACK STAR;HEAVY OUTLINED BLACK STAR;PINWHEEL STAR",
  "2730 |SHADOWED WHITE STAR;HEAVY ASTERISK;OPEN CENTRE ASTERISK;EIGHT SPOKED ASTERISK",
  "2734 EIGHT POINTED |BLACK STAR;PINWHEEL STAR",
  "2736 |SIX POINTED BLACK STAR;EIGHT POINTED RECTILINEAR BLACK STAR",
  "2738 |HEAVY EIGHT POINTED RECTILINEAR BLACK STAR;TWELVE POINTED BLACK STAR",
  "273A |SIXTEEN POINTED ASTERISK;TEARDROP-SPOKED ASTERISK;OPEN CENTRE TEARDROP-SPOKED ASTERISK",
  "273D |HEAVY TEARDROP-SPOKED ASTERISK;SIX PETALLED BLACK AND WHITE FLORETTE",
  "273F |BLACK FLORETTE;WHITE FLORETTE;EIGHT PETALLED OUTLINED BLACK FLORETTE",
  "2742 |CIRCLED OPEN CENTRE EIGHT POINTED STAR;HEAVY TEARDROP-SPOKED PINWHEEL ASTERISK",
  "2744 |SNOWFLAKE;TIGHT TRIFOLIATE SNOWFLAKE;HEAVY CHEVRON SNOWFLAKE",
  "2747 |SPARKLE;HEAVY SPARKLE;BALLOON-SPOKED ASTERISK;EIGHT TEARDROP-SPOKED PROPELLER ASTERISK",
  "274B |HEAVY EIGHT TEARDROP-SPOKED PROPELLER ASTERISK;CROSS MARK",
  "274D |SHADOWED WHITE CIRCLE;NEGATIVE SQUARED CROSS MARK;LOWER RIGHT DROP-SHADOWED WHITE SQUARE",
  "2750 |UPPER RIGHT DROP-SHADOWED WHITE SQUARE;LOWER RIGHT SHADOWED WHITE SQUARE",
  "2752 |UPPER RIGHT SHADOWED WHITE SQUARE;BLACK QUESTION MARK ORNAMENT",
  "2754 |WHITE QUESTION MARK ORNAMENT;WHITE EXCLAMATION MARK ORNAMENT;BLACK DIAMOND MINUS WHITE X",
  "2757 |HEAVY EXCLAMATION MARK SYMBOL;LIGHT VERTICAL BAR;MEDIUM VERTICAL BAR;HEAVY VERTICAL BAR",
  "275B HEAVY SINGLE |TURNED COMMA QUOTATION MARK ORNAMENT;COMMA QUOTATION MARK ORNAMENT",
  "275D HEAVY DOUBLE |TURNED COMMA QUOTATION MARK ORNAMENT;COMMA QUOTATION MARK ORNAMENT",
  "275F HEAVY LOW |SINGLE COMMA QUOTATION MARK ORNAMENT;DOUBLE COMMA QUOTATION MARK ORNAMENT",
  "2761 CURVED STEM PARAGRAPH SIGN |ORNAMENT",
  "2762 HEAVY |EXCLAMATION MARK ORNAMENT;HEART EXCLAMATION MARK ORNAMENT;BLACK HEART",
  "2765 |ROTATED HEAVY BLACK HEART BULLET;FLORAL HEART;ROTATED FLORAL HEART BULLET",
  "2768 MEDIUM |LEFT PARENTHESIS ORNAMENT;RIGHT PARENTHESIS ORNAMENT",
  "276A MEDIUM FLATTENED |LEFT PARENTHESIS ORNAMENT;RIGHT PARENTHESIS ORNAMENT",
  "276C MEDIUM |LEFT-POINTING ANGLE BRACKET ORNAMENT;RIGHT-POINTING ANGLE BRACKET ORNAMENT",
  "276E HEAVY LEFT-POINTING ANGLE QUOTATION MARK |ORNAMENT",
  "276F HEAVY RIGHT-POINTING ANGLE QUOTATION MARK |ORNAMENT",
  "2770 HEAVY |LEFT-POINTING ANGLE BRACKET ORNAMENT;RIGHT-POINTING ANGLE BRACKET ORNAMENT",
  "2772 LIGHT |LEFT TORTOISE SHELL BRACKET ORNAMENT;RIGHT TORTOISE SHELL BRACKET ORNAMENT",
  "2774 MEDIUM |LEFT CURLY BRACKET ORNAMENT;RIGHT CURLY BRACKET ORNAMENT",
  "2776 DINGBAT NEGATIVE CIRCLED DIGIT |ONE;TWO;THREE;FOUR;FIVE;SIX;SEVEN;EIGHT;NINE",
  "277F DINGBAT NEGATIVE CIRCLED NUMBER |TEN",
  "2780 DINGBAT CIRCLED SANS-SERIF DIGIT |ONE;TWO;THREE;FOUR;FIVE;SIX;SEVEN;EIGHT;NINE",
  "2789 DINGBAT CIRCLED SANS-SERIF NUMBER |TEN",
  "278A DINGBAT NEGATIVE CIRCLED SANS-SERIF DIGIT |ONE;TWO;THREE;FOUR;FIVE;SIX;SEVEN;EIGHT;NINE",
  "2793 DINGBAT NEGATIVE CIRCLED SANS-SERIF NUMBER |TEN",
  "2794 HEAVY |WIDE-HEADED RIGHTWARDS ARROW;PLUS SIGN;MINUS SIGN;DIVISION SIGN;SOUTH EAST ARROW",
  "2799 |HEAVY RIGHTWARDS ARROW;HEAVY NORTH EAST ARROW;DRAFTING POINT RIGHTWARDS ARROW",
  "279C |HEAVY ROUND-TIPPED RIGHTWARDS ARROW;TRIANGLE-HEADED RIGHTWARDS ARROW",
  "279E |HEAVY TRIANGLE-HEADED RIGHTWARDS ARROW;DASHED TRIANGLE-HEADED RIGHTWARDS ARROW",
  "27A0 |HEAVY DASHED TRIANGLE-HEADED RIGHTWARDS ARROW;BLACK RIGHTWARDS ARROW",
  "27A2 THREE-D |TOP-LIGHTED RIGHTWARDS ARROWHEAD;BOTTOM-LIGHTED RIGHTWARDS ARROWHEAD",
  "27A4 BLACK RIGHTWARDS |ARROWHEAD",
  "27A5 HEAVY BLACK CURVED |DOWNWARDS AND RIGHTWARDS ARROW;UPWARDS AND RIGHTWARDS ARROW",
  "27A7 |SQUAT BLACK RIGHTWARDS ARROW;HEAVY CONCAVE-POINTED BLACK RIGHTWARDS ARROW",
  "27A9 |RIGHT-SHADED WHITE RIGHTWARDS ARROW;LEFT-SHADED WHITE RIGHTWARDS ARROW",
  "27AB |BACK-TILTED SHADOWED WHITE RIGHTWARDS ARROW;FRONT-TILTED SHADOWED WHITE RIGHTWARDS ARROW",
  "27AD HEAVY LOWER RIGHT-SHADOWED WHITE RIGHTWARDS |ARROW",
  "27AE HEAVY UPPER RIGHT-SHADOWED WHITE RIGHTWARDS |ARROW",
  "27AF NOTCHED LOWER RIGHT-SHADOWED WHITE RIGHTWARDS |ARROW",
  "27B0 |CURLY LOOP;NOTCHED UPPER RIGHT-SHADOWED WHITE RIGHTWARDS ARROW",
  "27B2 |CIRCLED HEAVY WHITE RIGHTWARDS ARROW;WHITE-FEATHERED RIGHTWARDS ARROW",
  "27B4 BLACK-FEATHERED |SOUTH EAST ARROW;RIGHTWARDS ARROW;NORTH EAST ARROW",
  "27B7 HEAVY BLACK-FEATHERED |SOUTH EAST ARROW;RIGHTWARDS ARROW;NORTH EAST ARROW",
  "27BA TEARDROP-BARBED RIGHTWARDS |ARROW",
  "27BB |HEAVY TEARDROP-SHANKED RIGHTWARDS ARROW;WEDGE-TAILED RIGHTWARDS ARROW",
  "27BD |HEAVY WEDGE-TAILED RIGHTWARDS ARROW;OPEN-OUTLINED RIGHTWARDS ARROW",
  "27BF |DOUBLE CURLY LOOP;THREE DIMENSIONAL ANGLE;WHITE TRIANGLE CONTAINING SMALL WHITE TRIANGLE",
  "27C2 |PERPENDICULAR;OPEN SUBSET;OPEN SUPERSET;LEFT S-SHAPED BAG DELIMITER",
  "27C6 |RIGHT S-SHAPED BAG DELIMITER;OR WITH DOT INSIDE;REVERSE SOLIDUS PRECEDING SUBSET",
  "27C9 |SUPERSET PRECEDING SOLIDUS;VERTICAL BAR WITH HORIZONTAL STROKE",
  "27CB |MATHEMATICAL RISING DIAGONAL;LONG DIVISION;MATHEMATICAL FALLING DIAGONAL",
  "27CE SQUARED LOGICAL |AND;OR",
  "27D0 |WHITE DIAMOND WITH CENTRED DOT;AND WITH DOT",
  "27D2 |ELEMENT OF OPENING UPWARDS;LOWER RIGHT CORNER WITH DOT;UPPER LEFT CORNER WITH DOT",
  "27D5 |LEFT OUTER JOIN;RIGHT OUTER JOIN;FULL OUTER JOIN;LARGE UP TACK;LARGE DOWN TACK",
  "27DA LEFT AND RIGHT |DOUBLE TURNSTILE;TACK",
  "27DC |LEFT MULTIMAP;LONG RIGHT TACK",
  "27DE |LONG LEFT TACK;UP TACK WITH CIRCLE ABOVE;LOZENGE DIVIDED BY HORIZONTAL RULE",
  "27E1 WHITE CONCAVE-SIDED |DIAMOND;DIAMOND WITH LEFTWARDS TICK;DIAMOND WITH RIGHTWARDS TICK",
  "27E4 WHITE SQUARE WITH |LEFTWARDS TICK;RIGHTWARDS TICK",
  "27E6 MATHEMATICAL |LEFT WHITE SQUARE BRACKET;RIGHT WHITE SQUARE BRACKET;LEFT ANGLE BRACKET",
  "27E9 MATHEMATICAL |RIGHT ANGLE BRACKET;LEFT DOUBLE ANGLE BRACKET;RIGHT DOUBLE ANGLE BRACKET",
  "27EC MATHEMATICAL |LEFT WHITE TORTOISE SHELL BRACKET;RIGHT WHITE TORTOISE SHELL BRACKET",
  "27EE MATHEMATICAL |LEFT FLATTENED PARENTHESIS;RIGHT FLATTENED PARENTHESIS",
  "27F0 |UPWARDS QUADRUPLE ARROW;DOWNWARDS QUADRUPLE ARROW;ANTICLOCKWISE GAPPED CIRCLE ARROW",
  "27F3 |CLOCKWISE GAPPED CIRCLE ARROW;RIGHT ARROW WITH CIRCLED PLUS",
  "27F5 LONG |LEFTWARDS ARROW;RIGHTWARDS ARROW;LEFT RIGHT ARROW",
  "27F8 LONG |LEFTWARDS DOUBLE ARROW;RIGHTWARDS DOUBLE ARROW;LEFT RIGHT DOUBLE ARROW",
  "27FB LONG |LEFTWARDS ARROW FROM BAR;RIGHTWARDS ARROW FROM BAR;LEFTWARDS DOUBLE ARROW FROM BAR",
  "27FE LONG RIGHTWARDS |DOUBLE ARROW FROM BAR;SQUIGGLE ARROW",
  "2800 BRAILLE PATTERN |BLANK",
  "2801 BRAILLE PATTERN DOTS-|1;2;12;3;13;23;123;4;14;24;124;34",
  "280D BRAILLE PATTERN DOTS-|134;234;1234;5;15;25;125;35;135;235;1235;45;145;245;1245;345;1345",
  "281E BRAILLE PATTERN DOTS-|2345;12345;6;16;26;126;36;136;236;1236;46;146;246;1246;346;1346",
  "282E BRAILLE PATTERN DOTS-|2346;12346;56;156;256;1256;356;1356;2356;12356;456;1456;2456;12456",
  "283C BRAILLE PATTERN DOTS-|3456;13456;23456;123456;7;17;27;127;37;137;237;1237;47;147;247",
  "284B BRAILLE PATTERN DOTS-|1247;347;1347;2347;12347;57;157;257;1257;357;1357;2357;12357;457",
  "2859 BRAILLE PATTERN DOTS-|1457;2457;12457;3457;13457;23457;123457;67;167;267;1267;367;1367",
  "2866 BRAILLE PATTERN DOTS-|2367;12367;467;1467;2467;12467;3467;13467;23467;123467;567;1567",
  "2872 BRAILLE PATTERN DOTS-|2567;12567;3567;13567;23567;123567;4567;14567;24567;124567;34567",
  "287D BRAILLE PATTERN DOTS-|134567;234567;1234567;8;18;28;128;38;138;238;1238;48;148;248;1248",
  "288C BRAILLE PATTERN DOTS-|348;1348;2348;12348;58;158;258;1258;358;1358;2358;12358;458;1458",
  "289A BRAILLE PATTERN DOTS-|2458;12458;3458;13458;23458;123458;68;168;268;1268;368;1368;2368",
  "28A7 BRAILLE PATTERN DOTS-|12368;468;1468;2468;12468;3468;13468;23468;123468;568;1568;2568",
  "28B3 BRAILLE PATTERN DOTS-|12568;3568;13568;23568;123568;4568;14568;24568;124568;34568;134568",
  "28BE BRAILLE PATTERN DOTS-|234568;1234568;78;178;278;1278;378;1378;2378;12378;478;1478;2478",
  "28CB BRAILLE PATTERN DOTS-|12478;3478;13478;23478;123478;578;1578;2578;12578;3578;13578;23578",
  "28D7 BRAILLE PATTERN DOTS-|123578;4578;14578;24578;124578;34578;134578;234578;1234578;678;1678",
  "28E2 BRAILLE PATTERN DOTS-|2678;12678;3678;13678;23678;123678;4678;14678;24678;124678;34678",
  "28ED BRAILLE PATTERN DOTS-|134678;234678;1234678;5678;15678;25678;125678;35678;135678;235678",
  "28F7 BRAILLE PATTERN DOTS-|1235678;45678;145678;245678;1245678;345678;1345678;2345678;12345678",
  "2900 RIGHTWARDS TWO-HEADED ARROW WITH |VERTICAL STROKE;DOUBLE VERTICAL STROKE",
  "2902 |LEFTWARDS DOUBLE ARROW WITH VERTICAL STROKE;RIGHTWARDS DOUBLE ARROW WITH VERTICAL STROKE",
  "2904 LEFT RIGHT DOUBLE ARROW WITH VERTICAL |STROKE",
  "2905 |RIGHTWARDS TWO-HEADED ARROW FROM BAR;LEFTWARDS DOUBLE ARROW FROM BAR",
  "2907 |RIGHTWARDS DOUBLE ARROW FROM BAR;DOWNWARDS ARROW WITH HORIZONTAL STROKE",
  "2909 |UPWARDS ARROW WITH HORIZONTAL STROKE;UPWARDS TRIPLE ARROW;DOWNWARDS TRIPLE ARROW",
  "290C |LEFTWARDS DOUBLE DASH ARROW;RIGHTWARDS DOUBLE DASH ARROW;LEFTWARDS TRIPLE DASH ARROW",
  "290F RIGHTWARDS |TRIPLE DASH ARROW;TWO-HEADED TRIPLE DASH ARROW;ARROW WITH DOTTED STEM",
  "2912 |UPWARDS ARROW TO BAR;DOWNWARDS ARROW TO BAR",
  "2914 RIGHTWARDS ARROW WITH TAIL WITH |VERTICAL STROKE;DOUBLE VERTICAL STROKE",
  "2916 RIGHTWARDS TWO-HEADED ARROW WITH |TAIL",
  "2917 RIGHTWARDS TWO-HEADED ARROW WITH TAIL WITH |VERTICAL STROKE;DOUBLE VERTICAL STROKE",
  "2919 |LEFTWARDS ARROW-TAIL;RIGHTWARDS ARROW-TAIL;LEFTWARDS DOUBLE ARROW-TAIL",
  "291C |RIGHTWARDS DOUBLE ARROW-TAIL;LEFTWARDS ARROW TO BLACK DIAMOND",
  "291E |RIGHTWARDS ARROW TO BLACK DIAMOND;LEFTWARDS ARROW FROM BAR TO BLACK DIAMOND",
  "2920 |RIGHTWARDS ARROW FROM BAR TO BLACK DIAMOND;NORTH WEST AND SOUTH EAST ARROW",
  "2922 NORTH |EAST AND SOUTH WEST ARROW;WEST ARROW WITH HOOK;EAST ARROW WITH HOOK",
  "2925 SOUTH |EAST ARROW WITH HOOK;WEST ARROW WITH HOOK",
  "2927 NORTH |WEST ARROW AND NORTH EAST ARROW;EAST ARROW AND SOUTH EAST ARROW",
  "2929 SOUTH |EAST ARROW AND SOUTH WEST ARROW;WEST ARROW AND NORTH WEST ARROW",
  "292B |RISING DIAGONAL CROSSING FALLING DIAGONAL;FALLING DIAGONAL CROSSING RISING DIAGONAL",
  "292D |SOUTH EAST ARROW CROSSING NORTH EAST ARROW;NORTH EAST ARROW CROSSING SOUTH EAST ARROW",
  "292F |FALLING DIAGONAL CROSSING NORTH EAST ARROW;RISING DIAGONAL CROSSING SOUTH EAST ARROW",
  "2931 NORTH |EAST ARROW CROSSING NORTH WEST ARROW;WEST ARROW CROSSING NORTH EAST ARROW",
  "2933 WAVE ARROW POINTING DIRECTLY |RIGHT",
  "2934 ARROW POINTING RIGHTWARDS THEN CURVING |UPWARDS;DOWNWARDS",
  "2936 ARROW POINTING DOWNWARDS THEN CURVING |LEFTWARDS;RIGHTWARDS",
  "2938 |RIGHT-SIDE ARC CLOCKWISE ARROW;LEFT-SIDE ARC ANTICLOCKWISE ARROW",
  "293A |TOP ARC ANTICLOCKWISE ARROW;BOTTOM ARC ANTICLOCKWISE ARROW",
  "293C TOP ARC |CLOCKWISE ARROW WITH MINUS;ANTICLOCKWISE ARROW WITH PLUS",
  "293E LOWER |RIGHT SEMICIRCULAR CLOCKWISE ARROW;LEFT SEMICIRCULAR ANTICLOCKWISE ARROW",
  "2940 ANTICLOCKWISE CLOSED CIRCLE |ARROW",
  "2941 |CLOCKWISE CLOSED CIRCLE ARROW;RIGHTWARDS ARROW ABOVE SHORT LEFTWARDS ARROW",
  "2943 LEFTWARDS ARROW ABOVE SHORT RIGHTWARDS |ARROW",
  "2944 |SHORT RIGHTWARDS ARROW ABOVE LEFTWARDS ARROW;RIGHTWARDS ARROW WITH PLUS BELOW",
  "2946 |LEFTWARDS ARROW WITH PLUS BELOW;RIGHTWARDS ARROW THROUGH X",
  "2948 |LEFT RIGHT ARROW THROUGH SMALL CIRCLE;UPWARDS TWO-HEADED ARROW FROM SMALL CIRCLE",
  "294A LEFT BARB |UP RIGHT BARB DOWN HARPOON;DOWN RIGHT BARB UP HARPOON",
  "294C UP BARB |RIGHT DOWN BARB LEFT HARPOON;LEFT DOWN BARB RIGHT HARPOON",
  "294E |LEFT BARB UP RIGHT BARB UP HARPOON;UP BARB RIGHT DOWN BARB RIGHT HARPOON",
  "2950 |LEFT BARB DOWN RIGHT BARB DOWN HARPOON;UP BARB LEFT DOWN BARB LEFT HARPOON",
  "2952 |LEFTWARDS HARPOON WITH BARB UP TO BAR;RIGHTWARDS HARPOON WITH BARB UP TO BAR",
  "2954 |UPWARDS HARPOON WITH BARB RIGHT TO BAR;DOWNWARDS HARPOON WITH BARB RIGHT TO BAR",
  "2956 |LEFTWARDS HARPOON WITH BARB DOWN TO BAR;RIGHTWARDS HARPOON WITH BARB DOWN TO BAR",
  "2958 |UPWARDS HARPOON WITH BARB LEFT TO BAR;DOWNWARDS HARPOON WITH BARB LEFT TO BAR",
  "295A |LEFTWARDS HARPOON WITH BARB UP FROM BAR;RIGHTWARDS HARPOON WITH BARB UP FROM BAR",
  "295C |UPWARDS HARPOON WITH BARB RIGHT FROM BAR;DOWNWARDS HARPOON WITH BARB RIGHT FROM BAR",
  "295E |LEFTWARDS HARPOON WITH BARB DOWN FROM BAR;RIGHTWARDS HARPOON WITH BARB DOWN FROM BAR",
  "2960 |UPWARDS HARPOON WITH BARB LEFT FROM BAR;DOWNWARDS HARPOON WITH BARB LEFT FROM BAR",
  "2962 LEFTWARDS HARPOON WITH BARB UP ABOVE LEFTWARDS HARPOON WITH BARB |DOWN",
  "2963 UPWARDS HARPOON WITH BARB LEFT BESIDE UPWARDS HARPOON WITH BARB |RIGHT",
  "2964 RIGHTWARDS HARPOON WITH BARB UP ABOVE RIGHTWARDS HARPOON WITH BARB |DOWN",
  "2965 DOWNWARDS HARPOON WITH BARB LEFT BESIDE DOWNWARDS HARPOON WITH BARB |RIGHT",
  "2966 LEFTWARDS HARPOON WITH BARB UP ABOVE RIGHTWARDS HARPOON WITH BARB |UP",
  "2967 LEFTWARDS HARPOON WITH BARB DOWN ABOVE RIGHTWARDS HARPOON WITH BARB |DOWN",
  "2968 RIGHTWARDS HARPOON WITH BARB UP ABOVE LEFTWARDS HARPOON WITH BARB |UP",
  "2969 RIGHTWARDS HARPOON WITH BARB DOWN ABOVE LEFTWARDS HARPOON WITH BARB |DOWN",
  "296A LEFTWARDS HARPOON WITH BARB |UP ABOVE LONG DASH;DOWN BELOW LONG DASH",
  "296C RIGHTWARDS HARPOON WITH BARB |UP ABOVE LONG DASH;DOWN BELOW LONG DASH",
  "296E UPWARDS HARPOON WITH BARB LEFT BESIDE DOWNWARDS HARPOON WITH BARB |RIGHT",
  "296F DOWNWARDS HARPOON WITH BARB LEFT BESIDE UPWARDS HARPOON WITH BARB |RIGHT",
  "2970 |RIGHT DOUBLE ARROW WITH ROUNDED HEAD;EQUALS SIGN ABOVE RIGHTWARDS ARROW",
  "2972 |TILDE OPERATOR ABOVE RIGHTWARDS ARROW;LEFTWARDS ARROW ABOVE TILDE OPERATOR",
  "2974 RIGHTWARDS ARROW ABOVE |TILDE OPERATOR;ALMOST EQUAL TO",
  "2976 |LESS-THAN ABOVE LEFTWARDS ARROW;LEFTWARDS ARROW THROUGH LESS-THAN",
  "2978 |GREATER-THAN ABOVE RIGHTWARDS ARROW;SUBSET ABOVE RIGHTWARDS ARROW",
  "297A |LEFTWARDS ARROW THROUGH SUBSET;SUPERSET ABOVE LEFTWARDS ARROW",
  "297C |LEFT FISH TAIL;RIGHT FISH TAIL;UP FISH TAIL;DOWN FISH TAIL;TRIPLE VERTICAL BAR DELIMITER",
  "2981 |Z NOTATION SPOT;Z NOTATION TYPE COLON;LEFT WHITE CURLY BRACKET",
  "2984 |RIGHT WHITE CURLY BRACKET;LEFT WHITE PARENTHESIS;RIGHT WHITE PARENTHESIS",
  "2987 Z NOTATION |LEFT IMAGE BRACKET;RIGHT IMAGE BRACKET;LEFT BINDING BRACKET",
  "298A |Z NOTATION RIGHT BINDING BRACKET;LEFT SQUARE BRACKET WITH UNDERBAR",
  "298C |RIGHT SQUARE BRACKET WITH UNDERBAR;LEFT SQUARE BRACKET WITH TICK IN TOP CORNER",
  "298E RIGHT SQUARE BRACKET WITH TICK IN BOTTOM |CORNER",
  "298F LEFT SQUARE BRACKET WITH TICK IN BOTTOM |CORNER",
  "2990 |RIGHT SQUARE BRACKET WITH TICK IN TOP CORNER;LEFT ANGLE BRACKET WITH DOT",
  "2992 |RIGHT ANGLE BRACKET WITH DOT;LEFT ARC LESS-THAN BRACKET;RIGHT ARC GREATER-THAN BRACKET",
  "2995 DOUBLE |LEFT ARC GREATER-THAN BRACKET;RIGHT ARC LESS-THAN BRACKET",
  "2997 |LEFT BLACK TORTOISE SHELL BRACKET;RIGHT BLACK TORTOISE SHELL BRACKET;DOTTED FENCE",
  "299A |VERTICAL ZIGZAG LINE;MEASURED ANGLE OPENING LEFT;RIGHT ANGLE VARIANT WITH SQUARE",
  "299D |MEASURED RIGHT ANGLE WITH DOT;ANGLE WITH S INSIDE;ACUTE ANGLE",
  "29A0 SPHERICAL ANGLE OPENING |LEFT;UP",
  "29A2 |TURNED ANGLE;REVERSED ANGLE;ANGLE WITH UNDERBAR;REVERSED ANGLE WITH UNDERBAR",
  "29A6 OBLIQUE ANGLE OPENING |UP;DOWN",
  "29A8 MEASURED ANGLE WITH OPEN ARM ENDING IN ARROW POINTING UP AND |RIGHT;LEFT",
  "29AA MEASURED ANGLE WITH OPEN ARM ENDING IN ARROW POINTING DOWN AND |RIGHT;LEFT",
  "29AC MEASURED ANGLE WITH OPEN ARM ENDING IN ARROW POINTING |RIGHT AND UP;LEFT AND UP",
  "29AE MEASURED ANGLE WITH OPEN ARM ENDING IN ARROW POINTING |RIGHT AND DOWN;LEFT AND DOWN",
  "29B0 REVERSED EMPTY |SET",
  "29B1 EMPTY SET WITH |OVERBAR;SMALL CIRCLE ABOVE;RIGHT ARROW ABOVE;LEFT ARROW ABOVE",
  "29B5 CIRCLE WITH HORIZONTAL |BAR",
  "29B6 CIRCLED |VERTICAL BAR;PARALLEL;REVERSE SOLIDUS;PERPENDICULAR",
  "29BA CIRCLE DIVIDED BY HORIZONTAL BAR AND TOP HALF DIVIDED BY VERTICAL |BAR",
  "29BB CIRCLE WITH SUPERIMPOSED |X",
  "29BC |CIRCLED ANTICLOCKWISE-ROTATED DIVISION SIGN;UP ARROW THROUGH CIRCLE",
  "29BE CIRCLED |WHITE BULLET;BULLET;LESS-THAN;GREATER-THAN",
  "29C2 CIRCLE WITH |SMALL CIRCLE TO THE RIGHT;TWO HORIZONTAL STROKES TO THE RIGHT",
  "29C4 SQUARED |RISING DIAGONAL SLASH;FALLING DIAGONAL SLASH;ASTERISK;SMALL CIRCLE;SQUARE",
  "29C9 TWO JOINED |SQUARES",
  "29CA TRIANGLE WITH |DOT ABOVE;UNDERBAR",
  "29CC |S IN TRIANGLE;TRIANGLE WITH SERIFS AT BOTTOM;RIGHT TRIANGLE ABOVE LEFT TRIANGLE",
  "29CF |LEFT TRIANGLE BESIDE VERTICAL BAR;VERTICAL BAR BESIDE RIGHT TRIANGLE",
  "29D1 |BOWTIE WITH LEFT HALF BLACK;BOWTIE WITH RIGHT HALF BLACK;BLACK BOWTIE",
  "29D4 |TIMES WITH LEFT HALF BLACK;TIMES WITH RIGHT HALF BLACK;WHITE HOURGLASS;BLACK HOURGLASS",
  "29D8 |LEFT WIGGLY FENCE;RIGHT WIGGLY FENCE;LEFT DOUBLE WIGGLY FENCE;RIGHT DOUBLE WIGGLY FENCE",
  "29DC |INCOMPLETE INFINITY;TIE OVER INFINITY;INFINITY NEGATED WITH VERTICAL BAR",
  "29DF |DOUBLE-ENDED MULTIMAP;SQUARE WITH CONTOURED OUTLINE;INCREASES AS;SHUFFLE PRODUCT",
  "29E3 EQUALS SIGN AND SLANTED |PARALLEL;PARALLEL WITH TILDE ABOVE",
  "29E5 |IDENTICAL TO AND SLANTED PARALLEL;GLEICH STARK;THERMODYNAMIC",
  "29E8 DOWN-POINTING TRIANGLE WITH |LEFT HALF BLACK;RIGHT HALF BLACK",
  "29EA BLACK |DIAMOND WITH DOWN ARROW;LOZENGE",
  "29EC |WHITE CIRCLE WITH DOWN ARROW;BLACK CIRCLE WITH DOWN ARROW",
  "29EE ERROR-BARRED |WHITE SQUARE;BLACK SQUARE;WHITE DIAMOND;BLACK DIAMOND;WHITE CIRCLE",
  "29F3 |ERROR-BARRED BLACK CIRCLE;RULE-DELAYED",
  "29F5 |REVERSE SOLIDUS OPERATOR;SOLIDUS WITH OVERBAR;REVERSE SOLIDUS WITH HORIZONTAL STROKE",
  "29F8 |BIG SOLIDUS;BIG REVERSE SOLIDUS;DOUBLE PLUS;TRIPLE PLUS",
  "29FC |LEFT-POINTING CURVED ANGLE BRACKET;RIGHT-POINTING CURVED ANGLE BRACKET;TINY;MINY",
  "2A00 N-ARY CIRCLED |DOT OPERATOR;PLUS OPERATOR;TIMES OPERATOR",
  "2A03 N-ARY UNION OPERATOR WITH |DOT;PLUS",
  "2A05 N-ARY SQUARE |INTERSECTION OPERATOR;UNION OPERATOR",
  "2A07 TWO LOGICAL |AND OPERATOR;OR OPERATOR",
  "2A09 |N-ARY TIMES OPERATOR;MODULO TWO SUM;SUMMATION WITH INTEGRAL",
  "2A0C |QUADRUPLE INTEGRAL OPERATOR;FINITE PART INTEGRAL;INTEGRAL WITH DOUBLE STROKE",
  "2A0F |INTEGRAL AVERAGE WITH SLASH;CIRCULATION FUNCTION;ANTICLOCKWISE INTEGRATION",
  "2A12 LINE INTEGRATION WITH |RECTANGULAR PATH AROUND POLE;SEMICIRCULAR PATH AROUND POLE",
  "2A14 LINE INTEGRATION NOT INCLUDING THE |POLE",
  "2A15 |INTEGRAL AROUND A POINT OPERATOR;QUATERNION INTEGRAL OPERATOR",
  "2A17 INTEGRAL WITH |LEFTWARDS ARROW WITH HOOK;TIMES SIGN;INTERSECTION;UNION;OVERBAR;UNDERBAR",
  "2A1D |JOIN;LARGE LEFT TRIANGLE OPERATOR",
  "2A1F Z NOTATION SCHEMA |COMPOSITION;PIPING;PROJECTION",
  "2A22 PLUS SIGN WITH |SMALL CIRCLE ABOVE;CIRCUMFLEX ACCENT ABOVE",
  "2A24 PLUS SIGN WITH |TILDE ABOVE;DOT BELOW;TILDE BELOW;SUBSCRIPT TWO;BLACK TRIANGLE",
  "2A29 MINUS SIGN WITH |COMMA ABOVE;DOT BELOW;FALLING DOTS;RISING DOTS",
  "2A2D PLUS SIGN IN |LEFT HALF CIRCLE;RIGHT HALF CIRCLE",
  "2A2F VECTOR OR CROSS |PRODUCT",
  "2A30 MULTIPLICATION SIGN WITH |DOT ABOVE;UNDERBAR",
  "2A32 |SEMIDIRECT PRODUCT WITH BOTTOM CLOSED;SMASH PRODUCT",
  "2A34 MULTIPLICATION SIGN IN |LEFT HALF CIRCLE;RIGHT HALF CIRCLE",
  "2A36 |CIRCLED MULTIPLICATION SIGN WITH CIRCUMFLEX ACCENT;MULTIPLICATION SIGN IN DOUBLE CIRCLE",
  "2A38 |CIRCLED DIVISION SIGN;PLUS SIGN IN TRIANGLE;MINUS SIGN IN TRIANGLE",
  "2A3B |MULTIPLICATION SIGN IN TRIANGLE;INTERIOR PRODUCT;RIGHTHAND INTERIOR PRODUCT",
  "2A3E |Z NOTATION RELATIONAL COMPOSITION;AMALGAMATION OR COPRODUCT;INTERSECTION WITH DOT",
  "2A41 UNION WITH |MINUS SIGN;OVERBAR",
  "2A43 INTERSECTION WITH |OVERBAR;LOGICAL AND",
  "2A45 |UNION WITH LOGICAL OR;UNION ABOVE INTERSECTION;INTERSECTION ABOVE UNION",
  "2A48 |UNION ABOVE BAR ABOVE INTERSECTION;INTERSECTION ABOVE BAR ABOVE UNION",
  "2A4A |UNION BESIDE AND JOINED WITH UNION;INTERSECTION BESIDE AND JOINED WITH INTERSECTION",
  "2A4C CLOSED |UNION WITH SERIFS;INTERSECTION WITH SERIFS",
  "2A4E DOUBLE SQUARE |INTERSECTION;UNION",
  "2A50 CLOSED UNION WITH SERIFS AND SMASH |PRODUCT",
  "2A51 LOGICAL |AND WITH DOT ABOVE;OR WITH DOT ABOVE",
  "2A53 DOUBLE LOGICAL |AND;OR",
  "2A55 TWO INTERSECTING LOGICAL |AND;OR",
  "2A57 SLOPING LARGE |OR;AND",
  "2A59 LOGICAL |OR OVERLAPPING LOGICAL AND;AND WITH MIDDLE STEM",
  "2A5B LOGICAL |OR WITH MIDDLE STEM;AND WITH HORIZONTAL DASH;OR WITH HORIZONTAL DASH",
  "2A5E LOGICAL AND WITH |DOUBLE OVERBAR;UNDERBAR;DOUBLE UNDERBAR",
  "2A61 SMALL VEE WITH |UNDERBAR",
  "2A62 LOGICAL OR WITH DOUBLE |OVERBAR;UNDERBAR",
  "2A64 Z NOTATION |DOMAIN ANTIRESTRICTION;RANGE ANTIRESTRICTION",
  "2A66 |EQUALS SIGN WITH DOT BELOW;IDENTICAL WITH DOT ABOVE",
  "2A68 TRIPLE HORIZONTAL BAR WITH |DOUBLE VERTICAL STROKE;TRIPLE VERTICAL STROKE",
  "2A6A TILDE OPERATOR WITH |DOT ABOVE;RISING DOTS",
  "2A6C SIMILAR MINUS |SIMILAR",
  "2A6D |CONGRUENT WITH DOT ABOVE;EQUALS WITH ASTERISK;ALMOST EQUAL TO WITH CIRCUMFLEX ACCENT",
  "2A70 |APPROXIMATELY EQUAL OR EQUAL TO;EQUALS SIGN ABOVE PLUS SIGN;PLUS SIGN ABOVE EQUALS SIGN",
  "2A73 |EQUALS SIGN ABOVE TILDE OPERATOR;DOUBLE COLON EQUAL;TWO CONSECUTIVE EQUALS SIGNS",
  "2A76 |THREE CONSECUTIVE EQUALS SIGNS;EQUALS SIGN WITH TWO DOTS ABOVE AND TWO DOTS BELOW",
  "2A78 |EQUIVALENT WITH FOUR DOTS ABOVE;LESS-THAN WITH CIRCLE INSIDE",
  "2A7A |GREATER-THAN WITH CIRCLE INSIDE;LESS-THAN WITH QUESTION MARK ABOVE",
  "2A7C |GREATER-THAN WITH QUESTION MARK ABOVE;LESS-THAN OR SLANTED EQUAL TO",
  "2A7E |GREATER-THAN OR SLANTED EQUAL TO;LESS-THAN OR SLANTED EQUAL TO WITH DOT INSIDE",
  "2A80 GREATER-THAN OR SLANTED EQUAL TO WITH DOT |INSIDE",
  "2A81 LESS-THAN OR SLANTED EQUAL TO WITH DOT |ABOVE",
  "2A82 GREATER-THAN OR SLANTED EQUAL TO WITH DOT |ABOVE",
  "2A83 LESS-THAN OR SLANTED EQUAL TO WITH DOT ABOVE |RIGHT",
  "2A84 |GREATER-THAN OR SLANTED EQUAL TO WITH DOT ABOVE LEFT;LESS-THAN OR APPROXIMATE",
  "2A86 |GREATER-THAN OR APPROXIMATE;LESS-THAN AND SINGLE-LINE NOT EQUAL TO",
  "2A88 |GREATER-THAN AND SINGLE-LINE NOT EQUAL TO;LESS-THAN AND NOT APPROXIMATE",
  "2A8A |GREATER-THAN AND NOT APPROXIMATE;LESS-THAN ABOVE DOUBLE-LINE EQUAL ABOVE GREATER-THAN",
  "2A8C GREATER-THAN ABOVE DOUBLE-LINE EQUAL ABOVE LESS-|THAN",
  "2A8D |LESS-THAN ABOVE SIMILAR OR EQUAL;GREATER-THAN ABOVE SIMILAR OR EQUAL",
  "2A8F |LESS-THAN ABOVE SIMILAR ABOVE GREATER-THAN;GREATER-THAN ABOVE SIMILAR ABOVE LESS-THAN",
  "2A91 LESS-THAN ABOVE GREATER-THAN ABOVE DOUBLE-LINE |EQUAL",
  "2A92 GREATER-THAN ABOVE LESS-THAN ABOVE DOUBLE-LINE |EQUAL",
  "2A93 LESS-THAN ABOVE SLANTED EQUAL ABOVE GREATER-THAN ABOVE SLANTED |EQUAL",
  "2A94 GREATER-THAN ABOVE SLANTED EQUAL ABOVE LESS-THAN ABOVE SLANTED |EQUAL",
  "2A95 SLANTED EQUAL TO OR LESS-|THAN",
  "2A96 SLANTED EQUAL TO OR |GREATER-THAN;LESS-THAN WITH DOT INSIDE;GREATER-THAN WITH DOT INSIDE",
  "2A99 DOUBLE-LINE EQUAL TO OR |LESS-THAN;GREATER-THAN",
  "2A9B DOUBLE-LINE SLANTED EQUAL TO OR |LESS-THAN;GREATER-THAN",
  "2A9D SIMILAR OR |LESS-THAN;GREATER-THAN",
  "2A9F SIMILAR ABOVE |LESS-THAN ABOVE EQUALS SIGN;GREATER-THAN ABOVE EQUALS SIGN",
  "2AA1 DOUBLE NESTED |LESS-THAN;GREATER-THAN;LESS-THAN WITH UNDERBAR",
  "2AA4 GREATER-THAN |OVERLAPPING LESS-THAN;BESIDE LESS-THAN",
  "2AA6 LESS-THAN CLOSED BY |CURVE",
  "2AA7 |GREATER-THAN CLOSED BY CURVE;LESS-THAN CLOSED BY CURVE ABOVE SLANTED EQUAL",
  "2AA9 |GREATER-THAN CLOSED BY CURVE ABOVE SLANTED EQUAL;SMALLER THAN;LARGER THAN",
  "2AAC |SMALLER THAN OR EQUAL TO;LARGER THAN OR EQUAL TO;EQUALS SIGN WITH BUMPY ABOVE",
  "2AAF |PRECEDES ABOVE SINGLE-LINE EQUALS SIGN;SUCCEEDS ABOVE SINGLE-LINE EQUALS SIGN",
  "2AB1 |PRECEDES ABOVE SINGLE-LINE NOT EQUAL TO;SUCCEEDS ABOVE SINGLE-LINE NOT EQUAL TO",
  "2AB3 |PRECEDES ABOVE EQUALS SIGN;SUCCEEDS ABOVE EQUALS SIGN",
  "2AB5 |PRECEDES ABOVE NOT EQUAL TO;SUCCEEDS ABOVE NOT EQUAL TO;PRECEDES ABOVE ALMOST EQUAL TO",
  "2AB8 |SUCCEEDS ABOVE ALMOST EQUAL TO;PRECEDES ABOVE NOT ALMOST EQUAL TO",
  "2ABA |SUCCEEDS ABOVE NOT ALMOST EQUAL TO;DOUBLE PRECEDES;DOUBLE SUCCEEDS;SUBSET WITH DOT",
  "2ABE |SUPERSET WITH DOT;SUBSET WITH PLUS SIGN BELOW;SUPERSET WITH PLUS SIGN BELOW",
  "2AC1 |SUBSET WITH MULTIPLICATION SIGN BELOW;SUPERSET WITH MULTIPLICATION SIGN BELOW",
  "2AC3 |SUBSET OF OR EQUAL TO WITH DOT ABOVE;SUPERSET OF OR EQUAL TO WITH DOT ABOVE",
  "2AC5 |SUBSET OF ABOVE EQUALS SIGN;SUPERSET OF ABOVE EQUALS SIGN",
  "2AC7 |SUBSET OF ABOVE TILDE OPERATOR;SUPERSET OF ABOVE TILDE OPERATOR",
  "2AC9 |SUBSET OF ABOVE ALMOST EQUAL TO;SUPERSET OF ABOVE ALMOST EQUAL TO",
  "2ACB |SUBSET OF ABOVE NOT EQUAL TO;SUPERSET OF ABOVE NOT EQUAL TO",
  "2ACD SQUARE |LEFT OPEN BOX OPERATOR;RIGHT OPEN BOX OPERATOR",
  "2ACF CLOSED |SUBSET;SUPERSET;SUBSET OR EQUAL TO;SUPERSET OR EQUAL TO",
  "2AD3 |SUBSET ABOVE SUPERSET;SUPERSET ABOVE SUBSET;SUBSET ABOVE SUBSET",
  "2AD6 SUPERSET |ABOVE SUPERSET;BESIDE SUBSET;BESIDE AND JOINED BY DASH WITH SUBSET",
  "2AD9 |ELEMENT OF OPENING DOWNWARDS;PITCHFORK WITH TEE TOP;TRANSVERSAL INTERSECTION",
  "2ADC |FORKING;NONFORKING;SHORT LEFT TACK;SHORT DOWN TACK;SHORT UP TACK;PERPENDICULAR WITH S",
  "2AE2 |VERTICAL BAR TRIPLE RIGHT TURNSTILE;DOUBLE VERTICAL BAR LEFT TURNSTILE",
  "2AE4 |VERTICAL BAR DOUBLE LEFT TURNSTILE;DOUBLE VERTICAL BAR DOUBLE LEFT TURNSTILE",
  "2AE6 |LONG DASH FROM LEFT MEMBER OF DOUBLE VERTICAL;SHORT DOWN TACK WITH OVERBAR",
  "2AE8 SHORT UP TACK |WITH UNDERBAR;ABOVE SHORT DOWN TACK",
  "2AEA DOUBLE |DOWN TACK;UP TACK;STROKE NOT SIGN",
  "2AED |REVERSED DOUBLE STROKE NOT SIGN;DOES NOT DIVIDE WITH REVERSED NEGATION SLASH",
  "2AEF VERTICAL LINE WITH CIRCLE |ABOVE;BELOW",
  "2AF1 DOWN TACK WITH CIRCLE |BELOW",
  "2AF2 PARALLEL WITH |HORIZONTAL STROKE;TILDE OPERATOR",
  "2AF4 TRIPLE VERTICAL BAR |BINARY RELATION;WITH HORIZONTAL STROKE",
  "2AF6 TRIPLE |COLON OPERATOR;NESTED LESS-THAN;NESTED GREATER-THAN",
  "2AF9 DOUBLE-LINE SLANTED |LESS-THAN OR EQUAL TO;GREATER-THAN OR EQUAL TO",
  "2AFB |TRIPLE SOLIDUS BINARY RELATION;LARGE TRIPLE VERTICAL BAR OPERATOR",
  "2AFD |DOUBLE SOLIDUS OPERATOR;WHITE VERTICAL BAR;N-ARY WHITE VERTICAL BAR",
  "2B00 NORTH |EAST WHITE ARROW;WEST WHITE ARROW",
  "2B02 SOUTH |EAST WHITE ARROW;WEST WHITE ARROW",
  "2B04 |LEFT RIGHT WHITE ARROW;LEFTWARDS BLACK ARROW;UPWARDS BLACK ARROW;DOWNWARDS BLACK ARROW",
  "2B08 NORTH |EAST BLACK ARROW;WEST BLACK ARROW",
  "2B0A |SOUTH EAST BLACK ARROW;SOUTH WEST BLACK ARROW;LEFT RIGHT BLACK ARROW;UP DOWN BLACK ARROW",
  "2B0E RIGHTWARDS ARROW WITH TIP |DOWNWARDS;UPWARDS",
  "2B10 LEFTWARDS ARROW WITH TIP |DOWNWARDS;UPWARDS",
  "2B12 SQUARE WITH |TOP HALF BLACK;BOTTOM HALF BLACK",
  "2B14 SQUARE WITH |UPPER RIGHT DIAGONAL HALF BLACK;LOWER LEFT DIAGONAL HALF BLACK",
  "2B16 DIAMOND WITH |LEFT HALF BLACK;RIGHT HALF BLACK;TOP HALF BLACK;BOTTOM HALF BLACK",
  "2B1A |DOTTED SQUARE;BLACK LARGE SQUARE;WHITE LARGE SQUARE;BLACK VERY SMALL SQUARE",
  "2B1E |WHITE VERY SMALL SQUARE;BLACK PENTAGON;WHITE PENTAGON;WHITE HEXAGON;BLACK HEXAGON",
  "2B23 |HORIZONTAL BLACK HEXAGON;BLACK LARGE CIRCLE;BLACK MEDIUM DIAMOND;WHITE MEDIUM DIAMOND",
  "2B27 |BLACK MEDIUM LOZENGE;WHITE MEDIUM LOZENGE;BLACK SMALL DIAMOND;BLACK SMALL LOZENGE",
  "2B2B |WHITE SMALL LOZENGE;BLACK HORIZONTAL ELLIPSE;WHITE HORIZONTAL ELLIPSE",
  "2B2E |BLACK VERTICAL ELLIPSE;WHITE VERTICAL ELLIPSE;LEFT ARROW WITH SMALL CIRCLE",
  "2B31 |THREE LEFTWARDS ARROWS;LEFT ARROW WITH CIRCLED PLUS;LONG LEFTWARDS SQUIGGLE ARROW",
  "2B34 LEFTWARDS TWO-HEADED ARROW |WITH VERTICAL STROKE;WITH DOUBLE VERTICAL STROKE;FROM BAR",
  "2B37 LEFTWARDS |TWO-HEADED TRIPLE DASH ARROW;ARROW WITH DOTTED STEM",
  "2B39 LEFTWARDS ARROW WITH TAIL WITH |VERTICAL STROKE;DOUBLE VERTICAL STROKE",
  "2B3B LEFTWARDS TWO-HEADED ARROW WITH |TAIL",
  "2B3C LEFTWARDS TWO-HEADED ARROW WITH TAIL WITH |VERTICAL STROKE;DOUBLE VERTICAL STROKE",
  "2B3E |LEFTWARDS ARROW THROUGH X;WAVE ARROW POINTING DIRECTLY LEFT",
  "2B40 |EQUALS SIGN ABOVE LEFTWARDS ARROW;REVERSE TILDE OPERATOR ABOVE LEFTWARDS ARROW",
  "2B42 LEFTWARDS ARROW ABOVE REVERSE ALMOST EQUAL |TO",
  "2B43 RIGHTWARDS ARROW THROUGH |GREATER-THAN;SUPERSET",
  "2B45 LEFTWARDS QUADRUPLE |ARROW",
  "2B46 |RIGHTWARDS QUADRUPLE ARROW;REVERSE TILDE OPERATOR ABOVE RIGHTWARDS ARROW",
  "2B48 |RIGHTWARDS ARROW ABOVE REVERSE ALMOST EQUAL TO;TILDE OPERATOR ABOVE LEFTWARDS ARROW",
  "2B4A LEFTWARDS ARROW ABOVE |ALMOST EQUAL TO;REVERSE TILDE OPERATOR",
  "2B4C |RIGHTWARDS ARROW ABOVE REVERSE TILDE OPERATOR;DOWNWARDS TRIANGLE-HEADED ZIGZAG ARROW",
  "2B4E SHORT |SLANTED NORTH ARROW;BACKSLANTED SOUTH ARROW",
  "2B50 |WHITE MEDIUM STAR;BLACK SMALL STAR;WHITE SMALL STAR",
  "2B53 |BLACK RIGHT-POINTING PENTAGON;WHITE RIGHT-POINTING PENTAGON;HEAVY LARGE CIRCLE",
  "2B56 HEAVY |OVAL WITH OVAL INSIDE;CIRCLE WITH CIRCLE INSIDE;CIRCLE;CIRCLED SALTIRE",
  "2B5A |SLANTED NORTH ARROW WITH HOOKED HEAD;BACKSLANTED SOUTH ARROW WITH HOOKED TAIL",
  "2B5C |SLANTED NORTH ARROW WITH HORIZONTAL TAIL;BACKSLANTED SOUTH ARROW WITH HORIZONTAL TAIL",
  "2B5E BENT ARROW POINTING DOWNWARDS THEN NORTH |EAST",
  "2B5F |SHORT BENT ARROW POINTING DOWNWARDS THEN NORTH EAST;LEFTWARDS TRIANGLE-HEADED ARROW",
  "2B61 |UPWARDS TRIANGLE-HEADED ARROW;RIGHTWARDS TRIANGLE-HEADED ARROW",
  "2B63 |DOWNWARDS TRIANGLE-HEADED ARROW;LEFT RIGHT TRIANGLE-HEADED ARROW",
  "2B65 |UP DOWN TRIANGLE-HEADED ARROW;NORTH WEST TRIANGLE-HEADED ARROW",
  "2B67 |NORTH EAST TRIANGLE-HEADED ARROW;SOUTH EAST TRIANGLE-HEADED ARROW",
  "2B69 |SOUTH WEST TRIANGLE-HEADED ARROW;LEFTWARDS TRIANGLE-HEADED DASHED ARROW",
  "2B6B |UPWARDS TRIANGLE-HEADED DASHED ARROW;RIGHTWARDS TRIANGLE-HEADED DASHED ARROW",
  "2B6D |DOWNWARDS TRIANGLE-HEADED DASHED ARROW;CLOCKWISE TRIANGLE-HEADED OPEN CIRCLE ARROW",
  "2B6F ANTICLOCKWISE TRIANGLE-HEADED OPEN CIRCLE |ARROW",
  "2B70 |LEFTWARDS TRIANGLE-HEADED ARROW TO BAR;UPWARDS TRIANGLE-HEADED ARROW TO BAR",
  "2B72 |RIGHTWARDS TRIANGLE-HEADED ARROW TO BAR;DOWNWARDS TRIANGLE-HEADED ARROW TO BAR",
  "2B76 NORTH |WEST TRIANGLE-HEADED ARROW TO BAR;EAST TRIANGLE-HEADED ARROW TO BAR",
  "2B78 SOUTH |EAST TRIANGLE-HEADED ARROW TO BAR;WEST TRIANGLE-HEADED ARROW TO BAR",
  "2B7A LEFTWARDS TRIANGLE-HEADED ARROW WITH DOUBLE HORIZONTAL |STROKE",
  "2B7B UPWARDS TRIANGLE-HEADED ARROW WITH DOUBLE HORIZONTAL |STROKE",
  "2B7C RIGHTWARDS TRIANGLE-HEADED ARROW WITH DOUBLE HORIZONTAL |STROKE",
  "2B7D |DOWNWARDS TRIANGLE-HEADED ARROW WITH DOUBLE HORIZONTAL STROKE;HORIZONTAL TAB KEY",
  "2B7F |VERTICAL TAB KEY;LEFTWARDS TRIANGLE-HEADED ARROW OVER RIGHTWARDS TRIANGLE-HEADED ARROW",
  "2B81 UPWARDS TRIANGLE-HEADED ARROW LEFTWARDS OF DOWNWARDS TRIANGLE-HEADED |ARROW",
  "2B82 RIGHTWARDS TRIANGLE-HEADED ARROW OVER LEFTWARDS TRIANGLE-HEADED |ARROW",
  "2B83 DOWNWARDS TRIANGLE-HEADED ARROW LEFTWARDS OF UPWARDS TRIANGLE-HEADED |ARROW",
  "2B84 |LEFTWARDS TRIANGLE-HEADED PAIRED ARROWS;UPWARDS TRIANGLE-HEADED PAIRED ARROWS",
  "2B86 |RIGHTWARDS TRIANGLE-HEADED PAIRED ARROWS;DOWNWARDS TRIANGLE-HEADED PAIRED ARROWS",
  "2B88 |LEFTWARDS BLACK CIRCLED WHITE ARROW;UPWARDS BLACK CIRCLED WHITE ARROW",
  "2B8A |RIGHTWARDS BLACK CIRCLED WHITE ARROW;DOWNWARDS BLACK CIRCLED WHITE ARROW",
  "2B8C ANTICLOCKWISE TRIANGLE-HEADED |RIGHT U-SHAPED ARROW;BOTTOM U-SHAPED ARROW",
  "2B8E ANTICLOCKWISE TRIANGLE-HEADED |LEFT U-SHAPED ARROW;TOP U-SHAPED ARROW",
  "2B90 RETURN |LEFT;RIGHT",
  "2B92 NEWLINE |LEFT;RIGHT",
  "2B94 |FOUR CORNER ARROWS CIRCLING ANTICLOCKWISE;RIGHTWARDS BLACK ARROW",
  "2B97 |SYMBOL FOR TYPE A ELECTRONICS;THREE-D TOP-LIGHTED LEFTWARDS EQUILATERAL ARROWHEAD",
  "2B99 THREE-D RIGHT-LIGHTED UPWARDS EQUILATERAL |ARROWHEAD",
  "2B9A THREE-D TOP-LIGHTED RIGHTWARDS EQUILATERAL |ARROWHEAD",
  "2B9B THREE-D LEFT-LIGHTED DOWNWARDS EQUILATERAL |ARROWHEAD",
  "2B9C BLACK |LEFTWARDS EQUILATERAL ARROWHEAD;UPWARDS EQUILATERAL ARROWHEAD",
  "2B9E BLACK |RIGHTWARDS EQUILATERAL ARROWHEAD;DOWNWARDS EQUILATERAL ARROWHEAD",
  "2BA0 DOWNWARDS TRIANGLE-HEADED ARROW WITH LONG TIP |LEFTWARDS;RIGHTWARDS",
  "2BA2 UPWARDS TRIANGLE-HEADED ARROW WITH LONG TIP |LEFTWARDS;RIGHTWARDS",
  "2BA4 LEFTWARDS TRIANGLE-HEADED ARROW WITH LONG TIP |UPWARDS",
  "2BA5 RIGHTWARDS TRIANGLE-HEADED ARROW WITH LONG TIP |UPWARDS",
  "2BA6 LEFTWARDS TRIANGLE-HEADED ARROW WITH LONG TIP |DOWNWARDS",
  "2BA7 RIGHTWARDS TRIANGLE-HEADED ARROW WITH LONG TIP |DOWNWARDS",
  "2BA8 BLACK CURVED DOWNWARDS AND |LEFTWARDS ARROW;RIGHTWARDS ARROW",
  "2BAA BLACK CURVED UPWARDS AND |LEFTWARDS ARROW;RIGHTWARDS ARROW",
  "2BAC BLACK CURVED |LEFTWARDS AND UPWARDS ARROW;RIGHTWARDS AND UPWARDS ARROW",
  "2BAE BLACK CURVED |LEFTWARDS AND DOWNWARDS ARROW;RIGHTWARDS AND DOWNWARDS ARROW",
  "2BB0 RIBBON ARROW |DOWN LEFT;DOWN RIGHT;UP LEFT;UP RIGHT;LEFT UP;RIGHT UP;LEFT DOWN;RIGHT DOWN",
  "2BB8 |UPWARDS WHITE ARROW FROM BAR WITH HORIZONTAL BAR;UP ARROWHEAD IN A RECTANGLE BOX",
  "2BBA OVERLAPPING |WHITE SQUARES;WHITE AND BLACK SQUARES;BLACK SQUARES",
  "2BBD |BALLOT BOX WITH LIGHT X;CIRCLED X;CIRCLED BOLD X;BLACK SQUARE CENTRED",
  "2BC1 |BLACK DIAMOND CENTRED;TURNED BLACK PENTAGON;HORIZONTAL BLACK OCTAGON;BLACK OCTAGON",
  "2BC5 BLACK MEDIUM |UP-POINTING TRIANGLE CENTRED;DOWN-POINTING TRIANGLE CENTRED",
  "2BC7 BLACK MEDIUM |LEFT-POINTING TRIANGLE CENTRED;RIGHT-POINTING TRIANGLE CENTRED",
  "2BC9 NEPTUNE FORM |TWO",
  "2BCA |TOP HALF BLACK CIRCLE;BOTTOM HALF BLACK CIRCLE;LIGHT FOUR POINTED BLACK CUSP",
  "2BCD |ROTATED LIGHT FOUR POINTED BLACK CUSP;WHITE FOUR POINTED CUSP",
  "2BCF |ROTATED WHITE FOUR POINTED CUSP;SQUARE POSITION INDICATOR;UNCERTAINTY SIGN;GROUP MARK",
  "2BD3 PLUTO FORM |TWO;THREE;FOUR;FIVE",
  "2BD7 |TRANSPLUTO;PROSERPINA;ASTRAEA;HYGIEA;PHOLUS;NESSUS;WHITE MOON SELENA",
  "2BDE |BLACK DIAMOND ON CROSS;TRUE LIGHT MOON ARTA;CUPIDO;HADES;ZEUS;KRONOS;APOLLON;ADMETOS",
  "2BE6 |VULCANUS;POSEIDON;LEFT HALF BLACK STAR;RIGHT HALF BLACK STAR;STAR WITH LEFT HALF BLACK",
  "2BEB |STAR WITH RIGHT HALF BLACK;LEFTWARDS TWO-HEADED ARROW WITH TRIANGLE ARROWHEADS",
  "2BED UPWARDS TWO-HEADED ARROW WITH TRIANGLE |ARROWHEADS",
  "2BEE RIGHTWARDS TWO-HEADED ARROW WITH TRIANGLE |ARROWHEADS",
  "2BEF |DOWNWARDS TWO-HEADED ARROW WITH TRIANGLE ARROWHEADS;ERIS FORM ONE;ERIS FORM TWO;SEDNA",
  "2BF3 RUSSIAN ASTROLOGICAL SYMBOL |VIGINTILE;NOVILE;QUINTILE;BINOVILE;SENTAGON;TREDECILE",
  "2BF9 |EQUALS SIGN WITH INFINITY BELOW;UNITED SYMBOL;SEPARATED SYMBOL",
  "2BFC |DOUBLED SYMBOL;PASSED SYMBOL;REVERSED RIGHT ANGLE;HELLSCHREIBER PAUSE SYMBOL"]

end ElementLocator.Regex.CharacterName
