/-! # Character names: rows for U+2C00 to U+D7FB

    The names from Glagolitic and Coptic over kana and bopomofo to Yi. -/

namespace ElementLocator.Regex.CharacterName

/-- Names from U+2C00 to U+D7FB. -/
def eastAsianRows : List String := [
  "2C00 GLAGOLITIC CAPITAL LETTER |AZU;BUKY;VEDE;GLAGOLI;DOBRO;YESTU;ZHIVETE;DZELO;ZEMLJA;IZHE",
  "2C0A GLAGOLITIC CAPITAL LETTER |INITIAL IZHE;I;DJERVI;KAKO;LJUDIJE;MYSLITE;NASHI;ONU;POKOJI",
  "2C13 GLAGOLITIC CAPITAL LETTER |RITSI;SLOVO;TVRIDO;UKU;FRITU;HERU;OTU;PE;SHTA;TSI;CHRIVI",
  "2C1E GLAGOLITIC CAPITAL LETTER |SHA;YERU;YERI;YATI;SPIDERY HA;YU;SMALL YUS;SMALL YUS WITH TAIL",
  "2C26 GLAGOLITIC CAPITAL LETTER |YO;IOTATED SMALL YUS;BIG YUS;IOTATED BIG YUS;FITA",
  "2C2B GLAGOLITIC CAPITAL LETTER |IZHITSA;SHTAPIC;TROKUTASTI A;LATINATE MYSLITE;CAUDATE CHRIVI",
  "2C30 GLAGOLITIC SMALL LETTER |AZU;BUKY;VEDE;GLAGOLI;DOBRO;YESTU;ZHIVETE;DZELO",
  "2C38 GLAGOLITIC SMALL LETTER |ZEMLJA;IZHE;INITIAL IZHE;I;DJERVI;KAKO;LJUDIJE;MYSLITE;NASHI;ONU",
  "2C42 GLAGOLITIC SMALL LETTER |POKOJI;RITSI;SLOVO;TVRIDO;UKU;FRITU;HERU;OTU;PE;SHTA;TSI;CHRIVI",
  "2C4E GLAGOLITIC SMALL LETTER |SHA;YERU;YERI;YATI;SPIDERY HA;YU;SMALL YUS;SMALL YUS WITH TAIL",
  "2C56 GLAGOLITIC SMALL LETTER |YO;IOTATED SMALL YUS;BIG YUS;IOTATED BIG YUS;FITA",
  "2C5B GLAGOLITIC SMALL LETTER |IZHITSA;SHTAPIC;TROKUTASTI A;LATINATE MYSLITE;CAUDATE CHRIVI",
  "2C60 LATIN |CAPITAL LETTER L WITH DOUBLE BAR;SMALL LETTER L WITH DOUBLE BAR",
  "2C62 LATIN CAPITAL LETTER |L WITH MIDDLE TILDE;P WITH STROKE;R WITH TAIL",
  "2C65 LATIN SMALL LETTER |A WITH STROKE;T WITH DIAGONAL STROKE",
  "2C67 LATIN |CAPITAL LETTER H WITH DESCENDER;SMALL LETTER H WITH DESCENDER",
  "2C69 LATIN |CAPITAL LETTER K WITH DESCENDER;SMALL LETTER K WITH DESCENDER",
  "2C6B LATIN |CAPITAL LETTER Z WITH DESCENDER;SMALL LETTER Z WITH DESCENDER",
  "2C6D LATIN CAPITAL LETTER |ALPHA;M WITH HOOK;TURNED A;TURNED ALPHA",
  "2C71 LATIN |SMALL LETTER V WITH RIGHT HOOK;CAPITAL LETTER W WITH HOOK;SMALL LETTER W WITH HOOK",
  "2C74 LATIN |SMALL LETTER V WITH CURL;CAPITAL LETTER HALF H;SMALL LETTER HALF H",
  "2C77 LATIN SMALL LETTER |TAILLESS PHI;E WITH NOTCH;TURNED R WITH TAIL;O WITH LOW RING INSIDE",
  "2C7B LATIN |LETTER SMALL CAPITAL TURNED E;SUBSCRIPT SMALL LETTER J",
  "2C7D MODIFIER LETTER CAPITAL |V",
  "2C7E LATIN CAPITAL LETTER |S WITH SWASH TAIL;Z WITH SWASH TAIL",
  "2C80 COPTIC |CAPITAL LETTER ALFA;SMALL LETTER ALFA;CAPITAL LETTER VIDA;SMALL LETTER VIDA",
  "2C84 COPTIC |CAPITAL LETTER GAMMA;SMALL LETTER GAMMA;CAPITAL LETTER DALDA;SMALL LETTER DALDA",
  "2C88 COPTIC |CAPITAL LETTER EIE;SMALL LETTER EIE;CAPITAL LETTER SOU;SMALL LETTER SOU",
  "2C8C COPTIC |CAPITAL LETTER ZATA;SMALL LETTER ZATA;CAPITAL LETTER HATE;SMALL LETTER HATE",
  "2C90 COPTIC |CAPITAL LETTER THETHE;SMALL LETTER THETHE;CAPITAL LETTER IAUDA;SMALL LETTER IAUDA",
  "2C94 COPTIC |CAPITAL LETTER KAPA;SMALL LETTER KAPA;CAPITAL LETTER LAULA;SMALL LETTER LAULA",
  "2C98 COPTIC |CAPITAL LETTER MI;SMALL LETTER MI;CAPITAL LETTER NI;SMALL LETTER NI",
  "2C9C COPTIC |CAPITAL LETTER KSI;SMALL LETTER KSI;CAPITAL LETTER O;SMALL LETTER O",
  "2CA0 COPTIC |CAPITAL LETTER PI;SMALL LETTER PI;CAPITAL LETTER RO;SMALL LETTER RO",
  "2CA4 COPTIC |CAPITAL LETTER SIMA;SMALL LETTER SIMA;CAPITAL LETTER TAU;SMALL LETTER TAU",
  "2CA8 COPTIC |CAPITAL LETTER UA;SMALL LETTER UA;CAPITAL LETTER FI;SMALL LETTER FI",
  "2CAC COPTIC |CAPITAL LETTER KHI;SMALL LETTER KHI;CAPITAL LETTER PSI;SMALL LETTER PSI",
  "2CB0 COPTIC |CAPITAL LETTER OOU;SMALL LETTER OOU;CAPITAL LETTER DIALECT-P ALEF",
  "2CB3 COPTIC |SMALL LETTER DIALECT-P ALEF;CAPITAL LETTER OLD COPTIC AIN",
  "2CB5 COPTIC |SMALL LETTER OLD COPTIC AIN;CAPITAL LETTER CRYPTOGRAMMIC EIE",
  "2CB7 COPTIC |SMALL LETTER CRYPTOGRAMMIC EIE;CAPITAL LETTER DIALECT-P KAPA",
  "2CB9 COPTIC |SMALL LETTER DIALECT-P KAPA;CAPITAL LETTER DIALECT-P NI;SMALL LETTER DIALECT-P NI",
  "2CBC COPTIC |CAPITAL LETTER CRYPTOGRAMMIC NI;SMALL LETTER CRYPTOGRAMMIC NI",
  "2CBE COPTIC |CAPITAL LETTER OLD COPTIC OOU;SMALL LETTER OLD COPTIC OOU",
  "2CC0 COPTIC |CAPITAL LETTER SAMPI;SMALL LETTER SAMPI;CAPITAL LETTER CROSSED SHEI",
  "2CC3 COPTIC |SMALL LETTER CROSSED SHEI;CAPITAL LETTER OLD COPTIC SHEI",
  "2CC5 COPTIC |SMALL LETTER OLD COPTIC SHEI;CAPITAL LETTER OLD COPTIC ESH",
  "2CC7 COPTIC |SMALL LETTER OLD COPTIC ESH;CAPITAL LETTER AKHMIMIC KHEI",
  "2CC9 COPTIC |SMALL LETTER AKHMIMIC KHEI;CAPITAL LETTER DIALECT-P HORI",
  "2CCB COPTIC |SMALL LETTER DIALECT-P HORI;CAPITAL LETTER OLD COPTIC HORI",
  "2CCD COPTIC |SMALL LETTER OLD COPTIC HORI;CAPITAL LETTER OLD COPTIC HA",
  "2CCF COPTIC |SMALL LETTER OLD COPTIC HA;CAPITAL LETTER L-SHAPED HA;SMALL LETTER L-SHAPED HA",
  "2CD2 COPTIC |CAPITAL LETTER OLD COPTIC HEI;SMALL LETTER OLD COPTIC HEI",
  "2CD4 COPTIC |CAPITAL LETTER OLD COPTIC HAT;SMALL LETTER OLD COPTIC HAT",
  "2CD6 COPTIC |CAPITAL LETTER OLD COPTIC GANGIA;SMALL LETTER OLD COPTIC GANGIA",
  "2CD8 COPTIC |CAPITAL LETTER OLD COPTIC DJA;SMALL LETTER OLD COPTIC DJA",
  "2CDA COPTIC |CAPITAL LETTER OLD COPTIC SHIMA;SMALL LETTER OLD COPTIC SHIMA",
  "2CDC COPTIC |CAPITAL LETTER OLD NUBIAN SHIMA;SMALL LETTER OLD NUBIAN SHIMA",
  "2CDE COPTIC |CAPITAL LETTER OLD NUBIAN NGI;SMALL LETTER OLD NUBIAN NGI",
  "2CE0 COPTIC |CAPITAL LETTER OLD NUBIAN NYI;SMALL LETTER OLD NUBIAN NYI",
  "2CE2 COPTIC |CAPITAL LETTER OLD NUBIAN WAU;SMALL LETTER OLD NUBIAN WAU",
  "2CE4 COPTIC SYMBOL |KAI;MI RO;PI RO;STAUROS;TAU RO;KHI RO;SHIMA SIMA",
  "2CEB COPTIC |CAPITAL LETTER CRYPTOGRAMMIC SHEI;SMALL LETTER CRYPTOGRAMMIC SHEI",
  "2CED COPTIC |CAPITAL LETTER CRYPTOGRAMMIC GANGIA;SMALL LETTER CRYPTOGRAMMIC GANGIA",
  "2CEF COPTIC COMBINING |NI ABOVE;SPIRITUS ASPER;SPIRITUS LENIS",
  "2CF2 COPTIC |CAPITAL LETTER BOHAIRIC KHEI;SMALL LETTER BOHAIRIC KHEI",
  "2CF9 COPTIC OLD NUBIAN |FULL STOP;DIRECT QUESTION MARK;INDIRECT QUESTION MARK;VERSE DIVIDER",
  "2CFD COPTIC |FRACTION ONE HALF;FULL STOP;MORPHOLOGICAL DIVIDER",
  "2D00 GEORGIAN SMALL LETTER |AN;BAN;GAN;DON;EN;VIN",
  "2D06 GEORGIAN SMALL LETTER |ZEN;TAN;IN;KAN;LAS;MAN;NAR;ON;PAR;ZHAR;RAE;SAN;TAR;UN;PHAR;KHAR",
  "2D16 GEORGIAN SMALL LETTER |GHAN;QAR;SHIN;CHIN;CAN;JIL;CIL;CHAR;XAN;JHAN;HAE;HE;HIE;WE;HAR;HOE",
  "2D27 GEORGIAN SMALL LETTER |YN",
  "2D2D GEORGIAN SMALL LETTER |AEN",
  "2D30 TIFINAGH LETTER |YA;YAB;YABH;YAG;YAGHH;BERBER ACADEMY YAJ;YAJ;YAD;YADH;YADD;YADDH;YEY",
  "2D3C TIFINAGH LETTER |YAF;YAK;TUAREG YAK;YAKHH;YAH;BERBER ACADEMY YAH;TUAREG YAH;YAHH;YAA;YAKH",
  "2D46 TIFINAGH LETTER |TUAREG YAKH;YAQ;TUAREG YAQ;YI;YAZH;AHAGGAR YAZH;TUAREG YAZH;YAL;YAM;YAN",
  "2D50 TIFINAGH LETTER |TUAREG YAGN;TUAREG YANG;YAP;YU;YAR;YARR;YAGH;TUAREG YAGH;AYER YAGH;YAS",
  "2D5A TIFINAGH LETTER |YASS;YASH;YAT;YATH;YACH;YATT;YAV;YAW;YAY;YAZ;TAWELLEMET YAZ;YAZZ;YE;YO",
  "2D6F TIFINAGH |MODIFIER LETTER LABIALIZATION MARK;SEPARATOR MARK",
  "2D7F TIFINAGH CONSONANT |JOINER",
  "2D80 ETHIOPIC SYLLABLE |LOA;MOA;ROA;SOA;SHOA;BOA;TOA;COA;NOA;NYOA",
  "2D8A ETHIOPIC SYLLABLE |GLOTTAL OA;ZOA;DOA;DDOA;JOA;THOA;CHOA;PHOA;POA;GGWA;GGWI;GGWEE;GGWE",
  "2DA0 ETHIOPIC SYLLABLE |SSA;SSU;SSI;SSAA;SSEE;SSE;SSO",
  "2DA8 ETHIOPIC SYLLABLE |CCA;CCU;CCI;CCAA;CCEE;CCE;CCO",
  "2DB0 ETHIOPIC SYLLABLE |ZZA;ZZU;ZZI;ZZAA;ZZEE;ZZE;ZZO",
  "2DB8 ETHIOPIC SYLLABLE |CCHA;CCHU;CCHI;CCHAA;CCHEE;CCHE;CCHO",
  "2DC0 ETHIOPIC SYLLABLE |QYA;QYU;QYI;QYAA;QYEE;QYE;QYO",
  "2DC8 ETHIOPIC SYLLABLE |KYA;KYU;KYI;KYAA;KYEE;KYE;KYO",
  "2DD0 ETHIOPIC SYLLABLE |XYA;XYU;XYI;XYAA;XYEE;XYE;XYO",
  "2DD8 ETHIOPIC SYLLABLE |GYA;GYU;GYI;GYAA;GYEE;GYE;GYO",
  "2DE0 COMBINING CYRILLIC LETTER |BE;VE;GHE;DE;ZHE;ZE;KA;EL;EM;EN;O;PE;ER",
  "2DED COMBINING CYRILLIC LETTER |ES;TE;HA;TSE;CHE;SHA;SHCHA;FITA;ES-TE;A;IE;DJERV;MONOGRAPH UK",
  "2DFA COMBINING CYRILLIC LETTER |YAT;YU;IOTIFIED A;LITTLE YUS;BIG YUS;IOTIFIED BIG YUS",
  "2E00 RIGHT ANGLE |SUBSTITUTION MARKER;DOTTED SUBSTITUTION MARKER",
  "2E02 |LEFT SUBSTITUTION BRACKET;RIGHT SUBSTITUTION BRACKET",
  "2E04 |LEFT DOTTED SUBSTITUTION BRACKET;RIGHT DOTTED SUBSTITUTION BRACKET",
  "2E06 RAISED |INTERPOLATION MARKER;DOTTED INTERPOLATION MARKER",
  "2E08 |DOTTED TRANSPOSITION MARKER;LEFT TRANSPOSITION BRACKET;RIGHT TRANSPOSITION BRACKET",
  "2E0B |RAISED SQUARE;LEFT RAISED OMISSION BRACKET;RIGHT RAISED OMISSION BRACKET",
  "2E0E |EDITORIAL CORONIS;PARAGRAPHOS;FORKED PARAGRAPHOS;REVERSED FORKED PARAGRAPHOS",
  "2E12 |HYPODIASTOLE;DOTTED OBELOS;DOWNWARDS ANCORA;UPWARDS ANCORA;DOTTED RIGHT-POINTING ANGLE",
  "2E17 |DOUBLE OBLIQUE HYPHEN;INVERTED INTERROBANG;PALM BRANCH;HYPHEN WITH DIAERESIS",
  "2E1B |TILDE WITH RING ABOVE;LEFT LOW PARAPHRASE BRACKET;RIGHT LOW PARAPHRASE BRACKET",
  "2E1E TILDE WITH DOT |ABOVE;BELOW",
  "2E20 |LEFT VERTICAL BAR WITH QUILL;RIGHT VERTICAL BAR WITH QUILL",
  "2E22 |TOP LEFT HALF BRACKET;TOP RIGHT HALF BRACKET;BOTTOM LEFT HALF BRACKET",
  "2E25 |BOTTOM RIGHT HALF BRACKET;LEFT SIDEWAYS U BRACKET;RIGHT SIDEWAYS U BRACKET",
  "2E28 |LEFT DOUBLE PARENTHESIS;RIGHT DOUBLE PARENTHESIS;TWO DOTS OVER ONE DOT PUNCTUATION",
  "2E2B |ONE DOT OVER TWO DOTS PUNCTUATION;SQUARED FOUR DOT PUNCTUATION;FIVE DOT MARK",
  "2E2E |REVERSED QUESTION MARK;VERTICAL TILDE;RING POINT;WORD SEPARATOR MIDDLE DOT;TURNED COMMA",
  "2E33 |RAISED DOT;RAISED COMMA;TURNED SEMICOLON;DAGGER WITH LEFT GUARD;DAGGER WITH RIGHT GUARD",
  "2E38 |TURNED DAGGER;TOP HALF SECTION SIGN;TWO-EM DASH;THREE-EM DASH;STENOGRAPHIC FULL STOP",
  "2E3D |VERTICAL SIX DOTS;WIGGLY VERTICAL LINE;CAPITULUM;DOUBLE HYPHEN;REVERSED COMMA",
  "2E42 |DOUBLE LOW-REVERSED-9 QUOTATION MARK;DASH WITH LEFT UPTURN;DOUBLE SUSPENSION MARK",
  "2E45 INVERTED LOW |KAVYKA;KAVYKA WITH KAVYKA ABOVE",
  "2E47 |LOW KAVYKA;LOW KAVYKA WITH DOT;DOUBLE STACKED COMMA;DOTTED SOLIDUS;TRIPLE DAGGER",
  "2E4C |MEDIEVAL COMMA;PARAGRAPHUS MARK;PUNCTUS ELEVATUS MARK;CORNISH VERSE DIVIDER",
  "2E50 CROSS PATTY WITH |RIGHT CROSSBAR;LEFT CROSSBAR",
  "2E52 |TIRONIAN SIGN CAPITAL ET;MEDIEVAL EXCLAMATION MARK",
  "2E54 |MEDIEVAL QUESTION MARK;LEFT SQUARE BRACKET WITH STROKE;RIGHT SQUARE BRACKET WITH STROKE",
  "2E57 |LEFT SQUARE BRACKET WITH DOUBLE STROKE;RIGHT SQUARE BRACKET WITH DOUBLE STROKE",
  "2E59 TOP HALF |LEFT PARENTHESIS;RIGHT PARENTHESIS",
  "2E5B |BOTTOM HALF LEFT PARENTHESIS;BOTTOM HALF RIGHT PARENTHESIS;OBLIQUE HYPHEN",
  "2E80 CJK RADICAL |REPEAT;CLIFF;SECOND ONE;SECOND TWO;SECOND THREE;PERSON;BOX;TABLE;KNIFE ONE",
  "2E89 CJK RADICAL |KNIFE TWO;DIVINATION;SEAL;SMALL ONE;SMALL TWO;LAME ONE;LAME TWO;LAME THREE",
  "2E91 CJK RADICAL |LAME FOUR;SNAKE;THREAD;SNOUT ONE;SNOUT TWO;HEART ONE;HEART TWO;HAND;RAP",
  "2E9B CJK RADICAL |CHOKE;SUN;MOON;DEATH;MOTHER;CIVILIAN;WATER ONE;WATER TWO;FIRE;PAW ONE",
  "2EA5 CJK RADICAL |PAW TWO;SIMPLIFIED HALF TREE TRUNK;COW;DOG;JADE;BOLT OF CLOTH;EYE;SPIRIT ONE",
  "2EAD CJK RADICAL |SPIRIT TWO;BAMBOO;SILK;C-SIMPLIFIED SILK;NET ONE;NET TWO;NET THREE;NET FOUR",
  "2EB5 CJK RADICAL |MESH;SHEEP;RAM;EWE;OLD;BRUSH ONE;BRUSH TWO;MEAT;MORTAR;GRASS ONE;GRASS TWO",
  "2EC0 CJK RADICAL |GRASS THREE;TIGER;CLOTHES;WEST ONE;WEST TWO;C-SIMPLIFIED SEE;SIMPLIFIED HORN",
  "2EC7 CJK RADICAL |HORN;C-SIMPLIFIED SPEECH;C-SIMPLIFIED SHELL;FOOT;C-SIMPLIFIED CART",
  "2ECC CJK RADICAL |SIMPLIFIED WALK;WALK ONE;WALK TWO;CITY;C-SIMPLIFIED GOLD;LONG ONE",
  "2ED2 CJK RADICAL |LONG TWO;C-SIMPLIFIED LONG;C-SIMPLIFIED GATE;MOUND ONE;MOUND TWO;RAIN;BLUE",
  "2ED9 CJK RADICAL C-SIMPLIFIED |TANNED LEATHER;LEAF;WIND;FLY",
  "2EDD CJK RADICAL EAT |ONE;TWO;THREE",
  "2EE0 CJK RADICAL |C-SIMPLIFIED EAT;HEAD;C-SIMPLIFIED HORSE;BONE;GHOST",
  "2EE5 CJK RADICAL C-SIMPLIFIED |FISH;BIRD;SALT",
  "2EE8 CJK RADICAL |SIMPLIFIED WHEAT;SIMPLIFIED YELLOW;C-SIMPLIFIED FROG;J-SIMPLIFIED EVEN",
  "2EEC CJK RADICAL |C-SIMPLIFIED EVEN;J-SIMPLIFIED TOOTH;C-SIMPLIFIED TOOTH;J-SIMPLIFIED DRAGON",
  "2EF0 CJK RADICAL |C-SIMPLIFIED DRAGON;TURTLE;J-SIMPLIFIED TURTLE;C-SIMPLIFIED TURTLE",
  "2F00 KANGXI RADICAL |ONE;LINE;DOT;SLASH;SECOND;HOOK;TWO;LID",
  "2F08 KANGXI RADICAL |MAN;LEGS;ENTER;EIGHT;DOWN BOX;COVER;ICE;TABLE;OPEN BOX;KNIFE;POWER;WRAP",
  "2F14 KANGXI RADICAL |SPOON;RIGHT OPEN BOX;HIDING ENCLOSURE;TEN;DIVINATION;SEAL;CLIFF;PRIVATE",
  "2F1C KANGXI RADICAL |AGAIN;MOUTH;ENCLOSURE;EARTH;SCHOLAR;GO;GO SLOWLY;EVENING;BIG;WOMAN",
  "2F26 KANGXI RADICAL |CHILD;ROOF;INCH;SMALL;LAME;CORPSE;SPROUT;MOUNTAIN;RIVER;WORK;ONESELF",
  "2F31 KANGXI RADICAL |TURBAN;DRY;SHORT THREAD;DOTTED CLIFF;LONG STRIDE;TWO HANDS;SHOOT;BOW",
  "2F39 KANGXI RADICAL |SNOUT;BRISTLE;STEP;HEART;HALBERD;DOOR;HAND;BRANCH;RAP;SCRIPT;DIPPER;AXE",
  "2F45 KANGXI RADICAL |SQUARE;NOT;SUN;SAY;MOON;TREE;LACK;STOP;DEATH;WEAPON;DO NOT;COMPARE;FUR",
  "2F52 KANGXI RADICAL |CLAN;STEAM;WATER;FIRE;CLAW;FATHER;DOUBLE X;HALF TREE TRUNK;SLICE;FANG;COW",
  "2F5D KANGXI RADICAL |DOG;PROFOUND;JADE;MELON;TILE;SWEET;LIFE;USE;FIELD;BOLT OF CLOTH;SICKNESS",
  "2F68 KANGXI RADICAL |DOTTED TENT;WHITE;SKIN;DISH;EYE;SPEAR;ARROW;STONE;SPIRIT;TRACK;GRAIN",
  "2F73 KANGXI RADICAL |CAVE;STAND;BAMBOO;RICE;SILK;JAR;NET;SHEEP;FEATHER;OLD;AND;PLOW;EAR;BRUSH",
  "2F81 KANGXI RADICAL |MEAT;MINISTER;SELF;ARRIVE;MORTAR;TONGUE;OPPOSE;BOAT;STOPPING;COLOR;GRASS",
  "2F8C KANGXI RADICAL |TIGER;INSECT;BLOOD;WALK ENCLOSURE;CLOTHES;WEST;SEE;HORN;SPEECH;VALLEY",
  "2F96 KANGXI RADICAL |BEAN;PIG;BADGER;SHELL;RED;RUN;FOOT;BODY;CART;BITTER;MORNING;WALK;CITY",
  "2FA3 KANGXI RADICAL |WINE;DISTINGUISH;VILLAGE;GOLD;LONG;GATE;MOUND;SLAVE;SHORT TAILED BIRD",
  "2FAC KANGXI RADICAL |RAIN;BLUE;WRONG;FACE;LEATHER;TANNED LEATHER;LEEK;SOUND;LEAF",
  "2FB5 KANGXI RADICAL |WIND;FLY;EAT;HEAD;FRAGRANT;HORSE;BONE;TALL;HAIR;FIGHT;SACRIFICIAL WINE",
  "2FC0 KANGXI RADICAL |CAULDRON;GHOST;FISH;BIRD;SALT;DEER;WHEAT;HEMP;YELLOW;MILLET",
  "2FCA KANGXI RADICAL |BLACK;EMBROIDERY;FROG;TRIPOD;DRUM;RAT;NOSE;EVEN;TOOTH;DRAGON;TURTLE;FLUTE",
  "2FF0 IDEOGRAPHIC DESCRIPTION CHARACTER |LEFT TO RIGHT;ABOVE TO BELOW;LEFT TO MIDDLE AND RIGHT",
  "2FF3 IDEOGRAPHIC DESCRIPTION CHARACTER |ABOVE TO MIDDLE AND BELOW;FULL SURROUND",
  "2FF5 IDEOGRAPHIC DESCRIPTION CHARACTER SURROUND FROM |ABOVE;BELOW;LEFT;UPPER LEFT;UPPER RIGHT",
  "2FFA IDEOGRAPHIC DESCRIPTION CHARACTER |SURROUND FROM LOWER LEFT;OVERLAID",
  "3000 IDEOGRAPHIC |SPACE;COMMA;FULL STOP",
  "3003 |DITTO MARK;JAPANESE INDUSTRIAL STANDARD SYMBOL",
  "3005 IDEOGRAPHIC |ITERATION MARK;CLOSING MARK;NUMBER ZERO",
  "3008 |LEFT ANGLE BRACKET;RIGHT ANGLE BRACKET",
  "300A |LEFT DOUBLE ANGLE BRACKET;RIGHT DOUBLE ANGLE BRACKET;LEFT CORNER BRACKET",
  "300D |RIGHT CORNER BRACKET;LEFT WHITE CORNER BRACKET;RIGHT WHITE CORNER BRACKET",
  "3010 |LEFT BLACK LENTICULAR BRACKET;RIGHT BLACK LENTICULAR BRACKET;POSTAL MARK;GETA MARK",
  "3014 |LEFT TORTOISE SHELL BRACKET;RIGHT TORTOISE SHELL BRACKET;LEFT WHITE LENTICULAR BRACKET",
  "3017 |RIGHT WHITE LENTICULAR BRACKET;LEFT WHITE TORTOISE SHELL BRACKET",
  "3019 |RIGHT WHITE TORTOISE SHELL BRACKET;LEFT WHITE SQUARE BRACKET",
  "301B |RIGHT WHITE SQUARE BRACKET;WAVE DASH;REVERSED DOUBLE PRIME QUOTATION MARK",
  "301E |DOUBLE PRIME QUOTATION MARK;LOW DOUBLE PRIME QUOTATION MARK;POSTAL MARK FACE",
  "3021 HANGZHOU NUMERAL |ONE;TWO;THREE;FOUR;FIVE;SIX;SEVEN;EIGHT;NINE",
  "302A IDEOGRAPHIC |LEVEL TONE MARK;RISING TONE MARK;DEPARTING TONE MARK;ENTERING TONE MARK",
  "302E |HANGUL SINGLE DOT TONE MARK;HANGUL DOUBLE DOT TONE MARK;WAVY DASH",
  "3031 VERTICAL KANA REPEAT |MARK;WITH VOICED SOUND MARK",
  "3033 VERTICAL KANA REPEAT |MARK UPPER HALF;WITH VOICED SOUND MARK UPPER HALF;MARK LOWER HALF",
  "3036 |CIRCLED POSTAL MARK;IDEOGRAPHIC TELEGRAPH LINE FEED SEPARATOR SYMBOL",
  "3038 HANGZHOU NUMERAL |TEN;TWENTY;THIRTY",
  "303B |VERTICAL IDEOGRAPHIC ITERATION MARK;MASU MARK;PART ALTERNATION MARK",
  "303E IDEOGRAPHIC |VARIATION INDICATOR;HALF FILL SPACE",
  "3041 HIRAGANA LETTER |SMALL A;A;SMALL I;I;SMALL U;U;SMALL E",
  "3048 HIRAGANA LETTER |E;SMALL O;O;KA;GA;KI;GI;KU;GU;KE;GE;KO;GO;SA;ZA;SI;ZI;SU;ZU;SE;ZE",
  "305D HIRAGANA LETTER |SO;ZO;TA;DA;TI;DI;SMALL TU;TU;DU;TE;DE;TO;DO;NA;NI;NU;NE;NO;HA;BA;PA;HI",
  "3073 HIRAGANA LETTER |BI;PI;HU;BU;PU;HE;BE;PE;HO;BO;PO;MA;MI;MU;ME;MO;SMALL YA;YA;SMALL YU;YU",
  "3087 HIRAGANA LETTER |SMALL YO;YO;RA;RI;RU;RE;RO;SMALL WA;WA;WI;WE;WO;N;VU;SMALL KA;SMALL KE",
  "3099 COMBINING KATAKANA-HIRAGANA |VOICED SOUND MARK;SEMI-VOICED SOUND MARK",
  "309B KATAKANA-HIRAGANA |VOICED SOUND MARK;SEMI-VOICED SOUND MARK",
  "309D HIRAGANA |ITERATION MARK;VOICED ITERATION MARK;DIGRAPH YORI",
  "30A0 KATAKANA-HIRAGANA DOUBLE |HYPHEN",
  "30A1 KATAKANA LETTER |SMALL A;A;SMALL I;I;SMALL U;U;SMALL E;E;SMALL O",
  "30AA KATAKANA LETTER |O;KA;GA;KI;GI;KU;GU;KE;GE;KO;GO;SA;ZA;SI;ZI;SU;ZU;SE;ZE;SO;ZO;TA;DA",
  "30C1 KATAKANA LETTER |TI;DI;SMALL TU;TU;DU;TE;DE;TO;DO;NA;NI;NU;NE;NO;HA;BA;PA;HI;BI;PI;HU;BU",
  "30D7 KATAKANA LETTER |PU;HE;BE;PE;HO;BO;PO;MA;MI;MU;ME;MO;SMALL YA;YA;SMALL YU;YU;SMALL YO;YO",
  "30E9 KATAKANA LETTER |RA;RI;RU;RE;RO;SMALL WA;WA;WI;WE;WO;N;VU;SMALL KA;SMALL KE;VA;VI;VE;VO",
  "30FB |KATAKANA MIDDLE DOT;KATAKANA-HIRAGANA PROLONGED SOUND MARK",
  "30FD KATAKANA |ITERATION MARK;VOICED ITERATION MARK;DIGRAPH KOTO",
  "3105 BOPOMOFO LETTER |B;P;M;F;D;T;N;L;G;K;H;J;Q;X;ZH;CH;SH;R;Z;C;S;A;O",
  "311C BOPOMOFO LETTER |E;EH;AI;EI;AU;OU;AN;EN;ANG;ENG;ER;I;U;IU;V;NG;GN;IH;O WITH DOT ABOVE;NN",
  "3131 HANGUL LETTER |KIYEOK;SSANGKIYEOK",
  "3133 HANGUL LETTER |KIYEOK-SIOS;NIEUN;NIEUN-CIEUC;NIEUN-HIEUH;TIKEUT;SSANGTIKEUT;RIEUL",
  "313A HANGUL LETTER RIEUL-|KIYEOK;MIEUM;PIEUP;SIOS;THIEUTH;PHIEUPH;HIEUH",
  "3141 HANGUL LETTER |MIEUM;PIEUP;SSANGPIEUP;PIEUP-SIOS",
  "3145 HANGUL LETTER |SIOS;SSANGSIOS;IEUNG;CIEUC;SSANGCIEUC;CHIEUCH;KHIEUKH;THIEUTH;PHIEUPH",
  "314E HANGUL LETTER |HIEUH;A;AE;YA;YAE;EO;E;YEO;YE;O;WA;WAE;OE;YO;U;WEO;WE;WI;YU;EU;YI;I",
  "3164 HANGUL |FILLER;LETTER SSANGNIEUN",
  "3166 HANGUL LETTER NIEUN-|TIKEUT;SIOS;PANSIOS",
  "3169 HANGUL LETTER RIEUL-|KIYEOK-SIOS;TIKEUT;PIEUP-SIOS;PANSIOS;YEORINHIEUH",
  "316E HANGUL LETTER |MIEUM-PIEUP;MIEUM-SIOS;MIEUM-PANSIOS;KAPYEOUNMIEUM",
  "3172 HANGUL LETTER PIEUP-|KIYEOK;TIKEUT;SIOS-KIYEOK;SIOS-TIKEUT;CIEUC;THIEUTH",
  "3178 HANGUL LETTER |KAPYEOUNPIEUP;KAPYEOUNSSANGPIEUP",
  "317A HANGUL LETTER SIOS-|KIYEOK;NIEUN;TIKEUT;PIEUP;CIEUC",
  "317F HANGUL LETTER |PANSIOS;SSANGIEUNG;YESIEUNG;YESIEUNG-SIOS;YESIEUNG-PANSIOS;KAPYEOUNPHIEUPH",
  "3185 HANGUL LETTER |SSANGHIEUH;YEORINHIEUH;YO-YA;YO-YAE;YO-I;YU-YEO;YU-YE;YU-I;ARAEA;ARAEAE",
  "3190 IDEOGRAPHIC ANNOTATION |LINKING MARK;REVERSE MARK;ONE MARK;TWO MARK;THREE MARK",
  "3195 IDEOGRAPHIC ANNOTATION |FOUR MARK;TOP MARK;MIDDLE MARK;BOTTOM MARK;FIRST MARK;SECOND MARK",
  "319B IDEOGRAPHIC ANNOTATION |THIRD MARK;FOURTH MARK;HEAVEN MARK;EARTH MARK;MAN MARK",
  "31A0 BOPOMOFO LETTER |BU;ZI;JI;GU;EE;ENN;OO;ONN;IR;ANN;INN;UNN;IM;NGG;AINN;AUNN;AM;OM;ONG;INNN",
  "31B4 BOPOMOFO FINAL LETTER |P;T;K;H",
  "31B8 BOPOMOFO |LETTER GH;LETTER LH;LETTER ZY;FINAL LETTER G",
  "31BC BOPOMOFO LETTER |GW;KW;OE;AH",
  "31C0 CJK STROKE |T;WG;XG;BXG;SW;HZZ;HZG;HP;HZWG;SZWG;HZT;HZZP;HPWG",
  "31CD CJK STROKE |HZW;HZZZ;N;H;S;P;SP;D;HZ;HG;SZ;SWZ;ST;SG;PD;PZ;TN;SZZ;SWG;HXWG;HZZZG;PG;Q",
  "31F0 KATAKANA LETTER SMALL |KU;SI;SU;TO;NU;HA;HI;HU;HE;HO;MU;RA;RI;RU;RE;RO",
  "3200 PARENTHESIZED HANGUL |KIYEOK;NIEUN;TIKEUT;RIEUL",
  "3204 PARENTHESIZED HANGUL |MIEUM;PIEUP;SIOS;IEUNG;CIEUC;CHIEUCH;KHIEUKH;THIEUTH;PHIEUPH;HIEUH",
  "320E PARENTHESIZED HANGUL |KIYEOK A;NIEUN A;TIKEUT A;RIEUL A;MIEUM A;PIEUP A;SIOS A;IEUNG A",
  "3216 PARENTHESIZED HANGUL |CIEUC A;CHIEUCH A;KHIEUKH A;THIEUTH A;PHIEUPH A;HIEUH A;CIEUC U",
  "321D PARENTHESIZED KOREAN CHARACTER |OJEON;O HU",
  "3220 PARENTHESIZED IDEOGRAPH |ONE;TWO;THREE;FOUR;FIVE;SIX;SEVEN;EIGHT",
  "3228 PARENTHESIZED IDEOGRAPH |NINE;TEN;MOON;FIRE;WATER;WOOD;METAL;EARTH;SUN;STOCK;HAVE;SOCIETY",
  "3234 PARENTHESIZED IDEOGRAPH |NAME;SPECIAL;FINANCIAL;CONGRATULATION;LABOR;REPRESENT;CALL;STUDY",
  "323C PARENTHESIZED IDEOGRAPH |SUPERVISE;ENTERPRISE;RESOURCE;ALLIANCE;FESTIVAL;REST;SELF;REACH",
  "3244 CIRCLED IDEOGRAPH |QUESTION;KINDERGARTEN;SCHOOL;KOTO",
  "3248 CIRCLED NUMBER |TEN ON BLACK SQUARE;TWENTY ON BLACK SQUARE",
  "324A CIRCLED NUMBER |THIRTY ON BLACK SQUARE;FORTY ON BLACK SQUARE;FIFTY ON BLACK SQUARE",
  "324D CIRCLED NUMBER |SIXTY ON BLACK SQUARE;SEVENTY ON BLACK SQUARE;EIGHTY ON BLACK SQUARE",
  "3250 PARTNERSHIP |SIGN",
  "3251 CIRCLED NUMBER TWENTY |ONE;TWO;THREE;FOUR;FIVE;SIX;SEVEN;EIGHT;NINE",
  "325A CIRCLED NUMBER |THIRTY",
  "325B CIRCLED NUMBER THIRTY |ONE;TWO;THREE;FOUR;FIVE",
  "3260 CIRCLED HANGUL |KIYEOK;NIEUN;TIKEUT;RIEUL;MIEUM;PIEUP;SIOS;IEUNG;CIEUC;CHIEUCH;KHIEUKH",
  "326B CIRCLED HANGUL |THIEUTH;PHIEUPH;HIEUH;KIYEOK A;NIEUN A;TIKEUT A;RIEUL A;MIEUM A;PIEUP A",
  "3274 CIRCLED HANGUL |SIOS A;IEUNG A;CIEUC A;CHIEUCH A;KHIEUKH A;THIEUTH A;PHIEUPH A;HIEUH A",
  "327C CIRCLED KOREAN CHARACTER |CHAMKO;JUEUI",
  "327E |CIRCLED HANGUL IEUNG U;KOREAN STANDARD SYMBOL",
  "3280 CIRCLED IDEOGRAPH |ONE;TWO;THREE;FOUR;FIVE;SIX;SEVEN;EIGHT;NINE;TEN",
  "328A CIRCLED IDEOGRAPH |MOON;FIRE;WATER;WOOD;METAL;EARTH;SUN;STOCK;HAVE;SOCIETY;NAME;SPECIAL",
  "3296 CIRCLED IDEOGRAPH |FINANCIAL;CONGRATULATION;LABOR;SECRET;MALE;FEMALE;SUITABLE;EXCELLENT",
  "329E CIRCLED IDEOGRAPH |PRINT;ATTENTION;ITEM;REST;COPY;CORRECT;HIGH;CENTRE;LOW;LEFT;RIGHT",
  "32A9 CIRCLED IDEOGRAPH |MEDICINE;RELIGION;STUDY;SUPERVISE;ENTERPRISE;RESOURCE;ALLIANCE;NIGHT",
  "32B1 CIRCLED NUMBER |THIRTY SIX;THIRTY SEVEN;THIRTY EIGHT;THIRTY NINE;FORTY",
  "32B6 CIRCLED NUMBER FORTY |ONE;TWO;THREE;FOUR;FIVE;SIX;SEVEN;EIGHT;NINE",
  "32BF CIRCLED NUMBER |FIFTY",
  "32C0 IDEOGRAPHIC TELEGRAPH SYMBOL FOR |JANUARY;FEBRUARY;MARCH;APRIL;MAY",
  "32C5 IDEOGRAPHIC TELEGRAPH SYMBOL FOR |JUNE;JULY;AUGUST;SEPTEMBER;OCTOBER;NOVEMBER;DECEMBER",
  "32CC SQUARE |HG;ERG;EV",
  "32CF LIMITED LIABILITY |SIGN",
  "32D0 CIRCLED KATAKANA |A;I;U;E;O;KA;KI;KU;KE;KO;SA;SI;SU;SE;SO;TA;TI;TU;TE;TO;NA;NI;NU",
  "32E7 CIRCLED KATAKANA |NE;NO;HA;HI;HU;HE;HO;MA;MI;MU;ME;MO;YA;YU;YO;RA;RI;RU;RE;RO;WA;WI;WE;WO",
  "32FF SQUARE |ERA NAME REIWA;APAATO;ARUHUA;ANPEA;AARU;ININGU;INTI",
  "3306 SQUARE |UON;ESUKUUDO;EEKAA;ONSU;OOMU;KAIRI;KARATTO;KARORII;GARON;GANMA;GIGA;GINII;KYURII",
  "3313 SQUARE |GIRUDAA;KIRO;KIROGURAMU;KIROMEETORU;KIROWATTO;GURAMU;GURAMUTON;KURUZEIRO;KUROONE",
  "331C SQUARE |KEESU;KORUNA;KOOPO;SAIKURU;SANTIIMU;SIRINGU;SENTI;SENTO;DAASU;DESI;DORU;TON;NANO",
  "3329 SQUARE |NOTTO;HAITU;PAASENTO;PAATU;BAARERU;PIASUTORU;PIKURU;PIKO;BIRU;HUARADDO;HUIITO",
  "3334 SQUARE |BUSSYERU;HURAN;HEKUTAARU;PESO;PENIHI;HERUTU;PENSU;PEEZI;BEETA;POINTO;BORUTO;HON",
  "3340 SQUARE |PONDO;HOORU;HOON;MAIKURO;MAIRU;MAHHA;MARUKU;MANSYON;MIKURON;MIRI;MIRIBAARU;MEGA",
  "334C SQUARE |MEGATON;MEETORU;YAADO;YAARU;YUAN;RITTORU;RIRA;RUPII;RUUBURU;REMU;RENTOGEN;WATTO",
  "3358 IDEOGRAPHIC TELEGRAPH SYMBOL FOR HOUR |ZERO;ONE;TWO;THREE;FOUR;FIVE;SIX;SEVEN",
  "3360 IDEOGRAPHIC TELEGRAPH SYMBOL FOR HOUR |EIGHT;NINE;TEN;ELEVEN;TWELVE;THIRTEEN;FOURTEEN",
  "3367 IDEOGRAPHIC TELEGRAPH SYMBOL FOR HOUR |FIFTEEN;SIXTEEN;SEVENTEEN;EIGHTEEN;NINETEEN;TWENTY",
  "336D IDEOGRAPHIC TELEGRAPH SYMBOL FOR HOUR TWENTY-|ONE;TWO;THREE;FOUR",
  "3371 SQUARE |HPA;DA;AU;BAR;OV;PC;DM;DM SQUARED;DM CUBED;IU",
  "337B SQUARE ERA NAME |HEISEI;SYOUWA;TAISYOU;MEIZI",
  "337F SQUARE |CORPORATION",
  "3380 SQUARE |PA AMPS;NA;MU A;MA;KA;KB;MB;GB;CAL;KCAL;PF;NF;MU F;MU G;MG;KG;HZ;KHZ;MHZ;GHZ",
  "3394 SQUARE |THZ;MU L;ML;DL;KL;FM;NM;MU M;MM;CM;KM;MM SQUARED;CM SQUARED;M SQUARED;KM SQUARED",
  "33A3 SQUARE |MM CUBED;CM CUBED;M CUBED;KM CUBED;M OVER S;M OVER S SQUARED;PA;KPA;MPA;GPA;RAD",
  "33AE SQUARE |RAD OVER S;RAD OVER S SQUARED;PS;NS;MU S;MS;PV;NV;MU V;MV;KV;MV MEGA;PW;NW;MU W",
  "33BD SQUARE |MW;KW;MW MEGA;K OHM;M OHM;AM;BQ;CC;CD;C OVER KG;CO;DB;GY;HA;HP;IN;KK;KM CAPITAL",
  "33CF SQUARE |KT;LM;LN;LOG;LX;MB SMALL;MIL;MOL;PH;PM;PPM;PR;SR;SV;WB;V OVER M;A OVER M",
  "33E0 IDEOGRAPHIC TELEGRAPH SYMBOL FOR DAY |ONE;TWO;THREE;FOUR;FIVE;SIX;SEVEN",
  "33E7 IDEOGRAPHIC TELEGRAPH SYMBOL FOR DAY |EIGHT;NINE;TEN;ELEVEN;TWELVE;THIRTEEN;FOURTEEN",
  "33EE IDEOGRAPHIC TELEGRAPH SYMBOL FOR DAY |FIFTEEN;SIXTEEN;SEVENTEEN;EIGHTEEN;NINETEEN;TWENTY",
  "33F4 IDEOGRAPHIC TELEGRAPH SYMBOL FOR DAY TWENTY-|ONE;TWO;THREE;FOUR;FIVE;SIX;SEVEN;EIGHT;NINE",
  "33FD IDEOGRAPHIC TELEGRAPH SYMBOL FOR DAY |THIRTY;THIRTY-ONE",
  "33FF SQUARE |GAL",
  "4DC0 HEXAGRAM FOR |THE CREATIVE HEAVEN;THE RECEPTIVE EARTH;DIFFICULTY AT THE BEGINNING",
  "4DC3 HEXAGRAM FOR |YOUTHFUL FOLLY;WAITING;CONFLICT;THE ARMY;HOLDING TOGETHER;SMALL TAMING",
  "4DC9 HEXAGRAM FOR |TREADING;PEACE;STANDSTILL;FELLOWSHIP;GREAT POSSESSION;MODESTY;ENTHUSIASM",
  "4DD0 HEXAGRAM FOR |FOLLOWING;WORK ON THE DECAYED;APPROACH;CONTEMPLATION;BITING THROUGH",
  "4DD5 HEXAGRAM FOR |GRACE;SPLITTING APART;RETURN;INNOCENCE;GREAT TAMING;MOUTH CORNERS",
  "4DDB HEXAGRAM FOR |GREAT PREPONDERANCE;THE ABYSMAL WATER;THE CLINGING FIRE;INFLUENCE;DURATION",
  "4DE0 HEXAGRAM FOR |RETREAT;GREAT POWER;PROGRESS;DARKENING OF THE LIGHT;THE FAMILY;OPPOSITION",
  "4DE6 HEXAGRAM FOR |OBSTRUCTION;DELIVERANCE;DECREASE;INCREASE;BREAKTHROUGH;COMING TO MEET",
  "4DEC HEXAGRAM FOR |GATHERING TOGETHER;PUSHING UPWARD;OPPRESSION;THE WELL;REVOLUTION",
  "4DF1 HEXAGRAM FOR THE |CAULDRON;AROUSING THUNDER;KEEPING STILL MOUNTAIN",
  "4DF4 HEXAGRAM FOR |DEVELOPMENT;THE MARRYING MAIDEN;ABUNDANCE",
  "4DF7 HEXAGRAM FOR |THE WANDERER;THE GENTLE WIND;THE JOYOUS LAKE;DISPERSION;LIMITATION",
  "4DFC HEXAGRAM FOR |INNER TRUTH;SMALL PREPONDERANCE;AFTER COMPLETION;BEFORE COMPLETION",
  "A000 YI SYLLABLE |IT;IX;I;IP;IET",
  "A005 YI SYLLABLE |IEX;IE;IEP;AT;AX;A;AP;UOX;UO;UOP;OT;OX;O;OP;EX;E;WU;BIT;BIX;BI;BIP;BIET;BIEX",
  "A01C YI SYLLABLE |BIE;BIEP;BAT;BAX;BA;BAP;BUOX;BUO;BUOP;BOT;BOX;BO;BOP;BEX;BE;BEP;BUT;BUX;BU",
  "A02F YI SYLLABLE |BUP;BURX;BUR;BYT;BYX;BY;BYP;BYRX;BYR;PIT;PIX;PI;PIP;PIEX;PIE;PIEP;PAT;PAX;PA",
  "A042 YI SYLLABLE |PAP;PUOX;PUO;PUOP;POT;POX;PO;POP;PUT;PUX;PU;PUP;PURX;PUR;PYT;PYX;PY;PYP;PYRX",
  "A055 YI SYLLABLE |PYR;BBIT;BBIX;BBI;BBIP;BBIET;BBIEX;BBIE;BBIEP;BBAT;BBAX;BBA;BBAP;BBUOX;BBUO",
  "A064 YI SYLLABLE |BBUOP;BBOT;BBOX;BBO;BBOP;BBEX;BBE;BBEP;BBUT;BBUX;BBU;BBUP;BBURX;BBUR;BBYT",
  "A073 YI SYLLABLE |BBYX;BBY;BBYP;NBIT;NBIX;NBI;NBIP;NBIEX;NBIE;NBIEP;NBAT;NBAX;NBA;NBAP;NBOT",
  "A082 YI SYLLABLE |NBOX;NBO;NBOP;NBUT;NBUX;NBU;NBUP;NBURX;NBUR;NBYT;NBYX;NBY;NBYP;NBYRX;NBYR",
  "A091 YI SYLLABLE |HMIT;HMIX;HMI;HMIP;HMIEX;HMIE;HMIEP;HMAT;HMAX;HMA;HMAP;HMUOX;HMUO;HMUOP;HMOT",
  "A0A0 YI SYLLABLE |HMOX;HMO;HMOP;HMUT;HMUX;HMU;HMUP;HMURX;HMUR;HMYX;HMY;HMYP;HMYRX;HMYR;MIT;MIX",
  "A0B0 YI SYLLABLE |MI;MIP;MIEX;MIE;MIEP;MAT;MAX;MA;MAP;MUOT;MUOX;MUO;MUOP;MOT;MOX;MO;MOP;MEX;ME",
  "A0C3 YI SYLLABLE |MUT;MUX;MU;MUP;MURX;MUR;MYT;MYX;MY;MYP;FIT;FIX;FI;FIP;FAT;FAX;FA;FAP;FOX;FO",
  "A0D7 YI SYLLABLE |FOP;FUT;FUX;FU;FUP;FURX;FUR;FYT;FYX;FY;FYP;VIT;VIX;VI;VIP;VIET;VIEX;VIE;VIEP",
  "A0EA YI SYLLABLE |VAT;VAX;VA;VAP;VOT;VOX;VO;VOP;VEX;VEP;VUT;VUX;VU;VUP;VURX;VUR;VYT;VYX;VY",
  "A0FD YI SYLLABLE |VYP;VYRX;VYR;DIT;DIX;DI;DIP;DIEX;DIE;DIEP;DAT;DAX;DA;DAP;DUOX;DUO;DOT;DOX;DO",
  "A110 YI SYLLABLE |DOP;DEX;DE;DEP;DUT;DUX;DU;DUP;DURX;DUR;TIT;TIX;TI;TIP;TIEX;TIE;TIEP;TAT;TAX",
  "A123 YI SYLLABLE |TA;TAP;TUOT;TUOX;TUO;TUOP;TOT;TOX;TO;TOP;TEX;TE;TEP;TUT;TUX;TU;TUP;TURX;TUR",
  "A136 YI SYLLABLE |DDIT;DDIX;DDI;DDIP;DDIEX;DDIE;DDIEP;DDAT;DDAX;DDA;DDAP;DDUOX;DDUO;DDUOP;DDOT",
  "A145 YI SYLLABLE |DDOX;DDO;DDOP;DDEX;DDE;DDEP;DDUT;DDUX;DDU;DDUP;DDURX;DDUR;NDIT;NDIX;NDI;NDIP",
  "A155 YI SYLLABLE |NDIEX;NDIE;NDAT;NDAX;NDA;NDAP;NDOT;NDOX;NDO;NDOP;NDEX;NDE;NDEP;NDUT;NDUX",
  "A164 YI SYLLABLE |NDU;NDUP;NDURX;NDUR;HNIT;HNIX;HNI;HNIP;HNIET;HNIEX;HNIE;HNIEP;HNAT;HNAX;HNA",
  "A173 YI SYLLABLE |HNAP;HNUOX;HNUO;HNOT;HNOX;HNOP;HNEX;HNE;HNEP;HNUT;NIT;NIX;NI;NIP;NIEX;NIE",
  "A183 YI SYLLABLE |NIEP;NAX;NA;NAP;NUOX;NUO;NUOP;NOT;NOX;NO;NOP;NEX;NE;NEP;NUT;NUX;NU;NUP;NURX",
  "A196 YI SYLLABLE |NUR;HLIT;HLIX;HLI;HLIP;HLIEX;HLIE;HLIEP;HLAT;HLAX;HLA;HLAP;HLUOX;HLUO;HLUOP",
  "A1A5 YI SYLLABLE |HLOX;HLO;HLOP;HLEX;HLE;HLEP;HLUT;HLUX;HLU;HLUP;HLURX;HLUR;HLYT;HLYX;HLY;HLYP",
  "A1B5 YI SYLLABLE |HLYRX;HLYR;LIT;LIX;LI;LIP;LIET;LIEX;LIE;LIEP;LAT;LAX;LA;LAP;LUOT;LUOX;LUO",
  "A1C6 YI SYLLABLE |LUOP;LOT;LOX;LO;LOP;LEX;LE;LEP;LUT;LUX;LU;LUP;LURX;LUR;LYT;LYX;LY;LYP;LYRX",
  "A1D9 YI SYLLABLE |LYR;GIT;GIX;GI;GIP;GIET;GIEX;GIE;GIEP;GAT;GAX;GA;GAP;GUOT;GUOX;GUO;GUOP;GOT",
  "A1EB YI SYLLABLE |GOX;GO;GOP;GET;GEX;GE;GEP;GUT;GUX;GU;GUP;GURX;GUR;KIT;KIX;KI;KIP;KIEX;KIE",
  "A1FE YI SYLLABLE |KIEP;KAT;KAX;KA;KAP;KUOX;KUO;KUOP;KOT;KOX;KO;KOP;KET;KEX;KE;KEP;KUT;KUX;KU",
  "A211 YI SYLLABLE |KUP;KURX;KUR;GGIT;GGIX;GGI;GGIEX;GGIE;GGIEP;GGAT;GGAX;GGA;GGAP;GGUOT;GGUOX",
  "A220 YI SYLLABLE |GGUO;GGUOP;GGOT;GGOX;GGO;GGOP;GGET;GGEX;GGE;GGEP;GGUT;GGUX;GGU;GGUP;GGURX",
  "A22F YI SYLLABLE |GGUR;MGIEX;MGIE;MGAT;MGAX;MGA;MGAP;MGUOX;MGUO;MGUOP;MGOT;MGOX;MGO;MGOP;MGEX",
  "A23E YI SYLLABLE |MGE;MGEP;MGUT;MGUX;MGU;MGUP;MGURX;MGUR;HXIT;HXIX;HXI;HXIP;HXIET;HXIEX;HXIE",
  "A24D YI SYLLABLE |HXIEP;HXAT;HXAX;HXA;HXAP;HXUOT;HXUOX;HXUO;HXUOP;HXOT;HXOX;HXO;HXOP;HXEX;HXE",
  "A25C YI SYLLABLE |HXEP;NGIEX;NGIE;NGIEP;NGAT;NGAX;NGA;NGAP;NGUOT;NGUOX;NGUO;NGOT;NGOX;NGO;NGOP",
  "A26B YI SYLLABLE |NGEX;NGE;NGEP;HIT;HIEX;HIE;HAT;HAX;HA;HAP;HUOT;HUOX;HUO;HUOP;HOT;HOX;HO;HOP",
  "A27D YI SYLLABLE |HEX;HE;HEP;WAT;WAX;WA;WAP;WUOX;WUO;WUOP;WOX;WO;WOP;WEX;WE;WEP;ZIT;ZIX;ZI;ZIP",
  "A291 YI SYLLABLE |ZIEX;ZIE;ZIEP;ZAT;ZAX;ZA;ZAP;ZUOX;ZUO;ZUOP;ZOT;ZOX;ZO;ZOP;ZEX;ZE;ZEP;ZUT;ZUX",
  "A2A4 YI SYLLABLE |ZU;ZUP;ZURX;ZUR;ZYT;ZYX;ZY;ZYP;ZYRX;ZYR;CIT;CIX;CI;CIP;CIET;CIEX;CIE;CIEP",
  "A2B6 YI SYLLABLE |CAT;CAX;CA;CAP;CUOX;CUO;CUOP;COT;COX;CO;COP;CEX;CE;CEP;CUT;CUX;CU;CUP;CURX",
  "A2C9 YI SYLLABLE |CUR;CYT;CYX;CY;CYP;CYRX;CYR;ZZIT;ZZIX;ZZI;ZZIP;ZZIET;ZZIEX;ZZIE;ZZIEP;ZZAT",
  "A2D9 YI SYLLABLE |ZZAX;ZZA;ZZAP;ZZOX;ZZO;ZZOP;ZZEX;ZZE;ZZEP;ZZUX;ZZU;ZZUP;ZZURX;ZZUR;ZZYT;ZZYX",
  "A2E9 YI SYLLABLE |ZZY;ZZYP;ZZYRX;ZZYR;NZIT;NZIX;NZI;NZIP;NZIEX;NZIE;NZIEP;NZAT;NZAX;NZA;NZAP",
  "A2F8 YI SYLLABLE |NZUOX;NZUO;NZOX;NZOP;NZEX;NZE;NZUX;NZU;NZUP;NZURX;NZUR;NZYT;NZYX;NZY;NZYP",
  "A307 YI SYLLABLE |NZYRX;NZYR;SIT;SIX;SI;SIP;SIEX;SIE;SIEP;SAT;SAX;SA;SAP;SUOX;SUO;SUOP;SOT",
  "A318 YI SYLLABLE |SOX;SO;SOP;SEX;SE;SEP;SUT;SUX;SU;SUP;SURX;SUR;SYT;SYX;SY;SYP;SYRX;SYR;SSIT",
  "A32B YI SYLLABLE |SSIX;SSI;SSIP;SSIEX;SSIE;SSIEP;SSAT;SSAX;SSA;SSAP;SSOT;SSOX;SSO;SSOP;SSEX",
  "A33A YI SYLLABLE |SSE;SSEP;SSUT;SSUX;SSU;SSUP;SSYT;SSYX;SSY;SSYP;SSYRX;SSYR;ZHAT;ZHAX;ZHA;ZHAP",
  "A34A YI SYLLABLE |ZHUOX;ZHUO;ZHUOP;ZHOT;ZHOX;ZHO;ZHOP;ZHET;ZHEX;ZHE;ZHEP;ZHUT;ZHUX;ZHU;ZHUP",
  "A359 YI SYLLABLE |ZHURX;ZHUR;ZHYT;ZHYX;ZHY;ZHYP;ZHYRX;ZHYR;CHAT;CHAX;CHA;CHAP;CHUOT;CHUOX;CHUO",
  "A368 YI SYLLABLE |CHUOP;CHOT;CHOX;CHO;CHOP;CHET;CHEX;CHE;CHEP;CHUX;CHU;CHUP;CHURX;CHUR;CHYT",
  "A377 YI SYLLABLE |CHYX;CHY;CHYP;CHYRX;CHYR;RRAX;RRA;RRUOX;RRUO;RROT;RROX;RRO;RROP;RRET;RREX",
  "A386 YI SYLLABLE |RRE;RREP;RRUT;RRUX;RRU;RRUP;RRURX;RRUR;RRYT;RRYX;RRY;RRYP;RRYRX;RRYR;NRAT",
  "A395 YI SYLLABLE |NRAX;NRA;NRAP;NROX;NRO;NROP;NRET;NREX;NRE;NREP;NRUT;NRUX;NRU;NRUP;NRURX;NRUR",
  "A3A5 YI SYLLABLE |NRYT;NRYX;NRY;NRYP;NRYRX;NRYR;SHAT;SHAX;SHA;SHAP;SHUOX;SHUO;SHUOP;SHOT;SHOX",
  "A3B4 YI SYLLABLE |SHO;SHOP;SHET;SHEX;SHE;SHEP;SHUT;SHUX;SHU;SHUP;SHURX;SHUR;SHYT;SHYX;SHY;SHYP",
  "A3C4 YI SYLLABLE |SHYRX;SHYR;RAT;RAX;RA;RAP;RUOX;RUO;RUOP;ROT;ROX;RO;ROP;REX;RE;REP;RUT;RUX;RU",
  "A3D7 YI SYLLABLE |RUP;RURX;RUR;RYT;RYX;RY;RYP;RYRX;RYR;JIT;JIX;JI;JIP;JIET;JIEX;JIE;JIEP;JUOT",
  "A3E9 YI SYLLABLE |JUOX;JUO;JUOP;JOT;JOX;JO;JOP;JUT;JUX;JU;JUP;JURX;JUR;JYT;JYX;JY;JYP;JYRX",
  "A3FB YI SYLLABLE |JYR;QIT;QIX;QI;QIP;QIET;QIEX;QIE;QIEP;QUOT;QUOX;QUO;QUOP;QOT;QOX;QO;QOP;QUT",
  "A40D YI SYLLABLE |QUX;QU;QUP;QURX;QUR;QYT;QYX;QY;QYP;QYRX;QYR;JJIT;JJIX;JJI;JJIP;JJIET;JJIEX",
  "A41E YI SYLLABLE |JJIE;JJIEP;JJUOX;JJUO;JJUOP;JJOT;JJOX;JJO;JJOP;JJUT;JJUX;JJU;JJUP;JJURX",
  "A42C YI SYLLABLE |JJUR;JJYT;JJYX;JJY;JJYP;NJIT;NJIX;NJI;NJIP;NJIET;NJIEX;NJIE;NJIEP;NJUOX",
  "A43A YI SYLLABLE |NJUO;NJOT;NJOX;NJO;NJOP;NJUX;NJU;NJUP;NJURX;NJUR;NJYT;NJYX;NJY;NJYP;NJYRX",
  "A449 YI SYLLABLE |NJYR;NYIT;NYIX;NYI;NYIP;NYIET;NYIEX;NYIE;NYIEP;NYUOX;NYUO;NYUOP;NYOT;NYOX",
  "A457 YI SYLLABLE |NYO;NYOP;NYUT;NYUX;NYU;NYUP;XIT;XIX;XI;XIP;XIET;XIEX;XIE;XIEP;XUOX;XUO;XOT",
  "A468 YI SYLLABLE |XOX;XO;XOP;XYT;XYX;XY;XYP;XYRX;XYR;YIT;YIX;YI;YIP;YIET;YIEX;YIE;YIEP;YUOT",
  "A47A YI SYLLABLE |YUOX;YUO;YUOP;YOT;YOX;YO;YOP;YUT;YUX;YU;YUP;YURX;YUR;YYT;YYX;YY;YYP;YYRX;YYR",
  "A490 YI RADICAL |QOT;LI;KIT;NYIP;CYP;SSI;GGOP;GEP;MI;HXIT;LYR;BBUT;MOP;YO;PUT;HXUO;TAT;GA",
  "A4A2 YI RADICAL |ZUP;CYT;DDUR;BUR;GGUO;NYOP;TU;OP;JJUT;ZOT;PYT;HMO;YIT;VUR;SHY;VEP;ZA;JO;NZUP",
  "A4B5 YI RADICAL |JJY;GOT;JJIE;WO;DU;SHUR;LIE;CY;CUOP;CIP;HXOP;SHAT;ZUR;SHOP;CHE;ZZIET;NBIE;KE",
  "A4D0 LISU LETTER |BA;PA;PHA;DA;TA;THA;GA;KA;KHA;JA;CA;CHA;DZA;TSA;TSHA;MA;NA;LA;SA;ZHA;ZA;NGA",
  "A4E6 LISU LETTER |HA;XA;HHA;FA;WA;SHA;YA;GHA;A;AE;E;EU;I;O;U;UE;UH;OE;TONE MYA TI;TONE NA PO",
  "A4FA LISU LETTER TONE MYA |CYA;BO;NA;JEU",
  "A4FE LISU PUNCTUATION |COMMA;FULL STOP",
  "A500 VAI SYLLABLE |EE;EEN;HEE;WEE;WEEN;PEE;BHEE;BEE;MBEE;KPEE;MGBEE;GBEE;FEE",
  "A50D VAI SYLLABLE |VEE;TEE;THEE;DHEE;DHHEE;LEE;REE;DEE;NDEE;SEE;SHEE;ZEE;ZHEE;CEE;JEE;NJEE;YEE",
  "A51E VAI SYLLABLE |KEE;NGGEE;GEE;MEE;NEE;NYEE;I;IN;HI;HIN;WI;WIN;PI;BHI;BI;MBI;KPI;MGBI;GBI",
  "A531 VAI SYLLABLE |FI;VI;TI;THI;DHI;DHHI;LI;RI;DI;NDI;SI;SHI;ZI;ZHI;CI;JI;NJI;YI;KI;NGGI;GI",
  "A546 VAI SYLLABLE |MI;NI;NYI;A;AN;NGAN;HA;HAN;WA;WAN;PA;BHA;BA;MBA;KPA;KPAN;MGBA;GBA;FA;VA;TA",
  "A55B VAI SYLLABLE |THA;DHA;DHHA;LA;RA;DA;NDA;SA;SHA;ZA;ZHA;CA;JA;NJA;YA;KA;KAN;NGGA;GA;MA;NA",
  "A570 VAI SYLLABLE |NYA;OO;OON;HOO;WOO;WOON;POO;BHOO;BOO;MBOO;KPOO;MGBOO;GBOO;FOO;VOO;TOO;THOO",
  "A581 VAI SYLLABLE |DHOO;DHHOO;LOO;ROO;DOO;NDOO;SOO;SHOO;ZOO;ZHOO;COO;JOO;NJOO;YOO;KOO;NGGOO",
  "A591 VAI SYLLABLE |GOO;MOO;NOO;NYOO;U;UN;HU;HUN;WU;WUN;PU;BHU;BU;MBU;KPU;MGBU;GBU;FU;VU;TU;THU",
  "A5A6 VAI SYLLABLE |DHU;DHHU;LU;RU;DU;NDU;SU;SHU;ZU;ZHU;CU;JU;NJU;YU;KU;NGGU;GU;MU;NU;NYU;O;ON",
  "A5BC VAI SYLLABLE |NGON;HO;HON;WO;WON;PO;BHO;BO;MBO;KPO;MGBO;GBO;GBON;FO;VO;TO;THO;DHO;DHHO;LO",
  "A5D0 VAI SYLLABLE |RO;DO;NDO;SO;SHO;ZO;ZHO;CO;JO;NJO;YO;KO;NGGO;GO;MO;NO;NYO;E;EN;NGEN;HE;HEN",
  "A5E6 VAI SYLLABLE |WE;WEN;PE;BHE;BE;MBE;KPE;KPEN;MGBE;GBE;GBEN;FE;VE;TE;THE;DHE;DHHE;LE;RE;DE",
  "A5FA VAI SYLLABLE |NDE;SE;SHE;ZE;ZHE;CE;JE;NJE;YE;KE;NGGE;NGGEN;GE;GEN;ME;NE;NYE;NG;LENGTHENER",
  "A60D VAI |COMMA;FULL STOP;QUESTION MARK",
  "A610 VAI SYLLABLE NDOLE |FA;KA;SOO",
  "A613 VAI SYMBOL |FEENG;KEENG;TING;NII;BANG;FAA;TAA;DANG;DOONG;KUNG;TONG;DO-O;JONG",
  "A620 VAI DIGIT |ZERO;ONE;TWO;THREE;FOUR;FIVE;SIX;SEVEN;EIGHT;NINE",
  "A62A VAI SYLLABLE NDOLE |MA;DO",
  "A640 CYRILLIC |CAPITAL LETTER ZEMLYA;SMALL LETTER ZEMLYA",
  "A642 CYRILLIC |CAPITAL LETTER DZELO;SMALL LETTER DZELO;CAPITAL LETTER REVERSED DZE",
  "A645 CYRILLIC |SMALL LETTER REVERSED DZE;CAPITAL LETTER IOTA;SMALL LETTER IOTA",
  "A648 CYRILLIC |CAPITAL LETTER DJERV;SMALL LETTER DJERV;CAPITAL LETTER MONOGRAPH UK",
  "A64B CYRILLIC |SMALL LETTER MONOGRAPH UK;CAPITAL LETTER BROAD OMEGA",
  "A64D CYRILLIC |SMALL LETTER BROAD OMEGA;CAPITAL LETTER NEUTRAL YER;SMALL LETTER NEUTRAL YER",
  "A650 CYRILLIC |CAPITAL LETTER YERU WITH BACK YER;SMALL LETTER YERU WITH BACK YER",
  "A652 CYRILLIC |CAPITAL LETTER IOTIFIED YAT;SMALL LETTER IOTIFIED YAT",
  "A654 CYRILLIC |CAPITAL LETTER REVERSED YU;SMALL LETTER REVERSED YU;CAPITAL LETTER IOTIFIED A",
  "A657 CYRILLIC |SMALL LETTER IOTIFIED A;CAPITAL LETTER CLOSED LITTLE YUS",
  "A659 CYRILLIC |SMALL LETTER CLOSED LITTLE YUS;CAPITAL LETTER BLENDED YUS",
  "A65B CYRILLIC |SMALL LETTER BLENDED YUS;CAPITAL LETTER IOTIFIED CLOSED LITTLE YUS",
  "A65D CYRILLIC |SMALL LETTER IOTIFIED CLOSED LITTLE YUS;CAPITAL LETTER YN",
  "A65F CYRILLIC |SMALL LETTER YN;CAPITAL LETTER REVERSED TSE;SMALL LETTER REVERSED TSE",
  "A662 CYRILLIC |CAPITAL LETTER SOFT DE;SMALL LETTER SOFT DE;CAPITAL LETTER SOFT EL",
  "A665 CYRILLIC |SMALL LETTER SOFT EL;CAPITAL LETTER SOFT EM;SMALL LETTER SOFT EM",
  "A668 CYRILLIC |CAPITAL LETTER MONOCULAR O;SMALL LETTER MONOCULAR O;CAPITAL LETTER BINOCULAR O",
  "A66B CYRILLIC |SMALL LETTER BINOCULAR O;CAPITAL LETTER DOUBLE MONOCULAR O",
  "A66D CYRILLIC |SMALL LETTER DOUBLE MONOCULAR O;LETTER MULTIOCULAR O",
  "A66F COMBINING CYRILLIC |VZMET;TEN MILLIONS SIGN;HUNDRED MILLIONS SIGN;THOUSAND MILLIONS SIGN",
  "A673 SLAVONIC |ASTERISK",
  "A674 COMBINING CYRILLIC LETTER |UKRAINIAN IE;I;YI;U;HARD SIGN;YERU;SOFT SIGN;OMEGA",
  "A67C COMBINING CYRILLIC |KAVYKA;PAYEROK",
  "A67E CYRILLIC |KAVYKA;PAYEROK",
  "A680 CYRILLIC |CAPITAL LETTER DWE;SMALL LETTER DWE;CAPITAL LETTER DZWE;SMALL LETTER DZWE",
  "A684 CYRILLIC |CAPITAL LETTER ZHWE;SMALL LETTER ZHWE;CAPITAL LETTER CCHE;SMALL LETTER CCHE",
  "A688 CYRILLIC |CAPITAL LETTER DZZE;SMALL LETTER DZZE;CAPITAL LETTER TE WITH MIDDLE HOOK",
  "A68B CYRILLIC |SMALL LETTER TE WITH MIDDLE HOOK;CAPITAL LETTER TWE",
  "A68D CYRILLIC |SMALL LETTER TWE;CAPITAL LETTER TSWE;SMALL LETTER TSWE;CAPITAL LETTER TSSE",
  "A691 CYRILLIC |SMALL LETTER TSSE;CAPITAL LETTER TCHE;SMALL LETTER TCHE;CAPITAL LETTER HWE",
  "A695 CYRILLIC |SMALL LETTER HWE;CAPITAL LETTER SHWE;SMALL LETTER SHWE;CAPITAL LETTER DOUBLE O",
  "A699 CYRILLIC |SMALL LETTER DOUBLE O;CAPITAL LETTER CROSSED O;SMALL LETTER CROSSED O",
  "A69C MODIFIER LETTER CYRILLIC |HARD SIGN;SOFT SIGN",
  "A69E COMBINING CYRILLIC LETTER |EF;IOTIFIED E",
  "A6A0 BAMUM LETTER |A;KA;U;KU;EE;REE;TAE;O;NYI;I",
  "A6AA BAMUM LETTER |LA;PA;RII;RIEE;LEEEE;MEEEE;TAA;NDAA;NJAEM;M;SUU;MU;SHII;SI;SHEUX;SEUX;KYEE",
  "A6BB BAMUM LETTER |KET;NUAE;NU;NJUAE;YOQ;SHU;YUQ;YA;NSHA;KEUX;PEUX;NJEE;NTEE;PUE;WUE;PEE;FEE",
  "A6CC BAMUM LETTER |RU;LU;MI;NI;REUX;RAE;KEN;NGKWAEN;NGGA;NGA;SHO;PUAE;FU;FOM;WA;NA;LI;PI;LOQ",
  "A6DF BAMUM LETTER |KO;MBEN;REN;MEN;MA;TI;KI;MO;MBAA;TET;KPA;TEN;NTUU;SAMBA;FAAMAE;KOVUU;KOGHOM",
  "A6F0 BAMUM COMBINING MARK |KOQNDON;TUKWENTIS",
  "A6F2 BAMUM |NJAEMLI;FULL STOP;COLON;COMMA;SEMICOLON;QUESTION MARK",
  "A700 MODIFIER LETTER CHINESE TONE |YIN PING;YANG PING",
  "A702 MODIFIER LETTER CHINESE TONE |YIN SHANG;YANG SHANG;YIN QU;YANG QU;YIN RU;YANG RU",
  "A708 MODIFIER LETTER |EXTRA-HIGH DOTTED TONE BAR;HIGH DOTTED TONE BAR",
  "A70A MODIFIER LETTER |MID DOTTED TONE BAR;LOW DOTTED TONE BAR;EXTRA-LOW DOTTED TONE BAR",
  "A70D MODIFIER LETTER |EXTRA-HIGH DOTTED LEFT-STEM TONE BAR;HIGH DOTTED LEFT-STEM TONE BAR",
  "A70F MODIFIER LETTER |MID DOTTED LEFT-STEM TONE BAR;LOW DOTTED LEFT-STEM TONE BAR",
  "A711 MODIFIER LETTER EXTRA-|LOW DOTTED LEFT-STEM TONE BAR;HIGH LEFT-STEM TONE BAR",
  "A713 MODIFIER LETTER |HIGH LEFT-STEM TONE BAR;MID LEFT-STEM TONE BAR",
  "A715 MODIFIER LETTER |LOW LEFT-STEM TONE BAR;EXTRA-LOW LEFT-STEM TONE BAR",
  "A717 MODIFIER LETTER |DOT VERTICAL BAR;DOT SLASH;DOT HORIZONTAL BAR;LOWER RIGHT CORNER ANGLE",
  "A71B MODIFIER LETTER RAISED |UP ARROW;DOWN ARROW;EXCLAMATION MARK;INVERTED EXCLAMATION MARK",
  "A71F MODIFIER LETTER |LOW INVERTED EXCLAMATION MARK;STRESS AND HIGH TONE;STRESS AND LOW TONE",
  "A722 LATIN CAPITAL LETTER EGYPTOLOGICAL |ALEF",
  "A723 LATIN |SMALL LETTER EGYPTOLOGICAL ALEF;CAPITAL LETTER EGYPTOLOGICAL AIN",
  "A725 LATIN |SMALL LETTER EGYPTOLOGICAL AIN;CAPITAL LETTER HENG",
  "A727 LATIN |SMALL LETTER HENG;CAPITAL LETTER TZ;SMALL LETTER TZ;CAPITAL LETTER TRESILLO",
  "A72B LATIN |SMALL LETTER TRESILLO;CAPITAL LETTER CUATRILLO;SMALL LETTER CUATRILLO",
  "A72E LATIN |CAPITAL LETTER CUATRILLO WITH COMMA;SMALL LETTER CUATRILLO WITH COMMA",
  "A730 LATIN LETTER SMALL CAPITAL |F;S",
  "A732 LATIN |CAPITAL LETTER AA;SMALL LETTER AA",
  "A734 LATIN |CAPITAL LETTER AO;SMALL LETTER AO;CAPITAL LETTER AU;SMALL LETTER AU",
  "A738 LATIN |CAPITAL LETTER AV;SMALL LETTER AV;CAPITAL LETTER AV WITH HORIZONTAL BAR",
  "A73B LATIN |SMALL LETTER AV WITH HORIZONTAL BAR;CAPITAL LETTER AY;SMALL LETTER AY",
  "A73E LATIN |CAPITAL LETTER REVERSED C WITH DOT;SMALL LETTER REVERSED C WITH DOT",
  "A740 LATIN |CAPITAL LETTER K WITH STROKE;SMALL LETTER K WITH STROKE",
  "A742 LATIN |CAPITAL LETTER K WITH DIAGONAL STROKE;SMALL LETTER K WITH DIAGONAL STROKE",
  "A744 LATIN CAPITAL LETTER K WITH STROKE AND DIAGONAL |STROKE",
  "A745 LATIN SMALL LETTER K WITH STROKE AND DIAGONAL |STROKE",
  "A746 LATIN |CAPITAL LETTER BROKEN L;SMALL LETTER BROKEN L",
  "A748 LATIN |CAPITAL LETTER L WITH HIGH STROKE;SMALL LETTER L WITH HIGH STROKE",
  "A74A LATIN |CAPITAL LETTER O WITH LONG STROKE OVERLAY;SMALL LETTER O WITH LONG STROKE OVERLAY",
  "A74C LATIN |CAPITAL LETTER O WITH LOOP;SMALL LETTER O WITH LOOP",
  "A74E LATIN |CAPITAL LETTER OO;SMALL LETTER OO;CAPITAL LETTER P WITH STROKE THROUGH DESCENDER",
  "A751 LATIN |SMALL LETTER P WITH STROKE THROUGH DESCENDER;CAPITAL LETTER P WITH FLOURISH",
  "A753 LATIN |SMALL LETTER P WITH FLOURISH;CAPITAL LETTER P WITH SQUIRREL TAIL",
  "A755 LATIN |SMALL LETTER P WITH SQUIRREL TAIL;CAPITAL LETTER Q WITH STROKE THROUGH DESCENDER",
  "A757 LATIN |SMALL LETTER Q WITH STROKE THROUGH DESCENDER;CAPITAL LETTER Q WITH DIAGONAL STROKE",
  "A759 LATIN |SMALL LETTER Q WITH DIAGONAL STROKE;CAPITAL LETTER R ROTUNDA",
  "A75B LATIN |SMALL LETTER R ROTUNDA;CAPITAL LETTER RUM ROTUNDA;SMALL LETTER RUM ROTUNDA",
  "A75E LATIN |CAPITAL LETTER V WITH DIAGONAL STROKE;SMALL LETTER V WITH DIAGONAL STROKE",
  "A760 LATIN |CAPITAL LETTER VY;SMALL LETTER VY;CAPITAL LETTER VISIGOTHIC Z",
  "A763 LATIN |SMALL LETTER VISIGOTHIC Z;CAPITAL LETTER THORN WITH STROKE",
  "A765 LATIN |SMALL LETTER THORN WITH STROKE;CAPITAL LETTER THORN WITH STROKE THROUGH DESCENDER",
  "A767 LATIN |SMALL LETTER THORN WITH STROKE THROUGH DESCENDER;CAPITAL LETTER VEND",
  "A769 LATIN |SMALL LETTER VEND;CAPITAL LETTER ET;SMALL LETTER ET;CAPITAL LETTER IS",
  "A76D |LATIN SMALL LETTER IS;LATIN CAPITAL LETTER CON;LATIN SMALL LETTER CON;MODIFIER LETTER US",
  "A771 LATIN SMALL LETTER |DUM;LUM;MUM;NUM;RUM",
  "A776 LATIN |LETTER SMALL CAPITAL RUM;SMALL LETTER TUM;SMALL LETTER UM;CAPITAL LETTER INSULAR D",
  "A77A LATIN |SMALL LETTER INSULAR D;CAPITAL LETTER INSULAR F;SMALL LETTER INSULAR F",
  "A77D LATIN CAPITAL LETTER |INSULAR G;TURNED INSULAR G",
  "A77F LATIN |SMALL LETTER TURNED INSULAR G;CAPITAL LETTER TURNED L;SMALL LETTER TURNED L",
  "A782 LATIN |CAPITAL LETTER INSULAR R;SMALL LETTER INSULAR R;CAPITAL LETTER INSULAR S",
  "A785 LATIN |SMALL LETTER INSULAR S;CAPITAL LETTER INSULAR T;SMALL LETTER INSULAR T",
  "A788 MODIFIER LETTER |LOW CIRCUMFLEX ACCENT;COLON;SHORT EQUALS SIGN",
  "A78B LATIN |CAPITAL LETTER SALTILLO;SMALL LETTER SALTILLO",
  "A78D LATIN |CAPITAL LETTER TURNED H;SMALL LETTER L WITH RETROFLEX HOOK AND BELT",
  "A78F LATIN |LETTER SINOLOGICAL DOT;CAPITAL LETTER N WITH DESCENDER",
  "A791 LATIN |SMALL LETTER N WITH DESCENDER;CAPITAL LETTER C WITH BAR",
  "A793 LATIN SMALL LETTER |C WITH BAR;C WITH PALATAL HOOK;H WITH PALATAL HOOK",
  "A796 LATIN |CAPITAL LETTER B WITH FLOURISH;SMALL LETTER B WITH FLOURISH",
  "A798 LATIN |CAPITAL LETTER F WITH STROKE;SMALL LETTER F WITH STROKE",
  "A79A LATIN |CAPITAL LETTER VOLAPUK AE;SMALL LETTER VOLAPUK AE;CAPITAL LETTER VOLAPUK OE",
  "A79D LATIN |SMALL LETTER VOLAPUK OE;CAPITAL LETTER VOLAPUK UE;SMALL LETTER VOLAPUK UE",
  "A7A0 LATIN |CAPITAL LETTER G WITH OBLIQUE STROKE;SMALL LETTER G WITH OBLIQUE STROKE",
  "A7A2 LATIN |CAPITAL LETTER K WITH OBLIQUE STROKE;SMALL LETTER K WITH OBLIQUE STROKE",
  "A7A4 LATIN |CAPITAL LETTER N WITH OBLIQUE STROKE;SMALL LETTER N WITH OBLIQUE STROKE",
  "A7A6 LATIN |CAPITAL LETTER R WITH OBLIQUE STROKE;SMALL LETTER R WITH OBLIQUE STROKE",
  "A7A8 LATIN |CAPITAL LETTER S WITH OBLIQUE STROKE;SMALL LETTER S WITH OBLIQUE STROKE",
  "A7AA LATIN CAPITAL LETTER |H WITH HOOK;REVERSED OPEN E;SCRIPT G;L WITH BELT;SMALL CAPITAL I",
  "A7AF LATIN LETTER SMALL CAPITAL |Q",
  "A7B0 LATIN CAPITAL LETTER |TURNED K;TURNED T;J WITH CROSSED-TAIL;CHI;BETA",
  "A7B5 LATIN |SMALL LETTER BETA;CAPITAL LETTER OMEGA",
  "A7B7 LATIN |SMALL LETTER OMEGA;CAPITAL LETTER U WITH STROKE;SMALL LETTER U WITH STROKE",
  "A7BA LATIN |CAPITAL LETTER GLOTTAL A;SMALL LETTER GLOTTAL A;CAPITAL LETTER GLOTTAL I",
  "A7BD LATIN |SMALL LETTER GLOTTAL I;CAPITAL LETTER GLOTTAL U;SMALL LETTER GLOTTAL U",
  "A7C0 LATIN |CAPITAL LETTER OLD POLISH O;SMALL LETTER OLD POLISH O;CAPITAL LETTER ANGLICANA W",
  "A7C3 LATIN |SMALL LETTER ANGLICANA W;CAPITAL LETTER C WITH PALATAL HOOK",
  "A7C5 LATIN CAPITAL LETTER |S WITH HOOK;Z WITH PALATAL HOOK;D WITH SHORT STROKE OVERLAY",
  "A7C8 LATIN SMALL LETTER D WITH SHORT STROKE |OVERLAY",
  "A7C9 LATIN CAPITAL LETTER S WITH SHORT STROKE |OVERLAY",
  "A7CA LATIN SMALL LETTER S WITH SHORT STROKE |OVERLAY",
  "A7D0 LATIN |CAPITAL LETTER CLOSED INSULAR G;SMALL LETTER CLOSED INSULAR G",
  "A7D3 LATIN SMALL LETTER DOUBLE |THORN",
  "A7D5 LATIN |SMALL LETTER DOUBLE WYNN;CAPITAL LETTER MIDDLE SCOTS S",
  "A7D7 LATIN |SMALL LETTER MIDDLE SCOTS S;CAPITAL LETTER SIGMOID S;SMALL LETTER SIGMOID S",
  "A7F2 MODIFIER LETTER CAPITAL |C;F;Q",
  "A7F5 LATIN CAPITAL LETTER REVERSED HALF |H",
  "A7F6 LATIN |SMALL LETTER REVERSED HALF H;EPIGRAPHIC LETTER SIDEWAYS I",
  "A7F8 MODIFIER LETTER |CAPITAL H WITH STROKE;SMALL LIGATURE OE",
  "A7FA LATIN LETTER SMALL CAPITAL TURNED |M",
  "A7FB LATIN EPIGRAPHIC LETTER |REVERSED F;REVERSED P;INVERTED M;I LONGA;ARCHAIC M",
  "A800 SYLOTI NAGRI |LETTER A;LETTER I;SIGN DVISVARA;LETTER U;LETTER E;LETTER O",
  "A806 SYLOTI NAGRI |SIGN HASANTA;LETTER KO;LETTER KHO;LETTER GO;LETTER GHO;SIGN ANUSVARA",
  "A80C SYLOTI NAGRI LETTER |CO;CHO;JO;JHO",
  "A810 SYLOTI NAGRI LETTER |TTO;TTHO;DDO;DDHO;TO;THO;DO;DHO;NO;PO;PHO;BO;BHO;MO;RO;LO;RRO;SO;HO",
  "A823 SYLOTI NAGRI VOWEL SIGN |A;I;U;E;OO",
  "A828 SYLOTI NAGRI POETRY MARK-|1;2;3;4",
  "A82C SYLOTI NAGRI SIGN ALTERNATE |HASANTA",
  "A830 NORTH INDIC FRACTION ONE |QUARTER;HALF",
  "A832 NORTH INDIC FRACTION |THREE QUARTERS;ONE SIXTEENTH;ONE EIGHTH;THREE SIXTEENTHS",
  "A836 NORTH INDIC |QUARTER MARK;PLACEHOLDER MARK;RUPEE MARK;QUANTITY MARK",
  "A840 PHAGS-PA LETTER |KA;KHA;GA;NGA;CA;CHA;JA;NYA;TA;THA;DA;NA;PA;PHA;BA;MA;TSA",
  "A851 PHAGS-PA LETTER |TSHA;DZA;WA;ZHA;ZA;SMALL A;YA;RA;LA;SHA;SA;HA;A;I;U;E;O;QA;XA;FA;GGA;EE",
  "A867 PHAGS-PA SUBJOINED LETTER |WA;YA",
  "A869 PHAGS-PA LETTER |TTA;TTHA;DDA;NNA;ALTERNATE YA;VOICELESS SHA;VOICED HA;ASPIRATED FA",
  "A871 PHAGS-PA |SUBJOINED LETTER RA;SUPERFIXED LETTER RA",
  "A873 PHAGS-PA |LETTER CANDRABINDU;SINGLE HEAD MARK;DOUBLE HEAD MARK;MARK SHAD;MARK DOUBLE SHAD",
  "A880 SAURASHTRA SIGN |ANUSVARA;VISARGA",
  "A882 SAURASHTRA LETTER |A;AA;I;II;U;UU;VOCALIC R;VOCALIC RR;VOCALIC L;VOCALIC LL",
  "A88C SAURASHTRA LETTER |E;EE;AI;O;OO;AU;KA;KHA;GA;GHA;NGA;CA;CHA;JA;JHA;NYA;TTA;TTHA;DDA;DDHA",
  "A8A0 SAURASHTRA LETTER |NNA;TA;THA;DA;DHA;NA;PA;PHA;BA;BHA;MA;YA;RA;LA;VA;SHA;SSA;SA;HA;LLA",
  "A8B4 SAURASHTRA |CONSONANT SIGN HAARU;VOWEL SIGN AA;VOWEL SIGN I",
  "A8B7 SAURASHTRA VOWEL SIGN |II;U;UU;VOCALIC R;VOCALIC RR;VOCALIC L;VOCALIC LL;E;EE;AI;O;OO;AU",
  "A8C4 SAURASHTRA SIGN |VIRAMA;CANDRABINDU",
  "A8CE SAURASHTRA |DANDA;DOUBLE DANDA",
  "A8D0 SAURASHTRA DIGIT |ZERO;ONE;TWO;THREE;FOUR;FIVE;SIX;SEVEN;EIGHT;NINE",
  "A8E0 COMBINING DEVANAGARI DIGIT |ZERO;ONE;TWO;THREE;FOUR;FIVE;SIX;SEVEN;EIGHT;NINE",
  "A8EA COMBINING DEVANAGARI LETTER |A;U;KA;NA;PA;RA;VI",
  "A8F1 COMBINING DEVANAGARI SIGN |AVAGRAHA",
  "A8F2 DEVANAGARI SIGN |SPACING CANDRABINDU;CANDRABINDU VIRAMA;DOUBLE CANDRABINDU VIRAMA",
  "A8F5 DEVANAGARI SIGN |CANDRABINDU TWO;CANDRABINDU THREE;CANDRABINDU AVAGRAHA;PUSHPIKA",
  "A8F9 DEVANAGARI |GAP FILLER;CARET;HEADSTROKE;SIGN SIDDHAM;JAIN OM;LETTER AY;VOWEL SIGN AY",
  "A900 KAYAH LI DIGIT |ZERO;ONE;TWO;THREE;FOUR;FIVE;SIX;SEVEN;EIGHT;NINE",
  "A90A KAYAH LI LETTER |KA;KHA;GA;NGA;SA",
  "A90F KAYAH LI LETTER |SHA;ZA;NYA;TA;HTA;NA;PA;PHA;MA;DA;BA;RA;YA;LA;WA;THA;HA;VA;CA;A;OE;I;OO",
  "A926 KAYAH LI VOWEL |UE;E;U;EE;O",
  "A92B KAYAH LI |TONE PLOPHU;TONE CALYA;TONE CALYA PLOPHU;SIGN CWI;SIGN SHYA",
  "A930 REJANG LETTER |KA",
  "A931 REJANG LETTER |GA;NGA;TA;DA;NA;PA;BA;MA;CA;JA;NYA;SA;RA;LA;YA;WA;HA;MBA;NGGA;NDA;NYJA;A",
  "A947 REJANG VOWEL SIGN |I;U;E;AI;O;AU;EU;EA",
  "A94F REJANG CONSONANT SIGN |NG;N;R;H",
  "A953 REJANG |VIRAMA",
  "A95F REJANG SECTION |MARK",
  "A960 HANGUL CHOSEONG TIKEUT-|MIEUM;PIEUP;SIOS;CIEUC",
  "A964 HANGUL CHOSEONG RIEUL-|KIYEOK;SSANGKIYEOK;TIKEUT;SSANGTIKEUT",
  "A968 HANGUL CHOSEONG RIEUL-|MIEUM;PIEUP;SSANGPIEUP;KAPYEOUNPIEUP;SIOS;CIEUC;KHIEUKH",
  "A96F HANGUL CHOSEONG |MIEUM-KIYEOK;MIEUM-TIKEUT;MIEUM-SIOS;PIEUP-SIOS-THIEUTH",
  "A973 HANGUL CHOSEONG |PIEUP-KHIEUKH;PIEUP-HIEUH;SSANGSIOS-PIEUP;IEUNG-RIEUL;IEUNG-HIEUH",
  "A978 HANGUL CHOSEONG |SSANGCIEUC-HIEUH;SSANGTHIEUTH;PHIEUPH-HIEUH;HIEUH-SIOS;SSANGYEORINHIEUH",
  "A980 JAVANESE SIGN |PANYANGGA;CECAK;LAYAR;WIGNYAN",
  "A984 JAVANESE LETTER |A;I KAWI;I;II;U;PA CEREK;NGA LELET;NGA LELET RASWADI;E;AI;O;KA;KA SASAK",
  "A991 JAVANESE LETTER |KA MURDA;GA;GA MURDA;NGA;CA;CA MURDA;JA;NYA MURDA;JA MAHAPRANA;NYA;TTA",
  "A99C JAVANESE LETTER |TTA MAHAPRANA;DDA;DDA MAHAPRANA;NA MURDA;TA;TA MURDA;DA;DA MAHAPRANA;NA",
  "A9A5 JAVANESE LETTER |PA;PA MURDA;BA;BA MURDA;MA;YA;RA;RA AGUNG;LA;WA;SA MURDA;SA MAHAPRANA;SA",
  "A9B2 JAVANESE |LETTER HA;SIGN CECAK TELU;VOWEL SIGN TARUNG",
  "A9B5 JAVANESE VOWEL SIGN |TOLONG;WULU;WULU MELIK;SUKU;SUKU MENDUT;TALING;DIRGA MURE;PEPET",
  "A9BD JAVANESE CONSONANT SIGN |KERET;PENGKAL;CAKRA",
  "A9C0 JAVANESE |PANGKON;LEFT RERENGGAN;RIGHT RERENGGAN",
  "A9C3 JAVANESE PADA |ANDAP;MADYA;LUHUR;WINDU;PANGKAT;LINGSA;LUNGSI;ADEG;ADEG ADEG;PISELEH",
  "A9CD JAVANESE TURNED PADA |PISELEH",
  "A9CF JAVANESE |PANGRANGKEP",
  "A9D0 JAVANESE DIGIT |ZERO;ONE;TWO;THREE;FOUR;FIVE;SIX;SEVEN;EIGHT;NINE",
  "A9DE JAVANESE PADA |TIRTA TUMETES;ISEN-ISEN",
  "A9E0 MYANMAR LETTER SHAN |GHA;CHA;JHA;NNA;BHA",
  "A9E5 MYANMAR |SIGN SHAN SAW;MODIFIER LETTER SHAN REDUPLICATION",
  "A9E7 MYANMAR LETTER TAI LAING |NYA;FA;GA;GHA;JA;JHA;DDA;DDHA;NNA",
  "A9F0 MYANMAR TAI LAING DIGIT |ZERO;ONE;TWO;THREE;FOUR;FIVE;SIX;SEVEN;EIGHT;NINE",
  "A9FA MYANMAR LETTER TAI LAING |LLA;DA;DHA;BA;BHA",
  "AA00 CHAM LETTER |A;I;U;E;AI;O;KA;KHA;GA;GHA;NGUE;NGA;CHA;CHHA;JA;JHA;NHUE;NHA;NHJA",
  "AA13 CHAM LETTER |TA;THA;DA;DHA;NUE;NA;DDA;PA;PPA;PHA;BA;BHA;MUE;MA;BBA;YA;RA;LA;VA;SSA;SA;HA",
  "AA29 CHAM VOWEL SIGN |AA;I;II;EI;U;OE;O;AI;AU;UE",
  "AA33 CHAM CONSONANT SIGN |YA;RA;LA;WA",
  "AA40 CHAM LETTER FINAL |K;G;NG",
  "AA43 CHAM CONSONANT SIGN FINAL |NG",
  "AA44 CHAM LETTER FINAL |CH;T;N;P;Y;R;L;SS",
  "AA4C CHAM CONSONANT SIGN FINAL |M;H",
  "AA50 CHAM DIGIT |ZERO;ONE;TWO;THREE;FOUR;FIVE;SIX;SEVEN;EIGHT;NINE",
  "AA5C CHAM PUNCTUATION |SPIRAL;DANDA;DOUBLE DANDA;TRIPLE DANDA",
  "AA60 MYANMAR LETTER KHAMTI |GA;CA;CHA;JA;JHA;NYA;TTA;TTHA;DDA;DDHA;DHA;NA;SA;HA;HHA;FA",
  "AA70 MYANMAR MODIFIER LETTER KHAMTI |REDUPLICATION",
  "AA71 MYANMAR LETTER KHAMTI |XA;ZA;RA",
  "AA74 MYANMAR LOGOGRAM KHAMTI |OAY;QN;HM",
  "AA77 MYANMAR SYMBOL AITON |EXCLAMATION;ONE;TWO",
  "AA7A MYANMAR |LETTER AITON RA;SIGN PAO KAREN TONE;SIGN TAI LAING TONE-2;SIGN TAI LAING TONE-5",
  "AA7E MYANMAR LETTER SHWE PALAUNG |CHA;SHA",
  "AA80 TAI VIET LETTER |LOW KO;HIGH KO;LOW KHO",
  "AA83 TAI VIET LETTER |HIGH KHO;LOW KHHO;HIGH KHHO;LOW GO;HIGH GO;LOW NGO;HIGH NGO;LOW CO",
  "AA8B TAI VIET LETTER |HIGH CO;LOW CHO;HIGH CHO;LOW SO;HIGH SO;LOW NYO;HIGH NYO;LOW DO;HIGH DO",
  "AA94 TAI VIET LETTER |LOW TO;HIGH TO;LOW THO;HIGH THO;LOW NO;HIGH NO;LOW BO;HIGH BO;LOW PO",
  "AA9D TAI VIET LETTER |HIGH PO;LOW PHO;HIGH PHO;LOW FO;HIGH FO;LOW MO;HIGH MO;LOW YO;HIGH YO",
  "AAA6 TAI VIET LETTER |LOW RO;HIGH RO;LOW LO;HIGH LO;LOW VO;HIGH VO;LOW HO;HIGH HO;LOW O;HIGH O",
  "AAB0 TAI VIET |MAI KANG;VOWEL AA;VOWEL I;VOWEL UE;VOWEL U;VOWEL E;VOWEL O;MAI KHIT",
  "AAB8 TAI VIET VOWEL |IA;UEA;UA;AUE;AY;AN;AM",
  "AABF TAI VIET TONE MAI |EK;NUENG;THO;SONG",
  "AADB TAI VIET SYMBOL |KON;NUENG;SAM;HO HOI;KOI KOI",
  "AAE0 MEETEI MAYEK LETTER |E;O;CHA;NYA;TTA;TTHA;DDA;DDHA;NNA;SHA;SSA",
  "AAEB MEETEI MAYEK VOWEL SIGN |II;UU;AAI;AU;AAU",
  "AAF0 MEETEI MAYEK |CHEIKHAN;AHANG KHUDAM;ANJI",
  "AAF3 MEETEI MAYEK |SYLLABLE REPETITION MARK;WORD REPETITION MARK;VOWEL SIGN VISARGA;VIRAMA",
  "AB01 ETHIOPIC SYLLABLE |TTHU;TTHI;TTHAA;TTHEE;TTHE;TTHO",
  "AB09 ETHIOPIC SYLLABLE |DDHU;DDHI;DDHAA;DDHEE;DDHE;DDHO",
  "AB11 ETHIOPIC SYLLABLE |DZU;DZI;DZAA;DZEE;DZE;DZO",
  "AB20 ETHIOPIC SYLLABLE |CCHHA;CCHHU;CCHHI;CCHHAA;CCHHEE;CCHHE;CCHHO",
  "AB28 ETHIOPIC SYLLABLE |BBA;BBU;BBI;BBAA;BBEE;BBE;BBO",
  "AB30 LATIN SMALL LETTER |BARRED ALPHA;A REVERSED-SCHWA;BLACKLETTER E;BARRED E;E WITH FLOURISH",
  "AB35 LATIN SMALL LETTER |LENIS F;SCRIPT G WITH CROSSED-TAIL;L WITH INVERTED LAZY S",
  "AB38 LATIN SMALL LETTER |L WITH DOUBLE MIDDLE TILDE;L WITH MIDDLE RING;M WITH CROSSED-TAIL",
  "AB3B LATIN SMALL LETTER |N WITH CROSSED-TAIL;ENG WITH CROSSED-TAIL;BLACKLETTER O",
  "AB3E LATIN SMALL LETTER |BLACKLETTER O WITH STROKE;OPEN O WITH STROKE;INVERTED OE",
  "AB41 LATIN SMALL LETTER TURNED OE WITH |STROKE;HORIZONTAL STROKE",
  "AB43 LATIN SMALL LETTER |TURNED O OPEN-O;TURNED O OPEN-O WITH STROKE;STIRRUP R",
  "AB46 LATIN |LETTER SMALL CAPITAL R WITH RIGHT LEG;SMALL LETTER R WITHOUT HANDLE",
  "AB48 LATIN SMALL LETTER |DOUBLE R;R WITH CROSSED-TAIL;DOUBLE R WITH CROSSED-TAIL",
  "AB4B LATIN SMALL LETTER |SCRIPT R;SCRIPT R WITH RING;BASELINE ESH;U WITH SHORT RIGHT LEG",
  "AB4F LATIN SMALL LETTER |U BAR WITH SHORT RIGHT LEG;UI;TURNED UI;U WITH LEFT HOOK;CHI",
  "AB54 LATIN SMALL LETTER |CHI WITH LOW RIGHT RING;CHI WITH LOW LEFT SERIF;X WITH LOW RIGHT RING",
  "AB57 LATIN SMALL LETTER X WITH LONG LEFT |LEG;LEG AND LOW RIGHT RING;LEG WITH SERIF",
  "AB5A |LATIN SMALL LETTER Y WITH SHORT RIGHT LEG;MODIFIER BREVE WITH INVERTED BREVE",
  "AB5C MODIFIER LETTER SMALL |HENG;L WITH INVERTED LAZY S;L WITH MIDDLE TILDE;U WITH LEFT HOOK",
  "AB60 LATIN SMALL LETTER |SAKHA YAT;IOTIFIED E;OPEN OE;UO;INVERTED ALPHA",
  "AB65 |GREEK LETTER SMALL CAPITAL OMEGA;LATIN SMALL LETTER DZ DIGRAPH WITH RETROFLEX HOOK",
  "AB67 LATIN SMALL LETTER |TS DIGRAPH WITH RETROFLEX HOOK;TURNED R WITH MIDDLE TILDE",
  "AB69 MODIFIER LETTER |SMALL TURNED W;LEFT TACK;RIGHT TACK",
  "AB70 CHEROKEE SMALL LETTER |A;E;I;O;U;V;GA;KA;GE;GI;GO;GU;GV;HA;HE;HI;HO;HU;HV;LA;LE",
  "AB85 CHEROKEE SMALL LETTER |LI;LO;LU;LV;MA;ME;MI;MO;MU;NA;HNA;NAH;NE;NI;NO;NU;NV;QUA;QUE;QUI",
  "AB99 CHEROKEE SMALL LETTER |QUO;QUU;QUV;SA;S;SE;SI;SO;SU;SV;DA;TA;DE;TE;DI;TI;DO;DU;DV;DLA;TLA",
  "ABAE CHEROKEE SMALL LETTER |TLE;TLI;TLO;TLU;TLV;TSA;TSE;TSI;TSO;TSU;TSV;WA;WE;WI;WO;WU;WV;YA",
  "ABC0 MEETEI MAYEK LETTER |KOK;SAM;LAI;MIT;PA;NA;CHIL;TIL;KHOU;NGOU;THOU;WAI;YANG;HUK;UN;I;PHAM",
  "ABD1 MEETEI MAYEK LETTER |ATIYA;GOK;JHAM;RAI;BA;JIL;DIL;GHOU;DHOU;BHAM;KOK LONSUM;LAI LONSUM",
  "ABDD MEETEI MAYEK LETTER |MIT LONSUM;PA LONSUM;NA LONSUM;TIL LONSUM;NGOU LONSUM;I LONSUM",
  "ABE3 MEETEI MAYEK VOWEL SIGN |ONAP;INAP;ANAP;YENAP;SOUNAP;UNAP;CHEINAP;NUNG",
  "ABEB MEETEI MAYEK |CHEIKHEI;LUM IYEK;APUN IYEK",
  "ABF0 MEETEI MAYEK DIGIT |ZERO;ONE;TWO;THREE;FOUR;FIVE;SIX;SEVEN;EIGHT;NINE",
  "D7B0 HANGUL JUNGSEONG |O-YEO;O-O-I;YO-A;YO-AE;YO-EO;U-YEO;U-I-I;YU-AE;YU-O;EU-A;EU-EO",
  "D7BB HANGUL JUNGSEONG |EU-E;EU-O;I-YA-O;I-YAE;I-YEO;I-YE;I-O-I;I-YO;I-YU;I-I;ARAEA-A;ARAEA-E",
  "D7CB HANGUL JONGSEONG |NIEUN-RIEUL;NIEUN-CHIEUCH;SSANGTIKEUT;SSANGTIKEUT-PIEUP",
  "D7CF HANGUL JONGSEONG TIKEUT-|PIEUP;SIOS;SIOS-KIYEOK;CIEUC;CHIEUCH;THIEUTH",
  "D7D5 HANGUL JONGSEONG |RIEUL-SSANGKIYEOK;RIEUL-KIYEOK-HIEUH;SSANGRIEUL-KHIEUKH",
  "D7D8 HANGUL JONGSEONG RIEUL-|MIEUM-HIEUH;PIEUP-TIKEUT;PIEUP-PHIEUPH;YESIEUNG;YEORINHIEUH-HIEUH",
  "D7DD HANGUL JONGSEONG |KAPYEOUNRIEUL;MIEUM-NIEUN;MIEUM-SSANGNIEUN;SSANGMIEUM;MIEUM-PIEUP-SIOS",
  "D7E2 HANGUL JONGSEONG |MIEUM-CIEUC;PIEUP-TIKEUT;PIEUP-RIEUL-PHIEUPH;PIEUP-MIEUM;SSANGPIEUP",
  "D7E7 HANGUL JONGSEONG PIEUP-|SIOS-TIKEUT;CIEUC;CHIEUCH",
  "D7EA HANGUL JONGSEONG |SIOS-MIEUM;SIOS-KAPYEOUNPIEUP;SSANGSIOS-KIYEOK;SSANGSIOS-TIKEUT",
  "D7EE HANGUL JONGSEONG SIOS-|PANSIOS;CIEUC;CHIEUCH;THIEUTH;HIEUH",
  "D7F3 HANGUL JONGSEONG |PANSIOS-PIEUP;PANSIOS-KAPYEOUNPIEUP;YESIEUNG-MIEUM;YESIEUNG-HIEUH",
  "D7F7 HANGUL JONGSEONG |CIEUC-PIEUP;CIEUC-SSANGPIEUP;SSANGCIEUC;PHIEUPH-SIOS;PHIEUPH-THIEUTH"]

end ElementLocator.Regex.CharacterName
