/-! # Character names: rows for U+0590 to U+08FF

    The names of Hebrew, Arabic, Syriac and the scripts near to them. -/

namespace ElementLocator.Regex.CharacterName

/-- Names from U+0590 to U+08FF. -/
def semiticRows : List String := [
  "591 HEBREW ACCENT |ETNAHTA;SEGOL;SHALSHELET;ZAQEF QATAN;ZAQEF GADOL",
  "596 HEBREW ACCENT |TIPEHA;REVIA;ZARQA;PASHTA;YETIV;TEVIR;GERESH;GERESH MUQDAM;GERSHAYIM",
  "59F HEBREW ACCENT |QARNEY PARA;TELISHA GEDOLA;PAZER;ATNAH HAFUKH;MUNAH;MAHAPAKH;MERKHA",
  "5A6 HEBREW ACCENT |MERKHA KEFULA;DARGA;QADMA;TELISHA QETANA;YERAH BEN YOMO;OLE;ILUY;DEHI;ZINOR",
  "5AF HEBREW MARK MASORA |CIRCLE",
  "5B0 HEBREW POINT |SHEVA;HATAF SEGOL;HATAF PATAH;HATAF QAMATS;HIRIQ;TSERE",
  "5B6 HEBREW POINT |SEGOL;PATAH;QAMATS;HOLAM;HOLAM HASER FOR VAV;QUBUTS;DAGESH OR MAPIQ;METEG",
  "5BE HEBREW PUNCTUATION |MAQAF",
  "5BF HEBREW |POINT RAFE;PUNCTUATION PASEQ;POINT SHIN DOT;POINT SIN DOT;PUNCTUATION SOF PASUQ",
  "5C4 HEBREW |MARK UPPER DOT;MARK LOWER DOT;PUNCTUATION NUN HAFUKHA;POINT QAMATS QATAN",
  "5D0 HEBREW LETTER |ALEF",
  "5D1 HEBREW LETTER |BET;GIMEL;DALET;HE;VAV;ZAYIN;HET;TET;YOD;FINAL KAF;KAF;LAMED;FINAL MEM;MEM",
  "5DF HEBREW LETTER |FINAL NUN;NUN;SAMEKH;AYIN;FINAL PE;PE;FINAL TSADI;TSADI;QOF;RESH;SHIN;TAV",
  "5EF HEBREW YOD |TRIANGLE",
  "5F0 HEBREW LIGATURE YIDDISH |DOUBLE VAV;VAV YOD;DOUBLE YOD",
  "5F3 HEBREW PUNCTUATION |GERESH;GERSHAYIM",
  "600 ARABIC |NUMBER SIGN;SIGN SANAH;FOOTNOTE MARKER;SIGN SAFHA;SIGN SAMVAT;NUMBER MARK ABOVE",
  "606 ARABIC-INDIC |CUBE ROOT;FOURTH ROOT",
  "608 ARABIC |RAY",
  "609 ARABIC-INDIC PER |MILLE SIGN;TEN THOUSAND SIGN",
  "60B |AFGHANI SIGN;ARABIC COMMA",
  "60D ARABIC |DATE SEPARATOR;POETIC VERSE SIGN;SIGN MISRA;SIGN SALLALLAHOU ALAYHE WASSALLAM",
  "611 ARABIC SIGN |ALAYHE ASSALLAM;RAHMATULLAH ALAYHE;RADI ALLAHOU ANHU;TAKHALLUS",
  "615 ARABIC SMALL |HIGH TAH;HIGH LIGATURE ALEF WITH LAM WITH YEH;HIGH ZAIN;FATHA;DAMMA;KASRA",
  "61B ARABIC |SEMICOLON;LETTER MARK;END OF TEXT MARK;TRIPLE DOT PUNCTUATION MARK;QUESTION MARK",
  "620 ARABIC LETTER |KASHMIRI YEH;HAMZA;ALEF WITH MADDA ABOVE;ALEF WITH HAMZA ABOVE",
  "624 ARABIC LETTER |WAW WITH HAMZA ABOVE;ALEF WITH HAMZA BELOW;YEH WITH HAMZA ABOVE;ALEF",
  "628 ARABIC LETTER |BEH;TEH MARBUTA;TEH;THEH;JEEM;HAH;KHAH;DAL;THAL;REH;ZAIN;SEEN;SHEEN;SAD",
  "636 ARABIC LETTER |DAD;TAH;ZAH;AIN;GHAIN;KEHEH WITH TWO DOTS ABOVE;KEHEH WITH THREE DOTS BELOW",
  "63D ARABIC LETTER FARSI YEH WITH |INVERTED V;TWO DOTS ABOVE;THREE DOTS ABOVE",
  "640 ARABIC |TATWEEL",
  "641 ARABIC LETTER |FEH;QAF;KAF;LAM;MEEM;NOON;HEH;WAW;ALEF MAKSURA;YEH",
  "64B ARABIC |FATHATAN;DAMMATAN;KASRATAN;FATHA;DAMMA;KASRA;SHADDA;SUKUN;MADDAH ABOVE",
  "654 ARABIC |HAMZA ABOVE;HAMZA BELOW;SUBSCRIPT ALEF;INVERTED DAMMA;MARK NOON GHUNNA;ZWARAKAY",
  "65A ARABIC VOWEL SIGN |SMALL V ABOVE;INVERTED SMALL V ABOVE;DOT BELOW",
  "65D ARABIC |REVERSED DAMMA;FATHA WITH TWO DOTS;WAVY HAMZA BELOW",
  "660 ARABIC-INDIC DIGIT |ZERO;ONE;TWO;THREE;FOUR;FIVE;SIX;SEVEN;EIGHT;NINE",
  "66A ARABIC |PERCENT SIGN;DECIMAL SEPARATOR;THOUSANDS SEPARATOR;FIVE POINTED STAR",
  "66E ARABIC LETTER |DOTLESS BEH;DOTLESS QAF;SUPERSCRIPT ALEF;ALEF WASLA",
  "672 ARABIC LETTER ALEF WITH WAVY HAMZA |ABOVE;BELOW",
  "674 ARABIC LETTER |HIGH HAMZA;HIGH HAMZA ALEF;HIGH HAMZA WAW;U WITH HAMZA ABOVE;HIGH HAMZA YEH",
  "679 ARABIC LETTER |TTEH;TTEHEH;BEEH;TEH WITH RING;TEH WITH THREE DOTS ABOVE DOWNWARDS",
  "67E ARABIC LETTER |PEH;TEHEH;BEHEH;HAH WITH HAMZA ABOVE;HAH WITH TWO DOTS VERTICAL ABOVE",
  "683 ARABIC LETTER |NYEH;DYEH;HAH WITH THREE DOTS ABOVE;TCHEH;TCHEHEH;DDAL",
  "689 ARABIC LETTER DAL WITH |RING;DOT BELOW;DOT BELOW AND SMALL TAH",
  "68C ARABIC LETTER |DAHAL;DDAHAL;DUL;DAL WITH THREE DOTS ABOVE DOWNWARDS",
  "690 ARABIC LETTER |DAL WITH FOUR DOTS ABOVE;RREH;REH WITH SMALL V;REH WITH RING",
  "694 ARABIC LETTER REH WITH |DOT BELOW;SMALL V BELOW;DOT BELOW AND DOT ABOVE;TWO DOTS ABOVE",
  "698 ARABIC LETTER |JEH;REH WITH FOUR DOTS ABOVE;SEEN WITH DOT BELOW AND DOT ABOVE",
  "69B ARABIC LETTER SEEN WITH THREE DOTS |BELOW;BELOW AND THREE DOTS ABOVE",
  "69D ARABIC LETTER SAD WITH |TWO DOTS BELOW;THREE DOTS ABOVE",
  "69F ARABIC LETTER |TAH WITH THREE DOTS ABOVE;AIN WITH THREE DOTS ABOVE;DOTLESS FEH",
  "6A2 ARABIC LETTER |FEH WITH DOT MOVED BELOW;FEH WITH DOT BELOW;VEH;FEH WITH THREE DOTS BELOW",
  "6A6 ARABIC LETTER |PEHEH;QAF WITH DOT ABOVE;QAF WITH THREE DOTS ABOVE;KEHEH",
  "6AA ARABIC LETTER |SWASH KAF;KAF WITH RING;KAF WITH DOT ABOVE;NG;KAF WITH THREE DOTS BELOW;GAF",
  "6B0 ARABIC LETTER |GAF WITH RING;NGOEH;GAF WITH TWO DOTS BELOW;GUEH;GAF WITH THREE DOTS ABOVE",
  "6B5 ARABIC LETTER LAM WITH |SMALL V;DOT ABOVE;THREE DOTS ABOVE;THREE DOTS BELOW",
  "6B9 ARABIC LETTER |NOON WITH DOT BELOW;NOON GHUNNA;RNOON;NOON WITH RING",
  "6BD ARABIC LETTER |NOON WITH THREE DOTS ABOVE;HEH DOACHASHMEE;TCHEH WITH DOT ABOVE",
  "6C0 ARABIC LETTER |HEH WITH YEH ABOVE;HEH GOAL;HEH GOAL WITH HAMZA ABOVE;TEH MARBUTA GOAL",
  "6C4 ARABIC LETTER |WAW WITH RING;KIRGHIZ OE;OE;U;YU;KIRGHIZ YU;WAW WITH TWO DOTS ABOVE",
  "6CB ARABIC LETTER |VE;FARSI YEH;YEH WITH TAIL;YEH WITH SMALL V;WAW WITH DOT ABOVE;E",
  "6D1 ARABIC LETTER YEH |WITH THREE DOTS BELOW;BARREE;BARREE WITH HAMZA ABOVE",
  "6D4 ARABIC |FULL STOP;LETTER AE",
  "6D6 ARABIC SMALL HIGH LIGATURE |SAD WITH LAM WITH ALEF MAKSURA;QAF WITH LAM WITH ALEF MAKSURA",
  "6D8 ARABIC SMALL HIGH |MEEM INITIAL FORM;LAM ALEF;JEEM;THREE DOTS;SEEN",
  "6DD ARABIC |END OF AYAH;START OF RUB EL HIZB",
  "6DF ARABIC SMALL HIGH |ROUNDED ZERO;UPRIGHT RECTANGULAR ZERO;DOTLESS HEAD OF KHAH",
  "6E2 ARABIC SMALL |HIGH MEEM ISOLATED FORM;LOW SEEN;HIGH MADDA;WAW;YEH;HIGH YEH;HIGH NOON",
  "6E9 ARABIC |PLACE OF SAJDAH;EMPTY CENTRE LOW STOP",
  "6EB ARABIC |EMPTY CENTRE HIGH STOP;ROUNDED HIGH STOP WITH FILLED CENTRE;SMALL LOW MEEM",
  "6EE ARABIC LETTER |DAL WITH INVERTED V;REH WITH INVERTED V",
  "6F0 EXTENDED ARABIC-INDIC DIGIT |ZERO;ONE;TWO;THREE;FOUR;FIVE;SIX;SEVEN;EIGHT;NINE",
  "6FA ARABIC LETTER |SHEEN WITH DOT BELOW;DAD WITH DOT BELOW;GHAIN WITH DOT BELOW",
  "6FD ARABIC |SIGN SINDHI AMPERSAND;SIGN SINDHI POSTPOSITION MEN;LETTER HEH WITH INVERTED V",
  "700 SYRIAC |END OF PARAGRAPH;SUPRALINEAR FULL STOP;SUBLINEAR FULL STOP;SUPRALINEAR COLON",
  "704 SYRIAC |SUBLINEAR COLON;HORIZONTAL COLON;COLON SKEWED LEFT;COLON SKEWED RIGHT",
  "708 SYRIAC |SUPRALINEAR COLON SKEWED LEFT;SUBLINEAR COLON SKEWED RIGHT;CONTRACTION",
  "70B SYRIAC HARKLEAN |OBELUS;METOBELUS;ASTERISCUS",
  "70F SYRIAC |ABBREVIATION MARK;LETTER ALAPH",
  "711 SYRIAC LETTER |SUPERSCRIPT ALAPH;BETH;GAMAL;GAMAL GARSHUNI;DALATH;DOTLESS DALATH RISH",
  "717 SYRIAC LETTER |HE;WAW;ZAIN;HETH;TETH;TETH GARSHUNI;YUDH;YUDH HE;KAPH;LAMADH",
  "721 SYRIAC LETTER |MIM;NUN;SEMKATH;FINAL SEMKATH;E;PE;REVERSED PE;SADHE;QAPH;RISH;SHIN;TAW",
  "72D SYRIAC LETTER PERSIAN |BHETH;GHAMAL;DHALATH",
  "730 SYRIAC PTHAHA |ABOVE;BELOW;DOTTED",
  "733 SYRIAC ZQAPHA |ABOVE;BELOW;DOTTED",
  "736 SYRIAC RBASA |ABOVE;BELOW",
  "738 SYRIAC DOTTED ZLAMA |HORIZONTAL;ANGULAR",
  "73A SYRIAC HBASA |ABOVE;BELOW",
  "73C SYRIAC |HBASA-ESASA DOTTED;ESASA ABOVE;ESASA BELOW;RWAHA;FEMININE DOT;QUSHSHAYA;RUKKAKHA",
  "743 SYRIAC TWO VERTICAL DOTS |ABOVE;BELOW",
  "745 SYRIAC THREE DOTS |ABOVE;BELOW",
  "747 SYRIAC |OBLIQUE LINE ABOVE;OBLIQUE LINE BELOW;MUSIC;BARREKH",
  "74D SYRIAC LETTER SOGDIAN |ZHAIN;KHAPH;FE",
  "750 ARABIC LETTER BEH WITH |THREE DOTS HORIZONTALLY BELOW;DOT BELOW AND THREE DOTS ABOVE",
  "752 ARABIC LETTER BEH WITH THREE DOTS POINTING UPWARDS |BELOW;BELOW AND TWO DOTS ABOVE",
  "754 ARABIC LETTER BEH WITH |TWO DOTS BELOW AND DOT ABOVE;INVERTED SMALL V BELOW;SMALL V",
  "757 ARABIC LETTER HAH WITH |TWO DOTS ABOVE;THREE DOTS POINTING UPWARDS BELOW",
  "759 ARABIC LETTER DAL WITH |TWO DOTS VERTICALLY BELOW AND SMALL TAH;INVERTED SMALL V BELOW",
  "75B ARABIC LETTER |REH WITH STROKE;SEEN WITH FOUR DOTS ABOVE;AIN WITH TWO DOTS ABOVE",
  "75E ARABIC LETTER AIN WITH |THREE DOTS POINTING DOWNWARDS ABOVE;TWO DOTS VERTICALLY ABOVE",
  "760 ARABIC LETTER FEH WITH |TWO DOTS BELOW;THREE DOTS POINTING UPWARDS BELOW",
  "762 ARABIC LETTER KEHEH WITH |DOT ABOVE;THREE DOTS ABOVE;THREE DOTS POINTING UPWARDS BELOW",
  "765 ARABIC LETTER MEEM WITH DOT |ABOVE;BELOW",
  "767 ARABIC LETTER NOON WITH |TWO DOTS BELOW;SMALL TAH;SMALL V",
  "76A ARABIC LETTER |LAM WITH BAR;REH WITH TWO DOTS VERTICALLY ABOVE",
  "76C ARABIC LETTER |REH WITH HAMZA ABOVE;SEEN WITH TWO DOTS VERTICALLY ABOVE",
  "76E ARABIC LETTER HAH WITH SMALL ARABIC LETTER TAH |BELOW;AND TWO DOTS",
  "770 ARABIC LETTER SEEN WITH SMALL ARABIC LETTER TAH AND TWO |DOTS",
  "771 ARABIC LETTER REH WITH SMALL ARABIC LETTER TAH AND TWO |DOTS",
  "772 ARABIC LETTER HAH WITH SMALL ARABIC LETTER TAH |ABOVE",
  "773 ARABIC LETTER ALEF WITH EXTENDED ARABIC-INDIC DIGIT |TWO ABOVE;THREE ABOVE",
  "775 ARABIC LETTER FARSI YEH WITH EXTENDED ARABIC-INDIC DIGIT |TWO ABOVE;THREE ABOVE;FOUR BELOW",
  "778 ARABIC LETTER WAW WITH EXTENDED ARABIC-INDIC DIGIT |TWO ABOVE;THREE ABOVE",
  "77A ARABIC LETTER YEH BARREE WITH EXTENDED ARABIC-INDIC DIGIT |TWO ABOVE;THREE ABOVE",
  "77C ARABIC LETTER HAH WITH EXTENDED ARABIC-INDIC DIGIT FOUR |BELOW",
  "77D ARABIC LETTER SEEN WITH |EXTENDED ARABIC-INDIC DIGIT FOUR ABOVE;INVERTED V",
  "77F ARABIC LETTER KAF WITH TWO DOTS |ABOVE",
  "780 THAANA LETTER |HAA;SHAVIYANI;NOONU;RAA;BAA",
  "785 THAANA LETTER |LHAVIYANI;KAAFU;ALIFU;VAAVU;MEEMU;FAAFU;DHAALU;THAA;LAAMU;GAAFU;GNAVIYANI",
  "790 THAANA LETTER |SEENU;DAVIYANI;ZAVIYANI;TAVIYANI;YAA;PAVIYANI;JAVIYANI;CHAVIYANI;TTAA",
  "799 THAANA LETTER |HHAA;KHAA;THAALU;ZAA;SHEENU;SAADHU;DAADHU;TO;ZO;AINU;GHAINU;QAAFU;WAAVU",
  "7A6 THAANA |ABAFILI;AABAAFILI;IBIFILI",
  "7A9 THAANA |EEBEEFILI;UBUFILI;OOBOOFILI;EBEFILI;EYBEYFILI;OBOFILI;OABOAFILI;SUKUN;LETTER NAA",
  "7C0 NKO DIGIT |ZERO;ONE;TWO;THREE;FOUR;FIVE;SIX;SEVEN;EIGHT;NINE",
  "7CA NKO LETTER |A;EE;I;E;U;OO;O;DAGBASINNA;N;BA;PA;TA;JA;CHA;DA;RA;RRA;SA",
  "7DC NKO LETTER |GBA;FA;KA;LA;NA WOLOSO;MA;NYA;NA;HA;WA;YA;NYA WOLOSO;JONA JA;JONA CHA;JONA RA",
  "7EB NKO COMBINING SHORT |HIGH TONE;LOW TONE;RISING TONE",
  "7EE NKO COMBINING LONG |DESCENDING TONE;HIGH TONE;LOW TONE;RISING TONE",
  "7F2 NKO COMBINING |NASALIZATION MARK;DOUBLE DOT ABOVE",
  "7F4 NKO |HIGH TONE APOSTROPHE;LOW TONE APOSTROPHE",
  "7F6 NKO |SYMBOL OO DENNEN;SYMBOL GBAKURUNEN;COMMA;EXCLAMATION MARK;LAJANYALAN",
  "7FD NKO |DANTAYALAN;DOROME SIGN;TAMAN SIGN",
  "800 SAMARITAN LETTER |ALAF;BIT;GAMAN;DALAT;IY;BAA;ZEN",
  "807 SAMARITAN LETTER |IT;TIT;YUT;KAAF;LABAT;MIM;NUN;SINGAAT;IN;FI;TSAADIY;QUF;RISH;SHAN;TAAF",
  "816 SAMARITAN MARK |IN;IN-ALAF;OCCLUSION;DAGESH",
  "81A SAMARITAN |MODIFIER LETTER EPENTHETIC YUT;MARK EPENTHETIC YUT",
  "81C SAMARITAN VOWEL SIGN |LONG E;E;OVERLONG AA;LONG AA;AA;OVERLONG A;LONG A;A",
  "824 SAMARITAN MODIFIER LETTER SHORT |A",
  "825 SAMARITAN VOWEL SIGN |SHORT A;LONG U;U",
  "828 SAMARITAN MODIFIER LETTER |I",
  "829 SAMARITAN VOWEL SIGN |LONG I;I;O;SUKUN",
  "82D SAMARITAN MARK |NEQUDAA",
  "830 SAMARITAN PUNCTUATION |NEQUDAA;AFSAAQ;ANGED;BAU;ATMAAU;SHIYYAALAA",
  "836 SAMARITAN ABBREVIATION |MARK",
  "837 SAMARITAN PUNCTUATION |MELODIC QITSA;ZIQAA;QITSA;ZAEF;TURU;ARKAANU;SOF MASHFAAT;ANNAAU",
  "840 MANDAIC LETTER |HALQA;AB;AG;AD;AH;USHENNA",
  "846 MANDAIC LETTER |AZ;IT;ATT;AKSA;AK;AL;AM;AN;AS;IN;AP;ASZ;AQ;AR;ASH;AT;DUSHENNA;KAD;AIN",
  "859 MANDAIC |AFFRICATION MARK;VOCALIZATION MARK;GEMINATION MARK",
  "85E MANDAIC |PUNCTUATION",
  "860 SYRIAC LETTER MALAYALAM |NGA;JA;NYA;TTA;NNA;NNNA;BHA;RA;LLA;LLLA;SSA",
  "870 ARABIC LETTER ALEF WITH ATTACHED |FATHA;TOP RIGHT FATHA",
  "872 ARABIC LETTER ALEF WITH |RIGHT MIDDLE STROKE;LEFT MIDDLE STROKE",
  "874 ARABIC LETTER ALEF WITH ATTACHED |KASRA;BOTTOM RIGHT KASRA;ROUND DOT ABOVE",
  "877 ARABIC LETTER ALEF WITH ATTACHED |RIGHT ROUND DOT;LEFT ROUND DOT;ROUND DOT BELOW",
  "87A ARABIC LETTER ALEF WITH |DOT ABOVE;ATTACHED TOP RIGHT FATHA AND DOT ABOVE",
  "87C ARABIC LETTER ALEF WITH RIGHT MIDDLE STROKE AND DOT |ABOVE",
  "87D ARABIC LETTER ALEF WITH ATTACHED BOTTOM RIGHT KASRA AND DOT |ABOVE",
  "87E ARABIC LETTER ALEF WITH ATTACHED TOP RIGHT FATHA AND LEFT |RING",
  "87F ARABIC LETTER ALEF WITH RIGHT MIDDLE STROKE AND LEFT |RING",
  "880 ARABIC LETTER ALEF WITH ATTACHED |BOTTOM RIGHT KASRA AND LEFT RING;RIGHT HAMZA;LEFT HAMZA",
  "883 ARABIC TATWEEL WITH |OVERSTRUCK HAMZA;OVERSTRUCK WAW;TWO DOTS BELOW",
  "886 ARABIC |LETTER THIN YEH;BASELINE ROUND DOT;RAISED ROUND DOT",
  "889 ARABIC LETTER |NOON WITH INVERTED SMALL V;HAH WITH INVERTED SMALL V BELOW",
  "88B ARABIC LETTER TAH WITH |DOT BELOW;THREE DOTS BELOW",
  "88D ARABIC |LETTER KEHEH WITH TWO DOTS VERTICALLY BELOW;VERTICAL TAIL",
  "890 ARABIC |POUND MARK ABOVE;PIASTRE MARK ABOVE",
  "898 ARABIC SMALL |HIGH WORD AL-JUZ;LOW WORD ISHMAAM;LOW WORD IMAALA;LOW WORD TASHEEL",
  "89C ARABIC |MADDA WAAJIB;SUPERSCRIPT ALEF MOKHASSAS;DOUBLED MADDA;HALF MADDA OVER MADDA",
  "8A0 ARABIC LETTER |BEH WITH SMALL V BELOW;BEH WITH HAMZA ABOVE;JEEM WITH TWO DOTS ABOVE",
  "8A3 ARABIC LETTER |TAH WITH TWO DOTS ABOVE;FEH WITH DOT BELOW AND THREE DOTS ABOVE",
  "8A5 ARABIC LETTER |QAF WITH DOT BELOW;LAM WITH DOUBLE BAR;MEEM WITH THREE DOTS ABOVE",
  "8A8 ARABIC LETTER YEH WITH TWO DOTS BELOW AND |HAMZA ABOVE;DOT ABOVE",
  "8AA ARABIC LETTER REH WITH |LOOP",
  "8AB ARABIC LETTER |WAW WITH DOT WITHIN;ROHINGYA YEH;LOW ALEF;DAL WITH THREE DOTS BELOW",
  "8AF ARABIC LETTER |SAD WITH THREE DOTS BELOW;GAF WITH INVERTED STROKE;STRAIGHT WAW",
  "8B2 ARABIC LETTER |ZAIN WITH INVERTED V ABOVE;AIN WITH THREE DOTS BELOW;KAF WITH DOT BELOW",
  "8B5 ARABIC LETTER |QAF WITH DOT BELOW AND NO DOTS ABOVE;BEH WITH SMALL MEEM ABOVE",
  "8B7 ARABIC LETTER |PEH WITH SMALL MEEM ABOVE;TEH WITH SMALL TEH ABOVE",
  "8B9 ARABIC LETTER |REH WITH SMALL NOON ABOVE;YEH WITH TWO DOTS BELOW AND SMALL NOON ABOVE",
  "8BB ARABIC LETTER |AFRICAN FEH;AFRICAN QAF;AFRICAN NOON;PEH WITH SMALL V",
  "8BF ARABIC LETTER |TEH WITH SMALL V;TTEH WITH SMALL V;TCHEH WITH SMALL V;KEHEH WITH SMALL V",
  "8C3 ARABIC LETTER |GHAIN WITH THREE DOTS ABOVE;AFRICAN QAF WITH THREE DOTS ABOVE",
  "8C5 ARABIC LETTER JEEM WITH THREE DOTS |ABOVE;BELOW",
  "8C7 ARABIC |LETTER LAM WITH SMALL ARABIC LETTER TAH ABOVE;LETTER GRAF;SMALL FARSI YEH",
  "8CA ARABIC SMALL HIGH |FARSI YEH;YEH BARREE WITH TWO DOTS BELOW;WORD SAH;ZAH",
  "8CE ARABIC LARGE ROUND DOT |ABOVE;BELOW",
  "8D0 ARABIC |SUKUN BELOW;LARGE CIRCLE BELOW;LARGE ROUND DOT INSIDE CIRCLE BELOW;SMALL LOW WAW",
  "8D4 ARABIC SMALL HIGH |WORD AR-RUB;SAD;AIN;QAF;NOON WITH KASRA",
  "8D9 ARABIC SMALL LOW NOON WITH |KASRA",
  "8DA ARABIC SMALL HIGH WORD |ATH-THALATHA;AS-SAJDA;AN-NISF;SAKTA;QIF;WAQFA",
  "8E0 ARABIC SMALL HIGH |FOOTNOTE MARKER;SIGN SAFHA",
  "8E2 ARABIC |DISPUTED END OF AYAH;TURNED DAMMA BELOW",
  "8E4 ARABIC CURLY |FATHA;DAMMA;KASRA;FATHATAN;DAMMATAN;KASRATAN",
  "8EA ARABIC TONE |ONE DOT ABOVE;TWO DOTS ABOVE;LOOP ABOVE;ONE DOT BELOW;TWO DOTS BELOW",
  "8EF ARABIC |TONE LOOP BELOW;OPEN FATHATAN;OPEN DAMMATAN;OPEN KASRATAN;SMALL HIGH WAW",
  "8F4 ARABIC |FATHA WITH RING;FATHA WITH DOT ABOVE;KASRA WITH DOT BELOW;LEFT ARROWHEAD ABOVE",
  "8F8 ARABIC |RIGHT ARROWHEAD ABOVE;LEFT ARROWHEAD BELOW;RIGHT ARROWHEAD BELOW",
  "8FB ARABIC DOUBLE RIGHT ARROWHEAD |ABOVE;ABOVE WITH DOT",
  "8FD ARABIC |RIGHT ARROWHEAD ABOVE WITH DOT;DAMMA WITH DOT;MARK SIDEWAYS NOON GHUNNA"]

end ElementLocator.Regex.CharacterName
