/-! # Character names: rows for U+10000 to U+10FF6

    The names of scripts of the Mediterranean and of Persia. -/

namespace ElementLocator.Regex.CharacterName

/-- Names from U+10000 to U+10FF6. -/
def ancientRows : List String := [
  "10000 LINEAR B SYLLABLE |B008 A;B038 E;B028 I",
  "10003 LINEAR B SYLLABLE |B061 O;B010 U;B001 DA;B045 DE;B007 DI;B014 DO;B051 DU;B057 JA;B046 JE",
  "1000D LINEAR B SYLLABLE |B036 JO;B065 JU",
  "1000F LINEAR B SYLLABLE |B077 KA;B044 KE;B067 KI;B070 KO;B081 KU;B080 MA;B013 ME;B073 MI",
  "10017 LINEAR B SYLLABLE |B015 MO;B023 MU;B006 NA;B024 NE;B030 NI;B052 NO;B055 NU;B003 PA",
  "1001F LINEAR B SYLLABLE |B072 PE;B039 PI;B011 PO;B050 PU;B016 QA;B078 QE;B021 QI;B032 QO",
  "10028 LINEAR B SYLLABLE |B060 RA;B027 RE;B053 RI",
  "1002B LINEAR B SYLLABLE |B002 RO;B026 RU;B031 SA;B009 SE;B041 SI;B012 SO;B058 SU;B059 TA",
  "10033 LINEAR B SYLLABLE |B004 TE;B037 TI;B005 TO;B069 TU;B054 WA;B075 WE;B040 WI;B042 WO",
  "1003C LINEAR B SYLLABLE |B017 ZA;B074 ZE",
  "1003F LINEAR B SYLLABLE |B020 ZO;B025 A2;B043 A3;B085 AU;B071 DWE;B090 DWO;B048 NWA;B029 PU2",
  "10047 LINEAR B SYLLABLE |B062 PTE;B076 RA2;B033 RA3;B068 RO2;B066 TA2;B087 TWE;B091 TWO",
  "10050 LINEAR B SYMBOL |B018;B019;B022;B034;B047;B049;B056;B063;B064;B079;B082;B083;B086;B089",
  "10080 LINEAR B IDEOGRAM |B100 MAN;B102 WOMAN;B104 DEER;B105 EQUID;B105F MARE;B105M STALLION",
  "10086 LINEAR B IDEOGRAM |B106F EWE;B106M RAM;B107F SHE-GOAT;B107M HE-GOAT;B108F SOW;B108M BOAR",
  "1008C LINEAR B IDEOGRAM |B109F COW;B109M BULL;B120 WHEAT;B121 BARLEY;B122 OLIVE;B123 SPICE",
  "10092 LINEAR B |IDEOGRAM B125 CYPERUS;MONOGRAM B127 KAPO;MONOGRAM B128 KANAKO",
  "10095 LINEAR B IDEOGRAM |B130 OIL;B131 WINE;B132",
  "10098 LINEAR B MONOGRAM |B133 AREPA;B135 MERI",
  "1009A LINEAR B IDEOGRAM |B140 BRONZE;B141 GOLD;B142;B145 WOOL;B146;B150;B151 HORN;B152;B153",
  "100A3 LINEAR B |IDEOGRAM B154;MONOGRAM B156 TURO2",
  "100A5 LINEAR B IDEOGRAM |B157;B158;B159 CLOTH;B160;B161;B162 GARMENT;B163 ARMOUR;B164",
  "100AD LINEAR B IDEOGRAM |B165;B166;B167;B168;B169;B170;B171;B172;B173 MONTH;B174;B176 TREE",
  "100B8 LINEAR B IDEOGRAM |B177;B178;B179;B180;B181;B182;B183;B184;B185;B189;B190;B191 HELMET",
  "100C4 LINEAR B IDEOGRAM |B220 FOOTSTOOL;B225 BATHTUB;B230 SPEAR;B231 ARROW;B232;B233 SWORD",
  "100CA LINEAR B IDEOGRAM |B234;B236;B240 WHEELED CHARIOT;B241 CHARIOT;B242 CHARIOT FRAME",
  "100CF LINEAR B |IDEOGRAM B243 WHEEL;IDEOGRAM B245;IDEOGRAM B246;MONOGRAM B247 DIPTE",
  "100D3 LINEAR B IDEOGRAM |B248;B249;B251;B252;B253;B254 DART;B255;B256;B257;B258;B259",
  "100DE LINEAR B IDEOGRAM VESSEL |B155;B200;B201;B202;B203",
  "100E3 LINEAR B IDEOGRAM VESSEL |B204;B205;B206;B207;B208;B209;B210;B211;B212;B213;B214;B215",
  "100EF LINEAR B IDEOGRAM VESSEL |B216;B217;B218;B219;B221;B222;B226;B227;B228;B229;B250;B305",
  "10100 AEGEAN |WORD SEPARATOR LINE;WORD SEPARATOR DOT;CHECK MARK",
  "10107 AEGEAN NUMBER |ONE;TWO",
  "10109 AEGEAN NUMBER |THREE;FOUR;FIVE;SIX;SEVEN;EIGHT;NINE;TEN;TWENTY;THIRTY;FORTY;FIFTY;SIXTY",
  "10116 AEGEAN NUMBER |SEVENTY;EIGHTY;NINETY;ONE HUNDRED;TWO HUNDRED;THREE HUNDRED;FOUR HUNDRED",
  "1011D AEGEAN NUMBER |FIVE HUNDRED;SIX HUNDRED;SEVEN HUNDRED;EIGHT HUNDRED;NINE HUNDRED",
  "10122 AEGEAN NUMBER |ONE THOUSAND;TWO THOUSAND;THREE THOUSAND;FOUR THOUSAND;FIVE THOUSAND",
  "10127 AEGEAN NUMBER |SIX THOUSAND;SEVEN THOUSAND;EIGHT THOUSAND;NINE THOUSAND;TEN THOUSAND",
  "1012C AEGEAN NUMBER |TWENTY THOUSAND;THIRTY THOUSAND;FORTY THOUSAND;FIFTY THOUSAND",
  "10130 AEGEAN NUMBER |SIXTY THOUSAND;SEVENTY THOUSAND;EIGHTY THOUSAND;NINETY THOUSAND",
  "10137 AEGEAN WEIGHT |BASE UNIT;FIRST SUBUNIT;SECOND SUBUNIT;THIRD SUBUNIT;FOURTH SUBUNIT",
  "1013C AEGEAN |DRY MEASURE FIRST SUBUNIT;LIQUID MEASURE FIRST SUBUNIT",
  "1013E AEGEAN MEASURE |SECOND SUBUNIT;THIRD SUBUNIT",
  "10140 GREEK ACROPHONIC ATTIC ONE |QUARTER;HALF;DRACHMA",
  "10143 GREEK ACROPHONIC ATTIC |FIVE;FIFTY;FIVE HUNDRED;FIVE THOUSAND",
  "10147 GREEK ACROPHONIC ATTIC |FIFTY THOUSAND;FIVE TALENTS;TEN TALENTS;FIFTY TALENTS",
  "1014B GREEK ACROPHONIC ATTIC |ONE HUNDRED TALENTS;FIVE HUNDRED TALENTS;ONE THOUSAND TALENTS",
  "1014E GREEK ACROPHONIC ATTIC |FIVE THOUSAND TALENTS;FIVE STATERS;TEN STATERS;FIFTY STATERS",
  "10152 GREEK ACROPHONIC ATTIC |ONE HUNDRED STATERS;FIVE HUNDRED STATERS;ONE THOUSAND STATERS",
  "10155 GREEK ACROPHONIC ATTIC |TEN THOUSAND STATERS;FIFTY THOUSAND STATERS;TEN MNAS",
  "10158 GREEK ACROPHONIC |HERAEUM ONE PLETHRON;THESPIAN ONE;HERMIONIAN ONE;EPIDAUREAN TWO",
  "1015C GREEK ACROPHONIC |THESPIAN TWO;CYRENAIC TWO DRACHMAS;EPIDAUREAN TWO DRACHMAS",
  "1015F GREEK ACROPHONIC TROEZENIAN |FIVE;TEN;TEN ALTERNATE FORM",
  "10162 GREEK ACROPHONIC |HERMIONIAN TEN;MESSENIAN TEN;THESPIAN TEN;THESPIAN THIRTY",
  "10166 GREEK ACROPHONIC |TROEZENIAN FIFTY;TROEZENIAN FIFTY ALTERNATE FORM;HERMIONIAN FIFTY",
  "10169 GREEK ACROPHONIC THESPIAN |FIFTY;ONE HUNDRED;THREE HUNDRED",
  "1016C GREEK ACROPHONIC |EPIDAUREAN FIVE HUNDRED;TROEZENIAN FIVE HUNDRED;THESPIAN FIVE HUNDRED",
  "1016F GREEK ACROPHONIC |CARYSTIAN FIVE HUNDRED;NAXIAN FIVE HUNDRED;THESPIAN ONE THOUSAND",
  "10172 GREEK ACROPHONIC |THESPIAN FIVE THOUSAND;DELPHIC FIVE MNAS;STRATIAN FIFTY MNAS",
  "10175 GREEK ONE HALF |SIGN;SIGN ALTERNATE FORM",
  "10177 GREEK |TWO THIRDS SIGN;THREE QUARTERS SIGN;YEAR SIGN;TALENT SIGN;DRACHMA SIGN;OBOL SIGN",
  "1017D GREEK |TWO OBOLS SIGN;THREE OBOLS SIGN;FOUR OBOLS SIGN;FIVE OBOLS SIGN;METRETES SIGN",
  "10182 GREEK |KYATHOS BASE SIGN;LITRA SIGN;OUNKIA SIGN;XESTES SIGN;ARTABE SIGN;AROURA SIGN",
  "10188 GREEK |GRAMMA SIGN;TRYBLION BASE SIGN;ZERO SIGN;ONE QUARTER SIGN;SINUSOID SIGN",
  "1018D |GREEK INDICTION SIGN;NOMISMA SIGN",
  "10190 ROMAN |SEXTANS SIGN;UNCIA SIGN;SEMUNCIA SIGN;SEXTULA SIGN;DIMIDIA SEXTULA SIGN",
  "10195 ROMAN |SILIQUA SIGN;DENARIUS SIGN;QUINARIUS SIGN;SESTERTIUS SIGN;DUPONDIUS SIGN;AS SIGN",
  "1019B |ROMAN CENTURIAL SIGN;ASCIA SYMBOL",
  "101A0 GREEK SYMBOL TAU |RHO",
  "101D0 PHAISTOS DISC SIGN |PEDESTRIAN;PLUMED HEAD",
  "101D2 PHAISTOS DISC SIGN |TATTOOED HEAD;CAPTIVE;CHILD;WOMAN;HELMET;GAUNTLET;TIARA;ARROW",
  "101DA PHAISTOS DISC SIGN |BOW;SHIELD;CLUB;MANACLES;MATTOCK;SAW;LID;BOOMERANG;CARPENTRY PLANE",
  "101E3 PHAISTOS DISC SIGN |DOLIUM;COMB;SLING;COLUMN;BEEHIVE;SHIP;HORN;HIDE;BULLS LEG;CAT;RAM",
  "101EE PHAISTOS DISC SIGN |EAGLE;DOVE;TUNNY;BEE;PLANE TREE;VINE;PAPYRUS;ROSETTE;LILY;OX BACK",
  "101F8 PHAISTOS DISC SIGN |FLUTE;GRATER;STRAINER;SMALL AXE;WAVY BAND;COMBINING OBLIQUE STROKE",
  "10280 LYCIAN LETTER |A;E;B;BH;G;D;I;W;Z;TH;J;K;Q;L;M;N;MM;NN;U;P;KK;R;S;T;TT;AN;EN;H;X",
  "102A0 CARIAN LETTER |A",
  "102A1 CARIAN LETTER |P2;D;L;UUU;R;LD;A2;Q;B;M;O;D2;T;SH;SH2;S;C-18;U;NN;X;N;TT2;P;SS;I;E;UUUU",
  "102BC CARIAN LETTER |K;K2;ND;UU;G;G2;ST;ST2;NG;II;C-39;TT;UUU2;RR;MB;MB2;MB3;MB4;LD2;E2;UUU3",
  "102E0 COPTIC EPACT THOUSANDS |MARK",
  "102E1 COPTIC EPACT DIGIT |ONE;TWO;THREE;FOUR;FIVE;SIX;SEVEN;EIGHT;NINE",
  "102EA COPTIC EPACT NUMBER |TEN;TWENTY;THIRTY;FORTY;FIFTY;SIXTY;SEVENTY",
  "102F1 COPTIC EPACT NUMBER |EIGHTY;NINETY;ONE HUNDRED;TWO HUNDRED;THREE HUNDRED;FOUR HUNDRED",
  "102F7 COPTIC EPACT NUMBER |FIVE HUNDRED;SIX HUNDRED;SEVEN HUNDRED;EIGHT HUNDRED;NINE HUNDRED",
  "10300 OLD ITALIC LETTER |A;BE;KE;DE;E;VE;ZE;HE;THE;I;KA",
  "1030B OLD ITALIC LETTER |EL;EM;EN;ESH;O;PE;SHE;KU;ER;ES;TE;U;EKS;PHE;KHE;EF;ERS;CHE;II;UU;ESS",
  "10320 OLD ITALIC NUMERAL |ONE;FIVE;TEN;FIFTY",
  "1032D OLD ITALIC LETTER |YE;NORTHERN TSE;SOUTHERN TSE",
  "10330 GOTHIC LETTER |AHSA;BAIRKAN;GIBA;DAGS;AIHVUS",
  "10335 GOTHIC LETTER |QAIRTHRA;IUJA;HAGL;THIUTH;EIS;KUSMA;LAGUS;MANNA;NAUTHS;JER;URUS;PAIRTHRA",
  "10341 GOTHIC LETTER |NINETY;RAIDA;SAUIL;TEIWS;WINJA;FAIHU;IGGWS;HWAIR;OTHAL;NINE HUNDRED",
  "10350 OLD PERMIC LETTER |AN;BUR;GAI;DOI;E;ZHOI",
  "10356 OLD PERMIC LETTER |DZHOI;ZATA;DZITA;I;KOKE;LEI;MENOE;NENOE;VOOI;PEEI;REI;SII;TAI;U;CHERY",
  "10365 OLD PERMIC LETTER |SHOOI;SHCHOOI;YRY;YERU;O;OO;EF;HA;TSIU;VER;YER;YERI;YAT;IE;YU;YA;IA",
  "10376 COMBINING OLD PERMIC LETTER |AN;DOI;ZATA;NENOE;SII",
  "10380 UGARITIC LETTER |ALPA;BETA;GAMLA;KHA;DELTA;HO;WO;ZETA;HOTA;TET;YOD;KAF;SHIN;LAMDA",
  "1038E UGARITIC LETTER |MEM;DHAL;NUN;ZU;SAMKA;AIN;PU;SADE;QOPA;RASHA;THANNA;GHAIN;TO;I;U;SSU",
  "1039F UGARITIC WORD |DIVIDER",
  "103A0 OLD PERSIAN SIGN |A;I;U;KA;KU;GA;GU;XA;CA;JA;JI;TA;TU;DA",
  "103AE OLD PERSIAN SIGN |DI;DU;THA;PA;BA;FA;NA;NU;MA;MI;MU;YA;VA;VI;RA;RU;LA;SA;ZA;SHA;SSA;HA",
  "103C8 OLD PERSIAN SIGN |AURAMAZDAA;AURAMAZDAA-2;AURAMAZDAAHA;XSHAAYATHIYA;DAHYAAUSH",
  "103CD OLD PERSIAN |SIGN DAHYAAUSH-2;SIGN BAGA;SIGN BUUMISH;WORD DIVIDER",
  "103D1 OLD PERSIAN NUMBER |ONE;TWO;TEN;TWENTY;HUNDRED",
  "10400 DESERET CAPITAL LETTER LONG |I;E;A;AH;O;OO",
  "10406 DESERET CAPITAL LETTER SHORT |I;E;A;AH;O;OO",
  "1040C DESERET CAPITAL LETTER |AY;OW;WU;YEE;H;PEE;BEE;TEE;DEE;CHEE;JEE",
  "10417 DESERET CAPITAL LETTER |KAY;GAY;EF;VEE;ETH;THEE;ES;ZEE;ESH;ZHEE;ER;EL;EM;EN;ENG;OI;EW",
  "10428 DESERET SMALL LETTER LONG |I;E;A;AH;O;OO",
  "1042E DESERET SMALL LETTER SHORT |I;E;A;AH;O;OO",
  "10434 DESERET SMALL LETTER |AY;OW;WU;YEE;H;PEE;BEE;TEE;DEE;CHEE",
  "1043E DESERET SMALL LETTER |JEE;KAY;GAY;EF;VEE;ETH;THEE;ES;ZEE;ESH;ZHEE;ER;EL;EM;EN;ENG;OI;EW",
  "10450 SHAVIAN LETTER |PEEP;TOT;KICK;FEE;THIGH;SO;SURE;CHURCH;YEA;HUNG;BIB;DEAD;GAG;VOW;THEY",
  "1045F SHAVIAN LETTER |ZOO;MEASURE;JUDGE;WOE;HA-HA;LOLL;MIME;IF;EGG;ASH;ADO;ON;WOOL;OUT;AH;ROAR",
  "1046F SHAVIAN LETTER |NUN;EAT;AGE;ICE;UP;OAK;OOZE;OIL;AWE;ARE;OR;AIR;ERR;ARRAY;EAR;IAN;YEW",
  "10480 OSMANYA LETTER |ALEF;BA;TA;JA;XA;KHA;DEEL;RA;SA;SHIIN",
  "1048A OSMANYA LETTER |DHA;CAYN;GA;FA;QAAF;KAAF;LAAN;MIIN;NUUN;WAW;HA;YA;A;E;I;O;U;AA;EE;OO",
  "104A0 OSMANYA DIGIT |ZERO;ONE;TWO;THREE;FOUR;FIVE;SIX;SEVEN;EIGHT;NINE",
  "104B0 OSAGE CAPITAL LETTER |A;AI;AIN;AH;BRA;CHA;EHCHA;E;EIN;HA;HYA;I;KA;EHKA;KYA;LA;MA;NA;O",
  "104C3 OSAGE CAPITAL LETTER |OIN;PA;EHPA;SA;SHA;TA;EHTA;TSA;EHTSA;TSHA;DHA;U;WA;KHA;GHA;ZA;ZHA",
  "104D8 OSAGE SMALL LETTER |A;AI;AIN;AH;BRA;CHA;EHCHA;E;EIN;HA;HYA;I;KA;EHKA;KYA;LA;MA;NA",
  "104EA OSAGE SMALL LETTER |O;OIN;PA;EHPA;SA;SHA;TA;EHTA;TSA;EHTSA;TSHA;DHA;U;WA;KHA;GHA;ZA;ZHA",
  "10500 ELBASAN LETTER |A;BE;CE;CHE;DE;NDE;DHE;EI;E;FE;GE;GJE;HE;I;JE;KE;LE;LLE;ME",
  "10513 ELBASAN LETTER |NE;NA;NJE;O;PE;QE;RE;RRE;SE;SHE;TE;THE;U;VE;XE;Y;ZE;ZHE;GHE;GHAMMA;KHE",
  "10530 CAUCASIAN ALBANIAN LETTER |ALT;BET;GIM;DAT;EB;ZARL;EYN;ZHIL;TAS;CHA;YOWD;ZHA;IRB",
  "1053D CAUCASIAN ALBANIAN LETTER |SHA;LAN;INYA;XEYN;DYAN;CAR;JHOX;KAR;LYIT;HEYT;QAY;AOR;CHOY",
  "1054A CAUCASIAN ALBANIAN LETTER |CHI;CYAY;MAQ;QAR;NOWC;DZYAY;SHAK;JAYN;ON;TYAY;FAM;DZAY;CHAT",
  "10557 CAUCASIAN ALBANIAN LETTER |PEN;GHEYS;RAT;SEYK;VEYZ;TIWR;SHOY;IWN;CYAW;CAYN;YAYD;PIWR;KIW",
  "1056F CAUCASIAN ALBANIAN CITATION |MARK",
  "10570 VITHKUQI CAPITAL LETTER |A;BBE;BE;CE;CHE;DE;DHE;EI;E;FE;GA",
  "1057C VITHKUQI CAPITAL LETTER |HA;HHA;I;IJE;JE;KA;LA;LLA;ME;NE;NJE;O;PE;QA;RE",
  "1058C VITHKUQI CAPITAL LETTER |SE;SHE;TE;THE;U;VE;XE",
  "10594 VITHKUQI CAPITAL LETTER |Y;ZE",
  "10597 VITHKUQI SMALL LETTER |A;BBE;BE;CE;CHE;DE;DHE;EI;E;FE;GA",
  "105A3 VITHKUQI SMALL LETTER |HA;HHA;I;IJE;JE;KA;LA;LLA;ME;NE;NJE;O;PE;QA;RE",
  "105B3 VITHKUQI SMALL LETTER |SE;SHE;TE;THE;U;VE;XE",
  "105BB VITHKUQI SMALL LETTER |Y;ZE",
  "10600 LINEAR A SIGN |AB001;AB002;AB003;AB004;AB005;AB006;AB007",
  "10607 LINEAR A SIGN |AB008;AB009;AB010;AB011;AB013;AB016;AB017;AB020;AB021;AB021F;AB021M;AB022",
  "10613 LINEAR A SIGN |AB022F;AB022M;AB023;AB023M;AB024;AB026;AB027;AB028;A028B;AB029;AB030",
  "1061E LINEAR A SIGN |AB031;AB034;AB037;AB038;AB039;AB040;AB041;AB044;AB045;AB046;AB047;AB048",
  "1062A LINEAR A SIGN |AB049;AB050;AB051;AB053;AB054;AB055;AB056;AB057;AB058;AB059;AB060;AB061",
  "10636 LINEAR A SIGN |AB065;AB066;AB067;AB069;AB070;AB073;AB074;AB076;AB077;AB078;AB079;AB080",
  "10642 LINEAR A SIGN |AB081;AB082;AB085;AB086;AB087;A100-102;AB118;AB120;A120B;AB122;AB123",
  "1064D LINEAR A SIGN |AB131A;AB131B;A131C;AB164;AB171;AB180;AB188;AB191;A301;A302;A303;A304",
  "10659 LINEAR A SIGN |A305;A306;A307;A308;A309A;A309B;A309C;A310;A311;A312;A313A;A313B;A313C",
  "10666 LINEAR A SIGN |A314;A315;A316;A317;A318;A319;A320;A321;A322;A323;A324;A325;A326;A327",
  "10674 LINEAR A SIGN |A328;A329;A330;A331;A332;A333;A334;A335;A336;A337;A338;A339;A340;A341",
  "10682 LINEAR A SIGN |A342;A343;A344;A345;A346;A347;A348;A349;A350;A351;A352;A353;A354;A355",
  "10690 LINEAR A SIGN |A356;A357;A358;A359;A360;A361;A362;A363;A364;A365;A366;A367;A368;A369",
  "1069E LINEAR A SIGN |A370;A371;A400-VAS;A401-VAS;A402-VAS;A403-VAS;A404-VAS;A405-VAS;A406-VAS",
  "106A7 LINEAR A SIGN |A407-VAS;A408-VAS;A409-VAS;A410-VAS;A411-VAS;A412-VAS;A413-VAS;A414-VAS",
  "106AF LINEAR A SIGN |A415-VAS;A416-VAS;A417-VAS;A418-VAS;A501;A502;A503;A504;A505;A506",
  "106B9 LINEAR A SIGN |A508;A509;A510;A511;A512;A513;A515;A516;A520;A521;A523;A524;A525;A526",
  "106C7 LINEAR A SIGN |A527;A528;A529;A530;A531;A532;A534;A535;A536;A537;A538;A539;A540;A541",
  "106D5 LINEAR A SIGN |A542;A545;A547;A548;A549;A550;A551;A552;A553;A554;A555;A556;A557;A559",
  "106E3 LINEAR A SIGN |A563;A564;A565;A566;A568;A569;A570;A571;A572;A573;A574;A575;A576;A577",
  "106F1 LINEAR A SIGN |A578;A579;A580;A581;A582;A583;A584;A585;A586;A587;A588;A589;A591;A592",
  "106FF LINEAR A SIGN |A594;A595;A596;A598;A600;A601;A602;A603;A604;A606;A608;A609;A610;A611",
  "1070D LINEAR A SIGN |A612;A613;A614;A615;A616;A617;A618;A619;A620;A621;A622;A623;A624;A626",
  "1071B LINEAR A SIGN |A627;A628;A629;A634;A637;A638;A640;A642;A643;A644;A645;A646;A648;A649",
  "10729 LINEAR A SIGN |A651;A652;A653;A654;A655;A656;A657;A658;A659;A660;A661;A662;A663;A664",
  "10740 LINEAR A SIGN |A701 A;A702 B;A703 D;A704 E;A705 F;A706 H",
  "10746 LINEAR A SIGN |A707 J;A708 K;A709 L;A709-2 L2;A709-3 L3;A709-4 L4;A709-6 L6;A710 W",
  "1074E LINEAR A SIGN |A711 X;A712 Y;A713 OMEGA;A714 ABB;A715 BB;A717 DD;A726 EYYY;A732 JE",
  "10760 LINEAR A SIGN |A800;A801;A802;A803;A804;A805;A806;A807",
  "10780 MODIFIER LETTER SMALL CAPITAL |AA",
  "10781 MODIFIER LETTER SUPERSCRIPT |TRIANGULAR COLON;HALF TRIANGULAR COLON",
  "10783 MODIFIER LETTER SMALL |AE;CAPITAL B;B WITH HOOK",
  "10787 MODIFIER LETTER SMALL DZ |DIGRAPH;DIGRAPH WITH RETROFLEX HOOK;DIGRAPH WITH CURL",
  "1078A MODIFIER LETTER SMALL |DEZH DIGRAPH;D WITH TAIL;D WITH HOOK;D WITH HOOK AND TAIL",
  "1078E MODIFIER LETTER SMALL |REVERSED E;CLOSED REVERSED OPEN E;FENG DIGRAPH",
  "10791 MODIFIER LETTER SMALL |RAMS HORN;CAPITAL G;G WITH HOOK;CAPITAL G WITH HOOK;H WITH STROKE",
  "10796 MODIFIER LETTER SMALL |CAPITAL H;HENG WITH HOOK;DOTLESS J WITH STROKE AND HOOK",
  "10799 MODIFIER LETTER SMALL |LS DIGRAPH;LZ DIGRAPH;L WITH BELT;CAPITAL L WITH BELT",
  "1079D MODIFIER LETTER SMALL |L WITH RETROFLEX HOOK AND BELT;LEZH;LEZH WITH RETROFLEX HOOK",
  "107A0 MODIFIER LETTER SMALL TURNED |Y;Y WITH BELT",
  "107A2 MODIFIER LETTER SMALL |O WITH STROKE;CAPITAL OE;CLOSED OMEGA;Q",
  "107A6 MODIFIER LETTER SMALL TURNED R WITH LONG |LEG;LEG AND RETROFLEX HOOK",
  "107A8 MODIFIER LETTER SMALL |R WITH TAIL;R WITH FISHHOOK;CAPITAL R;TC DIGRAPH WITH CURL",
  "107AC MODIFIER LETTER SMALL TS |DIGRAPH;DIGRAPH WITH RETROFLEX HOOK",
  "107AE MODIFIER LETTER SMALL |TESH DIGRAPH;T WITH RETROFLEX HOOK;V WITH RIGHT HOOK",
  "107B2 MODIFIER LETTER SMALL CAPITAL |Y",
  "107B3 MODIFIER LETTER |GLOTTAL STOP WITH STROKE;REVERSED GLOTTAL STOP WITH STROKE",
  "107B5 MODIFIER LETTER |BILABIAL CLICK;DENTAL CLICK;LATERAL CLICK",
  "107B8 MODIFIER LETTER |ALVEOLAR CLICK;RETROFLEX CLICK WITH RETROFLEX HOOK;SMALL S WITH CURL",
  "10800 CYPRIOT SYLLABLE |A;E;I;O;U;JA",
  "10808 CYPRIOT SYLLABLE |JO",
  "1080A CYPRIOT SYLLABLE |KA;KE;KI;KO;KU;LA;LE;LI;LO;LU;MA;ME;MI;MO;MU;NA;NE;NI;NO;NU;PA",
  "1081F CYPRIOT SYLLABLE |PE;PI;PO;PU;RA;RE;RI;RO;RU;SA;SE;SI;SO;SU;TA;TE;TI;TO;TU;WA;WE;WI;WO",
  "10837 CYPRIOT SYLLABLE |XA;XE",
  "1083C CYPRIOT SYLLABLE |ZA",
  "1083F CYPRIOT SYLLABLE |ZO",
  "10840 IMPERIAL ARAMAIC LETTER |ALEPH;BETH;GIMEL;DALETH;HE;WAW;ZAYIN;HETH;TETH;YODH",
  "1084A IMPERIAL ARAMAIC LETTER |KAPH;LAMEDH;MEM;NUN;SAMEKH;AYIN;PE;SADHE;QOPH;RESH;SHIN;TAW",
  "10857 IMPERIAL ARAMAIC SECTION |SIGN",
  "10858 IMPERIAL ARAMAIC NUMBER |ONE;TWO;THREE;TEN;TWENTY;ONE HUNDRED;ONE THOUSAND;TEN THOUSAND",
  "10860 PALMYRENE LETTER |ALEPH;BETH;GIMEL;DALETH;HE;WAW;ZAYIN;HETH;TETH;YODH",
  "1086A PALMYRENE LETTER |KAPH;LAMEDH;MEM;FINAL NUN;NUN;SAMEKH;AYIN;PE;SADHE;QOPH;RESH;SHIN;TAW",
  "10877 PALMYRENE |LEFT-POINTING FLEURON;RIGHT-POINTING FLEURON",
  "10879 PALMYRENE NUMBER |ONE;TWO;THREE;FOUR;FIVE;TEN;TWENTY",
  "10880 NABATAEAN LETTER FINAL |ALEPH",
  "10881 NABATAEAN LETTER |ALEPH;FINAL BETH;BETH;GIMEL;DALETH;FINAL HE;HE;WAW;ZAYIN;HETH",
  "1088B NABATAEAN LETTER |TETH;FINAL YODH;YODH;FINAL KAPH;KAPH;FINAL LAMEDH;LAMEDH;FINAL MEM",
  "10893 NABATAEAN LETTER |MEM;FINAL NUN;NUN;SAMEKH;AYIN;PE;SADHE;QOPH;RESH;FINAL SHIN;SHIN;TAW",
  "108A7 NABATAEAN NUMBER |ONE;TWO;THREE;FOUR",
  "108AB NABATAEAN |CRUCIFORM NUMBER FOUR;NUMBER FIVE;NUMBER TEN;NUMBER TWENTY;NUMBER ONE HUNDRED",
  "108E0 HATRAN LETTER |ALEPH;BETH;GIMEL;DALETH-RESH",
  "108E4 HATRAN LETTER |HE;WAW;ZAYN;HETH;TETH;YODH;KAPH;LAMEDH;MEM;NUN;SAMEKH;AYN;PE;SADHE;QOPH",
  "108F4 HATRAN LETTER |SHIN;TAW",
  "108FB HATRAN NUMBER |ONE;FIVE;TEN;TWENTY;ONE HUNDRED",
  "10900 PHOENICIAN LETTER |ALF;BET;GAML;DELT;HE;WAU",
  "10906 PHOENICIAN LETTER |ZAI;HET;TET;YOD;KAF;LAMD;MEM;NUN;SEMK;AIN;PE;SADE;QOF;ROSH;SHIN;TAU",
  "10916 PHOENICIAN NUMBER |ONE;TEN;TWENTY;ONE HUNDRED;TWO;THREE",
  "1091F PHOENICIAN WORD |SEPARATOR",
  "10920 LYDIAN LETTER |A;B;G;D;E;V;I;Y;K;L;M;N;O;R;SS;T;U;F;Q;S;TT;AN;EN;LY;NN;C",
  "1093F LYDIAN TRIANGULAR |MARK",
  "10980 MEROITIC HIEROGLYPHIC LETTER |A;E;I;O;YA;WA;BA;BA-2;PA;MA;NA;NA-2;NE;NE-2",
  "1098E MEROITIC HIEROGLYPHIC LETTER |RA;RA-2;LA;KHA;HHA;SA;SA-2;SE;KA;QA;TA;TA-2;TE;TE-2;TO;DA",
  "1099E MEROITIC HIEROGLYPHIC SYMBOL |VIDJ;VIDJ-2",
  "109A0 MEROITIC CURSIVE LETTER |A;E;I;O;YA;WA",
  "109A6 MEROITIC CURSIVE LETTER |BA;PA;MA;NA;NE;RA;LA;KHA;HHA;SA;ARCHAIC SA;SE;KA;QA;TA;TE;TO;DA",
  "109BC MEROITIC CURSIVE |FRACTION ELEVEN TWELFTHS;FRACTION ONE HALF;LOGOGRAM RMT;LOGOGRAM IMN",
  "109C0 MEROITIC CURSIVE NUMBER |ONE;TWO;THREE;FOUR;FIVE;SIX",
  "109C6 MEROITIC CURSIVE NUMBER |SEVEN;EIGHT;NINE;TEN;TWENTY;THIRTY;FORTY;FIFTY;SIXTY;SEVENTY",
  "109D2 MEROITIC CURSIVE NUMBER |ONE HUNDRED;TWO HUNDRED;THREE HUNDRED;FOUR HUNDRED;FIVE HUNDRED",
  "109D7 MEROITIC CURSIVE NUMBER |SIX HUNDRED;SEVEN HUNDRED;EIGHT HUNDRED;NINE HUNDRED",
  "109DB MEROITIC CURSIVE NUMBER |ONE THOUSAND;TWO THOUSAND;THREE THOUSAND;FOUR THOUSAND",
  "109DF MEROITIC CURSIVE NUMBER |FIVE THOUSAND;SIX THOUSAND;SEVEN THOUSAND;EIGHT THOUSAND",
  "109E3 MEROITIC CURSIVE NUMBER |NINE THOUSAND;TEN THOUSAND;TWENTY THOUSAND;THIRTY THOUSAND",
  "109E7 MEROITIC CURSIVE NUMBER |FORTY THOUSAND;FIFTY THOUSAND;SIXTY THOUSAND;SEVENTY THOUSAND",
  "109EB MEROITIC CURSIVE NUMBER |EIGHTY THOUSAND;NINETY THOUSAND;ONE HUNDRED THOUSAND",
  "109EE MEROITIC CURSIVE NUMBER |TWO HUNDRED THOUSAND;THREE HUNDRED THOUSAND",
  "109F0 MEROITIC CURSIVE NUMBER |FOUR HUNDRED THOUSAND;FIVE HUNDRED THOUSAND",
  "109F2 MEROITIC CURSIVE NUMBER |SIX HUNDRED THOUSAND;SEVEN HUNDRED THOUSAND",
  "109F4 MEROITIC CURSIVE NUMBER |EIGHT HUNDRED THOUSAND;NINE HUNDRED THOUSAND",
  "109F6 MEROITIC CURSIVE FRACTION |ONE TWELFTH;TWO TWELFTHS",
  "109F8 MEROITIC CURSIVE FRACTION |THREE TWELFTHS;FOUR TWELFTHS;FIVE TWELFTHS;SIX TWELFTHS",
  "109FC MEROITIC CURSIVE FRACTION |SEVEN TWELFTHS;EIGHT TWELFTHS;NINE TWELFTHS;TEN TWELFTHS",
  "10A00 KHAROSHTHI |LETTER A;VOWEL SIGN I;VOWEL SIGN U;VOWEL SIGN VOCALIC R",
  "10A05 KHAROSHTHI VOWEL SIGN |E;O",
  "10A0C KHAROSHTHI |VOWEL LENGTH MARK;SIGN DOUBLE RING BELOW;SIGN ANUSVARA;SIGN VISARGA",
  "10A10 KHAROSHTHI LETTER |KA;KHA;GA;GHA",
  "10A15 KHAROSHTHI LETTER |CA;CHA;JA",
  "10A19 KHAROSHTHI LETTER |NYA;TTA;TTHA;DDA;DDHA;NNA;TA;THA;DA;DHA",
  "10A23 KHAROSHTHI LETTER |NA;PA;PHA;BA;BHA;MA;YA;RA;LA;VA;SHA;SSA;SA;ZA;HA;KKA;TTTHA;TTTA;VHA",
  "10A38 KHAROSHTHI SIGN |BAR ABOVE;CAUDA;DOT BELOW",
  "10A3F KHAROSHTHI |VIRAMA;DIGIT ONE;DIGIT TWO;DIGIT THREE;DIGIT FOUR;NUMBER TEN",
  "10A45 KHAROSHTHI |NUMBER TWENTY;NUMBER ONE HUNDRED;NUMBER ONE THOUSAND;FRACTION ONE HALF",
  "10A50 KHAROSHTHI PUNCTUATION |DOT;SMALL CIRCLE",
  "10A52 KHAROSHTHI PUNCTUATION |CIRCLE;CRESCENT BAR;MANGALAM;LOTUS;DANDA;DOUBLE DANDA;LINES",
  "10A60 OLD SOUTH ARABIAN LETTER |HE;LAMEDH;HETH;MEM;QOPH;WAW",
  "10A66 OLD SOUTH ARABIAN LETTER |SHIN;RESH;BETH;TAW;SAT;KAPH;NUN;KHETH;SADHE;SAMEKH;FE;ALEF;AYN",
  "10A73 OLD SOUTH ARABIAN LETTER |DHADHE;GIMEL;DALETH;GHAYN;TETH;ZAYN;DHALETH;YODH;THAW;THETH",
  "10A7D OLD SOUTH ARABIAN |NUMBER ONE;NUMBER FIFTY;NUMERIC INDICATOR",
  "10A80 OLD NORTH ARABIAN LETTER |HEH;LAM;HAH;MEEM;QAF;WAW;ES-2;REH;BEH;TEH;ES-1;KAF;NOON;KHAH",
  "10A8E OLD NORTH ARABIAN LETTER |SAD;ES-3;FEH;ALEF;AIN;DAD;GEEM;DAL;GHAIN;TAH;ZAIN;THAL;YEH",
  "10A9B OLD NORTH ARABIAN |LETTER THEH;LETTER ZAH;NUMBER ONE;NUMBER TEN;NUMBER TWENTY",
  "10AC0 MANICHAEAN LETTER |ALEPH;BETH;BHETH;GIMEL;GHIMEL;DALETH;HE;WAW",
  "10AC8 MANICHAEAN |SIGN UD;LETTER ZAYIN;LETTER ZHAYIN;LETTER JAYIN",
  "10ACC MANICHAEAN LETTER |JHAYIN;HETH;TETH;YODH;KAPH;XAPH;KHAPH;LAMEDH;DHAMEDH;THAMEDH;MEM",
  "10AD7 MANICHAEAN LETTER |NUN;SAMEKH;AYIN;AAYIN;PE;FE;SADHE;QOPH;XOPH;QHOPH;RESH;SHIN;SSHIN;TAW",
  "10AE5 MANICHAEAN ABBREVIATION MARK |ABOVE;BELOW",
  "10AEB MANICHAEAN NUMBER |ONE;FIVE;TEN;TWENTY;ONE HUNDRED",
  "10AF0 MANICHAEAN PUNCTUATION |STAR;FLEURON",
  "10AF2 MANICHAEAN PUNCTUATION |DOUBLE DOT WITHIN DOT;DOT WITHIN DOT;DOT;TWO DOTS;LINE FILLER",
  "10B00 AVESTAN LETTER |A;AA;AO;AAO;AN;AAN;AE;AEE;E;EE;O;OO;I;II",
  "10B0E AVESTAN LETTER |U;UU;KE;XE;XYE;XVE;GE;GGE;GHE;CE;JE;TE;THE;DE;DHE;TTE;PE;FE;BE;BHE;NGE",
  "10B23 AVESTAN LETTER |NGYE;NGVE;NE;NYE;NNE;ME;HME;YYE;YE;VE;RE;LE;SE;ZE;SHE;ZHE;SHYE;SSHE;HE",
  "10B39 AVESTAN ABBREVIATION |MARK",
  "10B3A |TINY TWO DOTS OVER ONE DOT PUNCTUATION;SMALL TWO DOTS OVER ONE DOT PUNCTUATION",
  "10B3C LARGE |TWO DOTS OVER ONE DOT PUNCTUATION;ONE DOT OVER TWO DOTS PUNCTUATION",
  "10B3E LARGE |TWO RINGS OVER ONE RING PUNCTUATION;ONE RING OVER TWO RINGS PUNCTUATION",
  "10B40 INSCRIPTIONAL PARTHIAN LETTER |ALEPH;BETH;GIMEL;DALETH;HE;WAW;ZAYIN;HETH;TETH;YODH;KAPH",
  "10B4B INSCRIPTIONAL PARTHIAN LETTER |LAMEDH;MEM;NUN;SAMEKH;AYIN;PE;SADHE;QOPH;RESH;SHIN;TAW",
  "10B58 INSCRIPTIONAL PARTHIAN NUMBER |ONE;TWO;THREE;FOUR;TEN;TWENTY;ONE HUNDRED;ONE THOUSAND",
  "10B60 INSCRIPTIONAL PAHLAVI LETTER |ALEPH;BETH;GIMEL;DALETH;HE;WAW-AYIN-RESH;ZAYIN;HETH;TETH",
  "10B69 INSCRIPTIONAL PAHLAVI LETTER |YODH;KAPH;LAMEDH;MEM-QOPH;NUN;SAMEKH;PE;SADHE;SHIN;TAW",
  "10B78 INSCRIPTIONAL PAHLAVI NUMBER |ONE;TWO;THREE;FOUR;TEN;TWENTY;ONE HUNDRED;ONE THOUSAND",
  "10B80 PSALTER PAHLAVI LETTER |ALEPH;BETH;GIMEL;DALETH;HE;WAW-AYIN-RESH;ZAYIN",
  "10B87 PSALTER PAHLAVI LETTER |HETH;YODH;KAPH;LAMEDH;MEM-QOPH;NUN;SAMEKH;PE;SADHE;SHIN;TAW",
  "10B99 PSALTER PAHLAVI |SECTION MARK;TURNED SECTION MARK",
  "10B9B PSALTER PAHLAVI FOUR DOTS WITH |CROSS;DOT",
  "10BA9 PSALTER PAHLAVI NUMBER |ONE;TWO;THREE;FOUR;TEN;TWENTY;ONE HUNDRED",
  "10C00 OLD TURKIC LETTER |ORKHON A;YENISEI A;YENISEI AE;ORKHON I;YENISEI I;YENISEI E",
  "10C06 OLD TURKIC LETTER ORKHON |O;OE",
  "10C08 OLD TURKIC LETTER |YENISEI OE;ORKHON AB;YENISEI AB;ORKHON AEB;YENISEI AEB;ORKHON AG",
  "10C0E OLD TURKIC LETTER |YENISEI AG;ORKHON AEG;YENISEI AEG;ORKHON AD;YENISEI AD;ORKHON AED",
  "10C14 OLD TURKIC LETTER |ORKHON EZ;YENISEI EZ;ORKHON AY;YENISEI AY;ORKHON AEY;YENISEI AEY",
  "10C1A OLD TURKIC LETTER |ORKHON AEK;YENISEI AEK;ORKHON OEK;YENISEI OEK;ORKHON AL;YENISEI AL",
  "10C20 OLD TURKIC LETTER ORKHON |AEL;ELT;EM;AN;AEN",
  "10C25 OLD TURKIC LETTER |YENISEI AEN;ORKHON ENT;YENISEI ENT;ORKHON ENC;YENISEI ENC;ORKHON ENY",
  "10C2B OLD TURKIC LETTER |YENISEI ENY;YENISEI ANG;ORKHON ENG;YENISEI AENG;ORKHON EP;ORKHON OP",
  "10C31 OLD TURKIC LETTER |ORKHON IC;ORKHON EC;YENISEI EC;ORKHON AQ;YENISEI AQ;ORKHON IQ",
  "10C37 OLD TURKIC LETTER |YENISEI IQ;ORKHON OQ;YENISEI OQ;ORKHON AR;YENISEI AR;ORKHON AER",
  "10C3D OLD TURKIC LETTER |ORKHON AS;ORKHON AES;ORKHON ASH;YENISEI ASH;ORKHON ESH;YENISEI ESH",
  "10C43 OLD TURKIC LETTER |ORKHON AT;YENISEI AT;ORKHON AET;YENISEI AET;ORKHON OT;ORKHON BASH",
  "10C80 OLD HUNGARIAN CAPITAL LETTER |A;AA",
  "10C82 OLD HUNGARIAN CAPITAL LETTER |EB;AMB;EC;ENC;ECS;ED;AND;E;CLOSE E;EE;EF;EG;EGY;EH;I;II;EJ",
  "10C93 OLD HUNGARIAN CAPITAL LETTER |EK;AK;UNK;EL;ELY;EM;EN;ENY;O;OO;NIKOLSBURG OE;RUDIMENTA OE",
  "10C9F OLD HUNGARIAN CAPITAL LETTER |OEE;EP;EMP;ER;SHORT ER;ES;ESZ;ET;ENT;ETY;ECH;U",
  "10CAB OLD HUNGARIAN CAPITAL LETTER |UU;NIKOLSBURG UE;RUDIMENTA UE;EV;EZ;EZS;ENT-SHAPED SIGN;US",
  "10CC0 OLD HUNGARIAN SMALL LETTER |A;AA;EB;AMB;EC;ENC;ECS;ED;AND;E;CLOSE E;EE;EF;EG",
  "10CCE OLD HUNGARIAN SMALL LETTER |EGY;EH;I;II;EJ;EK;AK;UNK;EL;ELY;EM;EN;ENY;O;OO;NIKOLSBURG OE",
  "10CDE OLD HUNGARIAN SMALL LETTER |RUDIMENTA OE;OEE;EP;EMP;ER;SHORT ER;ES;ESZ;ET;ENT;ETY;ECH",
  "10CEA OLD HUNGARIAN SMALL LETTER |U;UU;NIKOLSBURG UE;RUDIMENTA UE;EV;EZ;EZS;ENT-SHAPED SIGN;US",
  "10CFA OLD HUNGARIAN NUMBER |ONE;FIVE;TEN;FIFTY;ONE HUNDRED;ONE THOUSAND",
  "10D00 HANIFI ROHINGYA LETTER |A;BA;PA;TA;TTA;JA;CA;HA;KHA;FA;DA;DDA;RA",
  "10D0D HANIFI ROHINGYA LETTER |RRA;ZA;SA;SHA;KA;GA;LA;MA;NA;WA;KINNA WA;YA;KINNA YA;NGA;NYA;VA",
  "10D1D HANIFI ROHINGYA |VOWEL A;VOWEL I;VOWEL U;VOWEL E;VOWEL O;MARK SAKIN;MARK NA KHONNA",
  "10D24 HANIFI ROHINGYA SIGN |HARBAHAY;TAHALA;TANA;TASSI",
  "10D30 HANIFI ROHINGYA DIGIT |ZERO;ONE;TWO;THREE;FOUR;FIVE;SIX;SEVEN;EIGHT;NINE",
  "10E60 RUMI DIGIT |ONE;TWO;THREE;FOUR;FIVE;SIX;SEVEN;EIGHT;NINE",
  "10E69 RUMI NUMBER |TEN;TWENTY;THIRTY;FORTY;FIFTY;SIXTY",
  "10E6F RUMI NUMBER |SEVENTY;EIGHTY;NINETY;ONE HUNDRED;TWO HUNDRED;THREE HUNDRED;FOUR HUNDRED",
  "10E76 RUMI NUMBER |FIVE HUNDRED;SIX HUNDRED;SEVEN HUNDRED;EIGHT HUNDRED;NINE HUNDRED",
  "10E7B RUMI FRACTION |ONE HALF;ONE QUARTER;ONE THIRD;TWO THIRDS",
  "10E80 YEZIDI LETTER |ELIF;BE;PE;PHE;THE;SE;CIM;CHIM",
  "10E88 YEZIDI LETTER |CHHIM;HHA;XA;DAL;ZAL;RA;RHA;ZA;JA;SIN;SHIN;SAD;DAD;TA;ZE;EYN;XHEYN;FA",
  "10E9A YEZIDI LETTER |VA;VA ALTERNATE FORM;QAF;KAF;KHAF;GAF;LAM;MIM;NUN;UM;WAW;OW;EW;HAY;YOT;ET",
  "10EAB YEZIDI |COMBINING HAMZA MARK;COMBINING MADDA MARK;HYPHENATION MARK",
  "10EB0 YEZIDI LETTER |LAM WITH DOT ABOVE;YOT WITH CIRCUMFLEX ABOVE",
  "10F00 OLD SOGDIAN LETTER |ALEPH;FINAL ALEPH;BETH;FINAL BETH",
  "10F04 OLD SOGDIAN LETTER |GIMEL;HE;FINAL HE;WAW;ZAYIN;HETH;YODH;KAPH;LAMEDH;MEM;NUN;FINAL NUN",
  "10F10 OLD SOGDIAN LETTER |FINAL NUN WITH VERTICAL TAIL;SAMEKH;AYIN;ALTERNATE AYIN;PE;SADHE",
  "10F16 OLD SOGDIAN LETTER FINAL |SADHE;SADHE WITH VERTICAL TAIL",
  "10F18 OLD SOGDIAN LETTER |RESH-AYIN-DALETH;SHIN;TAW;FINAL TAW;FINAL TAW WITH VERTICAL TAIL",
  "10F1D OLD SOGDIAN NUMBER |ONE;TWO;THREE;FOUR;FIVE;TEN;TWENTY;THIRTY;ONE HUNDRED",
  "10F26 OLD SOGDIAN |FRACTION ONE HALF;LIGATURE AYIN-DALETH",
  "10F30 SOGDIAN LETTER |ALEPH;BETH;GIMEL;HE;WAW;ZAYIN;HETH;YODH",
  "10F38 SOGDIAN LETTER |KAPH;LAMEDH;MEM;NUN;SAMEKH;AYIN;PE;SADHE;RESH-AYIN;SHIN;TAW;FETH;LESH",
  "10F45 SOGDIAN |INDEPENDENT SHIN;COMBINING DOT BELOW",
  "10F47 SOGDIAN COMBINING |TWO DOTS BELOW;DOT ABOVE;TWO DOTS ABOVE;CURVE ABOVE;CURVE BELOW",
  "10F4C SOGDIAN COMBINING |HOOK ABOVE;HOOK BELOW;LONG HOOK BELOW;RESH BELOW;STROKE BELOW",
  "10F51 SOGDIAN NUMBER |ONE;TEN;TWENTY;ONE HUNDRED",
  "10F55 SOGDIAN PUNCTUATION TWO VERTICAL |BARS;BARS WITH DOTS",
  "10F57 SOGDIAN PUNCTUATION |CIRCLE WITH DOT;TWO CIRCLES WITH DOTS;HALF CIRCLE WITH DOT",
  "10F70 OLD UYGHUR LETTER |ALEPH;BETH;GIMEL-HETH;WAW;ZAYIN;FINAL HETH",
  "10F76 OLD UYGHUR LETTER |YODH;KAPH;LAMEDH;MEM;NUN;SAMEKH;PE;SADHE;RESH;SHIN;TAW;LESH",
  "10F82 OLD UYGHUR COMBINING |DOT ABOVE;DOT BELOW;TWO DOTS ABOVE;TWO DOTS BELOW",
  "10F86 OLD UYGHUR PUNCTUATION |BAR;TWO BARS;TWO DOTS;FOUR DOTS",
  "10FB0 CHORASMIAN LETTER |ALEPH;SMALL ALEPH;BETH;GIMEL;DALETH;HE;WAW;CURLED WAW",
  "10FB8 CHORASMIAN LETTER |ZAYIN;HETH;YODH;KAPH;LAMEDH;MEM;NUN;SAMEKH;AYIN;PE;RESH;SHIN;TAW",
  "10FC5 CHORASMIAN NUMBER |ONE;TWO;THREE;FOUR;TEN;TWENTY;ONE HUNDRED",
  "10FE0 ELYMAIC LETTER |ALEPH;BETH;GIMEL;DALETH;HE;WAW;ZAYIN;HETH",
  "10FE8 ELYMAIC LETTER |TETH;YODH;KAPH;LAMEDH;MEM;NUN;SAMEKH;AYIN;PE;SADHE;QOPH;RESH;SHIN;TAW",
  "10FF6 ELYMAIC LIGATURE ZAYIN-|YODH"]

end ElementLocator.Regex.CharacterName
