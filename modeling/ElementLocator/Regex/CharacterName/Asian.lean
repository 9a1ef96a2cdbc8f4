/-! # Character names: rows for U+0E00 to U+1CFA

    The names from Thai and Tibetan to Mongolian, of Ethiopic and of the scripts of America. -/

namespace ElementLocator.Regex.CharacterName

/-- Names from U+0E00 to U+1CFA. -/
def asianRows : List String := [
  "E01 THAI CHARACTER |KO KAI;KHO KHAI;KHO KHUAT;KHO KHWAI;KHO KHON;KHO RAKHANG;NGO NGU;CHO CHAN",
  "E09 THAI CHARACTER |CHO CHING;CHO CHANG;SO SO;CHO CHOE;YO YING;DO CHADA;TO PATAK;THO THAN",
  "E11 THAI CHARACTER |THO NANGMONTHO;THO PHUTHAO;NO NEN;DO DEK;TO TAO;THO THUNG;THO THAHAN",
  "E18 THAI CHARACTER |THO THONG;NO NU;BO BAIMAI;PO PLA;PHO PHUNG;FO FA;PHO PHAN;FO FAN",
  "E20 THAI CHARACTER |PHO SAMPHAO;MO MA;YO YAK;RO RUA;RU;LO LING;LU;WO WAEN;SO SALA;SO RUSI",
  "E2A THAI CHARACTER |SO SUA;HO HIP;LO CHULA;O ANG;HO NOKHUK;PAIYANNOI;SARA A;MAI HAN-AKAT",
  "E32 THAI CHARACTER SARA |AA;AM;I;II;UE;UEE;U;UU",
  "E3A THAI CHARACTER |PHINTHU",
  "E3F THAI CURRENCY SYMBOL |BAHT",
  "E40 THAI CHARACTER SARA |E;AE;O;AI MAIMUAN;AI MAIMALAI",
  "E45 THAI CHARACTER |LAKKHANGYAO;MAIYAMOK;MAITAIKHU",
  "E48 THAI CHARACTER |MAI EK;MAI THO;MAI TRI;MAI CHATTAWA;THANTHAKHAT;NIKHAHIT;YAMAKKAN;FONGMAN",
  "E50 THAI DIGIT |ZERO;ONE;TWO;THREE;FOUR;FIVE;SIX;SEVEN;EIGHT;NINE",
  "E5A THAI CHARACTER |ANGKHANKHU;KHOMUT",
  "E81 LAO LETTER |KO;KHO SUNG",
  "E84 LAO LETTER KHO |TAM",
  "E86 LAO LETTER |PALI GHA;NGO;CO;PALI CHA;SO TAM",
  "E8C LAO LETTER |PALI JHA;NYO;PALI NYA;PALI TTA;PALI TTHA;PALI DDA;PALI DDHA;PALI NNA;DO;TO",
  "E96 LAO LETTER THO |SUNG;TAM",
  "E98 LAO LETTER |PALI DHA;NO;BO;PO;PHO SUNG;FO TAM;PHO TAM;FO SUNG;PALI BHA;MO;YO;LO LING",
  "EA5 LAO LETTER LO |LOOT",
  "EA7 LAO LETTER |WO;SANSKRIT SHA;SANSKRIT SSA;SO SUNG;HO SUNG;PALI LLA;O;HO TAM",
  "EAF LAO |ELLIPSIS",
  "EB0 LAO VOWEL SIGN |A;MAI KAN;AA;AM;I;II;Y;YY;U;UU",
  "EBA LAO |SIGN PALI VIRAMA;VOWEL SIGN MAI KON;SEMIVOWEL SIGN LO;SEMIVOWEL SIGN NYO",
  "EC0 LAO VOWEL SIGN |E;EI;O;AY;AI",
  "EC6 LAO KO |LA",
  "EC8 LAO TONE MAI |EK;THO;TI;CATAWA",
  "ECC LAO |CANCELLATION MARK;NIGGAHITA",
  "ED0 LAO DIGIT |ZERO;ONE;TWO;THREE;FOUR;FIVE;SIX;SEVEN;EIGHT;NINE",
  "EDC LAO |HO NO;HO MO;LETTER KHMU GO;LETTER KHMU NYO",
  "F00 TIBETAN SYLLABLE |OM",
  "F01 TIBETAN MARK GTER YIG MGO |TRUNCATED A;-UM RNAM BCAD MA;-UM GTER TSHEG MA",
  "F04 TIBETAN MARK INITIAL YIG MGO MDUN |MA",
  "F05 TIBETAN MARK |CLOSING YIG MGO SGAB MA;CARET YIG MGO PHUR SHAD MA;YIG MGO TSHEG SHAD MA",
  "F08 TIBETAN MARK |SBRUL SHAD;BSKUR YIG MGO;BKA- SHOG YIG MGO;INTERSYLLABIC TSHEG",
  "F0C TIBETAN MARK |DELIMITER TSHEG BSTAR;SHAD;NYIS SHAD;TSHEG SHAD;NYIS TSHEG SHAD",
  "F11 TIBETAN MARK |RIN CHEN SPUNGS SHAD;RGYA GRAM SHAD;CARET -DZUD RTAGS ME LONG CAN;GTER TSHEG",
  "F15 TIBETAN LOGOTYPE SIGN |CHAD RTAGS;LHAG RTAGS",
  "F17 TIBETAN ASTROLOGICAL SIGN |SGRA GCAN -CHAR RTAGS;-KHYUD PA;SDONG TSHUGS",
  "F1A TIBETAN SIGN RDEL |DKAR GCIG;DKAR GNYIS;DKAR GSUM;NAG GCIG;NAG GNYIS;DKAR RDEL NAG",
  "F20 TIBETAN DIGIT |ZERO;ONE;TWO;THREE;FOUR;FIVE;SIX;SEVEN;EIGHT;NINE",
  "F2A TIBETAN DIGIT HALF |ONE;TWO;THREE;FOUR;FIVE;SIX;SEVEN;EIGHT;NINE;ZERO",
  "F34 TIBETAN MARK |BSDUS RTAGS;NGAS BZUNG NYI ZLA;CARET -DZUD RTAGS BZHI MIG CAN",
  "F37 TIBETAN MARK |NGAS BZUNG SGOR RTAGS;CHE MGO;TSA -PHRU;GUG RTAGS GYON;GUG RTAGS GYAS",
  "F3C TIBETAN MARK ANG KHANG |GYON;GYAS",
  "F3E TIBETAN SIGN |YAR TSHES;MAR TSHES",
  "F40 TIBETAN LETTER |KA;KHA;GA;GHA;NGA;CA;CHA;JA",
  "F49 TIBETAN LETTER |NYA;TTA;TTHA;DDA;DDHA;NNA;TA;THA;DA;DHA;NA;PA;PHA;BA;BHA;MA;TSA;TSHA",
  "F5B TIBETAN LETTER |DZA;DZHA;WA;ZHA;ZA;-A;YA;RA;LA;SHA;SSA;SA;HA;A;KSSA;FIXED-FORM RA;KKA;RRA",
  "F71 TIBETAN VOWEL SIGN |AA;I;II;U;UU;VOCALIC R;VOCALIC RR;VOCALIC L;VOCALIC LL;E;EE;O;OO",
  "F7E TIBETAN SIGN |RJES SU NGA RO;RNAM BCAD",
  "F80 TIBETAN VOWEL SIGN REVERSED |I;II",
  "F82 TIBETAN SIGN |NYI ZLA NAA DA;SNA LDAN",
  "F84 TIBETAN |MARK HALANTA;MARK PALUTA;SIGN LCI RTAGS;SIGN YANG RTAGS",
  "F88 TIBETAN SIGN |LCE TSA CAN;MCHU CAN;GRU CAN RGYINGS;GRU MED RGYINGS;INVERTED MCHU CAN",
  "F8D TIBETAN SUBJOINED SIGN |LCE TSA CAN;MCHU CAN;INVERTED MCHU CAN",
  "F90 TIBETAN SUBJOINED LETTER |KA;KHA;GA;GHA;NGA;CA;CHA;JA",
  "F99 TIBETAN SUBJOINED LETTER |NYA;TTA;TTHA;DDA;DDHA;NNA;TA;THA;DA;DHA;NA;PA;PHA;BA;BHA",
  "FA8 TIBETAN SUBJOINED LETTER |MA;TSA;TSHA;DZA;DZHA;WA;ZHA;ZA;-A;YA;RA;LA;SHA;SSA;SA;HA;A;KSSA",
  "FBA TIBETAN SUBJOINED LETTER FIXED-FORM |WA;YA;RA",
  "FBE TIBETAN KU RU |KHA;KHA BZHI MIG CAN",
  "FC0 TIBETAN CANTILLATION SIGN |HEAVY BEAT;LIGHT BEAT;CANG TE-U;SBUB -CHAL",
  "FC4 TIBETAN SYMBOL |DRIL BU;RDO RJE;PADMA GDAN;RDO RJE RGYA GRAM;PHUR PA;NOR BU",
  "FCA TIBETAN SYMBOL NOR BU |NYIS -KHYIL;GSUM -KHYIL;BZHI -KHYIL",
  "FCE TIBETAN SIGN RDEL NAG |RDEL DKAR;GSUM",
  "FD0 TIBETAN MARK |BSKA- SHOG GI MGO RGYAN;MNYAM YIG GI MGO RGYAN;NYIS TSHEG",
  "FD3 TIBETAN MARK |INITIAL BRDA RNYING YIG MGO MDUN MA;CLOSING BRDA RNYING YIG MGO SGAB MA",
  "FD5 |RIGHT-FACING SVASTI SIGN;LEFT-FACING SVASTI SIGN",
  "FD7 |RIGHT-FACING SVASTI SIGN WITH DOTS;LEFT-FACING SVASTI SIGN WITH DOTS",
  "FD9 TIBETAN MARK |LEADING MCHAN RTAGS;TRAILING MCHAN RTAGS",
  "1000 MYANMAR LETTER |KA",
  "1001 MYANMAR LETTER |KHA;GA;GHA;NGA;CA;CHA;JA;JHA;NYA;NNYA;TTA;TTHA;DDA;DDHA;NNA;TA;THA;DA;DHA",
  "1014 MYANMAR LETTER |NA;PA;PHA;BA;BHA;MA;YA;RA;LA;WA;SA;HA;LLA;A;SHAN A;I;II;U;UU;E;MON E;O;AU",
  "102B MYANMAR VOWEL SIGN |TALL AA;AA;I;II;U;UU;E;AI;MON II;MON O;E ABOVE",
  "1036 MYANMAR SIGN |ANUSVARA;DOT BELOW;VISARGA;VIRAMA;ASAT",
  "103B MYANMAR CONSONANT SIGN MEDIAL |YA;RA;WA;HA",
  "103F MYANMAR LETTER GREAT |SA",
  "1040 MYANMAR DIGIT |ZERO;ONE;TWO;THREE;FOUR;FIVE;SIX;SEVEN;EIGHT;NINE",
  "104A MYANMAR SIGN |LITTLE SECTION;SECTION",
  "104C MYANMAR SYMBOL |LOCATIVE;COMPLETED;AFOREMENTIONED;GENITIVE",
  "1050 MYANMAR LETTER |SHA;SSA;VOCALIC R;VOCALIC RR;VOCALIC L;VOCALIC LL",
  "1056 MYANMAR VOWEL SIGN VOCALIC |R;RR;L;LL",
  "105A MYANMAR LETTER MON |NGA;JHA;BBA;BBE",
  "105E MYANMAR CONSONANT SIGN MON MEDIAL |NA;MA;LA",
  "1061 MYANMAR |LETTER SGAW KAREN SHA;VOWEL SIGN SGAW KAREN EU",
  "1063 MYANMAR TONE MARK SGAW KAREN |HATHI;KE PHO",
  "1065 MYANMAR LETTER WESTERN PWO KAREN |THA;PWA",
  "1067 MYANMAR VOWEL SIGN WESTERN PWO KAREN |EU;UE",
  "1069 MYANMAR SIGN WESTERN PWO KAREN TONE-|1;2;3;4;5",
  "106E MYANMAR LETTER EASTERN PWO KAREN |NNA;YWA;GHWA",
  "1071 MYANMAR VOWEL SIGN |GEBA KAREN I;KAYAH OE;KAYAH U;KAYAH EE",
  "1075 MYANMAR LETTER SHAN |KA;KHA;GA;CA;ZA;NYA;DA;NA;PHA;FA;BA;THA;HA",
  "1082 MYANMAR CONSONANT SIGN SHAN MEDIAL |WA",
  "1083 MYANMAR VOWEL SIGN SHAN |AA;E;E ABOVE;FINAL Y",
  "1087 MYANMAR SIGN SHAN TONE-|2;3;5;6",
  "108B MYANMAR SIGN SHAN COUNCIL |TONE-2;TONE-3;EMPHATIC TONE",
  "108E MYANMAR |LETTER RUMAI PALAUNG FA;SIGN RUMAI PALAUNG TONE-5",
  "1090 MYANMAR SHAN DIGIT |ZERO;ONE;TWO;THREE;FOUR;FIVE;SIX;SEVEN;EIGHT;NINE",
  "109A MYANMAR SIGN KHAMTI TONE-|1;3",
  "109C MYANMAR VOWEL SIGN AITON |A;AI",
  "109E MYANMAR SYMBOL SHAN |ONE;EXCLAMATION",
  "10A0 GEORGIAN CAPITAL LETTER |AN;BAN;GAN;DON;EN;VIN;ZEN",
  "10A7 GEORGIAN CAPITAL LETTER |TAN;IN;KAN;LAS;MAN;NAR;ON;PAR;ZHAR;RAE;SAN;TAR;UN;PHAR;KHAR;GHAN",
  "10B7 GEORGIAN CAPITAL LETTER |QAR;SHIN;CHIN;CAN;JIL;CIL;CHAR;XAN;JHAN;HAE;HE;HIE;WE;HAR;HOE",
  "10C7 GEORGIAN CAPITAL LETTER |YN",
  "10CD GEORGIAN CAPITAL LETTER |AEN",
  "10D0 GEORGIAN LETTER |AN;BAN;GAN;DON;EN;VIN;ZEN;TAN;IN;KAN",
  "10DA GEORGIAN LETTER |LAS;MAN;NAR;ON;PAR;ZHAR;RAE;SAN;TAR;UN;PHAR;KHAR;GHAN;QAR;SHIN;CHIN;CAN",
  "10EB GEORGIAN LETTER |JIL;CIL;CHAR;XAN;JHAN;HAE;HE;HIE;WE;HAR;HOE;FI;YN;ELIFI;TURNED GAN;AIN",
  "10FB |GEORGIAN PARAGRAPH SEPARATOR;MODIFIER LETTER GEORGIAN NAR",
  "10FD GEORGIAN LETTER |AEN;HARD SIGN;LABIAL SIGN",
  "1100 HANGUL CHOSEONG |KIYEOK;SSANGKIYEOK;NIEUN",
  "1103 HANGUL CHOSEONG |TIKEUT;SSANGTIKEUT;RIEUL;MIEUM;PIEUP;SSANGPIEUP;SIOS;SSANGSIOS;IEUNG",
  "110C HANGUL CHOSEONG |CIEUC;SSANGCIEUC;CHIEUCH;KHIEUKH;THIEUTH;PHIEUPH;HIEUH;NIEUN-KIYEOK",
  "1114 HANGUL CHOSEONG |SSANGNIEUN;NIEUN-TIKEUT;NIEUN-PIEUP;TIKEUT-KIYEOK;RIEUL-NIEUN",
  "1119 HANGUL CHOSEONG |SSANGRIEUL;RIEUL-HIEUH;KAPYEOUNRIEUL;MIEUM-PIEUP;KAPYEOUNMIEUM",
  "111E HANGUL CHOSEONG PIEUP-|KIYEOK;NIEUN;TIKEUT;SIOS;SIOS-KIYEOK;SIOS-TIKEUT",
  "1124 HANGUL CHOSEONG PIEUP-|SIOS-PIEUP;SSANGSIOS;SIOS-CIEUC;CIEUC;CHIEUCH;THIEUTH;PHIEUPH",
  "112B HANGUL CHOSEONG |KAPYEOUNPIEUP;KAPYEOUNSSANGPIEUP;SIOS-KIYEOK;SIOS-NIEUN",
  "112F HANGUL CHOSEONG SIOS-|TIKEUT;RIEUL;MIEUM;PIEUP;PIEUP-KIYEOK;SSANGSIOS;IEUNG;CIEUC;CHIEUCH",
  "1138 HANGUL CHOSEONG |SIOS-KHIEUKH;SIOS-THIEUTH;SIOS-PHIEUPH;SIOS-HIEUH;CHITUEUMSIOS",
  "113D HANGUL CHOSEONG |CHITUEUMSSANGSIOS;CEONGCHIEUMSIOS;CEONGCHIEUMSSANGSIOS;PANSIOS",
  "1141 HANGUL CHOSEONG IEUNG-|KIYEOK;TIKEUT;MIEUM;PIEUP;SIOS;PANSIOS",
  "1147 HANGUL CHOSEONG |SSANGIEUNG;IEUNG-CIEUC;IEUNG-CHIEUCH;IEUNG-THIEUTH;IEUNG-PHIEUPH",
  "114C HANGUL CHOSEONG |YESIEUNG;CIEUC-IEUNG;CHITUEUMCIEUC;CHITUEUMSSANGCIEUC;CEONGCHIEUMCIEUC",
  "1151 HANGUL CHOSEONG |CEONGCHIEUMSSANGCIEUC;CHIEUCH-KHIEUKH;CHIEUCH-HIEUH;CHITUEUMCHIEUCH",
  "1155 HANGUL CHOSEONG |CEONGCHIEUMCHIEUCH;PHIEUPH-PIEUP;KAPYEOUNPHIEUPH;SSANGHIEUH;YEORINHIEUH",
  "115A HANGUL CHOSEONG |KIYEOK-TIKEUT;NIEUN-SIOS;NIEUN-CIEUC;NIEUN-HIEUH;TIKEUT-RIEUL;FILLER",
  "1160 HANGUL JUNGSEONG |FILLER;A;AE;YA;YAE;EO;E;YEO;YE;O;WA;WAE;OE;YO;U;WEO;WE;WI;YU;EU;YI",
  "1175 HANGUL JUNGSEONG |I;A-O;A-U;YA-O;YA-YO;EO-O;EO-U;EO-EU;YEO-O;YEO-U;O-EO;O-E;O-YE;O-O;O-U",
  "1184 HANGUL JUNGSEONG |YO-YA;YO-YAE;YO-YEO;YO-O;YO-I;U-A;U-AE;U-EO-EU;U-YE;U-U;YU-A;YU-EO;YU-E",
  "1191 HANGUL JUNGSEONG |YU-YEO;YU-YE;YU-U;YU-I;EU-U;EU-EU;YI-U;I-A;I-YA;I-O;I-U;I-EU;I-ARAEA",
  "119E HANGUL JUNGSEONG |ARAEA;ARAEA-EO;ARAEA-U;ARAEA-I;SSANGARAEA;A-EU;YA-U;YEO-YA;O-YA;O-YAE",
  "11A8 HANGUL JONGSEONG |KIYEOK",
  "11A9 HANGUL JONGSEONG |SSANGKIYEOK;KIYEOK-SIOS;NIEUN;NIEUN-CIEUC;NIEUN-HIEUH;TIKEUT;RIEUL",
  "11B0 HANGUL JONGSEONG RIEUL-|KIYEOK;MIEUM;PIEUP;SIOS;THIEUTH;PHIEUPH;HIEUH",
  "11B7 HANGUL JONGSEONG |MIEUM;PIEUP;PIEUP-SIOS;SIOS;SSANGSIOS;IEUNG;CIEUC",
  "11BE HANGUL JONGSEONG |CHIEUCH;KHIEUKH;THIEUTH;PHIEUPH;HIEUH;KIYEOK-RIEUL;KIYEOK-SIOS-KIYEOK",
  "11C5 HANGUL JONGSEONG NIEUN-|KIYEOK;TIKEUT;SIOS;PANSIOS;THIEUTH",
  "11CA HANGUL JONGSEONG TIKEUT-|KIYEOK;RIEUL",
  "11CC HANGUL JONGSEONG RIEUL-|KIYEOK-SIOS;NIEUN;TIKEUT;TIKEUT-HIEUH",
  "11D0 HANGUL JONGSEONG |SSANGRIEUL;RIEUL-MIEUM-KIYEOK;RIEUL-MIEUM-SIOS;RIEUL-PIEUP-SIOS",
  "11D4 HANGUL JONGSEONG RIEUL-|PIEUP-HIEUH;KAPYEOUNPIEUP;SSANGSIOS;PANSIOS;KHIEUKH;YEORINHIEUH",
  "11DA HANGUL JONGSEONG MIEUM-|KIYEOK;RIEUL;PIEUP;SIOS;SSANGSIOS;PANSIOS;CHIEUCH;HIEUH",
  "11E2 HANGUL JONGSEONG |KAPYEOUNMIEUM;PIEUP-RIEUL;PIEUP-PHIEUPH;PIEUP-HIEUH;KAPYEOUNPIEUP",
  "11E7 HANGUL JONGSEONG SIOS-|KIYEOK;TIKEUT;RIEUL;PIEUP",
  "11EB HANGUL JONGSEONG |PANSIOS;IEUNG-KIYEOK;IEUNG-SSANGKIYEOK;SSANGIEUNG;IEUNG-KHIEUKH",
  "11F0 HANGUL JONGSEONG |YESIEUNG;YESIEUNG-SIOS;YESIEUNG-PANSIOS;PHIEUPH-PIEUP;KAPYEOUNPHIEUPH",
  "11F5 HANGUL JONGSEONG |HIEUH-NIEUN;HIEUH-RIEUL;HIEUH-MIEUM;HIEUH-PIEUP;YEORINHIEUH",
  "11FA HANGUL JONGSEONG KIYEOK-|NIEUN;PIEUP;CHIEUCH;KHIEUKH;HIEUH",
  "11FF HANGUL JONGSEONG |SSANGNIEUN",
  "1200 ETHIOPIC SYLLABLE |HA;HU;HI;HAA;HEE;HE;HO;HOA;LA;LU;LI;LAA;LEE;LE;LO;LWA;HHA;HHU",
  "1212 ETHIOPIC SYLLABLE |HHI;HHAA;HHEE;HHE;HHO;HHWA;MA;MU;MI;MAA;MEE;ME;MO;MWA;SZA;SZU;SZI;SZAA",
  "1224 ETHIOPIC SYLLABLE |SZEE;SZE;SZO;SZWA;RA;RU;RI;RAA;REE;RE;RO;RWA;SA;SU;SI;SAA;SEE;SE;SO",
  "1237 ETHIOPIC SYLLABLE |SWA;SHA;SHU;SHI;SHAA;SHEE;SHE;SHO;SHWA;QA;QU;QI;QAA;QEE;QE;QO;QOA;QWA",
  "124A ETHIOPIC SYLLABLE |QWI;QWAA;QWEE;QWE",
  "1250 ETHIOPIC SYLLABLE |QHA;QHU;QHI;QHAA;QHEE;QHE;QHO",
  "1258 ETHIOPIC SYLLABLE |QHWA",
  "125A ETHIOPIC SYLLABLE |QHWI;QHWAA;QHWEE;QHWE",
  "1260 ETHIOPIC SYLLABLE |BA;BU;BI;BAA;BEE;BE;BO;BWA;VA;VU;VI;VAA;VEE;VE;VO;VWA;TA;TU;TI;TAA;TEE",
  "1275 ETHIOPIC SYLLABLE |TE;TO;TWA;CA;CU;CI;CAA;CEE;CE;CO;CWA;XA;XU;XI;XAA;XEE;XE;XO;XOA;XWA",
  "128A ETHIOPIC SYLLABLE |XWI;XWAA;XWEE;XWE",
  "1290 ETHIOPIC SYLLABLE |NA;NU;NI;NAA;NEE;NE;NO;NWA;NYA;NYU;NYI;NYAA;NYEE;NYE;NYO;NYWA",
  "12A0 ETHIOPIC SYLLABLE GLOTTAL |A;U;I;AA;EE;E;O;WA",
  "12A8 ETHIOPIC SYLLABLE |KA;KU;KI;KAA;KEE;KE;KO;KOA;KWA",
  "12B2 ETHIOPIC SYLLABLE |KWI;KWAA;KWEE;KWE",
  "12B8 ETHIOPIC SYLLABLE |KXA;KXU;KXI;KXAA;KXEE;KXE;KXO",
  "12C0 ETHIOPIC SYLLABLE |KXWA",
  "12C2 ETHIOPIC SYLLABLE |KXWI;KXWAA;KXWEE;KXWE",
  "12C8 ETHIOPIC SYLLABLE |WA;WU;WI;WAA;WEE;WE;WO;WOA",
  "12D0 ETHIOPIC SYLLABLE PHARYNGEAL |A;U;I;AA;EE;E;O",
  "12D8 ETHIOPIC SYLLABLE |ZA;ZU;ZI;ZAA;ZEE;ZE;ZO;ZWA;ZHA;ZHU;ZHI;ZHAA;ZHEE;ZHE;ZHO;ZHWA;YA;YU",
  "12EA ETHIOPIC SYLLABLE |YI;YAA;YEE;YE;YO;YOA;DA;DU;DI;DAA;DEE;DE;DO;DWA;DDA;DDU;DDI;DDAA;DDEE",
  "12FD ETHIOPIC SYLLABLE |DDE;DDO;DDWA;JA;JU;JI;JAA;JEE;JE;JO;JWA;GA;GU;GI;GAA;GEE;GE;GO;GOA;GWA",
  "1312 ETHIOPIC SYLLABLE |GWI;GWAA;GWEE;GWE",
  "1318 ETHIOPIC SYLLABLE |GGA;GGU;GGI;GGAA;GGEE;GGE;GGO;GGWAA;THA;THU;THI;THAA;THEE;THE;THO",
  "1327 ETHIOPIC SYLLABLE |THWA;CHA;CHU;CHI;CHAA;CHEE;CHE;CHO;CHWA;PHA;PHU;PHI;PHAA;PHEE;PHE;PHO",
  "1337 ETHIOPIC SYLLABLE |PHWA;TSA;TSU;TSI;TSAA;TSEE;TSE;TSO;TSWA;TZA;TZU;TZI;TZAA;TZEE;TZE;TZO",
  "1347 ETHIOPIC SYLLABLE |TZOA;FA;FU;FI;FAA;FEE;FE;FO;FWA;PA;PU;PI;PAA;PEE;PE;PO;PWA;RYA;MYA;FYA",
  "135D ETHIOPIC COMBINING |GEMINATION AND VOWEL LENGTH MARK;VOWEL LENGTH MARK;GEMINATION MARK",
  "1360 ETHIOPIC |SECTION MARK;WORDSPACE",
  "1362 ETHIOPIC |FULL STOP;COMMA;SEMICOLON;COLON;PREFACE COLON;QUESTION MARK;PARAGRAPH SEPARATOR",
  "1369 ETHIOPIC DIGIT |ONE;TWO;THREE;FOUR;FIVE;SIX;SEVEN;EIGHT;NINE",
  "1372 ETHIOPIC NUMBER |TEN;TWENTY",
  "1374 ETHIOPIC NUMBER |THIRTY;FORTY;FIFTY;SIXTY;SEVENTY;EIGHTY;NINETY;HUNDRED;TEN THOUSAND",
  "1380 ETHIOPIC SYLLABLE |SEBATBEIT MWA;MWI;MWEE;MWE;SEBATBEIT BWA",
  "1385 ETHIOPIC SYLLABLE |BWI;BWEE;BWE;SEBATBEIT FWA;FWI;FWEE;FWE;SEBATBEIT PWA;PWI;PWEE;PWE",
  "1390 ETHIOPIC TONAL MARK |YIZET",
  "1391 ETHIOPIC TONAL MARK |DERET;RIKRIK;SHORT RIKRIK;DIFAT;KENAT;CHIRET;HIDET;DERET-HIDET;KURT",
  "13A0 CHEROKEE LETTER |A;E;I;O;U;V;GA;KA;GE;GI;GO;GU;GV;HA;HE;HI;HO;HU;HV;LA;LE",
  "13B5 CHEROKEE LETTER |LI;LO;LU;LV;MA;ME;MI;MO;MU;NA;HNA;NAH;NE;NI;NO;NU;NV;QUA;QUE;QUI;QUO;QUU",
  "13CB CHEROKEE LETTER |QUV;SA;S;SE;SI;SO;SU;SV;DA;TA;DE;TE;DI;TI;DO;DU;DV;DLA;TLA;TLE;TLI;TLO",
  "13E1 CHEROKEE LETTER |TLU;TLV;TSA;TSE;TSI;TSO;TSU;TSV;WA;WE;WI;WO;WU;WV;YA;YE;YI;YO;YU;YV;MV",
  "13F8 CHEROKEE SMALL LETTER |YE;YI;YO;YU;YV;MV",
  "1400 CANADIAN SYLLABICS |HYPHEN;E;AAI;I;II;O;OO",
  "1407 CANADIAN SYLLABICS |Y-CREE OO;CARRIER EE;CARRIER I;A;AA;WE;WEST-CREE WE;WI;WEST-CREE WI",
  "1410 CANADIAN SYLLABICS |WII;WEST-CREE WII;WO;WEST-CREE WO;WOO;WEST-CREE WOO;NASKAPI WOO;WA",
  "1418 CANADIAN SYLLABICS |WEST-CREE WA;WAA;WEST-CREE WAA;NASKAPI WAA;AI;Y-CREE W;GLOTTAL STOP",
  "141F CANADIAN SYLLABICS FINAL |ACUTE;GRAVE;BOTTOM HALF RING;TOP HALF RING;RIGHT HALF RING;RING",
  "1425 CANADIAN SYLLABICS FINAL DOUBLE |ACUTE;SHORT VERTICAL STROKES",
  "1427 CANADIAN SYLLABICS FINAL |MIDDLE DOT;SHORT HORIZONTAL STROKE;PLUS;DOWN TACK",
  "142B CANADIAN SYLLABICS |EN;IN;ON;AN;PE;PAAI;PI;PII;PO;POO;Y-CREE POO",
  "1436 CANADIAN SYLLABICS |CARRIER HEE;CARRIER HI;PA;PAA;PWE;WEST-CREE PWE;PWI;WEST-CREE PWI",
  "143E CANADIAN SYLLABICS |PWII;WEST-CREE PWII;PWO;WEST-CREE PWO;PWOO;WEST-CREE PWOO",
  "1444 CANADIAN SYLLABICS |PWA;WEST-CREE PWA;PWAA;WEST-CREE PWAA;Y-CREE PWAA;P;WEST-CREE P",
  "144B CANADIAN SYLLABICS |CARRIER H;TE;TAAI;TI;TII;TO;TOO;Y-CREE TOO;CARRIER DEE;CARRIER DI",
  "1455 CANADIAN SYLLABICS |TA;TAA;TWE;WEST-CREE TWE;TWI;WEST-CREE TWI;TWII;WEST-CREE TWII",
  "145D CANADIAN SYLLABICS |TWO;WEST-CREE TWO;TWOO;WEST-CREE TWOO;TWA;WEST-CREE TWA",
  "1463 CANADIAN SYLLABICS |TWAA;WEST-CREE TWAA;NASKAPI TWAA;T;TTE;TTI;TTO;TTA;KE;KAAI",
  "146D CANADIAN SYLLABICS |KI;KII;KO;KOO;Y-CREE KOO;KA;KAA;KWE;WEST-CREE KWE;KWI;WEST-CREE KWI",
  "1478 CANADIAN SYLLABICS |KWII;WEST-CREE KWII;KWO;WEST-CREE KWO;KWOO;WEST-CREE KWOO",
  "147E CANADIAN SYLLABICS |KWA;WEST-CREE KWA;KWAA;WEST-CREE KWAA;NASKAPI KWAA;K;KW",
  "1485 CANADIAN SYLLABICS SOUTH-SLAVEY |KEH;KIH;KOH;KAH",
  "1489 CANADIAN SYLLABICS |CE;CAAI",
  "148B CANADIAN SYLLABICS |CI;CII;CO;COO;Y-CREE COO;CA;CAA;CWE;WEST-CREE CWE;CWI;WEST-CREE CWI",
  "1496 CANADIAN SYLLABICS |CWII;WEST-CREE CWII;CWO;WEST-CREE CWO;CWOO;WEST-CREE CWOO;CWA",
  "149D CANADIAN SYLLABICS |WEST-CREE CWA;CWAA;WEST-CREE CWAA;NASKAPI CWAA;C;SAYISI TH;ME;MAAI",
  "14A5 CANADIAN SYLLABICS |MI;MII;MO;MOO;Y-CREE MOO;MA;MAA;MWE;WEST-CREE MWE;MWI;WEST-CREE MWI",
  "14B0 CANADIAN SYLLABICS |MWII;WEST-CREE MWII;MWO;WEST-CREE MWO;MWOO;WEST-CREE MWOO",
  "14B6 CANADIAN SYLLABICS |MWA;WEST-CREE MWA;MWAA;WEST-CREE MWAA;NASKAPI MWAA;M;WEST-CREE M",
  "14BD CANADIAN SYLLABICS |MH;ATHAPASCAN M;SAYISI M;NE;NAAI;NI;NII;NO;NOO;Y-CREE NOO;NA;NAA",
  "14C9 CANADIAN SYLLABICS |NWE;WEST-CREE NWE;NWA;WEST-CREE NWA;NWAA;WEST-CREE NWAA;NASKAPI NWAA",
  "14D0 CANADIAN SYLLABICS |N;CARRIER NG;NH;LE;LAAI;LI;LII;LO;LOO;Y-CREE LOO;LA;LAA;LWE",
  "14DD CANADIAN SYLLABICS |WEST-CREE LWE;LWI;WEST-CREE LWI;LWII;WEST-CREE LWII;LWO;WEST-CREE LWO",
  "14E4 CANADIAN SYLLABICS |LWOO;WEST-CREE LWOO;LWA;WEST-CREE LWA;LWAA;WEST-CREE LWAA",
  "14EA CANADIAN SYLLABICS |L;WEST-CREE L;MEDIAL L;SE;SAAI;SI;SII;SO;SOO;Y-CREE SOO;SA;SAA;SWE",
  "14F7 CANADIAN SYLLABICS |WEST-CREE SWE;SWI;WEST-CREE SWI;SWII;WEST-CREE SWII;SWO;WEST-CREE SWO",
  "14FE CANADIAN SYLLABICS |SWOO;WEST-CREE SWOO;SWA;WEST-CREE SWA;SWAA;WEST-CREE SWAA",
  "1504 CANADIAN SYLLABICS |NASKAPI SWAA;S;ATHAPASCAN S;SW;BLACKFOOT S;MOOSE-CREE SK",
  "150A CANADIAN SYLLABICS NASKAPI |SKW;S-W;SPWA;STWA;SKWA;SCWA",
  "1510 CANADIAN SYLLABICS |SHE;SHI;SHII;SHO;SHOO;SHA;SHAA;SHWE;WEST-CREE SHWE",
  "1519 CANADIAN SYLLABICS |SHWI;WEST-CREE SHWI;SHWII;WEST-CREE SHWII;SHWO;WEST-CREE SHWO",
  "151F CANADIAN SYLLABICS |SHWOO;WEST-CREE SHWOO;SHWA;WEST-CREE SHWA;SHWAA;WEST-CREE SHWAA",
  "1525 CANADIAN SYLLABICS |SH;YE;YAAI;YI;YII;YO;YOO;Y-CREE YOO;YA;YAA;YWE;WEST-CREE YWE",
  "1531 CANADIAN SYLLABICS |YWI;WEST-CREE YWI;YWII;WEST-CREE YWII;YWO;WEST-CREE YWO;YWOO",
  "1538 CANADIAN SYLLABICS |WEST-CREE YWOO;YWA;WEST-CREE YWA;YWAA;WEST-CREE YWAA;NASKAPI YWAA",
  "153E CANADIAN SYLLABICS |Y;BIBLE-CREE Y;WEST-CREE Y;SAYISI YI;RE;R-CREE RE;WEST-CREE LE;RAAI",
  "1546 CANADIAN SYLLABICS |RI;RII;RO;ROO;WEST-CREE LO;RA;RAA;WEST-CREE LA;RWAA;WEST-CREE RWAA;R",
  "1551 CANADIAN SYLLABICS |WEST-CREE R;MEDIAL R;FE;FAAI;FI;FII;FO;FOO;FA;FAA;FWAA;WEST-CREE FWAA",
  "155D CANADIAN SYLLABICS |F;THE;N-CREE THE;THI;N-CREE THI;THII;N-CREE THII;THO;THOO;THA",
  "1567 CANADIAN SYLLABICS |THAA;THWAA;WEST-CREE THWAA;TH;TTHE;TTHI;TTHO;TTHA;TTH;TYE;TYI;TYO;TYA",
  "1574 CANADIAN SYLLABICS NUNAVIK |HE;HI;HII;HO;HOO;HA;HAA;H",
  "157C CANADIAN SYLLABICS |NUNAVUT H;HK;QAAI;QI;QII;QO;QOO;QA;QAA;Q;TLHE;TLHI;TLHO;TLHA",
  "158A CANADIAN SYLLABICS WEST-CREE |RE;RI;RO;RA",
  "158E CANADIAN SYLLABICS |NGAAI;NGI;NGII;NGO;NGOO;NGA;NGAA;NG;NNG",
  "1597 CANADIAN SYLLABICS SAYISI |SHE;SHI;SHO;SHA",
  "159B CANADIAN SYLLABICS WOODS-CREE |THE;THI;THO;THA;TH",
  "15A0 CANADIAN SYLLABICS |LHI;LHII;LHO;LHOO;LHA;LHAA;LH",
  "15A7 CANADIAN SYLLABICS TH-CREE |THE;THI;THII;THO;THOO;THA;THAA;TH",
  "15AF CANADIAN SYLLABICS AIVILIK |B",
  "15B0 CANADIAN SYLLABICS BLACKFOOT |E;I;O;A;WE;WI;WO;WA;NE;NI;NO;NA;KE;KI;KO;KA",
  "15C0 CANADIAN SYLLABICS SAYISI |HE;HI;HO;HA",
  "15C4 CANADIAN SYLLABICS CARRIER |GHU;GHO;GHE;GHEE;GHI;GHA;RU;RO;RE;REE;RI;RA;WU;WO;WE",
  "15D3 CANADIAN SYLLABICS CARRIER |WEE;WI;WA;HWU;HWO;HWE;HWEE;HWI;HWA;THU;THO;THE;THEE;THI;THA",
  "15E2 CANADIAN SYLLABICS CARRIER |TTU;TTO;TTE;TTEE;TTI;TTA;PU;PO;PE;PEE;PI;PA;P;GU;GO;GE;GEE",
  "15F3 CANADIAN SYLLABICS CARRIER |GI;GA;KHU;KHO;KHE;KHEE;KHI;KHA;KKU;KKO;KKE;KKEE;KKI;KKA;KK",
  "1602 CANADIAN SYLLABICS CARRIER |NU;NO;NE;NEE;NI;NA;MU;MO;ME;MEE;MI;MA;YU;YO;YE;YEE;YI;YA;JU",
  "1615 CANADIAN SYLLABICS |SAYISI JU;CARRIER JO;CARRIER JE;CARRIER JEE;CARRIER JI;SAYISI JI",
  "161B CANADIAN SYLLABICS CARRIER |JA;JJU;JJO;JJE;JJEE;JJI;JJA;LU",
  "1623 CANADIAN SYLLABICS CARRIER |LO;LE;LEE;LI;LA;DLU;DLO;DLE;DLEE;DLI;DLA;LHU;LHO;LHE;LHEE;LHI",
  "1633 CANADIAN SYLLABICS CARRIER |LHA;TLHU;TLHO;TLHE;TLHEE;TLHI;TLHA;TLU;TLO;TLE;TLEE;TLI;TLA",
  "1640 CANADIAN SYLLABICS CARRIER |ZU;ZO;ZE;ZEE;ZI;ZA;Z;INITIAL Z;DZU;DZO;DZE;DZEE;DZI;DZA;SU;SO",
  "1650 CANADIAN SYLLABICS CARRIER |SE;SEE;SI;SA;SHU;SHO;SHE;SHEE;SHI;SHA;SH;TSU;TSO;TSE;TSEE;TSI",
  "1660 CANADIAN SYLLABICS CARRIER |TSA;CHU;CHO;CHE;CHEE;CHI;CHA;TTSU;TTSO;TTSE;TTSEE;TTSI;TTSA",
  "166D CANADIAN SYLLABICS |CHI SIGN;FULL STOP;QAI;NGAI;NNGI;NNGII;NNGO;NNGOO;NNGA;NNGAA",
  "1677 CANADIAN SYLLABICS WOODS-CREE |THWEE;THWI;THWII;THWO;THWOO;THWA;THWAA;FINAL TH",
  "167F |CANADIAN SYLLABICS BLACKFOOT W;OGHAM SPACE MARK;OGHAM LETTER BEITH",
  "1682 OGHAM LETTER |LUIS;FEARN;SAIL;NION;UATH;DAIR;TINNE;COLL;CEIRT;MUIN;GORT;NGEADAL;STRAIF",
  "168F OGHAM LETTER |RUIS;AILM;ONN;UR;EADHADH;IODHADH;EABHADH;OR;UILLEANN;IFIN;EAMHANCHOLL;PEITH",
  "169B OGHAM |FEATHER MARK;REVERSED FEATHER MARK",
  "16A0 RUNIC LETTER |FEHU FEOH FE F;V;URUZ UR U;YR;Y;W;THURISAZ THURS THORN",
  "16A7 RUNIC LETTER |ETH;ANSUZ A;OS O;AC A;AESC;LONG-BRANCH-OSS O;SHORT-TWIG-OSS O",
  "16AE RUNIC LETTER |O;OE;ON;RAIDO RAD REID R;KAUNA;CEN;KAUN K;G;ENG;GEBO GYFU G",
  "16B8 RUNIC LETTER |GAR;WUNJO WYNN W;HAGLAZ H;HAEGL H;LONG-BRANCH-HAGALL H;SHORT-TWIG-HAGALL H",
  "16BE RUNIC LETTER |NAUDIZ NYD NAUD N;SHORT-TWIG-NAUD N;DOTTED-N;ISAZ IS ISS I;E;JERAN J",
  "16C4 RUNIC LETTER |GER;LONG-BRANCH-AR AE;SHORT-TWIG-AR A;IWAZ EOH;PERTHO PEORTH P;ALGIZ EOLHX",
  "16CA RUNIC LETTER |SOWILO S;SIGEL LONG-BRANCH-SOL S;SHORT-TWIG-SOL S;C;Z;TIWAZ TIR TYR T",
  "16D0 RUNIC LETTER |SHORT-TWIG-TYR T;D;BERKANAN BEORC BJARKAN B;SHORT-TWIG-BJARKAN B;DOTTED-P",
  "16D5 RUNIC LETTER |OPEN-P;EHWAZ EH E;MANNAZ MAN M;LONG-BRANCH-MADR M;SHORT-TWIG-MADR M",
  "16DA RUNIC LETTER |LAUKAZ LAGU LOGR L;DOTTED-L;INGWAZ;ING;DAGAZ DAEG D;OTHALAN ETHEL O;EAR",
  "16E1 RUNIC LETTER |IOR;CWEORTH;CALC;CEALC;STAN;LONG-BRANCH-YR;SHORT-TWIG-YR;ICELANDIC-YR;Q;X",
  "16EB RUNIC |SINGLE PUNCTUATION;MULTIPLE PUNCTUATION;CROSS PUNCTUATION",
  "16EE RUNIC |ARLAUG SYMBOL;TVIMADUR SYMBOL;BELGTHOR SYMBOL;LETTER K;LETTER SH;LETTER OO",
  "16F4 RUNIC LETTER FRANKS CASKET |OS;IS;EH;AC;AESC",
  "1700 TAGALOG LETTER |A;I;U;KA;GA;NGA;TA;DA;NA;PA;BA;MA;YA;RA;LA;WA;SA;HA",
  "1712 TAGALOG |VOWEL SIGN I;VOWEL SIGN U;SIGN VIRAMA;SIGN PAMUDPOD",
  "171F TAGALOG LETTER ARCHAIC |RA",
  "1720 HANUNOO LETTER |A;I;U;KA;GA;NGA;TA;DA;NA;PA;BA;MA;YA;RA;LA;WA;SA;HA",
  "1732 HANUNOO |VOWEL SIGN I;VOWEL SIGN U;SIGN PAMUDPOD",
  "1735 PHILIPPINE |SINGLE PUNCTUATION;DOUBLE PUNCTUATION",
  "1740 BUHID LETTER |A;I;U;KA;GA;NGA;TA;DA;NA;PA;BA;MA;YA;RA;LA;WA;SA;HA",
  "1752 BUHID VOWEL SIGN |I;U",
  "1760 TAGBANWA LETTER |A;I;U;KA;GA;NGA;TA;DA;NA;PA;BA;MA;YA",
  "176E TAGBANWA LETTER |LA;WA;SA",
  "1772 TAGBANWA VOWEL SIGN |I;U",
  "1780 KHMER LETTER |KA;KHA;KO;KHO;NGO;CA;CHA;CO;CHO;NYO;DA;TTHA;DO",
  "178D KHMER LETTER |TTHO;NNO;TA;THA;TO;THO;NO;BA;PHA;PO;PHO;MO;YO;RO;LO;VO;SHA;SSO;SA;HA;LA;QA",
  "17A3 KHMER INDEPENDENT VOWEL |QAQ;QAA;QI;QII;QU",
  "17A8 KHMER INDEPENDENT VOWEL |QUK;QUU;QUUV;RY;RYY;LY;LYY;QE;QAI;QOO TYPE ONE;QOO TYPE TWO;QAU",
  "17B4 KHMER VOWEL INHERENT |AQ;AA",
  "17B6 KHMER VOWEL SIGN |AA;I;II;Y;YY;U;UU;UA;OE;YA;IE;E;AE;AI;OO;AU",
  "17C6 KHMER SIGN |NIKAHIT;REAHMUK;YUUKALEAPINTU;MUUSIKATOAN",
  "17CA KHMER SIGN |TRIISAP;BANTOC;ROBAT;TOANDAKHIAT;KAKABAT;AHSDA;SAMYOK SANNYA;VIRIAM;COENG",
  "17D3 KHMER SIGN |BATHAMASAT;KHAN;BARIYOOSAN;CAMNUC PII KUUH;LEK TOO;BEYYAL;PHNAEK MUAN;KOOMUUT",
  "17DB KHMER |CURRENCY SYMBOL RIEL;SIGN AVAKRAHASANYA;SIGN ATTHACAN",
  "17E0 KHMER DIGIT |ZERO;ONE;TWO;THREE;FOUR;FIVE;SIX;SEVEN;EIGHT;NINE",
  "17F0 KHMER SYMBOL LEK ATTAK |SON;MUOY;PII;BEI;BUON;PRAM;PRAM-MUOY;PRAM-PII;PRAM-BEI;PRAM-BUON",
  "1800 MONGOLIAN |BIRGA;ELLIPSIS;COMMA;FULL STOP;COLON;FOUR DOTS;TODO SOFT HYPHEN",
  "1807 MONGOLIAN |SIBE SYLLABLE BOUNDARY MARKER;MANCHU COMMA;MANCHU FULL STOP;NIRUGU",
  "180B MONGOLIAN FREE VARIATION SELECTOR |ONE;TWO;THREE",
  "180E MONGOLIAN |VOWEL SEPARATOR;FREE VARIATION SELECTOR FOUR",
  "1810 MONGOLIAN DIGIT |ZERO;ONE;TWO;THREE;FOUR;FIVE;SIX;SEVEN;EIGHT;NINE",
  "1820 MONGOLIAN LETTER |A;E;I;O;U;OE;UE;EE;NA;ANG;BA;PA;QA;GA;MA;LA;SA;SHA;TA;DA;CHA",
  "1835 MONGOLIAN LETTER |JA;YA;RA;WA;FA;KA;KHA;TSA;ZA;HAA;ZRA;LHA;ZHI;CHI;TODO LONG VOWEL SIGN",
  "1844 MONGOLIAN LETTER TODO |E;I;O;U;OE;UE;ANG;BA;PA;QA;GA;MA;TA;DA;CHA;JA;TSA;YA;WA;KA;GAA;HAA",
  "185A MONGOLIAN LETTER |TODO JIA;TODO NIA;TODO DZA;SIBE E;SIBE I",
  "185F MONGOLIAN LETTER SIBE |IY;UE;U;ANG;KA;GA;HA;PA;SHA;TA;DA;JA;FA;GAA;HAA;TSA;ZA;RAA;CHA;ZHA",
  "1873 MONGOLIAN LETTER |MANCHU I;MANCHU KA;MANCHU RA;MANCHU FA;MANCHU ZHA;CHA WITH TWO DOTS",
  "1880 MONGOLIAN LETTER ALI GALI |ANUSVARA ONE;VISARGA ONE",
  "1882 MONGOLIAN LETTER ALI GALI |DAMARU;UBADAMA;INVERTED UBADAMA;BALUDA;THREE BALUDA",
  "1887 MONGOLIAN LETTER ALI GALI |A;I;KA;NGA;CA;TTA;TTHA;DDA;NNA;TA;DA;PA;PHA;SSA;ZHA;ZA;AH",
  "1898 MONGOLIAN LETTER TODO ALI GALI |TA;ZHA",
  "189A MONGOLIAN LETTER MANCHU ALI GALI |GHA;NGA;CA;JHA;TTA;DDHA;TA;DHA;SSA;CYA;ZHA;ZA",
  "18A6 MONGOLIAN LETTER ALI GALI HALF |U;YA",
  "18A8 MONGOLIAN LETTER |MANCHU ALI GALI BHA;ALI GALI DAGALGA;MANCHU ALI GALI LHA",
  "18B0 CANADIAN SYLLABICS |OY;AY;AAY;WAY;POY;PAY;PWOY;TAY;KAY;KWAY;MAY;NOY;NAY;LAY",
  "18BE CANADIAN SYLLABICS |SOY;SAY;SHOY;SHAY;SHWOY;YOY;YAY;RAY;NWI;OJIBWAY NWI;NWII;OJIBWAY NWII",
  "18CA CANADIAN SYLLABICS |NWO;OJIBWAY NWO;NWOO;OJIBWAY NWOO;RWEE;RWI;RWII;RWO;RWOO;RWA",
  "18D4 CANADIAN SYLLABICS OJIBWAY |P;T;K;C;M;N;S;SH",
  "18DC CANADIAN SYLLABICS |EASTERN W;WESTERN W;FINAL SMALL RING;FINAL RAISED DOT;R-CREE RWE",
  "18E1 CANADIAN SYLLABICS |WEST-CREE LOO;WEST-CREE LAA;THWE;THWA;TTHWE;TTHOO;TTHAA;TLHWE;TLHOO",
  "18EA CANADIAN SYLLABICS SAYISI |SHWE;SHOO;HOO",
  "18ED CANADIAN SYLLABICS CARRIER |GWU;DENE GEE;GAA;GWA",
  "18F1 CANADIAN SYLLABICS |SAYISI JUU;CARRIER JWA;BEAVER DENE L;BEAVER DENE R;CARRIER DENTAL S",
  "1900 LIMBU VOWEL-CARRIER |LETTER",
  "1901 LIMBU LETTER |KA;KHA;GA;GHA;NGA;CA;CHA;JA;JHA",
  "190A LIMBU LETTER |YAN;TA;THA;DA;DHA;NA;PA;PHA;BA;BHA;MA;YA;RA;LA;WA;SHA;SSA;SA;HA;GYAN;TRA",
  "1920 LIMBU VOWEL SIGN |A;I;U;EE;AI;OO;AU;E;O",
  "1929 LIMBU SUBJOINED LETTER |YA;RA;WA",
  "1930 LIMBU SMALL LETTER |KA;NGA;ANUSVARA;TA;NA;PA;MA;RA;LA",
  "1939 LIMBU SIGN |MUKPHRENG;KEMPHRENG;SA-I",
  "1940 LIMBU SIGN |LOO",
  "1944 LIMBU |EXCLAMATION MARK;QUESTION MARK",
  "1946 LIMBU DIGIT |ZERO;ONE;TWO;THREE;FOUR;FIVE;SIX;SEVEN;EIGHT;NINE",
  "1950 TAI LE LETTER |KA;XA;NGA;TSA;SA;YA",
  "1956 TAI LE LETTER |TA;THA;LA;PA;PHA;MA;FA;VA;HA;QA;KHA;TSHA;NA;A;I;EE;EH;U;OO;O;UE;E;AUE;AI",
  "1970 TAI LE LETTER TONE-|2;3;4;5;6",
  "1980 NEW TAI LUE LETTER |HIGH QA;LOW QA;HIGH KA;HIGH XA;HIGH NGA;LOW KA;LOW XA;LOW NGA",
  "1988 NEW TAI LUE LETTER HIGH |TSA;SA;YA",
  "198B NEW TAI LUE LETTER |LOW TSA;LOW SA;LOW YA;HIGH TA;HIGH THA;HIGH NA;LOW TA",
  "1992 NEW TAI LUE LETTER |LOW THA;LOW NA;HIGH PA;HIGH PHA;HIGH MA;LOW PA;LOW PHA;LOW MA;HIGH FA",
  "199B NEW TAI LUE LETTER |HIGH VA;HIGH LA;LOW FA;LOW VA;LOW LA;HIGH HA;HIGH DA;HIGH BA;LOW HA",
  "19A4 NEW TAI LUE LETTER |LOW DA;LOW BA;HIGH KVA;HIGH XVA;LOW KVA;LOW XVA;HIGH SUA;LOW SUA",
  "19B0 NEW TAI LUE VOWEL SIGN |VOWEL SHORTENER;AA;II;U;UU;E;AE;O;OA;UE;AY;AAY;UY;OY;OAY;UEY;IY",
  "19C1 NEW TAI LUE LETTER FINAL |V;NG;N;M;K;D;B",
  "19C8 NEW TAI LUE TONE MARK-|1;2",
  "19D0 NEW TAI LUE DIGIT |ZERO;ONE;TWO;THREE;FOUR;FIVE;SIX;SEVEN;EIGHT;NINE",
  "19DA NEW TAI LUE THAM DIGIT |ONE",
  "19DE NEW TAI LUE SIGN |LAE;LAEV",
  "19E0 KHMER SYMBOL |PATHAMASAT;MUOY KOET;PII KOET;BEI KOET;BUON KOET;PRAM KOET",
  "19E6 KHMER SYMBOL |PRAM-MUOY KOET;PRAM-PII KOET;PRAM-BEI KOET;PRAM-BUON KOET;DAP KOET",
  "19EB KHMER SYMBOL DAP-|MUOY KOET;PII KOET;BEI KOET;BUON KOET;PRAM KOET",
  "19F0 KHMER SYMBOL |TUTEYASAT;MUOY ROC;PII ROC;BEI ROC;BUON ROC",
  "19F5 KHMER SYMBOL |PRAM ROC;PRAM-MUOY ROC;PRAM-PII ROC;PRAM-BEI ROC;PRAM-BUON ROC;DAP ROC",
  "19FB KHMER SYMBOL DAP-|MUOY ROC;PII ROC;BEI ROC;BUON ROC;PRAM ROC",
  "1A00 BUGINESE LETTER |KA",
  "1A01 BUGINESE LETTER |GA;NGA;NGKA;PA;BA;MA;MPA;TA;DA;NA;NRA;CA;JA;NYA;NYCA;YA;RA;LA;VA;SA;A;HA",
  "1A17 BUGINESE VOWEL SIGN |I;U;E;O;AE",
  "1A1E BUGINESE |PALLAWA;END OF SECTION",
  "1A20 TAI THAM LETTER |HIGH KA;HIGH KHA;HIGH KXA;LOW KA;LOW KXA;LOW KHA;NGA",
  "1A27 TAI THAM LETTER |HIGH CA;HIGH CHA;LOW CA;LOW SA;LOW CHA;NYA;RATA;HIGH RATHA;DA;LOW RATHA",
  "1A31 TAI THAM LETTER |RANA;HIGH TA;HIGH THA;LOW TA;LOW THA;NA;BA;HIGH PA;HIGH PHA;HIGH FA",
  "1A3B TAI THAM LETTER |LOW PA;LOW FA;LOW PHA;MA;LOW YA;HIGH YA;RA;RUE;LA;LUE;WA;HIGH SHA",
  "1A47 TAI THAM LETTER |HIGH SSA;HIGH SA;HIGH HA;LLA;A;LOW HA;I;II;U;UU;EE;OO;LAE;GREAT SA",
  "1A55 TAI THAM CONSONANT SIGN |MEDIAL RA;MEDIAL LA;LA TANG LAI",
  "1A58 TAI THAM SIGN MAI KANG |LAI",
  "1A59 TAI THAM CONSONANT SIGN |FINAL NGA;LOW PA;HIGH RATHA OR LOW PA;MA;BA;SA",
  "1A60 TAI THAM SIGN |SAKOT",
  "1A61 TAI THAM VOWEL SIGN |A;MAI SAT;AA;TALL AA;I;II;UE;UUE;U;UU;O;OA BELOW;OY;E;AE;OO;AI",
  "1A72 TAI THAM |VOWEL SIGN THAM AI;VOWEL SIGN OA ABOVE;SIGN MAI KANG;SIGN TONE-1;SIGN TONE-2",
  "1A77 TAI THAM SIGN |KHUEN TONE-3;KHUEN TONE-4;KHUEN TONE-5;RA HAAM;MAI SAM;KHUEN-LUE KARAN",
  "1A7F TAI THAM COMBINING CRYPTOGRAMMIC |DOT",
  "1A80 TAI THAM HORA DIGIT |ZERO;ONE;TWO;THREE;FOUR;FIVE;SIX;SEVEN;EIGHT;NINE",
  "1A90 TAI THAM THAM DIGIT |ZERO;ONE;TWO;THREE;FOUR;FIVE;SIX;SEVEN;EIGHT;NINE",
  "1AA0 TAI THAM SIGN |WIANG;WIANGWAAK;SAWAN;KEOW;HOY;DOKMAI",
  "1AA6 TAI THAM SIGN |REVERSED ROTATED RANA;MAI YAMOK;KAAN;KAANKUU;SATKAAN;SATKAANKUU;HANG;CAANG",
  "1AB0 COMBINING DOUBLED CIRCUMFLEX |ACCENT",
  "1AB1 COMBINING |DIAERESIS-RING;INFINITY;DOWNWARDS ARROW;TRIPLE DOT;X-X BELOW;WIGGLY LINE BELOW",
  "1AB7 COMBINING |OPEN MARK BELOW;DOUBLE OPEN MARK BELOW;LIGHT CENTRALIZATION STROKE BELOW",
  "1ABA COMBINING |STRONG CENTRALIZATION STROKE BELOW;PARENTHESES ABOVE;DOUBLE PARENTHESES ABOVE",
  "1ABD COMBINING PARENTHESES |BELOW;OVERLAY",
  "1ABF COMBINING LATIN SMALL LETTER |W BELOW;TURNED W BELOW",
  "1AC1 COMBINING LEFT PARENTHESIS ABOVE |LEFT",
  "1AC2 COMBINING |RIGHT PARENTHESIS ABOVE RIGHT;LEFT PARENTHESIS BELOW LEFT",
  "1AC4 COMBINING |RIGHT PARENTHESIS BELOW RIGHT;SQUARE BRACKETS ABOVE",
  "1AC6 COMBINING |NUMBER SIGN ABOVE;INVERTED DOUBLE ARCH ABOVE;PLUS SIGN ABOVE",
  "1AC9 COMBINING |DOUBLE PLUS SIGN ABOVE;DOUBLE PLUS SIGN BELOW;TRIPLE ACUTE ACCENT",
  "1ACC COMBINING LATIN SMALL LETTER INSULAR |G;R;T",
  "1B00 BALINESE SIGN |ULU RICEM;ULU CANDRA;CECEK;SURANG;BISAH",
  "1B05 BALINESE LETTER |AKARA;AKARA TEDUNG;IKARA;IKARA TEDUNG;UKARA;UKARA TEDUNG;RA REPA",
  "1B0C BALINESE LETTER |RA REPA TEDUNG;LA LENGA;LA LENGA TEDUNG;EKARA;AIKARA;OKARA;OKARA TEDUNG",
  "1B13 BALINESE LETTER |KA;KA MAHAPRANA;GA;GA GORA;NGA;CA;CA LACA;JA;JA JERA;NYA;TA LATIK",
  "1B1E BALINESE LETTER |TA MURDA MAHAPRANA;DA MURDA ALPAPRANA;DA MURDA MAHAPRANA;NA RAMBAT;TA",
  "1B23 BALINESE LETTER |TA TAWA;DA;DA MADU;NA;PA;PA KAPAL;BA;BA KEMBANG;MA;YA;RA;LA;WA;SA SAGA",
  "1B31 BALINESE |LETTER SA SAPA;LETTER SA;LETTER HA;SIGN REREKAN",
  "1B35 BALINESE VOWEL SIGN |TEDUNG;ULU;ULU SARI;SUKU",
  "1B39 BALINESE VOWEL SIGN |SUKU ILUT;RA REPA;RA REPA TEDUNG;LA LENGA;LA LENGA TEDUNG;TALING",
  "1B3F BALINESE VOWEL SIGN |TALING REPA;TALING TEDUNG;TALING REPA TEDUNG;PEPET;PEPET TEDUNG",
  "1B44 BALINESE |ADEG ADEG;LETTER KAF SASAK;LETTER KHOT SASAK",
  "1B47 BALINESE LETTER |TZIR SASAK;EF SASAK;VE SASAK;ZAL SASAK;ASYURA SASAK;ARCHAIC JNYA",
  "1B50 BALINESE DIGIT |ZERO;ONE;TWO;THREE;FOUR;FIVE;SIX;SEVEN;EIGHT;NINE",
  "1B5A BALINESE |PANTI;PAMADA;WINDU;CARIK PAMUNGKAH;CARIK SIKI;CARIK PAREREN;PAMENENG",
  "1B61 BALINESE MUSICAL SYMBOL |DONG;DENG;DUNG;DANG;DANG SURANG;DING;DAENG;DEUNG;DAING;DANG GEDE",
  "1B6B BALINESE MUSICAL SYMBOL COMBINING |TEGEH;ENDEP;KEMPUL;KEMPLI;JEGOGAN",
  "1B70 BALINESE MUSICAL SYMBOL COMBINING |KEMPUL WITH JEGOGAN;KEMPLI WITH JEGOGAN;BENDE;GONG",
  "1B74 BALINESE MUSICAL SYMBOL RIGHT-HAND |OPEN DUG;OPEN DAG;CLOSED TUK;CLOSED TAK",
  "1B78 BALINESE MUSICAL SYMBOL LEFT-HAND |OPEN PANG;OPEN PUNG;CLOSED PLAK;CLOSED PLUK;OPEN PING",
  "1B7D BALINESE |PANTI LANTANG;PAMADA LANTANG",
  "1B80 SUNDANESE SIGN |PANYECEK;PANGLAYAR;PANGWISAD",
  "1B83 SUNDANESE LETTER |A;I;U;AE;O;E;EU",
  "1B8A SUNDANESE LETTER |KA;QA;GA;NGA;CA;JA;ZA;NYA;TA;DA;NA;PA;FA;VA;BA;MA;YA;RA;LA;WA;SA;XA;HA",
  "1BA1 SUNDANESE CONSONANT SIGN |PAMINGKAL;PANYAKRA;PANYIKU",
  "1BA4 SUNDANESE VOWEL SIGN |PANGHULU;PANYUKU;PANAELAENG;PANOLONG;PAMEPET;PANEULEUNG",
  "1BAA SUNDANESE SIGN |PAMAAEH;VIRAMA",
  "1BAC SUNDANESE CONSONANT SIGN PASANGAN |MA;WA",
  "1BAE SUNDANESE LETTER |KHA;SYA",
  "1BB0 SUNDANESE DIGIT |ZERO;ONE;TWO;THREE;FOUR;FIVE;SIX;SEVEN;EIGHT;NINE",
  "1BBA SUNDANESE |AVAGRAHA",
  "1BBB SUNDANESE LETTER |REU;LEU;BHA;FINAL K;FINAL M",
  "1BC0 BATAK LETTER |A;SIMALUNGUN A;HA;SIMALUNGUN HA;MANDAILING HA;BA;KARO BA;PA;SIMALUNGUN PA",
  "1BC9 BATAK LETTER |NA;MANDAILING NA;WA;SIMALUNGUN WA;PAKPAK WA;GA;SIMALUNGUN GA;JA;DA",
  "1BD2 BATAK LETTER |RA;SIMALUNGUN RA;MA;SIMALUNGUN MA;SOUTHERN TA;NORTHERN TA;SA;SIMALUNGUN SA",
  "1BDA BATAK LETTER |MANDAILING SA;YA;SIMALUNGUN YA;NGA;LA;SIMALUNGUN LA;NYA;CA;NDA;MBA;I;U",
  "1BE6 BATAK SIGN |TOMPI",
  "1BE7 BATAK VOWEL SIGN |E;PAKPAK E;EE;I;KARO I;O;KARO O;U;U FOR SIMALUNGUN SA",
  "1BF0 BATAK |CONSONANT SIGN NG;CONSONANT SIGN H;PANGOLAT;PANONGONAN",
  "1BFC BATAK SYMBOL BINDU |NA METEK;PINARBORAS;JUDUL;PANGOLAT",
  "1C00 LEPCHA LETTER |KA;KLA;KHA;GA;GLA;NGA;CA;CHA;JA;NYA;TA;THA;DA;NA;PA",
  "1C0F LEPCHA LETTER |PLA;PHA;FA;FLA;BA;BLA;MA;MLA;TSA;TSHA;DZA;YA;RA;LA;HA;HLA;VA;SA;SHA;WA;A",
  "1C24 LEPCHA SUBJOINED LETTER |YA;RA",
  "1C26 LEPCHA VOWEL SIGN |AA;I;O;OO;U;UU;E",
  "1C2D LEPCHA CONSONANT SIGN |K;M;L;N;P;R;T;NYIN-DO;KANG",
  "1C36 LEPCHA SIGN |RAN;NUKTA",
  "1C3B LEPCHA PUNCTUATION |TA-ROL;NYET THYOOM TA-ROL;CER-WA;TSHOOK CER-WA;TSHOOK",
  "1C40 LEPCHA DIGIT |ZERO;ONE;TWO;THREE;FOUR;FIVE;SIX;SEVEN;EIGHT;NINE",
  "1C4D LEPCHA LETTER |TTA;TTHA;DDA",
  "1C50 OL CHIKI DIGIT |ZERO;ONE;TWO;THREE;FOUR;FIVE;SIX;SEVEN;EIGHT;NINE",
  "1C5A OL CHIKI LETTER |LA;AT;AG;ANG;AL;LAA;AAK;AAJ",
  "1C62 OL CHIKI LETTER |AAM;AAW;LI;IS;IH;INY;IR;LU;UC;UD;UNN;UY;LE;EP;EDD;EN;ERR;LO;OTT;OB;OV;OH",
  "1C78 OL CHIKI |MU TTUDDAG;GAAHLAA TTUDDAAG;MU-GAAHLAA TTUDDAAG;RELAA;PHAARKAA;AHAD",
  "1C7E OL CHIKI PUNCTUATION |MUCAAD;DOUBLE MUCAAD",
  "1C80 CYRILLIC SMALL LETTER |ROUNDED VE;LONG-LEGGED DE;NARROW O;WIDE ES",
  "1C84 CYRILLIC SMALL LETTER |TALL TE;THREE-LEGGED TE;TALL HARD SIGN;TALL YAT;UNBLENDED UK",
  "1C90 GEORGIAN MTAVRULI CAPITAL LETTER |AN;BAN;GAN;DON;EN",
  "1C95 GEORGIAN MTAVRULI CAPITAL LETTER |VIN;ZEN;TAN;IN;KAN;LAS;MAN;NAR;ON;PAR;ZHAR;RAE;SAN;TAR",
  "1CA3 GEORGIAN MTAVRULI CAPITAL LETTER |UN;PHAR;KHAR;GHAN;QAR;SHIN;CHIN;CAN;JIL;CIL;CHAR;XAN",
  "1CAF GEORGIAN MTAVRULI CAPITAL LETTER |JHAN;HAE;HE;HIE;WE;HAR;HOE;FI;YN;ELIFI;TURNED GAN;AIN",
  "1CBD GEORGIAN MTAVRULI CAPITAL LETTER |AEN;HARD SIGN;LABIAL SIGN",
  "1CC0 SUNDANESE PUNCTUATION BINDU |SURYA;PANGLONG",
  "1CC2 SUNDANESE PUNCTUATION BINDU |PURNAMA;CAKRA;LEU SATANGA;KA SATANGA;DA SATANGA;BA SATANGA",
  "1CD0 VEDIC |TONE KARSHANA;TONE SHARA;TONE PRENKHA;SIGN NIHSHVASA",
  "1CD4 VEDIC |SIGN YAJURVEDIC MIDLINE SVARITA;TONE YAJURVEDIC AGGRAVATED INDEPENDENT SVARITA",
  "1CD6 VEDIC TONE YAJURVEDIC |INDEPENDENT SVARITA;KATHAKA INDEPENDENT SVARITA",
  "1CD8 VEDIC TONE |CANDRA BELOW;YAJURVEDIC KATHAKA INDEPENDENT SVARITA SCHROEDER;DOUBLE SVARITA",
  "1CDB VEDIC TONE |TRIPLE SVARITA;KATHAKA ANUDATTA;DOT BELOW;TWO DOTS BELOW;THREE DOTS BELOW",
  "1CE0 VEDIC TONE |RIGVEDIC KASHMIRI INDEPENDENT SVARITA;ATHARVAVEDIC INDEPENDENT SVARITA",
  "1CE2 VEDIC SIGN |VISARGA SVARITA;VISARGA UDATTA;REVERSED VISARGA UDATTA;VISARGA ANUDATTA",
  "1CE6 VEDIC SIGN |REVERSED VISARGA ANUDATTA;VISARGA UDATTA WITH TAIL;VISARGA ANUDATTA WITH TAIL",
  "1CE9 VEDIC SIGN ANUSVARA |ANTARGOMUKHA;BAHIRGOMUKHA;VAMAGOMUKHA;VAMAGOMUKHA WITH TAIL",
  "1CED VEDIC SIGN |TIRYAK;HEXIFORM LONG ANUSVARA;LONG ANUSVARA;RTHANG LONG ANUSVARA",
  "1CF1 VEDIC SIGN |ANUSVARA UBHAYATO MUKHA;ARDHAVISARGA;ROTATED ARDHAVISARGA",
  "1CF4 VEDIC |TONE CANDRA ABOVE;SIGN JIHVAMULIYA;SIGN UPADHMANIYA;SIGN ATIKRAMA",
  "1CF8 VEDIC |TONE RING ABOVE;TONE DOUBLE RING ABOVE;SIGN DOUBLE ANUSVARA ANTARGOMUKHA"]

end ElementLocator.Regex.CharacterName
