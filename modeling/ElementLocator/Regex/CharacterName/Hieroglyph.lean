/-! # Character names: rows for U+14400 to U+1CFC3

    The names of Anatolian hieroglyphs and of further scripts of Africa and Asia. -/

namespace ElementLocator.Regex.CharacterName

/-- Names from U+14400 to U+1CFC3. -/
def hieroglyphRows : List String := [
  "14400 ANATOLIAN HIEROGLYPH |A001;A002;A003",
  "14403 ANATOLIAN HIEROGLYPH |A004;A005;A006;A007;A008;A009;A010;A010A;A011;A012;A013;A014;A015",
  "14410 ANATOLIAN HIEROGLYPH |A016;A017;A018;A019;A020;A021;A022;A023;A024;A025;A026;A026A;A027",
  "1441D ANATOLIAN HIEROGLYPH |A028;A029;A030;A031;A032;A033;A034;A035;A036;A037;A038;A039;A039A",
  "1442A ANATOLIAN HIEROGLYPH |A040;A041;A041A;A042;A043;A044;A045;A045A;A046;A046A;A046B;A047",
  "14436 ANATOLIAN HIEROGLYPH |A048;A049;A050;A051;A052;A053;A054;A055;A056;A057;A058;A059;A060",
  "14443 ANATOLIAN HIEROGLYPH |A061;A062;A063;A064;A065;A066;A066A;A066B;A066C;A067;A068;A069",
  "1444F ANATOLIAN HIEROGLYPH |A070;A071;A072;A073;A074;A075;A076;A077;A078;A079;A080;A081;A082",
  "1445C ANATOLIAN HIEROGLYPH |A083;A084;A085;A086;A087;A088;A089;A090;A091;A092;A093;A094;A095",
  "14469 ANATOLIAN HIEROGLYPH |A096;A097;A097A;A098;A098A;A099;A100;A100A;A101;A101A;A102;A102A",
  "14475 ANATOLIAN HIEROGLYPH |A103;A104;A104A;A104B;A104C;A105;A105A;A105B;A106;A107;A107A;A107B",
  "14481 ANATOLIAN HIEROGLYPH |A107C;A108;A109;A110;A110A;A110B;A111;A112;A113;A114;A115;A115A",
  "1448D ANATOLIAN HIEROGLYPH |A116;A117;A118;A119;A120;A121;A122;A123;A124;A125;A125A;A126;A127",
  "1449A ANATOLIAN HIEROGLYPH |A128;A129;A130;A131;A132;A133;A134;A135;A135A;A136;A137;A138;A139",
  "144A7 ANATOLIAN HIEROGLYPH |A140;A141;A142;A143;A144;A145;A146;A147;A148;A149;A150;A151;A152",
  "144B4 ANATOLIAN HIEROGLYPH |A153;A154;A155;A156;A157;A158;A159;A160;A161;A162;A163;A164;A165",
  "144C1 ANATOLIAN HIEROGLYPH |A166;A167;A168;A169;A170;A171;A172;A173;A174;A175;A176;A177;A178",
  "144CE ANATOLIAN HIEROGLYPH |A179;A180;A181;A182;A183;A184;A185;A186;A187;A188;A189;A190;A191",
  "144DB ANATOLIAN HIEROGLYPH |A192;A193;A194;A195;A196;A197;A198;A199;A200;A201;A202;A202A;A202B",
  "144E8 ANATOLIAN HIEROGLYPH |A203;A204;A205;A206;A207;A207A;A208;A209;A209A;A210;A211;A212;A213",
  "144F5 ANATOLIAN HIEROGLYPH |A214;A215;A215A;A216;A216A;A217;A218;A219;A220;A221;A222;A223;A224",
  "14502 ANATOLIAN HIEROGLYPH |A225;A226;A227;A227A;A228;A229;A230;A231;A232;A233;A234;A235;A236",
  "1450F ANATOLIAN HIEROGLYPH |A237;A238;A239;A240;A241;A242;A243;A244;A245;A246;A247;A248;A249",
  "1451C ANATOLIAN HIEROGLYPH |A250;A251;A252;A253;A254;A255;A256;A257;A258;A259;A260;A261;A262",
  "14529 ANATOLIAN HIEROGLYPH |A263;A264;A265;A266;A267;A267A;A268;A269;A270;A271;A272;A273;A274",
  "14536 ANATOLIAN HIEROGLYPH |A275;A276;A277;A278;A279;A280;A281;A282;A283;A284;A285;A286;A287",
  "14543 ANATOLIAN HIEROGLYPH |A288;A289;A289A;A290;A291;A292;A293;A294;A294A;A295;A296;A297;A298",
  "14550 ANATOLIAN HIEROGLYPH |A299;A299A;A300;A301;A302;A303;A304;A305;A306;A307;A308;A309;A309A",
  "1455D ANATOLIAN HIEROGLYPH |A310;A311;A312;A313;A314;A315;A316;A317;A318;A319;A320;A321;A322",
  "1456A ANATOLIAN HIEROGLYPH |A323;A324;A325;A326;A327;A328;A329;A329A;A330;A331;A332A;A332B",
  "14576 ANATOLIAN HIEROGLYPH |A332C;A333;A334;A335;A336;A336A;A336B;A336C;A337;A338;A339;A340",
  "14582 ANATOLIAN HIEROGLYPH |A341;A342;A343;A344;A345;A346;A347;A348;A349;A350;A351;A352;A353",
  "1458F ANATOLIAN HIEROGLYPH |A354;A355;A356;A357;A358;A359;A359A;A360;A361;A362;A363;A364;A364A",
  "1459C ANATOLIAN HIEROGLYPH |A365;A366;A367;A368;A368A;A369;A370;A371;A371A;A372;A373;A374;A375",
  "145A9 ANATOLIAN HIEROGLYPH |A376;A377;A378;A379;A380;A381;A381A;A382;A383 RA OR RI;A383A;A384",
  "145B4 ANATOLIAN HIEROGLYPH |A385;A386;A386A;A387;A388;A389;A390;A391;A392;A393 EIGHT;A394;A395",
  "145C0 ANATOLIAN HIEROGLYPH |A396;A397;A398;A399;A400;A401;A402;A403;A404;A405;A406;A407;A408",
  "145CD ANATOLIAN HIEROGLYPH |A409;A410 BEGIN LOGOGRAM MARK;A410A END LOGOGRAM MARK;A411;A412",
  "145D2 ANATOLIAN HIEROGLYPH |A413;A414;A415;A416;A417;A418;A419;A420;A421;A422;A423;A424;A425",
  "145DF ANATOLIAN HIEROGLYPH |A426;A427;A428;A429;A430;A431;A432;A433;A434;A435;A436;A437;A438",
  "145EC ANATOLIAN HIEROGLYPH |A439;A440;A441;A442;A443;A444;A445;A446;A447;A448;A449;A450;A450A",
  "145F9 ANATOLIAN HIEROGLYPH |A451;A452;A453;A454;A455;A456;A457;A457A;A458;A459;A460;A461;A462",
  "14606 ANATOLIAN HIEROGLYPH |A463;A464;A465;A466;A467;A468;A469;A470;A471;A472;A473;A474;A475",
  "14613 ANATOLIAN HIEROGLYPH |A476;A477;A478;A479;A480;A481;A482;A483;A484;A485;A486;A487;A488",
  "14620 ANATOLIAN HIEROGLYPH |A489;A490;A491;A492;A493;A494;A495;A496;A497;A501;A502;A503;A504",
  "1462D ANATOLIAN HIEROGLYPH |A505;A506;A507;A508;A509;A510;A511;A512;A513;A514;A515;A516;A517",
  "1463A ANATOLIAN HIEROGLYPH |A518;A519;A520;A521;A522;A523;A524;A525;A526;A527;A528;A529;A530",
  "16800 BAMUM LETTER PHASE-A |NGKUE MFON;GBIEE FON;PON MFON PIPAEMGBIEE;PON MFON PIPAEMBA",
  "16804 BAMUM LETTER PHASE-A |NAA MFON;SHUENSHUET;TITA MFON;NZA MFON;SHINDA PA NJI",
  "16809 BAMUM LETTER PHASE-A PON PA NJI |PIPAEMGBIEE;PIPAEMBA",
  "1680B BAMUM LETTER PHASE-A |MAEMBGBIEE;TU MAEMBA;NGANGU;MAEMVEUX;MANSUAE;MVEUAENGAM",
  "16811 BAMUM LETTER PHASE-A |SEUNYAM;NTOQPEN;KEUKEUTNDA;NKINDI;SUU;NGKUENZEUM;LAPAQ;LET KUT",
  "16819 BAMUM LETTER PHASE-A |NTAP MFAA;MAEKEUP;PASHAE;GHEUAERAE;PAMSHAE;MON NGGEUAET;NZUN MEUT",
  "16820 BAMUM LETTER PHASE-A |U YUQ NAE;GHEUAEGHEUAE;NTAP NTAA;SISA;MGBASA;MEUNJOMNDEUQ",
  "16826 BAMUM LETTER PHASE-A |MOOMPUQ;KAFA;PA LEERAEWA;NDA LEERAEWA;PET;MAEMKPEN;NIKA;PUP",
  "1682E BAMUM LETTER PHASE-A |TUAEP;LUAEP;SONJAM;TEUTEUWEN;MAENYI;KET;NDAANGGEUAET;KUOQ;MOOMEUT",
  "16837 BAMUM LETTER PHASE-A |SHUM;LOMMAE;FIRI;ROM;KPOQ;SOQ;MAP PIEET;SHIRAE;NTAP;SHOQ NSHUT YUM",
  "16841 BAMUM LETTER PHASE-A |NYIT MONGKEUAEQ;PAARAE;NKAARAE;UNKNOWN;NGGEN;MAESI;NJAM;MBANYI",
  "16849 BAMUM LETTER PHASE-A |NYET;TEUAEN;SOT;PAAM;NSHIEE;MAEM;NYI;KAQ;NSHA;VEE;LU;NEN;NAQ;MBAQ",
  "16857 BAMUM LETTER PHASE-B |NSHUET;TU MAEMGBIEE;SIEE;SET TU;LOM NTEUM;MBA MAELEE;KIEEM;YEURAE",
  "1685F BAMUM LETTER PHASE-B |MBAARAE;KAM;PEESHI;YAFU LEERAEWA;LAM NSHUT NYAM;NTIEE SHEUOQ",
  "16865 BAMUM LETTER PHASE-B |NDU NJAA;GHEUGHEUAEM;PIT;TU NSIEE;SHET NJAQ;SHEUAEQTU;MFON TEUAEQ",
  "1686C BAMUM LETTER PHASE-B |MBIT MBAAKET;NYI NTEUM;KEUPUQ;GHEUGHEN;KEUYEUX;LAANAE;PARUM;VEUM",
  "16874 BAMUM LETTER PHASE-B |NGKINDI MVOP;NGGEU MBU;WUAET;SAKEUAE;TAAM;MEUQ;NGGUOQ;NGGUOQ LARGE",
  "1687C BAMUM LETTER PHASE-B |MFIYAQ;SUE;MBEURI;MONTIEEN;NYAEMAE;PUNGAAM;MEUT NGGEET;FEUX",
  "16884 BAMUM LETTER PHASE-B |MBUOQ;FEE;KEUAEM;MA NJEUAENA;MA NJUQA;LET;NGGAAM;NSEN;MA;KIQ;NGOM",
  "1688F BAMUM LETTER PHASE-C |NGKUE MAEMBA;NZA;YUM;WANGKUOQ",
  "16893 BAMUM LETTER PHASE-C |NGGEN;NDEUAEREE;NGKAQ;GHARAE;MBEEKEET;GBAYI;NYIR MKPARAQ MEUN",
  "1689A BAMUM LETTER PHASE-C |NTU MBIT;MBEUM;PIRIEEN;NDOMBU;MBAA CABBAGE-TREE;KEUSHEUAEP",
  "168A0 BAMUM LETTER PHASE-C |GHAP;KEUKAQ;YU MUOMAE;NZEUM;MBUE;NSEUAEN;MBIT;YEUQ;KPARAQ;KAA",
  "168AA BAMUM LETTER PHASE-C |SEUX;NDIDA;TAASHAE;NJUEQ;TITA YUE;SUAET;NGGUAEN NYAM;VEUX;NANSANAQ",
  "168B3 BAMUM LETTER PHASE-C |MA KEUAERI;NTAA;NGGUON;LAP;MBIRIEEN;MGBASAQ;NTEUNGBA;TEUTEUX;NGGUM",
  "168BC BAMUM LETTER PHASE-C |FUE;NDEUT;NSA;NSHAQ;BUNG;VEUAEPEN;MBERAE;RU;NJAEM;LAM;TITUAEP",
  "168C7 BAMUM LETTER PHASE-C |NSUOT NGOM;NJEEEE;KET;NGGU;MAESI;MBUAEM;LU;KUT;NJAM;NGOM;WUP",
  "168D2 BAMUM LETTER PHASE-C |NGGUEET;NSOM;NTEN;KUOP NKAARAE;NSUN;NDAM;MA NSIEE;YAA;NDAP;SHUEQ",
  "168DC BAMUM LETTER PHASE-C |SETFON;MBI;MAEMBA;MBANYI;KEUSEUX;MBEUX;KEUM;MBAA PICKET;YUWOQ",
  "168E5 BAMUM LETTER PHASE-C |NJEUX;MIEE;MUAE;SHIQ;KEN LAW;KEN FATIGUE;NGAQ;NAQ;LIQ;PIN;PEN;TET",
  "168F1 BAMUM LETTER PHASE-D |MBUO;WAP;NJI;MFON;NJIEE;LIEE;NJEUT;NSHEE;NGGAAMAE;NYAM;WUAEN;NGKUN",
  "168FD BAMUM LETTER PHASE-D |SHEE;NGKAP;KEUAETMEUN;TEUT;SHEUAE;NJAP;SUE;KET;YAEMMAE;KUOM;SAP",
  "16908 BAMUM LETTER PHASE-D |MFEUT;NDEUX;MALEERI;MEUT;SEUAEQ;YEN;NJEUAEM;KEUOT MBUAE;NGKEURI",
  "16911 BAMUM LETTER PHASE-D |TU;GHAA;NGKYEE;FEUFEUAET;NDEE;MGBOFUM;LEUAEP;NDON;MONI;MGBEUN",
  "1691B BAMUM LETTER PHASE-D |PUUT;MGBIEE;MFO;LUM;NSIEEP;MBAA;KWAET;NYET;TEUAEN;SOT;YUWOQ;KEUM",
  "16927 BAMUM LETTER PHASE-D |RAEM;TEEEE;NGKEUAEQ;MFEUAE;NSIEET;KEUP;PIP;PEUTAE;NYUE;LET;NGGAAM",
  "16932 BAMUM LETTER PHASE-D |MFIEE;NGGWAEN;YUOM;PAP;YUOP;NDAM;NTEUM;SUAE;KUN;NGGEUX;NGKIEE;TUOT",
  "1693E BAMUM LETTER PHASE-D |MEUN;KUQ;NSUM;TEUN;MAENJET;NGGAP;LEUM;NGGUOM;NSHUT;NJUEQ;GHEUAE",
  "16949 BAMUM LETTER PHASE-D |KU;REN OLD;TAE;TOQ;NYI;RII;LEEEE;MEEEE;M;SUU;MU;SHII;SHEUX;KYEE;NU",
  "16958 BAMUM LETTER PHASE-D |SHU;NTEE;PEE;NI;SHOQ;PUQ;MVOP;LOQ;REN MUCH;TI;NTUU;MBAA SEVEN;SAQ",
  "16965 BAMUM LETTER PHASE-|D FAA;E NDAP;E TOON;E MBEUM;E LAP;E VOM",
  "1696B BAMUM LETTER PHASE-E |LOON;PAA;SOM;RAQ;NSHUOP;NDUN;PUAE;TAM;NGKA;KPEUX;WUO;SEE;NGGEUAET",
  "16978 BAMUM LETTER PHASE-E |PAAM;TOO;KUOP;LOM;NSHIEE;NGOP;MAEM;NGKEUX;NGOQ;NSHUE;RIMGBA;NJEUX",
  "16984 BAMUM LETTER PHASE-E |PEEM;SAA;NGGURAE;MGBA;GHEUX;NGKEUAEM;NJAEMLI;MAP;LOOT;NGGEEEE",
  "1698E BAMUM LETTER PHASE-E |NDIQ;TAEN NTEUM;SET;PUM;NDAA SOFTNESS;NGGUAESHAE NYAM;YIEE;GHEUN",
  "16996 BAMUM LETTER PHASE-E |TUAE;YEUAE;PO;TUMAE;KEUAE;SUAEN;TEUAEQ;VEUAE;WEUX;LAAM;PU;TAAQ",
  "169A2 BAMUM LETTER PHASE-E |GHAAMAE;NGEUREUT;SHEUAEQ;MGBEN;MBEE;NZAQ;NKOM;GBET;TUM;KUET;YAP",
  "169AD BAMUM LETTER PHASE-E |NYI CLEAVER;YIT;MFEUQ;NDIAQ;PIEEQ;YUEQ;LEUAEM;FUE;GBEUX;NGKUP;KET",
  "169B8 BAMUM LETTER PHASE-E |MAE;NGKAAMI;GHET;FA;NTUM;PEUT;YEUM;NGGEUAE;NYI BETWEEN;NZUQ;POON",
  "169C3 BAMUM LETTER PHASE-E |MIEE;FUET;NAE;MUAE;GHEUAE;FU I;MVI;PUAQ;NGKUM;KUT;PIET;NTAP;YEUAET",
  "169D0 BAMUM LETTER PHASE-E |NGGUP;PA PEOPLE;FU CALL;FOM;NJEE;A;TOQ;O;I;LAQ;PA PLURAL;TAA",
  "169DC BAMUM LETTER PHASE-E |TAQ;NDAA MY HOUSE;SHIQ;YEUX;NGUAE;YUAEN;YOQ SWIMMING;YOQ COVER;YUQ",
  "169E5 BAMUM LETTER PHASE-E |YUN;KEUX;PEUX;NJEE EPOCH;PUE;WUE;FEE;VEE;LU;MI;REUX;RAE;NGUAET;NGA",
  "169F3 BAMUM LETTER PHASE-E |SHO;SHOQ;FU REMEDY;NA;PI;LOQ;KO;MEN;MA;MAQ;TEU;KI;MON;TEN;FAQ;GHOM",
  "16A03 BAMUM LETTER PHASE-F |KA;U;KU;EE;REE;TAE;NYI;LA;RII;RIEE",
  "16A0D BAMUM LETTER PHASE-F |MEEEE;TAA;NDAA;NJAEM;M;SUU;SHII;SI;SEUX;KYEE;KET;NUAE;NU;NJUAE",
  "16A1B BAMUM LETTER PHASE-F |YOQ;SHU;YA;NSHA;PEUX;NTEE;WUE;PEE;RU;NI;REUX;KEN;NGKWAEN;NGGA",
  "16A29 BAMUM LETTER PHASE-F |SHO;PUAE;FOM;WA;LI;LOQ;KO;MBEN;REN;MA;MO;MBAA;TET;KPA;SAMBA;VUEQ",
  "16A40 MRO LETTER |TA;NGI;YO;MIM;BA;DA;A;PHI;KHAI;HAO",
  "16A4A MRO LETTER |DAI;CHU;KEAAE;OL;MAEM;NIN;PA;OO;O;RO;SHI;THEA;EA;WA;E;KO;LAN;LA;HAI;RI;TEK",
  "16A60 MRO DIGIT |ZERO;ONE;TWO;THREE;FOUR;FIVE;SIX;SEVEN;EIGHT;NINE",
  "16A6E |MRO DANDA;MRO DOUBLE DANDA;TANGSA LETTER OZ",
  "16A71 TANGSA LETTER |OC;OQ;OX;AZ;AC;AQ;AX;VZ;VC;VQ;VX;EZ;EC;EQ;EX;IZ;IC;IQ;IX;UZ;UC;UQ;UX;AWZ",
  "16A89 TANGSA LETTER |AWC;AWQ;AWX;UIZ;UIC;UIQ;UIX;FINAL NG;LONG UEX;SHORT UEZ;SHORT AWX;UEC;UEZ",
  "16A96 TANGSA LETTER |UEQ;UEX;UIUZ;UIUC;UIUQ;UIUX;MZ;MC;MQ;MX;KA;KHA;GA;NGA;SA;YA;WA;PA;NYA;PHA",
  "16AAA TANGSA LETTER |BA;MA;NA;HA;LA;HTA;TA;DA;RA;NHA;SHA;CA;TSA;GHA;HTTA;THA;XA;FA;DHA;CHA;ZA",
  "16AC0 TANGSA DIGIT |ZERO;ONE;TWO;THREE;FOUR;FIVE;SIX;SEVEN;EIGHT;NINE",
  "16AD0 BASSA VAH LETTER |ENNI;KA;SE;FA;MBE;YIE;GAH;DHII;KPAH",
  "16AD9 BASSA VAH LETTER |JO;HWAH;WA;ZO;GBU;DO;CE;UWU;TO;BA;VU;YEIN;PA;WADDA;A;O;OO;U;EE;E;I",
  "16AF0 BASSA VAH COMBINING |HIGH TONE;LOW TONE;MID TONE;LOW-MID TONE;HIGH-LOW TONE",
  "16AF5 BASSA VAH FULL |STOP",
  "16B00 PAHAWH HMONG VOWEL |KEEB;KEEV;KIB;KIV;KAUB;KAUV;KUB;KUV;KEB;KEV;KAIB;KAIV;KOOB",
  "16B0D PAHAWH HMONG VOWEL |KOOV;KAWB;KAWV;KUAB;KUAV;KOB;KOV;KIAB;KIAV;KAB;KAV;KWB;KWV;KAAB;KAAV",
  "16B1C PAHAWH HMONG CONSONANT |VAU;NTSAU;LAU;HAU;NLAU;RAU;NKAU",
  "16B23 PAHAWH HMONG CONSONANT |QHAU;YAU;HLAU;MAU;CHAU;NCHAU;HNAU;PLHAU;NTHAU;NAU;AU;XAU;CAU",
  "16B30 PAHAWH HMONG MARK CIM |TUB;SO;KES;KHAV;SUAM;HOM;TAUM",
  "16B37 PAHAWH HMONG SIGN |VOS THOM;VOS TSHAB CEEB;CIM CHEEM;VOS THIAB;VOS FEEM",
  "16B3C PAHAWH HMONG SIGN XYEEM |NTXIV;RHO;TOV;FAIB",
  "16B40 PAHAWH HMONG SIGN |VOS SEEV;MEEJ SUAB;VOS NRUA;IB YAM;XAUS;CIM TSOV ROG",
  "16B50 PAHAWH HMONG DIGIT |ZERO;ONE;TWO;THREE;FOUR;FIVE;SIX;SEVEN;EIGHT;NINE",
  "16B5B PAHAWH HMONG NUMBER |TENS;HUNDREDS",
  "16B5D PAHAWH HMONG NUMBER |TEN THOUSANDS;MILLIONS;HUNDRED MILLIONS;TEN BILLIONS;TRILLIONS",
  "16B63 PAHAWH HMONG SIGN |VOS LUB;XYOO;HLI;THIRD-STAGE HLI",
  "16B67 PAHAWH HMONG SIGN |ZWJ THAJ;HNUB;NQIG;XIAB;NTUJ;AV;TXHEEJ CEEV;MEEJ TSEEB;TAU;LOS;MUS",
  "16B72 PAHAWH HMONG SIGN CIM |HAIS LUS NTOG NTOG;CUAM TSHOOJ;TXWV;TXWV CHWV;PUB DAWB;NRES TOS",
  "16B7D PAHAWH HMONG CLAN SIGN |TSHEEJ;YEEG;LIS;LAUJ;XYOOJ",
  "16B82 PAHAWH HMONG CLAN SIGN |KOO;HAWJ;MUAS;THOJ;TSAB;PHAB;KHAB;HAM;VAJ;FAJ;YAJ;TSWB;KWM;VWJ",
  "16E40 MEDEFAIDRIN CAPITAL LETTER |M;S;V;W;ATIU",
  "16E45 MEDEFAIDRIN CAPITAL LETTER |Z;KP;P;T;G;F;I;K;A;J;E;B;C;U;YU;L;Q;HP;NY;X;D;OE;N;R;O;AI;Y",
  "16E60 MEDEFAIDRIN SMALL LETTER |M;S;V;W;ATIU",
  "16E65 MEDEFAIDRIN SMALL LETTER |Z;KP;P;T;G;F;I;K;A;J;E;B;C;U;YU;L;Q;HP;NY;X;D;OE;N;R;O;AI;Y",
  "16E80 MEDEFAIDRIN DIGIT |ZERO;ONE;TWO;THREE;FOUR;FIVE;SIX;SEVEN;EIGHT;NINE",
  "16E8A MEDEFAIDRIN NUMBER |TEN;ELEVEN",
  "16E8C MEDEFAIDRIN NUMBER |TWELVE;THIRTEEN;FOURTEEN;FIFTEEN;SIXTEEN;SEVENTEEN;EIGHTEEN;NINETEEN",
  "16E94 MEDEFAIDRIN DIGIT |ONE ALTERNATE FORM;TWO ALTERNATE FORM;THREE ALTERNATE FORM",
  "16E97 MEDEFAIDRIN |COMMA;FULL STOP;SYMBOL AIVA;EXCLAMATION OH",
  "16F00 MIAO LETTER |PA;BA;YI PA;PLA;MA;MHA;ARCHAIC MA;FA;VA;VFA;TA;DA;YI TTA;YI TA;TTA",
  "16F0F MIAO LETTER |DDA;NA;NHA;YI NNA;ARCHAIC NA;NNA;NNHA;LA;LYA;LHA;LHYA;TLHA;DLHA;TLHYA;DLHYA",
  "16F1E MIAO LETTER |KA;GA;YI KA;QA;QGA;NGA;NGHA;ARCHAIC NGA;HA;XA;GHA;GHHA;TSSA;DZZA;NYA;NYHA",
  "16F2E MIAO LETTER |TSHA;DZHA;YI TSHA;YI DZHA;REFORMED TSHA;SHA;SSA;ZHA;ZSHA;TSA;DZA;YI TSA",
  "16F3A MIAO LETTER |SA;ZA;ZSA;ZZA;ZZSA;ARCHAIC ZZA;ZZYA;ZZSYA;WA;AH;HHA;BRI;SYI;DZYI;TE;TSE;RTE",
  "16F4F MIAO |SIGN CONSONANT MODIFIER BAR;LETTER NASALIZATION;SIGN ASPIRATION",
  "16F52 MIAO SIGN REFORMED |VOICING;ASPIRATION",
  "16F54 MIAO VOWEL SIGN |A;AA;AHH;AN;ANG;O;OO;WO;W;E;EN;ENG;OEY;I;IA;IAN;IANG",
  "16F65 MIAO VOWEL SIGN |IO;IE;II;IU;ING;U;UA;UAN;UANG;UU;UEI;UNG;Y;YI;AE;AEE;ERR;ROUNDED ERR",
  "16F77 MIAO VOWEL SIGN |ER;ROUNDED ER;AI;EI;AU;OU;N;NG;UOG;YUI;OG;OER;VW;IG;EA;IONG;UI",
  "16F8F MIAO TONE |RIGHT;TOP RIGHT;ABOVE;BELOW",
  "16F93 MIAO LETTER TONE-|2;3;4;5;6;7;8",
  "16F9A MIAO LETTER REFORMED TONE-|1;2;4;5;6;8",
  "16FE0 |TANGUT ITERATION MARK;NUSHU ITERATION MARK",
  "16FE2 |OLD CHINESE HOOK MARK;OLD CHINESE ITERATION MARK;KHITAN SMALL SCRIPT FILLER",
  "16FF0 VIETNAMESE ALTERNATE READING MARK |CA;NHAY",
  "18800 TANGUT COMPONENT-|001;002;003",
  "18803 TANGUT COMPONENT-|004;005;006;007;008;009;010;011;012;013;014;015;016;017;018;019;020",
  "18814 TANGUT COMPONENT-|021;022;023;024;025;026;027;028;029;030;031;032;033;034;035;036;037",
  "18825 TANGUT COMPONENT-|038;039;040;041;042;043;044;045;046;047;048;049;050;051;052;053;054",
  "18836 TANGUT COMPONENT-|055;056;057;058;059;060;061;062;063;064;065;066;067;068;069;070;071",
  "18847 TANGUT COMPONENT-|072;073;074;075;076;077;078;079;080;081;082;083;084;085;086;087;088",
  "18858 TANGUT COMPONENT-|089;090;091;092;093;094;095;096;097;098;099;100;101;102;103;104;105",
  "18869 TANGUT COMPONENT-|106;107;108;109;110;111;112;113;114;115;116;117;118;119;120;121;122",
  "1887A TANGUT COMPONENT-|123;124;125;126;127;128;129;130;131;132;133;134;135;136;137;138;139",
  "1888B TANGUT COMPONENT-|140;141;142;143;144;145;146;147;148;149;150;151;152;153;154;155;156",
  "1889C TANGUT COMPONENT-|157;158;159;160;161;162;163;164;165;166;167;168;169;170;171;172;173",
  "188AD TANGUT COMPONENT-|174;175;176;177;178;179;180;181;182;183;184;185;186;187;188;189;190",
  "188BE TANGUT COMPONENT-|191;192;193;194;195;196;197;198;199;200;201;202;203;204;205;206;207",
  "188CF TANGUT COMPONENT-|208;209;210;211;212;213;214;215;216;217;218;219;220;221;222;223;224",
  "188E0 TANGUT COMPONENT-|225;226;227;228;229;230;231;232;233;234;235;236;237;238;239;240;241",
  "188F1 TANGUT COMPONENT-|242;243;244;245;246;247;248;249;250;251;252;253;254;255;256;257;258",
  "18902 TANGUT COMPONENT-|259;260;261;262;263;264;265;266;267;268;269;270;271;272;273;274;275",
  "18913 TANGUT COMPONENT-|276;277;278;279;280;281;282;283;284;285;286;287;288;289;290;291;292",
  "18924 TANGUT COMPONENT-|293;294;295;296;297;298;299;300;301;302;303;304;305;306;307;308;309",
  "18935 TANGUT COMPONENT-|310;311;312;313;314;315;316;317;318;319;320;321;322;323;324;325;326",
  "18946 TANGUT COMPONENT-|327;328;329;330;331;332;333;334;335;336;337;338;339;340;341;342;343",
  "18957 TANGUT COMPONENT-|344;345;346;347;348;349;350;351;352;353;354;355;356;357;358;359;360",
  "18968 TANGUT COMPONENT-|361;362;363;364;365;366;367;368;369;370;371;372;373;374;375;376;377",
  "18979 TANGUT COMPONENT-|378;379;380;381;382;383;384;385;386;387;388;389;390;391;392;393;394",
  "1898A TANGUT COMPONENT-|395;396;397;398;399;400;401;402;403;404;405;406;407;408;409;410;411",
  "1899B TANGUT COMPONENT-|412;413;414;415;416;417;418;419;420;421;422;423;424;425;426;427;428",
  "189AC TANGUT COMPONENT-|429;430;431;432;433;434;435;436;437;438;439;440;441;442;443;444;445",
  "189BD TANGUT COMPONENT-|446;447;448;449;450;451;452;453;454;455;456;457;458;459;460;461;462",
  "189CE TANGUT COMPONENT-|463;464;465;466;467;468;469;470;471;472;473;474;475;476;477;478;479",
  "189DF TANGUT COMPONENT-|480;481;482;483;484;485;486;487;488;489;490;491;492;493;494;495;496",
  "189F0 TANGUT COMPONENT-|497;498;499;500;501;502;503;504;505;506;507;508;509;510;511;512;513",
  "18A01 TANGUT COMPONENT-|514;515;516;517;518;519;520;521;522;523;524;525;526;527;528;529;530",
  "18A12 TANGUT COMPONENT-|531;532;533;534;535;536;537;538;539;540;541;542;543;544;545;546;547",
  "18A23 TANGUT COMPONENT-|548;549;550;551;552;553;554;555;556;557;558;559;560;561;562;563;564",
  "18A34 TANGUT COMPONENT-|565;566;567;568;569;570;571;572;573;574;575;576;577;578;579;580;581",
  "18A45 TANGUT COMPONENT-|582;583;584;585;586;587;588;589;590;591;592;593;594;595;596;597;598",
  "18A56 TANGUT COMPONENT-|599;600;601;602;603;604;605;606;607;608;609;610;611;612;613;614;615",
  "18A67 TANGUT COMPONENT-|616;617;618;619;620;621;622;623;624;625;626;627;628;629;630;631;632",
  "18A78 TANGUT COMPONENT-|633;634;635;636;637;638;639;640;641;642;643;644;645;646;647;648;649",
  "18A89 TANGUT COMPONENT-|650;651;652;653;654;655;656;657;658;659;660;661;662;663;664;665;666",
  "18A9A TANGUT COMPONENT-|667;668;669;670;671;672;673;674;675;676;677;678;679;680;681;682;683",
  "18AAB TANGUT COMPONENT-|684;685;686;687;688;689;690;691;692;693;694;695;696;697;698;699;700",
  "18ABC TANGUT COMPONENT-|701;702;703;704;705;706;707;708;709;710;711;712;713;714;715;716;717",
  "18ACD TANGUT COMPONENT-|718;719;720;721;722;723;724;725;726;727;728;729;730;731;732;733;734",
  "18ADE TANGUT COMPONENT-|735;736;737;738;739;740;741;742;743;744;745;746;747;748;749;750;751",
  "18AEF TANGUT COMPONENT-|752;753;754;755;756;757;758;759;760;761;762;763;764;765;766;767;768",
  "1AFF0 KATAKANA LETTER MINNAN TONE-|2;3;4;5",
  "1AFF5 KATAKANA LETTER MINNAN TONE-|7;8",
  "1AFF7 KATAKANA LETTER MINNAN NASALIZED TONE-|1;2;3;4;5",
  "1AFFD KATAKANA LETTER MINNAN NASALIZED TONE-|7;8",
  "1B000 |KATAKANA LETTER ARCHAIC E;HIRAGANA LETTER ARCHAIC YE",
  "1B002 HENTAIGANA LETTER A-|1;2;3;WO",
  "1B006 HENTAIGANA LETTER |I-1;I-2;I-3;I-4;U-1;U-2;U-3;U-4;U-5;E-2;E-3;E-4;E-5;E-6;O-1;O-2;O-3",
  "1B017 HENTAIGANA LETTER KA-|1;2;3;4;5;6;7;8;9;10;11;KE",
  "1B023 HENTAIGANA LETTER KI-|1;2;3;4;5;6;7;8",
  "1B02B HENTAIGANA LETTER KU-|1;2;3;4;5;6;7",
  "1B032 HENTAIGANA LETTER KE-|1;2;3;4;5;6",
  "1B038 HENTAIGANA LETTER |KO-1;KO-2;KO-3;KO-KI;SA-1;SA-2;SA-3;SA-4;SA-5;SA-6;SA-7;SA-8;SI-1",
  "1B045 HENTAIGANA LETTER |SI-2;SI-3;SI-4;SI-5;SI-6;SU-1;SU-2;SU-3;SU-4;SU-5;SU-6;SU-7;SU-8;SE-1",
  "1B053 HENTAIGANA LETTER |SE-2;SE-3;SE-4;SE-5;SO-1;SO-2;SO-3;SO-4;SO-5;SO-6;SO-7;TA-1;TA-2;TA-3",
  "1B061 HENTAIGANA LETTER |TA-4;TI-1;TI-2;TI-3;TI-4;TI-5;TI-6;TI-7;TU-1;TU-2;TU-3;TU-4;TU-TO",
  "1B06E HENTAIGANA LETTER TE-|1;2;3;4;5;6;7;8;9",
  "1B077 HENTAIGANA LETTER TO-|1;2;3;4;5;6;RA",
  "1B07E HENTAIGANA LETTER NA-|1;2;3;4;5;6;7;8;9",
  "1B087 HENTAIGANA LETTER NI-|1;2;3;4;5;6;7;TE",
  "1B08F HENTAIGANA LETTER |NU-1;NU-2;NU-3;NE-1;NE-2;NE-3;NE-4;NE-5;NE-6;NE-KO",
  "1B099 HENTAIGANA LETTER NO-|1;2;3;4;5",
  "1B09E HENTAIGANA LETTER HA-|1;2;3;4;5;6;7;8;9;10;11",
  "1B0A9 HENTAIGANA LETTER HI-|1;2;3;4;5;6;7",
  "1B0B0 HENTAIGANA LETTER |HU-1;HU-2;HU-3;HE-1;HE-2;HE-3;HE-4;HE-5;HE-6;HE-7",
  "1B0BA HENTAIGANA LETTER HO-|1;2;3;4;5;6;7;8",
  "1B0C2 HENTAIGANA LETTER MA-|1;2;3;4;5;6;7",
  "1B0C9 HENTAIGANA LETTER MI-|1;2;3;4;5;6;7",
  "1B0D0 HENTAIGANA LETTER |MU-1;MU-2;MU-3;MU-4;ME-1;ME-2;ME-MA;MO-1;MO-2;MO-3;MO-4;MO-5;MO-6",
  "1B0DD HENTAIGANA LETTER YA-|1;2;3;4;5;YO",
  "1B0E3 HENTAIGANA LETTER |YU-1;YU-2;YU-3;YU-4;YO-1;YO-2;YO-3;YO-4;YO-5;YO-6;RA-1;RA-2;RA-3;RA-4",
  "1B0F1 HENTAIGANA LETTER RI-|1;2;3;4;5;6;7",
  "1B0F8 HENTAIGANA LETTER |RU-1;RU-2;RU-3;RU-4;RU-5;RU-6;RE-1;RE-2;RE-3;RE-4;RO-1;RO-2;RO-3",
  "1B105 HENTAIGANA LETTER |RO-4;RO-5;RO-6;WA-1;WA-2;WA-3;WA-4;WA-5;WI-1;WI-2;WI-3;WI-4;WI-5;WE-1",
  "1B113 HENTAIGANA LETTER |WE-2;WE-3;WE-4;WO-1;WO-2;WO-3;WO-4;WO-5;WO-6;WO-7;N-MU-MO-1;N-MU-MO-2",
  "1B11F HIRAGANA LETTER ARCHAIC |WU",
  "1B120 KATAKANA LETTER ARCHAIC |YI;YE;WU",
  "1B150 HIRAGANA LETTER SMALL |WI;WE;WO",
  "1B164 KATAKANA LETTER SMALL |WI;WE;WO;N",
  "1BC00 DUPLOYAN LETTER |H;X;P;T;F;K;L;B;D;V;G;R;P N;D S;F N;K M;R S;TH;SLOAN DH",
  "1BC13 DUPLOYAN LETTER |DH;KK;SLOAN J;HL;LH;RH;M;N;J;S;M N;N M;J M;S J;M WITH DOT;N WITH DOT",
  "1BC23 DUPLOYAN LETTER |J WITH DOT;J WITH DOTS INSIDE AND ABOVE;S WITH DOT;S WITH DOT BELOW;M S",
  "1BC28 DUPLOYAN LETTER |N S;J S;S S;M N S;N M S;J M S;S J S;J S WITH DOT;J N;J N S;S T;S T R",
  "1BC34 DUPLOYAN LETTER |S P;S P R;T S;T R S;W;WH;W R;S N;S M;K R S;G R S;S K;S K R;A;SLOAN OW",
  "1BC43 DUPLOYAN LETTER |OA;O;AOU;I;E;IE;SHORT I;UI;EE;SLOAN EH;ROMANIAN I;SLOAN EE;LONG I",
  "1BC50 DUPLOYAN LETTER |YE;U;EU;XW;U N;LONG U;ROMANIAN U;UH;SLOAN U;OOH;OW;OU;WA;WO;WI;WEI;WOW",
  "1BC61 DUPLOYAN LETTER NASAL |U;O;I;A",
  "1BC65 DUPLOYAN LETTER |PERNIN AN;PERNIN AM;SLOAN EN;SLOAN AN;SLOAN ON;VOCALIC M",
  "1BC70 DUPLOYAN AFFIX LEFT HORIZONTAL |SECANT",
  "1BC71 DUPLOYAN AFFIX |MID HORIZONTAL SECANT;RIGHT HORIZONTAL SECANT;LOW VERTICAL SECANT",
  "1BC74 DUPLOYAN AFFIX |MID VERTICAL SECANT;HIGH VERTICAL SECANT;ATTACHED SECANT",
  "1BC77 DUPLOYAN AFFIX ATTACHED |LEFT-TO-RIGHT SECANT;TANGENT;TAIL;E HOOK;I HOOK;TANGENT HOOK",
  "1BC80 DUPLOYAN AFFIX HIGH |ACUTE;TIGHT ACUTE;GRAVE;LONG GRAVE;DOT;CIRCLE;LINE;WAVE;VERTICAL",
  "1BC90 DUPLOYAN AFFIX LOW |ACUTE",
  "1BC91 DUPLOYAN AFFIX LOW |TIGHT ACUTE;GRAVE;LONG GRAVE;DOT;CIRCLE;LINE;WAVE;VERTICAL;ARROW",
  "1BC9C DUPLOYAN SIGN O WITH |CROSS",
  "1BC9D DUPLOYAN |THICK LETTER SELECTOR;DOUBLE MARK;PUNCTUATION CHINOOK FULL STOP",
  "1BCA0 SHORTHAND FORMAT |LETTER OVERLAP;CONTINUING OVERLAP;DOWN STEP;UP STEP",
  "1CF00 ZNAMENNY COMBINING MARK GORAZDO NIZKO S KRYZHEM ON |LEFT",
  "1CF01 ZNAMENNY COMBINING MARK |NIZKO S KRYZHEM ON LEFT;TSATA ON LEFT;GORAZDO NIZKO ON LEFT",
  "1CF04 ZNAMENNY COMBINING MARK |NIZKO ON LEFT;SREDNE ON LEFT;MALO POVYSHE ON LEFT",
  "1CF07 ZNAMENNY COMBINING MARK |POVYSHE ON LEFT;VYSOKO ON LEFT;MALO POVYSHE S KHOKHLOM ON LEFT",
  "1CF0A ZNAMENNY COMBINING MARK |POVYSHE S KHOKHLOM ON LEFT;VYSOKO S KHOKHLOM ON LEFT",
  "1CF0C ZNAMENNY COMBINING MARK |GORAZDO NIZKO S KRYZHEM ON RIGHT;NIZKO S KRYZHEM ON RIGHT",
  "1CF0E ZNAMENNY COMBINING MARK |TSATA ON RIGHT;GORAZDO NIZKO ON RIGHT;NIZKO ON RIGHT",
  "1CF11 ZNAMENNY COMBINING MARK |SREDNE ON RIGHT;MALO POVYSHE ON RIGHT;POVYSHE ON RIGHT",
  "1CF14 ZNAMENNY COMBINING MARK |VYSOKO ON RIGHT;MALO POVYSHE S KHOKHLOM ON RIGHT",
  "1CF16 ZNAMENNY COMBINING MARK |POVYSHE S KHOKHLOM ON RIGHT;VYSOKO S KHOKHLOM ON RIGHT",
  "1CF18 ZNAMENNY COMBINING MARK |TSATA S KRYZHEM;MALO POVYSHE S KRYZHEM;STRANNO MALO POVYSHE",
  "1CF1B ZNAMENNY COMBINING MARK POVYSHE |S KRYZHEM;STRANNO",
  "1CF1D ZNAMENNY COMBINING MARK |VYSOKO S KRYZHEM;MALO POVYSHE STRANNO",
  "1CF1F ZNAMENNY COMBINING MARK |GORAZDO VYSOKO;ZELO;ON;RAVNO;TIKHAYA;BORZAYA;UDARKA;PODVERTKA",
  "1CF27 ZNAMENNY COMBINING MARK |LOMKA;KUPNAYA;KACHKA;ZEVOK;SKOBA;RAZSEKA;KRYZH ON LEFT",
  "1CF30 ZNAMENNY COMBINING TONAL RANGE MARK |MRACHNO;SVETLO;TRESVETLO",
  "1CF33 ZNAMENNY COMBINING MARK |ZADERZHKA;DEMESTVENNY ZADERZHKA",
  "1CF35 ZNAMENNY COMBINING MARK |OTSECHKA;PODCHASHIE;PODCHASHIE WITH VERTICAL STROKE;CHASHKA",
  "1CF39 ZNAMENNY COMBINING MARK |CHASHKA POLNAYA;OBLACHKO;SOROCHYA NOZHKA;TOCHKA;DVOETOCHIE",
  "1CF3E ZNAMENNY COMBINING ATTACHING VERTICAL |OMET",
  "1CF3F ZNAMENNY COMBINING |MARK CURVED OMET;MARK KRYZH;LOWER TONAL RANGE INDICATOR",
  "1CF42 ZNAMENNY PRIZNAK MODIFIER |LEVEL-2;LEVEL-3;DIRECTION FLIP;KRYZH;ROG",
  "1CF50 ZNAMENNY NEUME |KRYUK;KRYUK TIKHY;PARAKLIT;DVA V CHELNU;KLYUCH",
  "1CF55 ZNAMENNY NEUME |ZANOZHEK;STOPITSA;STOPITSA S OCHKOM;PEREVODKA;PEREVODKA NEPOSTOYANNAYA",
  "1CF5A ZNAMENNY NEUME |STOPITSA WITH SOROCHYA NOZHKA;CHELYUSTKA;PALKA;ZAPYATAYA",
  "1CF5E ZNAMENNY NEUME GOLUBCHIK |BORZY;TIKHY;MRACHNY;SVETLY;TRESVETLY",
  "1CF63 ZNAMENNY NEUME VRAKHIYA |PROSTAYA;MRACHNAYA;SVETLAYA;TRESVETLAYA",
  "1CF67 ZNAMENNY NEUME VRAKHIYA KLYUCHEVAYA |PROSTAYA;MRACHNAYA;SVETLAYA;TRESVETLAYA",
  "1CF6B ZNAMENNY NEUME |DOUBLE ZAPYATAYA;REVERSED CHELYUSTKA;DERBITSA;KHAMILO;CHASHKA;PODCHASHIE",
  "1CF71 ZNAMENNY NEUME SKAMEYTSA |MRACHNAYA;SVETLAYA;TRESVETLAYA;TIKHAYA",
  "1CF75 ZNAMENNY NEUME DEMESTVENNY |KLYUCH",
  "1CF76 ZNAMENNY NEUME SKAMEYTSA |KLYUCHEVAYA SVETLAYA;KLYUCHENEPOSTOYANNAYA;KLYUCHEVAYA TIKHAYA",
  "1CF79 ZNAMENNY NEUME SKAMEYTSA DVOECHELNAYA |PROSTAYA;SVETLAYA;NEPOSTOYANNAYA;KLYUCHEVAYA",
  "1CF7D ZNAMENNY NEUME |SLOZHITIE;SLOZHITIE S ZAPYATOY;SLOZHITIE ZAKRYTOE",
  "1CF80 ZNAMENNY NEUME |SLOZHITIE S KRYZHEM;KRYZH;ROG;FITA;KOBYLA;ZMEYTSA;STATYA",
  "1CF87 ZNAMENNY NEUME STATYA S |ZAPYATOY;KRYZHEM;ZAPYATOY I KRYZHEM;KRYZHEM I ZAPYATOY",
  "1CF8B ZNAMENNY NEUME STATYA |ZAKRYTAYA;ZAKRYTAYA S ZAPYATOY;S ROGOM;S DVUMYA ZAPYATYMI",
  "1CF8F ZNAMENNY NEUME |STATYA S ZAPYATOY I PODCHASHIEM;POLKULIZMY;STATYA NEPOSTOYANNAYA",
  "1CF92 ZNAMENNY NEUME STRELA |PROSTAYA;MRACHNOTIKHAYA;KRYZHEVAYA",
  "1CF95 ZNAMENNY NEUME STRELA |POLUPOVODNAYA;POVODNAYA;NEPOSTOYANNAYA;KLYUCHEPOVODNAYA",
  "1CF99 ZNAMENNY NEUME STRELA |KLYUCHENEPOSTOYANNAYA;TIKHAYA PUTNAYA;DVOECHELNAYA",
  "1CF9C ZNAMENNY NEUME STRELA |DVOECHELNOKRYZHEVAYA;DVOECHELNOPOVODNAYA;DVOECHELNAYA KLYUCHEVAYA",
  "1CF9F ZNAMENNY NEUME STRELA |DVOECHELNOPOVODNAYA KLYUCHEVAYA;GROMNAYA WITH SINGLE ZAPYATAYA",
  "1CFA1 ZNAMENNY NEUME STRELA |GROMOPOVODNAYA WITH SINGLE ZAPYATAYA;GROMNAYA;GROMOPOVODNAYA",
  "1CFA4 ZNAMENNY NEUME STRELA |GROMOPOVODNAYA WITH DOUBLE ZAPYATAYA;GROMOKRYZHEVAYA",
  "1CFA6 ZNAMENNY NEUME |STRELA GROMOKRYZHEVAYA POVODNAYA;MECHIK",
  "1CFA8 ZNAMENNY NEUME MECHIK |POVODNY;KLYUCHEVOY;KLYUCHEPOVODNY;KLYUCHENEPOSTOYANNY",
  "1CFAC ZNAMENNY NEUME STRELA |TRYASOGLASNAYA;TRYASOPOVODNAYA;TRYASOSTRELNAYA",
  "1CFAF ZNAMENNY NEUME |OSOKA",
  "1CFB0 ZNAMENNY NEUME OSOKA |SVETLAYA;TRESVETLAYA;KRYUKOVAYA SVETLAYA;KLYUCHEVAYA SVETLAYA",
  "1CFB4 ZNAMENNY NEUME |OSOKA KLYUCHEVAYA NEPOSTOYANNAYA;STRELA KRYUKOVAYA",
  "1CFB6 ZNAMENNY NEUME STRELA KRYUKOVAYA |POVODNAYA;GROMNAYA WITH SINGLE ZAPYATAYA",
  "1CFB8 ZNAMENNY NEUME STRELA KRYUKOVAYA |GROMOPOVODNAYA WITH SINGLE ZAPYATAYA;GROMNAYA",
  "1CFBA ZNAMENNY NEUME STRELA KRYUKOVAYA |GROMOPOVODNAYA;GROMOPOVODNAYA WITH DOUBLE ZAPYATAYA",
  "1CFBC ZNAMENNY NEUME STRELA KRYUKOVAYA |GROMOKRYZHEVAYA;GROMOKRYZHEVAYA POVODNAYA;TRYASKA",
  "1CFBF ZNAMENNY NEUME |KUFISMA;OBLAKO;DUDA;NEMKA;PAUK"]

end ElementLocator.Regex.CharacterName
