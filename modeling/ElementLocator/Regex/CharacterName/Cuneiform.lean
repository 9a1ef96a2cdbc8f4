/-! # Character names: rows for U+12000 to U+13438

    The names of cuneiform and of the hieroglyphs of Egypt. -/

namespace ElementLocator.Regex.CharacterName

/-- Names from U+12000 to U+13438. -/
def cuneiformRows : List String := [
  "12001 CUNEIFORM SIGN A TIMES |A;BAD;GAN2 TENU;HA;IGI;LAGAR GUNU;MUSH;SAG",
  "12009 CUNEIFORM SIGN |A2;AB",
  "1200B CUNEIFORM SIGN AB TIMES |ASH2;DUN3 GUNU;GAL;GAN2 TENU;HA;IGI GUNU;IMIN;LAGAB;SHESH",
  "12014 CUNEIFORM SIGN |AB TIMES U PLUS U PLUS U;AB GUNU;AB2",
  "12017 CUNEIFORM SIGN AB2 TIMES |BALAG;GAN2 TENU;ME PLUS EN;SHA3;TAK4",
  "1201C CUNEIFORM SIGN |AD;AK;AK TIMES ERIN2;AK TIMES SHITA PLUS GISH;AL",
  "12021 CUNEIFORM SIGN AL TIMES |AL;DIM2;GISH;HA;KAD3;KI;SHE;USH",
  "12029 CUNEIFORM SIGN |ALAN;ALEPH;AMAR;AMAR TIMES SHE;AN;AN OVER AN;AN THREE TIMES",
  "12030 CUNEIFORM SIGN AN PLUS NAGA |OPPOSING AN PLUS NAGA;SQUARED",
  "12032 CUNEIFORM SIGN |ANSHE;APIN;ARAD;ARAD TIMES KUR;ARKAB;ASAL2;ASH",
  "12039 CUNEIFORM SIGN ASH |ZIDA TENU;KABA TENU;OVER ASH TUG2 OVER TUG2 TUG2 OVER TUG2 PAP",
  "1203C CUNEIFORM SIGN ASH OVER ASH OVER |ASH;ASH CROSSING ASH OVER ASH OVER ASH",
  "1203E CUNEIFORM SIGN |ASH2;ASHGAB;BA;BAD;BAG3;BAHAR2;BAL;BAL OVER BAL;BALAG",
  "12047 CUNEIFORM SIGN |BAR;BARA2;BI;BI TIMES A;BI TIMES GAR;BI TIMES IGI GUNU;BU;BU OVER BU AB",
  "1204F CUNEIFORM SIGN |BU OVER BU UN;BU CROSSING BU;BULUG;BULUG OVER BULUG;BUR;BUR2;DA;DAG",
  "12057 CUNEIFORM SIGN DAG KISIM5 TIMES |A PLUS MASH;AMAR;BALAG;BI;GA;GA PLUS MASH",
  "1205D CUNEIFORM SIGN DAG KISIM5 TIMES |GI;GIR2;GUD;HA;IR;IR PLUS LU;KAK;LA;LU;LU PLUS MASH2",
  "12067 CUNEIFORM SIGN DAG KISIM5 TIMES |LUM;NE;PAP PLUS PAP;SI;TAK4;U2 PLUS GIR2;USH",
  "1206E CUNEIFORM SIGN |DAM;DAR;DARA3;DARA4;DI;DIB;DIM",
  "12075 CUNEIFORM SIGN |DIM TIMES SHE;DIM2;DIN;DIN KASKAL U GUNU DISH;DISH;DU;DU OVER DU;DU GUNU",
  "1207D CUNEIFORM SIGN |DU SHESHIG;DUB;DUB TIMES ESH2;DUB2;DUG;DUGUD;DUH;DUN;DUN3;DUN3 GUNU",
  "12087 CUNEIFORM SIGN |DUN3 GUNU GUNU;DUN4;DUR2;E;E TIMES PAP;E OVER E NUN OVER NUN;E2",
  "1208E CUNEIFORM SIGN E2 TIMES |A PLUS HA PLUS DA;GAR;MI;SAL;SHE;U",
  "12094 CUNEIFORM SIGN |EDIN;EGIR;EL;EN;EN TIMES GAN2;EN TIMES GAN2 TENU;EN TIMES ME",
  "1209B CUNEIFORM SIGN |EN CROSSING EN;EN OPPOSING EN;EN SQUARED;EREN;ERIN2;ESH2;EZEN",
  "120A2 CUNEIFORM SIGN EZEN TIMES |A;A PLUS LAL;A PLUS LAL TIMES LAL",
  "120A5 CUNEIFORM SIGN EZEN TIMES |AN;BAD;DUN3 GUNU;DUN3 GUNU GUNU;HA;HA GUNU;IGI GUNU",
  "120AC CUNEIFORM SIGN EZEN TIMES |KASKAL;KASKAL SQUARED;KU3;LA;LAL TIMES LAL;LI;LU;U2;UD",
  "120B5 CUNEIFORM SIGN |GA;GA GUNU;GA2;GA2 TIMES A PLUS DA PLUS HA",
  "120B9 CUNEIFORM SIGN GA2 TIMES |A PLUS HA;A PLUS IGI;AB2 TENU PLUS TAB;AN;ASH;ASH2 PLUS GAL",
  "120BF CUNEIFORM SIGN GA2 TIMES |BAD;BAR PLUS RA;BUR;BUR PLUS RA;DA;DI;DIM TIMES SHE",
  "120C6 CUNEIFORM SIGN GA2 TIMES |DUB;EL;EL PLUS LA;EN;EN TIMES GAN2 TENU;GAN2 TENU;GAR;GI;GI4",
  "120CF CUNEIFORM SIGN GA2 TIMES |GI4 PLUS A;GIR2 PLUS SU;HA PLUS LU PLUS ESH2;HAL;HAL PLUS LA",
  "120D4 CUNEIFORM SIGN GA2 TIMES |HI PLUS LI;HUB2;IGI GUNU;ISH PLUS HU PLUS ASH;KAK;KASKAL",
  "120DA CUNEIFORM SIGN GA2 TIMES |KID;KID PLUS LAL;KU3 PLUS AN;LA;ME PLUS EN;MI;NUN;NUN OVER NUN",
  "120E2 CUNEIFORM SIGN GA2 TIMES |PA;SAL;SAR;SHE;SHE PLUS TUR;SHID;SUM;TAK4;U;UD;UD PLUS DU",
  "120ED CUNEIFORM SIGN |GA2 OVER GA2;GABA;GABA CROSSING GABA",
  "120F0 CUNEIFORM SIGN |GAD;GAD OVER GAD GAR OVER GAR;GAL;GAL GAD OVER GAD GAR OVER GAR",
  "120F4 CUNEIFORM SIGN |GALAM;GAM;GAN;GAN2;GAN2 TENU;GAN2 OVER GAN2;GAN2 CROSSING GAN2;GAR;GAR3",
  "120FD CUNEIFORM SIGN |GASHAN;GESHTIN;GESHTIN TIMES KUR;GI;GI TIMES E;GI TIMES U;GI CROSSING GI",
  "12104 CUNEIFORM SIGN |GI4;GI4 OVER GI4;GI4 CROSSING GI4;GIDIM;GIR2;GIR2 GUNU;GIR3",
  "1210B CUNEIFORM SIGN GIR3 TIMES |A PLUS IGI;GAN2 TENU;IGI;LU PLUS IGI;PA",
  "12110 CUNEIFORM SIGN |GISAL;GISH;GISH CROSSING GISH",
  "12113 CUNEIFORM SIGN |GISH TIMES BAD;GISH TIMES TAK4;GISH TENU;GU;GU CROSSING GU;GU2",
  "12119 CUNEIFORM SIGN GU2 TIMES |KAK;KAK TIMES IGI GUNU;NUN;SAL PLUS TUG2",
  "1211D CUNEIFORM SIGN |GU2 GUNU;GUD;GUD TIMES A PLUS KUR;GUD TIMES KUR;GUD OVER GUD LUGAL",
  "12122 CUNEIFORM SIGN |GUL;GUM;GUM TIMES SHE;GUR;GUR7;GURUN;GURUSH;HA;HA TENU;HA GUNU;HAL;HI",
  "1212E CUNEIFORM SIGN HI TIMES |ASH;ASH2;BAD;DISH;GAD;KIN;NUN;SHE;U",
  "12137 CUNEIFORM SIGN |HU;HUB2",
  "12139 CUNEIFORM SIGN HUB2 TIMES |AN;HAL;KASKAL;LISH;UD",
  "1213E CUNEIFORM SIGN |HUL2;I;I A;IB;IDIM;IDIM OVER IDIM BUR;IDIM OVER IDIM SQUARED;IG;IGI",
  "12147 CUNEIFORM SIGN IGI |DIB;RI;OVER IGI SHIR OVER SHIR UD OVER UD;GUNU",
  "1214B CUNEIFORM SIGN |IL;IL TIMES GAN2 TENU;IL2;IM",
  "1214F CUNEIFORM SIGN |IM TIMES TAK4;IM CROSSING IM;IM OPPOSING IM;IM SQUARED;IMIN;IN;IR;ISH;KA",
  "12158 CUNEIFORM SIGN KA TIMES |A;AD;AD PLUS KU3;ASH2;BAD;BALAG;BAR;BI;ERIN2;ESH2",
  "12162 CUNEIFORM SIGN KA TIMES |GA;GAL;GAN2 TENU;GAR;GAR PLUS SHA3 PLUS A;GI;GIR2;GISH PLUS SAR",
  "1216A CUNEIFORM SIGN KA TIMES |GISH CROSSING GISH;GU;GUR7;IGI;IM;KAK;KI;KID;LI;LU;ME",
  "12175 CUNEIFORM SIGN KA TIMES |ME PLUS DU;ME PLUS GI;ME PLUS TE;MI;MI PLUS NUNUZ;NE;NUN;PI;RU",
  "1217E CUNEIFORM SIGN KA TIMES |SA;SAR;SHA;SHE;SHID;SHU;SIG;SUHUR;TAR;U;U2;UD;UMUM TIMES PA;USH",
  "1218C CUNEIFORM SIGN |KA TIMES ZI;KA2;KA2 CROSSING KA2;KAB;KAD2;KAD3;KAD4;KAD5",
  "12194 CUNEIFORM SIGN |KAD5 OVER KAD5;KAK;KAK TIMES IGI GUNU;KAL;KAL TIMES BAD;KAL CROSSING KAL",
  "1219A CUNEIFORM SIGN |KAM2;KAM4;KASKAL;KASKAL LAGAB TIMES U OVER LAGAB TIMES U",
  "1219E CUNEIFORM SIGN |KASKAL OVER KASKAL LAGAB TIMES U OVER LAGAB TIMES U;KESH2;KI",
  "121A1 CUNEIFORM SIGN KI TIMES |BAD;U;UD",
  "121A4 CUNEIFORM SIGN |KID;KIN;KISAL;KISH;KISIM5;KISIM5 OVER KISIM5",
  "121AA CUNEIFORM SIGN |KU;KU OVER HI TIMES ASH2 KU OVER HI TIMES ASH2;KU3;KU4;KU4 VARIANT FORM",
  "121AF CUNEIFORM SIGN |KU7;KUL;KUL GUNU;KUN;KUR;KUR OPPOSING KUR;KUSHU2;KWU318;LA;LAGAB",
  "121B9 CUNEIFORM SIGN LAGAB TIMES |A;A PLUS DA PLUS HA",
  "121BB CUNEIFORM SIGN LAGAB TIMES |A PLUS GAR;A PLUS LAL;AL;AN;ASH ZIDA TENU;BAD;BI",
  "121C2 CUNEIFORM SIGN LAGAB TIMES |DAR;EN;GA;GAR;GUD;GUD PLUS GUD;HA;HAL;HI TIMES NUN;IGI GUNU",
  "121CC CUNEIFORM SIGN LAGAB TIMES |IM;IM PLUS HA;IM PLUS LU;KI;KIN;KU3;KUL;KUL PLUS HI PLUS A",
  "121D4 CUNEIFORM SIGN LAGAB TIMES |LAGAB;LISH;LU;LUL;ME;ME PLUS EN;MUSH;NE;SHE PLUS SUM",
  "121DD CUNEIFORM SIGN LAGAB TIMES SHITA PLUS GISH |PLUS ERIN2;TENU",
  "121DF CUNEIFORM SIGN LAGAB TIMES |SHU2;SHU2 PLUS SHU2;SUM;TAG;TAK4;TE PLUS A PLUS SU PLUS NA",
  "121E5 CUNEIFORM SIGN LAGAB TIMES |U;U PLUS A;U PLUS U PLUS U;U2 PLUS ASH;UD;USH",
  "121EB CUNEIFORM SIGN |LAGAB SQUARED;LAGAR",
  "121ED CUNEIFORM SIGN LAGAR |TIMES SHE;TIMES SHE PLUS SUM;GUNU;GUNU OVER LAGAR GUNU SHE",
  "121F1 CUNEIFORM SIGN |LAHSHU;LAL;LAL TIMES LAL;LAM;LAM TIMES KUR",
  "121F6 CUNEIFORM SIGN |LAM TIMES KUR PLUS RU;LI;LIL;LIMMU2;LISH;LU;LU TIMES BAD;LU2",
  "121FE CUNEIFORM SIGN LU2 TIMES |AL;BAD;ESH2;ESH2 TENU;GAN2 TENU;HI TIMES BAD;IM",
  "12205 CUNEIFORM SIGN LU2 TIMES |KAD2;KAD3;KAD3 PLUS ASH;KI;LA PLUS ASH;LAGAB;ME PLUS EN;NE;NU",
  "1220E CUNEIFORM SIGN LU2 |TIMES SI PLUS ASH;TIMES SIK2 PLUS BU;TIMES TUG2;TENU;CROSSING LU2",
  "12213 CUNEIFORM SIGN |LU2 OPPOSING LU2;LU2 SQUARED;LU2 SHESHIG;LU3;LUGAL;LUGAL OVER LUGAL",
  "12219 CUNEIFORM SIGN |LUGAL OPPOSING LUGAL;LUGAL SHESHIG;LUH;LUL;LUM;LUM OVER LUM",
  "1221F CUNEIFORM SIGN |LUM OVER LUM GAR OVER GAR;MA;MA TIMES TAK4;MA GUNU;MA2;MAH;MAR",
  "12226 CUNEIFORM SIGN |MASH;MASH2;ME;MES;MI;MIN;MU;MU OVER MU;MUG;MUG GUNU;MUNSUB;MURGU2;MUSH",
  "12233 CUNEIFORM SIGN MUSH TIMES |A;KUR;ZA",
  "12236 CUNEIFORM SIGN |MUSH OVER MUSH;MUSH OVER MUSH TIMES A PLUS NA;MUSH CROSSING MUSH;MUSH3",
  "1223A CUNEIFORM SIGN MUSH3 |TIMES A;TIMES A PLUS DI;TIMES DI;GUNU",
  "1223E CUNEIFORM SIGN |NA;NA2;NAGA;NAGA INVERTED;NAGA TIMES SHU TENU;NAGA OPPOSING NAGA;NAGAR",
  "12245 CUNEIFORM SIGN |NAM NUTILLU;NAM;NAM2;NE;NE TIMES A;NE TIMES UD;NE SHESHIG;NI;NI TIMES E",
  "1224E CUNEIFORM SIGN |NI2;NIM;NIM TIMES GAN2 TENU;NIM TIMES GAR PLUS GAN2 TENU;NINDA2",
  "12253 CUNEIFORM SIGN NINDA2 TIMES |AN;ASH;ASH PLUS ASH;GUD;ME PLUS GAN2 TENU;NE;NUN;SHE",
  "1225B CUNEIFORM SIGN NINDA2 TIMES SHE PLUS |A AN;ASH;ASH PLUS ASH",
  "1225E CUNEIFORM SIGN |NINDA2 TIMES U2 PLUS ASH;NINDA2 TIMES USH;NISAG;NU;NU11;NUN",
  "12264 CUNEIFORM SIGN NUN LAGAR TIMES |GAR;MASH;SAL;SAL OVER NUN LAGAR TIMES SAL;USH",
  "12269 CUNEIFORM SIGN NUN |TENU;OVER NUN;CROSSING NUN;CROSSING NUN LAGAR OVER LAGAR",
  "1226D CUNEIFORM SIGN |NUNUZ",
  "1226E CUNEIFORM SIGN NUNUZ AB2 TIMES |ASHGAB;BI;DUG;GUD;IGI GUNU;KAD3;LA;NE;SILA3;U2",
  "12278 CUNEIFORM SIGN |NUNUZ KISIM5 TIMES BI;NUNUZ KISIM5 TIMES BI U;PA;PAD;PAN;PAP;PESH2;PI",
  "12280 CUNEIFORM SIGN PI TIMES |A;AB;BI;BU;E;I;IB;U;U2",
  "12289 CUNEIFORM SIGN |PI CROSSING PI;PIRIG;PIRIG TIMES KAL;PIRIG TIMES UD",
  "1228D CUNEIFORM SIGN |PIRIG TIMES ZA;PIRIG OPPOSING PIRIG;RA;RAB;RI;RU;SA;SAG NUTILLU;SAG",
  "12296 CUNEIFORM SIGN SAG TIMES |A;DU;DUB;HA;KAK;KUR;LUM;MI;NUN;SAL;SHID;TAB;U2;UB;UM;UR;USH",
  "122A7 CUNEIFORM SIGN |SAG OVER SAG;SAG GUNU;SAL;SAL LAGAB TIMES ASH2;SANGA2;SAR;SHA;SHA3",
  "122AF CUNEIFORM SIGN SHA3 TIMES |A;BAD;GISH;NE;SHU2;TUR;U;U PLUS A",
  "122B7 CUNEIFORM SIGN |SHA6;SHAB6;SHAR2;SHE;SHE HU",
  "122BC CUNEIFORM SIGN SHE OVER SHE |GAD OVER GAD GAR OVER GAR;TAB OVER TAB GAR OVER GAR",
  "122BE CUNEIFORM SIGN |SHEG9;SHEN;SHESH;SHESH2;SHESHLAM;SHID;SHID TIMES A;SHID TIMES IM;SHIM",
  "122C7 CUNEIFORM SIGN SHIM TIMES |A;BAL;BULUG;DIN;GAR;IGI;IGI GUNU;KUSHU2;LUL;MUG;SAL",
  "122D2 CUNEIFORM SIGN |SHINIG;SHIR;SHIR TENU",
  "122D5 CUNEIFORM SIGN |SHIR OVER SHIR BUR OVER BUR;SHITA;SHU;SHU OVER INVERTED SHU;SHU2;SHUBUR",
  "122DB CUNEIFORM SIGN |SI;SI GUNU;SIG;SIG4;SIG4 OVER SIG4 SHU2;SIK2;SILA3;SU;SU OVER SU;SUD",
  "122E5 CUNEIFORM SIGN |SUD2;SUHUR;SUM;SUMASH;SUR;SUR9;TA;TA ASTERISK;TA TIMES HI;TA TIMES MI",
  "122EF CUNEIFORM SIGN |TA GUNU;TAB;TAB OVER TAB NI OVER NI DISH OVER DISH;TAB SQUARED;TAG",
  "122F4 CUNEIFORM SIGN TAG TIMES |BI;GUD;SHE;SHU;TUG2;UD",
  "122FA CUNEIFORM SIGN |TAK4;TAR;TE;TE GUNU;TI;TI TENU;TIL;TIR;TIR TIMES TAK4",
  "12303 CUNEIFORM SIGN TIR OVER |TIR;TIR GAD OVER GAD GAR OVER GAR",
  "12305 CUNEIFORM SIGN |TU;TUG2;TUK;TUM;TUR;TUR OVER TUR ZA OVER ZA;U;U GUD;U U U",
  "1230E CUNEIFORM SIGN U OVER U |PA OVER PA GAR OVER GAR;SUR OVER SUR;U REVERSED OVER U REVERSED",
  "12311 CUNEIFORM SIGN |U2;UB;UD;UD KUSHU2",
  "12315 CUNEIFORM SIGN UD TIMES |BAD;MI;U PLUS U PLUS U;U PLUS U PLUS U GUNU",
  "12319 CUNEIFORM SIGN |UD GUNU;UD SHESHIG;UD SHESHIG TIMES BAD;UDUG;UM",
  "1231E CUNEIFORM SIGN UM TIMES |LAGAB;ME PLUS DA;SHA3;U",
  "12322 CUNEIFORM SIGN |UMBIN;UMUM;UMUM TIMES KASKAL",
  "12325 CUNEIFORM SIGN |UMUM TIMES PA;UN;UN GUNU;UR;UR CROSSING UR;UR SHESHIG;UR2",
  "1232C CUNEIFORM SIGN UR2 TIMES |A PLUS HA;A PLUS NA;AL;HA;NUN;U2;U2 PLUS ASH;U2 PLUS BI",
  "12334 CUNEIFORM SIGN |UR4;URI;URI3;URU",
  "12338 CUNEIFORM SIGN URU TIMES |A;ASHGAB;BAR;DUN;GA;GAL;GAN2 TENU;GAR",
  "12340 CUNEIFORM SIGN URU TIMES |GU;HA;IGI;IM;ISH;KI;LUM;MIN;PA;SHE;SIG4;TU;U PLUS GUD;UD;URUDA",
  "1234F CUNEIFORM SIGN |URUDA;URUDA TIMES U;USH",
  "12352 CUNEIFORM SIGN USH TIMES |A;KU;KUR;TAK4",
  "12356 CUNEIFORM SIGN |USHX;USH2;USHUMX;UTUKI;UZ3;UZ3 TIMES KASKAL",
  "1235C CUNEIFORM SIGN |UZU;ZA;ZA TENU;ZA SQUARED TIMES KUR;ZAG;ZAMX;ZE2;ZI;ZI OVER ZI",
  "12365 CUNEIFORM SIGN |ZI3;ZIB;ZIB KABA TENU;ZIG;ZIZ2;ZU;ZU5;ZU5 TIMES A;ZUBUR;ZUM;KAP ELAMITE",
  "12370 CUNEIFORM SIGN |AB TIMES NUN;AB2 TIMES A;AMAR TIMES KUG;DAG KISIM5 TIMES U2 PLUS MASH",
  "12374 CUNEIFORM SIGN |DAG3;DISH PLUS SHU;DUB TIMES SHE;EZEN TIMES GUD",
  "12378 CUNEIFORM SIGN |EZEN TIMES SHE;GA2 TIMES AN PLUS KAK PLUS A;GA2 TIMES ASH2;GE22;GIG;HUSH",
  "1237E CUNEIFORM SIGN KA TIMES |ANSHE;ASH3;GISH;GUD;HI TIMES ASH2;LUM;PA;SHUL;TU;UR2",
  "12388 CUNEIFORM SIGN |LAGAB TIMES GI;LU2 SHESHIG TIMES BAD",
  "1238A CUNEIFORM SIGN |LU2 TIMES ESH2 PLUS LAL;LU2 TIMES SHU;MESH;MUSH3 TIMES ZA;NA4",
  "1238F CUNEIFORM SIGN |NIN;NIN9;NINDA2 TIMES BAL;NINDA2 TIMES GI;NU11 ROTATED NINETY DEGREES",
  "12394 CUNEIFORM SIGN |PESH2 ASTERISK;PIR2;SAG TIMES IGI GUNU;TI2;UM TIMES ME;U U",
  "12400 CUNEIFORM NUMERIC SIGN |TWO ASH;THREE ASH;FOUR ASH;FIVE ASH;SIX ASH;SEVEN ASH",
  "12406 CUNEIFORM NUMERIC SIGN |EIGHT ASH;NINE ASH;THREE DISH;FOUR DISH;FIVE DISH;SIX DISH",
  "1240C CUNEIFORM NUMERIC SIGN |SEVEN DISH;EIGHT DISH;NINE DISH;FOUR U;FIVE U;SIX U;SEVEN U",
  "12413 CUNEIFORM NUMERIC SIGN |EIGHT U;NINE U;ONE GESH2;TWO GESH2;THREE GESH2;FOUR GESH2",
  "12419 CUNEIFORM NUMERIC SIGN |FIVE GESH2;SIX GESH2;SEVEN GESH2;EIGHT GESH2;NINE GESH2",
  "1241E CUNEIFORM NUMERIC SIGN |ONE GESHU;TWO GESHU;THREE GESHU;FOUR GESHU;FIVE GESHU;TWO SHAR2",
  "12424 CUNEIFORM NUMERIC SIGN |THREE SHAR2;THREE SHAR2 VARIANT FORM;FOUR SHAR2;FIVE SHAR2",
  "12428 CUNEIFORM NUMERIC SIGN |SIX SHAR2;SEVEN SHAR2;EIGHT SHAR2;NINE SHAR2;ONE SHARU;TWO SHARU",
  "1242E CUNEIFORM NUMERIC SIGN |THREE SHARU;THREE SHARU VARIANT FORM;FOUR SHARU;FIVE SHARU",
  "12432 CUNEIFORM NUMERIC SIGN SHAR2 TIMES GAL PLUS |DISH;MIN",
  "12434 CUNEIFORM NUMERIC SIGN |ONE BURU;TWO BURU;THREE BURU;THREE BURU VARIANT FORM;FOUR BURU",
  "12439 CUNEIFORM NUMERIC SIGN |FIVE BURU;THREE VARIANT FORM ESH16;THREE VARIANT FORM ESH21",
  "1243C CUNEIFORM NUMERIC SIGN FOUR VARIANT FORM |LIMMU;LIMMU4;LIMMU A;LIMMU B",
  "12440 CUNEIFORM NUMERIC SIGN SIX VARIANT FORM |ASH9",
  "12441 CUNEIFORM NUMERIC SIGN SEVEN VARIANT FORM |IMIN3;IMIN A;IMIN B",
  "12444 CUNEIFORM NUMERIC SIGN EIGHT VARIANT FORM |USSU;USSU3",
  "12446 CUNEIFORM NUMERIC SIGN NINE VARIANT FORM |ILIMMU;ILIMMU3;ILIMMU4;ILIMMU A",
  "1244A CUNEIFORM NUMERIC SIGN |TWO ASH TENU;THREE ASH TENU;FOUR ASH TENU;FIVE ASH TENU",
  "1244E CUNEIFORM NUMERIC SIGN |SIX ASH TENU;ONE BAN2;TWO BAN2;THREE BAN2;FOUR BAN2",
  "12453 CUNEIFORM NUMERIC SIGN |FOUR BAN2 VARIANT FORM;FIVE BAN2;FIVE BAN2 VARIANT FORM",
  "12456 CUNEIFORM NUMERIC SIGN |NIGIDAMIN;NIGIDAESH;ONE ESHE3;TWO ESHE3;ONE THIRD DISH",
  "1245B CUNEIFORM NUMERIC SIGN |TWO THIRDS DISH;FIVE SIXTHS DISH;ONE THIRD VARIANT FORM A",
  "1245E CUNEIFORM NUMERIC SIGN |TWO THIRDS VARIANT FORM A;ONE EIGHTH ASH;ONE QUARTER ASH",
  "12461 CUNEIFORM NUMERIC SIGN OLD ASSYRIAN ONE |SIXTH;QUARTER",
  "12463 CUNEIFORM NUMERIC SIGN ONE |QUARTER GUR;HALF GUR",
  "12465 CUNEIFORM NUMERIC SIGN ELAMITE |ONE THIRD;TWO THIRDS;FORTY;FIFTY",
  "12469 CUNEIFORM NUMERIC SIGN |FOUR U VARIANT FORM;FIVE U VARIANT FORM;SIX U VARIANT FORM",
  "1246C CUNEIFORM NUMERIC SIGN |SEVEN U VARIANT FORM;EIGHT U VARIANT FORM;NINE U VARIANT FORM",
  "12470 CUNEIFORM PUNCTUATION SIGN |OLD ASSYRIAN WORD DIVIDER;VERTICAL COLON",
  "12472 CUNEIFORM PUNCTUATION SIGN DIAGONAL |COLON;TRICOLON;QUADCOLON",
  "12480 CUNEIFORM SIGN |AB TIMES NUN TENU;AB TIMES SHU2;AD TIMES ESH2;BAD TIMES DISH TENU",
  "12484 CUNEIFORM SIGN |BAHAR2 TIMES AB2;BAHAR2 TIMES NI;BAHAR2 TIMES ZA;BU OVER BU TIMES NA2",
  "12488 CUNEIFORM SIGN |DA TIMES TAK4;DAG TIMES KUR;DIM TIMES IGI;DIM TIMES U U U;DIM2 TIMES UD",
  "1248D CUNEIFORM SIGN DUG TIMES |ANSHE;ASH;ASH AT LEFT;DIN;DUN;ERIN2;GA;GI;GIR2 GUNU;GISH",
  "12497 CUNEIFORM SIGN DUG TIMES |HA;HI;IGI GUNU;KASKAL;KUR;KUSHU2;KUSHU2 PLUS KASKAL;LAK-020",
  "1249F CUNEIFORM SIGN DUG TIMES |LAM;LAM TIMES KUR;LUH PLUS GISH;MASH;MES;MI;NI;PI;SHE;SI GUNU",
  "124A9 CUNEIFORM SIGN |E2 TIMES KUR;E2 TIMES PAP;ERIN2 X;ESH2 CROSSING ESH2",
  "124AD CUNEIFORM SIGN EZEN SHESHIG TIMES |ASH;HI;IGI GUNU;LA;LAL;ME;MES;SU",
  "124B5 CUNEIFORM SIGN EZEN TIMES |SU",
  "124B6 CUNEIFORM SIGN GA2 TIMES |BAHAR2;DIM GUNU;DUG TIMES IGI GUNU;DUG TIMES KASKAL",
  "124BA CUNEIFORM SIGN GA2 TIMES |EREN;GA;GAR PLUS DI;GAR PLUS NE;HA PLUS A;KUSHU2 PLUS KASKAL",
  "124C0 CUNEIFORM SIGN GA2 TIMES |LAM;LAM TIMES KUR;LUH;MUSH;NE;NE PLUS E2;NE PLUS GI;SHIM;ZIZ2",
  "124C9 CUNEIFORM SIGN GABA ROTATED NINETY |DEGREES",
  "124CA CUNEIFORM SIGN |GESHTIN TIMES U;GISH TIMES GISH CROSSING GISH;GU2 TIMES IGI GUNU",
  "124CD CUNEIFORM SIGN |GUD PLUS GISH TIMES TAK4;HA TENU GUNU;HI TIMES ASH OVER HI TIMES ASH",
  "124D0 CUNEIFORM SIGN KA TIMES |BU;KA;U U U;UR",
  "124D4 CUNEIFORM SIGN |LAGAB TIMES ZU OVER ZU;LAK-003;LAK-021;LAK-025",
  "124D8 CUNEIFORM SIGN LAK-|030;050;051;062;079 OVER LAK-079 GUNU;080;081 OVER LAK-081;092;130",
  "124E1 CUNEIFORM SIGN LAK-|142;210;219;220;225;228;238;265;266;343;347;348;383;384;390;441;449",
  "124F2 CUNEIFORM SIGN LAK-449 TIMES |GU;IGI;PAP PLUS LU3;PAP PLUS PAP PLUS LU3;U2 PLUS BA",
  "124F7 CUNEIFORM SIGN LAK-|450;457;470;483;490;492;493;495;550;608;617",
  "12502 CUNEIFORM SIGN LAK-617 TIMES |ASH;BAD;DUN3 GUNU GUNU;KU3;LA;TAR;TE;U2;UD;URUDA",
  "1250C CUNEIFORM SIGN LAK-|636;648;648 TIMES DUB",
  "1250F CUNEIFORM SIGN LAK-648 TIMES |GA;IGI;IGI GUNU;NI;PAP PLUS PAP PLUS LU3;SHESH PLUS KI;UD",
  "12516 CUNEIFORM SIGN |LAK-648 TIMES URUDA;LAK-724;LAK-749;LU2 GUNU TIMES ASH",
  "1251A CUNEIFORM SIGN LU2 TIMES |DISH;HAL;PAP;PAP PLUS PAP PLUS LU3;TAK4",
  "1251F CUNEIFORM SIGN |MI PLUS ZA7;MUSH OVER MUSH TIMES GA;MUSH OVER MUSH TIMES KAK",
  "12522 CUNEIFORM SIGN NINDA2 TIMES |DIM GUNU;GISH",
  "12524 CUNEIFORM SIGN NINDA2 TIMES |GUL;HI;KESH2;LAK-050;MASH;PAP PLUS PAP;U;U PLUS U;URUDA",
  "1252D CUNEIFORM SIGN SAG |GUNU TIMES HA;TIMES EN;TIMES SHE AT LEFT;TIMES TAK4",
  "12531 CUNEIFORM SIGN |SHA6 TENU;SHE OVER SHE;SHE PLUS HUB2;SHE PLUS NAM2;SHE PLUS SAR",
  "12536 CUNEIFORM SIGN |SHU2 PLUS DUG TIMES NI;SHU2 PLUS E2 TIMES AN;SI TIMES TAK4;TAK4 PLUS SAG",
  "1253A CUNEIFORM SIGN |TUM TIMES GAN2 TENU;TUM TIMES THREE DISH;UR2 INVERTED;UR2 TIMES UD",
  "1253E CUNEIFORM SIGN URU TIMES |DARA3;LAK-668;LU3",
  "12541 CUNEIFORM SIGN |ZA7;ZU OVER ZU PLUS SAR;ZU5 TIMES THREE DISH TENU",
  "12F90 CYPRO-MINOAN SIGN |CM001;CM002;CM004;CM005;CM006;CM007;CM008;CM009;CM010;CM011;CM012",
  "12F9B CYPRO-MINOAN SIGN |CM012B;CM013;CM015;CM017;CM019;CM021;CM023;CM024;CM025;CM026;CM027",
  "12FA6 CYPRO-MINOAN SIGN |CM028;CM029;CM030;CM033;CM034;CM035;CM036;CM037;CM038;CM039;CM040",
  "12FB1 CYPRO-MINOAN SIGN |CM041;CM044;CM046;CM047;CM049;CM050;CM051;CM052;CM053;CM054;CM055",
  "12FBC CYPRO-MINOAN SIGN |CM056;CM058;CM059;CM060;CM061;CM062;CM063;CM064;CM066;CM067;CM068",
  "12FC7 CYPRO-MINOAN SIGN |CM069;CM070;CM071;CM072;CM073;CM074;CM075;CM075B;CM076;CM078;CM079",
  "12FD2 CYPRO-MINOAN SIGN |CM080;CM081;CM082;CM083;CM084;CM085;CM086;CM087;CM088;CM089;CM090",
  "12FDD CYPRO-MINOAN SIGN |CM091;CM092;CM094;CM095;CM096;CM097;CM098;CM099;CM100;CM101;CM102",
  "12FE8 CYPRO-MINOAN SIGN |CM103;CM104;CM105;CM107;CM108;CM109;CM110;CM112;CM114;CM301;CM302",
  "13000 EGYPTIAN HIEROGLYPH |A001;A002",
  "13002 EGYPTIAN HIEROGLYPH |A003;A004;A005;A005A;A006;A006A;A006B;A007;A008;A009;A010;A011;A012",
  "1300F EGYPTIAN HIEROGLYPH |A013;A014;A014A;A015;A016;A017;A017A;A018;A019;A020;A021;A022;A023",
  "1301C EGYPTIAN HIEROGLYPH |A024;A025;A026;A027;A028;A029;A030;A031;A032;A032A;A033;A034;A035",
  "13029 EGYPTIAN HIEROGLYPH |A036;A037;A038;A039;A040;A040A;A041;A042;A042A;A043;A043A;A044;A045",
  "13036 EGYPTIAN HIEROGLYPH |A045A;A046;A047;A048;A049;A050;A051;A052;A053;A054;A055;A056;A057",
  "13043 EGYPTIAN HIEROGLYPH |A058;A059;A060;A061;A062;A063;A064;A065;A066;A067;A068;A069;A070",
  "13050 EGYPTIAN HIEROGLYPH |B001;B002;B003;B004;B005;B005A;B006;B007;B008;B009;C001;C002;C002A",
  "1305D EGYPTIAN HIEROGLYPH |C002B;C002C;C003;C004;C005;C006;C007;C008;C009;C010;C010A;C011;C012",
  "1306A EGYPTIAN HIEROGLYPH |C013;C014;C015;C016;C017;C018;C019;C020;C021;C022;C023;C024;D001",
  "13077 EGYPTIAN HIEROGLYPH |D002;D003;D004;D005;D006;D007;D008;D008A;D009;D010;D011;D012;D013",
  "13084 EGYPTIAN HIEROGLYPH |D014;D015;D016;D017;D018;D019;D020;D021;D022;D023;D024;D025;D026",
  "13091 EGYPTIAN HIEROGLYPH |D027;D027A;D028;D029;D030;D031;D031A;D032;D033;D034;D034A;D035;D036",
  "1309E EGYPTIAN HIEROGLYPH |D037;D038;D039;D040;D041;D042;D043;D044;D045;D046;D046A;D047;D048",
  "130AB EGYPTIAN HIEROGLYPH |D048A;D049;D050;D050A;D050B;D050C;D050D;D050E;D050F;D050G;D050H",
  "130B6 EGYPTIAN HIEROGLYPH |D050I;D051;D052;D052A;D053;D054;D054A;D055;D056;D057;D058;D059;D060",
  "130C3 EGYPTIAN HIEROGLYPH |D061;D062;D063;D064;D065;D066;D067;D067A;D067B;D067C;D067D;D067E",
  "130CF EGYPTIAN HIEROGLYPH |D067F;D067G;D067H;E001;E002;E003;E004;E005;E006;E007;E008;E008A",
  "130DB EGYPTIAN HIEROGLYPH |E009;E009A;E010;E011;E012;E013;E014;E015;E016;E016A;E017;E017A",
  "130E7 EGYPTIAN HIEROGLYPH |E018;E019;E020;E020A;E021;E022;E023;E024;E025;E026;E027;E028;E028A",
  "130F4 EGYPTIAN HIEROGLYPH |E029;E030;E031;E032;E033;E034;E034A;E036;E037;E038;F001;F001A;F002",
  "13101 EGYPTIAN HIEROGLYPH |F003;F004;F005;F006;F007;F008;F009;F010;F011;F012;F013;F013A;F014",
  "1310E EGYPTIAN HIEROGLYPH |F015;F016;F017;F018;F019;F020;F021;F021A;F022;F023;F024;F025;F026",
  "1311B EGYPTIAN HIEROGLYPH |F027;F028;F029;F030;F031;F031A;F032;F033;F034;F035;F036;F037;F037A",
  "13128 EGYPTIAN HIEROGLYPH |F038;F038A;F039;F040;F041;F042;F043;F044;F045;F045A;F046;F046A",
  "13134 EGYPTIAN HIEROGLYPH |F047;F047A;F048;F049;F050;F051;F051A;F051B;F051C;F052;F053;G001",
  "13140 EGYPTIAN HIEROGLYPH |G002;G003;G004;G005;G006;G006A;G007;G007A;G007B;G008;G009;G010;G011",
  "1314D EGYPTIAN HIEROGLYPH |G011A;G012;G013;G014;G015;G016;G017;G018;G019;G020;G020A;G021;G022",
  "1315A EGYPTIAN HIEROGLYPH |G023;G024;G025;G026;G026A;G027;G028;G029;G030;G031;G032;G033;G034",
  "13167 EGYPTIAN HIEROGLYPH |G035;G036;G036A;G037;G037A;G038;G039;G040;G041;G042;G043;G043A;G044",
  "13174 EGYPTIAN HIEROGLYPH |G045;G045A;G046;G047;G048;G049;G050;G051;G052;G053;G054;H001;H002",
  "13181 EGYPTIAN HIEROGLYPH |H003;H004;H005;H006;H006A;H007;H008;I001;I002;I003;I004;I005;I005A",
  "1318E EGYPTIAN HIEROGLYPH |I006;I007;I008;I009;I009A;I010;I010A;I011;I011A;I012;I013;I014",
  "1319A EGYPTIAN HIEROGLYPH |I015;K001;K002;K003;K004;K005;K006;K007;K008;L001;L002;L002A;L003",
  "131A7 EGYPTIAN HIEROGLYPH |L004;L005;L006;L006A;L007;L008;M001;M001A;M001B;M002;M003;M003A",
  "131B3 EGYPTIAN HIEROGLYPH |M004;M005;M006;M007;M008;M009;M010;M010A;M011;M012;M012A;M012B",
  "131BF EGYPTIAN HIEROGLYPH |M012C;M012D;M012E;M012F;M012G;M012H;M013;M014;M015;M015A;M016;M016A",
  "131CB EGYPTIAN HIEROGLYPH |M017;M017A;M018;M019;M020;M021;M022;M022A;M023;M024;M024A;M025",
  "131D7 EGYPTIAN HIEROGLYPH |M026;M027;M028;M028A;M029;M030;M031;M031A;M032;M033;M033A;M033B",
  "131E3 EGYPTIAN HIEROGLYPH |M034;M035;M036;M037;M038;M039;M040;M040A;M041;M042;M043;M044;N001",
  "131F0 EGYPTIAN HIEROGLYPH |N002;N003;N004;N005;N006;N007;N008;N009;N010;N011;N012;N013;N014",
  "131FD EGYPTIAN HIEROGLYPH |N015;N016;N017;N018;N018A;N018B;N019;N020;N021;N022;N023;N024;N025",
  "1320A EGYPTIAN HIEROGLYPH |N025A;N026;N027;N028;N029;N030;N031;N032;N033;N033A;N034;N034A;N035",
  "13217 EGYPTIAN HIEROGLYPH |N035A;N036;N037;N037A;N038;N039;N040;N041;N042;NL001;NL002;NL003",
  "13223 EGYPTIAN HIEROGLYPH |NL004;NL005;NL005A;NL006;NL007;NL008;NL009;NL010;NL011;NL012;NL013",
  "1322E EGYPTIAN HIEROGLYPH |NL014;NL015;NL016;NL017;NL017A;NL018;NL019;NL020;NU001;NU002;NU003",
  "13239 EGYPTIAN HIEROGLYPH |NU004;NU005;NU006;NU007;NU008;NU009;NU010;NU010A;NU011;NU011A;NU012",
  "13244 EGYPTIAN HIEROGLYPH |NU013;NU014;NU015;NU016;NU017;NU018;NU018A;NU019;NU020;NU021;NU022",
  "1324F EGYPTIAN HIEROGLYPH |NU022A;O001;O001A;O002;O003;O004;O005;O005A;O006;O006A;O006B;O006C",
  "1325B EGYPTIAN HIEROGLYPH |O006D;O006E;O006F;O007;O008;O009;O010;O010A;O010B;O010C;O011;O012",
  "13267 EGYPTIAN HIEROGLYPH |O013;O014;O015;O016;O017;O018;O019;O019A;O020;O020A;O021;O022;O023",
  "13274 EGYPTIAN HIEROGLYPH |O024;O024A;O025;O025A;O026;O027;O028;O029;O029A;O030;O030A;O031",
  "13280 EGYPTIAN HIEROGLYPH |O032;O033;O033A;O034;O035;O036;O036A;O036B;O036C;O036D;O037;O038",
  "1328C EGYPTIAN HIEROGLYPH |O039;O040;O041;O042;O043;O044;O045;O046;O047;O048;O049;O050;O050A",
  "13299 EGYPTIAN HIEROGLYPH |O050B;O051;P001;P001A;P002;P003;P003A;P004;P005;P006;P007;P008",
  "132A5 EGYPTIAN HIEROGLYPH |P009;P010;P011;Q001;Q002;Q003;Q004;Q005;Q006;Q007;R001;R002;R002A",
  "132B2 EGYPTIAN HIEROGLYPH |R003;R003A;R003B;R004;R005;R006;R007;R008;R009;R010;R010A;R011",
  "132BE EGYPTIAN HIEROGLYPH |R012;R013;R014;R015;R016;R016A;R017;R018;R019;R020;R021;R022;R023",
  "132CB EGYPTIAN HIEROGLYPH |R024;R025;R026;R027;R028;R029;S001;S002;S002A;S003;S004;S005;S006",
  "132D8 EGYPTIAN HIEROGLYPH |S006A;S007;S008;S009;S010;S011;S012;S013;S014;S014A;S014B;S015;S016",
  "132E5 EGYPTIAN HIEROGLYPH |S017;S017A;S018;S019;S020;S021;S022;S023;S024;S025;S026;S026A;S026B",
  "132F2 EGYPTIAN HIEROGLYPH |S027;S028;S029;S030;S031;S032;S033;S034;S035;S035A;S036;S037;S038",
  "132FF EGYPTIAN HIEROGLYPH |S039;S040;S041;S042;S043;S044;S045;S046;T001;T002;T003;T003A;T004",
  "1330C EGYPTIAN HIEROGLYPH |T005;T006;T007;T007A;T008;T008A;T009;T009A;T010;T011;T011A;T012",
  "13318 EGYPTIAN HIEROGLYPH |T013;T014;T015;T016;T016A;T017;T018;T019;T020;T021;T022;T023;T024",
  "13325 EGYPTIAN HIEROGLYPH |T025;T026;T027;T028;T029;T030;T031;T032;T032A;T033;T033A;T034;T035",
  "13332 EGYPTIAN HIEROGLYPH |T036;U001;U002;U003;U004;U005;U006;U006A;U006B;U007;U008;U009;U010",
  "1333F EGYPTIAN HIEROGLYPH |U011;U012;U013;U014;U015;U016;U017;U018;U019;U020;U021;U022;U023",
  "1334C EGYPTIAN HIEROGLYPH |U023A;U024;U025;U026;U027;U028;U029;U029A;U030;U031;U032;U032A;U033",
  "13359 EGYPTIAN HIEROGLYPH |U034;U035;U036;U037;U038;U039;U040;U041;U042;V001;V001A;V001B;V001C",
  "13366 EGYPTIAN HIEROGLYPH |V001D;V001E;V001F;V001G;V001H;V001I;V002;V002A;V003;V004;V005;V006",
  "13372 EGYPTIAN HIEROGLYPH |V007;V007A;V007B;V008;V009;V010;V011;V011A;V011B;V011C;V012;V012A",
  "1337E EGYPTIAN HIEROGLYPH |V012B;V013;V014;V015;V016;V017;V018;V019;V020;V020A;V020B;V020C",
  "1338A EGYPTIAN HIEROGLYPH |V020D;V020E;V020F;V020G;V020H;V020I;V020J;V020K;V020L;V021;V022",
  "13395 EGYPTIAN HIEROGLYPH |V023;V023A;V024;V025;V026;V027;V028;V028A;V029;V029A;V030;V030A",
  "133A1 EGYPTIAN HIEROGLYPH |V031;V031A;V032;V033;V033A;V034;V035;V036;V037;V037A;V038;V039",
  "133AD EGYPTIAN HIEROGLYPH |V040;V040A;W001;W002;W003;W003A;W004;W005;W006;W007;W008;W009;W009A",
  "133BA EGYPTIAN HIEROGLYPH |W010;W010A;W011;W012;W013;W014;W014A;W015;W016;W017;W017A;W018",
  "133C6 EGYPTIAN HIEROGLYPH |W018A;W019;W020;W021;W022;W023;W024;W024A;W025;X001;X002;X003;X004",
  "133D3 EGYPTIAN HIEROGLYPH |X004A;X004B;X005;X006;X006A;X007;X008;X008A;Y001;Y001A;Y002;Y003",
  "133DF EGYPTIAN HIEROGLYPH |Y004;Y005;Y006;Y007;Y008;Z001;Z002;Z002A;Z002B;Z002C;Z002D;Z003",
  "133EB EGYPTIAN HIEROGLYPH |Z003A;Z003B;Z004;Z004A;Z005;Z005A;Z006;Z007;Z008;Z009;Z010;Z011",
  "133F7 EGYPTIAN HIEROGLYPH |Z012;Z013;Z014;Z015;Z015A;Z015B;Z015C;Z015D;Z015E;Z015F;Z015G;Z015H",
  "13403 EGYPTIAN HIEROGLYPH |Z015I;Z016;Z016A;Z016B;Z016C;Z016D;Z016E;Z016F;Z016G;Z016H;AA001",
  "1340E EGYPTIAN HIEROGLYPH |AA002;AA003;AA004;AA005;AA006;AA007;AA007A;AA007B;AA008;AA009;AA010",
  "13419 EGYPTIAN HIEROGLYPH |AA011;AA012;AA013;AA014;AA015;AA016;AA017;AA018;AA019;AA020;AA021",
  "13424 EGYPTIAN HIEROGLYPH |AA022;AA023;AA024;AA025;AA026;AA027;AA028;AA029;AA030;AA031;AA032",
  "13430 EGYPTIAN HIEROGLYPH |VERTICAL JOINER;HORIZONTAL JOINER",
  "13432 EGYPTIAN HIEROGLYPH INSERT AT |TOP START;BOTTOM START;TOP END;BOTTOM END",
  "13436 EGYPTIAN HIEROGLYPH |OVERLAY MIDDLE;BEGIN SEGMENT;END SEGMENT"]

end ElementLocator.Regex.CharacterName
