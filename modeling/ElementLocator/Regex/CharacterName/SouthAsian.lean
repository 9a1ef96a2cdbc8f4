/-! # Character names: rows for U+11000 to U+11FFF

    The names of further scripts of India and its neighbours. -/

namespace ElementLocator.Regex.CharacterName

/-- Names from U+11000 to U+11FFF. -/
def southAsianRows : List String := [
  "11000 BRAHMI SIGN |CANDRABINDU;ANUSVARA;VISARGA;JIHVAMULIYA;UPADHMANIYA",
  "11005 BRAHMI LETTER |A;AA;I;II;U;UU;VOCALIC R;VOCALIC RR;VOCALIC L",
  "1100E BRAHMI LETTER |VOCALIC LL;E;AI;O;AU;KA;KHA;GA;GHA;NGA;CA;CHA;JA;JHA;NYA;TTA;TTHA;DDA",
  "11020 BRAHMI LETTER |DDHA;NNA;TA;THA;DA;DHA;NA;PA;PHA;BA;BHA;MA;YA;RA;LA;VA;SHA;SSA;SA;HA;LLA",
  "11035 BRAHMI LETTER OLD TAMIL |LLLA;RRA;NNNA",
  "11038 BRAHMI VOWEL SIGN |AA;BHATTIPROLU AA",
  "1103A BRAHMI VOWEL SIGN |I;II;U;UU;VOCALIC R;VOCALIC RR;VOCALIC L;VOCALIC LL;E;AI;O;AU",
  "11046 BRAHMI |VIRAMA;DANDA;DOUBLE DANDA",
  "11049 BRAHMI PUNCTUATION |DOT;DOUBLE DOT;LINE;CRESCENT BAR;LOTUS",
  "11052 BRAHMI NUMBER |ONE;TWO;THREE;FOUR;FIVE;SIX;SEVEN;EIGHT;NINE;TEN;TWENTY",
  "1105D BRAHMI NUMBER |THIRTY;FORTY;FIFTY;SIXTY;SEVENTY;EIGHTY;NINETY;ONE HUNDRED;ONE THOUSAND",
  "11066 BRAHMI DIGIT |ZERO;ONE;TWO;THREE;FOUR;FIVE;SIX;SEVEN;EIGHT;NINE",
  "11070 BRAHMI SIGN OLD TAMIL |VIRAMA",
  "11071 BRAHMI LETTER OLD TAMIL SHORT |E;O",
  "11073 BRAHMI VOWEL SIGN OLD TAMIL SHORT |E;O",
  "11075 BRAHMI LETTER OLD TAMIL |LLA",
  "1107F BRAHMI NUMBER |JOINER",
  "11080 KAITHI SIGN |CANDRABINDU;ANUSVARA;VISARGA",
  "11083 KAITHI LETTER |A;AA;I",
  "11086 KAITHI LETTER |II;U;UU;E;AI;O;AU;KA;KHA;GA;GHA;NGA;CA;CHA;JA;JHA;NYA;TTA;TTHA;DDA;DDDHA",
  "1109B KAITHI LETTER |DDHA;RHA;NNA;TA;THA;DA;DHA;NA;PA;PHA;BA;BHA;MA;YA;RA;LA;VA;SHA;SSA;SA;HA",
  "110B0 KAITHI VOWEL SIGN |AA;I;II;U;UU;E;AI;O;AU",
  "110B9 KAITHI |SIGN VIRAMA;SIGN NUKTA;ABBREVIATION SIGN;ENUMERATION SIGN;NUMBER SIGN",
  "110BE KAITHI |SECTION MARK;DOUBLE SECTION MARK;DANDA;DOUBLE DANDA;VOWEL SIGN VOCALIC R",
  "110CD KAITHI NUMBER SIGN |ABOVE",
  "110D0 SORA SOMPENG LETTER |SAH;TAH;BAH;CAH;DAH;GAH;MAH;NGAH",
  "110D8 SORA SOMPENG LETTER |LAH;NAH;VAH;PAH;YAH;RAH;HAH;KAH;JAH;NYAH;AH;EEH;IH;UH;OH;EH;MAE",
  "110F0 SORA SOMPENG DIGIT |ZERO;ONE;TWO;THREE;FOUR;FIVE;SIX;SEVEN;EIGHT;NINE",
  "11100 CHAKMA SIGN |CANDRABINDU;ANUSVARA;VISARGA",
  "11103 CHAKMA LETTER |AA;I;U;E",
  "11107 CHAKMA LETTER |KAA;KHAA;GAA;GHAA;NGAA;CAA;CHAA;JAA;JHAA;NYAA;TTAA;TTHAA;DDAA;DDHAA;NNAA",
  "11116 CHAKMA LETTER |TAA;THAA;DAA;DHAA;NAA;PAA;PHAA;BAA;BHAA;MAA;YYAA;YAA;RAA;LAA;WAA;SAA;HAA",
  "11127 CHAKMA VOWEL SIGN |A;I;II;U;UU;E;AI;O;AU;OI",
  "11131 CHAKMA |O MARK;AU MARK;VIRAMA;MAAYYAA",
  "11136 CHAKMA DIGIT |ZERO;ONE;TWO;THREE;FOUR;FIVE;SIX;SEVEN;EIGHT;NINE",
  "11140 CHAKMA |SECTION MARK;DANDA",
  "11142 CHAKMA |DOUBLE DANDA;QUESTION MARK;LETTER LHAA;VOWEL SIGN AA;VOWEL SIGN EI;LETTER VAA",
  "11150 MAHAJANI LETTER |A;I;U;E;O;KA;KHA;GA;GHA;CA;CHA;JA;JHA;NYA;TTA",
  "1115F MAHAJANI LETTER |TTHA;DDA;DDHA;NNA;TA;THA;DA;DHA;NA;PA;PHA;BA;BHA;MA;RA;LA;VA;SA;HA;RRA",
  "11173 MAHAJANI |SIGN NUKTA;ABBREVIATION SIGN;SECTION MARK;LIGATURE SHRI",
  "11180 SHARADA SIGN |CANDRABINDU;ANUSVARA;VISARGA",
  "11183 SHARADA LETTER |A;AA;I;II;U;UU;VOCALIC R;VOCALIC RR;VOCALIC L",
  "1118C SHARADA LETTER |VOCALIC LL;E;AI;O;AU;KA;KHA;GA;GHA;NGA;CA;CHA;JA;JHA;NYA;TTA;TTHA;DDA",
  "1119E SHARADA LETTER |DDHA;NNA;TA;THA;DA;DHA;NA;PA;PHA;BA;BHA;MA;YA;RA;LA;LLA;VA;SHA;SSA;SA;HA",
  "111B3 SHARADA VOWEL SIGN |AA;I;II;U;UU;VOCALIC R;VOCALIC RR;VOCALIC L;VOCALIC LL;E;AI;O;AU",
  "111C0 SHARADA SIGN |VIRAMA;AVAGRAHA;JIHVAMULIYA;UPADHMANIYA",
  "111C4 SHARADA |OM;DANDA;DOUBLE DANDA;ABBREVIATION SIGN",
  "111C8 SHARADA |SEPARATOR;SANDHI MARK;SIGN NUKTA;VOWEL MODIFIER MARK;EXTRA SHORT VOWEL MARK",
  "111CD SHARADA |SUTRA MARK;VOWEL SIGN PRISHTHAMATRA E;SIGN INVERTED CANDRABINDU",
  "111D0 SHARADA DIGIT |ZERO;ONE;TWO;THREE;FOUR;FIVE;SIX;SEVEN;EIGHT;NINE",
  "111DA SHARADA |EKAM;SIGN SIDDHAM;HEADSTROKE;CONTINUATION SIGN;SECTION MARK-1;SECTION MARK-2",
  "111E1 SINHALA ARCHAIC DIGIT |ONE;TWO;THREE;FOUR;FIVE;SIX;SEVEN;EIGHT;NINE",
  "111EA SINHALA ARCHAIC NUMBER |TEN;TWENTY;THIRTY;FORTY;FIFTY;SIXTY;SEVENTY;EIGHTY;NINETY",
  "111F3 SINHALA ARCHAIC NUMBER ONE |HUNDRED;THOUSAND",
  "11200 KHOJKI LETTER |A;AA;I;U;E;AI;O;AU;KA;KHA;GA;GGA;GHA;NGA;CA;CHA;JA;JJA",
  "11213 KHOJKI LETTER |NYA;TTA;TTHA;DDA",
  "11217 KHOJKI LETTER |DDHA;NNA;TA;THA;DA;DDDA;DHA;NA;PA;PHA;BA;BBA;BHA;MA;YA;RA;LA;VA;SA;HA;LLA",
  "1122C KHOJKI VOWEL SIGN |AA;I;II;U;E;AI;O;AU",
  "11234 KHOJKI |SIGN ANUSVARA;SIGN VIRAMA;SIGN NUKTA;SIGN SHADDA;DANDA;DOUBLE DANDA",
  "1123A KHOJKI |WORD SEPARATOR;SECTION MARK;DOUBLE SECTION MARK;ABBREVIATION SIGN;SIGN SUKUN",
  "11280 MULTANI LETTER |A;I;U;E;KA;KHA;GA",
  "11288 MULTANI LETTER |GHA",
  "1128A MULTANI LETTER |CA;CHA;JA;JJA",
  "1128F MULTANI LETTER |NYA;TTA;TTHA;DDA;DDDA;DDHA;NNA;TA;THA;DA;DHA;NA;PA;PHA;BA",
  "1129F MULTANI LETTER |BHA;MA;YA;RA;LA;VA;SA;HA;RRA;RHA",
  "112A9 MULTANI SECTION |MARK",
  "112B0 KHUDAWADI LETTER |A;AA;I;II;U;UU;E;AI",
  "112B8 KHUDAWADI LETTER |O;AU;KA;KHA;GA;GGA;GHA;NGA;CA;CHA;JA;JJA;JHA;NYA;TTA;TTHA;DDA;DDDA;RRA",
  "112CB KHUDAWADI LETTER |DDHA;NNA;TA;THA;DA;DHA;NA;PA;PHA;BA;BBA;BHA;MA;YA;RA;LA;VA;SHA;SA;HA",
  "112DF KHUDAWADI SIGN |ANUSVARA",
  "112E0 KHUDAWADI VOWEL SIGN |AA;I;II;U;UU;E;AI;O;AU",
  "112E9 KHUDAWADI SIGN |NUKTA;VIRAMA",
  "112F0 KHUDAWADI DIGIT |ZERO;ONE;TWO;THREE;FOUR;FIVE;SIX;SEVEN;EIGHT;NINE",
  "11300 GRANTHA SIGN |COMBINING ANUSVARA ABOVE;CANDRABINDU;ANUSVARA;VISARGA",
  "11305 GRANTHA LETTER |A;AA;I;II;U;UU;VOCALIC R;VOCALIC L",
  "1130F GRANTHA LETTER |EE;AI",
  "11313 GRANTHA LETTER |OO;AU;KA",
  "11316 GRANTHA LETTER |KHA;GA;GHA;NGA;CA;CHA;JA;JHA;NYA;TTA;TTHA;DDA;DDHA;NNA;TA;THA;DA;DHA;NA",
  "1132A GRANTHA LETTER |PA;PHA;BA;BHA;MA;YA;RA",
  "11332 GRANTHA LETTER |LA;LLA",
  "11335 GRANTHA LETTER |VA;SHA;SSA;SA;HA",
  "1133B |COMBINING BINDU BELOW;GRANTHA SIGN NUKTA;GRANTHA SIGN AVAGRAHA",
  "1133E GRANTHA VOWEL SIGN |AA;I;II;U;UU;VOCALIC R;VOCALIC RR",
  "11347 GRANTHA VOWEL SIGN |EE;AI",
  "1134B GRANTHA |VOWEL SIGN OO;VOWEL SIGN AU;SIGN VIRAMA",
  "11350 GRANTHA |OM",
  "11357 GRANTHA AU LENGTH |MARK",
  "1135D GRANTHA SIGN |PLUTA",
  "1135E GRANTHA LETTER |VEDIC ANUSVARA;VEDIC DOUBLE ANUSVARA;VOCALIC RR;VOCALIC LL",
  "11362 GRANTHA VOWEL SIGN VOCALIC |L;LL",
  "11366 COMBINING GRANTHA DIGIT |ZERO;ONE;TWO;THREE;FOUR;FIVE;SIX",
  "11370 COMBINING GRANTHA LETTER |A;KA;NA;VI;PA",
  "11400 NEWA LETTER |A;AA;I;II;U;UU;VOCALIC R;VOCALIC RR;VOCALIC L;VOCALIC LL;E",
  "1140B NEWA LETTER |AI;O;AU;KA;KHA;GA;GHA;NGA;NGHA;CA;CHA;JA;JHA;NYA;NYHA;TTA;TTHA;DDA;DDHA;NNA",
  "1141F NEWA LETTER |TA;THA;DA;DHA;NA;NHA;PA;PHA;BA;BHA;MA;MHA;YA;RA;RHA;LA;LHA;WA;SHA;SSA;SA;HA",
  "11435 NEWA VOWEL SIGN |AA;I;II;U;UU;VOCALIC R;VOCALIC RR;VOCALIC L;VOCALIC LL;E;AI;O;AU",
  "11442 NEWA SIGN |VIRAMA;CANDRABINDU;ANUSVARA;VISARGA;NUKTA;AVAGRAHA;FINAL ANUSVARA",
  "11449 NEWA |OM;SIDDHI;DANDA;DOUBLE DANDA;COMMA;GAP FILLER;ABBREVIATION SIGN",
  "11450 NEWA DIGIT |ZERO;ONE;TWO;THREE;FOUR;FIVE;SIX;SEVEN;EIGHT;NINE",
  "1145A NEWA |DOUBLE COMMA;PLACEHOLDER MARK",
  "1145D NEWA |INSERTION SIGN;SANDHI MARK;LETTER VEDIC ANUSVARA;SIGN JIHVAMULIYA;SIGN UPADHMANIYA",
  "11480 TIRHUTA |ANJI",
  "11481 TIRHUTA LETTER |A;AA;I;II;U;UU;VOCALIC R;VOCALIC RR;VOCALIC L",
  "1148A TIRHUTA LETTER |VOCALIC LL;E;AI;O;AU;KA;KHA;GA;GHA;NGA;CA;CHA;JA;JHA;NYA;TTA;TTHA",
  "1149B TIRHUTA LETTER |DDA;DDHA;NNA;TA;THA;DA;DHA;NA;PA;PHA;BA;BHA;MA;YA;RA;LA;VA;SHA;SSA;SA;HA",
  "114B0 TIRHUTA VOWEL SIGN |AA;I;II;U;UU",
  "114B5 TIRHUTA VOWEL SIGN |VOCALIC R;VOCALIC RR;VOCALIC L;VOCALIC LL;E;SHORT E;AI;O;SHORT O;AU",
  "114BF TIRHUTA SIGN |CANDRABINDU;ANUSVARA;VISARGA;VIRAMA;NUKTA;AVAGRAHA",
  "114C5 TIRHUTA |GVANG;ABBREVIATION SIGN;OM",
  "114D0 TIRHUTA DIGIT |ZERO;ONE;TWO;THREE;FOUR;FIVE;SIX;SEVEN;EIGHT;NINE",
  "11580 SIDDHAM LETTER |A;AA;I;II;U;UU;VOCALIC R;VOCALIC RR;VOCALIC L",
  "11589 SIDDHAM LETTER |VOCALIC LL;E;AI;O;AU;KA;KHA;GA;GHA;NGA;CA;CHA;JA;JHA;NYA;TTA;TTHA",
  "1159A SIDDHAM LETTER |DDA;DDHA;NNA;TA;THA;DA;DHA;NA;PA;PHA;BA;BHA;MA;YA;RA;LA;VA;SHA;SSA;SA;HA",
  "115AF SIDDHAM VOWEL SIGN |AA;I;II;U;UU;VOCALIC R;VOCALIC RR",
  "115B8 SIDDHAM VOWEL SIGN |E;AI;O;AU",
  "115BC SIDDHAM SIGN |CANDRABINDU;ANUSVARA;VISARGA;VIRAMA;NUKTA;SIDDHAM",
  "115C2 SIDDHAM |DANDA;DOUBLE DANDA;SEPARATOR DOT;SEPARATOR BAR",
  "115C6 SIDDHAM REPETITION MARK-|1;2;3",
  "115C9 SIDDHAM END OF TEXT |MARK",
  "115CA SIDDHAM SECTION MARK WITH TRIDENT AND |U-SHAPED ORNAMENTS;DOTTED CRESCENTS",
  "115CC SIDDHAM SECTION MARK WITH RAYS AND DOTTED |CRESCENTS;DOUBLE CRESCENTS;TRIPLE CRESCENTS",
  "115CF SIDDHAM SECTION MARK |DOUBLE RING;DOUBLE RING WITH RAYS;WITH DOUBLE CRESCENTS",
  "115D2 SIDDHAM SECTION MARK WITH |TRIPLE CRESCENTS;QUADRUPLE CRESCENTS;SEPTUPLE CRESCENTS",
  "115D5 SIDDHAM SECTION MARK WITH CIRCLES AND |RAYS;TWO ENCLOSURES;FOUR ENCLOSURES",
  "115D8 SIDDHAM LETTER |THREE-CIRCLE ALTERNATE I;TWO-CIRCLE ALTERNATE I;TWO-CIRCLE ALTERNATE II",
  "115DB SIDDHAM |LETTER ALTERNATE U;VOWEL SIGN ALTERNATE U;VOWEL SIGN ALTERNATE UU",
  "11600 MODI LETTER |A;AA;I;II;U;UU;VOCALIC R;VOCALIC RR;VOCALIC L",
  "11609 MODI LETTER |VOCALIC LL;E;AI;O;AU;KA;KHA;GA;GHA;NGA;CA;CHA;JA;JHA;NYA;TTA;TTHA;DDA",
  "1161B MODI LETTER |DDHA;NNA;TA;THA;DA;DHA;NA;PA;PHA;BA;BHA;MA;YA;RA;LA;VA;SHA;SSA;SA;HA;LLA",
  "11630 MODI VOWEL SIGN |AA;I;II;U;UU;VOCALIC R;VOCALIC RR;VOCALIC L;VOCALIC LL;E;AI;O;AU",
  "1163D MODI SIGN |ANUSVARA;VISARGA;VIRAMA;ARDHACANDRA",
  "11641 MODI |DANDA;DOUBLE DANDA;ABBREVIATION SIGN;SIGN HUVA",
  "11650 MODI DIGIT |ZERO;ONE;TWO;THREE;FOUR;FIVE;SIX;SEVEN;EIGHT;NINE",
  "11660 MONGOLIAN |BIRGA WITH ORNAMENT;ROTATED BIRGA;DOUBLE BIRGA WITH ORNAMENT",
  "11663 MONGOLIAN |TRIPLE BIRGA WITH ORNAMENT;BIRGA WITH DOUBLE ORNAMENT",
  "11665 MONGOLIAN ROTATED BIRGA WITH |ORNAMENT;DOUBLE ORNAMENT",
  "11667 MONGOLIAN INVERTED |BIRGA;BIRGA WITH DOUBLE ORNAMENT",
  "11669 MONGOLIAN SWIRL |BIRGA;BIRGA WITH ORNAMENT;BIRGA WITH DOUBLE ORNAMENT",
  "1166C MONGOLIAN TURNED SWIRL BIRGA WITH DOUBLE |ORNAMENT",
  "11680 TAKRI LETTER |A;AA;I;II;U;UU;E;AI;O;AU;KA;KHA;GA;GHA;NGA;CA;CHA;JA;JHA;NYA;TTA;TTHA",
  "11696 TAKRI LETTER |DDA;DDHA;NNA;TA;THA;DA;DHA;NA;PA;PHA;BA;BHA;MA;YA;RA;LA;VA;SHA;SA;HA;RRA",
  "116AB TAKRI SIGN |ANUSVARA;VISARGA",
  "116AD TAKRI VOWEL SIGN |AA;I;II;U;UU;E;AI;O;AU",
  "116B6 TAKRI |SIGN VIRAMA;SIGN NUKTA;LETTER ARCHAIC KHA;ABBREVIATION SIGN",
  "116C0 TAKRI DIGIT |ZERO;ONE;TWO;THREE;FOUR;FIVE;SIX;SEVEN;EIGHT;NINE",
  "11700 AHOM LETTER |KA;KHA;NGA;NA;TA;ALTERNATE TA;PA;PHA;BA;MA;JA",
  "1170B AHOM LETTER |CHA;THA;RA;LA;SA;NYA;HA;A;DA;DHA;GA;ALTERNATE GA;GHA;BHA;JHA;ALTERNATE BA",
  "1171D AHOM CONSONANT SIGN MEDIAL |LA;RA;LIGATING RA",
  "11720 AHOM VOWEL SIGN |A;AA;I;II;U;UU;E;AW;O;AI;AM",
  "1172B AHOM SIGN |KILLER",
  "11730 AHOM DIGIT |ZERO;ONE;TWO;THREE;FOUR;FIVE;SIX;SEVEN;EIGHT;NINE",
  "1173A AHOM |NUMBER TEN;NUMBER TWENTY;SIGN SMALL SECTION;SIGN SECTION;SIGN RULAI;SYMBOL VI",
  "11740 AHOM LETTER |CA;TTA;TTHA;DDA;DDHA;NNA;LLA",
  "11800 DOGRA LETTER |A;AA;I;II;U;UU;E;AI;O;AU;KA;KHA;GA;GHA;NGA;CA;CHA;JA;JHA;NYA;TTA;TTHA;DDA",
  "11817 DOGRA LETTER |DDHA;NNA;TA;THA;DA;DHA;NA;PA;PHA;BA;BHA;MA;YA;RA;LA;VA;SHA;SSA;SA;HA;RRA",
  "1182C DOGRA VOWEL SIGN |AA;I;II;U;UU;VOCALIC R;VOCALIC RR;E;AI;O;AU",
  "11837 DOGRA |SIGN ANUSVARA;SIGN VISARGA;SIGN VIRAMA;SIGN NUKTA;ABBREVIATION SIGN",
  "118A0 WARANG CITI CAPITAL LETTER |NGAA;A;WI;YU;YA;YO;II;UU;E;O;ANG;GA;KO;ENY;YUJ;UC;ENN",
  "118B1 WARANG CITI CAPITAL LETTER |ODD;TTE;NUNG;DA;AT;AM;BU;PU;HIYO;HOLO;HORR;HAR;SSUU;SII;VIYO",
  "118C0 WARANG CITI SMALL LETTER |NGAA;A;WI;YU;YA;YO;II;UU;E;O;ANG;GA;KO;ENY;YUJ;UC;ENN",
  "118D1 WARANG CITI SMALL LETTER |ODD;TTE;NUNG;DA;AT;AM;BU;PU;HIYO;HOLO;HORR;HAR;SSUU;SII;VIYO",
  "118E0 WARANG CITI DIGIT |ZERO;ONE;TWO;THREE;FOUR;FIVE;SIX;SEVEN;EIGHT;NINE",
  "118EA WARANG CITI NUMBER |TEN;TWENTY;THIRTY;FORTY;FIFTY;SIXTY;SEVENTY;EIGHTY;NINETY",
  "118FF WARANG CITI |OM",
  "11900 DIVES AKURU LETTER |A;AA;I;II;U;UU;E",
  "11909 DIVES AKURU LETTER |O",
  "1190C DIVES AKURU LETTER |KA;KHA;GA;GHA;NGA;CA;CHA;JA",
  "11915 DIVES AKURU LETTER |NYA;TTA",
  "11918 DIVES AKURU LETTER |DDA;DDHA;NNA;TA",
  "1191C DIVES AKURU LETTER |THA;DA;DHA;NA;PA;PHA;BA;BHA;MA;YA;YYA;RA;LA;VA;SHA;SSA;SA;HA;LLA;ZA",
  "11930 DIVES AKURU VOWEL SIGN |AA;I;II;U;UU;E",
  "11937 DIVES AKURU VOWEL SIGN |AI;O",
  "1193B DIVES AKURU SIGN |ANUSVARA;CANDRABINDU;HALANTA",
  "1193E DIVES AKURU |VIRAMA;PREFIXED NASAL SIGN;MEDIAL YA",
  "11941 DIVES AKURU |INITIAL RA;MEDIAL RA;SIGN NUKTA;DOUBLE DANDA;GAP FILLER;END OF TEXT MARK",
  "11950 DIVES AKURU DIGIT |ZERO;ONE;TWO;THREE;FOUR;FIVE;SIX;SEVEN;EIGHT;NINE",
  "119A0 NANDINAGARI LETTER |A;AA;I;II;U;UU;VOCALIC R;VOCALIC RR",
  "119AA NANDINAGARI LETTER |E;AI;O;AU;KA;KHA;GA;GHA;NGA;CA;CHA;JA;JHA;NYA;TTA;TTHA;DDA;DDHA;NNA",
  "119BD NANDINAGARI LETTER |TA;THA;DA;DHA;NA;PA;PHA;BA;BHA;MA;YA;RA;LA;VA;SHA;SSA;SA;HA;LLA;RRA",
  "119D1 NANDINAGARI VOWEL SIGN |AA;I;II;U;UU;VOCALIC R;VOCALIC RR",
  "119DA NANDINAGARI VOWEL SIGN |E;AI;O;AU",
  "119DE NANDINAGARI SIGN |ANUSVARA;VISARGA;VIRAMA;AVAGRAHA;SIDDHAM",
  "119E3 NANDINAGARI |HEADSTROKE;VOWEL SIGN PRISHTHAMATRA E",
  "11A00 ZANABAZAR SQUARE LETTER |A",
  "11A01 ZANABAZAR SQUARE VOWEL SIGN |I;UE;U;E;OE;O;AI;AU;REVERSED I",
  "11A0A ZANABAZAR SQUARE |VOWEL LENGTH MARK;LETTER KA;LETTER KHA;LETTER GA;LETTER GHA",
  "11A0F ZANABAZAR SQUARE LETTER |NGA;CA;CHA;JA;NYA;TTA;TTHA;DDA;DDHA;NNA;TA;THA;DA;DHA;NA;PA;PHA",
  "11A20 ZANABAZAR SQUARE LETTER |BA;BHA;MA;TSA;TSHA;DZA;DZHA;ZHA;ZA;-A;YA;RA;LA;VA;SHA;SSA;SA;HA",
  "11A32 ZANABAZAR SQUARE |LETTER KSSA;FINAL CONSONANT MARK",
  "11A34 ZANABAZAR SQUARE SIGN |VIRAMA;CANDRABINDU;CANDRABINDU WITH ORNAMENT;CANDRA WITH ORNAMENT",
  "11A38 ZANABAZAR SQUARE |SIGN ANUSVARA;SIGN VISARGA;CLUSTER-INITIAL LETTER RA",
  "11A3B ZANABAZAR SQUARE CLUSTER-FINAL LETTER |YA;RA;LA;VA",
  "11A3F ZANABAZAR SQUARE |INITIAL HEAD MARK;CLOSING HEAD MARK;MARK TSHEG;MARK SHAD",
  "11A43 ZANABAZAR SQUARE |MARK DOUBLE SHAD;MARK LONG TSHEG;INITIAL DOUBLE-LINED HEAD MARK",
  "11A46 ZANABAZAR SQUARE |CLOSING DOUBLE-LINED HEAD MARK;SUBJOINER",
  "11A50 SOYOMBO LETTER |A",
  "11A51 SOYOMBO VOWEL SIGN |I;UE;U;E;O;OE;AI;AU;VOCALIC R;VOCALIC L",
  "11A5B SOYOMBO |VOWEL LENGTH MARK;LETTER KA",
  "11A5D SOYOMBO LETTER |KHA;GA;GHA;NGA;CA;CHA;JA;JHA;NYA;TTA;TTHA;DDA;DDHA;NNA;TA;THA;DA;DHA;NA",
  "11A70 SOYOMBO LETTER |PA;PHA;BA;BHA;MA;TSA;TSHA;DZA;ZHA;ZA;-A;YA;RA;LA;VA;SHA;SSA;SA;HA;KSSA",
  "11A84 SOYOMBO SIGN |JIHVAMULIYA;UPADHMANIYA",
  "11A86 SOYOMBO CLUSTER-INITIAL LETTER |RA;LA;SHA;SA",
  "11A8A SOYOMBO FINAL CONSONANT SIGN |G;K;NG;D;N;B;M;R;L;SH;S;-A",
  "11A96 SOYOMBO |SIGN ANUSVARA;SIGN VISARGA;GEMINATION MARK;SUBJOINER",
  "11A9A SOYOMBO MARK |TSHEG;SHAD;DOUBLE SHAD;PLUTA",
  "11A9E SOYOMBO HEAD MARK WITH MOON AND |SUN AND TRIPLE FLAME;SUN AND FLAME;SUN",
  "11AA1 SOYOMBO TERMINAL MARK-|1;2",
  "11AB0 CANADIAN SYLLABICS NATTILIK |HI;HII;HO;HOO;HA;HAA;SHRI;SHRII;SHRO;SHROO;SHRA;SHRAA",
  "11ABC CANADIAN SYLLABICS |SPE;SPI;SPO;SPA",
  "11AC0 PAU CIN HAU LETTER |PA;KA;LA;MA;DA",
  "11AC5 PAU CIN HAU LETTER |ZA;VA;NGA;HA;GA;KHA;SA;BA;CA;TA;THA;NA;PHA;RA;FA;CHA;A;E;I;O;U;UA;IA",
  "11ADC PAU CIN HAU LETTER FINAL |P;K;T;M;N;L;W;NG;Y",
  "11AE5 PAU CIN HAU |RISING TONE LONG;RISING TONE;SANDHI GLOTTAL STOP",
  "11AE8 PAU CIN HAU RISING TONE |LONG FINAL;FINAL",
  "11AEA PAU CIN HAU SANDHI |GLOTTAL STOP FINAL;TONE LONG;TONE;TONE LONG FINAL;TONE FINAL",
  "11AEF PAU CIN HAU |MID-LEVEL TONE;GLOTTAL STOP VARIANT;MID-LEVEL TONE LONG FINAL",
  "11AF2 PAU CIN HAU |MID-LEVEL TONE FINAL;LOW-FALLING TONE LONG;LOW-FALLING TONE;GLOTTAL STOP",
  "11AF6 PAU CIN HAU |LOW-FALLING TONE LONG FINAL;LOW-FALLING TONE FINAL;GLOTTAL STOP FINAL",
  "11C00 BHAIKSUKI LETTER |A;AA;I;II;U;UU;VOCALIC R;VOCALIC RR;VOCALIC L",
  "11C0A BHAIKSUKI LETTER |E;AI;O;AU;KA;KHA;GA;GHA;NGA;CA;CHA;JA;JHA;NYA;TTA;TTHA;DDA",
  "11C1B BHAIKSUKI LETTER |DDHA;NNA;TA;THA;DA;DHA;NA;PA;PHA;BA;BHA;MA;YA;RA;LA;VA;SHA;SSA;SA;HA",
  "11C2F BHAIKSUKI VOWEL SIGN |AA;I;II;U;UU;VOCALIC R;VOCALIC RR;VOCALIC L",
  "11C38 BHAIKSUKI VOWEL SIGN |E;AI;O;AU",
  "11C3C BHAIKSUKI SIGN |CANDRABINDU;ANUSVARA;VISARGA;VIRAMA;AVAGRAHA",
  "11C41 BHAIKSUKI |DANDA;DOUBLE DANDA;WORD SEPARATOR;GAP FILLER-1;GAP FILLER-2",
  "11C50 BHAIKSUKI DIGIT |ZERO;ONE;TWO;THREE;FOUR;FIVE;SIX;SEVEN;EIGHT;NINE",
  "11C5A BHAIKSUKI NUMBER |ONE;TWO;THREE;FOUR;FIVE;SIX;SEVEN",
  "11C61 BHAIKSUKI NUMBER |EIGHT;NINE;TEN;TWENTY;THIRTY;FORTY;FIFTY;SIXTY;SEVENTY;EIGHTY;NINETY",
  "11C6C BHAIKSUKI HUNDREDS UNIT |MARK",
  "11C70 MARCHEN |HEAD MARK;MARK SHAD",
  "11C72 MARCHEN LETTER |KA;KHA;GA;NGA;CA;CHA;JA;NYA",
  "11C7A MARCHEN LETTER |TA;THA;DA;NA;PA;PHA;BA;MA;TSA;TSHA;DZA;WA;ZHA;ZA;-A;YA;RA;LA;SHA;SA;HA;A",
  "11C92 MARCHEN SUBJOINED LETTER |KA;KHA;GA;NGA",
  "11C96 MARCHEN SUBJOINED LETTER |CA;CHA;JA;NYA;TA;THA;DA;NA;PA;PHA;BA;MA;TSA;TSHA;DZA;WA;ZHA;ZA",
  "11CA9 MARCHEN SUBJOINED LETTER |YA;RA;LA;SHA;SA;HA;A",
  "11CB0 MARCHEN VOWEL SIGN |AA;I;U;E;O",
  "11CB5 MARCHEN SIGN |ANUSVARA;CANDRABINDU",
  "11D00 MASARAM GONDI LETTER |A;AA;I;II;U;UU;E",
  "11D08 MASARAM GONDI LETTER |AI;O",
  "11D0B MASARAM GONDI LETTER |AU;KA;KHA",
  "11D0E MASARAM GONDI LETTER |GA;GHA;NGA;CA;CHA;JA;JHA;NYA;TTA;TTHA;DDA;DDHA;NNA;TA;THA;DA;DHA",
  "11D1F MASARAM GONDI LETTER |NA;PA;PHA;BA;BHA;MA;YA;RA;LA;VA;SHA;SSA;SA;HA;LLA;KSSA;JNYA;TRA",
  "11D31 MASARAM GONDI VOWEL SIGN |AA;I;II;U;UU;VOCALIC R",
  "11D3A MASARAM GONDI VOWEL SIGN |E",
  "11D3C MASARAM GONDI VOWEL SIGN |AI;O",
  "11D3F MASARAM GONDI |VOWEL SIGN AU;SIGN ANUSVARA",
  "11D41 MASARAM GONDI |SIGN VISARGA;SIGN NUKTA;SIGN CANDRA;SIGN HALANTA;VIRAMA;REPHA;RA-KARA",
  "11D50 MASARAM GONDI DIGIT |ZERO;ONE;TWO;THREE;FOUR;FIVE;SIX;SEVEN;EIGHT;NINE",
  "11D60 GUNJALA GONDI LETTER |A;AA;I;II;U;UU",
  "11D67 GUNJALA GONDI LETTER |EE;AI",
  "11D6A GUNJALA GONDI LETTER |OO;AU;YA;VA;BA;BHA;MA;KA;KHA;TA;THA;LA;GA;GHA",
  "11D78 GUNJALA GONDI LETTER |DA;DHA;NA;CA;CHA;TTA;TTHA;LLA;JA;JHA;DDA;DDHA;NGA;PA;PHA;HA;RA;SA",
  "11D8A GUNJALA GONDI VOWEL SIGN |AA;I;II;U;UU",
  "11D90 GUNJALA GONDI VOWEL SIGN |EE;AI",
  "11D93 GUNJALA GONDI |VOWEL SIGN OO;VOWEL SIGN AU;SIGN ANUSVARA;SIGN VISARGA;VIRAMA;OM",
  "11DA0 GUNJALA GONDI DIGIT |ZERO;ONE;TWO;THREE;FOUR;FIVE;SIX;SEVEN;EIGHT;NINE",
  "11EE0 MAKASAR LETTER |KA;GA;NGA;PA;BA;MA;TA;DA;NA;CA;JA;NYA;YA;RA;LA;VA;SA;A",
  "11EF2 MAKASAR |ANGKA",
  "11EF3 MAKASAR VOWEL SIGN |I;U;E;O",
  "11EF7 MAKASAR |PASSIMBANG;END OF SECTION",
  "11FB0 LISU LETTER |YHA",
  "11FC0 TAMIL FRACTION ONE |THREE-HUNDRED-AND-TWENTIETH;ONE-HUNDRED-AND-SIXTIETH",
  "11FC2 TAMIL FRACTION ONE |EIGHTIETH;SIXTY-FOURTH;FORTIETH;THIRTY-SECOND",
  "11FC6 TAMIL FRACTION THREE |EIGHTIETHS;SIXTY-FOURTHS",
  "11FC8 TAMIL FRACTION ONE |TWENTIETH;SIXTEENTH-1;SIXTEENTH-2;TENTH;EIGHTH",
  "11FCD TAMIL FRACTION |THREE TWENTIETHS;THREE SIXTEENTHS;ONE FIFTH;ONE QUARTER",
  "11FD1 TAMIL FRACTION |ONE HALF-1;ONE HALF-2;THREE QUARTERS;DOWNSCALING FACTOR KIIZH",
  "11FD5 TAMIL SIGN |NEL;CEVITU;AAZHAAKKU;UZHAKKU;MUUVUZHAKKU",
  "11FDA TAMIL SIGN |KURUNI;PATHAKKU;MUKKURUNI;KAACU;PANAM;PON;VARAAKAN;PAARAM;KUZHI;VELI",
  "11FE4 TAMIL |WET CULTIVATION SIGN;DRY CULTIVATION SIGN;LAND SIGN;SALT PAN SIGN",
  "11FE8 TAMIL TRADITIONAL |CREDIT SIGN;NUMBER SIGN",
  "11FEA TAMIL |CURRENT SIGN;AND ODD SIGN;SPENT SIGN",
  "11FED TAMIL |TOTAL SIGN;IN POSSESSION SIGN;STARTING FROM SIGN;SIGN MUTHALIYA;SIGN VAKAIYARAA",
  "11FFF |TAMIL PUNCTUATION END OF TEXT;CUNEIFORM SIGN A"]

end ElementLocator.Regex.CharacterName
