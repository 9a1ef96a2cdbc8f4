/-! # Character names: rows for U+0900 to U+0DF4

    The names of the scripts of India. -/

namespace ElementLocator.Regex.CharacterName

/-- Names from U+0900 to U+0DF4. -/
def indicRows : List String := [
  "900 DEVANAGARI SIGN |INVERTED CANDRABINDU;CANDRABINDU;ANUSVARA;VISARGA",
  "904 DEVANAGARI LETTER |SHORT A;A",
  "906 DEVANAGARI LETTER |AA;I;II;U;UU;VOCALIC R;VOCALIC L;CANDRA E;SHORT E;E;AI;CANDRA O;SHORT O",
  "913 DEVANAGARI LETTER |O;AU;KA;KHA;GA;GHA;NGA;CA;CHA;JA;JHA;NYA;TTA;TTHA;DDA;DDHA;NNA;TA;THA",
  "926 DEVANAGARI LETTER |DA;DHA;NA;NNNA;PA;PHA;BA;BHA;MA;YA;RA;RRA;LA;LLA;LLLA;VA;SHA;SSA;SA;HA",
  "93A DEVANAGARI |VOWEL SIGN OE;VOWEL SIGN OOE;SIGN NUKTA;SIGN AVAGRAHA",
  "93E DEVANAGARI VOWEL SIGN |AA;I;II;U",
  "942 DEVANAGARI VOWEL SIGN |UU;VOCALIC R;VOCALIC RR;CANDRA E;SHORT E;E;AI;CANDRA O;SHORT O;O;AU",
  "94D DEVANAGARI |SIGN VIRAMA;VOWEL SIGN PRISHTHAMATRA E;VOWEL SIGN AW",
  "950 DEVANAGARI |OM;STRESS SIGN UDATTA;STRESS SIGN ANUDATTA;GRAVE ACCENT;ACUTE ACCENT",
  "955 DEVANAGARI VOWEL SIGN |CANDRA LONG E;UE;UUE",
  "958 DEVANAGARI LETTER |QA;KHHA;GHHA;ZA;DDDHA;RHA;FA;YYA;VOCALIC RR;VOCALIC LL",
  "962 DEVANAGARI |VOWEL SIGN VOCALIC L;VOWEL SIGN VOCALIC LL;DANDA;DOUBLE DANDA",
  "966 DEVANAGARI DIGIT |ZERO;ONE;TWO;THREE;FOUR;FIVE;SIX;SEVEN;EIGHT;NINE",
  "970 DEVANAGARI |ABBREVIATION SIGN;SIGN HIGH SPACING DOT;LETTER CANDRA A",
  "973 DEVANAGARI LETTER |OE;OOE;AW;UE;UUE;MARWARI DDA;ZHA;HEAVY YA;GGA;JJA;GLOTTAL STOP;DDDA;BBA",
  "980 BENGALI |ANJI;SIGN CANDRABINDU;SIGN ANUSVARA;SIGN VISARGA",
  "985 BENGALI LETTER |A;AA;I;II;U;UU;VOCALIC R;VOCALIC L",
  "98F BENGALI LETTER |E;AI",
  "993 BENGALI LETTER |O;AU",
  "995 BENGALI LETTER |KA;KHA;GA;GHA;NGA;CA;CHA;JA;JHA;NYA;TTA;TTHA;DDA;DDHA;NNA;TA;THA;DA;DHA;NA",
  "9AA BENGALI LETTER |PA;PHA;BA;BHA;MA;YA;RA",
  "9B2 BENGALI LETTER |LA",
  "9B6 BENGALI LETTER |SHA;SSA;SA;HA",
  "9BC BENGALI SIGN |NUKTA;AVAGRAHA",
  "9BE BENGALI VOWEL SIGN |AA;I;II;U;UU;VOCALIC R;VOCALIC RR",
  "9C7 BENGALI VOWEL SIGN |E;AI",
  "9CB BENGALI |VOWEL SIGN O;VOWEL SIGN AU;SIGN VIRAMA;LETTER KHANDA TA",
  "9D7 BENGALI AU LENGTH |MARK",
  "9DC BENGALI LETTER |RRA;RHA",
  "9DF BENGALI LETTER |YYA;VOCALIC RR;VOCALIC LL",
  "9E2 BENGALI VOWEL SIGN VOCALIC |L;LL",
  "9E6 BENGALI DIGIT |ZERO;ONE;TWO;THREE;FOUR;FIVE;SIX;SEVEN;EIGHT;NINE",
  "9F0 BENGALI LETTER RA WITH |MIDDLE DIAGONAL;LOWER DIAGONAL",
  "9F2 BENGALI RUPEE |MARK;SIGN",
  "9F4 BENGALI CURRENCY NUMERATOR |ONE;TWO;THREE;FOUR;ONE LESS THAN THE DENOMINATOR",
  "9F9 BENGALI CURRENCY DENOMINATOR |SIXTEEN",
  "9FA BENGALI |ISSHAR;GANDA MARK;LETTER VEDIC ANUSVARA;ABBREVIATION SIGN;SANDHI MARK",
  "A01 GURMUKHI SIGN |ADAK BINDI;BINDI;VISARGA",
  "A05 GURMUKHI LETTER |A;AA;I;II;U;UU",
  "A0F GURMUKHI LETTER |EE;AI",
  "A13 GURMUKHI LETTER |OO;AU;KA",
  "A16 GURMUKHI LETTER |KHA;GA;GHA;NGA;CA;CHA;JA;JHA;NYA;TTA;TTHA;DDA;DDHA;NNA;TA;THA;DA;DHA;NA",
  "A2A GURMUKHI LETTER |PA;PHA;BA;BHA;MA;YA;RA",
  "A32 GURMUKHI LETTER |LA;LLA",
  "A35 GURMUKHI LETTER |VA;SHA",
  "A38 GURMUKHI LETTER |SA;HA",
  "A3C GURMUKHI SIGN |NUKTA",
  "A3E GURMUKHI VOWEL SIGN |AA;I;II;U;UU",
  "A47 GURMUKHI VOWEL SIGN |EE;AI",
  "A4B GURMUKHI |VOWEL SIGN OO;VOWEL SIGN AU;SIGN VIRAMA",
  "A51 GURMUKHI SIGN |UDAAT",
  "A59 GURMUKHI LETTER |KHHA;GHHA;ZA;RRA",
  "A5E GURMUKHI LETTER |FA",
  "A66 GURMUKHI DIGIT |ZERO;ONE;TWO;THREE;FOUR;FIVE;SIX;SEVEN;EIGHT;NINE",
  "A70 GURMUKHI |TIPPI;ADDAK;IRI;URA;EK ONKAR;SIGN YAKASH;ABBREVIATION SIGN",
  "A81 GUJARATI SIGN |CANDRABINDU;ANUSVARA;VISARGA",
  "A85 GUJARATI LETTER |A;AA;I;II;U;UU;VOCALIC R;VOCALIC L",
  "A8D GUJARATI VOWEL CANDRA |E",
  "A8F GUJARATI |LETTER E;LETTER AI;VOWEL CANDRA O",
  "A93 GUJARATI LETTER |O;AU;KA",
  "A96 GUJARATI LETTER |KHA;GA;GHA;NGA;CA;CHA;JA;JHA;NYA;TTA;TTHA;DDA;DDHA;NNA;TA;THA;DA;DHA;NA",
  "AAA GUJARATI LETTER |PA;PHA;BA;BHA;MA;YA;RA",
  "AB2 GUJARATI LETTER |LA;LLA",
  "AB5 GUJARATI LETTER |VA;SHA;SSA;SA;HA",
  "ABC GUJARATI SIGN |NUKTA;AVAGRAHA",
  "ABE GUJARATI VOWEL SIGN |AA;I;II;U;UU;VOCALIC R;VOCALIC RR;CANDRA E",
  "AC7 GUJARATI VOWEL SIGN |E;AI;CANDRA O",
  "ACB GUJARATI |VOWEL SIGN O;VOWEL SIGN AU;SIGN VIRAMA",
  "AD0 GUJARATI |OM",
  "AE0 GUJARATI LETTER VOCALIC |RR;LL",
  "AE2 GUJARATI VOWEL SIGN VOCALIC |L;LL",
  "AE6 GUJARATI DIGIT |ZERO;ONE;TWO;THREE;FOUR;FIVE;SIX;SEVEN;EIGHT;NINE",
  "AF0 GUJARATI |ABBREVIATION SIGN;RUPEE SIGN",
  "AF9 GUJARATI |LETTER ZHA;SIGN SUKUN;SIGN SHADDA",
  "AFC GUJARATI SIGN |MADDAH;THREE-DOT NUKTA ABOVE;CIRCLE NUKTA ABOVE;TWO-CIRCLE NUKTA ABOVE",
  "B01 ORIYA SIGN |CANDRABINDU;ANUSVARA;VISARGA",
  "B05 ORIYA LETTER |A;AA;I;II;U;UU;VOCALIC R;VOCALIC L",
  "B0F ORIYA LETTER |E;AI",
  "B13 ORIYA LETTER |O;AU",
  "B15 ORIYA LETTER |KA;KHA;GA;GHA;NGA;CA;CHA;JA;JHA;NYA;TTA;TTHA;DDA;DDHA;NNA;TA;THA;DA;DHA;NA",
  "B2A ORIYA LETTER |PA;PHA;BA;BHA;MA;YA;RA",
  "B32 ORIYA LETTER |LA;LLA",
  "B35 ORIYA LETTER |VA;SHA;SSA;SA;HA",
  "B3C ORIYA SIGN |NUKTA;AVAGRAHA",
  "B3E ORIYA VOWEL SIGN |AA;I;II;U;UU;VOCALIC R;VOCALIC RR",
  "B47 ORIYA VOWEL SIGN |E;AI",
  "B4B ORIYA |VOWEL SIGN O;VOWEL SIGN AU;SIGN VIRAMA",
  "B55 ORIYA |SIGN OVERLINE;AI LENGTH MARK;AU LENGTH MARK",
  "B5C ORIYA LETTER |RRA;RHA",
  "B5F ORIYA LETTER |YYA;VOCALIC RR;VOCALIC LL",
  "B62 ORIYA VOWEL SIGN VOCALIC |L;LL",
  "B66 ORIYA DIGIT |ZERO;ONE;TWO;THREE;FOUR;FIVE;SIX;SEVEN;EIGHT;NINE",
  "B70 ORIYA |ISSHAR;LETTER WA;FRACTION ONE QUARTER",
  "B73 ORIYA FRACTION |ONE HALF;THREE QUARTERS;ONE SIXTEENTH;ONE EIGHTH;THREE SIXTEENTHS",
  "B82 TAMIL SIGN |ANUSVARA;VISARGA",
  "B85 TAMIL LETTER |A;AA;I;II;U;UU",
  "B8E TAMIL LETTER |E;EE;AI",
  "B92 TAMIL LETTER |O;OO;AU;KA",
  "B99 TAMIL LETTER |NGA;CA",
  "B9C TAMIL LETTER |JA",
  "B9E TAMIL LETTER |NYA;TTA",
  "BA3 TAMIL LETTER |NNA;TA",
  "BA8 TAMIL LETTER |NA;NNNA;PA",
  "BAE TAMIL LETTER |MA;YA;RA;RRA;LA;LLA;LLLA;VA;SHA;SSA;SA;HA",
  "BBE TAMIL VOWEL SIGN |AA;I;II;U;UU",
  "BC6 TAMIL VOWEL SIGN |E;EE;AI",
  "BCA TAMIL VOWEL SIGN |O;OO;AU",
  "BCD TAMIL SIGN |VIRAMA",
  "BD0 TAMIL |OM",
  "BD7 TAMIL AU LENGTH |MARK",
  "BE6 TAMIL DIGIT |ZERO;ONE;TWO;THREE;FOUR;FIVE;SIX;SEVEN;EIGHT;NINE",
  "BF0 TAMIL |NUMBER TEN;NUMBER ONE HUNDRED;NUMBER ONE THOUSAND;DAY SIGN",
  "BF4 TAMIL |MONTH SIGN;YEAR SIGN;DEBIT SIGN;CREDIT SIGN;AS ABOVE SIGN;RUPEE SIGN;NUMBER SIGN",
  "C00 TELUGU SIGN COMBINING CANDRABINDU |ABOVE",
  "C01 TELUGU SIGN |CANDRABINDU;ANUSVARA;VISARGA;COMBINING ANUSVARA ABOVE",
  "C05 TELUGU LETTER |A;AA;I;II;U;UU;VOCALIC R;VOCALIC L",
  "C0E TELUGU LETTER |E;EE;AI",
  "C12 TELUGU LETTER |O;OO;AU",
  "C15 TELUGU LETTER |KA;KHA;GA;GHA;NGA;CA;CHA;JA;JHA;NYA;TTA;TTHA;DDA;DDHA;NNA;TA;THA;DA;DHA;NA",
  "C2A TELUGU LETTER |PA;PHA;BA;BHA;MA;YA;RA;RRA;LA;LLA;LLLA;VA;SHA;SSA;SA;HA",
  "C3C TELUGU SIGN |NUKTA;AVAGRAHA",
  "C3E TELUGU VOWEL SIGN |AA;I;II;U;UU;VOCALIC R;VOCALIC RR",
  "C46 TELUGU VOWEL SIGN |E;EE;AI",
  "C4A TELUGU VOWEL SIGN |O;OO;AU",
  "C4D TELUGU SIGN |VIRAMA",
  "C55 TELUGU |LENGTH MARK;AI LENGTH MARK",
  "C58 TELUGU LETTER |TSA;DZA;RRRA",
  "C5D TELUGU LETTER NAKAARA |POLLU",
  "C60 TELUGU LETTER VOCALIC |RR;LL",
  "C62 TELUGU VOWEL SIGN VOCALIC |L;LL",
  "C66 TELUGU DIGIT |ZERO;ONE;TWO;THREE;FOUR;FIVE;SIX;SEVEN;EIGHT;NINE",
  "C77 TELUGU SIGN |SIDDHAM",
  "C78 TELUGU FRACTION DIGIT |ZERO FOR ODD POWERS OF FOUR;ONE FOR ODD POWERS OF FOUR",
  "C7A TELUGU FRACTION DIGIT |TWO FOR ODD POWERS OF FOUR;THREE FOR ODD POWERS OF FOUR",
  "C7C TELUGU FRACTION DIGIT |ONE FOR EVEN POWERS OF FOUR;TWO FOR EVEN POWERS OF FOUR",
  "C7E TELUGU |FRACTION DIGIT THREE FOR EVEN POWERS OF FOUR;SIGN TUUMU",
  "C80 KANNADA SIGN |SPACING CANDRABINDU;CANDRABINDU;ANUSVARA;VISARGA;SIDDHAM",
  "C85 KANNADA LETTER |A;AA;I;II;U;UU;VOCALIC R;VOCALIC L",
  "C8E KANNADA LETTER |E;EE;AI",
  "C92 KANNADA LETTER |O;OO;AU",
  "C95 KANNADA LETTER |KA;KHA;GA;GHA;NGA;CA;CHA;JA;JHA;NYA;TTA;TTHA;DDA;DDHA;NNA;TA;THA;DA;DHA;NA",
  "CAA KANNADA LETTER |PA;PHA;BA;BHA;MA;YA;RA;RRA;LA;LLA",
  "CB5 KANNADA LETTER |VA;SHA;SSA;SA;HA",
  "CBC KANNADA SIGN |NUKTA;AVAGRAHA",
  "CBE KANNADA VOWEL SIGN |AA;I;II;U;UU;VOCALIC R;VOCALIC RR",
  "CC6 KANNADA VOWEL SIGN |E;EE;AI",
  "CCA KANNADA VOWEL SIGN |O;OO;AU",
  "CCD KANNADA SIGN |VIRAMA",
  "CD5 KANNADA |LENGTH MARK;AI LENGTH MARK",
  "CDD KANNADA LETTER |NAKAARA POLLU;FA",
  "CE0 KANNADA LETTER VOCALIC |RR;LL",
  "CE2 KANNADA VOWEL SIGN VOCALIC |L;LL",
  "CE6 KANNADA DIGIT |ZERO;ONE;TWO;THREE;FOUR;FIVE;SIX;SEVEN;EIGHT;NINE",
  "CF1 KANNADA SIGN |JIHVAMULIYA;UPADHMANIYA",
  "D00 MALAYALAM SIGN |COMBINING ANUSVARA ABOVE;CANDRABINDU;ANUSVARA;VISARGA",
  "D04 MALAYALAM LETTER |VEDIC ANUSVARA;A;AA;I;II;U;UU;VOCALIC R;VOCALIC L",
  "D0E MALAYALAM LETTER |E;EE;AI",
  "D12 MALAYALAM LETTER |O;OO;AU;KA;KHA;GA;GHA;NGA;CA;CHA;JA;JHA;NYA;TTA;TTHA;DDA;DDHA;NNA;TA;THA",
  "D26 MALAYALAM LETTER |DA;DHA;NA;NNNA;PA;PHA;BA;BHA;MA;YA;RA;RRA;LA;LLA;LLLA;VA;SHA;SSA;SA;HA",
  "D3A MALAYALAM |LETTER TTTA;SIGN VERTICAL BAR VIRAMA;SIGN CIRCULAR VIRAMA;SIGN AVAGRAHA",
  "D3E MALAYALAM VOWEL SIGN |AA;I;II;U;UU;VOCALIC R;VOCALIC RR",
  "D46 MALAYALAM VOWEL SIGN |E;EE;AI",
  "D4A MALAYALAM VOWEL SIGN |O;OO;AU",
  "D4D MALAYALAM |SIGN VIRAMA;LETTER DOT REPH;SIGN PARA",
  "D54 MALAYALAM LETTER CHILLU |M;Y;LLL",
  "D57 MALAYALAM |AU LENGTH MARK;FRACTION ONE ONE-HUNDRED-AND-SIXTIETH;FRACTION ONE FORTIETH",
  "D5A MALAYALAM FRACTION |THREE EIGHTIETHS;ONE TWENTIETH;ONE TENTH;THREE TWENTIETHS;ONE FIFTH",
  "D5F MALAYALAM LETTER |ARCHAIC II;VOCALIC RR;VOCALIC LL",
  "D62 MALAYALAM VOWEL SIGN VOCALIC |L;LL",
  "D66 MALAYALAM DIGIT |ZERO;ONE;TWO;THREE;FOUR;FIVE;SIX;SEVEN;EIGHT;NINE",
  "D70 MALAYALAM NUMBER |TEN;ONE HUNDRED;ONE THOUSAND",
  "D73 MALAYALAM FRACTION |ONE QUARTER;ONE HALF;THREE QUARTERS;ONE SIXTEENTH;ONE EIGHTH",
  "D78 MALAYALAM |FRACTION THREE SIXTEENTHS;DATE MARK",
  "D7A MALAYALAM LETTER CHILLU |NN;N;RR;L;LL;K",
  "D81 SINHALA SIGN |CANDRABINDU;ANUSVARAYA;VISARGAYA",
  "D85 SINHALA LETTER |AYANNA;AAYANNA;AEYANNA;AEEYANNA;IYANNA;IIYANNA;UYANNA;UUYANNA;IRUYANNA",
  "D8E SINHALA LETTER |IRUUYANNA;ILUYANNA;ILUUYANNA;EYANNA;EEYANNA;AIYANNA;OYANNA;OOYANNA;AUYANNA",
  "D9A SINHALA LETTER |ALPAPRAANA KAYANNA;MAHAAPRAANA KAYANNA;ALPAPRAANA GAYANNA",
  "D9D SINHALA LETTER |MAHAAPRAANA GAYANNA;KANTAJA NAASIKYAYA;SANYAKA GAYANNA;ALPAPRAANA CAYANNA",
  "DA1 SINHALA LETTER |MAHAAPRAANA CAYANNA;ALPAPRAANA JAYANNA;MAHAAPRAANA JAYANNA",
  "DA4 SINHALA LETTER |TAALUJA NAASIKYAYA;TAALUJA SANYOOGA NAAKSIKYAYA;SANYAKA JAYANNA",
  "DA7 SINHALA LETTER |ALPAPRAANA TTAYANNA;MAHAAPRAANA TTAYANNA;ALPAPRAANA DDAYANNA",
  "DAA SINHALA LETTER |MAHAAPRAANA DDAYANNA;MUURDHAJA NAYANNA;SANYAKA DDAYANNA;ALPAPRAANA TAYANNA",
  "DAE SINHALA LETTER |MAHAAPRAANA TAYANNA;ALPAPRAANA DAYANNA;MAHAAPRAANA DAYANNA;DANTAJA NAYANNA",
  "DB3 SINHALA LETTER |SANYAKA DAYANNA;ALPAPRAANA PAYANNA;MAHAAPRAANA PAYANNA;ALPAPRAANA BAYANNA",
  "DB7 SINHALA LETTER |MAHAAPRAANA BAYANNA;MAYANNA;AMBA BAYANNA;YAYANNA;RAYANNA",
  "DBD SINHALA LETTER DANTAJA |LAYANNA",
  "DC0 SINHALA LETTER |VAYANNA;TAALUJA SAYANNA",
  "DC2 SINHALA LETTER |MUURDHAJA SAYANNA;DANTAJA SAYANNA;HAYANNA;MUURDHAJA LAYANNA;FAYANNA",
  "DCA SINHALA SIGN AL-|LAKUNA",
  "DCF SINHALA VOWEL SIGN |AELA-PILLA;KETTI AEDA-PILLA",
  "DD1 SINHALA VOWEL SIGN |DIGA AEDA-PILLA;KETTI IS-PILLA;DIGA IS-PILLA;KETTI PAA-PILLA",
  "DD6 SINHALA VOWEL SIGN DIGA PAA-|PILLA",
  "DD8 SINHALA VOWEL SIGN |GAETTA-PILLA;KOMBUVA;DIGA KOMBUVA;KOMBU DEKA;KOMBUVA HAA AELA-PILLA",
  "DDD SINHALA VOWEL SIGN |KOMBUVA HAA DIGA AELA-PILLA;KOMBUVA HAA GAYANUKITTA;GAYANUKITTA",
  "DE6 SINHALA LITH DIGIT |ZERO;ONE;TWO;THREE;FOUR;FIVE;SIX;SEVEN;EIGHT;NINE",
  "DF2 SINHALA |VOWEL SIGN DIGA GAETTA-PILLA;VOWEL SIGN DIGA GAYANUKITTA;PUNCTUATION KUNDDALIYA"]

end ElementLocator.Regex.CharacterName
