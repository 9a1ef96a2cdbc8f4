/-! # Character names: rows for U+1D000 to U+1D378

    The names of musical, counting and divining signs. -/

namespace ElementLocator.Regex.CharacterName

/-- Names from U+1D000 to U+1D378. -/
def musicRows : List String := [
  "1D000 BYZANTINE MUSICAL SYMBOL |PSILI;DASEIA;PERISPOMENI;OXEIA EKFONITIKON",
  "1D004 BYZANTINE MUSICAL SYMBOL |OXEIA DIPLI;VAREIA EKFONITIKON;VAREIA DIPLI;KATHISTI",
  "1D008 BYZANTINE MUSICAL SYMBOL |SYRMATIKI;PARAKLITIKI;YPOKRISIS;YPOKRISIS DIPLI;KREMASTI",
  "1D00D BYZANTINE MUSICAL SYMBOL |APESO EKFONITIKON;EXO EKFONITIKON;TELEIA;KENTIMATA;APOSTROFOS",
  "1D012 BYZANTINE MUSICAL SYMBOL |APOSTROFOS DIPLI;SYNEVMA;THITA;OLIGON ARCHAION;GORGON ARCHAION",
  "1D017 BYZANTINE MUSICAL SYMBOL |PSILON;CHAMILON;VATHY;ISON ARCHAION;KENTIMA ARCHAION",
  "1D01C BYZANTINE MUSICAL SYMBOL |KENTIMATA ARCHAION;SAXIMATA;PARICHON;STAVROS APODEXIA",
  "1D020 BYZANTINE MUSICAL SYMBOL |OXEIAI ARCHAION;VAREIAI ARCHAION;APODERMA ARCHAION;APOTHEMA",
  "1D024 BYZANTINE MUSICAL SYMBOL |KLASMA;REVMA;PIASMA ARCHAION;TINAGMA;ANATRICHISMA;SEISMA",
  "1D02A BYZANTINE MUSICAL SYMBOL SYNAGMA |ARCHAION;META STAVROU",
  "1D02C BYZANTINE MUSICAL SYMBOL |OYRANISMA ARCHAION;THEMA;LEMOI;DYO;TRIA;TESSERA;KRATIMATA",
  "1D033 BYZANTINE MUSICAL SYMBOL |APESO EXO NEO;FTHORA ARCHAION;IMIFTHORA;TROMIKON ARCHAION",
  "1D037 BYZANTINE MUSICAL SYMBOL |KATAVA TROMIKON;PELASTON;PSIFISTON;KONTEVMA;CHOREVMA ARCHAION",
  "1D03C BYZANTINE MUSICAL SYMBOL |RAPISMA;PARAKALESMA ARCHAION;PARAKLITIKI ARCHAION",
  "1D03F BYZANTINE MUSICAL SYMBOL |ICHADIN;NANA;PETASMA;KONTEVMA ALLO;TROMIKON ALLO;STRAGGISMATA",
  "1D045 BYZANTINE MUSICAL SYMBOL |GRONTHISMATA;ISON NEO;OLIGON NEO;OXEIA NEO;PETASTI;KOUFISMA",
  "1D04B BYZANTINE MUSICAL SYMBOL |PETASTOKOUFISMA;KRATIMOKOUFISMA;PELASTON NEO;KENTIMATA NEO ANO",
  "1D04F BYZANTINE MUSICAL SYMBOL |KENTIMA NEO ANO;YPSILI;APOSTROFOS NEO;APOSTROFOI SYNDESMOS NEO",
  "1D053 BYZANTINE MUSICAL SYMBOL |YPORROI;KRATIMOYPORROON;ELAFRON;CHAMILI;MIKRON ISON",
  "1D058 BYZANTINE MUSICAL SYMBOL |VAREIA NEO;PIASMA NEO;PSIFISTON NEO;OMALON;ANTIKENOMA;LYGISMA",
  "1D05E BYZANTINE MUSICAL SYMBOL |PARAKLITIKI NEO;PARAKALESMA NEO;ETERON PARAKALESMA;KYLISMA",
  "1D062 BYZANTINE MUSICAL SYMBOL |ANTIKENOKYLISMA;TROMIKON NEO;EKSTREPTON;SYNAGMA NEO;SYRMA",
  "1D067 BYZANTINE MUSICAL SYMBOL |CHOREVMA NEO;EPEGERMA;SEISMA NEO;XIRON KLASMA;TROMIKOPSIFISTON",
  "1D06C BYZANTINE MUSICAL SYMBOL |PSIFISTOLYGISMA;TROMIKOLYGISMA;TROMIKOPARAKALESMA",
  "1D06F BYZANTINE MUSICAL SYMBOL |PSIFISTOPARAKALESMA;TROMIKOSYNAGMA;PSIFISTOSYNAGMA",
  "1D072 BYZANTINE MUSICAL SYMBOL |GORGOSYNTHETON;ARGOSYNTHETON;ETERON ARGOSYNTHETON",
  "1D075 BYZANTINE MUSICAL SYMBOL |OYRANISMA NEO;THEMATISMOS ESO;THEMATISMOS EXO",
  "1D078 BYZANTINE MUSICAL SYMBOL |THEMA APLOUN;THES KAI APOTHES;KATAVASMA;ENDOFONON;YFEN KATO",
  "1D07D BYZANTINE MUSICAL SYMBOL |YFEN ANO;STAVROS;KLASMA ANO;DIPLI ARCHAION;KRATIMA ARCHAION",
  "1D082 BYZANTINE MUSICAL SYMBOL |KRATIMA ALLO;KRATIMA NEO;APODERMA NEO;APLI;DIPLI",
  "1D087 BYZANTINE MUSICAL SYMBOL |TRIPLI;TETRAPLI;KORONIS;LEIMMA ENOS CHRONOU;LEIMMA DYO CHRONON",
  "1D08C BYZANTINE MUSICAL SYMBOL LEIMMA |TRION CHRONON;TESSARON CHRONON;IMISEOS CHRONOU",
  "1D08F BYZANTINE MUSICAL SYMBOL GORGON |NEO ANO;PARESTIGMENON ARISTERA;PARESTIGMENON DEXIA",
  "1D092 BYZANTINE MUSICAL SYMBOL |DIGORGON",
  "1D093 BYZANTINE MUSICAL SYMBOL DIGORGON PARESTIGMENON |ARISTERA KATO;ARISTERA ANO;DEXIA",
  "1D096 BYZANTINE MUSICAL SYMBOL |TRIGORGON;ARGON;IMIDIARGON;DIARGON;AGOGI POLI ARGI",
  "1D09B BYZANTINE MUSICAL SYMBOL AGOGI |ARGOTERI;ARGI;METRIA;MESI;GORGI;GORGOTERI;POLI GORGI",
  "1D0A2 BYZANTINE MUSICAL SYMBOL MARTYRIA |PROTOS ICHOS;ALLI PROTOS ICHOS;DEYTEROS ICHOS",
  "1D0A5 BYZANTINE MUSICAL SYMBOL MARTYRIA |ALLI DEYTEROS ICHOS;TRITOS ICHOS;TRIFONIAS",
  "1D0A8 BYZANTINE MUSICAL SYMBOL MARTYRIA TETARTOS |ICHOS;LEGETOS ICHOS",
  "1D0AA BYZANTINE MUSICAL SYMBOL MARTYRIA |LEGETOS ICHOS;PLAGIOS ICHOS",
  "1D0AC BYZANTINE MUSICAL SYMBOL |ISAKIA TELOUS ICHIMATOS;APOSTROFOI TELOUS ICHIMATOS",
  "1D0AE BYZANTINE MUSICAL SYMBOL FANEROSIS |TETRAFONIAS;MONOFONIAS;DIFONIAS",
  "1D0B1 BYZANTINE MUSICAL SYMBOL MARTYRIA |VARYS ICHOS;PROTOVARYS ICHOS;PLAGIOS TETARTOS ICHOS",
  "1D0B4 BYZANTINE MUSICAL SYMBOL GORTHMIKON N |APLOUN;DIPLOUN",
  "1D0B6 BYZANTINE MUSICAL SYMBOL |ENARXIS KAI FTHORA VOU;IMIFONON;IMIFTHORON",
  "1D0B9 BYZANTINE MUSICAL SYMBOL FTHORA |ARCHAION DEYTEROU ICHOU;DIATONIKI PA;DIATONIKI NANA",
  "1D0BC BYZANTINE MUSICAL SYMBOL FTHORA |NAOS ICHOS;DIATONIKI DI;SKLIRON DIATONON DI",
  "1D0BF BYZANTINE MUSICAL SYMBOL FTHORA DIATONIKI |KE;ZO;NI KATO;NI ANO",
  "1D0C3 BYZANTINE MUSICAL SYMBOL FTHORA MALAKON CHROMA |DIFONIAS;MONOFONIAS",
  "1D0C5 BYZANTINE MUSICAL SYMBOL |FHTORA SKLIRON CHROMA VASIS;FTHORA SKLIRON CHROMA SYNAFI",
  "1D0C7 BYZANTINE MUSICAL SYMBOL |FTHORA NENANO;CHROA ZYGOS;CHROA KLITON;CHROA SPATHI",
  "1D0CB BYZANTINE MUSICAL SYMBOL FTHORA |I YFESIS TETARTIMORION;ENARMONIOS ANTIFONIA",
  "1D0CD BYZANTINE MUSICAL SYMBOL |YFESIS TRITIMORION;DIESIS TRITIMORION;DIESIS TETARTIMORION",
  "1D0D0 BYZANTINE MUSICAL SYMBOL DIESIS |APLI DYO DODEKATA;MONOGRAMMOS TESSERA DODEKATA",
  "1D0D2 BYZANTINE MUSICAL SYMBOL DIESIS |DIGRAMMOS EX DODEKATA;TRIGRAMMOS OKTO DODEKATA",
  "1D0D4 BYZANTINE MUSICAL SYMBOL YFESIS |APLI DYO DODEKATA;MONOGRAMMOS TESSERA DODEKATA",
  "1D0D6 BYZANTINE MUSICAL SYMBOL YFESIS |DIGRAMMOS EX DODEKATA;TRIGRAMMOS OKTO DODEKATA",
  "1D0D8 BYZANTINE MUSICAL SYMBOL GENIKI |DIESIS;YFESIS",
  "1D0DA BYZANTINE MUSICAL SYMBOL DIASTOLI |APLI MIKRI;APLI MEGALI;DIPLI;THESEOS",
  "1D0DE BYZANTINE MUSICAL SYMBOL SIMANSIS |THESEOS;THESEOS DISIMOU",
  "1D0E0 BYZANTINE MUSICAL SYMBOL SIMANSIS |THESEOS TRISIMOU;THESEOS TETRASIMOU;ARSEOS",
  "1D0E3 BYZANTINE MUSICAL SYMBOL SIMANSIS ARSEOS |DISIMOU;TRISIMOU;TETRASIMOU",
  "1D0E6 BYZANTINE MUSICAL SYMBOL |DIGRAMMA GG;DIFTOGGOS OU;STIGMA",
  "1D0E9 BYZANTINE MUSICAL SYMBOL ARKTIKO |PA;VOU;GA;DI;KE;ZO;NI",
  "1D0F0 BYZANTINE MUSICAL SYMBOL |KENTIMATA NEO MESO;KENTIMA NEO MESO;KENTIMATA NEO KATO",
  "1D0F3 BYZANTINE MUSICAL SYMBOL |KENTIMA NEO KATO;KLASMA KATO;GORGON NEO KATO",
  "1D100 MUSICAL SYMBOL |SINGLE BARLINE;DOUBLE BARLINE;FINAL BARLINE",
  "1D103 MUSICAL SYMBOL |REVERSE FINAL BARLINE;DASHED BARLINE;SHORT BARLINE;LEFT REPEAT SIGN",
  "1D107 MUSICAL SYMBOL |RIGHT REPEAT SIGN;REPEAT DOTS;DAL SEGNO;DA CAPO;SEGNO;CODA",
  "1D10D MUSICAL SYMBOL REPEATED FIGURE-|1;2;3",
  "1D110 MUSICAL SYMBOL |FERMATA;FERMATA BELOW;BREATH MARK;CAESURA;BRACE;BRACKET;ONE-LINE STAFF",
  "1D117 MUSICAL SYMBOL |TWO-LINE STAFF;THREE-LINE STAFF;FOUR-LINE STAFF;FIVE-LINE STAFF",
  "1D11B MUSICAL SYMBOL |SIX-LINE STAFF;SIX-STRING FRETBOARD;FOUR-STRING FRETBOARD",
  "1D11E MUSICAL SYMBOL |G CLEF;G CLEF OTTAVA ALTA;G CLEF OTTAVA BASSA;C CLEF",
  "1D122 MUSICAL SYMBOL |F CLEF;F CLEF OTTAVA ALTA;F CLEF OTTAVA BASSA;DRUM CLEF-1;DRUM CLEF-2",
  "1D129 MUSICAL SYMBOL |MULTIPLE MEASURE REST;DOUBLE SHARP;DOUBLE FLAT;FLAT UP",
  "1D12D MUSICAL SYMBOL |FLAT DOWN;NATURAL UP;NATURAL DOWN;SHARP UP;SHARP DOWN;QUARTER TONE SHARP",
  "1D133 MUSICAL SYMBOL |QUARTER TONE FLAT;COMMON TIME;CUT TIME;OTTAVA ALTA;OTTAVA BASSA",
  "1D138 MUSICAL SYMBOL QUINDICESIMA |ALTA;BASSA",
  "1D13A MUSICAL SYMBOL |MULTI REST;WHOLE REST;HALF REST;QUARTER REST;EIGHTH REST;SIXTEENTH REST",
  "1D140 MUSICAL SYMBOL |THIRTY-SECOND REST;SIXTY-FOURTH REST;ONE HUNDRED TWENTY-EIGHTH REST",
  "1D143 MUSICAL SYMBOL |X NOTEHEAD;PLUS NOTEHEAD;CIRCLE X NOTEHEAD",
  "1D146 MUSICAL SYMBOL SQUARE NOTEHEAD |WHITE;BLACK",
  "1D148 MUSICAL SYMBOL TRIANGLE NOTEHEAD |UP WHITE;UP BLACK;LEFT WHITE;LEFT BLACK;RIGHT WHITE",
  "1D14D MUSICAL SYMBOL TRIANGLE NOTEHEAD |RIGHT BLACK;DOWN WHITE;DOWN BLACK;UP RIGHT WHITE",
  "1D151 MUSICAL SYMBOL |TRIANGLE NOTEHEAD UP RIGHT BLACK;MOON NOTEHEAD WHITE;MOON NOTEHEAD BLACK",
  "1D154 MUSICAL SYMBOL TRIANGLE-ROUND NOTEHEAD DOWN |WHITE;BLACK",
  "1D156 MUSICAL SYMBOL |PARENTHESIS NOTEHEAD;VOID NOTEHEAD;NOTEHEAD BLACK;NULL NOTEHEAD",
  "1D15A MUSICAL SYMBOL CLUSTER NOTEHEAD |WHITE;BLACK",
  "1D15C MUSICAL SYMBOL |BREVE;WHOLE NOTE;HALF NOTE;QUARTER NOTE;EIGHTH NOTE;SIXTEENTH NOTE",
  "1D162 MUSICAL SYMBOL |THIRTY-SECOND NOTE;SIXTY-FOURTH NOTE;ONE HUNDRED TWENTY-EIGHTH NOTE",
  "1D165 MUSICAL SYMBOL COMBINING |STEM;SPRECHGESANG STEM;TREMOLO-1;TREMOLO-2;TREMOLO-3",
  "1D16A MUSICAL SYMBOL FINGERED TREMOLO-|1;2;3",
  "1D16D MUSICAL SYMBOL COMBINING |AUGMENTATION DOT;FLAG-1;FLAG-2;FLAG-3;FLAG-4;FLAG-5",
  "1D173 MUSICAL SYMBOL |BEGIN BEAM;END BEAM;BEGIN TIE;END TIE;BEGIN SLUR;END SLUR;BEGIN PHRASE",
  "1D17A MUSICAL SYMBOL |END PHRASE;COMBINING ACCENT;COMBINING STACCATO;COMBINING TENUTO",
  "1D17E MUSICAL SYMBOL COMBINING |STACCATISSIMO;MARCATO;MARCATO-STACCATO;ACCENT-STACCATO;LOURE",
  "1D183 MUSICAL SYMBOL ARPEGGIATO |UP;DOWN",
  "1D185 MUSICAL SYMBOL COMBINING |DOIT;RIP;FLIP;SMEAR;BEND;DOUBLE TONGUE;TRIPLE TONGUE",
  "1D18C MUSICAL SYMBOL |RINFORZANDO;SUBITO;Z;PIANO;MEZZO;FORTE;CRESCENDO;DECRESCENDO",
  "1D194 MUSICAL SYMBOL GRACE NOTE |SLASH;NO SLASH",
  "1D196 MUSICAL SYMBOL |TR;TURN;INVERTED TURN;TURN SLASH;TURN UP",
  "1D19B MUSICAL SYMBOL ORNAMENT STROKE-|1;2;3;4;5;6;7;8;9;10;11",
  "1D1A6 MUSICAL SYMBOL |HAUPTSTIMME;NEBENSTIMME;END OF STIMME;DEGREE SLASH",
  "1D1AA MUSICAL SYMBOL COMBINING |DOWN BOW;UP BOW;HARMONIC;SNAP PIZZICATO",
  "1D1AE MUSICAL SYMBOL PEDAL |MARK;UP MARK",
  "1D1B0 MUSICAL SYMBOL |HALF PEDAL MARK;GLISSANDO UP;GLISSANDO DOWN;WITH FINGERNAILS;DAMP",
  "1D1B5 MUSICAL SYMBOL |DAMP ALL;MAXIMA;LONGA;BREVIS;SEMIBREVIS WHITE;SEMIBREVIS BLACK;MINIMA",
  "1D1BC MUSICAL SYMBOL |MINIMA BLACK;SEMIMINIMA WHITE;SEMIMINIMA BLACK;FUSA WHITE;FUSA BLACK",
  "1D1C1 MUSICAL SYMBOL |LONGA PERFECTA REST;LONGA IMPERFECTA REST;BREVIS REST;SEMIBREVIS REST",
  "1D1C5 MUSICAL SYMBOL |MINIMA REST;SEMIMINIMA REST;TEMPUS PERFECTUM CUM PROLATIONE PERFECTA",
  "1D1C8 MUSICAL SYMBOL TEMPUS PERFECTUM CUM PROLATIONE |IMPERFECTA;PERFECTA DIMINUTION-1",
  "1D1CA MUSICAL SYMBOL TEMPUS IMPERFECTUM CUM PROLATIONE |PERFECTA;IMPERFECTA",
  "1D1CC MUSICAL SYMBOL TEMPUS IMPERFECTUM CUM PROLATIONE IMPERFECTA DIMINUTION-|1;2;3",
  "1D1CF MUSICAL SYMBOL |CROIX;GREGORIAN C CLEF;GREGORIAN F CLEF;SQUARE B;VIRGA",
  "1D1D4 MUSICAL SYMBOL |PODATUS;CLIVIS;SCANDICUS;CLIMACUS;TORCULUS;PORRECTUS;PORRECTUS FLEXUS",
  "1D1DB MUSICAL SYMBOL |SCANDICUS FLEXUS;TORCULUS RESUPINUS;PES SUBPUNCTIS;KIEVAN C CLEF",
  "1D1DF MUSICAL SYMBOL KIEVAN |END OF PIECE;FINAL NOTE;RECITATIVE MARK;WHOLE NOTE;HALF NOTE",
  "1D1E4 MUSICAL SYMBOL KIEVAN QUARTER NOTE STEM |DOWN;UP",
  "1D1E6 MUSICAL SYMBOL KIEVAN EIGHTH NOTE STEM |DOWN;UP",
  "1D1E8 MUSICAL SYMBOL |KIEVAN FLAT SIGN;SORI;KORON",
  "1D200 GREEK VOCAL NOTATION SYMBOL-|1;2;3;4;5;6;7;8;9",
  "1D209 GREEK VOCAL NOTATION SYMBOL-|10;11;12;13;14;15;16;17;18;19;20;21;22;23;24;50;51;52;53;54",
  "1D21D GREEK INSTRUMENTAL NOTATION SYMBOL-|1",
  "1D21E GREEK INSTRUMENTAL NOTATION SYMBOL-|2;4;5;7;8;11;12;13;14;17;18;19;23;24;25;26;27;29;30",
  "1D231 GREEK INSTRUMENTAL NOTATION SYMBOL-|32;36;37;38;39;40;42;43;45;47;48;49;50;51;52;53;54",
  "1D242 COMBINING GREEK MUSICAL |TRISEME;TETRASEME;PENTASEME",
  "1D245 GREEK MUSICAL |LEIMMA",
  "1D2E0 MAYAN NUMERAL |ZERO;ONE;TWO;THREE;FOUR;FIVE;SIX;SEVEN;EIGHT;NINE;TEN;ELEVEN",
  "1D2EC MAYAN NUMERAL |TWELVE;THIRTEEN;FOURTEEN;FIFTEEN;SIXTEEN;SEVENTEEN;EIGHTEEN;NINETEEN",
  "1D300 MONOGRAM FOR |EARTH",
  "1D301 DIGRAM FOR |HEAVENLY EARTH;HUMAN EARTH;EARTHLY HEAVEN;EARTHLY HUMAN;EARTH",
  "1D306 TETRAGRAM FOR |CENTRE;FULL CIRCLE",
  "1D308 TETRAGRAM FOR |MIRED;BARRIER;KEEPING SMALL;CONTRARIETY;ASCENT;OPPOSITION;BRANCHING OUT",
  "1D30F TETRAGRAM FOR |DEFECTIVENESS OR DISTORTION;DIVERGENCE;YOUTHFULNESS;INCREASE;PENETRATION",
  "1D314 TETRAGRAM FOR |REACH;CONTACT;HOLDING BACK;WAITING;FOLLOWING;ADVANCE;RELEASE;RESISTANCE",
  "1D31C TETRAGRAM FOR |EASE;JOY;CONTENTION;ENDEAVOUR;DUTIES;CHANGE;DECISIVENESS;BOLD RESOLUTION",
  "1D324 TETRAGRAM FOR |PACKING;LEGION;CLOSENESS;KINSHIP;GATHERING;STRENGTH;PURITY;FULLNESS",
  "1D32C TETRAGRAM FOR |RESIDENCE;LAW OR MODEL;RESPONSE;GOING TO MEET;ENCOUNTERS;STOVE;GREATNESS",
  "1D333 TETRAGRAM FOR |ENLARGEMENT;PATTERN;RITUAL;FLIGHT;VASTNESS OR WASTING;CONSTANCY;MEASURE",
  "1D33A TETRAGRAM FOR |ETERNITY;UNITY;DIMINISHMENT;CLOSED MOUTH;GUARDEDNESS;GATHERING IN;MASSING",
  "1D341 TETRAGRAM FOR |ACCUMULATION;EMBELLISHMENT;DOUBT;WATCH;SINKING;INNER;DEPARTURE;DARKENING",
  "1D349 TETRAGRAM FOR |DIMMING;EXHAUSTION;SEVERANCE;STOPPAGE;HARDNESS;COMPLETION;CLOSURE;FAILURE",
  "1D351 TETRAGRAM FOR |AGGRAVATION;COMPLIANCE;ON THE VERGE;DIFFICULTIES;LABOURING;FOSTERING",
  "1D360 COUNTING ROD UNIT DIGIT |ONE;TWO;THREE;FOUR;FIVE;SIX;SEVEN;EIGHT;NINE",
  "1D369 COUNTING ROD TENS DIGIT |ONE;TWO;THREE;FOUR;FIVE;SIX;SEVEN;EIGHT;NINE",
  "1D372 IDEOGRAPHIC TALLY MARK |ONE;TWO;THREE;FOUR;FIVE",
  "1D377 TALLY MARK |ONE;FIVE"]

end ElementLocator.Regex.CharacterName
