/-! # Character names: rows for U+E000 to U+FFFD

    The names of presentation forms and of forms kept for compatibility. -/

namespace ElementLocator.Regex.CharacterName

/-- Names from U+E000 to U+FFFD. -/
def compatibilityRows : List String := [
  "FB00 LATIN SMALL LIGATURE |FF;FI;FL;FFI;FFL;LONG S T;ST",
  "FB13 ARMENIAN SMALL LIGATURE |MEN NOW;MEN ECH;MEN INI;VEW NOW;MEN XEH",
  "FB1D HEBREW LETTER YOD WITH |HIRIQ",
  "FB1E HEBREW |POINT JUDEO-SPANISH VARIKA;LIGATURE YIDDISH YOD YOD PATAH;LETTER ALTERNATIVE AYIN",
  "FB21 HEBREW LETTER WIDE |ALEF;DALET;HE;KAF;LAMED;FINAL MEM;RESH;TAV",
  "FB29 HEBREW LETTER ALTERNATIVE PLUS |SIGN",
  "FB2A HEBREW LETTER SHIN WITH |SHIN DOT;SIN DOT;DAGESH AND SHIN DOT;DAGESH AND SIN DOT",
  "FB2E HEBREW LETTER ALEF WITH |PATAH;QAMATS;MAPIQ",
  "FB31 HEBREW LETTER |BET WITH DAGESH;GIMEL WITH DAGESH",
  "FB33 HEBREW LETTER |DALET WITH DAGESH;HE WITH MAPIQ;VAV WITH DAGESH;ZAYIN WITH DAGESH",
  "FB38 HEBREW LETTER TET WITH |DAGESH",
  "FB39 HEBREW LETTER |YOD WITH DAGESH;FINAL KAF WITH DAGESH;KAF WITH DAGESH;LAMED WITH DAGESH",
  "FB3E HEBREW LETTER MEM WITH |DAGESH",
  "FB40 HEBREW LETTER |NUN WITH DAGESH;SAMEKH WITH DAGESH",
  "FB43 HEBREW LETTER |FINAL PE WITH DAGESH;PE WITH DAGESH",
  "FB46 HEBREW LETTER |TSADI WITH DAGESH;QOF WITH DAGESH;RESH WITH DAGESH;SHIN WITH DAGESH",
  "FB4A HEBREW LETTER |TAV WITH DAGESH;VAV WITH HOLAM;BET WITH RAFE;KAF WITH RAFE;PE WITH RAFE",
  "FB4F HEBREW LIGATURE ALEF |LAMED",
  "FB50 ARABIC LETTER ALEF WASLA |ISOLATED FORM;FINAL FORM",
  "FB52 ARABIC LETTER BEEH |ISOLATED FORM;FINAL FORM;INITIAL FORM;MEDIAL FORM",
  "FB56 ARABIC LETTER PEH |ISOLATED FORM;FINAL FORM;INITIAL FORM;MEDIAL FORM",
  "FB5A ARABIC LETTER BEHEH |ISOLATED FORM;FINAL FORM;INITIAL FORM;MEDIAL FORM",
  "FB5E ARABIC LETTER TTEHEH |ISOLATED FORM;FINAL FORM;INITIAL FORM;MEDIAL FORM",
  "FB62 ARABIC LETTER TEHEH |ISOLATED FORM;FINAL FORM;INITIAL FORM;MEDIAL FORM",
  "FB66 ARABIC LETTER TTEH |ISOLATED FORM;FINAL FORM;INITIAL FORM;MEDIAL FORM",
  "FB6A ARABIC LETTER VEH |ISOLATED FORM;FINAL FORM;INITIAL FORM;MEDIAL FORM",
  "FB6E ARABIC LETTER PEHEH |ISOLATED FORM;FINAL FORM;INITIAL FORM;MEDIAL FORM",
  "FB72 ARABIC LETTER DYEH |ISOLATED FORM;FINAL FORM;INITIAL FORM;MEDIAL FORM",
  "FB76 ARABIC LETTER NYEH |ISOLATED FORM;FINAL FORM;INITIAL FORM;MEDIAL FORM",
  "FB7A ARABIC LETTER TCHEH |ISOLATED FORM;FINAL FORM;INITIAL FORM;MEDIAL FORM",
  "FB7E ARABIC LETTER TCHEHEH |ISOLATED FORM;FINAL FORM;INITIAL FORM;MEDIAL FORM",
  "FB82 ARABIC LETTER DDAHAL |ISOLATED FORM;FINAL FORM",
  "FB84 ARABIC LETTER DAHAL |ISOLATED FORM;FINAL FORM",
  "FB86 ARABIC LETTER |DUL ISOLATED FORM;DUL FINAL FORM;DDAL ISOLATED FORM;DDAL FINAL FORM",
  "FB8A ARABIC LETTER |JEH ISOLATED FORM;JEH FINAL FORM;RREH ISOLATED FORM;RREH FINAL FORM",
  "FB8E ARABIC LETTER KEHEH |ISOLATED FORM;FINAL FORM;INITIAL FORM;MEDIAL FORM",
  "FB92 ARABIC LETTER GAF |ISOLATED FORM;FINAL FORM;INITIAL FORM;MEDIAL FORM",
  "FB96 ARABIC LETTER GUEH |ISOLATED FORM;FINAL FORM;INITIAL FORM;MEDIAL FORM",
  "FB9A ARABIC LETTER NGOEH |ISOLATED FORM;FINAL FORM;INITIAL FORM;MEDIAL FORM",
  "FB9E ARABIC LETTER NOON GHUNNA |ISOLATED FORM;FINAL FORM",
  "FBA0 ARABIC LETTER RNOON |ISOLATED FORM;FINAL FORM;INITIAL FORM;MEDIAL FORM",
  "FBA4 ARABIC LETTER HEH WITH YEH ABOVE |ISOLATED FORM;FINAL FORM",
  "FBA6 ARABIC LETTER HEH GOAL |ISOLATED FORM;FINAL FORM;INITIAL FORM;MEDIAL FORM",
  "FBAA ARABIC LETTER HEH DOACHASHMEE |ISOLATED FORM;FINAL FORM;INITIAL FORM;MEDIAL FORM",
  "FBAE ARABIC LETTER YEH BARREE |ISOLATED FORM;FINAL FORM",
  "FBB0 ARABIC LETTER YEH BARREE WITH HAMZA ABOVE |ISOLATED FORM;FINAL FORM",
  "FBB2 ARABIC SYMBOL |DOT ABOVE;DOT BELOW;TWO DOTS ABOVE;TWO DOTS BELOW",
  "FBB6 ARABIC SYMBOL THREE DOTS |ABOVE;BELOW;POINTING DOWNWARDS ABOVE;POINTING DOWNWARDS BELOW",
  "FBBA ARABIC SYMBOL |FOUR DOTS ABOVE;FOUR DOTS BELOW;DOUBLE VERTICAL BAR BELOW",
  "FBBD ARABIC SYMBOL TWO DOTS VERTICALLY |ABOVE;BELOW",
  "FBBF ARABIC SYMBOL |RING;SMALL TAH ABOVE;SMALL TAH BELOW;WASLA ABOVE",
  "FBD3 ARABIC LETTER NG |ISOLATED FORM;FINAL FORM;INITIAL FORM;MEDIAL FORM",
  "FBD7 ARABIC LETTER |U ISOLATED FORM;U FINAL FORM;OE ISOLATED FORM;OE FINAL FORM",
  "FBDB ARABIC LETTER YU |ISOLATED FORM;FINAL FORM",
  "FBDD ARABIC LETTER |U WITH HAMZA ABOVE ISOLATED FORM;VE ISOLATED FORM;VE FINAL FORM",
  "FBE0 ARABIC LETTER KIRGHIZ |OE ISOLATED FORM;OE FINAL FORM;YU ISOLATED FORM;YU FINAL FORM",
  "FBE4 ARABIC LETTER E |ISOLATED FORM;FINAL FORM;INITIAL FORM;MEDIAL FORM",
  "FBE8 ARABIC LETTER UIGHUR KAZAKH KIRGHIZ ALEF MAKSURA |INITIAL FORM;MEDIAL FORM",
  "FBEA ARABIC LIGATURE YEH WITH HAMZA ABOVE WITH ALEF |ISOLATED FORM;FINAL FORM",
  "FBEC ARABIC LIGATURE YEH WITH HAMZA ABOVE WITH AE |ISOLATED FORM;FINAL FORM",
  "FBEE ARABIC LIGATURE YEH WITH HAMZA ABOVE WITH WAW |ISOLATED FORM;FINAL FORM",
  "FBF0 ARABIC LIGATURE YEH WITH HAMZA ABOVE WITH |U ISOLATED FORM;U FINAL FORM;OE ISOLATED FORM",
  "FBF3 ARABIC LIGATURE YEH WITH HAMZA ABOVE WITH |OE FINAL FORM;YU ISOLATED FORM;YU FINAL FORM",
  "FBF6 ARABIC LIGATURE YEH WITH HAMZA ABOVE WITH E |ISOLATED FORM;FINAL FORM;INITIAL FORM",
  "FBF9 ARABIC LIGATURE UIGHUR KIRGHIZ YEH WITH HAMZA ABOVE WITH ALEF MAKSURA ISOLATED |FORM",
  "FBFA ARABIC LIGATURE UIGHUR KIRGHIZ YEH WITH HAMZA ABOVE WITH ALEF MAKSURA FINAL |FORM",
  "FBFB ARABIC LIGATURE UIGHUR KIRGHIZ YEH WITH HAMZA ABOVE WITH ALEF MAKSURA INITIAL |FORM",
  "FBFC ARABIC LETTER FARSI YEH |ISOLATED FORM;FINAL FORM;INITIAL FORM;MEDIAL FORM",
  "FC00 ARABIC LIGATURE YEH WITH HAMZA ABOVE WITH JEEM ISOLATED |FORM",
  "FC01 ARABIC LIGATURE YEH WITH HAMZA ABOVE WITH |HAH ISOLATED FORM;MEEM ISOLATED FORM",
  "FC03 ARABIC LIGATURE YEH WITH HAMZA ABOVE WITH |ALEF MAKSURA ISOLATED FORM;YEH ISOLATED FORM",
  "FC05 ARABIC LIGATURE BEH WITH |JEEM ISOLATED FORM;HAH ISOLATED FORM;KHAH ISOLATED FORM",
  "FC08 ARABIC LIGATURE BEH WITH |MEEM ISOLATED FORM;ALEF MAKSURA ISOLATED FORM;YEH ISOLATED FORM",
  "FC0B ARABIC LIGATURE TEH WITH |JEEM ISOLATED FORM;HAH ISOLATED FORM;KHAH ISOLATED FORM",
  "FC0E ARABIC LIGATURE TEH WITH |MEEM ISOLATED FORM;ALEF MAKSURA ISOLATED FORM;YEH ISOLATED FORM",
  "FC11 ARABIC LIGATURE THEH WITH |JEEM ISOLATED FORM;MEEM ISOLATED FORM",
  "FC13 ARABIC LIGATURE THEH WITH |ALEF MAKSURA ISOLATED FORM;YEH ISOLATED FORM",
  "FC15 ARABIC LIGATURE JEEM WITH |HAH ISOLATED FORM;MEEM ISOLATED FORM",
  "FC17 ARABIC LIGATURE HAH WITH |JEEM ISOLATED FORM;MEEM ISOLATED FORM",
  "FC19 ARABIC LIGATURE KHAH WITH |JEEM ISOLATED FORM;HAH ISOLATED FORM;MEEM ISOLATED FORM",
  "FC1C ARABIC LIGATURE SEEN WITH JEEM ISOLATED |FORM",
  "FC1D ARABIC LIGATURE SEEN WITH |HAH ISOLATED FORM;KHAH ISOLATED FORM;MEEM ISOLATED FORM",
  "FC20 ARABIC LIGATURE SAD WITH |HAH ISOLATED FORM;MEEM ISOLATED FORM",
  "FC22 ARABIC LIGATURE DAD WITH |JEEM ISOLATED FORM;HAH ISOLATED FORM;KHAH ISOLATED FORM",
  "FC25 ARABIC LIGATURE |DAD WITH MEEM ISOLATED FORM;TAH WITH HAH ISOLATED FORM",
  "FC27 ARABIC LIGATURE |TAH WITH MEEM ISOLATED FORM;ZAH WITH MEEM ISOLATED FORM",
  "FC29 ARABIC LIGATURE AIN WITH |JEEM ISOLATED FORM;MEEM ISOLATED FORM",
  "FC2B ARABIC LIGATURE GHAIN WITH |JEEM ISOLATED FORM;MEEM ISOLATED FORM",
  "FC2D ARABIC LIGATURE FEH WITH |JEEM ISOLATED FORM;HAH ISOLATED FORM;KHAH ISOLATED FORM",
  "FC30 ARABIC LIGATURE FEH WITH |MEEM ISOLATED FORM;ALEF MAKSURA ISOLATED FORM;YEH ISOLATED FORM",
  "FC33 ARABIC LIGATURE QAF WITH HAH ISOLATED |FORM",
  "FC34 ARABIC LIGATURE QAF WITH |MEEM ISOLATED FORM;ALEF MAKSURA ISOLATED FORM;YEH ISOLATED FORM",
  "FC37 ARABIC LIGATURE KAF WITH |ALEF ISOLATED FORM;JEEM ISOLATED FORM",
  "FC39 ARABIC LIGATURE KAF WITH |HAH ISOLATED FORM;KHAH ISOLATED FORM;LAM ISOLATED FORM",
  "FC3C ARABIC LIGATURE KAF WITH |MEEM ISOLATED FORM;ALEF MAKSURA ISOLATED FORM;YEH ISOLATED FORM",
  "FC3F ARABIC LIGATURE LAM WITH |JEEM ISOLATED FORM;HAH ISOLATED FORM;KHAH ISOLATED FORM",
  "FC42 ARABIC LIGATURE LAM WITH |MEEM ISOLATED FORM;ALEF MAKSURA ISOLATED FORM;YEH ISOLATED FORM",
  "FC45 ARABIC LIGATURE MEEM WITH JEEM ISOLATED |FORM",
  "FC46 ARABIC LIGATURE MEEM WITH |HAH ISOLATED FORM;KHAH ISOLATED FORM;MEEM ISOLATED FORM",
  "FC49 ARABIC LIGATURE MEEM WITH |ALEF MAKSURA ISOLATED FORM;YEH ISOLATED FORM",
  "FC4B ARABIC LIGATURE NOON WITH |JEEM ISOLATED FORM;HAH ISOLATED FORM;KHAH ISOLATED FORM",
  "FC4E ARABIC LIGATURE NOON WITH |MEEM ISOLATED FORM;ALEF MAKSURA ISOLATED FORM",
  "FC50 ARABIC LIGATURE |NOON WITH YEH ISOLATED FORM;HEH WITH JEEM ISOLATED FORM",
  "FC52 ARABIC LIGATURE HEH WITH |MEEM ISOLATED FORM;ALEF MAKSURA ISOLATED FORM;YEH ISOLATED FORM",
  "FC55 ARABIC LIGATURE YEH WITH |JEEM ISOLATED FORM;HAH ISOLATED FORM;KHAH ISOLATED FORM",
  "FC58 ARABIC LIGATURE YEH WITH |MEEM ISOLATED FORM;ALEF MAKSURA ISOLATED FORM;YEH ISOLATED FORM",
  "FC5B ARABIC LIGATURE THAL WITH SUPERSCRIPT ALEF ISOLATED |FORM",
  "FC5C ARABIC LIGATURE REH WITH SUPERSCRIPT ALEF ISOLATED |FORM",
  "FC5D ARABIC LIGATURE ALEF MAKSURA WITH SUPERSCRIPT ALEF ISOLATED |FORM",
  "FC5E ARABIC LIGATURE SHADDA WITH |DAMMATAN ISOLATED FORM;KASRATAN ISOLATED FORM",
  "FC60 ARABIC LIGATURE SHADDA WITH |FATHA ISOLATED FORM;DAMMA ISOLATED FORM",
  "FC62 ARABIC LIGATURE SHADDA WITH |KASRA ISOLATED FORM;SUPERSCRIPT ALEF ISOLATED FORM",
  "FC64 ARABIC LIGATURE YEH WITH HAMZA ABOVE WITH |REH FINAL FORM;ZAIN FINAL FORM",
  "FC66 ARABIC LIGATURE YEH WITH HAMZA ABOVE WITH |MEEM FINAL FORM;NOON FINAL FORM",
  "FC68 ARABIC LIGATURE YEH WITH HAMZA ABOVE WITH |ALEF MAKSURA FINAL FORM;YEH FINAL FORM",
  "FC6A ARABIC LIGATURE BEH WITH |REH FINAL FORM;ZAIN FINAL FORM;MEEM FINAL FORM",
  "FC6D ARABIC LIGATURE BEH WITH |NOON FINAL FORM;ALEF MAKSURA FINAL FORM;YEH FINAL FORM",
  "FC70 ARABIC LIGATURE TEH WITH |REH FINAL FORM;ZAIN FINAL FORM;MEEM FINAL FORM",
  "FC73 ARABIC LIGATURE TEH WITH |NOON FINAL FORM;ALEF MAKSURA FINAL FORM;YEH FINAL FORM",
  "FC76 ARABIC LIGATURE THEH WITH |REH FINAL FORM;ZAIN FINAL FORM;MEEM FINAL FORM",
  "FC79 ARABIC LIGATURE THEH WITH |NOON FINAL FORM;ALEF MAKSURA FINAL FORM;YEH FINAL FORM",
  "FC7C ARABIC LIGATURE FEH WITH |ALEF MAKSURA FINAL FORM;YEH FINAL FORM",
  "FC7E ARABIC LIGATURE QAF WITH |ALEF MAKSURA FINAL FORM;YEH FINAL FORM",
  "FC80 ARABIC LIGATURE KAF WITH |ALEF FINAL FORM;LAM FINAL FORM",
  "FC82 ARABIC LIGATURE KAF WITH |MEEM FINAL FORM;ALEF MAKSURA FINAL FORM;YEH FINAL FORM",
  "FC85 ARABIC LIGATURE LAM WITH |MEEM FINAL FORM;ALEF MAKSURA FINAL FORM;YEH FINAL FORM",
  "FC88 ARABIC LIGATURE MEEM WITH |ALEF FINAL FORM;MEEM FINAL FORM",
  "FC8A ARABIC LIGATURE NOON WITH |REH FINAL FORM;ZAIN FINAL FORM;MEEM FINAL FORM",
  "FC8D ARABIC LIGATURE NOON WITH |NOON FINAL FORM;ALEF MAKSURA FINAL FORM;YEH FINAL FORM",
  "FC90 ARABIC LIGATURE ALEF MAKSURA WITH SUPERSCRIPT ALEF FINAL |FORM",
  "FC91 ARABIC LIGATURE YEH WITH |REH FINAL FORM;ZAIN FINAL FORM;MEEM FINAL FORM",
  "FC94 ARABIC LIGATURE YEH WITH |NOON FINAL FORM;ALEF MAKSURA FINAL FORM;YEH FINAL FORM",
  "FC97 ARABIC LIGATURE YEH WITH HAMZA ABOVE WITH |JEEM INITIAL FORM;HAH INITIAL FORM",
  "FC99 ARABIC LIGATURE YEH WITH HAMZA ABOVE WITH |KHAH INITIAL FORM;MEEM INITIAL FORM",
  "FC9B ARABIC LIGATURE |YEH WITH HAMZA ABOVE WITH HEH INITIAL FORM;BEH WITH JEEM INITIAL FORM",
  "FC9D ARABIC LIGATURE BEH WITH |HAH INITIAL FORM;KHAH INITIAL FORM;MEEM INITIAL FORM",
  "FCA0 ARABIC LIGATURE |BEH WITH HEH INITIAL FORM;TEH WITH JEEM INITIAL FORM",
  "FCA2 ARABIC LIGATURE TEH WITH |HAH INITIAL FORM;KHAH INITIAL FORM;MEEM INITIAL FORM",
  "FCA5 ARABIC LIGATURE |TEH WITH HEH INITIAL FORM;THEH WITH MEEM INITIAL FORM",
  "FCA7 ARABIC LIGATURE JEEM WITH |HAH INITIAL FORM;MEEM INITIAL FORM",
  "FCA9 ARABIC LIGATURE HAH WITH |JEEM INITIAL FORM;MEEM INITIAL FORM",
  "FCAB ARABIC LIGATURE KHAH WITH |JEEM INITIAL FORM;MEEM INITIAL FORM",
  "FCAD ARABIC LIGATURE SEEN WITH JEEM INITIAL |FORM",
  "FCAE ARABIC LIGATURE SEEN WITH |HAH INITIAL FORM;KHAH INITIAL FORM;MEEM INITIAL FORM",
  "FCB1 ARABIC LIGATURE SAD WITH |HAH INITIAL FORM;KHAH INITIAL FORM;MEEM INITIAL FORM",
  "FCB4 ARABIC LIGATURE DAD WITH |JEEM INITIAL FORM;HAH INITIAL FORM;KHAH INITIAL FORM",
  "FCB7 ARABIC LIGATURE |DAD WITH MEEM INITIAL FORM;TAH WITH HAH INITIAL FORM",
  "FCB9 ARABIC LIGATURE |ZAH WITH MEEM INITIAL FORM;AIN WITH JEEM INITIAL FORM",
  "FCBB ARABIC LIGATURE |AIN WITH MEEM INITIAL FORM;GHAIN WITH JEEM INITIAL FORM",
  "FCBD ARABIC LIGATURE |GHAIN WITH MEEM INITIAL FORM;FEH WITH JEEM INITIAL FORM",
  "FCBF ARABIC LIGATURE FEH WITH |HAH INITIAL FORM;KHAH INITIAL FORM;MEEM INITIAL FORM",
  "FCC2 ARABIC LIGATURE QAF WITH |HAH INITIAL FORM;MEEM INITIAL FORM",
  "FCC4 ARABIC LIGATURE KAF WITH |JEEM INITIAL FORM;HAH INITIAL FORM",
  "FCC6 ARABIC LIGATURE KAF WITH |KHAH INITIAL FORM;LAM INITIAL FORM;MEEM INITIAL FORM",
  "FCC9 ARABIC LIGATURE LAM WITH |JEEM INITIAL FORM;HAH INITIAL FORM",
  "FCCB ARABIC LIGATURE LAM WITH |KHAH INITIAL FORM;MEEM INITIAL FORM;HEH INITIAL FORM",
  "FCCE ARABIC LIGATURE MEEM WITH |JEEM INITIAL FORM;HAH INITIAL FORM;KHAH INITIAL FORM",
  "FCD1 ARABIC LIGATURE |MEEM WITH MEEM INITIAL FORM;NOON WITH JEEM INITIAL FORM",
  "FCD3 ARABIC LIGATURE NOON WITH |HAH INITIAL FORM;KHAH INITIAL FORM;MEEM INITIAL FORM",
  "FCD6 ARABIC LIGATURE |NOON WITH HEH INITIAL FORM;HEH WITH JEEM INITIAL FORM",
  "FCD8 ARABIC LIGATURE HEH WITH |MEEM INITIAL FORM;SUPERSCRIPT ALEF INITIAL FORM",
  "FCDA ARABIC LIGATURE YEH WITH |JEEM INITIAL FORM;HAH INITIAL FORM",
  "FCDC ARABIC LIGATURE YEH WITH |KHAH INITIAL FORM;MEEM INITIAL FORM;HEH INITIAL FORM",
  "FCDF ARABIC LIGATURE YEH WITH HAMZA ABOVE WITH |MEEM MEDIAL FORM;HEH MEDIAL FORM",
  "FCE1 ARABIC LIGATURE BEH WITH |MEEM MEDIAL FORM;HEH MEDIAL FORM",
  "FCE3 ARABIC LIGATURE TEH WITH |MEEM MEDIAL FORM;HEH MEDIAL FORM",
  "FCE5 ARABIC LIGATURE THEH WITH |MEEM MEDIAL FORM;HEH MEDIAL FORM",
  "FCE7 ARABIC LIGATURE SEEN WITH |MEEM MEDIAL FORM;HEH MEDIAL FORM",
  "FCE9 ARABIC LIGATURE SHEEN WITH |MEEM MEDIAL FORM;HEH MEDIAL FORM",
  "FCEB ARABIC LIGATURE KAF WITH |LAM MEDIAL FORM;MEEM MEDIAL FORM",
  "FCED ARABIC LIGATURE LAM WITH MEEM MEDIAL |FORM",
  "FCEE ARABIC LIGATURE NOON WITH |MEEM MEDIAL FORM;HEH MEDIAL FORM",
  "FCF0 ARABIC LIGATURE YEH WITH |MEEM MEDIAL FORM;HEH MEDIAL FORM",
  "FCF2 ARABIC LIGATURE SHADDA WITH |FATHA MEDIAL FORM;DAMMA MEDIAL FORM;KASRA MEDIAL FORM",
  "FCF5 ARABIC LIGATURE TAH WITH |ALEF MAKSURA ISOLATED FORM;YEH ISOLATED FORM",
  "FCF7 ARABIC LIGATURE AIN WITH |ALEF MAKSURA ISOLATED FORM;YEH ISOLATED FORM",
  "FCF9 ARABIC LIGATURE GHAIN WITH |ALEF MAKSURA ISOLATED FORM;YEH ISOLATED FORM",
  "FCFB ARABIC LIGATURE SEEN WITH |ALEF MAKSURA ISOLATED FORM;YEH ISOLATED FORM",
  "FCFD ARABIC LIGATURE SHEEN WITH |ALEF MAKSURA ISOLATED FORM;YEH ISOLATED FORM",
  "FCFF ARABIC LIGATURE HAH WITH |ALEF MAKSURA ISOLATED FORM;YEH ISOLATED FORM",
  "FD01 ARABIC LIGATURE JEEM WITH |ALEF MAKSURA ISOLATED FORM;YEH ISOLATED FORM",
  "FD03 ARABIC LIGATURE KHAH WITH |ALEF MAKSURA ISOLATED FORM;YEH ISOLATED FORM",
  "FD05 ARABIC LIGATURE SAD WITH |ALEF MAKSURA ISOLATED FORM;YEH ISOLATED FORM",
  "FD07 ARABIC LIGATURE DAD WITH |ALEF MAKSURA ISOLATED FORM;YEH ISOLATED FORM",
  "FD09 ARABIC LIGATURE SHEEN WITH |JEEM ISOLATED FORM;HAH ISOLATED FORM",
  "FD0B ARABIC LIGATURE SHEEN WITH |KHAH ISOLATED FORM;MEEM ISOLATED FORM;REH ISOLATED FORM",
  "FD0E ARABIC LIGATURE SEEN WITH REH ISOLATED |FORM",
  "FD0F ARABIC LIGATURE |SAD WITH REH ISOLATED FORM;DAD WITH REH ISOLATED FORM",
  "FD11 ARABIC LIGATURE TAH WITH |ALEF MAKSURA FINAL FORM;YEH FINAL FORM",
  "FD13 ARABIC LIGATURE AIN WITH |ALEF MAKSURA FINAL FORM;YEH FINAL FORM",
  "FD15 ARABIC LIGATURE GHAIN WITH |ALEF MAKSURA FINAL FORM;YEH FINAL FORM",
  "FD17 ARABIC LIGATURE SEEN WITH |ALEF MAKSURA FINAL FORM;YEH FINAL FORM",
  "FD19 ARABIC LIGATURE SHEEN WITH |ALEF MAKSURA FINAL FORM;YEH FINAL FORM",
  "FD1B ARABIC LIGATURE HAH WITH |ALEF MAKSURA FINAL FORM;YEH FINAL FORM",
  "FD1D ARABIC LIGATURE JEEM WITH |ALEF MAKSURA FINAL FORM;YEH FINAL FORM",
  "FD1F ARABIC LIGATURE KHAH WITH |ALEF MAKSURA FINAL FORM;YEH FINAL FORM",
  "FD21 ARABIC LIGATURE SAD WITH |ALEF MAKSURA FINAL FORM;YEH FINAL FORM",
  "FD23 ARABIC LIGATURE DAD WITH |ALEF MAKSURA FINAL FORM;YEH FINAL FORM",
  "FD25 ARABIC LIGATURE SHEEN WITH JEEM FINAL |FORM",
  "FD26 ARABIC LIGATURE SHEEN WITH |HAH FINAL FORM;KHAH FINAL FORM;MEEM FINAL FORM;REH FINAL FORM",
  "FD2A ARABIC LIGATURE |SEEN WITH REH FINAL FORM;SAD WITH REH FINAL FORM;DAD WITH REH FINAL FORM",
  "FD2D ARABIC LIGATURE SHEEN WITH |JEEM INITIAL FORM;HAH INITIAL FORM;KHAH INITIAL FORM",
  "FD30 ARABIC LIGATURE |SHEEN WITH MEEM INITIAL FORM;SEEN WITH HEH INITIAL FORM",
  "FD32 ARABIC LIGATURE |SHEEN WITH HEH INITIAL FORM;TAH WITH MEEM INITIAL FORM",
  "FD34 ARABIC LIGATURE SEEN WITH |JEEM MEDIAL FORM;HAH MEDIAL FORM;KHAH MEDIAL FORM",
  "FD37 ARABIC LIGATURE SHEEN WITH |JEEM MEDIAL FORM;HAH MEDIAL FORM;KHAH MEDIAL FORM",
  "FD3A ARABIC LIGATURE |TAH WITH MEEM MEDIAL FORM;ZAH WITH MEEM MEDIAL FORM",
  "FD3C ARABIC LIGATURE ALEF WITH FATHATAN |FINAL FORM;ISOLATED FORM",
  "FD3E |ORNATE LEFT PARENTHESIS;ORNATE RIGHT PARENTHESIS;ARABIC LIGATURE RAHIMAHU ALLAAH",
  "FD41 ARABIC LIGATURE RADI ALLAAHU |ANH;ANHAA;ANHUM;ANHUMAA;ANHUNNA",
  "FD46 ARABIC LIGATURE |SALLALLAAHU ALAYHI WA-AALIH;ALAYHI AS-SALAAM",
  "FD48 ARABIC LIGATURE |ALAYHIM AS-SALAAM;ALAYHIMAA AS-SALAAM;ALAYHI AS-SALAATU WAS-SALAAM",
  "FD4B ARABIC LIGATURE |QUDDISA SIRRAH;SALLALLAHU ALAYHI WAAALIHEE WA-SALLAM",
  "FD4D ARABIC LIGATURE |ALAYHAA AS-SALAAM;TABAARAKA WA-TAAALAA",
  "FD4F ARABIC LIGATURE |RAHIMAHUM ALLAAH;TEH WITH JEEM WITH MEEM INITIAL FORM",
  "FD51 ARABIC LIGATURE TEH WITH HAH WITH |JEEM FINAL FORM;JEEM INITIAL FORM;MEEM INITIAL FORM",
  "FD54 ARABIC LIGATURE TEH WITH KHAH WITH MEEM INITIAL |FORM",
  "FD55 ARABIC LIGATURE TEH WITH MEEM WITH |JEEM INITIAL FORM;HAH INITIAL FORM;KHAH INITIAL FORM",
  "FD58 ARABIC LIGATURE JEEM WITH MEEM WITH HAH |FINAL FORM;INITIAL FORM",
  "FD5A ARABIC LIGATURE HAH WITH MEEM WITH |YEH FINAL FORM;ALEF MAKSURA FINAL FORM",
  "FD5C ARABIC LIGATURE SEEN WITH HAH WITH JEEM INITIAL |FORM",
  "FD5D ARABIC LIGATURE SEEN WITH JEEM WITH |HAH INITIAL FORM;ALEF MAKSURA FINAL FORM",
  "FD5F ARABIC LIGATURE SEEN WITH MEEM WITH |HAH FINAL FORM;HAH INITIAL FORM;JEEM INITIAL FORM",
  "FD62 ARABIC LIGATURE SEEN WITH MEEM WITH MEEM |FINAL FORM;INITIAL FORM",
  "FD64 ARABIC LIGATURE SAD WITH HAH WITH HAH |FINAL FORM;INITIAL FORM",
  "FD66 ARABIC LIGATURE SAD WITH MEEM WITH MEEM FINAL |FORM",
  "FD67 ARABIC LIGATURE SHEEN WITH HAH WITH MEEM |FINAL FORM;INITIAL FORM",
  "FD69 ARABIC LIGATURE SHEEN WITH |JEEM WITH YEH FINAL FORM;MEEM WITH KHAH FINAL FORM",
  "FD6B ARABIC LIGATURE SHEEN WITH MEEM WITH |KHAH INITIAL FORM;MEEM FINAL FORM;MEEM INITIAL FORM",
  "FD6E ARABIC LIGATURE DAD WITH |HAH WITH ALEF MAKSURA FINAL FORM;KHAH WITH MEEM FINAL FORM",
  "FD70 ARABIC LIGATURE |DAD WITH KHAH WITH MEEM INITIAL FORM;TAH WITH MEEM WITH HAH FINAL FORM",
  "FD72 ARABIC LIGATURE TAH WITH MEEM WITH |HAH INITIAL FORM;MEEM INITIAL FORM;YEH FINAL FORM",
  "FD75 ARABIC LIGATURE AIN WITH |JEEM WITH MEEM FINAL FORM;MEEM WITH MEEM FINAL FORM",
  "FD77 ARABIC LIGATURE AIN WITH MEEM WITH |MEEM INITIAL FORM;ALEF MAKSURA FINAL FORM",
  "FD79 ARABIC LIGATURE GHAIN WITH MEEM WITH MEEM FINAL |FORM",
  "FD7A ARABIC LIGATURE GHAIN WITH MEEM WITH |YEH FINAL FORM;ALEF MAKSURA FINAL FORM",
  "FD7C ARABIC LIGATURE FEH WITH KHAH WITH MEEM |FINAL FORM;INITIAL FORM",
  "FD7E ARABIC LIGATURE QAF WITH MEEM WITH |HAH FINAL FORM;MEEM FINAL FORM",
  "FD80 ARABIC LIGATURE LAM WITH HAH WITH |MEEM FINAL FORM;YEH FINAL FORM;ALEF MAKSURA FINAL FORM",
  "FD83 ARABIC LIGATURE LAM WITH JEEM WITH JEEM |INITIAL FORM;FINAL FORM",
  "FD85 ARABIC LIGATURE LAM WITH KHAH WITH MEEM |FINAL FORM;INITIAL FORM",
  "FD87 ARABIC LIGATURE LAM WITH MEEM WITH HAH |FINAL FORM;INITIAL FORM",
  "FD89 ARABIC LIGATURE MEEM WITH HAH WITH |JEEM INITIAL FORM;MEEM INITIAL FORM;YEH FINAL FORM",
  "FD8C ARABIC LIGATURE MEEM WITH JEEM WITH |HAH INITIAL FORM;MEEM INITIAL FORM",
  "FD8E ARABIC LIGATURE MEEM WITH KHAH WITH |JEEM INITIAL FORM;MEEM INITIAL FORM",
  "FD92 ARABIC LIGATURE MEEM WITH JEEM WITH KHAH INITIAL |FORM",
  "FD93 ARABIC LIGATURE HEH WITH MEEM WITH |JEEM INITIAL FORM;MEEM INITIAL FORM",
  "FD95 ARABIC LIGATURE NOON WITH HAH WITH |MEEM INITIAL FORM;ALEF MAKSURA FINAL FORM",
  "FD97 ARABIC LIGATURE NOON WITH JEEM WITH MEEM |FINAL FORM;INITIAL FORM",
  "FD99 ARABIC LIGATURE NOON WITH JEEM WITH ALEF MAKSURA FINAL |FORM",
  "FD9A ARABIC LIGATURE NOON WITH MEEM WITH |YEH FINAL FORM;ALEF MAKSURA FINAL FORM",
  "FD9C ARABIC LIGATURE YEH WITH MEEM WITH MEEM |FINAL FORM;INITIAL FORM",
  "FD9E ARABIC LIGATURE BEH WITH KHAH WITH YEH FINAL |FORM",
  "FD9F ARABIC LIGATURE TEH WITH JEEM WITH |YEH FINAL FORM;ALEF MAKSURA FINAL FORM",
  "FDA1 ARABIC LIGATURE TEH WITH KHAH WITH |YEH FINAL FORM;ALEF MAKSURA FINAL FORM",
  "FDA3 ARABIC LIGATURE TEH WITH MEEM WITH |YEH FINAL FORM;ALEF MAKSURA FINAL FORM",
  "FDA5 ARABIC LIGATURE JEEM WITH |MEEM WITH YEH FINAL FORM;HAH WITH ALEF MAKSURA FINAL FORM",
  "FDA7 ARABIC LIGATURE JEEM WITH MEEM WITH ALEF MAKSURA FINAL |FORM",
  "FDA8 ARABIC LIGATURE SEEN WITH KHAH WITH ALEF MAKSURA FINAL |FORM",
  "FDA9 ARABIC LIGATURE SAD WITH HAH WITH YEH FINAL |FORM",
  "FDAA ARABIC LIGATURE |SHEEN WITH HAH WITH YEH FINAL FORM;DAD WITH HAH WITH YEH FINAL FORM",
  "FDAC ARABIC LIGATURE LAM WITH |JEEM WITH YEH FINAL FORM;MEEM WITH YEH FINAL FORM",
  "FDAE ARABIC LIGATURE YEH WITH |HAH WITH YEH FINAL FORM;JEEM WITH YEH FINAL FORM",
  "FDB0 ARABIC LIGATURE |YEH WITH MEEM WITH YEH FINAL FORM;MEEM WITH MEEM WITH YEH FINAL FORM",
  "FDB2 ARABIC LIGATURE |QAF WITH MEEM WITH YEH FINAL FORM;NOON WITH HAH WITH YEH FINAL FORM",
  "FDB4 ARABIC LIGATURE |QAF WITH MEEM WITH HAH INITIAL FORM;LAM WITH HAH WITH MEEM INITIAL FORM",
  "FDB6 ARABIC LIGATURE |AIN WITH MEEM WITH YEH FINAL FORM;KAF WITH MEEM WITH YEH FINAL FORM",
  "FDB8 ARABIC LIGATURE |NOON WITH JEEM WITH HAH INITIAL FORM;MEEM WITH KHAH WITH YEH FINAL FORM",
  "FDBA ARABIC LIGATURE |LAM WITH JEEM WITH MEEM INITIAL FORM;KAF WITH MEEM WITH MEEM FINAL FORM",
  "FDBC ARABIC LIGATURE |LAM WITH JEEM WITH MEEM FINAL FORM;NOON WITH JEEM WITH HAH FINAL FORM",
  "FDBE ARABIC LIGATURE |JEEM WITH HAH WITH YEH FINAL FORM;HAH WITH JEEM WITH YEH FINAL FORM",
  "FDC0 ARABIC LIGATURE |MEEM WITH JEEM WITH YEH FINAL FORM;FEH WITH MEEM WITH YEH FINAL FORM",
  "FDC2 ARABIC LIGATURE |BEH WITH HAH WITH YEH FINAL FORM;KAF WITH MEEM WITH MEEM INITIAL FORM",
  "FDC4 ARABIC LIGATURE AIN WITH JEEM WITH MEEM INITIAL |FORM",
  "FDC5 ARABIC LIGATURE SAD WITH MEEM WITH MEEM INITIAL |FORM",
  "FDC6 ARABIC LIGATURE |SEEN WITH KHAH WITH YEH FINAL FORM;NOON WITH JEEM WITH YEH FINAL FORM",
  "FDCF ARABIC LIGATURE SALAAMUHU |ALAYNAA",
  "FDF0 ARABIC LIGATURE SALLA USED AS KORANIC STOP SIGN ISOLATED |FORM",
  "FDF1 ARABIC LIGATURE |QALA USED AS KORANIC STOP SIGN ISOLATED FORM;ALLAH ISOLATED FORM",
  "FDF3 ARABIC LIGATURE |AKBAR ISOLATED FORM;MOHAMMAD ISOLATED FORM;SALAM ISOLATED FORM",
  "FDF6 ARABIC LIGATURE |RASOUL ISOLATED FORM;ALAYHE ISOLATED FORM;WASALLAM ISOLATED FORM",
  "FDF9 ARABIC LIGATURE |SALLA ISOLATED FORM;SALLALLAHOU ALAYHE WASALLAM;JALLAJALALOUHOU",
  "FDFC RIAL |SIGN",
  "FDFD ARABIC LIGATURE |BISMILLAH AR-RAHMAN AR-RAHEEM;SUBHAANAHU WA TAAALAA;AZZA WA JALL",
  "FE00 VARIATION SELECTOR-|1;2;3;4;5;6;7;8;9;10;11;12;13;14;15;16",
  "FE10 PRESENTATION FORM FOR VERTICAL |COMMA;IDEOGRAPHIC COMMA",
  "FE12 PRESENTATION FORM FOR VERTICAL |IDEOGRAPHIC FULL STOP;COLON;SEMICOLON;EXCLAMATION MARK",
  "FE16 PRESENTATION FORM FOR VERTICAL |QUESTION MARK;LEFT WHITE LENTICULAR BRACKET",
  "FE18 PRESENTATION FORM FOR VERTICAL |RIGHT WHITE LENTICULAR BRAKCET;HORIZONTAL ELLIPSIS",
  "FE20 COMBINING LIGATURE |LEFT HALF;RIGHT HALF",
  "FE22 COMBINING DOUBLE TILDE |LEFT HALF;RIGHT HALF",
  "FE24 COMBINING |MACRON LEFT HALF;MACRON RIGHT HALF;CONJOINING MACRON;LIGATURE LEFT HALF BELOW",
  "FE28 COMBINING |LIGATURE RIGHT HALF BELOW;TILDE LEFT HALF BELOW;TILDE RIGHT HALF BELOW",
  "FE2B COMBINING |MACRON LEFT HALF BELOW;MACRON RIGHT HALF BELOW;CONJOINING MACRON BELOW",
  "FE2E COMBINING CYRILLIC TITLO |LEFT HALF;RIGHT HALF",
  "FE30 PRESENTATION FORM FOR VERTICAL TWO DOT |LEADER",
  "FE31 PRESENTATION FORM FOR VERTICAL |EM DASH;EN DASH;LOW LINE;WAVY LOW LINE;LEFT PARENTHESIS",
  "FE36 PRESENTATION FORM FOR VERTICAL |RIGHT PARENTHESIS;LEFT CURLY BRACKET;RIGHT CURLY BRACKET",
  "FE39 PRESENTATION FORM FOR VERTICAL |LEFT TORTOISE SHELL BRACKET;RIGHT TORTOISE SHELL BRACKET",
  "FE3B PRESENTATION FORM FOR VERTICAL LEFT BLACK LENTICULAR |BRACKET",
  "FE3C PRESENTATION FORM FOR VERTICAL |RIGHT BLACK LENTICULAR BRACKET;LEFT DOUBLE ANGLE BRACKET",
  "FE3E PRESENTATION FORM FOR VERTICAL |RIGHT DOUBLE ANGLE BRACKET;LEFT ANGLE BRACKET",
  "FE40 PRESENTATION FORM FOR VERTICAL |RIGHT ANGLE BRACKET;LEFT CORNER BRACKET",
  "FE42 PRESENTATION FORM FOR VERTICAL |RIGHT CORNER BRACKET;LEFT WHITE CORNER BRACKET",
  "FE44 |PRESENTATION FORM FOR VERTICAL RIGHT WHITE CORNER BRACKET;SESAME DOT;WHITE SESAME DOT",
  "FE47 PRESENTATION FORM FOR VERTICAL |LEFT SQUARE BRACKET;RIGHT SQUARE BRACKET",
  "FE49 |DASHED OVERLINE;CENTRELINE OVERLINE;WAVY OVERLINE;DOUBLE WAVY OVERLINE;DASHED LOW LINE",
  "FE4E |CENTRELINE LOW LINE;WAVY LOW LINE;SMALL COMMA;SMALL IDEOGRAPHIC COMMA;SMALL FULL STOP",
  "FE54 SMALL |SEMICOLON;COLON;QUESTION MARK;EXCLAMATION MARK",
  "FE58 SMALL |EM DASH;LEFT PARENTHESIS;RIGHT PARENTHESIS;LEFT CURLY BRACKET;RIGHT CURLY BRACKET",
  "FE5D SMALL |LEFT TORTOISE SHELL BRACKET;RIGHT TORTOISE SHELL BRACKET;NUMBER SIGN;AMPERSAND",
  "FE61 SMALL |ASTERISK;PLUS SIGN;HYPHEN-MINUS;LESS-THAN SIGN;GREATER-THAN SIGN;EQUALS SIGN",
  "FE68 SMALL |REVERSE SOLIDUS;DOLLAR SIGN;PERCENT SIGN;COMMERCIAL AT",
  "FE70 ARABIC |FATHATAN ISOLATED FORM;TATWEEL WITH FATHATAN ABOVE",
  "FE72 ARABIC |DAMMATAN ISOLATED FORM;TAIL FRAGMENT;KASRATAN ISOLATED FORM",
  "FE76 ARABIC |FATHA ISOLATED FORM;FATHA MEDIAL FORM;DAMMA ISOLATED FORM;DAMMA MEDIAL FORM",
  "FE7A ARABIC |KASRA ISOLATED FORM;KASRA MEDIAL FORM;SHADDA ISOLATED FORM;SHADDA MEDIAL FORM",
  "FE7E ARABIC |SUKUN ISOLATED FORM;SUKUN MEDIAL FORM;LETTER HAMZA ISOLATED FORM",
  "FE81 ARABIC LETTER ALEF WITH MADDA ABOVE |ISOLATED FORM;FINAL FORM",
  "FE83 ARABIC LETTER ALEF WITH HAMZA ABOVE |ISOLATED FORM;FINAL FORM",
  "FE85 ARABIC LETTER WAW WITH HAMZA ABOVE |ISOLATED FORM;FINAL FORM",
  "FE87 ARABIC LETTER ALEF WITH HAMZA BELOW |ISOLATED FORM;FINAL FORM",
  "FE89 ARABIC LETTER YEH WITH HAMZA ABOVE |ISOLATED FORM;FINAL FORM;INITIAL FORM;MEDIAL FORM",
  "FE8D ARABIC LETTER |ALEF ISOLATED FORM;ALEF FINAL FORM;BEH ISOLATED FORM",
  "FE90 ARABIC LETTER |BEH FINAL FORM;BEH INITIAL FORM;BEH MEDIAL FORM;TEH MARBUTA ISOLATED FORM",
  "FE94 ARABIC LETTER TEH |MARBUTA FINAL FORM;ISOLATED FORM;FINAL FORM;INITIAL FORM;MEDIAL FORM",
  "FE99 ARABIC LETTER THEH |ISOLATED FORM;FINAL FORM;INITIAL FORM;MEDIAL FORM",
  "FE9D ARABIC LETTER JEEM |ISOLATED FORM;FINAL FORM;INITIAL FORM;MEDIAL FORM",
  "FEA1 ARABIC LETTER HAH |ISOLATED FORM;FINAL FORM;INITIAL FORM;MEDIAL FORM",
  "FEA5 ARABIC LETTER KHAH |ISOLATED FORM;FINAL FORM;INITIAL FORM;MEDIAL FORM",
  "FEA9 ARABIC LETTER |DAL ISOLATED FORM;DAL FINAL FORM;THAL ISOLATED FORM;THAL FINAL FORM",
  "FEAD ARABIC LETTER |REH ISOLATED FORM;REH FINAL FORM;ZAIN ISOLATED FORM;ZAIN FINAL FORM",
  "FEB1 ARABIC LETTER SEEN |ISOLATED FORM;FINAL FORM;INITIAL FORM;MEDIAL FORM",
  "FEB5 ARABIC LETTER SHEEN |ISOLATED FORM;FINAL FORM;INITIAL FORM;MEDIAL FORM",
  "FEB9 ARABIC LETTER SAD |ISOLATED FORM;FINAL FORM;INITIAL FORM;MEDIAL FORM",
  "FEBD ARABIC LETTER DAD |ISOLATED FORM;FINAL FORM;INITIAL FORM;MEDIAL FORM",
  "FEC1 ARABIC LETTER TAH |ISOLATED FORM;FINAL FORM;INITIAL FORM;MEDIAL FORM",
  "FEC5 ARABIC LETTER ZAH |ISOLATED FORM;FINAL FORM;INITIAL FORM;MEDIAL FORM",
  "FEC9 ARABIC LETTER AIN |ISOLATED FORM;FINAL FORM;INITIAL FORM;MEDIAL FORM",
  "FECD ARABIC LETTER GHAIN |ISOLATED FORM;FINAL FORM;INITIAL FORM;MEDIAL FORM",
  "FED1 ARABIC LETTER FEH |ISOLATED FORM;FINAL FORM;INITIAL FORM;MEDIAL FORM",
  "FED5 ARABIC LETTER QAF |ISOLATED FORM;FINAL FORM;INITIAL FORM;MEDIAL FORM",
  "FED9 ARABIC LETTER KAF |ISOLATED FORM;FINAL FORM;INITIAL FORM;MEDIAL FORM",
  "FEDD ARABIC LETTER LAM |ISOLATED FORM;FINAL FORM;INITIAL FORM;MEDIAL FORM",
  "FEE1 ARABIC LETTER MEEM |ISOLATED FORM;FINAL FORM;INITIAL FORM;MEDIAL FORM",
  "FEE5 ARABIC LETTER NOON |ISOLATED FORM;FINAL FORM;INITIAL FORM;MEDIAL FORM",
  "FEE9 ARABIC LETTER HEH |ISOLATED FORM;FINAL FORM;INITIAL FORM;MEDIAL FORM",
  "FEED ARABIC LETTER WAW |ISOLATED FORM;FINAL FORM",
  "FEEF ARABIC LETTER ALEF MAKSURA |ISOLATED FORM;FINAL FORM",
  "FEF1 ARABIC LETTER YEH |ISOLATED FORM;FINAL FORM;INITIAL FORM;MEDIAL FORM",
  "FEF5 ARABIC LIGATURE LAM WITH ALEF WITH MADDA ABOVE |ISOLATED FORM;FINAL FORM",
  "FEF7 ARABIC LIGATURE LAM WITH ALEF WITH HAMZA ABOVE |ISOLATED FORM;FINAL FORM",
  "FEF9 ARABIC LIGATURE LAM WITH ALEF WITH HAMZA BELOW |ISOLATED FORM;FINAL FORM",
  "FEFB ARABIC LIGATURE LAM WITH ALEF |ISOLATED FORM;FINAL FORM",
  "FEFF ZERO WIDTH NO-BREAK |SPACE",
  "FF01 FULLWIDTH |EXCLAMATION MARK;QUOTATION MARK",
  "FF03 FULLWIDTH |NUMBER SIGN;DOLLAR SIGN;PERCENT SIGN;AMPERSAND;APOSTROPHE;LEFT PARENTHESIS",
  "FF09 FULLWIDTH |RIGHT PARENTHESIS;ASTERISK;PLUS SIGN;COMMA;HYPHEN-MINUS;FULL STOP;SOLIDUS",
  "FF10 FULLWIDTH DIGIT |ZERO;ONE;TWO;THREE;FOUR;FIVE;SIX;SEVEN;EIGHT;NINE",
  "FF1A FULLWIDTH |COLON;SEMICOLON",
  "FF1C FULLWIDTH |LESS-THAN SIGN;EQUALS SIGN;GREATER-THAN SIGN;QUESTION MARK;COMMERCIAL AT",
  "FF21 FULLWIDTH LATIN CAPITAL LETTER |A;B;C;D;E;F;G;H;I;J;K;L;M;N;O;P;Q;R;S;T;U;V;W;X;Y;Z",
  "FF3B FULLWIDTH LEFT SQUARE |BRACKET",
  "FF3C FULLWIDTH |REVERSE SOLIDUS;RIGHT SQUARE BRACKET;CIRCUMFLEX ACCENT;LOW LINE;GRAVE ACCENT",
  "FF41 FULLWIDTH LATIN SMALL LETTER |A;B;C;D;E;F;G;H;I;J;K;L;M;N;O;P;Q;R;S;T;U;V;W;X;Y;Z",
  "FF5B FULLWIDTH |LEFT CURLY BRACKET;VERTICAL LINE",
  "FF5D FULLWIDTH |RIGHT CURLY BRACKET;TILDE;LEFT WHITE PARENTHESIS;RIGHT WHITE PARENTHESIS",
  "FF61 HALFWIDTH |IDEOGRAPHIC FULL STOP;LEFT CORNER BRACKET",
  "FF63 HALFWIDTH |RIGHT CORNER BRACKET;IDEOGRAPHIC COMMA;KATAKANA MIDDLE DOT;KATAKANA LETTER WO",
  "FF67 HALFWIDTH KATAKANA LETTER SMALL |A;I;U;E;O;YA;YU;YO;TU",
  "FF70 HALFWIDTH KATAKANA-HIRAGANA PROLONGED SOUND |MARK",
  "FF71 HALFWIDTH KATAKANA LETTER |A;I;U;E;O;KA;KI;KU;KE;KO;SA;SI;SU;SE;SO;TA;TI;TU;TE;TO;NA;NI",
  "FF87 HALFWIDTH KATAKANA LETTER |NU;NE;NO;HA;HI;HU;HE;HO;MA;MI;MU;ME;MO;YA;YU;YO;RA;RI;RU;RE;RO",
  "FF9C HALFWIDTH KATAKANA |LETTER WA;LETTER N;VOICED SOUND MARK;SEMI-VOICED SOUND MARK",
  "FFA0 HALFWIDTH HANGUL |FILLER;LETTER KIYEOK;LETTER SSANGKIYEOK;LETTER KIYEOK-SIOS",
  "FFA4 HALFWIDTH HANGUL LETTER |NIEUN;NIEUN-CIEUC;NIEUN-HIEUH;TIKEUT;SSANGTIKEUT;RIEUL",
  "FFAA HALFWIDTH HANGUL LETTER RIEUL-|KIYEOK;MIEUM;PIEUP;SIOS;THIEUTH;PHIEUPH;HIEUH",
  "FFB1 HALFWIDTH HANGUL LETTER |MIEUM;PIEUP;SSANGPIEUP;PIEUP-SIOS;SIOS;SSANGSIOS",
  "FFB7 HALFWIDTH HANGUL LETTER |IEUNG;CIEUC;SSANGCIEUC;CHIEUCH;KHIEUKH;THIEUTH;PHIEUPH;HIEUH",
  "FFC2 HALFWIDTH HANGUL LETTER |A;AE;YA;YAE;EO;E",
  "FFCA HALFWIDTH HANGUL LETTER |YEO;YE;O;WA;WAE;OE",
  "FFD2 HALFWIDTH HANGUL LETTER |YO;U;WEO;WE;WI;YU",
  "FFDA HALFWIDTH HANGUL LETTER |EU;YI;I",
  "FFE0 FULLWIDTH |CENT SIGN;POUND SIGN;NOT SIGN;MACRON;BROKEN BAR;YEN SIGN;WON SIGN",
  "FFE8 HALFWIDTH |FORMS LIGHT VERTICAL;LEFTWARDS ARROW",
  "FFEA HALFWIDTH |UPWARDS ARROW;RIGHTWARDS ARROW;DOWNWARDS ARROW;BLACK SQUARE;WHITE CIRCLE",
  "FFF9 INTERLINEAR ANNOTATION |ANCHOR;SEPARATOR;TERMINATOR",
  "FFFC |OBJECT REPLACEMENT CHARACTER;REPLACEMENT CHARACTER"]

end ElementLocator.Regex.CharacterName
