/-! # Character names: rows for U+1D400 to U+1D7FF

    The names of mathematical letters. -/

namespace ElementLocator.Regex.CharacterName

/-- Names from U+1D400 to U+1D7FF. -/
def mathematicsRows : List String := [
  "1D400 MATHEMATICAL BOLD CAPITAL |A;B;C;D;E;F;G;H;I;J;K;L;M;N;O;P;Q;R;S;T;U;V;W;X;Y;Z",
  "1D41A MATHEMATICAL BOLD SMALL |A;B;C;D;E;F;G;H;I;J;K;L;M;N;O;P;Q;R;S;T;U;V;W;X;Y;Z",
  "1D434 MATHEMATICAL ITALIC CAPITAL |A;B;C;D;E;F;G;H;I;J;K;L;M;N;O;P;Q;R;S;T;U;V;W;X;Y;Z",
  "1D44E MATHEMATICAL ITALIC SMALL |A;B;C;D;E;F;G",
  "1D456 MATHEMATICAL ITALIC SMALL |I;J;K;L;M;N;O;P;Q;R;S;T;U;V;W;X;Y;Z",
  "1D468 MATHEMATICAL BOLD ITALIC CAPITAL |A;B;C;D;E;F;G;H;I;J;K;L;M;N;O;P;Q;R;S;T;U;V;W;X;Y;Z",
  "1D482 MATHEMATICAL BOLD ITALIC SMALL |A;B;C;D;E;F;G;H;I;J;K;L;M;N;O;P;Q;R;S;T;U;V;W;X;Y;Z",
  "1D49C MATHEMATICAL SCRIPT CAPITAL |A",
  "1D49E MATHEMATICAL SCRIPT CAPITAL |C;D",
  "1D4A2 MATHEMATICAL SCRIPT CAPITAL |G",
  "1D4A5 MATHEMATICAL SCRIPT CAPITAL |J;K",
  "1D4A9 MATHEMATICAL SCRIPT CAPITAL |N;O;P;Q",
  "1D4AE MATHEMATICAL SCRIPT CAPITAL |S;T;U;V;W;X;Y;Z",
  "1D4B6 MATHEMATICAL SCRIPT SMALL |A;B;C;D",
  "1D4BB MATHEMATICAL SCRIPT SMALL |F",
  "1D4BD MATHEMATICAL SCRIPT SMALL |H;I;J;K;L;M;N",
  "1D4C5 MATHEMATICAL SCRIPT SMALL |P;Q;R;S;T;U;V;W;X;Y;Z",
  "1D4D0 MATHEMATICAL BOLD SCRIPT CAPITAL |A;B;C;D;E;F;G;H;I;J;K;L;M;N;O;P;Q;R;S;T;U;V;W;X;Y;Z",
  "1D4EA MATHEMATICAL BOLD SCRIPT SMALL |A;B;C;D;E;F;G;H;I;J;K;L;M;N;O;P;Q;R;S;T;U;V;W;X;Y;Z",
  "1D504 MATHEMATICAL FRAKTUR CAPITAL |A;B",
  "1D507 MATHEMATICAL FRAKTUR CAPITAL |D;E;F;G",
  "1D50D MATHEMATICAL FRAKTUR CAPITAL |J;K;L;M;N;O;P;Q",
  "1D516 MATHEMATICAL FRAKTUR CAPITAL |S;T;U;V;W;X;Y",
  "1D51E MATHEMATICAL FRAKTUR SMALL |A;B;C;D;E;F;G;H;I;J;K;L;M;N;O;P;Q;R;S;T;U;V;W;X;Y;Z",
  "1D538 MATHEMATICAL DOUBLE-STRUCK CAPITAL |A;B",
  "1D53B MATHEMATICAL DOUBLE-STRUCK CAPITAL |D;E;F;G",
  "1D540 MATHEMATICAL DOUBLE-STRUCK CAPITAL |I;J;K;L;M",
  "1D546 MATHEMATICAL DOUBLE-STRUCK CAPITAL |O",
  "1D54A MATHEMATICAL DOUBLE-STRUCK CAPITAL |S;T;U;V;W;X;Y",
  "1D552 MATHEMATICAL DOUBLE-STRUCK SMALL |A;B;C;D;E;F;G;H;I;J;K;L;M;N;O;P;Q;R;S;T;U;V;W;X;Y;Z",
  "1D56C MATHEMATICAL BOLD FRAKTUR CAPITAL |A;B;C;D;E;F;G;H;I;J;K;L;M;N;O;P;Q;R;S;T;U;V;W;X;Y;Z",
  "1D586 MATHEMATICAL BOLD FRAKTUR SMALL |A;B;C;D;E;F;G;H;I;J;K;L;M;N;O;P;Q;R;S;T;U;V;W;X;Y;Z",
  "1D5A0 MATHEMATICAL SANS-SERIF CAPITAL |A;B;C;D;E;F;G;H;I;J;K;L;M;N;O;P;Q;R;S;T;U;V;W;X;Y;Z",
  "1D5BA MATHEMATICAL SANS-SERIF SMALL |A;B;C;D;E;F;G;H;I;J;K;L;M;N;O;P;Q;R;S;T;U;V;W;X;Y;Z",
  "1D5D4 MATHEMATICAL SANS-SERIF BOLD CAPITAL |A",
  "1D5D5 MATHEMATICAL SANS-SERIF BOLD CAPITAL |B;C;D;E;F;G;H;I;J;K;L;M;N;O;P;Q;R;S;T;U;V;W;X;Y;Z",
  "1D5EE MATHEMATICAL SANS-SERIF BOLD SMALL |A;B;C;D;E;F;G;H;I;J;K;L;M;N;O;P;Q;R;S;T;U;V;W;X;Y;Z",
  "1D608 MATHEMATICAL SANS-SERIF ITALIC CAPITAL |A;B;C;D;E;F;G;H;I;J;K;L;M;N;O;P;Q;R;S;T;U;V;W;X",
  "1D620 MATHEMATICAL SANS-SERIF ITALIC |CAPITAL Y;CAPITAL Z;SMALL A",
  "1D623 MATHEMATICAL SANS-SERIF ITALIC SMALL |B;C;D;E;F;G;H;I;J;K;L;M;N;O;P;Q;R;S;T;U;V;W;X;Y;Z",
  "1D63C MATHEMATICAL SANS-SERIF BOLD ITALIC CAPITAL |A;B;C;D",
  "1D640 MATHEMATICAL SANS-SERIF BOLD ITALIC CAPITAL |E;F;G;H;I;J;K;L;M;N;O;P;Q;R;S;T;U;V;W;X;Y;Z",
  "1D656 MATHEMATICAL SANS-SERIF BOLD ITALIC SMALL |A;B;C",
  "1D659 MATHEMATICAL SANS-SERIF BOLD ITALIC SMALL |D;E;F;G;H;I;J;K;L;M;N;O;P;Q;R;S;T;U;V;W;X;Y;Z",
  "1D670 MATHEMATICAL MONOSPACE CAPITAL |A;B;C;D;E;F;G;H;I;J;K;L;M;N;O;P;Q;R;S;T;U;V;W;X;Y;Z",
  "1D68A MATHEMATICAL MONOSPACE SMALL |A;B;C;D;E;F;G;H;I;J;K;L;M;N;O;P;Q;R;S;T;U;V;W;X;Y;Z",
  "1D6A4 MATHEMATICAL ITALIC SMALL DOTLESS |I;J",
  "1D6A8 MATHEMATICAL BOLD CAPITAL |ALPHA;BETA;GAMMA;DELTA;EPSILON;ZETA;ETA;THETA;IOTA;KAPPA",
  "1D6B2 MATHEMATICAL BOLD CAPITAL |LAMDA;MU;NU;XI;OMICRON;PI;RHO;THETA SYMBOL;SIGMA;TAU;UPSILON",
  "1D6BD MATHEMATICAL BOLD |CAPITAL PHI;CAPITAL CHI;CAPITAL PSI;CAPITAL OMEGA;NABLA",
  "1D6C2 MATHEMATICAL BOLD SMALL |ALPHA;BETA;GAMMA;DELTA;EPSILON;ZETA;ETA;THETA;IOTA;KAPPA;LAMDA",
  "1D6CD MATHEMATICAL BOLD SMALL |MU;NU;XI;OMICRON;PI;RHO;FINAL SIGMA;SIGMA;TAU;UPSILON;PHI;CHI",
  "1D6D9 MATHEMATICAL BOLD |SMALL PSI;SMALL OMEGA;PARTIAL DIFFERENTIAL;EPSILON SYMBOL",
  "1D6DD MATHEMATICAL BOLD |THETA SYMBOL;KAPPA SYMBOL;PHI SYMBOL;RHO SYMBOL;PI SYMBOL",
  "1D6E2 MATHEMATICAL ITALIC CAPITAL |ALPHA;BETA;GAMMA;DELTA",
  "1D6E6 MATHEMATICAL ITALIC CAPITAL |EPSILON;ZETA;ETA;THETA;IOTA;KAPPA;LAMDA;MU;NU;XI;OMICRON",
  "1D6F1 MATHEMATICAL ITALIC CAPITAL |PI;RHO;THETA SYMBOL;SIGMA;TAU;UPSILON;PHI;CHI;PSI;OMEGA",
  "1D6FB MATHEMATICAL ITALIC |NABLA;SMALL ALPHA",
  "1D6FD MATHEMATICAL ITALIC SMALL |BETA;GAMMA;DELTA;EPSILON;ZETA;ETA;THETA;IOTA;KAPPA;LAMDA",
  "1D707 MATHEMATICAL ITALIC SMALL |MU;NU;XI;OMICRON;PI;RHO;FINAL SIGMA;SIGMA;TAU;UPSILON;PHI;CHI",
  "1D713 MATHEMATICAL ITALIC |SMALL PSI;SMALL OMEGA;PARTIAL DIFFERENTIAL;EPSILON SYMBOL",
  "1D717 MATHEMATICAL ITALIC |THETA SYMBOL;KAPPA SYMBOL;PHI SYMBOL;RHO SYMBOL;PI SYMBOL",
  "1D71C MATHEMATICAL BOLD ITALIC CAPITAL |ALPHA;BETA;GAMMA;DELTA;EPSILON",
  "1D721 MATHEMATICAL BOLD ITALIC CAPITAL |ZETA;ETA;THETA;IOTA;KAPPA;LAMDA;MU;NU;XI;OMICRON;PI",
  "1D72C MATHEMATICAL BOLD ITALIC CAPITAL |RHO;THETA SYMBOL;SIGMA;TAU;UPSILON;PHI;CHI;PSI;OMEGA",
  "1D735 MATHEMATICAL BOLD ITALIC |NABLA;SMALL ALPHA;SMALL BETA;SMALL GAMMA",
  "1D739 MATHEMATICAL BOLD ITALIC SMALL |DELTA;EPSILON;ZETA;ETA;THETA;IOTA;KAPPA;LAMDA;MU;NU;XI",
  "1D744 MATHEMATICAL BOLD ITALIC SMALL |OMICRON;PI;RHO;FINAL SIGMA;SIGMA;TAU;UPSILON;PHI;CHI;PSI",
  "1D74E MATHEMATICAL BOLD ITALIC |SMALL OMEGA;PARTIAL DIFFERENTIAL;EPSILON SYMBOL",
  "1D751 MATHEMATICAL BOLD ITALIC |THETA SYMBOL;KAPPA SYMBOL;PHI SYMBOL;RHO SYMBOL;PI SYMBOL",
  "1D756 MATHEMATICAL SANS-SERIF BOLD CAPITAL |ALPHA;BETA;GAMMA;DELTA;EPSILON;ZETA",
  "1D75C MATHEMATICAL SANS-SERIF BOLD CAPITAL |ETA;THETA;IOTA;KAPPA;LAMDA;MU;NU;XI;OMICRON;PI;RHO",
  "1D767 MATHEMATICAL SANS-SERIF BOLD CAPITAL |THETA SYMBOL;SIGMA;TAU;UPSILON;PHI;CHI;PSI;OMEGA",
  "1D76F MATHEMATICAL SANS-SERIF BOLD |NABLA;SMALL ALPHA;SMALL BETA;SMALL GAMMA;SMALL DELTA",
  "1D774 MATHEMATICAL SANS-SERIF BOLD SMALL |EPSILON;ZETA;ETA;THETA;IOTA;KAPPA;LAMDA;MU;NU;XI",
  "1D77E MATHEMATICAL SANS-SERIF BOLD SMALL |OMICRON;PI;RHO;FINAL SIGMA;SIGMA;TAU;UPSILON;PHI;CHI",
  "1D787 MATHEMATICAL SANS-SERIF BOLD |SMALL PSI;SMALL OMEGA;PARTIAL DIFFERENTIAL;EPSILON SYMBOL",
  "1D78B MATHEMATICAL SANS-SERIF BOLD |THETA SYMBOL;KAPPA SYMBOL;PHI SYMBOL;RHO SYMBOL;PI SYMBOL",
  "1D790 MATHEMATICAL SANS-SERIF BOLD ITALIC CAPITAL |ALPHA;BETA;GAMMA;DELTA;EPSILON;ZETA;ETA",
  "1D797 MATHEMATICAL SANS-SERIF BOLD ITALIC CAPITAL |THETA;IOTA;KAPPA;LAMDA;MU;NU;XI;OMICRON;PI",
  "1D7A0 MATHEMATICAL SANS-SERIF BOLD ITALIC CAPITAL |RHO;THETA SYMBOL;SIGMA;TAU;UPSILON;PHI;CHI",
  "1D7A7 MATHEMATICAL SANS-SERIF BOLD ITALIC |CAPITAL PSI;CAPITAL OMEGA;NABLA",
  "1D7AA MATHEMATICAL SANS-SERIF BOLD ITALIC SMALL |ALPHA;BETA;GAMMA;DELTA;EPSILON;ZETA;ETA",
  "1D7B1 MATHEMATICAL SANS-SERIF BOLD ITALIC SMALL |THETA;IOTA;KAPPA;LAMDA;MU;NU;XI;OMICRON;PI",
  "1D7BA MATHEMATICAL SANS-SERIF BOLD ITALIC SMALL |RHO;FINAL SIGMA;SIGMA;TAU;UPSILON;PHI;CHI;PSI",
  "1D7C2 MATHEMATICAL SANS-SERIF BOLD ITALIC |SMALL OMEGA;PARTIAL DIFFERENTIAL;EPSILON SYMBOL",
  "1D7C5 MATHEMATICAL SANS-SERIF BOLD ITALIC |THETA SYMBOL;KAPPA SYMBOL;PHI SYMBOL;RHO SYMBOL",
  "1D7C9 MATHEMATICAL |SANS-SERIF BOLD ITALIC PI SYMBOL;BOLD CAPITAL DIGAMMA;BOLD SMALL DIGAMMA",
  "1D7CE MATHEMATICAL BOLD DIGIT |ZERO;ONE;TWO;THREE;FOUR;FIVE;SIX;SEVEN;EIGHT;NINE",
  "1D7D8 MATHEMATICAL DOUBLE-STRUCK DIGIT |ZERO;ONE;TWO;THREE;FOUR;FIVE;SIX;SEVEN;EIGHT;NINE",
  "1D7E2 MATHEMATICAL SANS-SERIF DIGIT |ZERO;ONE;TWO;THREE;FOUR;FIVE;SIX;SEVEN;EIGHT;NINE",
  "1D7EC MATHEMATICAL SANS-SERIF BOLD DIGIT |ZERO;ONE;TWO;THREE;FOUR;FIVE;SIX;SEVEN;EIGHT;NINE",
  "1D7F6 MATHEMATICAL MONOSPACE DIGIT |ZERO;ONE;TWO;THREE;FOUR;FIVE;SIX;SEVEN;EIGHT;NINE"]

end ElementLocator.Regex.CharacterName
