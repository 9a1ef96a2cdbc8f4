/-! # Character names: rows for U+1D800 to U+1EEF1

    The names of the writing of gestures and of the last scripts of the plane. -/

namespace ElementLocator.Regex.CharacterName

/-- Names from U+1D800 to U+1EEF1. -/
def signWritingRows : List String := [
  "1D800 SIGNWRITING HAND-|FIST INDEX;CIRCLE INDEX;CUP INDEX;OVAL INDEX;HINGE INDEX;ANGLE INDEX",
  "1D806 SIGNWRITING HAND-|FIST INDEX BENT;CIRCLE INDEX BENT;FIST THUMB UNDER INDEX BENT",
  "1D809 SIGNWRITING HAND-FIST INDEX |RAISED KNUCKLE;CUPPED;HINGED;HINGED LOW",
  "1D80D SIGNWRITING HAND-|CIRCLE INDEX HINGE;FIST INDEX MIDDLE;CIRCLE INDEX MIDDLE",
  "1D810 SIGNWRITING HAND-FIST INDEX MIDDLE |BENT;RAISED KNUCKLES;HINGED",
  "1D813 SIGNWRITING HAND-FIST INDEX |UP MIDDLE HINGED;HINGED MIDDLE UP;MIDDLE CONJOINED",
  "1D816 SIGNWRITING HAND-FIST INDEX MIDDLE CONJOINED |INDEX BENT;MIDDLE BENT;CUPPED;HINGED",
  "1D81A SIGNWRITING HAND-|FIST INDEX MIDDLE CROSSED;CIRCLE INDEX MIDDLE CROSSED",
  "1D81C SIGNWRITING HAND-FIST |MIDDLE BENT OVER INDEX;INDEX BENT OVER MIDDLE;INDEX MIDDLE THUMB",
  "1D81F SIGNWRITING HAND-CIRCLE INDEX MIDDLE |THUMB",
  "1D820 SIGNWRITING HAND-FIST INDEX MIDDLE |STRAIGHT THUMB BENT;BENT THUMB STRAIGHT",
  "1D822 SIGNWRITING HAND-FIST INDEX MIDDLE |THUMB BENT;HINGED SPREAD THUMB SIDE",
  "1D824 SIGNWRITING HAND-FIST INDEX UP MIDDLE HINGED THUMB |SIDE;CONJOINED",
  "1D826 SIGNWRITING HAND-FIST INDEX |HINGED MIDDLE UP THUMB SIDE;MIDDLE UP SPREAD THUMB FORWARD",
  "1D828 SIGNWRITING HAND-FIST INDEX MIDDLE THUMB |CUPPED;CIRCLED;HOOKED;HINGED",
  "1D82C SIGNWRITING HAND-FIST THUMB BETWEEN INDEX MIDDLE |STRAIGHT",
  "1D82D SIGNWRITING HAND-FIST INDEX MIDDLE CONJOINED THUMB |SIDE;SIDE CONJOINED;SIDE BENT",
  "1D830 SIGNWRITING HAND-FIST |MIDDLE THUMB HOOKED INDEX UP;INDEX THUMB HOOKED MIDDLE UP",
  "1D832 SIGNWRITING HAND-FIST INDEX MIDDLE |CONJOINED HINGED THUMB SIDE;CROSSED THUMB SIDE",
  "1D834 SIGNWRITING HAND-FIST INDEX MIDDLE CONJOINED |THUMB FORWARD;CUPPED THUMB FORWARD",
  "1D836 SIGNWRITING HAND-FIST |MIDDLE THUMB CUPPED INDEX UP;INDEX THUMB CUPPED MIDDLE UP",
  "1D838 SIGNWRITING HAND-FIST MIDDLE THUMB CIRCLED INDEX |UP;HINGED",
  "1D83A SIGNWRITING HAND-FIST INDEX THUMB ANGLED |OUT MIDDLE UP;IN MIDDLE UP",
  "1D83C SIGNWRITING HAND-FIST INDEX THUMB CIRCLED MIDDLE |UP",
  "1D83D SIGNWRITING HAND-FIST INDEX MIDDLE THUMB |CONJOINED HINGED;ANGLED OUT;ANGLED",
  "1D840 SIGNWRITING HAND-FIST MIDDLE THUMB ANGLED |OUT INDEX UP;OUT INDEX CROSSED;INDEX UP",
  "1D843 SIGNWRITING HAND-|FIST INDEX THUMB HOOKED MIDDLE HINGED;FLAT FOUR FINGERS",
  "1D845 SIGNWRITING HAND-FLAT FOUR FINGERS |BENT;HINGED;CONJOINED;CONJOINED SPLIT",
  "1D849 SIGNWRITING HAND-|CLAW FOUR FINGERS CONJOINED;FIST FOUR FINGERS CONJOINED BENT",
  "1D84B SIGNWRITING HAND-|HINGE FOUR FINGERS CONJOINED;FLAT FIVE FINGERS SPREAD",
  "1D84D SIGNWRITING HAND-FLAT |HEEL FIVE FINGERS SPREAD;FIVE FINGERS SPREAD FOUR BENT",
  "1D84F SIGNWRITING HAND-FLAT |HEEL FIVE FINGERS SPREAD FOUR BENT;FIVE FINGERS SPREAD BENT",
  "1D851 SIGNWRITING HAND-FLAT |HEEL FIVE FINGERS SPREAD BENT;FIVE FINGERS SPREAD THUMB FORWARD",
  "1D853 SIGNWRITING HAND-CUP FIVE FINGERS |SPREAD;SPREAD OPEN",
  "1D855 SIGNWRITING HAND-|HINGE FIVE FINGERS SPREAD OPEN;OVAL FIVE FINGERS SPREAD",
  "1D857 SIGNWRITING HAND-FLAT FIVE FINGERS SPREAD |HINGED;HINGED THUMB SIDE;HINGED NO THUMB",
  "1D85A SIGNWRITING HAND-|FLAT;FLAT BETWEEN PALM FACINGS;FLAT HEEL;FLAT THUMB SIDE",
  "1D85E SIGNWRITING HAND-FLAT |HEEL THUMB SIDE;THUMB BENT;THUMB FORWARD;SPLIT INDEX THUMB SIDE",
  "1D862 SIGNWRITING HAND-FLAT SPLIT |CENTRE;CENTRE THUMB SIDE;CENTRE THUMB SIDE BENT;LITTLE",
  "1D866 SIGNWRITING HAND-|CLAW;CLAW THUMB SIDE;CLAW NO THUMB",
  "1D869 SIGNWRITING HAND-|CLAW THUMB FORWARD;HOOK CURLICUE;HOOK;CUP OPEN;CUP;CUP OPEN THUMB SIDE",
  "1D86F SIGNWRITING HAND-CUP |THUMB SIDE;OPEN NO THUMB;NO THUMB;OPEN THUMB FORWARD;THUMB FORWARD",
  "1D874 SIGNWRITING HAND-|CURLICUE OPEN;CURLICUE;CIRCLE;OVAL;OVAL THUMB SIDE;OVAL NO THUMB",
  "1D87A SIGNWRITING HAND-|OVAL THUMB FORWARD;HINGE OPEN;HINGE OPEN THUMB FORWARD;HINGE",
  "1D87E SIGNWRITING HAND-HINGE |SMALL;OPEN THUMB SIDE;THUMB SIDE;OPEN NO THUMB;NO THUMB",
  "1D883 SIGNWRITING HAND-HINGE THUMB |SIDE TOUCHING INDEX;BETWEEN MIDDLE RING",
  "1D885 SIGNWRITING HAND-|ANGLE;FIST INDEX MIDDLE RING;CIRCLE INDEX MIDDLE RING",
  "1D888 SIGNWRITING HAND-|HINGE INDEX MIDDLE RING;ANGLE INDEX MIDDLE RING;HINGE LITTLE",
  "1D88B SIGNWRITING HAND-FIST INDEX MIDDLE RING |BENT;CONJOINED",
  "1D88D SIGNWRITING HAND-|HINGE INDEX MIDDLE RING CONJOINED;FIST LITTLE DOWN",
  "1D88F SIGNWRITING HAND-FIST LITTLE DOWN |RIPPLE STRAIGHT;RIPPLE CURVED;OTHERS CIRCLED",
  "1D892 SIGNWRITING HAND-FIST |LITTLE UP;THUMB UNDER LITTLE UP",
  "1D894 SIGNWRITING HAND-|CIRCLE LITTLE UP;OVAL LITTLE UP;ANGLE LITTLE UP",
  "1D897 SIGNWRITING HAND-FIST LITTLE |RAISED KNUCKLE;BENT;TOUCHES THUMB;THUMB",
  "1D89B SIGNWRITING HAND-|HINGE LITTLE THUMB;FIST LITTLE INDEX THUMB;HINGE LITTLE INDEX THUMB",
  "1D89E SIGNWRITING HAND-ANGLE LITTLE INDEX THUMB INDEX |THUMB OUT;THUMB",
  "1D8A0 SIGNWRITING HAND-|FIST LITTLE INDEX;CIRCLE LITTLE INDEX;HINGE LITTLE INDEX",
  "1D8A3 SIGNWRITING HAND-|ANGLE LITTLE INDEX;FIST INDEX MIDDLE LITTLE;CIRCLE INDEX MIDDLE LITTLE",
  "1D8A6 SIGNWRITING HAND-|HINGE INDEX MIDDLE LITTLE;HINGE RING;ANGLE INDEX MIDDLE LITTLE",
  "1D8A9 SIGNWRITING HAND-|FIST INDEX MIDDLE CROSS LITTLE;CIRCLE INDEX MIDDLE CROSS LITTLE",
  "1D8AB SIGNWRITING HAND-|FIST RING DOWN;HINGE RING DOWN INDEX THUMB HOOK MIDDLE",
  "1D8AD SIGNWRITING HAND-ANGLE RING DOWN MIDDLE THUMB INDEX |CROSS",
  "1D8AE SIGNWRITING HAND-FIST RING |UP;RAISED KNUCKLE;LITTLE",
  "1D8B1 SIGNWRITING HAND-|CIRCLE RING LITTLE;OVAL RING LITTLE;ANGLE RING LITTLE",
  "1D8B4 SIGNWRITING HAND-FIST RING |MIDDLE;MIDDLE CONJOINED;MIDDLE RAISED KNUCKLES;INDEX;THUMB",
  "1D8B9 SIGNWRITING HAND-|HOOK RING THUMB;FIST INDEX RING LITTLE",
  "1D8BB SIGNWRITING HAND-|CIRCLE INDEX RING LITTLE;CURLICUE INDEX RING LITTLE ON",
  "1D8BD SIGNWRITING HAND-HOOK INDEX RING LITTLE |OUT;IN;UNDER",
  "1D8C0 SIGNWRITING HAND-|CUP INDEX RING LITTLE;HINGE INDEX RING LITTLE",
  "1D8C2 SIGNWRITING HAND-ANGLE INDEX RING |LITTLE OUT;LITTLE",
  "1D8C4 SIGNWRITING HAND-|FIST MIDDLE DOWN;HINGE MIDDLE;FIST MIDDLE UP;CIRCLE MIDDLE UP",
  "1D8C8 SIGNWRITING HAND-|FIST MIDDLE RAISED KNUCKLE;FIST MIDDLE UP THUMB SIDE;HOOK MIDDLE THUMB",
  "1D8CB SIGNWRITING HAND-FIST MIDDLE |THUMB LITTLE;LITTLE;RING LITTLE",
  "1D8CE SIGNWRITING HAND-|CIRCLE MIDDLE RING LITTLE;CURLICUE MIDDLE RING LITTLE ON",
  "1D8D0 SIGNWRITING HAND-|CUP MIDDLE RING LITTLE;HINGE MIDDLE RING LITTLE",
  "1D8D2 SIGNWRITING HAND-ANGLE MIDDLE RING |LITTLE OUT;LITTLE IN;LITTLE",
  "1D8D5 SIGNWRITING HAND-CIRCLE MIDDLE RING LITTLE |BENT",
  "1D8D6 SIGNWRITING HAND-CLAW MIDDLE RING LITTLE |CONJOINED;CONJOINED SIDE",
  "1D8D8 SIGNWRITING HAND-HOOK MIDDLE RING LITTLE |CONJOINED OUT;CONJOINED IN;CONJOINED",
  "1D8DB SIGNWRITING HAND-|HINGE INDEX HINGED;FIST INDEX THUMB SIDE;HINGE INDEX THUMB SIDE",
  "1D8DE SIGNWRITING HAND-FIST INDEX THUMB SIDE THUMB |DIAGONAL;CONJOINED;BENT",
  "1D8E1 SIGNWRITING HAND-FIST INDEX THUMB SIDE |INDEX BENT;BOTH BENT;INDEX HINGE",
  "1D8E4 SIGNWRITING HAND-FIST INDEX THUMB FORWARD INDEX |STRAIGHT;BENT",
  "1D8E6 SIGNWRITING HAND-FIST INDEX THUMB |HOOK;CURLICUE;CURVE THUMB INSIDE",
  "1D8E9 SIGNWRITING HAND-|CLAW INDEX THUMB CURVE THUMB INSIDE;FIST INDEX THUMB CURVE THUMB UNDER",
  "1D8EB SIGNWRITING HAND-|FIST INDEX THUMB CIRCLE;CUP INDEX THUMB;CUP INDEX THUMB OPEN",
  "1D8EE SIGNWRITING HAND-HINGE INDEX |THUMB OPEN;THUMB LARGE;THUMB;THUMB SMALL",
  "1D8F2 SIGNWRITING HAND-ANGLE INDEX |THUMB OUT;THUMB IN;THUMB",
  "1D8F5 SIGNWRITING HAND-FIST |THUMB",
  "1D8F6 SIGNWRITING HAND-FIST THUMB |HEEL;SIDE DIAGONAL;SIDE CONJOINED;SIDE BENT;FORWARD",
  "1D8FB SIGNWRITING HAND-FIST THUMB BETWEEN |INDEX MIDDLE;MIDDLE RING;RING LITTLE",
  "1D8FE SIGNWRITING HAND-FIST THUMB |UNDER TWO FINGERS;OVER TWO FINGERS;UNDER THREE FINGERS",
  "1D901 SIGNWRITING HAND-FIST THUMB |UNDER FOUR FINGERS;OVER FOUR RAISED KNUCKLES",
  "1D903 SIGNWRITING |HAND-FIST;HAND-FIST HEEL;TOUCH SINGLE;TOUCH MULTIPLE;TOUCH BETWEEN",
  "1D908 SIGNWRITING GRASP |SINGLE;MULTIPLE;BETWEEN",
  "1D90B SIGNWRITING STRIKE |SINGLE;MULTIPLE;BETWEEN",
  "1D90E SIGNWRITING BRUSH |SINGLE;MULTIPLE;BETWEEN",
  "1D911 SIGNWRITING |RUB SINGLE;RUB MULTIPLE;RUB BETWEEN;SURFACE SYMBOLS;SURFACE BETWEEN",
  "1D916 SIGNWRITING SQUEEZE |LARGE SINGLE;SMALL SINGLE;LARGE MULTIPLE;SMALL MULTIPLE;SEQUENTIAL",
  "1D91B SIGNWRITING FLICK |LARGE SINGLE;SMALL SINGLE;LARGE MULTIPLE;SMALL MULTIPLE;SEQUENTIAL",
  "1D920 SIGNWRITING SQUEEZE FLICK |ALTERNATING",
  "1D921 SIGNWRITING MOVEMENT-HINGE |UP DOWN LARGE;UP DOWN SMALL;UP SEQUENTIAL;DOWN SEQUENTIAL",
  "1D925 SIGNWRITING MOVEMENT-HINGE UP DOWN ALTERNATING |LARGE;SMALL",
  "1D927 SIGNWRITING MOVEMENT-HINGE SIDE TO SIDE |SCISSORS",
  "1D928 SIGNWRITING MOVEMENT-|WALLPLANE FINGER CONTACT;FLOORPLANE FINGER CONTACT",
  "1D92A SIGNWRITING MOVEMENT-WALLPLANE SINGLE STRAIGHT |SMALL;MEDIUM;LARGE;LARGEST",
  "1D92E SIGNWRITING MOVEMENT-WALLPLANE |SINGLE WRIST FLEX;DOUBLE STRAIGHT",
  "1D930 SIGNWRITING MOVEMENT-WALLPLANE DOUBLE |WRIST FLEX;ALTERNATING;ALTERNATING WRIST FLEX",
  "1D933 SIGNWRITING MOVEMENT-WALLPLANE |CROSS;TRIPLE STRAIGHT MOVEMENT",
  "1D935 SIGNWRITING MOVEMENT-WALLPLANE TRIPLE |WRIST FLEX;ALTERNATING;ALTERNATING WRIST FLEX",
  "1D938 SIGNWRITING MOVEMENT-WALLPLANE BEND |SMALL;MEDIUM;LARGE",
  "1D93B SIGNWRITING MOVEMENT-WALLPLANE CORNER |SMALL;MEDIUM;LARGE;ROTATION",
  "1D93F SIGNWRITING MOVEMENT-WALLPLANE CHECK |SMALL;MEDIUM;LARGE",
  "1D942 SIGNWRITING MOVEMENT-WALLPLANE BOX |SMALL;MEDIUM;LARGE",
  "1D945 SIGNWRITING MOVEMENT-WALLPLANE ZIGZAG |SMALL;MEDIUM;LARGE",
  "1D948 SIGNWRITING MOVEMENT-WALLPLANE PEAKS |SMALL;MEDIUM;LARGE",
  "1D94B SIGNWRITING TRAVEL-WALLPLANE ROTATION-WALLPLANE |SINGLE;DOUBLE;ALTERNATING",
  "1D94E SIGNWRITING TRAVEL-WALLPLANE ROTATION-FLOORPLANE |SINGLE;DOUBLE;ALTERNATING",
  "1D951 SIGNWRITING TRAVEL-WALLPLANE |SHAKING",
  "1D952 SIGNWRITING TRAVEL-WALLPLANE ARM SPIRAL |SINGLE;DOUBLE;TRIPLE",
  "1D955 SIGNWRITING MOVEMENT-DIAGONAL AWAY |SMALL;MEDIUM;LARGE;LARGEST",
  "1D959 SIGNWRITING MOVEMENT-DIAGONAL TOWARDS |SMALL;MEDIUM;LARGE;LARGEST",
  "1D95D SIGNWRITING MOVEMENT-DIAGONAL BETWEEN AWAY |SMALL;MEDIUM;LARGE;LARGEST",
  "1D961 SIGNWRITING MOVEMENT-DIAGONAL BETWEEN TOWARDS |SMALL;MEDIUM;LARGE;LARGEST",
  "1D965 SIGNWRITING MOVEMENT-FLOORPLANE SINGLE STRAIGHT |SMALL;MEDIUM;LARGE;LARGEST",
  "1D969 SIGNWRITING MOVEMENT-FLOORPLANE |SINGLE WRIST FLEX;DOUBLE STRAIGHT",
  "1D96B SIGNWRITING MOVEMENT-FLOORPLANE DOUBLE |WRIST FLEX;ALTERNATING;ALTERNATING WRIST FLEX",
  "1D96E SIGNWRITING MOVEMENT-FLOORPLANE |CROSS;TRIPLE STRAIGHT MOVEMENT;TRIPLE WRIST FLEX",
  "1D971 SIGNWRITING MOVEMENT-FLOORPLANE TRIPLE ALTERNATING |MOVEMENT;WRIST FLEX",
  "1D973 SIGNWRITING MOVEMENT-FLOORPLANE |BEND;CORNER SMALL;CORNER MEDIUM;CORNER LARGE;CHECK",
  "1D978 SIGNWRITING MOVEMENT-FLOORPLANE BOX |SMALL;MEDIUM;LARGE",
  "1D97B SIGNWRITING MOVEMENT-FLOORPLANE ZIGZAG |SMALL;MEDIUM;LARGE",
  "1D97E SIGNWRITING MOVEMENT-FLOORPLANE PEAKS |SMALL;MEDIUM;LARGE",
  "1D981 SIGNWRITING TRAVEL-FLOORPLANE ROTATION-FLOORPLANE |SINGLE;DOUBLE;ALTERNATING",
  "1D984 SIGNWRITING TRAVEL-FLOORPLANE ROTATION-WALLPLANE |SINGLE;DOUBLE;ALTERNATING",
  "1D987 SIGNWRITING TRAVEL-FLOORPLANE |SHAKING",
  "1D988 SIGNWRITING MOVEMENT-WALLPLANE CURVE QUARTER |SMALL;MEDIUM;LARGE;LARGEST",
  "1D98C SIGNWRITING MOVEMENT-WALLPLANE CURVE HALF-CIRCLE |SMALL;MEDIUM;LARGE;LARGEST",
  "1D990 SIGNWRITING MOVEMENT-WALLPLANE CURVE THREE-QUARTER CIRCLE |SMALL;MEDIUM",
  "1D992 SIGNWRITING MOVEMENT-WALLPLANE HUMP |SMALL;MEDIUM;LARGE",
  "1D995 SIGNWRITING MOVEMENT-WALLPLANE LOOP |SMALL;MEDIUM;LARGE;SMALL DOUBLE",
  "1D999 SIGNWRITING MOVEMENT-WALLPLANE WAVE CURVE DOUBLE |SMALL;MEDIUM;LARGE",
  "1D99C SIGNWRITING MOVEMENT-WALLPLANE WAVE CURVE TRIPLE |SMALL;MEDIUM;LARGE",
  "1D99F SIGNWRITING MOVEMENT-WALLPLANE CURVE THEN |STRAIGHT",
  "1D9A0 SIGNWRITING MOVEMENT-WALLPLANE CURVED CROSS |SMALL;MEDIUM",
  "1D9A2 SIGNWRITING ROTATION-WALLPLANE |SINGLE;DOUBLE;ALTERNATE",
  "1D9A5 SIGNWRITING MOVEMENT-WALLPLANE |SHAKING;CURVE HITTING FRONT WALL;HUMP HITTING FRONT WALL",
  "1D9A8 SIGNWRITING MOVEMENT-WALLPLANE |LOOP HITTING FRONT WALL;WAVE HITTING FRONT WALL",
  "1D9AA SIGNWRITING ROTATION-WALLPLANE SINGLE HITTING FRONT |WALL",
  "1D9AB SIGNWRITING ROTATION-WALLPLANE |DOUBLE HITTING FRONT WALL;ALTERNATING HITTING FRONT WALL",
  "1D9AD SIGNWRITING MOVEMENT-WALLPLANE CURVE HITTING |CHEST",
  "1D9AE SIGNWRITING MOVEMENT-WALLPLANE |HUMP HITTING CHEST;LOOP HITTING CHEST;WAVE HITTING CHEST",
  "1D9B1 SIGNWRITING ROTATION-WALLPLANE SINGLE HITTING |CHEST",
  "1D9B2 SIGNWRITING ROTATION-WALLPLANE |DOUBLE HITTING CHEST;ALTERNATING HITTING CHEST",
  "1D9B4 SIGNWRITING MOVEMENT-WALLPLANE WAVE DIAGONAL PATH |SMALL;MEDIUM;LARGE",
  "1D9B7 SIGNWRITING MOVEMENT-FLOORPLANE CURVE HITTING CEILING |SMALL;LARGE",
  "1D9B9 SIGNWRITING MOVEMENT-FLOORPLANE HUMP HITTING CEILING |SMALL DOUBLE;LARGE DOUBLE",
  "1D9BB SIGNWRITING MOVEMENT-FLOORPLANE HUMP HITTING CEILING |SMALL TRIPLE;LARGE TRIPLE",
  "1D9BD SIGNWRITING MOVEMENT-FLOORPLANE LOOP HITTING CEILING |SMALL SINGLE;LARGE SINGLE",
  "1D9BF SIGNWRITING MOVEMENT-FLOORPLANE LOOP HITTING CEILING |SMALL DOUBLE;LARGE DOUBLE",
  "1D9C1 SIGNWRITING MOVEMENT-FLOORPLANE WAVE HITTING CEILING |SMALL;LARGE",
  "1D9C3 SIGNWRITING ROTATION-FLOORPLANE SINGLE HITTING |CEILING",
  "1D9C4 SIGNWRITING ROTATION-FLOORPLANE |DOUBLE HITTING CEILING;ALTERNATING HITTING CEILING",
  "1D9C6 SIGNWRITING MOVEMENT-FLOORPLANE CURVE HITTING FLOOR |SMALL;LARGE",
  "1D9C8 SIGNWRITING MOVEMENT-FLOORPLANE HUMP HITTING FLOOR |SMALL DOUBLE;LARGE DOUBLE",
  "1D9CA SIGNWRITING MOVEMENT-FLOORPLANE HUMP HITTING FLOOR TRIPLE |SMALL TRIPLE;LARGE TRIPLE",
  "1D9CC SIGNWRITING MOVEMENT-FLOORPLANE LOOP HITTING FLOOR |SMALL SINGLE;LARGE SINGLE",
  "1D9CE SIGNWRITING MOVEMENT-FLOORPLANE LOOP HITTING FLOOR |SMALL DOUBLE;LARGE DOUBLE",
  "1D9D0 SIGNWRITING MOVEMENT-FLOORPLANE WAVE HITTING FLOOR |SMALL;LARGE",
  "1D9D2 SIGNWRITING ROTATION-FLOORPLANE SINGLE HITTING |FLOOR",
  "1D9D3 SIGNWRITING ROTATION-FLOORPLANE |DOUBLE HITTING FLOOR;ALTERNATING HITTING FLOOR",
  "1D9D5 SIGNWRITING MOVEMENT-FLOORPLANE CURVE |SMALL;MEDIUM;LARGE;LARGEST;COMBINED",
  "1D9DA SIGNWRITING MOVEMENT-FLOORPLANE |HUMP SMALL;LOOP SMALL;WAVE SNAKE;WAVE SMALL;WAVE LARGE",
  "1D9DF SIGNWRITING ROTATION-FLOORPLANE |SINGLE;DOUBLE;ALTERNATING",
  "1D9E2 SIGNWRITING MOVEMENT-|FLOORPLANE SHAKING PARALLEL;WALLPLANE ARM CIRCLE SMALL SINGLE",
  "1D9E4 SIGNWRITING MOVEMENT-WALLPLANE ARM CIRCLE |MEDIUM SINGLE;SMALL DOUBLE;MEDIUM DOUBLE",
  "1D9E7 SIGNWRITING MOVEMENT-FLOORPLANE ARM CIRCLE HITTING WALL |SMALL SINGLE;MEDIUM SINGLE",
  "1D9E9 SIGNWRITING MOVEMENT-FLOORPLANE ARM CIRCLE HITTING WALL |LARGE SINGLE;SMALL DOUBLE",
  "1D9EB SIGNWRITING MOVEMENT-FLOORPLANE ARM CIRCLE HITTING WALL |MEDIUM DOUBLE;LARGE DOUBLE",
  "1D9ED SIGNWRITING MOVEMENT-WALLPLANE WRIST CIRCLE FRONT |SINGLE;DOUBLE",
  "1D9EF SIGNWRITING MOVEMENT-FLOORPLANE WRIST CIRCLE HITTING WALL |SINGLE;DOUBLE",
  "1D9F1 SIGNWRITING MOVEMENT-WALLPLANE FINGER CIRCLES |SINGLE;DOUBLE",
  "1D9F3 SIGNWRITING MOVEMENT-FLOORPLANE FINGER CIRCLES HITTING WALL |SINGLE;DOUBLE",
  "1D9F5 SIGNWRITING DYNAMIC |ARROWHEAD SMALL;ARROWHEAD LARGE;FAST;SLOW;TENSE;RELAXED",
  "1D9FB SIGNWRITING DYNAMIC |SIMULTANEOUS;SIMULTANEOUS ALTERNATING;EVERY OTHER TIME;GRADUAL",
  "1D9FF SIGNWRITING |HEAD;HEAD RIM",
  "1DA01 SIGNWRITING HEAD MOVEMENT-|WALLPLANE STRAIGHT;WALLPLANE TILT;FLOORPLANE STRAIGHT",
  "1DA04 SIGNWRITING HEAD |MOVEMENT-WALLPLANE CURVE;MOVEMENT-FLOORPLANE CURVE;MOVEMENT CIRCLE",
  "1DA07 SIGNWRITING FACE DIRECTION POSITION NOSE |FORWARD TILTING;UP OR DOWN;UP OR DOWN TILTING",
  "1DA0A SIGNWRITING EYEBROWS STRAIGHT |UP;NEUTRAL;DOWN",
  "1DA0D SIGNWRITING DREAMY EYEBROWS |NEUTRAL DOWN;DOWN NEUTRAL;UP NEUTRAL;NEUTRAL UP",
  "1DA11 SIGNWRITING FOREHEAD |NEUTRAL;CONTACT;WRINKLED",
  "1DA14 SIGNWRITING |EYES OPEN;EYES SQUEEZED;EYES CLOSED;EYE BLINK SINGLE;EYE BLINK MULTIPLE",
  "1DA19 SIGNWRITING EYES |HALF OPEN;WIDE OPEN;HALF CLOSED;WIDENING MOVEMENT",
  "1DA1D SIGNWRITING |EYE WINK;EYELASHES UP;EYELASHES DOWN;EYELASHES FLUTTERING",
  "1DA21 SIGNWRITING EYEGAZE-WALLPLANE |STRAIGHT;STRAIGHT DOUBLE;STRAIGHT ALTERNATING",
  "1DA24 SIGNWRITING EYEGAZE-FLOORPLANE |STRAIGHT;STRAIGHT DOUBLE;STRAIGHT ALTERNATING",
  "1DA27 SIGNWRITING EYEGAZE-|WALLPLANE CURVED;FLOORPLANE CURVED;WALLPLANE CIRCLING",
  "1DA2A SIGNWRITING CHEEKS |PUFFED;NEUTRAL;SUCKED",
  "1DA2D SIGNWRITING TENSE CHEEKS |HIGH;MIDDLE;LOW",
  "1DA30 SIGNWRITING |EARS;NOSE NEUTRAL;NOSE CONTACT;NOSE WRINKLES;NOSE WIGGLES",
  "1DA35 SIGNWRITING AIR |BLOWING OUT;SUCKING IN;BLOW SMALL ROTATIONS;SUCK SMALL ROTATIONS",
  "1DA39 SIGNWRITING BREATH |INHALE;EXHALE",
  "1DA3B SIGNWRITING MOUTH CLOSED |NEUTRAL;FORWARD;CONTACT",
  "1DA3E SIGNWRITING MOUTH |SMILE;SMILE WRINKLED;SMILE OPEN;FROWN;FROWN WRINKLED;FROWN OPEN",
  "1DA44 SIGNWRITING MOUTH OPEN |CIRCLE;FORWARD;WRINKLED;OVAL;OVAL WRINKLED;OVAL YAWN;RECTANGLE",
  "1DA4B SIGNWRITING MOUTH OPEN RECTANGLE |WRINKLED;YAWN",
  "1DA4D SIGNWRITING MOUTH |KISS;KISS FORWARD;KISS WRINKLED;TENSE;TENSE FORWARD;TENSE SUCKED",
  "1DA53 SIGNWRITING |LIPS PRESSED TOGETHER;LIP LOWER OVER UPPER;LIP UPPER OVER LOWER",
  "1DA56 SIGNWRITING MOUTH |CORNERS;WRINKLES SINGLE;WRINKLES DOUBLE",
  "1DA59 SIGNWRITING TONGUE |STICKING OUT FAR;LICKING LIPS;TIP BETWEEN LIPS",
  "1DA5C SIGNWRITING TONGUE |TIP TOUCHING INSIDE MOUTH;INSIDE MOUTH RELAXED;MOVES AGAINST CHEEK",
  "1DA5F SIGNWRITING |TONGUE CENTRE STICKING OUT;TONGUE CENTRE INSIDE MOUTH;TEETH;TEETH MOVEMENT",
  "1DA63 SIGNWRITING TEETH |ON TONGUE;ON TONGUE MOVEMENT;ON LIPS;ON LIPS MOVEMENT;BITE LIPS",
  "1DA68 SIGNWRITING |MOVEMENT-WALLPLANE JAW;MOVEMENT-FLOORPLANE JAW;NECK;HAIR;EXCITEMENT",
  "1DA6D SIGNWRITING |SHOULDER HIP SPINE;SHOULDER HIP POSITIONS;WALLPLANE SHOULDER HIP MOVE",
  "1DA70 SIGNWRITING |FLOORPLANE SHOULDER HIP MOVE;SHOULDER TILTING FROM WAIST",
  "1DA72 SIGNWRITING TORSO-|WALLPLANE STRAIGHT STRETCH;WALLPLANE CURVED BEND;FLOORPLANE TWISTING",
  "1DA75 SIGNWRITING |UPPER BODY TILTING FROM HIP JOINTS;LIMB COMBINATION",
  "1DA77 SIGNWRITING LIMB LENGTH-|1;2;3;4;5;6;7",
  "1DA7E SIGNWRITING |FINGER;LOCATION-WALLPLANE SPACE;LOCATION-FLOORPLANE SPACE",
  "1DA81 SIGNWRITING LOCATION |HEIGHT;WIDTH;DEPTH;HEAD NECK;TORSO;LIMBS DIGITS",
  "1DA87 SIGNWRITING |COMMA;FULL STOP;SEMICOLON;COLON;PARENTHESIS",
  "1DA9B SIGNWRITING FILL MODIFIER-|2;3;4;5;6",
  "1DAA1 SIGNWRITING ROTATION MODIFIER-|2;3;4;5;6;7;8;9;10;11;12;13;14;15;16",
  "1DF00 LATIN SMALL LETTER |FENG DIGRAPH WITH TRILL;REVERSED SCRIPT G",
  "1DF02 LATIN LETTER SMALL CAPITAL TURNED |G",
  "1DF03 LATIN |SMALL LETTER REVERSED K;LETTER SMALL CAPITAL L WITH BELT",
  "1DF05 LATIN SMALL LETTER |LEZH WITH RETROFLEX HOOK;TURNED Y WITH BELT",
  "1DF07 LATIN SMALL LETTER |REVERSED ENG;TURNED R WITH LONG LEG AND RETROFLEX HOOK",
  "1DF09 LATIN SMALL LETTER T WITH HOOK AND RETROFLEX |HOOK",
  "1DF0A LATIN LETTER RETROFLEX CLICK WITH RETROFLEX |HOOK",
  "1DF0B LATIN SMALL LETTER |ESH WITH DOUBLE BAR;ESH WITH DOUBLE BAR AND CURL;TURNED T WITH CURL",
  "1DF0E LATIN LETTER |INVERTED GLOTTAL STOP WITH CURL;STRETCHED C WITH CURL",
  "1DF10 LATIN |LETTER SMALL CAPITAL TURNED K;SMALL LETTER L WITH FISHHOOK",
  "1DF12 LATIN SMALL LETTER |DEZH DIGRAPH WITH PALATAL HOOK;L WITH BELT AND PALATAL HOOK",
  "1DF14 LATIN SMALL LETTER |ENG WITH PALATAL HOOK;TURNED R WITH PALATAL HOOK",
  "1DF16 LATIN SMALL LETTER |R WITH FISHHOOK AND PALATAL HOOK;TESH DIGRAPH WITH PALATAL HOOK",
  "1DF18 LATIN SMALL LETTER |EZH WITH PALATAL HOOK;DEZH DIGRAPH WITH RETROFLEX HOOK",
  "1DF1A LATIN SMALL LETTER |I WITH STROKE AND RETROFLEX HOOK;O WITH RETROFLEX HOOK",
  "1DF1C LATIN SMALL LETTER |TESH DIGRAPH WITH RETROFLEX HOOK;C WITH RETROFLEX HOOK;S WITH CURL",
  "1E000 COMBINING GLAGOLITIC LETTER |AZU;BUKY;VEDE;GLAGOLI;DOBRO;YESTU;ZHIVETE",
  "1E008 COMBINING GLAGOLITIC LETTER |ZEMLJA;IZHE;INITIAL IZHE;I;DJERVI;KAKO;LJUDIJE",
  "1E00F COMBINING GLAGOLITIC LETTER |MYSLITE;NASHI;ONU;POKOJI;RITSI;SLOVO;TVRIDO;UKU;FRITU;HERU",
  "1E01B COMBINING GLAGOLITIC LETTER |SHTA;TSI;CHRIVI;SHA;YERU;YERI;YATI",
  "1E023 COMBINING GLAGOLITIC LETTER |YU;SMALL YUS",
  "1E026 COMBINING GLAGOLITIC LETTER |YO;IOTATED SMALL YUS;BIG YUS;IOTATED BIG YUS;FITA",
  "1E100 NYIAKENG PUACHUE HMONG LETTER |MA;TSA;NTA;TA;HA;NA;XA;NKA;CA;LA;SA",
  "1E10B NYIAKENG PUACHUE HMONG LETTER |ZA;NCA;NTSA;KA;DA;NYA;NRA;VA;NTXA;TXA;FA;RA;QA;YA;NQA;PA",
  "1E11B NYIAKENG PUACHUE HMONG LETTER |XYA;NPA;DLA;NPLA;HAH;MLA;PLA;GA;RRA;A;AA;I;U;O;OO;E;EE;W",
  "1E130 NYIAKENG PUACHUE HMONG TONE-|B;M;J;V;S;G;D",
  "1E137 NYIAKENG PUACHUE HMONG SIGN FOR |PERSON;THING;LOCATION;ANIMAL;INVERTEBRATE",
  "1E13C NYIAKENG PUACHUE HMONG |SIGN XW XW;SYLLABLE LENGTHENER",
  "1E140 NYIAKENG PUACHUE HMONG DIGIT |ZERO;ONE;TWO;THREE;FOUR;FIVE;SIX;SEVEN;EIGHT;NINE",
  "1E14E NYIAKENG PUACHUE HMONG |LOGOGRAM NYAJ;CIRCLED CA",
  "1E290 TOTO LETTER |PA;BA;TA;DA;KA;GA;MA;NA;NGA;SA;CHA;YA;WA;JA;HA;RA",
  "1E2A0 TOTO LETTER |LA;I;BREATHY I;IU;BREATHY IU;U;E;BREATHY E;EO;BREATHY EO;O;AE;BREATHY AE;A",
  "1E2AE TOTO SIGN RISING |TONE",
  "1E2C0 WANCHO LETTER |AA;A;BA;CA;DA;GA;YA;PHA;LA;NA;PA;TA;THA;FA;SA;SHA;JA;ZA;WA;VA;KA;O;AU;RA",
  "1E2D8 WANCHO LETTER |MA;KHA;HA;E;I;NGA;U;LLHA;TSA;TRA;ONG;AANG;ANG;ING;ON;EN;AAN;NYA;UEN;YIH",
  "1E2EC WANCHO TONE |TUP;TUPNI;KOI;KOINI",
  "1E2F0 WANCHO DIGIT |ZERO;ONE;TWO;THREE;FOUR;FIVE;SIX;SEVEN;EIGHT;NINE",
  "1E2FF WANCHO NGUN |SIGN",
  "1E7E0 ETHIOPIC SYLLABLE |HHYA;HHYU;HHYI;HHYAA;HHYEE;HHYE;HHYO",
  "1E7E8 ETHIOPIC SYLLABLE |GURAGE HHWA;HHWI;HHWEE;HHWE",
  "1E7ED ETHIOPIC SYLLABLE GURAGE |MWI;MWEE",
  "1E7F0 ETHIOPIC SYLLABLE GURAGE |QWI",
  "1E7F1 ETHIOPIC SYLLABLE GURAGE |QWEE;QWE;BWI;BWEE;KWI;KWEE;KWE;GWI;GWEE;GWE;FWI;FWEE;PWI;PWEE",
  "1E800 MENDE KIKAKUI SYLLABLE M001 |KI",
  "1E801 MENDE KIKAKUI SYLLABLE |M002 KA;M003 KU;M065 KEE;M095 KE;M076 KOO;M048 KO;M179 KUA",
  "1E808 MENDE KIKAKUI SYLLABLE |M004 WI;M005 WA;M006 WU;M126 WEE;M118 WE;M114 WOO;M045 WO",
  "1E80F MENDE KIKAKUI SYLLABLE |M194 WUI;M143 WEI;M061 WVI;M049 WVA;M139 WVE;M007 MIN;M008 MAN",
  "1E816 MENDE KIKAKUI SYLLABLE |M009 MUN;M059 MEN;M094 MON;M154 MUAN;M189 MUEN;M010 BI;M011 BA",
  "1E81D MENDE KIKAKUI SYLLABLE |M012 BU;M150 BEE;M097 BE;M103 BOO;M138 BO;M013 I;M014 A;M015 U",
  "1E825 MENDE KIKAKUI SYLLABLE |M163 EE;M100 E;M165 OO;M147 O;M137 EI;M131 IN;M135 IN;M195 AN",
  "1E82D MENDE KIKAKUI SYLLABLE |M178 EN;M019 SI;M020 SA;M021 SU;M162 SEE;M116 SE;M136 SOO",
  "1E834 MENDE KIKAKUI SYLLABLE |M079 SO;M196 SIA;M025 LI;M026 LA;M027 LU;M084 LEE;M073 LE",
  "1E83B MENDE KIKAKUI SYLLABLE |M054 LOO;M153 LO;M110 LONG LE;M016 DI;M017 DA;M018 DU;M089 DEE",
  "1E842 MENDE KIKAKUI SYLLABLE |M180 DOO;M181 DO;M022 TI;M023 TA;M024 TU;M091 TEE;M055 TE",
  "1E849 MENDE KIKAKUI SYLLABLE |M104 TOO;M069 TO;M028 JI;M029 JA;M030 JU;M157 JEE;M113 JE",
  "1E850 MENDE KIKAKUI SYLLABLE |M160 JOO;M063 JO;M175 LONG JO;M031 YI;M032 YA;M033 YU;M109 YEE",
  "1E857 MENDE KIKAKUI SYLLABLE |M080 YE;M141 YOO;M121 YO;M034 FI;M035 FA;M036 FU;M078 FEE",
  "1E85E MENDE KIKAKUI SYLLABLE |M075 FE;M133 FOO;M088 FO;M197 FUA;M101 FAN;M037 NIN;M038 NAN",
  "1E865 MENDE KIKAKUI SYLLABLE |M039 NUN;M117 NEN;M169 NON;M176 HI;M041 HA;M186 HU;M040 HEE",
  "1E86C MENDE KIKAKUI SYLLABLE |M096 HE;M042 HOO;M140 HO;M083 HEEI;M128 HOOU;M053 HIN;M130 HAN",
  "1E873 MENDE KIKAKUI SYLLABLE |M087 HUN;M052 HEN;M193 HON;M046 HUAN;M090 NGGI;M043 NGGA",
  "1E879 MENDE KIKAKUI SYLLABLE |M082 NGGU;M115 NGGEE;M146 NGGE;M156 NGGOO;M120 NGGO;M159 NGGAA",
  "1E87F MENDE KIKAKUI SYLLABLE |M127 NGGUA;M086 LONG NGGE;M106 LONG NGGOO;M183 LONG NGGO;M155 GI",
  "1E884 MENDE KIKAKUI SYLLABLE |M111 GA;M168 GU;M190 GEE;M166 GUEI;M167 GUAN;M184 NGEN;M057 NGON",
  "1E88B MENDE KIKAKUI SYLLABLE |M177 NGUAN;M068 PI;M099 PA;M050 PU;M081 PEE;M051 PE;M102 POO",
  "1E892 MENDE KIKAKUI SYLLABLE |M066 PO;M145 MBI;M062 MBA;M122 MBU;M047 MBEE;M188 MBEE;M072 MBE",
  "1E899 MENDE KIKAKUI SYLLABLE |M172 MBOO;M174 MBO;M187 MBUU;M161 LONG MBE;M105 LONG MBOO",
  "1E89E MENDE KIKAKUI SYLLABLE |M142 LONG MBO;M132 KPI;M092 KPA;M074 KPU;M044 KPEE;M108 KPE",
  "1E8A4 MENDE KIKAKUI SYLLABLE |M112 KPOO;M158 KPO;M124 GBI;M056 GBA;M148 GBU;M093 GBEE;M107 GBE",
  "1E8AB MENDE KIKAKUI SYLLABLE |M071 GBOO;M070 GBO;M171 RA;M123 NDI;M129 NDA;M125 NDU;M191 NDEE",
  "1E8B2 MENDE KIKAKUI SYLLABLE |M119 NDE;M067 NDOO;M064 NDO;M152 NJA;M192 NJU;M149 NJEE",
  "1E8B8 MENDE KIKAKUI SYLLABLE |M134 NJOO;M182 VI;M185 VA;M151 VU;M173 VEE;M085 VE;M144 VOO",
  "1E8BF MENDE KIKAKUI SYLLABLE |M077 VO;M164 NYIN;M058 NYAN;M170 NYUN;M098 NYEN;M060 NYON",
  "1E8C7 MENDE KIKAKUI DIGIT |ONE;TWO;THREE;FOUR;FIVE;SIX;SEVEN;EIGHT;NINE",
  "1E8D0 MENDE KIKAKUI COMBINING NUMBER |TEENS;TENS;HUNDREDS",
  "1E8D3 MENDE KIKAKUI COMBINING NUMBER |THOUSANDS;TEN THOUSANDS;HUNDRED THOUSANDS;MILLIONS",
  "1E900 ADLAM CAPITAL LETTER |ALIF;DAALI;LAAM;MIIM;BA;SINNYIIYHE;PE;BHE;RA;E;FA;I;O;DHA;YHE;WAW",
  "1E910 ADLAM CAPITAL LETTER |NUN;KAF;YA;U;JIIM;CHI;HA;QAAF;GA;NYA;TU;NHA;VA;KHA;GBE;ZAL;KPO;SHA",
  "1E922 ADLAM SMALL LETTER |ALIF;DAALI;LAAM;MIIM;BA;SINNYIIYHE;PE;BHE;RA;E;FA;I;O;DHA;YHE;WAW",
  "1E932 ADLAM SMALL LETTER |NUN;KAF;YA;U;JIIM;CHI;HA;QAAF;GA;NYA;TU;NHA;VA;KHA;GBE;ZAL;KPO;SHA",
  "1E944 ADLAM |ALIF LENGTHENER;VOWEL LENGTHENER;GEMINATION MARK",
  "1E947 ADLAM |HAMZA;CONSONANT MODIFIER;GEMINATE CONSONANT MODIFIER;NUKTA;NASALIZATION MARK",
  "1E950 ADLAM DIGIT |ZERO;ONE;TWO;THREE;FOUR;FIVE;SIX;SEVEN;EIGHT;NINE",
  "1E95E ADLAM INITIAL |EXCLAMATION MARK;QUESTION MARK",
  "1EC71 INDIC SIYAQ NUMBER |ONE;TWO;THREE;FOUR;FIVE;SIX;SEVEN;EIGHT;NINE;TEN;TWENTY;THIRTY",
  "1EC7D INDIC SIYAQ NUMBER |FORTY;FIFTY;SIXTY;SEVENTY;EIGHTY;NINETY;ONE HUNDRED;TWO HUNDRED",
  "1EC85 INDIC SIYAQ NUMBER |THREE HUNDRED;FOUR HUNDRED;FIVE HUNDRED;SIX HUNDRED;SEVEN HUNDRED",
  "1EC8A INDIC SIYAQ NUMBER |EIGHT HUNDRED;NINE HUNDRED;ONE THOUSAND;TWO THOUSAND;THREE THOUSAND",
  "1EC8F INDIC SIYAQ NUMBER |FOUR THOUSAND;FIVE THOUSAND;SIX THOUSAND;SEVEN THOUSAND",
  "1EC93 INDIC SIYAQ NUMBER |EIGHT THOUSAND;NINE THOUSAND;TEN THOUSAND;TWENTY THOUSAND",
  "1EC97 INDIC SIYAQ NUMBER |THIRTY THOUSAND;FORTY THOUSAND;FIFTY THOUSAND;SIXTY THOUSAND",
  "1EC9B INDIC SIYAQ NUMBER |SEVENTY THOUSAND;EIGHTY THOUSAND;NINETY THOUSAND;LAKH;LAKHAN",
  "1ECA0 INDIC SIYAQ |LAKH MARK;NUMBER KAROR;NUMBER KARORAN",
  "1ECA3 INDIC SIYAQ NUMBER PREFIXED |ONE;TWO;THREE;FOUR;FIVE;SIX;SEVEN;EIGHT;NINE",
  "1ECAC INDIC SIYAQ |PLACEHOLDER",
  "1ECAD INDIC SIYAQ |FRACTION ONE QUARTER;FRACTION ONE HALF;FRACTION THREE QUARTERS;RUPEE MARK",
  "1ECB1 INDIC SIYAQ NUMBER ALTERNATE |ONE;TWO;TEN THOUSAND",
  "1ECB4 INDIC SIYAQ ALTERNATE LAKH |MARK",
  "1ED01 OTTOMAN SIYAQ NUMBER |ONE;TWO;THREE;FOUR;FIVE;SIX;SEVEN;EIGHT;NINE;TEN",
  "1ED0B OTTOMAN SIYAQ NUMBER |TWENTY;THIRTY;FORTY;FIFTY;SIXTY;SEVENTY;EIGHTY;NINETY;ONE HUNDRED",
  "1ED14 OTTOMAN SIYAQ NUMBER |TWO HUNDRED;THREE HUNDRED;FOUR HUNDRED;FIVE HUNDRED;SIX HUNDRED",
  "1ED19 OTTOMAN SIYAQ NUMBER |SEVEN HUNDRED;EIGHT HUNDRED;NINE HUNDRED;ONE THOUSAND;TWO THOUSAND",
  "1ED1E OTTOMAN SIYAQ NUMBER |THREE THOUSAND;FOUR THOUSAND;FIVE THOUSAND;SIX THOUSAND",
  "1ED22 OTTOMAN SIYAQ NUMBER |SEVEN THOUSAND;EIGHT THOUSAND;NINE THOUSAND;TEN THOUSAND",
  "1ED26 OTTOMAN SIYAQ NUMBER |TWENTY THOUSAND;THIRTY THOUSAND;FORTY THOUSAND;FIFTY THOUSAND",
  "1ED2A OTTOMAN SIYAQ NUMBER |SIXTY THOUSAND;SEVENTY THOUSAND;EIGHTY THOUSAND;NINETY THOUSAND",
  "1ED2E OTTOMAN SIYAQ |MARRATAN",
  "1ED2F OTTOMAN SIYAQ ALTERNATE NUMBER |TWO;THREE;FOUR;FIVE;SIX;SEVEN;EIGHT;NINE",
  "1ED37 OTTOMAN SIYAQ ALTERNATE NUMBER |TEN;FOUR HUNDRED;SIX HUNDRED;TWO THOUSAND;TEN THOUSAND",
  "1ED3C OTTOMAN SIYAQ FRACTION ONE |HALF;SIXTH",
  "1EE00 ARABIC MATHEMATICAL |ALEF;BEH;JEEM;DAL",
  "1EE05 ARABIC MATHEMATICAL |WAW;ZAIN;HAH;TAH;YEH;KAF;LAM;MEEM;NOON",
  "1EE0E ARABIC MATHEMATICAL |SEEN;AIN;FEH;SAD;QAF;REH;SHEEN;TEH;THEH;KHAH;THAL;DAD;ZAH;GHAIN",
  "1EE1C ARABIC MATHEMATICAL DOTLESS |BEH;NOON;FEH;QAF",
  "1EE21 ARABIC MATHEMATICAL INITIAL |BEH;JEEM",
  "1EE24 ARABIC MATHEMATICAL INITIAL |HEH",
  "1EE27 ARABIC MATHEMATICAL INITIAL |HAH",
  "1EE29 ARABIC MATHEMATICAL INITIAL |YEH;KAF;LAM;MEEM;NOON;SEEN;AIN;FEH;SAD;QAF",
  "1EE34 ARABIC MATHEMATICAL INITIAL |SHEEN;TEH;THEH;KHAH",
  "1EE39 ARABIC MATHEMATICAL INITIAL |DAD",
  "1EE3B ARABIC MATHEMATICAL INITIAL |GHAIN",
  "1EE42 ARABIC MATHEMATICAL TAILED |JEEM",
  "1EE47 ARABIC MATHEMATICAL TAILED |HAH",
  "1EE49 ARABIC MATHEMATICAL TAILED |YEH",
  "1EE4B ARABIC MATHEMATICAL TAILED |LAM",
  "1EE4D ARABIC MATHEMATICAL TAILED |NOON;SEEN;AIN",
  "1EE51 ARABIC MATHEMATICAL TAILED |SAD;QAF",
  "1EE54 ARABIC MATHEMATICAL TAILED |SHEEN",
  "1EE57 ARABIC MATHEMATICAL TAILED |KHAH",
  "1EE59 ARABIC MATHEMATICAL TAILED |DAD",
  "1EE5B ARABIC MATHEMATICAL TAILED |GHAIN",
  "1EE5D ARABIC MATHEMATICAL TAILED DOTLESS |NOON",
  "1EE5F ARABIC MATHEMATICAL TAILED DOTLESS |QAF",
  "1EE61 ARABIC MATHEMATICAL STRETCHED |BEH;JEEM",
  "1EE64 ARABIC MATHEMATICAL STRETCHED |HEH",
  "1EE67 ARABIC MATHEMATICAL STRETCHED |HAH;TAH;YEH;KAF",
  "1EE6C ARABIC MATHEMATICAL STRETCHED |MEEM;NOON;SEEN;AIN;FEH;SAD;QAF",
  "1EE74 ARABIC MATHEMATICAL STRETCHED |SHEEN;TEH;THEH;KHAH",
  "1EE79 ARABIC MATHEMATICAL STRETCHED |DAD;ZAH;GHAIN;DOTLESS BEH",
  "1EE7E ARABIC MATHEMATICAL STRETCHED DOTLESS |FEH",
  "1EE80 ARABIC MATHEMATICAL LOOPED |ALEF;BEH;JEEM;DAL;HEH;WAW;ZAIN;HAH;TAH;YEH",
  "1EE8B ARABIC MATHEMATICAL LOOPED |LAM;MEEM;NOON;SEEN",
  "1EE8F ARABIC MATHEMATICAL LOOPED |AIN;FEH;SAD;QAF;REH;SHEEN;TEH;THEH;KHAH;THAL;DAD;ZAH;GHAIN",
  "1EEA1 ARABIC MATHEMATICAL DOUBLE-STRUCK |BEH;JEEM;DAL",
  "1EEA5 ARABIC MATHEMATICAL DOUBLE-STRUCK |WAW;ZAIN;HAH;TAH;YEH",
  "1EEAB ARABIC MATHEMATICAL DOUBLE-STRUCK |LAM;MEEM;NOON;SEEN;AIN;FEH",
  "1EEB1 ARABIC MATHEMATICAL DOUBLE-STRUCK |SAD;QAF;REH;SHEEN;TEH;THEH;KHAH;THAL;DAD;ZAH;GHAIN",
  "1EEF0 ARABIC MATHEMATICAL OPERATOR |MEEM WITH HAH WITH TATWEEL;HAH WITH DAL"]

end ElementLocator.Regex.CharacterName
