/-! # Letter case

    The one-to-one case mappings of Unicode 14 and the letters that share an upper case, which is
    what matching without regard to case compares. -/

namespace ElementLocator.Text.LetterCase

/-- Runs of characters with a lower case of their own: first and last code point, the step
    between members, and the distance to the lower-case form. -/
def lowerRuns : Array (Nat × Nat × Nat × Int) := #[
  (0x41, 0x5A, 1, 32), (0xC0, 0xD6, 1, 32), (0xD8, 0xDE, 1, 32), (0x100, 0x12E, 2, 1),
  (0x130, 0x130, 1, -199), (0x132, 0x136, 2, 1), (0x139, 0x147, 2, 1), (0x14A, 0x176, 2, 1),
  (0x178, 0x178, 1, -121), (0x179, 0x17D, 2, 1), (0x181, 0x181, 1, 210), (0x182, 0x184, 2, 1),
  (0x186, 0x186, 1, 206), (0x187, 0x187, 1, 1), (0x189, 0x18A, 1, 205), (0x18B, 0x18B, 1, 1),
  (0x18E, 0x18E, 1, 79), (0x18F, 0x18F, 1, 202), (0x190, 0x190, 1, 203), (0x191, 0x191, 1, 1),
  (0x193, 0x193, 1, 205), (0x194, 0x194, 1, 207), (0x196, 0x196, 1, 211), (0x197, 0x197, 1, 209),
  (0x198, 0x198, 1, 1), (0x19C, 0x19C, 1, 211), (0x19D, 0x19D, 1, 213), (0x19F, 0x19F, 1, 214),
  (0x1A0, 0x1A4, 2, 1), (0x1A6, 0x1A6, 1, 218), (0x1A7, 0x1A7, 1, 1), (0x1A9, 0x1A9, 1, 218),
  (0x1AC, 0x1AC, 1, 1), (0x1AE, 0x1AE, 1, 218), (0x1AF, 0x1AF, 1, 1), (0x1B1, 0x1B2, 1, 217),
  (0x1B3, 0x1B5, 2, 1), (0x1B7, 0x1B7, 1, 219), (0x1B8, 0x1B8, 1, 1), (0x1BC, 0x1BC, 1, 1),
  (0x1C4, 0x1C4, 1, 2), (0x1C5, 0x1C5, 1, 1), (0x1C7, 0x1C7, 1, 2), (0x1C8, 0x1C8, 1, 1),
  (0x1CA, 0x1CA, 1, 2), (0x1CB, 0x1DB, 2, 1), (0x1DE, 0x1EE, 2, 1), (0x1F1, 0x1F1, 1, 2),
  (0x1F2, 0x1F4, 2, 1), (0x1F6, 0x1F6, 1, -97), (0x1F7, 0x1F7, 1, -56), (0x1F8, 0x21E, 2, 1),
  (0x220, 0x220, 1, -130), (0x222, 0x232, 2, 1), (0x23A, 0x23A, 1, 10795), (0x23B, 0x23B, 1, 1),
  (0x23D, 0x23D, 1, -163), (0x23E, 0x23E, 1, 10792), (0x241, 0x241, 1, 1), (0x243, 0x243, 1, -195),
  (0x244, 0x244, 1, 69), (0x245, 0x245, 1, 71), (0x246, 0x24E, 2, 1), (0x370, 0x372, 2, 1),
  (0x376, 0x376, 1, 1), (0x37F, 0x37F, 1, 116), (0x386, 0x386, 1, 38), (0x388, 0x38A, 1, 37),
  (0x38C, 0x38C, 1, 64), (0x38E, 0x38F, 1, 63), (0x391, 0x3A1, 1, 32), (0x3A3, 0x3AB, 1, 32),
  (0x3CF, 0x3CF, 1, 8), (0x3D8, 0x3EE, 2, 1), (0x3F4, 0x3F4, 1, -60), (0x3F7, 0x3F7, 1, 1),
  (0x3F9, 0x3F9, 1, -7), (0x3FA, 0x3FA, 1, 1), (0x3FD, 0x3FF, 1, -130), (0x400, 0x40F, 1, 80),
  (0x410, 0x42F, 1, 32), (0x460, 0x480, 2, 1), (0x48A, 0x4BE, 2, 1), (0x4C0, 0x4C0, 1, 15),
  (0x4C1, 0x4CD, 2, 1), (0x4D0, 0x52E, 2, 1), (0x531, 0x556, 1, 48), (0x10A0, 0x10C5, 1, 7264),
  (0x10C7, 0x10C7, 1, 7264), (0x10CD, 0x10CD, 1, 7264), (0x13A0, 0x13EF, 1, 38864), (0x13F0, 0x13F5, 1, 8),
  (0x1C90, 0x1CBA, 1, -3008), (0x1CBD, 0x1CBF, 1, -3008), (0x1E00, 0x1E94, 2, 1), (0x1E9E, 0x1E9E, 1, -7615),
  (0x1EA0, 0x1EFE, 2, 1), (0x1F08, 0x1F0F, 1, -8), (0x1F18, 0x1F1D, 1, -8), (0x1F28, 0x1F2F, 1, -8),
  (0x1F38, 0x1F3F, 1, -8), (0x1F48, 0x1F4D, 1, -8), (0x1F59, 0x1F5F, 2, -8), (0x1F68, 0x1F6F, 1, -8),
  (0x1F88, 0x1F8F, 1, -8), (0x1F98, 0x1F9F, 1, -8), (0x1FA8, 0x1FAF, 1, -8), (0x1FB8, 0x1FB9, 1, -8),
  (0x1FBA, 0x1FBB, 1, -74), (0x1FBC, 0x1FBC, 1, -9), (0x1FC8, 0x1FCB, 1, -86), (0x1FCC, 0x1FCC, 1, -9),
  (0x1FD8, 0x1FD9, 1, -8), (0x1FDA, 0x1FDB, 1, -100), (0x1FE8, 0x1FE9, 1, -8), (0x1FEA, 0x1FEB, 1, -112),
  (0x1FEC, 0x1FEC, 1, -7), (0x1FF8, 0x1FF9, 1, -128), (0x1FFA, 0x1FFB, 1, -126), (0x1FFC, 0x1FFC, 1, -9),
  (0x2126, 0x2126, 1, -7517), (0x212A, 0x212A, 1, -8383), (0x212B, 0x212B, 1, -8262), (0x2132, 0x2132, 1, 28),
  (0x2160, 0x216F, 1, 16), (0x2183, 0x2183, 1, 1), (0x24B6, 0x24CF, 1, 26), (0x2C00, 0x2C2F, 1, 48),
  (0x2C60, 0x2C60, 1, 1), (0x2C62, 0x2C62, 1, -10743), (0x2C63, 0x2C63, 1, -3814), (0x2C64, 0x2C64, 1, -10727),
  (0x2C67, 0x2C6B, 2, 1), (0x2C6D, 0x2C6D, 1, -10780), (0x2C6E, 0x2C6E, 1, -10749), (0x2C6F, 0x2C6F, 1, -10783),
  (0x2C70, 0x2C70, 1, -10782), (0x2C72, 0x2C72, 1, 1), (0x2C75, 0x2C75, 1, 1), (0x2C7E, 0x2C7F, 1, -10815),
  (0x2C80, 0x2CE2, 2, 1), (0x2CEB, 0x2CED, 2, 1), (0x2CF2, 0x2CF2, 1, 1), (0xA640, 0xA66C, 2, 1),
  (0xA680, 0xA69A, 2, 1), (0xA722, 0xA72E, 2, 1), (0xA732, 0xA76E, 2, 1), (0xA779, 0xA77B, 2, 1),
  (0xA77D, 0xA77D, 1, -35332), (0xA77E, 0xA786, 2, 1), (0xA78B, 0xA78B, 1, 1), (0xA78D, 0xA78D, 1, -42280),
  (0xA790, 0xA792, 2, 1), (0xA796, 0xA7A8, 2, 1), (0xA7AA, 0xA7AA, 1, -42308), (0xA7AB, 0xA7AB, 1, -42319),
  (0xA7AC, 0xA7AC, 1, -42315), (0xA7AD, 0xA7AD, 1, -42305), (0xA7AE, 0xA7AE, 1, -42308), (0xA7B0, 0xA7B0, 1, -42258),
  (0xA7B1, 0xA7B1, 1, -42282), (0xA7B2, 0xA7B2, 1, -42261), (0xA7B3, 0xA7B3, 1, 928), (0xA7B4, 0xA7C2, 2, 1),
  (0xA7C4, 0xA7C4, 1, -48), (0xA7C5, 0xA7C5, 1, -42307), (0xA7C6, 0xA7C6, 1, -35384), (0xA7C7, 0xA7C9, 2, 1),
  (0xA7D0, 0xA7D0, 1, 1), (0xA7D6, 0xA7D8, 2, 1), (0xA7F5, 0xA7F5, 1, 1), (0xFF21, 0xFF3A, 1, 32),
  (0x10400, 0x10427, 1, 40), (0x104B0, 0x104D3, 1, 40), (0x10570, 0x1057A, 1, 39), (0x1057C, 0x1058A, 1, 39),
  (0x1058C, 0x10592, 1, 39), (0x10594, 0x10595, 1, 39), (0x10C80, 0x10CB2, 1, 64), (0x118A0, 0x118BF, 1, 32),
  (0x16E40, 0x16E5F, 1, 32), (0x1E900, 0x1E921, 1, 34)]

/-- Lower-case letters that share their upper case with other lower-case letters. -/
def siblings : List (Nat × List Nat) := [
  (0x69, [0x131]), (0x73, [0x17F]), (0xB5, [0x3BC]), (0x131, [0x69]),
  (0x17F, [0x73]), (0x345, [0x3B9, 0x1FBE]), (0x390, [0x1FD3]), (0x3B0, [0x1FE3]),
  (0x3B2, [0x3D0]), (0x3B5, [0x3F5]), (0x3B8, [0x3D1]), (0x3B9, [0x345, 0x1FBE]),
  (0x3BA, [0x3F0]), (0x3BC, [0xB5]), (0x3C0, [0x3D6]), (0x3C1, [0x3F1]),
  (0x3C2, [0x3C3]), (0x3C3, [0x3C2]), (0x3C6, [0x3D5]), (0x3D0, [0x3B2]),
  (0x3D1, [0x3B8]), (0x3D5, [0x3C6]), (0x3D6, [0x3C0]), (0x3F0, [0x3BA]),
  (0x3F1, [0x3C1]), (0x3F5, [0x3B5]), (0x432, [0x1C80]), (0x434, [0x1C81]),
  (0x43E, [0x1C82]), (0x441, [0x1C83]), (0x442, [0x1C84, 0x1C85]), (0x44A, [0x1C86]),
  (0x463, [0x1C87]), (0x1C80, [0x432]), (0x1C81, [0x434]), (0x1C82, [0x43E]),
  (0x1C83, [0x441]), (0x1C84, [0x442, 0x1C85]), (0x1C85, [0x442, 0x1C84]), (0x1C86, [0x44A]),
  (0x1C87, [0x463]), (0x1C88, [0xA64B]), (0x1E61, [0x1E9B]), (0x1E9B, [0x1E61]),
  (0x1FBE, [0x345, 0x3B9]), (0x1FD3, [0x390]), (0x1FE3, [0x3B0]), (0xA64B, [0x1C88]),
  (0xFB05, [0xFB06]), (0xFB06, [0xFB05])]

/-- The run that holds a code point, if it has a lower case of its own. -/
def runOf? (n : Nat) : Option (Nat × Nat × Nat × Int) :=
  lowerRuns.find? fun r => r.1 ≤ n && n ≤ r.2.1 && (n - r.1) % r.2.2.1 == 0

/-- The lower-case form of a code point, by the one-to-one case mapping. -/
def lowerCode (n : Nat) : Nat :=
  if n < 0x80 then (if 0x41 ≤ n && n ≤ 0x5A then n + 32 else n)
  else match runOf? n with
    | some (_, _, _, d) => ((n : Int) + d).toNat
    | none => n

/-- The lower-case form of a character, by the one-to-one case mapping. -/
def lower (c : Char) : Char := Char.ofNat (lowerCode c.toNat)

/-- The other lower-case letters with the same upper case as a lower-case letter. -/
def siblingsOf (n : Nat) : List Nat :=
  match siblings.find? (·.1 == n) with
  | some (_, l) => l
  | none => []

/-- The code points whose lower-case form is `n`, other than `n` itself. -/
def capitalsOf (n : Nat) : List Nat :=
  lowerRuns.toList.filterMap fun r =>
    let c := (n : Int) - r.2.2.2
    if 0 ≤ c && (r.1 : Int) ≤ c && c ≤ (r.2.1 : Int) && (c.toNat - r.1) % r.2.2.1 == 0
    then some c.toNat else none

/-- Upper cases that are no plain inverse of a lower case: first and last code point, and the
    distance to the upper-case form. Where the upper case has several letters, the first counts. -/
def upperRuns : Array (Nat × Nat × Int) := #[
  (0xB5, 0xB5, 743), (0xDF, 0xDF, -140), (0x131, 0x131, -232), (0x149, 0x149, 371),
  (0x17F, 0x17F, -300), (0x1C5, 0x1C5, -1), (0x1C8, 0x1C8, -1), (0x1CB, 0x1CB, -1),
  (0x1F0, 0x1F0, -422), (0x1F2, 0x1F2, -1), (0x345, 0x345, 84), (0x390, 0x390, 9),
  (0x3B0, 0x3B0, -11), (0x3C2, 0x3C2, -31), (0x3D0, 0x3D0, -62), (0x3D1, 0x3D1, -57),
  (0x3D5, 0x3D5, -47), (0x3D6, 0x3D6, -54), (0x3F0, 0x3F0, -86), (0x3F1, 0x3F1, -80),
  (0x3F5, 0x3F5, -96), (0x587, 0x587, -82), (0x1C80, 0x1C80, -6254), (0x1C81, 0x1C81, -6253),
  (0x1C82, 0x1C82, -6244), (0x1C83, 0x1C84, -6242), (0x1C85, 0x1C85, -6243),
  (0x1C86, 0x1C86, -6236), (0x1C87, 0x1C87, -6181), (0x1C88, 0x1C88, 35266),
  (0x1E96, 0x1E96, -7758), (0x1E97, 0x1E97, -7747), (0x1E98, 0x1E98, -7745),
  (0x1E99, 0x1E99, -7744), (0x1E9A, 0x1E9A, -7769), (0x1E9B, 0x1E9B, -59), (0x1F50, 0x1F50, -7083),
  (0x1F52, 0x1F52, -7085), (0x1F54, 0x1F54, -7087), (0x1F56, 0x1F56, -7089),
  (0x1F80, 0x1F87, -120), (0x1F88, 0x1F8F, -128), (0x1F90, 0x1F97, -104), (0x1F98, 0x1F9F, -112),
  (0x1FA0, 0x1FA7, -56), (0x1FA8, 0x1FAF, -64), (0x1FB2, 0x1FB2, 8), (0x1FB3, 0x1FB3, -7202),
  (0x1FB4, 0x1FB4, -7214), (0x1FB6, 0x1FB6, -7205), (0x1FB7, 0x1FB7, -7206),
  (0x1FBC, 0x1FBC, -7211), (0x1FBE, 0x1FBE, -7205), (0x1FC2, 0x1FC2, 8), (0x1FC3, 0x1FC3, -7212),
  (0x1FC4, 0x1FC4, -7227), (0x1FC6, 0x1FC6, -7215), (0x1FC7, 0x1FC7, -7216),
  (0x1FCC, 0x1FCC, -7221), (0x1FD2, 0x1FD2, -7225), (0x1FD3, 0x1FD3, -7226),
  (0x1FD6, 0x1FD6, -7229), (0x1FD7, 0x1FD7, -7230), (0x1FE2, 0x1FE2, -7229),
  (0x1FE3, 0x1FE3, -7230), (0x1FE4, 0x1FE4, -7235), (0x1FE6, 0x1FE6, -7233),
  (0x1FE7, 0x1FE7, -7234), (0x1FF2, 0x1FF2, 8), (0x1FF3, 0x1FF3, -7242), (0x1FF4, 0x1FF4, -7269),
  (0x1FF6, 0x1FF6, -7245), (0x1FF7, 0x1FF7, -7246), (0x1FFC, 0x1FFC, -7251),
  (0xFB00, 0xFB00, -64186), (0xFB01, 0xFB01, -64187), (0xFB02, 0xFB02, -64188),
  (0xFB03, 0xFB03, -64189), (0xFB04, 0xFB04, -64190), (0xFB05, 0xFB05, -64178),
  (0xFB06, 0xFB06, -64179), (0xFB13, 0xFB13, -62927), (0xFB14, 0xFB14, -62928),
  (0xFB15, 0xFB15, -62929), (0xFB16, 0xFB16, -62920), (0xFB17, 0xFB17, -62931)]

/-- The upper-case form of a code point, or the first letter of it. -/
def upperCode (n : Nat) : Nat :=
  match upperRuns.find? fun r => r.1 ≤ n && n ≤ r.2.1 with
  | some (_, _, d) => ((n : Int) + d).toNat
  | none => (capitalsOf n).headD n

/-- Whether a code point has another lower or upper case. -/
def isCased (n : Nat) : Bool := lowerCode n != n || upperCode n != n

/-- Whether a run has a member between two numbers. -/
def runMeets (first last : Int) (step : Nat) (lo hi : Int) : Bool :=
  let start := if lo ≤ first then first else first + (lo - first + step - 1) / step * step
  start ≤ last && start ≤ hi

/-- Whether a code point between two has another lower or upper case. -/
def anyCased (lo hi : Nat) : Bool :=
  (lowerRuns.any fun (a, b, step, d) => runMeets a b step lo hi || runMeets (a + d) (b + d) step lo hi) ||
    upperRuns.any fun (a, b, _) => runMeets a b 1 lo hi

end ElementLocator.Text.LetterCase
