import ElementLocator.Regex.CharacterName.Ancient
import ElementLocator.Regex.CharacterName.Asian
import ElementLocator.Regex.CharacterName.Compatibility
import ElementLocator.Regex.CharacterName.Cuneiform
import ElementLocator.Regex.CharacterName.EastAsian
import ElementLocator.Regex.CharacterName.European
import ElementLocator.Regex.CharacterName.Further
import ElementLocator.Regex.CharacterName.Hieroglyph
import ElementLocator.Regex.CharacterName.Indic
import ElementLocator.Regex.CharacterName.Mathematics
import ElementLocator.Regex.CharacterName.Music
import ElementLocator.Regex.CharacterName.Phonetic
import ElementLocator.Regex.CharacterName.Picture
import ElementLocator.Regex.CharacterName.Semitic
import ElementLocator.Regex.CharacterName.Sign
import ElementLocator.Regex.CharacterName.SignWriting
import ElementLocator.Regex.CharacterName.SouthAsian

/-! # Character names

    The character that a name stands for, in Unicode 14. Names are listed in rows, in the order of
    their code points, and some are made by rule: the syllables of Hangul are named by their
    sounds, and ideographs and some other characters by their code points. Case matters only for
    the names of syllables and of unified ideographs. -/

namespace ElementLocator.Regex.CharacterName

/-- All rows. A row is the code point of its first name in hexadecimal digits, a blank, what its
    names start with, a bar, and how the names of successive code points go on, with semicolons
    between. -/
def rows : List String :=
  europeanRows ++ semiticRows ++ indicRows ++ asianRows ++ phoneticRows ++ signRows ++ eastAsianRows ++
    compatibilityRows ++ ancientRows ++ southAsianRows ++ cuneiformRows ++ hieroglyphRows ++ musicRows ++
    mathematicsRows ++ signWritingRows ++ pictureRows ++ furtherRows

/-- The number of hexadecimal digits, letters as capitals. -/
def hexNumber (ds : List Char) : Nat :=
  ds.foldl (fun n c => n * 16 + (if c.isDigit then c.toNat - 48 else c.toNat - 55)) 0

/-- The code point of a name in a row. -/
def inRow? (name : List Char) (row : String) : Option Nat :=
  let (digits, more) := row.toList.span (· != ' ')
  let (start, ends) := (more.drop 1).span (· != '|')
  if start.isPrefixOf name then
    (((String.ofList (ends.drop 1)).splitOn ";").idxOf? (String.ofList (name.drop start.length))).map
      (hexNumber digits + ·)
  else none

/-- The rest of a text after a start. -/
def after? (start : String) (cs : List Char) : Option (List Char) :=
  if start.toList.isPrefixOf cs then some (cs.drop start.length) else none

/-- The longest of several starts of a text: its place among them, and the rest of the text. -/
def longestStart? (starts : List String) (cs : List Char) : Option (Nat × List Char) :=
  starts.zipIdx.foldl (fun best (start, i) =>
    match after? start cs, best with
    | some rest, some (_, least) => if rest.length < least.length then some (i, rest) else best
    | some rest, none => some (i, rest)
    | none, best => best) none

/-- The sounds that a syllable may begin with. -/
def leading : List String :=
  ["G", "GG", "N", "D", "DD", "R", "M", "B", "BB", "S", "SS", "", "J", "JJ", "C", "K", "T", "P", "H"]

/-- The vowels of syllables. -/
def vowels : List String :=
  ["A", "AE", "YA", "YAE", "EO", "E", "YEO", "YE", "O", "WA", "WAE", "OE", "YO", "U", "WEO", "WE", "WI",
    "YU", "EU", "YI", "I"]

/-- The sounds that a syllable may end with. -/
def trailing : List String :=
  ["", "G", "GG", "GS", "N", "NJ", "NH", "D", "L", "LG", "LM", "LB", "LS", "LT", "LP", "LH", "M", "B",
    "BS", "S", "SS", "NG", "J", "C", "K", "T", "P", "H"]

/-- The code point of a syllable by its sounds: the syllables are in the order of the sounds. -/
def syllable? (cs : List Char) : Option Nat := do
  let (l, cs) ← longestStart? leading cs
  let (v, cs) ← longestStart? vowels cs
  let (t, cs) ← longestStart? trailing cs
  if cs.isEmpty then some (0xAC00 + (l * vowels.length + v) * trailing.length + t) else none

/-- The ranges of ideographs named by their code points. -/
def ideographs : List (Nat × Nat) := [
  (0x3400, 0x4DBF), (0x4E00, 0x9FFF), (0x20000, 0x2A6DF), (0x2A700, 0x2B738), (0x2B740, 0x2B81D),
  (0x2B820, 0x2CEA1), (0x2CEB0, 0x2EBE0), (0x30000, 0x3134A)]

/-- Further kinds of characters named by their code points, with their ranges. -/
def numberedKinds : List (String × List (Nat × Nat)) := [
  ("CJK COMPATIBILITY IDEOGRAPH-", [(0xF900, 0xFA6D), (0xFA70, 0xFAD9), (0x2F800, 0x2FA1D)]),
  ("KHITAN SMALL SCRIPT CHARACTER-", [(0x18B00, 0x18CD5)]),
  ("NUSHU CHARACTER-", [(0x1B170, 0x1B2FB)])]

/-- The code point that capital hexadecimal digits give, if it is in one of some ranges. -/
def numbered? (ranges : List (Nat × Nat)) (ds : List Char) : Option Nat :=
  let n := hexNumber ds
  if (ds.all fun c => c.isDigit || ('A' ≤ c && c ≤ 'F')) &&
      ranges.any (fun (lo, hi) => decide (lo ≤ n ∧ n ≤ hi)) then some n
  else none

/-- The code point of a unified ideograph by four or five digits. -/
def ideograph? (ds : List Char) : Option Nat :=
  if ds.length = 4 ∨ ds.length = 5 then numbered? ideographs ds else none

/-- The code point of another character that is named by its code point, by as many digits as it
    needs. -/
def numberedKind? (name : List Char) : Option Nat :=
  numberedKinds.findSome? fun (kind, ranges) => do
    let ds ← after? kind name
    let n ← numbered? ranges ds
    if ds.length = (if n ≤ 0xFFFF then 4 else 5) then some n else none

/-- The code point of a name that is listed or made of a kind and a number, in capitals. -/
def listed? (name : List Char) : Option Nat :=
  match numberedKind? name with
  | some n => some n
  | none => rows.findSome? (inRow? name)

/-- The character of a name. -/
def lookup? (name : String) : Option Char :=
  let code := match after? "HANGUL SYLLABLE " name.toList, after? "CJK UNIFIED IDEOGRAPH-" name.toList with
    | some sounds, _ => syllable? sounds
    | none, some digits => ideograph? digits
    | none, none => listed? (name.toList.map Char.toUpper)
  code.map Char.ofNat

end ElementLocator.Regex.CharacterName
