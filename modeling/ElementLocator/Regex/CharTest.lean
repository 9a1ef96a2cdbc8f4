import ElementLocator.Regex.Syntax
import ElementLocator.Text.Blank
import ElementLocator.Text.Letter
import ElementLocator.Text.LetterCase
import ElementLocator.Text.Numeral

/-! # Regular expressions: tests of one character

    What a piece that takes one character asks of it, with the flags worked in. Matching without
    regard to case compares lower-case letters, and counts letters as equal that share an upper
    case. A set of several entries compares an entry beyond the basic plane as it is written,
    while the character of the text is made lower-case all the same. -/

namespace ElementLocator.Regex

/-- Whether a character is of a category. -/
def Category.holds (ascii : Bool) (k : Category) (c : Char) : Bool :=
  match k with
  | .digit => if ascii then c.isDigit else Text.Numeral.isDecimal c
  | .space =>
    if ascii then c == ' ' || (9 ≤ c.toNat && c.toNat ≤ 13) else Text.isBlank c
  | .word =>
    if ascii || c.toNat < 0x80 then c.isAlphanum || c == '_'
    else Text.Letter.isLetter c || Text.Numeral.isDecimal c || Text.Numeral.isOther c

/-- The rules of case: those of ASCII, or those of Unicode. -/
structure CaseRules where
  ascii : Bool
  deriving DecidableEq, Repr

namespace CaseRules

/-- The lower-case form of a code point. -/
def lowered (r : CaseRules) (code : Nat) : Nat :=
  if r.ascii then (if 0x41 ≤ code && code ≤ 0x5A then code + 32 else code)
  else Text.LetterCase.lowerCode code

/-- The lower-case letters that match a lower-case letter without regard to case. -/
def equals (r : CaseRules) (lower : Nat) : List Nat :=
  if r.ascii then [lower] else lower :: Text.LetterCase.siblingsOf lower

/-- The code points whose lower-case form is the given one. -/
def spellings (r : CaseRules) (lower : Nat) : List Nat :=
  if r.ascii then (if 0x61 ≤ lower && lower ≤ 0x7A then [lower, lower - 32] else [lower])
  else lower :: Text.LetterCase.capitalsOf lower

/-- Whether a code point has another case. -/
def isCased (r : CaseRules) (code : Nat) : Bool :=
  if r.ascii then (Char.ofNat code).isAlpha else Text.LetterCase.isCased code

/-- Whether a code point between two has another case. -/
def anyCased (r : CaseRules) (lo hi : Nat) : Bool :=
  if r.ascii then (lo ≤ 0x5A && 0x41 ≤ hi) || (lo ≤ 0x7A && 0x61 ≤ hi)
  else Text.LetterCase.anyCased lo hi

end CaseRules

/-- The last code point of the basic plane. -/
def basicLast : Nat := 0xFFFF

namespace SetItem

/-- Whether an entry makes its set one that is compared without regard to case. -/
def isCased (r : CaseRules) : SetItem → Bool
  | .char code => basicLast < code || r.isCased code
  | .range lo hi => basicLast < hi || r.anyCased lo hi
  | .category .. => false

/-- Whether an entry holds a character as it is written. -/
def holds (ascii : Bool) (c : Char) : SetItem → Bool
  | .char code => c.toNat == code
  | .range lo hi => lo ≤ c.toNat && c.toNat ≤ hi
  | .category k negated => k.holds ascii c != negated

/-- Whether an entry holds a lower-case character without regard to case. -/
def holdsLowered (r : CaseRules) (c : Char) : SetItem → Bool
  | .char code =>
    if basicLast < code then c.toNat == code else (r.equals (r.lowered code)).contains c.toNat
  | .range lo hi =>
    ((r.equals c.toNat).any fun l => (r.spellings l).any fun x => lo ≤ x && x ≤ hi && x ≤ basicLast) ||
      (basicLast < hi &&
        ((lo ≤ c.toNat && c.toNat ≤ hi) ||
          (let upper := Text.LetterCase.upperCode c.toNat
           lo ≤ upper && upper ≤ hi)))
  | .category k negated => k.holds r.ascii c != negated

end SetItem

/-- What is asked of one character. -/
inductive CharTest
  /-- To be a code point. -/
  | literal (code : Nat)
  | notLiteral (code : Nat)
  /-- To have a lower-case form that is a code point. -/
  | lowerCase (negated : Bool) (rules : CaseRules) (code : Nat)
  /-- To be any character, perhaps except the end of a line. -/
  | any (lineEnd : Bool)
  /-- To be in a set; with `folded` its lower-case form is looked up. -/
  | oneOf (negated folded : Bool) (rules : CaseRules) (items : List SetItem)
  deriving DecidableEq, Repr

namespace CharTest

/-- Whether a character passes. -/
def holds (c : Char) : CharTest → Bool
  | literal code => c.toNat == code
  | notLiteral code => c.toNat != code
  | lowerCase negated rules code => (rules.lowered c.toNat == code) != negated
  | any lineEnd => lineEnd || c != '\n'
  | oneOf negated folded rules items =>
    if folded then
      let l := Char.ofNat (rules.lowered c.toNat)
      items.any (·.holdsLowered rules l) != negated
    else items.any (·.holds rules.ascii c) != negated

/-- Whether repeated tests move the place that the matcher remembers, character by character. -/
def leavesTrace : CharTest → Bool
  | oneOf _ folded _ _ => folded
  | _ => false

/-- The test of a character that is written out, or of its absence. -/
def ofChar (f : Flags) (negated : Bool) (code : Nat) : CharTest :=
  let rules : CaseRules := ⟨f.ascii⟩
  if !f.ignoreCase || !rules.isCased code then
    if negated then notLiteral code else literal code
  else
    match rules.equals (rules.lowered code) with
    | [lower] => lowerCase negated rules lower
    | lowers => oneOf negated true rules (lowers.map SetItem.char)

end CharTest

/-- The test that a piece of one character stands for under flags. -/
def Symbol.test (f : Flags) : Symbol → CharTest
  | char code => .ofChar f false code
  | notChar code => .ofChar f true code
  | anyChar => .any f.dotAll
  | oneOf negated items =>
    let rules : CaseRules := ⟨f.ascii⟩
    .oneOf negated (f.ignoreCase && items.any (·.isCased rules)) rules items

end ElementLocator.Regex
