import ElementLocator.Text.Printable
import ElementLocator.Text.Utf8

/-! # Literals in messages

    The form in which a message shows a text or bytes: between single quotes, or between
    double quotes if the text holds a single quote and no double quote, with unprintable
    characters escaped. -/

namespace ElementLocator.Text.Literal

/-- The last `width` hexadecimal digits of a number. -/
def hexDigits : (width : Nat) → Nat → List Char
  | 0, _ => []
  | w + 1, n => hexDigits w (n / 16) ++ [Nat.digitChar (n % 16)]

/-- The quote that a literal stands between. -/
def quoteFor (cs : List Char) : Char :=
  if cs.contains '\'' && !cs.contains '"' then '"' else '\''

/-- How a control or quote character common to text and bytes is escaped. -/
def escapeCommon? (quote c : Char) : Option (List Char) :=
  if c = quote || c = '\\' then some ['\\', c]
  else if c = '\n' then some ['\\', 'n']
  else if c = '\r' then some ['\\', 'r']
  else if c = '\t' then some ['\\', 't']
  else none

/-- How one character of a text literal is written. -/
def escapeChar (quote c : Char) : List Char :=
  match escapeCommon? quote c with
  | some e => e
  | none =>
    if Printable.isPrintable c then [c]
    else if c.toNat < 0x100 then '\\' :: 'x' :: hexDigits 2 c.toNat
    else if c.toNat < 0x10000 then '\\' :: 'u' :: hexDigits 4 c.toNat
    else '\\' :: 'U' :: hexDigits 8 c.toNat

/-- The literal of a text. -/
def ofChars (cs : List Char) : String :=
  let q := quoteFor cs
  String.ofList (q :: cs.flatMap (escapeChar q) ++ [q])

/-- The literal of a text. -/
def ofString (s : String) : String := ofChars s.toList

/-- How one byte of a byte literal is written. -/
def escapeByte (quote : Char) (b : UInt8) : List Char :=
  let c := Char.ofNat b.toNat
  match escapeCommon? quote c with
  | some e => e
  | none => if 0x20 ≤ b ∧ b < 0x7F then [c] else '\\' :: 'x' :: hexDigits 2 b.toNat

/-- The literal of a byte sequence. -/
def ofBytes (bs : List UInt8) : String :=
  let q := quoteFor (bs.map fun b => Char.ofNat b.toNat)
  String.ofList ('b' :: q :: bs.flatMap (escapeByte q) ++ [q])

/-- The literal of the character a reader met, where the end of the text counts as NUL. -/
def ofFound (c : Option Char) : String := ofChars [c.getD '\x00']

end ElementLocator.Text.Literal
