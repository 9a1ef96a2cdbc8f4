import ElementLocator.Text.Utf8

/-! # Double-quoted text

    The double-quoted form of a text in JSON, which is also a double-quoted scalar of the
    outline format: quotes, backslashes and the control characters below U+0020 are escaped,
    and every other character stands for itself. -/

namespace ElementLocator.Text.Quoted

/-- Four lower-case hexadecimal digits. -/
def hex4 (n : Nat) : List Char :=
  [Nat.digitChar (n / 4096 % 16), Nat.digitChar (n / 256 % 16), Nat.digitChar (n / 16 % 16),
    Nat.digitChar (n % 16)]

/-- How one character is written between the quotes. -/
def escape (c : Char) : List Char :=
  if c = '"' then ['\\', '"']
  else if c = '\\' then ['\\', '\\']
  else if c = '\n' then ['\\', 'n']
  else if c = '\r' then ['\\', 'r']
  else if c = '\t' then ['\\', 't']
  else if c = '\x08' then ['\\', 'b']
  else if c = '\x0c' then ['\\', 'f']
  else if c.toNat < 0x20 then '\\' :: 'u' :: hex4 c.toNat
  else [c]

/-- The text between the quotes. -/
def body (cs : List Char) : List Char := cs.flatMap escape

/-- The quoted form of a text. -/
def quote (s : String) : String := String.ofList ('"' :: body s.toList ++ ['"'])

/-- The value of a hexadecimal digit. -/
def hexValue? (c : Char) : Option Nat :=
  if '0' ≤ c ∧ c ≤ '9' then some (c.toNat - 48)
  else if 'a' ≤ c ∧ c ≤ 'f' then some (c.toNat - 87)
  else if 'A' ≤ c ∧ c ≤ 'F' then some (c.toNat - 55)
  else none

/-- The value of four hexadecimal digits. -/
def hex4? (a b c d : Char) : Option Nat := do
  let a ← hexValue? a
  let b ← hexValue? b
  let c ← hexValue? c
  let d ← hexValue? d
  return ((a * 16 + b) * 16 + c) * 16 + d

/-- The character that a one-letter escape stands for. -/
def simpleEscape? : Char → Option Char
  | '"' => some '"'
  | '\\' => some '\\'
  | '/' => some '/'
  | 'b' => some '\x08'
  | 'f' => some '\x0c'
  | 'n' => some '\n'
  | 'r' => some '\r'
  | 't' => some '\t'
  | _ => none

/-- Reads the rest of a quoted text after its opening quote, up to the closing quote: the
    text and what follows it. Two escaped surrogates make one character; a lone one has no
    character and is read as U+FFFD. -/
def readBody : List Char → Option (List Char × List Char)
  | [] => none
  | '"' :: rest => some ([], rest)
  | '\\' :: 'u' :: a :: b :: c :: d :: '\\' :: 'u' :: e :: f :: g :: h :: rest =>
    match hex4? a b c d, hex4? e f g h with
    | some hi, some lo =>
      if 0xD800 ≤ hi ∧ hi < 0xDC00 ∧ 0xDC00 ≤ lo ∧ lo < 0xE000 then
        (readBody rest).map fun (cs, r) =>
          (Char.ofNat (0x10000 + (hi - 0xD800) * 0x400 + (lo - 0xDC00)) :: cs, r)
      else
        (readBody ('\\' :: 'u' :: e :: f :: g :: h :: rest)).map fun (cs, r) =>
          ((if 0xD800 ≤ hi ∧ hi < 0xE000 then '\uFFFD' else Char.ofNat hi) :: cs, r)
    | some hi, none =>
      (readBody ('\\' :: 'u' :: e :: f :: g :: h :: rest)).map fun (cs, r) =>
        ((if 0xD800 ≤ hi ∧ hi < 0xE000 then '\uFFFD' else Char.ofNat hi) :: cs, r)
    | none, _ => none
  | '\\' :: 'u' :: a :: b :: c :: d :: rest =>
    match hex4? a b c d with
    | some n =>
      (readBody rest).map fun (cs, r) =>
        ((if 0xD800 ≤ n ∧ n < 0xE000 then '\uFFFD' else Char.ofNat n) :: cs, r)
    | none => none
  | '\\' :: e :: rest =>
    match simpleEscape? e with
    | some c => (readBody rest).map fun (cs, r) => (c :: cs, r)
    | none => none
  | c :: rest =>
    if c.toNat < 0x20 || c = '\\' then none
    else (readBody rest).map fun (cs, r) => (c :: cs, r)

end ElementLocator.Text.Quoted
