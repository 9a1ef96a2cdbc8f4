import ElementLocator.Text.Literal
import ElementLocator.Text.Quoted

/-! # Texts with halves of characters

    Some encodings write a character as two halves, and a text in memory can hold one of the two
    alone. Such a text can be quoted and put together like any other, but it has no bytes in UTF-8,
    so that no file can hold it.

    `Inscription` is what outlines and document values need of the texts that they are made of.
    Nearly everywhere these are sequences of characters, but an outline can be asked for of any texts
    in memory, and so can a record be read from them. -/

namespace ElementLocator

namespace Text

/-- A part of a text in memory: a character, or half of one that stands alone. -/
inductive Point
  | char (c : Char)
  | half (code : Nat)
  deriving DecidableEq, Repr

/-- A text in memory. -/
abbrev Wide := List Point

/-- Halves of characters where bytes are asked for. -/
structure HalfFault where
  /-- Their place in the text. -/
  start : Nat
  /-- The codes of those that stand there together; never empty. -/
  codes : List Nat
  deriving DecidableEq, Repr

/-- The message for halves: one is shown, several are given by their places. -/
def HalfFault.message (f : HalfFault) : String :=
  let what := match f.codes with
    | [code] => "character '\\u" ++ String.ofList (Quoted.hex4 code) ++ "' in position " ++ toString f.start
    | codes => "characters in position " ++ toString f.start ++ "-" ++ toString (f.start + codes.length - 1)
  "'utf-8' codec can't encode " ++ what ++ ": surrogates not allowed"

namespace Wide

/-- The text of characters only. -/
def ofString (s : String) : Wide := s.toList.map .char

/-- The quoted form of a text; halves stand for themselves. -/
def quote (t : Wide) : Wide :=
  let body := t.flatMap fun
    | .char c => (Quoted.escape c).map .char
    | .half code => [.half code]
  .char '"' :: body ++ [.char '"']

/-- The codes of the halves at the front of a text. -/
def halves : Wide → List Nat
  | .half code :: rest => code :: halves rest
  | _ => []

/-- The characters of a text, if it holds no halves. -/
def characters? : Wide → Option (List Char)
  | [] => some []
  | .char c :: rest => (characters? rest).map (c :: ·)
  | .half _ :: _ => none

/-- The literal by which a message shows a text; halves are escaped. -/
def literal (t : Wide) : String :=
  let q := Literal.quoteFor (t.filterMap fun | .char c => some c | .half _ => none)
  let body := t.flatMap fun
    | .char c => Literal.escapeChar q c
    | .half code => '\\' :: 'u' :: Quoted.hex4 code
  String.ofList (q :: body ++ [q])

/-- The bytes of a text from a place on. -/
def encodeFrom (start : Nat) : Wide → Except HalfFault (List UInt8)
  | [] => .ok []
  | .char c :: rest => (encodeFrom (start + 1) rest).map (Utf8.encodeChar c ++ ·)
  | .half code :: rest => .error ⟨start, code :: halves rest⟩

-- ── texts of characters only ──────────────────────────────────────────────

theorem ofString_append (s t : String) : ofString (s ++ t) = ofString s ++ ofString t := by
  rw [ofString, String.toList_append, List.map_append, ofString, ofString]

theorem isEmpty_ofString (s : String) : (ofString s).isEmpty = s.isEmpty := by
  rw [Bool.eq_iff_iff, List.isEmpty_iff, String.isEmpty_iff, ofString, List.map_eq_nil_iff, String.toList_eq_nil_iff]

theorem quote_ofString (s : String) : quote (ofString s) = ofString (Quoted.quote s) := by
  rw [quote, ofString, List.flatMap_map, ofString, Quoted.quote, String.toList_ofList, List.map_append,
    List.map_cons, Quoted.body, List.map_flatMap]
  rfl

theorem encodeFrom_ofString (s : String) (start : Nat) :
    encodeFrom start (ofString s) = .ok (Utf8.encode s.toList) := by
  rw [ofString]
  induction s.toList generalizing start with
  | nil => rfl
  | cons c rest ih =>
      rw [List.map_cons, encodeFrom, ih]
      rfl

theorem characters?_ofString (s : String) : characters? (ofString s) = some s.toList := by
  rw [ofString]
  induction s.toList with
  | nil => rfl
  | cons c rest ih =>
      rw [List.map_cons, characters?, ih]
      rfl

theorem literal_ofString (s : String) : literal (ofString s) = Literal.ofString s := by
  have hchars : (ofString s).filterMap (fun | .char c => some c | .half _ => none) = s.toList := by
    rw [ofString, List.filterMap_map]
    exact List.filterMap_some
  rw [literal, hchars, ofString, List.flatMap_map]
  rfl

end Wide

end Text

/-- Texts that outlines and document values can be made of. Sequences of characters are among them,
    and nothing is done to these otherwise. -/
class Inscription (σ : Type) where
  /-- Whether a text has no part. -/
  isEmpty : σ → Bool
  /-- The text of a sequence of characters. -/
  ofString : String → σ
  /-- One text after the other. -/
  append : σ → σ → σ
  /-- The quoted form of a text. -/
  quote : σ → σ
  /-- The bytes of a text, if it has any. -/
  encode : σ → Except Text.HalfFault (List UInt8)
  /-- The sequence of characters that a text is, if it is one. -/
  characters? : σ → Option String
  /-- The literal by which a message shows a text. -/
  literal : σ → String
  isEmpty_ofString (s : String) : isEmpty (ofString s) = s.isEmpty
  append_ofString (s t : String) : append (ofString s) (ofString t) = ofString (s ++ t)
  quote_ofString (s : String) : quote (ofString s) = ofString (Text.Quoted.quote s)
  encode_ofString (s : String) : encode (ofString s) = .ok (Text.Utf8.encode s.toList)
  characters?_ofString (s : String) : characters? (ofString s) = some s
  literal_ofString (s : String) : literal (ofString s) = Text.Literal.ofString s

namespace Inscription

instance : Inscription String where
  isEmpty := String.isEmpty
  ofString s := s
  append s t := s ++ t
  quote := Text.Quoted.quote
  encode s := .ok (Text.Utf8.encode s.toList)
  characters? s := some s
  literal := Text.Literal.ofString
  isEmpty_ofString _ := rfl
  append_ofString _ _ := rfl
  quote_ofString _ := rfl
  encode_ofString _ := rfl
  characters?_ofString _ := rfl
  literal_ofString _ := rfl

@[simp] theorem isEmpty_string (s : String) : isEmpty s = s.isEmpty := rfl
@[simp] theorem characters?_string (s : String) : characters? s = some s := rfl

instance : Inscription Text.Wide where
  isEmpty := List.isEmpty
  ofString := Text.Wide.ofString
  append s t := s ++ t
  quote := Text.Wide.quote
  encode := Text.Wide.encodeFrom 0
  characters? t := t.characters?.map String.ofList
  literal := Text.Wide.literal
  isEmpty_ofString := Text.Wide.isEmpty_ofString
  append_ofString s t := (Text.Wide.ofString_append s t).symm
  quote_ofString := Text.Wide.quote_ofString
  encode_ofString s := Text.Wide.encodeFrom_ofString s 0
  characters?_ofString s := by
    rw [Text.Wide.characters?_ofString, Option.map_some, String.ofList_toList]
  literal_ofString := Text.Wide.literal_ofString

/-- Whether a text is a sequence of characters. -/
def spells {σ : Type} [Inscription σ] (s : σ) (name : String) : Bool :=
  match characters? s with
  | some t => t == name
  | none => false

end Inscription

end ElementLocator
