import MatView.Unicode.Upper

/-!
# Tokens of statements

A statement is a sequence of names, constants and symbols. Reserved words are names that are written
without quotes; whether one is meant is decided where it is read.

## Main definitions

* `quoted`: a text between quotes.
* `Ident`: a name, with the quotes it is written in.
* `Mark`: what tells a constant from a plain text between quotes.
* `Token`: the tokens.
* `Token.keyword?`: the reserved word that a token may be.
-/

namespace MatView.Sql

/-- A text with its quotes doubled. A quote behind a backslash stays single, and so do quotes that
are doubled already. -/
def escape (quote : Char) : Char → List Char → List Char
  | _, [] => []
  | previous, [c] => if c == quote && previous != '\\' then [c, c] else [c]
  | previous, c :: d :: rest =>
    if c == quote then
      if previous == '\\' then c :: escape quote previous (d :: rest)
      else if d == quote then c :: d :: escape quote c rest
      else c :: c :: escape quote c (d :: rest)
    else c :: escape quote c (d :: rest)

/-- A text between quotes. -/
def quoted (quote : Char) (text : String) : String :=
  String.ofList (quote :: escape quote ' ' text.toList ++ [quote])

/-- A name, and the character it is quoted with. -/
structure Ident where
  value : String
  quote? : Option Char
  deriving DecidableEq

namespace Ident

/-- The name as it is written. -/
def text (name : Ident) : String :=
  match name.quote? with
  | none => name.value
  | some quote => quoted quote name.value

/-- The name between its quotes as it is, with none of them doubled. -/
def plainText (name : Ident) : String :=
  match name.quote? with
  | none => name.value
  | some quote => quote.toString ++ name.value ++ quote.toString

@[simp] theorem text_plain (value : String) : text ⟨value, none⟩ = value := rfl

end Ident

/-- The text of a dotted name. -/
def dotted (parts : List Ident) : String :=
  ".".intercalate (parts.map Ident.text)

/-- What tells a constant from a plain text between quotes. -/
inductive Mark
  /-- Written as `E'…'`, with backslashes for what cannot stand between quotes. -/
  | escaped
  /-- Written as `U&'…'`, with code points for what is not ASCII. -/
  | unicode
  /-- Written as it is between two texts, such as `X'` and a quote. -/
  | verbatim (opening closing : String)
  deriving DecidableEq

namespace Mark

/-- The mark of a letter before a text between quotes. -/
def letter (letter : Char) (quotes : String) : Mark :=
  .verbatim (letter.toString ++ quotes) quotes

/-- The mark of hexadecimal digits. -/
def hexadecimal : Mark := letter 'X' "'"

/-- The mark of a text in the national character set. -/
def national : Mark := letter 'N' "'"

/-- A character between the quotes of an escaped constant. -/
def escapedChar : Char → List Char
  | '\'' => ['\\', '\'']
  | '\\' => ['\\', '\\']
  | '\n' => ['\\', 'n']
  | '\t' => ['\\', 't']
  | '\r' => ['\\', 'r']
  | c => [c]

/-- The upper-case hexadecimal digits of a number, at least `width` of them. -/
def hexDigits (width n : Nat) : List Char :=
  let digits := (Nat.toDigits 16 n).map Char.toUpper
  List.replicate (width - digits.length) '0' ++ digits

/-- A character between the quotes of a constant that is written with code points. -/
def unicodeChar (c : Char) : List Char :=
  if c == '\'' || c == '\\' then [c, c]
  else if c.toNat < 0x80 then [c]
  else if c.toNat ≤ 0xFFFF then '\\' :: hexDigits 4 c.toNat
  else '\\' :: '+' :: hexDigits 6 c.toNat

/-- A constant with its mark, as it is written. -/
def text (mark : Mark) (value : String) : String :=
  match mark with
  | escaped => "E'" ++ String.ofList (value.toList.flatMap escapedChar) ++ "'"
  | unicode => "U&'" ++ String.ofList (value.toList.flatMap unicodeChar) ++ "'"
  | verbatim opening closing => opening ++ value ++ closing

end Mark

/-- What a statement is made of. -/
inductive Token
  | word (name : Ident)
  /-- A number as it is written, and whether it is marked as long. -/
  | number (text : String) (long : Bool)
  /-- A text between single quotes. -/
  | literal (value : String)
  /-- A text between quotes with a mark. -/
  | constant (mark : Mark) (value : String)
  /-- A place that is filled in later. -/
  | placeholder (text : String)
  | symbol (text : String)
  deriving DecidableEq

namespace Token

/-- The reserved word that a token may be, in upper case. -/
def keyword? : Token → Option String
  | word ⟨value, none⟩ => some (Unicode.upper value)
  | _ => none

/-- Whether a token is one of some reserved words. -/
def isAmong (t : Token) (words : List String) : Bool :=
  t.keyword?.any words.contains

/-- The token as a part of the name of an operator. -/
def text : Token → String
  | word name => name.plainText
  | number text long => if long then text ++ "L" else text
  | literal value => "'" ++ value ++ "'"
  | constant .escaped value => "E'" ++ value ++ "'"
  | constant .unicode value => "U&'" ++ value ++ "'"
  | constant mark value => mark.text value
  | placeholder text => text
  | symbol text => text

end Token

end MatView.Sql
