import MatView.Text.Integer

/-!
# Texts between quotes

A text between quotes ends at the first quote that does not belong to it. How a quote can belong to
a text, and what a backslash means, depends on the mark before the text. Each reader starts behind
the opening quote and gives the text and what stands behind the closing quote; without a closing
quote there is no text.

## Main definitions

* `quotedBody`: a doubled quote stands for itself.
* `slashedBody`: a backslash also takes a quote into the text.
* `tripledBody`: three quotes close the text.
* `escapedBody`, `unicodeBody`: backslashes stand before codes of characters.
* `dollarBody`, `taggedBody`: dollar signs are the quotes.
-/

namespace MatView.Sql

namespace Literal

/-- The result of reading a text: the text and the rest behind it. -/
abbrev Body := Option (List Char × List Char)

/-- A text with a character before it. -/
def Body.cons (c : Char) (body : Body) : Body :=
  body.map fun (text, rest) => (c :: text, rest)

/-! ## Quotes and backslashes -/

/-- Reads a text in which a doubled quote stands for itself. -/
def quotedBody (quote : Char) : List Char → Body
  | [] => none
  | [c] => if c == quote then some ([], []) else none
  | c :: d :: rest =>
    if c == quote then
      if d == quote then (quotedBody quote rest).cons c else some ([], d :: rest)
    else (quotedBody quote (d :: rest)).cons c

/-- What a character behind a backslash stands for. -/
def slashedChar : Char → Char
  | '0' => '\x00'
  | 'a' => '\x07'
  | 'b' => '\x08'
  | 'f' => '\x0c'
  | 'n' => '\n'
  | 'r' => '\r'
  | 't' => '\t'
  | 'Z' => '\x1a'
  | c => c

/-- Reads a text between single quotes in which a doubled quote stands for itself and a backslash
takes the next character into the text. -/
def slashedBody : List Char → Body
  | [] => none
  | [c] => if c == '\'' then some ([], []) else none
  | c :: d :: rest =>
    if c == '\'' then
      if d == '\'' then (slashedBody rest).cons c else some ([], d :: rest)
    else if c == '\\' then (slashedBody rest).cons (slashedChar d)
    else (slashedBody (d :: rest)).cons c

/-- Reads a text that three quotes close. -/
def tripledBody (quote : Char) : List Char → Body
  | [] => none
  | c :: rest =>
    if c == quote && rest.take 2 == [quote, quote] then some ([], rest.drop 2)
    else (tripledBody quote rest).cons c

/-! ## Codes of characters -/

/-- The character with a code, if there is one. -/
def charOf? (code : Nat) : Option Char :=
  if code.isValidChar then some (Char.ofNat code) else none

/-- The character that a byte stands for: an ASCII character other than the first. -/
def byteChar? (digits : Option Nat) : Option Char :=
  digits.bind fun n => if 0 < n % 256 ∧ n % 256 < 128 then some (Char.ofNat (n % 256)) else none

/-- At most `n` digits in a base at the start of a text. -/
def digits (base n : Nat) (cs : List Char) : List Char :=
  (cs.take n).takeWhile fun c => (Text.digit? base c).isSome

/-- The character whose code is written in the first `n` characters, and the rest. A plus sign may
stand before the digits. -/
def codedChar? (n : Nat) (cs : List Char) : Option (Char × List Char) :=
  let written := cs.take n
  let written := if written.head? == some '+' && 1 < written.length then written.drop 1 else written
  if cs.length < n then none
  else
    ((Text.ofDigits? 16 0 written).bind charOf?).bind fun c =>
      if c == '\x00' then none else some (c, cs.drop n)

/-- What stands behind a backslash in an escaped text, and the rest. -/
def escapedChar? : List Char → Option (Char × List Char)
  | [] => none
  | 'b' :: rest => some ('\x08', rest)
  | 'f' :: rest => some ('\x0c', rest)
  | 'n' :: rest => some ('\n', rest)
  | 'r' :: rest => some ('\r', rest)
  | 't' :: rest => some ('\t', rest)
  | 'u' :: rest => codedChar? 4 rest
  | 'U' :: rest => codedChar? 8 rest
  | 'x' :: rest =>
    match digits 16 2 rest with
    | [] => some ('x', rest)
    | found =>
      (byteChar? (Text.ofDigits? 16 0 found)).map fun c => (c, rest.drop found.length)
  | c :: rest =>
    match digits 8 3 (c :: rest) with
    | [] => if c == '\x00' then none else some (c, rest)
    | found =>
      (byteChar? (Text.ofDigits? 8 0 found)).map fun d => (d, (c :: rest).drop found.length)

/-- Reads an escaped text of at most `n` characters. -/
def escapedUpTo : Nat → List Char → Body
  | 0, _ => none
  | _ + 1, [] => none
  | n + 1, c :: rest =>
    if c == '\'' then
      if rest.head? == some '\'' then (escapedUpTo n (rest.drop 1)).cons c else some ([], rest)
    else if c == '\\' then
      (escapedChar? rest).bind fun (d, after) => (escapedUpTo n after).cons d
    else (escapedUpTo n rest).cons c

/-- Reads an escaped text. -/
def escapedBody (cs : List Char) : Body :=
  escapedUpTo (cs.length + 1) cs

/-- What stands behind a backslash in a text with code points, and the rest. -/
def unicodeChar? : List Char → Option (Char × List Char)
  | '\\' :: rest => some ('\\', rest)
  | '+' :: rest => hexadecimal 6 rest
  | rest => hexadecimal 4 rest
where
  /-- The character whose code has `n` hexadecimal digits, and the rest. -/
  hexadecimal (n : Nat) (cs : List Char) : Option (Char × List Char) :=
    if cs.length < n then none
    else ((Text.ofDigits? 16 0 (cs.take n)).bind charOf?).map fun c => (c, cs.drop n)

/-- Reads a text with code points of at most `n` characters. -/
def unicodeUpTo : Nat → List Char → Body
  | 0, _ => none
  | _ + 1, [] => none
  | n + 1, c :: rest =>
    if c == '\'' then
      if rest.head? == some '\'' then (unicodeUpTo n (rest.drop 1)).cons c else some ([], rest)
    else if c == '\\' then
      (unicodeChar? rest).bind fun (d, after) => (unicodeUpTo n after).cons d
    else (unicodeUpTo n rest).cons c

/-- Reads a text with code points. -/
def unicodeBody (cs : List Char) : Body :=
  unicodeUpTo (cs.length + 1) cs

/-! ## Dollar signs -/

/-- Reads a text that two dollar signs close. -/
def dollarBody : List Char → Body
  | [] => none
  | [_] => none
  | c :: d :: rest =>
    if c == '$' && d == '$' then some ([], rest) else (dollarBody (d :: rest)).cons c

/-- The characters up to the first that differs from a tag, with that one. -/
def tagPart : List Char → List Char → List Char
  | _, [] => []
  | [], _ => []
  | t :: tag, c :: cs => if t == c then c :: tagPart tag cs else [c]

/-- Reads a text of at most `n` characters that a tag between dollar signs closes. -/
def taggedUpTo (tag : List Char) : Nat → List Char → Body
  | 0, _ => none
  | _ + 1, [] => none
  | n + 1, c :: rest =>
    if c == '$' then
      let part := tagPart tag rest
      let after := rest.drop part.length
      if part == tag && after.head? == some '$' then some ([], after.drop 1)
      else (taggedUpTo tag n after).map fun (text, behind) => (c :: part ++ text, behind)
    else (taggedUpTo tag n rest).cons c

/-- Reads a text that a tag between dollar signs closes. -/
def taggedBody (tag cs : List Char) : Body :=
  taggedUpTo tag (cs.length + 1) cs

end Literal

end MatView.Sql
