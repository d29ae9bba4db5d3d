import MatView.Sql.Literal
import MatView.Sql.Token
import MatView.Unicode.Blank
import MatView.Unicode.Numeric

/-!
# From texts to tokens

Blanks and comments separate tokens and are dropped. A comment runs from two hyphens to the end of
its line, or between `/*` and `*/`, where comments nest. A letter directly before a quote makes a
constant with a mark. Of the symbols that start alike the longest is taken. A text in which a quote
or a comment is left open has no tokens.

## Main definitions

* `Lexer.behindComment`, `Lexer.number`, `Lexer.marked?`: the parts with a rule of their own.
* `Lexer.step`: the first token of a text.
* `tokens?`: all tokens of a text.
-/

namespace MatView.Sql

open Literal

namespace Lexer

/-- The character that quotes names, besides the double quote. -/
def backquote : Char := Char.ofNat 96

/-- Whether a name may start with a character. -/
def isWordStart (c : Char) : Bool :=
  Unicode.isAlphabetic c || c == '_'

/-- Whether a name may go on with a character. -/
def isWordPart (c : Char) : Bool :=
  isWordStart c || c.isDigit || c == '#' || c == '@' || c == '$'

/-- A step of the lexer: the token that was read, if it was one, and the rest. -/
abbrev Step := Option Token × List Char

/-- The name that starts with some characters and goes on in the rest. -/
def word (start rest : List Char) : Step :=
  (some (.word ⟨String.ofList (start ++ rest.takeWhile isWordPart), none⟩),
    rest.dropWhile isWordPart)

/-! ## Comments -/

/-- The rest behind a comment that lies in `depth` others. The character before is `last`. -/
def behindComment : Nat → Char → List Char → Option (List Char)
  | _, _, [] => none
  | depth, last, c :: rest =>
    if last == '/' && c == '*' then behindComment (depth + 1) c rest
    else if last == '*' && c == '/' then
      match depth with
      | 0 => some rest
      | outer + 1 => behindComment outer c rest
    else behindComment depth c rest

/-! ## Numbers -/

/-- The exponent at the start of a text, and the rest behind it. Without a digit there is none. -/
def exponent (cs : List Char) : List Char × List Char :=
  match cs with
  | e :: rest =>
    if e == 'e' || e == 'E' then
      let sign := rest.take 1 |>.filter fun c => c == '+' || c == '-'
      let digits := (rest.drop sign.length).takeWhile Char.isDigit
      if digits.isEmpty then ([], cs)
      else (e :: sign ++ digits, (rest.drop sign.length).dropWhile Char.isDigit)
    else ([], cs)
  | [] => ([], [])

/-- The fraction with its point, and the rest behind it. -/
def fraction : List Char → List Char × List Char
  | '.' :: rest => ('.' :: rest.takeWhile Char.isDigit, rest.dropWhile Char.isDigit)
  | rest => ([], rest)

/-- The decimal number at the start of a text, and the rest behind it. A point alone is a symbol. -/
def decimal (cs : List Char) : Step :=
  let whole := cs.takeWhile Char.isDigit
  let (part, rest) := fraction (cs.dropWhile Char.isDigit)
  if whole.isEmpty && part == ['.'] then (some (.symbol "."), rest)
  else
    let (power, rest) := exponent rest
    let written := String.ofList (whole ++ part ++ power)
    match rest with
    | 'L' :: behind => (some (.number written true), behind)
    | _ => (some (.number written false), rest)

/-- The number at the start of a text, and the rest behind it. Digits behind `0x` are a constant of
hexadecimal digits. -/
def number : List Char → Step
  | '0' :: 'x' :: rest =>
    let found := rest.takeWhile fun c => (Text.digit? 16 c).isSome
    (some (.constant .hexadecimal (String.ofList found)), rest.drop found.length)
  | cs => decimal cs

/-! ## Constants -/

/-- A constant behind its opening quote. -/
def constant (mark : Mark) (body : Body) : Option Step :=
  body.map fun (text, rest) => (some (.constant mark (String.ofList text)), rest)

/-- A raw constant behind its letter: what one quote or three quotes enclose as it is. -/
def raw (quote : Char) (rest : List Char) : Option Step :=
  match rest with
  | a :: b :: behind =>
    if a == quote && b == quote then
      let quotes := String.ofList [quote, quote, quote]
      constant (.letter 'R' quotes) (tripledBody quote behind)
    else if a == quote then some (some (.constant (.letter 'R' quote.toString) ""), b :: behind)
    else constant (.letter 'R' quote.toString) (quotedBody quote rest)
  | [a] =>
    if a == quote then some (some (.constant (.letter 'R' quote.toString) ""), []) else none
  | [] => none

/-- The constant that a letter and the quote behind it start, if they start one. -/
def marked? (letter : Char) (rest : List Char) : Option (Option Step) :=
  match letter.toLower, rest with
  | 'b', '\'' :: behind => some (constant (.letter 'B' "'") (quotedBody '\'' behind))
  | 'b', '"' :: behind => some (constant (.letter 'B' "\"") (quotedBody '"' behind))
  | 'r', '\'' :: behind => some (raw '\'' behind)
  | 'r', '"' :: behind => some (raw '"' behind)
  | 'n', '\'' :: behind => some (constant .national (slashedBody behind))
  | 'x', '\'' :: behind => some (constant .hexadecimal (slashedBody behind))
  | 'e', '\'' :: behind => some (constant .escaped (escapedBody behind))
  | 'u', '&' :: '\'' :: behind => some (constant .unicode (unicodeBody behind))
  | _, _ => none

/-- What starts with a dollar sign: a constant between dollar signs, which may have a tag, or a
placeholder. -/
def dollar (rest : List Char) : Option Step :=
  match rest with
  | '$' :: behind => constant (.verbatim "$$" "$$") (dollarBody behind)
  | _ =>
    let isTagPart := fun c => Unicode.isAlphanumeric c || c == '_'
    let tag := rest.takeWhile isTagPart
    match rest.dropWhile isTagPart with
    | '$' :: behind =>
      let delimiter := "$" ++ String.ofList tag ++ "$"
      constant (.verbatim delimiter delimiter) (taggedBody tag behind)
    | behind => some (some (.placeholder ("$" ++ String.ofList tag)), behind)

/-! ## Symbols -/

/-- The symbols of several characters. The longer ones of those that start alike come first. -/
def longSymbols : List String :=
  ["->>", "->", "||/", "||", "|/", "<=>", "<=", "<>", "<<", "<@", ">=", ">>", "=>", "==", "!=",
    "!~~*", "!~~", "!~*", "!~", "!!", "~~*", "~~", "~*", "::", ":=", "//", "&&", "^@", "#>>", "#>",
    "#-", "@>", "@?", "@@"]

/-- The symbol that a text starts with, and the rest behind it. Two spellings of the inequality are
one symbol. -/
def symbol (c : Char) (rest : List Char) : Step :=
  match longSymbols.find? fun s => s.toList.isPrefixOf (c :: rest) with
  | some found =>
    (some (.symbol (if found == "!=" then "<>" else found)), (c :: rest).drop found.length)
  | none => (some (.symbol c.toString), rest)

/-- What starts with a number sign: a symbol, or a name whose second character is any other. -/
def hash (rest : List Char) : Step :=
  match rest with
  | [] => symbol '#' rest
  | c :: behind =>
    if c == '-' || c == '>' || c == ' ' then symbol '#' rest else word ['#', c] behind

/-- What starts with an at sign: a symbol, or a name whose next character is any other. -/
def atSign (rest : List Char) : Step :=
  match rest with
  | [] => symbol '@' rest
  | ['@'] => symbol '@' rest
  | '@' :: c :: behind => if c == ' ' then symbol '@' rest else word ['@', '@', c] behind
  | c :: behind =>
    if ['>', '?', ' ', '\'', '"', backquote].contains c then symbol '@' rest
    else word ['@', c] behind

/-! ## Tokens -/

/-- The token that starts with a character, or none for a blank or a comment, and the rest. -/
def step (c : Char) (rest : List Char) : Option Step :=
  if Unicode.isBlank c then some (none, rest)
  else if isWordStart c then (marked? c rest).getD (some (word [c] rest))
  else if c == '"' || c == backquote then
    (quotedBody c rest).map fun (body, after) =>
      (some (.word ⟨String.ofList body, some c⟩), after)
  else if c == '\'' then
    (quotedBody c rest).map fun (body, after) => (some (.literal (String.ofList body)), after)
  else if c.isDigit || c == '.' then some (number (c :: rest))
  else if c == '-' && rest.head? == some '-' then some (none, rest.dropWhile (· != '\n'))
  else if c == '/' && rest.head? == some '*' then
    (behindComment 0 ' ' (rest.drop 1)).map fun after => (none, after)
  else if c == '$' then dollar rest
  else if c == '?' then
    some (some (.placeholder ("?" ++ String.ofList (rest.takeWhile Unicode.isNumeric))),
      rest.dropWhile Unicode.isNumeric)
  else if c == '#' then some (hash rest)
  else if c == '@' then some (atSign rest)
  else some (symbol c rest)

/-- The tokens of a text of at most the given length. -/
def tokensFrom : Nat → List Char → Option (List Token)
  | _, [] => some []
  | 0, _ => none
  | n + 1, c :: rest => do
    let (token?, after) ← step c rest
    let tokens ← tokensFrom n after
    return token?.toList ++ tokens

end Lexer

/-- The tokens of a text, unless a quote or a comment is left open. -/
def tokens? (text : String) : Option (List Token) :=
  Lexer.tokensFrom text.toList.length text.toList

end MatView.Sql
