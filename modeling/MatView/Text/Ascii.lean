/-!
# Names up to ASCII case

Sources, columns and physical tables are looked up by name without regard to the case of the
twenty-six letters. Every other character is compared as it is.

## Main definitions

* `upperAscii`, `lowerAscii`: a text with its ASCII letters folded.
* `sameName`: equality of names up to ASCII case.
-/

namespace MatView.Text

/-- A text with its ASCII letters in upper case. -/
def upperAscii (s : String) : String :=
  String.ofList (s.toList.map Char.toUpper)

/-- A text with its ASCII letters in lower case. -/
def lowerAscii (s : String) : String :=
  String.ofList (s.toList.map Char.toLower)

/-- Whether two names are equal up to the case of ASCII letters. -/
def sameName (a b : String) : Bool :=
  lowerAscii a == lowerAscii b

@[simp] theorem sameName_self (a : String) : sameName a a = true := by
  simp [sameName]

theorem sameName_comm (a b : String) : sameName a b = sameName b a := by
  simp [sameName, BEq.comm]

theorem sameName_iff {a b : String} : sameName a b = true ↔ lowerAscii a = lowerAscii b := by
  simp [sameName]

/-- Names that are equal up to case are found under one another's name. -/
theorem sameName_trans {a b c : String} (hab : sameName a b = true) (hbc : sameName b c = true) :
    sameName a c = true :=
  sameName_iff.2 ((sameName_iff.1 hab).trans (sameName_iff.1 hbc))

/-- Spellings of one name are equal to the same names. -/
theorem sameName_congr {a b : String} (h : sameName a b = true) (name : String) :
    sameName name a = sameName name b := by
  simp [sameName, sameName_iff.1 h]

/-- Whether a character is an ASCII letter, an ASCII digit or an underscore. -/
def isPlain (c : Char) : Bool :=
  c.isAlphanum || c == '_'

end MatView.Text
