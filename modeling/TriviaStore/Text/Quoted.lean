import TriviaStore.Text.Printable

/-! # Quoted texts

A text is quoted between apostrophes, or between double quotes when it holds an apostrophe and no
double quote. The quote in use, the backslash, line ends and tabs take a backslash in front, and
characters that are not printable are given by their code points in the fewest of 2, 4 and 8 digits.
-/

namespace TriviaStore.Text

/-- The quote in use unless the text gives a reason for the other. -/
def apostrophe : Char := Char.ofNat 0x27

/-- The quote for texts with an apostrophe. -/
def doubleQuote : Char := Char.ofNat 0x22

/-- The code point in hexadecimal, with zeros in front up to `width` digits. -/
def hex (width code : Nat) : List Char :=
  let digits := Nat.toDigits 16 code
  List.replicate (width - digits.length) '0' ++ digits

/-- The escape of a character that cannot stand for itself. -/
def codeEscape (code : Nat) : List Char :=
  if code < 0x100 then '\\' :: 'x' :: hex 2 code
  else if code < 0x10000 then '\\' :: 'u' :: hex 4 code
  else '\\' :: 'U' :: hex 8 code

/-- A character as it is written between the given quotes. -/
def quotedChar (quote c : Char) : List Char :=
  if c = quote ∨ c = '\\' then ['\\', c]
  else if c = '\n' then ['\\', 'n']
  else if c = '\r' then ['\\', 'r']
  else if c = '\t' then ['\\', 't']
  else if isPrintable c then [c]
  else codeEscape c.toNat

/-- The quote that a text is written in. -/
def quoteFor (s : List Char) : Char :=
  if s.contains apostrophe && !s.contains doubleQuote then doubleQuote else apostrophe

/-- The quoted form of a text. -/
def quoted (s : String) : String :=
  let q := quoteFor s.toList
  String.ofList (q :: s.toList.flatMap (quotedChar q) ++ [q])

/-- The quoted form of a text that may be absent. -/
def quotedOrNone : Option String → String
  | none => "None"
  | some s => quoted s

end TriviaStore.Text
