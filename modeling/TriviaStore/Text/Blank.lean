import TriviaStore.Text.Ranges

/-! # Blank characters

Two classes of white space are in use. Unicode's own property surrounds numbers; files of settings
also take the four information separators for blanks.
-/

namespace TriviaStore.Text

/-- The code points with Unicode's white space property. -/
def whiteSpace : List Range :=
  [(0x9, 0xd), (0x20, 0x20), (0x85, 0x85), (0xa0, 0xa0), (0x1680, 0x1680), (0x2000, 0x200a),
    (0x2028, 0x2029), (0x202f, 0x202f), (0x205f, 0x205f), (0x3000, 0x3000)]

/-- Whether a character has Unicode's white space property. -/
def isWhiteSpace (c : Char) : Bool := inRanges whiteSpace c

/-- Whether a character is blank: white space or an information separator. -/
def isBlank (c : Char) : Bool := isWhiteSpace c || (0x1c ≤ c.toNat && c.toNat ≤ 0x1f)

/-- Whether a character is blank and does not end a line. -/
def isInlineBlank (c : Char) : Bool := isBlank c && c != '\n' && c != '\r'

/-- The text without the characters of a class at its end. -/
def trimRight (p : Char → Bool) (s : List Char) : List Char := (s.reverse.dropWhile p).reverse

/-- The text without the characters of a class at either end. -/
def trim (p : Char → Bool) (s : List Char) : List Char := trimRight p (s.dropWhile p)

end TriviaStore.Text
