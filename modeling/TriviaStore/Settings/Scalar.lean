import TriviaStore.Text.Blank

/-! # Numbers and truth values in settings

An integer may stand between white space, with a sign, with zeros in front, with single underscores
between its digits and with a fraction of zeros. A truth value is one of a few words in any case.
-/

namespace TriviaStore.Settings

/-- The value of a run of decimal digits. -/
def digitsValue (digits : List Char) : Nat :=
  digits.foldl (fun n c => n * 10 + (c.toNat - 48)) 0

/-- A run of digits without needless zeros in front. -/
def natural? (s : List Char) : Option Nat :=
  if s.isEmpty || !s.all Char.isDigit || (s.head? == some '0' && s.length != 1) then none
  else some (digitsValue s)

/-- An integer in its plain form. -/
def plainInteger? : List Char → Option Int
  | '-' :: s => (natural? s).map fun n => -(n : Int)
  | s => (natural? s).map fun n => (n : Int)

/-- What remains of a text behind its first zero, when more zeros and underscores are passed over;
the last character passed is kept if no digit follows it. -/
def afterZero (last : Char) : List Char → Option (List Char)
  | [] => some [last]
  | c :: s =>
    if c = '0' ∨ c = '_' then afterZero c s
    else if c.isDigit then some (c :: s)
    else if c = '.' then some (last :: c :: s)
    else none

/-- The text without zeros in front. After a minus sign they stay. -/
def withoutZeros : List Char → Option (List Char)
  | [] => none
  | c :: s =>
    if c = '0' then afterZero c s
    else if c.isDigit ∨ c = '-' then some (c :: s)
    else none

/-- The text without a plus sign. -/
def withoutPlus : List Char → Option (List Char)
  | '+' :: '-' :: _ => none
  | '+' :: s => some s
  | s => some s

/-- The text without a fraction of zeros. -/
def withoutFraction (s : List Char) : List Char :=
  match s.dropWhile (· != '.') with
  | _ :: c :: fraction =>
    if (c :: fraction).all (· == '0') then s.takeWhile (· != '.') else s
  | _ => s

/-- Whether two underscores stand side by side. -/
def hasDoubleUnderscore : List Char → Bool
  | '_' :: '_' :: _ => true
  | _ :: s => hasDoubleUnderscore s
  | [] => false

/-- The text without underscores, where they are single and between characters. -/
def withoutUnderscores (s : List Char) : List Char :=
  if s.head? == some '_' || s.getLast? == some '_' || hasDoubleUnderscore s then s
  else s.filter (· != '_')

/-- The integer that a text means. -/
def integer? (s : String) : Option Int :=
  match plainInteger? s.toList with
  | some n => some n
  | none => do
    let s ← withoutPlus (Text.trim Text.isWhiteSpace s.toList)
    let s ← withoutZeros s
    plainInteger? (withoutUnderscores (withoutFraction s))

def noWords : List String := ["0", "off", "f", "false", "n", "no"]

def yesWords : List String := ["1", "on", "t", "true", "y", "yes"]

/-- The truth value that a text means. -/
def truth? (s : String) : Option Bool :=
  let word := s.map Char.toLower
  if yesWords.contains word then some true
  else if noWords.contains word then some false
  else none

end TriviaStore.Settings
