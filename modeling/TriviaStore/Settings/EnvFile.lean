import TriviaStore.Assoc
import TriviaStore.Text.Blank
import TriviaStore.Text.Quoted

/-! # Environment files

A file of lines such as `NAME=value`. Values may stand in single or double quotes and then span
lines; names may follow the word `export`; a number sign starts a comment. A line that does not fit
is skipped. Values refer to others by `${NAME}` and `${NAME:-default}`.
-/

namespace TriviaStore.EnvFile

open Text

/-- A name with its value; a name without an equals sign has none. -/
abbrev Binding := String × Option String

/-- The text with every line end as a line feed. -/
def unifyLines : List Char → List Char
  | '\r' :: '\n' :: s => '\n' :: unifyLines s
  | '\r' :: s => '\n' :: unifyLines s
  | c :: s => c :: unifyLines s
  | [] => []

/-- What follows on the line, and what comes after it. -/
def restOfLine (s : List Char) : List Char × List Char :=
  (s.takeWhile (· != '\n'), (s.dropWhile (· != '\n')).tail)

/-- The text without inline blanks at its front. -/
def skipInline (s : List Char) : List Char := s.dropWhile isInlineBlank

/-! ## Names -/

/-- The text behind the word `export` and the blanks that must follow it. -/
def skipExport : List Char → List Char
  | 'e' :: 'x' :: 'p' :: 'o' :: 'r' :: 't' :: c :: s =>
    if isInlineBlank c then skipInline s else 'e' :: 'x' :: 'p' :: 'o' :: 'r' :: 't' :: c :: s
  | s => s

/-- Whether a character can stand in a name that is not quoted. -/
def isNameChar (c : Char) : Bool := c != '=' && c != '#' && !isBlank c

/-- The name at the front and the text behind it. There is no name before a comment, and none at all
where the text does not fit. -/
def name? (s : List Char) : Option (Option (List Char) × List Char) :=
  match s with
  | '#' :: _ => some (none, s)
  | c :: r =>
    if c = apostrophe then
      match r.takeWhile (· != apostrophe), r.dropWhile (· != apostrophe) with
      | [], _ => none
      | _, [] => none
      | name, _ :: rest => some (some name, rest)
    else
      match s.takeWhile isNameChar with
      | [] => none
      | name => some (some name, s.dropWhile isNameChar)
  | [] => none

/-! ## Values -/

/-- The text up to the first quote without a backslash in front, and the text behind that quote. -/
def splitAtQuote (quote : Char) : Bool → List Char → Option (List Char × List Char)
  | _, [] => none
  | escaped, c :: s =>
    if c = quote ∧ !escaped then some ([], s)
    else (splitAtQuote quote (c == '\\') s).map fun (v, rest) => (c :: v, rest)

/-- The text up to the last quote, and the text behind it. -/
def splitAtLastQuote (quote : Char) (s : List Char) : Option (List Char × List Char) :=
  match s.reverse.dropWhile (· != quote) with
  | [] => none
  | _ :: before => some (before.reverse, (s.reverse.takeWhile (· != quote)).reverse)

/-- The text inside quotes and the text behind them. Where every quote has a backslash in front, the
last one closes. -/
def quotedValue? (quote : Char) (s : List Char) : Option (List Char × List Char) :=
  (splitAtQuote quote false s).orElse fun _ => splitAtLastQuote quote s

/-- The text with the known escapes replaced. -/
def unescape (known : Char → Option Char) : List Char → List Char
  | [] => []
  | [c] => [c]
  | c :: d :: s =>
    if c = '\\' then
      match known d with
      | some e => e :: unescape known s
      | none => c :: unescape known (d :: s)
    else c :: unescape known (d :: s)

/-- The escapes between single quotes. -/
def singleEscape (c : Char) : Option Char :=
  if c = '\\' ∨ c = apostrophe then some c else none

/-- The escapes between double quotes. -/
def doubleEscape (c : Char) : Option Char :=
  if c = '\\' ∨ c = apostrophe ∨ c = doubleQuote then some c
  else match c with
  | 'a' => some (Char.ofNat 7)
  | 'b' => some (Char.ofNat 8)
  | 'f' => some (Char.ofNat 12)
  | 'n' => some '\n'
  | 'r' => some '\r'
  | 't' => some '\t'
  | 'v' => some (Char.ofNat 11)
  | _ => none

/-- The text up to a comment, which starts with blanks and a number sign. -/
def cutComment : List Char → List Char
  | [] => []
  | c :: s =>
    if isBlank c && (s.dropWhile isBlank).head? == some '#' then [] else c :: cutComment s

/-- The value at the front and the text behind it. -/
def value? (s : List Char) : Option (List Char × List Char) :=
  match s with
  | [] => some ([], [])
  | c :: r =>
    if c = apostrophe then
      (quotedValue? c r).map fun (v, rest) => (unescape singleEscape v, rest)
    else if c = doubleQuote then
      (quotedValue? c r).map fun (v, rest) => (unescape doubleEscape v, rest)
    else
      some (trimRight isBlank (cutComment (s.takeWhile (· != '\n'))), s.dropWhile (· != '\n'))

/-! ## Lines -/

/-- The text behind the end of a line, before which only a comment may stand. -/
def endOfLine? (s : List Char) : Option (List Char) :=
  let s := match skipInline s with
    | '#' :: r => r.dropWhile (· != '\n')
    | r => r
  match s with
  | [] => some []
  | '\n' :: r => some r
  | _ => none

/-- One binding, if there is one, and the text behind it. -/
def binding (s : List Char) : Option Binding × List Char :=
  let s := skipExport (s.dropWhile isBlank)
  match name? s with
  | none => (none, (restOfLine s).2)
  | some (name, r) =>
    match skipInline r with
    | '=' :: r =>
      let r := skipInline r
      match value? r with
      | none => (none, (restOfLine r).2)
      | some (v, r) =>
        match endOfLine? r with
        | none => (none, (restOfLine (skipInline r)).2)
        | some rest => (name.map fun n => (String.ofList n, some (String.ofList v)), rest)
    | r =>
      match endOfLine? r with
      | none => (none, (restOfLine r).2)
      | some rest => (name.map fun n => (String.ofList n, none), rest)

/-- The bindings of a text in their order. -/
def bindingsOf (s : List Char) : List Binding :=
  if s.all isBlank then []
  else
    let r := binding s
    if r.2.length < s.length then r.1.toList ++ bindingsOf r.2 else r.1.toList
termination_by s.length

def parse (file : String) : List Binding := bindingsOf (unifyLines file.toList)

/-! ## References -/

/-- The reference at the front of a text that starts behind a dollar sign and a brace: its name, its
default, and the text behind it. -/
def reference? (s : List Char) : Option (String × Option String × List Char) :=
  let name := s.takeWhile fun c => c != '}' && c != ':'
  match s.drop name.length with
  | '}' :: rest => some (String.ofList name, none, rest)
  | ':' :: '-' :: r =>
    match r.dropWhile (· != '}') with
    | _ :: rest => some (String.ofList name, some (String.ofList (r.takeWhile (· != '}'))), rest)
    | [] => none
  | _ => none

/-- The text with every reference replaced. -/
def expand (value : String → Option String → String) (s : List Char) : List Char :=
  match s with
  | [] => []
  | '$' :: '{' :: r =>
    match reference? r with
    | some (name, default, rest) =>
      if rest.length < r.length then (value name default).toList ++ expand value rest else []
    | none => '$' :: expand value ('{' :: r)
  | c :: r => c :: expand value r
termination_by s.length

/-- What a reference stands for: a name bound before, else one of the environment, else the default.
A name bound without a value stands for nothing. -/
def referent (environment : Assoc String) (bound : Assoc (Option String)) (name : String)
    (default : Option String) : String :=
  match bound.get? name with
  | some v => v.getD ""
  | none =>
    match environment.get? name with
    | some v => v
    | none => default.getD ""

/-- The bindings with their references replaced, each name once. -/
def resolve (environment : Assoc String) (bindings : List Binding) : Assoc (Option String) :=
  bindings.foldl (fun bound (name, value) =>
    bound.put name (value.map fun v =>
      String.ofList (expand (referent environment bound) v.toList))) []

end TriviaStore.EnvFile
