import TriviaStore.Assoc
import TriviaStore.Text.Case
import TriviaStore.Text.Quoted

/-! # Options

The options that a migration run is given. A percent sign in an option refers to another one, as in
`%(name)s`, and has to be doubled to stand for itself. A text is checked when it is written, and its
references are replaced when it is read.
-/

namespace TriviaStore.Migration

open Text

/-- Option texts as they were written, by names in lower case. -/
abbrev Options := Assoc String

/-- Why an option cannot be written or read. -/
inductive OptionError
  | strayPercent (value : String) (position : Nat)
  | undoubled (rest : String)
  | unclosed (rest : String)
  | unknownName (option name value : String)
  | tooDeep (option value : String)
  deriving DecidableEq, Repr

namespace Options

/-- The section of the options, as it is shown. -/
def sectionName : String := "alembic"

/-- How deep references can lead to further ones. -/
def maxDepth : Nat := 10

end Options

def OptionError.message : OptionError → String
  | .strayPercent value position =>
    s!"invalid interpolation syntax in {quoted value} at position {position}"
  | .undoubled rest => s!"'%' must be followed by '%' or '(', found: {quoted rest}"
  | .unclosed rest => s!"bad interpolation variable reference {quoted rest}"
  | .unknownName option name value =>
    s!"Bad value substitution: option {quoted option} in section {quoted Options.sectionName} " ++
      s!"contains an interpolation key {quoted name} which is not a valid option name. " ++
      s!"Raw value: {quoted value}"
  | .tooDeep option value =>
    s!"Recursion limit exceeded in value substitution: option {quoted option} in section " ++
      s!"{quoted Options.sectionName} contains an interpolation key which cannot be substituted " ++
      s!"in {Options.maxDepth} steps. Raw value: {quoted value}"

namespace Options

/-! ## References -/

/-- The name that a reference gives and the text behind it, read from behind its percent sign. -/
def reference? : List Char → Option (List Char × List Char)
  | '(' :: s =>
    match s.takeWhile (· != ')'), s.dropWhile (· != ')') with
    | [], _ => none
    | name, ')' :: 's' :: rest => some (name, rest)
    | _, _ => none
  | _ => none

theorem length_of_reference? {s name rest : List Char} (h : reference? s = some (name, rest)) :
    rest.length < s.length := by
  unfold reference? at h
  split at h
  · rename_i s
    split at h
    · cases h
    · rename_i hd
      have := (List.dropWhile_sublist (l := s) (· != ')')).length_le
      simp_all
      omega
    · cases h
  · cases h

/-! ## Writing -/

/-- The text without its doubled percent signs. -/
def dropDoubled : List Char → List Char
  | '%' :: '%' :: s => dropDoubled s
  | c :: s => c :: dropDoubled s
  | [] => []

/-- The text without its references. -/
def dropReferences (s : List Char) : List Char :=
  match s with
  | [] => []
  | c :: s =>
    if c = '%' then
      match h : reference? s with
      | some (_, rest) =>
        have := length_of_reference? h
        dropReferences rest
      | none => c :: dropReferences s
    else c :: dropReferences s
termination_by s.length

/-- Write an option. Beside doubled percent signs and references there must be no percent sign. -/
def write (name value : String) (o : Options) : Except OptionError Options :=
  let s := dropReferences (dropDoubled value.toList)
  if s.contains '%' then .error (.strayPercent value (s.idxOf '%')) else .ok (o.put name value)

/-! ## Reading -/

/-- The text with doubled percent signs halved and every reference replaced by what it means. -/
def scan (meaning : String → Except OptionError (List Char)) (s : List Char) :
    Except OptionError (List Char) :=
  match s with
  | [] => .ok []
  | '%' :: '%' :: s => (scan meaning s).map ('%' :: ·)
  | '%' :: '(' :: s =>
    match h : reference? ('(' :: s) with
    | none => .error (.unclosed (String.ofList ('%' :: '(' :: s)))
    | some (name, rest) =>
      have : rest.length < s.length + 2 := by have := length_of_reference? h; simp at this; omega
      (meaning (lower (String.ofList name))).bind fun v =>
        (scan meaning rest).map (v ++ ·)
  | '%' :: s => .error (.undoubled (String.ofList ('%' :: s)))
  | c :: s => (scan meaning s).map (c :: ·)
termination_by s.length

/-- The text of an option with its references replaced, down to a depth. -/
def expand (o : Options) (option value : String) (depth : Nat) (s : List Char) :
    Except OptionError (List Char) :=
  scan (fun name =>
    match o.get? name with
    | none => .error (.unknownName option name value)
    | some v =>
      if v.toList.contains '%' then
        match depth with
        | 0 => .error (.tooDeep option value)
        | depth + 1 => expand o option value depth v.toList
      else .ok v.toList) s

/-- What an option comes to when its text has its references replaced. -/
def resolve (o : Options) (name value : String) : Except OptionError String :=
  (expand o name value (maxDepth - 1) value.toList).map String.ofList

/-- The text of an option, if it was written, with its references replaced. -/
def read (name : String) (o : Options) : Except OptionError (Option String) :=
  match o.get? name with
  | none => .ok none
  | some v => (o.resolve name v).map some

/-- All options with their references replaced. -/
def readAll (o : Options) : Except OptionError (Assoc String) :=
  o.mapM fun (name, v) => (o.resolve name v).map (name, ·)

/-- A character as it has to be written to stand for itself. -/
def double (c : Char) : List Char := if c = '%' then ['%', '%'] else [c]

/-- A text with every percent sign doubled, so that it is read as it is. -/
def doubled (s : String) : String := String.ofList (s.toList.flatMap double)

end Options

end TriviaStore.Migration
