import TriviaStore.Database.File

/-! # Commands

Commands that an operator gives to a database by hand: tables are created and dropped, indexes too,
and the heads are set. Rows of the store's tables can only be deleted all at once.
-/

namespace TriviaStore.Database

/-- A word, a quoted text or a single sign. -/
inductive Token
  | word (s : String)
  | quoted (s : String)
  | sign (c : Char)
  deriving DecidableEq, Repr

namespace Token

def isLetter (c : Char) : Bool := c.isAlphanum || c == '_'

/-- Read tokens, given the letters of the word that was begun, the last first. -/
def readWord (begun : List Char) : List Char → List Token
  | [] => flush begun []
  | c :: s =>
    if isLetter c then readWord (c :: begun) s
    else if c = Text.apostrophe then flush begun (readQuoted [] s)
    else if c.isWhitespace then flush begun (readWord [] s)
    else flush begun (.sign c :: readWord [] s)
where
  /-- The word that was begun in front of other tokens. -/
  flush (begun : List Char) (tokens : List Token) : List Token :=
    if begun.isEmpty then tokens else .word (String.ofList begun.reverse) :: tokens
  /-- Read the rest of a quoted text, in which a quote is written twice. -/
  readQuoted (begun : List Char) : List Char → List Token
    | [] => [.quoted (String.ofList begun.reverse)]
    | [c] =>
      if c = Text.apostrophe then [.quoted (String.ofList begun.reverse)]
      else [.quoted (String.ofList (c :: begun).reverse)]
    | c :: d :: s =>
      if c = Text.apostrophe then
        if d = Text.apostrophe then readQuoted (d :: begun) s
        else .quoted (String.ofList begun.reverse) :: readWord [] (d :: s)
      else readQuoted (c :: begun) (d :: s)

def ofText (s : String) : List Token := readWord [] s.toList

/-- Whether a token is a keyword, in any case. -/
def isKeyword (k : String) : Token → Bool
  | .word w => sameName w k
  | _ => false

/-- What follows keywords, if the tokens begin with them. -/
def after? : List String → List Token → Option (List Token)
  | [], ts => some ts
  | k :: ks, t :: ts => if t.isKeyword k then after? ks ts else none
  | _, [] => none

/-- Tokens in parts between commas. -/
def parts : List Token → List (List Token)
  | [] => [[]]
  | t :: ts =>
    match parts ts with
    | [] => [[t]]
    | p :: ps => if t = .sign ',' then [] :: p :: ps else (t :: p) :: ps

end Token

inductive Command
  | define (d : Definition)
  | addHead (identifier : String)
  | setHeads (identifier : String)
  | deleteRows (table : String)
  deriving DecidableEq, Repr

namespace Command

/-- What of a column's description can follow its type. -/
def describe (c : ColumnShape) : List Token → ColumnShape
  | [] => c
  | t :: ts =>
    if t.isKeyword "NOT" then { describe c ts with required := true }
    else if t.isKeyword "DEFAULT" then
      match ts with
      | .quoted d :: _ => { describe c ts with default := some s!"'{d}'" }
      | .word d :: _ => { describe c ts with default := some d }
      | _ => describe c ts
    else describe c ts

/-- Whether a word begins what follows a column's type. -/
def endsType (t : Token) : Bool :=
  ["NOT", "NULL", "DEFAULT", "PRIMARY", "UNIQUE", "REFERENCES", "CHECK"].any t.isKeyword

/-- A type as it is written. -/
def typeText (ts : List Token) : String :=
  ts.foldl (fun s t =>
    match t with
    | .word w => if s = "" ∨ s.endsWith "(" then s ++ w else s ++ " " ++ w
    | .sign c => s.push c
    | .quoted q => s ++ q) ""

/-- Add a described column to a table. -/
def addColumn (t : TableShape) : List Token → TableShape
  | .word name :: ts =>
    let type := ts.takeWhile fun t => !endsType t
    let rest := ts.drop type.length
    { t with
      columns := t.columns ++ [describe { name, type := typeText type } rest]
      key := if rest.any (·.isKeyword "PRIMARY") then t.key ++ [name] else t.key
      unique := if rest.any (·.isKeyword "UNIQUE") then t.unique ++ [[name]] else t.unique }
  | _ => t

def names (ts : List Token) : List String :=
  ts.filterMap fun t =>
    match t with
    | .word w => some w
    | _ => none

/-- Tokens without the parentheses around them. -/
def unwrap (ts : List Token) : List Token := (ts.drop 1).dropLast

def ofTokens (ts : List Token) : Option Command :=
  match Token.after? ["CREATE", "TABLE"] ts with
  | some (.word name :: ts) =>
    let columns := Token.parts (unwrap ts)
    some (.define (.createTable (columns.foldl addColumn { name, columns := [] })))
  | _ =>
  match Token.after? ["DROP", "TABLE"] ts with
  | some [.word name] => some (.define (.dropTable name))
  | _ =>
  match Token.after? ["DROP", "INDEX"] ts with
  | some [.word name] => some (.define (.dropIndex name))
  | _ =>
  match Token.after? ["CREATE", "INDEX"] ts with
  | some (.word name :: .word _ :: .word table :: ts) =>
    some (.define (.createIndex ⟨name, table, names ts⟩))
  | _ =>
  match Token.after? ["DELETE", "FROM"] ts with
  | some [.word table] => some (.deleteRows table)
  | _ =>
  match Token.after? ["INSERT", "INTO", Migration.versions.name] ts,
      Token.after? ["UPDATE", Migration.versions.name] ts with
  | some ts, _ => (texts ts).getLast?.map .addHead
  | _, some ts => (texts ts).getLast?.map .setHeads
  | _, _ => none
where
  /-- The quoted texts among tokens. -/
  texts (ts : List Token) : List String :=
    ts.filterMap fun t =>
      match t with
      | .quoted q => some q
      | _ => none

/-- The commands of a text, which are separated by semicolons; what is no command is passed over. -/
def ofText (s : String) : List Command := (split (Token.ofText s)).filterMap ofTokens
where
  /-- Tokens in parts between semicolons. -/
  split : List Token → List (List Token)
    | [] => [[]]
    | t :: ts =>
      match split ts with
      | [] => [[t]]
      | p :: ps => if t = .sign ';' then [] :: p :: ps else (t :: p) :: ps

def run (f : File) : Command → Except SchemaError File
  | .define d => f.define d
  | .addHead identifier => do
    present Migration.versions.name
    pure { f with heads := f.heads ++ [identifier] }
  | .setHeads identifier => do
    present Migration.versions.name
    pure { f with heads := f.heads.map fun _ => identifier }
  | .deleteRows table => do
    present table
    pure (f.withoutRows table)
where
  /-- Check that a table is there. -/
  present (name : String) : Except SchemaError Unit :=
    if (f.schema.table? name).isSome then .ok () else .error (.noTable name)

/-- Carry out commands in turn, up to the first that is refused. -/
def runAll : List Command → File → Except SchemaError Unit × File
  | [], f => (.ok (), f)
  | c :: cs, f =>
    match c.run f with
    | .ok f' => runAll cs f'
    | .error e => (.error e, f)

end Command

end TriviaStore.Database
