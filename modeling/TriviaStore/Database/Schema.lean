/-! # Schemas

The tables and indexes of a database, the definitions that change them, and how a definition is
written. Names count in any case. A table without a key that numbers its rows has an index of its
own for the key, and so has every group of columns that must be unique.
-/

namespace TriviaStore.Database

/-- A column. The default is written as in a definition. -/
structure ColumnShape where
  name : String
  type : String
  required : Bool := false
  default : Option String := none
  deriving DecidableEq, Repr

/-- A column that refers to a column of a parent table and goes with its row. -/
structure Reference where
  column : String
  parent : String
  target : String
  deriving DecidableEq, Repr

/-- A table without its rows. The key may have a name. -/
structure TableShape where
  name : String
  columns : List ColumnShape
  key : List String := []
  keyName : Option String := none
  unique : List (List String) := []
  references : List Reference := []
  deriving DecidableEq, Repr

structure Index where
  name : String
  table : String
  columns : List String
  deriving DecidableEq, Repr

/-- The definitions that change a schema. -/
inductive Definition
  | createTable (shape : TableShape)
  | dropTable (name : String)
  | createIndex (index : Index)
  | dropIndex (name : String)
  deriving DecidableEq, Repr

/-! ## Writing definitions -/

/-- Names in parentheses. -/
def group (names : List String) : String :=
  let inner := ", ".intercalate names
  s!"({inner})"

def ColumnShape.text (c : ColumnShape) : String :=
  " ".intercalate ([c.name, c.type] ++ (c.default.map fun d => s!"DEFAULT {d}").toList ++
    if c.required then ["NOT NULL"] else [])

def Reference.text (r : Reference) : String :=
  s!"FOREIGN KEY({r.column}) REFERENCES {r.parent} ({r.target}) ON DELETE CASCADE"

/-- What is written between the parentheses of a table. -/
def TableShape.parts (t : TableShape) : List String :=
  let name := match t.keyName with
    | some n => s!"CONSTRAINT {n} "
    | none => ""
  let key := if t.key.isEmpty then [] else [name ++ "PRIMARY KEY " ++ group t.key]
  t.columns.map ColumnShape.text ++ key ++ t.unique.map (fun names => "UNIQUE " ++ group names) ++
    t.references.map Reference.text

/-- Lines with a comma behind each but the last. -/
def commaLines : List String → List String
  | [] => []
  | [l] => ["    " ++ l]
  | l :: ls => ("    " ++ l ++ ",") :: commaLines ls

def Definition.lines : Definition → List String
  | .createTable t => s!"CREATE TABLE {t.name} (" :: commaLines t.parts ++ [");"]
  | .dropTable name => [s!"DROP TABLE {name};"]
  | .createIndex i =>
    let columns := group i.columns
    [s!"CREATE INDEX {i.name} ON {i.table} {columns};"]
  | .dropIndex name => [s!"DROP INDEX {name};"]

/-! ## Schemas -/

/-- The tables and the indexes that were defined. -/
structure Schema where
  tables : List TableShape := []
  indexes : List Index := []
  deriving DecidableEq, Repr

/-- Why a definition is refused. -/
inductive SchemaError
  | tableExists (name : String)
  | noTable (name : String)
  | indexExists (name : String)
  | noIndex (name : String)
  deriving DecidableEq, Repr

def SchemaError.message : SchemaError → String
  | .tableExists name => s!"table {name} already exists"
  | .noTable name => s!"no such table: {name}"
  | .indexExists name => s!"index {name} already exists"
  | .noIndex name => s!"no such index: {name}"

/-- Whether two names are the same. -/
def sameName (a b : String) : Bool := a.map Char.toLower == b.map Char.toLower

namespace Schema

def table? (name : String) (s : Schema) : Option TableShape :=
  s.tables.find? fun t => sameName t.name name

/-- Carry out a definition. A table takes its indexes with it. -/
def apply (d : Definition) (s : Schema) : Except SchemaError Schema :=
  match d with
  | .createTable t =>
    if (s.table? t.name).isSome then .error (.tableExists t.name)
    else .ok { s with tables := s.tables ++ [t] }
  | .dropTable name =>
    if (s.table? name).isSome then
      .ok {
        tables := s.tables.filter fun t => !sameName t.name name
        indexes := s.indexes.filter fun i => !sameName i.table name }
    else .error (.noTable name)
  | .createIndex i =>
    if (s.table? i.table).isNone then .error (.noTable ("main." ++ i.table))
    else if s.indexes.any fun j => sameName j.name i.name then .error (.indexExists i.name)
    else .ok { s with indexes := s.indexes ++ [i] }
  | .dropIndex name =>
    if s.indexes.any fun i => sameName i.name name then
      .ok { s with indexes := s.indexes.filter fun i => !sameName i.name name }
    else .error (.noIndex name)

end Schema

/-- Whether the key of a table numbers its rows, as a single integer does. -/
def TableShape.numbersRows (t : TableShape) : Bool :=
  match t.key with
  | [k] => t.columns.any fun c => c.name == k && sameName c.type "INTEGER"
  | _ => false

/-- The groups of columns that a table has indexes for, and whether each must be unique. -/
def Schema.indexed (t : TableShape) (s : Schema) : List (List String × Bool) :=
  let own := if t.key.isEmpty || t.numbersRows then [] else [t.key]
  let groups := (own ++ t.unique).map (·, true) ++
    ((s.indexes.filter fun i => sameName i.table t.name).map fun i => (i.columns, false))
  groups.mergeSort fun a b => a.1 < b.1 || (a.1 == b.1 && (!a.2 || b.2))

end TriviaStore.Database
