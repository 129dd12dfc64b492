import TriviaStore.Assoc
import TriviaStore.Connection
import TriviaStore.Migration.History

/-! # Database files

A database file holds a schema, the heads of its history and the rows of the store's tables. A
table that is dropped loses its rows. Statements of the store on a table that is not there, or
that lacks a column, are refused.
-/

namespace TriviaStore.Database

structure File where
  schema : Schema := {}
  heads : List String := []
  rows : Tables := .empty
  deriving DecidableEq, Repr

/-- Databases by the names of their files. -/
abbrev Files := Assoc File

namespace Files

/-- The database in a file; a file that was never written holds an empty one. -/
def named (name : String) (files : Files) : File := (files.get? name).getD {}

end Files

/-- The shape that a table of the store should have. -/
def shapeOf : Table → TableShape
  | .quizzes => Migration.quizzes
  | .questions => Migration.questions
  | .choices => Migration.choices

namespace File

/-! ## Definitions -/

/-- The rows without those of a table. -/
def withoutRows (name : String) (f : File) : File :=
  if sameName name Migration.versions.name then { f with heads := [] }
  else if sameName name Migration.quizzes.name then
    { f with rows := { f.rows with quizzes := [] } }
  else if sameName name Migration.questions.name then
    { f with rows := { f.rows with questions := [] } }
  else if sameName name Migration.choices.name then
    { f with rows := { f.rows with choices := [] } }
  else f

/-- Carry out a definition. -/
def define (d : Definition) (f : File) : Except SchemaError File := do
  let schema ← f.schema.apply d
  let f := match d with
    | .dropTable name => f.withoutRows name
    | _ => f
  pure { f with schema }

/-- Carry out definitions in turn, up to the first that is refused. -/
def defineAll : List Definition → File → Except SchemaError Unit × File
  | [], f => (.ok (), f)
  | d :: ds, f =>
    match f.define d with
    | .ok f' => defineAll ds f'
    | .error e => (.error e, f)

/-- Define a table unless it is there. -/
def ensure (t : TableShape) (f : File) : File :=
  if (f.schema.table? t.name).isSome then f
  else { f with schema := { f.schema with tables := f.schema.tables ++ [t] } }

/-! ## The store's statements -/

/-- The columns that a statement names, in the order in which they are looked up. -/
def columnsOf : Statement → List String
  | .select t => (shapeOf t).columns.map (·.name)
  | .insert t => ((shapeOf t).columns.map (·.name)).tail
  | .update .quizzes => ["title", "slug", "description"]
  | .update .questions => ["text", "image_url", "position"]
  | .update .choices => ["text", "is_correct"]
  | .delete _ => ["id"]
  | _ => []

/-- The table that a statement works on. -/
def tableOf : Statement → Option Table
  | .select t => some t
  | .insert t => some t
  | .update t => some t
  | .delete t => some t
  | _ => none

/-- What is said of a column that a statement names and its table lacks. -/
def lackText (table column : String) : Statement → String
  | .insert _ => s!"table {table} has no column named {column}"
  | .update _ => s!"no such column: {column}"
  | _ => s!"no such column: {table}.{column}"

/-- Why a statement cannot be carried out. -/
def refusal (f : File) (s : Statement) : Option String :=
  match tableOf s with
  | none => none
  | some t =>
    match f.schema.table? (shapeOf t).name with
    | none => some (SchemaError.noTable (shapeOf t).name).message
    | some present =>
      let lacked := (columnsOf s).find? fun n => !present.columns.any fun c => sameName c.name n
      lacked.map fun n => lackText (shapeOf t).name n s

/-- The plan that lets statements fail which the schema does not allow. -/
def plan (f : File) : Plan Statement :=
  .always fun s => (f.refusal s).map fun m => .driver (.operational m)

/-- The rows of the store's tables, if all of them are there. -/
def rows? (f : File) : Option Tables :=
  if [Table.quizzes, .questions, .choices].all fun t => (f.refusal (.select t)).isNone then
    some f.rows
  else none

end File

end TriviaStore.Database
