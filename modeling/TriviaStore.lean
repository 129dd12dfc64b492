import TriviaStore.Assoc
import TriviaStore.Attempt
import TriviaStore.Routine
import TriviaStore.Bootstrap.Arguments
import TriviaStore.Bootstrap.Run
import TriviaStore.Connection
import TriviaStore.Database.Command
import TriviaStore.Database.Engine
import TriviaStore.Database.File
import TriviaStore.Database.Schema
import TriviaStore.Database.Url
import TriviaStore.Failure
import TriviaStore.Ids
import TriviaStore.Log.Event
import TriviaStore.Log.Routing
import TriviaStore.Main
import TriviaStore.Migration.History
import TriviaStore.Migration.Options
import TriviaStore.Migration.Revision
import TriviaStore.Migration.Run
import TriviaStore.Migration.Script
import TriviaStore.Migration.Target
import TriviaStore.Plan
import TriviaStore.Quiz.Basic
import TriviaStore.Quiz.Demo
import TriviaStore.Quiz.Problems
import TriviaStore.Reconcile
import TriviaStore.Reconcile.Memory
import TriviaStore.Settings.Basic
import TriviaStore.Settings.EnvFile
import TriviaStore.Settings.Scalar
import TriviaStore.Store.Batch
import TriviaStore.Store.Children
import TriviaStore.Store.Read
import TriviaStore.Store.Seed
import TriviaStore.Store.Write
import TriviaStore.Tables
import TriviaStore.Text.Blank
import TriviaStore.Text.Case
import TriviaStore.Text.Cased
import TriviaStore.Text.Printable
import TriviaStore.Text.Quoted
import TriviaStore.Text.Ranges
import TriviaStore.Text.Word
import TriviaStore.Time.Calendar
import TriviaStore.Time.Timestamp
import TriviaStore.Transaction
import TriviaStore.Transaction.Lease
import TriviaStore.Transaction.Script
import TriviaStore.Proofs.Attempt.Keeps
import TriviaStore.Proofs.Routine.Around
import TriviaStore.Proofs.Transaction.Scope
import TriviaStore.Proofs.Transaction.Shield
import TriviaStore.Proofs.Reconcile.Keeps
import TriviaStore.Proofs.Store.Keeps
import TriviaStore.Proofs.Store.Atomicity
import TriviaStore.Proofs.Tables.Keyed
import TriviaStore.Proofs.Tables.Statement
import TriviaStore.Proofs.Tables.Sound
import TriviaStore.Proofs.Reconcile.Success
import TriviaStore.Proofs.Reconcile.View
import TriviaStore.Proofs.Tables.Lookup
import TriviaStore.Proofs.Connection.Success
import TriviaStore.Proofs.Store.Views
import TriviaStore.Proofs.Attempt.Fixes
import TriviaStore.Proofs.Store.Authored
import TriviaStore.Proofs.Store.Success
import TriviaStore.Proofs.Store.Update
import TriviaStore.Proofs.Time.Calendar
import TriviaStore.Proofs.Time.Timestamp
import TriviaStore.Proofs.Store.Append
import TriviaStore.Proofs.Store.Reading
import TriviaStore.Proofs.Store.Create
import TriviaStore.Proofs.Store.Ownership
import TriviaStore.Proofs.Store.Refusal
import TriviaStore.Proofs.Store.Run
import TriviaStore.Proofs.Store.Frame
import TriviaStore.Proofs.Store.Distinct
import TriviaStore.Proofs.Store.Stale
import TriviaStore.Proofs.Store.Parents
import TriviaStore.Proofs.Attempt.Confirms
import TriviaStore.Proofs.Store.Listing
import TriviaStore.Proofs.Store.Resave
import TriviaStore.Proofs.Store.Settled
import TriviaStore.Proofs.Attempt.Alike
import TriviaStore.Proofs.Reconcile.Alike
import TriviaStore.Proofs.Store.Heeded
import TriviaStore.Proofs.Store.Ignored
import TriviaStore.Proofs.Transaction.Protocol
import TriviaStore.Proofs.Transaction.Undone
import TriviaStore.Proofs.Attempt.Failing
import TriviaStore.Proofs.Reconcile.Origin
import TriviaStore.Proofs.Transaction.Failing
import TriviaStore.Proofs.Connection.Failing
import TriviaStore.Proofs.Store.Origin
import TriviaStore.Proofs.Attempt.Meets
import TriviaStore.Proofs.Reconcile.Meets
import TriviaStore.Proofs.Reconcile.Accepts
import TriviaStore.Proofs.Tables.Refusal
import TriviaStore.Proofs.Tables.Room
import TriviaStore.Proofs.Store.Reported
import TriviaStore.Proofs.Store.Request
import TriviaStore.Proofs.Attempt.InStep
import TriviaStore.Proofs.Reconcile.InStep
import TriviaStore.Proofs.Store.InMemory
import TriviaStore.Proofs.Store.Acceptance
import TriviaStore.Proofs.Store.Creatable
import TriviaStore.Proofs.Store.Updatable
import TriviaStore.Proofs.Store.Seeded
import TriviaStore.Proofs.Attempt.Retraced
import TriviaStore.Proofs.Reconcile.Retraced
import TriviaStore.Proofs.Store.Retraced
import TriviaStore.Proofs.Store.Piecewise
import TriviaStore.Proofs.Memory.Table
import TriviaStore.Proofs.Memory.Course
import TriviaStore.Proofs.Memory.Result
import TriviaStore.Proofs.Time.Chronology
import TriviaStore.Proofs.Time.Decoding
import TriviaStore.Proofs.Connection.Deletions
import TriviaStore.Proofs.Reconcile.Leftovers
import TriviaStore.Proofs.Store.Leftovers
import TriviaStore.Proofs.Store.Clearing
import TriviaStore.Proofs.Reconcile.Local
import TriviaStore.Proofs.Store.Commuting
import TriviaStore.Proofs.Connection.Visited
import TriviaStore.Proofs.Reconcile.Visited
import TriviaStore.Proofs.Store.Spared
import TriviaStore.Proofs.Except
import TriviaStore.Proofs.Time.Truncation
import TriviaStore.Proofs.Store.Dated
import TriviaStore.Proofs.Quiz.Problems
import TriviaStore.Proofs.Migration.Options
import TriviaStore.Proofs.Migration.Address
import TriviaStore.Proofs.Migration.Fallback
import TriviaStore.Proofs.Log.Ancestors
import TriviaStore.Proofs.Log.Written
import TriviaStore.Proofs.Settings.Precedence
import TriviaStore.Proofs.Routine.Requests
import TriviaStore.Proofs.Transaction.Lease
