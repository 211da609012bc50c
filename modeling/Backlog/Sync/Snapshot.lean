import Backlog.Store.Row
import Backlog.Sync.Hub

/-! # Stored snapshots

A snapshot of the connections outlives a restart. It stands in a table of texts, a row for each connection,
which is told by its id. Saving replaces all rows or none; loading takes the rows in the order of the texts of
the instants at which the connections were introduced, and fails at the first that cannot be read. -/

namespace Backlog

open Json (RecordField Read readString readList)

/-- Why snapshots cannot be saved or loaded, or the hub not be asked. -/
inductive SyncError where
  | closed
  | duplicate (connection : String)
  | unreadable (fault : RowFault)
  deriving Repr, DecidableEq

/-- The message of an error. -/
def SyncError.message : SyncError → String
  | closed => "Sync coordinator is not running"
  | duplicate id => "Database error: connection " ++ id ++ " is there already"
  | unreadable (.absent i) => "Snapshot error: no column " ++ toString i
  | unreadable (.unfit i) => "Snapshot error: bad column " ++ toString i

/-- The fields of a snapshot. -/
def Snapshot.fields : List (RecordField Snapshot) := [
  .string "connection_id" (·.connection) fun x v => { x with connection := v },
  .string "user_id" (·.user) fun x v => { x with user := v },
  .of "client_type" .required Named.read Named.write (·.client) fun x v => { x with client := v },
  .of "subscriptions" .required (readList readString) (Json.ofList .string) (·.projects)
    fun x v => { x with projects := v },
  .of "connected_at" .required Instant.read Instant.write (·.since) fun x v => { x with since := v },
  .of "last_heartbeat_at" .required Instant.read Instant.write (·.heard)
    fun x v => { x with heard := v }]

/-- Reads a snapshot. -/
def Snapshot.read : Read Snapshot := Json.readRecord fields default

/-- Writes a snapshot. -/
def Snapshot.write : Snapshot → Json := Json.ofRecord fields

namespace Snapshot

/-- The row of a snapshot. -/
def row (s : Snapshot) : Row := [
  .text s.connection, .text s.user, .ofNamed s.client, .ofJson (.ofList .string s.projects),
  .ofInstant s.since, .ofInstant s.heard]

/-- An instant in a column. -/
def instant? (c : Column) : Option Instant := c.text?.bind Instant.ofStrictText?

/-- The snapshot in a row. -/
def ofRow (r : Row) : Except RowFault Snapshot := do
  pure {
    connection := ← r.get 0 Column.text?
    user := ← r.get 1 Column.text?
    client := ← r.get 2 Column.named?
    projects := ← r.get 3 fun c => c.text?.bind fun s => (Json.ofText (readList readString) s).toOption
    since := ← r.get 4 instant?
    heard := ← r.get 5 instant? }

/-- A statement of the transaction that saves snapshots. -/
inductive Statement where
  | clear
  | insert (s : Snapshot)
  | commit
  deriving Repr, DecidableEq

/-- What a statement makes of the rows: there is one row of a connection at most. -/
def execute (rows : List Row) : Statement → Except SyncError (List Row)
  | .clear => .ok []
  | .insert s =>
    if rows.any (·.holds 0 s.connection) then .error (.duplicate s.connection) else .ok (rows ++ [s.row])
  | .commit => .ok rows

/-- The statements that put snapshots in the place of what is there. -/
def statements (snapshots : List Snapshot) : List Statement := .clear :: snapshots.map .insert ++ [.commit]

/-- Carries out the transaction that saves some snapshots, where each statement may fail for reasons of its own;
then the rows stay as they are. -/
def transact (execute : List Row → Statement → Except SyncError (List Row)) (rows : List Row)
    (snapshots : List Snapshot) : List Row × Except SyncError Unit :=
  match (statements snapshots).foldlM execute rows with
  | .ok rows' => (rows', .ok ())
  | .error e => (rows, .error e)

/-- Saves snapshots in the place of some rows. -/
def save : List Row → List Snapshot → List Row × Except SyncError Unit := transact execute

/-- The order of rows by the text of the instant of introduction. -/
def earlier (r r' : Row) : Bool :=
  match (r.getD 4 .null).text?, (r'.getD 4 .null).text? with
  | some s, some s' => Text.atMost s s'
  | some _, none => false
  | none, _ => true

/-- Loads what is saved in some rows. -/
def load (rows : List Row) : Except SyncError (List Snapshot) :=
  ((rows.mergeSort earlier).mapM ofRow).mapError .unreadable

end Snapshot

end Backlog
