import AuditTrail.Store.Collection
import AuditTrail.Filter.Render
import AuditTrail.Query
import AuditTrail.Stored
import AuditTrail.Config.Basic
import AuditTrail.Log.Record

/-!
# The audit store

A session holds the audit settings, the backend that keeps the documents, the clock reading,
the number of ids minted so far and the log records written. Operations run in `Audit`, a
state-and-error monad over the session: an error leaves the session as it was at the point of
failure, log records included.

The backend is either the in-memory collection or a remote document store that cannot be
reached: every call to it fails with a database error, after writing the log records that the
call writes before it contacts the store.

Appending validates the event, files it under a fresh id at the clock reading, and inserts the
document; the id counts as minted only once the insert succeeds. Reads take a window of the
matching documents newest first, drop those that do not read back as filed events, and report
beside them the number of all matching documents, unreadable ones included.

## Main definitions

* `Backend`, `Session`, `Fault`, `Audit`
* `Audit.append`, `Audit.query`, `Audit.activityFor`, `Audit.get`
-/

namespace AuditTrail

/-- Where documents are kept. -/
inductive Backend where
  /-- The in-memory collection. -/
  | memory (collection : Collection)
  /-- A remote collection of the given name, on a store that cannot be reached. -/
  | remote (name : String)
  deriving Inhabited

/-- The state of an audit session. -/
structure Session where
  config : AuditConfig := {}
  backend : Backend := .memory {}
  clock : Instant := Instant.epoch
  minted : Nat := 0
  journal : List LogRecord := []
  deriving Inhabited

/-- Why an operation stopped. -/
inductive Fault where
  /-- It failed with an audit error. -/
  | failed (e : AuditError)
  /-- Clock arithmetic left the representable span of time. -/
  | clockOverflow
  deriving Repr

/-- Operations on a session. -/
abbrev Audit := EStateM Fault Session

namespace Audit

def fail {α : Type} (e : AuditError) : Audit α := throw (.failed e)

/-- Run a check that may fail with an audit error. -/
def check {α : Type} : Except AuditError α → Audit α
  | .ok a => pure a
  | .error e => fail e

/-- Write a log record. -/
def log (r : LogRecord) : Audit Unit :=
  modify fun s => { s with journal := s.journal ++ [r] }

/-- The clock reading. -/
def now : Audit Instant := do return (← get).clock

/-- The audit settings. -/
def config : Audit AuditConfig := do return (← get).config

/-- The error of a call to the unreachable store. -/
def unreachable : AuditError := .database "Kind: Server selection timeout: No available servers"

/-! ### Backend calls -/

def insertDocument (d : Document) : Audit Unit := do
  match (← get).backend with
  | .memory c => modify fun s => { s with backend := .memory (c.insert d) }
  | .remote _ => fail unreachable

def findDocuments (f : Filter) (skip limit : Nat) : Audit (List Document) := do
  match (← get).backend with
  | .memory c => pure (c.newestFirst f skip limit)
  | .remote _ =>
    log { level := .debug, target := "wh_audit::mongo", message := "Querying audit logs",
          fields := [("filter", .text f.toDocument.display), ("skip", .count skip),
                     ("limit", .count limit)] }
    fail unreachable

def countDocuments (f : Filter) : Audit Nat := do
  match (← get).backend with
  | .memory c => pure (c.count f)
  | .remote _ => fail unreachable

def findDocumentById (id : ObjectId) : Audit (Option Document) := do
  match (← get).backend with
  | .memory c => pure (c.findById id)
  | .remote _ => fail unreachable

/-- The name of the collection. -/
def collectionName : Audit String := do
  match (← get).backend with
  | .memory _ => return (← config).collection
  | .remote name => return name

/-- Create the remote collection's indexes; the first attempt fails on the unreachable store. -/
def ensureIndexes : Audit Unit := do
  match (← get).backend with
  | .memory _ => pure ()
  | .remote name =>
    log { level := .info, target := "wh_audit::mongo", message := "Initializing audit log indexes",
          fields := [("collection", .text name)] }
    fail unreachable

/-! ### The store -/

/-- Validate and file an event at the clock reading; the answer is the new id's text. -/
def append (e : Event) : Audit String := do
  check e.validate
  let s ← get
  let id := ObjectId.minted (s.minted + 1)
  let d ← check (Stored.new id e s.clock).toDocument
  insertDocument d
  modify fun s => { s with minted := s.minted + 1 }
  return id.toHex

/-- A stored document as a record, if it reads back as a filed event. -/
def recordOf? (d : Document) : Option Record :=
  match Stored.ofDocument d with
  | .ok s => some s.toRecord
  | .error _ => none

/-- A window of the matching records, newest first, and the number of matching documents. -/
def findPage (f : Filter) (skip limit : Nat) : Audit (List Record × Nat) := do
  let docs ← findDocuments f skip limit
  let total ← countDocuments f
  return (docs.filterMap recordOf?, total)

/-- The records a query selects. -/
def query (q : Query) (skip limit : Nat) : Audit (List Record × Nat) :=
  findPage q.toFilter skip limit

/-- The records where the principal is the actor or the target user. -/
def activityFor (principal : String) (skip limit : Nat) : Audit (List Record × Nat) :=
  findPage (involving principal) skip limit

/-- The record with the given id. -/
def getById (id : ObjectId) : Audit (Option Record) := do
  return (← findDocumentById id).bind recordOf?

/-- The record whose id has the given text; a text that is not an id finds nothing. -/
def get (id : String) : Audit (Option Record) :=
  match ObjectId.parse? id with
  | some oid => getById oid
  | none => pure none

/-! ### The clock -/

def setClock (t : Instant) : Audit Unit := modify fun s => { s with clock := t }

/-- Move the clock by a signed number of nanoseconds. -/
def advance (nanos : Int) : Audit Instant := do
  match (← now).addNanos? nanos with
  | some t => setClock t; return t
  | none => throw .clockOverflow

/-- Move the clock by whole seconds and milliseconds. A span holds at most `2^63 - 1`
milliseconds either way, so seconds beyond that bound, the one millisecond count below it, or a
sum beyond it leave the span of time as surely as a reading beyond the calendar's range. -/
def advanceBy (seconds millis : Int) : Audit Instant := do
  let bound : Int := Nat.pow 2 63 - 1
  if seconds.natAbs > bound / 1000 ∨ millis < -bound ∨ (seconds * 1000 + millis).natAbs > bound then
    throw .clockOverflow
  advance (seconds * nanosPerSecond + millis * 1000000)

end Audit

end AuditTrail
