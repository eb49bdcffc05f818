import AuditTrail.Bson.Extended
import AuditTrail.Event.Decode
import AuditTrail.Time.Rfc3339

/-!
# Filed events

An event is filed as one document

```
{ _id: <id>, <wrapper key>: { <event fields>, timestamp: <date-time> }, type: <wrapper key> }
```

where the wrapper key is the event's category, absent optional fields are left out, and the
time stamp is the store's clock reading in whole milliseconds. `changes` is stored as a nested
document: integers become 64-bit integers, fractions doubles, and maps documents with their
keys in sorted order, except that a map spelling a type marker becomes the value it describes
(`Value.ofExtended`). An integer above the largest signed 64-bit value cannot be stored.

Reading a document back checks, in this order, that `_id` is an object id, that exactly one of
the four wrapper keys holds a document (other values under those keys do not count, and `type`
is ignored), that the payload has a date-time `timestamp`, and that the rest of the payload
reads as an event.

## Main definitions

* `Stored`, `Stored.toDocument` — filing an event
* `Malformed`, `Stored.ofDocument` — reading a filed event back
* `Record`, `Record.toJson` — the flattened form returned to readers
-/

namespace AuditTrail

/-- The text of the error for an integer that a stored document cannot hold. -/
def unsignedOverflowDetail (n : Int) : String :=
  "BSON does not support unsigned integers.\n                 An attempt to serialize the value: " ++
    toString n ++ " in a signed type failed due to the value's size."

mutual

/-- The stored value of a JSON value from an open field, fields in the order given. -/
def storedOfJson : Json → Except AuditError Value
  | .null => .ok .null
  | .bool b => .ok (.bool b)
  | .int n =>
    if n > 9223372036854775807 then .error (.serialization (unsignedOverflowDetail n))
    else .ok (.int64 (Int64.ofInt n))
  | .float x => .ok (.double x)
  | .str s => .ok (.str s)
  | .arr items => (storedOfItems items).map .arr
  | .obj fields => (storedOfFields fields).map Value.ofExtended

def storedOfItems : List Json → Except AuditError (List Value)
  | [] => .ok []
  | j :: rest => do
    let v ← storedOfJson j
    let vs ← storedOfItems rest
    pure (v :: vs)

def storedOfFields : List (String × Json) → Except AuditError Document
  | [] => .ok []
  | (k, j) :: rest => do
    let v ← storedOfJson j
    let vs ← storedOfFields rest
    pure ((k, v) :: vs)

end

namespace Event

/-- An optional text field, present only when set. -/
def storedField (name : String) : Option String → Document
  | some s => [(name, .str s)]
  | none => []

/-- The event's fields as a stored document, in declaration order. -/
def toPayload (e : Event) : Except AuditError Document := do
  let changes ← match e.changes with
    | some c => do
      let d ← storedOfJson (Json.sortKeys (.obj c))
      pure [("changes", d)]
    | none => pure []
  pure <| [("action", .str e.action.name), ("actor", .str e.actor),
      ("actor_role", .str e.actorRole)] ++
    storedField "target_user" e.targetUser ++
    storedField "target_role" e.targetRole ++
    storedField "target_resource" e.targetResource ++
    storedField "resource_id" e.resourceId ++
    changes ++
    storedField "reason" e.reason ++
    storedField "details" e.details ++
    storedField "ip_address" e.ipAddress ++
    storedField "user_agent" e.userAgent

end Event

/-- An event as filed: its id, wrapper, time stamp and content. -/
structure Stored where
  id : ObjectId
  category : Category
  timestamp : Instant
  event : Event

/-- Why a stored document does not read back as a filed event. -/
inductive Malformed where
  | missingId
  | noWrapper
  | multipleWrappers (count : Nat)
  | missingTimestamp
  | payload
  deriving DecidableEq, Repr

namespace Malformed

/-- The name of the failed check. -/
def kind : Malformed → String
  | missingId => "MissingId"
  | noWrapper => "NoWrapper"
  | multipleWrappers _ => "MultipleWrappers"
  | missingTimestamp => "MissingTimestamp"
  | payload => "Payload"

/-- The text of the failed check; a payload that does not read has none of its own. -/
def message? : Malformed → Option String
  | missingId => some "missing or non-ObjectId _id"
  | noWrapper => some "no wrapper key present"
  | multipleWrappers n => some (toString n ++ " wrapper keys present")
  | missingTimestamp => some "payload has no timestamp"
  | payload => none

end Malformed

namespace Stored

/-- File an event under its own category. -/
def new (id : ObjectId) (e : Event) (timestamp : Instant) : Stored :=
  ⟨id, e.category, timestamp, e⟩

/-- The document that holds a filed event. -/
def toDocument (s : Stored) : Except AuditError Document := do
  let payload ← s.event.toPayload
  let payload := payload.insert "timestamp" (.date (Int64.ofInt s.timestamp.toMillis))
  pure [("_id", .oid s.id), (s.category.key, .doc payload), ("type", .str s.category.key)]

/-- The wrappers of a document that hold a document, with their payloads. -/
def wrappers (d : Document) : List (Category × Document) :=
  Category.all.filterMap fun c =>
    match d.get? c.key with
    | some (.doc p) => some (c, p)
    | _ => none

/-- Read a filed event back from its document. -/
def ofDocument (d : Document) : Except Malformed Stored := do
  let some id := d.objectId? | .error .missingId
  match wrappers d with
  | [] => .error .noWrapper
  | [(c, p)] =>
    match p.get? "timestamp" with
    | some (.date ms) =>
      match Event.decode? (Value.doc (p.erase "timestamp")) with
      | some e => .ok ⟨id, c, Instant.ofMillisSaturating ms.toInt, e⟩
      | none => .error .payload
    | _ => .error .missingTimestamp
  | many => .error (.multipleWrappers many.length)

end Stored

/-- A filed event as returned to readers: the event's fields lifted to the top, with the id and
time stamp beside them. -/
structure Record where
  id : ObjectId
  timestamp : Instant
  category : Category
  event : Event

/-- Flatten a filed event. -/
def Stored.toRecord (s : Stored) : Record := ⟨s.id, s.timestamp, s.category, s.event⟩

/-- The record's JSON: `id`, `timestamp` and the event's fields. -/
def Record.toJson (r : Record) : Json :=
  .obj ([("id", .str r.id.toHex), ("timestamp", .str r.timestamp.rfc3339)] ++ r.event.toJsonFields)

end AuditTrail
