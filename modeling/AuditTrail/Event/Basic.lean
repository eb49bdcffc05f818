import AuditTrail.Event.Action
import AuditTrail.Event.Category
import AuditTrail.Json.Basic
import AuditTrail.Text.Blank

/-!
# Audit events

An event says who (`actor`, in role `actorRole`) did what (`action`) to what (`targetUser`,
`targetRole`, `targetResource`, `resourceId`), with an optional field-level diff (`changes`,
open JSON keyed by field name), a reason, details, and the client's address and agent. It has
no time stamp: the store assigns one when it files the event.

An event is valid when its actor and its actor's role are not blank; the actor is checked
first.

## Main definitions

* `Event`, `Event.new`, the `with…` builders
* `Event.category` — the wrapper the event is filed under
* `Event.validate`
* `Event.toJsonFields` — the event as JSON fields, absent optionals left out
-/

namespace AuditTrail

/-- One auditable action as a client reports it. -/
structure Event where
  action : Action
  actor : String
  actorRole : String
  targetUser : Option String := none
  targetRole : Option String := none
  targetResource : Option String := none
  resourceId : Option String := none
  changes : Option (List (String × Json)) := none
  reason : Option String := none
  details : Option String := none
  ipAddress : Option String := none
  userAgent : Option String := none
  deriving Inhabited

namespace Event

/-- An event with only the required fields. -/
def new (action : Action) (actor actorRole : String) : Event :=
  { action, actor, actorRole }

def withTargetUser (e : Event) (s : String) : Event := { e with targetUser := some s }
def withTargetRole (e : Event) (s : String) : Event := { e with targetRole := some s }
def withTargetResource (e : Event) (s : String) : Event := { e with targetResource := some s }
def withResourceId (e : Event) (s : String) : Event := { e with resourceId := some s }
def withReason (e : Event) (s : String) : Event := { e with reason := some s }
def withDetails (e : Event) (s : String) : Event := { e with details := some s }

/-- Replace the whole diff. -/
def withChanges (e : Event) (changes : List (String × Json)) : Event :=
  { e with changes := some changes }

/-- Record that `field` went from `old` to `new`, replacing an earlier entry for the field and
starting a diff if there is none. -/
def withChange (e : Event) (field : String) (old new : Json) : Event :=
  { e with changes := some (Json.setField (e.changes.getD []) field (.obj [("old", old), ("new", new)])) }

/-- Set the client's address and agent together; `none` clears one. -/
def withRequestInfo (e : Event) (ip agent : Option String) : Event :=
  { e with ipAddress := ip, userAgent := agent }

/-- The wrapper the event is filed under, chosen by its target resource. -/
def category (e : Event) : Category := Category.forTarget e.targetResource

/-- The actor, then the actor's role, must not be blank. -/
def validate (e : Event) : Except AuditError Unit :=
  if isBlank e.actor then .error (.validation "actor is required")
  else if isBlank e.actorRole then .error (.validation "actor_role is required")
  else .ok ()

/-- An optional text field, present only when set. -/
def optionalField (name : String) : Option String → List (String × Json)
  | some s => [(name, .str s)]
  | none => []

/-- The event's fields as JSON, in declaration order, absent optionals left out. -/
def toJsonFields (e : Event) : List (String × Json) :=
  [("action", .str e.action.name), ("actor", .str e.actor), ("actor_role", .str e.actorRole)] ++
    optionalField "target_user" e.targetUser ++
    optionalField "target_role" e.targetRole ++
    optionalField "target_resource" e.targetResource ++
    optionalField "resource_id" e.resourceId ++
    (match e.changes with
      | some c => [("changes", .obj c)]
      | none => []) ++
    optionalField "reason" e.reason ++
    optionalField "details" e.details ++
    optionalField "ip_address" e.ipAddress ++
    optionalField "user_agent" e.userAgent

/-- The event as a JSON object. -/
def toJson (e : Event) : Json := .obj e.toJsonFields

end Event

end AuditTrail
