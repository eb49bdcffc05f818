/-!
# Categories and field paths

Every stored event is filed under exactly one of four wrapper keys, chosen by its target
resource: users and groups under `user_action`, items under `item_action`, procurement orders
under `procurement_action`, and everything else, a missing target included, under
`general_action`. The comparison is exact and case-sensitive.

A field of an event is addressed inside a wrapper by a dot path such as `item_action.actor`.

## Main definitions

* `Category`, `Category.key`, `Category.ofKey?`, `Category.forTarget`
* `Field`, `Category.path`, `searchFields`
-/

namespace AuditTrail

/-- The wrapper an event is filed under. -/
inductive Category where
  | user | item | procurement | general
  deriving DecidableEq, Repr, Inhabited

namespace Category

/-- All categories, in their fixed order. -/
def all : List Category := [user, item, procurement, general]

/-- The top-level document key that holds the event. -/
def key : Category → String
  | user => "user_action"
  | item => "item_action"
  | procurement => "procurement_action"
  | general => "general_action"

/-- The category with exactly this key. -/
def ofKey? (k : String) : Option Category := all.find? (·.key == k)

/-- The category for a target resource. -/
def forTarget : Option String → Category
  | some "user" | some "group" => user
  | some "item" => item
  | some "procurement_order" => procurement
  | _ => general

end Category

/-- A field of a stored event. -/
inductive Field where
  | action | actor | actorRole | targetUser | targetRole | targetResource | resourceId
  | reason | details | timestamp | changesName | changesCatalogNumber
  deriving DecidableEq, Repr

/-- The path of a field inside a wrapper. -/
def Field.path : Field → String
  | .action => "action"
  | .actor => "actor"
  | .actorRole => "actor_role"
  | .targetUser => "target_user"
  | .targetRole => "target_role"
  | .targetResource => "target_resource"
  | .resourceId => "resource_id"
  | .reason => "reason"
  | .details => "details"
  | .timestamp => "timestamp"
  | .changesName => "changes.name"
  | .changesCatalogNumber => "changes.catalog_number"

/-- The dot path of a field under a wrapper, such as `item_action.actor`. -/
def Category.path (c : Category) (f : Field) : String := c.key ++ "." ++ f.path

/-- The fields that free-text search looks into. -/
def searchFields : List Field :=
  [.actor, .targetUser, .targetResource, .resourceId, .reason, .details, .changesName,
    .changesCatalogNumber]

end AuditTrail
