import AuditTrail.Error

/-!
# Auditable actions

The 22 kinds of action the log records, each with a fixed snake_case name, and the dashboard
bucket each counts towards: creations, updates and deletions of users, procurement orders and
items. Logins, group changes, file uploads, imports and undo count towards none.

## Main definitions

* `Action`, `Action.all`, `Action.name`, `Action.parse`
* `Bucket`, `Action.bucket`, `Bucket.actions`
-/

namespace AuditTrail

/-- A kind of auditable action. -/
inductive Action where
  | userCreate | userUpdate | userDelete | userLogin | userLogout
  | passwordChange | roleChange
  | groupCreate | groupUpdate | groupDelete
  | procurementCreate | procurementUpdate | procurementDelete
  | procurementFileUpload | procurementFileDelete
  | itemCreate | itemUpdate | itemDelete | itemBulkUpdate | itemBulkDelete | itemImport
  | undo
  deriving DecidableEq, Repr, Inhabited

namespace Action

/-- Every action, in declaration order. -/
def all : List Action :=
  [userCreate, userUpdate, userDelete, userLogin, userLogout, passwordChange, roleChange,
    groupCreate, groupUpdate, groupDelete, procurementCreate, procurementUpdate,
    procurementDelete, procurementFileUpload, procurementFileDelete, itemCreate, itemUpdate,
    itemDelete, itemBulkUpdate, itemBulkDelete, itemImport, undo]

/-- The name of an action, as stored and as written by clients. -/
def name : Action → String
  | userCreate => "user_create"
  | userUpdate => "user_update"
  | userDelete => "user_delete"
  | userLogin => "user_login"
  | userLogout => "user_logout"
  | passwordChange => "password_change"
  | roleChange => "role_change"
  | groupCreate => "group_create"
  | groupUpdate => "group_update"
  | groupDelete => "group_delete"
  | procurementCreate => "procurement_create"
  | procurementUpdate => "procurement_update"
  | procurementDelete => "procurement_delete"
  | procurementFileUpload => "procurement_file_upload"
  | procurementFileDelete => "procurement_file_delete"
  | itemCreate => "item_create"
  | itemUpdate => "item_update"
  | itemDelete => "item_delete"
  | itemBulkUpdate => "item_bulk_update"
  | itemBulkDelete => "item_bulk_delete"
  | itemImport => "item_import"
  | undo => "undo"

/-- The action with exactly this name. -/
def ofName? (s : String) : Option Action := all.find? (·.name == s)

/-- The action with exactly this name, or a validation error naming the text. -/
def parse (s : String) : Except AuditError Action :=
  match ofName? s with
  | some a => .ok a
  | none => .error (.validation ("Unknown audit action: " ++ s))

end Action

/-- Dashboard bucket of an action. -/
inductive Bucket where
  | created | updated | deleted
  deriving DecidableEq, Repr

namespace Bucket

def all : List Bucket := [created, updated, deleted]

def name : Bucket → String
  | created => "created"
  | updated => "updated"
  | deleted => "deleted"

end Bucket

/-- The bucket an action counts towards, if any. -/
def Action.bucket : Action → Option Bucket
  | .userCreate | .procurementCreate | .itemCreate => some .created
  | .userUpdate | .passwordChange | .roleChange | .procurementUpdate | .itemUpdate
  | .itemBulkUpdate => some .updated
  | .userDelete | .procurementDelete | .itemDelete | .itemBulkDelete => some .deleted
  | _ => none

/-- The actions of a bucket, in declaration order. -/
def Bucket.actions (b : Bucket) : List Action := Action.all.filter (·.bucket == some b)

end AuditTrail
