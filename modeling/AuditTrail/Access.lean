import AuditTrail.Error
import AuditTrail.Decode

/-!
# Who may read the log

A principal is a user name, a role and a set of permissions. Administrators are the roles
`admin` and `superadmin` and holders of the `admin` permission; all names compare exactly,
case included. Administrators and holders of `inventory:ro` or `inventory:rw` may read the
audit log; only administrators may read another user's activity.

## Main definitions

* `Principal`, `Principal.withPermission`, `Principal.decode?`
* `Principal.isAdmin`, `canViewAuditLogs`, `canViewUserActivity`
* `Principal.requireAuditAccess`, `Principal.requireAdmin`
-/

namespace AuditTrail

/-- An authenticated caller. The permissions hold no duplicates. -/
structure Principal where
  username : String
  role : String
  permissions : List String := []
  deriving Inhabited

namespace Principal

/-- Grant a permission; granting one already held changes nothing. -/
def withPermission (p : Principal) (perm : String) : Principal :=
  if p.permissions.contains perm then p else { p with permissions := p.permissions ++ [perm] }

def hasPermission (p : Principal) (perm : String) : Bool := p.permissions.contains perm

def isAdmin (p : Principal) : Bool :=
  p.role == "admin" || p.role == "superadmin" || p.hasPermission "admin"

def canViewAuditLogs (p : Principal) : Bool :=
  p.isAdmin || p.hasPermission "inventory:ro" || p.hasPermission "inventory:rw"

def canViewUserActivity (p : Principal) : Bool := p.isAdmin

def requireAuditAccess (p : Principal) : Except AuditError Unit :=
  if p.canViewAuditLogs then .ok () else .error (.forbidden "Insufficient permissions to view audit logs")

def requireAdmin (p : Principal) : Except AuditError Unit :=
  if p.isAdmin then .ok () else .error (.forbidden "Admin access required")

variable {α : Type} [Tree α]

/-- Read a principal: user name and role are required, permissions default to none. -/
def decode? (t : α) : Option Principal := do
  let f ← Fields.of? t
  if !f.fits 3 then none
  let username ← f.required "username" 0 Tree.text?
  let role ← f.required "role" 1 Tree.text?
  let perms ← f.withDefault "permissions" 2 [] Tree.texts?
  pure (perms.foldl withPermission { username, role })

end Principal

end AuditTrail
