import AuditTrail.Event.Basic
import AuditTrail.Decode

/-!
# Reading events

An event is read out of any self-describing tree, JSON from a client or a stored payload alike.
`action`, `actor` and `actor_role` are required; the other fields may be absent or `null`;
unknown fields, a client `timestamp` among them, are ignored. A text field holding anything but
a string, `changes` holding anything but a map, or an unknown action name makes the whole event
unreadable. The positional form lists the twelve fields in declaration order and may stop after
the third.
-/

namespace AuditTrail

namespace Event

variable {α : Type} [Tree α]

/-- The action named by a tree. -/
def readAction (t : α) : Option Action := Tree.name? t >>= Action.ofName?

/-- Read an event; `none` when the tree does not describe one. -/
def decode? (t : α) : Option Event := do
  let f ← Fields.of? t
  if !f.fits 12 then none
  let action ← f.required "action" 0 readAction
  let actor ← f.required "actor" 1 Tree.text?
  let actorRole ← f.required "actor_role" 2 Tree.text?
  let targetUser ← f.optional "target_user" 3 Tree.text?
  let targetRole ← f.optional "target_role" 4 Tree.text?
  let targetResource ← f.optional "target_resource" 5 Tree.text?
  let resourceId ← f.optional "resource_id" 6 Tree.text?
  let changes ← f.optional "changes" 7 Tree.jsonMap?
  let reason ← f.optional "reason" 8 Tree.text?
  let details ← f.optional "details" 9 Tree.text?
  let ipAddress ← f.optional "ip_address" 10 Tree.text?
  let userAgent ← f.optional "user_agent" 11 Tree.text?
  pure { action, actor, actorRole, targetUser, targetRole, targetResource, resourceId, changes,
         reason, details, ipAddress, userAgent }

end Event

end AuditTrail
