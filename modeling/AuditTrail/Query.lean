import AuditTrail.Filter.Basic
import AuditTrail.Event.Decode
import AuditTrail.Event.Category
import AuditTrail.Time.Rfc3339

/-!
# What readers ask for

A query narrows the log along independent dimensions: the target resource (which selects one
wrapper), the action, the actor, the target user, the resource id, a window of time stamps and a
free-text search. Empty texts are ignored, and the search is trimmed first.

A query becomes one filter:

* the scope is the wrapper of a non-empty target resource, or all four wrappers;
* a narrowed scope first requires the wrapper itself to be present, so that a value under
  another wrapper cannot match;
* then, in this order, the action, the actor, the target user, the resource id, the time window
  and the search each add one clause: the disjunction, over the wrappers in scope, of the
  condition on that wrapper's field;
* the search asks each of eight fields of each wrapper in scope, wrapper by wrapper, to contain
  the term;
* the clauses are joined by `Filter.conj`.

The window bounds are whole milliseconds, rounded toward the past like stored time stamps.

## Main definitions

* `Query`, `Query.scope`, `Query.toFilter`
* `involving` — events where a principal is the actor or the target user
* `Query.decode?`, `Query.toJson`
-/

namespace AuditTrail

/-- A reader's query. Absent dimensions do not narrow. -/
structure Query where
  action : Option Action := none
  actor : Option String := none
  targetUser : Option String := none
  targetResource : Option String := none
  resourceId : Option String := none
  search : Option String := none
  startDate : Option Instant := none
  endDate : Option Instant := none
  deriving Inhabited

/-- A text that is present and not empty. -/
def nonEmpty : Option String → Option String
  | some s => if s.isEmpty then none else some s
  | none => none

/-- A time stamp as a stored date-time. -/
def Instant.toValue (t : Instant) : Value := .date (Int64.ofInt t.toMillis)

/-- The disjunction over wrappers of a condition on each. -/
def anyWrapper (scope : List Category) (f : Category → Filter) : Filter :=
  Filter.disj (scope.map f)

namespace Query

/-- The wrappers a query looks in. -/
def scope (q : Query) : List Category :=
  match nonEmpty q.targetResource with
  | some t => [Category.forTarget (some t)]
  | none => Category.all

/-- The trimmed search term, if it is not blank. -/
def searchTerm (q : Query) : Option String :=
  match q.search with
  | some s => let t := trimBlank s; if t.isEmpty then none else some t
  | none => none

/-- The clauses of a query, in order. -/
def clauses (q : Query) : List Filter :=
  let scope := q.scope
  let narrowing := match scope with
    | [c] => [Filter.present c.key]
    | _ => []
  let exact (field : Field) (v : Option String) : List Filter :=
    match nonEmpty v with
    | some s => [anyWrapper scope fun c => .eq (c.path field) (.str s)]
    | none => []
  narrowing ++
    (match q.action with
      | some a => [anyWrapper scope fun c => .eq (c.path .action) (.str a.name)]
      | none => []) ++
    exact .actor q.actor ++
    exact .targetUser q.targetUser ++
    exact .resourceId q.resourceId ++
    (if q.startDate.isSome || q.endDate.isSome then
      [anyWrapper scope fun c =>
        .range (c.path .timestamp) (q.startDate.map Instant.toValue) (q.endDate.map Instant.toValue)]
    else []) ++
    (match q.searchTerm with
      | some t => [Filter.disj (scope.flatMap fun c => searchFields.map fun f => .contains (c.path f) t)]
      | none => [])

/-- The filter of a query. -/
def toFilter (q : Query) : Filter := Filter.conj q.clauses

variable {α : Type} [Tree α]

/-- A time stamp field: absent, `null`, or a string that reads as a time stamp. -/
def readInstant (t : α) : Option Instant := Tree.text? t >>= Instant.parse?

/-- Read a query. Every field may be absent or `null`; a bad action name, time stamp or kind of
value makes the query unreadable. -/
def decode? (t : α) : Option Query := do
  let f ← Fields.of? t
  if !f.fits 8 then none
  let action ← f.optional "action" 0 Event.readAction
  let actor ← f.optional "actor" 1 Tree.text?
  let targetUser ← f.optional "target_user" 2 Tree.text?
  let targetResource ← f.optional "target_resource" 3 Tree.text?
  let resourceId ← f.optional "resource_id" 4 Tree.text?
  let search ← f.optional "search" 5 Tree.text?
  let startDate ← f.optional "start_date" 6 readInstant
  let endDate ← f.optional "end_date" 7 readInstant
  pure { action, actor, targetUser, targetResource, resourceId, search, startDate, endDate }

/-- Every field of a query as JSON, `null` for the absent ones. -/
def toJson (q : Query) : Json :=
  let text : Option String → Json := fun o => (o.map Json.str).getD .null
  .obj [("action", (q.action.map fun a => Json.str a.name).getD .null),
    ("actor", text q.actor), ("target_user", text q.targetUser),
    ("target_resource", text q.targetResource), ("resource_id", text q.resourceId),
    ("search", text q.search),
    ("start_date", (q.startDate.map fun t => Json.str t.rfc3339).getD .null),
    ("end_date", (q.endDate.map fun t => Json.str t.rfc3339).getD .null)]

end Query

/-- Events where the principal is the actor or the target user: for each wrapper, the actor
and then the target user. -/
def involving (principal : String) : Filter :=
  Filter.disj (Category.all.flatMap fun c =>
    [.eq (c.path .actor) (.str principal), .eq (c.path .targetUser) (.str principal)])

end AuditTrail
