import AuditTrail.Filter.Match

/-!
# The in-memory collection

Documents are kept in insertion order. Reads return the matching documents newest first:
by descending object id, ids missing or of another kind last, and among equal keys the most
recently inserted first. A read window skips some of them and takes at most `limit`, where a
limit of 0 takes all.

## Main definitions

* `Collection` — the stored documents, oldest first
* `Collection.newestFirst`, `Collection.count`, `Collection.findById`
-/

namespace AuditTrail

/-- The key that orders documents newest first: the object id under `_id`, if any. -/
def newestKey (d : Document) : Option ObjectId := d.objectId?

/-- Whether `a` may come before `b` in newest-first order: its key is at least `b`'s, a
missing key being below every id. -/
def newerOrSame (a b : Document) : Bool :=
  match newestKey a, newestKey b with
  | _, none => true
  | none, some _ => false
  | some x, some y => x.order y != .lt

/-- Stored documents, oldest first. -/
structure Collection where
  documents : List Document := []
  deriving Inhabited

namespace Collection

/-- Add a document at the end. -/
def insert (c : Collection) (d : Document) : Collection := ⟨c.documents ++ [d]⟩

/-- The matching documents newest first; a stable sort of the matches taken newest-inserted
first. -/
def sortedMatches (c : Collection) (f : Filter) : List Document :=
  (c.documents.reverse.filter (f.accepts ·)).mergeSort newerOrSame

/-- A window of the matching documents, newest first; a limit of 0 takes all that remain. -/
def newestFirst (c : Collection) (f : Filter) (skip limit : Nat) : List Document :=
  let rest := (c.sortedMatches f).drop skip
  if limit = 0 then rest else rest.take limit

/-- How many documents match. -/
def count (c : Collection) (f : Filter) : Nat := (c.documents.filter (f.accepts ·)).length

/-- The first inserted document with the given id. -/
def findById (c : Collection) (id : ObjectId) : Option Document :=
  c.documents.find? fun d => d.objectId? == some id

end Collection

end AuditTrail
