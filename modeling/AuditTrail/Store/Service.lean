import AuditTrail.Store.Session
import AuditTrail.Access

/-!
# Pages of the log

Readers ask for the log a page at a time. A page number counts from 1 and defaults to the
first page; the page size defaults to the configured one and may not exceed the configured
largest. Page `p` of size `n` skips the first `(p - 1) * n` matching documents.

A page carries beside its records the number of all matching documents, from which the number
of pages follows: that number is reported in an unsigned 32-bit word, so it is the rounded-up
quotient reduced modulo `2^32`, and a page size of zero gives zero pages.

## Main definitions

* `Page`, `Page.totalPages`
* `Audit.paging`, `Audit.list`, `Audit.activity`
* `Audit.record`, `Audit.recordAs`
-/

namespace AuditTrail

/-- One page of records. -/
structure Page where
  records : List Record
  total : Nat
  page : Nat
  pageSize : Nat

/-- The number of pages of `pageSize` records that hold `total` records, as a 32-bit word. -/
def pageCount (total pageSize : Nat) : Nat :=
  if pageSize = 0 then 0 else (total + pageSize - 1) / pageSize % Nat.pow 2 32

def Page.totalPages (p : Page) : Nat := pageCount p.total p.pageSize

namespace Audit

/-- Check a page request against the settings; absent values take their defaults. -/
def paging (page pageSize : Option Nat) : Audit (Nat × Nat) := do
  let cfg ← config
  let page := page.getD 1
  let pageSize := pageSize.getD cfg.defaultPageSize
  if page = 0 then fail (.validation "page must be at least 1")
  if pageSize = 0 ∨ pageSize > cfg.maxPageSize then
    fail (.validation ("page_size must be between 1 and " ++ toString cfg.maxPageSize))
  return (page, pageSize)

/-- A page of the records that a query selects. -/
def list (q : Query) (page pageSize : Option Nat) : Audit Page := do
  let (page, pageSize) ← paging page pageSize
  let (records, total) ← query q ((page - 1) * pageSize) pageSize
  return { records, total, page, pageSize }

/-- A page of what a principal did or had done to them; the principal must not be blank. -/
def activity (principal : String) (page pageSize : Option Nat) : Audit Page := do
  if isBlank principal then fail (.validation "principal is required")
  let (page, pageSize) ← paging page pageSize
  let (records, total) ← activityFor principal ((page - 1) * pageSize) pageSize
  return { records, total, page, pageSize }

/-- Record an event as submitted. -/
def record (e : Event) : Audit String := append e

/-- Record an event on behalf of a principal, whose name and role replace the submitted actor. -/
def recordAs (p : Principal) (e : Event) : Audit String :=
  record { e with actor := p.username, actorRole := p.role }

end Audit

end AuditTrail
