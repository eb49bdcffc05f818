import AuditTrail.Proofs.Window
import AuditTrail.Store.Service

/-!
# Reading the log a page at a time

The service serves a read a page at a time. A request names a page number, counting from 1, and a
page size; absent values default to the first page and to the configured size. The request is
checked before anything is read: a page number of 0 is refused, then a page size of 0 or above
the configured largest, each with its own message. Page `p` of size `n` is then the read of at
most `n` records after the first `(p - 1) * n`, with the read's total beside them. Listing by a
query and listing a principal's activity follow these rules alike (`pageAnswer`); the activity
first refuses a blank principal.

On the in-memory store the pages of one size cover the read: every page reports the same total,
and the pages from the first to the last, in order, list the records of the whole read
(`PagesCover`). The last page is the total divided by the page size, rounded up. The page reports
that number in an unsigned 32-bit word, so it wraps modulo `2^32`: with `2^32` matching
documents and pages of one, the pages are reported as none (`pageCount_wraps_at_word`). The pages
cover the read whenever the number needs no wrapping. The skip `(p - 1) * n` of two 32-bit numbers
always fits a 64-bit word.

## Main definitions

* `pageAnswer` — the outcome of a page request, as the rules state it
* `PagesCover` — the pages of one size carry the whole read
* `Audit.paged` — the shape that listing and activity share

## Main results

* `Audit.paged_run`, `Audit.activity_run`
* `Collection.flatMap_windows`, `Audit.pagesCover_findPage`
* `pages_join_into_reads`, and `pageCount_wraps_at_word` where the page count wraps
-/

namespace AuditTrail

/-! ### A page request, on its own terms -/

/-- The outcome of a page request against the read `read` on session `s`, as the service's rules
state it. Absent values take their defaults. A page number of 0 is refused first, then a page
size of 0 or above the largest, each with its own message and with the session untouched, since
nothing has been read. Otherwise page `p` of size `n` is the read of at most `n` records after
the first `(p - 1) * n`, together with the read's total. -/
def pageAnswer (read : Nat → Nat → Audit (List Record × Nat)) (s : Session)
    (page pageSize : Option Nat) : EStateM.Result Fault Session Page :=
  let p := page.getD 1
  let n := pageSize.getD s.config.defaultPageSize
  if p = 0 then .error (.failed (.validation "page must be at least 1")) s
  else if n = 0 ∨ n > s.config.maxPageSize then
    .error (.failed (.validation
      ("page_size must be between 1 and " ++ toString s.config.maxPageSize))) s
  else ((fun rt : List Record × Nat => Page.mk rt.1 rt.2 p n) <$> read ((p - 1) * n) n).run s

/-- The pages of size `n` of a read on session `s` carry the whole read `whole`. Every page
leaves the session as it was and reports the read's total. The number of pages the page
reports is the total divided by `n`, rounded up (`k`), as a 32-bit word. When `k` needs no
wrapping, the records of pages `1` to `k`, in that order, are the records of the whole read. -/
def PagesCover (pageAt : Nat → Audit Page) (whole : Audit (List Record × Nat)) (s : Session)
    (n : Nat) : Prop :=
  ∃ (records : List Record) (total k : Nat) (pages : Nat → List Record),
    whole.run s = .ok (records, total) s ∧
    (∀ j, total ≤ j * n ↔ k ≤ j) ∧
    (∀ p, 0 < p → (pageAt p).run s = .ok ⟨pages p, total, p, n⟩ s ∧
      (Page.mk (pages p) total p n).totalPages = k % Nat.pow 2 32) ∧
    (k < Nat.pow 2 32 → (List.range k).flatMap (fun i => pages (i + 1)) = records)

/-! ### The service's paging -/

namespace Audit

/-- A read served a page at a time: `list` and `activity` both check the request, then read the
window of the page. -/
def paged (read : Nat → Nat → Audit (List Record × Nat)) (page pageSize : Option Nat) :
    Audit Page := do
  let (page, pageSize) ← paging page pageSize
  let (records, total) ← read ((page - 1) * pageSize) pageSize
  return { records, total, page, pageSize }

theorem list_eq_paged (q : Query) : list q = paged (query q) := rfl

theorem activity_eq_paged (p : String) (page pageSize : Option Nat) :
    activity p page pageSize = (do
      if isBlank p then fail (.validation "principal is required")
      paged (activityFor p) page pageSize) := rfl

theorem config_bind_run {α : Type} (f : AuditConfig → Audit α) (s : Session) :
    (config >>= f).run s = (f s.config).run s := rfl

theorem paging_run (s : Session) (page pageSize : Option Nat) :
    (paging page pageSize).run s =
      if page.getD 1 = 0 then .error (.failed (.validation "page must be at least 1")) s
      else if pageSize.getD s.config.defaultPageSize = 0 ∨
          pageSize.getD s.config.defaultPageSize > s.config.maxPageSize then
        .error (.failed (.validation
          ("page_size must be between 1 and " ++ toString s.config.maxPageSize))) s
      else .ok (page.getD 1, pageSize.getD s.config.defaultPageSize) s := by
  rw [paging, config_bind_run]
  dsimp only
  split_ifs <;> rfl

/-- A paged read answers as the rules say. -/
theorem paged_run (read : Nat → Nat → Audit (List Record × Nat)) (s : Session)
    (page pageSize : Option Nat) :
    (paged read page pageSize).run s = pageAnswer read s page pageSize := by
  have hbind : (paged read page pageSize).run s =
      match (paging page pageSize).run s with
      | .ok (p, n) s' => ((fun rt : List Record × Nat => Page.mk rt.1 rt.2 p n) <$>
          read ((p - 1) * n) n).run s'
      | .error e s' => .error e s' := by
    simp only [paged, bind, EStateM.bind, EStateM.run, Functor.map, EStateM.map, pure, EStateM.pure]
    cases paging page pageSize s with
    | ok pn s' => cases read ((pn.1 - 1) * pn.2) pn.2 s' <;> rfl
    | error e s' => rfl
  rw [hbind, paging_run, pageAnswer]
  split_ifs <;> rfl

/-- An activity request checks the principal before the page. -/
theorem activity_run (s : Session) (principal : String) (page pageSize : Option Nat) :
    (activity principal page pageSize).run s =
      if isBlank principal then .error (.failed (.validation "principal is required")) s
      else (paged (activityFor principal) page pageSize).run s := by
  rw [activity_eq_paged]
  split <;> rfl

end Audit

/-! ### Pages of the in-memory store -/

/-- `k` pages of `n` hold `total` records exactly when `k` is at least the total divided by `n`,
rounded up. -/
theorem le_mul_iff_ceil_le {total n k : Nat} (hn : 0 < n) : total ≤ k * n ↔ (total + n - 1) / n ≤ k := by
  rw [← Nat.lt_succ_iff (m := (total + n - 1) / n), Nat.div_lt_iff_lt_mul hn, Nat.succ_mul]
  omega

namespace Collection

theorem length_sortedMatches (c : Collection) (f : Filter) : (c.sortedMatches f).length = c.count f := by
  rw [sortedMatches, List.length_mergeSort, count, List.filter_reverse, List.length_reverse]

/-- The first `k` windows of `n` documents list the first `k * n` documents of the read. -/
theorem flatMap_windows (c : Collection) (f : Filter) {n : Nat} (hn : 0 < n) (k : Nat) :
    (List.range k).flatMap (fun i => c.newestFirst f (i * n) n) = (c.sortedMatches f).take (k * n) := by
  induction k with
  | zero => simp
  | succ k ih =>
    rw [List.range_succ, List.flatMap_append, ih, Nat.succ_mul, List.take_add]
    simp [newestFirst, Nat.ne_of_gt hn]

end Collection

namespace Audit

variable {s : Session} {c : Collection}

theorem map_run_of_ok {α β : Type} {x : Audit α} {s s' : Session} {a : α} (f : α → β)
    (h : x.run s = .ok a s') : (f <$> x).run s = .ok (f a) s' := by
  simp only [Functor.map, EStateM.map, EStateM.run] at h ⊢
  rw [h]

theorem paged_findPage_run (hs : s.backend = .memory c) (F : Filter) {p n : Nat} (hp : 0 < p)
    (hn : 0 < n) (hmax : n ≤ s.config.maxPageSize) :
    (paged (findPage F) (some p) (some n)).run s =
      .ok ⟨(c.newestFirst F ((p - 1) * n) n).filterMap recordOf?, c.count F, p, n⟩ s := by
  have hvalid : ¬(n = 0 ∨ n > s.config.maxPageSize) := by omega
  rw [paged_run, pageAnswer, Option.getD_some, Option.getD_some, if_neg (Nat.ne_of_gt hp),
    if_neg hvalid, map_run_of_ok _ (findPage_run hs F _ _)]

theorem pagesCover_findPage (hs : s.backend = .memory c) (F : Filter) {n : Nat} (hn : 0 < n)
    (hmax : n ≤ s.config.maxPageSize) :
    PagesCover (fun p => paged (findPage F) (some p) (some n)) (findPage F 0 0) s n := by
  refine ⟨(c.sortedMatches F).filterMap recordOf?, c.count F, (c.count F + n - 1) / n,
    fun p => (c.newestFirst F ((p - 1) * n) n).filterMap recordOf?, ?_, fun j => le_mul_iff_ceil_le hn,
    fun p hp => ⟨paged_findPage_run hs F hp hn hmax, ?_⟩, fun _ => ?_⟩
  · rw [findPage_run hs, Collection.newestFirst_zero]
  · simp [Page.totalPages, pageCount, Nat.ne_of_gt hn]
  · -- the pages hold every record, the last one possibly fewer than `n`
    have hcover : c.count F ≤ (c.count F + n - 1) / n * n := (le_mul_iff_ceil_le hn).mpr le_rfl
    simp only [Nat.add_sub_cancel]
    rw [← List.filterMap_flatMap, c.flatMap_windows F hn,
      List.take_of_length_le (by rwa [Collection.length_sortedMatches])]

/-- Pages whose runs agree on the session cover the read alike. -/
theorem PagesCover.congr {pageAt pageAt' : Nat → Audit Page} {whole : Audit (List Record × Nat)}
    {s : Session} {n : Nat} (h : ∀ p, 0 < p → (pageAt p).run s = (pageAt' p).run s)
    (hcover : PagesCover pageAt whole s n) : PagesCover pageAt' whole s n := by
  obtain ⟨records, total, k, pages, hwhole, hk, hpages, hjoin⟩ := hcover
  exact ⟨records, total, k, pages, hwhole, hk,
    fun p hp => ⟨(h p hp).symm.trans (hpages p hp).1, (hpages p hp).2⟩, hjoin⟩

end Audit

/-- The skip of page `p` of size `n`, both 32-bit numbers, is computed in a 64-bit word without
wrapping. -/
theorem skip_fits_word (p n : Nat) (hp : p < Nat.pow 2 32) (hn : n < Nat.pow 2 32) :
    (UInt64.ofNat (p - 1) * UInt64.ofNat n).toNat = (p - 1) * n := by
  have hword : Nat.pow 2 32 * Nat.pow 2 32 = 2 ^ 64 := by decide
  have hlt : (p - 1) * n < 2 ^ 64 := hword ▸ Nat.mul_lt_mul'' (by omega) hn
  have h64 : Nat.pow 2 32 < 2 ^ 64 := by decide
  simp only [UInt64.toNat_mul, UInt64.toNat_ofNat']
  rw [Nat.mod_eq_of_lt (a := p - 1) (by omega), Nat.mod_eq_of_lt (a := n) (by omega),
    Nat.mod_eq_of_lt hlt]

/-- Listing by a query and listing a principal's activity answer every page request as the rules
say, the activity after refusing a blank principal; the skip never wraps. On the in-memory store,
for every page size the settings allow, the pages cover the whole read: each reports the read's
total, the number of pages is the total divided by the size, rounded up, as a 32-bit word, and
when that number does not wrap, the pages from the first to the last list the read's records in
order. -/
theorem pages_join_into_reads :
    (∀ p n : Nat, p < Nat.pow 2 32 → n < Nat.pow 2 32 →
      (UInt64.ofNat (p - 1) * UInt64.ofNat n).toNat = (p - 1) * n) ∧
    (∀ (s : Session) (q : Query) (page pageSize : Option Nat),
      (Audit.list q page pageSize).run s = pageAnswer (Audit.query q) s page pageSize) ∧
    (∀ (s : Session) (principal : String) (page pageSize : Option Nat),
      (Audit.activity principal page pageSize).run s =
        if isBlank principal then .error (.failed (.validation "principal is required")) s
        else pageAnswer (Audit.activityFor principal) s page pageSize) ∧
    (∀ (s : Session) (c : Collection), s.backend = .memory c →
      ∀ n, 0 < n → n ≤ s.config.maxPageSize →
        (∀ q, PagesCover (fun p => Audit.list q (some p) (some n)) (Audit.query q 0 0) s n) ∧
        ∀ principal, isBlank principal = false →
          PagesCover (fun p => Audit.activity principal (some p) (some n))
            (Audit.activityFor principal 0 0) s n) := by
  refine ⟨skip_fits_word, fun s q page pageSize => Audit.paged_run _ s page pageSize,
    fun s principal page pageSize => by rw [Audit.activity_run, Audit.paged_run],
    fun s c hs n hn hmax => ⟨fun q => Audit.pagesCover_findPage hs q.toFilter hn hmax,
      fun principal hblank => ?_⟩⟩
  -- the activity of a principal that is not blank is its paged read
  refine Audit.PagesCover.congr (fun p _ => ?_) (Audit.pagesCover_findPage hs (involving principal) hn hmax)
  rw [Audit.activity_run, hblank]
  rfl

/-- A store of two minted documents, read a page of one at a time. -/
def twoMinted : Session := { backend := .memory ⟨[mintedDoc 1, mintedDoc 2]⟩ }

theorem twoMinted_pages :
    (UInt64.ofNat (Nat.pow 2 32 - 1 - 1) * UInt64.ofNat (Nat.pow 2 32 - 1)).toNat =
      (Nat.pow 2 32 - 1 - 1) * (Nat.pow 2 32 - 1) ∧
    0 < 1 ∧ 1 ≤ twoMinted.config.maxPageSize ∧
    PagesCover (fun p => Audit.list {} (some p) (some 1)) (Audit.query {} 0 0) twoMinted 1 ∧
    isBlank "alice" = false ∧
    PagesCover (fun p => Audit.activity "alice" (some p) (some 1)) (Audit.activityFor "alice" 0 0)
      twoMinted 1 := by
  obtain ⟨hskip, -, -, hcover⟩ := pages_join_into_reads
  have hblank : isBlank "alice" = false := by decide
  have hmax : 1 ≤ twoMinted.config.maxPageSize := by decide
  exact ⟨hskip _ _ (by decide) (by decide), by decide, hmax, (hcover twoMinted _ rfl 1 (by decide) hmax).1 {},
    hblank, (hcover twoMinted _ rfl 1 (by decide) hmax).2 "alice" hblank⟩

/-- A store of `2^32` documents, each empty. -/
def wordOfDocuments : Session := { backend := .memory ⟨List.replicate (Nat.pow 2 32) []⟩ }

/-- With `2^32` matching documents and pages of one, the first page reports the total `2^32`, the
total divided by the size rounded up is `2^32`, and the number of pages, a 32-bit word, is 0. -/
theorem pageCount_wraps_at_word :
    ∃ page, (Audit.list {} (some 1) (some 1)).run wordOfDocuments = .ok page wordOfDocuments ∧
      page.total = Nat.pow 2 32 ∧ (page.total + 1 - 1) / 1 = Nat.pow 2 32 ∧ page.totalPages = 0 := by
  have hall : ({} : Query).toFilter.accepts [] = true := by decide
  -- counted through the library's lemmas: the list is far too long to evaluate
  have hcount : (Collection.mk (List.replicate (Nat.pow 2 32) [])).count ({} : Query).toFilter =
      Nat.pow 2 32 := by
    rw [Collection.count, List.filter_replicate, if_pos hall, List.length_replicate]
  have hmax : 1 ≤ wordOfDocuments.config.maxPageSize := by decide
  have hrun := Audit.paged_findPage_run (s := wordOfDocuments) rfl ({} : Query).toFilter
    (p := 1) (n := 1) Nat.one_pos Nat.one_pos hmax
  refine ⟨_, hrun, hcount, ?_, ?_⟩
  · rw [hcount]
    rfl
  · show pageCount _ 1 = 0
    rw [hcount]
    rfl

end AuditTrail
