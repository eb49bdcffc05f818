import AuditTrail.Log.Record

/-!
# Which log records are written

A filter setting is a comma-separated list of directives; empty items are skipped. A directive
is a bare level (`off`, `error`, `warn`, `info`, `debug`, `trace` in any case, or a digit from
`0` for off to `5` for trace), or one or two parts, each a target (word characters, `:` and
`-`) or a span `[…]`, optionally followed by `=` and a level. A directive that names a target
but no level allows every level; a target that itself reads as a level is no target at all. When
any directive does not read, the whole setting is replaced by `info`; an unset setting means
`info` too, and an empty one allows nothing.

A record is written when the most specific directive that applies to it allows its level. A
directive applies when its target is a prefix of the record's target and the record has every
field it names; directives with longer targets are more specific, then those naming more
fields. Of two directives with the same target and fields the later one counts. Directives
that name a span, or fields with values, only apply inside matching spans, and the records here
are written outside any span, so they never apply.

## Main definitions

* `Directive`, `Directive.parse?`
* `LogFilter`, `LogFilter.ofSetting`, `LogFilter.allows`
-/

namespace AuditTrail

/-- A level threshold: `0` allows nothing, `1` errors, up to `5` for everything. -/
abbrev Threshold := Nat

/-- The threshold a level name or digit denotes. -/
def thresholdOf? (s : String) : Option Threshold :=
  match s.toLower with
  | "off" | "0" => some 0
  | "error" | "1" => some 1
  | "warn" | "2" => some 2
  | "info" | "3" => some 3
  | "debug" | "4" => some 4
  | "trace" | "5" => some 5
  | _ => none

/-- The threshold of a text read as a level filter in full: a decimal number from 0 to 5, or a
name in any case; the empty text means errors. -/
def levelFilter? (s : String) : Option Threshold :=
  if s.isEmpty then some 1
  else if s.all Char.isDigit then
    let n := s.toList.foldl (fun n c => n * 10 + (c.toNat - '0'.toNat)) 0
    if n ≤ 5 then some n else none
  else thresholdOf? s

/-- One directive of a filter. -/
structure Directive where
  target : Option String := none
  span : Option String := none
  fieldNames : List String := []
  /-- Whether some named field carries a value to match. -/
  matchesValues : Bool := false
  threshold : Threshold

namespace Directive

/-- A character of a target: a word character, `:` or `-`. -/
def isTargetChar (c : Char) : Bool :=
  c.isAlphanum || c == '_' || c == ':' || c == '-' || c.toNat ≥ 0x80

/-- The parts before an optional `=`: one or two, each a target or a bracketed span. -/
def readParts : Nat → List Char → List (Sum String String) → Option (List (Sum String String) × List Char)
  | 0, cs, acc => some (acc.reverse, cs)
  | n + 1, cs, acc =>
    match cs with
    | '[' :: rest =>
      let inner := rest.takeWhile (· != ']')
      match rest.drop inner.length with
      | ']' :: more => readParts n more (.inr (String.ofList inner) :: acc)
      | _ => if acc.isEmpty then none else some (acc.reverse, cs)
    | _ =>
      let t := cs.takeWhile isTargetChar
      if t.isEmpty then (if acc.isEmpty then none else some (acc.reverse, cs))
      else readParts n (cs.drop t.length) (.inl (String.ofList t) :: acc)

/-- The span name and fields inside brackets: `name{field, field=value}`. -/
def spanParts (inner : String) : Option String × List (String × Bool) :=
  let cs := inner.toList
  let name := cs.takeWhile fun c => c != ']' && c != '{'
  let rest := cs.drop name.length
  let fields : List (String × Bool) :=
    match rest with
    | '{' :: more =>
      let body := more.takeWhile (· != '}')
      ((String.ofList body).splitOn ",").filterMap fun f =>
        if f.isEmpty then none
        else
          match f.splitOn "=" with
          | [n] => some (n, false)
          | n :: _ => some (n, true)
          | [] => none
    | _ => []
  (if name.isEmpty then none else some (String.ofList name), fields)

/-- Read one directive. -/
def parse? (s : String) : Option Directive :=
  match thresholdOf? s with
  | some t => some { threshold := t }
  | none => do
    let (parts, rest) ← readParts 2 s.toList []
    let level ← match rest with
      | [] => some 5
      | '=' :: lv => if lv.isEmpty then some 5 else thresholdOf? (String.ofList lv)
      | _ => none
    let target := parts.findSome? fun p => match p with
      | .inl t => some t
      | .inr _ => none
    let span := parts.findSome? fun p => match p with
      | .inl _ => none
      | .inr sp => some sp
    let target := target.filter fun t => (levelFilter? t).isNone
    let (spanName, fields) := match span with
      | some sp => spanParts sp
      | none => (none, [])
    pure { target, span := spanName, fieldNames := fields.map (·.1),
           matchesValues := fields.any (·.2), threshold := level }

/-- Whether the directive can apply outside spans. -/
def isStatic (d : Directive) : Bool := d.span.isNone && !d.matchesValues

/-- The length of the target, above every directive without one. -/
def targetWeight (d : Directive) : Nat := (d.target.map (·.length + 1)).getD 0

/-- Whether `d` is more specific than `e`: a longer target, or as long a target and more named
fields. -/
def moreSpecific (d e : Directive) : Bool :=
  d.targetWeight > e.targetWeight ||
    (d.targetWeight == e.targetWeight && d.fieldNames.length > e.fieldNames.length)

/-- Whether the directive applies to a record. -/
def appliesTo (d : Directive) (r : LogRecord) : Bool :=
  (match d.target with
    | some t => r.target.startsWith t
    | none => true) &&
  d.fieldNames.all fun n => n == "message" || r.fields.any (·.1 == n)

end Directive

/-- A log filter: its directives that apply outside spans. -/
structure LogFilter where
  directives : List Directive

namespace LogFilter

/-- The directives, later ones replacing earlier ones with the same target and fields. -/
def effective (f : LogFilter) : List Directive :=
  f.directives.foldl (fun acc d =>
    (acc.filter fun e => !(e.target == d.target && e.fieldNames == d.fieldNames)) ++ [d]) []

/-- Read a setting; a setting with a directive that does not read counts as `info`. -/
def parse? (s : String) : Option LogFilter := do
  let items := (s.splitOn ",").filter (!·.isEmpty)
  let ds ← items.mapM Directive.parse?
  pure ⟨ds.filter Directive.isStatic⟩

def info : LogFilter := ⟨[{ threshold := 3 }]⟩

/-- The filter a setting gives: `info` when unset or unreadable. -/
def ofSetting : Option String → LogFilter
  | none => info
  | some s => (parse? s).getD info

/-- Whether a record is written. -/
def allows (f : LogFilter) (r : LogRecord) : Bool :=
  let applicable := f.effective.filter (·.appliesTo r)
  match applicable.foldl (fun best d =>
      match best with
      | none => some d
      | some b => if d.moreSpecific b then some d else some b) none with
  | some d => r.level.rank ≤ d.threshold
  | none => false

end LogFilter

end AuditTrail
