import AuditTrail.Filter.Basic
import AuditTrail.Number.Shortest
import AuditTrail.Time.Rfc3339

/-!
# Filters as query documents

A filter is sent to the document store as a query document:

* `eq p v` is `{p: v}`, `isIn p vs` is `{p: {"$in": vs}}` and `present p` is
  `{p: {"$exists": true}}`;
* `range p lo hi` is `{p: {"$gte": lo, "$lte": hi}}` with only the bounds given, and
  `{p: {"$exists": true}}` with none;
* `contains p t` is `{p: {"$regex": t', "$options": "i"}}`, where `t'` is `t` with a backslash
  before every character that patterns treat specially, so that the pattern matches `t`
  literally;
* `allOf []` is `{}` and `allOf fs` is `{"$and": [...]}`; `anyOf []`, which the store does not
  accept, is `{"_id": {"$exists": false}}`, which no document satisfies, and `anyOf fs` is
  `{"$or": [...]}`.

Documents also have a one-line text form, used in log lines: `{ "k": v, … }` with strings in
double quotes as they are, `[a, b]` for arrays, `ObjectId("…")` and `DateTime("…")`.

## Main definitions

* `escapePattern` — quote a literal for a pattern
* `Filter.toDocument` — the query document
* `Value.display`, `Document.display` — the one-line text form
-/

namespace AuditTrail

/-- The characters that patterns treat specially. -/
def patternSpecial : List Char :=
  ['\\', '.', '+', '*', '?', '(', ')', '|', '[', ']', '{', '}', '^', '$', '#', '&', '-', '~']

/-- A pattern that matches exactly the given text: a backslash before each special character. -/
def escapePattern (s : String) : String :=
  String.ofList (s.toList.flatMap fun c => if patternSpecial.contains c then ['\\', c] else [c])

namespace Filter

mutual

/-- The query document of a filter. -/
def toDocument : Filter → Document
  | .eq p v => [(p, v)]
  | .isIn p vs => [(p, .doc [("$in", .arr vs)])]
  | .present p => [(p, .doc [("$exists", .bool true)])]
  | .range p lo hi =>
    match lo, hi with
    | none, none => [(p, .doc [("$exists", .bool true)])]
    | _, _ =>
      [(p, .doc ((lo.map fun v => [("$gte", v)]).getD [] ++ (hi.map fun v => [("$lte", v)]).getD []))]
  | .contains p t => [(p, .doc [("$regex", .str (escapePattern t)), ("$options", .str "i")])]
  | .allOf [] => []
  | .allOf fs => [("$and", .arr (toDocuments fs))]
  | .anyOf [] => [("_id", .doc [("$exists", .bool false)])]
  | .anyOf fs => [("$or", .arr (toDocuments fs))]

/-- The query documents of a list of clauses. -/
def toDocuments : List Filter → List Value
  | [] => []
  | f :: rest => .doc (toDocument f) :: toDocuments rest

end

end Filter

/-- The plain text of a double: all digits, no exponent, no trailing `.0`. -/
def plainDouble (x : Binary64) : String :=
  match x.classify with
  | .nan => "NaN"
  | .infinite n => if n then "-inf" else "inf"
  | .finite n _ _ =>
    let sign := if n then "-" else ""
    match x.shortest with
    | none => "NaN"
    | some d =>
      let ds := Nat.toDigits 10 d.digits
      if d.exponent ≥ 0 then sign ++ String.ofList (ds ++ List.replicate d.exponent.toNat '0')
      else
        let k := (-d.exponent).toNat
        let padded := List.replicate (k + 1 - ds.length) '0' ++ ds
        sign ++ String.ofList (padded.take (padded.length - k)) ++ "." ++
          String.ofList (padded.drop (padded.length - k))

/-- The calendar text of a date-time in milliseconds, in the form
`2024-01-01 0:00:00.0 +00:00:00`. -/
def plainDate (ms : Int) : String :=
  let t := Instant.ofMillisSaturating ms
  let d := t.date
  let secs := t.nanosOfDay / 1000000000
  let nano := t.subsecond
  let frac := if nano = 0 then "0" else
    String.ofList ((Rfc3339.padded 9 nano).toList.reverse.dropWhile (· = '0')).reverse
  Rfc3339.year d.year ++ "-" ++ Rfc3339.padded 2 d.month ++ "-" ++ Rfc3339.padded 2 d.day ++ " " ++
    toString (secs / 3600) ++ ":" ++ Rfc3339.padded 2 (secs / 60 % 60) ++ ":" ++
    Rfc3339.padded 2 (secs % 60) ++ "." ++ frac ++ " +00:00:00"

namespace Value

mutual

/-- The one-line text of a value. -/
def display : Value → String
  | .null => "null"
  | .bool b => if b then "true" else "false"
  | .int32 n => toString n.toInt
  | .int64 n => toString n.toInt
  | .double x => plainDouble x
  | .str s => "\"" ++ s ++ "\""
  | .oid id => "ObjectId(\"" ++ id.toHex ++ "\")"
  | .date ms => "DateTime(\"" ++ plainDate ms.toInt ++ "\")"
  | .arr items => "[" ++ displayItems items ++ "]"
  | .doc fields => displayFields fields

def displayItems : List Value → String
  | [] => ""
  | [v] => display v
  | v :: rest => display v ++ ", " ++ displayItems rest

/-- The one-line text of a document: `{}` when empty, otherwise `{ "k": v, … }`. -/
def displayFields : List (String × Value) → String
  | [] => "\x7b\x7d"
  | fields => "\x7b " ++ displayEntries fields ++ " \x7d"

def displayEntries : List (String × Value) → String
  | [] => ""
  | [(k, v)] => "\"" ++ k ++ "\": " ++ display v
  | (k, v) :: rest => "\"" ++ k ++ "\": " ++ display v ++ ", " ++ displayEntries rest

end

end Value

/-- The one-line text of a document. -/
def Document.display (d : Document) : String := Value.displayFields d

end AuditTrail
