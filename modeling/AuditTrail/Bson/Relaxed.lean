import AuditTrail.Bson.Value
import AuditTrail.Json.Basic
import AuditTrail.Time.Rfc3339

/-!
# Reading stored values back as JSON

When a stored value is read into an open JSON field, each kind becomes the JSON that stands for
it in the relaxed interchange form: integers of either width become JSON integers, doubles
become JSON numbers (NaN and the infinities, which JSON cannot hold, become `null`), an object
id becomes `{"$oid": hex}`, and a date-time becomes `{"$date": text}` with an RFC 3339 stamp
whose fraction drops trailing zeros. Date-times before 1970 keep their millisecond count
instead, as `{"$date": {"$numberLong": "<ms>"}}`; the stamp of a later date-time is capped at the
last instant of the year 9999.

## Main definitions

* `Value.toRelaxed` — the JSON of a stored value
-/

namespace AuditTrail

/-- The last nanosecond of the year 9999. -/
def endOf9999 : Int := daysFromCivil 10000 1 1 * nanosPerDay - 1

/-- The JSON of a stored date-time. -/
def dateToRelaxed (ms : Int) : Json :=
  if ms ≥ 0 then
    let t := Instant.ofMillisSaturating ms
    let t := match Instant.ofNanos? (min t.nanos endOf9999) with
      | some u => u
      | none => t
    .obj [("$date", .str t.rfc3339Trimmed)]
  else .obj [("$date", .obj [("$numberLong", .str (toString ms))])]

namespace Value

mutual

/-- The JSON that a stored value reads back as. -/
def toRelaxed : Value → Json
  | .null => .null
  | .bool b => .bool b
  | .int32 n => .int n.toInt
  | .int64 n => .int n.toInt
  | .double x => if x.isFinite then .float x else .null
  | .str s => .str s
  | .oid id => .obj [("$oid", .str id.toHex)]
  | .date ms => dateToRelaxed ms.toInt
  | .arr items => .arr (itemsToRelaxed items)
  | .doc fields => .obj (fieldsToRelaxed fields)

def itemsToRelaxed : List Value → List Json
  | [] => []
  | v :: rest => toRelaxed v :: itemsToRelaxed rest

def fieldsToRelaxed : List (String × Value) → List (String × Json)
  | [] => []
  | (k, v) :: rest => (k, toRelaxed v) :: fieldsToRelaxed rest

end

end Value

end AuditTrail
