import AuditTrail.Decode

/-!
# Configuration

The application reads a document store location and the audit log's settings:

```
[mongodb]                          [audit]
uri = "mongodb://localhost:27017"  collection = "warehouse-audit-logs"
database = "inventory_db"          default_page_size = 50
                                   max_page_size = 100
                                   default_activity_window_days = 7
                                   max_activity_window_days = 365
                                   ensure_indexes = true
```

Every setting has the default shown. Counts are unsigned 32-bit numbers. A configuration is
valid when, in this order of checking, the store location and database name are not blank, the
collection name is not blank, the largest page holds at least one event, the default page size
lies between 1 and the largest, and the default activity window lies between 1 and the largest
window.

## Main definitions

* `AuditConfig`, `StoreConfig`, `AppConfig` and their `validate`
* `ConfigError` and its `message`
* `AppConfig.exampleText` — a commented example file
-/

namespace AuditTrail

/-- Settings of the audit log. -/
structure AuditConfig where
  collection : String := "warehouse-audit-logs"
  defaultPageSize : Nat := 50
  maxPageSize : Nat := 100
  defaultActivityWindowDays : Nat := 7
  maxActivityWindowDays : Nat := 365
  ensureIndexes : Bool := true
  deriving Inhabited, Repr

/-- Where the document store is. -/
structure StoreConfig where
  uri : String := "mongodb://localhost:27017"
  database : String := "inventory_db"
  deriving Inhabited, Repr

/-- The whole configuration. -/
structure AppConfig where
  store : StoreConfig := {}
  audit : AuditConfig := {}
  deriving Inhabited, Repr

/-- Why a configuration could not be loaded. -/
inductive ConfigError where
  /-- The file exists but could not be read. -/
  | read (detail : String)
  /-- The file is not TOML, or a setting has the wrong kind of value. -/
  | parse (detail : String)
  /-- The settings break a rule. -/
  | invalid (message : String)
  /-- An environment override does not read as its setting's kind. -/
  | env (message : String)
  deriving DecidableEq, Repr

def ConfigError.message : ConfigError → String
  | .read d => "Failed to read config file: " ++ d
  | .parse d => "Failed to parse TOML: " ++ d
  | .invalid m => "Invalid configuration: " ++ m
  | .env m => "Environment variable error: " ++ m

namespace AuditConfig

/-- The audit settings' rules, checked in order. -/
def validate (c : AuditConfig) : Except ConfigError Unit :=
  if isBlank c.collection then .error (.invalid "audit.collection must not be empty")
  else if c.maxPageSize = 0 then .error (.invalid "audit.max_page_size must be at least 1")
  else if c.defaultPageSize = 0 ∨ c.defaultPageSize > c.maxPageSize then
    .error (.invalid ("audit.default_page_size must be between 1 and " ++ toString c.maxPageSize))
  else if c.defaultActivityWindowDays = 0 ∨ c.defaultActivityWindowDays > c.maxActivityWindowDays then
    .error (.invalid ("audit.default_activity_window_days must be between 1 and " ++
      toString c.maxActivityWindowDays))
  else .ok ()

variable {α : Type} [Tree α]

/-- Read audit settings; absent ones take their defaults. -/
def decode? (t : α) : Option AuditConfig := do
  let f ← Fields.of? t
  if !f.fits 6 then none
  let d : AuditConfig := {}
  let collection ← f.withDefault "collection" 0 d.collection Tree.text?
  let defaultPageSize ← f.withDefault "default_page_size" 1 d.defaultPageSize Tree.word?
  let maxPageSize ← f.withDefault "max_page_size" 2 d.maxPageSize Tree.word?
  let defaultActivityWindowDays ←
    f.withDefault "default_activity_window_days" 3 d.defaultActivityWindowDays Tree.word?
  let maxActivityWindowDays ←
    f.withDefault "max_activity_window_days" 4 d.maxActivityWindowDays Tree.word?
  let ensureIndexes ← f.withDefault "ensure_indexes" 5 d.ensureIndexes Tree.flag?
  pure { collection, defaultPageSize, maxPageSize, defaultActivityWindowDays,
         maxActivityWindowDays, ensureIndexes }

/-- The settings as JSON. -/
def toJson (c : AuditConfig) : Json :=
  .obj [("collection", .str c.collection), ("default_page_size", .int c.defaultPageSize),
    ("max_page_size", .int c.maxPageSize),
    ("default_activity_window_days", .int c.defaultActivityWindowDays),
    ("max_activity_window_days", .int c.maxActivityWindowDays),
    ("ensure_indexes", .bool c.ensureIndexes)]

end AuditConfig

namespace StoreConfig

variable {α : Type} [Tree α]

def decode? (t : α) : Option StoreConfig := do
  let f ← Fields.of? t
  if !f.fits 2 then none
  let d : StoreConfig := {}
  let uri ← f.withDefault "uri" 0 d.uri Tree.text?
  let database ← f.withDefault "database" 1 d.database Tree.text?
  pure { uri, database }

end StoreConfig

namespace AppConfig

/-- The whole configuration's rules: the store location first, then the audit settings. -/
def validate (c : AppConfig) : Except ConfigError Unit :=
  if isBlank c.store.uri then .error (.invalid "mongodb.uri must not be empty")
  else if isBlank c.store.database then .error (.invalid "mongodb.database must not be empty")
  else c.audit.validate

variable {α : Type} [Tree α]

/-- Read a whole configuration; absent sections and settings take their defaults. -/
def decode? (t : α) : Option AppConfig := do
  let f ← Fields.of? t
  if !f.fits 2 then none
  let store ← f.withDefault "mongodb" 0 {} StoreConfig.decode?
  let audit ← f.withDefault "audit" 1 {} AuditConfig.decode?
  pure { store, audit }

/-- The configuration as JSON. -/
def toJson (c : AppConfig) : Json :=
  .obj [("mongodb", .obj [("uri", .str c.store.uri), ("database", .str c.store.database)]),
    ("audit", c.audit.toJson)]

/-- A commented example configuration file, holding the defaults. -/
def exampleText : String :=
  "# Warehouse Configuration\n" ++
  "# Environment variables (WAREHOUSE_*) override these settings\n" ++
  "\n" ++
  "[mongodb]\n" ++
  "uri = \"mongodb://localhost:27017\"\n" ++
  "database = \"inventory_db\"\n" ++
  "\n" ++
  "[audit]\n" ++
  "collection = \"warehouse-audit-logs\"\n" ++
  "default_page_size = 50\n" ++
  "max_page_size = 100\n" ++
  "default_activity_window_days = 7\n" ++
  "max_activity_window_days = 365\n" ++
  "ensure_indexes = true\n"

end AppConfig

end AuditTrail
