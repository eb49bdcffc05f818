/-!
# Help pages of the report program

The help page of the program and of each subcommand: the description, a usage line, then the
commands, arguments and options, each in a column aligned two spaces past its longest name.
The page-size option names the environment variable it falls back on, with its value when set.
-/

namespace AuditTrail

namespace Cli

/-- The program's name in usage lines. -/
def programName : String := "wh-audit-report"

/-- The first line of every page of the program. -/
def programAbout : String := "Warehouse audit log reports"

/-- Lines joined with line feeds, and one after the last. -/
def page (lines : List String) : String := String.join (lines.map (· ++ "\n"))

/-- The help page of the program, given the value of the page-size variable. -/
def topHelp (pageSizeEnv : Option String) : String :=
  page [programAbout,
    "",
    "Usage: " ++ programName ++ " [OPTIONS] <COMMAND>",
    "",
    "Commands:",
    "  activity        Activity counts over the last N days",
    "  user            Events where the user is the actor or the target",
    "  show            One audit record by id",
    "  recent          Most recent events",
    "  example-config  Print an example configuration file",
    "  help            Print this message or the help of the given subcommand(s)",
    "",
    "Options:",
    "      --config <CONFIG>        Config file (otherwise WAREHOUSE_CONFIG or the standard locations)",
    "      --page-size <PAGE_SIZE>  Page size for listings [env: WAREHOUSE_REPORT_PAGE_SIZE=" ++
      pageSizeEnv.getD "" ++ "]",
    "  -h, --help                   Print help"]

/-- The help page of a subcommand, by name. -/
def subcommandHelp : String → Option String
  | "activity" => some (page ["Activity counts over the last N days",
      "",
      "Usage: " ++ programName ++ " activity [DAYS]",
      "",
      "Arguments:",
      "  [DAYS]  ",
      "",
      "Options:",
      "  -h, --help  Print help"])
  | "user" => some (page ["Events where the user is the actor or the target",
      "",
      "Usage: " ++ programName ++ " user <NAME> [PAGE]",
      "",
      "Arguments:",
      "  <NAME>  ",
      "  [PAGE]  ",
      "",
      "Options:",
      "  -h, --help  Print help"])
  | "show" => some (page ["One audit record by id",
      "",
      "Usage: " ++ programName ++ " show <ID>",
      "",
      "Arguments:",
      "  <ID>  ",
      "",
      "Options:",
      "  -h, --help  Print help"])
  | "recent" => some (page ["Most recent events",
      "",
      "Usage: " ++ programName ++ " recent [OPTIONS] [PAGE]",
      "",
      "Arguments:",
      "  [PAGE]  ",
      "",
      "Options:",
      "      --action <ACTION>                    ",
      "      --actor <ACTOR>                      ",
      "      --target-resource <TARGET_RESOURCE>  ",
      "      --search <SEARCH>                    ",
      "  -h, --help                               Print help"])
  | "example-config" => some (page ["Print an example configuration file",
      "",
      "Usage: " ++ programName ++ " example-config",
      "",
      "Options:",
      "  -h, --help  Print help"])
  | "help" => some (page ["Print this message or the help of the given subcommand(s)",
      "",
      "Usage: " ++ programName ++ " help [COMMAND]...",
      "",
      "Arguments:",
      "  [COMMAND]...  Print help for the subcommand(s)"])
  | _ => none

end Cli

end AuditTrail
