import Stockroom.Listing
import Stockroom.Payload

/-!
# Settings

The environment names the database, the level of the log, and the page and number of rows that a
list request falls back to. Names are matched in their exact case, an empty text counts, and a text
may be any.
-/

namespace Stockroom

open Number Text

structure Settings where
  databaseUrl : Points := "sqlite:///./sales.db"
  logLevel : Points := "INFO"
  page : Int := 1
  rows : Int := 10
  deriving DecidableEq

namespace Settings

/-- Names of variables with their texts. -/
abbrev Environment := List (Points × Points)

def text (env : Environment) (name default : Points) : Points := (env.lookup name).getD default

/-- A variable that has to spell an integer if it is there. -/
def integer (env : Environment) (name : String) (default : Int) : Except Payload.Issue Int :=
  match env.lookup (points name) with
  | none => .ok default
  | some raw => Payload.located name (Payload.readInteger (.string raw))

/-- The settings of an environment, or every issue with its integers. -/
def ofEnvironment (env : Environment) : Except (List Payload.Issue) Settings :=
  let defaults : Settings := {}
  let url := text env "DATABASE_URL" defaults.databaseUrl
  let level := text env "LOG_LEVEL" defaults.logLevel
  match integer env "QUERY_DEFAULT_PAGE" defaults.page,
    integer env "QUERY_DEFAULT_ROWS" defaults.rows with
  | .ok page, .ok rows => .ok ⟨url, level, page, rows⟩
  | page, rows => .error (Payload.issues page ++ Payload.issues rows)

/-- The configuration of list requests, which not all settings give. -/
def listConfig (s : Settings) : Except ConfigFault ListConfig :=
  ListConfig.make s.page s.rows ListConfig.standard.sortable ListConfig.standard.order

end Settings

end Stockroom
