import Stockroom.Text.Points

/-!
# The log

A line has a level, the part of the service that wrote it, and a message.
-/

namespace Stockroom

open Text

inductive Level where
  | info
  | warning
  | error
  deriving DecidableEq

/-- The loggers of the service. -/
inductive LogSource where
  | catalogue
  | service
  | problems
  | lifespan
  deriving DecidableEq

/-- One line of the log. Its message may hold what a client sent. -/
structure LogLine where
  level : Level
  source : LogSource
  message : Points
  deriving DecidableEq

end Stockroom
