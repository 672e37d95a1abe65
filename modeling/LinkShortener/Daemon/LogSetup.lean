/-!
How the log of the process is set up: the handlers that it has, the layout of entries and the level,
which settings give by one of its names.
-/

namespace LinkShortener.Daemon

/-- The log of the process: its handlers, by kind, with the layout of entries, and its level. -/
structure LogSetup where
  handlers : List String
  layout : String
  level : String
  deriving DecidableEq, Repr

namespace LogSetup

/-- The log before it is set up. -/
def bare : LogSetup := ⟨[], "", "NOTSET"⟩

def layoutText : String := "%(asctime)s - %(name)s - %(levelname)s - %(message)s"

/-- The levels by the names that settings may give them. -/
def levels : List (String × String) :=
  [("CRITICAL", "CRITICAL"), ("FATAL", "CRITICAL"), ("ERROR", "ERROR"), ("WARN", "WARNING"),
   ("WARNING", "WARNING"), ("INFO", "INFO"), ("DEBUG", "DEBUG"), ("NOTSET", "NOTSET")]

/-- The log with one more handler. -/
def attach (s : LogSetup) : LogSetup :=
  { s with handlers := s.handlers ++ ["StreamHandler"], layout := layoutText }

end LogSetup

end LinkShortener.Daemon
