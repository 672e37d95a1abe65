import LinkShortener.Daemon.LogSetup
import LinkShortener.Settings.Basic

/-!
What the running process remembers: which of its parts are built, and the flags that its parts
leave for one another.
-/

namespace LinkShortener.Daemon

/-- The parts that the process builds and holds. -/
inductive Part
  | keys
  | catalog
  | copies
  | counter
  | directory
  | publisher
  | clickStore (backend : Backend)
  | statistics (backend : Backend)
  | atlas
  | feed
  | task
  deriving DecidableEq, Repr

/-- The memory of the process. `settings` are there once parts are being built, `made` are the
parts that ever were, the latest last, and `ready` tells that all are there. `publishing` tells
whether the publisher runs, `stopping` whether the feed is asked to stop, and `keysOpen` whether the
connection to the key-value server, which all parts share, is open. `log` is how the log is set
up. -/
structure Memory where
  settings : Option Settings := none
  parts : List Part := []
  made : List Part := []
  ready : Bool := false
  keysOpen : Bool := false
  publishing : Bool := false
  stopping : Bool := false
  log : LogSetup := .bare
  deriving DecidableEq, Repr

namespace Memory

def has (m : Memory) (p : Part) : Bool := m.parts.contains p

/-- The memory with a part built, in the place of an earlier one. -/
def build (m : Memory) (p : Part) : Memory :=
  { m with parts := m.parts.filter (· != p) ++ [p], made := m.made ++ [p] }

def drop (m : Memory) (p : Part) : Memory := { m with parts := m.parts.filter (· != p) }

/-- The number of the part that was built last of its kind. Parts of one kind and number are the
same object. -/
def serial (m : Memory) (p : Part) : Nat := m.made.count p

end Memory

end LinkShortener.Daemon
