set_option autoImplicit false

namespace BoundSelect

inductive Level where
  | error | warn | info | debug | trace
  deriving DecidableEq, Repr

def Level.text : Level → String
  | error => "ERROR"
  | warn => "WARN"
  | info => "INFO"
  | debug => "DEBUG"
  | trace => "TRACE"

structure Reporting where
  level : Level := .debug
  -- How many bytes of the statement are shown.
  limit : Option Nat := some 200
  deriving DecidableEq, Repr

structure Settings where
  reporting : Option Reporting := some {}
  -- Whether a join side that is not recognized is an error, and not just dropped.
  strictSides : Bool := false
  deriving DecidableEq, Repr

end BoundSelect
