/-! # How much is logged -/

namespace OpticalAccess

inductive Level where
  | error
  | warn
  | info
  | debug
  deriving DecidableEq, Repr

namespace Level

def label : Level → String
  | error => "error"
  | warn => "warn"
  | info => "info"
  | debug => "debug"

def rank : Level → Nat
  | error => 1
  | warn => 2
  | info => 3
  | debug => 4

end Level

/--
The heaviest detail that is kept. Nothing is logged beyond `debug`: whoever asks for traces as well
keeps what `upTo .debug` keeps.
-/
inductive Verbosity where
  | off
  | upTo (level : Level)
  deriving DecidableEq, Repr

namespace Verbosity

def rank : Verbosity → Nat
  | off => 0
  | upTo level => level.rank

def enables (v : Verbosity) (level : Level) : Bool := level.rank ≤ v.rank

end Verbosity
end OpticalAccess
