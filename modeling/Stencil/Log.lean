set_option autoImplicit false

/-!
Log records: who reports, at which level, and what.
-/

namespace Stencil

structure LogRecord where
  source : String
  level : Int
  message : String
  deriving DecidableEq, Repr

namespace LogRecord

def debugLevel : Int := 10

/-- The levels that have a name. Unknown names stand for the lowest one in use. -/
def levelNamed : String → Int
  | "CRITICAL" | "FATAL" => 50
  | "ERROR" => 40
  | "WARNING" | "WARN" => 30
  | "INFO" => 20
  | "NOTSET" => 0
  | _ => debugLevel

/-- Records are kept from level one up. -/
def isKept (record : LogRecord) : Bool := 1 ≤ record.level

end LogRecord
end Stencil
