/-!
# Settings of a bridge
-/

namespace ForeignBridge

structure Settings where
  /-- Paths that the first use of the runtime adds to its module search path. -/
  searchPaths : List String := ["./"]
  /-- Whether rectangular numeric sequences become matrices. -/
  matrixAutoconversion : Bool := true
  /-- Whether every reported foreign failure is also logged as an error. -/
  debug : Bool := false
  deriving DecidableEq, Repr

end ForeignBridge
