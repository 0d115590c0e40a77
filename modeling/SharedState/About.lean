/-!
# About this library
-/

namespace SharedState.About

/-- The version. -/
def version : String := "0.1.0"

/-- Over how many locks the keys of a name space are spread. -/
def shards : Nat := 64

end SharedState.About
