import LinkAudit.Path

/-!
What a run is told: which link maps to compare, where the project lies, and how to report.
-/

namespace LinkAudit

structure Configuration where
  debugMap : Path
  releaseMap : Path
  root : Option Path
  demangles : Bool
  groupLimit : Int
  output : Option Path
  verbose : Bool
  sourcePrefixes : List Text
  withDependencies : Bool

end LinkAudit
