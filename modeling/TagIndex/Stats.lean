namespace TagIndex

structure Stats where
  processed : Int := 0
  skipped : Int := 0
  tags : Int := 0
  faults : Int := 0
deriving DecidableEq, Repr

namespace Stats

instance : Add Stats where
  add a b :=
    ⟨a.processed + b.processed, a.skipped + b.skipped, a.tags + b.tags, a.faults + b.faults⟩

def ofSkipped : Stats := { skipped := 1 }

def ofFile (tags faults : Nat) : Stats := { processed := 1, tags := tags, faults := faults }

def summary (stats : Stats) : String :=
  "TaggingStats(processed=" ++ toString stats.processed ++ ", skipped=" ++ toString stats.skipped ++
    ", tags=" ++ toString stats.tags ++ ", parse_errors=" ++ toString stats.faults ++ ")"

end Stats

end TagIndex
