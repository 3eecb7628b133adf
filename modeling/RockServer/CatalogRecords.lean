import Mathlib.Data.List.Basic

-- What catalog providers hand to an import.
namespace CatalogImport

structure ImportedStream where
  sourceStreamId : String
  streamUrl : String
  codec : Option String
  bitrateKbps : Option Nat
  isPrimary : Bool
deriving DecidableEq

structure ImportedStation where
  source : String
  sourceStationId : String
  id : String
  name : String
  homepageUrl : Option String
  faviconSourceUrl : Option String
  tags : List String
  language : Option String
  countryCode : Option String
  streams : List ImportedStream
deriving DecidableEq

inductive TombstoneReason where
  | removed
  | merged
  | split
deriving DecidableEq

def TombstoneReason.asStr : TombstoneReason → String
  | .removed => "removed"
  | .merged => "merged"
  | .split => "split"

structure ImportedTombstone where
  id : String
  reason : TombstoneReason
  replacementIds : List String
deriving DecidableEq

structure ImportPage where
  fetched : UInt64
  stations : List ImportedStation
  skipped : UInt64
deriving DecidableEq

structure ImportCounts where
  fetched : UInt64 := 0
  imported : UInt64 := 0
  skipped : UInt64 := 0
  failed : UInt64 := 0
deriving DecidableEq

structure ImportRunResult where
  runId : String
  counts : ImportCounts
deriving DecidableEq

structure CatalogImportError where
  summary : String
deriving DecidableEq

end CatalogImport
