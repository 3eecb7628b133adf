import RockServer.IconRows

-- The icon coordinator: jobs and their workers, manual uploads and imports, over
-- the database and the artifact storage. Every statement may fail, or take effect
-- and have its answer lost.
namespace IconImport
open CatalogImport (IconStatus)
open DeviceControl (Uuid)

def maxSourceBytes : Nat := 2 * 1024 * 1024
def maxSourcePixels : Nat := 1048576
def maxSourceDimension : Nat := 1024
def iconDimension : Nat := 256

inductive ImageFormat where
  | png
  | jpeg
  | webP
  | ico
  | other
deriving DecidableEq

-- The hash, the image library, and the links of a homepage.
structure Libraries where
  digest : List UInt8 → Hash
  Image : Type
  guessFormat : List UInt8 → Option ImageFormat
  load : ImageFormat → List UInt8 → Option Image
  dimensions : Image → Nat × Nat
  squareWebP : Image → Option (List UInt8)
  candidates : List UInt8 → String → List String

-- Images that are their own bytes, for the runs worked out below.
def plain : Libraries where
  digest := fun bytes => ⟨(bytes ++ List.replicate 32 0).take 32,by simp⟩
  Image := List UInt8
  guessFormat := fun bytes => if bytes.take 1 = [0] then none else some .png
  load := fun _ bytes => if bytes.take 1 = [1] then none else some bytes
  dimensions := fun bytes => (bytes.length,1)
  squareWebP := some
  candidates := fun _ homepage => [homepage ++ "/favicon.ico"]

inductive IconValidationError where
  | size
  | format
  | decode
  | dimensions
deriving DecidableEq

-- How a bounded download ends: with a failure of the transport, at an address
-- that cannot be used, over its limit, or with a body.
inductive Download where
  | transport
  | unusable
  | oversize
  | body (bytes : List UInt8)
deriving DecidableEq

-- What the sources and the homepages answer to one item.
structure Web where
  icon : String → Download
  homepage : String → Download

def fetchBounded : Download → Except IconValidationError (List UInt8)
  | .transport => .error .decode
  | .unusable => .error .format
  | .oversize => .error .size
  | .body bytes => .ok bytes

section libraries
variable (lib : Libraries)

def prepareIcon (source : List UInt8) : Except IconValidationError (PreparedIcon lib.digest) :=
  if source = [] ∨ maxSourceBytes < source.length then .error .size
  else match lib.guessFormat source with
    | none => .error .format
    | some format =>
      if format = .other then .error .format
      else match lib.load format source with
        | none => .error .decode
        | some image =>
          let (width,height) := lib.dimensions image
          if width = 0 ∨ height = 0 ∨ maxSourceDimension < width ∨ maxSourceDimension < height ∨ maxSourcePixels < width * height then
            .error .dimensions
          else match lib.squareWebP image with
            | none => .error .decode
            | some bytes => .ok ⟨bytes,lib.digest bytes,iconDimension,iconDimension,rfl⟩

def fetchIcon (web : Web) (source : String) : Except IconValidationError (PreparedIcon lib.digest) :=
  (fetchBounded (web.icon source)).bind (prepareIcon lib)

def discoverHomepageIcons (web : Web) (homepage : String) : Except IconValidationError (List String) :=
  (fetchBounded (web.homepage homepage)).map (lib.candidates · homepage)

structure IconJobItem where
  stationId : String
  sourceUrl : Option String
  homepageUrl : Option String
deriving DecidableEq

inductive ItemPlan where
  | missing
  | retryable
  | permanent
  | ready (icon : PreparedIcon lib.digest) (sourceUrl : String) (sourcePriority : Nat)

-- The sources in order, up to the first that gives an icon.
def trySources (web : Web) (sourcePriority : Nat) : List String → Bool → ItemPlan lib
  | [],sawRetryable => if sawRetryable then .retryable else .permanent
  | source :: rest,sawRetryable => match fetchIcon lib web source with
    | .ok icon => .ready icon source sourcePriority
    | .error .decode => trySources web sourcePriority rest true
    | .error _ => trySources web sourcePriority rest sawRetryable

def resolveItemPlan (web : Web) (item : IconJobItem) : ItemPlan lib := match item.sourceUrl with
  | some source => trySources lib web 2 [source] false
  | none => match item.homepageUrl with
    | none => .missing
    | some homepage => match discoverHomepageIcons lib web homepage with
      | .ok [] => .permanent
      | .ok candidates => trySources lib web 1 candidates false
      | .error .decode => .retryable
      | .error _ => .permanent

inductive JobStatus where
  | running
  | completed
  | interrupted
  | failed
deriving DecidableEq

structure Job where
  status : JobStatus
  selected : Nat
  processed : Nat
  ready : Nat
  missing : Nat
  retryableError : Nat
  permanentError : Nat
deriving DecidableEq

inductive ItemStatus where
  | pending
  | processing
  | ready
  | missing
  | retryableError
  | permanentError
deriving DecidableEq

def ItemStatus.terminal : ItemStatus → Bool
  | .pending | .processing => false
  | _ => true

structure Station where
  homepageUrl : Option String
  retired : Bool
deriving DecidableEq

-- Where the loop of `run` stands.
inductive Worker where
  | claiming
  | resolving (item : IconJobItem)
  | storing (stationId : String) (icon : PreparedIcon lib.digest) (sourceUrl : String) (sourcePriority : Nat)
  | publishing (stationId : String) (icon : PreparedIcon lib.digest) (sourceUrl : String) (sourcePriority : Nat)
  | finishing (stationId : String) (outcome : ItemStatus)
  | completing

-- A manual icon on its way: checked, then stored.
structure Upload where
  stationId : String
  icon : PreparedIcon lib.digest
  stored : Bool

abbrev ItemKey := Uuid ×ₗ String

structure System where
  stations : Table String Station
  icons : Table String IconRow
  storage : Table String (List UInt8)
  jobs : Table Uuid Job
  items : Table ItemKey ItemStatus
  workers : Table Uuid (Worker lib)
  uploads : Table Nat (Upload lib)

-- A statement or transaction that is not carried out, one that is, and one that is
-- but reports an error.
inductive Outcome where
  | failed
  | done
  | unanswered
deriving DecidableEq

def Outcome.effective (outcome : Outcome) : Bool := outcome ≠ .failed

-- An entry of an import: the station, its homepage and its favicon.
structure CatalogEntry where
  stationId : String
  homepageUrl : Option String
  favicon : Option String
deriving DecidableEq

inductive Action where
  | start (id : Uuid) (outcome : Outcome)
  | interruptRunning (outcome : Outcome)
  | crash
  | claim (id : Uuid) (outcome : Outcome)
  | resolve (id : Uuid) (web : Web)
  | store (id : Uuid) (works : Bool)
  | publish (id : Uuid) (outcome : Outcome)
  | finish (id : Uuid) (outcome : Outcome)
  | complete (id : Uuid) (outcome : Outcome)
  | upload (request : Nat) (stationId : String) (source : List UInt8)
  | storeUpload (request : Nat) (works : Bool)
  | replaceManual (request : Nat) (outcome : Outcome)
  | removeManual (stationId : String) (outcome : Outcome)
  | catalog (entry : CatalogEntry)
  | retire (stationId : String)

end libraries

variable {lib : Libraries}

def System.empty : System lib := ⟨∅,∅,∅,∅,∅,∅,∅⟩

-- The condition by which a job selects its stations.
def eligible (station : Station) (icon : Option IconRow) : Bool :=
  !station.retired && !(icon.any (·.val.manualOverride)) &&
    icon.all fun row => row.val.status = .pending || row.val.status = .missing || row.val.status = .retryableError ||
      row.val.refreshNeeded

def System.selects (s : System lib) (stationId : String) : Bool :=
  (s.stations[stationId]?).any fun station => eligible station s.icons[stationId]?

def System.selected (s : System lib) : List String := (s.stations.toList.map Prod.fst).filter s.selects

def insertItems (items : Table ItemKey ItemStatus) (id : Uuid) (stations : List String) : Table ItemKey ItemStatus :=
  stations.foldl (fun items stationId => items.insert (toLex (id,stationId)) .pending) items

-- The unique index allows one running job; the answer goes to the handler that
-- starts the worker.
def start (s : System lib) (id : Uuid) (outcome : Outcome) : Option (System lib) :=
  if (s.jobs[id]?).isSome then none
  else if !outcome.effective || (s.jobs.toList.any fun job => job.2.status = .running) || 2 ^ 31 ≤ s.selected.length then some s
  else
    let opened := {s with
      jobs := s.jobs.insert id ⟨.running,s.selected.length,0,0,0,0,0⟩
      items := insertItems s.items id s.selected}
    some (if outcome = .done then {opened with workers := opened.workers.insert id .claiming} else opened)

def interrupted (job : Job) : Job := if job.status = .running then {job with status := .interrupted} else job

def interruptRunning (s : System lib) (outcome : Outcome) : System lib :=
  if outcome.effective then {s with jobs := s.jobs.map fun _ job => interrupted job} else s

def nextItem (s : System lib) (id : Uuid) : Option String :=
  (s.items.toList.find? fun entry => (ofLex entry.1).1 = id && entry.2 = .pending).map fun entry => (ofLex entry.1).2

def System.goto (s : System lib) (id : Uuid) (worker : Worker lib) : System lib :=
  {s with workers := s.workers.insert id worker}

-- A failed claim ends the loop as an empty queue does.
def claim (s : System lib) (id : Uuid) (outcome : Outcome) : System lib := match nextItem s id with
  | none => s.goto id .completing
  | some stationId =>
    let marked := if outcome.effective then {s with items := s.items.insert (toLex (id,stationId)) .processing} else s
    marked.goto id (if outcome = .done then .resolving
      ⟨stationId,(s.icons[stationId]?).bind (·.val.sourceUrl),(s.stations[stationId]?).bind (·.homepageUrl)⟩ else .completing)

def afterPlan (stationId : String) : ItemPlan lib → Worker lib
  | .missing => .finishing stationId .missing
  | .retryable => .finishing stationId .retryableError
  | .permanent => .finishing stationId .permanentError
  | .ready icon sourceUrl sourcePriority => .storing stationId icon sourceUrl sourcePriority

-- An artifact that is there already is kept.
def putAtomic (storage : Table String (List UInt8)) (key : String) (bytes : List UInt8) (works : Bool) :
    Option (Table String (List UInt8)) :=
  if (storage[key]?).isSome then some storage else if works then some (storage.insert key bytes) else none

def writeIcon (s : System lib) (stationId : String) (row : StationIcon) : Option (System lib) :=
  (checked row).map fun row => {s with icons := s.icons.insert stationId row}

def icon (s : System lib) (stationId : String) : Option StationIcon := (s.icons[stationId]?).map Subtype.val

def publish (s : System lib) (stationId : String) (icon : PreparedIcon lib.digest) (sourceUrl : String) (sourcePriority : Nat)
    (outcome : Outcome) : System lib × Bool :=
  match writeIcon s stationId (publishUpsert icon sourceUrl sourcePriority (IconImport.icon s stationId)) with
  | none => (s,false)
  | some written => (if outcome.effective then written else s,outcome = .done)

def counted (job : Job) (outcome : ItemStatus) : Job := {job with
  processed := job.processed + 1
  ready := job.ready + if outcome = .ready then 1 else 0
  missing := job.missing + if outcome = .missing then 1 else 0
  retryableError := job.retryableError + if outcome = .retryableError then 1 else 0
  permanentError := job.permanentError + if outcome = .permanentError then 1 else 0}

def finishItem (s : System lib) (id : Uuid) (stationId : String) (outcome : ItemStatus) : System lib := {s with
  items := if s.items[toLex (id,stationId)]? = some .processing then s.items.insert (toLex (id,stationId)) outcome else s.items
  jobs := match s.jobs[id]? with
    | some job => s.jobs.insert id (counted job outcome)
    | none => s.jobs}

def completeJob (s : System lib) (id : Uuid) : System lib := match s.jobs[id]? with
  | some job => if job.status = .running then {s with jobs := s.jobs.insert id {job with status := .completed}} else s
  | none => s

def workerStep (s : System lib) (id : Uuid) (worker : Worker lib) : Action → Option (System lib)
  | .claim _ outcome => match worker with
    | .claiming => some (claim s id outcome)
    | _ => none
  | .resolve _ web => match worker with
    | .resolving item => some (s.goto id (afterPlan item.stationId (resolveItemPlan lib web item)))
    | _ => none
  | .store _ works => match worker with
    | .storing stationId icon sourceUrl sourcePriority =>
      match putAtomic s.storage (fromHash icon.contentHash) icon.bytes works with
      | some storage => some (({s with storage := storage} : System lib).goto id (.publishing stationId icon sourceUrl sourcePriority))
      | none => some (s.goto id (.finishing stationId .retryableError))
    | _ => none
  | .publish _ outcome => match worker with
    | .publishing stationId icon sourceUrl sourcePriority =>
      let (s,published) := publish s stationId icon sourceUrl sourcePriority outcome
      some (s.goto id (.finishing stationId (if published then .ready else .retryableError)))
    | _ => none
  | .finish _ outcome => match worker with
    | .finishing stationId result =>
      some ((if outcome.effective then finishItem s id stationId result else s).goto id .claiming)
    | _ => none
  | .complete _ outcome => match worker with
    | .completing => some {if outcome.effective then completeJob s id else s with workers := s.workers.erase id}
    | _ => none
  | _ => none

def uploadStep (s : System lib) (request : Nat) (upload : Upload lib) : Action → Option (System lib)
  | .storeUpload _ works =>
    if upload.stored then none
    else match putAtomic s.storage (fromHash upload.icon.contentHash) upload.icon.bytes works with
      | some storage => some {s with storage := storage,uploads := s.uploads.insert request {upload with stored := true}}
      | none => some {s with uploads := s.uploads.erase request}
  | .replaceManual _ outcome =>
    if !upload.stored then none
    else
      let finished := {s with uploads := s.uploads.erase request}
      match writeIcon finished upload.stationId (manualUpsert upload.icon (icon s upload.stationId)) with
      | none => some finished
      | some written => some (if outcome.effective then written else finished)
  | _ => none

def removeManual (s : System lib) (stationId : String) (outcome : Outcome) : Option (System lib) := match icon s stationId with
  | none => some s
  | some row =>
    if row.manualOverride && outcome.effective then writeIcon s stationId (detached row) else some s

-- One entry of a committed import.
def importEntry (s : System lib) (entry : CatalogEntry) : Option (System lib) :=
  writeIcon {s with stations := s.stations.insert entry.stationId ⟨entry.homepageUrl,false⟩} entry.stationId
    (catalogUpsert entry.favicon (icon s entry.stationId))

def execute (s : System lib) : Action → Option (System lib)
  | .start id outcome => start s id outcome
  | .interruptRunning outcome => some (interruptRunning s outcome)
  | .crash => some {s with workers := ∅,uploads := ∅}
  | .upload request stationId source =>
    if (s.uploads[request]?).isSome then none
    else match prepareIcon lib source with
      | .error _ => some s
      | .ok icon =>
        if (s.stations[stationId]?).any fun station => !station.retired then
          some {s with uploads := s.uploads.insert request ⟨stationId,icon,false⟩}
        else some s
  | .removeManual stationId outcome => removeManual s stationId outcome
  | .catalog entry => importEntry s entry
  | .retire stationId => (s.stations[stationId]?).map fun station =>
      {s with stations := s.stations.insert stationId {station with retired := true}}
  | .storeUpload request works => (s.uploads[request]?).bind fun upload => uploadStep s request upload (.storeUpload request works)
  | .replaceManual request outcome =>
    (s.uploads[request]?).bind fun upload => uploadStep s request upload (.replaceManual request outcome)
  | .claim id outcome => (s.workers[id]?).bind fun worker => workerStep s id worker (.claim id outcome)
  | .resolve id web => (s.workers[id]?).bind fun worker => workerStep s id worker (.resolve id web)
  | .store id works => (s.workers[id]?).bind fun worker => workerStep s id worker (.store id works)
  | .publish id outcome => (s.workers[id]?).bind fun worker => workerStep s id worker (.publish id outcome)
  | .finish id outcome => (s.workers[id]?).bind fun worker => workerStep s id worker (.finish id outcome)
  | .complete id outcome => (s.workers[id]?).bind fun worker => workerStep s id worker (.complete id outcome)

end IconImport
