import Mathlib.Algebra.Order.Ring.Defs
import RockServer.RelayTitles
import RockServer.Transition

-- Subscribers to the title of a station, beside the relays that publish titles.
namespace Relay

inductive TitleState where
  | missing
  | stale
  | fresh
deriving DecidableEq

-- Of its title a snapshot carries the text and the printed time.
structure NowPlaying (T : Type) where
  stationId : String
  title : Option (TitleSnapshot T)
  state : TitleState

-- A relay at a block of metadata: the title is in the map before it is announced.
inductive Publisher (T : Type) where
  | reading
  | observed (stationId : String) (snapshot : TitleSnapshot T)
  | inserted (stationId : String) (snapshot : TitleSnapshot T)

-- Where the task of a subscriber is. After a change it reads the deadline behind
-- the snapshot, after the deadline it does not.
inductive Stage where
  | looking (rearms : Bool)
  | arming
  | waiting
  | closed
deriving DecidableEq

-- Of an announced change only the station is looked at.
structure Subscription (T : Type) where
  stationId : String
  stage : Stage
  staleAt : Option T
  missed : Bool
  changes : List String
  queued : Nat
  shown : Option (NowPlaying T)

structure TitleSystem (T : Type) where
  now : T
  titles : Titles T
  publishers : Nat → Publisher T
  subscriptions : Nat → Option (Subscription T)

def broadcastCapacity : Nat := 64

def queueCapacity : Nat := 2

inductive Turn where
  | look
  | arm
  | fire
  | receive
  | take
  | close
deriving DecidableEq

inductive TitleAction (T : Type) where
  | tick (later : T)
  | observe (publisher : Nat) (stationId rawTitle updatedAt : String)
  | insert (publisher : Nat)
  | announce (publisher : Nat)
  | subscribe (subscriber : Nat) (stationId : String)
  | turn (subscriber : Nat) (turn : Turn)

section clock
variable {T : Type} [Ring T] [LinearOrder T]

-- In seconds.
def staleAfter : T := 120

def isStale (now : T) (title : TitleSnapshot T) : Bool := staleAfter ≤ now - title.observedAt

def snapshot (titles : Titles T) (now : T) (stationId : String) : NowPlaying T :=
  ⟨stationId,titles.lookup stationId,match titles.lookup stationId with
    | none => .missing
    | some title => if isStale now title then .stale else .fresh⟩

def staleDeadline (titles : Titles T) (now : T) (stationId : String) : Option T :=
  ((titles.lookup stationId).filter fun title => !isStale now title).map fun title => title.observedAt + staleAfter

-- A receiver that is too far behind loses its oldest change.
def Subscription.notify (stationId : String) (sub : Subscription T) : Subscription T :=
  if sub.changes.length < broadcastCapacity then {sub with changes := sub.changes ++ [stationId]}
  else {sub with changes := sub.changes.tail ++ [stationId], missed := true}

-- A full queue ends the subscription.
def Subscription.trySend (sub : Subscription T) (shown : NowPlaying T) (next : Stage) : Subscription T :=
  if sub.queued < queueCapacity then {sub with queued := sub.queued + 1, shown := some shown, stage := next}
  else {sub with stage := .closed}

-- The arms of the loop, with a step for each read of shared state. A lagged
-- receiver is replaced by a new one, which has nothing to receive.
def Subscription.turn (now : T) (titles : Titles T) (sub : Subscription T) : Turn → Option (Subscription T)
  | .look => match sub.stage with
    | .looking rearms => some (sub.trySend (snapshot titles now sub.stationId) (if rearms then .arming else .waiting))
    | _ => none
  | .arm =>
    if sub.stage = .arming then some {sub with stage := .waiting, staleAt := staleDeadline titles now sub.stationId} else none
  | .fire =>
    if sub.stage = .waiting ∧ sub.staleAt.any (fun at_ => at_ ≤ now) = true then
      some {sub with stage := .looking false, staleAt := none}
    else none
  | .receive =>
    if sub.stage = .waiting then
      if sub.missed then some {sub with stage := .looking true, missed := false, changes := []}
      else match sub.changes with
        | [] => none
        | changedId :: rest =>
          some {sub with stage := if changedId = sub.stationId then .looking true else .waiting, changes := rest}
    else none
  | .take => if 0 < sub.queued then some {sub with queued := sub.queued - 1} else none
  | .close => if sub.stage = .closed then none else some {sub with stage := .closed}

-- It subscribes before it reads the first snapshot.
def Subscription.opened (stationId : String) : Subscription T := ⟨stationId,.looking true,none,false,[],0,none⟩

inductive TitleStep : TitleSystem T → TitleAction T → TitleSystem T → Prop
  | tick {s later} : s.now ≤ later → TitleStep s (.tick later) {s with now := later}
  | observe {s publisher stationId rawTitle updatedAt} : s.publishers publisher = .reading →
      TitleStep s (.observe publisher stationId rawTitle updatedAt)
        {s with publishers := Function.update s.publishers publisher (.observed stationId ⟨rawTitle,s.now,updatedAt⟩)}
  | insert {s publisher stationId snapshot titles} : s.publishers publisher = .observed stationId snapshot →
      Publishes s.titles stationId snapshot titles → TitleStep s (.insert publisher)
        {s with titles := titles, publishers := Function.update s.publishers publisher (.inserted stationId snapshot)}
  | announce {s publisher stationId snapshot} : s.publishers publisher = .inserted stationId snapshot →
      TitleStep s (.announce publisher) ⟨s.now,s.titles,Function.update s.publishers publisher .reading,
        fun i => (s.subscriptions i).map (Subscription.notify stationId)⟩
  | subscribe {s subscriber stationId} : s.subscriptions subscriber = none → TitleStep s (.subscribe subscriber stationId)
      {s with subscriptions := Function.update s.subscriptions subscriber (some (.opened stationId))}
  | turn {s subscriber sub sub' turn} : s.subscriptions subscriber = some sub → sub.turn s.now s.titles turn = some sub' →
      TitleStep s (.turn subscriber turn) {s with subscriptions := Function.update s.subscriptions subscriber (some sub')}

def TitleSystem.start (now : T) : TitleSystem T := ⟨now,∅,fun _ => .reading,fun _ => none⟩

-- The title that a subscriber was last told is fresh.
def Subscription.freshTitle (sub : Subscription T) : Option (TitleSnapshot T) :=
  sub.shown.bind fun shown => if shown.state = .fresh then shown.title else none

-- A change of the station, or the news that changes were lost, is on its way to
-- the subscriber. What is in the map is announced next.
def Pending (s : TitleSystem T) (sub : Subscription T) : Prop :=
  sub.missed = true ∨ sub.stationId ∈ sub.changes ∨ ∃ publisher snapshot, s.publishers publisher = .inserted sub.stationId snapshot

-- A subscriber at rest that shows a fresh title.
def Covered (s : TitleSystem T) (sub : Subscription T) : Prop :=
  sub.stage = .waiting → ∀ title, sub.freshTitle = some title →
    (∃ staleAt, sub.staleAt = some staleAt ∧ staleAt ≤ title.observedAt + staleAfter) ∨ Pending s sub

def TitleSystem.Converges (s : TitleSystem T) : Prop :=
  ∀ i sub, s.subscriptions i = some sub → Covered s sub

-- Where the deadline of a fresh title is read, the station still has a title, and
-- it is still fresh, unless a change is on its way.
def Timely (s : TitleSystem T) : TitleAction T → Prop
  | .turn subscriber .arm => ∀ sub title, s.subscriptions subscriber = some sub → sub.freshTitle = some title → ¬ Pending s sub →
      ∃ held, s.titles.lookup sub.stationId = some held ∧ isStale s.now held = false
  | _ => True

end clock

end Relay
