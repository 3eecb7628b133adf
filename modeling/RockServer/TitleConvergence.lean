import Mathlib.Tactic.NormNum.Ineq
import Mathlib.Data.Real.Basic
import RockServer.TitleSubscribers

-- What becomes of the titles that subscribers are shown.
namespace Relay
open Transition (Runs Under)
open Function (update update_self update_of_ne)

section changes
variable {T : Type} {sub : Subscription T} {stationId other : String} {titles next : Titles T} {snapshot : TitleSnapshot T}

theorem notify_own (stationId : String) (sub : Subscription T) : stationId ∈ (sub.notify stationId).changes := by
  unfold Subscription.notify
  split <;> simp

-- What was on its way stays so; at the most the receiver now lags.
theorem notify_kept (on_way : sub.missed = true ∨ other ∈ sub.changes) :
    (sub.notify stationId).missed = true ∨ other ∈ (sub.notify stationId).changes := by
  unfold Subscription.notify
  split
  · rcases on_way with missed | listed
    · exact .inl missed
    · exact .inr (List.mem_append_left _ listed)
  · exact .inl rfl

theorem notify_else (stationId : String) (sub : Subscription T) : (sub.notify stationId).stationId = sub.stationId ∧
    (sub.notify stationId).stage = sub.stage ∧ (sub.notify stationId).staleAt = sub.staleAt ∧
    (sub.notify stationId).shown = sub.shown := by
  unfold Subscription.notify
  split <;> exact ⟨rfl,rfl,rfl,rfl⟩

theorem publishes_other [LinearOrder T] (publishes : Publishes titles stationId snapshot next) (different : other ≠ stationId) :
    next.lookup other = titles.lookup other ∨ next.lookup other = none := by
  cases publishes with
  | inserted room => exact .inl (AList.lookup_insert_ne different)
  | @evicted oldest item full absent found least =>
    rw [AList.lookup_insert_ne different]
    by_cases gone : other = oldest
    · subst gone
      exact .inr (AList.lookup_erase _ _)
    · exact .inl (AList.lookup_erase_ne gone)

end changes

variable {T : Type} [Ring T] [LinearOrder T]

-- What the rest of the system does to a subscription that does not move itself.
structure Around (s s' : TitleSystem T) (sub sub' : Subscription T) : Prop where
  stationId : sub'.stationId = sub.stationId
  stage : sub'.stage = sub.stage
  staleAt : sub'.staleAt = sub.staleAt
  shown : sub'.shown = sub.shown
  pending : Pending s sub → Pending s' sub'
  later : s.now ≤ s'.now
  titles : Pending s' sub' ∨ s'.titles.lookup sub.stationId = s.titles.lookup sub.stationId ∨
    s'.titles.lookup sub.stationId = none

section steps
variable {s s' : TitleSystem T} {action : TitleAction T} {sub sub' : Subscription T} {i : Nat}

omit [Ring T] [LinearOrder T] in
-- A publisher that has nothing in the map may change without a loss.
theorem pending_update {publisher : Nat} {next : Publisher T} (pending : Pending s sub)
    (idle : ∀ stationId snapshot, s.publishers publisher ≠ .inserted stationId snapshot) (now : T) (titles : Titles T)
    (subscriptions : Nat → Option (Subscription T)) :
    Pending ⟨now,titles,update s.publishers publisher next,subscriptions⟩ sub := by
  rcases pending with missed | listed | ⟨other,snapshot,inserted⟩
  · exact .inl missed
  · exact .inr (.inl listed)
  · refine .inr (.inr ⟨other,snapshot,?_⟩)
    have apart : other ≠ publisher := fun same => idle _ _ (same ▸ inserted)
    exact (update_of_ne apart _ _).trans inserted

omit [Ring T] [LinearOrder T] in
theorem pending_notified {stationId : String} (on_way : sub.missed = true ∨ sub.stationId ∈ sub.changes) :
    Pending s (sub.notify stationId) := by
  rcases notify_kept on_way with missed | listed
  · exact .inl missed
  · rw [← (notify_else stationId sub).1] at listed
    exact .inr (.inl listed)

omit [Ring T] [LinearOrder T] in
theorem pending_own : Pending s (sub.notify sub.stationId) := by
  have listed := notify_own sub.stationId sub
  rw [Pending,(notify_else sub.stationId sub).1]
  exact .inr (.inl listed)

-- Each subscription after a step is new, was left alone, or moved itself.
theorem step_cases (taken : TitleStep s action s') (found : s'.subscriptions i = some sub') :
    (∃ stationId, sub' = .opened stationId) ∨ (∃ sub, s.subscriptions i = some sub ∧ Around s s' sub sub') ∨
    ∃ sub turn, action = .turn i turn ∧ s.subscriptions i = some sub ∧ sub.turn s.now s.titles turn = some sub' ∧
      s'.now = s.now ∧ s'.titles = s.titles ∧ s'.publishers = s.publishers := by
  have same_titles {s s' : TitleSystem T} {sub sub' : Subscription T} (same : s'.titles = s.titles) :
      Pending s' sub' ∨ s'.titles.lookup sub.stationId = s.titles.lookup sub.stationId ∨
        s'.titles.lookup sub.stationId = none := .inr (.inl (congrArg _ same))
  cases taken with
  | tick forward => exact .inr (.inl ⟨sub',found,rfl,rfl,rfl,rfl,fun pending => pending,forward,same_titles rfl⟩)
  | @observe publisher stationId rawTitle updatedAt reading =>
    refine .inr (.inl ⟨sub',found,rfl,rfl,rfl,rfl,fun pending => ?_,le_rfl,same_titles rfl⟩)
    exact pending_update pending (fun _ _ inserted => by rw [reading] at inserted; cases inserted) _ _ _
  | @insert publisher stationId snapshot titles observed publishes =>
    refine .inr (.inl ⟨sub',found,rfl,rfl,rfl,rfl,fun pending => ?_,le_rfl,?_⟩)
    · exact pending_update pending (fun _ _ inserted => by rw [observed] at inserted; cases inserted) _ _ _
    · by_cases own : sub'.stationId = stationId
      · exact .inl (.inr (.inr ⟨publisher,snapshot,by rw [own]; exact update_self _ _ _⟩))
      · exact .inr (publishes_other publishes own)
  | @announce publisher stationId snapshot inserted =>
    obtain ⟨sub,held,rfl⟩ := Option.map_eq_some_iff.mp found
    obtain ⟨station,stage,staleAt,shown⟩ := notify_else stationId sub
    refine .inr (.inl ⟨sub,held,station,stage,staleAt,shown,?_,le_rfl,same_titles rfl⟩)
    rintro (missed | listed | ⟨other,snapshot',on_way⟩)
    · exact pending_notified (.inl missed)
    · exact pending_notified (.inr listed)
    · by_cases same : other = publisher
      · subst same
        cases inserted.symm.trans on_way
        exact pending_own
      · exact .inr (.inr ⟨other,snapshot',(update_of_ne same _ _).trans (station.symm ▸ on_way)⟩)
  | @subscribe subscriber stationId new =>
    by_cases same : i = subscriber
    · subst same
      cases (update_self _ _ _).symm.trans found
      exact .inl ⟨stationId,rfl⟩
    · exact .inr (.inl ⟨sub',(update_of_ne same _ _).symm.trans found,rfl,rfl,rfl,rfl,fun pending => pending,le_rfl,
        same_titles rfl⟩)
  | @turn subscriber sub next turn held moved =>
    by_cases same : i = subscriber
    · subst same
      cases (update_self _ _ _).symm.trans found
      exact .inr (.inr ⟨sub,turn,rfl,held,moved,rfl,rfl,rfl⟩)
    · exact .inr (.inl ⟨sub',(update_of_ne same _ _).symm.trans found,rfl,rfl,rfl,rfl,fun pending => pending,le_rfl,
        same_titles rfl⟩)

end steps

-- The task and its deadline between two steps. Where nothing is on its way, the
-- map still holds the title that was sent, or none.
structure Sound (s : TitleSystem T) (sub : Subscription T) : Prop where
  covered : Covered s sub
  armed : sub.stage = .waiting → ∀ staleAt held, sub.staleAt = some staleAt → s.titles.lookup sub.stationId = some held →
    Pending s sub ∨ held.observedAt + staleAfter ≤ staleAt
  fired : sub.stage = .looking false → sub.staleAt = none ∧
    ∀ held, s.titles.lookup sub.stationId = some held → Pending s sub ∨ held.observedAt + staleAfter ≤ s.now
  arming : sub.stage = .arming → ∀ title, sub.freshTitle = some title →
    Pending s sub ∨ s.titles.lookup sub.stationId = some title ∨ s.titles.lookup sub.stationId = none

def AllSound (s : TitleSystem T) : Prop := ∀ i sub, s.subscriptions i = some sub → Sound s sub

section sound
variable {s s' : TitleSystem T} {action : TitleAction T} {sub sub' : Subscription T} {i : Nat}

-- Nothing is asked of a task about to read a snapshot, and of one that is over.
theorem Sound.elsewhere (waits : sub.stage ≠ .waiting) (fires : sub.stage ≠ .looking false) (arms : sub.stage ≠ .arming) :
    Sound s sub :=
  ⟨fun stage => absurd stage waits,fun stage => absurd stage waits,fun stage => absurd stage fires,fun stage => absurd stage arms⟩

theorem Sound.opened (stationId : String) : Sound s (.opened stationId) :=
  .elsewhere (by simp [Subscription.opened]) (by simp [Subscription.opened]) (by simp [Subscription.opened])

theorem Sound.around (sound : Sound s sub) (around : Around s s' sub sub') : Sound s' sub' := by
  have fresh : sub'.freshTitle = sub.freshTitle := by rw [Subscription.freshTitle,around.shown]; rfl
  have held {held : TitleSnapshot T} (found : s'.titles.lookup sub'.stationId = some held) :
      Pending s' sub' ∨ s.titles.lookup sub.stationId = some held := by
    rw [around.stationId] at found
    rcases around.titles with pending | same | gone
    · exact .inl pending
    · exact .inr (same.symm.trans found)
    · rw [gone] at found
      cases found
  constructor
  · intro waits title shown
    rcases sound.covered (around.stage ▸ waits) title (fresh ▸ shown) with ⟨staleAt,set,bound⟩ | pending
    · exact .inl ⟨staleAt,around.staleAt.trans set,bound⟩
    · exact .inr (around.pending pending)
  · intro waits staleAt title set found
    rcases held found with pending | found
    · exact .inl pending
    · exact (sound.armed (around.stage ▸ waits) staleAt title (around.staleAt ▸ set) found).imp around.pending fun bound => bound
  · intro fires
    obtain ⟨none,bound⟩ := sound.fired (around.stage ▸ fires)
    refine ⟨around.staleAt.trans none,fun title found => ?_⟩
    rcases held found with pending | found
    · exact .inl pending
    · exact (bound title found).imp around.pending fun bound => bound.trans around.later
  · intro arms title shown
    rw [around.stationId]
    rcases sound.arming (around.stage ▸ arms) title (fresh ▸ shown) with pending | same | gone
    · exact .inl (around.pending pending)
    · rcases around.titles with pending | kept | gone
      · exact .inl pending
      · exact .inr (.inl (kept.trans same))
      · exact .inr (.inr gone)
    · rcases around.titles with pending | kept | gone'
      · exact .inl pending
      · exact .inr (.inr (kept.trans gone))
      · exact .inr (.inr gone')

theorem snapshot_fresh {titles : Titles T} {now : T} {title : TitleSnapshot T}
    (sent : sub.shown = some (snapshot titles now sub.stationId)) (fresh : sub.freshTitle = some title) :
    titles.lookup sub.stationId = some title ∧ isStale now title = false := by
  rw [Subscription.freshTitle,sent,Option.bind_some] at fresh
  split at fresh
  · rename_i state
    refine ⟨fresh,?_⟩
    change titles.lookup sub.stationId = some title at fresh
    simp only [snapshot,fresh] at state
    cases stale : isStale now title with
    | false => rfl
    | true => simp [stale] at state
  · cases fresh

theorem staleDeadline_some {titles : Titles T} {now : T} {stationId : String} {staleAt : T} :
    staleDeadline titles now stationId = some staleAt ↔
      ∃ held, titles.lookup stationId = some held ∧ isStale now held = false ∧ held.observedAt + staleAfter = staleAt := by
  simp [staleDeadline,Option.map_eq_some_iff,Option.filter_eq_some_iff,and_assoc]

-- Where the deadline is read in time, it is the one of the title that was sent.
theorem sound_arm (sound : Sound s sub) (arms : sub.stage = .arming)
    (timely : ∀ title, sub.freshTitle = some title → ¬ Pending s sub →
      ∃ held, s.titles.lookup sub.stationId = some held ∧ isStale s.now held = false) :
    Sound s {sub with stage := .waiting, staleAt := staleDeadline s.titles s.now sub.stationId} := by
  constructor
  · intro _ title fresh
    by_cases pending : Pending s sub
    · exact .inr pending
    · obtain ⟨held,found,young⟩ := timely title fresh pending
      refine .inl ⟨held.observedAt + staleAfter,staleDeadline_some.mpr ⟨held,found,young,rfl⟩,?_⟩
      rcases sound.arming arms title fresh with pending' | same | gone
      · exact absurd pending' pending
      · cases found.symm.trans same
        exact le_rfl
      · cases found.symm.trans gone
  · intro _ staleAt held set found
    obtain ⟨held',found',_,rfl⟩ := staleDeadline_some.mp set
    cases found.symm.trans found'
    exact .inr le_rfl
  · intro fires
    cases fires
  · intro arms
    cases arms

theorem sound_fire (sound : Sound s sub) (waits : sub.stage = .waiting) {staleAt : T} (set : sub.staleAt = some staleAt)
    (due : staleAt ≤ s.now) : Sound s {sub with stage := .looking false, staleAt := none} := by
  constructor
  · intro waits
    cases waits
  · intro waits
    cases waits
  · intro _
    refine ⟨rfl,fun held found => ?_⟩
    exact (sound.armed waits staleAt held set found).imp (fun pending => pending) fun bound => bound.trans due
  · intro arms
    cases arms

theorem sound_skip (sound : Sound s sub) (waits : sub.stage = .waiting) {changedId : String} {rest : List String}
    (changes : sub.changes = changedId :: rest) (other : changedId ≠ sub.stationId) :
    Sound s {sub with stage := .waiting, changes := rest} := by
  have kept (pending : Pending s sub) : Pending s {sub with stage := .waiting, changes := rest} := by
    rcases pending with missed | listed | on_way
    · exact .inl missed
    · rw [changes] at listed
      exact .inr (.inl ((List.mem_cons.mp listed).resolve_left other.symm))
    · exact .inr (.inr on_way)
  constructor
  · intro _ title fresh
    exact (sound.covered waits title fresh).imp (fun armed => armed) kept
  · intro _ staleAt held set found
    exact (sound.armed waits staleAt held set found).imp kept fun bound => bound
  · intro fires
    cases fires
  · intro arms
    cases arms

-- A deadline that is read too late leaves the subscriber with a fresh title and
-- nothing that would tell it otherwise.
theorem timely_needed (taken : TitleStep s action s') (converges : s'.Converges) : Timely s action := by
  cases taken with
  | @turn subscriber sub sub' turn held moved =>
    cases turn with
    | arm =>
      intro other title found fresh unannounced
      cases held.symm.trans found
      simp only [Subscription.turn] at moved
      obtain ⟨_,moved⟩ := Option.ite_none_right_eq_some.mp moved
      cases moved
      rcases converges subscriber _ (update_self _ _ _) rfl title fresh with ⟨staleAt,set,_⟩ | pending
      · obtain ⟨held,found,young,_⟩ := staleDeadline_some.mp set
        exact ⟨held,found,young⟩
      · exact absurd pending unannounced
    | _ => trivial
  | _ => trivial

variable [IsOrderedRing T]

theorem isStale_iff {now : T} {title : TitleSnapshot T} : isStale now title = true ↔ title.observedAt + staleAfter ≤ now := by
  rw [isStale,decide_eq_true_eq,le_sub_iff_add_le']

theorem sound_look {rearms : Bool} (sound : Sound s sub) (looks : sub.stage = .looking rearms) :
    Sound s (sub.trySend (snapshot s.titles s.now sub.stationId) (if rearms then .arming else .waiting)) := by
  unfold Subscription.trySend
  split
  · cases rearms with
    | true =>
      constructor
      · intro waits
        cases waits
      · intro waits
        cases waits
      · intro fires
        cases fires
      · intro _ title fresh
        exact .inr (.inl (snapshot_fresh rfl fresh).1)
    | false =>
      obtain ⟨none,bound⟩ := sound.fired looks
      constructor
      · intro _ title fresh
        obtain ⟨found,young⟩ := snapshot_fresh rfl fresh
        rcases bound title found with pending | old
        · exact .inr pending
        · rw [isStale_iff.mpr old] at young
          cases young
      · intro _ staleAt held set
        cases none.symm.trans set
      · intro fires
        cases fires
      · intro arms
        cases arms
  · exact .elsewhere (by simp) (by simp) (by simp)

theorem sound_turn {turn : Turn} (sound : Sound s sub) (moved : sub.turn s.now s.titles turn = some sub')
    (timely : turn = .arm → ∀ title, sub.freshTitle = some title → ¬ Pending s sub →
      ∃ held, s.titles.lookup sub.stationId = some held ∧ isStale s.now held = false) : Sound s sub' := by
  cases turn with
  | look =>
    simp only [Subscription.turn] at moved
    split at moved
    · rename_i rearms looks
      cases moved
      exact sound_look sound looks
    · cases moved
  | arm =>
    simp only [Subscription.turn] at moved
    obtain ⟨arms,moved⟩ := Option.ite_none_right_eq_some.mp moved
    cases moved
    exact sound_arm sound arms (timely rfl)
  | fire =>
    simp only [Subscription.turn] at moved
    obtain ⟨⟨waits,due⟩,moved⟩ := Option.ite_none_right_eq_some.mp moved
    cases moved
    obtain ⟨staleAt,set,due⟩ := (Option.any_eq_true _ _).mp due
    exact sound_fire sound waits set (of_decide_eq_true due)
  | receive =>
    simp only [Subscription.turn] at moved
    obtain ⟨waits,moved⟩ := Option.ite_none_right_eq_some.mp moved
    split at moved
    · cases moved
      exact .elsewhere (by simp) (by simp) (by simp)
    · split at moved
      · cases moved
      · rename_i changedId rest changes
        cases moved
        by_cases own : changedId = sub.stationId
        · rw [if_pos own]
          exact .elsewhere (by simp) (by simp) (by simp)
        · rw [if_neg own]
          exact sound_skip sound waits changes own
  | take =>
    simp only [Subscription.turn] at moved
    obtain ⟨_,moved⟩ := Option.ite_none_right_eq_some.mp moved
    cases moved
    exact ⟨sound.covered,sound.armed,sound.fired,sound.arming⟩
  | close =>
    simp only [Subscription.turn] at moved
    obtain ⟨_,moved⟩ := Option.ite_none_left_eq_some.mp moved
    cases moved
    exact .elsewhere (by simp) (by simp) (by simp)

theorem sound_step (all : AllSound s) (taken : TitleStep s action s') (timely : Timely s action) : AllSound s' := by
  intro i sub' found
  rcases step_cases taken found with ⟨stationId,rfl⟩ | ⟨sub,held,around⟩ | ⟨sub,turn,rfl,held,moved,now,titles,publishers⟩
  · exact Sound.opened stationId
  · exact (all i sub held).around around
  · have moved_sound : Sound s sub' := by
      refine sound_turn (all i sub held) moved fun arms title fresh unannounced => ?_
      subst arms
      exact timely sub title held fresh unannounced
    refine moved_sound.around ⟨rfl,rfl,rfl,rfl,fun pending => ?_,now.ge,.inr (.inl (congrArg _ titles))⟩
    rw [Pending,publishers]
    exact pending

end sound

-- Exactly in the runs that read each deadline in time does every subscriber at
-- rest that shows a fresh title have a timer for its end or a change on its way;
-- and where such a title is stale, the subscriber can go on.
theorem subscribers_converge [IsOrderedRing T] {now : T} {actions : List (TitleAction T)} {s : TitleSystem T} :
    (Runs (Under Timely TitleStep) (.start now) actions s → s.Converges) ∧
    (Runs (fun s action s' => TitleStep s action s' ∧ s'.Converges) (.start now) actions s →
      Runs (Under Timely TitleStep) (.start now) actions s) ∧
    (s.Converges → ∀ i sub title, s.subscriptions i = some sub → sub.stage = .waiting → sub.freshTitle = some title →
      title.observedAt + staleAfter ≤ s.now → (sub.turn s.now s.titles .fire).isSome = true ∨ Pending s sub) := by
  have start : AllSound (.start now : TitleSystem T) := fun i sub found => by cases found
  have exactly_ := @Runs.exactly _ _ TitleStep (.start now) s actions Timely AllSound TitleSystem.Converges start
    (fun _ _ _ all taken timely => sound_step all taken timely) (fun _ _ _ _ taken converges => timely_needed taken converges)
  refine ⟨fun path i sub found => (exactly_.1 path i sub found).covered,exactly_.2,?_⟩
  intro converges i sub title found waits fresh old
  rcases converges i sub found waits title fresh with ⟨staleAt,set,bound⟩ | pending
  · refine .inl ?_
    have due : sub.staleAt.any (fun at_ => at_ ≤ s.now) = true := by
      rw [set]
      exact decide_eq_true (bound.trans old)
    rw [Subscription.turn,if_pos ⟨waits,due⟩]
    rfl
  · exact .inr pending

def heldTitle : TitleSnapshot ℝ := ⟨"t",0,"u"⟩

def heldTitles : Titles ℝ := (∅ : Titles ℝ).insert "a" heldTitle

noncomputable def shownFresh : Subscription ℝ := ⟨"a",.arming,none,false,[],1,some (snapshot heldTitles 0 "a")⟩

theorem heldTitles_lookup : heldTitles.lookup "a" = some heldTitle := AList.lookup_insert _

theorem held_fresh {now : ℝ} (early : now < staleAfter) : isStale now heldTitle = false := by
  simpa [isStale,heldTitle] using early

theorem held_stale : isStale staleAfter heldTitle = true := by
  simp [isStale,heldTitle,staleAfter]

theorem shown_freshTitle : shownFresh.freshTitle = some heldTitle := by
  have fresh : isStale 0 heldTitle = false := held_fresh (by norm_num [staleAfter])
  simp [Subscription.freshTitle,shownFresh,snapshot,heldTitles_lookup,fresh]

noncomputable def heldPublishers : Nat → Publisher ℝ :=
  update (update (update (fun _ => .reading) 0 (.observed "a" heldTitle)) 0 (.inserted "a" heldTitle)) 0
    .reading

theorem heldPublishers_reading (publisher : Nat) : heldPublishers publisher = .reading := by
  unfold heldPublishers
  by_cases first : publisher = 0
  · rw [first,update_self]
  · rw [update_of_ne first,update_of_ne first,update_of_ne first]

noncomputable def heldSubscriptions (sub : Subscription ℝ) : Nat → Option (Subscription ℝ) :=
  update (update (fun _ => none) 0 (some (.opened "a"))) 0 (some sub)

-- A title of time 0, read at once and shown as fresh.
def showing : List (TitleAction ℝ) :=
  [.observe 0 "a" "t" "u",.insert 0,.announce 0,.subscribe 0 "a",.turn 0 .look]

theorem showing_run : Runs (Under Timely TitleStep) (.start 0) showing
    ⟨0,heldTitles,heldPublishers,heldSubscriptions shownFresh⟩ := by
  have room : (∅ : Titles ℝ).keys.length < maxTitles := by decide
  have first : TitleStep (.start 0) (.observe 0 "a" "t" "u")
      ⟨0,∅,update (fun _ => .reading) 0 (.observed "a" heldTitle),fun _ => none⟩ := .observe rfl
  have second : TitleStep ⟨0,∅,update (fun _ => .reading) 0 (.observed "a" heldTitle),fun _ => none⟩ (.insert 0)
      ⟨0,heldTitles,update (update (fun _ => .reading) 0 (.observed "a" heldTitle)) 0 (.inserted "a" heldTitle),
        fun _ => none⟩ := .insert rfl (.inserted (.inl room))
  have third : TitleStep ⟨0,heldTitles,update (update (fun _ => .reading) 0 (.observed "a" heldTitle)) 0
      (.inserted "a" heldTitle),fun _ => none⟩ (.announce 0) ⟨0,heldTitles,heldPublishers,fun _ => none⟩ :=
    .announce rfl
  have fourth : TitleStep ⟨0,heldTitles,heldPublishers,fun _ => none⟩ (.subscribe 0 "a")
      ⟨0,heldTitles,heldPublishers,update (fun _ => none) 0 (some (.opened "a"))⟩ := .subscribe rfl
  have fifth : TitleStep ⟨0,heldTitles,heldPublishers,update (fun _ => none) 0 (some (.opened "a"))⟩ (.turn 0 .look)
      ⟨0,heldTitles,heldPublishers,heldSubscriptions shownFresh⟩ := .turn rfl rfl
  exact .cons ⟨trivial,first⟩ (.cons ⟨trivial,second⟩ (.cons ⟨trivial,third⟩ (.cons ⟨trivial,fourth⟩ (.single ⟨trivial,fifth⟩))))

-- The deadline is read half a minute later, and the timer is due when the title
-- has become stale.
noncomputable def shownArmed : Subscription ℝ :=
  {shownFresh with stage := .waiting, staleAt := staleDeadline heldTitles 30 "a"}

theorem shown_deadline : shownArmed.staleAt = some staleAfter := by
  have fresh : isStale 30 heldTitle = false := held_fresh (by norm_num [staleAfter])
  rw [shownArmed,staleDeadline,heldTitles_lookup,Option.filter_some,fresh]
  simp [heldTitle]

theorem subscribers_converge_shown : ∃ s sub, s.Converges ∧ s.now = staleAfter ∧
    Runs (Under Timely TitleStep) (.start (0 : ℝ))
      (showing ++ [.tick 30] ++ [.turn 0 .arm] ++ [.tick staleAfter]) s ∧
    s.subscriptions 0 = some sub ∧ sub.freshTitle = some heldTitle ∧ sub.staleAt = some staleAfter ∧
    (sub.turn s.now s.titles .fire).isSome = true := by
  have forward : (0 : ℝ) ≤ 30 := by norm_num
  have onward : (30 : ℝ) ≤ staleAfter := by norm_num [staleAfter]
  have waited : TitleStep ⟨0,heldTitles,heldPublishers,heldSubscriptions shownFresh⟩ (.tick 30)
      ⟨30,heldTitles,heldPublishers,heldSubscriptions shownFresh⟩ := .tick forward
  have armed : TitleStep ⟨30,heldTitles,heldPublishers,heldSubscriptions shownFresh⟩ (.turn 0 .arm)
      ⟨30,heldTitles,heldPublishers,update (heldSubscriptions shownFresh) 0 (some shownArmed)⟩ := .turn rfl rfl
  have aged : TitleStep ⟨30,heldTitles,heldPublishers,update (heldSubscriptions shownFresh) 0 (some shownArmed)⟩
      (.tick staleAfter) ⟨staleAfter,heldTitles,heldPublishers,update (heldSubscriptions shownFresh) 0 (some shownArmed)⟩ :=
    .tick onward
  have timely : Timely ⟨30,heldTitles,heldPublishers,heldSubscriptions shownFresh⟩ (.turn 0 .arm) := by
    intro sub title found _ _
    cases (update_self _ _ _ : heldSubscriptions shownFresh 0 = some shownFresh).symm.trans found
    exact ⟨heldTitle,heldTitles_lookup,held_fresh (by norm_num [staleAfter])⟩
  have reading := showing_run.snoc (show Under Timely TitleStep _ (.tick 30) _ from ⟨trivial,waited⟩)
  have path := (reading.snoc ⟨timely,armed⟩).snoc (show Under Timely TitleStep _ (.tick staleAfter) _ from ⟨trivial,aged⟩)
  obtain ⟨follows,_,goes_on⟩ := @subscribers_converge ℝ _ _ _ 0 (showing ++ [.tick 30] ++ [.turn 0 .arm] ++ [.tick staleAfter])
    ⟨staleAfter,heldTitles,heldPublishers,update (heldSubscriptions shownFresh) 0 (some shownArmed)⟩
  have converges := follows path
  have found : update (heldSubscriptions shownFresh) 0 (some shownArmed) 0 = some shownArmed := update_self _ _ _
  refine ⟨_,shownArmed,converges,rfl,path,found,shown_freshTitle,shown_deadline,?_⟩
  have old : heldTitle.observedAt + staleAfter ≤ (staleAfter : ℝ) := by simp [heldTitle]
  rcases goes_on converges 0 shownArmed heldTitle found rfl shown_freshTitle old with
    fires | missed | listed | ⟨publisher,snapshot,inserted⟩
  · exact fires
  · cases missed
  · cases listed
  · cases (heldPublishers_reading publisher).symm.trans inserted

-- It is stale by the clock before the deadline is read.
theorem late_deadline : staleDeadline heldTitles staleAfter "a" = none := by
  simp [staleDeadline,heldTitles_lookup,held_stale]

noncomputable def shownForever : Subscription ℝ :=
  {shownFresh with stage := .waiting, staleAt := staleDeadline heldTitles staleAfter "a"}

theorem late_read_stuck : ∃ s, Runs TitleStep (.start (0 : ℝ))
    (showing ++ [.tick staleAfter] ++ [.turn 0 .arm]) s ∧ ¬ s.Converges := by
  have forward : (0 : ℝ) ≤ staleAfter := by norm_num [staleAfter]
  have ticked : TitleStep ⟨0,heldTitles,heldPublishers,heldSubscriptions shownFresh⟩ (.tick staleAfter)
      ⟨staleAfter,heldTitles,heldPublishers,heldSubscriptions shownFresh⟩ := .tick forward
  have armed : TitleStep ⟨staleAfter,heldTitles,heldPublishers,heldSubscriptions shownFresh⟩ (.turn 0 .arm) ⟨staleAfter,heldTitles,heldPublishers,
      update (heldSubscriptions shownFresh) 0 (some shownForever)⟩ := .turn rfl rfl
  have shown := showing_run.mono fun _ _ _ taken => taken.2
  refine ⟨_,(shown.snoc ticked).snoc armed,?_⟩
  intro converges
  have found : update (heldSubscriptions shownFresh) 0 (some shownForever) 0 = some shownForever := update_self _ _ _
  rcases converges 0 shownForever found rfl heldTitle shown_freshTitle with
    ⟨staleAt,set,_⟩ | missed | listed | ⟨publisher,snapshot,inserted⟩
  · cases late_deadline.symm.trans set
  · cases missed
  · cases listed
  · cases (heldPublishers_reading publisher).symm.trans inserted

end Relay
