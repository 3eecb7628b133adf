import RockServer.SessionTurns

namespace DeviceControl

-- What a session that holds a device agrees on with its entry.
structure Standing.Holds (st : Standing) (device : Uuid) (g : LiveGeneration) : Prop where
  device : st.device = device
  user : st.user = g.userId
  scopes : st.scopes = g.scopes
  stage : st.stage = .present ∨ st.stage = .returned

namespace ControlPlane

variable {env : PlaneEnv} {s s' : ControlPlane} {id : Uuid} {session : ControlSession} {now : Instant}
  {action : Action}

-- Every account's sessions are its own devices', and every active entry belongs
-- to a session that registered it.
structure Wired (env : PlaneEnv) (s : ControlPlane) : Prop where
  owned : ∀ id st, s.standing id = some st → st.user = env.owner st.device
  entered : ∀ (device : Uuid) (g : LiveGeneration), s.live[device]? = some g →
    ∃ st, s.standing g.connectionId = some st ∧ st.Holds device g

-- The entry of a session's generation lies under the session's device.
theorem Wired.entry (wired : Wired env s) {st : Standing} (found : s.standing id = some st) {device : Uuid}
    {g : LiveGeneration} (here : s.live[device]? = some g) (mine : g.connectionId = id) : st.Holds device g := by
  obtain ⟨st',found',holds⟩ := wired.entered device g here
  rw [mine,found] at found'
  cases found'
  exact holds

-- The frame rule: one session moves, and no entry appears but its own.
theorem Wired.update (wired : Wired env s) {st st' : Standing} (found : s.standing id = some st)
    (places : Places s s' id st') (same : st'.user = st.user ∧ st'.device = st.device)
    (live : ∀ (device : Uuid) (g : LiveGeneration), s'.live[device]? = some g → g.connectionId ≠ id →
      s.live[device]? = some g)
    (holds : ∀ (device : Uuid) (g : LiveGeneration), s'.live[device]? = some g → g.connectionId = id →
      st'.Holds device g) : Wired env s' := by
  refine ⟨fun j other found' => ?_,fun device g here => ?_⟩
  · rw [places] at found'
    split at found'
    · cases found'
      rw [same.1,same.2]
      exact wired.owned id st found
    · exact wired.owned j other found'
  · by_cases mine : g.connectionId = id
    · exact ⟨st',by rw [places,mine,if_pos rfl],holds device g here mine⟩
    · obtain ⟨other,found',holds'⟩ := wired.entered device g (live device g here mine)
      exact ⟨other,by rw [places,if_neg (Ne.symm mine),found'],holds'⟩

theorem Wired.same (wired : Wired env s) (standing : ∀ j, s'.standing j = s.standing j)
    (live : ∀ (device : Uuid) (g : LiveGeneration), s'.live[device]? = some g → s.live[device]? = some g) : Wired env s' := by
  refine ⟨fun id st found => wired.owned id st (standing id ▸ found),fun device g here => ?_⟩
  obtain ⟨st,found,holds⟩ := wired.entered device g (live device g here)
  exact ⟨st,by rw [standing]; exact found,holds⟩

-- A session that goes on or returns holds what it held.
theorem Wired.on (wired : Wired env s) {st st' : Standing} (found : s.standing id = some st)
    (places : Places s s' id st') (same : st'.user = st.user ∧ st'.device = st.device ∧ st'.scopes = st.scopes)
    (stage : st'.stage = st.stage ∨ st'.stage = .returned)
    (live : ∀ (device : Uuid) (g : LiveGeneration), s'.live[device]? = some g → s.live[device]? = some g) : Wired env s' := by
  refine wired.update found places ⟨same.1,same.2.1⟩ (fun device g here _ => live device g here) fun device g here mine => ?_
  have held := wired.entry found (live device g here) mine
  refine ⟨same.2.1.trans held.device,same.1.trans held.user,same.2.2.trans held.scopes,?_⟩
  rcases stage with kept | gone
  · rw [kept]
    exact held.stage
  · exact .inr gone

theorem initial_wired (start : Initial s) : Wired env s := by
  refine ⟨fun id st found => ?_,fun device g here => ?_⟩
  · simp [standing,start.sessions] at found
  · simp [live,registry,ConnectionRegistry.live,start.registry] at here

theorem wired_step (wired : Wired env s) (taken : Step env s action s') : Wired env s' := by
  cases step_turn taken with
  | still standing live _ => exact wired.same standing fun device g here => live ▸ here
  | @connected id user device absent mine places live _ =>
    refine ⟨fun j st found => ?_,fun device' g here => ?_⟩
    · rw [places] at found
      split at found
      · cases found
        exact mine
      · exact wired.owned j st found
    · rw [live] at here
      obtain ⟨st,found,holds⟩ := wired.entered device' g here
      refine ⟨st,?_,holds⟩
      rw [places,if_neg fun same => ?_]
      · exact found
      · rw [← same,absent] at found
        cases found
  | moved pass found places live _ =>
    exact wired.on found places ⟨rfl,rfl,rfl⟩ (.inl rfl) fun device g here => live ▸ here
  | online found waiting places live _ =>
    refine wired.update found places ⟨rfl,rfl⟩ (fun device g here _ => live ▸ here) fun device g here mine => ?_
    have stage := (wired.entry found (live ▸ here) mine).stage
    simp [waiting] at stage
  | abandoned found _ places live _ =>
    exact wired.on found places ⟨rfl,rfl,rfl⟩ (.inr rfl) fun device g here => live ▸ here
  | joined manifest pass found arriving places live _ =>
    refine wired.update found places ⟨rfl,rfl⟩ (fun device g here others => ?_) fun device g here mine => ?_
    · rw [live,Table.get_insert] at here
      split at here
      · cases here
        exact absurd rfl others
      · exact here
    · rw [live,Table.get_insert] at here
      split at here
      · rename_i same
        cases here
        exact ⟨same,rfl,rfl,.inl rfl⟩
      · have stage := (wired.entry found here mine).stage
        simp [arriving] at stage
  | adopted found phase places live _ =>
    rcases live with ⟨same,_⟩ | ⟨old,there,own,updated⟩
    · exact wired.on (standing_of found) places ⟨rfl,rfl,rfl⟩ (.inl rfl) fun device g here => same ▸ here
    · refine wired.update (standing_of found) places ⟨rfl,rfl⟩ (fun device g here others => ?_) fun device g here mine => ?_
      · rw [updated,Table.get_insert] at here
        split at here
        · cases here
          exact absurd own others
        · exact here
      · have held := wired.entry (standing_of found) there own
        rw [updated,Table.get_insert] at here
        split at here
        · rename_i same
          cases here
          exact ⟨same,held.user,held.scopes,held.stage⟩
        · exact wired.entry (standing_of found) here mine
  | unconfirmed found _ places live _ =>
    refine wired.on (standing_of found) places ⟨rfl,rfl,rfl⟩ (.inr rfl) fun device g here => ?_
    rcases live with ⟨same,_⟩ | ⟨gone,_⟩
    · exact same ▸ here
    · exact (Table.get_erase_some (gone ▸ here)).2
  | unlisted found _ places live _ =>
    exact wired.on (standing_of found) places ⟨rfl,rfl,rfl⟩ (.inr rfl) fun device g here => live ▸ here
  | closed found _ _ places live _ =>
    refine wired.update found places ⟨rfl,rfl⟩ (fun device g here _ => (Table.get_erase_some (live ▸ here)).2)
      fun device g here mine => ?_
    obtain ⟨apart,there⟩ := Table.get_erase_some (live ▸ here)
    exact absurd (wired.entry found there mine).device apart
  | left found _ _ places live _ =>
    exact wired.on found places ⟨rfl,rfl,rfl⟩ (.inr rfl) fun device g here => live ▸ here
  | offline found _ places live _ =>
    exact wired.on (standing_of found) places ⟨rfl,rfl,rfl⟩ (.inr rfl) fun device g here => live ▸ here
  | revoked _ _ standing live _ =>
    exact wired.same standing fun device g here => (Table.get_erase_some (live ▸ here)).2

-- No session that returned is still the active generation of a device.
def Clean (s : ControlPlane) : Prop := ∀ (id : Uuid) (session : ControlSession) (device : Uuid) (active : ActiveConnection),
  s.sessions[id]? = some session → session.phase = .returned → s.registry[device]? = some active → active.connectionId ≠ id

-- The exits that skip the disconnect: the first directory snapshot is not to be
-- had or not to be sent, while the session holds its device.
def lingers (s : ControlPlane) : Action → Bool
  | .session id _ .failed => match s.sessions[id]? with
    | some session => match session.phase with
      | .listing => (s.registry.generation session.deviceId id).isSome
      | _ => false
    | none => false
  | _ => false

theorem stage_returned {phase : Phase} : phase.stage = .returned ↔ phase = .returned := by
  cases phase <;> simp [Phase.stage]

theorem clean_iff : s.Clean ↔ ∀ (device : Uuid) (g : LiveGeneration) (st : Standing), s.live[device]? = some g →
    s.standing g.connectionId = some st → st.stage ≠ .returned := by
  constructor
  · intro clean device g st here found gone
    obtain ⟨session,held,rfl⟩ := Option.map_eq_some_iff.mp found
    obtain ⟨active,there,rfl⟩ := live_some.mp here
    exact clean _ session device active held (Iff.mp stage_returned gone) there rfl
  · rintro clear id session device active held gone there rfl
    exact clear device active.live _ (live_some.mpr ⟨active,there,rfl⟩) (standing_of held) (Iff.mpr stage_returned gone)

-- The frame rule: one session moves, and either stays or holds no device.
theorem Clean.update (clean : s.Clean) {st : Standing} (places : Places s s' id st)
    (live : ∀ (device : Uuid) (g : LiveGeneration), s'.live[device]? = some g →
      g.connectionId = id ∨ ∃ old : LiveGeneration, s.live[device]? = some old ∧ old.connectionId = g.connectionId)
    (stage : ∀ (device : Uuid) (g : LiveGeneration), s'.live[device]? = some g → g.connectionId = id →
      st.stage ≠ .returned) : s'.Clean := by
  refine Iff.mpr clean_iff fun device g st' here found => ?_
  rw [places] at found
  split at found
  · rename_i mine
    cases found
    exact stage device g here mine.symm
  · rename_i others
    rcases live device g here with mine | ⟨old,there,name⟩
    · exact absurd mine.symm others
    · exact Iff.mp clean_iff clean device old st' there (name ▸ found)

theorem Clean.same (clean : s.Clean) (standing : ∀ j, s'.standing j = s.standing j)
    (live : ∀ (device : Uuid) (g : LiveGeneration), s'.live[device]? = some g → s.live[device]? = some g) : s'.Clean :=
  Iff.mpr clean_iff fun device g st here found => Iff.mp clean_iff clean device g st (live device g here) (standing _ ▸ found)

theorem lingers_owns (found : s.sessions[id]? = some session) (here : session.phase = .listing) :
    s.lingers (.session id now .failed) = true ↔ s.owns session.deviceId id := by
  simp only [lingers,found,here]
  exact ConnectionRegistry.generation_owns

theorem clean_step (wired : Wired env s) (clean : s.Clean) (taken : Step env s action s')
    (left : s.lingers action = false) : s'.Clean := by
  -- A session whose stage is neither present nor returned holds no device.
  have unheld {id : Uuid} {st : Standing} (found : s.standing id = some st) (device : Uuid) (g : LiveGeneration)
      (here : s.live[device]? = some g) (mine : g.connectionId = id) (present : st.stage ≠ .present)
      (gone : st.stage ≠ .returned) : False := by
    rcases (wired.entry found here mine).stage with stage | stage
    · exact present stage
    · exact gone stage
  have disowned {id : Uuid} {st : Standing} (found : s.standing id = some st) (absent : ¬ s.owns st.device id)
      (device : Uuid) (g : LiveGeneration) (here : s.live[device]? = some g) (mine : g.connectionId = id) : False :=
    absent ⟨g,(wired.entry found here mine).device ▸ here,mine⟩
  cases step_turn taken with
  | still standing live _ => exact clean.same standing fun device g here => live ▸ here
  | connected _ _ places live _ =>
    exact clean.update places (fun device g here => .inr ⟨g,live ▸ here,rfl⟩) fun _ _ _ _ => by simp
  | @moved id now event st pass found places live _ =>
    refine clean.update places (fun device g here => .inr ⟨g,live ▸ here,rfl⟩) fun device g here mine => ?_
    have same : s.standing g.connectionId = some st := by rw [mine,found]
    exact Iff.mp clean_iff clean device g st (live ▸ here) same
  | online _ _ places live _ =>
    exact clean.update places (fun device g here => .inr ⟨g,live ▸ here,rfl⟩) fun _ _ _ _ => by simp
  | abandoned found early places live _ =>
    refine clean.update places (fun device g here => .inr ⟨g,live ▸ here,rfl⟩) fun device g here mine => ?_
    refine (unheld found device g (live ▸ here) mine ?_ ?_).elim
    · rcases early with stage | stage <;> simp [stage]
    · rcases early with stage | stage <;> simp [stage]
  | @joined id now event st manifest pass found _ places live _ =>
    refine clean.update places (fun device g here => ?_) fun _ _ _ _ => by simp
    rw [live,Table.get_insert] at here
    split at here
    · cases here
      exact .inl rfl
    · exact .inr ⟨g,here,rfl⟩
  | adopted found phase places live _ =>
    refine clean.update places (fun device g here => ?_) fun _ _ _ _ gone => ?_
    · rcases live with ⟨same,_⟩ | ⟨old,there,_,updated⟩
      · exact .inr ⟨g,same ▸ here,rfl⟩
      · rw [updated,Table.get_insert] at here
        split at here
        · rename_i same
          cases here
          exact .inr ⟨old,same ▸ there,rfl⟩
        · exact .inr ⟨g,here,rfl⟩
    · simp [ControlSession.standing,phase,Phase.stage] at gone
  | unconfirmed found phase places live _ =>
    refine clean.update places (fun device g here => ?_) fun device g here mine => ?_
    · rcases live with ⟨same,_⟩ | ⟨gone,_⟩
      · exact .inr ⟨g,same ▸ here,rfl⟩
      · exact .inr ⟨g,(Table.get_erase_some (gone ▸ here)).2,rfl⟩
    · rcases live with ⟨same,absent⟩ | ⟨gone,_⟩
      · exact (disowned (standing_of found) absent device g (same ▸ here) mine).elim
      · obtain ⟨apart,there⟩ := Table.get_erase_some (gone ▸ here)
        exact absurd (wired.entry (standing_of found) there mine).device apart
  | unlisted found phase places live _ =>
    refine clean.update places (fun device g here => .inr ⟨g,live ▸ here,rfl⟩) fun device g here mine => ?_
    refine (disowned (standing_of found) (fun owned => ?_) device g (live ▸ here) mine).elim
    rw [(lingers_owns found phase).mpr owned] at left
    cases left
  | closed found _ _ places live _ =>
    exact clean.update places (fun device g here => .inr ⟨g,(Table.get_erase_some (live ▸ here)).2,rfl⟩)
      fun _ _ _ _ => by simp
  | left found _ absent places live _ =>
    refine clean.update places (fun device g here => .inr ⟨g,live ▸ here,rfl⟩) fun device g here mine => ?_
    exact (disowned found absent device g (live ▸ here) mine).elim
  | offline found phase places live _ =>
    refine clean.update places (fun device g here => .inr ⟨g,live ▸ here,rfl⟩) fun device g here mine => ?_
    refine (unheld (standing_of found) device g (live ▸ here) mine ?_ ?_).elim
    · simp [ControlSession.standing,phase,Phase.stage]
    · simp [ControlSession.standing,phase,Phase.stage]
  | revoked _ _ standing live _ =>
    exact clean.same standing fun device g here => (Table.get_erase_some (live ▸ here)).2

-- The exit in question leaves the entry of the session that takes it.
theorem lingers_unclean (taken : Step env s action s') (lingers : s.lingers action = true) : ¬ s'.Clean := by
  unfold ControlPlane.lingers at lingers
  split at lingers
  · rename_i id now
    split at lingers
    · rename_i session found
      split at lingers
      · rename_i here
        rw [step_session found] at taken
        unfold ControlPlane.session at taken
        rw [here] at taken
        cases taken
        obtain ⟨g,held,mine⟩ := ConnectionRegistry.generation_owns.mp lingers
        intro clean
        refine Iff.mp clean_iff clean session.deviceId g {session.standing id with stage := .returned, pass := none} ?_ ?_ rfl
        · rw [leave_live]
          exact held
        · rw [mine,left_places,if_pos rfl]
      · cases lingers
    · cases lingers
  · cases lingers

-- No returned session holds a device all along a run exactly when none leaves
-- by one of these exits.
theorem sessions_clean {origin : ControlPlane} {actions : List Action} (start : Initial origin) :
    (Transition.Runs (Transition.Under (fun s a => s.lingers a = false) (Step env)) origin actions s → s.Clean) ∧
    (Transition.Runs (fun s a s' => Step env s a s' ∧ s'.Clean) origin actions s →
      Transition.Runs (Transition.Under (fun s a => s.lingers a = false) (Step env)) origin actions s) := by
  have clean : origin.Clean := fun id session device active found => by simp [start.sessions] at found
  have exact := @Transition.Runs.exactly ControlPlane Action (Step env) origin s actions (fun s a => s.lingers a = false)
    (fun s => Wired env s ∧ s.Clean) Clean ⟨initial_wired start,clean⟩
    (fun _ _ _ both taken left => ⟨wired_step both.1 taken,clean_step both.1 both.2 taken left⟩)
    (fun _ _ _ _ taken clean => Bool.eq_false_iff.mpr fun lingers => lingers_unclean taken lingers clean)
  exact ⟨fun path => (exact.1 path).2,exact.2⟩

-- A process without a store, whose one account owns every device.
def volatile : PlaneEnv where
  router := onEpochDay
  readFloat _ := none
  owner _ := 1
  hasStore := false
  offlineTtl := 60

def vacant : ControlPlane := ⟨⟨∅,∅,⟨[],[],∅,0⟩,[],[]⟩,.empty,⟨∅,∅⟩,∅,0,[],[]⟩

theorem vacant_initial : Initial vacant := ⟨⟨rfl,rfl,rfl,⟨by simp [vacant],by simp [vacant]⟩⟩,rfl,rfl,rfl,rfl,rfl⟩

-- A session up to its registration, which `done` then carries on.
def opening (id device : Uuid) (manifest : DeviceManifest) : List Action :=
  [.connect id 1 device,.session id 0 (.hello [1] true),.session id 0 (.register ⟨"speaker","1",manifest⟩),.session id 0 .done]

theorem sessions_clean_closed : ∃ s : ControlPlane, s.sessions.toList.length = 1 ∧ s.Clean := by
  obtain ⟨s,path,seen⟩ := Transition.guarded_reaches (fun s a => !s.lingers a) (execute volatile) vacant
    (opening 100 10 speaker ++ List.replicate 3 (.session 100 0 .done) ++
      [.session 100 0 (.closed true),.session 100 0 .done,.route 0 calm,.session 100 0 .done,.session 100 0 .done])
    (fun s => s.sessions.toList.length = 1) (by decide)
  have path : Transition.Runs (Transition.Under (fun s a => s.lingers a = false) (Step volatile)) vacant _ s :=
    path.mono fun _ _ _ taken => ⟨(Bool.not_eq_true' _).mp taken.1,taken.2⟩
  exact ⟨s,of_decide_eq_true seen,(sessions_clean vacant_initial).1 path⟩

-- The directory is not to be had when the controller registers: its session
-- returns and its device stays online.
theorem unlisted_session_lingers : ¬ ∀ env origin actions s, Initial origin → Runs env origin actions s → s.Clean := by
  intro claimed
  obtain ⟨s,path,seen⟩ := Transition.run_reaches (execute volatile) vacant
    (opening 100 10 speaker ++ [.session 100 0 .done,.session 100 0 .done,.session 100 0 .failed])
    (fun s => (s.sessions[(100 : Uuid)]?).any fun session => session.phase.stage = .returned &&
      (s.registry[(10 : Uuid)]?).any fun active => active.connectionId = 100) (by decide)
  obtain ⟨session,found,seen⟩ := (Option.any_eq_true _ _).mp seen
  obtain ⟨gone,seen⟩ := (Bool.and_eq_true _ _).mp seen
  obtain ⟨active,held,mine⟩ := (Option.any_eq_true _ _).mp seen
  exact claimed _ _ _ s vacant_initial path 100 session 10 active found (stage_returned.mp (of_decide_eq_true gone)) held
    (of_decide_eq_true mine)

end ControlPlane
end DeviceControl
