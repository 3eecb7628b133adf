import RockServer.FactTurns

namespace DeviceControl
namespace ControlPlane

variable {env : PlaneEnv} {s s' : ControlPlane} {id j : Uuid} {session session' : ControlSession} {now : Instant}
  {event : SessionEvent} {action : Action}

-- Another session of the device registered after this one.
def superseded (s : ControlPlane) (id : Uuid) : Bool := (s.sessions[id]?).any fun session =>
  s.sessions.toList.any fun (_,other) => other.deviceId = session.deviceId &&
    session.order.any fun earlier => other.order.any fun later => earlier < later

-- A superseded session takes its notice before any further fact, and a
-- registration waits for the facts that the device's other sessions are at.
def fenced (env : PlaneEnv) (s : ControlPlane) : Action → Bool
  | .session id now event => match s.sessions[id]? with
    | none => true
    | some session => match session.phase,event with
      | .joining _,_ => s.sessions.toList.all fun (_,other) => other.deviceId ≠ session.deviceId || !other.phase.writing
      | _,.frame frame => !s.superseded id || !s.taken env session now frame
      | _,_ => true
  | _ => true

def rank (s : ControlPlane) (id : Uuid) : Option (Uuid × Option Nat) :=
  (s.face id).map fun session => (session.deviceId,session.order)

theorem superseded_iff : s.superseded id = true ↔ ∃ device earlier j later, s.rank id = some (device,some earlier) ∧
    s.rank j = some (device,some later) ∧ earlier < later := by
  unfold superseded rank face
  rw [Option.any_eq_true]
  constructor
  · rintro ⟨session,found,newer⟩
    obtain ⟨⟨j,other⟩,listed,facts⟩ := List.any_eq_true.mp newer
    simp only [Bool.and_eq_true,decide_eq_true_iff,Option.any_eq_true] at facts
    obtain ⟨same,earlier,mine,later,theirs,newer⟩ := facts
    refine ⟨session.deviceId,earlier,j,later,?_,?_,newer⟩
    · rw [found]
      exact congrArg (fun order => some (session.deviceId,order)) mine
    · rw [Table.mem_entries.mp listed,← same]
      exact congrArg (fun order => some (other.deviceId,order)) theirs
  · rintro ⟨device,earlier,j,later,mine,theirs,newer⟩
    simp only [Option.map_map,Option.map_eq_some_iff] at mine theirs
    obtain ⟨session,found,mine⟩ := mine
    obtain ⟨other,listed,theirs⟩ := theirs
    obtain ⟨device_eq,order_eq⟩ := Prod.mk.inj mine
    obtain ⟨device_eq',order_eq'⟩ := Prod.mk.inj theirs
    refine ⟨session,found,List.any_eq_true.mpr ⟨(j,other),Table.mem_entries.mpr listed,?_⟩⟩
    simp only [Bool.and_eq_true,decide_eq_true_iff,Option.any_eq_true]
    exact ⟨device_eq'.trans device_eq.symm,earlier,order_eq,later,order_eq',newer⟩

-- Sessions are numbered as they register, those that have not are not, and no
-- superseded session is at a fact.
structure Fenced (s : ControlPlane) : Prop where
  numbered : ∀ j device order, s.rank j = some (device,some order) → order < s.registrations
  unnumbered : ∀ j st, s.standing j = some st → st.stage = .waiting ∨ st.stage = .arriving → st.order = none
  idle : ∀ j session, s.face j = some session → s.superseded j = true → session.phase.writing = false

theorem rank_faces (faces : Faces s s' id session) :
    s'.rank j = if id = j then some (session.deviceId,session.order) else s.rank j := by
  unfold rank
  rw [faces]
  split <;> rfl

theorem rank_of (found : s.sessions[id]? = some session) : s.rank id = some (session.deviceId,session.order) := by
  unfold rank
  rw [face_of found]
  rfl

-- A session that keeps its place keeps everyone's.
theorem rank_kept (found : s.sessions[id]? = some session) (faces : Faces s s' id session')
    (device : session'.deviceId = session.deviceId) (order : session'.order = session.order) (j : Uuid) :
    s'.rank j = s.rank j := by
  rw [rank_faces faces]
  split
  · rename_i same
    rw [← same,rank_of found,device,order]
  · rfl

theorem superseded_kept (ranks : ∀ j, s'.rank j = s.rank j) (j : Uuid) : s'.superseded j = s.superseded j := by
  rw [Bool.eq_iff_iff,superseded_iff,superseded_iff]
  simp only [ranks]

theorem initial_fenced (start : Initial s) : Fenced s := by
  refine ⟨fun j device order found => ?_,fun j st found => ?_,fun j session found => ?_⟩
  · simp [rank,face,start.sessions] at found
  · simp [standing,start.sessions] at found
  · simp [face,start.sessions] at found

-- The condition at the steps that take something up.
theorem fenced_frame (found : s.sessions[id]? = some session) (older : s.superseded id = true)
    {frame : DeviceControl.Frame} (met : s.fenced env (.session id now (.frame frame)) = true)
    (settled : session.phase.stage ≠ .arriving) : s.taken env session now frame = false := by
  simp only [fenced,found] at met
  split at met
  · rename_i here
    rw [here] at settled
    exact absurd rfl settled
  · simp_all
  · simp_all

theorem fenced_joined {manifest : DeviceManifest} (found : s.sessions[id]? = some session)
    (here : session.phase = .joining manifest) (met : s.fenced env (.session id now event) = true) {other : ControlSession}
    (listed : s.face j = some other) (same : other.deviceId = session.deviceId) : other.phase.writing = false := by
  simp only [fenced,found,here,List.all_eq_true] at met
  obtain ⟨held,there,rfl⟩ := Option.map_eq_some_iff.mp listed
  have same : held.deviceId = session.deviceId := same
  have apart := met (j,held) (Table.mem_entries.mpr there)
  simp [same] at apart
  exact apart

theorem Fenced.settled (fenced : Fenced s) (found : s.sessions[id]? = some session) (older : s.superseded id = true) :
    session.phase.stage ≠ .arriving := by
  intro arriving
  obtain ⟨device,earlier,_,_,mine,_⟩ := superseded_iff.mp older
  rw [rank_of found] at mine
  have unnumbered : session.order = none := fenced.unnumbered id _ (standing_of found) (.inr arriving)
  rw [unnumbered] at mine
  cases mine

-- The frame rule: one session keeps its place and takes up what the condition
-- lets it.
theorem Fenced.idle_kept (fenced : Fenced s) (found : s.sessions[id]? = some session) (faces : Faces s s' id session')
    (device : session'.deviceId = session.deviceId) (order : session'.order = session.order)
    (takes : Takes env s session now event session') (met : s.fenced env (.session id now event) = true) :
    ∀ j other, s'.face j = some other → s'.superseded j = true → other.phase.writing = false := by
  intro j other listed older
  rw [superseded_kept (rank_kept found faces device order)] at older
  rw [faces] at listed
  split at listed
  · rename_i same
    subst same
    cases listed
    refine Bool.eq_false_iff.mpr fun writes => ?_
    rcases takes.writing writes with before | ⟨frame,rfl,let_through⟩
    · have idle : session.face.phase.writing = false := fenced.idle id _ (face_of found) older
      have idle : session.phase.writing = false := idle
      rw [idle] at before
      cases before
    · rw [fenced_frame found older met (fenced.settled found older)] at let_through
      cases let_through
  · exact fenced.idle j other listed older

theorem unnumbered_step (fenced : Fenced s) (taken : Step env s action s') (j : Uuid) (st : Standing)
    (found' : s'.standing j = some st) (early : st.stage = .waiting ∨ st.stage = .arriving) : st.order = none := by
  -- A session that moves was not numbered before, or is not early.
  have moved {id : Uuid} {st' : Standing} (places : Places s s' id st')
      (mine : st'.stage = .waiting ∨ st'.stage = .arriving → st'.order = none) : st.order = none := by
    rw [places] at found'
    split at found'
    · cases found'
      exact mine early
    · exact fenced.unnumbered j st found' early
  cases step_turn taken with
  | still standing _ _ => exact fenced.unnumbered j st (standing j ▸ found') early
  | connected _ _ places _ _ => exact moved places fun _ => rfl
  | moved pass found places _ _ =>
    have unnumbered := fenced.unnumbered _ _ found
    exact moved places unnumbered
  | online found waiting places _ _ =>
    have unnumbered := fenced.unnumbered _ _ found (.inl waiting)
    exact moved places fun _ => unnumbered
  | abandoned _ _ places _ _ => exact moved places fun late => by simp at late
  | joined manifest pass _ _ places _ _ => exact moved places fun late => by simp at late
  | adopted found _ places _ _ => exact moved places (fenced.unnumbered _ _ (standing_of found))
  | unconfirmed _ _ places _ _ => exact moved places fun late => by simp at late
  | unlisted _ _ places _ _ => exact moved places fun late => by simp at late
  | closed _ _ _ places _ _ => exact moved places fun late => by simp at late
  | left _ _ _ places _ _ => exact moved places fun late => by simp at late
  | offline _ _ places _ _ => exact moved places fun late => by simp at late
  | revoked _ _ standing _ _ => exact fenced.unnumbered j st (standing j ▸ found') early

theorem numbered_step (fenced : Fenced s) (taken : Step env s action s') (j device : Uuid) (order : Nat)
    (found' : s'.rank j = some (device,some order)) : order < s'.registrations := by
  have kept (ranks : s'.rank j = s.rank j) (registrations : s'.registrations = s.registrations) :
      order < s'.registrations := by
    rw [registrations]
    exact fenced.numbered j device order (ranks ▸ found')
  cases step_facts taken with
  | still faces registrations _ =>
    refine kept ?_ registrations
    unfold rank
    rw [faces]
  | connected _ faces registrations _ =>
    rw [rank_faces faces] at found'
    split at found'
    · cases found'
    · rw [registrations]
      exact fenced.numbered j device order found'
  | went found faces device order _ registrations _ => exact kept (rank_kept found faces device.2 order j) registrations
  | joined found _ joins registrations _ =>
    obtain ⟨session',faces,_,_,_,newest⟩ := joins
    rw [rank_faces faces,newest] at found'
    split at found'
    · cases found'
      omega
    · have earlier := fenced.numbered j device order found'
      omega
  | wrote found _ faces device order _ registrations _ _ => exact kept (rank_kept found faces device.2 order j) registrations
  | @published id now event session report entities found _ same =>
    subst same
    have faces : Faces s (s.publishEntity id session report entities) id {session with phase := .serving} :=
      face_insert _ rfl
    exact kept (rank_kept found faces rfl rfl j) rfl

theorem idle_step (fenced : Fenced s) (taken : Step env s action s') (met : s.fenced env action = true) (j : Uuid)
    (other : ControlSession) (listed : s'.face j = some other) (older : s'.superseded j = true) :
    other.phase.writing = false := by
  cases step_facts taken with
  | still faces _ _ =>
    have ranks (j : Uuid) : s'.rank j = s.rank j := by
      unfold rank
      rw [faces]
    rw [superseded_kept ranks] at older
    exact fenced.idle j other (faces j ▸ listed) older
  | @connected id user device absent faces _ _ =>
    obtain ⟨place,earlier,i,later,mine,theirs,newer⟩ := superseded_iff.mp older
    rw [rank_faces faces] at mine theirs
    rw [faces] at listed
    split at listed
    · cases listed
      rfl
    · rename_i apart
      rw [if_neg apart] at mine
      split at theirs
      · cases theirs
      · exact fenced.idle j other listed (superseded_iff.mpr ⟨place,earlier,i,later,mine,theirs,newer⟩)
  | went found faces device order takes _ _ => exact fenced.idle_kept found faces device.2 order takes met j other listed older
  | @joined id now event session manifest found here joins _ _ =>
    obtain ⟨session',faces,device,quiet,_,newest⟩ := joins
    obtain ⟨place,earlier,i,later,mine,theirs,newer⟩ := superseded_iff.mp older
    rw [rank_faces faces] at mine theirs
    rw [faces] at listed
    split at listed
    · cases listed
      exact quiet
    · rename_i apart
      rw [if_neg apart] at mine
      split at theirs
      · have same : session'.deviceId = place := congrArg Prod.fst (Option.some.inj theirs)
        have mine : other.deviceId = place := by
          unfold rank at mine
          rw [listed] at mine
          exact congrArg Prod.fst (Option.some.inj mine)
        exact fenced_joined found here met listed (mine.trans (same.symm.trans device))
      · exact fenced.idle j other listed (superseded_iff.mpr ⟨place,earlier,i,later,mine,theirs,newer⟩)
  | wrote found _ faces device order takes _ _ _ =>
    exact fenced.idle_kept found faces device.2 order takes met j other listed older
  | @published id now event session report entities found here same =>
    subst same
    have faces : Faces s (s.publishEntity id session report entities) id {session with phase := .serving} :=
      face_insert _ rfl
    exact fenced.idle_kept found faces rfl rfl (.calm rfl rfl) met j other listed older

theorem fenced_step (fenced : Fenced s) (taken : Step env s action s') (met : s.fenced env action = true) : Fenced s' :=
  ⟨numbered_step fenced taken,unnumbered_step fenced taken,idle_step fenced taken met⟩

-- Along a run whose steps all meet the condition, a session that a newer one of
-- its device superseded leaves every fact alone.
theorem superseded_writes_nothing {origin : ControlPlane} {actions : List Action} (start : Initial origin)
    (path : Transition.Runs (Transition.Under (fun s a => s.fenced env a = true) (Step env)) origin actions s)
    (older : s.superseded id = true) (taken : Step env s (.session id now event) s') : Unwritten s s' := by
  have fenced : Fenced s := path.invariant Fenced (initial_fenced start) fun _ _ _ fenced taken =>
    fenced_step fenced taken.2 taken.1
  cases step_facts taken with
  | still _ _ unwritten => exact unwritten
  | went _ _ _ _ _ _ unwritten => exact unwritten
  | joined _ _ _ _ unwritten => exact unwritten
  | wrote found writes _ _ _ _ _ _ _ =>
    rcases writes with writing | arriving
    · have idle := fenced.idle id _ (face_of found) older
      exact absurd (idle.symm.trans writing) Bool.false_ne_true
    · exact absurd arriving (fenced.settled found older)
  | published found here _ =>
    have idle := fenced.idle id _ (face_of found) older
    exact absurd (idle.symm.trans (congrArg Phase.writing here)) Bool.false_ne_true

-- One device connects twice; the first session is serving when the second
-- registers.
def reconnection : List Action :=
  opening 100 10 speaker ++ List.replicate 3 (.session 100 0 .done) ++ opening 200 10 speaker

theorem superseded_writes_nothing_noticed : ∃ s s' : ControlPlane, s.superseded 100 = true ∧
    Step volatile s (.session 100 0 .replacement) s' ∧ Unwritten s s' := by
  obtain ⟨s,path,seen⟩ := Transition.guarded_reaches (fenced volatile) (execute volatile) vacant reconnection
    (fun s => s.superseded 100 && (execute volatile s (.session 100 0 .replacement)).isSome) (by decide)
  obtain ⟨older,next⟩ := (Bool.and_eq_true _ _).mp seen
  obtain ⟨s',taken⟩ := Option.isSome_iff_exists.mp next
  exact ⟨s,s',older,taken,superseded_writes_nothing vacant_initial path older taken⟩

def quietVolume : DeviceStateSnapshot := ⟨1,⟨"1970-01-01T00:00:01Z",seconds 1⟩,none,⟨none,some ⟨10,false⟩,none⟩⟩

-- The replaced session picks its next frame before its notice, and publishes.
theorem superseded_publishes : ¬ ∀ env origin actions s id now event s', Initial origin → Runs env origin actions s →
    s.superseded id = true → Step env s (.session id now event) s' → Unwritten s s' := by
  intro claimed
  obtain ⟨s,path,seen⟩ := Transition.run_reaches (execute volatile) vacant
    (reconnection ++ [.session 100 0 (.frame (.stateFull quietVolume)),.session 100 0 .done])
    (fun s => s.superseded 100 && (execute volatile s (.session 100 0 .done)).any fun s' =>
      s.hub.deviceState 1 ⟨10⟩ = none && s'.hub.deviceState 1 ⟨10⟩ = some quietVolume) (by decide)
  obtain ⟨older,next⟩ := (Bool.and_eq_true _ _).mp seen
  obtain ⟨s',taken,told⟩ := (Option.any_eq_true _ _).mp next
  obtain ⟨before,after⟩ := (Bool.and_eq_true _ _).mp told
  have same := (claimed volatile vacant _ s 100 0 .done s' vacant_initial path older taken).state
  have before := of_decide_eq_true before
  have after := of_decide_eq_true after
  unfold StateHub.deviceState at before after
  rw [same,before] at after
  cases after

end ControlPlane
end DeviceControl
