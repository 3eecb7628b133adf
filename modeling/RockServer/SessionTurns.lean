import RockServer.SessionCourse

namespace DeviceControl

-- What others can tell of a session: whose it is, its rights, how far it got
-- and which handover it waits for.
structure Standing where
  user : Uuid
  device : Uuid
  scopes : List DeviceControlScope
  stage : Stage
  pass : Option (Nat × Uuid)
  order : Option Nat

def ControlSession.standing (id : Uuid) (session : ControlSession) : Standing :=
  ⟨session.userId,session.deviceId,session.scopes,session.phase.stage,session.phase.pass id,session.order⟩

namespace ControlPlane

def standing (s : ControlPlane) (id : Uuid) : Option Standing := (s.sessions[id]?).map (ControlSession.standing id)

-- One session moves and the others stand as they stood.
def Places (s s' : ControlPlane) (id : Uuid) (st : Standing) : Prop :=
  ∀ j, s'.standing j = if id = j then some st else s.standing j

-- The life of generations, step by step: how the sessions stand, which entries
-- are live and what was published.
inductive Turn (env : PlaneEnv) (s s' : ControlPlane) : Action → Prop where
  | still {action} : (∀ j, s'.standing j = s.standing j) → s'.live = s.live → s'.presences = s.presences →
      Turn env s s' action
  | connected {id user device} : s.standing id = none → user = env.owner device →
      Places s s' id ⟨user,device,[],.waiting,none,none⟩ → s'.live = s.live → s'.presences = s.presences →
      Turn env s s' (.connect id user device)
  | moved {id now event st} pass : s.standing id = some st → Places s s' id {st with pass := pass} →
      s'.live = s.live → s'.presences = s.presences → Turn env s s' (.session id now event)
  | online {id now event st} : s.standing id = some st → st.stage = .waiting →
      Places s s' id {st with stage := .arriving} → s'.live = s.live →
      s'.presences = s.presences ++ [(st.user,st.device,true)] → Turn env s s' (.session id now event)
  | abandoned {id now event st} : s.standing id = some st → st.stage = .waiting ∨ st.stage = .arriving →
      Places s s' id {st with stage := .returned, pass := none} → s'.live = s.live → s'.presences = s.presences →
      Turn env s s' (.session id now event)
  | joined {id now event st} manifest pass : s.standing id = some st → st.stage = .arriving →
      Places s s' id {st with scopes := grantedScopes manifest, stage := .present, pass := pass, order := some s.registrations} →
      s'.live = s.live.insert st.device ⟨st.user,id,manifest,grantedScopes manifest⟩ → s'.presences = s.presences →
      Turn env s s' (.session id now event)
  | adopted {id now event session manifest} : s.sessions[id]? = some session → session.phase = .adopting manifest →
      Places s s' id (session.standing id) →
      (s'.live = s.live ∧ ¬ s.owns session.deviceId id ∨ ∃ g : LiveGeneration, s.live[session.deviceId]? = some g ∧
        g.connectionId = id ∧ s'.live = s.live.insert session.deviceId {g with manifest := manifest}) →
      s'.presences = s.presences → Turn env s s' (.session id now event)
  | unconfirmed {id now session} : s.sessions[id]? = some session → session.phase = .confirming →
      Places s s' id {session.standing id with stage := .returned, pass := none} →
      (s'.live = s.live ∧ ¬ s.owns session.deviceId id ∨
        s'.live = s.live.erase session.deviceId ∧ s.owns session.deviceId id) →
      s'.presences = s.presences → Turn env s s' (.session id now .failed)
  | unlisted {id now session} : s.sessions[id]? = some session → session.phase = .listing →
      Places s s' id {session.standing id with stage := .returned, pass := none} → s'.live = s.live →
      s'.presences = s.presences → Turn env s s' (.session id now .failed)
  | closed {id now event st} : s.standing id = some st → st.stage = .present → s.owns st.device id →
      Places s s' id {st with stage := .departing, pass := some (s.router.tasks.length,id)} →
      s'.live = s.live.erase st.device → s'.presences = s.presences → Turn env s s' (.session id now event)
  | left {id now event st} : s.standing id = some st → st.stage = .present → ¬ s.owns st.device id →
      Places s s' id {st with stage := .returned, pass := none} → s'.live = s.live → s'.presences = s.presences →
      Turn env s s' (.session id now event)
  | offline {id now event session} : s.sessions[id]? = some session → session.phase = .retracting →
      Places s s' id {session.standing id with stage := .returned, pass := none} → s'.live = s.live →
      s'.presences = s.presences ++ [(session.userId,session.deviceId,false)] → Turn env s s' (.session id now event)
  | revoked {user device g} : s.live[device]? = some g → g.userId = user → (∀ j, s'.standing j = s.standing j) →
      s'.live = s.live.erase device → s'.presences = s.presences → Turn env s s' (.revoke user device)

variable {env : PlaneEnv} {s s' : ControlPlane} {id j : Uuid} {session session' : ControlSession} {now : Instant}
  {action : Action}

theorem standing_of (found : s.sessions[id]? = some session) : s.standing id = some (session.standing id) := by
  unfold standing
  rw [found,Option.map_some]

theorem standing_only {st : Standing} (found : s.sessions[id]? = some session) (standing : s.standing id = some st) :
    st = session.standing id := by
  rw [standing_of found] at standing
  exact (Option.some.inj standing).symm

theorem standing_insert (sessions : s'.sessions = s.sessions.insert id session) :
    s'.standing j = if id = j then some (session.standing id) else s.standing j := by
  unfold standing
  rw [sessions,Table.get_insert]
  split
  · rename_i same
    rw [same]
    rfl
  · rfl

theorem setSession_standing :
    (s.setSession id session).standing j = if id = j then some (session.standing id) else s.standing j :=
  standing_insert rfl

theorem notify_standing {connection : Uuid} {reason : DisconnectReason} :
    (s.notify connection reason).standing j = s.standing j := by
  unfold notify
  split
  · rfl
  · rename_i told found
    rw [setSession_standing]
    split
    · rename_i same
      rw [← same,standing_of found]
      rfl
    · rfl

@[simp] theorem notify_router (connection : Uuid) (reason : DisconnectReason) :
    (s.notify connection reason).router = s.router := by
  unfold notify
  split <;> rfl

@[simp] theorem notify_hub (connection : Uuid) (reason : DisconnectReason) : (s.notify connection reason).hub = s.hub := by
  unfold notify
  split <;> rfl

@[simp] theorem notify_orphans (connection : Uuid) (reason : DisconnectReason) :
    (s.notify connection reason).orphans = s.orphans := by
  unfold notify
  split <;> rfl

theorem leave_standing : (s.leave id session).standing j =
    if id = j then some (ControlSession.standing id {session with phase := .returned}) else s.standing j :=
  standing_insert rfl

-- A registration: the new generation holds its device, and its session waits
-- for the handover of the one it replaced, if any.
def joined (s : ControlPlane) (session : ControlSession) (manifest : DeviceManifest) : ControlSession :=
  {session with manifest := manifest, scopes := grantedScopes manifest, order := some s.registrations}

def registered (s : ControlPlane) (id : Uuid) (session : ControlSession) (manifest : DeviceManifest) : ControlPlane :=
  let connection : ActiveConnection := ⟨session.userId,id,⟨[],false⟩,manifest,grantedScopes manifest⟩
  {s.setRegistry (s.registry.insert session.deviceId connection) with registrations := s.registrations + 1}

theorem join_first {manifest : DeviceManifest} (absent : s.registry[session.deviceId]? = none) :
    s.join env id session manifest = (s.registered id session manifest).enter id (s.joined session manifest) .announcing := by
  simp only [join,ConnectionRegistry.register,absent,Option.map_none]
  rfl

theorem join_again {manifest : DeviceManifest} {previous : ActiveConnection}
    (found : s.registry[session.deviceId]? = some previous) : s.join env id session manifest =
      ((((s.registered id session manifest).notify previous.connectionId .replaced).call
        (disconnected env previous.userId session.deviceId previous.connectionId)).enter id (s.joined session manifest)
          (.replacing s.router.tasks.length previous.connectionId)) := by
  simp only [join,ConnectionRegistry.register,found,Option.map_some]
  rfl

theorem registered_live (manifest : DeviceManifest) : (s.registered id session manifest).live =
    s.live.insert session.deviceId ⟨session.userId,id,manifest,grantedScopes manifest⟩ :=
  ConnectionRegistry.live_insert _

theorem join_live (manifest : DeviceManifest) : (s.join env id session manifest).live =
    s.live.insert session.deviceId ⟨session.userId,id,manifest,grantedScopes manifest⟩ := by
  rw [← registered_live]
  cases found : s.registry[session.deviceId]? with
  | none =>
    rw [join_first found]
    rfl
  | some previous =>
    rw [join_again found]
    exact congrArg (fun router => router.registry.live) (notify_router previous.connectionId .replaced)

theorem join_hub (manifest : DeviceManifest) : (s.join env id session manifest).hub = s.hub := by
  cases found : s.registry[session.deviceId]? with
  | none =>
    rw [join_first found]
    rfl
  | some previous =>
    rw [join_again found]
    exact notify_hub previous.connectionId .replaced

theorem join_store (manifest : DeviceManifest) : (s.join env id session manifest).router.store = s.router.store := by
  cases found : s.registry[session.deviceId]? with
  | none =>
    rw [join_first found]
    rfl
  | some previous =>
    rw [join_again found]
    exact congrArg (fun router => router.store) (notify_router previous.connectionId .replaced)

-- A session that replaced another waits for the handover of that one.
theorem rejoined_standing {manifest : DeviceManifest} {previous : ActiveConnection}
    (found : s.registry[session.deviceId]? = some previous) : (s.join env id session manifest).standing j = if id = j then
      some ⟨session.userId,session.deviceId,grantedScopes manifest,.present,
        some (s.router.tasks.length,previous.connectionId),some s.registrations⟩
      else s.standing j := by
  rw [join_again found]
  let told := (s.registered id session manifest).notify previous.connectionId .replaced
  refine (standing_insert (s:=told) rfl).trans ?_
  split
  · rfl
  · exact notify_standing

theorem join_standing (env : PlaneEnv) (s : ControlPlane) (id : Uuid) (session : ControlSession)
    (manifest : DeviceManifest) : ∃ pass, ∀ j, (s.join env id session manifest).standing j =
    if id = j then some ⟨session.userId,session.deviceId,grantedScopes manifest,.present,pass,some s.registrations⟩
      else s.standing j := by
  cases found : s.registry[session.deviceId]? with
  | none =>
    rw [join_first found]
    exact ⟨none,fun j => (standing_insert (s:=s) rfl).trans rfl⟩
  | some previous => exact ⟨some (s.router.tasks.length,previous.connectionId),fun j => rejoined_standing found⟩

theorem revoke_cases (user device : Uuid) :
    s.revoke user device = s ∧ (∀ g : LiveGeneration, s.live[device]? = some g → g.userId ≠ user) ∨
    ∃ g : LiveGeneration, s.live[device]? = some g ∧ g.userId = user ∧
      s.revoke user device = (s.setRegistry (s.registry.erase device)).notify g.connectionId .revoked := by
  unfold revoke
  split
  · rename_i absent
    exact .inl ⟨rfl,ConnectionRegistry.unheld_live absent⟩
  · rename_i active found
    obtain ⟨here,mine⟩ := ConnectionRegistry.held_live found
    refine .inr ⟨active.live,here,mine,?_⟩
    unfold ConnectionRegistry.revoke
    rw [found]
    rfl

theorem left_places : Places s (s.leave id session) id {session.standing id with stage := .returned, pass := none} :=
  fun _ => leave_standing

theorem disconnect_turn (s : ControlPlane) (id : Uuid) (session : ControlSession) : (s.registry.disconnect session.deviceId id).1.live = s.live ∧
      (s.registry.disconnect session.deviceId id).2 = false ∧ ¬ s.owns session.deviceId id ∨
    (s.registry.disconnect session.deviceId id).1.live = s.live.erase session.deviceId ∧
      (s.registry.disconnect session.deviceId id).2 = true ∧ s.owns session.deviceId id :=
  ConnectionRegistry.disconnect_live

theorem step_turn (taken : Step env s action s') : Turn env s s' action := by
  cases step_course taken with
  | idle untouched sessions =>
    exact .still (fun j => by unfold standing; rw [sessions]) untouched.live untouched.presences
  | routed found ran =>
    have kept := advance_live ran
    exact .still (fun _ => rfl) kept rfl
  | @connected id user device absent mine =>
    refine .connected ?_ mine (fun j => (standing_insert (s:=s) rfl).trans rfl) rfl rfl
    unfold standing
    rw [absent,Option.map_none]
  | @moved id now event session session' s' found next sessions untouched =>
    refine .moved (session'.phase.pass id) (standing_of found) (fun j => (standing_insert sessions).trans ?_)
      untouched.live untouched.presences
    unfold ControlSession.standing
    rw [next.user,next.device,next.scopes,next.stage,next.order]
  | @online id now event session found here =>
    refine .online (standing_of found) (congrArg Phase.stage here) (fun j => (standing_insert (s:=s) rfl).trans ?_) rfl
      (publishPresence_presences _ _ _)
    unfold ControlSession.standing
    rw [here]
    rfl
  | abandoned found stage => exact .abandoned (standing_of found) stage left_places leave_live rfl
  | @joined id now event session manifest found here =>
    obtain ⟨pass,places⟩ := join_standing env s id session manifest
    refine .joined manifest pass (standing_of found) (congrArg Phase.stage here) places (join_live manifest) ?_
    unfold presences
    rw [join_hub]
  | @adopted id now event session manifest found here =>
    refine .adopted found here (fun j => (standing_insert (s:=s) rfl).trans ?_) ?_ rfl
    · unfold ControlSession.standing
      rw [here]
      rfl
    · exact ConnectionRegistry.updateManifest_live manifest
  | @unconfirmed id now session found here =>
    refine .unconfirmed found here left_places ?_ rfl
    rw [leave_live]
    rcases disconnect_turn s id session with ⟨kept,_,absent⟩ | ⟨gone,_,owned⟩
    · exact .inl ⟨kept,absent⟩
    · exact .inr ⟨gone,owned⟩
  | unlisted found here => exact .unlisted found here left_places leave_live rfl
  | @closed id now event session reason registry found here removed =>
    rcases disconnect_turn s id session with ⟨_,refused,_⟩ | ⟨gone,_,owned⟩
    · rw [removed] at refused
      cases refused
    · rw [removed] at gone
      exact .closed (standing_of found) (congrArg Phase.stage here) owned (fun j => (standing_insert (s:=s) rfl).trans rfl) gone
        rfl
  | @left id now event session reason found here absent =>
    rcases disconnect_turn s id session with ⟨_,_,unowned⟩ | ⟨_,done,_⟩
    · exact .left (standing_of found) (congrArg Phase.stage here) unowned left_places leave_live rfl
    · rw [absent] at done
      cases done
  | @offline id now event session found here =>
    refine .offline found here left_places leave_live ?_
    exact publishPresence_presences _ _ _
  | @revoked user device =>
    rcases revoke_cases (s:=s) user device with ⟨same,_⟩ | ⟨g,here,mine,changed⟩
    · rw [same]
      exact .still (fun _ => rfl) rfl rfl
    · rw [changed]
      refine .revoked here mine (fun j => notify_standing) ?_ ?_
      · unfold live registry
        rw [notify_router]
        exact ConnectionRegistry.live_erase
      · unfold presences
        rw [notify_hub]
        rfl

end ControlPlane
end DeviceControl
