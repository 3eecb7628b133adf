import RockServer.SessionCleanup

namespace DeviceControl

-- The rights that the directory endpoint computes from the stored manifest.
def directoryScopes (store : StoreState) (user device : Uuid) : Option (List DeviceControlScope) :=
  (store.loadManifest user ⟨device⟩).map grantedScopes

theorem grantedScopes_same {manifest manifest' : DeviceManifest} : grantedScopes manifest = grantedScopes manifest' ↔
    (DeviceRole.controller ∈ manifest.roles ↔ DeviceRole.controller ∈ manifest'.roles) := by
  unfold grantedScopes
  split
  · split <;> simp [*]
  · split <;> simp [*]

namespace ControlPlane

variable {env : PlaneEnv} {s s' : ControlPlane} {id : Uuid} {session : ControlSession} {now : Instant}
  {action : Action}

-- Whoever asks for the rights of a live device gets those of its manifest: the
-- router reads the entry, and the directory stream its session. The endpoint reads
-- the stored manifest, and `directory` speaks only of the entries whose stored
-- manifest is the registry's.
structure ScopesFollow (s : ControlPlane) : Prop where
  entry : ∀ (device : Uuid) (active : ActiveConnection), s.registry[device]? = some active →
    active.scopes = grantedScopes active.manifest
  stream : ∀ (device : Uuid) (active : ActiveConnection) (session : ControlSession), s.registry[device]? = some active →
    s.sessions[active.connectionId]? = some session → session.scopes = grantedScopes active.manifest
  directory : ∀ (device : Uuid) (active : ActiveConnection), s.registry[device]? = some active →
    s.router.store.loadManifest active.userId ⟨device⟩ = some active.manifest →
    directoryScopes s.router.store active.userId device = some active.scopes

-- A manifest that takes over an entry has to agree with the declared one about
-- the controller's role.
def keepsRole (s : ControlPlane) : Action → Bool
  | .session id _ _ => match s.sessions[id]? with
    | none => true
    | some session => match session.phase with
      | .adopting manifest => (s.registry.generation session.deviceId id).all fun active =>
        decide (DeviceRole.controller ∈ manifest.roles ↔ DeviceRole.controller ∈ active.manifest.roles)
      | _ => true
  | _ => true

theorem scopes_follow_iff (wired : Wired env s) : s.ScopesFollow ↔
    ∀ (device : Uuid) (g : LiveGeneration), s.live[device]? = some g → g.scopes = grantedScopes g.manifest := by
  have shown {device : Uuid} {active : ActiveConnection} (there : s.registry[device]? = some active) :
      s.live[device]? = some active.live := live_some.mpr ⟨active,there,rfl⟩
  constructor
  · intro follow device g here
    obtain ⟨active,there,rfl⟩ := live_some.mp here
    exact follow.entry device active there
  · intro follow
    refine ⟨fun device active there => follow device _ (shown there),fun device active session there found => ?_,
      fun device active there loaded => ?_⟩
    · exact (wired.entry (standing_of found) (shown there) rfl).scopes.trans (follow device _ (shown there))
    · unfold directoryScopes
      rw [loaded]
      exact congrArg some (follow device _ (shown there)).symm

-- The step rule for the condition: a manifest that its session adopts.
theorem keepsRole_adopted {manifest : DeviceManifest} {event : SessionEvent} (found : s.sessions[id]? = some session)
    (here : session.phase = .adopting manifest) {g : LiveGeneration} (held : s.live[session.deviceId]? = some g)
    (mine : g.connectionId = id) :
    s.keepsRole (.session id now event) = true ↔ grantedScopes manifest = grantedScopes g.manifest := by
  obtain ⟨active,there,rfl⟩ := live_some.mp held
  have generation : s.registry.generation session.deviceId id = some active :=
    ConnectionRegistry.generation_some.mpr ⟨there,mine⟩
  unfold keepsRole
  simp only [found,here,generation,Option.all_some]
  rw [decide_eq_true_iff,grantedScopes_same]
  exact Iff.rfl

theorem follow_step (wired : Wired env s) (follow : s.ScopesFollow) (taken : Step env s action s')
    (kept : s.keepsRole action = true) : s'.ScopesFollow := by
  have follow := (scopes_follow_iff wired).mp follow
  refine (scopes_follow_iff (wired_step wired taken)).mpr fun device g here => ?_
  cases step_turn taken with
  | still _ live _ => exact follow device g (live ▸ here)
  | connected _ _ _ live _ => exact follow device g (live ▸ here)
  | moved _ _ _ live _ => exact follow device g (live ▸ here)
  | online _ _ _ live _ => exact follow device g (live ▸ here)
  | abandoned _ _ _ live _ => exact follow device g (live ▸ here)
  | joined manifest pass _ _ _ live _ =>
    rw [live,Table.get_insert] at here
    split at here
    · cases here
      rfl
    · exact follow device g here
  | adopted found phase _ live _ =>
    rcases live with ⟨same,_⟩ | ⟨old,there,own,updated⟩
    · exact follow device g (same ▸ here)
    · rw [updated,Table.get_insert] at here
      split at here
      · cases here
        have agreed := (keepsRole_adopted found phase there own).mp kept
        exact (follow _ old there).trans agreed.symm
      · exact follow device g here
  | unconfirmed _ _ _ live _ =>
    rcases live with ⟨same,_⟩ | ⟨gone,_⟩
    · exact follow device g (same ▸ here)
    · exact follow device g (Table.get_erase_some (gone ▸ here)).2
  | unlisted _ _ _ live _ => exact follow device g (live ▸ here)
  | closed _ _ _ _ live _ => exact follow device g (Table.get_erase_some (live ▸ here)).2
  | left _ _ _ _ live _ => exact follow device g (live ▸ here)
  | offline _ _ _ live _ => exact follow device g (live ▸ here)
  | revoked _ _ _ live _ => exact follow device g (Table.get_erase_some (live ▸ here)).2

-- Adopting a manifest of the other kind leaves the old rights under it.
theorem stray_step (wired : Wired env s) (follow : s.ScopesFollow) (taken : Step env s action s')
    (stray : s.keepsRole action = false) : ¬ s'.ScopesFollow := by
  intro follow'
  have follow := (scopes_follow_iff wired).mp follow
  have follow' := (scopes_follow_iff (wired_step wired taken)).mp follow'
  have strays := stray
  unfold keepsRole at stray
  split at stray
  · rename_i id now event
    split at stray
    · cases stray
    · rename_i session found
      split at stray
      · rename_i manifest here
        obtain ⟨active,generation,_⟩ := (Option.all_eq_false _ _).mp stray
        rw [step_session found] at taken
        unfold ControlPlane.session at taken
        rw [here] at taken
        cases event with
        | done =>
          cases taken
          have owned : s.owns session.deviceId id := ConnectionRegistry.generation_owns.mp (by rw [generation]; rfl)
          rcases @ConnectionRegistry.updateManifest_live s.registry session.deviceId id manifest with
            ⟨_,absent⟩ | ⟨g,held,mine,updated⟩
          · exact absent owned
          · have shown : (s.registry.updateManifest session.deviceId id manifest).1.live[session.deviceId]? =
                some {g with manifest := manifest} := by rw [updated,Table.get_insert,if_pos rfl]
            have adopted : g.scopes = grantedScopes manifest := follow' session.deviceId _ shown
            have agreed := adopted.symm.trans (follow session.deviceId g held)
            have kept : s.keepsRole (.session id now .done) = true := (keepsRole_adopted found here held mine).mpr agreed
            exact absurd (strays.symm.trans kept) Bool.false_ne_true
        | _ => cases taken
      · cases stray
  · cases stray

-- The scopes follow the manifests all along a run exactly when none of its
-- adopted manifests takes up or drops the controller's role.
theorem scopes_follow {origin : ControlPlane} {actions : List Action} (start : Initial origin) :
    (Transition.Runs (Transition.Under (fun s a => s.keepsRole a = true) (Step env)) origin actions s → s.ScopesFollow) ∧
    (Transition.Runs (fun s a s' => Step env s a s' ∧ s'.ScopesFollow) origin actions s →
      Transition.Runs (Transition.Under (fun s a => s.keepsRole a = true) (Step env)) origin actions s) := by
  have follow : origin.ScopesFollow := by
    have wired : Wired env origin := initial_wired start
    refine (scopes_follow_iff wired).mpr fun device g here => ?_
    simp [live,registry,ConnectionRegistry.live,start.registry] at here
  have exact := @Transition.Runs.exactly ControlPlane Action (Step env) origin s actions (fun s a => s.keepsRole a = true)
    (fun s => Wired env s ∧ s.ScopesFollow) ScopesFollow ⟨initial_wired start,follow⟩
    (fun _ _ _ both taken kept => ⟨wired_step both.1 taken,follow_step both.1 both.2 taken kept⟩)
    (fun _ _ _ both taken follow => Bool.not_eq_false _ ▸ fun stray => stray_step both.1 both.2 taken stray follow)
  exact ⟨fun path => (exact.1 path).2,exact.2⟩

def newerSpeaker : DeviceManifest := {speaker with manifestRevision := 2}

theorem scopes_follow_updated : ∃ s : ControlPlane, (s.registry[(10 : Uuid)]?).any (fun active =>
    active.manifest = newerSpeaker && active.scopes.contains .actuatorControl) = true ∧ s.ScopesFollow := by
  obtain ⟨s,path,seen⟩ := Transition.guarded_reaches keepsRole (execute volatile) vacant
    (opening 100 10 speaker ++ List.replicate 3 (.session 100 0 .done) ++
      [.session 100 0 (.frame (.manifest newerSpeaker)),.session 100 0 .done])
    (fun s => (s.registry[(10 : Uuid)]?).any fun active =>
      active.manifest = newerSpeaker && active.scopes.contains .actuatorControl) (by decide)
  exact ⟨s,seen,(scopes_follow vacant_initial).1 path⟩

-- A player that declares itself a controller goes on without a controller's
-- rights.
theorem declared_controller_unscoped : ¬ ∀ env origin actions s, Initial origin → Runs env origin actions s →
    s.ScopesFollow := by
  intro claimed
  obtain ⟨s,path,seen⟩ := Transition.run_reaches (execute volatile) vacant
    (opening 100 10 {speaker with roles := [.player]} ++ List.replicate 2 (.session 100 0 .done) ++
      [.session 100 0 (.frame (.manifest newerSpeaker)),.session 100 0 .done])
    (fun s => (s.registry[(10 : Uuid)]?).any fun active => active.scopes ≠ grantedScopes active.manifest) (by decide)
  obtain ⟨active,held,apart⟩ := (Option.any_eq_true _ _).mp seen
  exact of_decide_eq_true apart ((claimed _ _ _ s vacant_initial path).entry 10 active held)

end ControlPlane
end DeviceControl
