import Mathlib.Data.List.Induction

namespace Transition
variable {State : Type} {Action : Type}

-- A run lists its actions oldest first. Growth is at the end, so that an
-- induction meets the last step together with everything reached before it.
inductive Runs (step : State → Action → State → Prop) : State → List Action → State → Prop where
  | nil {s} : Runs step s [] s
  | snoc {origin earlier middle action after} : Runs step origin earlier middle →
      step middle action after → Runs step origin (earlier ++ [action]) after

variable {step : State → Action → State → Prop} {before middle after : State}
variable {action : Action} {actions earlier later : List Action}

theorem Runs.single (taken : step before action after) : Runs step before [action] after :=
  (Runs.nil (s:=before)).snoc taken

theorem Runs.append (left : Runs step before earlier middle) (right : Runs step middle later after) :
    Runs step before (earlier ++ later) after := by
  induction right with
  | nil => simpa using left
  | snoc _ taken ih => simpa only [List.append_assoc] using ih.snoc taken

theorem Runs.cons (taken : step before action middle) (rest : Runs step middle actions after) :
    Runs step before (action :: actions) after :=
  (Runs.single taken).append rest

theorem Runs.last (path : Runs step before (actions ++ [action]) after) :
    ∃ middle, Runs step before actions middle ∧ step middle action after := by
  generalize whole : actions ++ [action] = all at path
  cases path with
  | nil => simp at whole
  | snoc rest taken =>
    obtain ⟨rfl,same⟩ := List.append_inj' whole rfl
    cases same
    exact ⟨_,rest,taken⟩

-- A run of a joined list passes through the end of its first part.
theorem Runs.split (path : Runs step before (earlier ++ later) after) :
    ∃ middle, Runs step before earlier middle ∧ Runs step middle later after := by
  induction later using List.reverseRecOn generalizing after with
  | nil =>
    rw [List.append_nil] at path
    exact ⟨after,path,.nil⟩
  | append_singleton rest action ih =>
    rw [← List.append_assoc] at path
    obtain ⟨last,path,taken⟩ := path.last
    obtain ⟨middle,left,right⟩ := ih path
    exact ⟨middle,left,right.snoc taken⟩

theorem Runs.stays (path : Runs step before [] after) : before = after := by
  generalize whole : [] = all at path
  cases path with
  | nil => rfl
  | snoc => simp at whole

theorem Runs.first (path : Runs step before (action :: actions) after) :
    ∃ middle, step before action middle ∧ Runs step middle actions after := by
  rw [← List.singleton_append] at path
  obtain ⟨middle,first,rest⟩ := path.split
  rw [← List.nil_append [action]] at first
  obtain ⟨start,none,taken⟩ := first.last
  cases none.stays
  exact ⟨middle,taken,rest⟩

-- The invariant rule: what holds at the start and survives every step holds
-- wherever a run ends.
theorem Runs.invariant (path : Runs step before actions after) (Inv : State → Prop)
    (start : Inv before) (preserved : ∀ s a s', Inv s → step s a s' → Inv s') : Inv after := by
  induction path with
  | nil => exact start
  | snoc _ taken ih => exact preserved _ _ _ ih taken

theorem Runs.mono {weaker : State → Action → State → Prop} (path : Runs step before actions after)
    (included : ∀ s a s', step s a s' → weaker s a s') : Runs weaker before actions after := by
  induction path with
  | nil => exact .nil
  | snoc _ taken ih => exact ih.snoc (included _ _ _ taken)

-- Steps restricted to those whose earlier state and action meet a condition.
def Under (guard : State → Action → Prop) (step : State → Action → State → Prop) :
    State → Action → State → Prop :=
  fun s a s' => guard s a ∧ step s a s'

-- A condition on single steps that is exact for what they keep: under it a run
-- stays sound, and a run that stays good meets it throughout.
theorem Runs.exactly {guard : State → Action → Prop} {Sound Good : State → Prop} (start : Sound before)
    (sound : ∀ s a s', Sound s → step s a s' → guard s a → Sound s')
    (needed : ∀ s a s', Sound s → step s a s' → Good s' → guard s a) :
    (Runs (Under guard step) before actions after → Sound after) ∧
    (Runs (fun s a s' => step s a s' ∧ Good s') before actions after → Runs (Under guard step) before actions after) := by
  constructor
  · intro path
    exact path.invariant Sound start fun s a s' earlier taken => sound s a s' earlier taken.2 taken.1
  · intro path
    have both : Sound after ∧ Runs (Under guard step) before actions after := by
      induction path with
      | nil => exact ⟨start,.nil⟩
      | snoc _ taken ih =>
        have met := needed _ _ _ ih.1 taken.1 taken.2
        exact ⟨sound _ _ _ ih.1 taken.1 met,ih.2.snoc ⟨met,taken.1⟩⟩
    exact both.2

-- The same for what is asked of each step: the runs that meet the condition are
-- the runs of good steps.
theorem Runs.exact_steps {guard : State → Action → Prop} {Sound : State → Prop} {Good : State → Action → State → Prop} (start : Sound before)
    (sound : ∀ s a s', Sound s → step s a s' → guard s a → Sound s' ∧ Good s a s')
    (needed : ∀ s a s', Sound s → step s a s' → Good s a s' → guard s a) :
    Runs (Under guard step) before actions after ↔ Runs (fun s a s' => step s a s' ∧ Good s a s') before actions after := by
  constructor
  · intro path
    have both : Sound after ∧ Runs (fun s a s' => step s a s' ∧ Good s a s') before actions after := by
      induction path with
      | nil => exact ⟨start,.nil⟩
      | snoc _ taken ih =>
        obtain ⟨kept,good⟩ := sound _ _ _ ih.1 taken.2 taken.1
        exact ⟨kept,ih.2.snoc ⟨taken.2,good⟩⟩
    exact both.2
  · intro path
    have both : Sound after ∧ Runs (Under guard step) before actions after := by
      induction path with
      | nil => exact ⟨start,.nil⟩
      | snoc _ taken ih =>
        have met := needed _ _ _ ih.1 taken.1 taken.2
        exact ⟨(sound _ _ _ ih.1 taken.1 met).1,ih.2.snoc ⟨met,taken.1⟩⟩
    exact both.2

-- Executable machines: a partial function of state and action.
def Executes (execute : State → Action → Option State) : State → Action → State → Prop :=
  fun s a s' => execute s a = some s'

def run (execute : State → Action → Option State) : State → List Action → Option State
  | s,[] => some s
  | s,action :: rest => (execute s action).bind (run execute · rest)

theorem run_sound {execute : State → Action → Option State}
    (ran : run execute before actions = some after) : Runs (Executes execute) before actions after := by
  induction actions generalizing before with
  | nil =>
    cases Option.some.inj ran
    exact .nil
  | cons action rest ih =>
    cases executed : execute before action with
    | none => simp [run,executed] at ran
    | some next =>
      simp only [run,executed,Option.bind_some] at ran
      exact .cons executed (ih ran)

-- Checking the condition while running.
def guarded (guard : State → Action → Bool) (execute : State → Action → Option State) (s : State)
    (action : Action) : Option State :=
  if guard s action then execute s action else none

theorem guarded_under {guard : State → Action → Bool} {execute : State → Action → Option State} {s s' : State}
    (taken : Executes (guarded guard execute) s action s') :
    Under (fun s a => guard s a = true) (Executes execute) s action s' := by
  unfold Executes guarded at taken
  split at taken
  · rename_i met
    exact ⟨met,taken⟩
  · cases taken

-- A run that a computation found, with what the computation saw at its end.
theorem run_reaches (execute : State → Action → Option State) (before : State) (actions : List Action)
    (view : State → Bool)
    (ran : (run execute before actions).any view = true) :
    ∃ after, Runs (Executes execute) before actions after ∧ view after = true := by
  obtain ⟨after,found,seen⟩ := (Option.any_eq_true _ _).mp ran
  exact ⟨after,run_sound found,seen⟩

theorem guarded_reaches (guard : State → Action → Bool) (execute : State → Action → Option State) (before : State)
    (actions : List Action) (view : State → Bool) (ran : (run (guarded guard execute) before actions).any view = true) :
    ∃ after, Runs (Under (fun s a => guard s a = true) (Executes execute)) before actions after ∧ view after = true := by
  obtain ⟨after,path,seen⟩ := run_reaches (guarded guard execute) before actions view ran
  exact ⟨after,path.mono fun _ _ _ taken => guarded_under taken,seen⟩

-- Two lists of actions, step by step alike where the first of them leads.
inductive Twins (execute : State → Action → Option State) (alike : State → Action → Action → Prop) :
    State → List Action → List Action → Prop where
  | nil {s} : Twins execute alike s [] []
  | cons {s action twin actions twins} : alike s action twin →
      (∀ s', execute s action = some s' → Twins execute alike s' actions twins) →
      Twins execute alike s (action :: actions) (twin :: twins)

-- The unwinding rule: a view that no pair of alike steps tells apart is the
-- same after two alike runs, whether they end or stop on the way.
theorem Twins.unwind {execute : State → Action → Option State} {alike : State → Action → Action → Prop} {View : Type}
    {s t : State} {actions twins : List Action} (pair : Twins execute alike s actions twins) (view : State → View)
    (steps : ∀ s t action twin, view s = view t → alike s action twin →
      (execute s action).map view = (execute t twin).map view) (same : view s = view t) :
    (run execute s actions).map view = (run execute t twins).map view := by
  induction pair generalizing t with
  | nil => exact congrArg some same
  | @cons s action twin actions twins alike rest ih =>
    have first := steps s t action twin same alike
    rw [run,run]
    cases left : execute s action with
    | none =>
      rw [left,Option.map_none] at first
      rw [Option.map_eq_none_iff.mp first.symm]
      rfl
    | some s' =>
      rw [left,Option.map_some] at first
      obtain ⟨t',right,view⟩ := Option.map_eq_some_iff.mp first.symm
      rw [right]
      exact ih s' left view.symm

end Transition
