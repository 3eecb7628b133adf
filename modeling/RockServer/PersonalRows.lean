import RockServer.PersonalData

namespace PersonalData
open DeviceControl (Uuid Instant)
open LastWriter (Version Change apply applyAll)

variable {F : Type}

-- One pushed change on one account's row. The two stores differ in whether a
-- change that does not win still uses up a revision.
def place (burns : Bool) (bare : Instant → F) (user : Uuid) (state : Rows F × Nat)
    (entry : Uuid × Change F Instant) : Rows F × Nat :=
  let key : Key := ⟨user,entry.1⟩
  let stored := (state.1[key]?).map Record.toVersion
  if entry.2.wins stored then
    (state.1.insert key ⟨entry.2.written bare stored,entry.1,state.2 + 1⟩,state.2 + 1)
  else (state.1,if burns then state.2 + 1 else state.2)

def placeAll (burns : Bool) (bare : Instant → F) (user : Uuid) (state : Rows F × Nat)
    (entries : List (Uuid × Change F Instant)) : Rows F × Nat :=
  entries.foldl (place burns bare user) state

-- Expiry visits rows one after the other and marks each with a new revision.
def expireRow (mark : Record F → Record F) (state : Rows F × Nat) (key : Key) : Rows F × Nat :=
  match state.1[key]? with
  | none => state
  | some row => (state.1.insert key {mark row with syncRevision := state.2 + 1},state.2 + 1)

def expireRows (mark : Record F → Record F) (state : Rows F × Nat) (keys : List Key) : Rows F × Nat :=
  keys.foldl (expireRow mark) state

-- The changes of a batch that concern one record.
def changesOn (id : Uuid) (entries : List (Uuid × Change F Instant)) : List (Change F Instant) :=
  (entries.filter fun entry => entry.1 = id).map Prod.snd

variable {burns : Bool} {bare : Instant → F} {user : Uuid} {state : Rows F × Nat} {key : Key}
variable {entry : Uuid × Change F Instant} {entries : List (Uuid × Change F Instant)}
variable {mark : Record F → Record F} {keys : List Key}

theorem place_wins (wins : entry.2.wins ((state.1[(⟨user,entry.1⟩ : Key)]?).map Record.toVersion) = true) :
    place burns bare user state entry = (state.1.insert ⟨user,entry.1⟩
      ⟨entry.2.written bare ((state.1[(⟨user,entry.1⟩ : Key)]?).map Record.toVersion),entry.1,state.2 + 1⟩,
      state.2 + 1) := by
  simp [place,wins]

theorem place_loses (loses : entry.2.wins ((state.1[(⟨user,entry.1⟩ : Key)]?).map Record.toVersion) = false) :
    place burns bare user state entry = (state.1,if burns then state.2 + 1 else state.2) := by
  simp [place,loses]

theorem place_other (other : (⟨user,entry.1⟩ : Key) ≠ key) :
    (place burns bare user state entry).1[key]? = state.1[key]? := by
  cases wins : entry.2.wins ((state.1[(⟨user,entry.1⟩ : Key)]?).map Record.toVersion) with
  | false => rw [place_loses wins]
  | true => rw [place_wins wins]; exact Table.get_insert_ne other

theorem place_revision : state.2 ≤ (place burns bare user state entry).2 := by
  cases wins : entry.2.wins ((state.1[(⟨user,entry.1⟩ : Key)]?).map Record.toVersion) with
  | false =>
    rw [place_loses wins]
    dsimp only
    split <;> omega
  | true => rw [place_wins wins]; exact Nat.le_succ _

-- On the row it names, a change acts as on a register.
theorem place_version : ((place burns bare user state entry).1[(⟨user,entry.1⟩ : Key)]?).map Record.toVersion =
    apply bare ((state.1[(⟨user,entry.1⟩ : Key)]?).map Record.toVersion) entry.2 := by
  unfold LastWriter.apply
  cases wins : entry.2.wins ((state.1[(⟨user,entry.1⟩ : Key)]?).map Record.toVersion) with
  | false => rw [place_loses wins]; rfl
  | true =>
    rw [place_wins wins]
    dsimp only
    rw [Table.get_insert,if_pos rfl]
    rfl

theorem placeAll_revision (burns : Bool) (bare : Instant → F) (user : Uuid) (state : Rows F × Nat)
    (entries : List (Uuid × Change F Instant)) : state.2 ≤ (placeAll burns bare user state entries).2 := by
  induction entries generalizing state with
  | nil => exact Nat.le_refl _
  | cons entry rest ih => exact Nat.le_trans place_revision (ih _)

theorem placeAll_other (other : key.userId ≠ user) :
    (placeAll burns bare user state entries).1[key]? = state.1[key]? := by
  induction entries generalizing state with
  | nil => rfl
  | cons entry rest ih =>
    refine ih.trans (place_other fun same => other ?_)
    rw [← same]

theorem placeAll_version {id : Uuid} :
    ((placeAll burns bare user state entries).1[(⟨user,id⟩ : Key)]?).map Record.toVersion =
    applyAll bare ((state.1[(⟨user,id⟩ : Key)]?).map Record.toVersion) (changesOn id entries) := by
  induction entries generalizing state with
  | nil => rfl
  | cons entry rest ih =>
    refine ih.trans ?_
    by_cases mine : entry.1 = id
    · subst mine
      rw [place_version]
      simp [changesOn]
    · rw [place_other (by simpa using mine)]
      simp [changesOn,mine]

-- A batch of changes that all lose leaves the table alone; one that wins moves
-- its row on.
def Idle (user : Uuid) (rows : Rows F) (entries : List (Uuid × Change F Instant)) : Prop :=
  ∀ entry ∈ entries, entry.2.wins ((rows[(⟨user,entry.1⟩ : Key)]?).map Record.toVersion) = false

theorem placeAll_idle (idle : Idle user state.1 entries) : (placeAll burns bare user state entries).1 = state.1 := by
  induction entries generalizing state with
  | nil => rfl
  | cons entry rest ih =>
    have same : (place burns bare user state entry).1 = state.1 := by
      rw [place_loses (idle entry List.mem_cons_self)]
    refine Eq.trans (ih ?_) same
    rw [same]
    exact fun other member => idle other (List.mem_cons_of_mem _ member)

-- A row that every change named after it loses against stays as it is.
theorem placeAll_kept {id : Uuid} {row : Record F} (found : state.1[(⟨user,id⟩ : Key)]? = some row)
    (loses : ∀ entry ∈ entries, entry.1 = id → entry.2.wins (some row.toVersion) = false) :
    (placeAll burns bare user state entries).1[(⟨user,id⟩ : Key)]? = some row := by
  induction entries generalizing state with
  | nil => exact found
  | cons entry rest ih =>
    refine ih ?_ fun other member => loses other (List.mem_cons_of_mem _ member)
    by_cases mine : entry.1 = id
    · have lost := loses entry List.mem_cons_self mine
      subst mine
      rw [place_loses (by rw [found]; exact lost)]
      exact found
    · rw [place_other (by simpa using mine)]
      exact found

theorem placeAll_moved (burns : Bool) (bare : Instant → F) (moves : ¬Idle user state.1 entries) : ∃ id row,
    (placeAll burns bare user state entries).1[(⟨user,id⟩ : Key)]? = some row ∧
    ∀ old, state.1[(⟨user,id⟩ : Key)]? = some old → old.updatedAt < row.updatedAt := by
  unfold Idle at moves
  push Not at moves
  obtain ⟨entry,listed,wins⟩ := moves
  have concerned : entry.2 ∈ changesOn entry.1 entries :=
    List.mem_map_of_mem (List.mem_filter.mpr ⟨listed,by simp⟩)
  obtain ⟨later,final,below⟩ := LastWriter.applyAll_moved bare concerned (by simpa using wins)
  rw [← @placeAll_version F burns bare user state entries entry.1] at final
  obtain ⟨row,found,rfl⟩ := Option.map_eq_some_iff.mp final
  exact ⟨entry.1,row,found,fun old present => below old.toVersion (by simp [present])⟩

-- Named rows are there afterwards, and each change makes at most one row live.
theorem place_present (named : (⟨user,entry.1⟩ : Key) = key ∨ (state.1[key]?).isSome) :
    ((place burns bare user state entry).1[key]?).isSome := by
  cases wins : entry.2.wins ((state.1[(⟨user,entry.1⟩ : Key)]?).map Record.toVersion) with
  | true =>
    rw [place_wins wins,Table.get_insert]
    split
    · rfl
    · rename_i other
      exact named.resolve_left other
  | false =>
    rw [place_loses wins]
    rcases named with rfl | present
    · cases found : state.1[(⟨user,entry.1⟩ : Key)]? with
      | none =>
        rw [found] at wins
        cases change : entry.2 <;> simp [change,Change.wins] at wins
      | some row => rfl
    · exact present

theorem placeAll_present {id : Uuid} (named : id ∈ entries.map Prod.fst ∨ (state.1[(⟨user,id⟩ : Key)]?).isSome) :
    ((placeAll burns bare user state entries).1[(⟨user,id⟩ : Key)]?).isSome := by
  induction entries generalizing state with
  | nil => exact named.resolve_left (by simp)
  | cons entry rest ih =>
    refine ih ?_
    rcases named with listed | present
    · rcases List.mem_cons.mp listed with rfl | later
      · exact .inr (place_present (.inl rfl))
      · exact .inl later
    · exact .inr (place_present (.inr present))

theorem placeAll_liveCount (burns : Bool) (bare : Instant → F) (user : Uuid) (state : Rows F × Nat)
    (entries : List (Uuid × Change F Instant)) (owner : Uuid) :
    liveCount (placeAll burns bare user state entries).1 owner ≤ liveCount state.1 owner + entries.length := by
  induction entries generalizing state with
  | nil => exact Nat.le_refl _
  | cons entry rest ih =>
    have step : liveCount (place burns bare user state entry).1 owner ≤ liveCount state.1 owner + 1 := by
      cases wins : entry.2.wins ((state.1[(⟨user,entry.1⟩ : Key)]?).map Record.toVersion) with
      | false => rw [place_loses wins]; exact Nat.le_succ _
      | true => rw [place_wins wins]; exact Table.count_insert_le
    have later := ih (place burns bare user state entry)
    rw [List.length_cons]
    exact Nat.le_trans later (by omega)

-- A row after a batch is the row before it, or was written by one of the
-- batch's changes under a new revision.
theorem placeAll_cases : (placeAll burns bare user state entries).1[key]? = state.1[key]? ∨
    ∃ row change, (placeAll burns bare user state entries).1[key]? = some row ∧ key.userId = user ∧
      (key.recordId,change) ∈ entries ∧ state.2 < row.syncRevision ∧
      row.syncRevision ≤ (placeAll burns bare user state entries).2 ∧ row.recordId = key.recordId ∧
      ∃ stored, row.toVersion = change.written bare stored := by
  induction entries generalizing state with
  | nil => exact .inl rfl
  | cons entry rest ih =>
    rcases @ih (place burns bare user state entry) with
      same | ⟨row,change,found,owner,listed,newer,bound,name,written⟩
    · by_cases mine : (⟨user,entry.1⟩ : Key) = key
      · subst mine
        cases wins : entry.2.wins ((state.1[(⟨user,entry.1⟩ : Key)]?).map Record.toVersion) with
        | false =>
          rw [place_loses wins] at same
          exact .inl (by simpa [placeAll,place_loses wins] using same)
        | true =>
          have grows := placeAll_revision burns bare user (place burns bare user state entry) rest
          rw [place_wins wins] at same grows
          rw [Table.get_insert,if_pos rfl] at same
          have unfolded : placeAll burns bare user state (entry :: rest) =
              placeAll burns bare user (place burns bare user state entry) rest := rfl
          rw [place_wins wins] at unfolded
          refine .inr ⟨_,entry.2,by rw [unfolded]; exact same,rfl,List.mem_cons_self,Nat.lt_succ_self _,?_,rfl,_,rfl⟩
          rw [unfolded]
          exact grows
      · exact .inl (same.trans (place_other mine))
    · exact .inr ⟨row,change,found,owner,List.mem_cons_of_mem _ listed,
        Nat.lt_of_le_of_lt place_revision newer,bound,name,written⟩

-- The invariant rule for a batch: what holds of every row and of whatever a
-- winning change writes holds of every row afterwards.
theorem placeAll_rows {Q : Key → Version F Instant → Prop}
    (written : ∀ entry ∈ entries, ∀ stored, (∀ version ∈ stored, Q ⟨user,entry.1⟩ version) →
      entry.2.wins stored = true → Q ⟨user,entry.1⟩ (entry.2.written bare stored))
    (held : ∀ key row, state.1[key]? = some row → Q key row.toVersion) :
    ∀ key row, (placeAll burns bare user state entries).1[key]? = some row → Q key row.toVersion := by
  induction entries generalizing state with
  | nil => exact held
  | cons entry rest ih =>
    refine ih (fun other member => written other (List.mem_cons_of_mem _ member)) ?_
    intro key row found
    by_cases mine : (⟨user,entry.1⟩ : Key) = key
    · subst mine
      cases wins : entry.2.wins ((state.1[(⟨user,entry.1⟩ : Key)]?).map Record.toVersion) with
      | false =>
        rw [place_loses wins] at found
        exact held _ row found
      | true =>
        rw [place_wins wins] at found
        rw [Table.get_insert,if_pos rfl] at found
        cases Option.some.inj found
        refine written entry List.mem_cons_self _ ?_ wins
        intro version inside
        obtain ⟨old,present,rfl⟩ := Option.map_eq_some_iff.mp inside
        exact held _ old present
    · rw [place_other mine] at found
      exact held key row found

theorem expireRow_other {k : Key} (other : k ≠ key) : (expireRow mark state k).1[key]? = state.1[key]? := by
  unfold expireRow
  split
  · rfl
  · exact Table.get_insert_ne other

theorem expireRow_revision (mark : Record F → Record F) (state : Rows F × Nat) (key : Key) :
    state.2 ≤ (expireRow mark state key).2 := by
  unfold expireRow
  split
  · exact Nat.le_refl _
  · exact Nat.le_succ _

theorem expireRows_revision (mark : Record F → Record F) (state : Rows F × Nat) (keys : List Key) :
    state.2 ≤ (expireRows mark state keys).2 := by
  induction keys generalizing state with
  | nil => exact Nat.le_refl _
  | cons first rest ih => exact Nat.le_trans (expireRow_revision mark state first) (ih _)

theorem expireRows_other (outside : key ∉ keys) : (expireRows mark state keys).1[key]? = state.1[key]? := by
  induction keys generalizing state with
  | nil => rfl
  | cons first rest ih =>
    refine (ih fun later => outside (List.mem_cons_of_mem _ later)).trans (expireRow_other ?_)
    intro same
    exact outside (same ▸ List.mem_cons_self)

-- Each listed row is marked once, under a new revision; no other row moves.
theorem expireRows_cases (distinct : keys.Nodup) :
    (key ∉ keys ∧ (expireRows mark state keys).1[key]? = state.1[key]?) ∨
    (state.1[key]? = none ∧ (expireRows mark state keys).1[key]? = none) ∨
    ∃ old n, key ∈ keys ∧ state.1[key]? = some old ∧ state.2 < n ∧ n ≤ (expireRows mark state keys).2 ∧
      (expireRows mark state keys).1[key]? = some {mark old with syncRevision := n} := by
  induction keys generalizing state with
  | nil => exact .inl ⟨by simp,rfl⟩
  | cons first rest ih =>
    obtain ⟨fresh,distinct⟩ := List.nodup_cons.mp distinct
    have unfolded : expireRows mark state (first :: rest) = expireRows mark (expireRow mark state first) rest := rfl
    by_cases mine : first = key
    · subst mine
      have later : (expireRows mark (expireRow mark state first) rest).1[first]? =
          (expireRow mark state first).1[first]? := expireRows_other fresh
      cases found : state.1[first]? with
      | none =>
        refine .inr (.inl ⟨rfl,?_⟩)
        rw [unfolded,later]
        simp [expireRow,found]
      | some old =>
        refine .inr (.inr ⟨old,state.2 + 1,List.mem_cons_self,rfl,Nat.lt_succ_self _,?_,?_⟩)
        · have grows := expireRows_revision mark (expireRow mark state first) rest
          have stepped : (expireRow mark state first).2 = state.2 + 1 := by simp [expireRow,found]
          rw [unfolded]
          omega
        · rw [unfolded,later]
          simp [expireRow,found]
    · rcases @ih (expireRow mark state first) distinct with ⟨outside,same⟩ | ⟨absent,same⟩ | ⟨old,n,listed,was,lower,upper,moved⟩
      · refine .inl ⟨?_,same.trans (expireRow_other mine)⟩
        intro member
        rcases List.mem_cons.mp member with here | there
        · exact mine here.symm
        · exact outside there
      · rw [expireRow_other mine] at absent
        exact .inr (.inl ⟨absent,same⟩)
      · rw [expireRow_other mine] at was
        exact .inr (.inr ⟨old,n,List.mem_cons_of_mem _ listed,was,
          Nat.lt_of_le_of_lt (expireRow_revision mark state first) lower,upper,moved⟩)

theorem expireRows_rows {Q : Key → Version F Instant → Prop} (distinct : keys.Nodup)
    (marked : ∀ key ∈ keys, ∀ old, state.1[key]? = some old → Q key old.toVersion → Q key (mark old).toVersion)
    (held : ∀ key row, state.1[key]? = some row → Q key row.toVersion) :
    ∀ key row, (expireRows mark state keys).1[key]? = some row → Q key row.toVersion := by
  intro key row found
  rcases @expireRows_cases F state key mark keys distinct with
    ⟨_,same⟩ | ⟨_,gone⟩ | ⟨old,n,listed,was,_,_,moved⟩
  · exact held key row (same ▸ found)
  · rw [gone] at found
    cases found
  · rw [moved] at found
    cases Option.some.inj found
    exact marked key listed old was (held key old was)

-- Live history rows of the chosen accounts that started before a cutoff.
def expiredKeys (owns : Key → Bool) (cutoff : Instant) (rows : Rows HistoryFields) : List Key :=
  (rows.toList.filter fun entry =>
    owns entry.1 && entry.2.deletedAt.isNone && entry.2.fields.startedAt < cutoff).map Prod.fst

theorem mem_expiredKeys {owns : Key → Bool} {cutoff : Instant} {rows : Rows HistoryFields} :
    key ∈ expiredKeys owns cutoff rows ↔ ∃ row, rows[key]? = some row ∧ owns key = true ∧ row.deletedAt = none ∧
      row.fields.startedAt < cutoff := by
  simp only [expiredKeys,List.mem_map,List.mem_filter,Bool.and_eq_true,decide_eq_true_eq,Option.isNone_iff_eq_none,
    Prod.exists]
  constructor
  · rintro ⟨k,row,⟨listed,⟨mine,live⟩,old⟩,rfl⟩
    exact ⟨row,Table.mem_entries.mp listed,mine,live,old⟩
  · rintro ⟨row,found,mine,live,old⟩
    exact ⟨key,row,⟨Table.mem_entries.mpr found,⟨mine,live⟩,old⟩,rfl⟩

-- No live row of the chosen accounts is past the cutoff.
def Unexpired (owns : Key → Bool) (cutoff : Instant) (rows : Rows HistoryFields) : Prop :=
  ∀ (key : Key) row, rows[key]? = some row → owns key = true → row.deletedAt = none → cutoff ≤ row.fields.startedAt

theorem expiredKeys_nil {owns : Key → Bool} {cutoff : Instant} {rows : Rows HistoryFields} :
    expiredKeys owns cutoff rows = [] ↔ Unexpired owns cutoff rows := by
  rw [List.eq_nil_iff_forall_not_mem]
  constructor
  · intro empty key row found mine live
    by_contra old
    exact empty key (mem_expiredKeys.mpr ⟨row,found,mine,live,lt_of_not_ge old⟩)
  · intro fresh key member
    obtain ⟨row,found,mine,live,old⟩ := mem_expiredKeys.mp member
    exact absurd old (not_lt_of_ge (fresh key row found mine live))

theorem expiredKeys_distinct (owns : Key → Bool) (cutoff : Instant) (rows : Rows HistoryFields) :
    (expiredKeys owns cutoff rows).Nodup := Table.chosen_distinct _

theorem mem_accountRows {rows : Rows F} {id : Uuid} {row : Record F} :
    (id,row) ∈ accountRows rows user ↔ rows[(⟨user,id⟩ : Key)]? = some row := by
  simp only [accountRows,List.mem_map,List.mem_filter,decide_eq_true_eq,Prod.mk.injEq,Prod.exists]
  constructor
  · rintro ⟨⟨owner,record⟩,found,⟨listed,rfl⟩,rfl,rfl⟩
    exact Table.mem_entries.mp listed
  · intro found
    exact ⟨⟨user,id⟩,row,⟨Table.mem_entries.mpr found,rfl⟩,rfl,rfl⟩

theorem accountRows_distinct (rows : Rows F) (user : Uuid) : ((accountRows rows user).map Prod.fst).Nodup := by
  have keys := @Table.chosen_distinct _ _ _ rows fun entry => entry.1.userId = user
  have same : (accountRows rows user).map Prod.fst =
      ((rows.toList.filter fun entry => entry.1.userId = user).map Prod.fst).map Key.recordId := by
    simp [accountRows,List.map_map,Function.comp_def]
  rw [same]
  refine keys.map_on ?_
  intro a lista b listb equal
  obtain ⟨entry,inside,rfl⟩ := List.mem_map.mp lista
  obtain ⟨entry',inside',rfl⟩ := List.mem_map.mp listb
  have owner : entry.1.userId = user := by simpa using (List.mem_filter.mp inside).2
  have owner' : entry'.1.userId = user := by simpa using (List.mem_filter.mp inside').2
  cases first : entry.1
  cases second : entry'.1
  simp_all

-- What a client is told: rows past its cursor and rows it pushed, and a cursor
-- no smaller than its own or any row's revision.
section delta
variable {rows : List (Uuid × Record F)} {sinceRevision : Nat} {pushed : List Uuid}

theorem delta_cursor_le : (deltaAndEcho rows sinceRevision pushed).2 = rows.foldl
    (fun cursor entry => max cursor entry.2.syncRevision) sinceRevision := rfl

theorem cursor_spec (rows : List (Uuid × Record F)) (sinceRevision : Nat) (pushed : List Uuid) :
    sinceRevision ≤ (deltaAndEcho rows sinceRevision pushed).2 ∧
    (∀ entry ∈ rows, entry.2.syncRevision ≤ (deltaAndEcho rows sinceRevision pushed).2) ∧
    ((deltaAndEcho rows sinceRevision pushed).2 = sinceRevision ∨
      ∃ entry ∈ rows, entry.2.syncRevision = (deltaAndEcho rows sinceRevision pushed).2) := by
  rw [delta_cursor_le]
  induction rows generalizing sinceRevision with
  | nil => exact ⟨Nat.le_refl _,by simp,.inl rfl⟩
  | cons entry rest ih =>
    obtain ⟨lower,bounds,attained⟩ := ih (max sinceRevision entry.2.syncRevision)
    refine ⟨by simp only [List.foldl_cons]; omega,?_,?_⟩
    · intro other member
      rcases List.mem_cons.mp member with rfl | later
      · simp only [List.foldl_cons]; omega
      · exact bounds other later
    · rcases attained with same | ⟨other,member,same⟩
      · rcases Nat.le_total entry.2.syncRevision sinceRevision with small | large
        · exact .inl (same.trans (Nat.max_eq_left small))
        · exact .inr ⟨entry,List.mem_cons_self,(same.trans (Nat.max_eq_right large)).symm⟩
      · exact .inr ⟨other,List.mem_cons_of_mem _ member,same⟩

-- Which rows the ordered map ends up with.
theorem selected_get {start : Table Uuid (Record F)} {id : Uuid} {row : Record F}
    (distinct : (rows.map Prod.fst).Nodup) (apart : ∀ entry ∈ rows, start[entry.1]? = none) :
    (rows.foldl (fun selected entry =>
      if sinceRevision < entry.2.syncRevision ∨ entry.1 ∈ pushed then selected.insert entry.1 entry.2
      else selected) start)[id]? = some row ↔
    start[id]? = some row ∨ (id,row) ∈ rows ∧ (sinceRevision < row.syncRevision ∨ id ∈ pushed) := by
  induction rows generalizing start with
  | nil => simp
  | cons entry rest ih =>
    obtain ⟨fresh,distinct⟩ := List.nodup_cons.mp distinct
    have absent := apart entry List.mem_cons_self
    rw [List.foldl_cons]
    by_cases chosen : sinceRevision < entry.2.syncRevision ∨ entry.1 ∈ pushed
    · rw [if_pos chosen,ih distinct ?_,Table.get_insert]
      · by_cases mine : entry.1 = id
        · subst mine
          rw [if_pos rfl,absent]
          constructor
          · rintro (same | later)
            · cases same; exact .inr ⟨List.mem_cons_self,chosen⟩
            · exact .inr ⟨List.mem_cons_of_mem _ later.1,later.2⟩
          · rintro (impossible | ⟨listed,wanted⟩)
            · cases impossible
            · rcases List.mem_cons.mp listed with same | later
              · exact .inl (by rw [← same])
              · exact .inr ⟨later,wanted⟩
        · rw [if_neg mine]
          refine or_congr_right (and_congr_left fun _ => ?_)
          simp [Prod.ext_iff,Ne.symm mine]
      · intro other member
        rw [Table.get_insert_ne,apart other (List.mem_cons_of_mem _ member)]
        intro same
        exact fresh (List.mem_map.mpr ⟨other,member,same.symm⟩)
    · rw [if_neg chosen,ih distinct fun other member => apart other (List.mem_cons_of_mem _ member)]
      refine or_congr_right ?_
      constructor
      · exact fun later => ⟨List.mem_cons_of_mem _ later.1,later.2⟩
      · rintro ⟨listed,wanted⟩
        rcases List.mem_cons.mp listed with same | later
        · rw [← same] at chosen
          exact absurd wanted chosen
        · exact ⟨later,wanted⟩

theorem mem_delta (distinct : (rows.map Prod.fst).Nodup) {row : Record F} :
    row ∈ (deltaAndEcho rows sinceRevision pushed).1 ↔
    ∃ id, (id,row) ∈ rows ∧ (sinceRevision < row.syncRevision ∨ id ∈ pushed) := by
  simp only [deltaAndEcho,List.mem_insertionSort,List.mem_map,Prod.exists]
  constructor
  · rintro ⟨id,found,listed,rfl⟩
    have present := Table.mem_entries.mp listed
    rw [selected_get distinct (by simp)] at present
    rcases present with impossible | chosen
    · simp at impossible
    · exact ⟨id,chosen⟩
  · rintro ⟨id,chosen⟩
    refine ⟨id,row,Table.mem_entries.mpr ?_,rfl⟩
    rw [selected_get distinct (by simp)]
    exact .inr chosen

end delta

end PersonalData
