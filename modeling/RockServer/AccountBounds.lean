import RockServer.OpenCounts

namespace PersonalData
open DeviceControl (Uuid Instant)
open LastWriter (Change)

def Server.Bounded (w : Server) : Prop :=
  liveRecords w.favourites ≤ maxFavouriteRecords ∧ liveRecords w.history ≤ maxHistoryRecords

structure Account.Sound (a : Account) : Prop where
  bounded : a.server.Bounded
  opened : ∀ (t : Nat) x, a.server.transactions[t]? = some x → x.Orderly a.server (t ∉ a.overtaken)

-- The limits, asked again at a commit of upserts.
def Server.refits (w : Server) (x : Transaction) : Bool :=
  liveRecords (x.favourites.visible w.favourites) ≤ maxFavouriteRecords &&
  liveRecords (x.history.visible w.history) ≤ maxHistoryRecords

-- A commit of upserts that no other transaction's has overtaken since it
-- counted, or that fits together with what the others have committed.
def Account.fits (a : Account) : Move → Bool
  | .statement t => (a.server.transactions[t]?).all fun x => match x.rest with
    | .commit :: _ => !x.request.upserts || !a.overtaken.contains t || a.server.refits x
    | _ => true
  | _ => true

namespace Account
variable {pg : Postgres} {a a' : Account} {t : Nat} {x x' : Transaction} {w' : Server}

theorem Sound.put (sound : a.Sound) (mine : x'.Orderly a.server (t ∉ a.overtaken)) :
    (⟨a.server.put t x',a.overtaken⟩ : Account).Sound := by
  refine ⟨sound.bounded,fun u y found => ?_⟩
  simp only [Server.put,Table.get_insert] at found
  split at found
  · rename_i same
    cases Option.some.inj found
    exact same ▸ mine.dwindle .refl .refl
  · exact (sound.opened u y found).dwindle .refl .refl

theorem Sound.drop (sound : a.Sound) : (⟨a.server.drop t x,a.overtaken⟩ : Account).Sound :=
  ⟨sound.bounded,fun u y found => (sound.opened u y (Table.get_erase_some found).2).dwindle .refl .refl⟩

theorem Sound.draw (sound : a.Sound) (n : Nat) : (⟨{a.server with sequence := n},a.overtaken⟩ : Account).Sound :=
  ⟨sound.bounded,fun u y found => (sound.opened u y found).dwindle .refl .refl⟩

section statements
variable {head : Statement} {rest : List Statement}

theorem Sound.insertFavourite {entry : Option (Uuid × Change FavouriteFields Instant)} (sound : a.Sound)
    (found : a.server.transactions[t]? = some x) (next : x.rest = head :: rest) (writes : head.writesFavourites = true)
    (marks : x.request.favourites.upserts = [] → ∀ change ∈ entry, ∃ stamp, change.2 = .delete stamp)
    (ran : a.server.insertFavourite t x rest entry = some w') : (⟨w',a.overtaken⟩ : Account).Sound := by
  unfold Server.insertFavourite at ran
  split at ran
  · cases ran
  · cases ran
    exact sound.drop
  · rename_i change _
    split at ran
    · cases ran
    · cases ran
      refine sound.put ?_
      refine (sound.opened t x found).favourite next writes rfl rfl (fun bare => ?_) rfl
      obtain ⟨stamp,deletes⟩ := marks bare change rfl
      rw [show change = (change.1,.delete stamp) from Prod.ext rfl deletes]
      exact insertOnConflict_marks

theorem Sound.insertHistory {entry : Option (Uuid × Change HistoryFields Instant)} (sound : a.Sound)
    (found : a.server.transactions[t]? = some x) (next : x.rest = head :: rest) (writes : head.writesHistory = true)
    (marks : x.request.history.upserts = [] → ∀ change ∈ entry, ∃ stamp, change.2 = .delete stamp)
    (ran : a.server.insertHistory t x rest entry = some w') : (⟨w',a.overtaken⟩ : Account).Sound := by
  unfold Server.insertHistory at ran
  split at ran
  · cases ran
  · cases ran
    exact sound.drop
  · rename_i change _
    split at ran
    · cases ran
    · cases ran
      refine sound.put ?_
      refine (sound.opened t x found).play next writes rfl (.inl rfl) (fun bare => ?_) rfl
      obtain ⟨stamp,deletes⟩ := marks bare change rfl
      rw [show change = (change.1,.delete stamp) from Prod.ext rfl deletes]
      exact insertOnConflict_marks

theorem Sound.limit {exceeded : Bool} (sound : a.Sound)
    (counted : exceeded = false → ({x with rest := rest} : Transaction).Orderly a.server (t ∉ a.overtaken))
    (ran : a.server.limit t x rest exceeded = some w') : (⟨w',a.overtaken⟩ : Account).Sound := by
  unfold Server.limit at ran
  split at ran
  · cases ran
    exact sound.drop
  · rename_i within
    cases ran
    exact sound.put (counted (Bool.not_eq_true _ ▸ within))

theorem Sound.expireHistory (sound : a.Sound) (found : a.server.transactions[t]? = some x)
    (next : x.rest = .expireHistory :: rest) (ran : a.server.expireHistory t x rest = some w') :
    (⟨w',a.overtaken⟩ : Account).Sound := by
  have mine := sound.opened t x found
  unfold Server.expireHistory at ran
  split at ran
  · cases ran
    exact sound.put (mine.stay rfl rfl rfl rfl)
  · cases ran
    exact sound.put (mine.play next rfl rfl (.inl rfl) (fun _ _ _ => .inl) rfl)
  · cases ran

theorem deleteEntry_deletes {F : Type} {delete : RecordDelete} :
    ∀ change ∈ pg.deleteEntry (F:=F) delete, ∃ stamp, change.2 = .delete stamp := by
  intro change cast
  obtain ⟨stamp,_,rfl⟩ := Option.map_eq_some_iff.mp cast
  exact ⟨stamp,rfl⟩

-- Statements up to the commit.
theorem Sound.statement (sound : a.Sound) (found : a.server.transactions[t]? = some x)
    (ran : a.server.runStatement pg t x = some w') (before : ∀ rest, x.rest ≠ .commit :: rest) :
    (⟨w',a.overtaken⟩ : Account).Sound := by
  have mine := sound.opened t x found
  have listed : ∀ {head rest}, x.rest = head :: rest → head ∈ x.request.program :=
    fun next => mine.left.subset (next ▸ List.mem_cons_self)
  unfold Server.runStatement at ran
  split at ran
  case h_1 => cases ran
  case h_2 next => exact sound.insertFavourite found next rfl (fun bare => absurd bare (favourites_offered (listed next))) ran
  case h_3 next => exact sound.insertFavourite found next rfl (fun _ => deleteEntry_deletes) ran
  case h_4 next =>
    refine sound.limit (fun within => mine.countFavourites next ?_) ran
    simpa using within
  case h_5 next => exact sound.insertHistory found next rfl (fun bare => absurd bare (history_offered (listed next))) ran
  case h_6 next => exact sound.insertHistory found next rfl (fun _ => deleteEntry_deletes) ran
  case h_7 next => exact sound.expireHistory found next ran
  case h_8 next =>
    refine sound.limit (fun within => mine.countHistory next ?_) ran
    simpa using within
  case h_9 next =>
    cases ran
    exact sound.put (mine.pass next rfl rfl rfl rfl ⟨nofun,nofun⟩)
  case h_10 next =>
    cases ran
    exact sound.put (mine.pass next rfl rfl rfl rfl ⟨nofun,nofun⟩)
  case h_11 next => exact absurd next (before _)

end statements

-- What a commit without upserts does to the others' counts.
theorem Sound.settle (sound : a.Sound) (found : a.server.transactions[t]? = some x) {rest : List Statement}
    (next : x.rest = .commit :: rest) (fits : a.fits (.statement t) = true) :
    (a.server.commit t x rest).Bounded := by
  have mine := sound.opened t x found
  have left : .commit :: rest <:+ x.request.program := next ▸ mine.left
  have last : x.rest = [.commit] := by
    rw [next,program_commit left]
  have admitted : x.request.upserts = false ∨ t ∉ a.overtaken ∨ a.server.refits x = true := by
    simpa [Account.fits,found,next,or_assoc] using fits
  have collection : ∀ {F : Type} {shelf : Shelf F} {committed : Records F} {limit : Nat} {offers counting : Prop},
      shelf.Held committed limit offers counting (t ∉ a.overtaken) → ¬ counting → liveRecords committed ≤ limit →
      (offers → x.request.upserts = true) →
      (a.server.refits x = true → liveRecords (shelf.visible committed) ≤ limit) →
      liveRecords (shelf.visible committed) ≤ limit := by
    intro F shelf committed limit offers counting held counted stored offered fits
    by_cases bare : offers
    · rcases admitted with none | free | fit
      · cases none.symm.trans (offered bare)
      · exact (held.within bare free).resolve_left counted
      · exact fits fit
    · exact Nat.le_trans (held.commits bare).liveRecords stored
  constructor
  · refine collection mine.favourites (by simp [last]) sound.bounded.1 (fun offered => ?_) fun fit => ?_
    · simp [SyncRequest.upserts,offered]
    · exact of_decide_eq_true (Bool.and_eq_true_iff.mp fit).1
  · refine collection mine.history (by simp [last]) sound.bounded.2 (fun offered => ?_) fun fit => ?_
    · simp [SyncRequest.upserts,offered]
    · exact of_decide_eq_true (Bool.and_eq_true_iff.mp fit).2

theorem overtake_commit (found : a.server.transactions[t]? = some x) {rest : List Statement} (next : x.rest = .commit :: rest) :
    a.overtake (.statement t) = if x.request.upserts then
      ((a.server.transactions.toList.filter fun entry => entry.1 ≠ t && entry.2.counted).map Prod.fst) ++ a.overtaken
    else a.overtaken := by
  unfold overtake
  simp only [found,next]

theorem counts_favourites {rest : List Statement} : rest.any Statement.isFavouriteLimit = true ↔ .favouriteLimit ∈ rest := by
  rw [List.any_eq_true]
  constructor
  · rintro ⟨statement,listed,counts⟩
    cases statement with
    | favouriteLimit => exact listed
    | _ => cases counts
  · exact fun listed => ⟨_,listed,rfl⟩

theorem counts_history {rest : List Statement} : rest.any Statement.isHistoryLimit = true ↔ .historyLimit ∈ rest := by
  rw [List.any_eq_true]
  constructor
  · rintro ⟨statement,listed,counts⟩
    cases statement with
    | historyLimit => exact listed
    | _ => cases counts
  · exact fun listed => ⟨_,listed,rfl⟩

theorem committed_held {F : Type} {shelf : Shelf F} {committed : Records F} {limit : Nat} {offers counting free : Prop}
    (bounded : liveRecords committed ≤ limit) : shelf.committed.Held committed limit offers counting free := by
  refine ⟨fun _ id row found => by simp [Shelf.committed] at found,fun _ _ => .inr ?_⟩
  rw [visible_settled rfl]
  exact bounded

theorem Sound.commit (sound : a.Sound) (found : a.server.transactions[t]? = some x) {rest : List Statement}
    (next : x.rest = .commit :: rest) (bounded : (a.server.commit t x rest).Bounded) :
    (⟨a.server.commit t x rest,a.overtake (.statement t)⟩ : Account).Sound := by
  have mine := sound.opened t x found
  have left : .commit :: rest <:+ x.request.program := next ▸ mine.left
  refine ⟨bounded,fun u y there => ?_⟩
  simp only [Server.commit,Table.get_insert] at there
  split at there
  · cases Option.some.inj there
    exact ⟨(List.suffix_cons _ rest).trans left,committed_held bounded.1,committed_held bounded.2⟩
  · rename_i other
    have theirs := sound.opened u y there
    rw [overtake_commit found next]
    cases pushes : x.request.upserts with
    | false =>
      simp only [SyncRequest.upserts,Bool.or_eq_false_iff,Bool.not_eq_false',List.isEmpty_iff] at pushes
      exact theirs.dwindle (mine.favourites.commits (not_not.mpr pushes.1)) (mine.history.commits (not_not.mpr pushes.2))
    | true =>
      have late : y.counted = true → u ∈
          ((a.server.transactions.toList.filter fun entry => entry.1 ≠ t && entry.2.counted).map Prod.fst) ++ a.overtaken := by
        intro counted
        refine List.mem_append_left _ (List.mem_map.mpr ⟨(u,y),List.mem_filter.mpr ⟨Table.mem_entries.mpr there,?_⟩,rfl⟩)
        simp [counted,Ne.symm other]
      refine ⟨theirs.left,theirs.favourites.overtaken fun offered free => ?_,theirs.history.overtaken fun offered free => ?_⟩
      · by_contra counted
        have none_left := Bool.eq_false_iff.mpr (counts_favourites.not.mpr counted)
        refine free (late ?_)
        rw [Transaction.counted,none_left]
        simp [offered]
      · by_contra counted
        have none_left := Bool.eq_false_iff.mpr (counts_history.not.mpr counted)
        refine free (late ?_)
        rw [Transaction.counted,none_left]
        simp [offered]

theorem Sound.expire (sound : a.Sound) (found : a.server.transactions[t]? = some x) {recordId : Uuid}
    (ran : a.server.expireRecord t x recordId = some w') : (⟨w',a.overtaken⟩ : Account).Sound := by
  unfold Server.expireRecord at ran
  split at ran
  · rename_i next _ _
    split at ran
    · cases ran
    · cases ran
      refine sound.put ?_
      exact (sound.opened t x found).play next rfl rfl (.inr rfl) (fun _ => expire_marks) rfl
  · cases ran

theorem Sound.closed {clients : Table Nat Client} (sound : a.Sound) :
    (⟨{a.server with transactions := a.server.transactions.erase t,clients := clients},a.overtaken⟩ : Account).Sound :=
  ⟨sound.bounded,fun u y found => (sound.opened u y (Table.get_erase_some found).2).dwindle .refl .refl⟩

theorem Sound.begin (sound : a.Sound) (client : Nat) (now : Instant) (request : SyncRequest) :
    (⟨a.server.begin t client now request,a.overtaken.filter (· ≠ t)⟩ : Account).Sound := by
  refine ⟨sound.bounded,fun u y found => ?_⟩
  simp only [Server.begin,Table.get_insert] at found
  split at found
  · cases Option.some.inj found
    exact begun_orderly client now request
  · rename_i other
    have theirs := sound.opened u y found
    have still : u ∉ a.overtaken.filter (· ≠ t) → u ∉ a.overtaken := by
      intro free listed
      exact free (List.mem_filter.mpr ⟨listed,by simpa using Ne.symm other⟩)
    exact ⟨theirs.left,⟨theirs.favourites.marks,fun offered free => theirs.favourites.within offered (still free)⟩,
      ⟨theirs.history.marks,fun offered free => theirs.history.within offered (still free)⟩⟩

-- One move of an account: its bounds survive, given the condition at a commit.
theorem Sound.step (sound : a.Sound) {move : Move} (taken : a.execute pg move = some a') (fits : a.fits move = true) :
    a'.Sound := by
  obtain ⟨w',ran,rfl⟩ := Option.map_eq_some_iff.mp taken
  cases move with
  | start t client now favourites history =>
    unfold Server.execute at ran
    dsimp only at ran
    split at ran
    · cases ran
    · cases ran
      exact sound.begin _ _ _
  | nextval t =>
    simp only [Server.execute,Option.bind_eq_bind,Option.bind_eq_some_iff] at ran
    obtain ⟨x,found,ran⟩ := ran
    split at ran
    · cases ran
      have drawn : ({x with revision := some (a.server.sequence + 1)} : Transaction).Orderly a.server (t ∉ a.overtaken) :=
        (sound.opened t x found).stay rfl rfl rfl rfl
      exact (sound.put drawn).draw _
    · cases ran
  | statement t =>
    simp only [Server.execute,Option.bind_eq_bind,Option.bind_eq_some_iff] at ran
    obtain ⟨x,found,ran⟩ := ran
    by_cases last : ∃ rest, x.rest = .commit :: rest
    · obtain ⟨rest,next⟩ := last
      have committed : w' = a.server.commit t x rest := by
        unfold Server.runStatement at ran
        rw [next] at ran
        exact (Option.some.inj ran).symm
      rw [committed]
      exact sound.commit found next (sound.settle found next fits)
    · have same : a.overtake (.statement t) = a.overtaken := by
        simp only [overtake,found]
        split
        · rename_i rest next
          exact absurd ⟨rest,next⟩ last
        · rfl
      rw [same]
      exact sound.statement found ran fun rest next => last ⟨rest,next⟩
  | expire t recordId =>
    simp only [Server.execute,Option.bind_eq_bind,Option.bind_eq_some_iff] at ran
    obtain ⟨x,found,ran⟩ := ran
    exact sound.expire found ran
  | rollback t =>
    simp only [Server.execute,Option.bind_eq_bind,Option.bind_eq_some_iff] at ran
    obtain ⟨x,found,ran⟩ := ran
    split at ran
    · cases ran
    · cases ran
      exact sound.drop
  | answer t =>
    simp only [Server.execute,Option.bind_eq_bind,Option.bind_eq_some_iff] at ran
    obtain ⟨x,found,ran⟩ := ran
    split at ran
    · simp only [Server.answer,Option.bind_eq_bind,Option.bind_eq_some_iff,Option.some.injEq] at ran
      obtain ⟨_,_,_,_,_,_,_,_,rfl⟩ := ran
      exact sound.closed
    · cases ran
  | lose t =>
    simp only [Server.execute,Option.bind_eq_bind,Option.bind_eq_some_iff] at ran
    obtain ⟨x,found,ran⟩ := ran
    split at ran
    · cases ran
      exact sound.drop
    · cases ran
  | elsewhere =>
    cases ran
    exact sound.draw _

theorem fits_of_bounded {move : Move} (taken : a.execute pg move = some a') (bounded : a'.server.Bounded) :
    a.fits move = true := by
  cases move with
  | statement t =>
    obtain ⟨w',ran,rfl⟩ := Option.map_eq_some_iff.mp taken
    simp only [Server.execute,Option.bind_eq_bind,Option.bind_eq_some_iff] at ran
    obtain ⟨x,found,ran⟩ := ran
    simp only [Account.fits,found,Option.all_some]
    split
    · rename_i rest next
      unfold Server.runStatement at ran
      rw [next] at ran
      cases ran
      have both : a.server.refits x = true := by
        exact Bool.and_eq_true_iff.mpr ⟨decide_eq_true bounded.1,decide_eq_true bounded.2⟩
      rw [both,Bool.or_true]
    · rfl
  | _ => rfl

theorem dwindles_eraseWhere {F : Type} {records : Records F} {recordId : Uuid} {doomed : Record F → Bool} :
    Dwindles records (Server.eraseWhere records recordId doomed) := by
  unfold Server.eraseWhere
  split
  · exact dwindles_erase
  · exact .refl

-- What a sweep leaves of one account: its live rows, or fewer.
structure Swept (w w' : Server) : Prop where
  favourites : Dwindles w.favourites w'.favourites
  history : Dwindles w.history w'.history
  transactions : w'.transactions = w.transactions

theorem Swept.refl {w : Server} : Swept w w := ⟨.refl,.refl,rfl⟩

theorem Swept.unlocked {w w' : Server} {locked : Bool} (swept : Swept w w') : Swept w (if locked then w else w') := by
  split
  · exact .refl
  · exact swept

theorem expireRow_swept (w : Server) (clock : Instant) (recordId : Uuid) : Swept w (w.expireRow clock recordId) := by
  unfold Server.expireRow
  split
  · exact .refl
  · split
    · exact ⟨.refl,dwindles_mark fun live => (nomatch live),rfl⟩
    · exact .refl

theorem sweepRow_swept (w : Server) (statement : SweepStatement) (now : Instant) (key : Key) :
    Swept w (w.sweepRow statement now key) := by
  cases statement with
  | expireHistory => exact (expireRow_swept w _ _).unlocked
  | pruneFavourites => exact Swept.unlocked ⟨dwindles_eraseWhere,.refl,rfl⟩
  | pruneHistory => exact Swept.unlocked ⟨.refl,dwindles_eraseWhere,rfl⟩
  | purgeFavourites deleted => exact Swept.unlocked ⟨dwindles_eraseWhere,.refl,rfl⟩
  | purgeHistory deleted => exact Swept.unlocked ⟨.refl,dwindles_eraseWhere,rfl⟩

theorem Sound.swept (sound : a.Sound) (swept : Swept a.server w') : ({a with server := w'} : Account).Sound := by
  refine ⟨⟨?_,?_⟩,fun u y found => ?_⟩
  · exact Nat.le_trans swept.favourites.liveRecords sound.bounded.1
  · exact Nat.le_trans swept.history.liveRecords sound.bounded.2
  · rw [show ({a with server := w'} : Account).server.transactions = a.server.transactions from swept.transactions] at found
    exact (sound.opened u y found).dwindle swept.favourites swept.history

theorem start_sound : Account.start.Sound := by
  refine ⟨⟨Nat.zero_le _,Nat.zero_le _⟩,fun t x found => ?_⟩
  simp [Account.start,Server.start] at found

end Account

def Database.Bounded (db : Database) : Prop := ∀ user, (db.account user).server.Bounded

def Database.fits (db : Database) : DatabaseAction → Bool
  | .sync user move => (db.account user).fits move
  | .begin _ _ _ _ _ | .sweep _ _ _ => true

namespace Database
variable {pg : Postgres} {db db' : Database} {action : DatabaseAction}

def Sound (db : Database) : Prop := ∀ user, (db.account user).Sound

theorem account_insert {a : Account} {user other : Uuid} :
    Database.account (db.insert user a) other = if user = other then a else db.account other := by
  unfold account
  rw [Table.get_insert]
  split <;> rfl

theorem Sound.insert {a : Account} {user : Uuid} (sound : db.Sound) (mine : a.Sound) :
    Database.Sound (db.insert user a) := by
  intro other
  rw [account_insert]
  split
  · exact mine
  · exact sound other

theorem empty_sound : Database.Sound (∅ : Database) := by
  intro user
  exact Account.start_sound

theorem Sound.sweep {statement : SweepStatement} {now : Instant} {keys : List Key} (sound : db.Sound) :
    Database.Sound (keys.foldl (sweepKey statement now) db) := by
  induction keys generalizing db with
  | nil => exact sound
  | cons key rest ih => exact ih (sound.insert ((sound key.userId).swept (Account.sweepRow_swept _ _ _ _)))

theorem Sound.step (sound : db.Sound) (taken : db.execute pg action = some db') (fits : db.fits action = true) :
    db'.Sound := by
  cases action with
  | begin user t client now request =>
    obtain ⟨a,begun,rfl⟩ := Option.map_eq_some_iff.mp taken
    unfold Account.begin at begun
    split at begun
    · cases begun
    · cases begun
      exact sound.insert ((sound user).begin _ _ _)
  | sync user move =>
    obtain ⟨a,moved,rfl⟩ := Option.map_eq_some_iff.mp taken
    exact sound.insert ((sound user).step moved fits)
  | sweep statement now keys =>
    cases taken
    exact sound.sweep

theorem fits_of_bounded (taken : db.execute pg action = some db') (bounded : db'.Bounded) : db.fits action = true := by
  cases action with
  | sync user move =>
    obtain ⟨a,moved,rfl⟩ := Option.map_eq_some_iff.mp taken
    have mine := bounded user
    rw [account_insert,if_pos rfl] at mine
    exact Account.fits_of_bounded moved mine
  | _ => rfl

end Database

end PersonalData
