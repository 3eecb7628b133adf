import RockServer.RateLimits

namespace RateLimits
open DeviceControl (Uuid Instant minutes)
open ReadCommitted (Rows Write Act Mode Process Program Outline overlay Covered Apart happens locked_kept)

-- A call that the store has answered, with the process that made it.
abbrev Served := Nat × RateReply

def reply (s : RateServer) (t : Nat) : Option RateReply := (s.processes[t]?).bind fun p => p.place.reply

def replies (s : RateServer) : List Served := s.processes.toList.filterMap fun entry => entry.2.place.reply.map (entry.1,·)

def RateReply.within (reply : RateReply) (keyHash : SecretHash) (opening : Instant) (lifetime : Int) : Bool :=
  reply.call.keyHash = keyHash && opening ≤ reply.now && reply.now < opening + minutes lifetime

def calledWithin (calls : List Served) (keyHash : SecretHash) (opening : Instant) (lifetime : Int) : Nat :=
  calls.countP fun call => call.2.within keyHash opening lifetime

def admittedWithin (calls : List Served) (keyHash : SecretHash) (opening : Instant) (lifetime : Int) : Nat :=
  calls.countP fun call => call.2.count.isSome && call.2.within keyHash opening lifetime

def RatePlace.createdRequest : RatePlace → Bool
  | .created _ _ => true
  | _ => false

-- Pairing requests created by calls of that time.
def createdWithin (s : RateServer) (keyHash : SecretHash) (opening : Instant) (lifetime : Int) : Nat :=
  s.processes.toList.countP fun entry =>
    entry.2.place.createdRequest && entry.2.place.reply.any fun reply => reply.within keyHash opening lifetime

-- The first call that a bucket admits.
def Opens (keyHash : SecretHash) (call : Served) : Prop := call.2.call.keyHash = keyHash ∧ call.2.count = some 1

section windows
variable (calls : List Served) (keyHash : SecretHash) (lifetime limit : Int)

def Alike : Prop := ∀ call ∈ calls, call.2.call.keyHash = keyHash → call.2.call = ⟨keyHash,lifetime,limit⟩

-- Within one lifetime of a bucket no more calls than its limit are admitted.
def Bounded : Prop := ∀ call ∈ calls, Opens keyHash call → (admittedWithin calls keyHash call.2.now lifetime : Int) ≤ limit

-- The calls of that time are few, or all of one minute.
def Spread : Prop := ∀ call ∈ calls, Opens keyHash call →
  (calledWithin calls keyHash call.2.now lifetime : Int) ≤ limit ∨
  1 ≤ limit ∧ ∀ one ∈ calls, ∀ two ∈ calls, one.2.within keyHash call.2.now lifetime = true →
    two.2.within keyHash call.2.now lifetime = true → truncMinute one.2.now = truncMinute two.2.now

-- Calls served at non-decreasing database times.
def InOrder : Prop := calls.Pairwise fun one two =>
  one.2.call.keyHash = keyHash → two.2.call.keyHash = keyHash → one.2.now ≤ two.2.now

end windows

def bucketOf (call : Served) : SecretHash ×ₗ Instant := call.2.call.bucket call.2.now
def countOf (call : Served) : Option Int := call.2.count
def limitOf (call : Served) : Int := call.2.call.limit

-- The calls in the order in which their statements took effect.
structure Record (s : RateServer) (record : List Served) : Prop where
  distinct : record.Nodup
  members : ∀ t r, (t,r) ∈ record ↔ reply s t = some r
  answered : FixedWindows.Answered bucketOf countOf limitOf record
  tallied : ∀ b, (s.db.rateLimitBuckets[b]?).map RateLimitBucket.requestCount =
    FixedWindows.stored (FixedWindows.admitted bucketOf countOf record b)

variable {db db' : RateDb} {p q : RateProcess} {now : Instant} {place next : RatePlace}
variable {s s' origin : RateServer} {move : RateMove} {moves : List RateMove} {t u : Nat} {record calls : List Served}
variable {keyHash : SecretHash} {lifetime limit : Int} {call : RateCall}

theorem consume_grant : (consume db now call).map RateLimitBucket.requestCount =
    FixedWindows.grant ((db.rateLimitBuckets[call.bucket now]?).map RateLimitBucket.requestCount) call.limit := by
  unfold consume FixedWindows.grant
  cases db.rateLimitBuckets[call.bucket now]? with
  | none => rfl
  | some row =>
    dsimp only [Option.map_some]
    split <;> rfl

theorem consume_same (same : db.rateLimitBuckets[call.bucket now]? = db'.rateLimitBuckets[call.bucket now]?) :
    consume db now call = consume db' now call := by
  unfold consume
  rw [same]

def bucketKey (now : Instant) (request : RateRequest) : RateKey := .bucket (request.call.bucket now)

def bucketWrites (now : Instant) (request : RateRequest) (row : Option RateLimitBucket) : List (Write RateRow) :=
  match row with
  | some row => [⟨.bucket (request.call.bucket now),row⟩]
  | none => []

-- Places where a transaction has written nothing; only an admitted call goes on
-- to create a request.
def RatePlace.Idle : RatePlace → Prop
  | .consumed _ _ | .inserted _ _ => False
  | .creating _ reply | .created _ reply => reply.count.isSome = true
  | _ => True

-- Every act, by the place it starts from.
inductive Acts (now : Instant) (db : RateDb) : RatePlace → RateAct → Prop where
  | begin {place next : RatePlace} : next.reply = place.reply → next.Idle → Acts now db place (.begin next)
  | consume {request : RateRequest} : Acts now db (.consuming request) (.statement [(bucketKey now request,.noKeyUpdate)]
      (bucketWrites now request (consume db now request.call))
      (.consumed request ((consume db now request.call).map RateLimitBucket.requestCount)))
  | insert {id reply row} : Acts now db (.creating id reply) (.statement [] [⟨.pairing id,row⟩] (.inserted id reply))
  | conflict {id reply} : Acts now db (.creating id reply) (.rollback (.unavailable (some reply)))
  | answer {request count} : Acts now db (.consumed request count) (.commit (.answered request ⟨request.call,now,count⟩))
  | finish {id reply} : Acts now db (.inserted id reply) (.commit (.created id reply))

theorem rateAct_acts {act : RateAct} (acts : rateAct now db place = some act) : Acts now db place act := by
  unfold rateAct at acts
  split at acts
  case h_1 => cases acts; exact .begin rfl trivial
  case h_2 request =>
    cases acts
    have shape : consumeStatement db now request = .statement [(bucketKey now request,.noKeyUpdate)]
        (bucketWrites now request (consume db now request.call))
        (.consumed request ((consume db now request.call).map RateLimitBucket.requestCount)) := by
      unfold consumeStatement
      cases consume db now request.call <;> rfl
    rw [shape]
    exact .consume
  case h_3 => cases acts; exact .answer
  case h_4 request reply =>
    split at acts
    · rename_i admitted
      cases acts
      exact .begin rfl (Option.isSome_of_eq_some admitted)
    · cases acts
  case h_5 id reply =>
    cases acts
    unfold createPairingRequestForMinutes
    split
    · exact .conflict
    · exact .insert
  case h_6 => cases acts; exact .finish
  case h_7 => cases acts
  case h_8 => cases acts

-- What stands in an open transaction.
def Holds (db : RateDb) (p : RateProcess) : Prop := match p.place with
  | .consumed request count => (bucketKey p.now request,Mode.noKeyUpdate) ∈ p.locks ∧
    count = (consume db p.now request.call).map RateLimitBucket.requestCount ∧
    p.writes = bucketWrites p.now request (consume db p.now request.call)
  | .inserted id reply => (∃ row, p.writes = [⟨.pairing id,row⟩]) ∧ reply.count.isSome = true
  | place => p.writes = [] ∧ place.Idle

theorem holds_idle {locks : List (RateKey × Mode)} (idle : place.Idle) : Holds db ⟨place,now,locks,[]⟩ := by
  cases place <;> first | exact ⟨rfl,idle⟩ | cases idle

theorem failed_idle (holds : Holds db p) : p.place.failed.Idle := by
  obtain ⟨place,now,locks,writes⟩ := p
  cases place <;> first | trivial | exact holds.2

theorem failed_reply : place.failed.reply = place.reply := by cases place <;> rfl

theorem outline : Outline rateProgram (fun _ => True) Holds := by
  refine ⟨?_,?_,?_,?_,?_,?_,?_⟩
  · intro s place admitted _
    cases place <;> first | exact ⟨rfl,trivial⟩ | cases admitted
  · intro db p choice next _ _ acts clock
    obtain ⟨place,now,held,written⟩ := p
    cases rateAct_acts acts with
    | begin _ idle => exact holds_idle idle
  · intro db p choice locks writes next _ holds _ acts
    obtain ⟨place,now,held,written⟩ := p
    cases rateAct_acts acts with
    | @consume request =>
      obtain ⟨empty,_⟩ : written = [] ∧ _ := holds
      subst empty
      exact ⟨List.mem_append_right _ (List.mem_append_left _ List.mem_cons_self),rfl,rfl⟩
    | @insert id reply row =>
      obtain ⟨empty,admitted⟩ : written = [] ∧ _ := holds
      subst empty
      exact ⟨⟨row,rfl⟩,admitted⟩
  · intro db p choice next _ holds acts
    obtain ⟨place,now,held,written⟩ := p
    cases rateAct_acts acts with
    | answer => exact ⟨trivial,holds_idle trivial⟩
    | finish => exact ⟨trivial,holds_idle holds.2⟩
  · intro db p choice next _ _ acts
    obtain ⟨place,now,held,written⟩ := p
    cases rateAct_acts acts with
    | conflict => exact holds_idle trivial
  · exact fun _ holds => holds_idle (failed_idle holds)
  · intro db p q choice next _ holds _ _ covered apart _
    obtain ⟨place,now,held,written⟩ := p
    cases place with
    | consumed request count =>
      obtain ⟨locked,counted,wrote⟩ := holds
      have kept : Rows.get (overlay db q.writes) (bucketKey now request) = Rows.get db (bucketKey now request) :=
        locked_kept apart covered locked (by decide)
      have same : consume (overlay db q.writes) now request.call = consume db now request.call := consume_same kept
      exact ⟨locked,counted.trans (congrArg _ same.symm),wrote.trans (congrArg _ same.symm)⟩
    | inserted | entered | consuming | answered | creating | created | unavailable => exact holds

abbrev Step := ReadCommitted.Server.Step rateProgram
abbrev Runs := ReadCommitted.Server.Runs rateProgram
abbrev Sound (s : RateServer) : Prop := Outline.Sound (fun _ => True) Holds s

theorem reply_put : reply (s.put t p) u = if t = u then p.place.reply else reply s u := by
  unfold reply ReadCommitted.Server.put
  rw [Table.get_insert]
  split <;> rfl

theorem reply_kept (db : RateDb) (found : s.processes[t]? = some p) (same : q.place.reply = p.place.reply) :
    reply ({s with db := db}.put t q) u = reply s u := by
  rw [reply_put]
  split
  · rename_i here
    subst here
    unfold reply
    rw [found]
    exact same
  · rfl

-- A step serves one call, or none and leaves the counters as they are.
inductive Turn (s s' : RateServer) : Prop where
  | quiet : (∀ b : SecretHash ×ₗ Instant, s'.db.rateLimitBuckets[b]? = s.db.rateLimitBuckets[b]?) →
      (∀ u, reply s' u = reply s u) → Turn s s'
  | serve {t request now} : s'.db = overlay s.db (bucketWrites now request (consume s.db now request.call)) → reply s t = none →
      (∀ u, reply s' u = if t = u then
        some ⟨request.call,now,(consume s.db now request.call).map RateLimitBucket.requestCount⟩ else reply s u) → Turn s s'

theorem turn (sound : Sound s) (taken : Step s move s') : Turn s s' := by
  cases happens taken with
  | @start t place fresh admitted =>
    refine .quiet (fun _ => rfl) fun u => ?_
    rw [reply_put]
    split
    · rename_i here
      subst here
      unfold reply
      rw [fresh]
      cases place <;> first | rfl | cases admitted
    · rfl
  | @begin t choice p next found acts =>
    obtain ⟨place,now,held,written⟩ := p
    cases rateAct_acts acts with
    | begin same => exact .quiet (fun _ => rfl) fun u => reply_kept _ found same
  | @statement t choice p locks writes next found acts =>
    obtain ⟨place,now,held,written⟩ := p
    cases rateAct_acts acts with
    | consume | insert => exact .quiet (fun _ => rfl) fun u => reply_kept s.db found (by rfl)
  | @rollback t choice p next found acts =>
    obtain ⟨place,now,held,written⟩ := p
    cases rateAct_acts acts with
    | conflict => exact .quiet (fun _ => rfl) fun u => reply_kept s.db found (by rfl)
  | fail found => exact .quiet (fun _ => rfl) fun u => reply_kept _ found failed_reply
  | tick => exact .quiet (fun _ => rfl) fun _ => rfl
  | @commit t choice p next found acts =>
    have holds := sound.holds t p found
    obtain ⟨place,now,held,written⟩ := p
    cases rateAct_acts acts with
    | @answer request count =>
      obtain ⟨_,counted,wrote⟩ := holds
      dsimp only at counted wrote
      subst counted
      refine .serve (congrArg _ wrote) ?_ fun u => reply_put
      unfold reply
      rw [found]
      rfl
    | @finish id given =>
      obtain ⟨⟨row,wrote⟩,_⟩ := holds
      dsimp only at wrote
      subst wrote
      exact .quiet (fun _ => rfl) fun u => reply_kept _ found (by rfl)

-- What the counters hold after a call has been served.
theorem tallied_serve {now : Instant} {request : RateRequest} {count : Option Int} {b : SecretHash ×ₗ Instant}
    (tallied : ∀ b : SecretHash ×ₗ Instant, (db.rateLimitBuckets[b]?).map RateLimitBucket.requestCount =
      FixedWindows.stored (FixedWindows.admitted bucketOf countOf record b))
    (served : count = (consume db now request.call).map RateLimitBucket.requestCount) :
    ((overlay db (bucketWrites now request (consume db now request.call))).rateLimitBuckets[b]?).map RateLimitBucket.requestCount =
      FixedWindows.stored (FixedWindows.admitted bucketOf countOf (record ++ [(t,⟨request.call,now,count⟩)]) b) := by
  have rule : count = FixedWindows.grant (FixedWindows.stored
      (FixedWindows.admitted bucketOf countOf record (request.call.bucket now))) request.call.limit := by
    rw [← tallied,served]
    exact consume_grant
  rw [FixedWindows.admitted_snoc]
  cases written : consume db now request.call with
  | none =>
    rw [written,Option.map_none] at served
    rw [if_neg (by simp [countOf,served]),Nat.add_zero,← tallied]
    rfl
  | some row =>
    rw [written,Option.map_some] at served
    by_cases here : request.call.bucket now = b
    · subst here
      rw [if_pos ⟨by simp [countOf,served],rfl⟩]
      have grown := FixedWindows.grant_count (rule.symm.trans served)
      change ((db.rateLimitBuckets.insert _ row)[_]?).map RateLimitBucket.requestCount = _
      rw [Table.get_insert,if_pos rfl,Option.map_some,grown]
      rfl
    · rw [if_neg fun both => here both.2]
      change ((db.rateLimitBuckets.insert _ row)[_]?).map RateLimitBucket.requestCount = _
      rw [Table.get_insert_ne here]
      exact tallied b

theorem record_step (kept : Record s record) (taken : Turn s s') : ∃ record', Record s' record' := by
  cases taken with
  | quiet buckets replies =>
    refine ⟨record,kept.distinct,fun t r => ?_,kept.answered,fun b => ?_⟩
    · rw [replies]
      exact kept.members t r
    · rw [buckets]
      exact kept.tallied b
  | @serve t request now after unserved replies =>
    refine ⟨record ++ [(t,⟨request.call,now,(consume s.db now request.call).map RateLimitBucket.requestCount⟩)],?_,?_,
      FixedWindows.answered_snoc kept.answered ?_,?_⟩
    · refine List.nodup_append.mpr ⟨kept.distinct,List.nodup_singleton _,?_⟩
      rintro ⟨u,r⟩ member other here rfl
      cases List.mem_singleton.mp here
      rw [kept.members,unserved] at member
      cases member
    · intro u r
      rw [List.mem_append,List.mem_singleton,replies]
      constructor
      · rintro (old | new)
        · have stood := (kept.members u r).mp old
          rw [if_neg fun same => by rw [← same,unserved] at stood; cases stood]
          exact stood
        · cases new
          exact if_pos rfl
      · intro there
        split at there
        · rename_i same
          cases there
          exact .inr (same ▸ rfl)
        · exact .inl ((kept.members u r).mpr there)
    · exact consume_grant.trans (congrArg (FixedWindows.grant · _) (kept.tallied _))
    · intro b
      rw [after]
      exact tallied_serve kept.tallied rfl

theorem mem_replies {r : RateReply} : (t,r) ∈ replies s ↔ reply s t = some r := by
  unfold replies reply
  rw [List.mem_filterMap,Option.bind_eq_some_iff]
  constructor
  · rintro ⟨⟨u,p⟩,member,mapped⟩
    obtain ⟨r',answered,same⟩ := Option.map_eq_some_iff.mp mapped
    cases same
    exact ⟨p,Table.mem_entries.mp member,answered⟩
  · rintro ⟨p,found,answered⟩
    exact ⟨(t,p),Table.mem_entries.mpr found,Option.map_eq_some_iff.mpr ⟨r,answered,rfl⟩⟩

theorem replies_distinct : (replies s).Nodup := by
  unfold replies
  rw [List.Nodup,List.pairwise_filterMap]
  refine Table.entries_ordered.imp fun {a b} before x left y right same => ?_
  obtain ⟨_,_,rfl⟩ := Option.map_eq_some_iff.mp left
  obtain ⟨_,_,rfl⟩ := Option.map_eq_some_iff.mp right
  exact absurd (congrArg Prod.fst same) (ne_of_lt before)

theorem Record.perm (kept : Record s record) : record.Perm (replies s) := by
  refine (List.perm_ext_iff_of_nodup kept.distinct replies_distinct).mpr fun ⟨t,r⟩ => ?_
  rw [mem_replies]
  exact kept.members t r

theorem bounded_perm (same : calls.Perm record) (bounded : Bounded calls keyHash lifetime limit) :
    Bounded record keyHash lifetime limit := by
  intro call member opens
  have few := bounded call (same.mem_iff.mpr member) opens
  unfold admittedWithin at few ⊢
  rwa [← same.countP_eq]

theorem spread_perm (same : calls.Perm record) (spread : Spread calls keyHash lifetime limit) :
    Spread record keyHash lifetime limit := by
  intro call member opens
  have few := spread call (same.mem_iff.mpr member) opens
  unfold calledWithin at few ⊢
  rw [same.countP_eq] at few
  exact few.imp_right fun ⟨positive,single⟩ => ⟨positive,fun one first two second =>
    single one (same.mem_iff.mpr first) two (same.mem_iff.mpr second)⟩

theorem within_key {r : RateReply} {opening : Instant} (inside : r.within keyHash opening lifetime = true) :
    r.call.keyHash = keyHash ∧ opening ≤ r.now ∧ r.now < opening + minutes lifetime := by
  unfold RateReply.within at inside
  rw [Bool.and_eq_true,Bool.and_eq_true,decide_eq_true_iff,decide_eq_true_iff,decide_eq_true_iff] at inside
  exact ⟨inside.1.1,inside.1.2,inside.2⟩

theorem bucket_eq {one two : Served} : bucketOf one = bucketOf two ↔
    one.2.call.keyHash = two.2.call.keyHash ∧ truncMinute one.2.now = truncMinute two.2.now := by
  unfold bucketOf RateCall.bucket
  rw [toLex_inj,Prod.mk.injEq]

theorem alike_uniform (alike : Alike record keyHash lifetime limit) {opening : Instant} (one : Served) (_ : one ∈ record)
    (inside : one.2.within keyHash opening lifetime = true) (two : Served) (member : two ∈ record)
    (same : bucketOf two = bucketOf one) : limitOf two = limit := by
  unfold limitOf
  rw [alike two member ((bucket_eq.mp same).1.trans (within_key inside).1)]

-- The instants of a minute all lie on one side of any other minute.
theorem minute_later {a b c : Int} (apart : truncMinute a ≠ truncMinute b) (same : truncMinute a = truncMinute c)
    (since : b ≤ c) : b ≤ a := by
  have nanoseconds (x : Int) : truncMinute x = x / 60000000000 * 60000000000 := rfl
  have earlier : b / 60000000000 * 60000000000 ≤ c / 60000000000 * 60000000000 := by omega
  rw [← nanoseconds,← nanoseconds,← same] at earlier
  have before := lt_of_le_of_ne earlier apart.symm
  rw [nanoseconds,nanoseconds] at before
  change (_ : Int) < _ at before
  omega

-- Served in order, a window from the opening of a bucket holds with a call all
-- earlier ones of its bucket.
theorem window_closed (answered : FixedWindows.Answered bucketOf countOf limitOf record) (ordered : InOrder record keyHash)
    {opener : Served} (member : opener ∈ record) (opens : Opens keyHash opener) (earlier : List Served) (call : Served)
    (later : List Served) (split : record = earlier ++ call :: later)
    (inside : call.2.within keyHash opener.2.now lifetime = true) (other : Served) (before : other ∈ earlier)
    (same : bucketOf other = bucketOf call) : other.2.within keyHash opener.2.now lifetime = true := by
  obtain ⟨mine,since,ending⟩ := within_key inside
  obtain ⟨key,minute⟩ := bucket_eq.mp same
  have prior : other.2.now ≤ call.2.now := by
    unfold InOrder at ordered
    rw [split,List.pairwise_append] at ordered
    exact ordered.2.2 other before call List.mem_cons_self (key.trans mine) mine
  have late : opener.2.now ≤ other.2.now := by
    by_cases here : bucketOf other = bucketOf opener
    · obtain ⟨front,back,parts⟩ := List.append_of_mem member
      have there : other ∈ front ++ opener :: back := parts ▸ split ▸ List.mem_append_left _ before
      rcases List.mem_append.mp there with first | rest
      · exact absurd here (FixedWindows.counted_first answered parts opens.2 other first)
      · rcases List.mem_cons.mp rest with rfl | after
        · exact le_refl _
        · unfold InOrder at ordered
          rw [parts,List.pairwise_append,List.pairwise_cons] at ordered
          exact ordered.2.1.1 other after opens.1 (key.trans mine)
    · have apart : truncMinute other.2.now ≠ truncMinute opener.2.now := fun minutes =>
        here (bucket_eq.mpr ⟨(key.trans mine).trans opens.1.symm,minutes⟩)
      exact minute_later apart minute since
  unfold RateReply.within
  rw [Bool.and_eq_true,Bool.and_eq_true,decide_eq_true_iff,decide_eq_true_iff,decide_eq_true_iff]
  exact ⟨⟨key.trans mine,late⟩,lt_of_le_of_lt prior ending⟩

theorem spread_within {call : Served} (spread : (calledWithin record keyHash call.2.now lifetime : Int) ≤ limit ∨
    1 ≤ limit ∧ ∀ one ∈ record, ∀ two ∈ record, one.2.within keyHash call.2.now lifetime = true →
      two.2.within keyHash call.2.now lifetime = true → truncMinute one.2.now = truncMinute two.2.now) :
    (record.countP (fun served => served.2.within keyHash call.2.now lifetime) : Int) ≤ limit ∨
    1 ≤ limit ∧ ∀ one ∈ record, ∀ two ∈ record, one.2.within keyHash call.2.now lifetime = true →
      two.2.within keyHash call.2.now lifetime = true → bucketOf one = bucketOf two :=
  spread.imp_right fun ⟨positive,single⟩ => ⟨positive,fun one first two second left right =>
    bucket_eq.mpr ⟨(within_key left).1.trans (within_key right).1.symm,single one first two second left right⟩⟩

theorem spread_bounded (answered : FixedWindows.Answered bucketOf countOf limitOf record)
    (alike : Alike record keyHash lifetime limit) (spread : Spread record keyHash lifetime limit) :
    Bounded record keyHash lifetime limit := by
  intro call member opens
  exact FixedWindows.within (fun served => served.2.within keyHash call.2.now lifetime) answered
    (alike_uniform alike) (spread_within (spread call member opens))

theorem bounded_spread (answered : FixedWindows.Answered bucketOf countOf limitOf record)
    (alike : Alike record keyHash lifetime limit) (ordered : InOrder record keyHash)
    (bounded : Bounded record keyHash lifetime limit) : Spread record keyHash lifetime limit := by
  intro call member opens
  have exact := (FixedWindows.within_exact (fun served => served.2.within keyHash call.2.now lifetime) answered
    (alike_uniform alike) (window_closed answered ordered member opens)).mp (bounded call member opens)
  exact exact.imp_right fun ⟨positive,single⟩ => ⟨positive,fun one first two second left right =>
    (bucket_eq.mp (single one first two second left right)).2⟩

theorem created_admitted (sound : Sound s) (opening : Instant) :
    createdWithin s keyHash opening lifetime ≤ admittedWithin (replies s) keyHash opening lifetime := by
  unfold createdWithin admittedWithin replies
  rw [List.countP_filterMap]
  refine List.countP_mono_left fun entry member met => ?_
  have holds := sound.holds entry.1 entry.2 (Table.mem_entries.mp member)
  obtain ⟨u,⟨place,now,held,written⟩⟩ := entry
  cases place with
  | created id reply =>
    have admitted : reply.count.isSome = true := holds.2
    simpa [RatePlace.createdRequest,RatePlace.reply,admitted] using met
  | _ => cases met

theorem record_run (vacant : origin.processes = ∅) (fresh : origin.db.rateLimitBuckets = ∅) (path : Runs origin moves s) :
    Sound s ∧ ∃ record, Record s record := by
  have unanswered (t : Nat) : reply origin t = none := by
    unfold reply
    rw [vacant,Std.ExtTreeMap.getElem?_empty]
    rfl
  have begun : Record origin [] := by
    refine ⟨List.nodup_nil,fun t r => ?_,FixedWindows.answered_nil,fun b => ?_⟩
    · rw [unanswered]
      simp
    · rw [fresh,Std.ExtTreeMap.getElem?_empty]
      rfl
  exact path.invariant (fun s => Sound s ∧ ∃ record, Record s record) ⟨.initial vacant trivial,[],begun⟩
    fun s move s' ⟨sound,record,kept⟩ taken => ⟨outline.sound_step sound taken,record_step kept (turn sound taken)⟩

structure Limited (s : RateServer) (record : List Served) (keyHash : SecretHash) (lifetime limit : Int) : Prop where
  enough : Spread (replies s) keyHash lifetime limit → Bounded (replies s) keyHash lifetime limit
  exactly : InOrder record keyHash → (Bounded (replies s) keyHash lifetime limit ↔ Spread (replies s) keyHash lifetime limit)
  created : ∀ opening, createdWithin s keyHash opening lifetime ≤ admittedWithin (replies s) keyHash opening lifetime

-- A bucket lasts a minute by its key, whatever its lifetime says, so the limit
-- holds for the lifetime only where its calls are few or of one minute.
theorem rate_limited (vacant : origin.processes = ∅) (fresh : origin.db.rateLimitBuckets = ∅) (path : Runs origin moves s) :
    ∃ record, Record s record ∧ ∀ keyHash lifetime limit, Alike (replies s) keyHash lifetime limit →
      Limited s record keyHash lifetime limit := by
  obtain ⟨sound,record,kept⟩ := record_run vacant fresh path
  refine ⟨record,kept,fun keyHash lifetime limit alike => ?_⟩
  have uniform : Alike record keyHash lifetime limit := fun call member => alike call (kept.perm.mem_iff.mp member)
  have enough (spread : Spread (replies s) keyHash lifetime limit) : Bounded (replies s) keyHash lifetime limit :=
    bounded_perm kept.perm (spread_bounded kept.answered uniform (spread_perm kept.perm.symm spread))
  refine ⟨enough,fun ordered => ⟨fun bounded => ?_,enough⟩,created_admitted sound⟩
  exact spread_perm kept.perm (bounded_spread kept.answered uniform ordered (bounded_perm kept.perm.symm bounded))

def unlimited : RateServer := ⟨⟨∅,∅⟩,0,∅⟩

def createPairing (t : Nat) : List RateMove := .start t (.entered (.createPairing 7 t)) :: List.replicate 6 (.act t ())

-- One client asks for ten pairings, and a minute later for one more.
def overAMinute : List RateMove := (List.range 10).flatMap createPairing ++ .tick (minutes 1) :: createPairing 10

theorem rate_limited_minutes : ∃ s record, Record s record ∧ (replies s).length = 11 ∧
    Limited s record 7 pairingRateLimitMinutes pairingCreateLimit := by
  obtain ⟨s,path,seen⟩ := Transition.run_reaches (ReadCommitted.Server.execute rateProgram) unlimited overAMinute
    (fun s => (replies s).length = 11 ∧ ∀ call ∈ replies s, call.2.call = ⟨7,pairingRateLimitMinutes,pairingCreateLimit⟩)
    (by decide)
  obtain ⟨number,alike⟩ := of_decide_eq_true seen
  obtain ⟨record,kept,limited⟩ := rate_limited rfl rfl path
  exact ⟨s,record,kept,number,limited 7 _ _ fun call member _ => alike call member⟩

theorem rate_limit_exceeded : ∃ s moves, Runs unlimited moves s ∧ Alike (replies s) 7 pairingRateLimitMinutes pairingCreateLimit ∧
    InOrder (replies s) 7 ∧ ¬ Bounded (replies s) 7 pairingRateLimitMinutes pairingCreateLimit ∧ createdWithin s 7 0 pairingRateLimitMinutes = 11 := by
  obtain ⟨s,path,seen⟩ := Transition.run_reaches (ReadCommitted.Server.execute rateProgram) unlimited overAMinute
    (fun s => (∀ call ∈ replies s, call.2.call = ⟨7,pairingRateLimitMinutes,pairingCreateLimit⟩) ∧
      ((replies s).Pairwise fun one two => one.2.now ≤ two.2.now) ∧ (∃ call ∈ replies s, (call.2.call.keyHash = 7 ∧ call.2.count = some 1) ∧
        ¬ (admittedWithin (replies s) 7 call.2.now pairingRateLimitMinutes : Int) ≤ pairingCreateLimit) ∧
      createdWithin s 7 0 pairingRateLimitMinutes = 11) (by decide)
  obtain ⟨alike,ordered,⟨call,member,opens,crowded⟩,created⟩ := of_decide_eq_true seen
  exact ⟨s,_,path,fun call member _ => alike call member,ordered.imp fun before _ _ => before,fun bounded => crowded (bounded call member opens),created⟩

end RateLimits
