import RockServer.LiveRows
import RockServer.SerialSchedule

namespace PersonalData
open DeviceControl (Uuid Instant)
open LastWriter (Change)

-- What an open transaction's counts are worth.

-- A collection of an open transaction: without upserts it only marks rows, and
-- with upserts its own count still holds unless it is to come or overtaken.
structure Shelf.Held {F : Type} (shelf : Shelf F) (committed : Records F) (limit : Nat) (offers counting free : Prop) : Prop where
  marks : ¬ offers → ∀ (id : Uuid) row, shelf.written[id]? = some row → row.deletedAt ≠ none
  within : offers → free → counting ∨ liveRecords (shelf.visible committed) ≤ limit

section held
variable {F : Type} {shelf shelf' : Shelf F} {committed committed' : Records F} {limit : Nat}
variable {offers counting counting' free free' : Prop}

theorem visible_dwindles (dwindles : Dwindles committed committed') :
    Dwindles (shelf.visible committed) (shelf.visible committed') := by
  intro id row found live
  rw [visible_get] at found
  rcases Option.or_eq_some_iff.mp found with own | ⟨unwritten,old⟩
  · exact ⟨row,by rw [visible_get,own,Option.some_or],live⟩
  · obtain ⟨before,there,still⟩ := dwindles id row old live
    exact ⟨before,by rw [visible_get,unwritten,Option.none_or,there],still⟩

theorem visible_same (same : shelf'.written = shelf.written) : shelf'.visible committed = shelf.visible committed := by
  unfold Shelf.visible
  rw [same]

theorem Shelf.Held.fresh (counts : offers → counting) : ({} : Shelf F).Held committed limit offers counting free :=
  ⟨fun _ id row found => by simp at found,fun offered _ => .inl (counts offered)⟩

theorem Shelf.Held.pass (held : shelf.Held committed limit offers counting free) (same : shelf'.written = shelf.written)
    (later : counting → counting') : shelf'.Held committed limit offers counting' free := by
  refine ⟨fun bare id row found => held.marks bare id row (same ▸ found),fun offered alone => ?_⟩
  rw [visible_same same]
  exact (held.within offered alone).imp_left later

theorem Shelf.Held.dwindle (held : shelf.Held committed limit offers counting free) (dwindles : Dwindles committed committed') :
    shelf.Held committed' limit offers counting free :=
  ⟨held.marks,fun offered alone => (held.within offered alone).imp_right
    (Nat.le_trans (visible_dwindles dwindles).liveRecords)⟩

-- Whoever has counted does not count on what another commits.
theorem Shelf.Held.overtaken (held : shelf.Held committed limit offers counting free)
    (late : offers → free' → counting) : shelf.Held committed' limit offers counting free' :=
  ⟨held.marks,fun offered alone => .inl (late offered alone)⟩

theorem Shelf.Held.write (held : shelf.Held committed limit offers counting free)
    (marked : ¬ offers → ∀ (id : Uuid) row, shelf'.written[id]? = some row →
      shelf.written[id]? = some row ∨ row.deletedAt ≠ none)
    (counts : offers → counting') : shelf'.Held committed limit offers counting' free := by
  refine ⟨fun bare id row found => ?_,fun offered _ => .inl (counts offered)⟩
  rcases marked bare id row found with old | new
  · exact held.marks bare id row old
  · exact new

theorem Shelf.Held.counted (held : shelf.Held committed limit offers counting free)
    (fits : liveRecords (shelf.visible committed) ≤ limit) : shelf.Held committed limit offers counting' free :=
  ⟨held.marks,fun _ _ => .inr fits⟩

-- A transaction without upserts commits marks only.
theorem Shelf.Held.commits (held : shelf.Held committed limit offers counting free) (bare : ¬ offers) :
    Dwindles committed (shelf.visible committed) := by
  intro id row found live
  rw [visible_get] at found
  rcases Option.or_eq_some_iff.mp found with own | ⟨_,old⟩
  · exact absurd live (held.marks bare id row own)
  · exact ⟨row,old,live⟩

theorem insertOnConflict_marks {bare : Instant → F} {n : Nat} {id : Uuid} {stamp : Instant} (other : Uuid) (row : Record F)
    (found : (shelf.insertOnConflict committed bare n (id,.delete stamp)).written[other]? = some row) :
    shelf.written[other]? = some row ∨ row.deletedAt ≠ none := by
  unfold Shelf.insertOnConflict at found
  dsimp only at found
  split at found
  · rw [Table.get_insert] at found
    split at found
    · cases Option.some.inj found
      exact .inr (fun live => nomatch live)
    · exact .inl found
  · exact .inl found

theorem expire_marks {shelf : Shelf HistoryFields} {committed : Records HistoryFields} {clock : Instant} {n : Nat}
    {recordId : Uuid} (other : Uuid) (row : HistoryRecord)
    (found : (shelf.expire committed clock n recordId).written[other]? = some row) :
    shelf.written[other]? = some row ∨ row.deletedAt ≠ none := by
  unfold Shelf.expire at found
  split at found
  · exact .inl found
  · split at found
    · dsimp only at found
      rw [Table.get_insert] at found
      split at found
      · cases Option.some.inj found
        exact .inr (fun live => nomatch live)
      · exact .inl found
    · exact .inl found

end held

-- A list that is read off from the front: what is left of a program.
section suffix
variable {A : Type} {head : A} {tail before after : List A}

theorem suffix_keeps (left : head :: tail <:+ before ++ after) (other : head ∉ after) : after <:+ tail := by
  rcases List.suffix_or_suffix_of_suffix left (List.suffix_append before after) with inside | outside
  · exact absurd (inside.subset List.mem_cons_self) other
  · rcases List.suffix_cons_iff.mp outside with same | later
    · exact absurd (same ▸ List.mem_cons_self) other
    · exact later

theorem suffix_past (left : head :: tail <:+ before ++ after) (other : head ∉ before) : head :: tail <:+ after := by
  rcases List.suffix_or_suffix_of_suffix left (List.suffix_append before after) with inside | ⟨more,same⟩
  · exact inside
  · cases more with
    | nil => exact ⟨[],same.symm⟩
    | cons first more =>
      obtain ⟨earlier,whole⟩ := left
      rw [← same,← List.append_assoc] at whole
      have begins := List.append_cancel_right whole
      simp only [List.cons_append,List.cons.injEq] at same
      exact absurd (begins ▸ List.mem_append_right earlier (same.1 ▸ List.mem_cons_self)) other

end suffix

section program
variable {request : SyncRequest} {statement : Statement} {tail : List Statement}

def Statement.writesFavourites : Statement → Bool
  | .favouriteUpsert _ | .favouriteDelete _ => true
  | _ => false

def Statement.writesHistory : Statement → Bool
  | .historyUpsert _ | .historyDelete _ | .expireHistory => true
  | _ => false

theorem program_favourites (offered : request.favourites.upserts ≠ []) : request.program =
    (request.favourites.upserts.map .favouriteUpsert ++ request.favourites.deletes.map .favouriteDelete) ++
      .favouriteLimit :: (request.historyStatements ++ [.readFavourites,.readHistory,.commit]) := by
  rw [program_stages,SyncRequest.favouriteStatements,if_neg (List.isEmpty_iff.not.mpr offered),List.append_assoc]
  rfl

theorem program_history (offered : request.history.upserts ≠ []) : ∃ before, request.program =
    before ++ [.historyLimit,.readFavourites,.readHistory,.commit] := by
  refine ⟨request.favouriteStatements ++ (request.history.upserts.map .historyUpsert ++
    request.history.deletes.map .historyDelete ++ [.expireHistory]),?_⟩
  rw [program_stages,SyncRequest.historyStatements,if_neg (List.isEmpty_iff.not.mpr offered)]
  simp only [List.append_assoc,List.cons_append,List.nil_append]

theorem program_commit (left : .commit :: tail <:+ request.program) : tail = [] := by
  have ends : request.program = (request.preparation ++ [.readFavourites,.readHistory]) ++ [.commit] := by
    simp [SyncRequest.program]
  rw [ends] at left
  have last := suffix_past left fun listed => by
    rcases List.mem_append.mp listed with early | read
    · exact Bool.noConfusion (preparation_prepares request _ early)
    · simp at read
  have short := last.length_le
  simpa using short

-- While rows of a collection are still to be written, so is its count.
theorem favourites_uncounted (left : statement :: tail <:+ request.program) (writes : statement.writesFavourites = true)
    (offered : request.favourites.upserts ≠ []) : .favouriteLimit ∈ tail := by
  rw [program_favourites offered] at left
  refine (suffix_keeps left fun listed => ?_).subset List.mem_cons_self
  simp only [SyncRequest.historyStatements,List.mem_cons,List.mem_append,List.mem_map] at listed
  cases statement with
  | favouriteUpsert upsert => simp at listed
  | favouriteDelete delete => simp at listed
  | _ => cases writes

theorem history_uncounted (left : statement :: tail <:+ request.program) (writes : statement.writesHistory = true)
    (offered : request.history.upserts ≠ []) : .historyLimit ∈ tail := by
  obtain ⟨before,ends⟩ := program_history offered
  rw [ends] at left
  refine (suffix_keeps left fun listed => ?_).subset List.mem_cons_self
  simp only [List.mem_cons,List.not_mem_nil,or_false] at listed
  rcases listed with rfl | rfl | rfl | rfl <;> cases writes

theorem favourites_offered {upsert : FavouriteUpsert} (listed : .favouriteUpsert upsert ∈ request.program) :
    request.favourites.upserts ≠ [] := by
  intro bare
  simp [SyncRequest.program,SyncRequest.preparation,bare] at listed

theorem history_offered {upsert : HistoryUpsert} (listed : .historyUpsert upsert ∈ request.program) :
    request.history.upserts ≠ [] := by
  intro bare
  simp [SyncRequest.program,SyncRequest.preparation,bare] at listed

end program

structure Transaction.Orderly (w : Server) (free : Prop) (x : Transaction) : Prop where
  left : x.rest <:+ x.request.program
  favourites : x.favourites.Held w.favourites maxFavouriteRecords (x.request.favourites.upserts ≠ [])
    (.favouriteLimit ∈ x.rest) free
  history : x.history.Held w.history maxHistoryRecords (x.request.history.upserts ≠ []) (.historyLimit ∈ x.rest) free

section orderly
variable {w : Server} {free : Prop} {x x' : Transaction} {head : Statement} {tail : List Statement}

-- A statement that leaves the written rows alone and is no count.
theorem Transaction.Orderly.pass (orderly : x.Orderly w free) (next : x.rest = head :: tail) (request : x'.request = x.request)
    (rest : x'.rest = tail) (favourites : x'.favourites.written = x.favourites.written)
    (history : x'.history.written = x.history.written) (uncounted : head ≠ .favouriteLimit ∧ head ≠ .historyLimit) :
    x'.Orderly w free := by
  have later : ∀ statement : Statement, head ≠ statement → statement ∈ x.rest → statement ∈ x'.rest := by
    intro statement other listed
    rw [next] at listed
    rw [rest]
    exact (List.mem_cons.mp listed).resolve_left fun same => other same.symm
  refine ⟨?_,?_,?_⟩
  · rw [request,rest]
    exact (List.suffix_cons head tail).trans (next ▸ orderly.left)
  · rw [request]
    exact orderly.favourites.pass favourites (later _ uncounted.1)
  · rw [request]
    exact orderly.history.pass history (later _ uncounted.2)

-- A move within a statement.
theorem Transaction.Orderly.stay (orderly : x.Orderly w free) (request : x'.request = x.request) (rest : x'.rest = x.rest)
    (favourites : x'.favourites.written = x.favourites.written) (history : x'.history.written = x.history.written) :
    x'.Orderly w free := by
  refine ⟨?_,?_,?_⟩
  · rw [request,rest]
    exact orderly.left
  · rw [request,rest]
    exact orderly.favourites.pass favourites id
  · rw [request,rest]
    exact orderly.history.pass history id

theorem Transaction.Orderly.favourite (orderly : x.Orderly w free) (next : x.rest = head :: tail)
    (writes : head.writesFavourites = true) (request : x'.request = x.request) (rest : x'.rest = tail)
    (marked : x.request.favourites.upserts = [] → ∀ (id : Uuid) row, x'.favourites.written[id]? = some row →
      x.favourites.written[id]? = some row ∨ row.deletedAt ≠ none)
    (history : x'.history.written = x.history.written) : x'.Orderly w free := by
  have left := next ▸ orderly.left
  refine ⟨?_,?_,?_⟩
  · rw [request,rest]
    exact (List.suffix_cons head tail).trans left
  · rw [request,rest]
    exact orderly.favourites.write (fun bare => marked (not_not.mp bare)) fun offered => favourites_uncounted left writes offered
  · rw [request,rest]
    refine orderly.history.pass history fun listed => ?_
    rw [next] at listed
    refine (List.mem_cons.mp listed).resolve_left fun same => ?_
    rw [← same] at writes
    cases writes

theorem Transaction.Orderly.play (orderly : x.Orderly w free) (next : x.rest = head :: tail)
    (writes : head.writesHistory = true) (request : x'.request = x.request) (rest : x'.rest = tail ∨ x'.rest = x.rest)
    (marked : x.request.history.upserts = [] → ∀ (id : Uuid) row, x'.history.written[id]? = some row →
      x.history.written[id]? = some row ∨ row.deletedAt ≠ none)
    (favourites : x'.favourites.written = x.favourites.written) : x'.Orderly w free := by
  have left := next ▸ orderly.left
  have within : ∀ statement, statement ∈ tail → statement ∈ x'.rest := by
    intro statement listed
    rcases rest with same | same
    · exact same ▸ listed
    · exact same ▸ next ▸ List.mem_cons_of_mem head listed
  refine ⟨?_,?_,?_⟩
  · rw [request]
    rcases rest with same | same
    · exact same ▸ (List.suffix_cons head tail).trans left
    · exact same ▸ orderly.left
  · rw [request]
    refine orderly.favourites.pass favourites fun listed => within _ ?_
    rw [next] at listed
    refine (List.mem_cons.mp listed).resolve_left fun same => ?_
    rw [← same] at writes
    cases writes
  · rw [request]
    exact orderly.history.write (fun bare => marked (not_not.mp bare)) fun offered =>
      within _ (history_uncounted left writes offered)

theorem Transaction.Orderly.countFavourites (orderly : x.Orderly w free) (next : x.rest = .favouriteLimit :: tail)
    (fits : liveRecords (x.favourites.visible w.favourites) ≤ maxFavouriteRecords) : {x with rest := tail}.Orderly w free := by
  refine ⟨(List.suffix_cons _ tail).trans (next ▸ orderly.left),orderly.favourites.counted fits,?_⟩
  refine orderly.history.pass rfl fun listed => ?_
  rw [next] at listed
  exact (List.mem_cons.mp listed).resolve_left fun same => nomatch same

theorem Transaction.Orderly.countHistory (orderly : x.Orderly w free) (next : x.rest = .historyLimit :: tail)
    (fits : liveRecords (x.history.visible w.history) ≤ maxHistoryRecords) : {x with rest := tail}.Orderly w free := by
  refine ⟨(List.suffix_cons _ tail).trans (next ▸ orderly.left),?_,orderly.history.counted fits⟩
  refine orderly.favourites.pass rfl fun listed => ?_
  rw [next] at listed
  exact (List.mem_cons.mp listed).resolve_left fun same => nomatch same

theorem Transaction.Orderly.dwindle {w' : Server} (orderly : x.Orderly w free) (favourites : Dwindles w.favourites w'.favourites)
    (history : Dwindles w.history w'.history) : x.Orderly w' free :=
  ⟨orderly.left,orderly.favourites.dwindle favourites,orderly.history.dwindle history⟩

theorem begun_orderly (client : Nat) (now : Instant) (request : SyncRequest) :
    (Transaction.begun client now request).Orderly w free := by
  refine ⟨List.suffix_refl _,.fresh fun offered => ?_,.fresh fun offered => ?_⟩
  · change Statement.favouriteLimit ∈ request.program
    rw [@program_favourites request offered]
    simp
  · obtain ⟨before,ends⟩ := @program_history request offered
    change Statement.historyLimit ∈ request.program
    rw [ends]
    simp

end orderly

end PersonalData
