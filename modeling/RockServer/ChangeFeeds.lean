import RockServer.Transition

-- A reader that follows a feed of changes. It keeps what it last showed of each
-- key, and after each announcement it reads the key again, part by part, while
-- the world goes on.
namespace ChangeFeed
variable {World Key View Draft Shown : Type}

-- `view` is what the world has of a key, and a key is `due` while a change to it
-- is not announced yet. A draft covers the keys it will show, and is sound for a
-- key as long as what it holds of it is what the world has.
structure Feed (World Key View Draft Shown : Type) where
  view : World → Key → View
  due : World → Key → Prop
  covers : Draft → Key → Prop
  sound : View → Key → Draft → Prop
  tells : View → Key → Shown → Prop

structure Reader (Key Draft Shown : Type) where
  unread : List Key
  draft : Option Draft
  shown : Key → Shown

namespace Feed
variable {feed : Feed World Key View Draft Shown} {world world' : World} {reader : Reader Key Draft Shown} {key : Key}
  {draft draft' : Draft}

-- With nothing on its way to the reader, what it shows or is about to show is
-- what the world has.
def UpToDate (feed : Feed World Key View Draft Shown) (world : World) (reader : Reader Key Draft Shown) (key : Key) : Prop :=
  ¬ feed.due world key → key ∉ reader.unread →
    (∃ draft, reader.draft = some draft ∧ feed.covers draft key ∧ feed.sound (feed.view world key) key draft) ∨
    (∀ draft, reader.draft = some draft → ¬ feed.covers draft key) ∧ feed.tells (feed.view world key) key (reader.shown key)

-- What the world may do to a key: change it with the announcement still to come,
-- announce it, or leave it as it is.
def Noticed (feed : Feed World Key View Draft Shown) (world world' : World) (announced : List Key) (key : Key) : Prop :=
  feed.due world' key ∨ key ∈ announced ∨ ¬ feed.due world key ∧ feed.view world' key = feed.view world key

theorem UpToDate.idle (kept : feed.UpToDate world reader key) (idle : reader.draft = none) (settled : ¬ feed.due world key)
    (seen : key ∉ reader.unread) : feed.tells (feed.view world key) key (reader.shown key) := by
  rcases kept settled seen with ⟨draft,going,_⟩ | ⟨_,told⟩
  · rw [idle] at going
    cases going
  · exact told

theorem UpToDate.noticed (kept : feed.UpToDate world reader key) {announced : List Key}
    (told : feed.Noticed world world' announced key) :
    feed.UpToDate world' {reader with unread := reader.unread ++ announced} key := by
  intro settled seen
  simp only [List.mem_append,not_or] at seen
  rcases told with due | listed | ⟨before,view⟩
  · exact absurd due settled
  · exact absurd listed seen.2
  · rw [view]
    exact kept before seen.1

-- A reader starts with everything still to read.
theorem UpToDate.opened (shown : Key → Shown) (covers : feed.covers draft key)
    (sound : ∀ view, feed.sound view key draft) : feed.UpToDate world ⟨[],some draft,shown⟩ key :=
  fun _ _ => .inl ⟨draft,rfl,covers,sound _⟩

-- An announcement taken up starts a reading of its key. The other keys are as
-- they were, since nothing was being read.
theorem UpToDate.take (kept : feed.UpToDate world reader key) (draft : Draft) {first : Key} {rest : List Key}
    (unread : reader.unread = first :: rest) (idle : reader.draft = none) (covers : feed.covers draft key ↔ key = first)
    (sound : ∀ view, feed.sound view first draft) : feed.UpToDate world ⟨rest,some draft,reader.shown⟩ key := by
  intro settled seen
  by_cases same : key = first
  · exact .inl ⟨draft,rfl,covers.mpr same,by rw [same]; exact sound _⟩
  · refine .inr ⟨fun other going => ?_,kept.idle idle settled ?_⟩
    · cases going
      exact fun covered => same (covers.mp covered)
    · rw [unread]
      exact fun listed => (List.mem_cons.mp listed).elim same seen

theorem UpToDate.read (kept : feed.UpToDate world reader key) (draft draft' : Draft) (going : reader.draft = some draft)
    (covers : feed.covers draft' key ↔ feed.covers draft key)
    (sound : ¬ feed.due world key → feed.sound (feed.view world key) key draft → feed.sound (feed.view world key) key draft') :
    feed.UpToDate world {reader with draft := some draft'} key := by
  intro settled seen
  rcases kept settled seen with ⟨other,same,covered,holds⟩ | ⟨apart,told⟩
  · rw [going] at same
    cases same
    exact .inl ⟨draft',rfl,covers.mpr covered,sound settled holds⟩
  · refine .inr ⟨fun other same => ?_,told⟩
    cases same
    exact fun covered => apart draft going (covers.mp covered)

-- The reading is shown.
theorem UpToDate.finish (kept : feed.UpToDate world reader key) (draft : Draft) (going : reader.draft = some draft) {shown : Key → Shown}
    (told : ¬ feed.due world key → feed.covers draft key → feed.sound (feed.view world key) key draft →
      feed.tells (feed.view world key) key (shown key))
    (others : ¬ feed.covers draft key → shown key = reader.shown key) :
    feed.UpToDate world ⟨reader.unread,none,shown⟩ key := by
  intro settled seen
  refine .inr ⟨?_,?_⟩
  · intro other same
    cases same
  · rcases kept settled seen with ⟨other,same,covered,holds⟩ | ⟨apart,held⟩
    · rw [going] at same
      cases same
      exact told settled covered holds
    · rw [← others (apart draft going)] at held
      exact held

end Feed
end ChangeFeed
