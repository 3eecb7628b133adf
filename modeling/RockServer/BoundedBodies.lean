import RockServer.EgressChecks

namespace Egress
open StationIcons (validatePublicUrl readBody fetchHops fetchBoundedOpt discoverHomepageIcons)

-- The response that the redirects from a source end at.
def Serves (library : UrlLibrary) (network : Nat → Hop) (source : String) (response : Response) : Prop :=
  ∃ start i url, library.parse source = some start ∧ i ≤ 5 ∧ Reaches library network 0 start i url ∧
    validatePublicUrl url (network i).answer = .ok () ∧ (network i).reply = .response response

-- A body that arrives whole, split in any way. The HTTP client gives its length
-- rightly or not at all.
structure Response.Carries (response : Response) (body : Bytes) : Prop where
  success : response.isSuccess = true
  whole : response.broken = false
  split : response.chunks.flatten = body
  declared : ∀ size, response.contentLength = some size → size = body.length

def bounded (limit : Nat) (truncateOversize : Bool) (body : Bytes) : Except IconValidationError Bytes :=
  if truncateOversize then .ok (body.take limit)
  else if body.length ≤ limit then .ok body else .error .size

-- The body is no longer than the limit, or a chunk of it ends there.
def Fits (limit : Nat) (chunks : List Bytes) : Prop :=
  chunks.flatten.length ≤ limit ∨ ∃ front back, chunks = front ++ back ∧ front.flatten.length = limit

variable {limit : Nat} {body kept : Bytes} {chunk : Bytes} {chunks : List Bytes} {truncateOversize : Bool}
variable {library : UrlLibrary} {network : Nat → Hop} {source : String} {response : Response}

theorem readBody_whole (inside : kept.length ≤ limit) :
    readBody limit false false kept chunks = bounded limit false (kept ++ chunks.flatten) := by
  induction chunks generalizing kept with
  | nil => simp [readBody,bounded,inside]
  | cons chunk rest ih =>
    rw [readBody]
    split
    · rename_i exceeds
      have long : ¬ (kept ++ (chunk :: rest).flatten).length ≤ limit := by
        simp only [List.flatten_cons,List.length_append]
        omega
      rw [bounded,if_neg long]
      rfl
    · rename_i room
      rw [ih (by rw [List.length_append]; omega),List.flatten_cons,List.append_assoc]

-- The loop drops a chunk that crosses the limit, all of it.
theorem readBody_cut (inside : kept.length ≤ limit) :
    readBody limit true false kept chunks = .ok ((kept ++ chunks.flatten).take limit) ↔
      kept.length + chunks.flatten.length ≤ limit ∨
        ∃ front back, chunks = front ++ back ∧ kept.length + front.flatten.length = limit := by
  induction chunks generalizing kept with
  | nil =>
    refine iff_of_true ?_ (.inl (by simpa using inside))
    simp [readBody,List.take_of_length_le inside]
  | cons chunk rest ih =>
    rw [readBody]
    split
    · rename_i exceeds
      rw [if_pos rfl]
      constructor
      · intro same
        have lengths := congrArg List.length (Except.ok.inj same)
        simp only [List.length_take,List.flatten_cons,List.length_append] at lengths
        exact .inr ⟨[],chunk :: rest,rfl,by simp only [List.flatten_nil,List.length_nil]; omega⟩
      · intro fits
        have full : kept.length = limit := by
          rcases fits with short | ⟨front,back,same,ends⟩
          · simp only [List.flatten_cons,List.length_append] at short
            omega
          · cases front with
            | nil => simpa using ends
            | cons first front =>
              cases same
              simp only [List.flatten_cons,List.length_append] at ends
              omega
        rw [← full,List.take_left]
    · rename_i room
      have inside' : (kept ++ chunk).length ≤ limit := by
        rw [List.length_append]
        omega
      rw [List.flatten_cons,← List.append_assoc,ih inside']
      simp only [List.length_append,Nat.add_assoc]
      refine or_congr_right ⟨?_,?_⟩
      · intro ⟨front,back,same,ends⟩
        exact ⟨chunk :: front,back,by rw [same]; rfl,by simpa [Nat.add_assoc] using ends⟩
      · intro ⟨front,back,same,ends⟩
        cases front with
        | nil =>
          -- A limit met before the chunk leaves room for an empty one only.
          simp only [List.flatten_nil,List.length_nil] at ends
          exact ⟨[],rest,rfl,by simp only [List.flatten_nil,List.length_nil]; omega⟩
        | cons first front =>
          cases same
          exact ⟨front,back,rfl,by simpa [Nat.add_assoc] using ends⟩

theorem read_exact (carries : response.Carries body) :
    StationIcons.Response.read response limit truncateOversize = bounded limit truncateOversize body ↔
      truncateOversize = false ∨ Fits limit response.chunks := by
  rw [StationIcons.Response.read,carries.success,carries.whole]
  cases truncateOversize with
  | true =>
    have loop := @readBody_cut limit [] response.chunks (Nat.zero_le _)
    simpa [bounded,Fits,carries.split] using loop
  | false =>
    refine iff_of_true ?_ (.inl rfl)
    have loop := @readBody_whole limit [] response.chunks (Nat.zero_le _)
    rw [List.nil_append,carries.split] at loop
    cases length : response.contentLength with
    | none => simpa using loop
    | some size =>
      rw [carries.declared size length]
      by_cases long : limit < body.length
      · simp [bounded,long]
      · simpa [long] using loop

theorem success_final (carries : response.Carries body) : response.isRedirection = false := by
  have success := carries.success
  simp only [Response.isSuccess,Bool.and_eq_true,decide_eq_true_eq] at success
  rw [Response.isRedirection,Bool.and_eq_false_iff]
  exact .inl (decide_eq_false (by omega))

-- A fetch follows its redirects and then reads what it is served.
theorem fetchHops_served {turns i j : Nat} {url last : Url} (reaches : Reaches library network i url j last) (near : j < i + turns)
    (valid : validatePublicUrl last (network j).answer = .ok ()) (reply : (network j).reply = .response response)
    (final : response.isRedirection = false) :
    (fetchHops library network limit truncateOversize turns i url).result = StationIcons.Response.read response limit truncateOversize := by
  induction reaches generalizing turns with
  | here =>
    cases turns with
    | zero => omega
    | succ turns => simp [fetchHops,valid,reply,final]
  | @next i j url next last redirects later ih =>
    obtain ⟨valid',response',reply',redirection,target⟩ := redirects
    cases turns with
    | zero =>
      have onward := reaches_later later
      omega
    | succ turns =>
      have room : j < i + 1 + turns := by omega
      have rest := ih room valid reply
      simpa [fetchHops,valid',reply',redirection,target,Fetch.after] using rest

theorem fetch_served (serves : Serves library network source response) (carries : response.Carries body) :
    (fetchBoundedOpt library network limit truncateOversize source).result =
      StationIcons.Response.read response limit truncateOversize := by
  obtain ⟨start,i,url,parsed,near,reaches,valid,reply⟩ := serves
  rw [fetchBoundedOpt,parsed]
  exact fetchHops_served reaches (by omega) valid reply (success_final carries)

-- Without truncation a body is read whole or refused. With it the bytes kept are
-- the first ones up to the limit just when a chunk ends there.
theorem bodies_bounded (library : UrlLibrary) (network : Nat → Hop) (source : String) (response : Response) (body : Bytes)
    (limit : Nat) (truncateOversize : Bool) (serves : Serves library network source response) (carries : response.Carries body) :
    ((fetchBoundedOpt library network limit truncateOversize source).result = bounded limit truncateOversize body ↔
      truncateOversize = false ∨ Fits limit response.chunks) ∧
    ∀ network' response' homepageIconCandidates, Serves library network' source response' → response'.Carries body →
      Fits maxHomepageBytes response.chunks → Fits maxHomepageBytes response'.chunks →
        (discoverHomepageIcons library network homepageIconCandidates source).result =
          (discoverHomepageIcons library network' homepageIconCandidates source).result := by
  constructor
  · rw [fetch_served serves carries,read_exact carries]
  · intro network' response' homepageIconCandidates serves' carries' fits fits'
    have here := (@read_exact maxHomepageBytes body true response carries).mpr (.inr fits)
    have there := (@read_exact maxHomepageBytes body true response' carries').mpr (.inr fits')
    simp only [discoverHomepageIcons,fetch_served serves carries,fetch_served serves' carries',here,there]

def pageUrl : Url := ⟨"http","",none,some (.domain "radio.example"),none,"/",none⟩
def pageLibrary : UrlLibrary := ⟨fun text => if text = "http://radio.example/" then some pageUrl else none,fun _ _ => none⟩

-- A server that sends these chunks.
def pageResponse (chunks : List Bytes) : Response := ⟨200,[],none,chunks,false⟩
def page (chunks : List Bytes) : Nat → Hop := fun _ => ⟨some [.v4 ⟨8,8,8,8⟩],[.v4 ⟨8,8,8,8⟩],.response (pageResponse chunks)⟩

theorem page_serves (chunks : List Bytes) : Serves pageLibrary (page chunks) "http://radio.example/" (pageResponse chunks) :=
  ⟨pageUrl,0,pageUrl,by rfl,Nat.zero_le _,.here,by rfl,rfl⟩

theorem page_carries (chunks : List Bytes) : (pageResponse chunks).Carries chunks.flatten := ⟨by rfl,rfl,rfl,nofun⟩

theorem bodies_bounded_halves :
    (fetchBoundedOpt pageLibrary (page [[60,98],[62]]) 2 true "http://radio.example/").result = .ok [60,98] ∧
    (discoverHomepageIcons pageLibrary (page [[60,98],[62]]) (fun _ _ => []) "http://radio.example/").result =
      (discoverHomepageIcons pageLibrary (page [[60],[98,62]]) (fun _ _ => []) "http://radio.example/").result := by
  have held := bodies_bounded pageLibrary (page [[60,98],[62]]) "http://radio.example/" _ _ 2 true
    (page_serves [[60,98],[62]]) (page_carries [[60,98],[62]])
  refine ⟨held.1.mpr (.inr (.inr ⟨[[60,98]],[[62]],rfl,rfl⟩)),?_⟩
  exact held.2 _ _ _ (page_serves [[60],[98,62]]) (page_carries [[60],[98,62]]) (.inl (by decide)) (.inl (by decide))

-- A homepage one byte over the bound, whose last two bytes come together.
def heavyPage (limit : Nat) : List Bytes := [List.replicate (limit - 1) 60,[60,60]]

theorem heavy_unfit (positive : 0 < limit) : ¬ Fits limit (heavyPage limit) := by
  intro fits
  rcases fits with short | ⟨front,back,same,ends⟩
  · simp [heavyPage] at short
    omega
  · cases front with
    | nil =>
      simp only [List.flatten_nil,List.length_nil] at ends
      omega
    | cons first front =>
      cases front with
      | nil =>
        cases same
        simp at ends
        omega
      | cons second front =>
        obtain ⟨rfl,tail⟩ := List.cons.inj same
        obtain ⟨rfl,_⟩ := List.cons.inj tail
        simp at ends
        omega

theorem chunk_dropped : ¬ ∀ (library : UrlLibrary) (network : Nat → Hop) (source : String) (response : Response) (body : Bytes),
    Serves library network source response → response.Carries body →
      (fetchBoundedOpt library network maxHomepageBytes true source).result = .ok (body.take maxHomepageBytes) := by
  intro all
  have serves := page_serves (heavyPage maxHomepageBytes)
  have carries := page_carries (heavyPage maxHomepageBytes)
  have kept := all _ _ _ _ _ serves carries
  rw [fetch_served serves carries] at kept
  rcases (read_exact carries).mp kept with whole | fits
  · cases whole
  · exact heavy_unfit (by decide) fits

end Egress
