import RockServer.OutboundFetches

namespace Egress
open StreamUri (Ipv4Addr Ipv6Addr IpAddr)

-- A hop that may be followed: its URL names a web server, and its lookup gave
-- addresses that the caller accepts, all of them.
structure Admissible (accepts : IpAddr → Bool) (visit : Visit) : Prop where
  plain : visit.url.plain = true
  answered : ∃ addresses, visit.answer = some addresses ∧ ∀ ip ∈ addresses, accepts ip = true

def Visit.Checked (accepts : IpAddr → Bool) (visit : Visit) : Prop := ∀ address ∈ visit.connected,
  ∃ addresses, visit.answer = some addresses ∧ address.ip ∈ addresses ∧ accepts address.ip = true

-- What would lead elsewhere ends the fetch with an error and no connection.
def Refuses {ε α : Type} (accepts : IpAddr → Bool) (fetch : Fetch ε α) : Prop :=
  ∀ before visit after, fetch.visits = before ++ visit :: after → ¬ Admissible accepts visit →
    visit.connected = [] ∧ after = [] ∧ ∃ error, fetch.result = .error error

structure Confined {ε α : Type} (accepts : IpAddr → Bool) (fetch : Fetch ε α) : Prop where
  checked : ∀ visit ∈ fetch.visits, visit.Checked accepts
  refuses : Refuses accepts fetch

-- A redirect that the fetcher follows from its hop `i`.
def Redirects (library : UrlLibrary) (network : Nat → Hop) (i : Nat) (url next : Url) : Prop :=
  StationIcons.validatePublicUrl url (network i).answer = .ok () ∧ ∃ response, (network i).reply = .response response ∧
    response.isRedirection = true ∧ response.location.bind (library.join url) = some next

inductive Reaches (library : UrlLibrary) (network : Nat → Hop) : Nat → Url → Nat → Url → Prop where
  | here {i : Nat} {url : Url} : Reaches library network i url i url
  | next {i j : Nat} {url next last : Url} : Redirects library network i url next → Reaches library network (i + 1) next j last →
      Reaches library network i url j last

-- The lookup of the client's own leads to nothing that the check's has not.
def Hop.Agrees (hop : Hop) (url : Url) : Prop := ∀ name, url.host = some (.domain name) →
  StationIcons.validatePublicUrl url hop.answer = .ok () → ∀ ip ∈ hop.tried, ∃ addresses, hop.answer = some addresses ∧ ip ∈ addresses

-- So it is on every hop that the redirects lead to.
def Steady (library : UrlLibrary) (network : Nat → Hop) (source : String) : Prop :=
  ∀ start, library.parse source = some start → ∀ i url, i ≤ 5 → Reaches library network 0 start i url → (network i).Agrees url

variable {ε α β : Type} {accepts : IpAddr → Bool} {visit : Visit} {fetch : Fetch ε α} {result : Except ε α}
variable {library : UrlLibrary} {network : Nat → Hop} {url next : Url} {i turns : Nat}

theorem refuses_empty (error : ε) : Refuses accepts (⟨[],.error error⟩ : Fetch ε α) := by
  intro before visit after same
  cases before <;> cases same

theorem refuses_ended (either : Admissible accepts visit ∨ visit.connected = [] ∧ ∃ error, result = .error error) :
    Refuses accepts (⟨[visit],result⟩ : Fetch ε α) := by
  intro before other after same refused
  cases before with
  | nil =>
    cases same
    rcases either with admissible | ⟨none,error⟩
    · exact absurd admissible refused
    · exact ⟨none,rfl,error⟩
  | cons first before =>
    have short := congrArg List.length same
    simp at short

theorem refuses_after (admissible : Admissible accepts visit) (rest : Refuses accepts fetch) :
    Refuses accepts (fetch.after visit) := by
  intro before other after same refused
  cases before with
  | nil =>
    cases same
    exact absurd admissible refused
  | cons first before =>
    have tail : fetch.visits = before ++ other :: after := (List.cons.inj same).2
    exact rest before other after tail refused

-- What is made of the result changes neither hops nor errors.
theorem refuses_bind (next : α → Except ε β) (refuses : Refuses accepts fetch) :
    Refuses accepts (⟨fetch.visits,fetch.result.bind next⟩ : Fetch ε β) := by
  intro before visit after same refused
  obtain ⟨none,last,error,failed⟩ := refuses before visit after same refused
  refine ⟨none,last,error,?_⟩
  show fetch.result.bind next = .error error
  rw [failed]
  rfl

theorem confined_ended (checked : visit.Checked accepts)
    (either : Admissible accepts visit ∨ visit.connected = [] ∧ ∃ error, result = .error error) :
    Confined accepts (⟨[visit],result⟩ : Fetch ε α) :=
  ⟨fun _ member => List.mem_singleton.mp member ▸ checked,refuses_ended either⟩

theorem confined_after (checked : visit.Checked accepts) (admissible : Admissible accepts visit)
    (rest : Confined accepts fetch) : Confined accepts (fetch.after visit) :=
  ⟨List.forall_mem_cons.mpr ⟨checked,rest.checked⟩,refuses_after admissible rest.refuses⟩

theorem unconnected_checked (none : visit.connected = []) : visit.Checked accepts := by
  intro address member
  rw [none] at member
  cases member

section relay
variable {allowLoopback : Bool} {answer : Option (List IpAddr)} {host : Host} {address : SocketAddr}

-- A checked endpoint is the first of the addresses that a lookup gave.
theorem checkedEndpoint_sound (checked : Relay.checkedEndpoint allowLoopback url answer = .ok (host,address)) :
    url.plain = true ∧ url.host = some host ∧ ∃ addresses, lookupHost host answer = some addresses ∧ address.ip ∈ addresses ∧
      ∀ ip ∈ addresses, Relay.accepts allowLoopback ip = true := by
  unfold Relay.checkedEndpoint at checked
  split at checked
  · cases checked
  · rename_i plain
    rw [Bool.not_eq_true,Bool.or_eq_false_iff,Bool.not_eq_false'] at plain
    split at checked
    · rename_i host' port named known
      split at checked
      · cases checked
      · cases checked
      · rename_i first rest found
        split at checked
        · cases checked
        · rename_i accepted
          cases checked
          refine ⟨plain.1,named,_,found,List.mem_cons_self,fun ip member => ?_⟩
          by_contra rejected
          exact accepted (List.any_eq_true.mpr ⟨ip,member,by simpa using rejected⟩)
    · cases checked

theorem endpoint_admissible {connected : List SocketAddr}
    (checked : Relay.checkedEndpoint allowLoopback url answer = .ok (host,address)) :
    Admissible (Relay.accepts allowLoopback) ⟨url,url.host.bind fun host => lookupHost host answer,connected⟩ := by
  obtain ⟨plain,named,addresses,found,_,accepted⟩ := checkedEndpoint_sound checked
  refine ⟨plain,addresses,?_,accepted⟩
  show url.host.bind _ = _
  rw [named]
  exact found

theorem endpoint_checked {connected : List SocketAddr}
    (checked : Relay.checkedEndpoint allowLoopback url answer = .ok (host,address))
    (pinned : ∀ other ∈ connected, other.ip = address.ip) :
    (⟨url,url.host.bind fun host => lookupHost host answer,connected⟩ : Visit).Checked (Relay.accepts allowLoopback) := by
  obtain ⟨_,named,addresses,found,member,accepted⟩ := checkedEndpoint_sound checked
  intro other connected
  rw [pinned other connected]
  refine ⟨addresses,?_,member,accepted _ member⟩
  show url.host.bind _ = _
  rw [named]
  exact found

-- The client that is pinned to an address connects to no other.
theorem pinned_address (checked : Relay.checkedEndpoint allowLoopback url answer = .ok (host,address)) :
    ∀ other ∈ Relay.pinnedConnections host address, other.ip = address.ip := by
  obtain ⟨_,_,addresses,found,member,_⟩ := checkedEndpoint_sound checked
  intro other connected
  cases host with
  | domain =>
    rw [List.mem_singleton.mp connected]
  | ipv4 literal =>
    cases found
    rw [List.mem_singleton.mp connected]
    exact (List.mem_singleton.mp member).symm
  | ipv6 => cases found

theorem refused_endpoint {error : Unit} {result : Except Unit α} {connected : List SocketAddr} (none : connected = [])
    (failed : result = .error error) : Confined (Relay.accepts allowLoopback)
      (⟨[⟨url,url.host.bind fun host => lookupHost host answer,connected⟩],result⟩ : Fetch Unit α) :=
  confined_ended (unconnected_checked none) (.inr ⟨none,error,failed⟩)

theorem openIcy_confined (icy : IcyHop) : Confined (Relay.accepts allowLoopback) (Relay.openIcy allowLoopback url icy) := by
  unfold Relay.openIcy
  dsimp only
  split
  · exact refused_endpoint rfl rfl
  · split
    · exact refused_endpoint rfl rfl
    · rename_i host address checked
      refine confined_ended (endpoint_checked checked fun other member => ?_) (.inl (endpoint_admissible checked))
      rw [List.mem_singleton.mp member]

theorem openHops_confined (net : Network) : Confined (Relay.accepts allowLoopback)
    (Relay.openHops allowLoopback library net turns i url) := by
  induction turns generalizing i url with
  | zero => exact ⟨fun _ member => absurd member List.not_mem_nil,refuses_empty ()⟩
  | succ turns ih =>
    unfold Relay.openHops
    dsimp only
    split
    · exact refused_endpoint rfl rfl
    · rename_i host address endpoint
      have checked := endpoint_checked endpoint (pinned_address endpoint)
      have admissible : Admissible _ ⟨url,_,Relay.pinnedConnections host address⟩ := endpoint_admissible endpoint
      split
      · exact confined_ended checked (.inl admissible)
      · exact confined_after checked admissible (openIcy_confined net.icy)
      · split
        · split
          · exact confined_ended checked (.inl admissible)
          · split
            · exact confined_ended checked (.inl admissible)
            · exact confined_after checked admissible ih
        · split <;> exact confined_ended checked (.inl admissible)

theorem openUpstream_confined (net : Network) : Confined (Relay.accepts allowLoopback)
    (Relay.openUpstream allowLoopback library net url) := openHops_confined net

end relay

section fetcher
open StreamUri.StationIcons (publicIp)
variable {answer : Option (List IpAddr)} {hop : Hop} {limit : Nat} {truncateOversize : Bool}

theorem validatePublicUrl_sound (valid : StationIcons.validatePublicUrl url answer = .ok ()) :
    url.plain = true ∧ ∃ host addresses, url.host = some host ∧ lookupHost host answer = some addresses ∧
      ∀ ip ∈ addresses, publicIp ip = true := by
  unfold StationIcons.validatePublicUrl at valid
  split at valid
  · cases valid
  · rename_i plain
    rw [Bool.not_eq_true,Bool.not_eq_false'] at plain
    split at valid
    · cases valid
    · rename_i host named
      split at valid
      · cases valid
      · split at valid
        · cases valid
        · rename_i addresses found
          split at valid
          · cases valid
          · rename_i accepted
            refine ⟨plain,host,addresses,named,found,fun ip member => ?_⟩
            by_contra rejected
            exact accepted (List.any_eq_true.mpr ⟨ip,member,by simpa using rejected⟩)

def fetchVisit (url : Url) (hop : Hop) : Visit :=
  ⟨url,url.host.bind fun host => lookupHost host hop.answer,StationIcons.connections url hop.tried⟩

theorem fetchVisit_admissible (valid : StationIcons.validatePublicUrl url hop.answer = .ok ()) :
    Admissible publicIp (fetchVisit url hop) := by
  obtain ⟨plain,host,addresses,named,found,accepted⟩ := validatePublicUrl_sound valid
  refine ⟨plain,addresses,?_,accepted⟩
  show url.host.bind _ = _
  rw [named]
  exact found

-- Only names are looked up twice.
theorem fetchVisit_checked (valid : StationIcons.validatePublicUrl url hop.answer = .ok ()) :
    (fetchVisit url hop).Checked publicIp ↔ hop.Agrees url := by
  obtain ⟨plain,host,addresses,named,found,accepted⟩ := validatePublicUrl_sound valid
  have answered : (fetchVisit url hop).answer = some addresses := by
    show url.host.bind _ = _
    rw [named]
    exact found
  have reached : (fetchVisit url hop).connected =
      (host.reached hop.tried).map fun ip => ⟨ip,url.portOrKnownDefault.getD 80⟩ := by
    show StationIcons.connections url hop.tried = _
    unfold StationIcons.connections
    rw [named]
    rfl
  constructor
  · intro checked name domain _ ip member
    rw [named] at domain
    cases domain
    have connected : (⟨ip,url.portOrKnownDefault.getD 80⟩ : SocketAddr) ∈ (fetchVisit url hop).connected := by
      rw [reached]
      exact List.mem_map.mpr ⟨ip,member,rfl⟩
    obtain ⟨others,same,inside,_⟩ := checked _ connected
    rw [answered] at same
    cases same
    exact ⟨addresses,found,inside⟩
  · intro agrees address connected
    rw [reached] at connected
    obtain ⟨ip,member,rfl⟩ := List.mem_map.mp connected
    suffices inside : ip ∈ addresses from ⟨addresses,answered,inside,accepted ip inside⟩
    cases host with
    | domain name =>
      obtain ⟨others,same,inside⟩ := agrees name named valid ip member
      rw [show hop.answer = some addresses from found] at same
      cases same
      exact inside
    | ipv4 literal =>
      cases found
      exact member
    | ipv6 literal => cases found

theorem reaches_later {j : Nat} {last : Url} (reaches : Reaches library network i url j last) : i ≤ j := by
  induction reaches with
  | here => exact Nat.le_refl _
  | next _ _ ih => omega

-- The lookups agree on each of the next hops.
def SteadyFor (library : UrlLibrary) (network : Nat → Hop) (turns i : Nat) (url : Url) : Prop :=
  ∀ j last, j < i + turns → Reaches library network i url j last → (network j).Agrees last

theorem steady_ended (ends : ∀ next, ¬ Redirects library network i url next) :
    SteadyFor library network (turns + 1) i url ↔ (network i).Agrees url := by
  constructor
  · intro steady
    exact steady i url (by omega) .here
  · intro agrees j last _ reaches
    cases reaches with
    | here => exact agrees
    | next redirects _ => exact absurd redirects (ends _)

theorem steady_next (redirects : Redirects library network i url next) :
    SteadyFor library network (turns + 1) i url ↔
      (network i).Agrees url ∧ SteadyFor library network turns (i + 1) next := by
  constructor
  · intro steady
    refine ⟨steady i url (by omega) .here,fun j last bounded reaches => ?_⟩
    exact steady j last (by omega) (.next redirects reaches)
  · intro ⟨agrees,rest⟩ j last bounded reaches
    cases reaches with
    | here => exact agrees
    | next other reaches =>
      obtain ⟨_,response,replied,_,target⟩ := redirects
      obtain ⟨_,response',replied',_,target'⟩ := other
      cases replied.symm.trans replied'
      cases target.symm.trans target'
      exact rest j last (by omega) reaches

theorem fetchHops_refuses : Refuses publicIp (StationIcons.fetchHops library network limit truncateOversize turns i url) := by
  induction turns generalizing i url with
  | zero => exact refuses_empty _
  | succ turns ih =>
    unfold StationIcons.fetchHops
    dsimp only
    split
    · rename_i error invalid
      exact refuses_ended (.inr ⟨rfl,error,rfl⟩)
    · rename_i valid
      have admissible := fetchVisit_admissible valid
      split
      · exact refuses_ended (.inl admissible)
      · exact refuses_ended (.inl admissible)
      · split
        · split
          · exact refuses_ended (.inl admissible)
          · exact refuses_after admissible ih
        · exact refuses_ended (.inl admissible)

-- A hop that passes the check ends the fetch, or leads on to the next.
theorem ended_checked (valid : StationIcons.validatePublicUrl url (network i).answer = .ok ())
    (ends : ∀ next, ¬ Redirects library network i url next) :
    (∀ visit ∈ [fetchVisit url (network i)], visit.Checked publicIp) ↔ SteadyFor library network (turns + 1) i url := by
  rw [steady_ended ends,← fetchVisit_checked valid]
  exact List.forall_mem_singleton

theorem after_checked {rest : Fetch IconValidationError Bytes} (redirects : Redirects library network i url next)
    (ih : (∀ visit ∈ rest.visits, visit.Checked publicIp) ↔ SteadyFor library network turns (i + 1) next) :
    (∀ visit ∈ (rest.after (fetchVisit url (network i))).visits, visit.Checked publicIp) ↔
      SteadyFor library network (turns + 1) i url := by
  rw [steady_next redirects,← ih,← fetchVisit_checked redirects.1]
  exact List.forall_mem_cons

theorem fetchHops_checked :
    (∀ visit ∈ (StationIcons.fetchHops library network limit truncateOversize turns i url).visits, visit.Checked publicIp) ↔
      SteadyFor library network turns i url := by
  induction turns generalizing i url with
  | zero =>
    refine iff_of_true (fun visit member => absurd member List.not_mem_nil) fun j last bounded reaches => ?_
    have later := reaches_later reaches
    omega
  | succ turns ih =>
    unfold StationIcons.fetchHops
    dsimp only
    split
    · rename_i error invalid
      have ends : ∀ next, ¬ Redirects library network i url next := by
        intro next redirects
        cases invalid.symm.trans redirects.1
      rw [steady_ended ends]
      refine iff_of_true (List.forall_mem_singleton.mpr (unconnected_checked rfl)) fun name _ valid => ?_
      cases invalid.symm.trans valid
    · rename_i valid
      split
      · rename_i replied
        refine ended_checked valid fun next redirects => ?_
        obtain ⟨_,response,responded,_⟩ := redirects
        cases replied.symm.trans responded
      · rename_i replied
        refine ended_checked valid fun next redirects => ?_
        obtain ⟨_,response,responded,_⟩ := redirects
        cases replied.symm.trans responded
      · rename_i response replied
        split
        · rename_i redirection
          split
          · rename_i nowhere
            refine ended_checked valid fun next redirects => ?_
            obtain ⟨_,response',responded,_,target⟩ := redirects
            cases replied.symm.trans responded
            cases nowhere.symm.trans target
          · rename_i next target
            exact after_checked ⟨valid,response,replied,redirection,target⟩ ih
        · rename_i final
          refine ended_checked valid fun next redirects => ?_
          obtain ⟨_,response',responded,redirection,_⟩ := redirects
          cases replied.symm.trans responded
          exact final redirection

theorem fetchBoundedOpt_refuses (source : String) :
    Refuses publicIp (StationIcons.fetchBoundedOpt library network limit truncateOversize source) := by
  unfold StationIcons.fetchBoundedOpt
  cases library.parse source with
  | none => exact refuses_empty _
  | some start => exact fetchHops_refuses

theorem fetchBoundedOpt_checked (source : String) :
    (∀ visit ∈ (StationIcons.fetchBoundedOpt library network limit truncateOversize source).visits, visit.Checked publicIp) ↔
      Steady library network source := by
  unfold StationIcons.fetchBoundedOpt
  cases parsed : library.parse source with
  | none =>
    refine iff_of_true (fun visit member => absurd member List.not_mem_nil) fun start same => ?_
    cases parsed.symm.trans same
  | some start =>
    rw [fetchHops_checked]
    constructor
    · intro steady other same j url bounded reaches
      cases parsed.symm.trans same
      exact steady j url (by omega) reaches
    · intro steady j url bounded reaches
      exact steady start parsed j url (by omega) reaches

theorem bound_confined (next : Bytes → Except IconValidationError α) (source : String) :
    Confined publicIp (⟨(StationIcons.fetchBoundedOpt library network limit truncateOversize source).visits,
      (StationIcons.fetchBoundedOpt library network limit truncateOversize source).result.bind next⟩ : Fetch _ α) ↔
      Steady library network source := by
  constructor
  · intro confined
    exact (fetchBoundedOpt_checked source).mp confined.checked
  · intro steady
    exact ⟨(fetchBoundedOpt_checked source).mpr steady,refuses_bind next (fetchBoundedOpt_refuses source)⟩

end fetcher

-- The relay pins its client to a checked address. The fetcher's client looks the
-- name up again, so that its connections are checked just when the lookups agree.
theorem egress_checked (library : UrlLibrary) (network : Network) :
    (∀ allowLoopback url, Confined (Relay.accepts allowLoopback) (Relay.openUpstream allowLoopback library network url)) ∧
    (∀ (Icon : Type) (prepareIcon : Bytes → Except IconValidationError Icon) source,
      Confined StreamUri.StationIcons.publicIp (StationIcons.fetchIcon library network.hops prepareIcon source) ↔
        Steady library network.hops source) ∧
    (∀ homepageIconCandidates homepage, Confined StreamUri.StationIcons.publicIp
      (StationIcons.discoverHomepageIcons library network.hops homepageIconCandidates homepage) ↔
        Steady library network.hops homepage) :=
  ⟨fun _ _ => openUpstream_confined network,fun _ prepareIcon source => bound_confined prepareIcon source,
    fun _ homepage => bound_confined _ homepage⟩

-- A name server that answers the check with a public address, and the client
-- with the loopback one.
def rebound : Url := ⟨"http","",none,some (.domain "icons.example"),none,"/icon.png",none⟩

def rebinding : Hop := ⟨some [.v4 ⟨8,8,8,8⟩],[.v4 ⟨127,0,0,1⟩],.response ⟨200,[],none,[[1]],false⟩⟩

theorem rebinding_reaches_loopback :
    let fetched := StationIcons.fetchIcon ⟨fun text => if text = "http://icons.example/icon.png" then some rebound else none,
      fun _ _ => none⟩ (fun _ => rebinding) (fun body => .ok body) "http://icons.example/icon.png"
    fetched.visits.map (fun visit => visit.connected) = [[⟨.v4 ⟨127,0,0,1⟩,80⟩]] ∧ fetched.result = .ok [1] ∧
      ¬ Confined StreamUri.StationIcons.publicIp fetched := by
  refine ⟨by rfl,by rfl,fun confined => ?_⟩
  obtain ⟨_,_,_,accepted⟩ := confined.checked _ List.mem_cons_self _ List.mem_cons_self
  exact absurd accepted (by decide)

end Egress
