import RockServer.PublicDestinations

-- The two clients that open connections to addresses from outside: the icon
-- fetcher and the stream relay. Name servers and upstream servers answer as
-- they like, each lookup anew.
namespace Egress
open StreamUri (Ipv4Addr Ipv6Addr IpAddr)

def maxSourceBytes : Nat := 2 * 1024 * 1024
def maxHomepageBytes : Nat := 1024 * 1024
def maxRedirects : Nat := 3
def maxHeaders : Nat := 16 * 1024

inductive IconValidationError where
  | size
  | format
  | decode
  | dimensions
deriving DecidableEq

inductive Host where
  | domain (name : String)
  | ipv4 (address : Ipv4Addr)
  | ipv6 (address : Ipv6Addr)

structure Url where
  scheme : String
  username : String
  password : Option String
  host : Option Host
  port : Option Nat
  path : String
  fragment : Option String

-- The `url` crate.
structure UrlLibrary where
  parse : String → Option Url
  join : Url → String → Option Url

def Url.portOrKnownDefault (url : Url) : Option Nat :=
  url.port.or (if url.scheme = "http" then some 80 else if url.scheme = "https" then some 443 else none)

structure SocketAddr where
  ip : IpAddr
  port : Nat

abbrev Headers := List (String × String)
abbrev Bytes := List UInt8

-- A body comes in chunks, and may break off.
structure Response where
  status : Nat
  headers : Headers
  contentLength : Option Nat
  chunks : List Bytes
  broken : Bool

inductive Reply where
  | timeout
  | failed
  | response (response : Response)

-- What the network does on one hop: the answer to the check's lookup, the
-- addresses that a lookup of the client's own leads it to, the server's reply.
structure Hop where
  answer : Option (List IpAddr)
  tried : List IpAddr
  reply : Reply

structure IcyHop where
  answer : Option (List IpAddr)
  connects : Bool
  head : Option Headers

structure Network where
  hops : Nat → Hop
  icy : IcyHop

-- A hop of a fetch: its URL, what the check's lookup gave, and the connections
-- opened.
structure Visit where
  url : Url
  answer : Option (List IpAddr)
  connected : List SocketAddr

structure Fetch (ε α : Type) where
  visits : List Visit
  result : Except ε α

def Fetch.after {ε α : Type} (visit : Visit) (rest : Fetch ε α) : Fetch ε α := ⟨visit :: rest.visits,rest.result⟩

-- Literal IPv4 addresses are their own answer. The text of an IPv6 host keeps its
-- brackets, and with them it is neither an address nor a name.
def lookupHost (host : Host) (answer : Option (List IpAddr)) : Option (List IpAddr) := match host with
  | .domain _ => answer
  | .ipv4 address => some [.v4 address]
  | .ipv6 _ => none

-- The client connects to literal addresses without a lookup.
def Host.reached (host : Host) (resolved : List IpAddr) : List IpAddr := match host with
  | .domain _ => resolved
  | .ipv4 address => [.v4 address]
  | .ipv6 address => [.v6 address]

def Response.isRedirection (response : Response) : Bool := 300 ≤ response.status && response.status < 400
def Response.isSuccess (response : Response) : Bool := 200 ≤ response.status && response.status < 300

def toStr (value : String) : Option String :=
  if value.toList.all fun c => c = '\t' || 32 ≤ c.toNat && c.toNat < 127 then some value else none

def Response.location (response : Response) : Option String :=
  (response.headers.find? fun header => header.1 = "location").bind fun header => toStr header.2

def Url.plain (url : Url) : Bool :=
  (url.scheme = "http" || url.scheme = "https") && url.username = "" && url.password.isNone

namespace StationIcons

def localhost : Host → Bool
  | .domain name => name.toList.map StreamUri.toAsciiLowercase = "localhost".toList
  | _ => false

def validatePublicUrl (url : Url) (answer : Option (List IpAddr)) : Except IconValidationError Unit :=
  if !url.plain then .error .format
  else match url.host with
    | none => .error .format
    | some host =>
      if localhost host then .error .format
      else match lookupHost host answer with
        | none => .error .format
        | some addresses =>
          if addresses.any fun address => !StreamUri.StationIcons.publicIp address then .error .format else .ok ()

def readBody (limit : Nat) (truncateOversize : Bool) (broken : Bool) : Bytes → List Bytes → Except IconValidationError Bytes
  | body,[] => if broken then .error .decode else .ok body
  | body,chunk :: rest =>
    if limit < body.length + chunk.length then if truncateOversize then .ok body else .error .size
    else readBody limit truncateOversize broken (body ++ chunk) rest

def Response.read (response : Response) (limit : Nat) (truncateOversize : Bool) : Except IconValidationError Bytes :=
  if !response.isSuccess then .error .format
  else if !truncateOversize && response.contentLength.any (limit < ·) then .error .size
  else readBody limit truncateOversize response.broken [] response.chunks

-- The client's connections: it resolves names itself.
def connections (url : Url) (tried : List IpAddr) : List SocketAddr :=
  (url.host.elim [] fun host => host.reached tried).map fun ip => ⟨ip,url.portOrKnownDefault.getD 80⟩

variable (library : UrlLibrary) (network : Nat → Hop) (limit : Nat) (truncateOversize : Bool)

-- The remaining turns of the loop, at hop `i`.
def fetchHops : Nat → Nat → Url → Fetch IconValidationError Bytes
  | 0,_,_ => ⟨[],.error .format⟩
  | turns + 1,i,url =>
    let hop := network i
    let answer := url.host.bind fun host => lookupHost host hop.answer
    match validatePublicUrl url hop.answer with
    | .error error => ⟨[⟨url,answer,[]⟩],.error error⟩
    | .ok () =>
      let visit : Visit := ⟨url,answer,connections url hop.tried⟩
      match hop.reply with
      | .timeout | .failed => ⟨[visit],.error .decode⟩
      | .response response =>
        if response.isRedirection then
          match response.location.bind (library.join url) with
          | none => ⟨[visit],.error .format⟩
          | some next => (fetchHops turns (i + 1) next).after visit
        else ⟨[visit],Response.read response limit truncateOversize⟩

def fetchBoundedOpt (source : String) : Fetch IconValidationError Bytes := match library.parse source with
  | none => ⟨[],.error .format⟩
  | some url => fetchHops library network limit truncateOversize 6 0 url

-- What is made of the bytes opens no connection.
def fetchIcon {Icon : Type} (prepareIcon : Bytes → Except IconValidationError Icon) (source : String) :
    Fetch IconValidationError Icon :=
  let fetched := fetchBoundedOpt library network maxSourceBytes false source
  ⟨fetched.visits,fetched.result.bind prepareIcon⟩

def discoverHomepageIcons (homepageIconCandidates : Bytes → Url → List String) (homepage : String) :
    Fetch IconValidationError (List String) :=
  let fetched := fetchBoundedOpt library network maxHomepageBytes true homepage
  ⟨fetched.visits,fetched.result.bind fun body => match library.parse homepage with
    | none => .error .format
    | some base => .ok (homepageIconCandidates body base)⟩

end StationIcons

namespace Relay

def accepts (allowLoopback : Bool) (ip : IpAddr) : Bool :=
  StreamUri.Relay.publicIp ip || allowLoopback && match ip with
    | .v4 address => address.isLoopback
    | .v6 address => address.isLoopback

variable (allowLoopback : Bool)

-- Its first address is the one the client is pinned to.
def checkedEndpoint (url : Url) (answer : Option (List IpAddr)) : Except Unit (Host × SocketAddr) :=
  if !url.plain || url.fragment.isSome then .error ()
  else match url.host,url.portOrKnownDefault with
    | some host,some port => match lookupHost host answer with
      | none | some [] => .error ()
      | some (first :: rest) =>
        if (first :: rest).any fun address => !accepts allowLoopback address then .error () else .ok (host,⟨first,port⟩)
    | _,_ => .error ()

-- The client's own lookups of the pinned name give the pinned address.
def pinnedConnections (host : Host) (address : SocketAddr) : List SocketAddr :=
  (host.reached [address.ip]).map fun ip => ⟨ip,address.port⟩

def openIcy (url : Url) (icy : IcyHop) : Fetch Unit Headers :=
  let answer := url.host.bind fun host => lookupHost host icy.answer
  if url.scheme ≠ "http" then ⟨[⟨url,answer,[]⟩],.error ()⟩
  else match checkedEndpoint allowLoopback url icy.answer with
    | .error error => ⟨[⟨url,answer,[]⟩],.error error⟩
    | .ok (_,address) => ⟨[⟨url,answer,[address]⟩],match if icy.connects then icy.head else none with
      | some headers => .ok headers
      | none => .error ()⟩

def headerBytes (headers : Headers) : Nat := (headers.map fun header => header.1.utf8ByteSize + header.2.utf8ByteSize).sum

variable (library : UrlLibrary) (network : Network)

-- The loop from its hop `i` on; the last hop follows no redirect.
def openHops : Nat → Nat → Url → Fetch Unit Headers
  | 0,_,_ => ⟨[],.error ()⟩
  | turns + 1,i,url =>
    let hop := network.hops i
    let answer := url.host.bind fun host => lookupHost host hop.answer
    match checkedEndpoint allowLoopback url hop.answer with
    | .error error => ⟨[⟨url,answer,[]⟩],.error error⟩
    | .ok (host,address) =>
      let visit : Visit := ⟨url,answer,pinnedConnections host address⟩
      match hop.reply with
      | .timeout => ⟨[visit],.error ()⟩
      | .failed => (openIcy allowLoopback url network.icy).after visit
      | .response response =>
        if response.isRedirection then
          if i = maxRedirects then ⟨[visit],.error ()⟩
          else match response.location.bind (library.join url) with
            | none => ⟨[visit],.error ()⟩
            | some next => (openHops turns (i + 1) next).after visit
        else if !response.isSuccess || maxHeaders < headerBytes response.headers then ⟨[visit],.error ()⟩
        else ⟨[visit],.ok response.headers⟩

def openUpstream (url : Url) : Fetch Unit Headers := openHops allowLoopback library network (maxRedirects + 1) 0 url

end Relay

end Egress
