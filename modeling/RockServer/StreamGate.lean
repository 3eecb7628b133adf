import Mathlib.Data.List.TakeWhile
import RockServer.AddressTexts

-- What an accepted stream URI is to a consumer that splits it as browsers do and
-- resolves hosts as inet_aton does.
namespace StreamUri
open AddressBlocks

def nonPublicV4 : List Block :=
  internalV4 ++ documentationV4 ++ reservedV4 ++ [v4Block 192 0 0 0 24,v4Block 192 88 99 0 24]

-- Documentation and benchmarking, which the gate lists for IPv4 alone.
def unlistedV6 : List Block := [v6Block 0x2001 0x0db8 0 32,v6Block 0x2001 0x0002 0 48]

-- The compatible and the mapped addresses are those of their last 32 bits.
def NonPublicV6 (number : Nat) : Prop :=
  if Within [compatible,mapped] number then Within nonPublicV4 (number % 2 ^ 32)
  else Within ([multicastV6,linkLocal,uniqueLocal] ++ unlistedV6) number

def afterScheme (uri : String) : Option (List Char) :=
  (stripPrefix? "https://" uri.toList).or (stripPrefix? "http://" uri.toList)

def whatwgAuthority (rest : List Char) : List Char := rest.takeWhile fun c => c != '/' && c != '?' && c != '\\'

-- The host, with its brackets, and the port of an authority.
def hostAndPort (authority : List Char) : List Char × Option (List Char) := match authority with
  | '[' :: bracketed => match splitOnce ']' bracketed with
    | some (host,[]) => ('[' :: host ++ [']'],none)
    | some (host,':' :: port) => ('[' :: host ++ [']'],some port)
    | _ => (authority,none)
  | _ => match splitOnce ':' authority with
    | some (host,port) => (host,some port)
    | none => (authority,none)

def portValue (digits : List Char) : Nat := digits.foldl (fun value c => value * 10 + (c.toNat - '0'.toNat)) 0

def DecimalPort (digits : List Char) : Prop :=
  digits ≠ [] ∧ (∀ c ∈ digits, isAsciiDigit c = true) ∧ 1 ≤ portValue digits ∧ portValue digits ≤ 65535

structure PublicHost (host : List Char) : Prop where
  named : host ≠ []
  v4 : ∀ number, inetAton host = some number → ¬ Within nonPublicV4 number
  v6 : ∀ inner address, host = '[' :: inner ++ [']'] → parseIpv6 inner = some address → ¬ NonPublicV6 address.number
  remote : host.map toAsciiLowercase ≠ "localhost".toList ∧ host.map toAsciiLowercase ≠ "localhost.".toList

structure Sound (uri : String) : Prop where
  short : uri.length ≤ 2048
  whole : '#' ∉ uri.toList
  absolute : ∃ rest, afterScheme uri = some rest ∧ '@' ∉ whatwgAuthority rest ∧
    PublicHost (hostAndPort (whatwgAuthority rest)).1 ∧
    ∀ port, (hostAndPort (whatwgAuthority rest)).2 = some port → DecimalPort port

def gateAuthority (rest : List Char) : List Char := rest.takeWhile fun c => c != '/' && c != '?'

-- The parts that the gate checks: the host, the port and whether the host was
-- bracketed.
def gateParts (uri : String) : Option (List Char × Option (List Char) × Bool) :=
  (afterScheme uri).bind fun rest => (splitStreamAuthority (gateAuthority rest)).toOption

def beforeBackslash (host : List Char) : List Char := host.takeWhile (· != '\\')

-- Accepted parts that others read differently.
inductive Misread : List Char → Option (List Char) → Bool → Prop where
  | signedPort {host digits : List Char} {literalV6 : Bool} : '\\' ∉ host → Misread host (some ('+' :: digits)) literalV6
  | noHost {rest : List Char} {port : Option (List Char)} : Misread ('\\' :: rest) port false
  | shorthand {host : List Char} {port : Option (List Char)} {number : Nat} : parseIpv4 host = none →
      inetAton (beforeBackslash host) = some number → Within nonPublicV4 number → Misread host port false
  | localName {host : List Char} {port : Option (List Char)} : (beforeBackslash host).map toAsciiLowercase = "localhost".toList →
      Misread host port false
  | rootedName {host : List Char} {port : Option (List Char)} :
      (beforeBackslash host).map toAsciiLowercase = "localhost.".toList → Misread host port false
  | unlisted {host : List Char} {port : Option (List Char)} {address : Ipv6Addr} : parseIpv6 host = some address →
      Within unlistedV6 address.number → Misread host port true

variable {uri : String} {text host rest tail : List Char} {port : Option (List Char)} {literalV6 : Bool} {c : Char}

theorem splitOnce_some {left right : List Char} : splitOnce c text = some (left,right) ↔ text = left ++ c :: right ∧ c ∉ left := by
  induction text generalizing left with
  | nil => simp [splitOnce]
  | cons d rest ih =>
    rw [splitOnce]
    split
    · rename_i same
      subst same
      cases left with
      | nil => simp [eq_comm]
      | cons first others =>
        simp only [Option.some.injEq,Prod.mk.injEq,List.cons_append,List.cons.injEq,List.mem_cons]
        grind
    · rename_i apart
      rw [Option.map_eq_some_iff]
      simp only [Prod.exists]
      cases left with
      | nil => grind
      | cons first others => grind

theorem splitOnce_none : splitOnce c text = none ↔ c ∉ text := by
  induction text with
  | nil => simp [splitOnce]
  | cons d rest ih =>
    rw [splitOnce]
    split
    · rename_i same
      simp [same]
    · rename_i apart
      rw [Option.map_eq_none_iff,ih,List.mem_cons,not_or]
      exact ⟨fun absent => ⟨fun same => apart same.symm,absent⟩,And.right⟩

def portText : Option (List Char) → List Char
  | none => []
  | some port => ':' :: port

theorem split_authority (split : splitStreamAuthority text = .ok (host,port,literalV6)) :
    (literalV6 = true ∧ text = '[' :: host ++ ']' :: portText port ∧ ']' ∉ host) ∨
      (literalV6 = false ∧ text = host ++ portText port ∧ ':' ∉ host ∧ ∀ rest, text ≠ '[' :: rest) := by
  unfold splitStreamAuthority at split
  split at split
  · rename_i bracketed
    split at split
    · cases split
    · rename_i inner tail found
      obtain ⟨rfl,absent⟩ := splitOnce_some.mp found
      split at split
      · cases split
        exact .inl ⟨rfl,rfl,absent⟩
      · cases split
        exact .inl ⟨rfl,rfl,absent⟩
      · cases split
  · rename_i unbracketed
    have plain : ∀ rest, text ≠ '[' :: rest := fun rest same => unbracketed rest same
    split at split
    · rename_i left right found
      obtain ⟨whole,absent⟩ := splitOnce_some.mp found
      cases split
      exact .inr ⟨rfl,whole,absent,plain⟩
    · rename_i found
      cases split
      exact .inr ⟨rfl,(List.append_nil _).symm,splitOnce_none.mp found,plain⟩

def PortAccepted (port : Option (List Char)) : Prop :=
  ∀ digits, port = some digits → ∃ value, parseU32 digits = some value ∧ 1 ≤ value ∧ value ≤ 65535

-- What the gate has checked of a URI that it accepts.
structure Accepted (uri : String) (rest host : List Char) (port : Option (List Char)) (literalV6 : Bool) : Prop where
  short : uri.length ≤ 2048
  absolute : afterScheme uri = some rest
  whole : '#' ∉ rest
  anonymous : '@' ∉ gateAuthority rest
  parts : splitStreamAuthority (gateAuthority rest) = .ok (host,port,literalV6)
  named : host ≠ []
  port : PortAccepted port
  reachable : validateStreamHost host literalV6 = .ok ()

theorem accepted_of_ok (accepted : validateStreamUri uri = .ok ()) :
    ∃ rest host port literalV6, Accepted uri rest host port literalV6 := by
  unfold validateStreamUri at accepted
  split at accepted
  · cases accepted
  · rename_i short
    split at accepted
    · cases accepted
    · rename_i rest absolute
      split at accepted
      · cases accepted
      · rename_i whole
        dsimp only at accepted
        split at accepted
        · cases accepted
        · rename_i anonymous
          split at accepted
          · cases accepted
          · rename_i host port literalV6 parts
            split at accepted
            · cases accepted
            · rename_i named
              have checked (host : List Char) (port : Option (List Char)) (literalV6 : Bool) (named : host ≠ [])
                  (parts : splitStreamAuthority (gateAuthority rest) = .ok (host,port,literalV6))
                  (ports : PortAccepted port) (reachable : validateStreamHost host literalV6 = .ok ()) :
                  ∃ rest host port literalV6, Accepted uri rest host port literalV6 :=
                ⟨rest,host,port,literalV6,Nat.le_of_not_lt short,absolute,by simpa using whole,by simpa [gateAuthority] using anonymous,
                  parts,named,ports,reachable⟩
              cases port with
              | none => exact checked _ _ _ named parts (fun _ some_port => by cases some_port) accepted
              | some digits =>
                cases read : parseU32 digits with
                | none => simp [read] at accepted
                | some value =>
                  simp only [read] at accepted
                  split at accepted
                  · cases accepted
                  · rename_i range
                    refine checked _ _ _ named parts (fun others some_port => ?_) accepted
                    cases some_port
                    exact ⟨value,read,by simpa [Nat.one_le_iff_ne_zero] using range⟩

theorem Accepted.gateParts (accepted : Accepted uri rest host port literalV6) :
    gateParts uri = some (host,port,literalV6) := by
  rw [StreamUri.gateParts,accepted.absolute,Option.bind_some,accepted.parts]
  rfl

theorem parseU32_some {digits : List Char} {value : Nat} (read : parseU32 digits = some value) :
    (∃ others, digits = '+' :: others ∧ '\\' ∉ others) ∨
      digits ≠ [] ∧ (∀ c ∈ digits, isAsciiDigit c = true) ∧ portValue digits = value := by
  have decimal : ∀ {others : List Char}, ¬ (others = [] ∨ (others.any fun c => !isAsciiDigit c) = true) →
      others ≠ [] ∧ ∀ c ∈ others, isAsciiDigit c = true := by
    intro others printed
    rw [not_or] at printed
    exact ⟨printed.1,by simpa using printed.2⟩
  unfold parseU32 at read
  split at read
  · rename_i others
    dsimp only at read
    split at read
    · cases read
    · rename_i printed
      exact .inl ⟨others,rfl,fun member => absurd ((decimal printed).2 _ member) (by decide)⟩
  · dsimp only at read
    split at read
    · cases read
    · rename_i printed
      split at read
      · cases read
        exact .inr ⟨(decimal printed).1,(decimal printed).2,rfl⟩
      · cases read

theorem PortAccepted.unescaped (accepted : PortAccepted port) : '\\' ∉ portText port := by
  cases port with
  | none => simp [portText]
  | some digits =>
    obtain ⟨value,read,_⟩ := accepted digits rfl
    rcases parseU32_some read with ⟨others,rfl,plain⟩ | ⟨_,every,_⟩
    · simpa [portText] using plain
    · intro member
      rcases List.mem_cons.mp member with colon | member
      · exact absurd colon (by decide)
      · exact absurd (every _ member) (by decide)

theorem PortAccepted.decimal (accepted : PortAccepted port) :
    (∀ digits, port = some digits → DecimalPort digits) ↔ ∀ digits, port ≠ some ('+' :: digits) := by
  constructor
  · rintro decimal digits rfl
    exact absurd ((decimal _ rfl).2.1 '+' List.mem_cons_self) (by decide)
  · rintro unsigned digits rfl
    obtain ⟨value,read,low,high⟩ := accepted digits rfl
    rcases parseU32_some read with ⟨others,rfl,_⟩ | ⟨printed,every,rfl⟩
    · exact absurd rfl (unsigned others)
    · exact ⟨printed,every,low,high⟩

theorem takeWhile_both {p q : Char → Bool} (letters : List Char) :
    letters.takeWhile (fun c => p c && q c) = (letters.takeWhile p).takeWhile q := by
  induction letters with
  | nil => rfl
  | cons c rest ih => cases first : p c <;> cases second : q c <;> simp [first,second,ih]

theorem whatwg_gate : whatwgAuthority rest = beforeBackslash (gateAuthority rest) := takeWhile_both rest

theorem beforeBackslash_plain (plain : '\\' ∉ text) : beforeBackslash text = text := by
  refine List.takeWhile_eq_self_iff.mpr fun c member => ?_
  simpa using fun same : c = '\\' => plain (same ▸ member)

theorem beforeBackslash_cut (cut : '\\' ∈ host) : beforeBackslash (host ++ tail) = beforeBackslash host := by
  induction host with
  | nil => cases cut
  | cons c rest ih =>
    unfold beforeBackslash at ih ⊢
    rw [List.cons_append,List.takeWhile_cons,List.takeWhile_cons]
    split
    · rename_i other
      rcases List.mem_cons.mp cut with rfl | later
      · simp at other
      · rw [ih later]
    · rfl

theorem mem_beforeBackslash (member : c ∈ beforeBackslash text) : c ∈ text := (List.takeWhile_sublist _).subset member

theorem beforeBackslash_nil (named : host ≠ []) : beforeBackslash host = [] ↔ ∃ rest, host = '\\' :: rest := by
  cases host with
  | nil => exact absurd rfl named
  | cons c rest =>
    unfold beforeBackslash
    rw [List.takeWhile_cons]
    split
    · rename_i other
      simpa using other
    · rename_i same
      simpa using same

theorem hostAndPort_name (plain : ':' ∉ host) (unbracketed : ∀ rest, host ++ portText port ≠ '[' :: rest) :
    hostAndPort (host ++ portText port) = (host,port) := by
  unfold hostAndPort
  split
  · rename_i rest same
    exact absurd same (unbracketed rest)
  · cases port with
    | none => rw [portText,List.append_nil,splitOnce_none.mpr plain]
    | some digits => rw [portText,splitOnce_some.mpr ⟨rfl,plain⟩]

theorem hostAndPort_literal (plain : ']' ∉ host) :
    hostAndPort ('[' :: host ++ ']' :: portText port) = ('[' :: host ++ [']'],port) := by
  unfold hostAndPort
  rw [List.cons_append]
  simp only [splitOnce_some.mpr ⟨rfl,plain⟩]
  cases port <;> rfl

theorem accepted_v4 {address : Ipv4Addr} (parsed : parseIpv4 host = some address) (reachable : validateStreamIpv4 address = .ok ()) :
    inetAton host = some address.number ∧ ¬ Within nonPublicV4 address.number := by
  obtain ⟨valid,read⟩ := parseIpv4_aton parsed
  refine ⟨read,(stream_v4 valid).mp ?_⟩
  simp [Classifier.accepts,streamAccepts,reachable,Except.isOk,Except.toBool]

theorem unlisted_apart {number : Nat} (listed : Within unlistedV6 number) : ¬ Within [compatible,mapped] number := by
  simp only [within_cons,within_nil,or_false,Block.Contains,unlistedV6,v6Block,compatible,mapped] at listed ⊢
  omega

theorem accepted_v6 {address : Ipv6Addr} (valid : address.Valid) (reachable : validateStreamIpv6 address = .ok ()) :
    NonPublicV6 address.number ↔ Within unlistedV6 address.number := by
  have accepts := (stream_v6 valid).mp (by simp [Classifier.accepts,streamAccepts,reachable,Except.isOk,Except.toBool])
  unfold NonPublicV6
  by_cases embedded : Within [compatible,mapped] address.number
  · rw [if_pos embedded]
    rw [if_pos (show Within (Classifier.unwraps .stream) address.number from embedded)] at accepts
    exact ⟨fun listed => absurd listed accepts,fun listed => absurd embedded (unlisted_apart listed)⟩
  · rw [if_neg embedded]
    rw [if_neg (show ¬ Within (Classifier.unwraps .stream) address.number from embedded)] at accepts
    simp only [Classifier.blocksV6,within_cons,within_nil,or_false,not_or] at accepts
    simp only [within_append,within_cons,within_nil,or_false,accepts.1,accepts.2.1,accepts.2.2,false_or]

theorem bracket_plain {number : Nat} (read : inetAton ('[' :: text) = some number) : False :=
  inetAton_plain (c:= '[') (by decide) (by decide) (fun radix => by simp [toDigit]) read List.mem_cons_self

theorem unescaped_aton {number : Nat} (read : inetAton host = some number) : '\\' ∉ host :=
  inetAton_plain (by decide) (by decide) (fun radix => by simp [toDigit]) read

-- A bracketed host is refused, or else read alike; only what it does not list
-- passes the gate.
theorem literal_sound (reachable : validateStreamHost host true = .ok ()) : '\\' ∉ host ∧
    (PublicHost ('[' :: host ++ [']']) ↔ ∀ address, parseIpv6 host = some address → ¬ Within unlistedV6 address.number) := by
  unfold validateStreamHost at reachable
  rw [if_pos rfl] at reachable
  cases parsed : parseIpv6 host with
  | none => simp [parsed] at reachable
  | some address =>
    simp only [parsed] at reachable
    obtain ⟨valid,plain⟩ := parseIpv6_valid parsed
    refine ⟨plain,?_⟩
    simp only [Option.some.injEq,forall_eq',← accepted_v6 valid reachable]
    constructor
    · intro sound
      exact sound.v6 host address rfl parsed
    · intro sound
      refine ⟨List.cons_ne_nil _ _,fun number read => (bracket_plain read).elim,fun inner other same found => ?_,?_⟩
      · obtain rfl : inner = host := (List.append_inj_left' (List.cons.inj same).2 rfl).symm
        cases parsed.symm.trans found
        exact sound
      · constructor <;> exact fun same => absurd (List.cons.inj same).1 (by decide)

-- A name or a dotted quad, up to a backslash.
theorem name_sound (named : host ≠ []) (unbracketed : ∀ rest, host ≠ '[' :: rest) (reachable : validateStreamHost host false = .ok ()) :
    PublicHost (beforeBackslash host) ↔ (∀ rest, host ≠ '\\' :: rest) ∧
      (parseIpv4 host = none → ∀ number, inetAton (beforeBackslash host) = some number → ¬ Within nonPublicV4 number) ∧
      (beforeBackslash host).map toAsciiLowercase ≠ "localhost".toList ∧
      (beforeBackslash host).map toAsciiLowercase ≠ "localhost.".toList := by
  have started : beforeBackslash host ≠ [] ↔ ∀ rest, host ≠ '\\' :: rest := by
    rw [ne_eq,beforeBackslash_nil named,not_exists]
  have open_host : ∀ inner, beforeBackslash host ≠ '[' :: inner := by
    intro inner same
    obtain ⟨tail,whole⟩ := List.takeWhile_prefix (l:=host) (· != '\\')
    refine unbracketed (inner ++ tail) ?_
    rw [← whole,← List.cons_append,← same]
    rfl
  constructor
  · intro sound
    exact ⟨started.mp sound.named,fun _ => sound.v4,sound.remote⟩
  · intro ⟨first,shorthand,remote⟩
    refine ⟨started.mpr first,fun number read => ?_,fun inner _ same => absurd same (open_host _),remote⟩
    cases parsed : parseIpv4 host with
    | none => exact shorthand parsed number read
    | some address =>
      have quad : validateStreamIpv4 address = .ok () := by
        simpa [validateStreamHost,parsed] using reachable
      obtain ⟨whole,outside⟩ := accepted_v4 parsed quad
      rw [beforeBackslash_plain (unescaped_aton whole)] at read
      cases whole.symm.trans read
      exact outside

theorem misread_literal : Misread host port true ↔ ('\\' ∉ host ∧ ∃ digits, port = some ('+' :: digits)) ∨
    ∃ address, parseIpv6 host = some address ∧ Within unlistedV6 address.number := by
  constructor
  · intro misread
    cases misread with
    | signedPort plain => exact .inl ⟨plain,_,rfl⟩
    | unlisted parsed listed => exact .inr ⟨_,parsed,listed⟩
  · rintro (⟨plain,digits,rfl⟩ | ⟨address,parsed,listed⟩)
    · exact .signedPort plain
    · exact .unlisted parsed listed

theorem misread_name : Misread host port false ↔ ('\\' ∉ host ∧ ∃ digits, port = some ('+' :: digits)) ∨
    (∃ rest, host = '\\' :: rest) ∨
    (∃ number, parseIpv4 host = none ∧ inetAton (beforeBackslash host) = some number ∧ Within nonPublicV4 number) ∨
    (beforeBackslash host).map toAsciiLowercase = "localhost".toList ∨
    (beforeBackslash host).map toAsciiLowercase = "localhost.".toList := by
  constructor
  · intro misread
    cases misread with
    | signedPort plain => exact .inl ⟨plain,_,rfl⟩
    | noHost => exact .inr (.inl ⟨_,rfl⟩)
    | shorthand short read inside => exact .inr (.inr (.inl ⟨_,short,read,inside⟩))
    | localName same => exact .inr (.inr (.inr (.inl same)))
    | rootedName same => exact .inr (.inr (.inr (.inr same)))
  · rintro (⟨plain,digits,rfl⟩ | ⟨rest,rfl⟩ | ⟨number,short,read,inside⟩ | same | same)
    · exact .signedPort plain
    · exact .noHost
    · exact .shorthand short read inside
    · exact .localName same
    · exact .rootedName same

theorem afterScheme_whole (absolute : afterScheme uri = some rest) : '#' ∉ uri.toList ↔ '#' ∉ rest := by
  have behind : ∀ scheme : String, '#' ∉ scheme.toList → stripPrefix? scheme uri.toList = some rest →
      ('#' ∉ uri.toList ↔ '#' ∉ rest) := by
    intro scheme plain stripped
    unfold stripPrefix? at stripped
    split at stripped
    · rename_i started
      obtain ⟨tail,whole⟩ := List.isPrefixOf_iff_prefix.mp started
      cases stripped
      rw [← whole,← String.length_toList,List.drop_left,List.mem_append]
      simp [plain]
    · cases stripped
  rcases Option.or_eq_some_iff.mp absolute with secure | ⟨_,plain⟩
  · exact behind "https://" (by decide) secure
  · exact behind "http://" (by decide) plain

-- The accepted parts, read by others.
theorem Accepted.sound_iff (accepted : Accepted uri rest host port literalV6) :
    Sound uri ↔ ¬ Misread host port literalV6 := by
  have whole := (afterScheme_whole accepted.absolute).mpr accepted.whole
  have anonymous : '@' ∉ whatwgAuthority rest := by
    rw [whatwg_gate]
    exact fun member => accepted.anonymous (mem_beforeBackslash member)
  have reduced : Sound uri ↔ PublicHost (hostAndPort (whatwgAuthority rest)).1 ∧
      ∀ digits, (hostAndPort (whatwgAuthority rest)).2 = some digits → DecimalPort digits := by
    constructor
    · intro sound
      obtain ⟨_,absolute,_,parts⟩ := sound.absolute
      cases accepted.absolute.symm.trans absolute
      exact parts
    · intro parts
      exact ⟨accepted.short,whole,rest,accepted.absolute,anonymous,parts⟩
  rw [reduced,whatwg_gate]
  have ports := accepted.port.decimal
  rcases split_authority accepted.parts with ⟨rfl,authority,unclosed⟩ | ⟨rfl,authority,plain,unbracketed⟩
  · obtain ⟨unescaped,sound⟩ := literal_sound accepted.reachable
    have whole : '\\' ∉ gateAuthority rest := by
      rw [authority]
      simp [unescaped,accepted.port.unescaped]
    rw [beforeBackslash_plain whole,authority,hostAndPort_literal unclosed,sound,ports,misread_literal]
    grind
  · have sound := name_sound accepted.named
      (fun inner same => unbracketed (inner ++ portText port) (by rw [authority,same,List.cons_append])) accepted.reachable
    rw [authority] at unbracketed ⊢
    by_cases escaped : '\\' ∈ host
    · have cut : hostAndPort (beforeBackslash host) = (beforeBackslash host,none) := by
        have parts : hostAndPort (beforeBackslash host ++ portText none) = (beforeBackslash host,none) := hostAndPort_name
          (fun member => plain (mem_beforeBackslash member)) (fun inner same => by
            obtain ⟨tail,front⟩ := List.takeWhile_prefix (l:=host) (· != '\\')
            refine unbracketed (inner ++ tail ++ portText port) ?_
            rw [← front,← List.cons_append,← List.cons_append,← same]
            simp [portText,beforeBackslash])
        rwa [portText,List.append_nil] at parts
      rw [beforeBackslash_cut escaped,cut,sound,misread_name]
      grind
    · have whole : '\\' ∉ host ++ portText port := by simp [escaped,accepted.port.unescaped]
      rw [beforeBackslash_plain whole,hostAndPort_name plain unbracketed,ports,misread_name]
      rw [beforeBackslash_plain escaped] at sound ⊢
      rw [sound]
      grind

-- An accepted URI is what it should be just where others read its parts alike.
theorem gate_sound (uri : String) : (validateStreamUri uri = .ok () → Sound uri) ↔
    (validateStreamUri uri = .ok () → ∀ host port literalV6, gateParts uri = some (host,port,literalV6) →
      ¬ Misread host port literalV6) := by
  refine imp_congr_right fun ok => ?_
  obtain ⟨rest,host,port,literalV6,accepted⟩ := accepted_of_ok ok
  rw [accepted.sound_iff,accepted.gateParts]
  grind

-- Two bytes of a loopback address pass the gate.
theorem shorthand_accepted : ¬ ∀ uri, validateStreamUri uri = .ok () → Sound uri := by
  intro every
  obtain ⟨rest,absolute,_,host,_⟩ := (every "http://127.1/x" (by decide)).absolute
  have same : rest = "127.1/x".toList := Option.some.inj (absolute.symm.trans (by decide))
  subst same
  exact host.v4 0x7f000001 (by decide) (by decide)

end StreamUri
