import RockServer.AddressBlocks
import RockServer.StreamUri

-- Three classifiers of public destinations: the stream address check, the
-- relay's upstream check and the icon fetcher's.
namespace StreamUri
open AddressBlocks

-- An address has eight segments, so that each numeral below names one.
local instance segmentsNonempty : NeZero 8 := ⟨by decide⟩

namespace Ipv4Addr

def isPrivate (v : Ipv4Addr) : Bool := v.a == 10 || (v.a == 172 && 16 ≤ v.b && v.b ≤ 31) || (v.a == 192 && v.b == 168)
def isLoopback (v : Ipv4Addr) : Bool := v.a == 127
def isLinkLocal (v : Ipv4Addr) : Bool := v.a == 169 && v.b == 254
def isBroadcast (v : Ipv4Addr) : Bool := v.a == 255 && v.b == 255 && v.c == 255 && v.d == 255
def isUnspecified (v : Ipv4Addr) : Bool := v.a == 0 && v.b == 0 && v.c == 0 && v.d == 0
def isMulticast (v : Ipv4Addr) : Bool := 224 ≤ v.a && v.a ≤ 239
def isDocumentation (v : Ipv4Addr) : Bool :=
  (v.a == 192 && v.b == 0 && v.c == 2) || (v.a == 198 && v.b == 51 && v.c == 100) || (v.a == 203 && v.b == 0 && v.c == 113)

def number (v : Ipv4Addr) : Nat := ((v.a * 256 + v.b) * 256 + v.c) * 256 + v.d

def Valid (v : Ipv4Addr) : Prop := v.a < 256 ∧ v.b < 256 ∧ v.c < 256 ∧ v.d < 256

-- The address of two segments, in network order.
def ofSegments (high low : Nat) : Ipv4Addr := ⟨high / 256,high % 256,low / 256,low % 256⟩

end Ipv4Addr

namespace Ipv6Addr

def number (v : Ipv6Addr) : Nat :=
  ((((((v.segments 0 * 65536 + v.segments 1) * 65536 + v.segments 2) * 65536 + v.segments 3) * 65536 + v.segments 4) * 65536
    + v.segments 5) * 65536 + v.segments 6) * 65536 + v.segments 7

def Valid (v : Ipv6Addr) : Prop := ∀ i, v.segments i < 65536

def isUnspecified (v : Ipv6Addr) : Bool := v.number == 0
def isLoopback (v : Ipv6Addr) : Bool := v.number == 1
def isMulticast (v : Ipv6Addr) : Bool := v.segments 0 &&& 0xff00 == 0xff00
def isUniqueLocal (v : Ipv6Addr) : Bool := v.segments 0 &&& 0xfe00 == 0xfc00
def isUnicastLinkLocal (v : Ipv6Addr) : Bool := v.segments 0 &&& 0xffc0 == 0xfe80

def toIpv4Mapped (v : Ipv6Addr) : Option Ipv4Addr :=
  if v.segments 0 = 0 ∧ v.segments 1 = 0 ∧ v.segments 2 = 0 ∧ v.segments 3 = 0 ∧ v.segments 4 = 0 ∧ v.segments 5 = 0xffff then
    some (.ofSegments (v.segments 6) (v.segments 7))
  else none

end Ipv6Addr

inductive IpAddr where
  | v4 (address : Ipv4Addr)
  | v6 (address : Ipv6Addr)

def IpAddr.Valid : IpAddr → Prop
  | .v4 address => address.Valid
  | .v6 address => address.Valid

-- Octets are bytes and segments are 16-bit words.
abbrev Destination := {address : IpAddr // address.Valid}

def streamAccepts : IpAddr → Bool
  | .v4 address => (validateStreamIpv4 address).isOk
  | .v6 address => (validateStreamIpv6 address).isOk

namespace Relay

def publicIpv4 (v : Ipv4Addr) : Bool :=
  !(v.isPrivate || v.isLoopback || v.isLinkLocal || v.isBroadcast || v.isDocumentation || v.isUnspecified || v.isMulticast
    || v.a == 0 || 224 ≤ v.a || (v.a == 100 && 64 ≤ v.b && v.b ≤ 127) || (v.a == 169 && v.b == 254)
    || (v.a == 192 && v.b == 0) || (v.a == 198 && 18 ≤ v.b && v.b ≤ 19))

def publicIp : IpAddr → Bool
  | .v4 v => publicIpv4 v
  | .v6 v => match v.toIpv4Mapped with
    | some mapped => publicIpv4 mapped
    | none =>
      !(v.isLoopback || v.isUnspecified || v.isMulticast || v.isUniqueLocal || v.isUnicastLinkLocal
        || v.segments 0 &&& 0xffc0 == 0xfe80 || (v.segments 0 == 0x64 && v.segments 1 == 0xff9b)
        || v.segments 0 == 0x2002 || (v.segments 0 == 0x2001 && v.segments 1 == 0x0db8))

end Relay

namespace StationIcons

def publicIp : IpAddr → Bool
  | .v4 v => !v.isPrivate && !v.isLoopback && !v.isLinkLocal && !v.isBroadcast && !v.isUnspecified && !v.isDocumentation
  | .v6 v => !v.isLoopback && !v.isUnspecified && !v.isUniqueLocal && !v.isUnicastLinkLocal

end StationIcons

inductive Classifier where
  | stream
  | relay
  | icons
deriving DecidableEq

def Classifier.accepts : Classifier → IpAddr → Bool
  | .stream => streamAccepts
  | .relay => Relay.publicIp
  | .icons => StationIcons.publicIp

-- The transition formats carry an IPv4 address in two of their segments.
inductive Embeds (v : Ipv6Addr) : Ipv4Addr → Prop where
  | mapped (zero : ∀ i : Fin 8, i.val < 5 → v.segments i = 0) (ones : v.segments 5 = 0xffff) :
      Embeds v (.ofSegments (v.segments 6) (v.segments 7))
  | compatible (zero : ∀ i : Fin 8, i.val < 6 → v.segments i = 0) :
      Embeds v (.ofSegments (v.segments 6) (v.segments 7))
  | sixToFour (tag : v.segments 0 = 0x2002) : Embeds v (.ofSegments (v.segments 1) (v.segments 2))
  | nat64 (tag : v.segments 0 = 0x64 ∧ v.segments 1 = 0xff9b) (zero : ∀ i : Fin 8, 2 ≤ i.val → i.val < 6 → v.segments i = 0) :
      Embeds v (.ofSegments (v.segments 6) (v.segments 7))

-- Every classifier says the same, and none accepts an address whose embedded
-- one it rejects.
structure Agreed (address : IpAddr) : Prop where
  coincide : ∀ c c' : Classifier, c.accepts address = c'.accepts address
  embedded : ∀ v inner, address = .v6 v → Embeds v inner → ∀ c : Classifier, c.accepts address = true →
    c.accepts (.v4 inner) = true

-- What each classifier rejects, as address blocks.
def v4Block (a b c d length : Nat) : Block := ⟨(Ipv4Addr.mk a b c d).number / 2 ^ (32 - length),32 - length⟩
def v6Block (a b c length : Nat) : Block := ⟨((a * 65536 + b) * 65536 + c) * 2 ^ 80 / 2 ^ (128 - length),128 - length⟩

def internalV4 : List Block :=
  [v4Block 10 0 0 0 8,v4Block 172 16 0 0 12,v4Block 192 168 0 0 16,v4Block 127 0 0 0 8,v4Block 169 254 0 0 16]
def documentationV4 : List Block := [v4Block 192 0 2 0 24,v4Block 198 51 100 0 24,v4Block 203 0 113 0 24]
def reservedV4 : List Block := [v4Block 0 0 0 0 8,v4Block 224 0 0 0 3,v4Block 100 64 0 0 10,v4Block 198 18 0 0 15]

def Classifier.blocksV4 : Classifier → List Block
  | .stream => internalV4 ++ documentationV4 ++ reservedV4 ++ [v4Block 192 0 0 0 24,v4Block 192 88 99 0 24]
  | .relay => internalV4 ++ documentationV4 ++ reservedV4 ++ [v4Block 192 0 0 0 16]
  | .icons => internalV4 ++ documentationV4 ++ [v4Block 0 0 0 0 32,v4Block 255 255 255 255 32]

section octets
variable {v : Ipv4Addr} {k l m : Nat}

theorem in_8 (valid : v.Valid) : (v4Block k 0 0 0 8).Contains v.number ↔ v.a = k := by
  obtain ⟨ha,hb,hc,hd⟩ := valid
  simp only [Block.Contains,v4Block,Ipv4Addr.number]
  omega

theorem in_16 (valid : v.Valid) (low : l < 256) : (v4Block k l 0 0 16).Contains v.number ↔ v.a = k ∧ v.b = l := by
  obtain ⟨ha,hb,hc,hd⟩ := valid
  simp only [Block.Contains,v4Block,Ipv4Addr.number]
  omega

theorem in_24 (valid : v.Valid) (low : l < 256) (last : m < 256) :
    (v4Block k l m 0 24).Contains v.number ↔ v.a = k ∧ v.b = l ∧ v.c = m := by
  obtain ⟨ha,hb,hc,hd⟩ := valid
  simp only [Block.Contains,v4Block,Ipv4Addr.number]
  omega

theorem in_multicast (valid : v.Valid) : (v4Block 224 0 0 0 3).Contains v.number ↔ 224 ≤ v.a := by
  obtain ⟨ha,hb,hc,hd⟩ := valid
  simp only [Block.Contains,v4Block,Ipv4Addr.number]
  omega

theorem in_shared (valid : v.Valid) : (v4Block 100 64 0 0 10).Contains v.number ↔ v.a = 100 ∧ 64 ≤ v.b ∧ v.b ≤ 127 := by
  obtain ⟨ha,hb,hc,hd⟩ := valid
  simp only [Block.Contains,v4Block,Ipv4Addr.number]
  omega

theorem in_private (valid : v.Valid) : (v4Block 172 16 0 0 12).Contains v.number ↔ v.a = 172 ∧ 16 ≤ v.b ∧ v.b ≤ 31 := by
  obtain ⟨ha,hb,hc,hd⟩ := valid
  simp only [Block.Contains,v4Block,Ipv4Addr.number]
  omega

theorem in_benchmark (valid : v.Valid) : (v4Block 198 18 0 0 15).Contains v.number ↔ v.a = 198 ∧ 18 ≤ v.b ∧ v.b ≤ 19 := by
  obtain ⟨ha,hb,hc,hd⟩ := valid
  simp only [Block.Contains,v4Block,Ipv4Addr.number]
  omega

theorem in_32 (valid : v.Valid) {d : Nat} (low : l < 256) (next : m < 256) (last : d < 256) :
    (v4Block k l m d 32).Contains v.number ↔ v.a = k ∧ v.b = l ∧ v.c = m ∧ v.d = d := by
  obtain ⟨ha,hb,hc,hd⟩ := valid
  simp only [Block.Contains,v4Block,Ipv4Addr.number]
  omega

theorem within_internal (valid : v.Valid) : Within internalV4 v.number ↔
    v.isPrivate = true ∨ v.isLoopback = true ∨ v.isLinkLocal = true := by
  simp [internalV4,in_8 valid,in_16 valid,in_private valid,Ipv4Addr.isPrivate,Ipv4Addr.isLoopback,Ipv4Addr.isLinkLocal,
    or_assoc,and_assoc]

theorem within_documentation (valid : v.Valid) : Within documentationV4 v.number ↔ v.isDocumentation = true := by
  simp [documentationV4,in_24 valid,Ipv4Addr.isDocumentation,or_assoc,and_assoc]

theorem within_reserved (valid : v.Valid) : Within reservedV4 v.number ↔
    v.a = 0 ∨ 224 ≤ v.a ∨ (v.a = 100 ∧ 64 ≤ v.b ∧ v.b ≤ 127) ∨ v.a = 198 ∧ 18 ≤ v.b ∧ v.b ≤ 19 := by
  simp [reservedV4,in_8 valid,in_multicast valid,in_shared valid,in_benchmark valid]

theorem stream_v4 (valid : v.Valid) : Classifier.stream.accepts (.v4 v) = true ↔ ¬ Within (Classifier.blocksV4 .stream) v.number := by
  have special : Within [v4Block 192 0 0 0 24,v4Block 192 88 99 0 24] v.number ↔
      v.a = 192 ∧ v.b = 0 ∧ v.c = 0 ∨ v.a = 192 ∧ v.b = 88 ∧ v.c = 99 := by
    simp [in_24 valid]
  rw [Classifier.blocksV4,within_append,within_append,within_append,within_internal valid,within_documentation valid,
    within_reserved valid,special]
  obtain ⟨a,b,c,d⟩ := v
  obtain ⟨ha,hb,hc,hd⟩ := valid
  simp only [Classifier.accepts,streamAccepts,validateStreamIpv4,Ipv4Addr.isPrivate,Ipv4Addr.isLoopback,
    Ipv4Addr.isLinkLocal,Ipv4Addr.isDocumentation]
  grind [Except.toBool]

theorem relay_v4 (valid : v.Valid) : Classifier.relay.accepts (.v4 v) = true ↔ ¬ Within (Classifier.blocksV4 .relay) v.number := by
  have special : Within [v4Block 192 0 0 0 16] v.number ↔ v.a = 192 ∧ v.b = 0 := by simp [in_16 valid]
  rw [Classifier.blocksV4,within_append,within_append,within_append,within_internal valid,within_documentation valid,
    within_reserved valid,special]
  simp only [Classifier.accepts,Relay.publicIp,Relay.publicIpv4,Ipv4Addr.isBroadcast,Ipv4Addr.isUnspecified,Ipv4Addr.isMulticast]
  grind [Ipv4Addr.isLinkLocal]

theorem icons_v4 (valid : v.Valid) : Classifier.icons.accepts (.v4 v) = true ↔ ¬ Within (Classifier.blocksV4 .icons) v.number := by
  have special : Within [v4Block 0 0 0 0 32,v4Block 255 255 255 255 32] v.number ↔
      v.isUnspecified = true ∨ v.isBroadcast = true := by
    simp [in_32 valid,Ipv4Addr.isUnspecified,Ipv4Addr.isBroadcast,and_assoc]
  rw [Classifier.blocksV4,within_append,within_append,within_internal valid,within_documentation valid,special]
  simp only [Classifier.accepts,StationIcons.publicIp]
  grind

theorem accepts_v4 (valid : v.Valid) (c : Classifier) : c.accepts (.v4 v) = true ↔ ¬ Within c.blocksV4 v.number := by
  cases c with
  | stream => exact stream_v4 valid
  | relay => exact relay_v4 valid
  | icons => exact icons_v4 valid

end octets

def compatible : Block := ⟨0,32⟩
def mapped : Block := ⟨0xffff,32⟩
def multicastV6 : Block := v6Block 0xff00 0 0 8
def uniqueLocal : Block := v6Block 0xfc00 0 0 7
def linkLocal : Block := v6Block 0xfe80 0 0 10
def transitionV6 : List Block := [v6Block 0x64 0xff9b 0 32,v6Block 0x2002 0 0 16,v6Block 0x2001 0x0db8 0 32]

-- The formats whose embedded address decides, and the rest by blocks.
def Classifier.unwraps : Classifier → List Block
  | .stream => [compatible,mapped]
  | .relay => [mapped]
  | .icons => []

def Classifier.blocksV6 : Classifier → List Block
  | .stream => [multicastV6,linkLocal,uniqueLocal]
  | .relay => [⟨1,0⟩,⟨0,0⟩,multicastV6,uniqueLocal,linkLocal] ++ transitionV6
  | .icons => [⟨1,0⟩,⟨0,0⟩,uniqueLocal,linkLocal]

section segments
variable {v : Ipv6Addr} {k l : Nat}

theorem leading_segment (valid : v.Valid) : v.number / 2 ^ 112 = v.segments 0 := by
  have bounds := And.intro (valid 1) (And.intro (valid 2) (And.intro (valid 3) (And.intro (valid 4)
    (And.intro (valid 5) (And.intro (valid 6) (valid 7))))))
  simp only [Ipv6Addr.number]
  omega

theorem leading_segments (valid : v.Valid) : v.number / 2 ^ 96 = v.segments 0 * 65536 + v.segments 1 := by
  have bounds := And.intro (valid 2) (And.intro (valid 3) (And.intro (valid 4)
    (And.intro (valid 5) (And.intro (valid 6) (valid 7)))))
  simp only [Ipv6Addr.number]
  omega

theorem in_segment (valid : v.Valid) : (v6Block k 0 0 16).Contains v.number ↔ v.segments 0 = k := by
  have leading := leading_segment valid
  simp only [Block.Contains,v6Block]
  omega

theorem in_segments (valid : v.Valid) (low : l < 65536) :
    (v6Block k l 0 32).Contains v.number ↔ v.segments 0 = k ∧ v.segments 1 = l := by
  have leading := leading_segments valid
  have next := valid 1
  simp only [Block.Contains,v6Block]
  omega

theorem multicast_block (valid : v.Valid) : v.isMulticast = true ↔ multicastV6.Contains v.number := by
  have mask : v.segments 0 &&& 0xff00 = 0xff00 ↔ (Block.mk 0xff 8).Contains (v.segments 0) :=
    mask_block 0xff (show v.segments 0 < 2 ^ (8 + 8) from valid 0)
  have leading := leading_segment valid
  rw [Ipv6Addr.isMulticast,beq_iff_eq,mask]
  simp only [Block.Contains,multicastV6,v6Block]
  omega

theorem local_block (valid : v.Valid) : v.isUniqueLocal = true ↔ uniqueLocal.Contains v.number := by
  have mask : v.segments 0 &&& 0xfe00 = 0xfc00 ↔ (Block.mk 0x7e 9).Contains (v.segments 0) :=
    mask_block 0x7e (show v.segments 0 < 2 ^ (7 + 9) from valid 0)
  have leading := leading_segment valid
  rw [Ipv6Addr.isUniqueLocal,beq_iff_eq,mask]
  simp only [Block.Contains,uniqueLocal,v6Block]
  omega

theorem link_block (valid : v.Valid) : v.isUnicastLinkLocal = true ↔ linkLocal.Contains v.number := by
  have mask : v.segments 0 &&& 0xffc0 = 0xfe80 ↔ (Block.mk 0x3fa 6).Contains (v.segments 0) :=
    mask_block 0x3fa (show v.segments 0 < 2 ^ (10 + 6) from valid 0)
  have leading := leading_segment valid
  rw [Ipv6Addr.isUnicastLinkLocal,beq_iff_eq,mask]
  simp only [Block.Contains,linkLocal,v6Block]
  omega

theorem within_ends : Within [⟨1,0⟩,⟨0,0⟩] v.number ↔ v.isLoopback = true ∨ v.isUnspecified = true := by
  simp [Block.Contains,Ipv6Addr.isLoopback,Ipv6Addr.isUnspecified]

theorem within_transition (valid : v.Valid) : Within transitionV6 v.number ↔
    v.segments 0 = 0x64 ∧ v.segments 1 = 0xff9b ∨ v.segments 0 = 0x2002 ∨ v.segments 0 = 0x2001 ∧ v.segments 1 = 0x0db8 := by
  simp [transitionV6,in_segment valid,in_segments valid]

theorem trailing_number (valid : v.Valid) : (Ipv4Addr.ofSegments (v.segments 6) (v.segments 7)).number = v.number % 2 ^ 32 := by
  have low := valid 7
  have high := valid 6
  simp only [Ipv4Addr.number,Ipv4Addr.ofSegments,Ipv6Addr.number]
  omega

theorem ofSegments_valid (high : k < 65536) (low : l < 65536) : (Ipv4Addr.ofSegments k l).Valid := by
  simp only [Ipv4Addr.Valid,Ipv4Addr.ofSegments]
  omega

theorem within_embedding (valid : v.Valid) : Within [compatible,mapped] v.number ↔ v.segments 0 = 0 ∧ v.segments 1 = 0 ∧
    v.segments 2 = 0 ∧ v.segments 3 = 0 ∧ v.segments 4 = 0 ∧ (v.segments 5 = 0 ∨ v.segments 5 = 0xffff) := by
  have bounds := And.intro (valid 5) (And.intro (valid 6) (valid 7))
  simp only [within_cons,within_nil,or_false,Block.Contains,compatible,mapped,Ipv6Addr.number]
  omega

theorem stream_v6 (valid : v.Valid) : Classifier.stream.accepts (.v6 v) = true ↔
    if Within (Classifier.unwraps .stream) v.number then ¬ Within (Classifier.blocksV4 .stream) (v.number % 2 ^ 32)
    else ¬ Within (Classifier.blocksV6 .stream) v.number := by
  have inner := stream_v4 (ofSegments_valid (valid 6) (valid 7))
  rw [trailing_number valid] at inner
  have masks := And.intro (multicast_block valid) (And.intro (link_block valid) (local_block valid))
  simp only [Ipv6Addr.isMulticast,Ipv6Addr.isUnicastLinkLocal,Ipv6Addr.isUniqueLocal,beq_iff_eq] at masks
  simp only [Classifier.unwraps,within_embedding valid,Classifier.accepts,streamAccepts,validateStreamIpv6]
  split
  · exact inner
  · simp only [Classifier.blocksV6,within_cons,within_nil,← masks.1,← masks.2.1,← masks.2.2]
    grind [Except.toBool]

theorem relay_v6 (valid : v.Valid) : Classifier.relay.accepts (.v6 v) = true ↔
    if Within (Classifier.unwraps .relay) v.number then ¬ Within (Classifier.blocksV4 .relay) (v.number % 2 ^ 32)
    else ¬ Within (Classifier.blocksV6 .relay) v.number := by
  have inner := relay_v4 (ofSegments_valid (valid 6) (valid 7))
  rw [trailing_number valid] at inner
  have wrapped : Within [mapped] v.number ↔ v.segments 0 = 0 ∧ v.segments 1 = 0 ∧ v.segments 2 = 0 ∧ v.segments 3 = 0 ∧
      v.segments 4 = 0 ∧ v.segments 5 = 0xffff := by
    have bounds := And.intro (valid 5) (And.intro (valid 6) (valid 7))
    simp only [within_cons,within_nil,or_false,Block.Contains,mapped,Ipv6Addr.number]
    omega
  have blocks : Within (Classifier.blocksV6 .relay) v.number ↔ (v.isLoopback = true ∨ v.isUnspecified = true) ∨
      v.isMulticast = true ∨ v.isUniqueLocal = true ∨ v.isUnicastLinkLocal = true ∨ Within transitionV6 v.number := by
    rw [multicast_block valid,local_block valid,link_block valid,← within_ends]
    simp [Classifier.blocksV6,or_assoc]
  simp only [Classifier.unwraps,wrapped,blocks,within_transition valid,Classifier.accepts,Relay.publicIp,Ipv6Addr.toIpv4Mapped]
  split
  · rename_i address embedded
    split at embedded
    · rename_i zeros
      cases embedded
      rw [if_pos zeros]
      exact inner
    · cases embedded
  · rename_i absent
    split at absent
    · cases absent
    · rename_i other
      rw [if_neg other]
      simp only [Ipv6Addr.isUnicastLinkLocal]
      grind

theorem icons_v6 (valid : v.Valid) : Classifier.icons.accepts (.v6 v) = true ↔ ¬ Within (Classifier.blocksV6 .icons) v.number := by
  have blocks : Within (Classifier.blocksV6 .icons) v.number ↔ (v.isLoopback = true ∨ v.isUnspecified = true) ∨
      v.isUniqueLocal = true ∨ v.isUnicastLinkLocal = true := by
    rw [local_block valid,link_block valid,← within_ends]
    simp [Classifier.blocksV6,or_assoc]
  simp only [blocks,Classifier.accepts,StationIcons.publicIp]
  grind

theorem accepts_v6 (valid : v.Valid) (c : Classifier) : c.accepts (.v6 v) = true ↔
    if Within c.unwraps v.number then ¬ Within c.blocksV4 (v.number % 2 ^ 32) else ¬ Within c.blocksV6 v.number := by
  cases c with
  | stream => exact stream_v6 valid
  | relay => exact relay_v6 valid
  | icons => simpa [Classifier.unwraps] using icons_v6 valid

theorem embeds_number {inner : Ipv4Addr} (valid : v.Valid) (embeds : Embeds v inner) : inner.Valid ∧
    (Within [compatible,mapped] v.number ∧ inner.number = v.number % 2 ^ 32 ∨ Within transitionV6 v.number) := by
  cases embeds with
  | mapped zero ones =>
    refine ⟨ofSegments_valid (valid 6) (valid 7),.inl ⟨(within_embedding valid).mpr ?_,trailing_number valid⟩⟩
    exact ⟨zero 0 (by decide),zero 1 (by decide),zero 2 (by decide),zero 3 (by decide),zero 4 (by decide),.inr ones⟩
  | compatible zero =>
    refine ⟨ofSegments_valid (valid 6) (valid 7),.inl ⟨(within_embedding valid).mpr ?_,trailing_number valid⟩⟩
    exact ⟨zero 0 (by decide),zero 1 (by decide),zero 2 (by decide),zero 3 (by decide),zero 4 (by decide),.inl (zero 5 (by decide))⟩
  | sixToFour tag => exact ⟨ofSegments_valid (valid 1) (valid 2),.inr ((within_transition valid).mpr (.inr (.inl tag)))⟩
  | nat64 tag zero => exact ⟨ofSegments_valid (valid 6) (valid 7),.inr ((within_transition valid).mpr (.inl tag))⟩

theorem embeds_trailing (valid : v.Valid) (wrapped : Within [compatible,mapped] v.number) :
    Embeds v (.ofSegments (v.segments 6) (v.segments 7)) := by
  obtain ⟨h0,h1,h2,h3,h4,last⟩ := (within_embedding valid).mp wrapped
  have zero : ∀ i : Fin 8, i.val < 5 → v.segments i = 0 := by
    intro i low
    match i with
    | 0 => exact h0
    | 1 => exact h1
    | 2 => exact h2
    | 3 => exact h3
    | 4 => exact h4
  rcases last with none | ones
  · refine .compatible fun i low => ?_
    by_cases five : i = 5
    · exact five ▸ none
    · exact zero i (by omega)
  · exact .mapped zero ones

end segments

-- Where the IPv4 lists part: the relay anycast block, the special-purpose network
-- but its documentation block, and the reserved networks but the unspecified
-- and the broadcast address.
def Contested (n : Nat) : Prop :=
  (v4Block 192 88 99 0 24).Contains n ∨ ((v4Block 192 0 0 0 16).Contains n ∧ ¬ (v4Block 192 0 2 0 24).Contains n) ∨
    (Within reservedV4 n ∧ ¬ ((v4Block 0 0 0 0 32).Contains n ∨ (v4Block 255 255 255 255 32).Contains n))

def Unlisted (n : Nat) : Prop := ¬ Within (Classifier.blocksV4 .stream) n ∧ ¬ Within (Classifier.blocksV4 .relay) n

def Settled : IpAddr → Prop
  | .v4 v => ¬ Contested v.number
  | .v6 v =>
    (mapped.Contains v.number → Unlisted (v.number % 2 ^ 32)) ∧
    (compatible.Contains v.number → v.number ≤ 1 ∨ Unlisted (v.number % 2 ^ 32)) ∧
    ¬ Within (multicastV6 :: transitionV6) v.number

section agreement
variable {v : Ipv4Addr} {w : Ipv6Addr}

theorem coincide_iff {address : IpAddr} : (∀ c c' : Classifier, c.accepts address = c'.accepts address) ↔
    (Classifier.stream.accepts address = true ↔ Classifier.relay.accepts address = true) ∧
    (Classifier.relay.accepts address = true ↔ Classifier.icons.accepts address = true) := by
  constructor
  · intro same
    exact ⟨by rw [same .stream .relay],by rw [same .relay .icons]⟩
  · rintro ⟨first,second⟩ c c'
    rw [Bool.eq_iff_iff]
    cases c <;> cases c' <;> simp only [first,second]

theorem icons_listed {n : Nat} (listed : Within (Classifier.blocksV4 .icons) n) : Within (Classifier.blocksV4 .relay) n := by
  simp only [Classifier.blocksV4,within_append,within_cons,within_nil,or_false] at listed ⊢
  rcases listed with common | zero | broadcast
  · exact .inl (.inl common)
  · refine .inl (.inr ?_)
    simp only [reservedV4,within_cons,Block.Contains,v4Block,Ipv4Addr.number] at zero ⊢
    omega
  · refine .inl (.inr ?_)
    simp only [reservedV4,within_cons,Block.Contains,v4Block,Ipv4Addr.number] at broadcast ⊢
    omega

def commonV4 : List Block := internalV4 ++ documentationV4

theorem within_common (valid : v.Valid) : Within commonV4 v.number ↔
    (v.a = 10 ∨ v.a = 127 ∨ (v.a = 172 ∧ 16 ≤ v.b ∧ v.b ≤ 31) ∨ (v.a = 192 ∧ v.b = 168) ∨ v.a = 169 ∧ v.b = 254) ∨
    (v.a = 192 ∧ v.b = 0 ∧ v.c = 2) ∨ (v.a = 198 ∧ v.b = 51 ∧ v.c = 100) ∨ v.a = 203 ∧ v.b = 0 ∧ v.c = 113 := by
  rw [commonV4,within_append,within_internal valid,within_documentation valid]
  simp only [Ipv4Addr.isPrivate,Ipv4Addr.isLoopback,Ipv4Addr.isLinkLocal,Ipv4Addr.isDocumentation,Bool.or_eq_true,
    Bool.and_eq_true,beq_iff_eq,decide_eq_true_eq]
  grind

-- The lists differ in their last parts only; how these lie to each other.
theorem reserved_apart (valid : v.Valid) (reserved : Within reservedV4 v.number) :
    ¬ Within commonV4 v.number ∧ ¬ (v4Block 192 0 0 0 16).Contains v.number := by
  rw [within_common valid,in_16 valid (by decide)]
  rw [within_reserved valid] at reserved
  omega

theorem anycast_apart (valid : v.Valid) (anycast : (v4Block 192 88 99 0 24).Contains v.number) :
    ¬ Within commonV4 v.number ∧ ¬ Within reservedV4 v.number ∧ ¬ (v4Block 192 0 0 0 16).Contains v.number := by
  rw [within_common valid,within_reserved valid,in_16 valid (by decide)]
  rw [in_24 valid (by decide) (by decide)] at anycast
  omega

theorem special_common (valid : v.Valid) (special : (v4Block 192 0 0 0 16).Contains v.number) :
    Within commonV4 v.number ↔ (v4Block 192 0 2 0 24).Contains v.number := by
  rw [within_common valid,in_24 valid (by decide) (by decide)]
  rw [in_16 valid (by decide)] at special
  omega

theorem assigned_special (valid : v.Valid) (assigned : (v4Block 192 0 0 0 24).Contains v.number) :
    (v4Block 192 0 0 0 16).Contains v.number ∧ ¬ (v4Block 192 0 2 0 24).Contains v.number := by
  rw [in_16 valid (by decide),in_24 valid (by decide) (by decide)]
  rw [in_24 valid (by decide) (by decide)] at assigned
  omega

theorem ends_reserved (valid : v.Valid) (ends : (v4Block 0 0 0 0 32).Contains v.number ∨ (v4Block 255 255 255 255 32).Contains v.number) :
    Within reservedV4 v.number := by
  rw [in_32 valid (by decide) (by decide) (by decide),in_32 valid (by decide) (by decide) (by decide)] at ends
  rw [within_reserved valid]
  omega

theorem agreed_v4 (valid : v.Valid) : Agreed (.v4 v) ↔ ¬ Contested v.number := by
  have same : Agreed (.v4 v) ↔ ∀ c c' : Classifier, c.accepts (.v4 v) = c'.accepts (.v4 v) :=
    ⟨Agreed.coincide,fun same => ⟨same,fun _ _ other => nomatch other⟩⟩
  have reserved := @reserved_apart v valid
  have anycast := @anycast_apart v valid
  have special := @special_common v valid
  have assigned := @assigned_special v valid
  have ends := @ends_reserved v valid
  rw [same,coincide_iff,accepts_v4 valid,accepts_v4 valid,accepts_v4 valid,Contested]
  change (¬ Within (commonV4 ++ reservedV4 ++ _) _ ↔ ¬ Within (commonV4 ++ reservedV4 ++ _) _) ∧
    (¬ Within (commonV4 ++ reservedV4 ++ _) _ ↔ ¬ Within (commonV4 ++ _) _) ↔ _
  simp only [within_append,within_cons,within_nil,or_false]
  grind

-- Mapped and compatible addresses lie below every other block.
theorem low_apart {n : Nat} (low : n / 2 ^ 32 ≤ 0xffff) :
    ¬ Within ([multicastV6,uniqueLocal,linkLocal] ++ transitionV6) n := by
  simp only [transitionV6,multicastV6,uniqueLocal,linkLocal,within_append,within_cons,within_nil,or_false,Block.Contains,v6Block]
  omega

theorem transition_apart {n : Nat} (listed : Within (multicastV6 :: transitionV6) n) :
    ¬ uniqueLocal.Contains n ∧ ¬ linkLocal.Contains n ∧ 1 < n := by
  simp only [transitionV6,multicastV6,uniqueLocal,linkLocal,within_cons,within_nil,or_false,Block.Contains,v6Block] at listed ⊢
  omega

theorem unlisted_accepted (valid : v.Valid) (unlisted : Unlisted v.number) (c : Classifier) : c.accepts (.v4 v) = true := by
  rw [accepts_v4 valid]
  cases c with
  | stream => exact unlisted.1
  | relay => exact unlisted.2
  | icons => exact fun listed => unlisted.2 (icons_listed listed)

theorem unlisted_embedded (valid : w.Valid) (low : w.number / 2 ^ 32 ≤ 0xffff) (unlisted : Unlisted (w.number % 2 ^ 32))
    {inner : Ipv4Addr} (embeds : Embeds w inner) (c : Classifier) : c.accepts (.v4 inner) = true := by
  obtain ⟨valid',⟨_,same⟩ | transition⟩ := embeds_number valid embeds
  · rw [← same] at unlisted
    exact unlisted_accepted valid' unlisted c
  · exact absurd (within_append.mpr (.inr transition)) (low_apart low)

theorem ends_low {n : Nat} : Within [⟨1,0⟩,⟨0,0⟩] n ↔ n ≤ 1 := by
  simp only [within_cons,within_nil,or_false,Block.Contains]
  omega

theorem icons_low (valid : w.Valid) (low : w.number / 2 ^ 32 ≤ 0xffff) :
    Classifier.icons.accepts (.v6 w) = true ↔ 1 < w.number := by
  have apart := low_apart low
  have split : Within (Classifier.blocksV6 .icons) w.number ↔ w.number ≤ 1 ∨ Within [uniqueLocal,linkLocal] w.number := by
    rw [← ends_low,← within_append]
    rfl
  rw [icons_v6 valid,split,← Nat.not_le]
  refine not_congr (or_iff_left fun listed => apart ?_)
  rw [within_append,within_cons]
  exact .inl (.inr listed)

theorem relay_low (valid : w.Valid) (low : w.number / 2 ^ 32 ≤ 0xffff) (bare : ¬ mapped.Contains w.number) :
    Classifier.relay.accepts (.v6 w) = true ↔ 1 < w.number := by
  have apart := low_apart low
  have split : Within (Classifier.blocksV6 .relay) w.number ↔
      w.number ≤ 1 ∨ Within ([multicastV6,uniqueLocal,linkLocal] ++ transitionV6) w.number := by
    rw [← ends_low,← within_append]
    rfl
  have unwrapped : ¬ Within (Classifier.unwraps .relay) w.number := by simpa [Classifier.unwraps] using bare
  rw [accepts_v6 valid,if_neg unwrapped,split,← Nat.not_le]
  exact not_congr (or_iff_left apart)

theorem relay_mapped (valid : w.Valid) (format : mapped.Contains w.number) :
    Classifier.relay.accepts (.v6 w) = true ↔ ¬ Within (Classifier.blocksV4 .relay) (w.number % 2 ^ 32) := by
  rw [accepts_v6 valid,if_pos (by simp [Classifier.unwraps,format])]

theorem stream_embedding (valid : w.Valid) (format : Within [compatible,mapped] w.number) :
    Classifier.stream.accepts (.v6 w) = true ↔ ¬ Within (Classifier.blocksV4 .stream) (w.number % 2 ^ 32) := by
  rw [accepts_v6 valid,if_pos (show Within (Classifier.unwraps .stream) w.number from format)]

theorem agreed_mapped (valid : w.Valid) (format : mapped.Contains w.number) :
    Agreed (.v6 w) ↔ Unlisted (w.number % 2 ^ 32) := by
  have low : w.number / 2 ^ 32 ≤ 0xffff := Nat.le_of_eq format
  have large : 1 < w.number := by
    simp only [Block.Contains,mapped] at format
    omega
  have icons := (icons_low valid low).mpr large
  have relay := relay_mapped valid format
  have stream := stream_embedding valid (by simp [format])
  constructor
  · intro agreed
    have same := coincide_iff.mp agreed.coincide
    exact ⟨stream.mp (same.1.mpr (same.2.mpr icons)),relay.mp (same.2.mpr icons)⟩
  · intro unlisted
    refine ⟨coincide_iff.mpr ⟨?_,?_⟩,?_⟩
    · exact iff_of_true (stream.mpr unlisted.1) (relay.mpr unlisted.2)
    · exact iff_of_true (relay.mpr unlisted.2) icons
    · rintro _ inner ⟨⟩ embeds c _
      exact unlisted_embedded valid low unlisted embeds c

theorem agreed_compatible (valid : w.Valid) (format : compatible.Contains w.number) :
    Agreed (.v6 w) ↔ w.number ≤ 1 ∨ Unlisted (w.number % 2 ^ 32) := by
  have low : w.number / 2 ^ 32 ≤ 0xffff := format.trans_le (Nat.zero_le _)
  have bare : ¬ mapped.Contains w.number := by
    simp only [Block.Contains,mapped,compatible] at format ⊢
    omega
  have within : Within [compatible,mapped] w.number := by simp [format]
  have icons := icons_low valid low
  have relay := relay_low valid low bare
  have stream := stream_embedding valid within
  constructor
  · intro agreed
    by_cases ends : w.number ≤ 1
    · exact .inl ends
    · have large := Nat.not_le.mp ends
      have same := coincide_iff.mp agreed.coincide
      have inner := agreed.embedded w _ rfl (embeds_trailing valid within) .relay (relay.mpr large)
      rw [accepts_v4 (ofSegments_valid (valid 6) (valid 7)),trailing_number valid] at inner
      exact .inr ⟨stream.mp (same.1.mpr (relay.mpr large)),inner⟩
  · rintro (ends | unlisted)
    · have reserved : Within (Classifier.blocksV4 .stream) (w.number % 2 ^ 32) := by
        refine ⟨v4Block 0 0 0 0 8,by simp [Classifier.blocksV4,reservedV4],?_⟩
        simp only [Block.Contains,v4Block,Ipv4Addr.number]
        omega
      have rejected : ∀ c : Classifier, ¬ c.accepts (.v6 w) = true := by
        intro c
        cases c with
        | stream => exact fun accepted => stream.mp accepted reserved
        | relay => exact fun accepted => absurd (relay.mp accepted) (Nat.not_lt.mpr ends)
        | icons => exact fun accepted => absurd (icons.mp accepted) (Nat.not_lt.mpr ends)
      refine ⟨coincide_iff.mpr ⟨?_,?_⟩,?_⟩
      · exact iff_of_false (rejected .stream) (rejected .relay)
      · exact iff_of_false (rejected .relay) (rejected .icons)
      · rintro _ inner ⟨⟩ embeds c accepted
        exact absurd accepted (rejected c)
    · have large : 1 < w.number := by
        have small : ¬ Within (Classifier.blocksV4 .stream) (w.number % 2 ^ 32) := unlisted.1
        by_contra ends
        refine small ⟨v4Block 0 0 0 0 8,by simp [Classifier.blocksV4,reservedV4],?_⟩
        simp only [Block.Contains,v4Block,Ipv4Addr.number]
        omega
      refine ⟨coincide_iff.mpr ⟨?_,?_⟩,?_⟩
      · exact iff_of_true (stream.mpr unlisted.1) (relay.mpr large)
      · exact iff_of_true (relay.mpr large) (icons.mpr large)
      · rintro _ inner ⟨⟩ embeds c _
        exact unlisted_embedded valid low unlisted embeds c

theorem agreed_native (valid : w.Valid) (bare : ¬ Within [compatible,mapped] w.number) :
    Agreed (.v6 w) ↔ ¬ Within (multicastV6 :: transitionV6) w.number := by
  have large : ¬ w.number ≤ 1 := by
    intro ends
    refine bare ⟨compatible,by simp,?_⟩
    simp only [Block.Contains,compatible]
    omega
  have stream : Classifier.stream.accepts (.v6 w) = true ↔ ¬ Within (Classifier.blocksV6 .stream) w.number := by
    rw [accepts_v6 valid,if_neg (show ¬ Within (Classifier.unwraps .stream) w.number from bare)]
  have relay : Classifier.relay.accepts (.v6 w) = true ↔ ¬ Within (Classifier.blocksV6 .relay) w.number := by
    rw [accepts_v6 valid,if_neg]
    intro format
    exact bare (within_cons.mpr (.inr format))
  have icons := icons_v6 valid
  have apart := @transition_apart w.number
  have ends := (not_congr (@ends_low w.number)).mpr large
  constructor
  · intro agreed listed
    obtain ⟨notUnique,notLink,_⟩ := apart listed
    have same := coincide_iff.mp agreed.coincide
    have accepted : Classifier.icons.accepts (.v6 w) = true := by
      rw [icons]
      simp only [Classifier.blocksV6,within_cons,within_nil,or_false] at ends ⊢
      grind
    refine relay.mp (same.2.mpr accepted) ?_
    simp only [Classifier.blocksV6,within_append,within_cons,within_nil,or_false] at listed ⊢
    grind
  · intro unlisted
    refine ⟨coincide_iff.mpr ?_,?_⟩
    · rw [stream,relay,icons]
      simp only [Classifier.blocksV6,within_append,within_cons,within_nil,or_false] at unlisted ends ⊢
      grind
    · rintro _ inner ⟨⟩ embeds c _
      obtain ⟨_,⟨format,_⟩ | transition⟩ := embeds_number valid embeds
      · exact absurd format bare
      · exact absurd (within_cons.mpr (.inr transition)) unlisted

theorem agreed_v6 (valid : w.Valid) : Agreed (.v6 w) ↔ Settled (.v6 w) := by
  have clear : w.number / 2 ^ 32 ≤ 0xffff → ¬ Within (multicastV6 :: transitionV6) w.number := by
    intro low listed
    have apart := low_apart low
    rw [within_append,within_cons] at apart
    rw [within_cons] at listed
    exact apart (listed.imp .inl id)
  change _ ↔ (mapped.Contains w.number → _) ∧ (compatible.Contains w.number → _) ∧ _
  by_cases format : mapped.Contains w.number
  · have other : ¬ compatible.Contains w.number := by
      simp only [Block.Contains,mapped,compatible] at format ⊢
      omega
    rw [agreed_mapped valid format]
    constructor
    · intro unlisted
      exact ⟨fun _ => unlisted,fun found => absurd found other,clear (Nat.le_of_eq format)⟩
    · intro settled
      exact settled.1 format
  by_cases plain : compatible.Contains w.number
  · rw [agreed_compatible valid plain]
    constructor
    · intro unlisted
      exact ⟨fun found => absurd found format,fun _ => unlisted,clear (plain.trans_le (Nat.zero_le _))⟩
    · intro settled
      exact settled.2.1 plain
  · rw [agreed_native valid (by simp [format,plain])]
    constructor
    · intro unlisted
      exact ⟨fun found => absurd found format,fun found => absurd found plain,unlisted⟩
    · intro settled
      exact settled.2.2

end agreement

-- The classifiers agree on exactly the settled addresses.
theorem classifiers_agree (destination : Destination) : Agreed destination.val ↔ Settled destination.val := by
  obtain ⟨address | address,valid⟩ := destination
  · exact agreed_v4 valid
  · exact agreed_v6 valid

-- The icon fetcher takes the loopback host in its mapped form for a public one.
def mappedLoopback : Ipv6Addr := ⟨fun i => [0,0,0,0,0,0xffff,0x7f00,1].getD i.val 0⟩

theorem mapped_loopback_accepted : ¬ ∀ destination : Destination, Agreed destination.val := by
  intro agreed
  have valid : ∀ i : Fin 8, mappedLoopback.segments i < 65536 := by decide
  have same : Classifier.stream.accepts (.v6 mappedLoopback) = Classifier.icons.accepts (.v6 mappedLoopback) :=
    (agreed ⟨.v6 mappedLoopback,valid⟩).coincide .stream .icons
  exact absurd same (by decide)

end StreamUri
