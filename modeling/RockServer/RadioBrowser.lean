import RockServer.CatalogRecords
import RockServer.OutboundFetches
import RockServer.SearchText

-- Stations of the Radio Browser directory, normalised for an import.
namespace RadioBrowser
open Ascending (ascending)
open CatalogImport (ImportedStation ImportedStream)
open DeviceControl (Uuid)
open Egress (Url UrlLibrary)
open Search (Unicode trim splitWhitespace)
open StreamUri (toAsciiLowercase)

def source : String := "radio_browser"
def maxUrlChars : Nat := 2048
def maxNameChars : Nat := 200
def maxTags : Nat := 32
def maxTagChars : Nat := 64
def maxCodecChars : Nat := 32
def maxBitrateKbps : Int := 2000

structure RadioBrowserStationDto where
  stationuuid : String
  name : String
  urlResolved : String
  homepage : String
  favicon : String
  tags : String
  countrycode : String
  languagecodes : String
  codec : String
  bitrate : Int
  lastcheckok : Int

inductive SkipReason where
  | broken
  | invalidIdentity
  | emptyName
  | invalidStreamUrl
deriving DecidableEq

-- The `url` and `uuid` crates.
structure Libraries where
  urls : UrlLibrary
  display : Url → String
  parseUuid : String → Option Uuid

def nibble (uuid : Uuid) (i : Nat) : Char := Nat.digitChar (uuid / 16 ^ (31 - i) % 16)

def hyphenated (uuid : Uuid) : String :=
  let digits := (List.range 32).map (nibble uuid)
  String.ofList (digits.take 8 ++ '-' :: (digits.drop 8).take 4 ++ '-' :: (digits.drop 12).take 4 ++
    '-' :: (digits.drop 16).take 4 ++ '-' :: digits.drop 20)

def toAsciiUppercase (c : Char) : Char := if 'a' ≤ c ∧ c ≤ 'z' then Char.ofNat (c.toNat - 32) else c

def splitCommas (value : String) : List String := (value.toList.splitOnP (· == ',')).map String.ofList

def normalizedText (value : String) (maxChars : Nat) : String :=
  String.ofList ((" ".intercalate (splitWhitespace value)).toList.take maxChars)

variable (libraries : Libraries) (unicode : Unicode)

def normalizedUrl (value : String) (required : Bool) : Option String :=
  if trim value = "" then none
  else (libraries.urls.parse (trim value)).bind fun parsed =>
    if !(parsed.scheme = "http" || parsed.scheme = "https") || parsed.host.isNone || parsed.username ≠ "" ||
        parsed.password.isSome then none
    else
      let normalized := libraries.display {parsed with fragment := none}
      if maxUrlChars < normalized.length || (required && normalized = "") then none else some normalized

def normalizedTags (value : String) : List String :=
  (ascending (((splitCommas value).map fun tag => unicode.toLowercase (normalizedText tag maxTagChars)).filter
    fun tag => tag ≠ "")).take maxTags

-- Two letters before three, as search locales have them.
def normalizedLanguage (value : String) : Option String :=
  let codes := ((splitCommas value).map fun code => String.ofList ((trim code).toList.map toAsciiLowercase)).filter fun code =>
    2 ≤ code.utf8ByteSize && code.utf8ByteSize ≤ 3 && code.toList.all fun c => 'a' ≤ c && c ≤ 'z'
  (codes.find? (·.utf8ByteSize = 2)).or (codes.find? (·.utf8ByteSize = 3))

def normalizedCountryCode (value : String) : Option String :=
  let code := String.ofList ((trim value).toList.map toAsciiUppercase)
  if code.utf8ByteSize = 2 && code.toList.all fun c => 'A' ≤ c && c ≤ 'Z' then some code else none

def normalizedCodec (value : String) : Option String :=
  let codec := String.ofList ((normalizedText value maxCodecChars).toList.map toAsciiUppercase)
  if codec ≠ "" then some codec else none

def toImported (dto : RadioBrowserStationDto) : Except SkipReason ImportedStation :=
  if dto.lastcheckok ≠ 1 then .error .broken
  else match (libraries.parseUuid (trim dto.stationuuid)).map hyphenated with
    | none => .error .invalidIdentity
    | some sourceStationId =>
      let name := normalizedText dto.name maxNameChars
      if name = "" then .error .emptyName
      else match normalizedUrl libraries dto.urlResolved true with
        | none => .error .invalidStreamUrl
        | some streamUrl => .ok
          { source := source
            id := "rb-" ++ sourceStationId
            sourceStationId := sourceStationId
            name := name
            homepageUrl := normalizedUrl libraries dto.homepage false
            faviconSourceUrl := normalizedUrl libraries dto.favicon false
            tags := normalizedTags unicode dto.tags
            language := normalizedLanguage dto.languagecodes
            countryCode := normalizedCountryCode dto.countrycode
            streams := [⟨sourceStationId,streamUrl,normalizedCodec dto.codec,
              if 1 ≤ dto.bitrate && dto.bitrate ≤ maxBitrateKbps then some dto.bitrate.toNat else none,true⟩] }

variable {libraries unicode} {dto : RadioBrowserStationDto} {station : ImportedStation}

theorem toImported_id (accepted : toImported libraries unicode dto = .ok station) : ∃ uuid, station.id = "rb-" ++ hyphenated uuid := by
  unfold toImported at accepted
  dsimp only at accepted
  split at accepted
  · cases accepted
  · split at accepted
    · cases accepted
    · rename_i text parsed
      obtain ⟨uuid,_,rfl⟩ := Option.map_eq_some_iff.mp parsed
      split at accepted
      · cases accepted
      · split at accepted
        · cases accepted
        · cases accepted
          exact ⟨uuid,rfl⟩

theorem toImported_stream (accepted : toImported libraries unicode dto = .ok station) :
    ∃ stream, station.streams = [stream] ∧ stream.isPrimary = true ∧ station.id = "rb-" ++ stream.sourceStreamId := by
  unfold toImported at accepted
  dsimp only at accepted
  split at accepted
  · cases accepted
  · split at accepted
    · cases accepted
    · split at accepted
      · cases accepted
      · split at accepted
        · cases accepted
        · cases accepted
          exact ⟨_,rfl,rfl,rfl⟩

def isHex (c : Char) : Bool := ('0' ≤ c && c ≤ '9') || ('a' ≤ c && c ≤ 'f')

theorem nibble_hex (uuid : Uuid) (i : Nat) : isHex (nibble uuid i) = true := by
  have table : ∀ n < 16, isHex (Nat.digitChar n) = true := by decide
  exact table _ (Nat.mod_lt _ (by decide))

theorem hyphenated_chars (uuid : Uuid) {c : Char} (member : c ∈ (hyphenated uuid).toList) : isHex c = true ∨ c = '-' := by
  have digit : ∀ c ∈ (List.range 32).map (nibble uuid), isHex c = true := by
    intro c member
    obtain ⟨i,_,rfl⟩ := List.mem_map.mp member
    exact nibble_hex uuid i
  simp only [hyphenated,String.toList_ofList,List.mem_append,List.mem_cons] at member
  rcases member with (((member | rfl | member) | rfl | member) | rfl | member) | rfl | member
  · exact .inl (digit c (List.mem_of_mem_take member))
  · exact .inr rfl
  · exact .inl (digit c (List.mem_of_mem_drop (List.mem_of_mem_take member)))
  · exact .inr rfl
  · exact .inl (digit c (List.mem_of_mem_drop (List.mem_of_mem_take member)))
  · exact .inr rfl
  · exact .inl (digit c (List.mem_of_mem_drop (List.mem_of_mem_take member)))
  · exact .inr rfl
  · exact .inl (digit c (List.mem_of_mem_drop member))

theorem hyphenated_length (uuid : Uuid) : (hyphenated uuid).length = 36 := by
  have digits : ((List.range 32).map (nibble uuid)).length = 32 := by rw [List.length_map,List.length_range]
  simp only [hyphenated,String.length_ofList,List.length_append,List.length_cons,List.length_take,List.length_drop,digits]
  decide

theorem pieces_whole {α : Type} (letters : List α) : letters.take 8 ++ ((letters.drop 8).take 4 ++ ((letters.drop 12).take 4 ++
    ((letters.drop 16).take 4 ++ letters.drop 20))) = letters := by
  have cut (n : Nat) : (letters.drop n).take 4 ++ letters.drop (n + 4) = letters.drop n := by
    rw [← List.drop_drop]
    exact List.take_append_drop 4 _
  rw [cut 16,cut 12,cut 8,List.take_append_drop]

theorem hyphenated_digits (uuid : Uuid) : (hyphenated uuid).toList.filter (· != '-') = (List.range 32).map (nibble uuid) := by
  have plain : ∀ c ∈ (List.range 32).map (nibble uuid), (c != '-') = true := by
    intro c member
    obtain ⟨i,_,rfl⟩ := List.mem_map.mp member
    rw [bne_iff_ne]
    intro hyphen
    have hex := nibble_hex uuid i
    rw [hyphen] at hex
    exact absurd hex (by decide)
  rw [hyphenated,String.toList_ofList]
  generalize (List.range 32).map (nibble uuid) = digits at plain
  have whole : ∀ part : List Char, part ⊆ digits → part.filter (· != '-') = part := fun part inside =>
    List.filter_eq_self.mpr fun c member => plain c (inside member)
  have front (n : Nat) := whole _ (List.take_subset n digits)
  have middle (n : Nat) : ((digits.drop n).take 4).filter (· != '-') = (digits.drop n).take 4 :=
    whole _ fun c member => List.drop_subset n digits (List.take_subset 4 _ member)
  have back (n : Nat) := whole _ (List.drop_subset n digits)
  have hyphen (rest : List Char) : ('-' :: rest).filter (· != '-') = rest.filter (· != '-') := rfl
  simp only [List.filter_append,hyphen,front,middle,back,List.append_assoc]
  exact pieces_whole digits

theorem digits_agree {a b : Nat} (k : Nat) (same : ∀ i < k, a / 16 ^ i % 16 = b / 16 ^ i % 16) : a % 16 ^ k = b % 16 ^ k := by
  induction k with
  | zero => simp [Nat.mod_one]
  | succ k ih =>
    rw [Nat.mod_pow_succ,Nat.mod_pow_succ,ih fun i below => same i (Nat.lt_succ_of_lt below),same k (Nat.lt_succ_self k)]

-- The text of an identifier of 128 bits is its own.
theorem hyphenated_inj {a b : Uuid} (small : a < 2 ^ 128) (small' : b < 2 ^ 128) (same : hyphenated a = hyphenated b) : a = b := by
  have digits := (hyphenated_digits a).symm.trans ((congrArg (fun text => text.toList.filter (· != '-')) same).trans (hyphenated_digits b))
  have table : ∀ m < 16, ∀ n < 16, Nat.digitChar m = Nat.digitChar n → m = n := by decide
  have agreed := digits_agree (a:=a) (b:=b) 32 fun i below => by
    have char := List.map_inj_left.mp digits (31 - i) (List.mem_range.mpr (by omega))
    rw [nibble,nibble,show 31 - (31 - i) = i by omega] at char
    exact table _ (Nat.mod_lt _ (by decide)) _ (Nat.mod_lt _ (by decide)) char
  rwa [Nat.mod_eq_of_lt (by simpa using small),Nat.mod_eq_of_lt (by simpa using small')] at agreed

end RadioBrowser
