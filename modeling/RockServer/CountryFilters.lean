import Mathlib.Algebra.Order.BigOperators.Group.List
import RockServer.CapabilityCodec
import RockServer.Mentions
import RockServer.SearchQueries

-- The country that a search is held to, and what a language model may say about it.
namespace Search
open Ascending (ascending ascending_eq mem_ascending)
open DeviceControl (Json Decoded structFields field optionField decodeTexts decodeString decodeVariant)
open Mentions (Occurrence Occurs Named Mentioned Nested Several Only)

-- A source-country preposition with a word after it.
def hasExplicitCountryRequest (terms : List String) : Bool := (windows 2 terms).any fun
  | [first,second] => (first == "из" || first == "from") && second != ""
  | _ => false

def maxLlmIntentJsonBytes : Nat := 8 * 1024
def maxIntentValues : Nat := 32
def maxIntentValueChars : Nat := 64

structure LlmProviderError where
  message : String

structure IntentDto where
  action : SearchAction
  terms : List String
  tags : List String
  language : Option String
  countryCode : Option String

def actionName : SearchAction → String
  | .play => "play"
  | .show => "show"

def IntentDto.decode (value : Json) : Decoded IntentDto := do
  let fields ← structFields ["action","terms","tags","language","country_code"] 3 true value
  if ¬(fields.map Prod.fst).Nodup then .error .invalidType
  else
    let action ← field fields "action" (decodeVariant [.play,.show] actionName)
    let terms ← field fields "terms" decodeTexts
    let tags ← field fields "tags" decodeTexts
    let language ← optionField fields "language" decodeString
    let countryCode ← optionField fields "country_code" decodeString
    .ok ⟨action,terms,tags,language,countryCode⟩

def IntentDto.intoQueryIntent (dto : IntentDto) : Except QueryParserError QueryIntent :=
  if [dto.terms,dto.tags].any fun values => maxIntentValues < values.length || values.any (maxIntentValueChars < ·.length) then
    .error (.safe "LLM returned an invalid intent response")
  else .ok
    { action := dto.action
      terms := dto.terms
      tags := dto.tags
      language := dto.language
      countryCode := dto.countryCode
      coreTermCount := dto.terms.length
      rawQuery := " ".intercalate dto.terms }

-- `LlmQueryParser::parse` on the provider's answer. `fromStr` is the JSON library's
-- reading of a text; the transliteration of the command may panic.
def parse (unicode : Unicode) (fromStr : String → Option Json) (response : Except LlmProviderError String)
    (input : QueryParserInput) : Option (Except QueryParserError QueryIntent) :=
  match response with
  | .error error => some (.error (.safe error.message))
  | .ok response =>
    if maxLlmIntentJsonBytes < response.utf8ByteSize then some (.error (.safe "LLM returned an oversized intent response"))
    else match (fromStr response).bind fun json => (IntentDto.decode json).toOption with
      | none => some (.error (.safe "LLM returned a malformed intent response"))
      | some dto => match dto.intoQueryIntent with
        | .error error => some (.error error)
        | .ok intent => (deterministicIntent unicode input.query input.locale).map fun deterministic =>
          let commandTerms := tokenize unicode input.query
          .ok {intent with
            tags := ascending (intent.tags ++ deterministic.tags)
            language := deterministic.language.or intent.language
            countryCode := (inferCountryCode commandTerms).or
              (if hasExplicitCountryRequest commandTerms then intent.countryCode else none)}

-- All names and demonyms with their case forms, as the words that they consist of.
def countryNames : List (String × List String) :=
  (countryAliases.flatMap fun entry => entry.2.map fun name => (entry.1,splitWhitespace name)) ++
    russianCountryInflections.map fun entry => (entry.2,[entry.1])

-- What the search is held to follows the words of the command.
structure Follows (unicode : Unicode) (fromStr : String → Option Json) (terms : List String) : Prop where
  one : ∀ code, Only (Mentioned countryNames terms) code → inferCountryCode terms = some code
  several : Several (Mentioned countryNames terms) → inferCountryCode terms = none
  chosen : ∀ response input intent, tokenize unicode input.query = terms → parse unicode fromStr response input = some (.ok intent) →
    intent.countryCode = inferCountryCode terms ∨ inferCountryCode terms = none ∧ hasExplicitCountryRequest terms = true ∧
      ∃ text json dto, response = .ok text ∧ fromStr text = some json ∧ IntentDto.decode json = .ok dto ∧
        intent.countryCode = dto.countryCode
  valid : ∀ given intent, validateIntent unicode given = some (.ok intent) → (∀ code ∈ intent.language, validLanguage code = true) ∧
    (∀ code ∈ intent.countryCode, validCountry code = true) ∧ ∀ tag ∈ intent.tags, tag ∈ canonicalVocabulary

section names
variable {terms : List String} {code : String}

theorem windows_any {α : Type} {values window : List α} {length : Nat} : window ∈ windows length values ↔
    window.length = length ∧ ∃ start ≤ values.length, (values.drop start).take length = window := by
  simp only [windows,List.mem_filter,List.mem_map,List.mem_tails,decide_eq_true_eq]
  constructor
  · rintro ⟨⟨rest,⟨front,rfl⟩,rfl⟩,whole⟩
    exact ⟨whole,front.length,by simp,by rw [List.drop_left]⟩
  · rintro ⟨whole,start,_,rfl⟩
    exact ⟨⟨_,List.drop_suffix _ _,rfl⟩,whole⟩

theorem contains_iff {name : String} : containsCountryAlias terms name = true ↔
    ∃ start ≤ terms.length, (terms.drop start).take (splitWhitespace name).length = splitWhitespace name := by
  simp only [containsCountryAlias,List.any_eq_true,beq_iff_eq]
  constructor
  · rintro ⟨_,listed,rfl⟩
    exact (windows_any.mp listed).2
  · intro found
    exact ⟨_,windows_any.mpr ⟨rfl,found⟩,rfl⟩

theorem contains_word {word : String} : word ∈ terms ↔ ∃ start ≤ terms.length, (terms.drop start).take 1 = [word] := by
  constructor
  · intro listed
    obtain ⟨front,back,rfl⟩ := List.append_of_mem listed
    exact ⟨front.length,by simp,by rw [List.drop_left]; rfl⟩
  · rintro ⟨start,_,found⟩
    have inside : word ∈ (terms.drop start).take 1 := found ▸ List.mem_singleton_self word
    exact List.mem_of_mem_drop (List.mem_of_mem_take inside)

theorem mem_countryCodes : code ∈ countryCodes terms ↔ Named countryNames terms code := by
  simp only [countryCodes,List.mem_append,List.mem_filterMap]
  constructor
  · rintro (⟨entry,listed,found⟩ | ⟨entry,listed,found⟩)
    · split at found
      · rename_i matched
        cases found
        obtain ⟨name,spelled,occurs⟩ := List.any_eq_true.mp matched
        obtain ⟨start,room,same⟩ := contains_iff.mp occurs
        refine ⟨⟨entry.1,splitWhitespace name,start⟩,⟨List.mem_append_left _ ?_,room,same⟩,rfl⟩
        exact List.mem_flatMap.mpr ⟨entry,listed,List.mem_map.mpr ⟨name,spelled,rfl⟩⟩
      · cases found
    · split at found
      · rename_i matched
        cases found
        obtain ⟨start,room,same⟩ := contains_word.mp (List.contains_iff_mem.mp matched)
        exact ⟨⟨entry.2,[entry.1],start⟩,⟨List.mem_append_right _ (List.mem_map.mpr ⟨entry,listed,rfl⟩),room,same⟩,rfl⟩
      · cases found
  · rintro ⟨⟨_,name,start⟩,⟨known,room,same⟩,rfl⟩
    dsimp only at room same known ⊢
    rcases List.mem_append.mp known with alias_ | form
    · obtain ⟨entry,listed,spelled⟩ := List.mem_flatMap.mp alias_
      obtain ⟨text,written,pair⟩ := List.mem_map.mp spelled
      cases pair
      refine .inl ⟨entry,listed,if_pos ?_⟩
      exact List.any_eq_true.mpr ⟨text,written,contains_iff.mpr ⟨start,room,same⟩⟩
    · obtain ⟨entry,listed,pair⟩ := List.mem_map.mp form
      cases pair
      refine .inr ⟨entry,listed,if_pos ?_⟩
      exact List.contains_iff_mem.mpr (contains_word.mpr ⟨start,room,same⟩)

theorem inferCountryCode_iff : inferCountryCode terms = some code ↔ Only (Named countryNames terms) code := by
  have single : ascending (countryCodes terms) = [code] ↔ Only (Named countryNames terms) code := by
    rw [ascending_eq]
    simp only [List.pairwise_singleton,true_and,mem_countryCodes,List.mem_singleton,Only]
  rw [← single]
  unfold inferCountryCode
  split
  · rename_i only same
    simp [same]
  · rename_i other
    constructor
    · intro impossible
      cases impossible
    · exact fun same => absurd same (other code)

theorem inferCountryCode_several (several : Several (Named countryNames terms)) : inferCountryCode terms = none := by
  cases found : inferCountryCode terms with
  | none => rfl
  | some code => exact absurd several (inferCountryCode_iff.mp found).not_several

end names

section follows
variable {unicode : Unicode} {fromStr : String → Option Json} {terms : List String}

theorem intoQueryIntent_country {dto : IntentDto} {intent : QueryIntent} (taken : dto.intoQueryIntent = .ok intent) :
    intent.countryCode = dto.countryCode := by
  unfold IntentDto.intoQueryIntent at taken
  split at taken
  · cases taken
  · cases taken
    rfl

-- What the parser accepts, and the country that it leaves in it.
theorem parse_ok {response : Except LlmProviderError String} {input : QueryParserInput} {intent : QueryIntent}
    (parsed : parse unicode fromStr response input = some (.ok intent)) : ∃ text json dto, response = .ok text ∧
      fromStr text = some json ∧ IntentDto.decode json = .ok dto ∧
      intent.countryCode = (inferCountryCode (tokenize unicode input.query)).or
        (if hasExplicitCountryRequest (tokenize unicode input.query) then dto.countryCode else none) := by
  unfold parse at parsed
  cases response with
  | error error => cases parsed
  | ok text =>
    dsimp only at parsed
    split at parsed
    · cases parsed
    split at parsed
    · cases parsed
    rename_i dto read
    obtain ⟨json,document,decoded⟩ := Option.bind_eq_some_iff.mp read
    have whole : IntentDto.decode json = .ok dto := by
      cases decode : IntentDto.decode json with
      | error error =>
        rw [decode] at decoded
        cases decoded
      | ok dto' =>
        rw [decode] at decoded
        cases decoded
        rfl
    split at parsed
    · cases parsed
    rename_i taken
    obtain ⟨deterministic,_,same⟩ := Option.map_eq_some_iff.mp parsed
    cases same
    exact ⟨text,json,dto,rfl,document,whole,by rw [← intoQueryIntent_country taken]⟩

theorem validateIntent_ok {given intent : QueryIntent} (valid : validateIntent unicode given = some (.ok intent)) :
    (∀ code ∈ intent.language, validLanguage code = true) ∧ (∀ code ∈ intent.countryCode, validCountry code = true) ∧
    ∀ tag ∈ intent.tags, tag ∈ canonicalVocabulary := by
  have passed {code : Option String} {valid : String → Bool} (fine : ¬(code.any fun value => !valid value) = true) :
      ∀ value ∈ code, valid value = true := by
    intro value held
    rw [Option.mem_def.mp held] at fine
    simpa using fine
  unfold validateIntent at valid
  obtain ⟨expanded,_,checked⟩ := Option.map_eq_some_iff.mp valid
  dsimp only at checked
  split at checked
  · cases checked
  rename_i language
  split at checked
  · cases checked
  rename_i country
  cases checked
  refine ⟨passed language,passed country,fun tag listed => ?_⟩
  have known := (List.mem_filter.mp (mem_ascending.mp listed)).2
  exact List.contains_iff_mem.mp known

-- The filter follows the command exactly where no country is named within a
-- longer name of another, or several are mentioned beside it.
theorem country_follows_iff (unicode : Unicode) (fromStr : String → Option Json) (terms : List String) :
    Follows unicode fromStr terms ↔ (Nested countryNames terms → Several (Mentioned countryNames terms)) := by
  rw [← Mentions.only_named_iff]
  constructor
  · intro follows code only
    exact inferCountryCode_iff.mp (follows.one code only)
  · intro found
    refine ⟨fun code only => inferCountryCode_iff.mpr (found code only),
      fun several => inferCountryCode_several (Mentions.several_named several),?_,fun _ _ => validateIntent_ok⟩
    intro response input intent words parsed
    obtain ⟨text,json,dto,answered,document,decoded,country⟩ := parse_ok parsed
    rw [words] at country
    cases inferred : inferCountryCode terms with
    | some code => exact .inl (by rw [country,inferred,Option.some_or])
    | none =>
      rw [inferred,Option.none_or] at country
      split at country
      · rename_i explicit
        exact .inr ⟨rfl,explicit,text,json,dto,answered,document,decoded,country⟩
      · exact .inl country

end follows

section congo

theorem pieces_bytes {p : Char → Bool} (letters : List Char) :
    ((letters.splitOnP p).map fun piece => (String.ofList piece).utf8ByteSize).sum ≤ (String.ofList letters).utf8ByteSize := by
  induction letters with
  | nil => simp
  | cons c rest ih =>
    rw [List.splitOnP_cons_eq_if_modifyHead,bytes_cons]
    split
    · simp only [List.map_cons,List.sum_cons,String.ofList_nil,String.utf8ByteSize_empty]
      omega
    · cases split : rest.splitOnP p with
      | nil => exact absurd split (List.splitOnP_ne_nil p rest)
      | cons first others =>
        rw [split] at ih
        simp only [List.modifyHead_cons,List.map_cons,List.sum_cons,bytes_cons] at ih ⊢
        omega

-- The words of a text are no longer than the text.
theorem words_bytes (text : String) : ((splitWhitespace text).map String.utf8ByteSize).sum ≤ text.utf8ByteSize := by
  have pieces := @pieces_bytes DeviceControl.isWhitespace text.toList
  rw [String.ofList_toList] at pieces
  refine le_trans ?_ pieces
  rw [splitWhitespace,List.map_map]
  exact (List.filter_sublist.map _).sum_le_sum fun _ _ => Nat.zero_le _

-- The names of sixty bytes and more.
set_option maxRecDepth 20000 in
theorem long_names : ∀ entry ∈ countryAliases, ∀ name ∈ entry.2,
    name.utf8ByteSize < 60 ∨ entry.1 = "CD" ∨ name = "центральноафриканская республика" := by decide

def congo : List String := ["демократическая","республика","конго"]

theorem congo_name {code : String} (known : (code,congo) ∈ countryNames) : code = "CD" := by
  rcases List.mem_append.mp known with alias_ | form
  · obtain ⟨entry,listed,spelled⟩ := List.mem_flatMap.mp alias_
    obtain ⟨name,written,pair⟩ := List.mem_map.mp spelled
    obtain ⟨rfl,words⟩ := Prod.mk.inj pair
    rcases long_names entry listed name written with short | same | rfl
    · have bytes := words_bytes name
      rw [words] at bytes
      have sum : (congo.map String.utf8ByteSize).sum = 60 := by decide
      omega
    · exact same
    · exact absurd words (by decide)
  · obtain ⟨entry,_,pair⟩ := List.mem_map.mp form
    cases congrArg (List.length ∘ Prod.snd) pair

theorem congo_occurs : Occurs countryNames congo ⟨"CD",congo,0⟩ ∧
    Occurs countryNames congo ⟨"CG",["республика","конго"],1⟩ := by
  have listed (code name : String) (written : List String) (entry : (code,written) ∈ countryAliases) (spelled : name ∈ written) :
      (code,splitWhitespace name) ∈ countryNames :=
    List.mem_append_left _ (List.mem_flatMap.mpr ⟨_,entry,List.mem_map.mpr ⟨name,spelled,rfl⟩⟩)
  have great := listed "CD" "демократическая республика конго" _ (List.mem_of_getElem? (i:=39) rfl) (by decide)
  have small := listed "CG" "республика конго" _ (List.mem_of_getElem? (i:=38) rfl) (by decide)
  have words : splitWhitespace "демократическая республика конго" = congo := by decide
  have fewer : splitWhitespace "республика конго" = ["республика","конго"] := by decide
  rw [words] at great
  rw [fewer] at small
  exact ⟨⟨great,by decide,rfl⟩,small,by decide,rfl⟩

-- Both republics are found where one is asked for.
theorem congo_unfiltered : ¬ ∀ (unicode : Unicode) (fromStr : String → Option Json) (terms : List String),
    Follows unicode fromStr terms := by
  intro all
  have each : ∀ code, Mentioned countryNames congo code → code = "CD" := by
    rintro code ⟨o,occurs,rfl,free⟩
    by_contra other
    have apart := free ⟨"CD",congo,0⟩ congo_occurs.1
    have short := occurs.short
    obtain ⟨known,room,same⟩ := occurs
    have length := congrArg List.length same
    rw [List.length_take,List.length_drop] at length
    have whole : o.start = 0 ∧ o.name.length = congo.length := by
      by_contra part
      refine apart ⟨other,Nat.zero_le _,?_,?_⟩ <;> dsimp only <;> omega
    rw [whole.1,whole.2,List.drop_zero,List.take_length] at same
    exact other (congo_name (same ▸ known))
  obtain ⟨code,mentioned⟩ := congo_occurs.1.mention
  obtain rfl := each code mentioned
  have one := (all Letters.englishRussian (fun _ => none) congo).one "CD" fun other =>
    ⟨each other,fun same => same ▸ mentioned⟩
  rw [inferCountryCode_several ⟨"CD","CG",by decide,⟨_,congo_occurs.1,rfl⟩,_,congo_occurs.2,rfl⟩] at one
  cases one

end congo
end Search
