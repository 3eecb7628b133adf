import RockServer.SearchQueries

-- Where the query that a search asks for is the one that was normalised.
namespace Search
open Ascending
open RadioBrowser (toAsciiUppercase)
open StreamUri (toAsciiLowercase)

theorem splitOnP_apart {α : Type} {p : α → Bool} {values part : List α} (member : part ∈ values.splitOnP p) :
    ∀ x ∈ part, p x = false := by
  induction values generalizing part with
  | nil =>
    rw [List.splitOnP_nil,List.mem_singleton] at member
    simp [member]
  | cons value rest ih =>
    rw [List.splitOnP_cons_eq_if_modifyHead] at member
    split at member
    · rcases List.mem_cons.mp member with rfl | later
      · simp
      · exact ih later
    · rename_i inside
      cases split : rest.splitOnP p with
      | nil => exact absurd split (List.splitOnP_ne_nil p rest)
      | cons first others =>
        rw [split,List.modifyHead_cons] at member
        rcases List.mem_cons.mp member with rfl | later
        · intro x listed
          rcases List.mem_cons.mp listed with rfl | listed
          · simpa using inside
          · exact ih (split ▸ List.mem_cons_self) x listed
        · exact ih (split ▸ List.mem_cons_of_mem _ later)

variable {unicode : Unicode} {words others : List String} {word : String}

theorem camelParts_chars {part : List Char} {before : Char} {rest found : List Char}
    (member : found ∈ camelParts unicode part before rest) : ∀ c ∈ found, c ∈ part ∨ c ∈ rest := by
  induction rest generalizing part before with
  | nil =>
    rw [camelParts,List.mem_singleton] at member
    intro c listed
    exact .inl (member ▸ listed)
  | cons current rest ih =>
    rw [camelParts] at member
    split at member
    · rcases List.mem_cons.mp member with rfl | later
      · exact fun c listed => .inl listed
      · intro c listed
        rcases ih later c listed with first | second
        · exact .inr (List.mem_cons.mpr (.inl (List.mem_singleton.mp first)))
        · exact .inr (List.mem_cons_of_mem _ second)
    · intro c listed
      rcases ih member c listed with first | second
      · rcases List.mem_append.mp first with part | last
        · exact .inl part
        · exact .inr (List.mem_cons.mpr (.inl (List.mem_singleton.mp last)))
      · exact .inr (List.mem_cons_of_mem _ second)

theorem splitCamelCase_chars {token part : List Char} (member : part ∈ splitCamelCase unicode token) : ∀ c ∈ part, c ∈ token := by
  cases token with
  | nil =>
    rw [splitCamelCase,List.mem_singleton] at member
    simp [member]
  | cons first rest =>
    intro c listed
    rcases camelParts_chars member c listed with head | tail
    · exact List.mem_cons.mpr (.inl (List.mem_singleton.mp head))
    · exact List.mem_cons_of_mem _ tail

-- Tokens hold no blank.
theorem tokenize_solid {value : String} (member : word ∈ tokenize unicode value) : ' ' ∉ word.toList := by
  simp only [tokenize,List.mem_map,List.mem_flatMap,List.mem_filter] at member
  obtain ⟨part,⟨token,⟨listed,_⟩,inside⟩,rfl⟩ := member
  refine unicode.solid _ fun blank => ?_
  rw [String.toList_ofList] at blank
  have apart := splitOnP_apart listed ' ' (splitCamelCase_chars inside ' ' blank)
  simp [unicode.space] at apart

theorem tokenize_empty : tokenize unicode "" = [] := by
  simp [tokenize]

theorem intercalate_inj (solid : ∀ word ∈ words, ' ' ∉ word.toList) (solid' : ∀ word ∈ others, ' ' ∉ word.toList)
    (same : " ".intercalate words = " ".intercalate others) (length : words.length = others.length) : words = others := by
  have lists : ∀ {words : List String}, (∀ word ∈ words, ' ' ∉ word.toList) → words ≠ [] →
      ((" ".intercalate words).toList).splitOn ' ' = words.map String.toList := by
    intro words solid some_word
    rw [String.toList_intercalate]
    refine List.splitOn_intercalate ' ' ?_ (by simpa using some_word)
    intro letters member
    obtain ⟨word,listed,rfl⟩ := List.mem_map.mp member
    exact solid word listed
  cases words with
  | nil => exact (List.length_eq_zero_iff.mp length.symm).symm
  | cons first rest =>
    have some_other : others ≠ [] := by
      rintro rfl
      cases length
    have letters := (lists solid (List.cons_ne_nil _ _)).symm.trans ((congrArg (fun text => text.toList.splitOn ' ') same).trans
      (lists solid' some_other))
    exact List.map_injective_iff.mpr (fun _ _ => String.toList_inj.mp) letters

-- The forms of a word, or nothing where its letters cannot be read.
def forms (unicode : Unicode) (word : String) : List String := (transliterations unicode word).getD []

-- A Latin word is transliterated by bytes, which works for ASCII alone.
def Transliterable (unicode : Unicode) (word : String) : Prop :=
  isCyrillicToken word = false → isLatinToken word = true → ∀ c ∈ (unicode.toLowercase word).toList, c.toNat < 128

theorem latToRuFrom_isSome (letters : List Char) : (latToRuFrom letters).isSome = true ↔ ∀ c ∈ letters, c.toNat < 128 := by
  fun_induction latToRuFrom letters with
  | case1 => simp
  | case12 c rest _ _ _ _ _ _ _ _ _ _ small ih => simpa [small] using ih
  | case13 c rest _ _ _ _ _ _ _ _ _ _ large => simpa using fun small => absurd small large
  | _ => simp_all

theorem transliterations_isSome : (transliterations unicode word).isSome = true ↔ Transliterable unicode word := by
  unfold transliterations Transliterable
  split
  · rename_i cyrillic
    simp [cyrillic]
  · rename_i other
    split
    · rename_i latin
      simp [other,latin,transliterateLatToRu,latToRuFrom_isSome]
    · rename_i foreign
      simp [foreign]

theorem mapM_some {α β : Type} {f : α → Option β} {values : List α} :
    (values.mapM f).isSome = true ↔ ∀ x ∈ values, (f x).isSome = true := by
  induction values with
  | nil => simp
  | cons value rest ih =>
    rw [List.mapM_cons,List.forall_mem_cons,← ih]
    cases f value <;> cases rest.mapM f <;> simp

theorem mem_mapM {α β : Type} {f : α → Option (List β)} {values : List α} {found : List (List β)}
    (mapped : values.mapM f = some found) (y : β) : y ∈ found.flatten ↔ ∃ x ∈ values, y ∈ (f x).getD [] := by
  induction values generalizing found with
  | nil =>
    cases mapped
    simp
  | cons value rest ih =>
    rw [List.mapM_cons] at mapped
    obtain ⟨first,head,mapped⟩ := Option.bind_eq_some_iff.mp mapped
    obtain ⟨others,tail,mapped⟩ := Option.bind_eq_some_iff.mp mapped
    cases mapped
    rw [List.flatten_cons,List.mem_append,ih tail,List.exists_mem_cons_iff,head,Option.getD_some]

theorem expand_isSome : (expandTransliterations unicode words).isSome = true ↔ ∀ word ∈ words, Transliterable unicode word := by
  rw [expandTransliterations,Option.isSome_map,mapM_some]
  simp only [Ascending.mem_ascending,transliterations_isSome]

theorem mem_expand {expanded : List String} (some_expanded : expandTransliterations unicode words = some expanded) (form : String) :
    form ∈ expanded ↔ form ∈ words ∨ ∃ word ∈ words, form ∈ forms unicode word := by
  obtain ⟨found,mapped,rfl⟩ := Option.map_eq_some_iff.mp some_expanded
  rw [Ascending.mem_ascending,List.mem_append,mem_mapM mapped]
  simp only [Ascending.mem_ascending,forms]

theorem mem_intentWords (terms : List String) : word ∈ intentWords unicode terms ↔
    word ∉ stopWords ∧ ∃ form ∈ terms, word ∈ tokenize unicode (normalized unicode form) := by
  simp only [intentWords,removeStopWords,normalizeValues,List.mem_filter,Ascending.mem_ascending,List.mem_flatMap,List.mem_map,
    Bool.not_eq_true',List.contains_eq_mem,decide_eq_false_iff_not,decide_eq_true_eq]
  constructor
  · rintro ⟨⟨_,⟨⟨form,listed,rfl⟩,_⟩,member⟩,kept⟩
    exact ⟨kept,form,listed,member⟩
  · rintro ⟨kept,form,listed,member⟩
    refine ⟨⟨_,⟨⟨form,listed,rfl⟩,fun empty => ?_⟩,member⟩,kept⟩
    rw [empty,tokenize_empty] at member
    cases member

theorem intentWords_strict (terms : List String) : (intentWords unicode terms).Pairwise (· < ·) :=
  (Ascending.ascending_strict _).filter _

theorem intentWords_solid (terms : List String) : ∀ word ∈ intentWords unicode terms, ' ' ∉ word.toList := by
  intro word member
  obtain ⟨_,_,_,token⟩ := (mem_intentWords terms).mp member
  exact tokenize_solid token

-- Words in order that come out again when they and their forms are read once more.
structure Settled (unicode : Unicode) (words : List String) : Prop where
  ordered : words.Pairwise (· < ·)
  again : ∀ word, word ∈ words ↔ word ∉ stopWords ∧
    ∃ form, (form ∈ words ∨ ∃ other ∈ words, form ∈ forms unicode other) ∧ word ∈ tokenize unicode (normalized unicode form)

theorem settled_iff {expanded : List String} (some_expanded : expandTransliterations unicode words = some expanded) :
    Settled unicode words ↔ intentWords unicode expanded = words := by
  constructor
  · intro settled
    refine Ascending.strict_unique (intentWords_strict expanded) settled.ordered fun word => ?_
    rw [mem_intentWords,settled.again]
    simp only [mem_expand some_expanded]
  · intro same
    refine ⟨same ▸ intentWords_strict expanded,fun word => ?_⟩
    rw [← congrArg (word ∈ ·) same,mem_intentWords]
    simp only [mem_expand some_expanded]

def plainTag (tag : String) : Bool :=
  trim tag == tag && tag.toList.all fun c => decide (c.toNat < 128) && !decide ('A' ≤ c ∧ c ≤ 'Z')

theorem plainTag_vocabulary : canonicalVocabulary.all plainTag = true := by decide

theorem vocabulary_plain : ∀ tag ∈ canonicalVocabulary, trim tag = tag ∧
    ∀ c ∈ tag.toList, c.toNat < 128 ∧ ¬ ('A' ≤ c ∧ c ≤ 'Z') := by
  intro tag member
  have plain := List.all_eq_true.mp plainTag_vocabulary tag member
  simpa only [plainTag,Bool.and_eq_true,beq_iff_eq,List.all_eq_true,decide_eq_true_eq,Bool.not_eq_true',
    decide_eq_false_iff_not] using plain

theorem normalized_tag {tag : String} (listed : tag ∈ canonicalVocabulary) : normalized unicode tag = tag := by
  obtain ⟨trimmed,plain⟩ := vocabulary_plain tag listed
  rw [normalized,trimmed,unicode.ascii tag plain]

theorem canonicalTags_again (values : List String) :
    canonicalTags unicode (canonicalTags unicode values) = canonicalTags unicode values := by
  refine Ascending.ascending_eq.mpr ⟨Ascending.ascending_strict _,fun tag => ?_⟩
  have known : ∀ {tag : String}, tag ∈ canonicalTags unicode values → tag ∈ canonicalVocabulary := by
    intro tag member
    simpa using (List.mem_filter.mp (Ascending.mem_ascending.mp member)).2
  simp only [List.mem_filter,List.mem_map,List.contains_eq_mem,decide_eq_true_eq]
  constructor
  · rintro ⟨⟨tag,member,rfl⟩,_⟩
    rwa [normalized_tag (known member)]
  · intro member
    exact ⟨⟨tag,member,normalized_tag (known member)⟩,known member⟩

def upperCountry (code : String) : String := String.ofList ((trim code).toList.map toAsciiUppercase)
def lowerLanguage (code : String) : String := String.ofList ((trim code).toList.map toAsciiLowercase)

theorem country_known : ∀ code ∈ countryAliases.map Prod.fst ++ russianCountryInflections.map Prod.snd,
    upperCountry code = code ∧ code ≠ "" ∧ validCountry code = true := by
  decide +kernel

theorem language_known : ∀ code ∈ ["ru","en"], lowerLanguage code = code ∧ code ≠ "" ∧ validLanguage code = true := by
  decide

theorem countryCodes_known {terms : List String} {code : String} (member : code ∈ countryCodes terms) :
    code ∈ countryAliases.map Prod.fst ++ russianCountryInflections.map Prod.snd := by
  rcases List.mem_append.mp member with named | inflected
  · obtain ⟨entry,listed,found⟩ := List.mem_filterMap.mp named
    refine List.mem_append_left _ (List.mem_map.mpr ⟨entry,listed,?_⟩)
    split at found
    · exact Option.some.inj found
    · cases found
  · obtain ⟨entry,listed,found⟩ := List.mem_filterMap.mp inflected
    refine List.mem_append_right _ (List.mem_map.mpr ⟨entry,listed,?_⟩)
    split at found
    · exact Option.some.inj found
    · cases found

theorem inferCountryCode_known {terms : List String} {code : String} (found : inferCountryCode terms = some code) :
    code ∈ countryAliases.map Prod.fst ++ russianCountryInflections.map Prod.snd := by
  unfold inferCountryCode at found
  split at found
  · rename_i only codes
    cases found
    exact countryCodes_known (Ascending.mem_ascending.mp (codes ▸ List.mem_singleton_self _))
  · cases found

theorem inferLanguage_known {terms : List String} {code : String} (found : inferLanguage terms = some code) : code ∈ ["ru","en"] := by
  unfold inferLanguage at found
  split at found
  · cases found
    decide
  · split at found
    · cases found
      decide
    · cases found

theorem kept_filter (code : Option String) (form : String → String) (valid : String → Bool)
    (known : ∀ value, code = some value → form value = value ∧ value ≠ "" ∧ valid value = true) :
    (code.map form).filter (· ≠ "") = code ∧ (code.any fun value => !valid value) = false := by
  cases code with
  | none => simp
  | some value =>
    obtain ⟨same,some_text,accepted⟩ := known value rfl
    simp [same,some_text,accepted]

variable {original locale : String} {input : QueryParserInput} {intent : QueryIntent}

-- A validated request keeps everything but its words.
theorem validate_deterministic (expanded : List String) :
    validateIntent unicode ⟨.play,expanded,canonicalTags unicode expanded,inferLanguage others,inferCountryCode others,
      words.length," ".intercalate words⟩ =
    (expandTransliterations unicode (intentWords unicode expanded)).map fun again => .ok ⟨.play,again,canonicalTags unicode expanded,
      inferLanguage others,inferCountryCode others,(intentWords unicode expanded).length," ".intercalate (intentWords unicode expanded)⟩ := by
  obtain ⟨language,spoken⟩ := kept_filter (inferLanguage others) lowerLanguage validLanguage fun value found =>
    language_known value (inferLanguage_known found)
  obtain ⟨country,placed⟩ := kept_filter (inferCountryCode others) upperCountry validCountry fun value found =>
    country_known value (inferCountryCode_known found)
  unfold lowerLanguage at language
  unfold upperCountry at country
  simp only [validateIntent,language,country,spoken,placed,Bool.false_eq_true,if_false,canonicalTags_again]

theorem completed_valid {parsed : QueryIntent} (read : deterministicIntent unicode input.query input.locale = some parsed)
    (valid : validateIntent unicode parsed = some (.ok intent)) : completed unicode input intent = some intent := by
  unfold completed
  split
  · rfl
  · rw [read,Option.bind_some,valid,Option.map_some]
    simp only [Except.toOption,Option.getD_some]
    split <;> rfl

-- The words that the text asks for.
def requestWords (unicode : Unicode) (original : String) : List String := removeStopWords (tokenize unicode original)

def requestIntent (unicode : Unicode) (original : String) (words terms tags : List String) : QueryIntent :=
  ⟨.play,terms,tags,inferLanguage (tokenize unicode original),inferCountryCode (tokenize unicode original),
    words.length," ".intercalate words⟩

theorem deterministicIntent_eq : deterministicIntent unicode original locale =
    (expandTransliterations unicode (requestWords unicode original)).map fun terms =>
      requestIntent unicode original (requestWords unicode original) terms (canonicalTags unicode terms) := rfl

theorem interpretedQuery_eq {expanded : List String}
    (some_expanded : expandTransliterations unicode (requestWords unicode input.query) = some expanded) :
    interpretedQuery unicode input = (expandTransliterations unicode (intentWords unicode expanded)).bind fun again =>
      SearchQuery.fromIntent unicode input.query input.locale
        (requestIntent unicode input.query (intentWords unicode expanded) again (canonicalTags unicode expanded)) := by
  have read : deterministicIntent unicode input.query input.locale = some (requestIntent unicode input.query
      (requestWords unicode input.query) expanded (canonicalTags unicode expanded)) := by
    rw [deterministicIntent_eq,some_expanded,Option.map_some]
  have checked := @validate_deterministic unicode (requestWords unicode input.query) (tokenize unicode input.query) expanded
  unfold interpretedQuery
  rw [read,Option.bind_some]
  cases some_again : expandTransliterations unicode (intentWords unicode expanded) with
  | none =>
    rw [some_again,Option.map_none] at checked
    simp only [requestIntent,checked,Option.bind_none]
  | some again =>
    rw [some_again,Option.map_some] at checked
    have valid : validateIntent unicode (requestIntent unicode input.query (requestWords unicode input.query) expanded
      (canonicalTags unicode expanded)) = some (.ok (requestIntent unicode input.query (intentWords unicode expanded) again
        (canonicalTags unicode expanded))) := checked
    rw [valid,Option.bind_some]
    simp only [Option.bind_some,completed_valid read valid]

theorem fromIntent_inj {query : SearchQuery} {intent' : QueryIntent}
    (read : SearchQuery.fromIntent unicode original locale intent = some query)
    (read' : SearchQuery.fromIntent unicode original locale intent' = some query) : intent = intent' := by
  obtain ⟨_,_,rfl⟩ := Option.map_eq_some_iff.mp read
  obtain ⟨_,_,same⟩ := Option.map_eq_some_iff.mp read'
  cases intent
  cases intent'
  simp_all

theorem requestWords_solid : ∀ word ∈ requestWords unicode original, ' ' ∉ word.toList :=
  fun _ member => tokenize_solid (List.mem_filter.mp member).1

-- The two counts and texts agree only where the words do.
theorem handed_words {query : SearchQuery} (normal : normalizeQuery unicode input.query input.locale = some query)
    (interpreted : interpretedQuery unicode input = some query) : (stationNameHintQueries unicode input.query).isSome = true ∧
    ∃ expanded, expandTransliterations unicode (requestWords unicode input.query) = some expanded ∧
      intentWords unicode expanded = requestWords unicode input.query := by
  obtain ⟨parsed,read,built⟩ := Option.bind_eq_some_iff.mp normal
  rw [deterministicIntent_eq] at read
  obtain ⟨expanded,some_expanded,rfl⟩ := Option.map_eq_some_iff.mp read
  obtain ⟨hints,some_hints,_⟩ := Option.map_eq_some_iff.mp built
  rw [interpretedQuery_eq some_expanded] at interpreted
  obtain ⟨again,_,built'⟩ := Option.bind_eq_some_iff.mp interpreted
  obtain ⟨_,_,_,_,_,length,text⟩ := QueryIntent.mk.inj (fromIntent_inj built' built)
  refine ⟨by rw [some_hints]; rfl,expanded,some_expanded,?_⟩
  exact intercalate_inj (intentWords_solid expanded) requestWords_solid text length

-- The search asks for what was normalised just where reading the words again
-- changes nothing.
theorem interpreted_exact (unicode : Unicode) (input : QueryParserInput) :
    (∃ query, normalizeQuery unicode input.query input.locale = some query ∧ interpretedQuery unicode input = some query) ↔
      ((∀ word ∈ requestWords unicode input.query, Transliterable unicode word) ∧
        (stationNameHintQueries unicode input.query).isSome = true) ∧ Settled unicode (requestWords unicode input.query) := by
  rw [← expand_isSome]
  constructor
  · intro ⟨query,normal,interpreted⟩
    obtain ⟨hinted,expanded,some_expanded,same⟩ := handed_words normal interpreted
    exact ⟨⟨by rw [some_expanded]; rfl,hinted⟩,(settled_iff some_expanded).mpr same⟩
  · intro ⟨⟨translated,hinted⟩,settled⟩
    obtain ⟨expanded,some_expanded⟩ := Option.isSome_iff_exists.mp translated
    obtain ⟨hints,some_hints⟩ := Option.isSome_iff_exists.mp hinted
    have normal : ∃ query, normalizeQuery unicode input.query input.locale = some query := by
      simp [normalizeQuery,deterministicIntent_eq,some_expanded,SearchQuery.fromIntent,some_hints]
    obtain ⟨query,normal⟩ := normal
    refine ⟨query,normal,?_⟩
    rw [interpretedQuery_eq some_expanded,(settled_iff some_expanded).mp settled,some_expanded,Option.bind_some,← normal,
      normalizeQuery,deterministicIntent_eq,some_expanded,Option.map_some,Option.bind_some]

-- The one word "jazz" is counted as three, since its two Russian forms are read as
-- words of the request.
theorem jazz_counted : ¬ ∀ input : QueryParserInput, ∃ query,
    normalizeQuery Letters.englishRussian input.query input.locale = some query ∧
      interpretedQuery Letters.englishRussian input = some query := by
  intro all
  obtain ⟨query,normal,interpreted⟩ := all ⟨"jazz","en"⟩
  obtain ⟨_,expanded,some_expanded,same⟩ := handed_words normal interpreted
  have forms : expandTransliterations Letters.englishRussian (requestWords Letters.englishRussian "jazz") =
      some ["jazz","джаз","йазз"] := by decide
  have words : requestWords Letters.englishRussian "jazz" = ["jazz"] := by decide
  have again : intentWords Letters.englishRussian ["jazz","джаз","йазз"] = ["jazz","джаз","йазз"] := by decide
  rw [Option.some.inj (some_expanded.symm.trans forms),again,words] at same
  cases same

end Search
