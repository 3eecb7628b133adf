import RockServer.ByteOffsets
import RockServer.QueryPaths

-- The Latin transliterator as it goes through a word, byte by byte, and what
-- texts a search may be given for it.
namespace Search
open ByteOffsets

-- The groups of letters that are written as one, in the order of the tests.
def latinGroups : List (List Char × Char) := [
  (['s','h','c','h'],'щ'),(['y','o'],'ё'),(['z','h'],'ж'),(['k','h'],'х'),(['t','s'],'ц'),(['c','h'],'ч'),
  (['s','h'],'ш'),(['y','u'],'ю'),(['y','a'],'я'),(['y','e'],'е')]

def startsWith (rest : List Char) : Option (List Char × Char) := latinGroups.find? fun group => group.1.isPrefixOf rest

theorem startsWith_positive {rest : List Char} {group : List Char × Char} (found : startsWith rest = some group) :
    0 < group.1.length := by
  have every : ∀ group ∈ latinGroups, 0 < group.1.length := by decide
  exact every group (List.mem_of_find?_eq_some found)

theorem startsWith_ascii {rest : List Char} {group : List Char × Char} (found : startsWith rest = some group) :
    (asBytes group.1).length = group.1.length := by
  have every : ∀ group ∈ latinGroups, (asBytes group.1).length = group.1.length := by decide
  exact every group (List.mem_of_find?_eq_some found)

def transliterateFrom (lower : List Char) (i : Nat) (out : List Char) : Option (List Char) :=
  if inside : i < (asBytes lower).length then
    match sliceFrom lower i with
    | none => none
    | some rest =>
      match found : startsWith rest with
      | some group => transliterateFrom lower (i + group.1.length) (out ++ [group.2])
      | none => transliterateFrom lower (i + 1) (out ++ latToRu (Char.ofNat (asBytes lower)[i].toNat))
  else some out
termination_by (asBytes lower).length - i
decreasing_by
  · have longer := startsWith_positive found
    omega
  · omega

def transliterateLatToRuBytes (unicode : Unicode) (term : String) : Option String :=
  (transliterateFrom (unicode.toLowercase term).toList 0 []).map String.ofList

section loop
variable {done rest letters : List Char} {c : Char} {i : Nat} {out : List Char}

theorem startsWith_split {group : List Char × Char} (found : startsWith letters = some group) :
    ∃ rest, letters = group.1 ++ rest := by
  have starts := List.find?_some (p:=fun group : List Char × Char => group.1.isPrefixOf letters) found
  obtain ⟨rest,same⟩ := List.isPrefixOf_iff_prefix.mp starts
  exact ⟨rest,same.symm⟩

theorem startsWith_group {group : List Char × Char} (found : startsWith (group.1 ++ rest) = some group) :
    latToRuFrom (group.1 ++ rest) = (latToRuFrom rest).map (group.2 :: ·) := by
  have listed := List.mem_of_find?_eq_some found
  simp only [latinGroups,List.mem_cons,List.not_mem_nil,or_false] at listed
  rcases listed with rfl | rfl | rfl | rfl | rfl | rfl | rfl | rfl | rfl | rfl
  case inr.inr.inr.inr.inr.inr.inl =>
    -- "shch" is tried before "sh".
    refine latToRuFrom.eq_8 rest fun later same => ?_
    subst same
    simp [startsWith,latinGroups] at found
  all_goals simp [latToRuFrom]

theorem startsWith_none (found : startsWith (c :: rest) = none) :
    latToRuFrom (c :: rest) = if c.toNat < 128 then (latToRuFrom rest).map (latToRu c ++ ·) else none := by
  have apart := List.find?_eq_none.mp found
  rw [latToRuFrom.eq_def]
  split <;> simp_all [latinGroups]

-- The loop reads what is left as the letters do.
theorem transliterateFrom_letters (rest done out : List Char) :
    transliterateFrom (done ++ rest) (asBytes done).length out = (latToRuFrom rest).map (out ++ ·) := by
  induction size : rest.length using Nat.strongRecOn generalizing rest done out with
  | ind n ih =>
  subst size
  rw [transliterateFrom.eq_def,sliceFrom_letters]
  cases rest with
  | nil =>
    rw [List.append_nil,dif_neg (Nat.lt_irrefl _)]
    simp [latToRuFrom]
  | cons c rest =>
    rw [dif_pos inside_letters]
    dsimp only
    split
    · rename_i group found
      obtain ⟨later,split⟩ := startsWith_split found
      have longer := startsWith_positive found
      have shorter : later.length < (c :: rest).length := by
        rw [split,List.length_append]
        omega
      have bytes : (asBytes done).length + group.1.length = (asBytes (done ++ group.1)).length := by
        rw [asBytes_append,List.length_append,startsWith_ascii found]
      rw [split] at found ⊢
      rw [startsWith_group found,bytes,← List.append_assoc,ih _ shorter later _ _ rfl]
      simp [Option.map_map,Function.comp_def]
    · rename_i found
      rw [startsWith_none found]
      by_cases small : c.toNat < 128
      · have bytes : (asBytes done).length + 1 = (asBytes (done ++ [c])).length := by
          rw [asBytes_append,List.length_append,asBytes,asBytes,List.flatMap_singleton,String.length_utf8EncodeChar,
            size_ascii.mpr small]
        rw [if_pos small,byte_ascii small,bytes,List.append_cons,ih rest.length (Nat.lt_succ_self _) rest _ _ rfl]
        simp [Option.map_map,Function.comp_def]
      · have large : 1 < c.utf8Size := size_cases.resolve_left fun one => small (size_ascii.mp one)
        rw [if_neg small,transliterateFrom.eq_def,sliceFrom_inside large,dif_pos]
        · rfl
        · rw [asBytes_append,asBytes_cons,List.length_append,List.length_append,String.length_utf8EncodeChar]
          omega

theorem transliterateLatToRu_bytes (unicode : Unicode) (term : String) :
    transliterateLatToRuBytes unicode term = transliterateLatToRu unicode term := by
  have loop := transliterateFrom_letters (unicode.toLowercase term).toList [] []
  simp only [List.nil_append,Option.map_id'] at loop
  rw [transliterateLatToRuBytes,transliterateLatToRu,← loop]
  rfl

end loop

variable (unicode : Unicode)

-- What follows the command of a request that names a station.
def hintText (original : String) : Option String :=
  (namePrefixes.find? (·.isPrefixOf (tokenize unicode original))).bind fun leading =>
    let hintTokens := removeStopWords ((tokenize unicode original).drop leading.length)
    if hintTokens = [] then none else some (" ".intercalate hintTokens)

-- The words that are read again from the forms of some words.
def Reread (words : List String) (word : String) : Prop := word ∉ stopWords ∧
  ∃ form, (form ∈ words ∨ ∃ other ∈ words, form ∈ forms unicode other) ∧ word ∈ tokenize unicode (normalized unicode form)

variable {unicode}

theorem transliterateLatToRu_isSome {term : String} : (transliterateLatToRu unicode term).isSome = true ↔
    ∀ c ∈ (unicode.toLowercase term).toList, c.toNat < 128 := by
  rw [transliterateLatToRu,Option.isSome_map,latToRuFrom_isSome]

theorem deterministicIntent_isSome {original locale : String} : (deterministicIntent unicode original locale).isSome = true ↔
    ∀ word ∈ requestWords unicode original, Transliterable unicode word := by
  rw [deterministicIntent_eq,Option.isSome_map,expand_isSome]

theorem validateIntent_isSome {intent : QueryIntent} : (validateIntent unicode intent).isSome = true ↔
    ∀ word ∈ intentWords unicode intent.terms, Transliterable unicode word := by
  rw [validateIntent,Option.isSome_map,expand_isSome]

theorem stationNameHintQueries_isSome {original : String} : (stationNameHintQueries unicode original).isSome = true ↔
    ∀ hint, hintText unicode original = some hint → Transliterable unicode hint := by
  cases found : namePrefixes.find? (·.isPrefixOf (tokenize unicode original)) with
  | none => simp [stationNameHintQueries,hintText,found]
  | some leading =>
    simp only [stationNameHintQueries,hintText,found,Option.bind_some]
    by_cases empty : removeStopWords ((tokenize unicode original).drop leading.length) = []
    · simp [empty]
    · simp only [if_neg empty,Option.isSome_map,Option.some.injEq,forall_eq']
      unfold Transliterable
      split
      · rename_i cyrillic
        simp [cyrillic]
      · rename_i other
        split
        · rename_i latin
          simp [other,latin,transliterateLatToRu_isSome]
        · rename_i foreign
          simp [foreign]

theorem interpretedQuery_isSome {input : QueryParserInput} : (interpretedQuery unicode input).isSome = true ↔
    (∀ word ∈ requestWords unicode input.query, Transliterable unicode word) ∧
      (∀ word, Reread unicode (requestWords unicode input.query) word → Transliterable unicode word) ∧
      ∀ hint, hintText unicode input.query = some hint → Transliterable unicode hint := by
  rw [← stationNameHintQueries_isSome,← expand_isSome]
  cases some_expanded : expandTransliterations unicode (requestWords unicode input.query) with
  | none => simp [interpretedQuery,deterministicIntent_eq,some_expanded]
  | some expanded =>
    have reread : (∀ word, Reread unicode (requestWords unicode input.query) word → Transliterable unicode word) ↔
        (expandTransliterations unicode (intentWords unicode expanded)).isSome = true := by
      rw [expand_isSome]
      simp only [mem_intentWords,mem_expand some_expanded,Reread]
    rw [interpretedQuery_eq some_expanded,reread]
    cases expandTransliterations unicode (intentWords unicode expanded) with
    | none => simp
    | some again => simp [SearchQuery.fromIntent]

theorem expand_empty {words expanded : List String} (read : expandTransliterations unicode words = some expanded) :
    expanded = [] ↔ words = [] := by
  constructor
  · intro none
    refine List.eq_nil_iff_forall_not_mem.mpr fun word member => ?_
    have listed := (mem_expand read word).mpr (.inl member)
    rw [none] at listed
    cases listed
  · intro none
    refine List.eq_nil_iff_forall_not_mem.mpr fun form member => ?_
    rcases (mem_expand read form).mp member with listed | ⟨word,listed,_⟩
    · rw [none] at listed
      cases listed
    · rw [none] at listed
      cases listed

-- A request is read twice: its words, and the words read again from them.
def Rereadable (unicode : Unicode) (original : String) : Prop :=
  (∀ word ∈ requestWords unicode original, Transliterable unicode word) ∧
    ∀ word, Reread unicode (requestWords unicode original) word → Transliterable unicode word

theorem reread_isSome {original locale : String} :
    ((deterministicIntent unicode original locale).bind (validateIntent unicode)).isSome = true ↔ Rereadable unicode original := by
  rw [deterministicIntent_eq,Rereadable,← expand_isSome]
  cases read : expandTransliterations unicode (requestWords unicode original) with
  | none => simp
  | some expanded =>
    simp only [Option.map_some,Option.bind_some,Option.isSome_some,true_and,validateIntent_isSome,requestIntent,
      mem_intentWords,mem_expand read,Reread]

theorem completed_isSome : (completed unicode input intent).isSome = true ↔
    (intent.terms = [] → Rereadable unicode input.query) := by
  unfold completed
  by_cases empty : intent.terms = []
  · rw [if_neg (not_not_intro empty),← @reread_isSome unicode input.query input.locale]
    simp [empty,Option.isSome_bind]
  · simp [empty]

-- Words read once and found empty are not read again.
theorem completed_deterministic {locale : String} :
    ((deterministicIntent unicode input.query locale).bind (completed unicode input)).isSome = true ↔
      ∀ word ∈ requestWords unicode input.query, Transliterable unicode word := by
  rw [deterministicIntent_eq,← expand_isSome]
  cases read : expandTransliterations unicode (requestWords unicode input.query) with
  | none => simp
  | some expanded =>
    simp only [Option.map_some,Option.bind_some,Option.isSome_some,iff_true,completed_isSome]
    intro none
    have wordless := (expand_empty read).mp none
    simp [Rereadable,wordless,Reread]

-- A filter that the validation of an answer refuses.
def foreignFilter (intent : QueryIntent) : Bool :=
  ((intent.language.map fun value => String.ofList ((trim value).toList.map StreamUri.toAsciiLowercase)).filter (· ≠ "")).any
    (fun value => !validLanguage value) ||
  ((intent.countryCode.map fun value => String.ofList ((trim value).toList.map RadioBrowser.toAsciiUppercase)).filter (· ≠ "")).any
    (fun value => !validCountry value)

theorem validateIntent_cases {validated : Except QueryParserError QueryIntent} (read : validateIntent unicode intent = some validated) :
    (foreignFilter intent = true ∧ ∃ error, validated = .error error) ∨
    (foreignFilter intent = false ∧ ∃ found, validated = .ok found ∧
      expandTransliterations unicode (intentWords unicode intent.terms) = some found.terms) := by
  obtain ⟨expanded,some_expanded,rfl⟩ := Option.map_eq_some_iff.mp read
  unfold foreignFilter
  dsimp only
  split
  · rename_i foreign
    exact .inl ⟨by rw [foreign]; rfl,_,rfl⟩
  · rename_i language
    split
    · rename_i foreign
      exact .inl ⟨by rw [foreign,Bool.or_true],_,rfl⟩
    · rename_i country
      refine .inr ⟨?_,_,rfl,some_expanded⟩
      rw [Bool.eq_false_of_not_eq_true language,Bool.eq_false_of_not_eq_true country]
      rfl

-- A search reads a text to its end just where every Latin word in it is ASCII.
theorem texts_read (unicode : Unicode) :
    (∀ term, (transliterateLatToRuBytes unicode term).isSome = true ↔ ∀ c ∈ (unicode.toLowercase term).toList, c.toNat < 128) ∧
    (∀ original locale, (deterministicIntent unicode original locale).isSome = true ↔
      ∀ word ∈ requestWords unicode original, Transliterable unicode word) ∧
    (∀ intent, (validateIntent unicode intent).isSome = true ↔
      ∀ word ∈ intentWords unicode intent.terms, Transliterable unicode word) ∧
    (∀ original, (stationNameHintQueries unicode original).isSome = true ↔
      ∀ hint, hintText unicode original = some hint → Transliterable unicode hint) ∧
    ∀ input, (interpretedQuery unicode input).isSome = true ↔
      (∀ word ∈ requestWords unicode input.query, Transliterable unicode word) ∧
      (∀ word, Reread unicode (requestWords unicode input.query) word → Transliterable unicode word) ∧
      ∀ hint, hintText unicode input.query = some hint → Transliterable unicode hint := by
  refine ⟨fun term => ?_,fun _ _ => deterministicIntent_isSome,fun _ => validateIntent_isSome,
    fun _ => stationNameHintQueries_isSome,fun _ => interpretedQuery_isSome⟩
  rw [transliterateLatToRu_bytes,transliterateLatToRu_isSome]

namespace Letters

-- The tables with one more letter, the accented e.
def accented : Unicode where
  isAlphanumeric c := englishRussian.isAlphanumeric c || c == 'é' || c == 'É'
  isLowercase c := englishRussian.isLowercase c || c == 'é'
  isUppercase c := englishRussian.isUppercase c || c == 'É'
  toLowercase text := String.ofList (text.toList.map fun c => if c == 'É' then 'é' else small c)
  space := by decide
  solid := by
    intro text absent
    rw [String.toList_ofList,List.mem_map]
    rintro ⟨c,member,same⟩
    split at same
    · exact absurd same (by decide)
    · exact absent (small_space same ▸ member)
  ascii := by
    intro text plain
    refine (congrArg String.ofList ?_).trans String.ofList_toList
    refine (List.map_congr_left fun c member => ?_).trans (List.map_id _)
    have other : (c == 'É') = false := by
      rw [beq_eq_false_iff_ne]
      rintro rfl
      exact absurd (plain _ member).1 (by decide)
    rw [other,small_ascii (plain c member).1 (plain c member).2]
    rfl

end Letters

-- The second byte of the accented letter begins no letter.
theorem accent_panics : ¬ ∀ original locale, (deterministicIntent Letters.accented original locale).isSome = true := by
  intro all
  have read := deterministicIntent_isSome.mp (all "café" "fr") "café" (by decide)
  exact absurd (read (by decide) (by decide) 'é' (by decide)) (by decide)

end Search

