import RockServer.ByteOffsets
import RockServer.OutboundFetches

-- The icons that a homepage declares, as its scanner reads them byte by byte.
namespace IconLinks
open ByteOffsets
open Egress (Url UrlLibrary)
open StreamUri (toAsciiLowercase)

-- A name in lower case and the value as it stands.
abbrev Attribute := List Char × List Char

def isAsciiWhitespace (byte : UInt8) : Bool := byte == 9 || byte == 10 || byte == 12 || byte == 13 || byte == 32

def lowercase (letters : List Char) : List Char := letters.map toAsciiLowercase

-- A value from behind its equals sign, and where it leaves off.
def parseValue (tag : List Char) (start : Nat) : Option (List Char × Nat) :=
  let bytes := asBytes tag
  match (bytes[start]?).filter fun byte => byte == 34 || byte == 39 with
  | some quote =>
    let valueEnd := scan bytes (· != quote) (start + 1)
    (slice tag (start + 1) valueEnd).map fun value => (value,if valueEnd < bytes.length then valueEnd + 1 else valueEnd)
  | none =>
    let valueEnd := scan bytes (fun byte => !isAsciiWhitespace byte) start
    (slice tag start valueEnd).map fun value => (value,valueEnd)

-- One turn of the outer loop, from where a name begins.
def parseAttribute (tag : List Char) (index : Nat) : Option (Attribute × Nat) :=
  let nameEnd := scan (asBytes tag) (fun byte => byte != 61 && !isAsciiWhitespace byte) index
  (slice tag index nameEnd).bind fun name =>
    if (asBytes tag)[nameEnd]? = some 61 then
      (parseValue tag (nameEnd + 1)).map fun (value,next) => ((lowercase name,value),next)
    else some ((lowercase name,[]),nameEnd)

-- The loops have fuel; none stands for a loop that does not end or a slice that panics.
def parseFrom (tag : List Char) : Nat → Nat → Option (List Attribute)
  | 0,_ => none
  | fuel + 1,index =>
    let nameStart := scan (asBytes tag) (fun byte => isAsciiWhitespace byte || byte == 47) index
    if nameStart < (asBytes tag).length then
      (parseAttribute tag nameStart).bind fun (read,next) => (parseFrom tag fuel next).map (read :: ·)
    else some []

def parseLinkAttributes (tag : List Char) : Option (List Attribute) := parseFrom tag ((asBytes tag).length + 1) 0

-- `replace`, with the letters still to be passed over after a match.
def replaceFrom (pattern replacement : List Char) : Nat → List Char → List Char
  | _,[] => []
  | skip + 1,_ :: rest => replaceFrom pattern replacement skip rest
  | 0,c :: rest =>
    if pattern.isPrefixOf (c :: rest) then replacement ++ replaceFrom pattern replacement (pattern.length - 1) rest
    else c :: replaceFrom pattern replacement 0 rest

def replaced (value : List Char) (entity : String × Char) : List Char := replaceFrom entity.1.toList [entity.2] 0 value

def apostrophe : Char := Char.ofNat 39

def unescapeHref (value : List Char) : String :=
  String.ofList ([("&amp;", '&'),("&lt;", '<'),("&gt;", '>'),("&quot;", '"'),("&#39;",apostrophe),("&apos;",apostrophe)].foldl replaced value)

-- The `url` crate joins; `toText` writes a URL out.
def resolveIconHref (library : UrlLibrary) (toText : Url → String) (href : String) (base : Url) : Option String :=
  if href.isEmpty || "data:".toList.isPrefixOf href.toList then none
  else (library.join base href).bind fun url =>
    if !(url.scheme == "http" || url.scheme == "https") || url.host.isNone then none
    else some (toText {url with fragment := none})

def asciiSpace (c : Char) : Bool := c.toNat == 9 || c.toNat == 10 || c.toNat == 12 || c.toNat == 13 || c.toNat == 32

def isIconRel (rel : List Char) : Bool :=
  ((lowercase rel).splitOnP asciiSpace).any fun token => token == "icon".toList || token == "apple-touch-icon".toList

section links
variable (resolve : String → Option String) (max : Nat)

def iconOf (attributes : List Attribute) : Option String :=
  (attributes.find? (·.1 == "rel".toList)).bind fun rel =>
    if isIconRel rel.2 then
      (attributes.find? (·.1 == "href".toList)).bind fun href => resolve (unescapeHref href.2)
    else none

-- `find`: the letters before the pattern.
def find (pattern : List Char) : List Char → Option (List Char)
  | [] => if pattern.isEmpty then some [] else none
  | c :: rest => if pattern.isPrefixOf (c :: rest) then some [] else (find pattern rest).map (c :: ·)

def nameTerminated (afterName : Option UInt8) : Bool := afterName.all fun byte => byte == 62 || byte == 47 || isAsciiWhitespace byte

def linksFrom (html : List Char) : Nat → Nat → List String → Option (List String)
  | 0,_,_ => none
  | fuel + 1,cursor,links =>
    let lowered := lowercase html
    (sliceFrom lowered cursor).bind fun rest => match find "<link".toList rest with
      | none => some links
      | some before =>
        let tagStart := cursor + (asBytes before).length
        let cursor := tagStart + 5
        if !nameTerminated (asBytes lowered)[cursor]? then linksFrom html fuel cursor links
        else (sliceFrom lowered cursor).bind fun rest => match find [ '>'] rest with
          | none => some links
          | some body =>
            let tagEnd := cursor + (asBytes body).length
            ((slice html tagStart (tagEnd + 1)).bind parseLinkAttributes).bind fun attributes =>
              match (iconOf resolve attributes).filter fun resolved => !links.contains resolved with
              | none => linksFrom html fuel (tagEnd + 1) links
              | some resolved =>
                if links.length + 1 = max then some (links ++ [resolved])
                else linksFrom html fuel (tagEnd + 1) (links ++ [resolved])

end links

def iconLinks (library : UrlLibrary) (toText : Url → String) (html : String) (base : Url) (max : Nat) : Option (List String) :=
  if max = 0 then some []
  else linksFrom (fun href => resolveIconHref library toText href base) max html.toList ((asBytes html.toList).length + 1) 0 []

-- The same by letters.
def nameLetter (c : Char) : Bool := c != '=' && !asciiSpace c
def betweenNames (c : Char) : Bool := asciiSpace c || c == '/'
def isQuote (c : Char) : Bool := c == '"' || c == apostrophe

def readValue : List Char → List Char × List Char
  | [] => ([],[])
  | c :: rest =>
    if isQuote c then (rest.takeWhile (· != c),(rest.dropWhile (· != c)).drop 1)
    else ((c :: rest).takeWhile fun c => !asciiSpace c,(c :: rest).dropWhile fun c => !asciiSpace c)

def readAttribute (letters : List Char) : Attribute × List Char :=
  let name := lowercase (letters.takeWhile nameLetter)
  match letters.dropWhile nameLetter with
  | [] => ((name,[]),[])
  | c :: rest => if c = '=' then ((name,(readValue rest).1),(readValue rest).2) else ((name,[]),c :: rest)

section letters
variable {done letters rest : List Char}

theorem foreign_solid {c : Char} (large : 128 ≤ c.toNat) : asciiSpace c = false := by
  simp [asciiSpace]
  omega

theorem foreign_other {c mark : Char} (large : 128 ≤ c.toNat) (small : mark.toNat < 128) : c ≠ mark := by
  rintro rfl
  omega

theorem reads_name : Reads (fun byte => byte != 61 && !isAsciiWhitespace byte) nameLetter := by
  refine @reads_table _ _ true (by decide) (fun byte large => ?_) fun c large => ?_
  · simp [isAsciiWhitespace,bne,foreign_ne large]
  · simp [nameLetter,foreign_solid large,@foreign_other c '=' large (by decide)]

theorem reads_between : Reads (fun byte => isAsciiWhitespace byte || byte == 47) betweenNames := by
  refine @reads_table _ _ false (by decide) (fun byte large => ?_) fun c large => ?_
  · simp [isAsciiWhitespace,foreign_ne large]
  · simp [betweenNames,foreign_solid large,@foreign_other c '/' large (by decide)]

theorem reads_unquoted : Reads (fun byte => !isAsciiWhitespace byte) fun c => !asciiSpace c := by
  refine @reads_table _ _ true (by decide) (fun byte large => ?_) fun c large => ?_
  · simp [isAsciiWhitespace,foreign_ne large]
  · simp [foreign_solid large]

theorem quote_cases {c : Char} (quote : isQuote c = true) : c = '"' ∨ c = apostrophe := by
  simpa [isQuote] using quote

theorem quote_small {c : Char} (quote : isQuote c = true) : c.toNat < 128 := by
  rcases quote_cases quote with rfl | rfl <;> decide

theorem reads_quoted {c : Char} (quote : isQuote c = true) : Reads (· != c.toUInt8) (· != c) := by
  have small := quote_small quote
  refine @reads_table _ _ true ?_ (fun byte large => ?_) fun d large => ?_
  · rcases quote_cases quote with rfl | rfl <;> decide
  · simp [bne,foreign_ne large (ascii_value small ▸ small)]
  · simpa using foreign_other large small

theorem ascii_length {c : Char} (small : c.toNat < 128) : (asBytes (done ++ [c])).length = (asBytes done).length + 1 := by
  rw [asBytes_append,List.length_append,asBytes_cons,ascii_bytes small]
  rfl

-- The quote that a value may begin with.
theorem quote_byte : ((asBytes (done ++ letters))[(asBytes done).length]?).filter (fun byte => byte == 34 || byte == 39) =
    (letters.head?.filter isQuote).map Char.toUInt8 := by
  rw [byte_after]
  cases found : letters.head?.filter isQuote with
  | some c =>
    obtain ⟨first,quote⟩ := Option.filter_eq_some_iff.mp found
    rw [(head_ascii (quote_small quote)).mpr first]
    rcases quote_cases quote with rfl | rfl <;> decide
  | none =>
    rw [Option.map_none,Option.filter_eq_none_iff]
    intro byte first marked
    have mark : ∃ c : Char, isQuote c = true ∧ byte = c.toUInt8 := by
      rcases (Bool.or_eq_true _ _).mp marked with double | single
      · exact ⟨'"',by decide,(beq_iff_eq.mp double).trans (by decide)⟩
      · exact ⟨apostrophe,by decide,(beq_iff_eq.mp single).trans (by decide)⟩
    obtain ⟨c,quote,rfl⟩ := mark
    have head := (head_ascii (quote_small quote)).mp first
    rw [head] at found
    simp [quote] at found

theorem take_drop {p : Char → Bool} : letters.takeWhile p ++ letters.dropWhile p = letters := List.takeWhile_append_dropWhile

-- Slices begin and end where letters do, so that none panics.
theorem parseValue_letters : ∃ consumed, letters = consumed ++ (readValue letters).2 ∧
    parseValue (done ++ letters) (asBytes done).length = some ((readValue letters).1,(asBytes (done ++ consumed)).length) := by
  unfold parseValue
  simp only [quote_byte]
  cases letters with
  | nil =>
    have stays := @scan_letters done [] _ _ reads_unquoted
    have cut := @slice_letters done [] []
    refine ⟨[],rfl,?_⟩
    simp only [List.append_nil,List.takeWhile_nil] at stays cut
    simp only [List.head?_nil,Option.filter_none,Option.map_none,List.append_nil,stays,cut,Option.map_some,readValue]
  | cons c rest =>
    by_cases quote : isQuote c = true
    · have marked : ((c :: rest).head?.filter isQuote).map Char.toUInt8 = some c.toUInt8 := by simp [quote]
      have next := @ascii_length done c (quote_small quote)
      have split : done ++ c :: rest = (done ++ [c]) ++ rest := by simp
      have stays := @scan_letters (done ++ [c]) rest _ _ (reads_quoted quote)
      have value := @take_drop rest (· != c)
      have cut := @slice_letters (done ++ [c]) (rest.takeWhile (· != c)) (rest.dropWhile (· != c))
      rw [value] at cut
      simp only [marked,split,← next,stays,cut,Option.map_some,readValue,quote,if_true]
      cases left : rest.dropWhile (· != c) with
      | nil =>
        rw [left,List.append_nil] at value
        refine ⟨c :: rest,by simp,?_⟩
        rw [value,if_neg (Nat.lt_irrefl _)]
        simp
      | cons d later =>
        have closes : d = c := by
          have stop := List.head?_dropWhile_not (fun d => d != c) rest
          rw [left] at stop
          simpa using stop
        subst closes
        have inside : (asBytes (done ++ [d] ++ rest.takeWhile (· != d))).length < (asBytes (done ++ [d] ++ rest)).length := by
          conv => rhs; rw [← value,left,← List.append_assoc]
          exact inside_letters
        refine ⟨d :: (rest.takeWhile (· != d) ++ [d]),?_,?_⟩
        · conv => lhs; rw [← value,left]
          simp
        · rw [if_pos inside,← ascii_length (quote_small quote)]
          simp
    · have marked : ((c :: rest).head?.filter isQuote).map Char.toUInt8 = none := by simp [quote]
      have stays := @scan_letters done (c :: rest) _ _ reads_unquoted
      have value := @take_drop (c :: rest) fun c => !asciiSpace c
      have cut := @slice_letters done ((c :: rest).takeWhile fun c => !asciiSpace c) ((c :: rest).dropWhile fun c => !asciiSpace c)
      rw [value] at cut
      have plain : readValue (c :: rest) = ((c :: rest).takeWhile (fun c => !asciiSpace c),(c :: rest).dropWhile fun c => !asciiSpace c) :=
        if_neg quote
      refine ⟨(c :: rest).takeWhile fun c => !asciiSpace c,?_,?_⟩
      · rw [plain,value]
      · simp only [marked,stays,cut,Option.map_some,plain]

theorem parseAttribute_letters : ∃ consumed, letters = consumed ++ (readAttribute letters).2 ∧
    parseAttribute (done ++ letters) (asBytes done).length =
      some ((readAttribute letters).1,(asBytes (done ++ consumed)).length) := by
  have whole := @take_drop letters nameLetter
  obtain ⟨name,named⟩ : ∃ name, letters.takeWhile nameLetter = name := ⟨_,rfl⟩
  obtain ⟨after,left⟩ : ∃ after, letters.dropWhile nameLetter = after := ⟨_,rfl⟩
  rw [named,left] at whole
  have reached : scan (asBytes (done ++ letters)) (fun byte => byte != 61 && !isAsciiWhitespace byte) (asBytes done).length =
      (asBytes (done ++ name)).length := by
    rw [scan_letters reads_name,named]
  have cut : slice (done ++ letters) (asBytes done).length (asBytes (done ++ name)).length = some name := by
    rw [← whole]
    exact slice_letters
  have mark : (asBytes (done ++ letters))[(asBytes (done ++ name)).length]? = some 61 ↔ after.head? = some '=' := by
    rw [← whole,← List.append_assoc,byte_after]
    exact @head_ascii after '=' (by decide)
  unfold parseAttribute
  simp only [reached,cut,Option.bind_some]
  cases after with
  | nil =>
    have read : readAttribute letters = ((lowercase name,[]),[]) := by simp [readAttribute,named,left]
    refine ⟨name,by rw [read,whole],?_⟩
    rw [if_neg (by simp [mark]),read]
  | cons c rest =>
    by_cases equals : c = '='
    · subst equals
      have read : readAttribute letters = ((lowercase name,(readValue rest).1),(readValue rest).2) := by
        simp [readAttribute,named,left]
      obtain ⟨consumed,split,parsed⟩ := @parseValue_letters (done ++ name ++ [ '=']) rest
      have next := @ascii_length (done ++ name) '=' (by decide)
      have text : done ++ letters = done ++ name ++ [ '='] ++ rest := by
        rw [← whole]
        simp
      refine ⟨name ++ '=' :: consumed,?_,?_⟩
      · rw [read,List.append_assoc,List.cons_append,← split,whole]
      · rw [if_pos (mark.mpr rfl),read,text,← next,parsed]
        simp
    · have read : readAttribute letters = ((lowercase name,[]),c :: rest) := by simp [readAttribute,named,left,equals]
      refine ⟨name,by rw [read,whole],?_⟩
      rw [if_neg (by simp [mark,equals]),read]

theorem readValue_left : (readValue letters).2.length ≤ letters.length := by
  obtain ⟨consumed,split,_⟩ := @parseValue_letters [] letters
  have lengths := congrArg List.length split
  rw [List.length_append] at lengths
  omega

-- What is left of a name's rest, of which an equals sign is taken.
theorem readAttribute_left : (readAttribute letters).2.length ≤ (letters.dropWhile nameLetter).length ∧
    ((letters.dropWhile nameLetter).head? = some '=' → (readAttribute letters).2.length < (letters.dropWhile nameLetter).length) := by
  cases left : letters.dropWhile nameLetter with
  | nil => simp [readAttribute,left]
  | cons c rest =>
    have value := @readValue_left rest
    by_cases equals : c = '='
    · simp only [readAttribute,left,equals,if_true,List.length_cons]
      omega
    · simp [readAttribute,left,equals]

-- Every turn takes a letter at least.
theorem readAttribute_shorter {c : Char} (left : letters.dropWhile betweenNames = c :: rest) :
    (readAttribute (c :: rest)).2.length < letters.length := by
  have begins : betweenNames c = false := by
    have stop := List.head?_dropWhile_not betweenNames letters
    rw [left] at stop
    exact stop
  have room : (c :: rest).length ≤ letters.length := by
    rw [← left]
    exact (List.dropWhile_suffix _).length_le
  obtain ⟨less,taken⟩ := @readAttribute_left (c :: rest)
  by_cases equals : c = '='
  · have stays : (c :: rest).dropWhile nameLetter = c :: rest := List.dropWhile_cons_of_neg (by simp [nameLetter,equals])
    rw [stays] at taken
    exact Nat.lt_of_lt_of_le (taken (by rw [equals]; rfl)) room
  · simp only [betweenNames,Bool.or_eq_false_iff] at begins
    have goes : (c :: rest).dropWhile nameLetter = rest.dropWhile nameLetter :=
      List.dropWhile_cons_of_pos (by simp [nameLetter,equals,begins.1])
    have short : (rest.dropWhile nameLetter).length ≤ rest.length := (List.dropWhile_suffix _).length_le
    rw [goes] at less
    rw [List.length_cons] at room
    omega

end letters

def attributesFrom (letters : List Char) : List Attribute :=
  match _left : letters.dropWhile betweenNames with
  | [] => []
  | c :: rest => (readAttribute (c :: rest)).1 :: attributesFrom (readAttribute (c :: rest)).2
termination_by letters.length
decreasing_by exact readAttribute_shorter _left

section attributes
variable {done letters rest : List Char} {fuel : Nat}

theorem attributesFrom_nil (empty : letters.dropWhile betweenNames = []) : attributesFrom letters = [] := by
  rw [attributesFrom]
  split
  · rfl
  · rename_i other
    rw [empty] at other
    cases other

theorem attributesFrom_cons {c : Char} (left : letters.dropWhile betweenNames = c :: rest) :
    attributesFrom letters = (readAttribute (c :: rest)).1 :: attributesFrom (readAttribute (c :: rest)).2 := by
  rw [attributesFrom]
  split
  · rename_i other
    rw [left] at other
    cases other
  · rename_i other
    rw [left] at other
    cases other
    rfl

theorem parseFrom_letters (enough : letters.length < fuel) :
    parseFrom (done ++ letters) fuel (asBytes done).length = some (attributesFrom letters) := by
  induction fuel generalizing done letters with
  | zero => omega
  | succ fuel ih =>
    have whole := @take_drop letters betweenNames
    rw [parseFrom]
    simp only [scan_letters reads_between]
    cases left : letters.dropWhile betweenNames with
    | nil =>
      rw [left,List.append_nil] at whole
      rw [whole,if_neg (Nat.lt_irrefl _),attributesFrom_nil left]
    | cons c rest =>
      have text : done ++ letters = (done ++ letters.takeWhile betweenNames) ++ c :: rest := by
        rw [List.append_assoc,← left,whole]
      obtain ⟨consumed,split,parsed⟩ := @parseAttribute_letters (done ++ letters.takeWhile betweenNames) (c :: rest)
      have shorter := readAttribute_shorter left
      have later := @ih (done ++ letters.takeWhile betweenNames ++ consumed) (readAttribute (c :: rest)).2 (by omega)
      rw [List.append_assoc,← split,← text] at later
      rw [attributesFrom_cons left,if_pos (by rw [text]; exact inside_letters)]
      conv => lhs; rw [text]
      rw [parsed,Option.bind_some,← text,later]
      rfl

theorem parseLinkAttributes_letters (tag : List Char) : parseLinkAttributes tag = some (attributesFrom tag) :=
  @parseFrom_letters [] tag _ (Nat.lt_succ_of_le (letters_bytes tag))

end attributes
section search
variable {letters rest before pattern : List Char} {c : Char}

def isTerminator (c : Char) : Bool := c == '>' || c == '/' || asciiSpace c

theorem reads_terminator : Reads (fun byte => byte == 62 || byte == 47 || isAsciiWhitespace byte) isTerminator := by
  refine @reads_table _ _ false (by decide) (fun byte large => ?_) fun c large => ?_
  · simp [isAsciiWhitespace,foreign_ne large]
  · simp [isTerminator,foreign_solid large,@foreign_other c '/' large (by decide),@foreign_other c '>' large (by decide)]

theorem nameTerminated_letters : nameTerminated (asBytes letters).head? = letters.head?.all isTerminator := by
  cases letters with
  | nil => rfl
  | cons c rest =>
    obtain ⟨first,others,bytes⟩ := List.exists_cons_of_ne_nil (@String.utf8EncodeChar_ne_nil c)
    have reads := reads_terminator c
    rw [bytes] at reads
    rw [asBytes_cons,bytes,List.cons_append,List.head?_cons,List.head?_cons,Option.all_some,nameTerminated,Option.all_some]
    cases holds : isTerminator c with
    | true => exact reads.1 holds first List.mem_cons_self
    | false => exact reads.2 holds first rfl

-- Lower case changes capitals alone, and no text's length.
theorem lower_cases (c : Char) :
    toAsciiLowercase c = c ∨ c.toNat ∈ List.range' 65 26 ∧ toAsciiLowercase c = Char.ofNat (c.toNat + 32) := by
  unfold toAsciiLowercase
  split
  · rename_i capital
    have low : 65 ≤ c.toNat := capital.1
    have high : c.toNat ≤ 90 := capital.2
    exact .inr ⟨List.mem_range'_1.mpr ⟨low,by omega⟩,rfl⟩
  · exact .inl rfl

-- What no capital and its small letter differ in.
theorem lower_same {A : Type} {f : Char → A} (table : ∀ n ∈ List.range' 65 26, f (Char.ofNat (n + 32)) = f (Char.ofNat n)) (c : Char) :
    f (toAsciiLowercase c) = f c := by
  rcases lower_cases c with same | ⟨listed,same⟩
  · rw [same]
  · rw [same,table _ listed,Char.ofNat_toNat]

theorem lower_terminator (c : Char) : isTerminator (toAsciiLowercase c) = isTerminator c := lower_same (by decide) c

theorem lower_closes (c : Char) : (toAsciiLowercase c != '>') = (c != '>') := @lower_same Bool (· != '>') (by decide) c

theorem lower_bytes (letters : List Char) : (asBytes (lowercase letters)).length = (asBytes letters).length := by
  induction letters with
  | nil => rfl
  | cons c rest ih =>
    have size : (toAsciiLowercase c).utf8Size = c.utf8Size := lower_same (by decide) c
    rw [lowercase,List.map_cons,bytes_cons,bytes_cons,size]
    exact congrArg (c.utf8Size + ·) ih

theorem lower_append : lowercase (letters ++ rest) = lowercase letters ++ lowercase rest := List.map_append

theorem find_split (found : find pattern letters = some before) : ∃ rest, letters = before ++ (pattern ++ rest) := by
  induction letters generalizing before with
  | nil =>
    rw [find] at found
    split at found
    · rename_i empty
      cases found
      exact ⟨[],by simp [List.isEmpty_iff.mp empty]⟩
    · cases found
  | cons c rest ih =>
    rw [find] at found
    split at found
    · rename_i starts
      cases found
      obtain ⟨later,same⟩ := List.isPrefixOf_iff_prefix.mp starts
      exact ⟨later,same.symm⟩
    · obtain ⟨front,inner,rfl⟩ := Option.map_eq_some_iff.mp found
      obtain ⟨later,same⟩ := ih inner
      exact ⟨later,by rw [same]; rfl⟩

theorem find_closes (letters : List Char) :
    find [ '>'] letters = if letters.dropWhile (· != '>') = [] then none else some (letters.takeWhile (· != '>')) := by
  induction letters with
  | nil => rfl
  | cons c rest ih =>
    rw [find]
    by_cases closes : c = '>'
    · subst closes
      rfl
    · rw [if_neg (by simp [Ne.symm closes]),ih,List.dropWhile_cons_of_pos (by simp [closes]),List.takeWhile_cons_of_pos (by simp [closes])]
      split <;> rfl

-- Where a tag begins in the text as it stands.
theorem link_split (found : find "<link".toList (lowercase letters) = some before) : ∃ front head rest,
    letters = front ++ (head ++ rest) ∧ lowercase front = before ∧ lowercase head = "<link".toList := by
  obtain ⟨later,same⟩ := find_split found
  obtain ⟨front,others,rfl,first,same⟩ := List.map_eq_append_iff.mp same
  obtain ⟨head,rest,rfl,second,_⟩ := List.map_eq_append_iff.mp same
  exact ⟨front,head,rest,rfl,first,second⟩

theorem head_length {head : List Char} (named : lowercase head = "<link".toList) : head.length = 5 := by
  have lengths := congrArg List.length named
  rwa [lowercase,List.length_map] at lengths

theorem link_shorter (found : find "<link".toList (lowercase letters) = some before) :
    (letters.drop (before.length + 5)).length < letters.length := by
  obtain ⟨front,head,rest,rfl,rfl,named⟩ := link_split found
  have five := head_length named
  simp only [List.length_drop,List.length_append,lowercase,List.length_map]
  omega

end search

-- The link tags of a text, from one to the next.
def linkTags (letters : List Char) : List (List Char) :=
  match _found : find "<link".toList (lowercase letters) with
  | none => []
  | some before =>
    let rest := letters.drop (before.length + 5)
    if !rest.head?.all isTerminator then linkTags rest
    else match _closed : rest.dropWhile (· != '>') with
      | [] => []
      | close :: later => ((letters.drop before.length).take 5 ++ (rest.takeWhile (· != '>') ++ [close])) :: linkTags later
termination_by letters.length
decreasing_by
  · exact link_shorter _found
  · have room := (List.dropWhile_suffix (· != '>') (l:=letters.drop (before.length + 5))).length_le
    have shorter := link_shorter _found
    rw [_closed,List.length_cons] at room
    omega

-- Collected until there are enough.
def gather (max : Nat) : List String → List String → List String
  | links,[] => links
  | links,url :: rest =>
    if links.contains url then gather max links rest
    else if links.length + 1 = max then links ++ [url]
    else gather max (links ++ [url]) rest

section tags
variable {letters rest front head body done : List Char} {c : Char}

theorem linkTags_none (missing : find "<link".toList (lowercase letters) = none) : linkTags letters = [] := by
  rw [linkTags]
  split
  · rfl
  · rename_i other
    rw [missing] at other
    cases other

theorem linkTags_some (found : find "<link".toList (lowercase (front ++ (head ++ rest))) = some (lowercase front))
    (named : lowercase head = "<link".toList) : linkTags (front ++ (head ++ rest)) =
      if !rest.head?.all isTerminator then linkTags rest
      else match rest.dropWhile (· != '>') with
        | [] => []
        | close :: later => (head ++ (rest.takeWhile (· != '>') ++ [close])) :: linkTags later := by
  have five := head_length named
  have size : (lowercase front).length = front.length := by rw [lowercase,List.length_map]
  have left : (front ++ (head ++ rest)).drop ((lowercase front).length + 5) = rest := by
    rw [size,← five,← List.append_assoc,← List.length_append,List.drop_left]
  have begins : ((front ++ (head ++ rest)).drop (lowercase front).length).take 5 = head := by
    rw [size,List.drop_left,← five,List.take_left]
  rw [linkTags]
  split
  · rename_i other
    rw [found] at other
    cases other
  · rename_i other
    rw [found] at other
    cases other
    simp only [left,begins]
    split
    · rfl
    · split
      all_goals
        rename_i closed
        rw [left] at closed
        rw [closed]

theorem lower_spread {p : Char → Bool} (same : ∀ c, p (toAsciiLowercase c) = p c) (letters : List Char) :
    (lowercase letters).takeWhile p = lowercase (letters.takeWhile p) ∧
      (lowercase letters).dropWhile p = lowercase (letters.dropWhile p) := by
  have through : p ∘ toAsciiLowercase = p := funext same
  rw [lowercase,List.takeWhile_map,List.dropWhile_map,through]
  exact ⟨rfl,rfl⟩

theorem find_close (letters : List Char) : find [ '>'] (lowercase letters) =
    if letters.dropWhile (· != '>') = [] then none else some (lowercase (letters.takeWhile (· != '>'))) := by
  obtain ⟨taken,left⟩ := @lower_spread (· != '>') lower_closes letters
  rw [find_closes,taken,left]
  simp [lowercase]

variable {resolve : String → Option String} {max fuel : Nat} {links : List String}

def declared (resolve : String → Option String) (letters : List Char) : List String :=
  (linkTags letters).filterMap fun tag => iconOf resolve (attributesFrom tag)

-- The loop ends, and no slice of it panics.
theorem linksFrom_letters (enough : letters.length < fuel) :
    linksFrom resolve max (done ++ letters) fuel (asBytes done).length links = some (gather max links (declared resolve letters)) := by
  induction fuel generalizing done letters links with
  | zero => omega
  | succ fuel ih =>
    have opened : sliceFrom (lowercase (done ++ letters)) (asBytes done).length = some (lowercase letters) := by
      rw [lower_append,← lower_bytes done]
      exact sliceFrom_letters
    rw [linksFrom]
    simp only [opened,Option.bind_some]
    cases found : find "<link".toList (lowercase letters) with
    | none => simp only [declared,linkTags_none found,List.filterMap_nil,gather]
    | some before =>
      obtain ⟨front,head,rest,rfl,rfl,named⟩ := link_split found
      have text : done ++ (front ++ (head ++ rest)) = (done ++ front ++ head) ++ rest := by simp only [List.append_assoc]
      have five : (asBytes head).length = 5 := by
        rw [← lower_bytes,named]
        decide
      have start : (asBytes done).length + (asBytes (lowercase front)).length = (asBytes (done ++ front)).length := by
        rw [lower_bytes,asBytes_append,List.length_append]
      have cursor : (asBytes (done ++ front)).length + 5 = (asBytes (done ++ front ++ head)).length := by
        rw [@asBytes_append (done ++ front),List.length_append,five]
      have after : nameTerminated (asBytes (lowercase (done ++ (front ++ (head ++ rest)))))[(asBytes (done ++ front ++ head)).length]? =
          rest.head?.all isTerminator := by
        rw [text,lower_append,← lower_bytes (done ++ front ++ head),byte_after,nameTerminated_letters]
        cases rest with
        | nil => rfl
        | cons c rest => exact lower_terminator c
      have reopened : sliceFrom (lowercase (done ++ (front ++ (head ++ rest)))) (asBytes (done ++ front ++ head)).length =
          some (lowercase rest) := by
        rw [text,lower_append,← lower_bytes (done ++ front ++ head)]
        exact sliceFrom_letters
      have tags := linkTags_some found named
      have room : rest.length + 5 ≤ (front ++ (head ++ rest)).length := by
        rw [List.length_append,List.length_append,head_length named]
        omega
      simp only [start,cursor,after,declared,tags]
      cases terminated : rest.head?.all isTerminator with
      | false =>
        simp only [Bool.not_false,if_true]
        rw [text]
        exact ih (by omega)
      | true =>
        simp only [Bool.not_true,Bool.false_eq_true,if_false,reopened,Option.bind_some,find_close]
        cases closed : rest.dropWhile (· != '>') with
        | nil => simp [gather]
        | cons close later =>
          have whole := @take_drop rest (· != '>')
          rw [closed] at whole
          have mark : close = '>' := by
            have stop := List.head?_dropWhile_not (· != '>') rest
            rw [closed] at stop
            simpa using stop
          subst mark
          obtain ⟨body,taken⟩ : ∃ body, rest.takeWhile (· != '>') = body := ⟨_,rfl⟩
          rw [taken] at whole ⊢
          have next : (asBytes (done ++ front ++ head)).length + (asBytes (lowercase body)).length + 1 =
              (asBytes (done ++ front ++ head ++ body ++ [ '>'])).length := by
            rw [lower_bytes,ascii_length (by decide),@asBytes_append (done ++ front ++ head),List.length_append]
          have html : done ++ (front ++ (head ++ rest)) = (done ++ front ++ head ++ body ++ [ '>']) ++ later := by
            rw [← whole]
            simp
          have cut : slice (done ++ (front ++ (head ++ rest))) (asBytes (done ++ front)).length
              (asBytes (done ++ front ++ head ++ body ++ [ '>'])).length = some (head ++ (body ++ [ '>'])) := by
            have part := @slice_letters (done ++ front) (head ++ (body ++ [ '>'])) later
            rw [html]
            simpa only [List.append_assoc] using part
          have shorter : later.length < fuel := by
            have lengths := congrArg List.length whole
            rw [List.length_append,List.length_cons] at lengths
            omega
          have continues (links : List String) := @ih later (done ++ front ++ head ++ body ++ [ '>']) links shorter
          rw [← html] at continues
          simp only [reduceCtorEq,if_false,next,cut,Option.bind_some,parseLinkAttributes_letters]
          cases wanted : iconOf resolve (attributesFrom (head ++ (body ++ [ '>']))) with
          | none =>
            simp only [List.filterMap_cons,wanted]
            exact continues links
          | some url =>
            simp only [List.filterMap_cons,wanted,gather]
            cases known : links.contains url with
            | true =>
              simp only [Option.filter_some,known,Bool.not_true,Bool.false_eq_true,if_false,if_true]
              exact continues links
            | false =>
              simp only [Option.filter_some,known,Bool.not_false,Bool.false_eq_true,if_false,if_true]
              split
              · rfl
              · exact continues _

-- Each link once, in the order in which they first come, up to the bound.
theorem gather_take {urls : List String} (few : links.length < max) :
    gather max links urls = (links ++ (urls.filter fun url => !links.contains url).eraseDups).take max := by
  induction urls generalizing links with
  | nil => simp [gather,List.take_of_length_le (Nat.le_of_lt few)]
  | cons url rest ih =>
    rw [gather]
    cases known : links.contains url with
    | true => rw [if_pos rfl,ih few,List.filter_cons_of_neg (by rw [known]; decide)]
    | false =>
      have others : (rest.filter fun url => !links.contains url).filter (fun other => !other == url) =
          rest.filter fun other => !(links ++ [url]).contains other := by
        rw [List.filter_filter]
        refine List.filter_congr fun other _ => ?_
        simp only [List.contains_append,List.contains_cons,List.contains_nil,Bool.or_false,Bool.not_or]
        exact Bool.and_comm _ _
      have size : (links ++ [url]).length = links.length + 1 := by rw [List.length_append,List.length_singleton]
      rw [if_neg (by decide),List.filter_cons_of_pos (by rw [known]; rfl),List.eraseDups_cons,others,
        List.append_cons links url (List.filter (fun other => !(links ++ [url]).contains other) rest).eraseDups]
      split
      · rename_i full
        rw [← full,← size,List.take_left]
      · rename_i room
        exact ih (by omega)

theorem iconLinks_letters (library : UrlLibrary) (toText : Url → String) (html : String) (base : Url) (max : Nat) :
    iconLinks library toText html base max =
      some ((declared (fun href => resolveIconHref library toText href base) html.toList).eraseDups.take max) := by
  unfold iconLinks
  split
  · rename_i none_
    rw [none_,List.take_zero]
  · rename_i some_
    have enough := Nat.lt_succ_of_le (letters_bytes html.toList)
    have whole : linksFrom (fun href => resolveIconHref library toText href base) max ([] ++ html.toList)
        ((asBytes html.toList).length + 1) (asBytes []).length [] = _ := linksFrom_letters enough
    refine whole.trans ?_
    rw [gather_take (Nat.pos_of_ne_zero some_)]
    simp

end tags
end IconLinks
