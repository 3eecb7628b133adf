import RockServer.IconLinks

-- Pages with link tags as they are written, and which of their icons are found.
namespace IconLinks
open ByteOffsets
open Egress (Url UrlLibrary)
open StreamUri (toAsciiLowercase)

inductive Quoting where
  | double
  | single
  | unquoted
deriving DecidableEq

-- Spaces, the name, an equals sign between spaces, and the value.
structure LinkAttribute where
  before : List Char
  name : List Char
  left : List Char
  right : List Char
  quoting : Quoting
  value : List Char

structure LinkTag where
  word : List Char
  attributes : List LinkAttribute
  trailing : List Char
  closing : Bool

structure Page where
  text : List Char
  links : List (LinkTag × List Char)

def spaces (letters : List Char) : Prop := ∀ c ∈ letters, asciiSpace c = true

def Quoting.written : Quoting → List Char → List Char
  | .double,value => '"' :: (value ++ [ '"'])
  | .single,value => apostrophe :: (value ++ [apostrophe])
  | .unquoted,value => value

def LinkAttribute.written (given : LinkAttribute) : List Char :=
  given.before ++ (given.name ++ (given.left ++ '=' :: (given.right ++ given.quoting.written given.value)))

def LinkTag.ending (tag : LinkTag) : List Char := tag.trailing ++ (if tag.closing then [ '/'] else [])

def LinkTag.inner (tag : LinkTag) : List Char := tag.attributes.flatMap LinkAttribute.written ++ tag.ending

def LinkTag.written (tag : LinkTag) : List Char := ('<' :: tag.word) ++ (tag.inner ++ [ '>'])

def Page.written (page : Page) : List Char := page.text ++ page.links.flatMap fun link => link.1.written ++ link.2

structure Quoting.Fits (quoting : Quoting) (value : List Char) : Prop where
  open_ : '>' ∉ value
  double : quoting = .double → '"' ∉ value
  single : quoting = .single → apostrophe ∉ value
  unquoted : quoting = .unquoted → value ≠ [] ∧
    ∀ c ∈ value, asciiSpace c = false ∧ isQuote c = false ∧ c ≠ '=' ∧ c ≠ '<' ∧ c.toNat ≠ 96

structure LinkAttribute.WellFormed (given : LinkAttribute) : Prop where
  before : given.before ≠ [] ∧ spaces given.before
  name : given.name ≠ [] ∧
    ∀ c ∈ given.name, asciiSpace c = false ∧ isQuote c = false ∧ c ≠ '=' ∧ c ≠ '/' ∧ c ≠ '>' ∧ c ≠ '<'
  around : spaces given.left ∧ spaces given.right
  value : given.quoting.Fits given.value

-- What follows the last value decides where it ends.
def RunsOn (attributes : List LinkAttribute) : Prop := ∃ front last, attributes = front ++ [last] ∧ last.quoting = .unquoted

structure LinkTag.WellFormed (tag : LinkTag) : Prop where
  word : lowercase tag.word = "link".toList
  attributes : ∀ given ∈ tag.attributes, given.WellFormed
  trailing : spaces tag.trailing
  closing : tag.closing = true → RunsOn tag.attributes → tag.trailing ≠ []

structure Page.WellFormed (page : Page) : Prop where
  text : '<' ∉ page.text
  tags : ∀ link ∈ page.links, link.1.WellFormed
  texts : ∀ link ∈ page.links, '<' ∉ link.2

def valueOf (attributes : List LinkAttribute) (name : List Char) : Option (List Char) :=
  (attributes.find? fun given => lowercase given.name == name).map LinkAttribute.value

-- The icon that a tag declares: the target of the first href where the first rel
-- says that it is one.
def LinkTag.icon (resolve : String → Option String) (tag : LinkTag) : Option String :=
  (valueOf tag.attributes "rel".toList).bind fun rel =>
    if isIconRel rel then (valueOf tag.attributes "href".toList).bind fun href => resolve (unescapeHref href) else none

def Page.icons (resolve : String → Option String) (max : Nat) (page : Page) : List String :=
  ((page.links.filterMap fun link => link.1.icon resolve).eraseDups).take max

def LinkAttribute.tight (given : LinkAttribute) : Prop := given.left = [] ∧ given.right = []

section parts
variable {letters inside after rest value : List Char} {quoting : Quoting} {given : LinkAttribute} {c : Char}

theorem spread {p : Char → Bool} (holds : ∀ c ∈ inside, p c = true) (stops : ∀ c ∈ after.head?, p c = false) :
    (inside ++ after).takeWhile p = inside ∧ (inside ++ after).dropWhile p = after := by
  have stopped : after.takeWhile p = [] ∧ after.dropWhile p = after := by
    cases after with
    | nil => exact ⟨rfl,rfl⟩
    | cons c rest =>
      have fails := stops c rfl
      exact ⟨List.takeWhile_cons_of_neg (by simp [fails]),List.dropWhile_cons_of_neg (by simp [fails])⟩
  rw [List.takeWhile_append_of_pos holds,List.dropWhile_append_of_pos holds,stopped.1,stopped.2,List.append_nil]
  exact ⟨rfl,rfl⟩

theorem readValue_quoted (quote : isQuote c = true) (closed : c ∉ value) : readValue (c :: (value ++ [c]) ++ rest) = (value,rest) := by
  have parts := @spread value (c :: rest) (fun d => d != c) (fun d inside => by simpa using fun same : d = c => closed (same ▸ inside))
    (fun d first => by simpa using (Option.mem_some.mp first).symm)
  have text : c :: (value ++ [c]) ++ rest = c :: (value ++ c :: rest) := by simp
  rw [text,readValue,if_pos quote,parts.1,parts.2]
  rfl

theorem readValue_bare (fits : ∀ c ∈ value, asciiSpace c = false ∧ isQuote c = false) (some_ : value ≠ [])
    (stops : ∀ c ∈ rest.head?, asciiSpace c = true) : readValue (value ++ rest) = (value,rest) := by
  have parts := @spread value rest (fun c => !asciiSpace c) (fun c inside => by simp [(fits c inside).1])
    (fun c first => by simp [stops c first])
  obtain ⟨c,others,rfl⟩ := List.exists_cons_of_ne_nil some_
  have plain : isQuote c = false := (fits c List.mem_cons_self).2
  rw [List.cons_append] at parts ⊢
  rw [readValue,if_neg (by simp [plain]),parts.1,parts.2]

-- A value is read as it is written where nothing runs into it.
theorem readValue_written (fits : quoting.Fits value) (stops : quoting = .unquoted → ∀ c ∈ rest.head?, asciiSpace c = true) :
    readValue (quoting.written value ++ rest) = (value,rest) := by
  cases quoting with
  | double => exact readValue_quoted (by decide) (fits.double rfl)
  | single => exact readValue_quoted (by decide) (fits.single rfl)
  | unquoted =>
    obtain ⟨some_,plain⟩ := fits.unquoted rfl
    exact readValue_bare (fun c inside => ⟨(plain c inside).1,(plain c inside).2.1⟩) some_ (stops rfl)

theorem readAttribute_named {name : List Char} (named : ∀ c ∈ name, nameLetter c = true) :
    readAttribute (name ++ '=' :: rest) = ((lowercase name,(readValue rest).1),(readValue rest).2) := by
  have parts := @spread name ('=' :: rest) nameLetter named fun c first => by
    rw [← Option.mem_some.mp first]
    rfl
  simp [readAttribute,parts.1,parts.2]

theorem readAttribute_unnamed {name : List Char} (named : ∀ c ∈ name, nameLetter c = true)
    (stops : ∀ c ∈ rest.head?, asciiSpace c = true) :
    readAttribute (name ++ rest) = ((lowercase name,[]),rest) := by
  have parts := @spread name rest nameLetter named fun c first => by simp [nameLetter,stops c first]
  cases rest with
  | nil =>
    rw [List.append_nil] at parts ⊢
    simp [readAttribute,parts.1,parts.2]
  | cons c rest =>
    have space := stops c rfl
    have other : c ≠ '=' := by
      rintro rfl
      exact absurd space (by decide)
    simp [readAttribute,parts.1,parts.2,other]

theorem LinkAttribute.WellFormed.letter (formed : given.WellFormed) :
    ∀ c ∈ given.name, nameLetter c = true ∧ betweenNames c = false := by
  intro c inside
  obtain ⟨solid,_,equals,slash,_⟩ := formed.name.2 c inside
  exact ⟨by simp [nameLetter,solid,equals],by simp [betweenNames,solid,slash]⟩

-- An attribute from the spaces before it.
theorem attributesFrom_begun {read : List Char} (formed : given.WellFormed)
    (reads : readAttribute (given.name ++ after) = ((lowercase given.name,read),rest)) :
    attributesFrom (given.before ++ (given.name ++ after)) = (lowercase given.name,read) :: attributesFrom rest := by
  obtain ⟨first,others,begun⟩ := List.exists_cons_of_ne_nil formed.name.1
  have parts := @spread given.before (given.name ++ after) betweenNames
    (fun c inside => by simp [betweenNames,formed.before.2 c inside])
    (fun c head => by
      rw [begun] at head
      cases Option.mem_some.mp head
      exact (formed.letter first (begun ▸ List.mem_cons_self)).2)
  have begins := parts.2
  rw [begun,List.cons_append] at begins reads
  rw [begun,List.cons_append,attributesFrom_cons begins,reads]

theorem attributesFrom_tight {read : List Char} (formed : given.WellFormed) (tight : given.tight)
    (reads : readValue (given.quoting.written given.value ++ after) = (read,rest)) :
    attributesFrom (given.written ++ after) = (lowercase given.name,read) :: attributesFrom rest := by
  have text : given.written ++ after = given.before ++ (given.name ++ '=' :: (given.quoting.written given.value ++ after)) := by
    simp [LinkAttribute.written,tight.1,tight.2]
  rw [text]
  apply attributesFrom_begun formed
  rw [readAttribute_named fun c inside => (formed.letter c inside).1,reads]

-- Behind spaces a value is not found.
theorem attributesFrom_loose (formed : given.WellFormed) (loose : ¬given.tight) :
    ∃ misread, attributesFrom (given.written ++ after) = (lowercase given.name,[]) :: misread := by
  have letters := fun c inside => (formed.letter c inside).1
  cases left : given.left with
  | cons space others =>
    have text : given.written ++ after = given.before ++ (given.name ++ (given.left ++ '=' :: (given.right ++
        (given.quoting.written given.value ++ after)))) := by simp [LinkAttribute.written]
    rw [text]
    refine ⟨_,attributesFrom_begun formed (readAttribute_unnamed letters fun c first => ?_)⟩
    rw [left] at first
    cases Option.mem_some.mp first
    exact formed.around.1 space (left ▸ List.mem_cons_self)
  | nil =>
    obtain ⟨space,others,right⟩ := List.exists_cons_of_ne_nil fun none_ => loose ⟨left,none_⟩
    have space_ : asciiSpace space = true := formed.around.2 space (right ▸ List.mem_cons_self)
    have plain : isQuote space = false := by
      rw [Bool.eq_false_iff]
      intro quote
      rcases quote_cases quote with rfl | rfl
      all_goals exact absurd space_ (by decide)
    have text : given.written ++ after = given.before ++ (given.name ++ '=' :: space :: (others ++
        (given.quoting.written given.value ++ after))) := by simp [LinkAttribute.written,left,right]
    have value (later : List Char) : readValue (space :: later) = ([],space :: later) := by
      rw [readValue,if_neg (by simp [plain])]
      rw [List.takeWhile_cons_of_neg (by simp [space_]),List.dropWhile_cons_of_neg (by simp [space_])]
    rw [text]
    exact ⟨_,attributesFrom_begun formed (by rw [readAttribute_named letters,value])⟩

theorem written_spaced (formed : given.WellFormed) : ∀ c ∈ (given.written ++ after).head?, asciiSpace c = true := by
  obtain ⟨some_,spaced⟩ := formed.before
  obtain ⟨space,later,begun⟩ := List.exists_cons_of_ne_nil some_
  intro c head
  simp only [LinkAttribute.written,begun,List.cons_append,List.head?_cons] at head
  cases Option.mem_some.mp head
  exact spaced space (begun ▸ List.mem_cons_self)

def LinkAttribute.read (given : LinkAttribute) : Attribute := (lowercase given.name,given.value)

-- Attributes without spaces around their equals signs are read as they are given.
theorem attributesFrom_run {first : List LinkAttribute} (formed : ∀ given ∈ first, given.WellFormed)
    (tight : ∀ given ∈ first, given.tight) (stops : RunsOn first → ∀ c ∈ rest.head?, asciiSpace c = true) :
    attributesFrom (first.flatMap LinkAttribute.written ++ rest) = first.map LinkAttribute.read ++ attributesFrom rest := by
  induction first with
  | nil => rfl
  | cons given others ih =>
    have here := formed given List.mem_cons_self
    have formed (other) (inside : other ∈ others) := formed other (List.mem_cons_of_mem _ inside)
    have later := ih formed (fun other inside => tight other (List.mem_cons_of_mem _ inside)) fun ⟨front,last,same,unquoted⟩ =>
      stops ⟨given :: front,last,congrArg (given :: ·) same,unquoted⟩
    have spaced : given.quoting = .unquoted → ∀ c ∈ (others.flatMap LinkAttribute.written ++ rest).head?, asciiSpace c = true := by
      intro unquoted
      cases others with
      | nil => exact stops ⟨[],given,rfl,unquoted⟩
      | cons other more =>
        rw [List.flatMap_cons,List.append_assoc]
        exact written_spaced (formed other List.mem_cons_self)
    have reads := readValue_written here.value spaced
    rw [List.flatMap_cons,List.append_assoc,attributesFrom_tight here (tight given List.mem_cons_self) reads,later]
    rfl

-- The last value takes in what closes the tag.
theorem attributesFrom_abutting (formed : given.WellFormed) (tight : given.tight) (unquoted : given.quoting = .unquoted) :
    attributesFrom (given.written ++ [ '>']) = [(lowercase given.name,given.value ++ [ '>'])] := by
  obtain ⟨some_,plain⟩ := formed.value.unquoted unquoted
  have fits : ∀ c ∈ given.value ++ [ '>'], asciiSpace c = false ∧ isQuote c = false := by
    intro c inside
    rcases List.mem_append.mp inside with inside | close
    · exact ⟨(plain c inside).1,(plain c inside).2.1⟩
    · cases List.mem_singleton.mp close
      decide
  have reads : readValue (given.quoting.written given.value ++ [ '>']) = (given.value ++ [ '>'],[]) := by
    have bare := @readValue_bare [] _ fits (by simp) (fun c head => nomatch head)
    rw [List.append_nil] at bare
    rwa [unquoted]
  rw [attributesFrom_tight formed tight reads,attributesFrom_nil rfl]

end parts

def found (attributes : List Attribute) (name : List Char) : Option (List Char) := (attributes.find? (·.1 == name)).map Prod.snd

section tags
variable {resolve : String → Option String} {attributes : List Attribute} {first later : List LinkAttribute} {tag : LinkTag}
  {given : LinkAttribute} {name rest : List Char}

theorem iconOf_found : iconOf resolve attributes = (found attributes "rel".toList).bind fun rel =>
    if isIconRel rel then (found attributes "href".toList).bind fun href => resolve (unescapeHref href) else none := by
  simp only [iconOf,found,Option.bind_map]
  rfl

theorem found_append (more : List Attribute) : found (attributes ++ more) name = (found attributes name).or (found more name) := by
  rw [found,List.find?_append,Option.map_or]
  rfl

theorem found_read (first : List LinkAttribute) : found (first.map LinkAttribute.read) name = valueOf first name := by
  rw [found,valueOf,List.find?_map,Option.map_map]
  rfl

theorem valueOf_append (first later : List LinkAttribute) :
    valueOf (first ++ later) name = (valueOf first name).or (valueOf later name) := by
  rw [valueOf,List.find?_append,Option.map_or]
  rfl

-- The names that the scanner looks for.
def Sought (name : List Char) : Prop := name = "rel".toList ∨ name = "href".toList

theorem sought_other {letters read : List Char} (sought : Sought name) : found ((lowercase ('<' :: letters),read) :: attributes) name =
    found attributes name := by
  have other : ((lowercase ('<' :: letters)) == name) = false := by
    rcases sought with rfl | rfl
    all_goals rfl
  rw [found,List.find?_cons_of_neg (by simp [other])]
  rfl

theorem ending_letters (formed : tag.WellFormed) : ∀ c ∈ tag.ending, betweenNames c = true := by
  intro c inside
  rcases List.mem_append.mp inside with space | slash
  · simp [betweenNames,formed.trailing c space]
  · split at slash
    · cases List.mem_singleton.mp slash
      decide
    · cases slash

theorem attributesFrom_ending (formed : tag.WellFormed) : attributesFrom (tag.ending ++ [ '>']) = [([ '>'],[])] := by
  have parts := @spread tag.ending [ '>'] betweenNames (ending_letters formed) fun c head => by
    cases Option.mem_some.mp head
    decide
  have read : readAttribute [ '>'] = (([ '>'],[]),[]) := by decide
  rw [attributesFrom_cons parts.2,read,attributesFrom_nil rfl]

theorem ending_unsought (sought : Sought name) : found [([ '>'],[])] name = none := by
  rcases sought with rfl | rfl
  all_goals rfl

theorem word_letters (formed : tag.WellFormed) : ∀ c ∈ '<' :: tag.word, nameLetter c = true := by
  have smalls : ∀ c ∈ "link".toList, nameLetter c = true := List.all_eq_true.mp (by decide)
  intro c inside
  rcases List.mem_cons.mp inside with rfl | inside
  · decide
  · have same : nameLetter (toAsciiLowercase c) = nameLetter c := lower_same (by decide) c
    rw [← same]
    apply smalls
    rw [← formed.word]
    exact List.mem_map_of_mem inside

-- The name of the tag is read as an attribute.
theorem attributesFrom_word {letters : List Char} (named : ∀ c ∈ '<' :: letters, nameLetter c = true)
    (spaced : ∀ c ∈ rest.head?, asciiSpace c = true) :
    attributesFrom (('<' :: letters) ++ rest) = (lowercase ('<' :: letters),[]) :: attributesFrom rest := by
  have begins : (('<' :: letters) ++ rest).dropWhile betweenNames = '<' :: (letters ++ rest) :=
    List.dropWhile_cons_of_neg (by decide)
  have read := @readAttribute_unnamed rest ('<' :: letters) named spaced
  rw [List.cons_append] at read
  rw [attributesFrom_cons begins,read]

theorem trailing_spaced (formed : tag.WellFormed) (some_ : tag.trailing ≠ []) :
    ∀ c ∈ (tag.ending ++ rest).head?, asciiSpace c = true := by
  obtain ⟨space,others,begun⟩ := List.exists_cons_of_ne_nil some_
  intro c head
  simp only [LinkTag.ending,begun,List.cons_append,List.head?_cons] at head
  cases Option.mem_some.mp head
  exact formed.trailing space (begun ▸ List.mem_cons_self)

-- An unquoted value does not run into a slash.
theorem ending_spaced (formed : tag.WellFormed) (runs : RunsOn tag.attributes) (some_ : tag.ending ≠ []) :
    ∀ c ∈ (tag.ending ++ rest).head?, asciiSpace c = true := by
  apply trailing_spaced formed
  intro none_
  cases closing : tag.closing with
  | true => exact formed.closing closing runs none_
  | false => exact some_ (by simp [LinkTag.ending,none_,closing])

theorem inner_spaced (formed : tag.WellFormed) (some_ : ¬(tag.attributes = [] ∧ tag.trailing = [])) :
    ∀ c ∈ (tag.inner ++ rest).head?, asciiSpace c = true := by
  cases given : tag.attributes with
  | cons first others =>
    have here := formed.attributes first (given ▸ List.mem_cons_self)
    rw [LinkTag.inner,given,List.flatMap_cons,List.append_assoc,List.append_assoc]
    exact written_spaced here
  | nil =>
    rw [LinkTag.inner,given]
    exact trailing_spaced formed fun none_ => some_ ⟨given,none_⟩

-- A tag that gives nothing is one name up to its end.
theorem found_bare (formed : tag.WellFormed) (sought : Sought name) (given : tag.attributes = []) (bare : tag.trailing = []) :
    found (attributesFrom tag.written) name = none := by
  have closers : ∀ c ∈ [ '/', '>'], nameLetter c = true := List.all_eq_true.mp (by decide)
  have letters : ∀ c ∈ '<' :: (tag.word ++ (tag.ending ++ [ '>'])), nameLetter c = true := by
    intro c inside
    rcases List.mem_append.mp (show c ∈ ('<' :: tag.word) ++ (tag.ending ++ [ '>']) from inside) with word | inside
    · exact word_letters formed c word
    · rw [LinkTag.ending,bare] at inside
      apply closers c
      split at inside
      · simpa using inside
      · exact List.mem_cons_of_mem _ (by simpa using inside)
  have text : tag.written = ('<' :: (tag.word ++ (tag.ending ++ [ '>']))) ++ [] := by
    simp [LinkTag.written,LinkTag.inner,given]
  rw [text,@attributesFrom_word [] _ letters (fun c head => nomatch head),sought_other sought,attributesFrom_nil rfl]
  rfl

-- What is found of a name is what its tag gives up to some attribute, and then
-- what is read from there.
theorem found_split (formed : tag.WellFormed) (sought : Sought name) (split : tag.attributes = first ++ later)
    (tight : ∀ given ∈ first, given.tight) (stops : RunsOn first → later ≠ [] ∨ tag.ending ≠ []) :
    found (attributesFrom tag.written) name = (valueOf first name).or
      (found (attributesFrom (later.flatMap LinkAttribute.written ++ (tag.ending ++ [ '>']))) name) := by
  have kept (given) (inside : given ∈ first ++ later) := formed.attributes given (split ▸ inside)
  have spaced (runs : RunsOn first) :
      ∀ c ∈ (later.flatMap LinkAttribute.written ++ (tag.ending ++ [ '>'])).head?, asciiSpace c = true := by
    cases later with
    | nil =>
      rw [List.append_nil] at split
      exact ending_spaced formed (split ▸ runs) ((stops runs).resolve_left fun some_ => some_ rfl)
    | cons given others =>
      rw [List.flatMap_cons,List.append_assoc]
      exact written_spaced (kept given (by simp))
  have inner : tag.inner ++ [ '>'] = first.flatMap LinkAttribute.written ++
      (later.flatMap LinkAttribute.written ++ (tag.ending ++ [ '>'])) := by
    rw [LinkTag.inner,split]
    simp
  have reads : found (attributesFrom (tag.inner ++ [ '>'])) name = (valueOf first name).or
      (found (attributesFrom (later.flatMap LinkAttribute.written ++ (tag.ending ++ [ '>']))) name) := by
    rw [inner,attributesFrom_run (fun given inside => kept given (List.mem_append_left _ inside)) tight spaced,found_append,found_read]
  rw [← reads]
  by_cases bare : tag.attributes = [] ∧ tag.trailing = []
  · have same : tag.inner = tag.ending := by simp [LinkTag.inner,bare.1]
    rw [found_bare formed sought bare.1 bare.2,same,attributesFrom_ending formed,ending_unsought sought]
  · rw [LinkTag.written,attributesFrom_word (word_letters formed) (inner_spaced formed bare),sought_other sought]

theorem written_open (formed : given.WellFormed) : '>' ∉ given.written := by
  have space {letters : List Char} (spaced : spaces letters) : '>' ∉ letters := fun inside => absurd (spaced _ inside) (by decide)
  have name : '>' ∉ given.name := fun inside => (formed.name.2 _ inside).2.2.2.2.1 rfl
  have value : '>' ∉ given.quoting.written given.value := by
    have open_ := formed.value.open_
    cases given.quoting with
    | double => simp [Quoting.written,open_]
    | single => simp [Quoting.written,open_,(by decide : '>' ≠ apostrophe)]
    | unquoted => exact open_
  simp [LinkAttribute.written,space formed.before.2,name,space formed.around.1,space formed.around.2,value]

theorem inner_open (formed : tag.WellFormed) : '>' ∉ tag.inner := by
  intro inside
  rcases List.mem_append.mp inside with inside | inside
  · obtain ⟨given,here,inside⟩ := List.mem_flatMap.mp inside
    exact written_open (formed.attributes given here) inside
  · exact absurd (ending_letters formed _ inside) (by decide)

theorem inner_terminated (formed : tag.WellFormed) : (tag.inner ++ '>' :: rest).head?.all isTerminator = true := by
  by_cases bare : tag.attributes = [] ∧ tag.trailing = []
  · have same : tag.inner = tag.ending := by simp [LinkTag.inner,bare.1]
    rw [same,LinkTag.ending,bare.2]
    split
    all_goals rfl
  · have spaced := @inner_spaced tag ('>' :: rest) formed bare
    cases head : (tag.inner ++ '>' :: rest).head? with
    | none => rfl
    | some c => simp [isTerminator,spaced c head]

end tags
section pages
variable {before rest text : List Char} {links : List (LinkTag × List Char)} {page : Page}

theorem lower_opens (absent : '<' ∉ text) : '<' ∉ lowercase text := by
  intro inside
  obtain ⟨c,here,same⟩ := List.mem_map.mp inside
  have opens : (toAsciiLowercase c == '<') = (c == '<') := @lower_same Bool (· == '<') (by decide) c
  rw [same,beq_self_eq_true] at opens
  exact absent (beq_iff_eq.mp opens.symm ▸ here)

theorem find_absent (absent : '<' ∉ text) : find "<link".toList text = none := by
  induction text with
  | nil => rfl
  | cons c rest ih =>
    obtain ⟨other,later⟩ := not_or.mp (List.mem_cons.not.mp absent)
    rw [find,if_neg (by simp [other]),ih later]
    rfl

theorem find_present (absent : '<' ∉ before) : find "<link".toList (before ++ ("<link".toList ++ rest)) = some before := by
  induction before with
  | nil => rfl
  | cons c before ih =>
    obtain ⟨other,later⟩ := not_or.mp (List.mem_cons.not.mp absent)
    rw [List.cons_append,find,if_neg (by simp [other]),ih later]
    rfl

theorem linkTags_links (absent : '<' ∉ text) (tags : ∀ link ∈ links, link.1.WellFormed) (texts : ∀ link ∈ links, '<' ∉ link.2) :
    linkTags (text ++ links.flatMap fun link => link.1.written ++ link.2) = links.map fun link => link.1.written := by
  induction links generalizing text with
  | nil =>
    rw [List.flatMap_nil,List.append_nil]
    exact linkTags_none (find_absent (lower_opens absent))
  | cons link others ih =>
    obtain ⟨tag,after⟩ := link
    obtain ⟨formed,tags⟩ := List.forall_mem_cons.mp tags
    obtain ⟨clear,texts⟩ := List.forall_mem_cons.mp texts
    have later := ih clear tags texts
    obtain ⟨more,same⟩ : ∃ more, after ++ (others.flatMap fun link => link.1.written ++ link.2) = more := ⟨_,rfl⟩
    rw [same] at later
    have written : text ++ (((tag,after) :: others).flatMap fun link => link.1.written ++ link.2) =
        text ++ (('<' :: tag.word) ++ (tag.inner ++ '>' :: more)) := by
      rw [← same]
      simp [LinkTag.written]
    have named : lowercase ('<' :: tag.word) = "<link".toList := by
      rw [lowercase,List.map_cons,← lowercase,formed.word]
      rfl
    have begins : find "<link".toList (lowercase (text ++ (('<' :: tag.word) ++ (tag.inner ++ '>' :: more)))) = some (lowercase text) := by
      rw [lower_append,lower_append,named]
      exact find_present (lower_opens absent)
    have parts := @spread tag.inner ('>' :: more) (· != '>') (fun c inside => by
      simpa using fun same : c = '>' => inner_open formed (same ▸ inside)) (fun c head => by
      cases Option.mem_some.mp head
      rfl)
    rw [written,linkTags_some begins named,if_neg (by rw [inner_terminated formed]; decide),parts.1,parts.2]
    simp only [later,List.map_cons]
    rfl

theorem linkTags_page (formed : page.WellFormed) : linkTags page.written = page.links.map fun link => link.1.written :=
  linkTags_links formed.text formed.tags formed.texts

end pages
end IconLinks
