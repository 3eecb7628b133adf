import Mathlib.Data.List.Perm.Subperm
import RockServer.IconPages

-- Which tags keep their icons.
namespace IconLinks
open Egress (Url UrlLibrary)
open StreamUri (toAsciiLowercase)

abbrev named (name : List Char) (given : LinkAttribute) : Prop := lowercase given.name = name

-- An attribute that decides about the icon: no earlier one has its name.
def Leads (first : List LinkAttribute) (given : LinkAttribute) : Prop :=
  (named "rel".toList given ∨ named "href".toList given) ∧ ∀ earlier ∈ first, lowercase earlier.name ≠ lowercase given.name

-- Attributes that say whether there is an icon, and where.
def Decided (attributes : List LinkAttribute) : Prop :=
  ∃ rel, valueOf attributes "rel".toList = some rel ∧ (isIconRel rel = true → (valueOf attributes "href".toList).isSome = true)

-- A rel or an href that runs into the end of its tag.
def LinkTag.Abuts (tag : LinkTag) : Prop := tag.ending = [] ∧ ∃ front last, tag.attributes = front ++ [last] ∧
  last.quoting = .unquoted ∧ (named "rel".toList last ∨ named "href".toList last)

-- Targets that no link may have.
def Unfetchable (href : List Char) : Prop := unescapeHref href = "" ∨ "data:".toList.isPrefixOf (unescapeHref href).toList = true

def LinkTag.Declares (tag : LinkTag) : Prop := ∃ rel href, valueOf tag.attributes "rel".toList = some rel ∧ isIconRel rel = true ∧
  valueOf tag.attributes "href".toList = some href ∧ ¬Unfetchable href

-- No spaces stand around equals signs until the tag is decided, or in all of it,
-- and then no rel or href runs into its end.
def LinkTag.Clear (tag : LinkTag) : Prop := ∃ first later, tag.attributes = first ++ later ∧ (∀ given ∈ first, given.tight) ∧
  (later ≠ [] ∧ Decided first ∨ later = [] ∧ ¬tag.Abuts)

-- There is no icon to lose, and what is misread decides.
def LinkTag.Harmless (tag : LinkTag) : Prop := ¬tag.Declares ∧ ((∀ given ∈ tag.attributes, given.tight) ∨
  ∃ first given later, tag.attributes = first ++ given :: later ∧ (∀ earlier ∈ first, earlier.tight) ∧ ¬given.tight ∧
    Leads first given)

def LinkTag.Readable (tag : LinkTag) : Prop := tag.Clear ∨ tag.Harmless

-- Only a first rel and a first href may have spaces around their equals signs.
def LinkTag.Plain (tag : LinkTag) : Prop :=
  ∀ first given later, tag.attributes = first ++ given :: later → ¬given.tight → Leads first given

def LinkTag.scanned (resolve : String → Option String) (tag : LinkTag) : Option String := iconOf resolve (attributesFrom tag.written)

-- Targets are decoded an entity at a time; none of them holds what closes a tag.
section decoded
variable {letters pattern replacement : List Char} {skip : Nat} {entities : List (String × Char)} {entity : String × Char}

theorem starts_append (closed : '>' ∉ pattern) : pattern.isPrefixOf (letters ++ [ '>']) = pattern.isPrefixOf letters := by
  induction pattern generalizing letters with
  | nil => rfl
  | cons c rest ih =>
    obtain ⟨other,later⟩ := not_or.mp (List.mem_cons.not.mp closed)
    cases letters with
    | nil => simp [List.isPrefixOf,Ne.symm other]
    | cons d letters => rw [List.cons_append,List.isPrefixOf,List.isPrefixOf,ih later]

theorem replaceFrom_append (closed : '>' ∉ pattern) (some_ : pattern ≠ []) (room : skip ≤ letters.length) :
    replaceFrom pattern replacement skip (letters ++ [ '>']) = replaceFrom pattern replacement skip letters ++ [ '>'] := by
  induction letters generalizing skip with
  | nil =>
    have none_ : skip = 0 := Nat.le_zero.mp room
    have misses : pattern.isPrefixOf [ '>'] = false := by
      rw [← List.nil_append [ '>'],starts_append closed]
      cases pattern with
      | nil => exact absurd rfl some_
      | cons c rest => rfl
    subst none_
    simp [replaceFrom,misses]
  | cons c rest ih =>
    cases skip with
    | succ skip => exact ih (Nat.le_of_succ_le_succ room)
    | zero =>
      have same := @starts_append (c :: rest) pattern closed
      rw [List.cons_append] at same ⊢
      rw [replaceFrom,replaceFrom,same]
      split
      · rename_i starts
        have short := (List.isPrefixOf_iff_prefix.mp starts).length_le
        rw [List.length_cons] at short
        rw [ih (by omega),List.append_assoc]
      · rw [ih (Nat.zero_le _),List.cons_append]

theorem replaced_some (some_ : letters ≠ []) : replaced letters entity ≠ [] := by
  obtain ⟨c,rest,rfl⟩ := List.exists_cons_of_ne_nil some_
  rw [replaced,replaceFrom]
  split
  all_goals simp

theorem decoded_append (closed : ∀ entity ∈ entities, '>' ∉ entity.1.toList ∧ entity.1.toList ≠ []) (some_ : letters ≠ []) :
    entities.foldl replaced (letters ++ [ '>']) = entities.foldl replaced letters ++ [ '>'] ∧ entities.foldl replaced letters ≠ [] := by
  induction entities generalizing letters with
  | nil => exact ⟨rfl,some_⟩
  | cons entity rest ih =>
    obtain ⟨open_,some⟩ := closed entity List.mem_cons_self
    rw [List.foldl_cons,List.foldl_cons,replaced,replaceFrom_append open_ some (Nat.zero_le _)]
    exact ih (fun other inside => closed other (List.mem_cons_of_mem _ inside)) (replaced_some some_)

theorem unescape_append (some_ : letters ≠ []) :
    (unescapeHref (letters ++ [ '>'])).toList = (unescapeHref letters).toList ++ [ '>'] ∧ (unescapeHref letters).toList ≠ [] := by
  simp only [unescapeHref,String.toList_ofList]
  exact decoded_append (by decide) some_

theorem unfetchable_append (some_ : letters ≠ []) (unfetchable : Unfetchable letters) : Unfetchable (letters ++ [ '>']) := by
  obtain ⟨grown,full⟩ := unescape_append some_
  rcases unfetchable with empty | data
  · exact absurd (by rw [empty]; rfl) full
  · refine .inr ?_
    rw [grown]
    exact List.isPrefixOf_iff_prefix.mpr ((List.isPrefixOf_iff_prefix.mp data).trans (List.prefix_append _ _))

-- Targets that a link may have, as they stand.
def fetchable (href : String) : Option String :=
  if href.isEmpty || "data:".toList.isPrefixOf href.toList then none else some href

theorem fetchable_none (unfetchable : Unfetchable letters) : fetchable (unescapeHref letters) = none := by
  unfold fetchable
  rcases unfetchable with empty | data
  · rw [empty]
    rfl
  · rw [data,Bool.or_true,if_pos rfl]

theorem fetchable_some (other : ¬Unfetchable letters) : fetchable (unescapeHref letters) = some (unescapeHref letters) := by
  obtain ⟨some_,other⟩ := not_or.mp other
  unfold fetchable
  rw [Bool.eq_false_iff.mpr other,if_neg (by simp [some_])]

theorem resolve_fetchable (library : UrlLibrary) (toText : Url → String) (base : Url) (href : String) :
    resolveIconHref library toText href base = (fetchable href).bind fun href => (library.join base href).bind fun url =>
      if !(url.scheme == "http" || url.scheme == "https") || url.host.isNone then none
      else some (toText {url with fragment := none}) := by
  unfold resolveIconHref fetchable
  split
  all_goals rfl

theorem resolve_unfetchable {library : UrlLibrary} {toText : Url → String} {base : Url} (unfetchable : Unfetchable letters) :
    resolveIconHref library toText (unescapeHref letters) base = none := by
  rw [resolve_fetchable,fetchable_none unfetchable]
  rfl

theorem lower_space (c : Char) : asciiSpace (toAsciiLowercase c) = asciiSpace c := lower_same (by decide) c

-- A token that closes its tag is no icon's.
theorem closing_rel (solid : ∀ c ∈ letters, asciiSpace c = false) : isIconRel (letters ++ [ '>']) = false := by
  have single : (lowercase (letters ++ [ '>'])).splitOnP asciiSpace = [lowercase letters ++ [ '>']] := by
    have closed : lowercase (letters ++ [ '>']) = lowercase letters ++ [ '>'] := lower_append
    rw [closed]
    apply List.splitOnP_eq_singleton
    intro c inside
    rcases List.mem_append.mp inside with inside | close
    · obtain ⟨d,given,rfl⟩ := List.mem_map.mp inside
      rw [lower_space,solid d given]
    · cases List.mem_singleton.mp close
      rfl
  have other {token : List Char} (ends : token.getLast? ≠ some '>') : (lowercase letters ++ [ '>'] == token) = false := by
    rw [beq_eq_false_iff_ne]
    rintro rfl
    exact ends (by simp)
  rw [isIconRel,single,List.any_cons,List.any_nil,other (by decide),other (by decide)]
  rfl

end decoded
section tags
variable {resolve : String → Option String} {tag : LinkTag} {front first later : List LinkAttribute} {given last : LinkAttribute}
  {name rel href : List Char}

theorem found_one (read : Attribute) (attributes : List Attribute) :
    found (read :: attributes) name = if read.1 = name then some read.2 else found attributes name := by
  by_cases same : read.1 = name
  · rw [found,List.find?_cons_of_pos (by simp [same]),if_pos same]
    rfl
  · rw [found,List.find?_cons_of_neg (by simp [same]),if_neg same]
    rfl

theorem valueOf_one : valueOf [last] name = if lowercase last.name = name then some last.value else none := by
  rw [← found_read,List.map_singleton,found_one]
  rfl

-- A name is first where no earlier attribute has it.
theorem valueOf_none : valueOf first name = none ↔ ∀ given ∈ first, lowercase given.name ≠ name := by
  simp [valueOf]

theorem scanned_same (same : ∀ name, Sought name → found (attributesFrom tag.written) name = valueOf tag.attributes name) :
    tag.scanned resolve = tag.icon resolve := by
  rw [LinkTag.scanned,iconOf_found,same _ (.inl rfl),same _ (.inr rfl)]
  rfl

theorem scanned_unrelated (missing : ∀ rel ∈ found (attributesFrom tag.written) "rel".toList, isIconRel rel = false) :
    tag.scanned resolve = none := by
  rw [LinkTag.scanned,iconOf_found]
  cases read : found (attributesFrom tag.written) "rel".toList with
  | none => rfl
  | some rel => rw [Option.bind_some,missing rel read,if_neg (by decide)]

theorem scanned_untargeted (missing : ∀ href ∈ found (attributesFrom tag.written) "href".toList, resolve (unescapeHref href) = none) :
    tag.scanned resolve = none := by
  rw [LinkTag.scanned,iconOf_found]
  cases found (attributesFrom tag.written) "rel".toList with
  | none => rfl
  | some rel =>
    rw [Option.bind_some]
    split
    · cases read : found (attributesFrom tag.written) "href".toList with
      | none => rfl
      | some href => rw [Option.bind_some,missing href read]
    · rfl

-- Attributes without spaces are read as they are given where none runs into the end.
theorem found_tight (formed : tag.WellFormed) (tight : ∀ given ∈ tag.attributes, given.tight)
    (ends : RunsOn tag.attributes → tag.ending ≠ []) (sought : Sought name) :
    found (attributesFrom tag.written) name = valueOf tag.attributes name := by
  rw [found_split formed sought (List.append_nil _).symm tight fun runs => .inr (ends runs),List.flatMap_nil,List.nil_append,
    attributesFrom_ending formed,ending_unsought sought,Option.or_none]

theorem found_loose (formed : tag.WellFormed) (split : tag.attributes = first ++ given :: later)
    (tight : ∀ earlier ∈ first, earlier.tight) (loose : ¬given.tight) (sought : Sought name) (leads : lowercase given.name = name)
    (first_ : ∀ earlier ∈ first, lowercase earlier.name ≠ name) :
    found (attributesFrom tag.written) name = some [] := by
  have here := formed.attributes given (by simp [split])
  have reads := found_split formed sought split tight fun _ => .inl (List.cons_ne_nil _ _)
  obtain ⟨misread,read⟩ := @attributesFrom_loose (later.flatMap LinkAttribute.written ++ (tag.ending ++ [ '>'])) given here loose
  rw [reads,valueOf_none.mpr first_,List.flatMap_cons,List.append_assoc,read,found_one,if_pos leads]
  rfl

theorem icon_target (related : valueOf tag.attributes "rel".toList = some rel) (icon : isIconRel rel = true)
    (targeted : valueOf tag.attributes "href".toList = some href) : tag.icon resolve = resolve (unescapeHref href) := by
  rw [LinkTag.icon,related,Option.bind_some,if_pos icon,targeted,Option.bind_some]

theorem icon_none (declares : ¬tag.Declares) (refused : ∀ href, Unfetchable href → resolve (unescapeHref href) = none) :
    tag.icon resolve = none := by
  unfold LinkTag.icon
  cases related : valueOf tag.attributes "rel".toList with
  | none => rfl
  | some rel =>
    rw [Option.bind_some]
    split
    · rename_i icon
      cases targeted : valueOf tag.attributes "href".toList with
      | none => rfl
      | some href =>
        apply refused
        by_contra fetchable
        exact declares ⟨rel,href,related,icon,targeted,fetchable⟩
    · rfl

-- A misread rel or href gives no icon.
theorem scanned_loose (formed : tag.WellFormed) (split : tag.attributes = first ++ given :: later)
    (tight : ∀ earlier ∈ first, earlier.tight) (loose : ¬given.tight) (leads : Leads first given)
    (refused : ∀ href, Unfetchable href → resolve (unescapeHref href) = none) :
    tag.scanned resolve = none := by
  obtain ⟨rel | href,first_⟩ := leads
  · have read := found_loose formed split tight loose (.inl rfl) rel fun earlier inside => rel ▸ first_ earlier inside
    apply scanned_unrelated
    rw [read]
    intro rel same
    cases Option.mem_some.mp same
    decide
  · have read := found_loose formed split tight loose (.inr rfl) href fun earlier inside => href ▸ first_ earlier inside
    apply scanned_untargeted
    rw [read]
    intro href same
    cases Option.mem_some.mp same
    exact refused [] (.inl rfl)

-- What comes after the decision changes nothing.
theorem scanned_decided (formed : tag.WellFormed) (split : tag.attributes = first ++ later) (tight : ∀ given ∈ first, given.tight)
    (more : later ≠ []) (decided : Decided first) : tag.scanned resolve = tag.icon resolve := by
  have reads (name) (sought : Sought name) := found_split formed sought split tight fun _ => .inl more
  obtain ⟨rel,related,targeted⟩ := decided
  rw [LinkTag.scanned,iconOf_found,LinkTag.icon,split,reads _ (.inl rfl),reads _ (.inr rfl),valueOf_append,valueOf_append,related]
  simp only [Option.some_or,Option.bind_some]
  split
  · rename_i icon
    obtain ⟨href,target⟩ := Option.isSome_iff_exists.mp (targeted icon)
    rw [target,Option.some_or,Option.some_or]
  · rfl

theorem or_known {value : List Char} (known : lowercase last.name = name → (valueOf front name).isSome = true) :
    (valueOf front name).or (if lowercase last.name = name then some value else none) = valueOf front name := by
  by_cases same : lowercase last.name = name
  · obtain ⟨first,given⟩ := Option.isSome_iff_exists.mp (known same)
    rw [given,Option.some_or]
  · rw [if_neg same,Option.or_none]

-- A last value without quotes that runs into the end.
section abutting
variable (formed : tag.WellFormed) (tight : ∀ given ∈ tag.attributes, given.tight) (split : tag.attributes = front ++ [last])
    (unquoted : last.quoting = .unquoted) (ends : tag.ending = [])
include formed tight split unquoted ends

theorem found_abutting (sought : Sought name) :
    found (attributesFrom tag.written) name =
      (valueOf front name).or (if lowercase last.name = name then some (last.value ++ [ '>']) else none) := by
  rw [split] at tight
  have here := formed.attributes last (by simp [split])
  have reads := found_split formed sought split (fun given inside => tight given (List.mem_append_left _ inside))
    fun _ => .inl (List.cons_ne_nil _ _)
  rw [reads,ends,List.nil_append,List.flatMap_singleton,attributesFrom_abutting here (tight last (by simp)) unquoted,found_one]
  rfl

-- Where the last value runs into the end, it matters as a first rel or href alone.
theorem abutting_known (known : ∀ name, Sought name → lowercase last.name = name → (valueOf front name).isSome = true) :
    tag.scanned resolve = tag.icon resolve := by
  apply scanned_same
  intro name sought
  rw [found_abutting formed tight split unquoted ends sought,split,valueOf_append,valueOf_one,or_known (known name sought),
    or_known (known name sought)]

theorem abutting_rel (rel : named "rel".toList last) (first_ : valueOf front "rel".toList = none) : tag.scanned resolve = none := by
  have fits := (formed.attributes last (by simp [split])).value.unquoted unquoted
  apply scanned_unrelated
  rw [found_abutting formed tight split unquoted ends (.inl rfl),first_,Option.none_or,if_pos rel]
  intro rel same
  cases Option.mem_some.mp same
  exact closing_rel fun c inside => (fits.2 c inside).1

theorem abutting_href (href : named "href".toList last) (first_ : valueOf front "href".toList = none) :
    tag.scanned resolve = ((valueOf tag.attributes "rel".toList).bind fun rel =>
      if isIconRel rel then resolve (unescapeHref (last.value ++ [ '>'])) else none) ∧
    valueOf tag.attributes "href".toList = some last.value := by
  have other : lowercase last.name ≠ "rel".toList := by
    rw [href]
    decide
  constructor
  · rw [LinkTag.scanned,iconOf_found,found_abutting formed tight split unquoted ends (.inl rfl),
      found_abutting formed tight split unquoted ends (.inr rfl),first_,Option.none_or,if_pos href,if_neg other,split,valueOf_append,
      valueOf_one,if_neg other]
    rfl
  · rw [split,valueOf_append,valueOf_one,first_,if_pos href]
    rfl

end abutting

theorem scanned_clear (formed : tag.WellFormed) (clear : tag.Clear) : tag.scanned resolve = tag.icon resolve := by
  obtain ⟨first,later,split,tight,⟨more,decided⟩ | ⟨rfl,apart⟩⟩ := clear
  · exact scanned_decided formed split tight more decided
  · rw [List.append_nil] at split
    subst split
    by_cases runs : RunsOn tag.attributes ∧ tag.ending = []
    · obtain ⟨⟨front,last,split,unquoted⟩,ends⟩ := runs
      refine abutting_known formed tight split unquoted ends fun name sought same => ?_
      subst same
      exact absurd ⟨ends,front,last,split,unquoted,sought⟩ apart
    · exact scanned_same fun name sought => found_tight formed tight (not_and.mp runs) sought

-- Nothing is found where nothing is declared.
theorem scanned_harmless (formed : tag.WellFormed) (harmless : tag.Harmless)
    (refused : ∀ href, Unfetchable href → resolve (unescapeHref href) = none) : tag.scanned resolve = tag.icon resolve := by
  obtain ⟨declares,tight | ⟨first,given,later,split,tight,loose,leads⟩⟩ := harmless
  · by_cases abuts : tag.Abuts
    · have ⟨ends,front,last,split,unquoted,sought⟩ := abuts
      cases first : valueOf front (lowercase last.name) with
      | some value =>
        refine abutting_known formed tight split unquoted ends fun name _ same => ?_
        rw [← same,first]
        rfl
      | none =>
        rw [icon_none declares refused]
        rcases sought with rel | href
        · exact abutting_rel formed tight split unquoted ends rel (rel ▸ first)
        · obtain ⟨read,target⟩ := @abutting_href resolve _ _ _ formed tight split unquoted ends href (href ▸ first)
          have fits := (formed.attributes last (by simp [split])).value.unquoted unquoted
          rw [read]
          cases related : valueOf tag.attributes "rel".toList with
          | none => rfl
          | some rel =>
            rw [Option.bind_some]
            split
            · rename_i icon
              apply refused
              apply unfetchable_append fits.1
              by_contra fetchable
              exact declares ⟨rel,_,related,icon,target,fetchable⟩
            · rfl
    · exact scanned_clear formed ⟨tag.attributes,[],(List.append_nil _).symm,tight,.inr ⟨rfl,abuts⟩⟩
  · rw [scanned_loose formed split tight loose leads refused,icon_none declares refused]

theorem first_loose {attributes : List LinkAttribute} (loose : ¬∀ given ∈ attributes, given.tight) :
    ∃ first given later, attributes = first ++ given :: later ∧ (∀ earlier ∈ first, earlier.tight) ∧ ¬given.tight := by
  induction attributes with
  | nil => exact absurd (fun given inside => nomatch inside) loose
  | cons given rest ih =>
    by_cases tight : given.tight
    · obtain ⟨first,other,later,rfl,before,here⟩ := ih fun all => loose (List.forall_mem_cons.mpr ⟨tight,all⟩)
      exact ⟨given :: first,other,later,rfl,List.forall_mem_cons.mpr ⟨tight,before⟩,here⟩
    · exact ⟨[],given,rest,rfl,(fun earlier inside => nomatch inside),tight⟩

-- What is found of a declared icon, where targets stand for themselves.
theorem clear_of_scanned (formed : tag.WellFormed) (plain : tag.Plain) (declares : tag.Declares)
    (refused : ∀ href, Unfetchable href → resolve (unescapeHref href) = none)
    (resolves : ∀ href, ¬Unfetchable href → resolve (unescapeHref href) = some (unescapeHref href))
    (same : tag.scanned resolve = tag.icon resolve) : tag.Clear := by
  have ⟨rel,href,related,icon,targeted,fetchable⟩ := declares
  have given : tag.scanned resolve = some (unescapeHref href) := by
    rw [same,icon_target related icon targeted,resolves href fetchable]
  by_cases tight : ∀ given ∈ tag.attributes, given.tight
  · by_cases abuts : tag.Abuts
    · obtain ⟨ends,front,last,split,unquoted,sought⟩ := abuts
      cases first : valueOf front (lowercase last.name) with
      | some value =>
        have known (name) : valueOf tag.attributes name = valueOf front name := by
          rw [split,valueOf_append,valueOf_one]
          exact or_known fun same => by rw [← same,first]; rfl
        rw [known] at related targeted
        rw [split] at tight
        exact ⟨front,[last],split,fun given inside => tight given (List.mem_append_left _ inside),
          .inl ⟨List.cons_ne_nil _ _,rel,related,fun _ => by rw [targeted]; rfl⟩⟩
      | none =>
        rcases sought with named | named
        · rw [abutting_rel formed tight split unquoted ends named (named ▸ first)] at given
          cases given
        · obtain ⟨read,target⟩ := @abutting_href resolve _ _ _ formed tight split unquoted ends named (named ▸ first)
          have fits := (formed.attributes last (by simp [split])).value.unquoted unquoted
          rw [targeted] at target
          cases target
          rw [read,related,Option.bind_some,if_pos icon] at given
          by_cases lost : Unfetchable (last.value ++ [ '>'])
          · rw [refused _ lost] at given
            cases given
          · rw [resolves _ lost] at given
            have grown := (unescape_append fits.1).1
            rw [Option.some.inj given] at grown
            exact absurd grown (by simp)
    · exact ⟨tag.attributes,[],(List.append_nil _).symm,tight,.inr ⟨rfl,abuts⟩⟩
  · obtain ⟨first,other,later,split,before,loose⟩ := first_loose tight
    rw [scanned_loose formed split before loose (plain first other later split loose) refused] at given
    cases given

theorem harmless_of_plain (plain : tag.Plain) (declares : ¬tag.Declares) : tag.Harmless := by
  refine ⟨declares,?_⟩
  by_cases tight : ∀ given ∈ tag.attributes, given.tight
  · exact .inl tight
  · obtain ⟨first,given,later,split,before,loose⟩ := first_loose tight
    exact .inr ⟨first,given,later,split,before,loose,plain first given later split loose⟩

theorem scanned_readable (formed : tag.WellFormed) (readable : tag.Readable)
    (refused : ∀ href, Unfetchable href → resolve (unescapeHref href) = none) : tag.scanned resolve = tag.icon resolve := by
  rcases readable with clear | harmless
  · exact scanned_clear formed clear
  · exact scanned_harmless formed harmless refused

end tags
section pages
variable {page : Page} {library : UrlLibrary} {toText : Url → String} {base : Url} {max : Nat}

theorem eraseDups_nodup (links : List String) : links.eraseDups.Nodup := by
  induction size : links.length using Nat.strongRecOn generalizing links with
  | ind n ih =>
    cases links with
    | nil => exact List.nodup_nil
    | cons link rest =>
      have short : (rest.filter fun other => !other == link).length < n := by
        have kept := List.length_filter_le (fun other => !other == link) rest
        rw [List.length_cons] at size
        omega
      rw [List.eraseDups_cons]
      refine List.nodup_cons.mpr ⟨fun inside => ?_,ih _ short _ rfl⟩
      have passed := (List.mem_filter.mp (List.mem_eraseDups.mp inside)).2
      simp at passed

theorem eraseDups_distinct {links : List String} (distinct : links.Nodup) : links.eraseDups = links := by
  induction links with
  | nil => rfl
  | cons link rest ih =>
    obtain ⟨apart,later⟩ := List.nodup_cons.mp distinct
    have kept : (rest.filter fun other => !other == link) = rest := by
      apply List.filter_eq_self.mpr
      intro other inside
      simpa using fun same : other = link => apart (same ▸ inside)
    rw [List.eraseDups_cons,kept,ih later]

-- A list is as long as before where nothing is erased from it.
theorem eraseDups_length (links : List String) :
    links.eraseDups.length ≤ links.length ∧ (links.length ≤ links.eraseDups.length → links.eraseDups = links) := by
  have fits : links.eraseDups ⊆ links := fun _ inside => List.mem_eraseDups.mp inside
  have less := List.subperm_of_subset (eraseDups_nodup links) fits
  refine ⟨less.length_le,fun whole => ?_⟩
  have same := less.perm_of_length_le whole
  exact eraseDups_distinct (same.nodup_iff.mp (eraseDups_nodup links))

section filterMaps
variable {A : Type} {f g : A → Option String} {items : List A}

theorem filterMap_fewer (within : ∀ item ∈ items, g item = none → f item = none) :
    (items.filterMap f).length ≤ (items.filterMap g).length := by
  induction items with
  | nil => exact Nat.le_refl _
  | cons item rest ih =>
    obtain ⟨here,later⟩ := List.forall_mem_cons.mp within
    have fewer := ih later
    cases other : g item with
    | none => rwa [List.filterMap_cons_none (here other),List.filterMap_cons_none other]
    | some found =>
      rw [List.filterMap_cons_some other,List.length_cons]
      cases own : f item with
      | none =>
        rw [List.filterMap_cons_none own]
        exact Nat.le_succ_of_le fewer
      | some found =>
        rw [List.filterMap_cons_some own,List.length_cons]
        exact Nat.succ_le_succ fewer

theorem filterMap_each (within : ∀ item ∈ items, g item = none → f item = none) (same : items.filterMap f = items.filterMap g) :
    ∀ item ∈ items, f item = g item := by
  induction items with
  | nil => exact fun item inside => nomatch inside
  | cons item rest ih =>
    obtain ⟨here,later⟩ := List.forall_mem_cons.mp within
    have fewer := filterMap_fewer later
    have head : f item = g item := by
      cases other : g item with
      | none => exact here other
      | some found => cases own : f item with
        | none =>
          rw [List.filterMap_cons_none own,List.filterMap_cons_some other] at same
          rw [same,List.length_cons] at fewer
          omega
        | some target =>
          rw [List.filterMap_cons_some own,List.filterMap_cons_some other] at same
          rw [(List.cons.inj same).1]
    refine List.forall_mem_cons.mpr ⟨head,ih later ?_⟩
    rw [List.filterMap_cons,List.filterMap_cons,head] at same
    cases other : g item with
    | none => simpa [other] using same
    | some found => simpa [other] using same

end filterMaps

theorem iconLinks_page (formed : page.WellFormed) : iconLinks library toText (String.ofList page.written) base max =
    some ((page.links.filterMap fun link => link.1.scanned fun href => resolveIconHref library toText href base).eraseDups.take max) := by
  rw [iconLinks_letters,String.toList_ofList,declared,linkTags_page formed,List.filterMap_map]
  rfl

-- Targets that stand for themselves.
def verbatim : UrlLibrary := ⟨fun _ => none,fun _ href => some ⟨"http","",none,some (.domain ""),none,href,none⟩⟩

theorem resolve_verbatim : (fun href => resolveIconHref verbatim Url.path href base) = fetchable := by
  funext href
  rw [resolve_fetchable]
  cases fetchable href with
  | none => rfl
  | some href => rfl

def Page.targets (page : Page) : List String := page.links.filterMap fun link => link.1.icon fetchable

theorem readable_of_scanned (formed : page.WellFormed) (plain : ∀ link ∈ page.links, link.1.Plain)
    (same : ∀ link ∈ page.links, link.1.scanned fetchable = link.1.icon fetchable) : ∀ link ∈ page.links, link.1.Readable := by
  intro link inside
  have here := formed.tags link inside
  have agrees := same link inside
  by_cases declares : link.1.Declares
  · exact .inl (clear_of_scanned here (plain link inside) declares (fun _ => fetchable_none) (fun _ => fetchable_some) agrees)
  · exact .inr (harmless_of_plain (plain link inside) declares)

-- No icon is found where none is declared.
theorem scanned_within (formed : page.WellFormed) (plain : ∀ link ∈ page.links, link.1.Plain) :
    ∀ link ∈ page.links, link.1.icon fetchable = none → link.1.scanned fetchable = none := by
  intro link inside missing
  have declares : ¬link.1.Declares := by
    intro ⟨rel,href,related,icon,targeted,fits⟩
    rw [icon_target related icon targeted,fetchable_some fits] at missing
    cases missing
  rw [scanned_harmless (formed.tags link inside) (harmless_of_plain (plain link inside) declares) fun _ => fetchable_none,missing]

-- Targets of their own are found where each tag's is.
theorem scanned_of_agrees (formed : page.WellFormed) (plain : ∀ link ∈ page.links, link.1.Plain) (distinct : page.targets.Nodup)
    (agrees : iconLinks verbatim Url.path (String.ofList page.written) base page.links.length =
      some (page.icons (fun href => resolveIconHref verbatim Url.path href base) page.links.length)) :
    ∀ link ∈ page.links, link.1.scanned fetchable = link.1.icon fetchable := by
  have within := scanned_within formed plain
  have fewer := filterMap_fewer within
  rw [iconLinks_page formed,Page.icons,resolve_verbatim] at agrees
  obtain ⟨found,scanned⟩ : ∃ found, page.links.filterMap (fun link => link.1.scanned fetchable) = found := ⟨_,rfl⟩
  have shorter := eraseDups_length found
  have most : page.targets.length ≤ page.links.length := List.length_filterMap_le _ _
  have whole : page.targets.eraseDups = page.targets := eraseDups_distinct distinct
  unfold Page.targets at most whole
  rw [scanned] at agrees fewer
  rw [whole,List.take_of_length_le most,List.take_of_length_le (shorter.1.trans (fewer.trans most))] at agrees
  have equal := Option.some.inj agrees
  have kept := shorter.2 (by rw [equal]; exact fewer)
  rw [kept,← scanned] at equal
  exact filterMap_each within equal

theorem iconLinks_readable (formed : page.WellFormed) (readable : ∀ link ∈ page.links, link.1.Readable) :
    iconLinks library toText (String.ofList page.written) base max =
      some (page.icons (fun href => resolveIconHref library toText href base) max) := by
  have same : (page.links.filterMap fun link => link.1.scanned fun href => resolveIconHref library toText href base) =
      page.links.filterMap fun link => link.1.icon fun href => resolveIconHref library toText href base :=
    List.filterMap_congr fun link inside => scanned_readable (formed.tags link inside) (readable link inside) fun _ => resolve_unfetchable
  rw [iconLinks_page formed,same]
  rfl

theorem iconLinks_bounded (html : String) : ∃ links, iconLinks library toText html base max = some links ∧ links.Nodup ∧
    links.length ≤ max :=
  ⟨_,iconLinks_letters library toText html base max,(eraseDups_nodup _).sublist (List.take_sublist _ _),List.length_take_le _ _⟩

end pages

-- Scanning ends on every text. It finds the icons of a page whose tags are readable,
-- and of a page of plain tags with targets of their own only then.
theorem icon_links_found (page : Page) (formed : page.WellFormed) :
    (∀ library toText html base max, ∃ links, iconLinks library toText html base max = some links ∧
      links.Nodup ∧ links.length ≤ max) ∧
    ((∀ link ∈ page.links, link.1.Readable) → ∀ library toText base max, iconLinks library toText (String.ofList page.written) base max =
      some (page.icons (fun href => resolveIconHref library toText href base) max)) ∧
    ((∀ link ∈ page.links, link.1.Plain) → page.targets.Nodup →
      ((∀ library toText base max, iconLinks library toText (String.ofList page.written) base max =
        some (page.icons (fun href => resolveIconHref library toText href base) max)) ↔ ∀ link ∈ page.links, link.1.Readable)) := by
  refine ⟨fun _ _ html _ _ => iconLinks_bounded html,fun readable _ _ _ _ => iconLinks_readable formed readable,fun plain distinct => ?_⟩
  constructor
  · intro agrees
    have agreed := agrees verbatim Url.path ⟨"http","",none,none,none,"",none⟩ page.links.length
    exact readable_of_scanned formed plain (scanned_of_agrees formed plain distinct agreed)
  · intro readable _ _ _ _
    exact iconLinks_readable formed readable

section homepages

def homepage : Url := ⟨"https","",none,some (.domain "radio.example"),none,"/en/index.html",none⟩
def rootLibrary : UrlLibrary := ⟨fun _ => none,fun base href => some {base with path := href}⟩
def siteText (url : Url) : String := "https://radio.example" ++ url.path

def quotedAttribute (name value : String) : LinkAttribute := ⟨[ ' '],name.toList,[],[],.double,value.toList⟩
def unquotedRel : LinkAttribute := ⟨[ ' '],"rel".toList,[],[],.unquoted,"icon".toList⟩
def spacedRel : LinkAttribute := ⟨[ ' '],"rel".toList,[ ' '],[ ' '],.double,"icon".toList⟩
def tagOf (attributes : List LinkAttribute) : LinkTag := ⟨"LINK".toList,attributes,[],false⟩
def pageOf (attributes : List LinkAttribute) : Page := ⟨"home".toList,[(tagOf attributes,"page".toList)]⟩

theorem spaced_one : spaces [ ' '] := by
  intro c inside
  cases List.mem_singleton.mp inside
  rfl

theorem listed {p : Char → Prop} [DecidablePred p] {letters : List Char} (holds : letters.all (fun c => decide (p c)) = true) :
    ∀ c ∈ letters, p c := fun c inside => of_decide_eq_true (List.all_eq_true.mp holds c inside)

theorem rel_letters : "rel".toList ≠ [] ∧ ∀ c ∈ "rel".toList, asciiSpace c = false ∧ isQuote c = false ∧ c ≠ '=' ∧ c ≠ '/' ∧ c ≠ '>' ∧
    c ≠ '<' :=
  ⟨by decide,listed (by decide)⟩

theorem quoted_formed {name value : String} (letters : name.toList ≠ [] ∧ ∀ c ∈ name.toList, asciiSpace c = false ∧
      isQuote c = false ∧ c ≠ '=' ∧ c ≠ '/' ∧ c ≠ '>' ∧ c ≠ '<') (inside : '>' ∉ value.toList ∧ '"' ∉ value.toList) :
    (quotedAttribute name value).WellFormed :=
  ⟨⟨List.cons_ne_nil _ _,spaced_one⟩,letters,⟨(fun _ none_ => nomatch none_),fun _ none_ => nomatch none_⟩,
    ⟨inside.1,fun _ => inside.2,(fun other => nomatch other),fun other => nomatch other⟩⟩

theorem unquoted_formed : unquotedRel.WellFormed :=
  ⟨⟨List.cons_ne_nil _ _,spaced_one⟩,rel_letters,⟨(fun _ none_ => nomatch none_),fun _ none_ => nomatch none_⟩,
    ⟨by decide,(fun other => nomatch other),(fun other => nomatch other),fun _ => ⟨by decide,listed (by decide)⟩⟩⟩

theorem spaced_formed : spacedRel.WellFormed :=
  ⟨⟨List.cons_ne_nil _ _,spaced_one⟩,rel_letters,⟨spaced_one,spaced_one⟩,
    ⟨by decide,fun _ => by decide,(fun other => nomatch other),fun other => nomatch other⟩⟩

theorem pageOf_formed {attributes : List LinkAttribute} (formed : ∀ given ∈ attributes, given.WellFormed) :
    (pageOf attributes).WellFormed := by
  refine ⟨(by decide : '<' ∉ "home".toList),fun link inside => ?_,fun link inside => ?_⟩
  all_goals cases List.mem_singleton.mp inside
  · exact ⟨(by decide : lowercase "LINK".toList = "link".toList),formed,(fun _ none_ => nomatch none_),fun closes => nomatch closes⟩
  · exact (by decide : '<' ∉ "page".toList)

def target : LinkAttribute := quotedAttribute "href" "/a.png"

theorem target_formed : target.WellFormed := quoted_formed ⟨by decide,listed (by decide)⟩ (by decide)

theorem abutting_formed : (pageOf [target,unquotedRel]).WellFormed :=
  pageOf_formed (List.forall_mem_cons.mpr ⟨target_formed,List.forall_mem_cons.mpr ⟨unquoted_formed,fun _ none_ => nomatch none_⟩⟩)

set_option maxRecDepth 4000 in
-- Neither an unquoted rel before the end of its tag nor one with spaces around its
-- equals sign is read.
theorem rel_unread : (pageOf [target,unquotedRel]).WellFormed ∧ (pageOf [spacedRel,target]).WellFormed ∧
    String.ofList (pageOf [target,unquotedRel]).written = "home<LINK href=\"/a.png\" rel=icon>page" ∧
    String.ofList (pageOf [spacedRel,target]).written = "home<LINK rel = \"icon\" href=\"/a.png\">page" ∧
    ∀ attributes ∈ [[target,unquotedRel],[spacedRel,target]],
      iconLinks rootLibrary siteText (String.ofList (pageOf attributes).written) homepage 4 = some [] ∧
      (pageOf attributes).icons (fun href => resolveIconHref rootLibrary siteText href homepage) 4 = ["https://radio.example/a.png"] := by
  refine ⟨abutting_formed,pageOf_formed ?_,by decide,by decide,by decide⟩
  exact List.forall_mem_cons.mpr ⟨spaced_formed,List.forall_mem_cons.mpr ⟨target_formed,fun _ none_ => nomatch none_⟩⟩

theorem shortcut_formed : (quotedAttribute "rel" "shortcut icon").WellFormed := quoted_formed rel_letters (by decide)

theorem shortcut_readable : (tagOf [quotedAttribute "rel" "shortcut icon",target]).Readable := by
  refine .inl ⟨_,[],(List.append_nil _).symm,fun given inside => ?_,.inr ⟨rfl,fun ⟨_,front,last,same,unquoted,_⟩ => ?_⟩⟩
  · rcases List.mem_cons.mp inside with rfl | inside
    · exact ⟨rfl,rfl⟩
    · cases List.mem_singleton.mp inside
      exact ⟨rfl,rfl⟩
  · have ends := congrArg List.getLast? same
    rw [List.getLast?_concat] at ends
    cases ends
    cases unquoted

theorem abutting_plain : (tagOf [target,unquotedRel]).Plain := by
  intro first given later split loose
  have inside : given ∈ [target,unquotedRel] := by
    rw [show [target,unquotedRel] = first ++ given :: later from split]
    simp
  rcases List.mem_cons.mp inside with rfl | inside
  · exact absurd ⟨rfl,rfl⟩ loose
  · cases List.mem_singleton.mp inside
    exact absurd ⟨rfl,rfl⟩ loose

set_option maxRecDepth 4000 in
theorem icon_links_found_shortcut : iconLinks rootLibrary siteText
      (String.ofList (pageOf [quotedAttribute "rel" "shortcut icon",target]).written) homepage 4 = some ["https://radio.example/a.png"] ∧
    ((∀ library toText base max, iconLinks library toText (String.ofList (pageOf [target,unquotedRel]).written) base max =
      some ((pageOf [target,unquotedRel]).icons (fun href => resolveIconHref library toText href base) max)) ↔
        ∀ link ∈ (pageOf [target,unquotedRel]).links, link.1.Readable) := by
  constructor
  · have formed : (pageOf [quotedAttribute "rel" "shortcut icon",target]).WellFormed := pageOf_formed
      (List.forall_mem_cons.mpr ⟨shortcut_formed,List.forall_mem_cons.mpr ⟨target_formed,fun _ none_ => nomatch none_⟩⟩)
    have readable : ∀ link ∈ (pageOf [quotedAttribute "rel" "shortcut icon",target]).links, link.1.Readable := by
      intro link inside
      cases List.mem_singleton.mp inside
      exact shortcut_readable
    exact ((icon_links_found _ formed).2.1 readable rootLibrary siteText homepage 4).trans (by decide)
  · have plain : ∀ link ∈ (pageOf [target,unquotedRel]).links, link.1.Plain := by
      intro link inside
      cases List.mem_singleton.mp inside
      exact abutting_plain
    exact (icon_links_found _ abutting_formed).2.2 plain (by decide)

end homepages
end IconLinks
