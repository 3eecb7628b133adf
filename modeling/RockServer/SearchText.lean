import Mathlib.Data.List.DropRight
import Mathlib.Data.String.Basic
import RockServer.Ascending
import RockServer.CommandRouter

-- The words of a search request.
namespace Search
open Ascending (ascending)
open DeviceControl (isWhitespace)

-- The Unicode tables of the standard library. Lower case letters keep words
-- apart, and in ASCII they are the letters' own.
structure Unicode where
  isAlphanumeric : Char → Bool
  isLowercase : Char → Bool
  isUppercase : Char → Bool
  toLowercase : String → String
  space : isAlphanumeric ' ' = false
  solid : ∀ text : String, ' ' ∉ text.toList → ' ' ∉ (toLowercase text).toList
  ascii : ∀ text : String, (∀ c ∈ text.toList, c.toNat < 128 ∧ ¬ ('A' ≤ c ∧ c ≤ 'Z')) → toLowercase text = text

def trim (text : String) : String :=
  String.ofList (((text.toList.dropWhile isWhitespace).reverse.dropWhile isWhitespace).reverse)

def splitWhitespace (value : String) : List String :=
  ((value.toList.splitOnP isWhitespace).filter fun word => !word.isEmpty).map String.ofList

variable (unicode : Unicode)

-- Whether a word ends before `current`, with `next` after it.
def camelBoundary (before current : Char) (next : Option Char) : Bool :=
  unicode.isLowercase before && unicode.isUppercase current ||
    unicode.isUppercase before && unicode.isUppercase current && next.any unicode.isLowercase

def camelParts (part : List Char) (before : Char) : List Char → List (List Char)
  | [] => [part]
  | current :: rest =>
    if camelBoundary unicode before current rest.head? then part :: camelParts [current] current rest
    else camelParts (part ++ [current]) current rest

def splitCamelCase : List Char → List (List Char)
  | [] => [[]]
  | first :: rest => camelParts unicode [first] first rest

def tokenize (value : String) : List String :=
  (((value.toList.splitOnP fun c => !unicode.isAlphanumeric c).filter fun term => !term.isEmpty).flatMap
    (splitCamelCase unicode)).map fun part => unicode.toLowercase (String.ofList part)

def stopWords : List String := [
  "включи","включить","поставь","поставить","найди","найти","играй","играть","запусти","запустить","переключи",
  "переключить","открой","открыть","покажи","показать","давай","хочу","play","find","search","show","start","open",
  "turn","on","put"]

def removeStopWords (terms : List String) : List String := terms.filter fun term => !stopWords.contains term

def wordTranslit : List (String × String) := [
  ("радио","radio"),("диджей","dj"),("фм","fm"),("рок","rock"),("ультра","ultra"),("джаз","jazz"),("поп","pop"),
  ("хит","hit"),("микс","mix"),("лав","love"),("классик","classic"),("классика","classic"),("блюз","blues"),
  ("кантри","country"),("фанк","funk"),("соул","soul"),("метал","metal"),("металл","metal"),("панк","punk"),
  ("техно","techno"),("транс","trance"),("хаус","house"),("драм","drum"),("бас","bass"),("лайф","life"),
  ("лайв","live"),("стайл","style"),("бест","best"),("топ","top"),("голд","gold"),("сити","city"),("клуб","club"),
  ("чилл","chill"),("чиллаут","chillout"),("энерджи","energy"),("ритм","rhythm"),("саунд","sound"),
  ("мьюзик","music"),("музыка","music"),("релакс","relax"),("дип","deep"),("нью","new"),("олд","old"),
  ("супер","super"),("мега","mega"),("максимум","maximum"),("европа","europa"),("плюс","plus"),("блэк","black"),
  ("дэт","death"),("хэви","heavy"),("хард","hard"),("прогрессив","progressive"),("альтернатив","alternative"),
  ("инди","indie"),("гранж","grunge"),("диско","disco"),("реггей","reggae"),("регги","reggae"),("латин","latin"),
  ("эмбиент","ambient"),("амбиент","ambient"),("даунтемпо","downtempo"),("трип","trip"),("хоп","hop"),("хип","hip"),
  ("рэп","rap"),("электро","electro"),("синт","synth"),("вейв","wave"),("лаунж","lounge"),("госпел","gospel"),
  ("фолк","folk"),("кавер","cover"),("акустик","acoustic"),("акустика","acoustic"),("пауэр","power"),
  ("треш","thrash"),("спид","speed"),("дум","doom"),("нойз","noise"),("пост","post"),("кор","core"),
  ("скрим","scream"),("свинг","swing"),("биг","big"),("бэнд","band"),("стейшн","station"),("станция","station"),
  ("ультра","ultra"),("рокс","roks"),("викер","viker")]

def isCyrillicChar (c : Char) : Bool := ('а' ≤ c && c ≤ 'я') || c == 'ё'
def isCyrillicToken (term : String) : Bool := term.toList.any isCyrillicChar
def isLatinToken (term : String) : Bool := term.toList.any fun c => ('a' ≤ c && c ≤ 'z') || ('A' ≤ c && c ≤ 'Z')

def ruToLat : Char → String
  | 'а' => "a" | 'б' => "b" | 'в' => "v" | 'г' => "g" | 'д' => "d" | 'е' => "e" | 'ё' => "yo" | 'ж' => "zh"
  | 'з' => "z" | 'и' => "i" | 'й' => "y" | 'к' => "k" | 'л' => "l" | 'м' => "m" | 'н' => "n" | 'о' => "o"
  | 'п' => "p" | 'р' => "r" | 'с' => "s" | 'т' => "t" | 'у' => "u" | 'ф' => "f" | 'х' => "kh" | 'ц' => "ts"
  | 'ч' => "ch" | 'ш' => "sh" | 'щ' => "shch" | 'ъ' | 'ь' => "" | 'ы' => "y" | 'э' => "e" | 'ю' => "yu"
  | 'я' => "ya" | c => String.ofList [c]

def transliterateRuToLat (term : String) : String := String.join (term.toList.map ruToLat)

def latToRu : Char → List Char
  | 'a' => ['а'] | 'b' => ['б'] | 'v' => ['в'] | 'g' => ['г'] | 'd' => ['д'] | 'e' => ['е'] | 'z' => ['з'] | 'i' => ['и']
  | 'j' => ['й'] | 'y' => ['й'] | 'k' => ['к'] | 'l' => ['л'] | 'm' => ['м'] | 'n' => ['н'] | 'o' => ['о'] | 'p' => ['п']
  | 'r' => ['р'] | 's' => ['с'] | 't' => ['т'] | 'u' => ['у'] | 'f' => ['ф'] | 'h' => ['х'] | 'c' => ['к'] | 'q' => ['к']
  | 'w' => ['в'] | 'x' => ['к','с'] | c => [c]

-- The loop goes on by bytes. In a letter of several bytes it slices the text where
-- no letter begins, and that panics.
def latToRuFrom : List Char → Option (List Char)
  | [] => some []
  | 's' :: 'h' :: 'c' :: 'h' :: rest => (latToRuFrom rest).map ('щ' :: ·)
  | 'y' :: 'o' :: rest => (latToRuFrom rest).map ('ё' :: ·)
  | 'z' :: 'h' :: rest => (latToRuFrom rest).map ('ж' :: ·)
  | 'k' :: 'h' :: rest => (latToRuFrom rest).map ('х' :: ·)
  | 't' :: 's' :: rest => (latToRuFrom rest).map ('ц' :: ·)
  | 'c' :: 'h' :: rest => (latToRuFrom rest).map ('ч' :: ·)
  | 's' :: 'h' :: rest => (latToRuFrom rest).map ('ш' :: ·)
  | 'y' :: 'u' :: rest => (latToRuFrom rest).map ('ю' :: ·)
  | 'y' :: 'a' :: rest => (latToRuFrom rest).map ('я' :: ·)
  | 'y' :: 'e' :: rest => (latToRuFrom rest).map ('е' :: ·)
  | c :: rest => if c.toNat < 128 then (latToRuFrom rest).map (latToRu c ++ ·) else none

def transliterateLatToRu (term : String) : Option String :=
  (latToRuFrom (unicode.toLowercase term).toList).map String.ofList

-- The other forms of one term, known words first.
def transliterations (term : String) : Option (List String) :=
  let known := wordTranslit.filterMap fun (cyrillic,latin) =>
    if term = cyrillic then some latin else if term = latin then some cyrillic else none
  if isCyrillicToken term then some (known ++ [transliterateRuToLat term])
  else if isLatinToken term then (transliterateLatToRu unicode term).map (known ++ [·])
  else some known

def expandTransliterations (terms : List String) : Option (List String) :=
  ((ascending terms).mapM (transliterations unicode)).map fun forms => ascending (terms ++ forms.flatten)

-- What is left of a text between its spaces.
section trim
variable {text : String}

theorem trim_list (text : String) : (trim text).toList = (text.toList.dropWhile isWhitespace).rdropWhile isWhitespace := by
  rw [trim,String.toList_ofList]
  rfl

theorem trim_again (text : String) : trim (trim text) = trim text := by
  have front : (trim text).toList.dropWhile isWhitespace = (trim text).toList := by
    rw [List.dropWhile_eq_self_iff]
    intro some_
    obtain ⟨rest,whole⟩ := List.rdropWhile_prefix isWhitespace (text.toList.dropWhile isWhitespace)
    rw [← trim_list] at whole
    have inside : 0 < (text.toList.dropWhile isWhitespace).length := by
      rw [← whole,List.length_append]
      omega
    have first := List.dropWhile_get_zero_not isWhitespace text.toList inside
    simpa [← whole,List.getElem_append_left some_] using first
  have back : (trim text).toList.rdropWhile isWhitespace = (trim text).toList := by
    rw [trim_list]
    exact List.rdropWhile_idempotent _ _
  refine String.toList_inj.mp ?_
  rw [trim_list (trim text),front,back]

theorem trim_solid (solid : ∀ c ∈ text.toList, isWhitespace c = false) : trim text = text := by
  have front : text.toList.dropWhile isWhitespace = text.toList := by
    rw [List.dropWhile_eq_self_iff]
    intro some_
    simp [solid _ (List.getElem_mem some_)]
  have back : text.toList.rdropWhile isWhitespace = text.toList := by
    rw [List.rdropWhile_eq_self_iff]
    intro some_
    simp [solid _ (List.getLast_mem some_)]
  refine String.toList_inj.mp ?_
  rw [trim_list,front,back]

theorem trim_map {form : Char → Char} (same : ∀ c, isWhitespace (form c) = isWhitespace c) (text : String) :
    trim (String.ofList (text.toList.map form)) = String.ofList ((trim text).toList.map form) := by
  have spaces : isWhitespace ∘ form = isWhitespace := funext same
  simp only [trim,String.toList_ofList,List.dropWhile_map,spaces,← List.map_reverse]

end trim

-- A letter takes from one byte to four.
theorem bytes_cons (c : Char) (rest : List Char) :
    (String.ofList (c :: rest)).utf8ByteSize = c.utf8Size + (String.ofList rest).utf8ByteSize := by
  rw [← List.singleton_append,String.ofList_append,String.utf8ByteSize_append]
  exact congrArg (· + _) String.utf8ByteSize_singleton

theorem bytes_bounds (text : String) : text.length ≤ text.utf8ByteSize ∧ text.utf8ByteSize ≤ 4 * text.length := by
  have letters : ∀ letters : List Char,
      letters.length ≤ (String.ofList letters).utf8ByteSize ∧ (String.ofList letters).utf8ByteSize ≤ 4 * letters.length := by
    intro letters
    induction letters with
    | nil => simp
    | cons c rest ih =>
      have one := Char.utf8Size_pos c
      have four := Char.utf8Size_le_four c
      rw [bytes_cons,List.length_cons]
      omega
  have whole := letters text.toList
  rwa [String.ofList_toList,String.length_toList] at whole

-- The tables for the letters of English and Russian alone.
namespace Letters

def isSmall (c : Char) : Bool := ('a' ≤ c && c ≤ 'z') || isCyrillicChar c
def isCapital (c : Char) : Bool := ('A' ≤ c && c ≤ 'Z') || ('А' ≤ c && c ≤ 'Я') || c == 'Ё'

def small (c : Char) : Char :=
  if isCapital c then (if c == 'Ё' then 'ё' else Char.ofNat (c.toNat + 32)) else c

theorem ofNat_space {n : Nat} (same : Char.ofNat n = ' ') : n = 32 := by
  by_cases valid : n.isValidChar
  · have whole : Char.ofNat n = Char.ofNatAux n valid := dif_pos valid
    exact congrArg Char.toNat (whole.symm.trans same)
  · have whole : Char.ofNat n = Char.ofNat 0 := dif_neg valid
    exact absurd (congrArg Char.toNat (whole.symm.trans same)) (by decide)

theorem small_space {c : Char} (same : small c = ' ') : c = ' ' := by
  unfold small at same
  split at same
  · rename_i capital
    split at same
    · exact absurd same (by decide)
    · have zero : c.toNat = 0 := by simpa using ofNat_space same
      have first : c = Char.ofNat 0 := by rw [← zero,Char.ofNat_toNat]
      subst first
      exact absurd capital (by decide)
  · exact same

theorem small_ascii {c : Char} (ascii : c.toNat < 128) (other : ¬ ('A' ≤ c ∧ c ≤ 'Z')) : small c = c := by
  have plain : isCapital c = false := by
    have below : ¬ ('А' ≤ c) := fun high => absurd (Nat.lt_of_le_of_lt high ascii) (by decide)
    have apart : c ≠ 'Ё' := by
      rintro rfl
      exact absurd ascii (by decide)
    have letter : ('A' ≤ c && c ≤ 'Z') = false := by simpa only [← Bool.decide_and,decide_eq_false_iff_not] using other
    simp [isCapital,below,apart,letter]
  simp [small,plain]

-- The capitals but one, by number.
def capitals : List Nat := List.range' 65 26 ++ List.range' 1040 32

theorem small_cases (c : Char) :
    small c = c ∨ c = 'Ё' ∧ small c = 'ё' ∨ c.toNat ∈ capitals ∧ small c = Char.ofNat (c.toNat + 32) := by
  cases capital : isCapital c with
  | false => exact .inl (by simp [small,capital])
  | true =>
    right
    by_cases yo : c = 'Ё'
    · subst yo
      exact .inl ⟨rfl,by decide⟩
    · refine .inr ⟨?_,by simp [small,capital,yo]⟩
      simp only [isCapital,Bool.or_eq_true,Bool.and_eq_true,decide_eq_true_eq,beq_iff_eq,yo,or_false] at capital
      rw [capitals,List.mem_append,List.mem_range'_1,List.mem_range'_1]
      refine capital.imp (fun ⟨low,high⟩ => ?_) fun ⟨low,high⟩ => ?_
      · have low : 65 ≤ c.toNat := low
        have high : c.toNat ≤ 90 := high
        omega
      · have low : 1040 ≤ c.toNat := low
        have high : c.toNat ≤ 1071 := high
        omega

theorem small_small (c : Char) : small (small c) = small c := by
  have raised : ∀ n ∈ capitals, isCapital (Char.ofNat (n + 32)) = false := by decide
  rcases small_cases c with same | ⟨_,yo⟩ | ⟨listed,same⟩
  · rw [same,same]
  · rw [yo]
    decide
  · rw [same]
    simp [small,raised _ listed]

-- Only spaces become spaces.
theorem small_white (c : Char) : isWhitespace (small c) = isWhitespace c := by
  have apart : ∀ n ∈ capitals, isWhitespace (Char.ofNat (n + 32)) = isWhitespace (Char.ofNat n) := by decide
  rcases small_cases c with same | ⟨rfl,yo⟩ | ⟨listed,same⟩
  · rw [same]
  · rw [yo]
    decide
  · rw [same,apart _ listed,Char.ofNat_toNat]

def englishRussian : Unicode where
  isAlphanumeric c := isSmall c || isCapital c || ('0' ≤ c && c ≤ '9')
  isLowercase := isSmall
  isUppercase := isCapital
  toLowercase text := String.ofList (text.toList.map small)
  space := by decide
  solid := by
    intro text absent
    rw [String.toList_ofList,List.mem_map]
    rintro ⟨c,member,same⟩
    exact absent (small_space same ▸ member)
  ascii := by
    intro text plain
    have same : text.toList.map small = text.toList :=
      List.map_congr_left (fun c member => small_ascii (plain c member).1 (plain c member).2) |>.trans (List.map_id _)
    rw [same,String.ofList_toList]

end Letters

example : tokenize Letters.englishRussian "РадиоDJ 101.ru" = ["радио","dj","101","ru"] := by decide

end Search
