import RockServer.RadioBrowser

-- Search requests: what a text and its locale are interpreted as.
namespace Search
open Ascending (ascending)
open RadioBrowser (toAsciiUppercase)
open StreamUri (toAsciiLowercase)

inductive SearchAction where
  | play
  | show
deriving DecidableEq

structure QueryParserInput where
  query : String
  locale : String

structure QueryIntent where
  action : SearchAction
  terms : List String
  tags : List String
  language : Option String
  countryCode : Option String
  coreTermCount : Nat
  rawQuery : String
deriving DecidableEq

structure SearchQuery where
  action : SearchAction
  original : String
  locale : String
  terms : List String
  tags : List String
  language : Option String
  countryCode : Option String
  coreTermCount : Nat
  rawQuery : String
  preferStationName : Bool
  stationNameHintQueries : List String
deriving DecidableEq

inductive QueryParserError where
  | safe (summary : String)
deriving DecidableEq

def canonicalVocabulary : List String := [
  "acid jazz","alternative rock","ambient","black metal","blues","calm","classic rock","classical","country",
  "dance","death metal","doom metal","electronic","folk","funk","hard rock","hardcore","heavy metal","hip hop",
  "indie rock","instrumental","jazz","latin","latin jazz","metal","news","pop","pop rock","power metal",
  "progressive rock","psychedelic rock","punk","reggae","rock","russian folk","smooth jazz","soft rock","soul",
  "symphonic metal","talk","thrash metal","upbeat","world music"]

def countryAliases : List (String × List String) := [
  ("AF",["afghanistan","афганистан","афганский","afghan"]),("AL",["albania","албания","албанский","albanian"]),
  ("DZ",["algeria","алжир","алжирский","algerian"]),("AD",["andorra","андорра","andorran"]),
  ("AO",["angola","ангола","angolan"]),("AG",["antigua and barbuda","антигуа и барбуда"]),
  ("AR",["argentina","аргентина","аргентинский","argentinian"]),("AM",["armenia","армения","армянский","armenian"]),
  ("AU",["australia","австралия","австралийский","australian"]),
  ("AT",["austria","австрия","австрийский","austrian"]),("AZ",["azerbaijan","азербайджан","азербайджанский"]),
  ("BS",["bahamas","багамы","bahamian"]),("BH",["bahrain","бахрейн","bahraini"]),
  ("BD",["bangladesh","бангладеш","bangladeshi"]),("BB",["barbados","барбадос","barbadian"]),
  ("BY",["belarus","беларусь","белоруссия","белорусский","belarusian"]),
  ("BE",["belgium","бельгия","бельгийский","belgian"]),("BZ",["belize","белиз","belizean"]),
  ("BJ",["benin","бенин","beninese"]),("BT",["bhutan","бутан","bhutanese"]),("BO",["bolivia","боливия","bolivian"]),
  ("BA",["bosnia and herzegovina","босния и герцеговина","bosnian"]),("BW",["botswana","ботсвана","botswanan"]),
  ("BR",["brazil","бразилия","бразильский","brazilian"]),("BN",["brunei","бруней","bruneian"]),
  ("BG",["bulgaria","болгария","болгарский","bulgarian"]),("BF",["burkina faso","буркина фасо"]),
  ("BI",["burundi","бурунди","burundian"]),("CV",["cabo verde","cape verde","кабо верде"]),
  ("KH",["cambodia","камбоджа","cambodian"]),("CM",["cameroon","камерун","cameroonian"]),
  ("CA",["canada","канада","канадский","canadian"]),
  ("CF",["central african republic","центральноафриканская республика"]),("TD",["chad","чад","chadian"]),
  ("CL",["chile","чили","chilean"]),("CN",["china","китай","китайский","chinese"]),
  ("CO",["colombia","колумбия","colombian"]),("KM",["comoros","коморы","comorian"]),
  ("CG",["republic of congo","республика конго"]),
  ("CD",["democratic republic of congo","демократическая республика конго"]),
  ("CR",["costa rica","коста рика","costa rican"]),("CI",["cote d ivoire","ivory coast","кот д ивуар","ivorian"]),
  ("HR",["croatia","хорватия","croatian"]),("CU",["cuba","куба","cuban"]),("CY",["cyprus","кипр","cypriot"]),
  ("CZ",["czechia","czech republic","чехия","czech"]),("DK",["denmark","дания","данский","danish"]),
  ("DJ",["djibouti","джибути"]),("DM",["dominica","доминика"]),
  ("DO",["dominican republic","доминиканская республика"]),("EC",["ecuador","эквадор","ecuadorian"]),
  ("EG",["egypt","египет","египетский","egyptian"]),("SV",["el salvador","сальвадор","salvadoran"]),
  ("GQ",["equatorial guinea","экваториальная гвинея"]),("ER",["eritrea","эритрея","eritrean"]),
  ("EE",["estonia","эстония","эстонский","estonian"]),("SZ",["eswatini","свазиленд","эсватини"]),
  ("ET",["ethiopia","эфиопия","ethiopian"]),("FJ",["fiji","фиджи","fijian"]),
  ("FI",["finland","финляндия","финский","finnish"]),("FR",["france","франция","французский","french"]),
  ("GA",["gabon","габон","gabonese"]),("GM",["gambia","гамбия","gambian"]),
  ("GE",["georgia","грузия","грузинский","georgian"]),
  ("DE",["germany","германия","немецкий","немецкая","немецкое","немецкие","german"]),
  ("GH",["ghana","гана","ghanaian"]),("GR",["greece","греция","греческий","greek"]),("GD",["grenada","гренада"]),
  ("GT",["guatemala","гватемала"]),("GN",["guinea","гвинея"]),("GW",["guinea bissau","гвинея бисау"]),
  ("GY",["guyana","гайана"]),("HT",["haiti","гаити","haitian"]),("VA",["holy see","vatican","ватикан"]),
  ("HN",["honduras","гондурас","honduran"]),("HU",["hungary","венгрия","венгерский","hungarian"]),
  ("IS",["iceland","исландия","icelandic"]),("IN",["india","индия","индийский","indian"]),
  ("ID",["indonesia","индонезия","indonesian"]),("IR",["iran","иран","iranian"]),("IQ",["iraq","ирак","iraqi"]),
  ("IE",["ireland","ирландия","irish"]),("IL",["israel","израиль","israeli"]),
  ("IT",["italy","италия","итальянский","italian"]),("JM",["jamaica","ямайка","jamaican"]),
  ("JP",["japan","япония","японский","japanese"]),("JO",["jordan","иордания","jordanian"]),
  ("KZ",["kazakhstan","казахстан","казахский","kazakh"]),("KE",["kenya","кения","kenyan"]),
  ("KI",["kiribati","кирибати"]),("KP",["north korea","северная корея","северокорейский"]),
  ("KR",["south korea","южная корея","южнокорейский"]),("KW",["kuwait","кувейт","kuwaiti"]),
  ("KG",["kyrgyzstan","киргизия","кыргызстан","kyrgyz"]),("LA",["laos","лаос"]),
  ("LV",["latvia","латвия","latvian"]),("LB",["lebanon","ливан","lebanese"]),("LS",["lesotho","лесото"]),
  ("LR",["liberia","либерия","liberian"]),("LY",["libya","ливия","libyan"]),("LI",["liechtenstein","лихтенштейн"]),
  ("LT",["lithuania","литва","lithuanian"]),("LU",["luxembourg","люксембург"]),
  ("MG",["madagascar","мадагаскар","malagasy"]),("MW",["malawi","малави"]),
  ("MY",["malaysia","малайзия","malaysian"]),("MV",["maldives","мальдивы"]),("ML",["mali","мали"]),
  ("MT",["malta","мальта","maltese"]),("MH",["marshall islands","маршалловы острова"]),
  ("MR",["mauritania","мавритания"]),("MU",["mauritius","маврикий"]),
  ("MX",["mexico","мексика","мексиканский","mexican"]),("FM",["micronesia","микронезия"]),
  ("MD",["moldova","молдова","moldovan"]),("MC",["monaco","монако"]),("MN",["mongolia","монголия","mongolian"]),
  ("ME",["montenegro","черногория"]),("MA",["morocco","марокко","moroccan"]),("MZ",["mozambique","мозамбик"]),
  ("MM",["myanmar","мьянма","бирма","burmese"]),("NA",["namibia","намибия"]),("NR",["nauru","науру"]),
  ("NP",["nepal","непал","nepali"]),("NL",["netherlands","holland","нидерланды","голландия","dutch"]),
  ("NZ",["new zealand","новая зеландия"]),("NI",["nicaragua","никарагуа","nicaraguan"]),
  ("NE",["niger","нигер","nigerien"]),("NG",["nigeria","нигерия","nigerian"]),
  ("MK",["north macedonia","северная македония","macedonian"]),
  ("NO",["norway","норвегия","норвежский","norwegian"]),("OM",["oman","оман","omani"]),
  ("PK",["pakistan","пакистан","pakistani"]),("PW",["palau","палау"]),
  ("PS",["palestine","палестина","palestinian"]),("PA",["panama","панама","panamanian"]),
  ("PG",["papua new guinea","папуа новая гвинея"]),("PY",["paraguay","парагвай","paraguayan"]),
  ("PE",["peru","перу","peruvian"]),("PH",["philippines","филиппины","filipino"]),
  ("PL",["poland","польша","польский","polish"]),("PT",["portugal","португалия","португальский","portuguese"]),
  ("QA",["qatar","катар","qatari"]),("RO",["romania","румыния","румынский","romanian"]),
  ("RU",["russia","россия","россии","российский","российская","русский","russian"]),
  ("RW",["rwanda","руанда","rwandan"]),("KN",["saint kitts and nevis","сент китс и невис"]),
  ("LC",["saint lucia","сент люсия"]),("VC",["saint vincent and the grenadines","сент винсент и гренадины"]),
  ("WS",["samoa","самоа","samoan"]),("SM",["san marino","сан марино"]),
  ("ST",["sao tome and principe","сан томе и принсипи"]),("SA",["saudi arabia","саудовская аравия","saudi"]),
  ("SN",["senegal","сенегал","senegalese"]),("RS",["serbia","сербия","сербский","serbian"]),
  ("SC",["seychelles","сейшелы"]),("SL",["sierra leone","сьерра леоне"]),
  ("SG",["singapore","сингапур","singaporean"]),("SK",["slovakia","словакия","slovak"]),
  ("SI",["slovenia","словения","slovenian"]),("SB",["solomon islands","соломоновы острова"]),
  ("SO",["somalia","сомали","somali"]),("ZA",["south africa","южная африка","южноафриканский","south african"]),
  ("SS",["south sudan","южный судан"]),("ES",["spain","испания","испанский","spanish"]),
  ("LK",["sri lanka","шри ланка"]),("SD",["sudan","судан","sudanese"]),("SR",["suriname","суринам"]),
  ("SE",["sweden","швеция","шведский","swedish"]),("CH",["switzerland","швейцария","швейцарский","swiss"]),
  ("SY",["syria","сирия","syrian"]),("TJ",["tajikistan","таджикистан","tajik"]),
  ("TZ",["tanzania","танзания","tanzanian"]),("TH",["thailand","таиланд","тайланд","тайский","thai"]),
  ("TL",["timor leste","east timor","восточный тимор"]),("TG",["togo","того"]),("TO",["tonga","тонга"]),
  ("TT",["trinidad and tobago","тринидад и тобаго"]),("TN",["tunisia","тунис","tunisian"]),
  ("TR",["turkey","türkiye","турция","турецкий","turkish"]),("TM",["turkmenistan","туркменистан","turkmen"]),
  ("TV",["tuvalu","тувалу"]),("UG",["uganda","уганда","ugandan"]),
  ("UA",["ukraine","украина","украинский","ukrainian"]),
  ("AE",["united arab emirates","объединенные арабские эмираты","эмираты","emirati"]),
  ("GB",["united kingdom","great britain","britain","великобритания","британия","соединенное королевство","англия","британский","british","uk"]),
  ("US",["united states","united states of america","сша","соединенные штаты","америка","американский","american","usa"]),
  ("UY",["uruguay","уругвай","uruguayan"]),("UZ",["uzbekistan","узбекистан","узбекский","uzbek"]),
  ("VU",["vanuatu","вануату"]),("VE",["venezuela","венесуэла","venezuelan"]),
  ("VN",["vietnam","вьетнам","вьетнамский","vietnamese"]),("YE",["yemen","йемен","yemeni"]),
  ("ZM",["zambia","замбия","zambian"]),("ZW",["zimbabwe","зимбабве","zimbabwean"])]

def russianCountryInflections : List (String × String) :=
  [("англии","GB"),("германии","DE"),("германию","DE"),("германией","DE")]

def namePrefixes : List (List String) := [["включи","радио"],["включить","радио"],["поставь","радио"],["поставить","радио"],
  ["play","radio"],["start","radio"],["turn","on","radio"]]

def windows {α : Type} (length : Nat) (values : List α) : List (List α) :=
  (values.tails.map (·.take length)).filter fun window => window.length = length

def containsCountryAlias (terms : List String) (name : String) : Bool :=
  (windows (splitWhitespace name).length terms).any (· == splitWhitespace name)

-- The codes that a request names, by an alias or a case form.
def countryCodes (terms : List String) : List String :=
  (countryAliases.filterMap fun entry => if entry.2.any (containsCountryAlias terms) then some entry.1 else none) ++
    russianCountryInflections.filterMap fun entry => if terms.contains entry.1 then some entry.2 else none

def inferCountryCode (terms : List String) : Option String := match ascending (countryCodes terms) with
  | [code] => some code
  | _ => none

def inferLanguage (terms : List String) : Option String :=
  if terms.contains "русскоязычный" || terms.contains "русскоязычная" then some "ru"
  else if terms.contains "англоязычный" || terms.contains "англоязычная" then some "en"
  else none

variable (unicode : Unicode)

def normalized (value : String) : String := unicode.toLowercase (trim value)

def canonicalTags (values : List String) : List String :=
  ascending ((values.map (normalized unicode)).filter fun value => canonicalVocabulary.contains value)

def normalizeValues (values : List String) : List String :=
  ascending ((values.map (normalized unicode)).filter fun value => value ≠ "")

-- Transliteration may panic, here and below.
def deterministicIntent (original _locale : String) : Option QueryIntent :=
  let terms := tokenize unicode original
  let words := removeStopWords terms
  (expandTransliterations unicode words).map fun expanded =>
    { action := .play
      terms := expanded
      tags := canonicalTags unicode expanded
      language := inferLanguage terms
      countryCode := inferCountryCode terms
      coreTermCount := words.length
      rawQuery := " ".intercalate words }

-- The words of an intent's terms, each once.
def intentWords (terms : List String) : List String :=
  removeStopWords (ascending ((normalizeValues unicode terms).flatMap (tokenize unicode)))

def validLanguage (language : String) : Bool :=
  2 ≤ language.utf8ByteSize && language.utf8ByteSize ≤ 3 && language.toList.all fun c => 'a' ≤ c && c ≤ 'z'

def validCountry (code : String) : Bool := code.utf8ByteSize = 2 && code.toList.all fun c => 'A' ≤ c && c ≤ 'Z'

def validateIntent (intent : QueryIntent) : Option (Except QueryParserError QueryIntent) :=
  let words := intentWords unicode intent.terms
  (expandTransliterations unicode words).map fun expanded =>
    let tags := canonicalTags unicode intent.tags
    let language := (intent.language.map fun value => String.ofList ((trim value).toList.map toAsciiLowercase)).filter (· ≠ "")
    let country := (intent.countryCode.map fun value => String.ofList ((trim value).toList.map toAsciiUppercase)).filter (· ≠ "")
    if language.any fun value => !validLanguage value then .error (.safe "query parser returned an invalid language filter")
    else if country.any fun value => !validCountry value then .error (.safe "query parser returned an invalid country filter")
    else .ok
      { action := intent.action
        terms := expanded
        tags := tags
        language := language
        countryCode := country
        coreTermCount := words.length
        rawQuery := " ".intercalate words }

def stationNameHintQueries (original : String) : Option (List String) :=
  let ordered := tokenize unicode original
  match namePrefixes.find? (·.isPrefixOf ordered) with
  | none => some []
  | some leading =>
    let hintTokens := removeStopWords (ordered.drop leading.length)
    if hintTokens = [] then some []
    else
      let rawHint := " ".intercalate hintTokens
      let other :=
        if isCyrillicToken rawHint then some [transliterateRuToLat rawHint]
        else if isLatinToken rawHint then (transliterateLatToRu unicode rawHint).map ([·])
        else some []
      other.map fun other => (ascending (rawHint :: other)).filter (· ≠ "")

def SearchQuery.fromIntent (original locale : String) (intent : QueryIntent) : Option SearchQuery :=
  (Search.stationNameHintQueries unicode original).map fun hints =>
    { action := intent.action
      original := original
      locale := locale
      terms := intent.terms
      tags := intent.tags
      language := intent.language
      countryCode := intent.countryCode
      coreTermCount := intent.coreTermCount
      rawQuery := intent.rawQuery
      preferStationName := !hints.isEmpty
      stationNameHintQueries := hints }

def normalizeQuery (original locale : String) : Option SearchQuery :=
  (deterministicIntent unicode original locale).bind (SearchQuery.fromIntent unicode original locale)

-- The intent after the parser's answer: validated, or parsed again where that
-- failed, and filled up where it has no terms. The parser is the deterministic one.
def completed (input : QueryParserInput) (intent : QueryIntent) : Option QueryIntent :=
  if intent.terms ≠ [] then some intent
  else (deterministicIntent unicode input.query input.locale).bind fun deterministic =>
    (validateIntent unicode deterministic).map fun validated =>
      let deterministic := validated.toOption.getD deterministic
      if intent.tags = [] then deterministic
      else {intent with terms := deterministic.terms,rawQuery := deterministic.rawQuery,coreTermCount := deterministic.coreTermCount}

-- The query that the repository is asked, without an embedding provider and a
-- language classifier.
def interpretedQuery (input : QueryParserInput) : Option SearchQuery :=
  (deterministicIntent unicode input.query input.locale).bind fun parsed =>
    (validateIntent unicode parsed).bind fun validated =>
      ((match validated with
        | .ok intent => some intent
        | .error _ => deterministicIntent unicode input.query input.locale).bind (completed unicode input)).bind
        (SearchQuery.fromIntent unicode input.query input.locale)

end Search
