import RockServer.DeviceControl

namespace DeviceControl

-- JSON values as texts: written without a blank, as JSON.stringify writes them, and
-- read by the grammar.
namespace Json

def hexDigits : List Char := ['0','1','2','3','4','5','6','7','8','9','a','b','c','d','e','f']

-- The letters that stand for a character of their own after a backslash.
def shortEscapes : List (Char × Char) := [('b',Char.ofNat 8),('t',Char.ofNat 9),('n',Char.ofNat 10),('f',Char.ofNat 12),
  ('r',Char.ofNat 13),('"', '"'),('\\', '\\')]

def escaped (c : Char) : List Char :=
  match shortEscapes.find? fun entry => entry.2 = c with
  | some entry => ['\\',entry.1]
  | none =>
    if c.toNat < 32 then ['\\','u','0','0',hexDigits.getD (c.toNat / 16) '0',hexDigits.getD (c.toNat % 16) '0']
    else [c]

def quoted (text : String) : List Char := '"' :: (text.toList.flatMap escaped ++ ['"'])

mutual
def written : Json → List Char
  | .null => "null".toList
  | .bool true => "true".toList
  | .bool false => "false".toList
  | .number text => text.toList
  | .string text => quoted text
  | .array [] => ['[',']']
  | .array (item :: rest) => '[' :: (item.written ++ writtenItems rest)
  | .object [] => ['{','}']
  | .object ((name,value) :: rest) => '{' :: (quoted name ++ ':' :: (value.written ++ writtenMembers rest))
def writtenItems : List Json → List Char
  | [] => [']']
  | item :: rest => ',' :: (item.written ++ writtenItems rest)
def writtenMembers : List (String × Json) → List Char
  | [] => ['}']
  | (name,value) :: rest => ',' :: (quoted name ++ ':' :: (value.written ++ writtenMembers rest))
end

def stringify (json : Json) : String := String.ofList json.written

section reading

def skipBlanks (text : List Char) : List Char := text.dropWhile fun c => c ∈ [' ','\n','\r','\t']

def isNumeric (c : Char) : Bool := c.isDigit || c ∈ ['+','-','.','e','E']

-- An optional part of a number: its digits after a mark.
def isExponent : List Char → Bool
  | [] => true
  | mark :: rest => mark ∈ ['e','E'] &&
    (match rest with
      | sign :: digits => if sign ∈ ['+','-'] then !digits.isEmpty && digits.all Char.isDigit else rest.all Char.isDigit
      | [] => false)

def isFraction : List Char → Bool
  | '.' :: rest => !(rest.takeWhile Char.isDigit).isEmpty && isExponent (rest.dropWhile Char.isDigit)
  | rest => isExponent rest

def isNumber (token : List Char) : Bool :=
  let unsigned := if token.head? = some '-' then token.tail else token
  let whole := unsigned.takeWhile Char.isDigit
  !whole.isEmpty && (whole.length = 1 || whole.head? ≠ some '0') && isFraction (unsigned.dropWhile Char.isDigit)

def readNumber (text : List Char) : Option (Json × List Char) :=
  if isNumber (text.takeWhile isNumeric) then
    some (.number (String.ofList (text.takeWhile isNumeric)),text.dropWhile isNumeric)
  else none

def hexValue (c : Char) : Option Nat := hexDigits.idxOf? c.toLower

def readHex : List Char → Option (Nat × List Char)
  | a :: b :: c :: d :: rest => (hexValue a).bind fun a => (hexValue b).bind fun b => (hexValue c).bind fun c =>
    (hexValue d).map fun d => (((a * 16 + b) * 16 + c) * 16 + d,rest)
  | _ => none

-- A character beyond the first plane comes as two surrogates, and none comes alone.
def readUnicode (text : List Char) : Option (Char × List Char) :=
  (readHex text).bind fun (code,rest) =>
    if 0xD800 ≤ code && code < 0xDC00 then match rest with
      | mark :: 'u' :: rest =>
        if mark = '\\' then (readHex rest).bind fun (low,rest) =>
          if 0xDC00 ≤ low && low < 0xE000 then some (Char.ofNat (0x10000 + (code - 0xD800) * 0x400 + (low - 0xDC00)),rest)
          else none
        else none
      | _ => none
    else if 0xDC00 ≤ code && code < 0xE000 then none
    else some (Char.ofNat code,rest)

def readEscape : List Char → Option (Char × List Char)
  | [] => none
  | letter :: rest =>
    if letter = 'u' then readUnicode rest
    else if letter = '/' then some ('/',rest)
    else (shortEscapes.lookup letter).map fun c => (c,rest)

def readString : Nat → List Char → Option (List Char × List Char)
  | 0,_ | _,[] => none
  | fuel + 1,c :: rest =>
    if c = '"' then some ([],rest)
    else if c = '\\' then (readEscape rest).bind fun (c,rest) =>
      (readString fuel rest).map fun (text,rest) => (c :: text,rest)
    else if c.toNat < 32 then none
    else (readString fuel rest).map fun (text,rest) => (c :: text,rest)

def readWord (word : List Char) (json : Json) (text : List Char) : Option (Json × List Char) :=
  if word.isPrefixOf text then some (json,text.drop word.length) else none

mutual
def readValue : Nat → List Char → Option (Json × List Char)
  | 0,_ => none
  | fuel + 1,text => match skipBlanks text with
    | [] => none
    | c :: rest =>
      if c = '"' then (readString fuel rest).map fun (text,rest) => (.string (String.ofList text),rest)
      else if c = '[' then match skipBlanks rest with
        | ']' :: rest => some (.array [],rest)
        | rest => (readItems fuel rest).map fun (items,rest) => (.array items,rest)
      else if c = '{' then match skipBlanks rest with
        | '}' :: rest => some (.object [],rest)
        | rest => (readMembers fuel rest).map fun (fields,rest) => (.object fields,rest)
      else if c = 'n' then readWord "null".toList .null (c :: rest)
      else if c = 't' then readWord "true".toList (.bool true) (c :: rest)
      else if c = 'f' then readWord "false".toList (.bool false) (c :: rest)
      else readNumber (c :: rest)
def readItems : Nat → List Char → Option (List Json × List Char)
  | 0,_ => none
  | fuel + 1,text => (readValue fuel text).bind fun (item,rest) => match skipBlanks rest with
    | ',' :: rest => (readItems fuel rest).map fun (items,rest) => (item :: items,rest)
    | ']' :: rest => some ([item],rest)
    | _ => none
def readMembers : Nat → List Char → Option (List (String × Json) × List Char)
  | 0,_ => none
  | fuel + 1,text => match skipBlanks text with
    | [] => none
    | c :: rest =>
      if c = '"' then (readString fuel rest).bind fun (name,rest) => match skipBlanks rest with
        | ':' :: rest => (readValue fuel rest).bind fun (value,rest) => match skipBlanks rest with
          | ',' :: rest => (readMembers fuel rest).map fun (fields,rest) => ((String.ofList name,value) :: fields,rest)
          | '}' :: rest => some ([(String.ofList name,value)],rest)
          | _ => none
        | _ => none
      else none
end

-- A text is one value and nothing after it. No value is deeper or longer than its text.
def read (text : String) : Option Json :=
  (readValue (text.toList.length + 1) text.toList).bind fun (json,rest) => if (skipBlanks rest).isEmpty then some json else none

end reading

end Json
end DeviceControl
