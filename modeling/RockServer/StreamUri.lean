import Mathlib.Data.List.Basic
import Mathlib.Algebra.Group.Nat.Defs

-- The literal form of a station stream URI, as command admission checks it.
-- Text is a list of characters; the address parsers follow the standard
-- library's, which read greedily and leave the rest of the input.
namespace StreamUri

def maxStreamUriLength : Nat := 2048

inductive Rejection where
  | notAbsoluteHttp
  | tooLong
  | missingHost
  | userinfo
  | fragment
  | invalidPort
  | forbiddenDestination
deriving DecidableEq, Repr

structure Ipv4Addr where
  a : Nat
  b : Nat
  c : Nat
  d : Nat
deriving DecidableEq, Repr

structure Ipv6Addr where
  segments : Fin 8 → Nat

def isAsciiDigit (c : Char) : Bool := '0' ≤ c && c ≤ '9'

def toDigit (radix : Nat) (c : Char) : Option Nat :=
  let value :=
    if '0' ≤ c ∧ c ≤ '9' then some (c.toNat - '0'.toNat)
    else if 'a' ≤ c ∧ c ≤ 'z' then some (c.toNat - 'a'.toNat + 10)
    else if 'A' ≤ c ∧ c ≤ 'Z' then some (c.toNat - 'A'.toNat + 10)
    else none
  value.filter (· < radix)

-- Digits are consumed greedily; one past the maximum fails the whole number.
def readDigits (radix maxDigits : Nat) : Nat → Nat → List Char → Option (Nat × Nat × List Char)
  | result,count,[] => some (result,count,[])
  | result,count,c :: rest =>
    match toDigit radix c with
    | none => some (result,count,c :: rest)
    | some digit =>
      if maxDigits < count + 1 then none
      else readDigits radix maxDigits (result * radix + digit) (count + 1) rest

def readNumber (radix maxDigits bound : Nat) (allowZeroPrefix : Bool) (input : List Char) :
    Option (Nat × List Char) :=
  match readDigits radix maxDigits 0 0 input with
  | none => none
  | some (result,count,rest) =>
    if count = 0 then none
    else if !allowZeroPrefix && input.head? == some '0' && 1 < count then none
    else if bound < result then none
    else some (result,rest)

def readGivenChar (expected : Char) : List Char → Option (List Char)
  | c :: rest => if c = expected then some rest else none
  | [] => none

def readSeparator {α : Type} (separator : Char) (index : Nat)
    (inner : List Char → Option (α × List Char)) (input : List Char) : Option (α × List Char) :=
  if 0 < index then (readGivenChar separator input).bind inner else inner input

def readIpv4Addr (input : List Char) : Option (Ipv4Addr × List Char) := do
  let octet := readNumber 10 3 255 false
  let (a,rest) ← readSeparator '.' 0 octet input
  let (b,rest) ← readSeparator '.' 1 octet rest
  let (c,rest) ← readSeparator '.' 2 octet rest
  let (d,rest) ← readSeparator '.' 3 octet rest
  some (⟨a,b,c,d⟩,rest)

-- Reads at most `limit` groups from index `i` on; an embedded IPv4 address
-- takes two groups and ends the reading.
def readGroups : (fuel i : Nat) → List Char → List Nat × Bool × List Char
  | 0,_,input => ([],false,input)
  | fuel + 1,i,input =>
    let ipv4 := if 0 < fuel then readSeparator ':' i readIpv4Addr input else none
    match ipv4 with
    | some (address,rest) =>
      ([address.a * 256 + address.b,address.c * 256 + address.d],true,rest)
    | none =>
      match readSeparator ':' i (readNumber 16 4 65535 true) input with
      | none => ([],false,input)
      | some (group,rest) =>
        let (groups,embedded,rest) := readGroups fuel (i + 1) rest
        (group :: groups,embedded,rest)

def readIpv6Addr (input : List Char) : Option (List Nat × List Char) :=
  let (head,headIpv4,rest) := readGroups 8 0 input
  if head.length = 8 then some (head,rest)
  else if headIpv4 then none
  else do
    let rest ← readGivenChar ':' rest
    let rest ← readGivenChar ':' rest
    let (tail,_,rest) := readGroups (8 - (head.length + 1)) 0 rest
    some (head ++ List.replicate (8 - head.length - tail.length) 0 ++ tail,rest)

def parseIpv4 (text : List Char) : Option Ipv4Addr :=
  if 15 < text.length then none
  else match readIpv4Addr text with
    | some (address,[]) => some address
    | _ => none

def parseIpv6 (text : List Char) : Option Ipv6Addr :=
  match readIpv6Addr text with
  | some (groups,[]) => some ⟨fun i => groups.getD i.val 0⟩
  | _ => none

-- `str::parse::<u32>`: an optional plus sign, then decimal digits in range.
def parseU32 (text : List Char) : Option Nat :=
  let digits := match text with
    | '+' :: rest => rest
    | _ => text
  if digits = [] ∨ digits.any (fun c => !isAsciiDigit c) then none
  else
    let value := digits.foldl (fun value c => value * 10 + (c.toNat - '0'.toNat)) 0
    if value < 2 ^ 32 then some value else none

def validateStreamIpv4 (address : Ipv4Addr) : Except Rejection Unit :=
  let ⟨a,b,c,_⟩ := address
  let forbidden :=
    a == 0 || a == 10 || a == 127
    || (a == 100 && 64 ≤ b && b ≤ 127)
    || (a == 169 && b == 254)
    || (a == 172 && 16 ≤ b && b ≤ 31)
    || (a == 192 && b == 168)
    || (a == 198 && (b == 18 || b == 19))
    || (a,b,c) == (192,0,0) || (a,b,c) == (192,0,2) || (a,b,c) == (192,88,99)
    || (a,b,c) == (198,51,100) || (a,b,c) == (203,0,113)
    || (224 ≤ a && a ≤ 255)
  if forbidden then .error .forbiddenDestination else .ok ()

def validateStreamIpv6 (address : Ipv6Addr) : Except Rejection Unit :=
  let s := address.segments
  if s 0 = 0 ∧ s 1 = 0 ∧ s 2 = 0 ∧ s 3 = 0 ∧ s 4 = 0 ∧ (s 5 = 0 ∨ s 5 = 0xffff) then
    validateStreamIpv4 ⟨s 6 / 256,s 6 % 256,s 7 / 256,s 7 % 256⟩
  else if s 0 &&& 0xff00 = 0xff00 ∨ s 0 &&& 0xffc0 = 0xfe80 ∨ s 0 &&& 0xfe00 = 0xfc00 then
    .error .forbiddenDestination
  else .ok ()

def isAsciiWhitespace (c : Char) : Bool :=
  c == ' ' || c == '\t' || c == '\n' || c == '\x0c' || c == '\r'

def isAsciiControl (c : Char) : Bool := c.toNat < 32 || c.toNat == 127

def toAsciiLowercase (c : Char) : Char :=
  if 'A' ≤ c ∧ c ≤ 'Z' then Char.ofNat (c.toNat + 32) else c

def validateStreamHost (host : List Char) (literalV6 : Bool) : Except Rejection Unit :=
  if literalV6 then
    match parseIpv6 host with
    | none => .error .forbiddenDestination
    | some address => validateStreamIpv6 address
  else match parseIpv4 host with
    | some address => validateStreamIpv4 address
    | none =>
      if host.any (fun c => isAsciiWhitespace c || isAsciiControl c || c == '%')
          || host.map toAsciiLowercase == "localhost".toList
          || host.all isAsciiDigit then .error .forbiddenDestination
      else .ok ()

def splitOnce (c : Char) : List Char → Option (List Char × List Char)
  | [] => none
  | d :: rest => if d = c then some ([],rest) else (splitOnce c rest).map fun (l,r) => (d :: l,r)

def splitStreamAuthority (authority : List Char) :
    Except Rejection (List Char × Option (List Char) × Bool) :=
  match authority with
  | '[' :: bracketed =>
    match splitOnce ']' bracketed with
    | none => .error .missingHost
    | some (host,tail) =>
      match tail with
      | [] => .ok (host,none,true)
      | ':' :: port => .ok (host,some port,true)
      | _ => .error .invalidPort
  | _ =>
    match splitOnce ':' authority with
    | some (host,port) => .ok (host,some port,false)
    | none => .ok (authority,none,false)

def stripPrefix? (text : String) (uri : List Char) : Option (List Char) :=
  if text.toList.isPrefixOf uri then some (uri.drop text.length) else none

def validateStreamUri (uri : String) : Except Rejection Unit :=
  if maxStreamUriLength < uri.length then .error .tooLong
  else match (stripPrefix? "https://" uri.toList).or (stripPrefix? "http://" uri.toList) with
    | none => .error .notAbsoluteHttp
    | some rest =>
      if rest.contains '#' then .error .fragment
      else
        let authority := rest.takeWhile fun c => c != '/' && c != '?'
        if authority.contains '@' then .error .userinfo
        else match splitStreamAuthority authority with
          | .error rejection => .error rejection
          | .ok (host,port,literalV6) =>
            if host = [] then .error .missingHost
            else
              let portValid := match port with
                | none => true
                | some port => match parseU32 port with
                  | some value => 1 ≤ value && value ≤ 65535
                  | none => false
              if !portValid then .error .invalidPort
              else validateStreamHost host literalV6

end StreamUri
