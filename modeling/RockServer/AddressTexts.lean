import RockServer.PublicDestinations

-- The texts of addresses: what the strict readers accept, and what a resolver
-- reads where parts may be short, octal or hexadecimal.
namespace StreamUri

def atonDigits (radix : Nat) (text : List Char) : Option Nat :=
  if text = [] then none else text.foldlM (fun value c => (toDigit radix c).map (value * radix + ·)) 0

def atonNumber : List Char → Option Nat
  | '0' :: 'x' :: rest => atonDigits 16 rest
  | '0' :: 'X' :: rest => atonDigits 16 rest
  | '0' :: second :: rest => atonDigits 8 (second :: rest)
  | text => atonDigits 10 text

-- One to four parts, the last of which fills the bytes that are left.
def atonParts : List Nat → Option Nat
  | [last] => if last < 2 ^ 32 then some last else none
  | [a,last] => if a < 256 ∧ last < 2 ^ 24 then some (a * 2 ^ 24 + last) else none
  | [a,b,last] => if a < 256 ∧ b < 256 ∧ last < 2 ^ 16 then some ((a * 256 + b) * 2 ^ 16 + last) else none
  | [a,b,c,last] =>
    if a < 256 ∧ b < 256 ∧ c < 256 ∧ last < 256 then some (((a * 256 + b) * 256 + c) * 256 + last) else none
  | _ => none

def inetAton (host : List Char) : Option Nat := ((host.splitOn '.').mapM atonNumber).bind atonParts

example : inetAton "127.1".toList = some 0x7f000001 ∧ inetAton "0177.0.0.0x1".toList = some 0x7f000001 ∧
    inetAton "streams.example.com".toList = none := by decide

variable {input rest used digits : List Char} {radix limit bound count result value n : Nat} {c : Char}

-- The reader stops at the first other character.
theorem readDigits_used {last : Nat} (read : readDigits radix limit result count input = some (value,last,rest)) :
    ∃ used, input = used ++ rest ∧ last = count + used.length ∧ (∀ c ∈ used, (toDigit radix c).isSome = true) ∧
      used.foldlM (fun value c => (toDigit radix c).map (value * radix + ·)) result = some value := by
  induction input generalizing result count with
  | nil =>
    cases read
    exact ⟨[],rfl,rfl,by simp,rfl⟩
  | cons c later ih =>
    rw [readDigits] at read
    split at read
    · cases read
      exact ⟨[],rfl,rfl,by simp,rfl⟩
    · rename_i digit found
      split at read
      · cases read
      · obtain ⟨used,whole,length,every,folded⟩ := ih read
        refine ⟨c :: used,by rw [whole,List.cons_append],?_,?_,?_⟩
        · rw [List.length_cons]
          omega
        · intro d member
          rcases List.mem_cons.mp member with rfl | member
          · rw [found]
            rfl
          · exact every d member
        · rw [List.foldlM_cons,found]
          exact folded

-- A number that a reader took from a text.
structure Number (radix bound : Nat) (used : List Char) (value : Nat) : Prop where
  some_digit : used ≠ []
  digits : ∀ c ∈ used, (toDigit radix c).isSome = true
  read : atonDigits radix used = some value
  bounded : value ≤ bound

theorem readNumber_used {zeros : Bool} (read : readNumber radix limit bound zeros input = some (value,rest)) :
    ∃ used, input = used ++ rest ∧ Number radix bound used value ∧ (zeros = false → used.head? = some '0' → used = ['0']) := by
  unfold readNumber at read
  split at read
  · cases read
  · rename_i result count later digits
    obtain ⟨used,whole,length,every,folded⟩ := readDigits_used digits
    split at read
    · cases read
    · rename_i some_digit
      split at read
      · cases read
      · rename_i leading
        split at read
        · cases read
        · rename_i bounded
          cases read
          have printed : used ≠ [] := by
            rintro rfl
            exact some_digit (by simpa using length)
          refine ⟨used,whole,⟨printed,every,by rw [atonDigits,if_neg printed,folded],Nat.le_of_not_lt bounded⟩,?_⟩
          rintro rfl zero
          cases used with
          | nil => cases zero
          | cons first others =>
            cases zero
            cases others with
            | nil => rfl
            | cons second others => simp [whole,length] at leading

theorem readSeparator_later {α : Type} {separator : Char} {index : Nat} {inner : List Char → Option (α × List Char)} {found : α}
    (later : 0 < index) (read : readSeparator separator index inner input = some (found,rest)) :
    ∃ tail, input = separator :: tail ∧ inner tail = some (found,rest) := by
  rw [readSeparator,if_pos later] at read
  obtain ⟨tail,given,inside⟩ := Option.bind_eq_some_iff.mp read
  cases input with
  | nil => cases given
  | cons c others =>
    rw [readGivenChar] at given
    split at given
    · rename_i same
      cases given
      exact ⟨_,by rw [same],inside⟩
    · cases given

structure Octet (used : List Char) (value : Nat) : Prop extends Number 10 255 used value where
  plain : used.head? = some '0' → used = ['0']

theorem Octet.of_read (read : readNumber 10 3 255 false input = some (value,rest)) :
    ∃ used, input = used ++ rest ∧ Octet used value := by
  obtain ⟨used,whole,number,plain⟩ := readNumber_used read
  exact ⟨used,whole,number,plain rfl⟩

theorem Octet.aton (octet : Octet used value) : atonNumber used = some value := by
  have decimal : atonNumber used = atonDigits 10 used := by
    unfold atonNumber
    split
    case h_4 => rfl
    all_goals exact absurd (octet.plain rfl) (by simp)
  rw [decimal,octet.read]

theorem Octet.pointless (octet : Octet used value) : '.' ∉ used := by
  intro member
  have digit := octet.digits '.' member
  exact absurd digit (by decide)

theorem readIpv4Addr_used {address : Ipv4Addr} (read : readIpv4Addr input = some (address,rest)) : ∃ a b c d : List Char,
    input = a ++ '.' :: (b ++ '.' :: (c ++ '.' :: (d ++ rest))) ∧
      Octet a address.a ∧ Octet b address.b ∧ Octet c address.c ∧ Octet d address.d := by
  simp only [readIpv4Addr,Option.bind_eq_bind,Option.bind_eq_some_iff,Prod.exists] at read
  obtain ⟨a,afterA,readA,b,afterB,readB,c,afterC,readC,d,afterD,readD,same⟩ := read
  cases same
  rw [readSeparator,if_neg (Nat.lt_irrefl 0)] at readA
  obtain ⟨tailB,rfl,readB⟩ := readSeparator_later Nat.one_pos readB
  obtain ⟨tailC,rfl,readC⟩ := readSeparator_later (by decide) readC
  obtain ⟨tailD,rfl,readD⟩ := readSeparator_later (by decide) readD
  obtain ⟨usedA,rfl,octetA⟩ := Octet.of_read readA
  obtain ⟨usedB,rfl,octetB⟩ := Octet.of_read readB
  obtain ⟨usedC,rfl,octetC⟩ := Octet.of_read readC
  obtain ⟨usedD,rfl,octetD⟩ := Octet.of_read readD
  exact ⟨usedA,usedB,usedC,usedD,rfl,octetA,octetB,octetC,octetD⟩

-- A dotted quad is read alike by both.
theorem parseIpv4_aton {host : List Char} {address : Ipv4Addr} (parsed : parseIpv4 host = some address) :
    address.Valid ∧ inetAton host = some address.number := by
  unfold parseIpv4 at parsed
  split at parsed
  · cases parsed
  · split at parsed
    · rename_i read
      cases parsed
      obtain ⟨a,b,c,d,rfl,octetA,octetB,octetC,octetD⟩ := readIpv4Addr_used read
      have bounds := And.intro octetA.bounded (And.intro octetB.bounded (And.intro octetC.bounded octetD.bounded))
      refine ⟨by simp only [Ipv4Addr.Valid]; omega,?_⟩
      have parts : (a ++ '.' :: (b ++ '.' :: (c ++ '.' :: (d ++ [])))).splitOn '.' = [a,b,c,d] := by
        have whole : ['.'].intercalate [a,b,c,d] = a ++ '.' :: (b ++ '.' :: (c ++ '.' :: (d ++ []))) := by simp
        rw [← whole,List.splitOn_intercalate]
        · simp [octetA.pointless,octetB.pointless,octetC.pointless,octetD.pointless]
        · simp
      rw [inetAton,parts]
      simp only [List.mapM_cons,List.mapM_nil,octetA.aton,octetB.aton,octetC.aton,octetD.aton]
      change atonParts [address.a,address.b,address.c,address.d] = some address.number
      rw [atonParts,if_pos (by omega)]
      rfl
    · cases parsed

-- Every character that a resolver reads is a digit, a point or the mark of a
-- hexadecimal part.
theorem foldlM_digits (folded : input.foldlM (fun value c => (toDigit radix c).map (value * radix + ·)) result = some value) :
    ∀ c ∈ input, (toDigit radix c).isSome = true := by
  induction input generalizing result with
  | nil => simp
  | cons d rest ih =>
    rw [List.foldlM_cons] at folded
    obtain ⟨next,read,folded⟩ := Option.bind_eq_some_iff.mp folded
    intro c member
    rcases List.mem_cons.mp member with rfl | member
    · obtain ⟨digit,found,_⟩ := Option.map_eq_some_iff.mp read
      rw [found]
      rfl
    · exact ih folded c member

theorem atonDigits_plain (plain : toDigit radix c = none) (read : atonDigits radix input = some value) : c ∉ input := by
  intro member
  unfold atonDigits at read
  split at read
  · cases read
  · have digit := foldlM_digits read c member
    rw [plain] at digit
    cases digit

theorem mem_splitOn {separator : Char} (member : c ∈ input) (apart : c ≠ separator) : ∃ part ∈ input.splitOn separator, c ∈ part := by
  unfold List.splitOn
  induction input with
  | nil => cases member
  | cons d rest ih =>
    rw [List.splitOnP_cons_eq_if_modifyHead]
    split
    · rename_i boundary
      rcases List.mem_cons.mp member with rfl | member
      · exact absurd (by simpa using boundary) apart
      · obtain ⟨part,listed,inside⟩ := ih member
        exact ⟨part,List.mem_cons_of_mem _ listed,inside⟩
    · cases split : rest.splitOnP (· == separator) with
      | nil => exact absurd split (List.splitOnP_ne_nil _ rest)
      | cons first others =>
        rw [List.modifyHead_cons]
        rcases List.mem_cons.mp member with rfl | member
        · exact ⟨_,List.mem_cons_self,List.mem_cons_self⟩
        · obtain ⟨part,listed,inside⟩ := ih member
          rw [split] at listed
          rcases List.mem_cons.mp listed with rfl | listed
          · exact ⟨_,List.mem_cons_self,List.mem_cons_of_mem _ inside⟩
          · exact ⟨part,List.mem_cons_of_mem _ listed,inside⟩

theorem parts_read {texts : List (List Char)} {parts : List Nat} (read : texts.mapM atonNumber = some parts) :
    ∀ text ∈ texts, ∃ number, atonNumber text = some number := by
  induction texts generalizing parts with
  | nil => simp
  | cons first rest ih =>
    rw [List.mapM_cons] at read
    obtain ⟨number,found,read⟩ := Option.bind_eq_some_iff.mp read
    obtain ⟨others,later,_⟩ := Option.bind_eq_some_iff.mp read
    exact List.forall_mem_cons.mpr ⟨⟨number,found⟩,ih later⟩

theorem inetAton_plain (point : c ≠ '.') (mark : c ≠ 'x' ∧ c ≠ 'X' ∧ c ≠ '0') (plain : ∀ radix, toDigit radix c = none)
    (read : inetAton input = some value) : c ∉ input := by
  intro member
  obtain ⟨parts,mapped,_⟩ := Option.bind_eq_some_iff.mp read
  obtain ⟨part,listed,inside⟩ := mem_splitOn member point
  obtain ⟨number,found⟩ := parts_read mapped part listed
  unfold atonNumber at found
  split at found
  · simp only [List.mem_cons,mark.1,mark.2.2,false_or] at inside
    exact atonDigits_plain (plain 16) found inside
  · simp only [List.mem_cons,mark.2.1,mark.2.2,false_or] at inside
    exact atonDigits_plain (plain 16) found inside
  · simp only [List.mem_cons,mark.2.2,false_or] at inside
    exact atonDigits_plain (plain 8) found (List.mem_cons.mpr inside)
  · exact atonDigits_plain (plain 10) found inside

theorem Number.unescaped (number : Number radix bound used value) : '\\' ∉ used := by
  intro member
  have digit := number.digits '\\' member
  exact absurd digit (by simp [toDigit])

-- What an address reader leaves of a text, and the groups it took.
structure Groups (groups : List Nat) (input rest : List Char) : Prop where
  words : ∀ group ∈ groups, group < 65536
  unescaped : ∃ used, input = used ++ rest ∧ '\\' ∉ used

theorem Groups.none (input : List Char) : Groups [] input input := ⟨by simp,[],rfl,by simp⟩

theorem Groups.append {groups others : List Nat} {middle : List Char} (first : Groups groups input middle)
    (second : Groups others middle rest) : Groups (groups ++ others) input rest := by
  obtain ⟨used,rfl,plain⟩ := first.unescaped
  obtain ⟨used',rfl,plain'⟩ := second.unescaped
  refine ⟨fun group member => ?_,used ++ used',by rw [List.append_assoc],?_⟩
  · rcases List.mem_append.mp member with member | member
    · exact first.words group member
    · exact second.words group member
  · rw [List.mem_append]
    exact fun member => member.elim plain plain'

theorem readSeparator_groups {α : Type} {index : Nat} {inner : List Char → Option (α × List Char)} {found : α} {groups : List Nat}
    (reads : ∀ input, inner input = some (found,rest) → Groups groups input rest)
    (read : readSeparator ':' index inner input = some (found,rest)) : Groups groups input rest := by
  by_cases later : 0 < index
  · obtain ⟨tail,rfl,inside⟩ := readSeparator_later later read
    have colon : Groups [] (':' :: tail) tail := ⟨by simp,[':'],rfl,by decide⟩
    exact colon.append (reads tail inside)
  · rw [readSeparator,if_neg later] at read
    exact reads input read

theorem readIpv4Addr_groups {address : Ipv4Addr} (read : readIpv4Addr input = some (address,rest)) :
    Groups [address.a * 256 + address.b,address.c * 256 + address.d] input rest := by
  obtain ⟨a,b,c,d,rfl,octetA,octetB,octetC,octetD⟩ := readIpv4Addr_used read
  have bounds := And.intro octetA.bounded (And.intro octetB.bounded (And.intro octetC.bounded octetD.bounded))
  refine ⟨?_,a ++ '.' :: (b ++ '.' :: (c ++ '.' :: d)),by simp,?_⟩
  · simp only [List.forall_mem_cons,List.not_mem_nil,false_implies,implies_true,and_true]
    omega
  · simp [octetA.unescaped,octetB.unescaped,octetC.unescaped,octetD.unescaped]

theorem readGroup_groups {group : Nat} (read : readNumber 16 4 65535 true input = some (group,rest)) : Groups [group] input rest := by
  obtain ⟨used,rfl,number,_⟩ := readNumber_used read
  have bound := number.bounded
  exact ⟨by simp only [List.mem_singleton,forall_eq]; omega,used,rfl,number.unescaped⟩

theorem readGroups_groups (fuel i : Nat) (input : List Char) :
    Groups (readGroups fuel i input).1 input (readGroups fuel i input).2.2 := by
  induction fuel generalizing i input with
  | zero => exact .none input
  | succ fuel ih =>
    rw [readGroups]
    split
    · rename_i address rest found
      split at found
      · exact readSeparator_groups (fun _ read => readIpv4Addr_groups read) found
      · cases found
    · split
      · exact .none input
      · rename_i group rest found
        exact (readSeparator_groups (fun _ read => readGroup_groups read) found).append (ih (i + 1) rest)

theorem readGivenChar_groups {expected : Char} (plain : expected ≠ '\\') (read : readGivenChar expected input = some rest) :
    Groups [] input rest := by
  cases input with
  | nil => cases read
  | cons c others =>
    rw [readGivenChar] at read
    split at read
    · rename_i same
      cases read
      exact ⟨by simp,[c],rfl,by simpa [same] using plain.symm⟩
    · cases read

theorem readIpv6Addr_groups {groups : List Nat} (read : readIpv6Addr input = some (groups,rest)) : Groups groups input rest := by
  have first := readGroups_groups 8 0 input
  unfold readIpv6Addr at read
  revert read first
  obtain ⟨head,embedded,middle⟩ := readGroups 8 0 input
  intro read first
  dsimp only at first read
  split at read
  · cases read
    exact first
  · split at read
    · cases read
    · simp only [Option.bind_eq_bind,Option.bind_eq_some_iff] at read
      obtain ⟨one,colon,two,colon',read⟩ := read
      have later := readGroups_groups (8 - (head.length + 1)) 0 two
      cases read
      have zeros (count : Nat) : Groups (List.replicate count 0) two two :=
        ⟨fun group member => by rw [List.eq_of_mem_replicate member]; decide,[],rfl,by simp⟩
      have middle := (readGivenChar_groups (by decide) colon).append (readGivenChar_groups (by decide) colon')
      exact (first.append (middle.append (zeros _))).append later

theorem parseIpv6_valid {host : List Char} {address : Ipv6Addr} (parsed : parseIpv6 host = some address) :
    address.Valid ∧ '\\' ∉ host := by
  unfold parseIpv6 at parsed
  split at parsed
  · rename_i groups read
    cases parsed
    have taken := readIpv6Addr_groups read
    obtain ⟨used,rfl,plain⟩ := taken.unescaped
    refine ⟨fun i => ?_,by simpa using plain⟩
    change groups.getD i.val 0 < 65536
    rw [List.getD_eq_getElem?_getD]
    cases found : groups[i.val]? with
    | none => decide
    | some group => exact taken.words group (List.mem_of_getElem? found)
  · cases parsed

end StreamUri
