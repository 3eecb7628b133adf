import Mathlib.Algebra.Order.Ring.Nat
import RockServer.IcyReader
import RockServer.RelayTitles

-- A station's stream between the upstream and a client, and the titles in it.
namespace Relay

-- Titles in blocks of metadata.
def stripPrefix (lead text : List Char) : Option (List Char) :=
  if lead.isPrefixOf text then some (text.drop lead.length) else none

def beforeFirst (separator : List Char) : List Char → Option (List Char)
  | [] => none
  | c :: rest => if separator.isPrefixOf (c :: rest) then some [] else (beforeFirst separator rest).map (c :: ·)

def isControl (c : Char) : Bool := c.toNat < 32 || (127 ≤ c.toNat && c.toNat < 160)

def trimEndMatches (last : Char) (text : List Char) : List Char := (text.reverse.dropWhile (· == last)).reverse

def rawTitle (block : List UInt8) : Option String :=
  (String.fromUTF8? ⟨block.toArray⟩).bind fun text =>
    (stripPrefix "StreamTitle='".toList (trimEndMatches (Char.ofNat 0) text.toList)).bind fun quoted =>
      (beforeFirst "';".toList quoted).bind fun letters =>
        let title := String.ofList letters
        if title = "" ∨ 512 < title.utf8ByteSize ∨ letters.any isControl = true then none else some title

example : rawTitle [83,116,114,101,97,109,84,105,116,108,101,61,39,84,114,39,59,0] = some "Tr" := by decide

-- An interval that the upstream may announce.
structure Metaint where
  bytes : Nat
  positive : 1 ≤ bytes
  bounded : bytes ≤ 1024 * 1024

-- A client, by the number of times that the sender still finds it there.
abbrev Client : Type := Option Nat

def Client.next : Client → Option Client
  | none => some none
  | some 0 => none
  | some (n + 1) => some (some n)

inductive Outcome where
  | ended
  | failed
  | closed
  | panicked
deriving DecidableEq

-- What a run has sent, the titles that it has published and how it is over.
structure Pumped where
  sent : List (List UInt8)
  titles : List String
  outcome : Outcome
deriving DecidableEq

def Pumped.after (pumped : Pumped) (sent : List (List UInt8)) (titles : List String) : Pumped :=
  ⟨sent ++ pumped.sent,titles ++ pumped.titles,pumped.outcome⟩

-- The length and the block, for a client that wants them, and the client after that.
def forward (wantsIcy : Bool) (client : Client) (length block : List UInt8) : List (List UInt8) × Option Client :=
  if wantsIcy then
    match client.next with
    | none => ([],none)
    | some client =>
      match client.next with
      | none => ([length],none)
      | some client => if block = [] then ([length],some client) else ([length,block],some client)
  else ([],some client)

def stopped {α : Type} : Except Unit (Option α) → Outcome
  | .error () => .failed
  | .ok _ => .ended

def usizeMax : Nat := 2 ^ 64 - 1

-- The loop of `pump`, for so many turns. A subtraction below zero panics, as does an
-- interval that is not there.
def pumpLoop (metaint : Option Metaint) (wantsIcy : Bool) : Nat → Reader UInt8 → Nat → Client → Option Pumped
  | 0,_,_,_ => none
  | turns + 1,reader,remaining,client =>
    if 0 < remaining then
      match reader.take (min remaining (16 * 1024)) with
      | (.ok (some bytes),reader) =>
        if remaining < bytes.length then some ⟨[],[],.panicked⟩
        else match client.next with
          | none => some ⟨[],[],.closed⟩
          | some client =>
            (pumpLoop metaint wantsIcy turns reader (remaining - bytes.length) client).map fun pumped => pumped.after [bytes] []
      | (answer,_) => some ⟨[],[],stopped answer⟩
    else (reader.exact 1).bind fun
      | (.ok (some length),reader) => (reader.exact ((length.headD 0).toNat * 16)).bind fun
        | (.ok (some block),reader) =>
          let titles := (rawTitle block).toList
          match forward wantsIcy client length block with
          | (sent,none) => some ⟨sent,titles,.closed⟩
          | (sent,some client) => match metaint with
            | none => some ⟨sent,titles,.panicked⟩
            | some interval => (pumpLoop metaint wantsIcy turns reader interval.bytes client).map fun pumped => pumped.after sent titles
        | (answer,_) => some ⟨[],[],stopped answer⟩
      | (answer,_) => some ⟨[],[],stopped answer⟩

attribute [grind =] pumpLoop

def pump (metaint : Option Metaint) (wantsIcy : Bool) (turns : Nat) (reader : Reader UInt8) (client : Client) : Option Pumped :=
  pumpLoop metaint wantsIcy turns reader ((metaint.map Metaint.bytes).getD usizeMax) client

-- The stream as repeated units: audio, one byte of length, and as many blocks of 16.
structure Frame where
  audio : List UInt8
  length : UInt8
  block : List UInt8

-- Bytes that hold no whole unit where so many bytes of audio come first.
def Short (audio : Nat) (rest : List UInt8) : Prop :=
  rest.length ≤ audio ∨ ∃ n part, rest.drop audio = n :: part ∧ part.length < n.toNat * 16

inductive Parses (interval : Nat) : Nat → List UInt8 → List Frame → List UInt8 → Prop
  | rest {audio rest} : Short audio rest → Parses interval audio rest [] rest
  | frame {frame : Frame} {input frames rest} : frame.block.length = frame.length.toNat * 16 → Parses interval interval input frames rest →
      Parses interval frame.audio.length (frame.audio ++ frame.length :: (frame.block ++ input)) (frame :: frames) rest

def Frame.forwarded (wantsIcy : Bool) (frame : Frame) : List UInt8 :=
  if wantsIcy then frame.audio ++ frame.length :: frame.block else frame.audio

def titlesOf (frames : List Frame) : List String := frames.filterMap fun frame => rawTitle frame.block

section parse
variable {interval audio : Nat} {input rest rest' bytes : List UInt8} {frames frames' : List Frame}

theorem Short.frame_free {frame : Frame} (whole : frame.block.length = frame.length.toNat * 16) :
    ¬ Short frame.audio.length (frame.audio ++ frame.length :: (frame.block ++ input)) := by
  rintro (few | ⟨n,part,tail,few⟩)
  · rw [List.length_append,List.length_cons] at few
    omega
  · rw [List.drop_left] at tail
    cases tail
    rw [List.length_append] at few
    omega

-- A stream has one parse.
theorem Parses.unique (parsed : Parses interval audio input frames rest) (parsed' : Parses interval audio input frames' rest') :
    frames = frames' ∧ rest = rest' := by
  induction parsed generalizing frames' with
  | rest short =>
    cases parsed' with
    | rest _ => exact ⟨rfl,rfl⟩
    | frame whole _ => exact absurd short (Short.frame_free whole)
  | @frame frame input frames rest whole _ ih =>
    generalize size : frame.audio.length = audio at parsed'
    generalize same : frame.audio ++ frame.length :: (frame.block ++ input) = stream at parsed'
    cases parsed' with
    | rest short =>
      rw [← size,← same] at short
      exact absurd short (Short.frame_free whole)
    | @frame frame' input' frames' rest whole' tail' =>
      obtain ⟨audio,tail⟩ := List.append_inj same size
      obtain ⟨length,tail⟩ := List.cons.inj tail
      obtain ⟨block,tail⟩ := List.append_inj tail (by rw [whole,whole',length])
      subst tail
      obtain ⟨frames,rest⟩ := ih tail'
      refine ⟨?_,rest⟩
      rw [frames]
      exact congrArg (· :: frames') (by cases frame; cases frame'; simp_all)

-- What comes out of a parse where so many bytes of audio come first.
def demuxed (wantsIcy : Bool) (interval audio : Nat) (frames : List Frame) (rest : List UInt8) : List UInt8 :=
  frames.flatMap (Frame.forwarded wantsIcy) ++ rest.take (if frames = [] then audio else interval)

-- More audio before a parse is more audio in its first unit.
theorem Parses.grow (parsed : Parses interval audio input frames rest) (bytes : List UInt8) :
    ∃ frames' rest', Parses interval (bytes.length + audio) (bytes ++ input) frames' rest' ∧ titlesOf frames' = titlesOf frames ∧
      ∀ wantsIcy, demuxed wantsIcy interval (bytes.length + audio) frames' rest' = bytes ++ demuxed wantsIcy interval audio frames rest := by
  cases parsed with
  | rest short =>
    refine ⟨[],bytes ++ input,.rest ?_,rfl,fun wantsIcy => ?_⟩
    · rcases short with few | ⟨n,part,tail,few⟩
      · exact .inl (by rw [List.length_append]; omega)
      · exact .inr ⟨n,part,by rw [List.drop_append,List.drop_eq_nil_of_le (by omega),Nat.add_sub_cancel_left,tail]; rfl,few⟩
    · simp only [demuxed,List.flatMap_nil,List.nil_append,if_true,List.take_append,Nat.add_sub_cancel_left]
      rw [List.take_of_length_le (by omega)]
  | @frame frame input frames rest whole tail =>
    have grown := @Parses.frame interval ⟨bytes ++ frame.audio,frame.length,frame.block⟩ input frames rest whole tail
    rw [List.length_append,List.append_assoc] at grown
    refine ⟨_,_,grown,rfl,fun wantsIcy => ?_⟩
    cases wantsIcy with
    | true | false => simp [demuxed,Frame.forwarded]

end parse

section run
variable {interval : Metaint} {wantsIcy : Bool} {client : Client} {reader : Reader UInt8} {turns remaining : Nat}

-- A client that never goes stays.
theorem Client.next_stays {next : Client} (there : client.next = some next) : next ≠ none → client ≠ none := by
  rintro gone rfl
  cases there
  exact gone rfl

theorem Client.next_gone (gone : client.next = none) : client ≠ none := by
  rintro rfl
  cases gone

theorem forward_sent (n : UInt8) (block : List UInt8) :
    ((forward wantsIcy client [n] block).2 = none ∧ client ≠ none) ∨
      ∃ next, (forward wantsIcy client [n] block).2 = some next ∧ (next ≠ none → client ≠ none) ∧
        (forward wantsIcy client [n] block).1.flatten = if wantsIcy then n :: block else [] := by
  unfold forward
  cases wantsIcy with
  | false => exact .inr ⟨client,rfl,id,rfl⟩
  | true =>
    rw [if_pos rfl]
    cases first : client.next with
    | none => exact .inl ⟨rfl,Client.next_gone first⟩
    | some next =>
      cases second : next.next with
      | none =>
        dsimp only
        rw [second]
        exact .inl ⟨rfl,Client.next_stays first (Client.next_gone second)⟩
      | some last =>
        dsimp only
        rw [second]
        dsimp only
        have stays : last ≠ none → client ≠ none := fun gone => Client.next_stays first (Client.next_stays second gone)
        by_cases empty : block = []
        · rw [if_pos empty,empty]
          exact .inr ⟨last,rfl,stays,rfl⟩
        · rw [if_neg empty]
          exact .inr ⟨last,rfl,stays,by simp⟩

-- A run that the client did not end has sent what the stream parses to.
def Demuxes (interval : Metaint) (wantsIcy : Bool) (audio : Nat) (input : List UInt8) (pumped : Pumped) : Prop :=
  ∃ frames rest, Parses interval.bytes audio input frames rest ∧
    pumped.sent.flatten = demuxed wantsIcy interval.bytes audio frames rest ∧ pumped.titles = titlesOf frames

theorem Demuxes.atEnd {answer : Outcome} : Demuxes interval wantsIcy remaining [] ⟨[],[],answer⟩ :=
  ⟨[],[],.rest (.inl (Nat.zero_le _)),by simp [demuxed],rfl⟩

theorem Demuxes.audio {input bytes : List UInt8} {pumped : Pumped} (rest : Demuxes interval wantsIcy remaining input pumped) :
    Demuxes interval wantsIcy (bytes.length + remaining) (bytes ++ input) (pumped.after [bytes] []) := by
  obtain ⟨frames,rest,parsed,sent,titles⟩ := rest
  obtain ⟨frames',rest',parsed',same,grown⟩ := parsed.grow bytes
  refine ⟨frames',rest',parsed',?_,titles.trans same.symm⟩
  rw [grown,← sent]
  rfl

theorem Demuxes.unit {n : UInt8} {block input : List UInt8} {sent : List (List UInt8)} {pumped : Pumped}
    (whole : block.length = n.toNat * 16) (forwarded : sent.flatten = if wantsIcy then n :: block else [])
    (rest : Demuxes interval wantsIcy interval.bytes input pumped) :
    Demuxes interval wantsIcy 0 (n :: (block ++ input)) (pumped.after sent (rawTitle block).toList) := by
  obtain ⟨frames,rest,parsed,flat,titles⟩ := rest
  refine ⟨_,_,@Parses.frame _ ⟨[],n,block⟩ _ _ _ whole parsed,?_,?_⟩
  · change (sent ++ pumped.sent).flatten = _
    rw [List.flatten_append,forwarded,flat]
    cases wantsIcy with
    | true | false => simp [demuxed,Frame.forwarded]
  · change (rawTitle block).toList ++ pumped.titles = _
    rw [titles,titlesOf,titlesOf,List.filterMap_cons]
    cases rawTitle block with
    | none => rfl
    | some title => rfl

-- A run is over with all that the reader had to give, or the client went.
def Done (interval : Metaint) (wantsIcy : Bool) (remaining : Nat) (reader : Reader UInt8) (client : Client) (pumped : Pumped) : Prop :=
  pumped.outcome = .closed ∧ client ≠ none ∨
    pumped.outcome = stopped reader.atEnd ∧ Demuxes interval wantsIcy remaining reader.unread pumped

def Finishes (interval : Metaint) (wantsIcy : Bool) (turns : Nat) : Prop :=
  ∀ (reader : Reader UInt8) (remaining : Nat) (client : Client), reader.Sound → reader.unread.length < turns →
    ∃ pumped, pumpLoop (some interval) wantsIcy turns reader remaining client = some pumped ∧
      Done interval wantsIcy remaining reader client pumped

-- One turn of audio: the stream is over, or some bytes of it are sent.
theorem audio_turn {metaint : Option Metaint} (sound : reader.Sound) (audio : 0 < remaining) :
    (reader.unread = [] ∧ pumpLoop metaint wantsIcy (turns + 1) reader remaining client = some ⟨[],[],stopped reader.atEnd⟩) ∨
      ∃ bytes next, Reader.Gave reader bytes next ∧ bytes ≠ [] ∧ bytes.length ≤ remaining ∧
        pumpLoop metaint wantsIcy (turns + 1) reader remaining client = match client.next with
          | none => some ⟨[],[],.closed⟩
          | some client => (pumpLoop metaint wantsIcy turns next (remaining - bytes.length) client).map fun pumped => pumped.after [bytes] [] := by
  rw [pumpLoop,if_pos audio]
  rcases Reader.take_gave sound (show 0 < min remaining (16 * 1024) by omega) with ⟨empty,next,taken⟩ | ⟨bytes,next,taken,gave,some_bytes,few⟩
  · refine .inl ⟨empty,?_⟩
    rw [taken]
    rcases reader.atEnd_cases with failed | ended
    · rw [failed]
    · rw [ended]
  · have inside : bytes.length ≤ remaining := by omega
    refine .inr ⟨bytes,next,gave,some_bytes,inside,?_⟩
    rw [taken]
    dsimp only
    rw [if_neg (Nat.not_lt.mpr inside)]

theorem finishes_audio (later : Finishes interval wantsIcy turns) (sound : reader.Sound) (enough : reader.unread.length < turns + 1)
    (audio : 0 < remaining) : ∃ pumped, pumpLoop (some interval) wantsIcy (turns + 1) reader remaining client = some pumped ∧
      Done interval wantsIcy remaining reader client pumped := by
  rcases @audio_turn wantsIcy client reader turns remaining (some interval) sound audio with
    ⟨empty,atEnd⟩ | ⟨bytes,next,gave,some_bytes,inside,turn⟩
  · exact ⟨_,atEnd,.inr ⟨rfl,empty ▸ Demuxes.atEnd⟩⟩
  · rw [turn]
    have left : reader.unread.length = bytes.length + next.unread.length := by rw [gave.unread,List.length_append]
    have positive : 0 < bytes.length := List.length_pos_iff.mpr some_bytes
    cases there : client.next with
    | none => exact ⟨_,rfl,.inl ⟨rfl,Client.next_gone there⟩⟩
    | some client' =>
      obtain ⟨pumped,looped,done⟩ := later next (remaining - bytes.length) client' gave.sound (by omega)
      refine ⟨pumped.after [bytes] [],by dsimp only; rw [looped]; rfl,?_⟩
      refine done.imp (fun ⟨closed,gone⟩ => ⟨closed,Client.next_stays there gone⟩) fun ⟨atEnd,demuxes⟩ => ?_
      refine ⟨gave.atEnd ▸ atEnd,?_⟩
      have grown := @Demuxes.audio _ _ _ _ bytes _ demuxes
      rwa [Nat.add_sub_cancel' inside,← gave.unread] at grown

-- Without an interval the audio does not end before the stream does.
theorem finishes_plain (sound : reader.Sound) (enough : reader.unread.length < turns) (room : reader.unread.length < remaining) :
    ∃ pumped, pumpLoop none wantsIcy turns reader remaining client = some pumped ∧
      (pumped.outcome = .closed ∧ client ≠ none ∨
        pumped.outcome = stopped reader.atEnd ∧ pumped.sent.flatten = reader.unread ∧ pumped.titles = []) := by
  induction turns generalizing reader remaining client with
  | zero => exact absurd enough (Nat.not_lt_zero _)
  | succ turns ih =>
    rcases @audio_turn wantsIcy client reader turns remaining none sound (by omega) with
      ⟨empty,atEnd⟩ | ⟨bytes,next,gave,some_bytes,inside,turn⟩
    · exact ⟨_,atEnd,.inr ⟨rfl,empty.symm,rfl⟩⟩
    · rw [turn]
      have left : reader.unread.length = bytes.length + next.unread.length := by rw [gave.unread,List.length_append]
      have positive : 0 < bytes.length := List.length_pos_iff.mpr some_bytes
      cases there : client.next with
      | none => exact ⟨_,rfl,.inl ⟨rfl,Client.next_gone there⟩⟩
      | some client' =>
        obtain ⟨pumped,looped,done⟩ := @ih client' next (remaining - bytes.length) gave.sound (by omega) (by omega)
        refine ⟨pumped.after [bytes] [],by dsimp only; rw [looped]; rfl,?_⟩
        refine done.imp (fun ⟨closed,gone⟩ => ⟨closed,Client.next_stays there gone⟩) fun ⟨atEnd,sent,titles⟩ => ?_
        refine ⟨gave.atEnd ▸ atEnd,?_,titles⟩
        rw [gave.unread,← sent]
        rfl

-- The block of a unit whose length has been read, and what comes after it.
theorem finishes_block (later : Finishes interval wantsIcy turns) {n : UInt8} (sound : reader.Sound) (enough : reader.unread.length < turns) :
    ∃ pumped, ((reader.exact (n.toNat * 16)).bind fun
        | (.ok (some block),reader) =>
          match forward wantsIcy client [n] block with
          | (sent,none) => some ⟨sent,(rawTitle block).toList,.closed⟩
          | (sent,some client) => (pumpLoop (some interval) wantsIcy turns reader interval.bytes client).map fun pumped =>
              pumped.after sent (rawTitle block).toList
        | (answer,_) => some ⟨[],[],stopped answer⟩) = some pumped ∧
      (pumped.outcome = .closed ∧ client ≠ none ∨
        pumped.outcome = stopped reader.atEnd ∧ Demuxes interval wantsIcy 0 (n :: reader.unread) pumped) := by
  have blocks := Reader.exact_gave sound (n.toNat * 16)
  by_cases whole : n.toNat * 16 ≤ reader.unread.length
  · rw [if_pos whole] at blocks
    obtain ⟨block,last,read,gave,length⟩ := blocks
    rw [read,Option.bind_some]
    dsimp only
    have left : reader.unread.length = block.length + last.unread.length := by rw [gave.unread,List.length_append]
    have sends := @forward_sent wantsIcy client n block
    cases forwarded : forward wantsIcy client [n] block with
    | mk sent there =>
      rw [forwarded] at sends
      rcases sends with ⟨rfl,gone⟩ | ⟨client',rfl,stays,flat⟩
      · exact ⟨_,rfl,.inl ⟨rfl,gone⟩⟩
      · obtain ⟨pumped,looped,done⟩ := later last interval.bytes client' gave.sound (by omega)
        refine ⟨pumped.after sent (rawTitle block).toList,by dsimp only; rw [looped]; rfl,?_⟩
        refine done.imp (fun ⟨closed,gone⟩ => ⟨closed,stays gone⟩) fun ⟨atEnd,demuxes⟩ => ?_
        rw [gave.unread]
        exact ⟨gave.atEnd ▸ atEnd,Demuxes.unit length flat demuxes⟩
  · rw [if_neg whole] at blocks
    obtain ⟨last,read⟩ := blocks
    have short : Short 0 (n :: reader.unread) := .inr ⟨n,reader.unread,rfl,by omega⟩
    refine ⟨⟨[],[],stopped reader.atEnd⟩,?_,.inr ⟨rfl,[],_,.rest short,rfl,rfl⟩⟩
    rw [read]
    rcases reader.atEnd_cases with failed | ended
    · rw [failed]
      rfl
    · rw [ended]
      rfl

theorem finishes_unit (later : Finishes interval wantsIcy turns) (sound : reader.Sound) (enough : reader.unread.length < turns + 1) :
    ∃ pumped, pumpLoop (some interval) wantsIcy (turns + 1) reader 0 client = some pumped ∧ Done interval wantsIcy 0 reader client pumped := by
  rw [pumpLoop,if_neg (Nat.lt_irrefl 0)]
  have lengths := Reader.exact_gave sound 1
  by_cases empty : reader.unread = []
  · rw [empty,if_neg (by decide)] at lengths
    obtain ⟨next,read⟩ := lengths
    refine ⟨⟨[],[],stopped reader.atEnd⟩,?_,.inr ⟨rfl,empty ▸ Demuxes.atEnd⟩⟩
    rw [read]
    rcases reader.atEnd_cases with failed | ended
    · rw [failed]
      rfl
    · rw [ended]
      rfl
  · rw [if_pos (Nat.one_le_iff_ne_zero.mpr (mt List.length_eq_zero_iff.mp empty))] at lengths
    obtain ⟨bytes,next,read,gave,one⟩ := lengths
    obtain ⟨n,rfl⟩ := List.length_eq_one_iff.mp one
    have left : reader.unread = n :: next.unread := gave.unread
    have fewer : next.unread.length < turns := by
      rw [left,List.length_cons] at enough
      omega
    unfold Done
    rw [read,left,← gave.atEnd]
    exact finishes_block later gave.sound fewer

-- Each turn takes a byte at least, so a run is over with as many turns as bytes.
theorem finishes (turns : Nat) : Finishes interval wantsIcy turns := by
  induction turns with
  | zero => exact fun _ _ _ _ enough => absurd enough (Nat.not_lt_zero _)
  | succ turns ih =>
    intro reader remaining client sound enough
    cases remaining with
    | zero => exact finishes_unit ih sound enough
    | succ remaining => exact finishes_audio ih sound enough (Nat.succ_pos _)

-- More turns than a run needs change nothing.
theorem pumpLoop_more {metaint : Option Metaint} {pumped : Pumped}
    (done : pumpLoop metaint wantsIcy turns reader remaining client = some pumped) :
    pumpLoop metaint wantsIcy (turns + 1) reader remaining client = some pumped := by
  induction turns generalizing reader remaining client pumped with
  | zero => cases done
  | succ turns ih =>
    have later {next : Reader UInt8} {remaining : Nat} {client : Client} {sent titles} {pumped : Pumped}
        (done : (pumpLoop metaint wantsIcy turns next remaining client).map (fun pumped => pumped.after sent titles) = some pumped) :
        (pumpLoop metaint wantsIcy (turns + 1) next remaining client).map (fun pumped => pumped.after sent titles) = some pumped := by
      obtain ⟨rest,looped,same⟩ := Option.map_eq_some_iff.mp done
      exact Option.map_eq_some_iff.mpr ⟨rest,ih looped,same⟩
    rw [pumpLoop] at done ⊢
    by_cases audio : 0 < remaining
    · rw [if_pos audio] at done ⊢
      split at done
      · rename_i bytes next taken
        by_cases under : remaining < bytes.length
        · rwa [if_pos under] at done ⊢
        · rw [if_neg under] at done ⊢
          cases there : client.next with
          | none => rwa [there] at done
          | some client' =>
            rw [there] at done
            exact later done
      · exact done
    · rw [if_neg audio] at done ⊢
      refine (Option.bind_eq_some_iff.mp done).elim fun answer ⟨read,done⟩ => Option.bind_eq_some_iff.mpr ⟨answer,read,?_⟩
      split at done
      · refine (Option.bind_eq_some_iff.mp done).elim fun answer ⟨read,done⟩ => Option.bind_eq_some_iff.mpr ⟨answer,read,?_⟩
        split at done
        · dsimp only at done ⊢
          split at done
          · exact done
          · cases metaint with
            | none => exact done
            | some interval => exact later done
        · exact done
      · exact done

theorem pumpLoop_turns {metaint : Option Metaint} {pumped : Pumped} {turns turns' : Nat} (le : turns ≤ turns')
    (done : pumpLoop metaint wantsIcy turns reader remaining client = some pumped) :
    pumpLoop metaint wantsIcy turns' reader remaining client = some pumped :=
  Nat.le_induction done (fun _ _ ih => pumpLoop_more ih) turns' le

-- The loop comes to its end with this.
def Relays (metaint : Option Metaint) (wantsIcy : Bool) (reader : Reader UInt8) (client : Client) (pumped : Pumped) : Prop :=
  ∃ turns, pump metaint wantsIcy turns reader client = some pumped

theorem Relays.unique {metaint : Option Metaint} {pumped pumped' : Pumped} (run : Relays metaint wantsIcy reader client pumped)
    (run' : Relays metaint wantsIcy reader client pumped') : pumped = pumped' := by
  obtain ⟨turns,done⟩ := run
  obtain ⟨turns',done'⟩ := run'
  have whole := pumpLoop_turns (Nat.le_max_left turns turns') done
  have whole' := pumpLoop_turns (Nat.le_max_right turns turns') done'
  exact Option.some.inj (whole.symm.trans whole')

-- What an input has to become, with the units that it parses to.
structure Demultiplexed (metaint : Option Metaint) (wantsIcy : Bool) (input : List UInt8) (pumped : Pumped) : Prop where
  units : ∀ interval, metaint = some interval → ∃ frames rest, Parses interval.bytes interval.bytes input frames rest ∧
    (∀ frames' rest', Parses interval.bytes interval.bytes input frames' rest' → frames' = frames ∧ rest' = rest) ∧
    pumped.sent.flatten = frames.flatMap (Frame.forwarded wantsIcy) ++ rest.take interval.bytes ∧ pumped.titles = titlesOf frames
  plain : metaint = none → pumped.sent.flatten = input ∧ pumped.titles = []

theorem Demultiplexed.same {metaint : Option Metaint} {input : List UInt8} {pumped pumped' : Pumped}
    (result : Demultiplexed metaint wantsIcy input pumped) (result' : Demultiplexed metaint wantsIcy input pumped') :
    pumped'.sent.flatten = pumped.sent.flatten ∧ pumped'.titles = pumped.titles := by
  cases metaint with
  | none =>
    obtain ⟨sent,titles⟩ := result.plain rfl
    obtain ⟨sent',titles'⟩ := result'.plain rfl
    exact ⟨sent'.trans sent.symm,titles'.trans titles.symm⟩
  | some interval =>
    obtain ⟨frames,rest,parsed,_,sent,titles⟩ := result.units interval rfl
    obtain ⟨frames',rest',_,only,sent',titles'⟩ := result'.units interval rfl
    obtain ⟨rfl,rfl⟩ := only frames rest parsed
    exact ⟨sent'.trans sent.symm,titles'.trans titles.symm⟩

theorem Demuxes.demultiplexed {input : List UInt8} {pumped : Pumped} (result : Demuxes interval wantsIcy interval.bytes input pumped) :
    Demultiplexed (some interval) wantsIcy input pumped := by
  obtain ⟨frames,rest,parsed,sent,titles⟩ := result
  refine ⟨?_,nofun⟩
  rintro _ ⟨⟩
  rw [demuxed,ite_self] at sent
  exact ⟨frames,rest,parsed,fun _ _ other => other.unique parsed,sent,titles⟩

theorem pump_relays {metaint : Option Metaint} (sound : reader.Sound) (short : metaint = none → reader.unread.length < usizeMax) :
    ∃ pumped, Relays metaint wantsIcy reader client pumped ∧ (pumped.outcome = .closed ∧ client ≠ none ∨
      pumped.outcome = stopped reader.atEnd ∧ Demultiplexed metaint wantsIcy reader.unread pumped) := by
  cases metaint with
  | none =>
    obtain ⟨pumped,done,result⟩ := @finishes_plain wantsIcy client reader _ usizeMax sound (Nat.lt_succ_self _) (short rfl)
    exact ⟨pumped,⟨_,done⟩,result.imp_right fun ⟨atEnd,sent,titles⟩ => ⟨atEnd,nofun,fun _ => ⟨sent,titles⟩⟩⟩
  | some interval =>
    obtain ⟨pumped,done,result⟩ := @finishes interval wantsIcy _ reader interval.bytes client sound (Nat.lt_succ_self _)
    exact ⟨pumped,⟨_,done⟩,result.imp_right fun ⟨atEnd,demuxes⟩ => ⟨atEnd,demuxes.demultiplexed⟩⟩

end run

-- A relay comes to an end without a panic. What it has sent, if the client stayed, is
-- what the bytes parse to, however they were cut; and the titles that relays publish
-- stay within their number.
theorem icy_demultiplexed {T : Type} [LinearOrder T] (metaint : Option Metaint) (wantsIcy : Bool) (client : Client) {reader : Reader UInt8}
    (sound : reader.Sound) (short : metaint = none → reader.unread.length < usizeMax) :
    ∃ pumped, (∀ other, Relays metaint wantsIcy reader client other ↔ other = pumped) ∧
      pumped.outcome ≠ .panicked ∧ (client = none → pumped.outcome = stopped reader.atEnd) ∧
      (pumped.outcome ≠ .closed → Demultiplexed metaint wantsIcy reader.unread pumped ∧
        ∀ (reader' : Reader UInt8) (client' : Client) (pumped' : Pumped), reader'.Sound → reader'.unread = reader.unread →
          Relays metaint wantsIcy reader' client' pumped' → pumped'.outcome ≠ .closed →
          pumped'.sent.flatten = pumped.sent.flatten ∧ pumped'.titles = pumped.titles) ∧
      ∀ (published : List (String × TitleSnapshot T)) (titles : Titles T), Published ∅ published titles → titles.keys.length ≤ 1024 := by
  obtain ⟨pumped,run,result⟩ := @pump_relays wantsIcy client reader metaint sound short
  refine ⟨pumped,fun other => ⟨fun run' => run'.unique run,fun same => same ▸ run⟩,?_,?_,?_,?_⟩
  · rcases result with ⟨closed,_⟩ | ⟨atEnd,_⟩
    · rw [closed]
      decide
    · rw [atEnd]
      rcases reader.atEnd_cases with failed | ended
      · rw [failed]
        decide
      · rw [ended]
        decide
  · intro stays
    exact (result.resolve_left fun ⟨_,gone⟩ => gone stays).1
  · intro ended
    have whole := (result.resolve_left fun ⟨closed,_⟩ => ended closed).2
    refine ⟨whole,fun reader' client' pumped' sound' same run' ended' => ?_⟩
    obtain ⟨other,again,result'⟩ := @pump_relays wantsIcy client' reader' metaint sound' fun none => same ▸ short none
    obtain rfl := run'.unique again
    exact whole.same (same ▸ (result'.resolve_left fun ⟨closed,_⟩ => ended' closed).2)
  · intro published titles run
    exact run.size (Nat.zero_le _)

-- A block of metadata that comes in two chunks, between audio of two bytes.
def titleBlock : List UInt8 := [83,116,114,101,97,109,84,105,116,108,101,61,39,97,39,59]

def cutStream : Reader UInt8 := .new ⟨[[1],2 :: 1 :: titleBlock.take 5,titleBlock.drop 5 ++ [3],[4,0,5]],false⟩

theorem cutStream_sound : cutStream.Sound := ⟨Nat.le_refl _,by decide⟩

theorem icy_demultiplexed_cut : ∃ pumped, Relays (some ⟨2,by decide,by decide⟩) true cutStream none pumped ∧
    pumped.sent.flatten = [1,2,1] ++ titleBlock ++ [3,4,0,5] ∧ pumped.titles = ["a"] ∧
    ∀ (reader' : Reader UInt8) (client' : Client) (pumped' : Pumped), reader'.Sound →
      reader'.unread = [1,2,1] ++ titleBlock ++ [3,4,0,5] → Relays (some ⟨2,by decide,by decide⟩) true reader' client' pumped' →
      pumped'.outcome ≠ .closed → pumped'.sent.flatten = pumped.sent.flatten ∧ pumped'.titles = ["a"] := by
  have run : Relays (some ⟨2,by decide,by decide⟩) true cutStream none ⟨[[1],[2],[1],titleBlock,[3],[4],[0],[5]],["a"],.ended⟩ :=
    ⟨30,by decide +kernel⟩
  obtain ⟨pumped,only,_,_,whole,_⟩ :=
    @icy_demultiplexed Nat _ (some ⟨2,by decide,by decide⟩) true none cutStream cutStream_sound nofun
  obtain rfl := (only _).mp run
  exact ⟨_,run,rfl,rfl,(whole (by decide)).2⟩

end Relay
