import RockServer.CommandWire

namespace DeviceControl

-- Which names the decoder of command bodies accepts, and what the encoder makes
-- of them.
def nameOf (m : JsonMap) : Option String := (m.lookup "name").bind asStr

def fixedNames : List String := ["station.play_station","station.play_stream","display.show_text","display.show_view",
  "volume.set_volume","volume.change_volume","volume.set_mute","entity.turn_on","entity.turn_off","entity.set_value"]

def playbackName (action : String) : String := s!"playback.{action}"

def builtinNames : List String := fixedNames ++ playbackActions.map playbackName

-- The name behind which a second `playback.` would be trimmed as well.
def doublePrefix (name : String) : Bool := startsWith (playbackPrefix ++ playbackPrefix) name.toList

def CommandBody.known : CommandBody → Bool
  | .unknown _ _ => false
  | _ => true

section trim
variable {pattern text : List Char} {rounds : Nat}

theorem startsWith_iff : startsWith pattern text = true ↔ ∃ rest, text = pattern ++ rest := by
  rw [startsWith,List.isPrefixOf_iff_prefix]
  constructor
  · rintro ⟨rest,rfl⟩
    exact ⟨rest,rfl⟩
  · rintro ⟨rest,rfl⟩
    exact ⟨rest,rfl⟩

theorem trim_stays (other : startsWith pattern text = false) : trimStartMatches pattern rounds text = text := by
  cases rounds with
  | zero => rfl
  | succ rounds => simp [trimStartMatches,other]

theorem trim_length (pattern : List Char) (rounds : Nat) (text : List Char) :
    (trimStartMatches pattern rounds text).length ≤ text.length := by
  induction rounds generalizing text with
  | zero => exact Nat.le_refl _
  | succ rounds ih =>
    unfold trimStartMatches
    split
    · refine Nat.le_trans (ih _) ?_
      rw [List.length_drop]
      omega
    · exact Nat.le_refl _

theorem trim_once (rest : List Char) :
    trimStartMatches pattern (rounds + 1) (pattern ++ rest) = trimStartMatches pattern rounds rest := by
  have begins : startsWith pattern (pattern ++ rest) = true := startsWith_iff.mpr ⟨rest,rfl⟩
  simp [trimStartMatches,begins]

-- Behind one pattern the rest comes back exactly if it does not begin with the
-- pattern again.
theorem trim_exact (some_ : pattern ≠ []) (positive : 0 < rounds) {rest : List Char} :
    trimStartMatches pattern (rounds + 1) (pattern ++ rest) = rest ↔ startsWith pattern rest = false := by
  rw [trim_once]
  constructor
  · intro same
    by_contra again
    obtain ⟨tail,rfl⟩ := startsWith_iff.mp (by simpa using again)
    obtain ⟨rounds,rfl⟩ := Nat.exists_eq_succ_of_ne_zero (Nat.pos_iff_ne_zero.mp positive)
    have shorter := trim_length pattern rounds tail
    rw [Nat.succ_eq_add_one,trim_once] at same
    have lengths := congrArg List.length same
    have one : 0 < pattern.length := List.length_pos_iff.mpr some_
    rw [List.length_append] at lengths
    omega
  · exact trim_stays

theorem starts_twice {rest : List Char} :
    startsWith (pattern ++ pattern) (pattern ++ rest) = startsWith pattern rest := by
  rw [Bool.eq_iff_iff,startsWith_iff,startsWith_iff]
  constructor
  · rintro ⟨tail,same⟩
    rw [List.append_assoc] at same
    exact ⟨tail,List.append_cancel_left same⟩
  · rintro ⟨tail,rfl⟩
    exact ⟨tail,(List.append_assoc _ _ _).symm⟩

end trim

section names
variable {serde : Serde} {m : JsonMap} {body : CommandBody}

theorem map_ok {E A B : Type} {f : A → B} {first : Except E A} {b : B} (done : first.map f = .ok b) : ∃ a, b = f a := by
  cases first with
  | error => cases done
  | ok a => exact ⟨a,(Except.ok.inj done).symm⟩

theorem playStream_decoded (decoded : decodePlayStream m = .ok body) :
    ∃ source stationId station streamUri, body = .playStream source stationId station streamUri := by
  unfold decodePlayStream at decoded
  split at decoded
  · split at decoded
    · obtain ⟨stationId,_,decoded⟩ := bind_done decoded
      obtain ⟨station,_,decoded⟩ := bind_done decoded
      obtain ⟨streamUri,_,decoded⟩ := bind_done decoded
      exact ⟨_,_,_,_,(Except.ok.inj decoded).symm⟩
    · split at decoded
      · split at decoded
        · cases decoded
        · split at decoded
          · cases decoded
          · obtain ⟨streamUri,_,decoded⟩ := bind_done decoded
            exact ⟨_,_,_,_,(Except.ok.inj decoded).symm⟩
      · cases decoded
  · cases decoded

theorem showView_decoded (decoded : decodeShowView m = .ok body) :
    (∃ title items, body = .display (.sensorGrid title items)) ∨
    ∃ stationId title subtitle, body = .display (.nowPlaying stationId title subtitle) := by
  unfold decodeShowView at decoded
  split at decoded
  · split at decoded
    · obtain ⟨title,_,decoded⟩ := bind_done decoded
      obtain ⟨items,_,decoded⟩ := bind_done decoded
      exact .inl ⟨_,_,(Except.ok.inj decoded).symm⟩
    · split at decoded
      · obtain ⟨stationId,_,decoded⟩ := bind_done decoded
        obtain ⟨title,_,decoded⟩ := bind_done decoded
        obtain ⟨subtitle,_,decoded⟩ := bind_done decoded
        exact .inr ⟨_,_,_,(Except.ok.inj decoded).symm⟩
      · cases decoded
  · cases decoded

theorem fixed_apart : ∀ name ∈ fixedNames, startsWith playbackPrefix name.toList = false := by decide

-- The inversion of the decoder: a fixed name, which the encoder gives back; the
-- trimmed playback action; or an extension carried whole.
theorem ofMap_cases (decoded : CommandBody.ofMap serde m = .ok body) : ∃ name, nameOf m = some name ∧
    ((name ∈ fixedNames ∧ nameOf (body.toMap serde) = some name ∧ body.known = true ∧ ∀ action, body ≠ .playback action) ∨
    (startsWith playbackPrefix name.toList = true ∧
      body = .playback (String.ofList (trimStartMatches playbackPrefix name.length name.toList))) ∨
    (startsWith playbackPrefix name.toList = false ∧ name ∉ fixedNames ∧ namespaced name = true ∧
      body = .unknown name m)) := by
  unfold CommandBody.ofMap at decoded
  split at decoded
  · cases decoded
  rename_i name found
  refine ⟨name,found,?_⟩
  by_cases fixed : name ∈ fixedNames
  · have other := fixed_apart name fixed
    refine .inl ⟨fixed,?_⟩
    simp only [fixedNames,List.mem_cons,List.not_mem_nil,or_false] at fixed
    rcases fixed with rfl | rfl | rfl | rfl | rfl | rfl | rfl | rfl | rfl | rfl
    · simp only [if_true] at decoded
      obtain ⟨stationId,rfl⟩ := map_ok decoded
      exact ⟨rfl,rfl,by simp⟩
    · simp only [String.reduceEq,if_false,if_true] at decoded
      obtain ⟨source,stationId,station,streamUri,rfl⟩ := playStream_decoded decoded
      refine ⟨?_,rfl,by simp⟩
      cases stationId <;> cases station <;> rfl
    · simp only [String.reduceEq,if_false,if_true] at decoded
      obtain ⟨text,rfl⟩ := map_ok decoded
      exact ⟨rfl,rfl,by simp⟩
    · simp only [String.reduceEq,if_false,if_true] at decoded
      rcases showView_decoded decoded with ⟨title,items,rfl⟩ | ⟨stationId,title,subtitle,rfl⟩
      · exact ⟨rfl,rfl,by simp⟩
      · exact ⟨rfl,rfl,by simp⟩
    · simp only [String.reduceEq,other,Bool.false_eq_true,if_false,if_true] at decoded
      obtain ⟨level,rfl⟩ := map_ok decoded
      exact ⟨rfl,rfl,by simp⟩
    · simp only [String.reduceEq,other,Bool.false_eq_true,if_false,if_true] at decoded
      obtain ⟨delta,rfl⟩ := map_ok decoded
      exact ⟨rfl,rfl,by simp⟩
    · simp only [String.reduceEq,other,Bool.false_eq_true,if_false,if_true] at decoded
      obtain ⟨muted,rfl⟩ := map_ok decoded
      exact ⟨rfl,rfl,by simp⟩
    · simp only [String.reduceEq,other,Bool.false_eq_true,if_false,if_true] at decoded
      cases decoded
      exact ⟨rfl,rfl,by simp⟩
    · simp only [String.reduceEq,other,Bool.false_eq_true,if_false,if_true] at decoded
      cases decoded
      exact ⟨rfl,rfl,by simp⟩
    · simp only [String.reduceEq,other,Bool.false_eq_true,if_false,if_true] at decoded
      obtain ⟨value,rfl⟩ := map_ok decoded
      exact ⟨rfl,rfl,by simp⟩
  · have apart : ∀ other ∈ fixedNames, name ≠ other := fun other listed same => fixed (same ▸ listed)
    simp only [fixedNames,List.forall_mem_cons,List.not_mem_nil,false_implies,implies_true,and_true] at apart
    obtain ⟨a,b,c,d,e,f,g,h,i,j⟩ := apart
    simp only [if_neg a,if_neg b,if_neg c,if_neg d,if_neg e,if_neg f,if_neg g,if_neg h,if_neg i,if_neg j] at decoded
    split at decoded
    · rename_i begins
      exact .inr (.inl ⟨begins,(Except.ok.inj decoded).symm⟩)
    · rename_i other
      split at decoded
      · rename_i spaced
        exact .inr (.inr ⟨by simpa using other,fixed,spaced,(Except.ok.inj decoded).symm⟩)
      · cases decoded

theorem not_doubled {name : String} (other : startsWith playbackPrefix name.toList = false) : doublePrefix name = false := by
  by_contra doubled
  obtain ⟨rest,same⟩ := startsWith_iff.mp (by simpa [doublePrefix] using doubled)
  rw [List.append_assoc] at same
  have begins : startsWith playbackPrefix name.toList = true := startsWith_iff.mpr ⟨_,same⟩
  rw [other] at begins
  cases begins

theorem playbackName_list (action : String) : (playbackName action).toList = playbackPrefix ++ action.toList :=
  String.toList_append

-- A playback name comes back from the action that is left of it exactly if the
-- prefix stands there once.
theorem playback_name_back {name : String} (begins : startsWith playbackPrefix name.toList = true) :
    playbackName (String.ofList (trimStartMatches playbackPrefix name.length name.toList)) = name ↔
    doublePrefix name = false := by
  obtain ⟨rest,same⟩ := startsWith_iff.mp begins
  have nine : playbackPrefix.length = 9 := rfl
  have rounds : name.length = (8 + rest.length) + 1 := by
    rw [← String.length_toList,same,List.length_append,nine]
    omega
  rw [← String.toList_inj,playbackName_list,String.toList_ofList,rounds,doublePrefix,same,starts_twice,
    List.append_cancel_left_eq]
  exact trim_exact (by decide) (by omega)

theorem playback_validated {action : String} (accepted : (CommandBody.playback action).validate = .ok ()) :
    action ∈ playbackActions := by
  change (if action ∈ playbackActions then Except.ok () else Except.error (ValidationError.invalidPayload "command")) = _ at accepted
  split at accepted
  · assumption
  · cases accepted

theorem undoubled_unique {other : JsonMap} {name name' : String} (decoded : CommandBody.ofMap serde m = .ok body)
    (decoded' : CommandBody.ofMap serde other = .ok body) (known : body.known = true) (found : nameOf m = some name)
    (found' : nameOf other = some name') (once : doublePrefix name = false) (once' : doublePrefix name' = false) :
    name = name' := by
  have back : ∀ {m : JsonMap} {name : String}, CommandBody.ofMap serde m = .ok body → nameOf m = some name →
      doublePrefix name = false → nameOf (body.toMap serde) = some name := by
    intro m name decoded found once
    obtain ⟨same,present,cases_⟩ := ofMap_cases decoded
    cases Option.some.inj (found.symm.trans present)
    rcases cases_ with ⟨_,kept,_⟩ | ⟨begins,rfl⟩ | ⟨_,_,_,rfl⟩
    · exact kept
    · exact congrArg some ((playback_name_back begins).mpr once)
    · cases known
  exact Option.some.inj ((back decoded found once).symm.trans (back decoded' found' once'))

end names

-- For every object that decodes to an accepted body: the name comes back, and a
-- name outside the vocabulary is carried as an extension, exactly if the object
-- does not repeat the playback prefix.
theorem decoder_names_iff (serde : Serde) {m : JsonMap} {command : DeviceCommand} {receivedAt : Timestamp}
    (decoded : CommandBody.ofMap serde m = .ok command.body) (accepted : command.validateAt receivedAt = .ok ()) :
    ∃ name, nameOf m = some name ∧
    ((nameOf (command.body.toMap serde) = some name ∧
        (name ∉ builtinNames → command.body = .unknown name m ∧ namespaced name = true)) ↔
      doublePrefix name = false) ∧
    ∀ other name', CommandBody.ofMap serde other = .ok command.body → nameOf other = some name' →
      command.body.known = true → doublePrefix name = false → doublePrefix name' = false → name = name' := by
  obtain ⟨name,found,shape⟩ := ofMap_cases decoded
  refine ⟨name,found,?_,fun other name' decoded' found' known once once' =>
    undoubled_unique decoded decoded' known found found' once once'⟩
  rcases shape with ⟨fixed,kept,_,_⟩ | ⟨begins,body⟩ | ⟨other,_,spaced,body⟩
  · refine iff_of_true ⟨kept,fun outside => ?_⟩ (not_doubled (fixed_apart name fixed))
    exact absurd (List.mem_append.mpr (.inl fixed)) outside
  · have action := (validateAt_iff.mp accepted).2.2
    rw [body] at action
    rw [body,← playback_name_back begins]
    constructor
    · rintro ⟨kept,_⟩
      exact Option.some.inj kept
    · intro back
      refine ⟨congrArg some back,fun outside => absurd ?_ outside⟩
      rw [← back]
      exact List.mem_append.mpr (.inr (List.mem_map_of_mem (playback_validated action)))
  · rw [body]
    exact iff_of_true ⟨found,fun _ => ⟨rfl,spaced⟩⟩ (not_doubled other)

def named (name : String) : JsonMap := [("name",.string name)]

def playerCommand (body : CommandBody) : DeviceCommand := ⟨⟨7⟩,⟨⟨2⟩,none,none⟩,none,body⟩

def firstSecond : Timestamp := ⟨"1970-01-01T00:00:01Z",seconds 1⟩

theorem decoder_names_iff_next : ∃ name, nameOf (named "playback.next") = some name ∧
    nameOf ((CommandBody.playback "next").toMap sampleSerde) = some name := by
  have decoded : CommandBody.ofMap sampleSerde (named "playback.next") = .ok (.playback "next") := by decide
  have accepted : (playerCommand (.playback "next")).validateAt firstSecond = .ok () := by decide
  obtain ⟨name,found,exact_,_⟩ := @decoder_names_iff sampleSerde _ (playerCommand (.playback "next")) _ decoded accepted
  have same : name = "playback.next" := by cases found; rfl
  subst same
  exact ⟨_,found,(exact_.mpr (by decide)).1⟩

-- A name with the prefix twice plays on like the name with it once.
theorem doubled_prefix_decodes :
    CommandBody.ofMap sampleSerde (named "playback.playback.next") = .ok (.playback "next") ∧
    CommandBody.ofMap sampleSerde (named "playback.next") = .ok (.playback "next") ∧
    (playerCommand (.playback "next")).validateAt firstSecond = .ok () ∧
    nameOf ((CommandBody.playback "next").toMap sampleSerde) ≠ nameOf (named "playback.playback.next") ∧
    "playback.playback.next" ∉ builtinNames := by
  refine ⟨by decide,by decide,by decide,by decide,by decide⟩

end DeviceControl
