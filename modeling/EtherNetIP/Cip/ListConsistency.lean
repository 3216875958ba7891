import EtherNetIP.Cip.ListBounds

/-! What the replies of the list services tell.

A client counts the entries, looks at their statuses and at the general status. The
count that is written is the one of the request, and the status of an entry is
written before its value is decoded; the general status is left by whatever came
last.
-/

set_option autoImplicit false

namespace EtherNetIP

variable {environment : ServiceEnvironment} {cipClass : AttributeClass} {inst : CipInstance}
  {request : CipMessageRouterRequest} {device : CipDevice}

section Telling

def Response.attributeCount (response : Response) : UInt16 := (getUintFromMessage.run response.message).1

def AllSucceeded (request : CipMessageRouterRequest) (entries : List ListEntry) : Prop :=
  entries.length = (attributeCountRequest request).toNat ∧ ∀ entry ∈ entries, entry.status = kCipErrorSuccess

def encodedLength (inst : CipInstance) (device : CipDevice) (attributeNumber : UInt16) (position : Nat) : Nat :=
  match inst.getCipAttribute attributeNumber with
  | some (some attr) => (attr.encode (device.memory.read attr.data) (UInt64.ofNat position)).length
  | _ => 0

def Readable (cipClass : AttributeClass) (inst : CipInstance) (attributeNumber : UInt16) : Prop :=
  (∃ attr, inst.getCipAttribute attributeNumber = some (some attr)) ∧ attributeNumber ∈ cipClass.getSingleBitMask

/-- The status of an entry tells whether there is an attribute that may be read; its value is then in the entry, as it
is encoded at some place of a message. -/
def TellsRead (cipClass : AttributeClass) (inst : CipInstance) (device : CipDevice) (entry : ListEntry) : Prop :=
  (entry.status = kCipErrorSuccess ↔ Readable cipClass inst entry.attributeNumber) ∧
    ∀ attr, entry.status = kCipErrorSuccess → inst.getCipAttribute entry.attributeNumber = some (some attr) →
      ∃ used, entry.data = attr.encode (device.memory.read attr.data) used

/-- The reply to a request for attributes is consistent. -/
def GetConsistent (environment : ServiceEnvironment) (cipClass : AttributeClass) (inst : CipInstance)
    (request : CipMessageRouterRequest) (device : CipDevice) : Prop :=
  ∃ reply, getAttributeList environment cipClass inst request device = some reply ∧
    let entries := reply.response.entries (encodedLength inst device)
    reply.response.attributeCount.toNat = entries.length ∧
      (∀ position entry, entries[position]? = some entry →
        entry.attributeNumber = requestedNumber request position ∧ TellsRead cipClass inst device entry) ∧
      (reply.response.generalStatus = kCipErrorSuccess ↔ AllSucceeded request entries)

def Pass.listing : Pass → Listing
  | .next listing | .full listing | .returned listing => listing

/-- The status of an entry tells whether the pass that has added it has written the requested value, or has left the
device as it was. -/
def TellsWritten (environment : ServiceEnvironment) (cipClass : AttributeClass) (inst : CipInstance)
    (request : CipMessageRouterRequest) (device : CipDevice) (position : Nat) (entry : ListEntry) : Prop :=
  ∃ before ended, Reaches (setListed environment request cipClass) inst (listStart environment request device)
      position before ∧
    pass (setListed environment request cipClass) inst before = some ended ∧
    entry.attributeNumber = before.getUint.1 ∧
    (entry.status = kCipErrorSuccess →
      ∃ attr decode, inst.getCipAttribute entry.attributeNumber = some (some attr) ∧ attr.decode = some decode ∧
        ended.listing.device.memory.read attr.data =
          decode.valueOf (requestOctets environment request (before.request.position + 2))) ∧
    (entry.status ≠ kCipErrorSuccess → ended.listing.device = before.device)

/-- The reply to a request to set attributes is consistent. -/
def SetConsistent (environment : ServiceEnvironment) (cipClass : AttributeClass) (inst : CipInstance)
    (request : CipMessageRouterRequest) (device : CipDevice) : Prop :=
  ∃ reply, setAttributeList environment cipClass inst request device = some reply ∧
    let entries := reply.response.entries fun _ _ => 0
    reply.response.attributeCount.toNat = entries.length ∧
      (∀ position entry, entries[position]? = some entry →
        TellsWritten environment cipClass inst request device position entry) ∧
      (reply.response.generalStatus = kCipErrorSuccess ↔ AllSucceeded request entries)

end Telling

section Statuses

theorem notSupported_ne_success : kCipErrorAttributeNotSupported ≠ kCipErrorSuccess := by decide

theorem notGettable_ne_success : kCipErrorAttributeNotGettable ≠ kCipErrorSuccess := by decide

theorem notSetable_ne_success : kCipErrorAttributeNotSetable ≠ kCipErrorSuccess := by decide

theorem listError_ne_success : kCipErrorAttributeListError ≠ kCipErrorSuccess := by decide

theorem partialTransfer_ne_success : kCipErrorPartialTransfer ≠ kCipErrorSuccess := by decide

end Statuses

section Reading

variable {dataLength : UInt16 → Nat → Nat} {entries : List ListEntry} {position : Nat}

theorem length_le_octets (entries : List ListEntry) : entries.length ≤ (entries.flatMap ListEntry.octets).length := by
  induction entries with
  | nil => exact Nat.le_refl _
  | cons entry entries ih =>
      rw [List.flatMap_cons, List.length_append, ListEntry.octets_length, List.length_cons]
      omega

theorem entries_message {front : List CipOctet} (two : front.length = 2) (long : AsLong dataLength 2 entries)
    (generalStatus : UInt8) :
    Response.entries dataLength
      { emptyReply request generalStatus with message := front ++ entries.flatMap ListEntry.octets } = entries := by
  have enough : entries.length ≤ (front ++ entries.flatMap ListEntry.octets).length := by
    rw [List.length_append]
    exact Nat.le_add_left_of_le (length_le_octets entries)
  unfold Response.entries
  dsimp only
  rw [← two, List.drop_left, two]
  exact readEntries_octets long enough

theorem attributeCount_message (attributeCount : UInt16) (octets : List CipOctet) (generalStatus : UInt8) :
    Response.attributeCount
      { emptyReply request generalStatus with message := addIntToMessage attributeCount ++ octets } = attributeCount :=
  congrArg Prod.fst (getUintFromMessage_add octets attributeCount)

theorem asLong_append {entry : ListEntry} :
    AsLong dataLength position (entries ++ [entry]) ↔
      AsLong dataLength position entries ∧
        entry.data.length =
          if entry.status = kCipErrorSuccess then
            dataLength entry.attributeNumber (position + (entries.flatMap ListEntry.octets).length + 4)
          else 0 := by
  induction entries generalizing position with
  | nil =>
      rw [List.nil_append, AsLong, AsLong, AsLong, List.flatMap_nil]
      exact and_comm
  | cons first entries ih =>
      have behind : position + 4 + first.data.length + (entries.flatMap ListEntry.octets).length =
          position + ((first :: entries).flatMap ListEntry.octets).length := by
        rw [List.flatMap_cons, List.length_append, ListEntry.octets_length]
        omega
      rw [List.cons_append, AsLong, AsLong, ih, and_assoc, behind]

end Reading

section Getting

variable {position : Nat}

theorem getEntry_unreadable {attributeNumber : UInt16} (unreadable : ¬ Readable cipClass inst attributeNumber)
    (device : CipDevice) (used : Nat) :
    ∃ status ≠ kCipErrorSuccess, getEntry cipClass inst device attributeNumber used = ⟨attributeNumber, status, []⟩ := by
  unfold getEntry
  cases found : inst.getCipAttribute attributeNumber with
  | none => exact ⟨_, notSupported_ne_success, rfl⟩
  | some entry =>
      cases entry with
      | none => exact ⟨_, notGettable_ne_success, rfl⟩
      | some attr => exact ⟨_, notGettable_ne_success, if_neg fun gettable => unreadable ⟨⟨attr, found⟩, gettable⟩⟩

theorem getEntry_tells (cipClass : AttributeClass) (inst : CipInstance) (device : CipDevice) (attributeNumber : UInt16)
    (used : Nat) : TellsRead cipClass inst device (getEntry cipClass inst device attributeNumber used) := by
  by_cases readable : Readable cipClass inst attributeNumber
  · obtain ⟨⟨attr, found⟩, gettable⟩ := readable
    rw [getEntry_readable found gettable]
    refine ⟨iff_of_true rfl ⟨⟨attr, found⟩, gettable⟩, fun other _ same => ?_⟩
    cases found.symm.trans same
    exact ⟨_, rfl⟩
  · obtain ⟨status, error, same⟩ := getEntry_unreadable readable device used
    rw [same]
    exact ⟨iff_of_false error readable, fun _ success => absurd success error⟩

theorem getEntry_length (attributeNumber : UInt16) (used : Nat) :
    (getEntry cipClass inst device attributeNumber used).data.length =
      if (getEntry cipClass inst device attributeNumber used).status = kCipErrorSuccess then
        encodedLength inst device attributeNumber (used + 4) else 0 := by
  by_cases readable : Readable cipClass inst attributeNumber
  · obtain ⟨⟨attr, found⟩, gettable⟩ := readable
    rw [getEntry_readable found gettable, encodedLength, found]
    rfl
  · obtain ⟨status, error, same⟩ := getEntry_unreadable readable device used
    rw [same]
    exact (if_neg error).symm

theorem asLong_getEntries (position : Nat) :
    AsLong (encodedLength inst device) 2 (getEntries cipClass inst request device position) := by
  induction position with
  | zero => trivial
  | succ position ih =>
      refine asLong_append.mpr ⟨ih, ?_⟩
      rw [getEntry_number, Nat.add_comm 2]
      exact getEntry_length ..

theorem getEntries_get {entry : ListEntry} {count : Nat}
    (found : (getEntries cipClass inst request device count)[position]? = some entry) :
    ∃ used, entry = getEntry cipClass inst device (requestedNumber request position) used := by
  induction count with
  | zero => cases found
  | succ count ih =>
      rw [getEntries] at found
      rcases Nat.lt_trichotomy position count with earlier | same | behind
      · rw [List.getElem?_append_left (by rw [length_getEntries]; exact earlier)] at found
        exact ih found
      · subst same
        rw [List.getElem?_append_right (by rw [length_getEntries]), length_getEntries, Nat.sub_self] at found
        cases found
        exact ⟨_, rfl⟩
      · rw [List.getElem?_eq_none (by rw [List.length_append, length_getEntries]; exact behind)] at found
        cases found

theorem listStatus_success {entries : List ListEntry} :
    listStatus entries = kCipErrorSuccess ↔ ∀ entry ∈ entries, entry.status = kCipErrorSuccess := by
  unfold listStatus
  split
  next all => exact iff_of_true rfl all
  next error => exact iff_of_false (by decide) error

theorem getConsistent_complete (some_ : attributeCountRequest request ≠ 0)
    (reached : GetReached cipClass inst request device (attributeCountRequest request).toNat)
    (fits : getSize cipClass inst request device (attributeCountRequest request).toNat ≤
      PC_OPENER_ETHERNET_BUFFER_SIZE) :
    GetConsistent environment cipClass inst request device := by
  refine ⟨_, getAttributeList_complete some_ reached fits, ?_⟩
  rw [getListing, reply_next fits]
  dsimp only
  rw [entries_message rfl (asLong_getEntries _), attributeCount_message]
  refine ⟨(length_getEntries _).symm, fun position entry found => ?_, ?_⟩
  · obtain ⟨used, same⟩ := getEntries_get found
    rw [same]
    exact ⟨getEntry_number .., getEntry_tells ..⟩
  · exact listStatus_success.trans ⟨fun all => ⟨length_getEntries _, all⟩, And.right⟩

theorem not_getConsistent_full {last : Nat} (earlier : last < (attributeCountRequest request).toNat)
    (reached : GetReached cipClass inst request device last) (refused : ¬ GetAdmitted cipClass inst request device last)
    (fits : getSize cipClass inst request device last ≤ PC_OPENER_ETHERNET_BUFFER_SIZE) :
    ¬ GetConsistent environment cipClass inst request device := by
  have ended : (Pass.full { getListing environment cipClass inst request device last with
      request := .behind environment request (2 * (last + 1) + 2) }).reply request = _ := reply_full fits
  have full := @getAttributeList_full cipClass inst request device last environment earlier reached refused fits
  rw [ended] at full
  rintro ⟨reply, returned, counted, -⟩
  cases full.symm.trans returned
  dsimp only at counted
  rw [entries_message rfl (asLong_getEntries _), attributeCount_message, length_getEntries] at counted
  exact absurd counted (Nat.ne_of_gt earlier)

theorem getConsistent_iff : GetConsistent environment cipClass inst request device ↔
    attributeCountRequest request ≠ 0 ∧
      GetReached cipClass inst request device (attributeCountRequest request).toNat ∧
      getSize cipClass inst request device (attributeCountRequest request).toNat ≤ PC_OPENER_ETHERNET_BUFFER_SIZE := by
  constructor
  · intro consistent
    have some_ : attributeCountRequest request ≠ 0 := by
      intro none_
      obtain ⟨reply, returned, -, -, told⟩ := consistent
      have empty : getAttributeList environment cipClass inst request device = some _ :=
        attributeList_eq.trans (if_neg (not_not_intro none_))
      cases empty.symm.trans returned
      have succeeded := told.mpr ⟨(congrArg UInt16.toNat none_).symm, nofun⟩
      exact absurd succeeded listError_ne_success
    obtain ⟨last, within, reached, ends⟩ :=
      getReached_last cipClass inst request device (attributeCountRequest request).toNat
    have fits : getSize cipClass inst request device last ≤ PC_OPENER_ETHERNET_BUFFER_SIZE := by
      refine Nat.le_of_not_lt fun beyond => ?_
      obtain ⟨reply, returned, -⟩ := consistent
      rw [getAttributeList_beyond within reached beyond] at returned
      cases returned
    rcases ends with atEnd | ⟨earlier, refused⟩
    · rw [← atEnd]
      exact ⟨some_, reached, fits⟩
    · exact absurd consistent (not_getConsistent_full earlier reached refused fits)
  · rintro ⟨some_, reached, fits⟩
    exact getConsistent_complete some_ reached fits

end Getting

section Setting

variable {place : SetPlace} {outcome : SetOutcome} {count : Nat}

namespace SetPlace

def Settable (environment : ServiceEnvironment) (cipClass : AttributeClass) (inst : CipInstance)
    (request : CipMessageRouterRequest) (place : SetPlace) : Prop :=
  (∃ attr, inst.getCipAttribute (place.number environment request) = some (some attr)) ∧
    place.number environment request ∈ cipClass.setBitMask

def Written (environment : ServiceEnvironment) (cipClass : AttributeClass) (inst : CipInstance)
    (request : CipMessageRouterRequest) (place : SetPlace) : Prop :=
  ∀ attr decode, inst.getCipAttribute (place.number environment request) = some (some attr) →
    place.number environment request ∈ cipClass.setBitMask → attr.decode = some decode →
      let value := decode.valueOf (place.own environment request)
      decode.check environment request place.device value = none ∨ place.device.memory.read attr.data = value

def Accepted (environment : ServiceEnvironment) (cipClass : AttributeClass) (inst : CipInstance)
    (request : CipMessageRouterRequest) (place : SetPlace) : Prop :=
  ∃ attr decode, inst.getCipAttribute (place.number environment request) = some (some attr) ∧
    place.number environment request ∈ cipClass.setBitMask ∧ attr.decode = some decode ∧
      let value := decode.valueOf (place.own environment request)
      decode.check environment request place.device value = none ∧
        decode.finish environment request place.device attr.data value = some (kCipErrorSuccess, value)

end SetPlace

theorem setOutcome_unsettable (unsettable : ¬ place.Settable environment cipClass inst request)
    (dealt : setOutcome environment cipClass inst request place = some outcome) :
    outcome.status ≠ kCipErrorSuccess ∧ outcome.device = place.device ∧ outcome.generalStatus ≠ kCipErrorSuccess := by
  unfold setOutcome at dealt
  cases found : inst.getCipAttribute (place.number environment request) with
  | none =>
      rw [found] at dealt
      cases dealt
      exact ⟨notSupported_ne_success, rfl, listError_ne_success⟩
  | some entry =>
      rw [found] at dealt
      dsimp only at dealt
      by_cases settable : place.number environment request ∈ cipClass.setBitMask
      · cases entry with
        | none => exact absurd (number_of_unset found ▸ settable) cipClass.setBitMask.numbered
        | some attr => exact absurd ⟨⟨attr, found⟩, settable⟩ unsettable
      · rw [if_neg settable] at dealt
        cases dealt
        refine ⟨notSetable_ne_success, rfl, ?_⟩
        unfold passedOutcome
        dsimp only
        split
        · exact listError_ne_success
        · exact partialTransfer_ne_success

theorem setOutcome_decoded (settable : place.Settable environment cipClass inst request)
    (dealt : setOutcome environment cipClass inst request place = some outcome) :
    ∃ attr decode, inst.getCipAttribute (place.number environment request) = some (some attr) ∧
      attr.decode = some decode ∧
      decodedOutcome environment request place.device decode attr.data
        (decode.valueOf (place.own environment request)) = some outcome := by
  obtain ⟨⟨attr, found⟩, member⟩ := settable
  cases decodes : attr.decode with
  | none =>
      unfold setOutcome at dealt
      rw [found] at dealt
      dsimp only at dealt
      rw [if_pos member, Option.bind_some, decodes] at dealt
      cases dealt
  | some decode => exact ⟨attr, decode, found, decodes, (setOutcome_settable found member decodes).symm.trans dealt⟩

theorem decodedOutcome_cases {kind : DataKind} {decode : DecodeFunction kind} {data : CipPointer kind}
    {value : kind.Value} (dealt : decodedOutcome environment request device decode data value = some outcome) :
    (∃ error ≠ kCipErrorSuccess, decode.check environment request device value = some error ∧
        outcome.device = device ∧ outcome.generalStatus = error) ∨
      decode.check environment request device value = none ∧
        outcome.device.memory.read data = value ∧
        decode.finish environment request device data value = some (outcome.generalStatus, value) := by
  unfold decodedOutcome at dealt
  dsimp only at dealt
  cases checked : decode.check environment request device value with
  | some error =>
      rw [checked] at dealt
      cases dealt
      exact .inl ⟨error, check_ne_success checked, rfl, rfl, rfl⟩
  | none =>
      rw [checked] at dealt
      obtain ⟨⟨status, left⟩, finished, same⟩ := Option.map_eq_some_iff.mp dealt
      have kept := @finish_leaves kind environment request device decode data value
      rw [finished, Option.map_some] at kept
      cases same
      have there : (decode.leaves request device data value).memory.read data = value := read_leaves decode data value
      refine .inr ⟨rfl, there, ?_⟩
      rw [there] at kept
      exact finished.trans kept.symm

theorem setStatus_success : setStatus cipClass inst (place.number environment request) = kCipErrorSuccess ↔
    place.Settable environment cipClass inst request := by
  unfold setStatus SetPlace.Settable
  cases found : inst.getCipAttribute (place.number environment request) with
  | none => exact iff_of_false notSupported_ne_success fun ⟨⟨_, same⟩, _⟩ => nomatch same
  | some entry =>
      dsimp only
      by_cases settable : place.number environment request ∈ cipClass.setBitMask
      · rw [if_pos settable]
        cases entry with
        | none => exact absurd (number_of_unset found ▸ settable) cipClass.setBitMask.numbered
        | some attr => exact iff_of_true rfl ⟨⟨attr, rfl⟩, settable⟩
      · rw [if_neg settable]
        exact iff_of_false notSetable_ne_success fun there => settable there.2

theorem generalStatus_success (dealt : setOutcome environment cipClass inst request place = some outcome) :
    outcome.generalStatus = kCipErrorSuccess ↔ place.Accepted environment cipClass inst request := by
  constructor
  · intro success
    by_cases settable : place.Settable environment cipClass inst request
    · obtain ⟨attr, decode, found, decodes, decoded⟩ := setOutcome_decoded settable dealt
      rcases decodedOutcome_cases decoded with ⟨error, failed, -, -, same⟩ | ⟨checked, -, finished⟩
      · exact absurd (same.symm.trans success) failed
      · rw [success] at finished
        exact ⟨attr, decode, found, settable.2, decodes, checked, finished⟩
    · exact absurd success (setOutcome_unsettable settable dealt).2.2
  · rintro ⟨attr, decode, found, member, decodes, checked, finished⟩
    rw [setOutcome_settable found member decodes] at dealt
    rcases decodedOutcome_cases dealt with ⟨error, -, refused, -⟩ | ⟨-, -, ended⟩
    · rw [checked] at refused
      cases refused
    · rw [finished] at ended
      exact (congrArg Prod.fst (Option.some.inj ended)).symm

variable {last : SetPlace}

theorem setEntries_place (found : setPlaces environment cipClass inst request device count = some last) {position : Nat}
    (earlier : position < count) (before : setPlaces environment cipClass inst request device position = some place) :
    (setEntries environment cipClass inst request device count)[position]? =
      some ⟨place.number environment request, setStatus cipClass inst (place.number environment request), []⟩ := by
  induction count generalizing last with
  | zero => exact absurd earlier (Nat.not_lt_zero _)
  | succ count ih =>
      obtain ⟨previous, outcome, found', -, -, dealt, -⟩ := setPlaces_succ.mp found
      have length := length_setEntries found'
      rw [setEntries_succ found' dealt, setOutcome_status dealt]
      rcases Nat.lt_succ_iff_lt_or_eq.mp earlier with inside | same
      · rw [List.getElem?_append_left (by rw [length]; exact inside)]
        exact ih found' inside
      · subst same
        cases found'.symm.trans before
        rw [List.getElem?_append_right (Nat.le_of_eq length), length, Nat.sub_self]
        rfl

theorem setEntries_get {position : Nat} {entry : ListEntry}
    (found : setPlaces environment cipClass inst request device count = some last)
    (got : (setEntries environment cipClass inst request device count)[position]? = some entry) :
    position < count ∧ ∃ place, setPlaces environment cipClass inst request device position = some place ∧
      entry = ⟨place.number environment request, setStatus cipClass inst (place.number environment request), []⟩ := by
  have earlier : position < count := by
    rw [← length_setEntries found]
    exact (List.getElem?_eq_some_iff.mp got).1
  obtain ⟨place, before⟩ := setPlaces_before found (Nat.le_of_lt earlier)
  rw [setEntries_place found earlier before] at got
  exact ⟨earlier, place, before, (Option.some.inj got).symm⟩

theorem asLong_setEntries (found : setPlaces environment cipClass inst request device count = some last) :
    AsLong (fun _ _ => 0) 2 (setEntries environment cipClass inst request device count) := by
  induction count generalizing last with
  | zero => trivial
  | succ count ih =>
      obtain ⟨previous, outcome, found', -, -, dealt, -⟩ := setPlaces_succ.mp found
      rw [setEntries_succ found' dealt]
      exact asLong_append.mpr ⟨ih found', (ite_self 0).symm⟩

theorem tellsWritten_iff (found : setPlaces environment cipClass inst request device count = some place)
    (admitted : SetAdmitted environment inst request count place) (room : 4 * count + 6 ≤ PC_OPENER_ETHERNET_BUFFER_SIZE)
    (dealt : setOutcome environment cipClass inst request place = some outcome) :
    TellsWritten environment cipClass inst request device count
        ⟨place.number environment request, setStatus cipClass inst (place.number environment request), []⟩ ↔
      place.Written environment cipClass inst request := by
  obtain ⟨around, position⟩ := setData_place found
  have ended := pass_setListing found
  dsimp only at ended
  rw [if_pos admitted, if_pos room, dealt, Option.map_some] at ended
  have left (behind : RequestData) (octets : List CipOctet) :
      (outcome.ends (place.number environment request) behind octets).listing.device = outcome.device := by
    unfold SetOutcome.ends
    cases outcome.returns <;> rfl
  have number : (setListing environment cipClass inst request device count place).getUint.1 =
      place.number environment request := by
    have finds := requestOctets_finds around
    rw [position] at finds
    change (getUintFromMessage.run ((setData environment cipClass inst request device count).next 2)).1 = _
    rw [finds.next]
    rfl
  have own : requestOctets environment request
      ((setListing environment cipClass inst request device count place).request.position + 2) =
        place.own environment request := congrArg (requestOctets environment request <| · + 2) position
  constructor
  · rintro ⟨before, after, reached, passed, -, written, -⟩ attr decode attrFound settable decodes
    obtain ⟨other, same, rfl⟩ := reaches_setListing.mp reached
    cases found.symm.trans same
    cases ended.symm.trans passed
    rw [setOutcome_settable attrFound settable decodes] at dealt
    obtain ⟨attr', decode', attrFound', decodes', value⟩ := written (setStatus_success.mpr ⟨⟨attr, attrFound⟩, settable⟩)
    cases attrFound.symm.trans attrFound'
    cases decodes.symm.trans decodes'
    rw [left, own] at value
    rcases decodedOutcome_cases dealt with ⟨error, -, -, unchanged, -⟩ | ⟨checked, -, -⟩
    · rw [unchanged] at value
      exact .inr value
    · exact .inl checked
  · intro written
    refine ⟨_, _, reaches_setListing.mpr ⟨place, found, rfl⟩, ended, number.symm, fun success => ?_, fun error => ?_⟩
    · obtain ⟨attr, decode, attrFound, decodes, decoded⟩ := setOutcome_decoded (setStatus_success.mp success) dealt
      refine ⟨attr, decode, attrFound, decodes, ?_⟩
      rw [left, own]
      rcases decodedOutcome_cases decoded with ⟨error, -, refused, unchanged, -⟩ | ⟨-, value, -⟩
      · rcases written attr decode attrFound (setStatus_success.mp success).2 decodes with checked | already
        · rw [checked] at refused
          cases refused
        · rw [unchanged]
          exact already
      · exact value
    · rw [left]
      exact (setOutcome_unsettable (fun settable => error (setStatus_success.mpr settable)) dealt).2.1

def LastTells (environment : ServiceEnvironment) (cipClass : AttributeClass) (inst : CipInstance)
    (request : CipMessageRouterRequest) (device : CipDevice) : Prop :=
  ∀ count place, count + 1 = (attributeCountRequest request).toNat →
    setPlaces environment cipClass inst request device count = some place →
      (place.Accepted environment cipClass inst request ↔
        ∀ earlier ≤ count, ∀ before, setPlaces environment cipClass inst request device earlier = some before →
          before.Settable environment cipClass inst request)

def AllWritten (environment : ServiceEnvironment) (cipClass : AttributeClass) (inst : CipInstance)
    (request : CipMessageRouterRequest) (device : CipDevice) : Prop :=
  ∀ count < (attributeCountRequest request).toNat, ∀ place,
    setPlaces environment cipClass inst request device count = some place →
      place.Written environment cipClass inst request

theorem setGeneralStatus_success (found : setPlaces environment cipClass inst request device (count + 1) = some last)
    (before : setPlaces environment cipClass inst request device count = some place) :
    setGeneralStatus environment cipClass inst request device (count + 1) = kCipErrorSuccess ↔
      place.Accepted environment cipClass inst request := by
  obtain ⟨previous, outcome, found', -, -, dealt, -⟩ := setPlaces_succ.mp found
  cases found'.symm.trans before
  have outcomes : setOutcomes environment cipClass inst request device count = some outcome := by
    rw [setOutcomes, found']
    exact dealt
  rw [setGeneralStatus, outcomes]
  exact generalStatus_success dealt

theorem allSucceeded_iff
    (found : setPlaces environment cipClass inst request device (attributeCountRequest request).toNat = some last) :
    AllSucceeded request
        (setEntries environment cipClass inst request device (attributeCountRequest request).toNat) ↔
      ∀ earlier < (attributeCountRequest request).toNat, ∀ before,
        setPlaces environment cipClass inst request device earlier = some before →
          before.Settable environment cipClass inst request := by
  constructor
  · intro all earlier inside before placed
    exact setStatus_success.mp (all.2 _ (List.mem_of_getElem? (setEntries_place found inside placed)))
  · intro settable
    refine ⟨length_setEntries found, fun entry listed => ?_⟩
    obtain ⟨position, got⟩ := List.getElem?_of_mem listed
    obtain ⟨earlier, place, placed, same⟩ := setEntries_get found got
    rw [same]
    exact setStatus_success.mpr (settable position earlier place placed)

theorem setConsistent_entries (some_ : attributeCountRequest request ≠ 0)
    (found : setPlaces environment cipClass inst request device (attributeCountRequest request).toNat = some last) :
    SetConsistent environment cipClass inst request device ↔
      (∀ position entry, (setEntries environment cipClass inst request device
          (attributeCountRequest request).toNat)[position]? = some entry →
        TellsWritten environment cipClass inst request device position entry) ∧
      (setGeneralStatus environment cipClass inst request device (attributeCountRequest request).toNat =
          kCipErrorSuccess ↔
        AllSucceeded request
          (setEntries environment cipClass inst request device (attributeCountRequest request).toNat)) := by
  have fits : ((setEntries environment cipClass inst request device
      (attributeCountRequest request).toNat).flatMap ListEntry.octets).length + 2 ≤ PC_OPENER_ETHERNET_BUFFER_SIZE := by
    rw [length_setEntries_octets found]
    exact setPlaces_room found
  have returned := setAttributeList_complete some_ found
  rw [setListing, reply_next fits] at returned
  constructor
  · rintro ⟨reply, same, -, entries, status⟩
    cases returned.symm.trans same
    dsimp only at entries status
    rw [entries_message rfl (asLong_setEntries found)] at entries status
    exact ⟨entries, status⟩
  · intro tells
    refine ⟨_, returned, ?_⟩
    dsimp only
    rw [entries_message rfl (asLong_setEntries found), attributeCount_message, length_setEntries found]
    exact ⟨rfl, tells⟩

theorem entries_tell_iff
    (found : setPlaces environment cipClass inst request device (attributeCountRequest request).toNat = some last) :
    (∀ position entry, (setEntries environment cipClass inst request device
        (attributeCountRequest request).toNat)[position]? = some entry →
      TellsWritten environment cipClass inst request device position entry) ↔
      AllWritten environment cipClass inst request device := by
  have dealtWith {count : Nat} (earlier : count < (attributeCountRequest request).toNat) {place : SetPlace}
      (placed : setPlaces environment cipClass inst request device count = some place) :
      TellsWritten environment cipClass inst request device count
          ⟨place.number environment request, setStatus cipClass inst (place.number environment request), []⟩ ↔
        place.Written environment cipClass inst request := by
    obtain ⟨next, behind⟩ := setPlaces_before found earlier
    obtain ⟨other, outcome, placed', admitted, room, dealt, -⟩ := setPlaces_succ.mp behind
    cases placed.symm.trans placed'
    exact tellsWritten_iff placed admitted room dealt
  constructor
  · intro entries count earlier place placed
    exact (dealtWith earlier placed).mp (entries count _ (setEntries_place found earlier placed))
  · intro written position entry got
    obtain ⟨earlier, place, placed, same⟩ := setEntries_get found got
    rw [same]
    exact (dealtWith earlier placed).mpr (written position earlier place placed)

theorem status_tells_iff (some_ : attributeCountRequest request ≠ 0)
    (found : setPlaces environment cipClass inst request device (attributeCountRequest request).toNat = some last) :
    (setGeneralStatus environment cipClass inst request device (attributeCountRequest request).toNat =
        kCipErrorSuccess ↔
      AllSucceeded request
        (setEntries environment cipClass inst request device (attributeCountRequest request).toNat)) ↔
      LastTells environment cipClass inst request device := by
  rw [allSucceeded_iff found]
  constructor
  · intro tells count place atEnd placed
    rw [← atEnd] at tells found
    rw [← setGeneralStatus_success found placed, tells]
    exact forall_congr' fun earlier => imp_congr_left Nat.lt_succ_iff
  · intro tells
    obtain ⟨count, atEnd⟩ : ∃ count, count + 1 = (attributeCountRequest request).toNat :=
      Nat.exists_eq_succ_of_ne_zero (fun zero => some_ (UInt16.toNat_inj.mp zero)) |>.imp fun _ => Eq.symm
    obtain ⟨place, placed⟩ := setPlaces_before found (Nat.le_of_succ_le (Nat.le_of_eq atEnd))
    have last_ := tells count place atEnd placed
    rw [← atEnd] at found ⊢
    rw [setGeneralStatus_success found placed, last_]
    exact forall_congr' fun earlier => imp_congr_left Nat.lt_succ_iff.symm

/-- A service that has not got behind the last entry has not written the count of its entries. -/
theorem not_setConsistent_stopped {position : Nat} (earlier : position < (attributeCountRequest request).toNat)
    (found : setPlaces environment cipClass inst request device position = some place)
    (stops : setPlaces environment cipClass inst request device (position + 1) = none) :
    ¬ SetConsistent environment cipClass inst request device := by
  have long := asLong_setEntries found
  have fits : ((setEntries environment cipClass inst request device position).flatMap ListEntry.octets).length + 2 ≤
      PC_OPENER_ETHERNET_BUFFER_SIZE := by
    rw [length_setEntries_octets found]
    exact setPlaces_room found
  have stopped := setAttributeList_stopped earlier found stops
  rw [pass_setListing found] at stopped
  dsimp only at stopped
  rintro ⟨reply, returned, counted, -⟩
  rw [stopped] at returned
  by_cases admitted : SetAdmitted environment inst request position place
  · rw [if_pos admitted] at returned
    by_cases room : 4 * position + 6 ≤ PC_OPENER_ETHERNET_BUFFER_SIZE
    · rw [if_pos room] at returned
      cases dealt : setOutcome environment cipClass inst request place with
      | none =>
          rw [dealt] at returned
          cases returned
      | some outcome =>
          have returns : outcome.returns = true := by
            refine Bool.eq_true_of_not_eq_false fun goesOn => ?_
            have next := setPlaces_succ.mpr ⟨place, outcome, found, admitted, room, dealt, goesOn, rfl⟩
            rw [stops] at next
            cases next
          have octets := @List.flatMap_append _ _
            (setEntries environment cipClass inst request device position)
            [⟨place.number environment request, outcome.status, []⟩] ListEntry.octets
          rw [List.flatMap_singleton] at octets
          rw [dealt, Option.map_some, Option.map_some, SetOutcome.ends, if_pos returns, ← octets, reply_returned] at returned
          · cases returned
            dsimp only at counted
            rw [entries_message rfl (asLong_append.mpr ⟨long, (ite_self 0).symm⟩), List.length_append] at counted
            exact absurd (counted.symm.trans (congrArg UInt16.toNat (attributeCount_message 0 _ _))) (Nat.succ_ne_zero _)
          · rw [octets, List.length_append, length_setEntries_octets found]
            exact room
    · rw [if_neg room] at returned
      cases returned
  · have ended : (Pass.full { setListing environment cipClass inst request device position place with
        request := ((setData environment cipClass inst request device position).look 2).skip (2 : Nat) }).reply
          request = _ := reply_full fits
    rw [if_neg admitted, Option.map_some, ended] at returned
    cases returned
    dsimp only at counted
    rw [entries_message rfl long, attributeCount_message, length_setEntries found] at counted
    exact absurd counted (Nat.ne_of_gt earlier)

theorem setConsistent_iff : SetConsistent environment cipClass inst request device ↔
    attributeCountRequest request ≠ 0 ∧
      (setPlaces environment cipClass inst request device (attributeCountRequest request).toNat).isSome ∧
      AllWritten environment cipClass inst request device ∧ LastTells environment cipClass inst request device := by
  constructor
  · intro consistent
    have some_ : attributeCountRequest request ≠ 0 := by
      intro none_
      obtain ⟨reply, returned, -, -, told⟩ := consistent
      have empty : setAttributeList environment cipClass inst request device = some _ :=
        attributeList_eq.trans (if_neg (not_not_intro none_))
      cases empty.symm.trans returned
      exact absurd (told.mpr ⟨(congrArg UInt16.toNat none_).symm, nofun⟩) listError_ne_success
    rcases setPlaces_last environment cipClass inst request device (attributeCountRequest request).toNat with
      ⟨place, found⟩ | ⟨last, earlier, place, found, stops⟩
    · have tells := (setConsistent_entries some_ found).mp consistent
      exact ⟨some_, Option.isSome_of_eq_some found, (entries_tell_iff found).mp tells.1,
        (status_tells_iff some_ found).mp tells.2⟩
    · exact absurd consistent (not_setConsistent_stopped earlier found stops)
  · rintro ⟨some_, there, tells⟩
    obtain ⟨place, found⟩ := Option.isSome_iff_exists.mp there
    exact (setConsistent_entries some_ found).mpr
      ((and_congr (entries_tell_iff found) (status_tells_iff some_ found)).mpr tells)

/-- Which requests get consistent replies. -/
theorem listsConsistent_iff :
    (GetConsistent environment cipClass inst request device ↔
        attributeCountRequest request ≠ 0 ∧
          GetReached cipClass inst request device (attributeCountRequest request).toNat ∧
          getSize cipClass inst request device (attributeCountRequest request).toNat ≤
            PC_OPENER_ETHERNET_BUFFER_SIZE) ∧
      (SetConsistent environment cipClass inst request device ↔
        attributeCountRequest request ≠ 0 ∧
          (setPlaces environment cipClass inst request device (attributeCountRequest request).toNat).isSome ∧
          AllWritten environment cipClass inst request device ∧
          LastTells environment cipClass inst request device) :=
  ⟨getConsistent_iff, setConsistent_iff⟩

end Setting

section Identity

theorem vendorId_overcounted {device : CipDevice} (found : inst.getCipAttribute 1 = some (some vendorId))
    (gettable : 1 ∈ cipClass.getSingleBitMask) :
    ¬ GetConsistent environment cipClass inst (repeatedRequest 1 81) device := by
  have numbers : ∀ earlier < 81, requestedNumber (repeatedRequest 1 81) earlier = 1 := by decide
  intro consistent
  have admitted : GetAdmitted cipClass inst (repeatedRequest 1 81) device 80 :=
    (getConsistent_iff.mp consistent).2.1 80 (by decide)
  unfold GetAdmitted at admitted
  rw [numbers 80 (by decide), found,
    getSize_repeated (fun first order => numbers first (Nat.lt_trans order (by decide))) fun used =>
      congrArg (·.data.length) (getEntry_readable found gettable device used)] at admitted
  exact absurd admitted (by decide : ¬ (2 : Int) + ((2 + 80 * (4 + 2) : Nat) : Int) ≤ 479)

/-- The vendor number of the identity object, asked for eighty-one times. -/
theorem vendorId_not_counted : ∃ identityClass inst, cipIdentityInit = .ok identityClass ∧
    identityClass.getCipInstance 1 = some inst ∧
    ¬ GetConsistent quietEnvironment identityClass inst (repeatedRequest 1 81) clearedDevice :=
  ⟨_, _, rfl, rfl, vendorId_overcounted rfl (by decide)⟩

end Identity

end EtherNetIP
