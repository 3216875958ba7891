import EtherNetIP.Cip.ListPasses

/-! How a request to set a list of attributes is dealt with.

Each entry of the request begins where the one before it has been left, which is
told by what has been done with that: a value that is decoded moves the position
as its decode function does, one that cannot be set by the length of its type.
-/

set_option autoImplicit false

namespace EtherNetIP

variable {environment : ServiceEnvironment} {cipClass : AttributeClass} {inst : CipInstance}
  {request : CipMessageRouterRequest} {device : CipDevice} {count : Nat} {listing : Listing}

section Places

def requestOctets (environment : ServiceEnvironment) (request : CipMessageRouterRequest) (position : Int) :
    List CipOctet :=
  RequestData.next ⟨(RequestData.ofRequest environment request).octets, position, 0⟩
    ((request.data.length : Int) - position).toNat

structure SetPlace where
  device : CipDevice
  position : Int

/-- What is done with an entry: the status it gets, the general status that is left, and the octets behind the number
that are looked at and passed. -/
structure SetOutcome where
  status : UInt8
  generalStatus : UInt8
  device : CipDevice
  looked : Nat
  moved : Int
  returns : Bool

def SetPlace.number (environment : ServiceEnvironment) (request : CipMessageRouterRequest) (place : SetPlace) : UInt16 :=
  (getUintFromMessage.run (octets 2 (requestOctets environment request place.position))).1

def SetPlace.own (environment : ServiceEnvironment) (request : CipMessageRouterRequest) (place : SetPlace) :
    List CipOctet :=
  requestOctets environment request (place.position + 2)

def decodedOutcome (environment : ServiceEnvironment) (request : CipMessageRouterRequest) (device : CipDevice)
    {kind : DataKind} (decode : DecodeFunction kind) (data : CipPointer kind) (value : kind.Value) : Option SetOutcome :=
  let looked := decode.looksAt environment request device value
  let moved : Int := decode.takes environment device value
  match decode.check environment request device value with
  | some error => some ⟨kCipErrorSuccess, error, device, looked, moved, false⟩
  | none => (decode.finish environment request device data value).map fun (status, _) =>
      ⟨kCipErrorSuccess, status, decode.leaves request device data value, looked, moved, false⟩

def passedOutcome (device : CipDevice) (type : CipDataType) (own : List CipOctet) : SetOutcome :=
  let length := getCipDataTypeLength type (octets 2 own)
  ⟨kCipErrorAttributeNotSetable, if length ≠ 0 then kCipErrorAttributeListError else kCipErrorPartialTransfer, device,
    type.lengthOctets, length, decide (length = 0)⟩

/-- None is a call or a read through a null pointer. -/
def setOutcome (environment : ServiceEnvironment) (cipClass : AttributeClass) (inst : CipInstance)
    (request : CipMessageRouterRequest) (place : SetPlace) : Option SetOutcome :=
  let own := place.own environment request
  match inst.getCipAttribute (place.number environment request) with
  | none => some ⟨kCipErrorAttributeNotSupported, kCipErrorAttributeListError, place.device, 0, 0, false⟩
  | some entry =>
      if place.number environment request ∈ cipClass.setBitMask then
        entry.bind fun attr => attr.decode.bind fun decode =>
          decodedOutcome environment request place.device decode attr.data (decode.valueOf own)
      else some (passedOutcome place.device entry.type own)

def SetAdmitted (environment : ServiceEnvironment) (inst : CipInstance) (request : CipMessageRouterRequest)
    (count : Nat) (place : SetPlace) : Prop :=
  neededMessageSpace place.device (inst.getCipAttribute (place.number environment request)) + (4 * count : Nat) ≤ 477

instance (place : SetPlace) : Decidable (SetAdmitted environment inst request count place) :=
  inferInstanceAs (Decidable (_ ≤ _))

/-- Where an entry begins if all entries in front of it have been dealt with and have found space in the buffer. -/
def setPlaces (environment : ServiceEnvironment) (cipClass : AttributeClass) (inst : CipInstance)
    (request : CipMessageRouterRequest) (device : CipDevice) : Nat → Option SetPlace
  | 0 => some ⟨device, 2⟩
  | count + 1 =>
      (setPlaces environment cipClass inst request device count).bind fun place =>
        if SetAdmitted environment inst request count place ∧ 4 * count + 6 ≤ PC_OPENER_ETHERNET_BUFFER_SIZE then
          (setOutcome environment cipClass inst request place).bind fun outcome =>
            if outcome.returns then none else some ⟨outcome.device, place.position + 2 + outcome.moved⟩
        else none

end Places

section Reading

theorem requestOctets_finds {data : RequestData}
    (around : data.octets = (RequestData.ofRequest environment request).octets) :
    data.Finds (requestOctets environment request data.position) := by
  intro i
  rw [around]
  unfold requestOctets RequestData.next octetAt
  rw [List.getD_eq_getElem?_getD, List.getElem?_map]
  by_cases inside : i < ((request.data.length : Int) - data.position).toNat
  · rw [List.getElem?_range inside]
    rfl
  · rw [List.getElem?_eq_none (by rw [List.length_range]; exact Nat.le_of_not_lt inside)]
    obtain ⟨place, same⟩ := Int.eq_ofNat_of_zero_le (show 0 ≤ data.position + i by omega)
    rw [same]
    exact octetAt_short (by omega)

variable {data : RequestData}

def SetOutcome.ends (outcome : SetOutcome) (attributeNumber : UInt16) (behind : RequestData) (octets : List CipOctet) :
    Pass :=
  (if outcome.returns then Pass.returned else Pass.next)
    (.ofOctets outcome.device ((behind.look outcome.looked).skip outcome.moved) outcome.generalStatus
      (octets ++ (ListEntry.mk attributeNumber outcome.status []).octets))

theorem addStatus_ofOctets (attributeNumber : UInt16) (data : RequestData) (generalStatus status : UInt8)
    (octets : List CipOctet) :
    ((Listing.ofOctets device data generalStatus octets).add (addIntToMessage attributeNumber)).addStatus status =
      .ofOctets device data generalStatus (octets ++ (ListEntry.mk attributeNumber status []).octets) := by
  rw [Listing.addStatus, add_ofOctets, add_ofOctets, ListEntry.octets, List.append_nil, List.append_assoc]

theorem decoded_ends {kind : DataKind} {own : List CipOctet} (finds : data.Finds own) (decode : DecodeFunction kind)
    (pointer : CipPointer kind) (attributeNumber : UInt16) (generalStatus : UInt8) (octets : List CipOctet) :
    ((decode.run environment request pointer ⟨device, data, generalStatus⟩).map fun (_, decoding) =>
        Pass.next (.ofOctets decoding.device decoding.request decoding.generalStatus
          (octets ++ (ListEntry.mk attributeNumber kCipErrorSuccess []).octets))) =
      (decodedOutcome environment request device decode pointer (decode.valueOf own)).map
        (·.ends attributeNumber data octets) := by
  have ends := congrArg (Option.map fun decoding : Decoding =>
      Pass.next (.ofOctets decoding.device decoding.request decoding.generalStatus
        (octets ++ (ListEntry.mk attributeNumber kCipErrorSuccess []).octets)))
    (@run_eq kind environment request ⟨device, data, generalStatus⟩ own finds decode pointer)
  rw [Option.map_map] at ends
  refine ends.trans ?_
  unfold DecodeFunction.ends decodedOutcome
  dsimp only
  cases decode.check environment request device (decode.valueOf own) with
  | some error => rfl
  | none =>
      dsimp only
      rw [Option.map_map, Option.map_map]
      rfl

theorem setListed_ends {place : SetPlace} (around : data.octets = (RequestData.ofRequest environment request).octets)
    (position : data.position = place.position + 2) (generalStatus : UInt8) (octets : List CipOctet) :
    setListed environment request cipClass (place.number environment request)
        (inst.getCipAttribute (place.number environment request))
        ((Listing.ofOctets place.device data generalStatus octets).add
          (addIntToMessage (place.number environment request))) =
      (setOutcome environment cipClass inst request place).map
        (·.ends (place.number environment request) data octets) := by
  have finds : data.Finds (place.own environment request) := by
    rw [SetPlace.own, ← position]
    exact requestOctets_finds around
  have unmoved : (data.look 0).skip (0 : Nat) = data := by
    rw [RequestData.look_zero]
    exact RequestData.skip_zero data
  unfold setListed setOutcome
  cases found : inst.getCipAttribute (place.number environment request) with
  | none =>
      refine congrArg some ?_
      rw [addStatus_ofOctets]
      exact congrArg (fun data => Pass.next (.ofOctets _ data _ _)) unmoved.symm
  | some entry =>
      by_cases settable : place.number environment request ∈ cipClass.setBitMask
      · cases entry with
        | none => exact absurd (number_of_unset found ▸ settable) cipClass.setBitMask.numbered
        | some attr =>
            dsimp only
            rw [if_pos settable, if_pos settable, addStatus_ofOctets, Option.bind_some, Option.bind_some]
            cases attr.decode with
            | none => rfl
            | some decode => exact decoded_ends finds decode attr.data _ _ _
      · dsimp only
        rw [if_neg settable, if_neg settable, addStatus_ofOctets]
        have own : (Listing.ofOctets place.device data generalStatus (octets ++
            (ListEntry.mk (place.number environment request) kCipErrorAttributeNotSetable []).octets)).request.next 2 =
            EtherNetIP.octets 2 (place.own environment request) := finds.next 2
        rw [own]
        unfold passedOutcome
        dsimp only
        -- a type without a length ends the service, any other value is passed over
        by_cases empty : getCipDataTypeLength entry.type (EtherNetIP.octets 2 (place.own environment request)) = 0
        · have stays (looked : RequestData) : looked.skip 0 = looked := RequestData.skip_zero looked
          rw [if_neg (not_not_intro empty), if_neg (not_not_intro empty), empty]
          refine congrArg some ?_
          unfold SetOutcome.ends
          dsimp only
          rw [stays]
          rfl
        · rw [if_pos empty, if_pos empty, decide_eq_false empty]
          rfl

end Reading

section Listings

/-- The status of the entry for an attribute does not depend on what becomes of its value. -/
def setStatus (cipClass : AttributeClass) (inst : CipInstance) (attributeNumber : UInt16) : UInt8 :=
  match inst.getCipAttribute attributeNumber with
  | none => kCipErrorAttributeNotSupported
  | some _ =>
      if attributeNumber ∈ cipClass.setBitMask then kCipErrorSuccess else kCipErrorAttributeNotSetable

variable (environment cipClass inst request device)

def setOutcomes (count : Nat) : Option SetOutcome :=
  (setPlaces environment cipClass inst request device count).bind (setOutcome environment cipClass inst request)

def setEntries : Nat → List ListEntry
  | 0 => []
  | count + 1 =>
      setEntries count ++ (setPlaces environment cipClass inst request device count).toList.map fun place =>
        let attributeNumber := place.number environment request
        ⟨attributeNumber, setStatus cipClass inst attributeNumber, []⟩

/-- The general status is that of the last entry. -/
def setGeneralStatus : Nat → UInt8
  | 0 => kCipErrorSuccess
  | count + 1 =>
      ((setOutcomes environment cipClass inst request device count).map SetOutcome.generalStatus).getD kCipErrorSuccess

def setData : Nat → RequestData
  | 0 => .behind environment request 2
  | count + 1 =>
      let behind := ((setData count).look 2).skip (2 : Nat)
      ((setOutcomes environment cipClass inst request device count).map fun outcome =>
        (behind.look outcome.looked).skip outcome.moved).getD behind

def setListing (count : Nat) (place : SetPlace) : Listing :=
  .ofOctets place.device (setData environment cipClass inst request device count)
    (setGeneralStatus environment cipClass inst request device count)
    ((setEntries environment cipClass inst request device count).flatMap ListEntry.octets)

variable {environment cipClass inst request device} {place : SetPlace} {outcome : SetOutcome}

theorem setOutcome_settable {attr : CipAttributeStruct} {decode : DecodeFunction attr.kind}
    (found : inst.getCipAttribute (place.number environment request) = some (some attr))
    (settable : place.number environment request ∈ cipClass.setBitMask) (decodes : attr.decode = some decode) :
    setOutcome environment cipClass inst request place =
      decodedOutcome environment request place.device decode attr.data
        (decode.valueOf (place.own environment request)) := by
  unfold setOutcome
  rw [found]
  dsimp only
  rw [if_pos settable, Option.bind_some, decodes]
  rfl

theorem setOutcome_status (dealt : setOutcome environment cipClass inst request place = some outcome) :
    outcome.status = setStatus cipClass inst (place.number environment request) := by
  unfold setOutcome at dealt
  unfold setStatus
  cases found : inst.getCipAttribute (place.number environment request) with
  | none =>
      rw [found] at dealt
      cases dealt
      rfl
  | some entry =>
      rw [found] at dealt
      dsimp only at dealt ⊢
      by_cases settable : place.number environment request ∈ cipClass.setBitMask
      · rw [if_pos settable] at dealt ⊢
        obtain ⟨attr, -, decoded⟩ := Option.bind_eq_some_iff.mp dealt
        obtain ⟨decode, -, decoded⟩ := Option.bind_eq_some_iff.mp decoded
        unfold decodedOutcome at decoded
        dsimp only at decoded
        split at decoded
        · cases decoded
          rfl
        · obtain ⟨_, -, same⟩ := Option.map_eq_some_iff.mp decoded
          cases same
          rfl
      · rw [if_neg settable] at dealt ⊢
        cases dealt
        rfl

/-- Only an attribute that cannot be set has the service return. -/
theorem setPlaces_succ : setPlaces environment cipClass inst request device (count + 1) = some place ↔
    ∃ before outcome, setPlaces environment cipClass inst request device count = some before ∧
      SetAdmitted environment inst request count before ∧ 4 * count + 6 ≤ PC_OPENER_ETHERNET_BUFFER_SIZE ∧
      setOutcome environment cipClass inst request before = some outcome ∧ outcome.returns = false ∧
      place = ⟨outcome.device, before.position + 2 + outcome.moved⟩ := by
  rw [setPlaces]
  constructor
  · intro placed
    obtain ⟨before, found, placed⟩ := Option.bind_eq_some_iff.mp placed
    split at placed
    next room =>
      obtain ⟨outcome, dealt, placed⟩ := Option.bind_eq_some_iff.mp placed
      split at placed
      next => cases placed
      next goesOn =>
        cases placed
        exact ⟨before, outcome, found, room.1, room.2, dealt, Bool.eq_false_of_not_eq_true goesOn, rfl⟩
    next => cases placed
  · rintro ⟨before, outcome, found, admitted, room, dealt, goesOn, rfl⟩
    rw [found, Option.bind_some, if_pos ⟨admitted, room⟩, dealt, Option.bind_some, goesOn]
    rfl

theorem setEntries_succ (found : setPlaces environment cipClass inst request device count = some place)
    (dealt : setOutcome environment cipClass inst request place = some outcome) :
    setEntries environment cipClass inst request device (count + 1) =
      setEntries environment cipClass inst request device count ++
        [⟨place.number environment request, outcome.status, []⟩] := by
  rw [setEntries, found, setOutcome_status dealt]
  rfl

theorem length_setEntries (found : setPlaces environment cipClass inst request device count = some place) :
    (setEntries environment cipClass inst request device count).length = count := by
  induction count generalizing place with
  | zero => rfl
  | succ count ih =>
      obtain ⟨before, outcome, earlier, -, -, dealt, -⟩ := setPlaces_succ.mp found
      rw [setEntries_succ earlier dealt, List.length_append, ih earlier, List.length_singleton]

theorem length_setEntries_octets (found : setPlaces environment cipClass inst request device count = some place) :
    ((setEntries environment cipClass inst request device count).flatMap ListEntry.octets).length = 4 * count := by
  induction count generalizing place with
  | zero => rfl
  | succ count ih =>
      obtain ⟨before, outcome, earlier, -, -, dealt, -⟩ := setPlaces_succ.mp found
      rw [setEntries_succ earlier dealt, List.flatMap_append, List.length_append, ih earlier]
      rfl

theorem setData_place (found : setPlaces environment cipClass inst request device count = some place) :
    (setData environment cipClass inst request device count).octets =
        (RequestData.ofRequest environment request).octets ∧
      (setData environment cipClass inst request device count).position = place.position := by
  induction count generalizing place with
  | zero =>
      cases found
      exact ⟨rfl, rfl⟩
  | succ count ih =>
      obtain ⟨before, outcome, earlier, -, -, dealt, -, same⟩ := setPlaces_succ.mp found
      obtain ⟨around, position⟩ := ih earlier
      rw [setData, setOutcomes, earlier, Option.bind_some, dealt]
      change (RequestData.look _ _).octets = _ ∧ (RequestData.look _ _).position + _ = _
      rw [RequestData.look_octets, RequestData.look_position]
      change (RequestData.look _ _).octets = _ ∧ (RequestData.look _ _).position + _ + _ = _
      rw [RequestData.look_octets, RequestData.look_position, around, position, same]
      exact ⟨rfl, rfl⟩

theorem setPlaces_room (found : setPlaces environment cipClass inst request device count = some place) :
    4 * count + 2 ≤ PC_OPENER_ETHERNET_BUFFER_SIZE := by
  cases count with
  | zero => decide
  | succ count =>
      obtain ⟨before, outcome, -, -, room, -⟩ := setPlaces_succ.mp found
      omega

theorem ends_inBuffer (outcome : SetOutcome) (attributeNumber : UInt16) (behind : RequestData)
    (octets : List CipOctet) : (outcome.ends attributeNumber behind octets).inBuffer =
      decide (octets.length + 6 ≤ PC_OPENER_ETHERNET_BUFFER_SIZE) := by
  have position : 0 + ([0, 0] ++ (octets ++ (ListEntry.mk attributeNumber outcome.status []).octets)).length =
      octets.length + 6 := by
    rw [List.length_append, List.length_append, ListEntry.octets_length]
    simp only [List.length_cons, List.length_nil]
    omega
  unfold SetOutcome.ends
  rw [← position]
  cases outcome.returns <;> rfl

theorem pass_setListing (found : setPlaces environment cipClass inst request device count = some place) :
    pass (setListed environment request cipClass) inst
        (setListing environment cipClass inst request device count place) =
      let behind := ((setData environment cipClass inst request device count).look 2).skip (2 : Nat)
      if SetAdmitted environment inst request count place then
        if 4 * count + 6 ≤ PC_OPENER_ETHERNET_BUFFER_SIZE then
          (setOutcome environment cipClass inst request place).map
            (·.ends (place.number environment request) behind
              ((setEntries environment cipClass inst request device count).flatMap ListEntry.octets))
        else none
      else some (.full { setListing environment cipClass inst request device count place with request := behind }) := by
  obtain ⟨around, position⟩ := setData_place found
  have length := length_setEntries_octets found
  have room := setPlaces_room found
  have finds := requestOctets_finds around
  rw [position] at finds
  have number : (getUintFromMessage.run
      ((setData environment cipClass inst request device count).next 2)).1 = place.number environment request := by
    rw [finds.next]
    rfl
  have behind : (((setData environment cipClass inst request device count).look 2).skip (2 : Nat)).position =
      place.position + 2 := by
    rw [← position]
    exact congrArg (· + 2) (RequestData.look_position ..)
  have announced : neededMessageSpace place.device (inst.getCipAttribute (place.number environment request)) +
        ((setEntries environment cipClass inst request device count).flatMap ListEntry.octets).length > 477 ↔
      ¬ SetAdmitted environment inst request count place := by
    rw [length, SetAdmitted]
    omega
  rw [setListing, pass_ofOctets (by rw [length]; exact room)]
  dsimp only
  rw [number, if_congr announced rfl rfl, ite_not]
  refine if_congr Iff.rfl ?_ rfl
  have same : (((setData environment cipClass inst request device count).look 2).skip (2 : Nat)).octets =
      (RequestData.ofRequest environment request).octets := (RequestData.look_octets ..).trans around
  rw [setListed_ends same behind]
  cases setOutcome environment cipClass inst request place with
  | none => exact (ite_self _).symm
  | some outcome =>
      rw [Option.map_some, Option.filter_some, ends_inBuffer, length]
      simp only [decide_eq_true_eq]

theorem ends_next (found : setPlaces environment cipClass inst request device count = some place)
    (dealt : setOutcome environment cipClass inst request place = some outcome) (goesOn : outcome.returns = false) :
    outcome.ends (place.number environment request)
        (((setData environment cipClass inst request device count).look 2).skip (2 : Nat))
        ((setEntries environment cipClass inst request device count).flatMap ListEntry.octets) =
      .next (setListing environment cipClass inst request device (count + 1)
        ⟨outcome.device, place.position + 2 + outcome.moved⟩) := by
  have outcomes : setOutcomes environment cipClass inst request device count = some outcome := by
    rw [setOutcomes, found]
    exact dealt
  unfold SetOutcome.ends setListing
  rw [goesOn, setEntries_succ found dealt, setGeneralStatus, setData, outcomes, List.flatMap_append]
  rfl

theorem reaches_setListing : Reaches (setListed environment request cipClass) inst
      (listStart environment request device) count listing ↔
    ∃ place, setPlaces environment cipClass inst request device count = some place ∧
      listing = setListing environment cipClass inst request device count place := by
  induction count generalizing listing with
  | zero =>
      constructor
      · intro reached
        cases reached
        exact ⟨_, rfl, rfl⟩
      · rintro ⟨place, found, rfl⟩
        cases found
        rfl
  | succ count ih =>
      rw [reaches_succ]
      constructor
      · rintro ⟨before, reached, goesOn⟩
        obtain ⟨place, found, rfl⟩ := ih.mp reached
        rw [pass_setListing found] at goesOn
        dsimp only at goesOn
        split at goesOn
        next admitted =>
          split at goesOn
          next room =>
            obtain ⟨outcome, dealt, same⟩ := Option.map_eq_some_iff.mp goesOn
            cases returns : outcome.returns with
            | true =>
                unfold SetOutcome.ends at same
                rw [returns] at same
                cases same
            | false =>
                rw [ends_next found dealt returns] at same
                cases same
                exact ⟨_, setPlaces_succ.mpr ⟨place, outcome, found, admitted, room, dealt, returns, rfl⟩, rfl⟩
          next => cases goesOn
        next => cases goesOn
      · rintro ⟨place, found, rfl⟩
        obtain ⟨before, outcome, earlier, admitted, room, dealt, returns, rfl⟩ := setPlaces_succ.mp found
        refine ⟨_, ih.mpr ⟨before, earlier, rfl⟩, ?_⟩
        rw [pass_setListing earlier]
        dsimp only
        rw [if_pos admitted, if_pos room, dealt, Option.map_some, ends_next earlier dealt returns]

end Listings

section Runs

variable {place : SetPlace} {outcome : SetOutcome}

theorem setPlaces_before {later : Nat} (found : setPlaces environment cipClass inst request device later = some place)
    (order : count ≤ later) : ∃ before, setPlaces environment cipClass inst request device count = some before := by
  induction order generalizing place with
  | refl => exact ⟨place, found⟩
  | step _ ih =>
      obtain ⟨before, outcome, earlier, _⟩ := setPlaces_succ.mp found
      exact ih earlier

theorem setPlaces_last (environment : ServiceEnvironment) (cipClass : AttributeClass) (inst : CipInstance)
    (request : CipMessageRouterRequest) (device : CipDevice) (count : Nat) :
    (∃ place, setPlaces environment cipClass inst request device count = some place) ∨
      ∃ last < count, ∃ place, setPlaces environment cipClass inst request device last = some place ∧
        setPlaces environment cipClass inst request device (last + 1) = none := by
  induction count with
  | zero => exact .inl ⟨_, rfl⟩
  | succ count ih =>
      rcases ih with ⟨place, found⟩ | ⟨last, earlier, place, found, none_⟩
      · cases next : setPlaces environment cipClass inst request device (count + 1) with
        | none => exact .inr ⟨count, Nat.lt_succ_self _, place, found, next⟩
        | some place => exact .inl ⟨place, rfl⟩
      · exact .inr ⟨last, Nat.lt_succ_of_lt earlier, place, found, none_⟩

theorem le_of_setPlaces {last : Nat} (found : setPlaces environment cipClass inst request device count = some place)
    (none_ : setPlaces environment cipClass inst request device (last + 1) = none) : count ≤ last := by
  refine Nat.le_of_not_lt fun behind => ?_
  obtain ⟨before, some_⟩ := setPlaces_before found behind
  rw [none_] at some_
  cases some_

theorem setAttributeList_complete (some_ : attributeCountRequest request ≠ 0)
    (found : setPlaces environment cipClass inst request device (attributeCountRequest request).toNat = some place) :
    setAttributeList environment cipClass inst request device =
      some ((Pass.next (setListing environment cipClass inst request device (attributeCountRequest request).toNat
        place)).reply request) := by
  have reached := reaches_setListing.mpr ⟨place, found, rfl⟩
  unfold setAttributeList
  rw [attributeList_eq, if_pos some_, reached]
  rfl

theorem setAttributeList_stopped {last : Nat} (earlier : last < (attributeCountRequest request).toNat)
    (found : setPlaces environment cipClass inst request device last = some place)
    (none_ : setPlaces environment cipClass inst request device (last + 1) = none) :
    setAttributeList environment cipClass inst request device =
      (pass (setListed environment request cipClass) inst
        (setListing environment cipClass inst request device last place)).map (Pass.reply request) := by
  have some_ : attributeCountRequest request ≠ 0 := by
    intro empty
    rw [empty] at earlier
    exact absurd earlier (Nat.not_lt_zero _)
  have reached := reaches_setListing.mpr ⟨place, found, rfl⟩
  have stops (after : Listing) : pass (setListed environment request cipClass) inst
      (setListing environment cipClass inst request device last place) ≠ some (.next after) := by
    intro goesOn
    obtain ⟨next, behind, _⟩ := reaches_setListing.mp (reaches_succ.mpr ⟨_, reached, goesOn⟩)
    rw [none_] at behind
    cases behind
  unfold setAttributeList
  rw [attributeList_eq, if_pos some_, passes_ended reached earlier stops]

end Runs

end EtherNetIP
