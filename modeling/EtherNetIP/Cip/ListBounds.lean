import EtherNetIP.Cip.GetList
import EtherNetIP.Cip.SetAttribute
import EtherNetIP.Cip.SetList
import EtherNetIP.Encap.Encap

/-! How long the replies of the list services are, and how far they read.

The space that is kept for the rest of the frame does not hold it, and the length
that is announced is not that of the entry. So whether a reply fits its frame has
to be told by the lengths of the entries themselves.
-/

set_option autoImplicit false

namespace EtherNetIP

variable {environment : ServiceEnvironment} {cipClass : AttributeClass} {inst : CipInstance}
  {request : CipMessageRouterRequest} {device : CipDevice} {items : CipCommonPacketFormatData}

section Frames

def CarriesReply (items : CipCommonPacketFormatData) : Prop :=
  items.addressItem.typeId = kCipItemIdNullAddress ∧ items.dataItem.typeId = kCipItemIdUnconnectedDataItem ∨
    items.addressItem.typeId = kCipItemIdConnectionAddress ∧ items.dataItem.typeId = kCipItemIdConnectedDataItem

def frameLength (response : Response) (items : CipCommonPacketFormatData) : Nat :=
  ENCAPSULATION_HEADER_LENGTH + (assembleLinearMessage response items).length

def frameOverhead (items : CipCommonPacketFormatData) : Nat :=
  (if items.dataItem.typeId = kCipItemIdConnectedDataItem then 50 else 44) +
    (encodeItemOfType items.addressInfoItems kCipItemIdSocketAddressInfoOriginatorToTarget).length +
    (encodeItemOfType items.addressInfoItems kCipItemIdSocketAddressInfoTargetToOriginator).length

theorem frameLength_emptyReply (carries : CarriesReply items) (generalStatus : UInt8) (message : List CipOctet) :
    frameLength { emptyReply request generalStatus with message } items = frameOverhead items + message.length := by
  have encoded : (encodeResponse { emptyReply request generalStatus with message }).length = 4 + message.length := by
    rw [encodeResponse, List.length_append]
    rfl
  unfold frameLength assembleLinearMessage frameOverhead encodeDataItem
  rcases carries with ⟨address, data⟩ | ⟨address, data⟩
  · have other : kCipItemIdUnconnectedDataItem ≠ kCipItemIdConnectedDataItem := by decide
    simp only [address, data, if_true, if_neg other, List.length_append, encoded]
    change 24 + (4 + 2 + 2 + 4 + (2 + 2 + (4 + message.length) + _ + _)) = _
    omega
  · have other : kCipItemIdConnectionAddress ≠ kCipItemIdNullAddress := by decide
    simp only [address, data, if_true, if_neg other, List.length_append, encoded]
    change 24 + (4 + 2 + 2 + 8 + (2 + 2 + 2 + (4 + message.length) + _ + _)) = _
    omega

theorem length_encodeItemOfType (infoItems : AddressInfoItems) (type : UInt16) :
    (encodeItemOfType infoItems type).length ≤ 20 := by
  unfold encodeItemOfType
  split
  · exact Nat.le_refl 20
  · split
    · exact Nat.le_refl 20
    · exact Nat.zero_le _

theorem frameOverhead_small (items : CipCommonPacketFormatData) :
    frameOverhead items + 2 ≤ PC_OPENER_ETHERNET_BUFFER_SIZE := by
  have first := length_encodeItemOfType items.addressInfoItems kCipItemIdSocketAddressInfoOriginatorToTarget
  have second := length_encodeItemOfType items.addressInfoItems kCipItemIdSocketAddressInfoTargetToOriginator
  unfold frameOverhead PC_OPENER_ETHERNET_BUFFER_SIZE
  split <;> omega

end Frames

section Getting

/-- The reply fits its frame, and of the request no octet has been looked at that it does not have. -/
def GetStaysWithin (environment : ServiceEnvironment) (cipClass : AttributeClass) (inst : CipInstance)
    (request : CipMessageRouterRequest) (device : CipDevice) (items : CipCommonPacketFormatData) : Prop :=
  ∃ reply, getAttributeList environment cipClass inst request device = some reply ∧
    frameLength reply.response items ≤ PC_OPENER_ETHERNET_BUFFER_SIZE ∧
    reply.request.lookedAt ≤ request.requestDataSize.toNat

def EntriesFit (cipClass : AttributeClass) (inst : CipInstance) (request : CipMessageRouterRequest)
    (device : CipDevice) (items : CipCommonPacketFormatData) : Prop :=
  ∀ position ≤ (attributeCountRequest request).toNat, GetReached cipClass inst request device position →
    frameOverhead items + getSize cipClass inst request device position ≤ PC_OPENER_ETHERNET_BUFFER_SIZE

/-- The request has the count and the numbers the loop gets to. -/
def NumbersWithin (cipClass : AttributeClass) (inst : CipInstance) (request : CipMessageRouterRequest)
    (device : CipDevice) : Prop :=
  2 ≤ request.requestDataSize.toNat ∧
    ∀ position < (attributeCountRequest request).toNat, GetReached cipClass inst request device position →
      2 * position + 4 ≤ request.requestDataSize.toNat

theorem lookedAt_behind {count : Nat} (some_ : count ≠ 0) :
    (RequestData.behind environment request count).lookedAt = count := by
  unfold RequestData.behind RequestData.look
  rw [if_neg some_]
  change max 0 (0 + (count : Int)) = _
  omega

theorem le_of_getReached {last position : Nat} (reached : GetReached cipClass inst request device position)
    (ends : ¬ GetAdmitted cipClass inst request device last) : position ≤ last :=
  Nat.le_of_not_lt fun behind => ends (reached last behind)

theorem entriesFit_iff {last : Nat} (within : last ≤ (attributeCountRequest request).toNat)
    (reached : GetReached cipClass inst request device last)
    (ends : last = (attributeCountRequest request).toNat ∨
      last < (attributeCountRequest request).toNat ∧ ¬ GetAdmitted cipClass inst request device last) :
    EntriesFit cipClass inst request device items ↔
      frameOverhead items + getSize cipClass inst request device last ≤ PC_OPENER_ETHERNET_BUFFER_SIZE := by
  constructor
  · intro fit
    exact fit last within reached
  · intro fits position inside before
    have order : position ≤ last := ends.elim (fun same => same ▸ inside) fun stopped => le_of_getReached before stopped.2
    exact Nat.le_trans (Nat.add_le_add_left (getSize_mono order) _) fits

theorem numbersWithin_iff {last : Nat} (within : last ≤ (attributeCountRequest request).toNat)
    (reached : GetReached cipClass inst request device last)
    (ends : last = (attributeCountRequest request).toNat ∨
      last < (attributeCountRequest request).toNat ∧ ¬ GetAdmitted cipClass inst request device last) :
    NumbersWithin cipClass inst request device ↔
      2 * min (last + 1) (attributeCountRequest request).toNat + 2 ≤ request.requestDataSize.toNat := by
  constructor
  · rintro ⟨count, numbers⟩
    rcases Nat.eq_zero_or_pos (attributeCountRequest request).toNat with none_ | some_
    · omega
    · have number := numbers (min last ((attributeCountRequest request).toNat - 1)) (by omega)
        fun earlier before => reached earlier (by omega)
      omega
  · intro enough
    refine ⟨by omega, fun position inside before => ?_⟩
    have order : position ≤ last := ends.elim (fun same => by omega) fun stopped => le_of_getReached before stopped.2
    omega

theorem getAttributeList_ends (environment : ServiceEnvironment) (carries : CarriesReply items) {last : Nat}
    (within : last ≤ (attributeCountRequest request).toNat) (reached : GetReached cipClass inst request device last)
    (ends : last = (attributeCountRequest request).toNat ∨
      last < (attributeCountRequest request).toNat ∧ ¬ GetAdmitted cipClass inst request device last)
    (fits : getSize cipClass inst request device last ≤ PC_OPENER_ETHERNET_BUFFER_SIZE) :
    ∃ reply, getAttributeList environment cipClass inst request device = some reply ∧
      frameLength reply.response items = frameOverhead items +
        (if attributeCountRequest request = 0 then 0 else getSize cipClass inst request device last) ∧
      reply.request.lookedAt = (2 * min (last + 1) (attributeCountRequest request).toNat + 2 : Nat) := by
  by_cases none_ : attributeCountRequest request = 0
  · refine ⟨_, (attributeList_eq.trans (if_neg (not_not_intro none_))), ?_, ?_⟩
    · rw [if_pos none_]
      exact frameLength_emptyReply carries kCipErrorAttributeListError []
    · rw [none_]
      exact (lookedAt_behind (by decide)).trans (by simp)
  · rcases ends with atEnd | ⟨earlier, refused⟩
    · subst atEnd
      refine ⟨_, getAttributeList_complete none_ reached fits, ?_, ?_⟩
      · rw [getListing, reply_next fits, if_neg none_, frameLength_emptyReply carries]
        rfl
      · rw [getListing, reply_next fits, Nat.min_eq_right (Nat.le_succ _)]
        exact lookedAt_behind (Nat.succ_ne_zero _)
    · have full : { getListing environment cipClass inst request device last with
          request := .behind environment request (2 * (last + 1) + 2) } = Listing.ofOctets device
            (.behind environment request (2 * (last + 1) + 2)) _
            ((getEntries cipClass inst request device last).flatMap ListEntry.octets) := rfl
      refine ⟨_, getAttributeList_full earlier reached refused fits, ?_, ?_⟩
      · rw [full, reply_full fits, if_neg none_, frameLength_emptyReply carries]
        rfl
      · rw [full, reply_full fits, Nat.min_eq_left earlier]
        exact lookedAt_behind (Nat.succ_ne_zero _)

theorem getStaysWithin_iff (carries : CarriesReply items) :
    GetStaysWithin environment cipClass inst request device items ↔
      EntriesFit cipClass inst request device items ∧ NumbersWithin cipClass inst request device := by
  obtain ⟨last, within, reached, ends⟩ :=
    getReached_last cipClass inst request device (attributeCountRequest request).toNat
  rw [entriesFit_iff within reached ends, numbersWithin_iff within reached ends]
  by_cases fits : getSize cipClass inst request device last ≤ PC_OPENER_ETHERNET_BUFFER_SIZE
  · obtain ⟨reply, returned, length, looked⟩ := getAttributeList_ends environment carries within reached ends fits
    have frame : frameLength reply.response items ≤ PC_OPENER_ETHERNET_BUFFER_SIZE ↔
        frameOverhead items + getSize cipClass inst request device last ≤ PC_OPENER_ETHERNET_BUFFER_SIZE := by
      by_cases none_ : attributeCountRequest request = 0
      · have first : last = 0 := by
          rw [none_] at within
          exact Nat.le_zero.mp within
        have small := frameOverhead_small items
        rw [length, if_pos none_, first]
        exact iff_of_true (Nat.le_trans (Nat.le_add_right _ 2) small) small
      · rw [length, if_neg none_]
    have looks : reply.request.lookedAt ≤ request.requestDataSize.toNat ↔
        2 * min (last + 1) (attributeCountRequest request).toNat + 2 ≤ request.requestDataSize.toNat := by
      rw [looked]
      exact Int.ofNat_le
    rw [← frame, ← looks]
    constructor
    · rintro ⟨other, returned', kept⟩
      cases returned.symm.trans returned'
      exact kept
    · intro kept
      exact ⟨reply, returned, kept⟩
  · have beyond := @getAttributeList_beyond cipClass inst request device last environment within reached (Nat.lt_of_not_le fits)
    refine iff_of_false ?_ ?_
    · rintro ⟨reply, returned, _⟩
      rw [beyond] at returned
      cases returned
    · rintro ⟨frame, _⟩
      exact fits (Nat.le_trans (Nat.le_add_left ..) frame)

end Getting

section Setting

variable {place : SetPlace} {outcome : SetOutcome} {count : Nat}

/-- The service answers, and no octet has been looked at that the request does not have. -/
def SetStaysWithin (environment : ServiceEnvironment) (cipClass : AttributeClass) (inst : CipInstance)
    (request : CipMessageRouterRequest) (device : CipDevice) : Prop :=
  ∃ reply, setAttributeList environment cipClass inst request device = some reply ∧
    reply.request.lookedAt ≤ request.requestDataSize.toNat

/-- The request has what is looked at of an entry: its number, and if the loop goes on to it as much of the value as
its outcome tells. -/
def EntryWithin (environment : ServiceEnvironment) (cipClass : AttributeClass) (inst : CipInstance)
    (request : CipMessageRouterRequest) (count : Nat) (place : SetPlace) : Prop :=
  place.position + 2 ≤ request.requestDataSize.toNat ∧
    (SetAdmitted environment inst request count place → 4 * count + 6 ≤ PC_OPENER_ETHERNET_BUFFER_SIZE ∧
      ∃ outcome, setOutcome environment cipClass inst request place = some outcome ∧
        (outcome.looked ≠ 0 → place.position + 2 + outcome.looked ≤ request.requestDataSize.toNat))

def ValuesWithin (environment : ServiceEnvironment) (cipClass : AttributeClass) (inst : CipInstance)
    (request : CipMessageRouterRequest) (device : CipDevice) : Prop :=
  2 ≤ request.requestDataSize.toNat ∧
    ∀ count < (attributeCountRequest request).toNat, ∀ place,
      setPlaces environment cipClass inst request device count = some place →
        EntryWithin environment cipClass inst request count place

theorem lookedAt_look_le {data : RequestData} {count : Nat} {size : Int} :
    (data.look count).lookedAt ≤ size ↔ data.lookedAt ≤ size ∧ (count ≠ 0 → data.position + count ≤ size) := by
  unfold RequestData.look
  split
  next none_ => simp [none_]
  next some_ =>
    simp only [some_, ne_eq, not_false_eq_true, true_implies]
    omega

theorem lookedAt_number_le (found : setPlaces environment cipClass inst request device count = some place) {size : Int} :
    (((setData environment cipClass inst request device count).look 2).skip (2 : Nat)).lookedAt ≤ size ↔
      (setData environment cipClass inst request device count).lookedAt ≤ size ∧ place.position + 2 ≤ size := by
  have number := @lookedAt_look_le (setData environment cipClass inst request device count) 2 size
  rw [(setData_place found).2] at number
  exact number.trans (and_congr_right fun _ => ⟨fun inside => inside (by decide), fun inside _ => inside⟩)

theorem lookedAt_value_le (found : setPlaces environment cipClass inst request device count = some place)
    (looked : Nat) {size : Int} :
    ((((setData environment cipClass inst request device count).look 2).skip (2 : Nat)).look looked).lookedAt ≤ size ↔
      (setData environment cipClass inst request device count).lookedAt ≤ size ∧ place.position + 2 ≤ size ∧
        (looked ≠ 0 → place.position + 2 + looked ≤ size) := by
  have position : (((setData environment cipClass inst request device count).look 2).skip (2 : Nat)).position =
      place.position + 2 := by
    rw [← (setData_place found).2]
    exact congrArg (· + 2) (RequestData.look_position ..)
  rw [lookedAt_look_le, lookedAt_number_le found, position, and_assoc]

theorem entryWithin_iff (admitted : SetAdmitted environment inst request count place)
    (room : 4 * count + 6 ≤ PC_OPENER_ETHERNET_BUFFER_SIZE)
    (dealt : setOutcome environment cipClass inst request place = some outcome) :
    EntryWithin environment cipClass inst request count place ↔
      place.position + 2 ≤ request.requestDataSize.toNat ∧
        (outcome.looked ≠ 0 → place.position + 2 + outcome.looked ≤ request.requestDataSize.toNat) := by
  refine and_congr_right fun _ => ⟨fun within => ?_, fun within _ => ⟨room, outcome, dealt, within⟩⟩
  obtain ⟨-, other, same, inside⟩ := within admitted
  cases dealt.symm.trans same
  exact inside

theorem lookedAt_setData_le (found : setPlaces environment cipClass inst request device count = some place) :
    (setData environment cipClass inst request device count).lookedAt ≤ request.requestDataSize.toNat ↔
      2 ≤ request.requestDataSize.toNat ∧ ∀ earlier < count, ∀ before,
        setPlaces environment cipClass inst request device earlier = some before →
          EntryWithin environment cipClass inst request earlier before := by
  induction count generalizing place with
  | zero =>
      rw [setData, lookedAt_behind (by decide)]
      exact ⟨fun enough => ⟨Int.ofNat_le.mp enough, fun earlier before => absurd before (Nat.not_lt_zero earlier)⟩,
        fun enough => Int.ofNat_le.mpr enough.1⟩
  | succ count ih =>
      obtain ⟨before, outcome, earlier, admitted, room, dealt, -⟩ := setPlaces_succ.mp found
      have outcomes : setOutcomes environment cipClass inst request device count = some outcome := by
        rw [setOutcomes, earlier]
        exact dealt
      rw [setData, outcomes]
      refine (lookedAt_value_le earlier outcome.looked).trans ?_
      rw [ih earlier, and_assoc]
      refine and_congr_right fun _ => ?_
      rw [← entryWithin_iff admitted room dealt, Nat.forall_lt_succ_right]
      refine and_congr_right fun _ => ⟨fun within other same => ?_, fun within => within before earlier⟩
      cases earlier.symm.trans same
      exact within

theorem valuesWithin_last {last : Nat} (earlier : last < (attributeCountRequest request).toNat)
    (found : setPlaces environment cipClass inst request device last = some place)
    (none_ : setPlaces environment cipClass inst request device (last + 1) = none) :
    ValuesWithin environment cipClass inst request device ↔
      (setData environment cipClass inst request device last).lookedAt ≤ request.requestDataSize.toNat ∧
        EntryWithin environment cipClass inst request last place := by
  rw [lookedAt_setData_le found, and_assoc, ValuesWithin]
  refine and_congr_right fun _ => ⟨fun within => ?_, fun within count inside before placed => ?_⟩
  · exact ⟨fun count inside => within count (Nat.lt_trans inside earlier), within last earlier place found⟩
  · rcases Nat.lt_or_eq_of_le (le_of_setPlaces placed none_) with before_ | same
    · exact within.1 count before_ before placed
    · subst same
      cases found.symm.trans placed
      exact within.2

theorem setStaysWithin_of_reply {reply : ListReply}
    (returned : setAttributeList environment cipClass inst request device = some reply) :
    SetStaysWithin environment cipClass inst request device ↔
      reply.request.lookedAt ≤ request.requestDataSize.toNat := by
  constructor
  · rintro ⟨other, same, inside⟩
    cases returned.symm.trans same
    exact inside
  · intro inside
    exact ⟨reply, returned, inside⟩

theorem not_setStaysWithin (crashed : setAttributeList environment cipClass inst request device = none) :
    ¬ SetStaysWithin environment cipClass inst request device := by
  rintro ⟨reply, returned, _⟩
  rw [crashed] at returned
  cases returned

theorem request_reply_ends (attributeNumber : UInt16) (behind : RequestData) (octets : List CipOctet)
    (returns : outcome.returns = true) :
    ((outcome.ends attributeNumber behind octets).reply request).request =
      (behind.look outcome.looked).skip outcome.moved := by
  unfold SetOutcome.ends
  rw [returns]
  rfl

theorem request_reply_full (listing : Listing) : ((Pass.full listing).reply request).request = listing.request := by
  change (listing.addCount (attributeCountRequest request)).partialTransfer.request = listing.request
  unfold Listing.partialTransfer
  split <;> rfl

theorem setStaysWithin_iff : SetStaysWithin environment cipClass inst request device ↔
    ValuesWithin environment cipClass inst request device := by
  by_cases none_ : attributeCountRequest request = 0
  · have empty : setAttributeList environment cipClass inst request device =
        some ⟨emptyReply request kCipErrorAttributeListError, device, .behind environment request 2⟩ :=
      attributeList_eq.trans (if_neg (not_not_intro none_))
    rw [setStaysWithin_of_reply empty, ValuesWithin, none_]
    change (RequestData.behind environment request 2).lookedAt ≤ _ ↔ _
    rw [lookedAt_behind (by decide)]
    exact ⟨fun enough => ⟨Int.ofNat_le.mp enough, nofun⟩, fun enough => Int.ofNat_le.mpr enough.1⟩
  · rcases setPlaces_last environment cipClass inst request device (attributeCountRequest request).toNat with
      ⟨place, found⟩ | ⟨last, earlier, place, found, stops⟩
    · rw [setStaysWithin_of_reply (setAttributeList_complete none_ found)]
      exact lookedAt_setData_le found
    · have stopped := setAttributeList_stopped earlier found stops
      rw [pass_setListing found] at stopped
      dsimp only at stopped
      rw [valuesWithin_last earlier found stops]
      -- the service stops at the entry: full, beyond the buffer, without a function, or returned
      by_cases admitted : SetAdmitted environment inst request last place
      · rw [if_pos admitted] at stopped
        by_cases room : 4 * last + 6 ≤ PC_OPENER_ETHERNET_BUFFER_SIZE
        · rw [if_pos room] at stopped
          cases dealt : setOutcome environment cipClass inst request place with
          | none =>
              rw [dealt] at stopped
              refine iff_of_false (not_setStaysWithin stopped) fun within => ?_
              obtain ⟨-, outcome, same, -⟩ := within.2.2 admitted
              rw [dealt] at same
              cases same
          | some outcome =>
              have returns : outcome.returns = true := by
                refine Bool.eq_true_of_not_eq_false fun goesOn => ?_
                have next := setPlaces_succ.mpr ⟨place, outcome, found, admitted, room, dealt, goesOn, rfl⟩
                rw [stops] at next
                cases next
              rw [dealt, Option.map_some, Option.map_some] at stopped
              rw [setStaysWithin_of_reply stopped, request_reply_ends _ _ _ returns, entryWithin_iff admitted room dealt]
              exact lookedAt_value_le found outcome.looked
        · rw [if_neg room] at stopped
          exact iff_of_false (not_setStaysWithin stopped) fun within => room (within.2.2 admitted).1
      · rw [if_neg admitted, Option.map_some] at stopped
        rw [setStaysWithin_of_reply stopped, request_reply_full]
        refine (lookedAt_number_le found).trans (and_congr_right fun _ => ?_)
        exact ⟨fun number => ⟨number, fun refused => absurd refused admitted⟩, And.left⟩

/-- What the services have to be asked for so that their replies fit and they do not read behind the request. -/
theorem listsStayWithin_iff (carries : CarriesReply items) :
    (GetStaysWithin environment cipClass inst request device items ↔
        EntriesFit cipClass inst request device items ∧ NumbersWithin cipClass inst request device) ∧
      (SetStaysWithin environment cipClass inst request device ↔
        ValuesWithin environment cipClass inst request device) :=
  ⟨getStaysWithin_iff carries, setStaysWithin_iff⟩

end Setting

section Identity

def repeatedRequest (attributeNumber : UInt16) (count : Nat) : CipMessageRouterRequest where
  service := kGetAttributeList
  requestPath := ⟨2, 1, 1, 0⟩
  requestDataSize := UInt64.ofNat (2 * count + 2)
  data := addIntToMessage (UInt16.ofNat count) ++ (List.replicate count (addIntToMessage attributeNumber)).flatten

def emptyUnconnectedItems : CipCommonPacketFormatData where
  itemCount := 2
  addressItem := ⟨kCipItemIdNullAddress, 0, ⟨0, 0⟩⟩
  dataItem := ⟨kCipItemIdUnconnectedDataItem, 0, []⟩
  addressInfoItems := ⟨.zero, .zero⟩

theorem emptyUnconnectedItems_carry : CarriesReply emptyUnconnectedItems := .inl ⟨rfl, rfl⟩

theorem getSize_repeated {position size : Nat} {attributeNumber : UInt16}
    (same : ∀ earlier < position, requestedNumber request earlier = attributeNumber)
    (long : ∀ used, (getEntry cipClass inst device attributeNumber used).data.length = size) :
    getSize cipClass inst request device position = 2 + position * (4 + size) := by
  induction position with
  | zero => exact congrArg (2 + ·) (Nat.zero_mul _).symm
  | succ position ih =>
      rw [getSize_succ, ih fun earlier before => same earlier (Nat.lt_succ_of_lt before),
        same position (Nat.lt_succ_self _), long, Nat.succ_mul]
      omega

/-- The vendor number, asked for twice. -/
theorem vendorId_twice_within : ∃ identityClass inst, cipIdentityInit = .ok identityClass ∧
    identityClass.getCipInstance 1 = some inst ∧
    GetStaysWithin quietEnvironment identityClass inst (repeatedRequest 1 2) clearedDevice emptyUnconnectedItems := by
  refine ⟨_, _, rfl, rfl, (listsStayWithin_iff emptyUnconnectedItems_carry).1.mpr ⟨?_, by decide, ?_⟩⟩
  · intro position inside _
    have order : position ≤ 2 := inside
    exact Nat.le_trans (Nat.add_le_add_left (getSize_mono order) _) (by decide)
  · intro position inside _
    have order : position < 2 := inside
    change 2 * position + 4 ≤ 6
    omega

def vendorId : CipAttributeStruct := identityAttribute 1 one_numbered .uint encodeCipUint .identityVendorId

/-- Eighty times a number of two octets is what the loop admits, and more than the frame has space for. -/
theorem vendorId_beyond {device : CipDevice} (found : inst.getCipAttribute 1 = some (some vendorId))
    (gettable : 1 ∈ cipClass.getSingleBitMask) :
    ¬ GetStaysWithin environment cipClass inst (repeatedRequest 1 80) device emptyUnconnectedItems := by
  have numbers : ∀ earlier < 80, requestedNumber (repeatedRequest 1 80) earlier = 1 := by decide
  have long (used : Nat) : (getEntry cipClass inst device 1 used).data.length = 2 :=
    congrArg (·.data.length) (getEntry_readable found gettable device used)
  intro within
  have fit := ((getStaysWithin_iff emptyUnconnectedItems_carry).mp within).1 80 (Nat.le_refl 80) fun earlier before => by
    unfold GetAdmitted
    rw [numbers earlier before, found,
      getSize_repeated (fun first order => numbers first (Nat.lt_trans order before)) long]
    change (2 : Int) + ((2 + earlier * (4 + 2) : Nat) : Int) ≤ 479
    omega
  rw [getSize_repeated numbers long] at fit
  exact absurd fit (by decide)

/-- The vendor number of the identity object, asked for eighty times. -/
theorem vendorId_beyond_frame : ∃ identityClass inst, cipIdentityInit = .ok identityClass ∧
    identityClass.getCipInstance 1 = some inst ∧
    ¬ GetStaysWithin quietEnvironment identityClass inst (repeatedRequest 1 80) clearedDevice
      emptyUnconnectedItems :=
  ⟨_, _, rfl, rfl, vendorId_beyond rfl (by decide)⟩

end Identity

end EtherNetIP
