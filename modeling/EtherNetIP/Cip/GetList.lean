import EtherNetIP.Cip.ListPasses

/-! The entries of a reply to a request for a list of attributes.

What the entries are follows from the numbers in the request. The loop goes on as
long as the lengths that are announced find space, so its state after so many
passes is told by the entries up to there.
-/

set_option autoImplicit false

namespace EtherNetIP

variable {environment : ServiceEnvironment} {cipClass : AttributeClass} {inst : CipInstance}
  {request : CipMessageRouterRequest} {device : CipDevice} {position count : Nat} {listing : Listing}

def requestedNumber (request : CipMessageRouterRequest) (position : Nat) : UInt16 :=
  (getUintFromMessage.run (octets 2 (request.data.drop (2 * position + 2)))).1

def getEntry (cipClass : AttributeClass) (inst : CipInstance) (device : CipDevice) (attributeNumber : UInt16)
    (used : Nat) : ListEntry :=
  match inst.getCipAttribute attributeNumber with
  | none => ⟨attributeNumber, kCipErrorAttributeNotSupported, []⟩
  | some none => ⟨attributeNumber, kCipErrorAttributeNotGettable, []⟩
  | some (some attr) =>
      if attributeNumber ∈ cipClass.getSingleBitMask then
        ⟨attributeNumber, kCipErrorSuccess, attr.encode (device.memory.read attr.data) (UInt64.ofNat (used + 4))⟩
      else ⟨attributeNumber, kCipErrorAttributeNotGettable, []⟩

def getEntries (cipClass : AttributeClass) (inst : CipInstance) (request : CipMessageRouterRequest)
    (device : CipDevice) : Nat → List ListEntry
  | 0 => []
  | position + 1 =>
      let entries := getEntries cipClass inst request device position
      entries ++ [getEntry cipClass inst device (requestedNumber request position) (listSize entries)]

def getSize (cipClass : AttributeClass) (inst : CipInstance) (request : CipMessageRouterRequest) (device : CipDevice)
    (position : Nat) : Nat :=
  listSize (getEntries cipClass inst request device position)

def GetAdmitted (cipClass : AttributeClass) (inst : CipInstance) (request : CipMessageRouterRequest)
    (device : CipDevice) (position : Nat) : Prop :=
  neededMessageSpace device (inst.getCipAttribute (requestedNumber request position)) +
    getSize cipClass inst request device position ≤ 479

instance : Decidable (GetAdmitted cipClass inst request device position) := inferInstanceAs (Decidable (_ ≤ _))

section Entries

theorem length_getEntries (position : Nat) : (getEntries cipClass inst request device position).length = position := by
  induction position with
  | zero => rfl
  | succ position ih => rw [getEntries, List.length_append, ih, List.length_singleton]

theorem getSize_succ (position : Nat) : getSize cipClass inst request device (position + 1) =
    getSize cipClass inst request device position + 4 +
      (getEntry cipClass inst device (requestedNumber request position)
        (getSize cipClass inst request device position)).data.length :=
  listSize_append ..

theorem getSize_mono {earlier later : Nat} (order : earlier ≤ later) :
    getSize cipClass inst request device earlier ≤ getSize cipClass inst request device later := by
  induction order with
  | refl => exact Nat.le_refl _
  | step _ ih =>
      rw [getSize_succ]
      omega

theorem getEntry_number (attributeNumber : UInt16) (used : Nat) :
    (getEntry cipClass inst device attributeNumber used).attributeNumber = attributeNumber := by
  unfold getEntry
  split
  · rfl
  · rfl
  · split <;> rfl

theorem getEntry_readable {attributeNumber : UInt16} {attr : CipAttributeStruct}
    (found : inst.getCipAttribute attributeNumber = some (some attr))
    (gettable : attributeNumber ∈ cipClass.getSingleBitMask) (device : CipDevice) (used : Nat) :
    getEntry cipClass inst device attributeNumber used =
      ⟨attributeNumber, kCipErrorSuccess, attr.encode (device.memory.read attr.data) (UInt64.ofNat (used + 4))⟩ := by
  unfold getEntry
  rw [found]
  exact if_pos gettable

end Entries

section Loop

/-- The general status is that of a list in which an entry is in error, once there is one. -/
def listStatus (entries : List ListEntry) : UInt8 :=
  if ∀ entry ∈ entries, entry.status = kCipErrorSuccess then kCipErrorSuccess else kCipErrorAttributeListError

theorem listStatus_append (entries : List ListEntry) (entry : ListEntry) : listStatus (entries ++ [entry]) =
    if entry.status = kCipErrorSuccess then listStatus entries else kCipErrorAttributeListError := by
  unfold listStatus
  simp only [List.forall_mem_append, List.forall_mem_singleton]
  by_cases success : entry.status = kCipErrorSuccess
  · simp only [success, and_true, if_true]
  · simp only [success, and_false, if_false]

def getListing (environment : ServiceEnvironment) (cipClass : AttributeClass) (inst : CipInstance)
    (request : CipMessageRouterRequest) (device : CipDevice) (position : Nat) : Listing :=
  let entries := getEntries cipClass inst request device position
  .ofOctets device (.behind environment request (2 * position + 2)) (listStatus entries)
    (entries.flatMap ListEntry.octets)

theorem addStatus_error (attributeNumber : UInt16) (data : RequestData) (generalStatus status : UInt8)
    (octets : List CipOctet) (error : status ≠ kCipErrorSuccess) :
    (((Listing.ofOctets device data generalStatus octets).add (addIntToMessage attributeNumber)).addStatus
        status).answer kCipErrorAttributeListError =
      .ofOctets device data
        (if status = kCipErrorSuccess then generalStatus else kCipErrorAttributeListError)
        (octets ++ (ListEntry.mk attributeNumber status []).octets) := by
  rw [if_neg error, Listing.addStatus, add_ofOctets, add_ofOctets, ListEntry.octets, List.append_nil, List.append_assoc]
  rfl

theorem getListed_ofOctets (attributeNumber : UInt16) (data : RequestData) (generalStatus : UInt8)
    (octets : List CipOctet) :
    getListed cipClass attributeNumber (inst.getCipAttribute attributeNumber)
        ((Listing.ofOctets device data generalStatus octets).add (addIntToMessage attributeNumber)) =
      let entry := getEntry cipClass inst device attributeNumber (octets.length + 2)
      some (.next (.ofOctets device data
        (if entry.status = kCipErrorSuccess then generalStatus else kCipErrorAttributeListError)
        (octets ++ entry.octets))) := by
  unfold getListed getEntry
  cases found : inst.getCipAttribute attributeNumber with
  | none => exact congrArg (fun listing => some (Pass.next listing)) (addStatus_error _ _ _ _ _ (by decide))
  | some entry =>
      by_cases gettable : attributeNumber ∈ cipClass.getSingleBitMask
      · cases entry with
        | none => exact absurd (number_of_unset found ▸ gettable) cipClass.getSingleBitMask.numbered
        | some attr =>
            have used : (octets ++ addIntToMessage attributeNumber ++
                (addSintToMessage kCipErrorSuccess ++ addSintToMessage 0)).length + 2 = octets.length + 2 + 4 := by
              rw [List.length_append, List.length_append]
              exact Nat.add_right_comm _ 4 2
            simp only [gettable, if_true, Option.map_some, Listing.addStatus]
            rw [add_ofOctets, add_ofOctets, add_ofOctets, used_ofOctets, used, ListEntry.octets]
            simp only [List.append_assoc]
            rfl
      · cases entry with
        | none =>
            simp only [gettable, if_false]
            exact congrArg (fun listing => some (Pass.next listing)) (addStatus_error _ _ _ _ _ (by decide))
        | some attr =>
            simp only [gettable, if_false]
            exact congrArg (fun listing => some (Pass.next listing)) (addStatus_error _ _ _ _ _ (by decide))

theorem pass_getListing (fits : getSize cipClass inst request device position ≤ PC_OPENER_ETHERNET_BUFFER_SIZE) :
    pass (getListed cipClass) inst (getListing environment cipClass inst request device position) =
      if GetAdmitted cipClass inst request device position then
        if getSize cipClass inst request device (position + 1) ≤ PC_OPENER_ETHERNET_BUFFER_SIZE then
          some (.next (getListing environment cipClass inst request device (position + 1)))
        else none
      else
        some (.full { getListing environment cipClass inst request device position with
          request := .behind environment request (2 * (position + 1) + 2) }) := by
  have number : (getUintFromMessage.run ((RequestData.behind environment request (2 * position + 2)).next 2)).1 =
      requestedNumber request position := by
    rw [(behind_finds _).next]
    rfl
  have behind : ((RequestData.behind environment request (2 * position + 2)).look 2).skip (2 : Nat) =
      .behind environment request (2 * (position + 1) + 2) := behind_taken ..
  -- the bound of the source, 33 octets below the buffer, is the one of the abstract list
  have announced : neededMessageSpace device (inst.getCipAttribute (requestedNumber request position)) +
        ((getEntries cipClass inst request device position).flatMap ListEntry.octets).length > 477 ↔
      ¬ GetAdmitted cipClass inst request device position := by
    unfold GetAdmitted getSize listSize
    omega
  have added : (getEntries cipClass inst request device position).flatMap ListEntry.octets ++
      (getEntry cipClass inst device (requestedNumber request position)
        (getSize cipClass inst request device position)).octets =
      (getEntries cipClass inst request device (position + 1)).flatMap ListEntry.octets := by
    rw [getEntries, List.flatMap_append, List.flatMap_singleton]
    rfl
  rw [getListing]
  dsimp only
  rw [pass_ofOctets fits]
  dsimp only
  rw [number, behind, if_congr announced rfl rfl, ite_not]
  refine if_congr Iff.rfl ?_ rfl
  rw [getListed_ofOctets]
  dsimp only
  have size : ((getEntries cipClass inst request device position).flatMap ListEntry.octets).length + 2 =
      getSize cipClass inst request device position := rfl
  have next : Listing.ofOctets device (.behind environment request (2 * (position + 1) + 2))
      (if (getEntry cipClass inst device (requestedNumber request position)
          (getSize cipClass inst request device position)).status = kCipErrorSuccess then
        listStatus (getEntries cipClass inst request device position) else kCipErrorAttributeListError)
      ((getEntries cipClass inst request device position).flatMap ListEntry.octets ++
        (getEntry cipClass inst device (requestedNumber request position)
          (getSize cipClass inst request device position)).octets) =
      getListing environment cipClass inst request device (position + 1) := by
    rw [added, ← listStatus_append]
    rfl
  rw [size, filter_ofOctets fun _ => rfl, next, added]
  rfl

end Loop

section Runs

def GetReached (cipClass : AttributeClass) (inst : CipInstance) (request : CipMessageRouterRequest)
    (device : CipDevice) (position : Nat) : Prop :=
  ∀ earlier < position, GetAdmitted cipClass inst request device earlier

theorem getReached_succ : GetReached cipClass inst request device (position + 1) ↔
    GetReached cipClass inst request device position ∧ GetAdmitted cipClass inst request device position :=
  Nat.forall_lt_succ_right

theorem getReached_last (cipClass : AttributeClass) (inst : CipInstance) (request : CipMessageRouterRequest)
    (device : CipDevice) (count : Nat) :
    ∃ last ≤ count, GetReached cipClass inst request device last ∧
      (last = count ∨ last < count ∧ ¬ GetAdmitted cipClass inst request device last) := by
  induction count with
  | zero => exact ⟨0, Nat.le_refl _, nofun, .inl rfl⟩
  | succ count ih =>
      obtain ⟨last, within, reached, atEnd | stopped⟩ := ih
      · subst atEnd
        by_cases admitted : GetAdmitted cipClass inst request device last
        · exact ⟨last + 1, Nat.le_refl _, getReached_succ.mpr ⟨reached, admitted⟩, .inl rfl⟩
        · exact ⟨last, Nat.le_succ _, reached, .inr ⟨Nat.lt_succ_self _, admitted⟩⟩
      · exact ⟨last, Nat.le_succ_of_le within, reached, .inr ⟨Nat.lt_succ_of_lt stopped.1, stopped.2⟩⟩

theorem reaches_getListing (reached : GetReached cipClass inst request device position)
    (fits : getSize cipClass inst request device position ≤ PC_OPENER_ETHERNET_BUFFER_SIZE) :
    Reaches (getListed cipClass) inst (listStart environment request device) position
      (getListing environment cipClass inst request device position) := by
  induction position with
  | zero => exact congrArg (fun status => some (Pass.next (.ofOctets _ _ status _))) (if_pos nofun).symm
  | succ position ih =>
      have admitted := getReached_succ.mp reached
      have earlier := Nat.le_trans (getSize_mono (Nat.le_succ position)) fits
      refine reaches_succ.mpr ⟨_, ih admitted.1 earlier, ?_⟩
      rw [pass_getListing earlier, if_pos admitted.2, if_pos fits]

variable {environment : ServiceEnvironment}

theorem getAttributeList_complete (some_ : attributeCountRequest request ≠ 0)
    (reached : GetReached cipClass inst request device (attributeCountRequest request).toNat)
    (fits : getSize cipClass inst request device (attributeCountRequest request).toNat ≤
      PC_OPENER_ETHERNET_BUFFER_SIZE) :
    getAttributeList environment cipClass inst request device =
      some ((Pass.next (getListing environment cipClass inst request device
        (attributeCountRequest request).toNat)).reply request) := by
  unfold getAttributeList
  rw [attributeList_eq, if_pos some_, reaches_getListing reached fits]
  rfl

theorem getAttributeList_full (earlier : position < (attributeCountRequest request).toNat)
    (reached : GetReached cipClass inst request device position)
    (refused : ¬ GetAdmitted cipClass inst request device position)
    (fits : getSize cipClass inst request device position ≤ PC_OPENER_ETHERNET_BUFFER_SIZE) :
    getAttributeList environment cipClass inst request device =
      some ((Pass.full { getListing environment cipClass inst request device position with
        request := .behind environment request (2 * (position + 1) + 2) }).reply request) := by
  have some_ : attributeCountRequest request ≠ 0 := by
    intro none_
    rw [none_] at earlier
    exact absurd earlier (Nat.not_lt_zero _)
  have ended := @pass_getListing environment cipClass inst request device position fits
  rw [if_neg refused] at ended
  have stops (last : Listing) : pass (getListed cipClass) inst
      (getListing environment cipClass inst request device position) ≠ some (.next last) := by
    rw [ended]
    nofun
  unfold getAttributeList
  rw [attributeList_eq, if_pos some_, passes_ended (reaches_getListing reached fits) earlier stops, ended]
  rfl

theorem getAttributeList_beyond (within : position ≤ (attributeCountRequest request).toNat)
    (reached : GetReached cipClass inst request device position)
    (beyond : PC_OPENER_ETHERNET_BUFFER_SIZE < getSize cipClass inst request device position) :
    getAttributeList environment cipClass inst request device = none := by
  induction position with
  | zero => exact absurd beyond (Nat.not_lt_of_le (by decide : 2 ≤ PC_OPENER_ETHERNET_BUFFER_SIZE))
  | succ position ih =>
      have admitted := getReached_succ.mp reached
      by_cases fits : getSize cipClass inst request device position ≤ PC_OPENER_ETHERNET_BUFFER_SIZE
      · have ended := @pass_getListing environment cipClass inst request device position fits
        rw [if_pos admitted.2, if_neg (Nat.not_le_of_lt beyond)] at ended
        have some_ : attributeCountRequest request ≠ 0 := by
          intro none_
          rw [none_] at within
          exact absurd within (Nat.not_succ_le_zero _)
        have stops (last : Listing) : pass (getListed cipClass) inst
            (getListing environment cipClass inst request device position) ≠ some (.next last) := by
          rw [ended]
          nofun
        unfold getAttributeList
        rw [attributeList_eq, if_pos some_, passes_ended (reaches_getListing admitted.1 fits) within stops, ended]
        rfl
      · exact ih (Nat.le_of_succ_le within) admitted.1 (Nat.lt_of_not_le fits)

end Runs

end EtherNetIP
