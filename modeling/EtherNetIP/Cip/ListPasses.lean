import EtherNetIP.Cip.AttributeLists
import EtherNetIP.Cip.DecodeOutcomes

/-! The loop of the list services, and the messages it builds.

As long as the loop goes on each pass adds an entry, so the message is the kept
place and the entries behind it. Where the loop ends, one of its passes has ended
in that way.
-/

set_option autoImplicit false

namespace EtherNetIP

section Messages

namespace EnipMessage

theorem moveOn_initialized : initialized.moveOn 2 = initialized.add [0, 0] := by
  unfold moveOn add initialized
  congr 1

theorem addCount_taken {entries : List CipOctet} (attributeCount : UInt16)
    (fits : entries.length + 2 ≤ PC_OPENER_ETHERNET_BUFFER_SIZE) :
    ((initialized.add ([0, 0] ++ entries)).addCount attributeCount).messageBuffer.take
        ((initialized.add ([0, 0] ++ entries)).addCount attributeCount).usedMessageLength.toNat =
      addIntToMessage attributeCount ++ entries := by
  have used : ((initialized.add ([0, 0] ++ entries)).addCount attributeCount).usedMessageLength.toNat =
      entries.length + 2 := by
    have added : (initialized.add ([0, 0] ++ entries)).usedMessageLength.toNat = entries.length + 2 :=
      initialized_add_used fits
    rw [← added]
    exact congrArg UInt64.toNat (UInt64.sub_add_cancel ..)
  have buffer : ((initialized.add ([0, 0] ++ entries)).addCount attributeCount).messageBuffer =
      addIntToMessage attributeCount ++ entries ++
        List.replicate (PC_OPENER_ETHERNET_BUFFER_SIZE - ([0, 0] ++ entries).length) 0 := by
    change List.take 0 _ ++ addIntToMessage attributeCount ++ List.drop (0 + 2) (initialized.add _).messageBuffer = _
    rw [initialized_add, List.append_assoc [0, 0]]
    rfl
  rw [used, buffer]
  exact List.take_left' rfl

theorem add_taken {octets : List CipOctet} (fits : octets.length ≤ PC_OPENER_ETHERNET_BUFFER_SIZE) :
    (initialized.add octets).messageBuffer.take (initialized.add octets).usedMessageLength.toNat = octets := by
  rw [initialized_add_used fits, initialized_add]
  exact List.take_left

end EnipMessage

end Messages

section Loop

variable {access : EntryAccess} {inst : CipInstance} {listing start last : Listing} {count : Nat} {ended : Pass}

def Reaches (access : EntryAccess) (inst : CipInstance) (start : Listing) (count : Nat) (listing : Listing) : Prop :=
  passes access inst count start = some (.next listing)

theorem passes_succ (access : EntryAccess) (inst : CipInstance) (count : Nat) (start : Listing) :
    passes access inst (count + 1) start =
      match passes access inst count start with
      | some (.next listing) => pass access inst listing
      | other => other := by
  induction count generalizing start with
  | zero =>
      unfold passes passes
      split <;> simp_all
  | succ count ih =>
      rw [passes, passes]
      split
      next listing _ => exact ih listing
      next other => split <;> simp_all

theorem reaches_succ : Reaches access inst start (count + 1) last ↔
    ∃ listing, Reaches access inst start count listing ∧ pass access inst listing = some (.next last) := by
  unfold Reaches
  rw [passes_succ]
  constructor
  · intro reached
    split at reached
    next listing before => exact ⟨listing, before, reached⟩
    next other => exact absurd reached (other last)
  · rintro ⟨listing, before, goesOn⟩
    rw [before]
    exact goesOn

theorem passes_ended {done : Nat} (reached : Reaches access inst start done listing) (earlier : done < count)
    (ends : ∀ last, pass access inst listing ≠ some (.next last)) :
    passes access inst count start = pass access inst listing := by
  induction count with
  | zero => exact absurd earlier (Nat.not_lt_zero _)
  | succ count ih =>
      rw [passes_succ]
      rcases Nat.lt_succ_iff_lt_or_eq.mp earlier with before | same
      · rw [ih before]
        cases ended : pass access inst listing with
        | none => rfl
        | some how =>
            cases how with
            | next after => exact absurd ended (ends after)
            | full | returned => rfl
      · rw [← same, reached]

end Loop

section Entries

theorem number_of_unset {inst : CipInstance} {attributeNumber : UInt16} (found : inst.getCipAttribute attributeNumber = some none) :
    attributeNumber = 0 := by
  have number := List.find?_some found
  exact (beq_iff_eq.mp number).symm

structure ListEntry where
  attributeNumber : UInt16
  status : UInt8
  data : List CipOctet

def ListEntry.octets (entry : ListEntry) : List CipOctet :=
  addIntToMessage entry.attributeNumber ++ (addSintToMessage entry.status ++ addSintToMessage 0) ++ entry.data

theorem ListEntry.octets_length (entry : ListEntry) : entry.octets.length = 4 + entry.data.length := List.length_append

def listSize (entries : List ListEntry) : Nat := (entries.flatMap ListEntry.octets).length + 2

theorem listSize_append (entries : List ListEntry) (entry : ListEntry) :
    listSize (entries ++ [entry]) = listSize entries + 4 + entry.data.length := by
  unfold listSize
  rw [List.flatMap_append, List.length_append, List.flatMap_singleton, ListEntry.octets_length]
  omega

def Listing.ofOctets (device : CipDevice) (request : RequestData) (generalStatus : UInt8) (octets : List CipOctet) :
    Listing :=
  ⟨device, request, generalStatus, EnipMessage.initialized.add ([0, 0] ++ octets)⟩

variable {device : CipDevice} {request : RequestData} {generalStatus : UInt8} {octets : List CipOctet}

theorem add_ofOctets (more : List CipOctet) : (Listing.ofOctets device request generalStatus octets).add more =
    Listing.ofOctets device request generalStatus (octets ++ more) := by
  unfold Listing.add Listing.ofOctets
  dsimp only
  rw [EnipMessage.add_add EnipMessage.initialized_within, List.append_assoc]

theorem used_ofOctets : (Listing.ofOctets device request generalStatus octets).message.usedMessageLength =
    UInt64.ofNat (octets.length + 2) :=
  UInt64.zero_add _

theorem remainingMessageSpace_ofOctets (fits : octets.length + 2 ≤ PC_OPENER_ETHERNET_BUFFER_SIZE) :
    (Listing.ofOctets device request generalStatus octets).remainingMessageSpace = 477 - (octets.length : Int) := by
  have used : (Listing.ofOctets device request generalStatus octets).message.usedMessageLength.toNat =
      octets.length + 2 :=
    @EnipMessage.initialized_add_used ([0, 0] ++ octets) fits
  unfold Listing.remainingMessageSpace
  rw [used, PC_OPENER_ETHERNET_BUFFER_SIZE]
  omega

theorem filter_ofOctets {ends : Listing → Pass} (how : ∀ listing, (ends listing).inBuffer =
      decide (listing.message.currentMessagePosition ≤ PC_OPENER_ETHERNET_BUFFER_SIZE)) :
    (some (ends (Listing.ofOctets device request generalStatus octets))).filter Pass.inBuffer =
      if octets.length + 2 ≤ PC_OPENER_ETHERNET_BUFFER_SIZE then
        some (ends (Listing.ofOctets device request generalStatus octets))
      else none := by
  have position : (Listing.ofOctets device request generalStatus octets).message.currentMessagePosition =
      octets.length + 2 := Nat.zero_add _
  rw [Option.filter_some, how, position]
  simp only [decide_eq_true_eq]

theorem pass_ofOctets {access : EntryAccess} {inst : CipInstance}
    (fits : octets.length + 2 ≤ PC_OPENER_ETHERNET_BUFFER_SIZE) :
    pass access inst (.ofOctets device request generalStatus octets) =
      let attributeNumber := (getUintFromMessage.run (request.next 2)).1
      let listing := Listing.ofOctets device ((request.look 2).skip (2 : Nat)) generalStatus octets
      if neededMessageSpace device (inst.getCipAttribute attributeNumber) + octets.length > 477 then
        some (.full listing)
      else
        (access attributeNumber (inst.getCipAttribute attributeNumber)
          (listing.add (addIntToMessage attributeNumber))).filter Pass.inBuffer := by
  have space : ∀ needed data, needed > (Listing.ofOctets device data generalStatus octets).remainingMessageSpace ↔
      needed + octets.length > 477 := by
    intro needed data
    rw [remainingMessageSpace_ofOctets fits]
    omega
  unfold pass Listing.getUint
  exact if_congr (space _ _) rfl rfl

/-- The entries a client finds in the octets behind the count, for which it has to know how long the values are that
have been read. -/
def readEntries (dataLength : UInt16 → Nat → Nat) : Nat → Nat → List CipOctet → List ListEntry
  | 0, _, _ => []
  | most + 1, position, octets =>
      if octets = [] then []
      else
        let attributeNumber := (getUintFromMessage.run octets).1
        let status := octetAt octets 2
        let size := if status = kCipErrorSuccess then dataLength attributeNumber (position + 4) else 0
        ⟨attributeNumber, status, (octets.drop 4).take size⟩ ::
          readEntries dataLength most (position + 4 + size) (octets.drop (4 + size))

def Response.entries (dataLength : UInt16 → Nat → Nat) (response : Response) : List ListEntry :=
  readEntries dataLength response.message.length 2 (response.message.drop 2)

/-- The entries have just the data the client takes them to have. -/
def AsLong (dataLength : UInt16 → Nat → Nat) : Nat → List ListEntry → Prop
  | _, [] => True
  | position, entry :: entries =>
      entry.data.length =
          (if entry.status = kCipErrorSuccess then dataLength entry.attributeNumber (position + 4) else 0) ∧
        AsLong dataLength (position + 4 + entry.data.length) entries

theorem readEntries_octets {dataLength : UInt16 → Nat → Nat} {most position : Nat} {entries : List ListEntry}
    (long : AsLong dataLength position entries) (enough : entries.length ≤ most) :
    readEntries dataLength most position (entries.flatMap ListEntry.octets) = entries := by
  induction entries generalizing most position with
  | nil => cases most <;> rfl
  | cons entry entries ih =>
      cases most with
      | zero => exact absurd enough (Nat.not_succ_le_zero _)
      | succ most =>
          have number : (getUintFromMessage.run ((entry :: entries).flatMap ListEntry.octets)).1 =
              entry.attributeNumber := congrArg Prod.fst (getUintFromMessage_add _ entry.attributeNumber)
          have behind : ((entry :: entries).flatMap ListEntry.octets).drop 4 =
              entry.data ++ entries.flatMap ListEntry.octets := rfl
          unfold readEntries
          rw [if_neg (by simp [ListEntry.octets, addIntToMessage])]
          dsimp only
          rw [number, ← List.drop_drop, behind]
          have status : octetAt ((entry :: entries).flatMap ListEntry.octets) 2 = entry.status := rfl
          rw [status, ← long.1, List.take_left, List.drop_left, ih long.2 (Nat.le_of_succ_le_succ enough)]

end Entries

section Replies

variable {access : EntryAccess} {environment : ServiceEnvironment} {inst : CipInstance}
  {request : CipMessageRouterRequest} {device : CipDevice} {generalStatus : UInt8}

def RequestData.behind (environment : ServiceEnvironment) (request : CipMessageRouterRequest) (count : Nat) :
    RequestData :=
  ((RequestData.ofRequest environment request).look count).skip count

def attributeCountRequest (request : CipMessageRouterRequest) : UInt16 :=
  (getUintFromMessage.run (octets 2 request.data)).1

def listStart (environment : ServiceEnvironment) (request : CipMessageRouterRequest) (device : CipDevice) : Listing :=
  .ofOctets device (.behind environment request 2) kCipErrorSuccess []

def Pass.reply (request : CipMessageRouterRequest) : Pass → ListReply
  | .next listing => (listing.addCount (attributeCountRequest request)).reply request
  | .full listing => (listing.addCount (attributeCountRequest request)).partialTransfer.reply request
  | .returned listing => listing.reply request

theorem behind_finds (count : Nat) :
    (RequestData.behind environment request count).Finds (request.data.drop count) :=
  (ofRequest_finds.look count).skip count

theorem behind_taken (first count : Nat) : ((RequestData.behind environment request first).look count).skip count =
    .behind environment request (first + count) := by
  unfold RequestData.behind
  rw [RequestData.look_behind, RequestData.skip_skip]

theorem attributeList_eq : attributeList access environment inst request device =
    if attributeCountRequest request ≠ 0 then
      (passes access inst (attributeCountRequest request).toNat (listStart environment request device)).map
        (Pass.reply request)
    else
      some ⟨emptyReply request kCipErrorAttributeListError, device, .behind environment request 2⟩ := by
  have start : (⟨device, .behind environment request 2, kCipErrorSuccess, EnipMessage.initialized.moveOn 2⟩ : Listing) =
      listStart environment request device := congrArg (Listing.mk _ _ _) EnipMessage.moveOn_initialized
  unfold attributeList Listing.getUint
  dsimp only
  rw [ofRequest_finds.next]
  change (if attributeCountRequest request ≠ 0 then
    (passes access inst (attributeCountRequest request).toNat
      ⟨device, .behind environment request 2, kCipErrorSuccess, EnipMessage.initialized.moveOn 2⟩).map _ else _) = _
  rw [start]
  congr 2

variable {data : RequestData} {octets : List CipOctet}

theorem reply_next (fits : octets.length + 2 ≤ PC_OPENER_ETHERNET_BUFFER_SIZE) :
    (Pass.next (.ofOctets device data generalStatus octets)).reply request =
      ⟨{ emptyReply request generalStatus with
        message := addIntToMessage (attributeCountRequest request) ++ octets }, device, data⟩ := by
  unfold Pass.reply Listing.reply
  rw [← EnipMessage.addCount_taken _ fits]
  rfl

theorem reply_full (fits : octets.length + 2 ≤ PC_OPENER_ETHERNET_BUFFER_SIZE) :
    (Pass.full (.ofOctets device data generalStatus octets)).reply request =
      ⟨{ emptyReply request
          (if generalStatus ≠ kCipErrorAttributeListError then kCipErrorPartialTransfer else generalStatus) with
        message := addIntToMessage (attributeCountRequest request) ++ octets }, device, data⟩ := by
  rw [← EnipMessage.addCount_taken _ fits]
  by_cases first : generalStatus ≠ kCipErrorAttributeListError
  · rw [if_pos first]
    exact congrArg (Listing.reply request) (if_pos first)
  · rw [if_neg first]
    exact congrArg (Listing.reply request) (if_neg first)

theorem reply_returned (fits : octets.length + 2 ≤ PC_OPENER_ETHERNET_BUFFER_SIZE) :
    (Pass.returned (.ofOctets device data generalStatus octets)).reply request =
      ⟨{ emptyReply request generalStatus with message := [0, 0] ++ octets }, device, data⟩ := by
  have taken : (EnipMessage.initialized.add ([0, 0] ++ octets)).messageBuffer.take
      (EnipMessage.initialized.add ([0, 0] ++ octets)).usedMessageLength.toNat = [0, 0] ++ octets :=
    EnipMessage.add_taken fits
  unfold Pass.reply Listing.reply
  rw [← taken]
  rfl

end Replies

end EtherNetIP
