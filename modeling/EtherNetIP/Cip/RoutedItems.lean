import EtherNetIP.Cip.PathCodec
import EtherNetIP.Encap.Encap

/-! The data items that are routed to objects.

An unconnected item is a request, a connected one has a sequence count in front of
it. The path of a request is read before its length is compared with that of the
item, and the comparison is made with an unsigned number.
-/

set_option autoImplicit false

namespace EtherNetIP

section Walk

/-- How far a segment is read. Of an unknown one and of a member it is the first octet. -/
def readOctets : Option (LogicalType × SegmentFormat) → Nat
  | none | some (.memberId, _) => 1
  | some (_, .eightBit) => 2
  | some (_, .sixteenBit) => 4

def movedOctets : LogicalType × SegmentFormat → Nat
  | (_, .eightBit) | (.memberId, .sixteenBit) => 2
  | (_, .sixteenBit) => 4

def countedWords : SegmentFormat → Nat
  | .eightBit => 1
  | .sixteenBit => 2

theorem readOctets_pos (segment : Option (LogicalType × SegmentFormat)) : 1 ≤ readOctets segment := by
  unfold readOctets
  split <;> decide

namespace EpathDecoder

def looks : Nat → Nat → EpathDecoder → Nat
  | 0, _, _ => 0
  | fuel + 1, position, decoder =>
      if decoder.decodedElements < decoder.epath.pathSize.toNat then
        let segment := logicalSegment (octetAt decoder.message 0)
        max (position + readOctets segment)
          (match segment, decoder.decodeSegment with
          | some segment, some next => looks fuel (position + movedOctets segment) next
          | _, _ => 0)
      else 0

variable {decoder next : EpathDecoder}

theorem decodeSegment_none (unknown : logicalSegment (octetAt decoder.message 0) = none) :
    decoder.decodeSegment = none := by
  rw [decodeSegment_eq, unknown]

/-- What a segment is read as does not matter for how far the decoder goes on. -/
theorem decodeSegment_some {type : LogicalType} {format : SegmentFormat}
    (meets : logicalSegment (octetAt decoder.message 0) = some (type, format)) :
    ∃ epath, epath.pathSize = decoder.epath.pathSize ∧ decoder.decodeSegment =
      some ⟨epath, decoder.decodedElements + countedWords format, decoder.message.drop (movedOctets (type, format))⟩ := by
  cases format with
  | eightBit => exact ⟨_, EpathSegment.write_pathSize .., decodeSegment_eightBit meets⟩
  | sixteenBit =>
      by_cases member : type = .memberId
      · subst member
        exact ⟨_, rfl, decodeSegment_member meets⟩
      · have behind : movedOctets (type, .sixteenBit) = 4 := by
          cases type with
          | memberId => exact absurd rfl member
          | _ => rfl
        rw [behind]
        exact ⟨_, EpathSegment.write_pathSize .., decodeSegment_sixteenBit meets member⟩

theorem decodeSegments_elements {fuel : Nat} {decoded : EpathDecoder}
    (decodes : decodeSegments fuel decoder = some decoded) :
    decoded.decodedElements ≤ decoder.decodedElements + 2 * fuel := by
  induction fuel generalizing decoder with
  | zero =>
      cases decodes
      exact Nat.le_refl _
  | succ fuel ih =>
      unfold decodeSegments at decodes
      split at decodes
      next =>
        obtain ⟨next, first, rest⟩ := Option.bind_eq_some_iff.mp decodes
        cases meets : logicalSegment (octetAt decoder.message 0) with
        | none =>
            rw [decodeSegment_none meets] at first
            cases first
        | some segment =>
            obtain ⟨epath, -, same⟩ := decodeSegment_some meets
            cases same.symm.trans first
            have later := ih rest
            have counted : countedWords segment.2 ≤ 2 := by cases segment.2 <;> decide
            dsimp only at later
            omega
      next =>
        cases decodes
        omega

end EpathDecoder

/-- The segments up to the end of so many words, or to the first unknown one, are among so many octets. -/
def SegmentsWithin (words size : Nat) (path : List CipOctet) : Prop :=
  if words = 0 then True
  else
    readOctets (logicalSegment (octetAt path 0)) ≤ size ∧
      match logicalSegment (octetAt path 0) with
      | none => True
      | some (type, format) =>
          SegmentsWithin (words - countedWords format) (size - movedOctets (type, format))
            (path.drop (movedOctets (type, format)))
termination_by words
decreasing_by cases format <;> simp only [countedWords] <;> omega

open EpathDecoder

theorem looks_done {fuel position : Nat} {decoder : EpathDecoder}
    (done : decoder.epath.pathSize.toNat ≤ decoder.decodedElements) : looks fuel position decoder = 0 := by
  cases fuel with
  | zero => rfl
  | succ fuel => exact if_neg (Nat.not_lt_of_le done)

theorem segmentsWithin_pos {words size : Nat} {path : List CipOctet} (some_ : words ≠ 0)
    (within : SegmentsWithin words size path) : 1 ≤ size := by
  rw [SegmentsWithin, if_neg some_] at within
  exact Nat.le_trans (readOctets_pos _) within.1

theorem looks_pos {fuel position : Nat} {decoder : EpathDecoder}
    (more : decoder.decodedElements < decoder.epath.pathSize.toNat) : position + 1 ≤ looks (fuel + 1) position decoder := by
  rw [looks, if_pos more]
  exact Nat.le_trans (Nat.add_le_add_left (readOctets_pos _) position) (Nat.le_max_left ..)

theorem looks_le_iff {words fuel position size elements : Nat} {epath : CipEpath} {path : List CipOctet}
    (same : words = epath.pathSize.toNat - elements) (enough : words ≤ fuel) :
    looks fuel position ⟨epath, elements, path⟩ ≤ position + size ↔ SegmentsWithin words size path := by
  induction words using Nat.strongRecOn generalizing path fuel elements epath position size with
  | ind words ih =>
    match words, fuel, ih, same, enough with
    | 0, fuel, _, same, _ =>
      rw [looks_done (by dsimp only; omega), SegmentsWithin, if_pos rfl]
      exact iff_of_true (Nat.zero_le _) trivial
    | words + 1, fuel + 1, ih, same, enough =>
      rw [looks, if_pos (by dsimp only; omega), SegmentsWithin, if_neg (Nat.succ_ne_zero _)]
      dsimp only
      rw [Nat.max_le, Nat.add_le_add_iff_left]
      refine and_congr_right fun read => ?_
      cases meets : logicalSegment (octetAt path 0) with
      | none => exact iff_of_true (Nat.zero_le _) trivial
      | some segment =>
          obtain ⟨type, format⟩ := segment
          obtain ⟨next, size_, decodes⟩ := @decodeSegment_some ⟨epath, elements, path⟩ type format meets
          have counted : 1 ≤ countedWords format := by cases format <;> decide
          have rest : words + 1 - countedWords format = next.pathSize.toNat - (elements + countedWords format) := by
            rw [size_]
            dsimp only
            omega
          rw [decodes]
          dsimp only
          by_cases atEnd : words + 1 - countedWords format = 0
          · rw [looks_done (by dsimp only; omega), SegmentsWithin, if_pos atEnd]
            exact iff_of_true (Nat.zero_le _) trivial
          by_cases moved : movedOctets (type, format) ≤ size
          · have behind : position + size =
                position + movedOctets (type, format) + (size - movedOctets (type, format)) := by omega
            rw [behind]
            exact ih _ (by omega) rest (by omega)
          -- behind a member that reads one octet only there may be less than one word
          · match fuel, enough with
            | 0, enough => exact absurd (by omega) atEnd
            | fuel + 1, enough =>
              refine iff_of_false (fun inside => ?_) fun within => ?_
              · have reads := @looks_pos fuel (position + movedOctets (type, format))
                  ⟨next, elements + countedWords format, path.drop (movedOctets (type, format))⟩ (by dsimp only; omega)
                omega
              · have some_ := segmentsWithin_pos atEnd within
                omega

end Walk

namespace DataItem

variable {item : DataItem}

def sequenceOctets (item : DataItem) : Nat := if item.typeId = kCipItemIdConnectedDataItem then 2 else 0

def requestData (item : DataItem) : List CipOctet := item.data.drop item.sequenceOctets

/-- The length goes through an `int` and is then cut off to a signed number of 16 bits. -/
def requestLength (item : DataItem) : Int16 := (item.length - UInt16.ofNat item.sequenceOctets).toInt16

def request (item : DataItem) : UInt8 × Except UInt8 CipMessageRouterRequest :=
  createMessageRouterRequestStructure item.requestData item.requestLength

def path (item : DataItem) : List CipOctet := item.requestData.tail

/-- The end of the octets of the item that are read: the sequence count, the service, the size of the path and what the
loop over its segments reads. -/
def looks (item : DataItem) : Nat :=
  let pathSize := octetAt item.path 0
  max (item.sequenceOctets + 2)
    (EpathDecoder.looks pathSize.toNat (item.sequenceOctets + 2) ⟨⟨pathSize, 0, 0, 0⟩, 0, item.path.tail⟩)

/-- An item is read within its length and refused, or has as many octets behind the path as are told; and one without
space for a sequence count, a service and a path is refused. -/
structure RoutedWithin (item : DataItem) : Prop where
  inside : item.looks ≤ item.length.toNat
  size (request : CipMessageRouterRequest) : item.request.2 = .ok request →
    ∃ requestPath numberOfDecodedBytes rest,
      decodePaddedEPath item.path = some (requestPath, numberOfDecodedBytes, rest) ∧
        item.sequenceOctets + 1 + numberOfDecodedBytes + request.requestDataSize.toNat = item.length.toNat
  short : item.length.toNat < item.sequenceOctets + 2 → ∃ status, item.request.2 = .error status

/-- The service and the path up to its end, or to the first segment that is not known, lie in the item. -/
def PathWithin (item : DataItem) : Prop :=
  item.sequenceOctets + 2 ≤ item.length.toNat ∧
    SegmentsWithin (announcedWords item.path) (item.length.toNat - (item.sequenceOctets + 2)) item.path.tail

theorem request_unconnected (unconnected : item.typeId = kCipItemIdUnconnectedDataItem) :
    item.request = createMessageRouterRequestStructure item.data item.length.toInt16 := by
  have other : kCipItemIdUnconnectedDataItem ≠ kCipItemIdConnectedDataItem := by decide
  have none_ : item.sequenceOctets = 0 := if_neg (unconnected ▸ other)
  have whole : item.length - UInt16.ofNat 0 = item.length := UInt16.sub_zero _
  unfold request requestData requestLength
  rw [none_, List.drop_zero, whole]

theorem request_connected {items : CipCommonPacketFormatData} {sequenceCount : UInt16} {data : List CipOctet}
    (sequenced : items.sequenced = some (sequenceCount, data)) :
    items.dataItem.request = createMessageRouterRequestStructure data (items.dataItem.length - 2).toInt16 := by
  unfold CipCommonPacketFormatData.sequenced at sequenced
  split at sequenced
  next connected =>
    have two : items.dataItem.sequenceOctets = 2 := if_pos connected
    have behind := EpathDecoder.getUintFromMessage_drop items.dataItem.data
    rw [Option.some.inj sequenced] at behind
    unfold request requestData requestLength
    rw [two, ← behind]
    rfl
  next => cases sequenced

theorem pathWithin_iff : item.looks ≤ item.length.toNat ↔ item.PathWithin := by
  unfold looks PathWithin
  dsimp only
  rw [Nat.max_le]
  refine and_congr_right fun front => ?_
  have total : item.sequenceOctets + 2 + (item.length.toNat - (item.sequenceOctets + 2)) = item.length.toNat := by omega
  have inside := @looks_le_iff (announcedWords item.path) (announcedWords item.path) (item.sequenceOctets + 2)
    (item.length.toNat - (item.sequenceOctets + 2)) 0 ⟨octetAt item.path 0, 0, 0, 0⟩ item.path.tail rfl (Nat.le_refl _)
  rw [total] at inside
  exact inside

def unsignedLength (item : DataItem) : UInt64 := (item.requestLength - 1).toInt64.toUInt64

theorem sequenceOctets_le (item : DataItem) : item.sequenceOctets ≤ 2 := by
  unfold sequenceOctets
  split <;> decide

/-- Up to the end of the signed numbers it is that of the octets behind the service. -/
theorem unsignedLength_toNat (there : item.sequenceOctets + 1 ≤ item.length.toNat) :
    item.unsignedLength.toNat =
      if item.length.toNat ≤ item.sequenceOctets + 0x8000 then item.length.toNat - item.sequenceOctets - 1
      else 0xFFFFFFFFFFFF0000 + (item.length.toNat - item.sequenceOctets - 1) := by
  have few := sequenceOctets_le item
  have bound := item.length.toNat_lt
  have cut : (item.length - UInt16.ofNat item.sequenceOctets).toBitVec.toNat =
      item.length.toNat - item.sequenceOctets := by
    have small : (UInt16.ofNat item.sequenceOctets).toNat = item.sequenceOctets := 
      UInt16.toNat_ofNat_of_lt' (Nat.lt_of_le_of_lt few (by decide))
    exact (UInt16.toNat_sub_of_le _ _ (by rw [UInt16.le_iff_toNat_le, small]; omega)).trans (by rw [small])
  have less : (item.requestLength - 1).toBitVec.toNat = item.length.toNat - item.sequenceOctets - 1 := by
    change ((item.length - UInt16.ofNat item.sequenceOctets).toBitVec - 1#16).toNat = _
    rw [BitVec.toNat_sub, cut]
    change (2 ^ 16 - 1 + _) % 2 ^ 16 = _
    omega
  change ((item.requestLength - 1).toBitVec.signExtend 64).toNat = _
  rw [BitVec.toNat_signExtend, BitVec.msb_eq_decide, less]
  simp only [decide_eq_true_eq]
  split <;> split <;> simp only [BitVec.toNat_setWidth, less] <;> omega

/-- A path that is decoded is told from the item by the comparison of the lengths alone. -/
theorem request_decoded {requestPath : CipEpath} {numberOfDecodedBytes : Nat} {rest : List CipOctet}
    (decodes : decodePaddedEPath item.path = some (requestPath, numberOfDecodedBytes, rest)) :
    item.request.2 =
      if UInt64.ofNat numberOfDecodedBytes > item.unsignedLength then .error kCipErrorPathSizeInvalid
      else .ok ⟨octetAt item.requestData 0, requestPath, item.unsignedLength - UInt64.ofNat numberOfDecodedBytes, rest⟩ := by
  unfold request createMessageRouterRequestStructure
  dsimp only
  rw [show decodePaddedEPath item.requestData.tail = _ from decodes]
  dsimp only
  exact apply_ite Prod.snd ..

theorem request_undecoded (refused : decodePaddedEPath item.path = none) :
    item.request.2 = .error kCipErrorPathSegmentError := by
  unfold request createMessageRouterRequestStructure
  dsimp only
  rw [show decodePaddedEPath item.requestData.tail = _ from refused]

theorem decodedBytes_le {requestPath : CipEpath} {numberOfDecodedBytes : Nat} {rest message : List CipOctet}
    (decodes : decodePaddedEPath message = some (requestPath, numberOfDecodedBytes, rest)) :
    numberOfDecodedBytes ≤ 1021 := by
  unfold decodePaddedEPath at decodes
  obtain ⟨decoded, segments, same⟩ := Option.map_eq_some_iff.mp decodes
  have counted := EpathDecoder.decodeSegments_elements segments
  have size := (octetAt message 0).toNat_lt
  cases same
  dsimp only at counted
  omega

/-- The path has to lie in the item and to be refused, or the length to be one that a signed number can hold. -/
theorem routedWithin_iff (item : DataItem) : item.RoutedWithin ↔
    item.PathWithin ∧ (Refused (announcedWords item.path) item.path.tail ∨
      item.length.toNat ≤ item.sequenceOctets + 0x8000) := by
  -- a length beyond a signed number turns into a huge unsigned one, and is passed on as that
  rw [← pathWithin_iff, ← decodePaddedEPath_eq_none]
  constructor
  · intro routed
    refine ⟨routed.inside, Classical.or_iff_not_imp_left.mpr fun accepted => Nat.le_of_not_lt fun long => ?_⟩
    obtain ⟨⟨requestPath, numberOfDecodedBytes, rest⟩, decodes⟩ := Option.ne_none_iff_exists'.mp accepted
    have few := decodedBytes_le decodes
    have bound := item.length.toNat_lt
    have unsigned := @unsignedLength_toNat item (by omega)
    rw [if_neg (Nat.not_le_of_lt long)] at unsigned
    have bytes : (UInt64.ofNat numberOfDecodedBytes).toNat = numberOfDecodedBytes :=
      UInt64.toNat_ofNat_of_lt' (Nat.lt_of_le_of_lt few (by decide))
    have covered : UInt64.ofNat numberOfDecodedBytes ≤ item.unsignedLength := by
      rw [UInt64.le_iff_toNat_le, bytes, unsigned]
      omega
    have made := request_decoded decodes
    rw [if_neg (UInt64.not_lt.mpr covered)] at made
    obtain ⟨_, _, _, decodes', size⟩ := routed.size _ made
    cases decodes.symm.trans decodes'
    rw [UInt64.toNat_sub_of_le _ _ covered, bytes, unsigned] at size
    omega
  · rintro ⟨inside, how⟩
    have there := (pathWithin_iff.mp inside).1
    refine ⟨inside, fun request made => ?_, fun short => absurd short (Nat.not_lt_of_le there)⟩
    cases decodes : decodePaddedEPath item.path with
    | none =>
        rw [request_undecoded decodes] at made
        cases made
    | some decoded =>
        obtain ⟨requestPath, numberOfDecodedBytes, rest⟩ := decoded
        refine ⟨requestPath, numberOfDecodedBytes, rest, rfl, ?_⟩
        have short := how.resolve_left (by rw [decodes]; nofun)
        have unsigned := @unsignedLength_toNat item (by omega)
        rw [if_pos short] at unsigned
        have bytes : (UInt64.ofNat numberOfDecodedBytes).toNat = numberOfDecodedBytes :=
          UInt64.toNat_ofNat_of_lt' (Nat.lt_of_le_of_lt (decodedBytes_le decodes) (by decide))
        rw [request_decoded decodes] at made
        split at made
        next => cases made
        next covered =>
          have within := UInt64.not_lt.mp covered
          cases made
          have order := UInt64.le_iff_toNat_le.mp within
          rw [UInt64.toNat_sub_of_le _ _ within, bytes, unsigned]
          omega

/-- An empty item behind which the buffer has been cleared is taken for a request of nearly as many octets as there
are addresses. -/
def empty : DataItem := ⟨kCipItemIdUnconnectedDataItem, 0, [0, 0]⟩

theorem empty_not_routedWithin : empty.request.2 = .ok ⟨0, ⟨0, 0, 0, 0⟩, 0xFFFFFFFFFFFFFFFE, []⟩ ∧ ¬ empty.RoutedWithin :=
  ⟨rfl, fun routed => absurd routed.inside (by decide)⟩

end DataItem

end EtherNetIP
