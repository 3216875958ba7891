import EtherNetIP.Cip.PaddedPath

/-! What is read of a padded path, and what is written of one.

A path that is decoded to the end of its words is the encoding of its segments,
and the number of each type is that of the last segment of the type. The encoder
writes at most one segment of the class, the instance and the attribute.
-/

set_option autoImplicit false

namespace EtherNetIP

open Library

section Prefixes

theorem encode_append_injective {segment other : EpathSegment} {behind beyond : List CipOctet}
    (same : segment.encode ++ behind = other.encode ++ beyond) : segment = other ∧ behind = beyond := by
  cases segment with
  | eightBit type number =>
    cases other with
    | eightBit type' number' =>
      injection same with code same
      injection same with number same
      have meets := logicalSegment_code type .eightBit
      rw [code, logicalSegment_code] at meets
      cases meets
      subst number
      exact ⟨rfl, same⟩
    | sixteenBit type' pad number' =>
      injection same with code
      have meets := logicalSegment_code type .eightBit
      rw [code, logicalSegment_code] at meets
      cases meets
  | sixteenBit type pad number =>
    cases other with
    | eightBit type' number' =>
      injection same with code
      have meets := logicalSegment_code type .sixteenBit
      rw [code, logicalSegment_code] at meets
      cases meets
    | sixteenBit type' pad' number' =>
      injection same with code same
      injection same with pad same
      have meets := logicalSegment_code type .sixteenBit
      rw [code, logicalSegment_code] at meets
      cases meets
      obtain ⟨numbers, rest⟩ := List.append_inj same rfl
      cases addIntToMessage_injective numbers
      subst pad
      exact ⟨rfl, rest⟩

theorem prefix_of_encoded {segments others : List EpathSegment}
    (front : segments.flatMap EpathSegment.encode <+: others.flatMap EpathSegment.encode) : segments <+: others := by
  induction segments generalizing others with
  | nil => exact List.nil_prefix
  | cons segment segments ih =>
    obtain ⟨behind, same⟩ := front
    rw [List.flatMap_cons, List.append_assoc] at same
    match others with
    | [] =>
      have none : segment.encode = [] := (List.append_eq_nil_iff.mp same).1
      cases segment <;> cases none
    | other :: others =>
      rw [List.flatMap_cons] at same
      obtain ⟨rfl, rest⟩ := encode_append_injective same
      exact List.prefix_cons_inj segment |>.mpr (ih ⟨behind, rest⟩)

theorem wordsOf_append (segments others : List EpathSegment) :
    wordsOf (segments ++ others) = wordsOf segments + wordsOf others := by
  unfold wordsOf
  rw [List.map_append, List.sum_append]

theorem wordsOf_prefix {segments others : List EpathSegment} (front : segments <+: others) :
    wordsOf segments ≤ wordsOf others := by
  obtain ⟨behind, rfl⟩ := front
  rw [wordsOf_append]
  omega

end Prefixes

def announcedWords (message : List CipOctet) : Nat := (octetAt message 0).toNat

/-- A path is read to the end of its announced words and no further, and is the encoding of segments the last of which
count; one whose last segment goes beyond its words is refused. -/
structure DecodesFaithfully (message : List CipOctet) : Prop where
  accepted (epath : CipEpath) (bytesConsumed : Nat) (rest : List CipOctet)
    (ok : decodePaddedEPath message = some (epath, bytesConsumed, rest)) :
    bytesConsumed = 1 + 2 * announcedWords message ∧ rest = message.drop bytesConsumed ∧
      (∀ behind, decodePaddedEPath (octets bytesConsumed message ++ behind) = some (epath, bytesConsumed, behind)) ∧
      ∃ segments, segments.flatMap EpathSegment.encode = octets (2 * announcedWords message) message.tail ∧
        epath = ⟨octetAt message 0, lastNumber .classId segments, lastNumber .instanceId segments,
          lastNumber .attributeId segments⟩
  refused (front : List EpathSegment) (last : EpathSegment)
    (starts : octets (2 * wordsOf (front ++ [last])) message.tail = (front ++ [last]).flatMap EpathSegment.encode)
    (inside : wordsOf front < announcedWords message)
    (beyond : announcedWords message < wordsOf (front ++ [last])) : decodePaddedEPath message = none

section Faithful

variable {message : List CipOctet}

theorem tail_octets (count : Nat) (message : List CipOctet) :
    octets (1 + count) message = octetAt message 0 :: octets count message.tail := by
  rw [octets_add, List.drop_one]
  rfl

theorem decodePaddedEPath_eq_none : decodePaddedEPath message = none ↔ Refused (announcedWords message) message.tail := by
  unfold decodePaddedEPath
  dsimp only
  rw [Option.map_eq_none_iff]
  exact decodeSegments_eq_none_iff (Nat.zero_add _).symm (Nat.le_refl _)

theorem decodePaddedEPath_of_readsAs {segments : List EpathSegment} {other : List CipOctet}
    (reads : ReadsAs (announcedWords message) message.tail segments)
    (same : octets (1 + 2 * announcedWords message) message = octets (1 + 2 * announcedWords message) other) :
    decodePaddedEPath other = some (⟨octetAt message 0, lastNumber .classId segments, lastNumber .instanceId segments,
      lastNumber .attributeId segments⟩, 1 + 2 * announcedWords message, other.drop (1 + 2 * announcedWords message)) := by
  have first : octetAt message 0 = octetAt other 0 := octetAt_octets (by omega) same
  have behind := octets_drop same
  rw [List.drop_one, List.drop_one] at behind
  have decodes := reads.decodes other.tail (octetAt message 0).toNat 0 ⟨octetAt message 0, 0, 0, 0⟩ behind
    (Nat.zero_add _).symm (Nat.le_refl _)
  unfold decodePaddedEPath
  dsimp only
  rw [← first, decodes, Option.map_some, foldl_write, Nat.zero_add, Nat.add_comm 1, ← List.drop_one, List.drop_drop,
    Nat.add_comm 1]

theorem ReadsAs.not_beyond {words : Nat} {path : List CipOctet} {segments front : List EpathSegment} {last : EpathSegment}
    (reads : ReadsAs words path segments)
    (starts : octets (2 * wordsOf (front ++ [last])) path = (front ++ [last]).flatMap EpathSegment.encode)
    (inside : wordsOf front < words) : wordsOf (front ++ [last]) ≤ words := by
  refine Nat.le_of_not_lt fun beyond => ?_
  obtain ⟨more, sum⟩ := Nat.exists_eq_add_of_le beyond.le
  have counts : 2 * wordsOf segments = 2 * words := by
    rw [← length_encodeAll, reads.encoded, octets_length]
  rw [sum, Nat.mul_add, octets_add, ← reads.encoded] at starts
  have within := prefix_of_encoded ⟨_, starts⟩
  rcases List.prefix_concat_iff.mp within with whole | front
  · rw [whole] at counts
    omega
  · have fewer := wordsOf_prefix front
    omega

theorem decodesFaithfully_of_readsAs {segments : List EpathSegment}
    (reads : ReadsAs (announcedWords message) message.tail segments) : DecodesFaithfully message where
  accepted epath bytesConsumed rest ok := by
    cases ok.symm.trans (decodePaddedEPath_of_readsAs reads rfl)
    refine ⟨rfl, rfl, fun behind => ?_, segments, reads.encoded, rfl⟩
    have count := octets_length (1 + 2 * announcedWords message) message
    refine (decodePaddedEPath_of_readsAs reads ?_).trans ?_
    · rw [octets_append count.ge]
      exact (octets_octets _ _).symm
    · rw [List.drop_left' count]
  refused front last starts inside beyond := absurd beyond (Nat.not_lt_of_le (reads.not_beyond starts inside))

theorem orderly_of_decodesFaithfully (faithful : DecodesFaithfully message)
    (known : ¬ Refused (announcedWords message) message.tail) : Orderly (announcedWords message) message.tail := by
  obtain ⟨⟨epath, bytesConsumed, rest⟩, ok⟩ := Option.ne_none_iff_exists'.mp (mt decodePaddedEPath_eq_none.mp known)
  obtain ⟨rfl, _, closed, _⟩ := faithful.accepted _ _ _ ok
  have alone := closed []
  rw [List.append_nil, tail_octets] at alone
  unfold decodePaddedEPath at alone
  obtain ⟨decoded, decodes, same⟩ := Option.map_eq_some_iff.mp alone
  have counted : 2 * decoded.decodedElements + 1 = 1 + 2 * announcedWords message := congrArg (·.2.1) same
  have left : decoded.message = [] := congrArg (·.2.2) same
  refine Classical.byContradiction fun stray => ?_
  have strays := strays_of_not_orderly (octets_length _ message.tail).ge
    (.inr fun orderly => stray (orderly.congr (octets_octets _ _))) (Nat.zero_add _).symm (Nat.le_refl _) decodes
  rcases strays with more | behind
  · have announced : (octetAt message 0).toNat < decoded.decodedElements := more
    unfold announcedWords at counted
    omega
  · exact behind left

/-- A path is read faithfully exactly where its walk meets an unknown segment, or ends with its words without a
16-bit member in it. -/
theorem decodesFaithfully_iff (message : List CipOctet) : DecodesFaithfully message ↔
    Refused (announcedWords message) message.tail ∨ Orderly (announcedWords message) message.tail := by
  constructor
  · intro faithful
    by_cases known : Refused (announcedWords message) message.tail
    · exact .inl known
    · exact .inr (orderly_of_decodesFaithfully faithful known)
  · rintro (refused | orderly)
    · have none := decodePaddedEPath_eq_none.mpr refused
      exact ⟨fun _ _ _ ok => (nomatch none.symm.trans ok), fun _ _ _ _ _ => none⟩
    · obtain ⟨segments, reads⟩ := orderly.readsAs
      exact decodesFaithfully_of_readsAs reads

/-- A 16-bit class that begins in the only word of a path is accepted with its second word. -/
theorem not_decodesFaithfully_overrun : ¬ DecodesFaithfully [1, 0x21, 0, 4, 0] := by
  intro faithful
  have taken := (faithful.accepted ⟨1, 4, 0, 0⟩ 5 [] rfl).1
  exact absurd taken (by decide)

end Faithful

namespace EnipMessage

theorem add_append (message : EnipMessage) (first second : List CipOctet) :
    (message.add first).add second = message.add (first ++ second) := by
  rcases Nat.le_total message.currentMessagePosition message.messageBuffer.length with within | outside
  · exact add_add within first second
  · have whole (more : Nat) : message.messageBuffer.drop (message.currentMessagePosition + more) = [] :=
      List.drop_eq_nil_of_le (by omega)
    have length : (message.messageBuffer ++ first).length ≤ message.currentMessagePosition + first.length := by
      rw [List.length_append]
      omega
    unfold add
    dsimp only
    rw [List.take_of_length_le outside, whole, whole, List.append_nil, List.append_nil, List.take_of_length_le length,
      List.drop_eq_nil_of_le (by omega), List.append_nil, List.append_assoc, List.length_append, Nat.add_assoc,
      UInt64.ofNat_add, UInt64.add_assoc]

end EnipMessage

section Encoding

/-- A number in one word where it fits an octet; the length counts the words that remain and is unsigned. -/
def addLogicalSegment (type : LogicalType) (number : UInt16) (length : UInt32) (message : EnipMessage) :
    UInt32 × EnipMessage :=
  if number < 256 then (length - 1, (message.add [type.code .eightBit]).add [number.toUInt8])
  else (length - 2, ((message.add [type.code .sixteenBit]).add [0]).add (addIntToMessage number))

def addEPath (epath : CipEpath) (message : EnipMessage) : EnipMessage :=
  let (length, message) := addLogicalSegment .classId epath.classId epath.pathSize.toUInt32 message
  if 0 < length then
    let (length, message) := addLogicalSegment .instanceId epath.instanceNumber length message
    if 0 < length then (addLogicalSegment .attributeId epath.attributeNumber length message).2
    else message
  else message

/-- At the end the octets are asserted to be as many as the words announce. -/
def encodeEPath (epath : CipEpath) (message : EnipMessage) : Except Fault EnipMessage :=
  let startLength := message.usedMessageLength
  let message := addEPath epath message
  if epath.pathSize.toUInt64 * 2 = message.usedMessageLength - startLength then .ok message
  else .error .assertion

def segmentOf (type : LogicalType) (number : UInt16) : EpathSegment :=
  if number < 256 then .eightBit type number.toUInt8 else .sixteenBit type 0 number

variable {type : LogicalType} {number : UInt16}

theorem segmentOf_type (type : LogicalType) (number : UInt16) : (segmentOf type number).type = type := by
  unfold segmentOf
  split <;> rfl

theorem segmentOf_number (type : LogicalType) (number : UInt16) : (segmentOf type number).number = number := by
  unfold segmentOf
  split
  next small =>
    apply UInt16.toNat_inj.mp
    have bound : number.toNat < 256 := UInt16.lt_iff_toNat_lt.mp small
    exact (UInt8.toNat_toUInt16 _).trans ((UInt16.toNat_toUInt8 _).trans (Nat.mod_eq_of_lt bound))
  next => rfl

theorem addLogicalSegment_message (type : LogicalType) (number : UInt16) (length : UInt32) (message : EnipMessage) :
    (addLogicalSegment type number length message).2 = message.add (segmentOf type number).encode := by
  unfold addLogicalSegment segmentOf
  split
  · exact message.add_append _ _
  · rw [EnipMessage.add_append, EnipMessage.add_append]
    rfl

/-- The length does not wrap where the words of the segment are there. -/
theorem addLogicalSegment_eq {length : UInt32} (message : EnipMessage)
    (room : (segmentOf type number).words ≤ length.toNat) :
    ∃ remaining, addLogicalSegment type number length message =
        (remaining, message.add (segmentOf type number).encode) ∧
      remaining.toNat = length.toNat - (segmentOf type number).words := by
  refine ⟨_, Prod.ext rfl (addLogicalSegment_message type number length message), ?_⟩
  unfold addLogicalSegment
  unfold segmentOf at room ⊢
  split at room
  next small =>
    rw [if_pos small, if_pos small]
    exact UInt32.toNat_sub_of_le _ _ (UInt32.le_iff_toNat_le.mpr room)
  next large =>
    rw [if_neg large, if_neg large]
    exact UInt32.toNat_sub_of_le _ _ (UInt32.le_iff_toNat_le.mpr room)

theorem readsAs_encoded {segments : List EpathSegment} (plain : ∀ segment ∈ segments, segment.Plain) :
    ReadsAs (wordsOf segments) (segments.flatMap EpathSegment.encode) segments := by
  induction segments with
  | nil => exact readsAs_nil _
  | cons segment segments ih =>
    have later := ih fun other listed => plain other (List.mem_cons_of_mem _ listed)
    have counts : wordsOf (segment :: segments) = wordsOf segments + segment.words := Nat.add_comm _ _
    rw [counts]
    cases segment with
    | eightBit type number => exact later.eightBit (logicalSegment_code type .eightBit)
    | sixteenBit type pad number =>
      have notMember : type ≠ .memberId := by
        rintro rfl
        exact plain _ (List.mem_cons_self ..) pad number rfl
      have read : (getUintFromMessage.run (addIntToMessage number ++ segments.flatMap EpathSegment.encode)).1 = number :=
        congrArg Prod.fst (getUintFromMessage_add _ number)
      conv_rhs => rw [← read]
      exact @ReadsAs.sixteenBit ((EpathSegment.sixteenBit type pad number).encode ++ _) _ _ _
        (logicalSegment_code type .sixteenBit) notMember later

/-- The number of words is that of the class alone, with the instance, or with both the instance and the attribute,
and a number without a segment is zero. -/
def Exact (epath : CipEpath) : Prop :=
  let classWords := (segmentOf .classId epath.classId).words
  let instanceWords := (segmentOf .instanceId epath.instanceNumber).words
  let attributeWords := (segmentOf .attributeId epath.attributeNumber).words
  epath.pathSize.toNat = classWords ∧ epath.instanceNumber = 0 ∧ epath.attributeNumber = 0 ∨
    epath.pathSize.toNat = classWords + instanceWords ∧ epath.attributeNumber = 0 ∨
      epath.pathSize.toNat = classWords + instanceWords + attributeWords

variable {epath : CipEpath} {message : EnipMessage}

theorem segmentOf_write (type : LogicalType) (number : UInt16) (epath : CipEpath) :
    (segmentOf type number).write epath = type.write number epath := by
  unfold EpathSegment.write
  rw [segmentOf_type, segmentOf_number]

theorem segmentOf_words_pos (type : LogicalType) (number : UInt16) : 0 < (segmentOf type number).words := by
  unfold segmentOf
  split
  · exact Nat.one_pos
  · exact Nat.two_pos

theorem segmentOf_plain (known : type ≠ .memberId) : (segmentOf type number).Plain := by
  rintro pad other same
  have types := segmentOf_type type number
  rw [same] at types
  exact known types.symm

theorem assertion_of_words {segments : List EpathSegment} (words : wordsOf segments = epath.pathSize.toNat) :
    epath.pathSize.toUInt64 * 2 =
      (message.add (segments.flatMap EpathSegment.encode)).usedMessageLength - message.usedMessageLength := by
  have small : 2 * epath.pathSize.toNat < 2 ^ 64 := by
    have bound := epath.pathSize.toNat_lt
    omega
  unfold EnipMessage.add
  dsimp only
  rw [length_encodeAll, words, UInt64.add_comm, UInt64.add_sub_cancel]
  apply UInt64.toNat_inj.mp
  rw [UInt64.toNat_mul, UInt64.toNat_ofNat_of_lt' small, UInt8.toNat_toUInt64, Nat.mul_comm]
  exact Nat.mod_eq_of_lt small

def written (pathSize : UInt8) (segments : List EpathSegment) : CipEpath :=
  segments.foldl (fun epath segment => segment.write epath) ⟨pathSize, 0, 0, 0⟩

theorem addEPath_writes (exact : Exact epath) (message : EnipMessage) : ∃ segments,
    addEPath epath message = message.add (segments.flatMap EpathSegment.encode) ∧
      wordsOf segments = epath.pathSize.toNat ∧ (∀ segment ∈ segments, segment.Plain) ∧
        written epath.pathSize segments = epath := by
  have size : epath.pathSize.toUInt32.toNat = epath.pathSize.toNat := UInt8.toNat_toUInt32 _
  have instancePositive := segmentOf_words_pos .instanceId epath.instanceNumber
  have attributePositive := segmentOf_words_pos .attributeId epath.attributeNumber
  have left (length : UInt32) : 0 < length ↔ 0 < length.toNat := UInt32.lt_iff_toNat_lt
  have classRoom : (segmentOf .classId epath.classId).words ≤ epath.pathSize.toUInt32.toNat := by
    unfold Exact at exact
    omega
  have classPlain := @segmentOf_plain .classId epath.classId nofun
  have instancePlain := @segmentOf_plain .instanceId epath.instanceNumber nofun
  have attributePlain := @segmentOf_plain .attributeId epath.attributeNumber nofun
  obtain ⟨afterClass, addClass, classLeft⟩ := addLogicalSegment_eq message classRoom
  unfold addEPath
  dsimp only
  rw [addClass]
  dsimp only
  -- the size tells whether the class stands alone, with an instance, or with an attribute too
  rcases exact with ⟨words, noInstance, noAttribute⟩ | further
  · refine ⟨[segmentOf .classId epath.classId], ?_, words.symm, List.forall_mem_singleton.mpr classPlain, ?_⟩
    · rw [List.flatMap_singleton, if_neg (by rw [left]; omega)]
    · change (segmentOf _ _).write _ = epath
      rw [segmentOf_write]
      exact congrArg₂ (CipEpath.mk epath.pathSize epath.classId) noInstance.symm noAttribute.symm
  · have instanceRoom : (segmentOf .instanceId epath.instanceNumber).words ≤ afterClass.toNat := by omega
    obtain ⟨afterInstance, addInstance, instanceLeft⟩ := addLogicalSegment_eq
      (message.add (segmentOf .classId epath.classId).encode) instanceRoom
    rw [if_pos (by rw [left]; omega), addInstance]
    dsimp only
    rcases further with ⟨words, noAttribute⟩ | words
    · refine ⟨[segmentOf .classId epath.classId, segmentOf .instanceId epath.instanceNumber], ?_, words.symm,
        List.forall_mem_cons.mpr ⟨classPlain, List.forall_mem_singleton.mpr instancePlain⟩, ?_⟩
      · rw [List.flatMap_cons, List.flatMap_singleton, if_neg (by rw [left]; omega), EnipMessage.add_append]
      · change (segmentOf _ _).write ((segmentOf _ _).write _) = epath
        rw [segmentOf_write, segmentOf_write]
        exact congrArg (CipEpath.mk epath.pathSize epath.classId epath.instanceNumber) noAttribute.symm
    · refine ⟨[segmentOf .classId epath.classId, segmentOf .instanceId epath.instanceNumber,
        segmentOf .attributeId epath.attributeNumber], ?_, ?_, List.forall_mem_cons.mpr ⟨classPlain,
          List.forall_mem_cons.mpr ⟨instancePlain, List.forall_mem_singleton.mpr attributePlain⟩⟩, ?_⟩
      · rw [List.flatMap_cons, List.flatMap_cons, List.flatMap_singleton, if_pos (by rw [left]; omega),
          addLogicalSegment_message, EnipMessage.add_append, EnipMessage.add_append]
      · rw [words, Nat.add_assoc]
        rfl
      · change (segmentOf _ _).write ((segmentOf _ _).write ((segmentOf _ _).write _)) = epath
        rw [segmentOf_write, segmentOf_write, segmentOf_write]
        rfl

/-- An exact path is written without a fault, and read back with its octets used up. -/
theorem decodePaddedEPath_encodeEPath (epath : CipEpath) (message : EnipMessage) (exact : Exact epath) :
    ∃ octets, encodeEPath epath message = .ok (message.add octets) ∧
      decodePaddedEPath (epath.pathSize :: octets) = some (epath, 1 + octets.length, []) := by
  obtain ⟨segments, writes, words, plain, back⟩ := addEPath_writes exact message
  refine ⟨segments.flatMap EpathSegment.encode, ?_, ?_⟩
  · have closing := @assertion_of_words epath message segments words
    unfold encodeEPath
    dsimp only
    rw [writes, if_pos closing]
  · have reads := readsAs_encoded plain
    rw [words] at reads
    have decoded := @decodePaddedEPath_of_readsAs (epath.pathSize :: segments.flatMap EpathSegment.encode) _ _ reads rfl
    have length : (segments.flatMap EpathSegment.encode).length = 2 * epath.pathSize.toNat := by
      rw [length_encodeAll, words]
    rw [← foldl_write] at decoded
    refine decoded.trans ?_
    rw [length]
    refine congrArg some (Prod.ext back (Prod.ext rfl ?_))
    exact List.drop_eq_nil_of_le (by rw [List.length_cons, length]; exact Nat.le_of_eq (Nat.add_comm _ _))

theorem decodePaddedEPath_encodeEPath_identity :
    Exact ⟨3, 0x01, 0x1234, 0⟩ ∧ ∃ octets, encodeEPath ⟨3, 0x01, 0x1234, 0⟩ .initialized = .ok (EnipMessage.initialized.add octets) ∧
      decodePaddedEPath (3 :: octets) = some (⟨3, 0x01, 0x1234, 0⟩, 1 + octets.length, []) :=
  have exact : Exact ⟨3, 0x01, 0x1234, 0⟩ := .inr (.inl ⟨rfl, rfl⟩)
  ⟨exact, decodePaddedEPath_encodeEPath _ .initialized exact⟩

end Encoding

end EtherNetIP
