import EtherNetIP.Cip.FrontOctets
import EtherNetIP.Cip.MessageRouter
import EtherNetIP.Encap.EnipMessage

/-! Padded paths and their segments.

A path is a number of words and logical segments of one or two of them. The
decoder counts words and moves its position apart from each other, so the two
agree only where each segment takes what is counted for it.
-/

set_option autoImplicit false

namespace EtherNetIP

open Library

inductive LogicalType where
  | classId
  | instanceId
  | attributeId
  | memberId
  deriving DecidableEq, Repr

inductive SegmentFormat where
  | eightBit
  | sixteenBit
  deriving DecidableEq, Repr

def logicalSegment (segment : CipOctet) : Option (LogicalType × SegmentFormat) :=
  if segment = 0x20 then some (.classId, .eightBit)
  else if segment = 0x21 then some (.classId, .sixteenBit)
  else if segment = 0x24 then some (.instanceId, .eightBit)
  else if segment = 0x25 then some (.instanceId, .sixteenBit)
  else if segment = 0x30 then some (.attributeId, .eightBit)
  else if segment = 0x31 then some (.attributeId, .sixteenBit)
  else if segment = 0x28 then some (.memberId, .eightBit)
  else if segment = 0x29 then some (.memberId, .sixteenBit)
  else none

namespace LogicalType

def eightBitCode : LogicalType → CipOctet
  | classId => 0x20
  | instanceId => 0x24
  | attributeId => 0x30
  | memberId => 0x28

def code (type : LogicalType) : SegmentFormat → CipOctet
  | .eightBit => type.eightBitCode
  | .sixteenBit => type.eightBitCode + 1

/-- A path keeps no member number. -/
def write (type : LogicalType) (number : UInt16) (epath : CipEpath) : CipEpath :=
  match type with
  | classId => { epath with classId := number }
  | instanceId => { epath with instanceNumber := number }
  | attributeId => { epath with attributeNumber := number }
  | memberId => epath

@[simp] theorem write_pathSize (type : LogicalType) (number : UInt16) (epath : CipEpath) :
    (type.write number epath).pathSize = epath.pathSize := by
  cases type <;> rfl

end LogicalType

/-- A segment in one word, or with its number in a second word behind a pad octet. -/
inductive EpathSegment where
  | eightBit (type : LogicalType) (number : UInt8)
  | sixteenBit (type : LogicalType) (pad : CipOctet) (number : UInt16)
  deriving DecidableEq, Repr

namespace EpathSegment

def type : EpathSegment → LogicalType
  | eightBit type _ | sixteenBit type _ _ => type

def number : EpathSegment → UInt16
  | eightBit _ number => number.toUInt16
  | sixteenBit _ _ number => number

def words : EpathSegment → Nat
  | eightBit _ _ => 1
  | sixteenBit _ _ _ => 2

def encode : EpathSegment → List CipOctet
  | eightBit type number => [type.code .eightBit, number]
  | sixteenBit type pad number => type.code .sixteenBit :: pad :: addIntToMessage number

def write (segment : EpathSegment) (epath : CipEpath) : CipEpath := segment.type.write segment.number epath

/-- Of a 16-bit member the decoder does not skip what it counts. -/
def Plain (segment : EpathSegment) : Prop := ∀ pad number, segment ≠ .sixteenBit .memberId pad number

theorem length_encode (segment : EpathSegment) : segment.encode.length = 2 * segment.words := by
  cases segment <;> rfl

@[simp] theorem write_pathSize (segment : EpathSegment) (epath : CipEpath) :
    (segment.write epath).pathSize = epath.pathSize := LogicalType.write_pathSize _ _ _

end EpathSegment

section Codes

variable {octet : CipOctet} {type : LogicalType} {format : SegmentFormat}

theorem logicalSegment_code (type : LogicalType) (format : SegmentFormat) :
    logicalSegment (type.code format) = some (type, format) := by
  cases type <;> cases format <;> rfl

theorem octet_of_logicalSegment (meets : logicalSegment octet = some (type, format)) : octet = type.code format := by
  unfold logicalSegment at meets
  repeat' split at meets
  all_goals cases meets
  all_goals assumption

end Codes

def wordsOf (segments : List EpathSegment) : Nat := (segments.map EpathSegment.words).sum

def lastNumber (type : LogicalType) (segments : List EpathSegment) : UInt16 :=
  ((segments.filter (·.type = type)).getLast?.map EpathSegment.number).getD 0

section Segments

variable {segments : List EpathSegment}

theorem length_encodeAll (segments : List EpathSegment) :
    (segments.flatMap EpathSegment.encode).length = 2 * wordsOf segments := by
  induction segments with
  | nil => rfl
  | cons segment segments ih =>
    have first := segment.length_encode
    have all : wordsOf (segment :: segments) = segment.words + wordsOf segments := rfl
    rw [List.flatMap_cons, List.length_append, first, ih, all]
    omega

theorem lastNumber_concat (type : LogicalType) (segments : List EpathSegment) (segment : EpathSegment) :
    lastNumber type (segments ++ [segment]) =
      if segment.type = type then segment.number else lastNumber type segments := by
  unfold lastNumber
  rw [List.filter_append]
  split
  next same => rw [List.filter_cons_of_pos (by simpa using same), List.filter_nil, List.getLast?_concat]; rfl
  next differs => rw [List.filter_cons_of_neg (by simpa using differs), List.filter_nil, List.append_nil]

theorem foldl_write (segments : List EpathSegment) (pathSize : UInt8) :
    segments.foldl (fun epath segment => segment.write epath) ⟨pathSize, 0, 0, 0⟩ =
      ⟨pathSize, lastNumber .classId segments, lastNumber .instanceId segments, lastNumber .attributeId segments⟩ := by
  induction segments using List.reverseRecOn with
  | nil => rfl
  | append_singleton segments segment ih =>
    rw [List.foldl_append, ih, lastNumber_concat, lastNumber_concat, lastNumber_concat]
    change segment.write _ = _
    unfold EpathSegment.write
    cases segment.type <;> rfl

end Segments

namespace EpathDecoder

variable {decoder : EpathDecoder}

theorem decodeSegment_eq (decoder : EpathDecoder) : decoder.decodeSegment =
    match logicalSegment (octetAt decoder.message 0) with
    | none => none
    | some (type, .eightBit) => some (decoder.eightBit fun number => type.write number decoder.epath)
    | some (.memberId, .sixteenBit) =>
      some { decoder with decodedElements := decoder.decodedElements + 2, message := decoder.message.drop 2 }
    | some (type, .sixteenBit) => some (decoder.sixteenBit fun number => type.write number decoder.epath) := by
  unfold decodeSegment logicalSegment
  dsimp only
  generalize octetAt decoder.message 0 = segment
  by_cases reserved : segment &&& 0xE0 = 0xE0
  · rw [if_pos reserved]
    have unknown (code : CipOctet) (known : code &&& 0xE0 ≠ 0xE0) : segment ≠ code := by
      rintro rfl
      exact known reserved
    rw [if_neg (unknown 0x20 (by decide)), if_neg (unknown 0x21 (by decide)), if_neg (unknown 0x24 (by decide)),
      if_neg (unknown 0x25 (by decide)), if_neg (unknown 0x30 (by decide)), if_neg (unknown 0x31 (by decide)),
      if_neg (unknown 0x28 (by decide)), if_neg (unknown 0x29 (by decide))]
  by_cases class8 : segment = 0x20
  · subst class8
    rfl
  by_cases class16 : segment = 0x21
  · subst class16
    rfl
  by_cases instance8 : segment = 0x24
  · subst instance8
    rfl
  by_cases instance16 : segment = 0x25
  · subst instance16
    rfl
  by_cases attribute8 : segment = 0x30
  · subst attribute8
    rfl
  by_cases attribute16 : segment = 0x31
  · subst attribute16
    rfl
  by_cases member8 : segment = 0x28
  · subst member8
    rfl
  by_cases member16 : segment = 0x29
  · subst member16
    rfl
  rw [if_neg reserved]
  simp only [if_neg class8, if_neg class16, if_neg instance8, if_neg instance16, if_neg attribute8,
    if_neg attribute16, if_neg member8, if_neg member16]

theorem decodeSegment_eightBit {type : LogicalType} {epath : CipEpath} {elements : Nat} {path : List CipOctet}
    (meets : logicalSegment (octetAt path 0) = some (type, .eightBit)) :
    decodeSegment ⟨epath, elements, path⟩ =
      some ⟨(EpathSegment.eightBit type (octetAt path 1)).write epath, elements + 1, path.drop 2⟩ := by
  rw [decodeSegment_eq]
  dsimp only
  rw [meets]
  rfl

theorem getUintFromMessage_drop (message : List CipOctet) : (getUintFromMessage.run message).2 = message.drop 2 := by
  change message.tail.tail = _
  rw [← List.drop_one, ← List.drop_one, List.drop_drop]

theorem decodeSegment_sixteenBit {type : LogicalType} {epath : CipEpath} {elements : Nat} {path : List CipOctet}
    (meets : logicalSegment (octetAt path 0) = some (type, .sixteenBit)) (plain : type ≠ .memberId) :
    decodeSegment ⟨epath, elements, path⟩ =
      some ⟨(EpathSegment.sixteenBit type (octetAt path 1) (getUintFromMessage.run (path.drop 2)).1).write epath,
        elements + 2, path.drop 4⟩ := by
  have behind := getUintFromMessage_drop (path.drop 2)
  rw [List.drop_drop] at behind
  rw [decodeSegment_eq]
  dsimp only
  rw [meets, ← behind]
  cases type with
  | memberId => exact absurd rfl plain
  | _ => rfl

theorem decodeSegment_member {epath : CipEpath} {elements : Nat} {path : List CipOctet}
    (meets : logicalSegment (octetAt path 0) = some (.memberId, .sixteenBit)) :
    decodeSegment ⟨epath, elements, path⟩ = some ⟨epath, elements + 2, path.drop 2⟩ := by
  rw [decodeSegment_eq]
  dsimp only
  rw [meets]

theorem decodeSegment_unknown {epath : CipEpath} {elements : Nat} {path : List CipOctet}
    (unknown : logicalSegment (octetAt path 0) = none) : decodeSegment ⟨epath, elements, path⟩ = none := by
  rw [decodeSegment_eq]
  dsimp only
  rw [unknown]

theorem decodeSegments_done {fuel : Nat} (done : decoder.epath.pathSize.toNat ≤ decoder.decodedElements) :
    decodeSegments fuel decoder = some decoder := by
  cases fuel with
  | zero => rfl
  | succ fuel =>
    unfold decodeSegments
    rw [if_neg (by omega)]

theorem decodeSegments_ne_none {fuel : Nat} (done : decoder.epath.pathSize.toNat ≤ decoder.decodedElements) :
    decodeSegments fuel decoder ≠ none := by
  rw [decodeSegments_done done]
  exact Option.some_ne_none decoder

theorem decodeSegments_step {fuel : Nat} (more : decoder.decodedElements < decoder.epath.pathSize.toNat) :
    decodeSegments (fuel + 1) decoder = decoder.decodeSegment >>= decodeSegments fuel := by
  conv_lhs => unfold decodeSegments
  rw [if_pos more]

end EpathDecoder

def Refused : Nat → List CipOctet → Prop
  | 0, _ => False
  | 1, path => logicalSegment (octetAt path 0) = none
  | words + 2, path =>
    match logicalSegment (octetAt path 0) with
    | none => True
    | some (_, .eightBit) => Refused (words + 1) (path.drop 2)
    | some (.memberId, .sixteenBit) => Refused words (path.drop 2)
    | some (_, .sixteenBit) => Refused words (path.drop 4)

def Orderly : Nat → List CipOctet → Prop
  | 0, _ => True
  | 1, path => ∃ type, logicalSegment (octetAt path 0) = some (type, .eightBit)
  | words + 2, path =>
    match logicalSegment (octetAt path 0) with
    | none => False
    | some (_, .eightBit) => Orderly (words + 1) (path.drop 2)
    | some (.memberId, .sixteenBit) => False
    | some (_, .sixteenBit) => Orderly words (path.drop 4)

inductive Begins (path : List CipOctet) : Prop where
  | unknown (meets : logicalSegment (octetAt path 0) = none)
  | eightBit (type : LogicalType) (meets : logicalSegment (octetAt path 0) = some (type, .eightBit))
  | member (meets : logicalSegment (octetAt path 0) = some (.memberId, .sixteenBit))
  | sixteenBit (type : LogicalType) (meets : logicalSegment (octetAt path 0) = some (type, .sixteenBit))
      (plain : type ≠ .memberId)

theorem begins (path : List CipOctet) : Begins path := by
  match meets : logicalSegment (octetAt path 0) with
  | none => exact .unknown meets
  | some (type, .eightBit) => exact .eightBit type meets
  | some (type, .sixteenBit) =>
    by_cases member : type = .memberId
    · subst member
      exact .member meets
    · exact .sixteenBit type meets member

section Walk

variable {path : List CipOctet} {type : LogicalType} {words : Nat}

theorem refused_eightBit (meets : logicalSegment (octetAt path 0) = some (type, .eightBit)) :
    Refused (words + 1) path ↔ Refused words (path.drop 2) := by
  cases words with
  | zero =>
    unfold Refused
    rw [meets]
    exact iff_of_false nofun id
  | succ words =>
    conv_lhs => unfold Refused
    rw [meets]

theorem refused_member (meets : logicalSegment (octetAt path 0) = some (.memberId, .sixteenBit)) :
    Refused (words + 2) path ↔ Refused words (path.drop 2) := by
  conv_lhs => unfold Refused
  rw [meets]

theorem refused_sixteenBit (meets : logicalSegment (octetAt path 0) = some (type, .sixteenBit))
    (plain : type ≠ .memberId) : Refused (words + 2) path ↔ Refused words (path.drop 4) := by
  conv_lhs => unfold Refused
  rw [meets]
  cases type with
  | memberId => exact absurd rfl plain
  | _ => exact Iff.rfl

theorem refused_unknown (meets : logicalSegment (octetAt path 0) = none) : Refused (words + 1) path := by
  cases words with
  | zero => exact meets
  | succ words =>
    unfold Refused
    rw [meets]
    trivial

theorem not_refused_overrun (meets : logicalSegment (octetAt path 0) = some (type, .sixteenBit)) :
    ¬ Refused 1 path := by
  unfold Refused
  rw [meets]
  nofun

theorem orderly_eightBit (meets : logicalSegment (octetAt path 0) = some (type, .eightBit)) :
    Orderly (words + 1) path ↔ Orderly words (path.drop 2) := by
  cases words with
  | zero => exact iff_of_true ⟨type, meets⟩ trivial
  | succ words =>
    conv_lhs => unfold Orderly
    rw [meets]

theorem not_orderly_member (meets : logicalSegment (octetAt path 0) = some (.memberId, .sixteenBit)) :
    ¬ Orderly (words + 1) path := by
  cases words with
  | zero =>
    rintro ⟨type, other⟩
    rw [meets] at other
    cases other
  | succ words =>
    unfold Orderly
    rw [meets]
    exact id

theorem orderly_sixteenBit (meets : logicalSegment (octetAt path 0) = some (type, .sixteenBit))
    (plain : type ≠ .memberId) : Orderly (words + 2) path ↔ Orderly words (path.drop 4) := by
  conv_lhs => unfold Orderly
  rw [meets]
  cases type with
  | memberId => exact absurd rfl plain
  | _ => exact Iff.rfl

theorem not_orderly_overrun (meets : logicalSegment (octetAt path 0) = some (type, .sixteenBit)) : ¬ Orderly 1 path := by
  rintro ⟨other, eightBit⟩
  rw [meets] at eightBit
  cases eightBit

theorem not_orderly_unknown (meets : logicalSegment (octetAt path 0) = none) : ¬ Orderly (words + 1) path := by
  cases words with
  | zero =>
    rintro ⟨type, other⟩
    rw [meets] at other
    cases other
  | succ words =>
    unfold Orderly
    rw [meets]
    exact id

theorem Orderly.congr {other : List CipOctet} (orderly : Orderly words path)
    (same : octets (2 * words) path = octets (2 * words) other) : Orderly words other := by
  induction words using Nat.strongRecOn generalizing path other with
  | ind words ih =>
    match words, ih, orderly, same with
    | 0, _, _, _ => trivial
    | words + 1, ih, orderly, same =>
      have first : octetAt path 0 = octetAt other 0 := octetAt_octets (by omega) same
      cases begins path with
      | unknown meets => exact absurd orderly (not_orderly_unknown meets)
      | member meets => exact absurd orderly (not_orderly_member meets)
      | eightBit type meets =>
        have rest : octets (2 * words) (path.drop 2) = octets (2 * words) (other.drop 2) := by
          refine octets_drop ?_
          have count : 2 + 2 * words = 2 * (words + 1) := by omega
          rw [count]
          exact same
        rw [orderly_eightBit meets] at orderly
        rw [orderly_eightBit (first ▸ meets)]
        exact ih words (by omega) orderly rest
      | sixteenBit type meets plain =>
        match words, ih, orderly, same with
        | 0, _, orderly, _ => exact absurd orderly (not_orderly_overrun meets)
        | words + 1, ih, orderly, same =>
          have rest : octets (2 * words) (path.drop 4) = octets (2 * words) (other.drop 4) := by
            refine octets_drop ?_
            have count : 4 + 2 * words = 2 * (words + 1 + 1) := by omega
            rw [count]
            exact same
          rw [orderly_sixteenBit meets plain] at orderly
          rw [orderly_sixteenBit (first ▸ meets) plain]
          exact ih words (by omega) orderly rest

end Walk

section Decoding

open EpathDecoder

variable {path : List CipOctet} {words fuel elements : Nat} {epath : CipEpath}

theorem decodeSegments_eq_none_iff (size : epath.pathSize.toNat = elements + words) (enough : words ≤ fuel) :
    decodeSegments fuel ⟨epath, elements, path⟩ = none ↔ Refused words path := by
  induction words using Nat.strongRecOn generalizing path fuel elements epath with
  | ind words ih =>
    match words, fuel, ih, size, enough with
    | 0, fuel, _, size, _ =>
      rw [decodeSegments_done size.le]
      exact iff_of_false nofun id
    | words + 1, fuel + 1, ih, size, enough =>
      rw [decodeSegments_step (by dsimp only; omega)]
      cases begins path with
      | unknown meets =>
        rw [decodeSegment_unknown meets]
        exact iff_of_true rfl (refused_unknown meets)
      | eightBit type meets =>
        rw [decodeSegment_eightBit meets, refused_eightBit meets]
        exact ih words (by omega) (by rw [EpathSegment.write_pathSize]; omega) (by omega)
      | member meets =>
        rw [decodeSegment_member meets]
        match words, ih, size, enough with
        | 0, _, size, _ =>
          exact iff_of_false (decodeSegments_ne_none (by dsimp only; omega)) (not_refused_overrun meets)
        | words + 1, ih, size, enough =>
          rw [refused_member meets]
          exact ih words (by omega) (by omega) (by omega)
      | sixteenBit type meets plain =>
        rw [decodeSegment_sixteenBit meets plain]
        match words, ih, size, enough with
        | 0, _, size, _ =>
          refine iff_of_false (decodeSegments_ne_none ?_) (not_refused_overrun meets)
          rw [EpathSegment.write_pathSize]
          dsimp only
          omega
        | words + 1, ih, size, enough =>
          rw [refused_sixteenBit meets plain]
          exact ih words (by omega) (by rw [EpathSegment.write_pathSize]; omega) (by omega)

/-- So many words are the encoding of some segments, and are decoded as these with any octets behind them. -/
structure ReadsAs (words : Nat) (path : List CipOctet) (segments : List EpathSegment) : Prop where
  encoded : segments.flatMap EpathSegment.encode = octets (2 * words) path
  decodes (other : List CipOctet) (fuel elements : Nat) (epath : CipEpath)
    (same : octets (2 * words) path = octets (2 * words) other) (size : epath.pathSize.toNat = elements + words)
    (enough : words ≤ fuel) : decodeSegments fuel ⟨epath, elements, other⟩ =
      some ⟨segments.foldl (fun epath segment => segment.write epath) epath, elements + words, other.drop (2 * words)⟩

theorem readsAs_nil (path : List CipOctet) : ReadsAs 0 path [] where
  encoded := rfl
  decodes _ _ _ _ _ size _ := decodeSegments_done size.le

theorem ReadsAs.eightBit {type : LogicalType} {segments : List EpathSegment}
    (meets : logicalSegment (octetAt path 0) = some (type, .eightBit)) (later : ReadsAs words (path.drop 2) segments) :
    ReadsAs (words + 1) path (.eightBit type (octetAt path 1) :: segments) := by
  have count : 2 * (words + 1) = 2 + 2 * words := by omega
  constructor
  · rw [List.flatMap_cons, later.encoded, count, octets_add]
    refine congrArg (· ++ _) ?_
    rw [EpathSegment.encode, ← octet_of_logicalSegment meets]
    rfl
  · intro other fuel elements epath same size enough
    rw [count] at same
    have first : octetAt path 0 = octetAt other 0 := octetAt_octets (by omega) same
    have second : octetAt path 1 = octetAt other 1 := octetAt_octets (by omega) same
    match fuel, enough with
    | fuel + 1, enough =>
      rw [decodeSegments_step (by dsimp only; omega), decodeSegment_eightBit (first ▸ meets), ← second]
      refine (later.decodes _ fuel _ _ (octets_drop same) (by rw [EpathSegment.write_pathSize]; omega) (by omega)).trans ?_
      rw [List.drop_drop, count, Nat.add_assoc elements, Nat.add_comm 1]
      rfl

theorem ReadsAs.sixteenBit {type : LogicalType} {segments : List EpathSegment}
    (meets : logicalSegment (octetAt path 0) = some (type, .sixteenBit)) (plain : type ≠ .memberId)
    (later : ReadsAs words (path.drop 4) segments) :
    ReadsAs (words + 2) path
      (.sixteenBit type (octetAt path 1) (getUintFromMessage.run (path.drop 2)).1 :: segments) := by
  have count : 2 * (words + 2) = 2 + (2 + 2 * words) := by omega
  constructor
  · rw [List.flatMap_cons, later.encoded, count, octets_add, octets_add, List.drop_drop, ← List.append_assoc]
    refine congrArg (· ++ _) ?_
    rw [EpathSegment.encode, ← octet_of_logicalSegment meets, addIntToMessage_read]
    rfl
  · intro other fuel elements epath same size enough
    rw [count] at same
    have first : octetAt path 0 = octetAt other 0 := octetAt_octets (by omega) same
    have second : octetAt path 1 = octetAt other 1 := octetAt_octets (by omega) same
    have behind := octets_drop same
    have number : (getUintFromMessage.run (path.drop 2)).1 = (getUintFromMessage.run (other.drop 2)).1 := by
      apply addIntToMessage_injective
      rw [addIntToMessage_read, addIntToMessage_read]
      exact octets_mono (by omega) behind
    have rest := octets_drop behind
    rw [List.drop_drop, List.drop_drop] at rest
    match fuel, enough with
    | fuel + 1, enough =>
      rw [decodeSegments_step (by dsimp only; omega), decodeSegment_sixteenBit (first ▸ meets) plain, ← second, ← number]
      refine (later.decodes _ fuel _ _ rest (by rw [EpathSegment.write_pathSize]; omega) (by omega)).trans ?_
      rw [List.drop_drop, count, Nat.add_assoc elements, Nat.add_comm 2 words, ← Nat.add_assoc 2]
      rfl

theorem Orderly.readsAs (orderly : Orderly words path) : ∃ segments, ReadsAs words path segments := by
  induction words using Nat.strongRecOn generalizing path with
  | ind words ih =>
    match words, ih, orderly with
    | 0, _, _ => exact ⟨[], readsAs_nil path⟩
    | words + 1, ih, orderly =>
      cases begins path with
      | unknown meets => exact absurd orderly (not_orderly_unknown meets)
      | member meets => exact absurd orderly (not_orderly_member meets)
      | eightBit type meets =>
        rw [orderly_eightBit meets] at orderly
        obtain ⟨segments, later⟩ := ih words (by omega) orderly
        exact ⟨_, later.eightBit meets⟩
      | sixteenBit type meets plain =>
        match words, ih, orderly with
        | 0, _, orderly => exact absurd orderly (not_orderly_overrun meets)
        | words + 1, ih, orderly =>
          rw [orderly_sixteenBit meets plain] at orderly
          obtain ⟨segments, later⟩ := ih words (by omega) orderly
          exact ⟨_, later.sixteenBit meets plain⟩

/-- Where the walk is not orderly it counts words behind the path, or leaves octets of it. -/
theorem strays_of_not_orderly {decoded : EpathDecoder} (whole : 2 * words ≤ path.length)
    (stray : 2 * words < path.length ∨ ¬ Orderly words path) (size : epath.pathSize.toNat = elements + words)
    (enough : words ≤ fuel) (decodes : decodeSegments fuel ⟨epath, elements, path⟩ = some decoded) :
    epath.pathSize.toNat < decoded.decodedElements ∨ decoded.message ≠ [] := by
  induction words using Nat.strongRecOn generalizing path fuel elements epath with
  | ind words ih =>
    match words, fuel, ih, whole, stray, size, enough with
    | 0, fuel, _, _, stray, size, _ =>
      rw [decodeSegments_done size.le] at decodes
      cases decodes
      have longer : 0 < path.length := stray.resolve_right (fun orderly => orderly trivial)
      exact .inr (List.ne_nil_of_length_pos longer)
    | words + 1, fuel + 1, ih, whole, stray, size, enough =>
      rw [decodeSegments_step (by dsimp only; omega)] at decodes
      have two : (path.drop 2).length = path.length - 2 := List.length_drop
      have four : (path.drop 4).length = path.length - 4 := List.length_drop
      cases begins path with
      | unknown meets =>
        rw [decodeSegment_unknown meets] at decodes
        cases decodes
      | eightBit type meets =>
        rw [decodeSegment_eightBit meets] at decodes
        rw [orderly_eightBit meets] at stray
        have later := ih words (by omega) (by omega) (stray.imp_left fun _ => by omega)
          (by rw [EpathSegment.write_pathSize]; omega) (by omega) decodes
        rwa [EpathSegment.write_pathSize] at later
      -- two words are counted and one is passed over, so the walk ends short of the path
      | member meets =>
        rw [decodeSegment_member meets] at decodes
        match words, ih, whole, size, enough with
        | 0, _, _, size, _ =>
          change decodeSegments fuel _ = _ at decodes
          rw [decodeSegments_done (by dsimp only; omega)] at decodes
          cases decodes
          exact .inl (by dsimp only; omega)
        | words + 1, ih, whole, size, enough =>
          exact ih words (by omega) (by omega) (.inl (by omega)) (by omega) (by omega) decodes
      | sixteenBit type meets plain =>
        rw [decodeSegment_sixteenBit meets plain] at decodes
        match words, ih, whole, stray, size, enough with
        | 0, _, _, _, size, _ =>
          change decodeSegments fuel _ = _ at decodes
          rw [decodeSegments_done (by rw [EpathSegment.write_pathSize]; dsimp only; omega)] at decodes
          cases decodes
          exact .inl (by dsimp only; omega)
        | words + 1, ih, whole, stray, size, enough =>
          rw [orderly_sixteenBit meets plain] at stray
          have later := ih words (by omega) (by omega) (stray.imp_left fun _ => by omega)
            (by rw [EpathSegment.write_pathSize]; omega) (by omega) decodes
          rwa [EpathSegment.write_pathSize] at later

end Decoding

end EtherNetIP
