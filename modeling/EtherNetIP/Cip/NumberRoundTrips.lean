import EtherNetIP.Cip.RealNumbers
import EtherNetIP.Cip.SetAttribute
import EtherNetIP.Cip.SetList

/-! Numbers that are decoded as they have been encoded.

All are encoded with the least significant octet in front. Those of eight octets
are decoded with the most significant one in front, and a floating point number
is decoded as if its octets were an integer. The read position moves behind what
has been encoded all the same, so a list of numbers stays aligned.
-/

set_option autoImplicit false

namespace EtherNetIP

inductive PrimitiveType where
  | bool | byte | word | dword | lword | usint | uint | udint | ulint | sint | int | dint | lint | real | lreal
  deriving DecidableEq, Repr

namespace PrimitiveType

def kind : PrimitiveType → DataKind
  | bool | byte | usint | sint => .octet
  | word | uint | int => .word
  | dword | udint | dint | real => .dword
  | lword | ulint | lint | lreal => .lword

def dataType : PrimitiveType → CipDataType
  | bool => .bool
  | byte => .byte
  | word => .word
  | dword => .dword
  | lword => .lword
  | usint => .usint
  | uint => .uint
  | udint => .udint
  | ulint => .ulint
  | sint => .sint
  | int => .int
  | dint => .dint
  | lint => .lint
  | real => .real
  | lreal => .lreal

def encode : (type : PrimitiveType) → EncodeFunction type.kind
  | bool => encodeCipBool
  | byte => encodeCipByte
  | word => encodeCipWord
  | dword => encodeCipDword
  | lword => encodeCipLword
  | usint => encodeCipUsint
  | uint => encodeCipUint
  | udint => encodeCipUdint
  | ulint => encodeCipUlint
  | sint => encodeCipSint
  | int => encodeCipInt
  | dint => encodeCipDint
  | lint => encodeCipLint
  | real => encodeCipReal
  | lreal => encodeCipLreal

def decode : (type : PrimitiveType) → DecodeFunction type.kind
  | bool => .cipBool
  | byte => .cipByte
  | word => .cipWord
  | dword => .cipDword
  | lword => .cipLword
  | usint => .cipUsint
  | uint => .cipUint
  | udint => .cipUdint
  | ulint => .cipUlint
  | sint => .cipSint
  | int => .cipInt
  | dint => .cipDint
  | lint => .cipLint
  | real => .cipReal
  | lreal => .cipLreal

end PrimitiveType

section LittleEndian

def littleEndian (count number : Nat) : List CipOctet :=
  (List.range count).map fun place => UInt8.ofNat (number / 256 ^ place)

def DataKind.number : (kind : DataKind) → kind.Value → Nat
  | .octet, (value : UInt8) => value.toNat
  | .word, (value : UInt16) => value.toNat
  | .dword, (value : UInt32) => value.toNat
  | .lword, (value : UInt64) => value.toNat
  | _, _ => 0

theorem addSintToMessage_littleEndian (value : UInt8) : addSintToMessage value = littleEndian 1 value.toNat := by
  change [value] = [UInt8.ofNat (value.toNat / 1)]
  rw [Nat.div_one, UInt8.ofNat_toNat]

theorem octet_eq_ofNat {octet : UInt8} {number : Nat} (same : octet.toNat = number % 256) : octet = UInt8.ofNat number := by
  apply UInt8.toNat_inj.mp
  rw [same, UInt8.toNat_ofNat']

theorem addIntToMessage_littleEndian (value : UInt16) : addIntToMessage value = littleEndian 2 value.toNat := by
  have first : value.toUInt8 = UInt8.ofNat (value.toNat / 256 ^ 0) := octet_eq_ofNat (by rw [Nat.pow_zero, Nat.div_one]; rfl)
  have second : (value >>> 8).toUInt8 = UInt8.ofNat (value.toNat / 256 ^ 1) := octet_eq_ofNat (by
    rw [UInt16.toNat_toUInt8, UInt16.toNat_shiftRight, Nat.shiftRight_eq_div_pow]
    rfl)
  change [value.toUInt8, (value >>> 8).toUInt8] = [_, _]
  rw [first, second]

theorem addDintToMessage_littleEndian (value : UInt32) : addDintToMessage value = littleEndian 4 value.toNat := by
  have first : value.toUInt8 = UInt8.ofNat (value.toNat / 256 ^ 0) := octet_eq_ofNat (by rw [Nat.pow_zero, Nat.div_one]; rfl)
  have shifted (amount : UInt32) (place : Nat) (within : amount.toNat < 32) (places : 2 ^ amount.toNat = 256 ^ place) :
      (value >>> amount).toUInt8 = UInt8.ofNat (value.toNat / 256 ^ place) := octet_eq_ofNat (by
    rw [UInt32.toNat_toUInt8, UInt32.toNat_shiftRight, Nat.mod_eq_of_lt within, Nat.shiftRight_eq_div_pow, places])
  change [value.toUInt8, _, _, _] = [_, _, _, _]
  rw [first, shifted 8 1 (by decide) (by decide), shifted 16 2 (by decide) (by decide),
    shifted 24 3 (by decide) (by decide)]

theorem addLintToMessage_littleEndian (value : UInt64) : addLintToMessage value = littleEndian 8 value.toNat := by
  have first : value.toUInt8 = UInt8.ofNat (value.toNat / 256 ^ 0) := octet_eq_ofNat (by rw [Nat.pow_zero, Nat.div_one]; rfl)
  have shifted (amount : UInt64) (place : Nat) (within : amount.toNat < 64) (places : 2 ^ amount.toNat = 256 ^ place) :
      (value >>> amount).toUInt8 = UInt8.ofNat (value.toNat / 256 ^ place) := octet_eq_ofNat (by
    rw [UInt64.toNat_toUInt8, UInt64.toNat_shiftRight, Nat.mod_eq_of_lt within, Nat.shiftRight_eq_div_pow, places])
  change [value.toUInt8, _, _, _, _, _, _, _] = [_, _, _, _, _, _, _, _]
  rw [first, shifted 8 1 (by decide) (by decide), shifted 16 2 (by decide) (by decide),
    shifted 24 3 (by decide) (by decide), shifted 32 4 (by decide) (by decide), shifted 40 5 (by decide) (by decide),
    shifted 48 6 (by decide) (by decide), shifted 56 7 (by decide) (by decide)]

end LittleEndian

namespace PrimitiveType

variable {type : PrimitiveType}

def size (type : PrimitiveType) : Nat :=
  match type.kind with
  | .octet => 1
  | .word => 2
  | .dword => 4
  | _ => 8

/-- A value is encoded with the least significant octet in front. Wherever its octets are found it is decoded again, the
read position has moved behind them, and the function returns by how much. -/
def RoundTrips (type : PrimitiveType) (value : type.kind.Value) : Prop :=
  ∀ used, type.encode value used = littleEndian type.size (type.kind.number value) ∧
    ∀ environment request data decoding behind, decoding.request.Finds (type.encode value used ++ behind) →
      ∃ returned after, type.decode.run environment request data decoding = some (returned, after) ∧
        after.device.memory.read data = value ∧
        after.request.position = decoding.request.position + (type.encode value used).length ∧
        returned = after.request.position - decoding.request.position

/-- Numbers of eight octets have to be the same from both ends, floating point numbers have to be one of a few; what a
bit string of eight octets takes is told wrongly. -/
def Keeps : (type : PrimitiveType) → type.kind.Value → Prop
  | lword, _ => False
  | ulint, value | lint, value => (addLintToMessage value).reverse = addLintToMessage value
  | real, value => value ∈ keptReals
  | lreal, value => value ∈ keptLreals
  | _, _ => True

theorem encode_littleEndian (type : PrimitiveType) (value : type.kind.Value) (used : UInt64) :
    type.encode value used = littleEndian type.size (type.kind.number value) := by
  cases type with
  | bool | byte | usint | sint => exact addSintToMessage_littleEndian value
  | word | uint | int => exact addIntToMessage_littleEndian value
  | dword | udint | dint | real => exact addDintToMessage_littleEndian value
  | lword | ulint | lint | lreal => exact addLintToMessage_littleEndian value

theorem length_encode (type : PrimitiveType) (value : type.kind.Value) (used : UInt64) :
    (type.encode value used).length = type.size := by
  rw [encode_littleEndian, littleEndian, List.length_map, List.length_range]

def returned : PrimitiveType → Int
  | lword => 4
  | type => type.size

theorem run_decode (environment : ServiceEnvironment) (request : CipMessageRouterRequest) (data : CipPointer type.kind)
    {decoding : Decoding} {own : List CipOctet} (finds : decoding.request.Finds own) :
    type.decode.run environment request data decoding =
      some (type.returned, decoding.answered { decoding.device with
        memory := decoding.device.memory.write data (type.decode.valueOf own) } type.size type.size
          kCipErrorSuccess) := by
  cases type with
  | bool | byte | usint | sint => exact congrArg (fun after => some (1, after)) (decodeNumber_ends finds _ 1 1 data)
  | word | uint | int => exact congrArg (fun after => some (2, after)) (decodeNumber_ends finds _ 2 2 data)
  | dword | udint | dint | real => exact congrArg (fun after => some (4, after)) (decodeNumber_ends finds _ 4 4 data)
  | lword => exact congrArg (fun after => some (4, after)) (decodeNumber_ends finds _ 8 4 data)
  | ulint | lint | lreal => exact congrArg (fun after => some (8, after)) (decodeNumber_ends finds _ 8 8 data)

def restored : (type : PrimitiveType) → type.kind.Value → type.kind.Value
  | lword, value | ulint, value | lint, value => turned value
  | real, value => realOfDint value
  | lreal, value => lrealOfLint (turned value)
  | _, value => value

theorem valueOf_encode (type : PrimitiveType) (value : type.kind.Value) (used : UInt64) (behind : List CipOctet) :
    type.decode.valueOf (type.encode value used ++ behind) = type.restored value := by
  cases type with
  | bool | byte | usint | sint => rfl
  | word | uint | int => exact joinOctets16 value
  | dword | udint | dint => exact joinOctets32 value
  | lword | ulint | lint => rfl
  | real => exact congrArg realOfDint (joinOctets32 value)
  | lreal => rfl

theorem turned_eq_self_iff (value : UInt64) :
    turned value = value ↔ (addLintToMessage value).reverse = addLintToMessage value := by
  have reversed : addLintToMessage (turned value) = (addLintToMessage value).reverse := addLintToMessage_lintOfOctets ..
  rw [← reversed]
  exact ⟨congrArg addLintToMessage, addLintToMessage_injective⟩

theorem restored_iff_keeps (value : type.kind.Value) :
    type.restored value = value ∧ type.returned = type.size ↔ type.Keeps value := by
  cases type with
  | lword => exact iff_of_false (fun both => absurd both.2 (by decide)) id
  | ulint | lint => exact (and_iff_left rfl).trans (turned_eq_self_iff value)
  | real => exact (and_iff_left rfl).trans realOfDint_eq_self_iff
  | lreal => exact (and_iff_left rfl).trans lrealOfLint_turned_eq_self_iff
  | _ => exact iff_of_true ⟨rfl, rfl⟩ trivial

theorem position_answered {decoding : Decoding} {device : CipDevice} (looked moved : Nat) (generalStatus : UInt8) :
    (decoding.answered device looked moved generalStatus).request.position = decoding.request.position + moved := by
  change (decoding.request.look looked).position + moved = _
  rw [RequestData.look_position]

def alone (octets : List CipOctet) : Decoding :=
  .start quietEnvironment (setRequest 0 0 0 octets) clearedDevice

theorem roundTrips_iff_keeps (value : type.kind.Value) : type.RoundTrips value ↔ type.Keeps value := by
  rw [← restored_iff_keeps]
  constructor
  · intro roundTrips
    have finds : (alone (type.encode value 0)).request.Finds (type.encode value 0 ++ []) := by
      rw [List.append_nil]
      exact ofRequest_finds
    obtain ⟨returned, after, ran, value_, position, moved⟩ :=
      (roundTrips 0).2 quietEnvironment (setRequest 0 0 0 []) ⟨.other 0⟩ (alone (type.encode value 0)) [] finds
    rw [run_decode _ _ _ finds] at ran
    cases ran
    have same := (CipMemory.read_write_self ..).symm.trans value_
    rw [valueOf_encode] at same
    rw [position_answered] at moved
    exact ⟨same, by omega⟩
  · rintro ⟨same, returned⟩ used
    refine ⟨encode_littleEndian type value used, fun environment request data decoding behind finds => ?_⟩
    refine ⟨_, _, run_decode environment request data finds, ?_, ?_, ?_⟩
    · exact (CipMemory.read_write_self ..).trans ((valueOf_encode type value used behind).trans same)
    · rw [position_answered, length_encode]
    · rw [position_answered, returned]
      omega

end PrimitiveType

section Lists

structure NumberEntry where
  type : PrimitiveType
  attributeNumber : UInt16
  numbered : attributeNumber ≠ 0
  data : CipPointer type.kind
  attributeFlags : UInt8
  value : type.kind.Value

namespace NumberEntry

def attr (entry : NumberEntry) : CipAttributeStruct where
  attributeNumber := entry.attributeNumber
  type := entry.type.dataType
  kind := entry.type.kind
  encode := entry.type.encode
  decode := some entry.type.decode
  data := entry.data
  attributeFlags := entry.attributeFlags
  numbered := entry.numbered

def octets (entry : NumberEntry) (used : UInt64) : List CipOctet :=
  addIntToMessage entry.attributeNumber ++ entry.type.encode entry.value used

def Installed (cipClass : AttributeClass) (inst : CipInstance) (entries : List NumberEntry) : Prop :=
  ∀ entry ∈ entries, inst.getCipAttribute entry.attributeNumber = some (some entry.attr) ∧
    entry.attributeNumber ∈ cipClass.setBitMask

/-- Each entry the service for lists gets to is read where it begins. -/
def Aligned (entries : List NumberEntry) : Prop :=
  ∀ environment cipClass inst request device used behind, Installed cipClass inst entries →
    request.data.drop 2 = entries.flatMap (·.octets used) ++ behind →
      ∀ count ≤ entries.length, ∀ place, setPlaces environment cipClass inst request device count = some place →
        place.position = 2 + ((entries.take count).flatMap (·.octets used)).length

variable {entries : List NumberEntry} {environment : ServiceEnvironment} {cipClass : AttributeClass} {inst : CipInstance}
  {request : CipMessageRouterRequest} {device : CipDevice}

theorem length_octets (entry : NumberEntry) (used : UInt64) : (entry.octets used).length = 2 + entry.type.size := by
  rw [octets, List.length_append, PrimitiveType.length_encode]
  rfl

theorem decodedOutcome_moved {type : PrimitiveType} {data : CipPointer type.kind} {value : type.kind.Value}
    {outcome : SetOutcome}
    (dealt : decodedOutcome environment request device type.decode data value = some outcome) :
    outcome.moved = type.size := by
  cases type <;> (cases dealt; rfl)

theorem requestOctets_natCast (position : Nat) :
    requestOctets environment request position = request.data.drop position := by
  have count : ((request.data.length : Int) - position).toNat = (request.data.drop position).length := by
    rw [List.length_drop]
    omega
  have start : RequestData.mk (RequestData.ofRequest environment request).octets position 0 =
      (RequestData.ofRequest environment request).skip position := by
    change _ = RequestData.mk _ (0 + position) 0
    rw [Int.zero_add]
  rw [requestOctets, count, start, (ofRequest_finds.skip position).next, octets_of_length]

theorem drop_entry {count : Nat} {used : UInt64} {behind : List CipOctet} (within : count < entries.length)
    (data : request.data.drop 2 = entries.flatMap (·.octets used) ++ behind) :
    request.data.drop (2 + ((entries.take count).flatMap (·.octets used)).length) =
      entries[count].octets used ++ ((entries.drop (count + 1)).flatMap (·.octets used) ++ behind) := by
  have split : entries.flatMap (·.octets used) =
      (entries.take count).flatMap (·.octets used) ++ (entries.drop count).flatMap (·.octets used) := by
    rw [← List.flatMap_append, List.take_append_drop]
  rw [← List.drop_drop, data, split, List.append_assoc, List.drop_left, List.drop_eq_getElem_cons within,
    List.flatMap_cons, List.append_assoc]

theorem aligned (entries : List NumberEntry) : Aligned entries := by
  intro environment cipClass inst request device used behind installed data count within place found
  induction count generalizing place with
  | zero =>
      cases found
      rfl
  | succ count ih =>
      obtain ⟨before, outcome, earlier, -, -, dealt, -, rfl⟩ := setPlaces_succ.mp found
      have position := ih (by omega) before earlier
      have there := (@requestOctets_natCast environment request _).trans (drop_entry within data)
      rw [Int.natCast_add, Int.cast_ofNat_Int, ← position] at there
      have number : before.number environment request = entries[count].attributeNumber := by
        rw [SetPlace.number, there, octets, List.append_assoc]
        exact joinOctets16 _
      obtain ⟨found, settable⟩ := installed _ (List.getElem_mem within)
      rw [← number] at found settable
      rw [setOutcome_settable found settable rfl] at dealt
      have moved := decodedOutcome_moved dealt
      rw [List.take_succ_eq_append_getElem within, List.flatMap_append, List.length_append, List.flatMap_singleton,
        length_octets]
      dsimp only
      omega

end NumberEntry

/-- The numbers of a list are decoded as they have been encoded, each at its place. -/
def SetInTurn (entries : List NumberEntry) : Prop :=
  NumberEntry.Aligned entries ∧ ∀ entry ∈ entries, entry.type.RoundTrips entry.value

theorem setInTurn_iff (entries : List NumberEntry) :
    SetInTurn entries ↔ ∀ entry ∈ entries, entry.type.Keeps entry.value := by
  refine (and_iff_right (NumberEntry.aligned entries)).trans ?_
  exact forall₂_congr fun entry _ => entry.type.roundTrips_iff_keeps entry.value

def ulintOne : NumberEntry := ⟨.ulint, 1, one_numbered, ⟨.other 0⟩, kSetAndGetAble, (1 : UInt64)⟩

/-- It is decoded as two to the power of fifty-six. -/
theorem ulintOne_not_restored : ¬ SetInTurn [ulintOne] := by
  intro inTurn
  have kept : (addLintToMessage 1).reverse = addLintToMessage 1 :=
    (PrimitiveType.roundTrips_iff_keeps ulintOne.value).mp (inTurn.2 ulintOne (.head _))
  exact absurd kept (by decide)

end Lists

end EtherNetIP
