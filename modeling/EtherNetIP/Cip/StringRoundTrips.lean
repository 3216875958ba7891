import EtherNetIP.Cip.InternationalStrings
import EtherNetIP.Cip.SetAttribute

/-! Which strings are decoded as they have been encoded.

A pad octet is encoded where the message has an odd number of octets behind a
string. The decoder of international strings passes over none, that of a string
over one behind a string of odd length.
-/

set_option autoImplicit false

namespace EtherNetIP

open Library

section Strings

variable {behind : List CipOctet}

theorem getUsintFromMessage_recovers (value : UInt8) :
    Recovers getUsintFromMessage (addSintToMessage value) value := fun _ => rfl

theorem getUintFromMessage_recovers (value : UInt16) :
    Recovers getUintFromMessage (addIntToMessage value) value := fun behind => getUintFromMessage_add behind value

theorem getOctets_recovers {count : Nat} (copied : List CipOctet) (long : copied.length = count) :
    Recovers (getOctets count) copied ⟨copied, long⟩ := by
  intro behind
  subst long
  refine Prod.ext (Subtype.ext ?_) (List.drop_left)
  exact (octets_append (Nat.le_refl _) behind).trans (octets_of_length copied)

theorem getShortString_recovers (value : CipShortString) :
    Recovers getShortString (addSintToMessage value.length ++ value.string) value := by
  have length : value.string.length = value.length.toNat := (UInt8.toNat_ofNat_of_lt' value.fits).symm
  have copied := (getOctets_recovers value.string length).map fun copied =>
    (⟨copied.val, by rw [copied.property]; exact value.length.toNat_lt⟩ : CipShortString)
  exact (getUsintFromMessage_recovers value.length).bind copied

theorem getString_recovers (value : CipString) :
    Recovers getString (addIntToMessage value.length ++ value.string) value := by
  have copied := (getOctets_recovers value.string value.toNat_length.symm).map fun copied =>
    (⟨copied.val, by rw [copied.property]; exact value.length.toNat_lt⟩ : CipString)
  exact (getUintFromMessage_recovers value.length).bind copied

theorem getShortString_takes : TakesBy (fun value : CipShortString => 1 + value.string.length) getShortString := by
  intro message
  change (message.tail).drop (message.headD 0).toNat = message.drop (1 + (octets (message.headD 0).toNat message.tail).length)
  rw [octets_length, ← List.drop_one, List.drop_drop]

theorem getString_takes : TakesBy (fun value : CipString => 2 + value.string.length) getString := by
  intro message
  let length := (getUintFromMessage.run message).1.toNat
  change (getUintFromMessage.run message).2.drop length =
    message.drop (2 + (octets length (getUintFromMessage.run message).2).length)
  rw [octets_length, getUintFromMessage_rest, List.drop_drop]

theorem getString2_takes : TakesBy (fun value : CipString2 => 2 + value.string.length) getString2 := by
  intro message
  let length := (getUintFromMessage.run message).1.toNat * 2
  change (getUintFromMessage.run message).2.drop length =
    message.drop (2 + (octets length (getUintFromMessage.run message).2).length)
  rw [octets_length, getUintFromMessage_rest, List.drop_drop]

theorem getStringN_takes : TakesBy (fun value : CipStringN => 4 + value.string.length) getStringN := by
  intro message
  let size := (getUintFromMessage.run message).1
  let rest := (getUintFromMessage.run message).2
  let length := (getUintFromMessage.run rest).1
  have behind : rest = message.drop 2 := getUintFromMessage_rest message
  have count : (getStringN.run message).1.string.length = length.toNat * size.toNat := by
    change (if length = 0 then ⟨0, 0, [], rfl⟩ else
      ⟨size, length, octets (length.toNat * size.toNat) (getUintFromMessage.run rest).2, octets_length ..⟩ :
        CipStringN).string.length = _
    split
    next none_ =>
      rw [none_]
      exact (Nat.zero_mul _).symm
    next => exact octets_length ..
  change (getUintFromMessage.run rest).2.drop (length.toNat * size.toNat) =
    message.drop (4 + (getStringN.run message).1.string.length)
  rw [count,  getUintFromMessage_rest, behind, List.drop_drop, List.drop_drop, ← Nat.add_assoc]

def CipString.Unpadded (value : CipString) (used : UInt64) : Prop :=
  value.length = 0 ∨ (used + 2 + value.length.toUInt64) &&& 1 = 0

instance (value : CipString) (used : UInt64) : Decidable (value.Unpadded used) := inferInstanceAs (Decidable (_ ∨ _))

theorem CipString.empty_of_length {value : CipString} (none_ : value.length = 0) : value.string = [] := by
  have length := value.toNat_length
  rw [none_] at length
  exact List.length_eq_zero_iff.mp length.symm

theorem encodeCipString_eq (value : CipString) (used : UInt64) :
    encodeCipString value used =
      addIntToMessage value.length ++ value.string ++ if value.Unpadded used then [] else addSintToMessage 0 := by
  unfold encodeCipString
  by_cases none_ : value.length = 0
  · have unpadded : value.Unpadded used := .inl none_
    rw [if_neg (not_not_intro none_), if_pos unpadded, CipString.empty_of_length none_]
    rfl
  · rw [if_pos none_, List.append_assoc]
    by_cases even : (used + 2 + value.length.toUInt64) &&& 1 = 0
    · have unpadded : value.Unpadded used := .inr even
      rw [if_neg (not_not_intro even), if_pos unpadded]
    · have padded : ¬ value.Unpadded used := fun either => either.elim none_ even
      rw [if_pos even, if_neg padded]

end Strings

namespace InternalString

def Plain : InternalString → Prop
  | shortString _ | string _ => True
  | _ => False

def plain : InternalString → List CipOctet
  | shortString value => addSintToMessage value.length ++ value.string
  | string value => addIntToMessage value.length ++ value.string
  | _ => []

def size : InternalString → Nat
  | shortString value => 1 + value.string.length
  | string value => 2 + value.string.length
  | string2 value => 2 + value.string.length
  | stringN value => 4 + value.string.length
  | other _ => 0

def Unpadded : InternalString → UInt64 → Prop
  | string value, used => value.Unpadded used
  | _, _ => True

variable {value : InternalString} {used : UInt64}

theorem length_plain (value : InternalString) (plain : value.Plain) : value.plain.length = value.size := by
  cases value with
  | shortString value => exact List.length_append
  | string value => exact List.length_append
  | _ => exact plain.elim

theorem encode_unpadded (plain : value.Plain) (unpadded : value.Unpadded used) : value.encode used = some value.plain := by
  cases value with
  | shortString value => rfl
  | string value =>
      have unpadded : value.Unpadded used := unpadded
      have encoded := encodeCipString_eq value used
      rw [if_pos unpadded, List.append_nil] at encoded
      exact congrArg some encoded
  | _ => exact plain.elim

theorem encode_padded (plain : value.Plain) (padded : ¬ value.Unpadded used) :
    value.encode used = some (value.plain ++ addSintToMessage 0) := by
  cases value with
  | shortString value => exact absurd trivial padded
  | string value =>
      have padded : ¬ value.Unpadded used := padded
      have encoded := encodeCipString_eq value used
      rw [if_neg padded] at encoded
      exact congrArg some encoded
  | _ => exact plain.elim

theorem plain_of_encode {encoded : List CipOctet} (made : value.encode used = some encoded) : value.Plain := by
  cases value with
  | shortString value | string value => trivial
  | _ => cases made

theorem getInternalString_recovers (plain : value.Plain) :
    Recovers (getInternalString value.charStringStruct.toUInt8) value.plain value := by
  cases value with
  | shortString value => exact (getShortString_recovers value).map _
  | string value => exact (getString_recovers value).map _
  | _ => exact plain.elim

theorem getInternalString_takes (charStringStruct : UInt8) : TakesBy size (getInternalString charStringStruct) := by
  intro message
  unfold getInternalString
  split
  next => exact getShortString_takes message
  next =>
    split
    next => exact getString_takes message
    next =>
      split
      next => exact getString2_takes message
      next =>
        split
        next => exact getStringN_takes message
        next => rfl

end InternalString

namespace CipStringIStruct

variable {value : CipStringIStruct} {used : UInt64}

def plain (value : CipStringIStruct) : List CipOctet := cipStringIHeaderEncoding value ++ value.string.plain

def size (value : CipStringIStruct) : Nat := 6 + value.string.size

theorem getStringIStruct_recovers (plain : value.string.Plain) : Recovers getStringIStruct value.plain value := by
  intro behind
  have string := InternalString.getInternalString_recovers plain behind
  have characterSet := getUintFromMessage_add (value.string.plain ++ behind) value.characterSet
  change ((⟨value.languageChar1, value.languageChar2, value.languageChar3,
      (getUintFromMessage.run (addIntToMessage value.characterSet ++ (value.string.plain ++ behind))).1,
      ((getInternalString value.string.charStringStruct.toUInt8).run (value.string.plain ++ behind)).1⟩ :
        CipStringIStruct),
    ((getInternalString value.string.charStringStruct.toUInt8).run (value.string.plain ++ behind)).2) = _
  rw [string, characterSet]

theorem getStringIStruct_takes : TakesBy size getStringIStruct := by
  intro message
  let front := message.tail.tail.tail
  let code := front.headD 0
  let behind := (getUintFromMessage.run front.tail).2
  have rest : behind = message.drop 6 := by
    change (getUintFromMessage.run message.tail.tail.tail.tail).2 = _
    rw [getUintFromMessage_rest, ← List.drop_one, ← List.drop_one, ← List.drop_one, ← List.drop_one]
    simp only [List.drop_drop]
  change ((getInternalString code).run behind).2 =
    message.drop (6 + ((getInternalString code).run behind).1.size)
  rw [InternalString.getInternalString_takes, rest, List.drop_drop]

def Unpadded : List CipStringIStruct → UInt64 → Prop
  | [], _ => True
  | value :: values, used =>
      value.string.Unpadded (used + 6) ∧ Unpadded values (used + UInt64.ofNat value.size)

theorem length_plain (plain : value.string.Plain) : value.plain.length = value.size :=
  List.length_append.trans (congrArg (6 + ·) (InternalString.length_plain value.string plain))

theorem encode_unpadded {values : List CipStringIStruct} (plain : ∀ value ∈ values, value.string.Plain)
    (unpadded : Unpadded values used) : encodeStringIStructs values used = some (values.flatMap CipStringIStruct.plain) := by
  induction values generalizing used with
  | nil => rfl
  | cons value values ih =>
      have first := plain value List.mem_cons_self
      have others := ih (fun other listed => plain other (List.mem_cons_of_mem _ listed)) unpadded.2
      unfold encodeStringIStructs
      rw [InternalString.encode_unpadded first unpadded.1]
      change (encodeStringIStructs values (used + UInt64.ofNat value.plain.length)).bind _ = _
      rw [length_plain first, others]
      rfl

theorem encode_longer {values : List CipStringIStruct} {encoded : List CipOctet}
    (made : encodeStringIStructs values used = some encoded) :
    (∀ value ∈ values, value.string.Plain) ∧ (values.map size).sum ≤ encoded.length ∧
      (encoded.length ≤ (values.map size).sum → Unpadded values used) := by
  induction values generalizing used encoded with
  | nil =>
      cases made
      exact ⟨nofun, Nat.le_refl _, fun _ => trivial⟩
  | cons value values ih =>
      obtain ⟨string, first, made⟩ := Option.bind_eq_some_iff.mp made
      obtain ⟨behind, others, same⟩ := Option.bind_eq_some_iff.mp made
      cases same
      have plain := InternalString.plain_of_encode first
      obtain ⟨plains, longer, exact_⟩ := ih others
      have all : ∀ other ∈ value :: values, other.string.Plain := fun other listed =>
        (List.mem_cons.mp listed).elim (fun same => same ▸ plain) (plains other)
      rw [List.map_cons, List.sum_cons, List.length_append]
      by_cases unpadded : value.string.Unpadded (used + 6)
      · rw [InternalString.encode_unpadded plain unpadded] at first
        cases first
        have length : (cipStringIHeaderEncoding value ++ value.string.plain).length = value.size := length_plain plain
        rw [length]
        refine ⟨all, by omega, fun short => ⟨unpadded, ?_⟩⟩
        rw [length] at exact_
        exact exact_ (by omega)
      · rw [InternalString.encode_padded plain unpadded] at first
        cases first
        have length : (cipStringIHeaderEncoding value ++ (value.string.plain ++ addSintToMessage 0)).length =
            value.size + 1 := by
          rw [← List.append_assoc, List.length_append]
          exact congrArg (· + 1) (length_plain plain)
        rw [length]
        exact ⟨all, by omega, fun short => absurd short (by omega)⟩

end CipStringIStruct

namespace CipStringI

variable {value : CipStringI}

theorem decode_takes : TakesBy (fun value : CipStringI => 1 + (value.arrayOfStringIStructs.map CipStringIStruct.size).sum)
    cipStringIDecodeFromMessage := by
  intro message
  have values := TakesBy.times CipStringIStruct.getStringIStruct_takes (message.headD 0).toNat message.tail
  change ((readTimes getStringIStruct (message.headD 0).toNat).run message.tail).2 = message.drop (1 +
    ((((readTimes getStringIStruct (message.headD 0).toNat).run message.tail).1).map CipStringIStruct.size).sum)
  rw [values, ← List.drop_one, List.drop_drop]

theorem eq_of_structs {other : CipStringI} (same : value.arrayOfStringIStructs = other.arrayOfStringIStructs) :
    value = other := by
  cases value
  cases other
  cases same
  rfl

theorem decode_recovers (plain : ∀ entry ∈ value.arrayOfStringIStructs, entry.string.Plain) :
    Recovers cipStringIDecodeFromMessage
      (addSintToMessage value.numberOfStrings ++ value.arrayOfStringIStructs.flatMap CipStringIStruct.plain) value := by
  intro behind
  have count : value.numberOfStrings.toNat = value.arrayOfStringIStructs.length := UInt8.toNat_ofNat_of_lt' value.fits
  have values : (readTimes getStringIStruct value.numberOfStrings.toNat).run
      (value.arrayOfStringIStructs.flatMap CipStringIStruct.plain ++ behind) = (value.arrayOfStringIStructs, behind) := by
    rw [count]
    exact Recovers.times value.arrayOfStringIStructs
      (fun entry listed => CipStringIStruct.getStringIStruct_recovers (plain entry listed)) behind
  have entries := congrArg Prod.fst values
  have left := congrArg Prod.snd values
  exact Prod.ext (eq_of_structs entries) left

theorem compare_self : cipStringICompare value value = true ↔
    ∃ entry ∈ value.arrayOfStringIStructs, entry.string.characters ≠ [] := by
  unfold cipStringICompare
  rw [List.any_eq_true]
  refine exists_congr fun one => and_congr_right fun listed => ?_
  rw [List.any_eq_true]
  constructor
  · rintro ⟨other, -, same⟩
    simp only [Bool.and_eq_true, Bool.not_eq_true', List.isEmpty_eq_false_iff] at same
    exact same.1.1.2
  · intro some_
    refine ⟨one, listed, ?_⟩
    simp only [beq_self_eq_true, Bool.true_and, Bool.and_true, Bool.and_self, Bool.not_eq_true',
      List.isEmpty_eq_false_iff]
    exact some_

/-- What has been encoded is decoded to an equal value, and just the encoding is taken. -/
def RoundTrips (value : CipStringI) (used : UInt64) (behind : List CipOctet) : Prop :=
  ∃ encoded, encodeCipStringI value used = some encoded ∧
    cipStringIDecodeFromMessage.run (encoded ++ behind) = (value, behind) ∧
    cipStringICompare (cipStringIDecodeFromMessage.run (encoded ++ behind)).1 value = true

/-- All strings have to be of the types that are encoded, one of them has to have characters, and none may end in an odd
place of the message. -/
theorem roundTrips_iff (value : CipStringI) (used : UInt64) (behind : List CipOctet) : RoundTrips value used behind ↔
    (∀ entry ∈ value.arrayOfStringIStructs, entry.string.Plain) ∧
      (∃ entry ∈ value.arrayOfStringIStructs, entry.string.characters ≠ []) ∧
      CipStringIStruct.Unpadded value.arrayOfStringIStructs (used + 1) := by
  constructor
  · rintro ⟨encoded, made, recovered, compared⟩
    obtain ⟨structs, encodes, same⟩ := Option.map_eq_some_iff.mp made
    obtain ⟨plain, longer, exact_⟩ := CipStringIStruct.encode_longer encodes
    rw [recovered] at compared
    refine ⟨plain, compare_self.mp compared, exact_ ?_⟩
    have taken := decode_takes (encoded ++ behind)
    rw [recovered] at taken
    have length := congrArg List.length taken
    rw [List.length_drop, List.length_append, ← same, List.length_append] at length
    change behind.length = 1 + structs.length + behind.length -
      (1 + (value.arrayOfStringIStructs.map CipStringIStruct.size).sum) at length
    omega
  · rintro ⟨plain, some_, unpadded⟩
    have recovered := decode_recovers plain behind
    refine ⟨_, congrArg (Option.map _) (CipStringIStruct.encode_unpadded plain unpadded), recovered, ?_⟩
    rw [recovered]
    exact compare_self.mpr some_

def short : CipStringI := ⟨[⟨101, 110, 103, 4, .string ⟨[65, 66], by decide⟩⟩], by decide⟩

/-- At the start of a message it gets a pad octet. -/
theorem short_not_roundTrips : ¬ short.RoundTrips 0 [] := by
  rintro ⟨encoded, made, recovered, -⟩
  cases made
  exact absurd (congrArg Prod.snd recovered) (by decide)

end CipStringI

section InTurn

def encodeStrings : List CipString → UInt64 → List CipOctet
  | [], _ => []
  | value :: values, used =>
      let encoded := encodeCipString value used
      encoded ++ encodeStrings values (used + UInt64.ofNat encoded.length)

/-- One call after the other returns the string that has been encoded, and moves and counts just the octets of its
encoding. -/
def DecodesInTurn : List (CipPointer .string × CipString) → UInt64 → Decoding → Prop
  | [], _, _ => True
  | (data, value) :: others, used, decoding =>
      let size := (encodeCipString value used).length
      let (numberOfDecodedBytes, after) := decodeCipString data decoding
      after.device.memory.read data = value ∧ after.request.position = decoding.request.position + size ∧
        numberOfDecodedBytes = size ∧ DecodesInTurn others (used + UInt64.ofNat size) after

variable {value : CipString} {used : UInt64} {decoding : Decoding} {behind : List CipOctet}

theorem unpadded_iff : value.Unpadded used ↔ value.length = 0 ∨ (used.toNat + value.string.length) % 2 = 0 := by
  have parity : (used + 2 + value.length.toUInt64) &&& 1 = 0 ↔ (used.toNat + value.string.length) % 2 = 0 := by
    have bound := used.toNat_lt
    rw [← UInt64.toNat_inj, UInt64.toNat_and, UInt64.toNat_add, UInt64.toNat_add, UInt16.toNat_toUInt64, value.toNat_length]
    change _ &&& 1 = 0 ↔ _
    rw [Nat.and_one_is_mod]
    change ((used.toNat + 2) % 2 ^ 64 + _) % 2 ^ 64 % 2 = 0 ↔ _
    omega
  exact or_congr_right parity

theorem length_encodeCipString : (encodeCipString value used).length =
    2 + value.string.length + if value.Unpadded used then 0 else 1 := by
  rw [encodeCipString_eq, List.length_append, List.length_append]
  split <;> rfl

theorem length_encodeCipString_eq_iff : (encodeCipString value used).length = value.paddedSize ↔
    value.length = 0 ∨ used.toNat % 2 = 0 := by
  have empty : value.length = 0 → value.string.length = 0 := fun none_ =>
    congrArg List.length (CipString.empty_of_length none_)
  rw [length_encodeCipString, CipString.paddedSize, if_congr unpadded_iff rfl rfl]
  by_cases none_ : value.length = 0
  · rw [if_pos (.inl none_), empty none_]
    exact iff_of_true rfl (.inl none_)
  · rw [if_congr (or_iff_right none_) rfl rfl, or_iff_right none_]
    split <;> omega

theorem announced_encode :
    (getUintFromMessage.run (octets 2 (encodeCipString value used ++ behind))).1 = value.length := by
  have front : octets 2 (addIntToMessage value.length) = addIntToMessage value.length := octets_of_length _
  rw [encodeCipString_eq, List.append_assoc, List.append_assoc,
    octets_append (show 2 ≤ (addIntToMessage value.length).length from Nat.le_refl 2), front,
    ← List.append_nil (addIntToMessage _), getUintFromMessage_add]

theorem CipString.eq_of_string {first second : CipString} (same : first.string = second.string) : first = second := by
  cases first
  cases second
  cases same
  rfl

theorem cipStringAt_encode : cipStringAt (encodeCipString value used ++ behind) = value := by
  have characters : octets value.length.toNat ((encodeCipString value used ++ behind).drop 2) = value.string := by
    rw [encodeCipString_eq, List.append_assoc, List.append_assoc]
    change octets _ (value.string ++ _) = _
    rw [value.toNat_length, octets_append (Nat.le_refl _), octets_of_length]
  rw [← @announced_encode value used behind] at characters
  exact CipString.eq_of_string characters

theorem decodeCipString_encoded (environment : ServiceEnvironment) (request : CipMessageRouterRequest)
    (finds : decoding.request.Finds (encodeCipString value used ++ behind))
    (data : CipPointer .string) :
    decodeCipString data decoding = ((value.paddedSize : Int),
      ⟨{ decoding.device with memory := decoding.device.memory.write data value },
        (decoding.request.look (2 + value.string.length)).skip value.paddedSize, kCipErrorSuccess⟩) := by
  refine Prod.ext ?_ ?_
  · unfold decodeCipString
    rw [finds.get]
    dsimp only
    rw [announced_encode, value.toNat_length]
    unfold CipString.paddedSize
    split
    · dsimp only
      omega
    · dsimp only
      omega
  · have ended := @decodeCipString_ends environment request decoding _ finds data
    rw [cipStringAt_encode] at ended
    exact Option.some.inj ended

theorem decodesInTurn_of_finds (environment : ServiceEnvironment) (request : CipMessageRouterRequest)
    {strings : List (CipPointer .string × CipString)}
    (finds : decoding.request.Finds (encodeStrings (strings.map Prod.snd) used ++ behind)) :
    DecodesInTurn strings used decoding ↔ used.toNat % 2 = 0 ∨ ∀ string ∈ strings, string.2.length = 0 := by
  induction strings generalizing used decoding with
  | nil => exact iff_of_true trivial (.inr nofun)
  | cons string strings ih =>
      obtain ⟨data, value⟩ := string
      rw [List.map_cons, encodeStrings, List.append_assoc] at finds
      unfold DecodesInTurn
      rw [decodeCipString_encoded environment request finds]
      dsimp only
      have written : CipMemory.read (decoding.device.memory.write data value) data = value :=
        CipMemory.read_write_self ..
      have moved : (RequestData.skip (decoding.request.look (2 + value.string.length)) value.paddedSize).position =
          decoding.request.position + value.paddedSize :=
        congrArg (· + (value.paddedSize : Int)) (RequestData.look_position ..)
      have even : value.paddedSize % 2 = 0 := by
        unfold CipString.paddedSize
        omega
      rw [written, moved, List.forall_mem_cons]
      by_cases fits : (encodeCipString value used).length = value.paddedSize
      · have behind' := (finds.look (2 + value.string.length)).skip value.paddedSize
        have next : (used + UInt64.ofNat (encodeCipString value used).length).toNat % 2 = used.toNat % 2 := by
          rw [UInt64.toNat_add, UInt64.toNat_ofNat', fits]
          omega
        rw [← fits, List.drop_left] at behind'
        rw [← fits]
        refine (and_iff_right rfl).trans ((and_iff_right rfl).trans ((and_iff_right rfl).trans ((ih behind').trans ?_)))
        rw [next]
        rcases length_encodeCipString_eq_iff.mp fits with none_ | place
        · exact or_congr_right (and_iff_right none_).symm
        · exact iff_of_true (.inl place) (.inl place)
      · have odd := fun either => fits (length_encodeCipString_eq_iff.mpr either)
        refine iff_of_false (fun turn => fits ?_) fun either => ?_
        · have place := turn.2.1
          omega
        · exact odd (either.elim .inr fun all => .inl all.1)

/-- Strings that are encoded one after the other are decoded one after the other if they start in an even place, or are
all empty. -/
theorem decodesInTurn_iff (environment : ServiceEnvironment) (request : CipMessageRouterRequest) (device : CipDevice)
    (generalStatus : UInt8) (strings : List (CipPointer .string × CipString)) (used : UInt64) (behind : List CipOctet) :
    DecodesInTurn strings used ⟨device, .ofRequest environment
        { request with data := encodeStrings (strings.map Prod.snd) used ++ behind }, generalStatus⟩ ↔
      used.toNat % 2 = 0 ∨ ∀ string ∈ strings, string.2.length = 0 :=
  decodesInTurn_of_finds environment request ofRequest_finds

/-- The host name of one character, in an odd place of the message. -/
theorem odd_not_in_turn :
    ¬ DecodesInTurn [(⟨.tcpipHostname⟩, ⟨[65], by decide⟩)] 1 ⟨clearedDevice, .ofRequest quietEnvironment
      (setRequest 0xF5 1 6 (encodeStrings [⟨[65], by decide⟩] 1)), kCipErrorSuccess⟩ := by
  intro turn
  have place := turn.2.1
  exact absurd place (by decide)

end InTurn

end EtherNetIP
