import EtherNetIP.Cip.AttributeDecoders

/-! Values and the octets they are decoded from.

Read from its octets a value is encoded by them if there are as many as it takes.
Numbers of eight octets are an exception: they are read with the most
significant octet in front but written with the least significant one.
-/

set_option autoImplicit false

namespace EtherNetIP

section Octets

variable {first size : Nat}

theorem octets_split (within : first ≤ size) (data : List CipOctet) :
    octets size data = octets first data ++ octets (size - first) (data.drop first) := by
  rw [← octets_add, Nat.add_sub_cancel' within]

theorem take_octets (within : first ≤ size) (data : List CipOctet) : (octets size data).take first = octets first data := by
  rw [octets_split within, List.take_left' (octets_length ..)]

theorem drop_octets (within : first ≤ size) (data : List CipOctet) :
    (octets size data).drop first = octets (size - first) (data.drop first) := by
  rw [octets_split within, List.drop_left' (octets_length ..)]

theorem octets_drop_mono {data other : List CipOctet} (within : first ≤ size)
    (same : octets size other = octets size data) :
    octets (size - first) (other.drop first) = octets (size - first) (data.drop first) := by
  rw [← drop_octets within, same, drop_octets within]

end Octets

section Values

def cipStringAt (data : List CipOctet) : CipString :=
  ⟨octets (getUintFromMessage.run (octets 2 data)).1.toNat (data.drop 2), by
    rw [octets_length]
    exact UInt16.toNat_lt _⟩

def cipShortStringAt (data : List CipOctet) : CipShortString :=
  ⟨octets (getUsintFromMessage.run (octets 1 data)).1.toNat (data.drop 1), by
    rw [octets_length]
    exact UInt8.toNat_lt _⟩

def udintAt (data : List CipOctet) : UInt32 := (getUdintFromMessage.run (octets 4 data)).1

def DataKind.decode : (kind : DataKind) → List CipOctet → kind.Value
  | .octet, data => (getUsintFromMessage.run (octets 1 data)).1
  | .word, data => (getUintFromMessage.run (octets 2 data)).1
  | .dword, data => udintAt data
  | .lword, data => (getLintFromMessage.run (octets 8 data)).1
  | .revision, data => ⟨octetAt data 0, octetAt data 1⟩
  | .byteArray length, data => ⟨octets length.toNat data, octets_length ..⟩
  | .string, data => cipStringAt data
  | .shortString, data => cipShortStringAt data
  | .interfaceConfiguration, data =>
      ⟨htonl (udintAt data), htonl (udintAt (data.drop 4)), htonl (udintAt (data.drop 8)),
        htonl (udintAt (data.drop 12)), htonl (udintAt (data.drop 16)), cipStringAt (data.drop 20)⟩
  | .interfaceControl, data =>
      ⟨(getWordFromMessage.run (octets 2 data)).1, (getUintFromMessage.run (octets 2 (data.drop 2))).1⟩

def CipString.paddedSize (string : CipString) : Nat := 2 + string.string.length + string.string.length % 2

def DataKind.encodedSize : (kind : DataKind) → kind.Value → Nat
  | .octet, _ => 1
  | .word, _ => 2
  | .dword, _ => 4
  | .lword, _ => 8
  | .revision, _ => 2
  | .byteArray length, _ => length.toNat
  | .string, value => value.paddedSize
  | .shortString, value => 1 + value.string.length
  | .interfaceConfiguration, value => 20 + value.domainName.paddedSize
  | .interfaceControl, _ => 4

/-- A number of eight octets is the same from both ends. -/
def DataKind.OrderKept : DataKind → List CipOctet → Prop
  | .lword, data => (octets 8 data).reverse = octets 8 data
  | _, _ => True

end Values

section Encoding

theorem encode_uint (data : List CipOctet) :
    addIntToMessage (getUintFromMessage.run (octets 2 data)).1 = octets 2 data := by
  rw [addIntToMessage_read, octets_octets]

theorem encode_udint (data : List CipOctet) : addDintToMessage (udintAt data) = octets 4 data := by
  rw [udintAt, addDintToMessage_read, octets_octets]

theorem encode_lint (data : List CipOctet) :
    addLintToMessage (getLintFromMessage.run (octets 8 data)).1 = (octets 8 data).reverse := by
  exact addLintToMessage_lintOfOctets ..

theorem cipStringAt_length (data : List CipOctet) :
    (cipStringAt data).length = (getUintFromMessage.run (octets 2 data)).1 := by
  apply UInt16.toNat_inj.mp
  rw [CipString.toNat_length]
  exact octets_length ..

theorem cipStringAt_paddedBy_iff (data : List CipOctet) (size : Nat) :
    (cipStringAt data).PaddedBy (octets size data) ↔ size = (cipStringAt data).paddedSize := by
  rw [CipString.PaddedBy, octets_length]
  refine ⟨And.left, fun exact_ => ⟨exact_, ?_⟩⟩
  have within : 2 + (cipStringAt data).string.length ≤ size := by
    rw [exact_, CipString.paddedSize]
    omega
  rw [take_octets within, octets_add, cipStringAt_length, encode_uint]
  exact congrArg (octets 2 data ++ octets · (data.drop 2)) (octets_length ..)

theorem octets_eq_iff {count size : Nat} {data own : List CipOctet} (encoded : own = octets count data) :
    octets size data = own ↔ size = count ∧ True := by
  rw [and_true]
  constructor
  · intro same
    have lengths := congrArg List.length same
    rwa [encoded, octets_length, octets_length] at lengths
  · intro same
    rw [same, encoded]

theorem octets_eq_reverse_iff {size : Nat} {data own : List CipOctet} (encoded : own = (octets 8 data).reverse) :
    octets size data = own ↔ size = 8 ∧ (octets 8 data).reverse = octets 8 data := by
  subst encoded
  constructor
  · intro same
    have lengths := congrArg List.length same
    rw [List.length_reverse, octets_length, octets_length] at lengths
    rw [lengths] at same
    exact ⟨lengths, same.symm⟩
  · rintro ⟨rfl, same⟩
    exact same.symm

theorem encode_shortString (data : List CipOctet) :
    addSintToMessage (cipShortStringAt data).length ++ (cipShortStringAt data).string =
      octets (1 + (cipShortStringAt data).string.length) data := by
  have length : (cipShortStringAt data).length = (getUsintFromMessage.run (octets 1 data)).1 := by
    apply UInt8.toNat_inj.mp
    rw [CipShortString.length, UInt8.toNat_ofNat_of_lt' (cipShortStringAt data).fits]
    exact octets_length ..
  rw [octets_add, length]
  exact congrArg (octets 1 data ++ octets · (data.drop 1)) (octets_length ..).symm

theorem encode_addresses (data : List CipOctet) :
    addDintToMessage (ntohl (htonl (udintAt data))) ++ addDintToMessage (ntohl (htonl (udintAt (data.drop 4)))) ++
        addDintToMessage (ntohl (htonl (udintAt (data.drop 8)))) ++
        addDintToMessage (ntohl (htonl (udintAt (data.drop 12)))) ++
        addDintToMessage (ntohl (htonl (udintAt (data.drop 16)))) = octets 20 data := by
  rw [ntohl_htonl, ntohl_htonl, ntohl_htonl, ntohl_htonl, ntohl_htonl, encode_udint, encode_udint, encode_udint,
    encode_udint, encode_udint, ← octets_add, ← octets_add, ← octets_add, ← octets_add]

theorem encodes_interfaceConfiguration_iff {size : Nat} {data own : List CipOctet} (encoded : own = octets 20 data) :
    (octets size data).take 20 = own ∧ (cipStringAt (data.drop 20)).PaddedBy ((octets size data).drop 20) ↔
      size = 20 + (cipStringAt (data.drop 20)).paddedSize ∧ True := by
  rw [and_true]
  subst encoded
  constructor
  · rintro ⟨front, domain⟩
    have enough : 20 ≤ size := by
      have lengths := congrArg List.length front
      rw [List.length_take, octets_length, octets_length] at lengths
      omega
    rw [drop_octets enough, cipStringAt_paddedBy_iff] at domain
    omega
  · intro exact_
    have enough : 20 ≤ size := by omega
    rw [take_octets enough, drop_octets enough, cipStringAt_paddedBy_iff]
    exact ⟨rfl, by omega⟩

theorem encodes_decode_iff (kind : DataKind) (data : List CipOctet) (size : Nat) :
    kind.Encodes (kind.decode data) (octets size data) ↔
      size = kind.encodedSize (kind.decode data) ∧ kind.OrderKept data := by
  cases kind with
  | octet => exact @octets_eq_iff 1 size data _ rfl
  | word => exact octets_eq_iff (encode_uint data)
  | dword => exact octets_eq_iff (encode_udint data)
  | lword => exact octets_eq_reverse_iff (encode_lint data)
  | revision => exact @octets_eq_iff 2 size data _ rfl
  | byteArray length => exact octets_eq_iff rfl
  | string => exact (cipStringAt_paddedBy_iff data size).trans (iff_of_eq (and_true _).symm)
  | shortString => exact octets_eq_iff (encode_shortString data)
  | interfaceConfiguration => exact encodes_interfaceConfiguration_iff (encode_addresses data)
  | interfaceControl =>
      have encoded : addIntToMessage (getWordFromMessage.run (octets 2 data)).1 ++
          addIntToMessage (getUintFromMessage.run (octets 2 (data.drop 2))).1 = octets 4 data := by
        rw [getWordFromMessage, encode_uint, encode_uint, ← octets_add]
      exact octets_eq_iff encoded

theorem cipStringAt_congr {size : Nat} {data other : List CipOctet} (enough : (cipStringAt data).paddedSize ≤ size)
    (same : octets size other = octets size data) : cipStringAt other = cipStringAt data := by
  have front : octets 2 other = octets 2 data :=
    octets_mono (Nat.le_trans (by rw [CipString.paddedSize]; omega) enough) same
  have length : (cipStringAt data).string.length = (getUintFromMessage.run (octets 2 data)).1.toNat := octets_length ..
  have behind : octets (getUintFromMessage.run (octets 2 data)).1.toNat (other.drop 2) =
      octets (getUintFromMessage.run (octets 2 data)).1.toNat (data.drop 2) := by
    rw [CipString.paddedSize, length] at enough
    exact octets_mono (by omega) (octets_drop_mono (by omega) same)
  simp only [cipStringAt, front, behind]

theorem cipShortStringAt_congr {data other : List CipOctet}
    (same : octets (1 + (cipShortStringAt data).string.length) other =
      octets (1 + (cipShortStringAt data).string.length) data) :
    cipShortStringAt other = cipShortStringAt data := by
  have length : (cipShortStringAt data).string.length = (getUsintFromMessage.run (octets 1 data)).1.toNat :=
    octets_length ..
  rw [length] at same
  have front : octets 1 other = octets 1 data := octets_mono (by omega) same
  have behind := octets_drop_mono (Nat.le_add_right 1 _) same
  rw [Nat.add_sub_cancel_left] at behind
  simp only [cipShortStringAt, front, behind]

theorem decode_congr (kind : DataKind) {data other : List CipOctet}
    (same : octets (kind.encodedSize (kind.decode data)) other = octets (kind.encodedSize (kind.decode data)) data) :
    kind.decode other = kind.decode data := by
  cases kind with
  | octet => exact congrArg (fun own => (getUsintFromMessage.run own).1) same
  | word => exact congrArg (fun own => (getUintFromMessage.run own).1) same
  | dword => exact congrArg (fun own => (getUdintFromMessage.run own).1) same
  | lword => exact congrArg (fun own => (getLintFromMessage.run own).1) same
  | revision =>
      have first := octetAt_octets (by decide : 0 < 2) same
      have second := octetAt_octets (by decide : 1 < 2) same
      simp only [DataKind.decode, first, second]
  | byteArray length => exact Subtype.ext same
  | string => exact cipStringAt_congr (Nat.le_refl _) same
  | shortString => exact cipShortStringAt_congr same
  | interfaceConfiguration =>
      change octets (20 + (cipStringAt (data.drop 20)).paddedSize) other =
        octets (20 + (cipStringAt (data.drop 20)).paddedSize) data at same
      have domain := octets_drop_mono (Nat.le_add_right 20 _) same
      rw [Nat.add_sub_cancel_left] at domain
      have address (position : Nat) (within : position + 4 ≤ 20) :
          octets 4 (other.drop position) = octets 4 (data.drop position) :=
        octets_mono (by omega : 4 ≤ 20 + (cipStringAt (data.drop 20)).paddedSize - position)
          (octets_drop_mono (by omega) same)
      have first := address 0 (by decide)
      rw [List.drop_zero, List.drop_zero] at first
      simp only [DataKind.decode, udintAt, first, address 4 (by decide), address 8 (by decide), address 12 (by decide),
        address 16 (by decide), cipStringAt_congr (Nat.le_refl _) domain]
  | interfaceControl =>
      have first : octets 2 other = octets 2 data := octets_mono (by decide : 2 ≤ 4) same
      have second : octets 2 (other.drop 2) = octets 2 (data.drop 2) := octets_drop_mono (by decide : 2 ≤ 4) same
      simp only [DataKind.decode, first, second]

end Encoding

end EtherNetIP
