import EtherNetIP.Cip.ConnectionData
import EtherNetIP.Cip.PathReach
import EtherNetIP.Encap.PacketAcceptance

/-! What the readers of a request make of the octets there are.

Where there are as many octets as a reader takes, those behind them have no part
in what it reads. Where there are fewer, the octets there are stand in front of
the encoding of whatever is read.
-/

set_option autoImplicit false

namespace EtherNetIP

open Library CipConnectionObject

section Octets

variable {own behind : List CipOctet}

def octets (count : Nat) (data : List CipOctet) : List CipOctet := (List.range count).map (octetAt data)

theorem octetAt_drop (data : List CipOctet) (first position : Nat) :
    octetAt (data.drop first) position = octetAt data (first + position) := by
  unfold octetAt
  rw [List.getD_eq_getElem?_getD, List.getD_eq_getElem?_getD, List.getElem?_drop]

theorem octets_add (first second : Nat) (data : List CipOctet) :
    octets (first + second) data = octets first data ++ octets second (data.drop first) := by
  unfold octets
  rw [List.range_add, List.map_append, List.map_map]
  refine congrArg (_ ++ ·) (List.map_congr_left fun position _ => ?_)
  exact (octetAt_drop data first position).symm

theorem prefix_octets {count : Nat} (short : own.length ≤ count) (behind : List CipOctet) :
    own <+: octets count (own ++ behind) := by
  have same : own = octets own.length (own ++ behind) := by
    unfold octets
    refine List.ext_getElem (by rw [List.length_map, List.length_range]) fun position inside _ => ?_
    rw [List.getElem_map, List.getElem_range, octetAt_append inside, octetAt, List.getD_eq_getElem?_getD, List.getElem?_eq_getElem inside,
      Option.getD_some]
  obtain ⟨more, rfl⟩ := Nat.exists_eq_add_of_le short
  rw [octets_add, ← same]
  exact List.prefix_append _ _

theorem octets_of_length (data : List CipOctet) : octets data.length data = data := by
  have whole := prefix_octets (Nat.le_refl data.length) []
  rw [List.append_nil] at whole
  exact (whole.eq_of_length (by rw [octets, List.length_map, List.length_range])).symm

theorem octets_append {count : Nat} (enough : count ≤ own.length) (behind : List CipOctet) :
    octets count (own ++ behind) = octets count own := by
  refine List.map_congr_left fun position inside => octetAt_append ?_
  have bound := List.mem_range.mp inside
  omega

/-- The octets there are, filled up to the position of the last one. -/
def completion (own : List CipOctet) (position : Nat) (last : CipOctet) : List CipOctet := octets position own ++ [last]

theorem take_completion {position : Nat} (short : own.length ≤ position) (last : CipOctet) :
    (completion own position last).take own.length = own := by
  have front := (prefix_octets short []).trans (List.prefix_append _ [last])
  rw [List.append_nil] at front
  exact (List.prefix_iff_eq_take.mp front).symm

theorem octetAt_completion (own : List CipOctet) (position : Nat) (last : CipOctet) :
    octetAt (completion own position last) position = last := by
  have length : (octets position own).length = position := by rw [octets, List.length_map, List.length_range]
  unfold octetAt completion
  rw [List.getD_eq_getElem?_getD, List.getElem?_append_right length.le, length, Nat.sub_self]
  rfl

theorem octetAt_octets {count position : Nat} {data other : List CipOctet} (inside : position < count)
    (same : octets count data = octets count other) : octetAt data position = octetAt other position := by
  have every := List.map_inj_left.mp same
  exact every position (List.mem_range.mpr inside)

theorem octetAt_short {own : List CipOctet} {position : Nat} (short : own.length ≤ position) : octetAt own position = 0 := by
  unfold octetAt
  rw [List.getD_eq_getElem?_getD, List.getElem?_eq_none short]
  rfl

theorem octets_length (count : Nat) (data : List CipOctet) : (octets count data).length = count := by
  rw [octets, List.length_map, List.length_range]

theorem octets_octets (count : Nat) (data : List CipOctet) : octets count (octets count data) = octets count data := by
  have whole := octets_of_length (octets count data)
  rwa [octets_length] at whole

theorem octets_congr {count : Nat} {data other : List CipOctet}
    (same : ∀ position < count, octetAt data position = octetAt other position) :
    octets count data = octets count other :=
  List.map_congr_left fun position inside => same position (List.mem_range.mp inside)

theorem octets_mono {less count : Nat} {data other : List CipOctet} (fewer : less ≤ count) (same : octets count data = octets count other) :
    octets less data = octets less other :=
  octets_congr fun _ inside => octetAt_octets (Nat.lt_of_lt_of_le inside fewer) same

theorem addIntToMessage_injective {number other : UInt16} (same : addIntToMessage number = addIntToMessage other) :
    number = other := by
  have read := getUintFromMessage_add [] number
  rw [same, getUintFromMessage_add [] other] at read
  exact (congrArg Prod.fst read).symm

theorem readConnectionTriad_add (triad : ConnectionTriad) :
    readConnectionTriad.run (addConnectionTriad triad) = (triad, []) := by
  unfold readConnectionTriad addConnectionTriad
  rw [List.append_assoc, run_bind_of_run (getUintFromMessage_add _ _), run_bind_of_run (getUintFromMessage_add _ _),
    ← List.append_nil (addDintToMessage _), run_bind_of_run (getUdintFromMessage_add _ _)]
  rfl

theorem addConnectionTriad_injective {triad other : ConnectionTriad}
    (same : addConnectionTriad triad = addConnectionTriad other) : triad = other := by
  have read := readConnectionTriad_add triad
  rw [same, readConnectionTriad_add other] at read
  exact (congrArg Prod.fst read).symm

theorem addIntToMessage_read (data : List CipOctet) :
    addIntToMessage (getUintFromMessage.run data).1 = octets 2 data := by
  obtain _ | ⟨low, _ | ⟨high, rest⟩⟩ := data
  · rfl
  · exact splitOctets16 low 0
  · exact splitOctets16 low high

theorem getUintFromMessage_rest (data : List CipOctet) : (getUintFromMessage.run data).2 = data.drop 2 := by
  change data.tail.tail = _
  rw [← List.drop_one, ← List.drop_one, List.drop_drop]

theorem addDintToMessage_read (data : List CipOctet) :
    addDintToMessage (getUdintFromMessage.run data).1 = octets 4 data := by
  obtain _ | ⟨first, _ | ⟨second, _ | ⟨third, _ | ⟨fourth, rest⟩⟩⟩⟩ := data
  · rfl
  · exact splitOctets32 first 0 0 0
  · exact splitOctets32 first second 0 0
  · exact splitOctets32 first second third 0
  · exact splitOctets32 first second third fourth

theorem addConnectionTriad_read (data : List CipOctet) :
    addConnectionTriad (readConnectionTriad.run data).1 = octets 8 data := by
  have triad : (readConnectionTriad.run data).1 =
      ⟨(getUintFromMessage.run data).1, (getUintFromMessage.run (getUintFromMessage.run data).2).1,
        (getUdintFromMessage.run (getUintFromMessage.run (getUintFromMessage.run data).2).2).1⟩ := rfl
  rw [triad]
  unfold addConnectionTriad
  dsimp only
  rw [addIntToMessage_read, addIntToMessage_read, addDintToMessage_read, getUintFromMessage_rest,
    getUintFromMessage_rest, List.drop_drop, ← octets_add, ← octets_add]

theorem readForwardCloseHeader_read (data : List CipOctet) :
    addConnectionTriad (Stack.readForwardCloseHeader.run data).1 = octets 8 (data.drop 2) :=
  addConnectionTriad_read (data.drop 2)

theorem readNetworkConnectionParameters_takes (isLfo : Bool) :
    Takes (if isLfo then 4 else 2) (readNetworkConnectionParameters isLfo) := by
  cases isLfo with
  | true => exact getUdintFromMessage_takes
  | false => exact getUintFromMessage_takes.bind fun _ => .pure _

def headerOctets (isLfo : Bool) : Nat := if isLfo then 39 else 35

theorem readForwardOpenHeader_takes (isLfo : Bool) : Takes (headerOctets isLfo) (readForwardOpenHeader isLfo) := by
  have octet := getByteFromMessage_takes
  have parameters := readNetworkConnectionParameters_takes isLfo
  have takes : Takes (1 + (1 + (4 + (4 + (2 + (2 + (4 + (1 + (3 + (4 + ((if isLfo then 4 else 2) +
      (4 + ((if isLfo then 4 else 2) + (1 + 0)))))))))))))) (readForwardOpenHeader isLfo) :=
    octet.bind fun _ => octet.bind fun _ => getUdintFromMessage_takes.bind fun _ =>
      getUdintFromMessage_takes.bind fun _ => getUintFromMessage_takes.bind fun _ =>
        getUintFromMessage_takes.bind fun _ => getUdintFromMessage_takes.bind fun _ => octet.bind fun _ =>
          (skipOctets_takes 3).bind fun _ => getUdintFromMessage_takes.bind fun _ => parameters.bind fun _ =>
            getUdintFromMessage_takes.bind fun _ => parameters.bind fun _ => octet.bind fun _ => .pure _
  cases isLfo with
  | true => exact takes
  | false => exact takes

theorem readForwardCloseHeader_takes : Takes 10 Stack.readForwardCloseHeader :=
  (skipOctets_takes 2).bind fun _ => getUintFromMessage_takes.bind fun _ => getUintFromMessage_takes.bind fun _ =>
    getUdintFromMessage_takes.bind fun _ => .pure _

end Octets

end EtherNetIP
