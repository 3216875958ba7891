import EtherNetIP.Modbus.Responses
import EtherNetIP.Modbus.RequestRoundTrip

/-! The records of ReadFileRecordResponse.

writeData lays the records out one behind the other. getMessage stores each two
octets too early from the second on, so the array ends in octets of zero where
the last record should, and no array with two records reads back as them.
-/

set_option autoImplicit false

namespace EtherNetIP.Modbus

open EtherNetIP.Library

variable {record last : RecordResponse} {records : List RecordResponse} {rest left octets : List UInt8}

namespace RecordResponse

@[simp] theorem length_getResponse (record : RecordResponse) :
    record.getResponse.length = 2 + 2 * record.data.length := by
  unfold getResponse
  rw [List.length_cons, List.length_cons, length_flatMap_toBytes]
  omega

def octetsOf (records : List RecordResponse) : List UInt8 := records.flatMap getResponse

theorem length_octetsOf_cons : (octetsOf (record :: records)).length =
    2 + 2 * record.data.length + (octetsOf records).length := by
  unfold octetsOf
  rw [List.flatMap_cons, List.length_append, length_getResponse]

theorem decodes_read {remainder : Int} (size : 1 + record.data.length * 2 < (256 : Int))
    (enough : 2 + record.data.length * 2 ≤ remainder) :
    Decodes (read remainder) record.getResponse record := by
  have announced : FitsOctet (1 + record.data.length * 2) := by
    unfold FitsOctet
    omega
  have six : Decodes readByte [6] 6 := fun _ => rfl
  have count : ((1 + record.data.length * 2 - 1 : Int).tdiv 2).toNat = record.data.length := by
    have even : (1 + record.data.length * 2 - 1 : Int) = record.data.length * 2 := by omega
    rw [even, Int.mul_tdiv_cancel _ (by decide), Int.toNat_natCast]
  refine (decodes_unsignedByte announced).bind (six.bind ?_)
  rw [if_neg (by omega), count]
  exact (decodes_registers record.data).andReturn RecordResponse.mk

theorem read_inversion {remainder : Int} (taken : (read remainder).run octets = .ok (record, left)) :
    ∃ length, octets = length :: 6 :: (record.data.flatMap Register.toBytes ++ left) := by
  obtain ⟨⟨length, afterLength⟩, first, afterFirst⟩ := bind_eq_ok.mp taken
  obtain ⟨⟨function, afterFunction⟩, second, afterSecond⟩ := bind_eq_ok.mp afterFirst
  obtain ⟨announced, octets_eq, -⟩ := readUnsignedByte_eq_ok first
  obtain ⟨code, afterLength_eq, function_eq⟩ := readByte_eq_ok second
  dsimp only at afterSecond octets_eq afterLength_eq
  split at afterSecond
  · cases afterSecond
  next known =>
    have six : code = 6 := by
      have signed := toInt_toInt8 code
      have bounded := code.toNat_lt
      have literal : (6 : UInt8).toNat = 6 := rfl
      apply UInt8.toNat_inj.mp
      split at signed <;> omega
    obtain ⟨⟨data, afterData⟩, third, afterThird⟩ := bind_eq_ok.mp afterSecond
    cases afterThird
    rw [octets_eq, afterLength_eq, six, (readRegister_inverts.times _) _ _ _ third]
    exact ⟨announced, rfl⟩

theorem readAll_done {remainder : Int} (done : remainder ≤ 0) (turns : Nat) :
    readAll turns remainder = pure [] := by
  cases turns with
  | zero => rfl
  | succ turns =>
    unfold readAll
    rw [if_neg (by omega)]

/-- Where records come back, what was taken is as long as they are and ends in the words of the last, behind the
octet of its function. -/
theorem readAll_inversion {turns : Nat} {remainder : Int}
    (taken : (readAll turns remainder).run octets = .ok (records, left)) :
    ∃ front, octets = front ++ left ∧ front.length = (octetsOf records).length ∧
      ∀ last ∈ records.getLast?, ∃ before, front = before ++ 6 :: last.data.flatMap Register.toBytes := by
  have nothing : ∃ front, octets = front ++ octets ∧ front.length = (octetsOf []).length ∧
      ∀ last ∈ ([] : List RecordResponse).getLast?, ∃ before, front = before ++ 6 :: last.data.flatMap Register.toBytes :=
    ⟨[], rfl, rfl, fun last member => nomatch member⟩
  induction turns generalizing octets records remainder with
  | zero =>
    cases taken
    exact nothing
  | succ turns ih =>
    unfold readAll at taken
    split at taken
    · obtain ⟨⟨record, afterRecord⟩, first, taken⟩ := bind_eq_ok.mp taken
      obtain ⟨⟨others, afterOthers⟩, later, taken⟩ := bind_eq_ok.mp taken
      cases taken
      obtain ⟨length, rfl⟩ := read_inversion first
      obtain ⟨front, rfl, total, ends⟩ := @ih others afterRecord _ later
        ⟨[], rfl, rfl, fun last member => nomatch member⟩
      refine ⟨length :: 6 :: (record.data.flatMap Register.toBytes ++ front), by simp, ?_, ?_⟩
      · rw [length_octetsOf_cons, List.length_cons, List.length_cons, List.length_append, length_flatMap_toBytes, total]
        omega
      · intro last member
        cases others with
        | nil =>
          cases member
          have none : front = [] := List.length_eq_zero_iff.mp total
          exact ⟨[length], by rw [none, List.append_nil]; rfl⟩
        | cons next others =>
          rw [List.getLast?_cons_cons] at member
          obtain ⟨before, rfl⟩ := ends last member
          exact ⟨length :: 6 :: (record.data.flatMap Register.toBytes ++ before), by simp⟩
    · cases taken
      exact nothing

end RecordResponse

/-- A list that ends in some items and, moved to the front, in these items and zeros has a zero before them. By
induction from the end: each item of the tail is one of the zeros or an item seen before. -/
theorem zero_before_shift {Item : Type} {zero mark : Item} {front other tail : List Item} {count : Nat}
    (positive : 0 < count) (same : front ++ mark :: tail = other ++ (tail ++ List.replicate count zero)) :
    mark = zero := by
  have reversed : tail.reverse ++ mark :: front.reverse =
      List.replicate count zero ++ (tail.reverse ++ other.reverse) := by
    have both := congrArg List.reverse same
    simpa only [List.reverse_append, List.reverse_cons, List.append_assoc, List.singleton_append,
      List.reverse_replicate] using both
  have zeros : ∀ index ≤ tail.length, (tail.reverse ++ mark :: front.reverse)[index]? = some zero := by
    intro index
    induction index using Nat.strongRecOn with
    | ind index ih =>
      intro inside
      rw [reversed]
      by_cases early : index < count
      · rw [List.getElem?_append_left (by rwa [List.length_replicate]), List.getElem?_replicate, if_pos early]
      · have seen := ih (index - count) (by omega) (by omega)
        rw [List.getElem?_append_left (by rw [List.length_reverse]; omega)] at seen
        rw [List.getElem?_append_right (by rw [List.length_replicate]; omega), List.length_replicate,
          List.getElem?_append_left (by rw [List.length_reverse]; omega), seen]
  have last := zeros tail.length (Nat.le_refl _)
  rw [List.getElem?_append_right (Nat.le_of_eq List.length_reverse), List.length_reverse, Nat.sub_self] at last
  exact Option.some.inj last

namespace ReadFileRecordResponse

theorem overlay_at (front covered behind octets : List UInt8) (same : covered.length = octets.length) :
    overlay (front ++ (covered ++ behind)) front.length octets = front ++ (octets ++ behind) := by
  unfold overlay
  rw [List.take_left, ← same, ← List.length_append, ← List.append_assoc front covered behind, List.drop_left]

theorem store_eq (records : List RecordResponse) (last : RecordResponse) {front header : List UInt8} {zeros : Nat}
    (short : header.length ≤ 2)
    (enough : 2 + 2 * ((records ++ [last]).map fun record => record.data.length).sum ≤ header.length + zeros) :
    ∃ before left, store (front ++ (header ++ List.replicate zeros 0)) front.length (records ++ [last]) =
        front ++ (before ++ (last.data.flatMap Register.toBytes ++ List.replicate left 0)) ∧
      left + (2 + 2 * ((records ++ [last]).map fun record => record.data.length).sum) = header.length + zeros ∧
      before.length + 2 * last.data.length + left = header.length + zeros := by
  have covers : ∀ (record : RecordResponse) (front header : List UInt8) (zeros : Nat), header.length ≤ 2 →
      2 + 2 * record.data.length ≤ header.length + zeros →
      overlay (front ++ (header ++ List.replicate zeros 0)) front.length record.getResponse =
        front ++ (record.getResponse ++ List.replicate (header.length + zeros - (2 + 2 * record.data.length)) 0) := by
    intro record front header zeros short enough
    obtain ⟨more, rfl⟩ : ∃ more, zeros = (2 + 2 * record.data.length - header.length) + more :=
      ⟨zeros - (2 + 2 * record.data.length - header.length), by omega⟩
    rw [← List.replicate_append_replicate, ← List.append_assoc header, overlay_at _ _ _ _ (by
      rw [List.length_append, List.length_replicate, RecordResponse.length_getResponse]; omega)]
    congr 3
    omega
  induction records generalizing front header zeros with
  | nil =>
    rw [List.nil_append, List.map_singleton, List.sum_singleton] at enough ⊢
    refine ⟨[octet (1 + last.data.length * 2), 6], header.length + zeros - (2 + 2 * last.data.length),
      covers _ _ _ _ short enough, by omega, ?_⟩
    rw [List.length_cons, List.length_singleton]
    omega
  | cons record records ih =>
    rw [List.cons_append, List.map_cons, List.sum_cons] at enough ⊢
    -- The last two octets of this record are left for the next one to cover.
    have cut : record.getResponse =
        record.getResponse.take (record.data.length * 2) ++ record.getResponse.drop (record.data.length * 2) :=
      (List.take_append_drop _ _).symm
    have size := record.length_getResponse
    have taken : (record.getResponse.take (record.data.length * 2)).length = record.data.length * 2 := by
      rw [List.length_take]
      omega
    have dropped : (record.getResponse.drop (record.data.length * 2)).length = 2 := by
      rw [List.length_drop]
      omega
    change ∃ before left, store (overlay _ _ _) _ _ = _ ∧ _
    rw [covers _ _ _ _ short (by omega), cut, List.append_assoc, ← List.append_assoc front, ← taken,
      ← List.length_append, taken]
    obtain ⟨before, left, stored, total, length⟩ := @ih (front ++ record.getResponse.take (record.data.length * 2))
      (record.getResponse.drop (record.data.length * 2)) (header.length + zeros - (2 + 2 * record.data.length))
      (by omega) (by omega)
    refine ⟨record.getResponse.take (record.data.length * 2) ++ before, left, ?_, by omega, ?_⟩
    · rw [stored]
      simp only [List.append_assoc]
    · rw [List.length_append]
      omega

theorem length_octetsOf (records : List RecordResponse) : (RecordResponse.octetsOf records).length =
    2 * records.length + 2 * (records.map fun record => record.data.length).sum := by
  induction records with
  | nil => rfl
  | cons record records ih =>
    rw [RecordResponse.length_octetsOf_cons, ih, List.length_cons, List.map_cons, List.sum_cons]
    omega

theorem getByteCount_some (records : List RecordResponse) :
    getByteCount (some records) = 1 + (RecordResponse.octetsOf records).length := by
  have from_ : ∀ start : Int, records.foldl (fun size record => size + record.getResponseSize) start =
      start + (RecordResponse.octetsOf records).length := by
    induction records with
    | nil => exact fun start => (Int.add_zero start).symm
    | cons record records ih =>
      intro start
      rw [List.foldl_cons, ih, RecordResponse.length_octetsOf_cons]
      unfold RecordResponse.getResponseSize
      omega
  exact from_ 1

theorem getMessage_some (records : List RecordResponse) : getMessage (some records) =
    .ok (store (octet (RecordResponse.octetsOf records).length ::
      List.replicate (RecordResponse.octetsOf records).length 0) 1 records) := by
  have size : getByteCount (some records) - 1 = (RecordResponse.octetsOf records).length := by
    rw [getByteCount_some]
    omega
  change Except.ok (store (octet (getByteCount (some records) - 1) ::
    List.replicate (getByteCount (some records) - 1).toNat 0) 1 records) = _
  rw [size, Int.toNat_natCast]

theorem writeData_some (records : List RecordResponse) : writeData (some records) =
    octet (RecordResponse.octetsOf records).length :: RecordResponse.octetsOf records := by
  have size : getByteCount (some records) - 1 = (RecordResponse.octetsOf records).length := by
    rw [getByteCount_some]
    omega
  unfold writeData
  rw [size]
  rfl

theorem getMessage_single (record : RecordResponse) :
    getMessage (some [record]) = .ok (octet record.getResponse.length :: record.getResponse) := by
  have one : RecordResponse.octetsOf [record] = record.getResponse := List.flatMap_singleton _ _
  rw [getMessage_some, one]
  have covered := overlay_at [octet record.getResponse.length] (List.replicate record.getResponse.length 0) []
    record.getResponse List.length_replicate
  rw [List.append_nil, List.append_nil] at covered
  exact congrArg Except.ok covered

theorem decodes_single {record : RecordResponse} (size : record.getResponse.length ≤ 251) :
    Decodes (readData none) (octet record.getResponse.length :: record.getResponse)
      (.readFileRecord (some [record]), some (record.getResponse.length + 3)) := by
  have octets := record.length_getResponse
  have announced : FitsOctet record.getResponse.length := by
    unfold FitsOctet
    omega
  have length : setDataLength (record.getResponse.length + 1) = .ok (record.getResponse.length + 3) := by
    unfold setDataLength
    rw [if_neg (by omega), Int.add_assoc]
    rfl
  have all : Decodes (RecordResponse.readAll record.getResponse.length record.getResponse.length)
      record.getResponse [record] := by
    obtain ⟨turns, more⟩ : ∃ turns, record.getResponse.length = turns + 1 := ⟨record.getResponse.length - 1, by omega⟩
    have done : (record.getResponse.length : Int) - record.getResponseSize ≤ 0 := by
      unfold RecordResponse.getResponseSize
      omega
    have first := @RecordResponse.decodes_read record record.getResponse.length (by omega) (by omega)
    intro rest
    rw [more] at first done ⊢
    unfold RecordResponse.readAll
    rw [if_pos (by omega)]
    refine (run_then_of_ok (first rest)).trans ?_
    rw [RecordResponse.readAll_done done]
    rfl
  intro rest
  refine (run_then_of_ok (decodes_unsignedByte announced _)).trans ?_
  rw [Int.toNat_natCast]
  refine (run_then_of_ok (all rest)).trans ?_
  exact run_then_of_ok (Decodes.attempt length rest)

/-- The array of two records or more ends in zeros; read back it would end in the words of the last. -/
theorem not_readsSelf {read : ModbusResponse × Option Int} (several : 2 ≤ records.length)
    (laid : getMessage (some records) = .ok octets) (size : octets.length ≤ 252)
    (taken : (readData none).run octets = .ok (read, left)) : read.1 ≠ .readFileRecord (some records) := by
  intro same
  obtain ⟨init, last, rfl⟩ : ∃ init last, records = init ++ [last] := by
    rcases List.eq_nil_or_concat records with none | ⟨init, last, all⟩
    · rw [none] at several
      cases several
    · exact ⟨init, last, all.trans List.concat_eq_append⟩
  have sum := length_octetsOf (init ++ [last])
  generalize total_eq : (RecordResponse.octetsOf (init ++ [last])).length = total at *
  obtain ⟨before, zeros, stored, room, length⟩ := @store_eq init last [octet total] [] total (Nat.zero_le _)
    (by rw [List.length_nil]; omega)
  rw [List.length_nil] at room length
  rw [getMessage_some, total_eq] at laid
  have octets_eq := (Except.ok.inj laid).symm.trans stored
  rw [octets_eq, List.length_append, List.length_append, List.length_append, List.length_replicate,
    length_flatMap_toBytes, List.length_singleton] at size
  have announced : FitsOctet total := by
    unfold FitsOctet
    omega
  rw [octets_eq] at taken
  have taken := (run_then_of_ok (decodes_unsignedByte announced _)).symm.trans taken
  obtain ⟨⟨found, afterFound⟩, all, rest⟩ := bind_eq_ok.mp taken
  obtain ⟨recorded, -, rest⟩ := bind_eq_ok.mp rest
  cases rest
  have found_eq : found = init ++ [last] := by
    have kept := ModbusResponse.readFileRecord.inj same
    split at kept
    · cases kept
    · exact Option.some.inj kept
  rw [found_eq] at all
  obtain ⟨front, cut, front_length, ends⟩ := RecordResponse.readAll_inversion all
  obtain ⟨mark, rfl⟩ := ends last List.getLast?_concat
  have none : afterFound = [] := by
    have lengths := congrArg List.length cut
    rw [List.length_append, List.length_append, List.length_append, List.length_replicate, length_flatMap_toBytes,
      front_length] at lengths
    exact List.length_eq_zero_iff.mp (by omega)
  rw [none, List.append_nil] at cut
  have zero := zero_before_shift (by omega) cut.symm
  exact absurd zero (by decide)

end ReadFileRecordResponse

end EtherNetIP.Modbus
