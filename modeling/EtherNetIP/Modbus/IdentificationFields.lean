import EtherNetIP.Modbus.Responses
import EtherNetIP.Modbus.RequestRoundTrip

/-! The identification fields of ReadMEIResponse.

The array holds a text as octets of US-ASCII, as many as it has units, and the
reader takes them for UTF-8. Only the texts within ASCII come back.
-/

set_option autoImplicit false

namespace EtherNetIP.Modbus.ReadMEIResponse

open EtherNetIP.Library

variable {text : Text} {octets : List UInt8}

def IsAscii (text : Text) : Prop := ∀ unit ∈ text, unit < 128

theorem utf8_of_ascii (ascii : ∀ read ∈ octets, read < 128) : utf8 octets = octets.map UInt8.toUInt16 := by
  induction octets with
  | nil => rfl
  | cons first rest ih =>
    have others := ih fun read member => ascii read (List.mem_cons_of_mem _ member)
    rw [utf8.eq_def]
    dsimp only
    rw [if_pos (ascii first List.mem_cons_self), others, List.map_cons]

theorem asciiUnit_lt (unit : UInt16) : (if unit < 128 then unit.toUInt8 else 63) < 128 := by
  split
  next low =>
    have bounded := UInt16.lt_iff_toNat_lt.mp low
    apply UInt8.lt_iff_toNat_lt.mpr
    rw [UInt16.toNat_toUInt8]
    have limit : (128 : UInt16).toNat = 128 := rfl
    have limit' : (128 : UInt8).toNat = 128 := rfl
    omega
  next => decide

theorem usAscii_lt (text : Text) : ∀ read ∈ usAscii text, read < 128 := by
  fun_induction usAscii text with
  | case1 => exact fun read member => nomatch member
  | case2 high low rest pair ih =>
    intro read member
    rcases List.mem_cons.mp member with rfl | member
    · decide
    · exact ih read member
  | case3 high low rest apart ih =>
    intro read member
    rcases List.mem_cons.mp member with rfl | member
    · exact asciiUnit_lt high
    · exact ih read member
  | case4 unit =>
    intro read member
    rw [List.mem_singleton.mp member]
    exact asciiUnit_lt unit

theorem usAscii_of_ascii (ascii : IsAscii text) : usAscii text = text.map UInt16.toUInt8 := by
  fun_induction usAscii text with
  | case1 => rfl
  | case2 high low rest pair ih =>
    have small := UInt16.lt_iff_toNat_lt.mp (ascii high List.mem_cons_self)
    have surrogate : (0xD800 : UInt16) ≤ high := by
      unfold isHighSurrogate at pair
      grind
    have large := UInt16.le_iff_toNat_le.mp surrogate
    have limit : (128 : UInt16).toNat = 128 := rfl
    have limit' : (0xD800 : UInt16).toNat = 55296 := rfl
    omega
  | case3 high low rest apart ih =>
    rw [if_pos (ascii high List.mem_cons_self), ih fun unit member => ascii unit (List.mem_cons_of_mem _ member)]
    rfl
  | case4 unit =>
    rw [if_pos (ascii unit List.mem_cons_self)]
    rfl

theorem storedText_eq (text : Text) : storedText text =
    if (usAscii text).length < text.length then List.replicate text.length 0 else (usAscii text).take text.length := rfl

theorem storedText_lt (text : Text) : ∀ read ∈ storedText text, read < 128 := by
  intro read member
  rw [storedText_eq] at member
  split at member
  · rw [List.eq_of_mem_replicate member]
    decide
  · exact usAscii_lt text read (List.mem_of_mem_take member)

@[simp] theorem length_storedText (text : Text) : (storedText text).length = text.length := by
  rw [storedText_eq]
  split
  · rw [List.length_replicate]
  · rw [List.length_take]
    omega

theorem toUInt16_lt {read : UInt8} (low : read < 128) : read.toUInt16 < 128 := by
  have bounded := UInt8.lt_iff_toNat_lt.mp low
  apply UInt16.lt_iff_toNat_lt.mpr
  rw [UInt8.toNat_toUInt16]
  exact bounded

theorem isAscii_read (text : Text) : IsAscii (utf8 (storedText text)) := by
  rw [utf8_of_ascii (storedText_lt text)]
  intro unit member
  obtain ⟨read, stored, rfl⟩ := List.mem_map.mp member
  exact toUInt16_lt (storedText_lt text read stored)

theorem read_of_ascii (ascii : IsAscii text) : utf8 (storedText text) = text := by
  have stored : storedText text = text.map UInt16.toUInt8 := by
    rw [storedText_eq, usAscii_of_ascii ascii, List.length_map, if_neg (Nat.lt_irrefl _), List.take_of_length_le]
    exact Nat.le_of_eq (List.length_map _)
  rw [utf8_of_ascii (storedText_lt text), stored, List.map_map]
  refine (List.map_congr_left fun unit member => ?_).trans (List.map_id text)
  have bounded := UInt16.lt_iff_toNat_lt.mp (ascii unit member)
  have limit : (128 : UInt16).toNat = 128 := rfl
  apply UInt16.toNat_inj.mp
  change unit.toUInt8.toUInt16.toNat = unit.toNat
  rw [UInt8.toNat_toUInt16, UInt16.toNat_toUInt8]
  omega

def encode (entry : Int × List UInt8) : List UInt8 := octet entry.1 :: octet entry.2.length :: entry.2

def storedEntry (entry : Int × Text) : Int × List UInt8 := (entry.1, storedText entry.2)

theorem storedFields_eq_ok {count : Nat} {fields : List (Option Text)} {fieldIds : List Int}
    (laid : storedFields count fields fieldIds = .ok octets) :
    ∃ entries : List (Int × Text), entries.length = count ∧ octets = (entries.map storedEntry).flatMap encode ∧
      fields.take count = entries.map (some ·.2) ∧ fieldIds.take count = entries.map Prod.fst := by
  induction count generalizing fields fieldIds octets with
  | zero =>
    cases laid
    exact ⟨[], rfl, rfl, rfl, rfl⟩
  | succ count ih =>
    cases fields with
    | nil => cases laid
    | cons field fields =>
      cases fieldIds with
      | nil => cases laid
      | cons fieldId fieldIds =>
        obtain ⟨text, found, laid⟩ := bind_eq_ok.mp laid
        obtain ⟨others, later, laid⟩ := bind_eq_ok.mp laid
        cases laid
        cases field with
        | none => cases found
        | some text =>
          cases found
          obtain ⟨entries, length, rfl, texts, identifiers⟩ := ih later
          refine ⟨(fieldId, text) :: entries, congrArg Nat.succ length, ?_, ?_, ?_⟩
          · rw [List.map_cons, List.flatMap_cons]
            unfold encode storedEntry
            rw [length_storedText]
            rfl
          · rw [List.take_succ_cons, texts]
            rfl
          · rw [List.take_succ_cons, identifiers]
            rfl

theorem decodes_readField {entry : Int × List UInt8} (fits : FitsOctet entry.1) (size : entry.2.length < 256) :
    Decodes readField (encode entry) entry := by
  have announced : FitsOctet entry.2.length := by
    unfold FitsOctet
    omega
  intro rest
  refine (run_then_of_ok (decodes_unsignedByte fits _)).trans ?_
  refine (run_then_of_ok (decodes_unsignedByte announced _)).trans ?_
  rw [Int.toNat_natCast]
  exact run_then_of_ok (decodes_fully entry.2 rest)

theorem counted_size (entries : List (Int × List UInt8)) :
    entries.foldl (fun size entry => size + (2 + entry.2.length : Int)) 6 = 6 + (entries.flatMap encode).length := by
  have from_ : ∀ start : Int, entries.foldl (fun size entry => size + (2 + entry.2.length : Int)) start =
      start + (entries.flatMap encode).length := by
    induction entries with
    | nil => exact fun start => (Int.add_zero start).symm
    | cons entry entries ih =>
      intro start
      have size : (encode entry).length = entry.2.length + 2 := rfl
      rw [List.foldl_cons, ih, List.flatMap_cons, List.length_append, size]
      omega
  exact from_ 6

theorem length_le_of_mem {entries : List (Int × List UInt8)} {entry : Int × List UInt8} (member : entry ∈ entries) :
    entry.2.length + 2 ≤ (entries.flatMap encode).length := by
  obtain ⟨before, behind, rfl⟩ := List.append_of_mem member
  have size : (encode entry).length = entry.2.length + 2 := rfl
  rw [List.flatMap_append, List.flatMap_cons, List.length_append, List.length_append, size]
  omega

theorem length_le_octets (entries : List (Int × List UInt8)) : 2 * entries.length ≤ (entries.flatMap encode).length := by
  induction entries with
  | nil => exact Nat.zero_le _
  | cons entry entries ih =>
    have size : (encode entry).length = entry.2.length + 2 := rfl
    rw [List.flatMap_cons, List.length_append, List.length_cons, size]
    omega

def arrays (fields : List (Option Text)) (fieldIds : List Int) (entries : List (Int × List UInt8)) :
    List (Option Text) × List Int :=
  if entries.length > 0 then (entries.map fun entry => some (utf8 entry.2), entries.map Prod.fst)
  else (fields, fieldIds)

theorem decodes {fieldLevel conformity nextFieldId : Int} {moreFollows : Bool} {entries : List (Int × List UInt8)}
    {fields : List (Option Text)} {fieldIds : List Int} (level : FitsOctet fieldLevel) (conforms : FitsOctet conformity)
    (next : FitsOctet nextFieldId) (identifiers : ∀ entry ∈ entries, FitsOctet entry.1)
    (size : 6 + (entries.flatMap encode).length ≤ 252) :
    Decodes (readData fields fieldIds)
      ([14, octet fieldLevel, octet conformity, if moreFollows then 255 else 0, octet nextFieldId,
        octet entries.length] ++ entries.flatMap encode)
      (.readMEI fieldLevel conformity entries.length (arrays fields fieldIds entries).1
        (arrays fields fieldIds entries).2 moreFollows nextFieldId, some (8 + (entries.flatMap encode).length)) := by
  have several := length_le_octets entries
  have count : FitsOctet entries.length := by
    unfold FitsOctet
    omega
  have fields_read : Decodes (times readField entries.length) (entries.flatMap encode) entries :=
    Decodes.times fun entry member =>
      have short := length_le_of_mem member
      decodes_readField (identifiers entry member) (by omega)
  have length : setDataLength (entries.foldl (fun size entry => size + (2 + entry.2.length : Int)) 6) =
      .ok (8 + (entries.flatMap encode).length) := by
    rw [counted_size]
    unfold setDataLength
    rw [if_neg (by omega)]
    congr 1
    omega
  have more : Decodes readUnsignedByte [if moreFollows then 255 else 0] (if moreFollows then 255 else 0) := by
    cases moreFollows <;> exact fun rest => rfl
  have known : Decodes readUnsignedByte [14] 14 := fun rest => rfl
  change Decodes _ ([14] ++ ([octet fieldLevel] ++ ([octet conformity] ++ ([if moreFollows then 255 else 0] ++
    ([octet nextFieldId] ++ ([octet entries.length] ++ entries.flatMap encode)))))) _
  refine known.bind ?_
  rw [if_neg (by decide)]
  refine (decodes_unsignedByte level).bind ((decodes_unsignedByte conforms).bind (more.bind
    ((decodes_unsignedByte next).bind ((decodes_unsignedByte count).bind ?_))))
  rw [Int.toNat_natCast]
  intro rest
  refine (run_then_of_ok (fields_read rest)).trans ((run_then_of_ok (Decodes.attempt length rest)).trans ?_)
  have flag : decide ((if moreFollows then (255 : Int) else 0) = 255) = moreFollows := by
    cases moreFollows <;> rfl
  have some_ : ((entries.length : Int) > 0) = (entries.length > 0) := by
    apply propext
    omega
  rw [flag]
  unfold arrays
  simp only [some_]
  split <;> rfl

section Arrays

variable {fieldLevel conformity fieldCount nextFieldId : Int} {moreFollows : Bool} {fields : List (Option Text)}
  {fieldIds : List Int}

def message (fieldLevel conformity : Int) (moreFollows : Bool) (nextFieldId : Int) (entries : List (Int × Text)) :
    List UInt8 :=
  [14, octet fieldLevel, octet conformity, if moreFollows then 255 else 0, octet nextFieldId,
    octet entries.length] ++ (entries.map storedEntry).flatMap encode

theorem length_message (entries : List (Int × Text)) :
    (8 + ((entries.map storedEntry).flatMap encode).length : Int) =
      (message fieldLevel conformity moreFollows nextFieldId entries).length + 2 := by
  unfold message
  rw [List.length_append]
  simp only [List.length_cons, List.length_nil]
  omega

theorem getMessage_eq_ok (positive : 0 ≤ fieldCount)
    (laid : getMessage fieldLevel conformity fieldCount fields fieldIds moreFollows nextFieldId = .ok octets) :
    ∃ entries : List (Int × Text), fieldCount = entries.length ∧
      octets = message fieldLevel conformity moreFollows nextFieldId entries ∧
      fields.take entries.length = entries.map (some ·.2) ∧ fieldIds.take entries.length = entries.map Prod.fst := by
  obtain ⟨stored, laidFields, laid⟩ := bind_eq_ok.mp laid
  obtain ⟨entries, length, rfl, texts, identifiers⟩ := storedFields_eq_ok laidFields
  have count : fieldCount = entries.length := by omega
  cases laid
  rw [← length] at texts identifiers
  refine ⟨entries, count, ?_, texts, identifiers⟩
  unfold message
  rw [count]

theorem getMessage_of_entries (entries : List (Int × Text)) (behind : List (Option Text)) (behindIds : List Int) :
    getMessage fieldLevel conformity entries.length (entries.map (some ·.2) ++ behind)
      (entries.map Prod.fst ++ behindIds) moreFollows nextFieldId =
      .ok (message fieldLevel conformity moreFollows nextFieldId entries) := by
  have stored : storedFields entries.length (entries.map (some ·.2) ++ behind) (entries.map Prod.fst ++ behindIds) =
      .ok ((entries.map storedEntry).flatMap encode) := by
    induction entries with
    | nil => rfl
    | cons entry entries ih =>
      refine bind_eq_ok.mpr ⟨entry.2, rfl, bind_eq_ok.mpr ⟨_, ih, ?_⟩⟩
      rw [List.map_cons, List.flatMap_cons]
      unfold encode storedEntry
      rw [length_storedText]
      rfl
  exact bind_eq_ok.mpr ⟨_, stored, rfl⟩

theorem exists_entries (length : fields.length = fieldIds.length) (texts : ∀ field ∈ fields, field ≠ none) :
    ∃ entries : List (Int × Text), fields = entries.map (some ·.2) ∧ fieldIds = entries.map Prod.fst := by
  induction fields generalizing fieldIds with
  | nil => exact ⟨[], rfl, List.length_eq_zero_iff.mp length.symm⟩
  | cons field fields ih =>
    cases fieldIds with
    | nil => cases length
    | cons fieldId fieldIds =>
      cases field with
      | none => exact absurd rfl (texts none List.mem_cons_self)
      | some text =>
        obtain ⟨entries, rfl, rfl⟩ := ih (Nat.succ.inj length) fun field member => texts field (List.mem_cons_of_mem _ member)
        exact ⟨(fieldId, text) :: entries, rfl, rfl⟩

theorem decodes_message {entries : List (Int × Text)} (level : FitsOctet fieldLevel) (conforms : FitsOctet conformity)
    (next : FitsOctet nextFieldId) (identifiers : ∀ entry ∈ entries, FitsOctet entry.1)
    (size : (message fieldLevel conformity moreFollows nextFieldId entries).length ≤ 252) :
    Decodes (readData fields fieldIds) (message fieldLevel conformity moreFollows nextFieldId entries)
      (.readMEI fieldLevel conformity entries.length
        (if entries.length > 0 then entries.map fun entry => some (utf8 (storedText entry.2)) else fields)
        (if entries.length > 0 then entries.map Prod.fst else fieldIds) moreFollows nextFieldId,
        some (8 + ((entries.map storedEntry).flatMap encode).length)) := by
  unfold message at size ⊢
  rw [List.length_append] at size
  have stored : ∀ entry ∈ entries.map storedEntry, FitsOctet entry.1 := by
    intro entry member
    obtain ⟨field, original, rfl⟩ := List.mem_map.mp member
    exact identifiers field original
  have reads := @decodes fieldLevel conformity nextFieldId moreFollows (entries.map storedEntry) fields fieldIds level
    conforms next stored (by
      change 6 + _ ≤ 252 at size
      exact size)
  rw [List.length_map] at reads
  unfold arrays at reads
  rw [List.length_map, List.map_map, List.map_map] at reads
  by_cases some_ : entries.length > 0
  · simp only [if_pos some_] at reads ⊢
    exact reads
  · simp only [if_neg some_] at reads ⊢
    exact reads

end Arrays

end EtherNetIP.Modbus.ReadMEIResponse
