import EtherNetIP.Cip.NameMemory
import EtherNetIP.Cip.SetAttribute

/-! The names of a host and of a domain as requests bring them.

A name that stops its own check is none, and has to be refused. Any other name
is looked past, so no name that should be accepted is checked on the octets
received alone.
-/

set_option autoImplicit false

namespace EtherNetIP

section Stops

variable {name behind : List CipOctet}

theorem cString_append_of_zero (zero : (0 : CipOctet) ∈ name) (behind : List CipOctet) :
    cString (name ++ behind) = cString name := by
  obtain ⟨front, rest, rfl, none⟩ := List.eq_append_cons_of_mem zero
  have string (others : List CipOctet) : cString (front ++ 0 :: others) = front := by
    unfold cString
    rw [List.takeWhile_append_of_pos]
    · exact List.append_nil _
    · intro octet inside
      exact decide_eq_true fun same => none (same ▸ inside)
  rw [List.append_assoc, List.cons_append, string, string]

theorem cString_append_of_no_zero (none : (0 : CipOctet) ∉ name) (behind : List CipOctet) :
    cString (name ++ behind) = name ++ cString behind :=
  List.takeWhile_append_of_pos fun _ inside => decide_eq_true fun same => none (same ▸ inside)

theorem not_isLabel_of_stops (stops : labelStops name = true) (behind : List CipOctet) : ¬ IsLabel (name ++ behind) := by
  intro valid
  cases name with
  | nil => cases stops
  | cons first rest =>
      rw [labelStops, valid.first first rfl, Bool.not_true, Bool.false_or, List.any_eq_true] at stops
      obtain ⟨octet, inside, other⟩ := stops
      rw [valid.octets octet (List.mem_append_left _ (.tail _ inside))] at other
      cases other

/-- What stands behind a name that stops the check has no part in the verdict. -/
theorem isValidNameLabel_of_stops (stops : labelStops name = true) (behind : List CipOctet) :
    isValidNameLabel (cString (name ++ behind)) = isValidNameLabel (cString name) := by
  by_cases zero : (0 : CipOctet) ∈ name
  · rw [cString_append_of_zero zero]
  · have whole := cString_append_of_no_zero zero []
    have refused := fun others => Bool.eq_false_iff.mpr (mt isValidNameLabel_iff.mp (not_isLabel_of_stops stops others))
    rw [List.append_nil] at whole
    rw [cString_append_of_no_zero zero, whole]
    exact (refused _).trans (refused _).symm

theorem isDotless_of_isLabelOctet {octet : CipOctet} (inside : isLabelOctet octet = true) : isDotless octet = true := by
  rw [isDotless, Bool.and_eq_true, bne_iff_ne, bne_iff_ne]
  constructor
  · rintro rfl
    cases inside
  · rintro rfl
    cases inside

theorem domainStops_mono {atStart : Bool} (stops : domainStops atStart name = true) (behind : List CipOctet) :
    domainStops atStart (name ++ behind) = true := by
  induction name generalizing atStart with
  | nil => cases stops
  | cons octet rest ih =>
      rw [domainStops, Bool.or_eq_true] at stops
      rw [List.cons_append, domainStops, Bool.or_eq_true]
      exact stops.imp_right ih

theorem not_domainStops_of_isDomain (valid : IsDomain name) : domainStops true name = false := by
  obtain ⟨labels, some, each, rfl⟩ := valid
  induction labels with
  | nil => exact absurd rfl some
  | cons label labels ih =>
      rw [List.forall_mem_cons] at each
      obtain ⟨first, others⟩ := each
      have dotless : ∀ octet ∈ label, isDotless octet = true :=
        fun octet inside => isDotless_of_isLabelOctet (first.octets octet inside)
      by_cases last : labels = []
      · subst last
        rw [List.intercalate_singleton]
        exact domainStops_dotless dotless
      · rw [List.intercalate_cons_of_ne_nil last, List.append_assoc, List.singleton_append, domainStops_append dotless,
          List.isEmpty_eq_false_iff.mpr first.nonempty, domainStops]
        exact ih last others

theorem not_isDomain_of_stops (stops : domainStops true name = true) (behind : List CipOctet) :
    ¬ IsDomain (name ++ behind) := by
  intro valid
  have through := not_domainStops_of_isDomain valid
  rw [domainStops_mono stops] at through
  cases through

theorem isValidDomain_of_stops (stops : domainStops true name = true) (behind : List CipOctet) :
    isValidDomain (cString (name ++ behind)) = isValidDomain (cString name) := by
  by_cases zero : (0 : CipOctet) ∈ name
  · rw [cString_append_of_zero zero]
  · have whole := cString_append_of_no_zero zero []
    have refused := fun others => Bool.eq_false_iff.mpr (mt isValidDomain_iff.mp (not_isDomain_of_stops stops others))
    rw [List.append_nil] at whole
    rw [cString_append_of_no_zero zero, whole]
    exact (refused _).trans (refused _).symm

end Stops

section Requests

variable (environment : ServiceEnvironment) (request : CipMessageRouterRequest) (device : CipDevice)

/-- A host name: one label, of a length that is limited when it is received. -/
def IsHostName (name : List CipOctet) : Prop := name.length ≤ 64 ∧ IsLabel name

def IsDomainName (name : List CipOctet) : Prop := name.length ≤ 48 ∧ (name = [] ∨ IsDomain name)

/-- The check of a host name that has been copied from the request; there is none of an empty or a long one. -/
def hostNameValidation (name : CipString) : Option NameCheck :=
  let memory := name.string ++ environment.octetsBehind
  if name.length > 64 ∨ name.length = 0 then none
  else some ⟨(isValidNameLabelAt memory 0).1, memory, (isValidNameLabelAt memory 0).2⟩

/-- The check of the domain in a configuration that has passed the others. -/
def domainValidation (value : CipTcpIpInterfaceConfiguration) : Option NameCheck :=
  let memory := value.domainName.string ++ environment.octetsBehind
  if Configurable environment device ∧ value.domainName.length ≤ 48 ∧ isValidNetworkConfig value = true ∧
      value.domainName.length ≠ 0 then
    some (isValidDomainAt (memory.length + 1) memory 0)
  else none

/-- The check has looked at received octets only, and what stands in memory is what stood there. -/
structure NameCheck.StaysInside (check : NameCheck) (name : CipString) : Prop where
  lookedAt : check.lookedAt ≤ name.string.length
  kept : check.memory = name.string ++ environment.octetsBehind

/-- A request for the host name is checked on the octets received with it and accepted just if they are a host name. -/
def ValidatesHostName (data : CipPointer .string) : Prop :=
  let name := cipStringAt request.data
  (∀ check ∈ hostNameValidation environment name, check.StaysInside environment name ∧
    2 + name.string.length ≤ request.requestDataSize.toNat) ∧
  ∃ status value,
    DecodeFunction.cipTcpIpInterfaceHostName.result environment request device data = some (status, value) ∧
      (status = kCipErrorSuccess ↔ IsHostName name.string)

def configurationOf : CipTcpIpInterfaceConfiguration := DataKind.decode .interfaceConfiguration request.data

/-- The same of a request for the interface configuration, which has other checks as well. -/
def ValidatesDomain (data : CipPointer .interfaceConfiguration) : Prop :=
  let value := configurationOf request
  (∀ check ∈ domainValidation environment device value, check.StaysInside environment value.domainName ∧
    22 + value.domainName.string.length ≤ request.requestDataSize.toNat) ∧
  ∃ status kept,
    DecodeFunction.cipTcpIpInterfaceConfiguration.result environment request device data = some (status, kept) ∧
      (status = kCipErrorSuccess ↔ Configurable environment device ∧ isValidNetworkConfig value = true ∧
        IsDomainName value.domainName.string)

/-- The host name is too long, or it is received whole and stops the check with a verdict against it. -/
def HostNameStopped : Prop :=
  let name := cipStringAt request.data
  name.length > 64 ∨
    (2 + name.string.length ≤ request.requestDataSize.toNat ∧ labelStops name.string = true ∧
      isValidNameLabel (cString name.string) = false)

/-- The domain is not checked, or it is received whole and stops the check with a verdict against it. -/
def DomainStopped : Prop :=
  let value := configurationOf request
  ¬ Configurable environment device ∨ value.domainName.length > 48 ∨ isValidNetworkConfig value = false ∨
    value.domainName.length = 0 ∨
    (22 + value.domainName.string.length ≤ request.requestDataSize.toNat ∧
      domainStops true value.domainName.string = true ∧ isValidDomain (cString value.domainName.string) = false)

instance : Decidable (HostNameStopped request) := inferInstanceAs (Decidable (_ ∨ _))

instance : Decidable (DomainStopped environment request device) := inferInstanceAs (Decidable (_ ∨ _))

variable {environment request device}

/-- The verdict of the check in memory is the one the decode function goes on with. -/
theorem hostNameCheck_eq (name : CipString) : hostNameCheck environment name =
    if name.length > 64 then some kCipErrorTooMuchData
    else (hostNameValidation environment name).bind fun check =>
      if check.valid then none else some kCipErrorInvalidAttributeValue := by
  unfold hostNameCheck hostNameValidation
  by_cases long : name.length > 64
  · rw [if_pos long, if_pos long]
  · rw [if_neg long, if_neg long]
    by_cases empty : name.length = 0
    · rw [if_neg fun checked => checked.1 empty, if_pos (.inr empty)]
      rfl
    · rw [if_neg (not_or.mpr ⟨long, empty⟩), Option.bind_some, isValidNameLabelAt_valid, List.drop_zero]
      cases isValidNameLabel (cString (name.string ++ environment.octetsBehind)) with
      | true => exact if_neg fun checked => Bool.false_ne_true checked.2
      | false => exact if_pos ⟨empty, rfl⟩

theorem aligned_pos (length : UInt16) (short : length ≤ 48) :
    decide ((length + 1) &&& ~~~ 1 > 0) = decide (length ≠ 0) := by
  have all : ∀ few : Fin 49, decide ((UInt16.ofNat few.val + 1) &&& ~~~ 1 > 0) = decide (UInt16.ofNat few.val ≠ 0) := by
    decide
  have few : length.toNat < 49 := Nat.lt_succ_of_le (UInt16.le_iff_toNat_le.mp short)
  have this := all ⟨length.toNat, few⟩
  rwa [UInt16.ofNat_toNat] at this

theorem follows_whole (memory : List CipOctet) :
    (isValidDomainAt (memory.length + 1) memory 0).Follows memory 0 (isValidDomain (cString memory)) :=
  @isValidDomainAt_follows memory 0 (memory.length + 1) ((cString memory).length + 1) (Nat.lt_succ_self _)
    (Nat.lt_succ_self _)

theorem configurationCheck_refused {value : CipTcpIpInterfaceConfiguration}
    (refused : ¬ Configurable environment device ∨ value.domainName.length > 48 ∨ isValidNetworkConfig value = false) :
    ∃ error, configurationCheck environment device value = some error ∧ error ≠ kCipErrorSuccess := by
  unfold configurationCheck
  dsimp only
  split
  · exact ⟨_, rfl, by decide⟩
  · next quiet =>
      split
      · exact ⟨_, rfl, by decide⟩
      · next static =>
          split
          · exact ⟨_, rfl, by decide⟩
          · next short =>
              have network : isValidNetworkConfig value = false := by
                rcases refused with conflict | long | network
                · exact absurd ⟨quiet, not_not.mp static⟩ conflict
                · exact absurd long short
                · exact network
              rw [network, Bool.not_false, Bool.true_or, if_pos rfl]
              exact ⟨_, rfl, by decide⟩

theorem domainValidation_valid {value : CipTcpIpInterfaceConfiguration} {check : NameCheck}
    (checked : domainValidation environment device value = some check) :
    check.valid = isValidDomain (cString (value.domainName.string ++ environment.octetsBehind)) := by
  unfold domainValidation at checked
  dsimp only at checked
  split at checked
  · cases checked
    exact (follows_whole _).valid
  · cases checked

theorem configurationCheck_eq (value : CipTcpIpInterfaceConfiguration) (configurable : Configurable environment device)
    (short : value.domainName.length ≤ 48) (network : isValidNetworkConfig value = true) :
    configurationCheck environment device value =
      (domainValidation environment device value).bind fun check =>
        if check.valid then none else some kCipErrorInvalidAttributeValue := by
  unfold configurationCheck
  dsimp only
  rw [if_neg configurable.1, if_neg (not_not_intro configurable.2), if_neg (UInt16.not_lt.mpr short), network,
    Bool.not_true, Bool.false_or, aligned_pos _ short]
  by_cases empty : value.domainName.length = 0
  · have unchecked : domainValidation environment device value = none := if_neg fun checked => checked.2.2.2 empty
    rw [unchecked, decide_eq_false (not_not_intro empty), Bool.false_and]
    rfl
  · obtain ⟨check, checked⟩ : ∃ check, domainValidation environment device value = some check :=
      ⟨_, if_pos ⟨configurable, short, network, empty⟩⟩
    rw [checked, Option.bind_some, domainValidation_valid checked, decide_eq_true empty, Bool.true_and]
    cases isValidDomain (cString (value.domainName.string ++ environment.octetsBehind)) with
    | true => rfl
    | false => rfl

/-- A name that stops its check is none, so the verdict has to be against it. -/
theorem NameCheck.sound_iff {check : NameCheck} {name : CipString} {within valid : Prop} {stops verdict : Bool}
    (looks : check.lookedAt ≤ name.string.length ↔ stops = true)
    (kept : check.memory = name.string ++ environment.octetsBehind)
    (judged : stops = true → check.valid = verdict) (invalid : stops = true → ¬ valid) :
    ((check.StaysInside environment name ∧ within) ∧ (check.valid = true ↔ valid)) ↔
      within ∧ stops = true ∧ verdict = false := by
  constructor
  · rintro ⟨⟨inside, received⟩, right⟩
    have stopped := looks.mp inside.lookedAt
    rw [judged stopped, iff_false_right (invalid stopped), Bool.not_eq_true] at right
    exact ⟨received, stopped, right⟩
  · rintro ⟨received, stopped, against⟩
    refine ⟨⟨⟨looks.mpr stopped, kept⟩, received⟩, ?_⟩
    rw [judged stopped, against]
    exact iff_of_false Bool.false_ne_true (invalid stopped)

theorem answered_iff {α : Type} {check : NameCheck} {sound : NameCheck → Prop} {valid : Prop} {accepted kept : α} :
    ((∀ made ∈ some check, sound made) ∧ ∃ status value,
      (match (if check.valid then none else some kCipErrorInvalidAttributeValue) with
        | some error => some (error, kept)
        | none => some (kCipErrorSuccess, accepted)) = some (status, value) ∧ (status = kCipErrorSuccess ↔ valid)) ↔
      sound check ∧ (check.valid = true ↔ valid) := by
  refine and_congr ⟨fun each => each check rfl, ?_⟩ ?_
  · rintro own made listed
    cases listed
    exact own
  · cases check.valid with
    | true =>
        constructor
        · rintro ⟨status, value, result, right⟩
          cases result
          exact (iff_of_true rfl rfl).trans right
        · exact fun right => ⟨_, _, rfl, (iff_of_true rfl rfl).trans right⟩
    | false =>
        constructor
        · rintro ⟨status, value, result, right⟩
          cases result
          exact (iff_of_false Bool.false_ne_true (by decide)).trans right
        · exact fun right => ⟨_, _, rfl, (iff_of_false (by decide) Bool.false_ne_true).trans right⟩

theorem hostName_result (data : CipPointer .string) :
    DecodeFunction.cipTcpIpInterfaceHostName.result environment request device data =
      match hostNameCheck environment (cipStringAt request.data) with
      | some error => some (error, device.memory.read data)
      | none => if (cipStringAt request.data).length = 0 then none
          else some (kCipErrorSuccess, cipStringAt request.data) :=
  result_eq _ _

theorem configuration_result (data : CipPointer .interfaceConfiguration) :
    DecodeFunction.cipTcpIpInterfaceConfiguration.result environment request device data =
      match configurationCheck environment device (configurationOf request) with
      | some error => some (error, device.memory.read data)
      | none => some (kCipErrorSuccess, configurationOf request) :=
  result_eq _ _

theorem validatesHostName_iff (data : CipPointer .string) :
    ValidatesHostName environment request device data ↔ HostNameStopped request := by
  unfold ValidatesHostName HostNameStopped
  dsimp only
  rw [hostName_result, hostNameCheck_eq]
  generalize cipStringAt request.data = name
  have length := name.toNat_length
  by_cases long : name.length > 64
  · -- refused before it is copied
    have unchecked : hostNameValidation environment name = none := if_pos (.inl long)
    rw [unchecked, if_pos long]
    refine iff_of_true ⟨fun _ checked => (Option.not_mem_none _ checked).elim, _, _, rfl, ?_⟩ (.inl long)
    have more := UInt16.lt_iff_toNat_lt.mp long
    change 64 < _ at more
    exact iff_of_false (by decide) fun valid => absurd valid.1 (by omega)
  · rw [if_neg long]
    by_cases empty : name.length = 0
    · have unchecked : hostNameValidation environment name = none := if_pos (.inr empty)
      have nothing : name.string = [] := by
        rw [empty] at length
        exact List.length_eq_zero_iff.mp length.symm
      rw [unchecked, Option.bind_none]
      dsimp only
      rw [if_pos empty]
      refine iff_of_false ?_ ?_
      · rintro ⟨-, status, value, result, -⟩
        cases result
      · rintro (more | ⟨-, stops, -⟩)
        · exact long more
        · rw [nothing] at stops
          cases stops
    · have checked : hostNameValidation environment name =
          some ⟨(isValidNameLabelAt (name.string ++ environment.octetsBehind) 0).1, name.string ++ environment.octetsBehind,
            (isValidNameLabelAt (name.string ++ environment.octetsBehind) 0).2⟩ :=
        if_neg (not_or.mpr ⟨long, empty⟩)
      rw [checked, Option.bind_some, or_iff_right long]
      simp only [if_neg empty]
      refine answered_iff.trans (NameCheck.sound_iff ?_ rfl ?_ ?_)
      · have looks := @isValidNameLabelAt_lookedAt (name.string ++ environment.octetsBehind) name.string.length
          (by rw [List.length_append]; exact Nat.le_add_right _ _)
        rwa [List.take_left'] at looks
        rfl
      · intro stops
        dsimp only
        rw [isValidNameLabelAt_valid, List.drop_zero]
        exact isValidNameLabel_of_stops stops _
      · intro stops valid
        have label := not_isLabel_of_stops stops []
        rw [List.append_nil] at label
        exact label valid.2

theorem validatesDomain_iff (data : CipPointer .interfaceConfiguration) :
    ValidatesDomain environment request device data ↔ DomainStopped environment request device := by
  unfold ValidatesDomain DomainStopped
  dsimp only
  rw [configuration_result]
  generalize configurationOf request = value
  have length := value.domainName.toNat_length
  by_cases refused : ¬ Configurable environment device ∨ value.domainName.length > 48 ∨ isValidNetworkConfig value = false
  · -- refused by another check, whatever the domain is
    obtain ⟨error, result, other⟩ := configurationCheck_refused refused
    have unchecked : domainValidation environment device value = none := by
      apply if_neg
      rintro ⟨configurable, short, network, -⟩
      rcases refused with conflict | long | invalid
      · exact conflict configurable
      · exact UInt16.not_lt.mpr short long
      · exact ne_true_of_eq_false invalid network
    rw [unchecked, result]
    refine iff_of_true ⟨fun _ checked => (Option.not_mem_none _ checked).elim, _, _, rfl, iff_of_false other ?_⟩ ?_
    · rintro ⟨configurable, network, short, -⟩
      rcases refused with conflict | long | invalid
      · exact conflict configurable
      · have more := UInt16.lt_iff_toNat_lt.mp long
        change 48 < _ at more
        omega
      · exact ne_true_of_eq_false invalid network
    · exact refused.imp_right (Or.imp_right Or.inl)
  · obtain ⟨configurable, notLong, network⟩ := by simpa only [not_or, not_not, Bool.not_eq_false] using refused
    have short := UInt16.not_lt.mp notLong
    rw [configurationCheck_eq value configurable short network]
    by_cases empty : value.domainName.length = 0
    · have unchecked : domainValidation environment device value = none := if_neg fun checked => checked.2.2.2 empty
      have nothing : value.domainName.string = [] := by
        rw [empty] at length
        exact List.length_eq_zero_iff.mp length.symm
      rw [unchecked]
      refine iff_of_true ⟨fun _ checked => (Option.not_mem_none _ checked).elim, _, _, rfl, ?_⟩
        (.inr (.inr (.inr (.inl empty))))
      rw [nothing]
      exact iff_of_true rfl ⟨configurable, network, Nat.zero_le _, .inl rfl⟩
    · have checked : domainValidation environment device value = some _ := if_pos ⟨configurable, short, network, empty⟩
      have follows := follows_whole (value.domainName.string ++ environment.octetsBehind)
      have some : value.domainName.string ≠ [] := by
        intro nothing
        rw [nothing] at length
        exact empty (UInt16.toNat_inj.mp length)
      have fits : value.domainName.string.length ≤ 48 := by
        rw [← length]
        exact UInt16.le_iff_toNat_le.mp short
      rw [checked, Option.bind_some, or_iff_right (not_not_intro configurable), or_iff_right notLong,
        or_iff_right (ne_false_of_eq_true network), or_iff_right empty]
      refine answered_iff.trans (NameCheck.sound_iff ?_ follows.kept ?_ ?_)
      · have looks := follows.lookedAt value.domainName.string.length
          (by rw [Nat.zero_add, List.length_append]; exact Nat.le_add_right _ _)
        rwa [Nat.zero_add, List.drop_zero, List.take_left'] at looks
        rfl
      · intro stops
        exact follows.valid.trans (isValidDomain_of_stops stops _)
      · rintro stops ⟨-, -, -, empty | valid⟩
        · exact some empty
        · have domain := not_isDomain_of_stops stops []
          rw [List.append_nil] at domain
          exact domain valid

/-- Whether the names of a request are validated as they should be is a matter of the octets received: the code has to
refuse them before it comes to their end. -/
theorem validatesNames_iff (environment : ServiceEnvironment) (request : CipMessageRouterRequest) (device : CipDevice) :
    (∀ data, ValidatesHostName environment request device data ↔ HostNameStopped request) ∧
      ∀ data, ValidatesDomain environment request device data ↔ DomainStopped environment request device :=
  ⟨validatesHostName_iff, validatesDomain_iff⟩

/-- The host name "opener" is looked past, an empty one is looked for behind a null pointer, and so is the end of the
domain "local" looked for behind it. -/
theorem names_looked_past :
    ¬ ValidatesHostName quietEnvironment (setRequest 0xF5 1 6 [6, 0, 111, 112, 101, 110, 101, 114]) clearedDevice
        ⟨.tcpipHostname⟩ ∧
      ¬ ValidatesHostName quietEnvironment (setRequest 0xF5 1 6 [0, 0]) clearedDevice ⟨.tcpipHostname⟩ ∧
      ¬ ValidatesDomain quietEnvironment
        (setRequest 0xF5 1 5 ([20, 0, 168, 192, 0, 255, 255, 255] ++ List.replicate 12 0 ++
          [5, 0, 108, 111, 99, 97, 108])) clearedDevice ⟨.tcpipInterfaceConfiguration⟩ := by
  rw [validatesHostName_iff, validatesHostName_iff, validatesDomain_iff]
  exact ⟨by decide +kernel, by decide +kernel, by decide +kernel⟩

end Requests

end EtherNetIP
