import EtherNetIP.Cip.FrontOctets
import EtherNetIP.Cip.PathParsing
import EtherNetIP.Cip.ClosingDown
import EtherNetIP.SampleApplication

/-! The connection manager's services over two receive buffers.

The octets of a request are as many as its data size announces; behind them the
buffer holds whatever else the packet carried. A request that is decided about
on its own octets is answered alike over all buffers that begin with these.
-/

set_option autoImplicit false

namespace EtherNetIP

open Library CipConnectionObject

variable {config : Configuration}

inductive ConnectionManagerService where
  | forwardOpen
  | largeForwardOpen
  | forwardClose
  | getConnectionData
  | searchConnectionData
  deriving DecidableEq

namespace ConnectionManagerService

def fixedHeader : ConnectionManagerService → Nat
  | .forwardOpen => 36
  | .largeForwardOpen => 40
  | .forwardClose => 11
  | .getConnectionData => 2
  | .searchConnectionData => 8

def serve (service : ConnectionManagerService) (request : Request) (stack : Stack config) :
    Except Fault (Response × Stack config) :=
  match service with
  | .forwardOpen => stack.forwardOpen request
  | .largeForwardOpen => stack.largeForwardOpen request
  | .forwardClose => stack.forwardClose request
  | .getConnectionData => stack.getConnectionData request
  | .searchConnectionData => stack.searchConnectionData request

end ConnectionManagerService

/-- The request on a buffer that holds its octets and no more. -/
def Request.announced (request : Request) : Request :=
  { request with data := request.data.take request.requestDataSize }

namespace Stack

def replyAndConnections (answered : Except Fault (Response × Stack config)) :
    Except Fault (Response × List (Slot config × CipConnectionObject)) :=
  answered.map fun (response, after) => (response, after.connections)

/-- Buffers that agree on the octets of the request get the same reply and leave the same connections, and a
request without its header leaves them as they are. -/
structure UsesOwnOctets (service : ConnectionManagerService) (request : Request) (stack : Stack config) : Prop where
  alike : ∀ data : List CipOctet, data.take request.requestDataSize = request.data.take request.requestDataSize →
    replyAndConnections (service.serve { request with data } stack) = replyAndConnections (service.serve request stack)
  short : request.requestDataSize < service.fixedHeader → ∀ response after,
    service.serve request stack = .ok (response, after) → after.connections = stack.connections

/-- The octets are there that decide about a Forward Open in front of its path. -/
def DecidesInside (isLfo : Bool) (request : Request) (stack : Stack config) : Prop :=
  ∀ data reading, stack.readForwardOpen isLfo request.announced = .ok (data, reading) →
    frontOctets isLfo (reading.refusalInFront request) ≤ request.requestDataSize

/-- If nothing in the header has it refused and its sizes agree, the parser looks at its own path only. -/
def LooksInside (isLfo : Bool) (request : Request) (stack : Stack config) : Prop :=
  ∀ connectionPathSize path reading,
    stack.readForwardOpen isLfo request.announced = .ok (connectionPathSize :: path, reading) →
      reading.refusalInFront request = none → connectionPathSize ≠ 0 →
        request.requestDataSize = headerOctets isLfo + 1 + 2 * connectionPathSize.toNat →
          PathInside config reading.dummy connectionPathSize.toUInt64 path

/-- A request for connection data has the whole key it searches with, or no connection's key begins with what it
has of it. -/
def SearchesInside (key : CipConnectionObject → List CipOctet) (length : Nat) (request : Request)
    (stack : Stack config) : Prop :=
  length ≤ request.requestDataSize ∨
    ∀ slot ∈ stack.connectionList.toList, ¬request.announced.data <+: key (stack.object slot)

def numberOctets (object : CipConnectionObject) : List CipOctet := addIntToMessage object.connectionNumber

def triadOctets (object : CipConnectionObject) : List CipOctet := addConnectionTriad object.connectionTriad

def StaysInside (service : ConnectionManagerService) (request : Request) (stack : Stack config) : Prop :=
  match service with
  | .forwardOpen => DecidesInside false request stack
  | .largeForwardOpen => DecidesInside true request stack
  | .forwardClose => 11 ≤ request.requestDataSize
  | .getConnectionData => SearchesInside numberOctets 2 request stack
  | .searchConnectionData => SearchesInside triadOctets 8 request stack

def PathStaysInside (service : ConnectionManagerService) (request : Request) (stack : Stack config) : Prop :=
  match service with
  | .forwardOpen => LooksInside false request stack
  | .largeForwardOpen => LooksInside true request stack
  | _ => True

section Opening

variable {stack : Stack config} {request : Request} {isLfo : Bool} {own : List CipOctet}

theorem parseConnectionPath_congr {connectionPathSize : CipOctet} {path : List CipOctet} {reading : Stack config}
    (inside : connectionPathSize ≠ 0 →
      request.requestDataSize =
        (if reading.dummy.isLargeForwardOpen then 40 else 36) + 2 * connectionPathSize.toNat →
      path.length = 2 * connectionPathSize.toNat ∧ PathInside config reading.dummy connectionPathSize.toUInt64 path)
    (behind : List CipOctet) :
    reading.parseConnectionPath request (connectionPathSize :: (path ++ behind)) =
      reading.parseConnectionPath request (connectionPathSize :: path) := by
  unfold parseConnectionPath
  rw [AnnouncedPath.parseConnectionPath_append inside behind]
  cases EtherNetIP.parseConnectionPath config reading.dummy reading.configData (connectionPathSize :: path)
    request.requestDataSize <;> rfl

theorem readInto_append (enough : headerOctets isLfo ≤ own.length) (behind : List CipOctet)
    (connectionNumber : UInt16) :
    stack.readInto isLfo request connectionNumber (own ++ behind) = stack.readInto isLfo request connectionNumber own := by
  unfold readInto
  rw [(readForwardOpenHeader_takes isLfo).value own enough behind]

/-- A Forward Open that stays inside is answered as if there were nothing behind it. -/
theorem forwardOpenRoutine_append (length : own.length = request.requestDataSize)
    (decides : DecidesInside isLfo { request with data := own } stack)
    (looks : LooksInside isLfo { request with data := own } stack) (behind : List CipOctet) :
    replyAndConnections (stack.forwardOpenRoutine isLfo { request with data := own ++ behind }) =
      replyAndConnections (stack.forwardOpenRoutine isLfo { request with data := own }) := by
  have whole : Request.announced { request with data := own } = { request with data := own } := by
    unfold Request.announced
    dsimp only
    rw [← length, List.take_length]
  unfold DecidesInside at decides
  unfold LooksInside at looks
  rw [whole] at decides looks
  rw [readForwardOpen_eq] at looks decides
  cases number : ({ stack with addressInfoItems := request.addressInfoItems } :
      Stack config).generateRandomConnectionNumber request.randomNumbers with
  | error fault =>
      unfold forwardOpenRoutine
      rw [readForwardOpen_eq, readForwardOpen_eq, number]
      rfl
  | ok connectionNumber =>
      rw [number] at decides looks
      have enough := decides _ _ rfl
      dsimp only at enough
      have settled := refusalInFront_settled (octets_append (enough.trans_eq length.symm) behind).symm
      change (stack.readInto isLfo request connectionNumber (own ++ behind)).refusalInFront request =
        (stack.readInto isLfo request connectionNumber own).refusalInFront request at settled
      -- refused in front of the path parser, or handed to it
      cases verdict : (stack.readInto isLfo request connectionNumber own).refusalInFront request with
      | some extendedStatus =>
          obtain ⟨after, answered, kept⟩ := forwardOpenRoutine_inFront number verdict
          obtain ⟨after', answered', kept'⟩ := forwardOpenRoutine_inFront number (settled.trans verdict)
          -- the reply repeats the triad, which is inside of the request
          have triad : 18 ≤ own.length := by
            change frontOctets isLfo ((stack.readInto isLfo request connectionNumber own).refusalInFront request) ≤ _ at enough
            rw [verdict] at enough
            have least : 18 ≤ frontOctets isLfo (some extendedStatus) := by
              unfold frontOctets
              dsimp only
              split_ifs
              all_goals cases isLfo <;> decide
            omega
          have same : refusedInFront isLfo (own ++ behind) extendedStatus = refusedInFront isLfo own extendedStatus := by
            unfold refusedInFront
            rw [octets_drop (octets_append triad behind)]
          rw [answered, answered']
          change Except.ok (_, after'.connections) = Except.ok (_, after.connections)
          rw [kept, kept', same]
      | none =>
          change frontOctets isLfo ((stack.readInto isLfo request connectionNumber own).refusalInFront request) ≤ _ at enough
          rw [verdict] at enough
          have header : headerOctets isLfo + 1 ≤ own.length := enough.trans_eq length.symm
          have path : own.drop (headerOctets isLfo) =
              octetAt own (headerOctets isLfo) :: own.drop (headerOctets isLfo + 1) := by
            rw [List.drop_eq_getElem_cons header]
            unfold octetAt
            rw [List.getD_eq_getElem?_getD, List.getElem?_eq_getElem header, Option.getD_some]
          have inside := looks _ _ _ (congrArg (fun data => Except.ok (data, _)) path) verdict
          have headerLength : (if isLfo then 40 else 36) = headerOctets isLfo + 1 := by cases isLfo <;> rfl
          rw [forwardOpenRoutine_passes number verdict, forwardOpenRoutine_passes number (settled.trans verdict),
            readInto_append (by omega) behind]
          rw [List.drop_append_of_le_length (by omega), path, List.cons_append, parseConnectionPath_congr ?_ behind]
          intro some_ size
          change request.requestDataSize = (if isLfo then 40 else 36) + _ at size
          rw [headerLength] at size
          refine ⟨?_, inside some_ size⟩
          rw [List.length_drop]
          omega

end Opening

section Closing

variable {stack : Stack config} {request : Request} {own : List CipOctet}

theorem assembleForwardCloseResponse_append (triad : ConnectionTriad) (some_ : 1 ≤ own.length)
    (behind : List CipOctet) (extendedErrorCode : UInt16) :
    assembleForwardCloseResponse triad (own ++ behind) extendedErrorCode =
      assembleForwardCloseResponse triad own extendedErrorCode := by
  unfold assembleForwardCloseResponse
  rw [octetAt_append some_]

theorem forwardClose_append (enough : 11 ≤ own.length) (behind : List CipOctet) :
    stack.forwardClose { request with data := own ++ behind } = stack.forwardClose { request with data := own } := by
  have takes := readForwardCloseHeader_takes
  have whole : readForwardCloseHeader.run own = ((readForwardCloseHeader.run own).1, own.drop 10) :=
    Prod.ext rfl (takes.rest own (by omega))
  have left : 1 ≤ (own.drop 10).length := by
    rw [List.length_drop]
    omega
  unfold forwardClose closeRequestedConnection
  dsimp only
  rw [takes.run_append (by omega) behind, whole]
  dsimp only
  simp only [assembleForwardCloseResponse_append _ left]

theorem forwardClose_answers (coherent : Coherent stack) (request : Request) :
    ∃ extendedErrorCode after, stack.forwardClose request =
        .ok (assembleForwardCloseResponse (readForwardCloseHeader.run request.data).1
          (readForwardCloseHeader.run request.data).2 extendedErrorCode, after) ∧
      (extendedErrorCode = ExtendedStatus.success → after.connections ≠ stack.connections) := by
  let cleared : Stack config := { stack with
    addressInfoItems :=
      ⟨{ request.addressInfoItems.first with typeId := 0 }, { request.addressInfoItems.second with typeId := 0 }⟩ }
  have still : Coherent cleared := coherent.of_same_table rfl rfl
  have closing : stack.forwardClose request = cleared.closeRequestedConnection request := rfl
  rw [closing]
  unfold closeRequestedConnection
  generalize readForwardCloseHeader.run request.data = header
  obtain ⟨triad, data⟩ := header
  dsimp only
  cases found : cleared.findConnection (hasTriad triad) with
  | none => exact ⟨_, cleared, rfl, fun success => absurd success (by decide)⟩
  | some slot =>
      have listed := (findConnection_mem found).1
      have callable := (still.opened slot listed).callable
      dsimp only
      rw [if_neg callable]
      by_cases originator : request.originatorAddress.sAddr = (cleared.object slot).originatorAddress.sAddr
      · obtain ⟨after, done, closed⟩ := still.connectionCloseFunction_closed callable
        rw [if_pos originator, done, ok_bind]
        refine ⟨_, after, rfl, fun _ same => ?_⟩
        have shorter := (closed_shortens still listed closed).2
        have lengths := congrArg List.length same
        unfold connections at lengths
        rw [List.length_map, List.length_map] at lengths
        exact absurd lengths shorter.ne
      · rw [if_neg originator]
        exact ⟨_, cleared, rfl, fun success => absurd success (by decide)⟩

end Closing

section Searching

variable {stack : Stack config} {request : Request} {own : List CipOctet}

theorem getConnectionData_eq (request : Request) (stack : Stack config) :
    stack.getConnectionData request =
      .ok ({ stack with addressInfoItems := request.addressInfoItems }.reportConnection kGetConnectionData
        fun object => numberOctets object == octets 2 request.data) := by
  have tests : (fun object : CipConnectionObject => numberOctets object == octets 2 request.data) =
      (·.connectionNumber == (getUintFromMessage.run request.data).1) := by
    funext object
    rw [Bool.eq_iff_iff, beq_iff_eq, beq_iff_eq, ← addIntToMessage_read]
    exact ⟨addIntToMessage_injective, congrArg addIntToMessage⟩
  rw [tests]
  rfl

theorem searchConnectionData_eq (request : Request) (stack : Stack config) :
    stack.searchConnectionData request =
      .ok ({ stack with addressInfoItems := request.addressInfoItems }.reportConnection kSearchConnectionData
        fun object => triadOctets object == octets 8 request.data) := by
  have tests : (fun object : CipConnectionObject => triadOctets object == octets 8 request.data) =
      (·.connectionTriad == (readConnectionTriad.run request.data).1) := by
    funext object
    rw [Bool.eq_iff_iff, beq_iff_eq, beq_iff_eq, ← addConnectionTriad_read]
    exact ⟨addConnectionTriad_injective, congrArg addConnectionTriad⟩
  rw [tests]
  rfl

variable {key : CipConnectionObject → List CipOctet} {count : Nat} {service : UInt8}

/-- A search is settled by the octets there are: they are the whole key, or the beginning of none. -/
theorem findConnection_append (inside : count ≤ own.length ∨
      ∀ slot ∈ stack.connectionList.toList, ¬own <+: key (stack.object slot)) (behind : List CipOctet) :
    stack.findConnection (fun object => key object == octets count (own ++ behind)) =
      stack.findConnection fun object => key object == octets count own := by
  by_cases enough : count ≤ own.length
  · rw [octets_append enough]
  · have nobody := inside.resolve_left enough
    have absent (more : List CipOctet) :
        stack.findConnection (fun object => key object == octets count (own ++ more)) = none := by
      refine findConnection_eq_none_iff.mpr fun slot listed => beq_eq_false_iff_ne.mpr fun same => ?_
      exact nobody slot listed (same ▸ prefix_octets (by omega) more)
    have alone := absent []
    rw [List.append_nil] at alone
    rw [absent behind, alone]

theorem reportConnection_append (inside : count ≤ own.length ∨
      ∀ slot ∈ stack.connectionList.toList, ¬own <+: key (stack.object slot)) (behind : List CipOctet) :
    stack.reportConnection service (fun object => key object == octets count (own ++ behind)) =
      stack.reportConnection service fun object => key object == octets count own := by
  unfold reportConnection
  rw [findConnection_append inside behind]

theorem reportConnection_replies {data other : List CipOctet}
    (recovers : ∀ object object' : CipConnectionObject, assembleConnectionDataResponseMessage object =
      assembleConnectionDataResponseMessage object' → key object = key object')
    (same : (stack.reportConnection service fun object => key object == octets count data).1 =
      (stack.reportConnection service fun object => key object == octets count other).1)
    {slot : Slot config} (listed : slot ∈ stack.connectionList.toList)
    (found : key (stack.object slot) = octets count data) : octets count data = octets count other := by
  unfold reportConnection at same
  dsimp only at same
  cases first : stack.findConnection fun object => key object == octets count data with
  | none =>
      have missing := findConnection_eq_none_iff.mp first slot listed
      exact absurd found (beq_eq_false_iff_ne.mp missing)
  | some one =>
      rw [first] at same
      have oneKey := beq_iff_eq.mp (findConnection_mem first).2
      cases second : stack.findConnection fun object => key object == octets count other with
      | none =>
          rw [second] at same
          exact absurd (show kCipErrorSuccess = kCipErrorPathDestinationUnknown from congrArg Response.generalStatus same)
            (by decide)
      | some two =>
          rw [second] at same
          have twoKey := beq_iff_eq.mp (findConnection_mem second).2
          rw [← oneKey, ← twoKey]
          exact recovers _ _ (congrArg Response.message same)

theorem numberOctets_recovered (object object' : CipConnectionObject)
    (same : assembleConnectionDataResponseMessage object = assembleConnectionDataResponseMessage object') :
    numberOctets object = numberOctets object' := by
  have split (object : CipConnectionObject) : ∃ rest : List CipOctet,
      assembleConnectionDataResponseMessage object = numberOctets object ++ rest := by
    unfold assembleConnectionDataResponseMessage
    simp only [List.append_assoc]
    exact ⟨_, rfl⟩
  obtain ⟨rest, eq⟩ := split object
  obtain ⟨rest', eq'⟩ := split object'
  rw [eq, eq'] at same
  exact List.append_inj_left same rfl

theorem triadOctets_recovered (object object' : CipConnectionObject)
    (same : assembleConnectionDataResponseMessage object = assembleConnectionDataResponseMessage object') :
    triadOctets object = triadOctets object' := by
  have split (object : CipConnectionObject) : ∃ front rest : List CipOctet, front.length = 8 ∧
      assembleConnectionDataResponseMessage object = front ++ (triadOctets object ++ rest) := by
    unfold assembleConnectionDataResponseMessage
    simp only [List.append_assoc]
    refine ⟨addIntToMessage object.connectionNumber ++ (addIntToMessage object.state.code ++
      (addIntToMessage object.originatorAddress.sinPort ++ addIntToMessage object.remoteAddress.sinPort)), ?_⟩
    simp only [List.append_assoc]
    exact ⟨_, rfl, rfl⟩
  obtain ⟨front, rest, length, eq⟩ := split object
  obtain ⟨front', rest', length', eq'⟩ := split object'
  rw [eq, eq'] at same
  exact List.append_inj_left (List.append_inj_right same (length.trans length'.symm)) rfl

end Searching

section TwoBuffers

variable {stack : Stack config} {request : Request} {own : List CipOctet} {service : ConnectionManagerService}

theorem announced_of_length (length : own.length = request.requestDataSize) :
    Request.announced { request with data := own } = { request with data := own } := by
  unfold Request.announced
  dsimp only
  rw [← length, List.take_length]

/-- A request that stays inside is served as if there were nothing behind it. -/
theorem serve_append (length : own.length = request.requestDataSize)
    (inside : StaysInside service { request with data := own } stack)
    (path : PathStaysInside service { request with data := own } stack) (behind : List CipOctet) :
    replyAndConnections (service.serve { request with data := own ++ behind } stack) =
      replyAndConnections (service.serve { request with data := own } stack) := by
  have whole := announced_of_length length
  cases service with
  | forwardOpen => exact forwardOpenRoutine_append length inside path behind
  | largeForwardOpen => exact forwardOpenRoutine_append length inside path behind
  | forwardClose => exact congrArg replyAndConnections (forwardClose_append (length ▸ inside) behind)
  | getConnectionData =>
      change SearchesInside numberOctets 2 _ stack at inside
      unfold SearchesInside at inside
      rw [whole, ← length] at inside
      change replyAndConnections (stack.getConnectionData _) = replyAndConnections (stack.getConnectionData _)
      rw [getConnectionData_eq, getConnectionData_eq]
      refine congrArg (replyAndConnections ∘ Except.ok) (reportConnection_append ?_ behind)
      exact inside
  | searchConnectionData =>
      change SearchesInside triadOctets 8 _ stack at inside
      unfold SearchesInside at inside
      rw [whole, ← length] at inside
      change replyAndConnections (stack.searchConnectionData _) = replyAndConnections (stack.searchConnectionData _)
      rw [searchConnectionData_eq, searchConnectionData_eq]
      refine congrArg (replyAndConnections ∘ Except.ok) (reportConnection_append ?_ behind)
      exact inside

theorem alike_of_staysInside (inside : StaysInside service request stack) (path : PathStaysInside service request stack)
    (data : List CipOctet) (agree : data.take request.requestDataSize = request.data.take request.requestDataSize) :
    replyAndConnections (service.serve { request with data } stack) =
      replyAndConnections (service.serve request stack) := by
  by_cases held : request.requestDataSize ≤ request.data.length
  · have own : (request.data.take request.requestDataSize).length = request.requestDataSize := by
      rw [List.length_take]
      omega
    have whole := announced_of_length own
    have alone : StaysInside service { request with data := request.data.take request.requestDataSize } stack ∧
        PathStaysInside service { request with data := request.data.take request.requestDataSize } stack := by
      cases service with
      | forwardOpen =>
          change DecidesInside _ _ _ ∧ LooksInside _ _ _
          unfold DecidesInside LooksInside
          rw [whole]
          exact ⟨inside, path⟩
      | largeForwardOpen =>
          change DecidesInside _ _ _ ∧ LooksInside _ _ _
          unfold DecidesInside LooksInside
          rw [whole]
          exact ⟨inside, path⟩
      | forwardClose => exact ⟨inside, trivial⟩
      | getConnectionData =>
          refine ⟨inside.imp id ?_, trivial⟩
          rw [whole]
          exact id
      | searchConnectionData =>
          refine ⟨inside.imp id ?_, trivial⟩
          rw [whole]
          exact id
    have served (behind : List CipOctet) := serve_append own alone.1 alone.2 behind
    have here := served (request.data.drop request.requestDataSize)
    have there := served (data.drop request.requestDataSize)
    rw [List.take_append_drop] at here
    rw [← agree, List.take_append_drop, agree] at there
    exact there.trans here.symm
  · have same : data = request.data := by
      rw [List.take_of_length_le (by omega : request.data.length ≤ request.requestDataSize)] at agree
      have length := congrArg List.length agree
      rw [List.length_take] at length
      rwa [List.take_of_length_le (by omega)] at agree
    rw [same]

theorem readForwardOpen_isLarge {isLfo : Bool} {data : List CipOctet} {reading : Stack config}
    (read : stack.readForwardOpen isLfo request = .ok (data, reading)) : reading.dummy.isLargeForwardOpen = isLfo := by
  have settles := readForwardOpen_eq isLfo request request.data stack
  rw [show { request with data := request.data } = request from rfl, read] at settles
  obtain ⟨connectionNumber, _, eq⟩ := map_eq_ok.mp settles.symm
  cases eq
  rfl

theorem parseConnectionPath_header {data : List CipOctet} {reading after : Stack config}
    (parsed : reading.parseConnectionPath request data = .ok after) :
    (if reading.dummy.isLargeForwardOpen then 40 else 36) ≤ request.requestDataSize := by
  unfold parseConnectionPath at parsed
  cases read : EtherNetIP.parseConnectionPath config reading.dummy reading.configData data request.requestDataSize with
  | error refused =>
      rw [read] at parsed
      cases parsed
  | ok reader =>
      unfold EtherNetIP.parseConnectionPath at read
      generalize getUsintFromMessage.run data = announced at read
      change (if announced.1 = 0 then _ else _) = _ at read
      split at read
      · cases read
      · obtain ⟨marked, checked, _⟩ := bind_eq_ok.mp read
        unfold PathReader.checkLength at checked
        dsimp only at checked
        by_contra short
        rw [if_neg (by omega), if_pos (by omega)] at checked
        cases checked

theorem reportConnection_after (service : UInt8) (test : CipConnectionObject → Bool) (stack : Stack config) :
    (stack.reportConnection service test).2 = stack := by
  unfold reportConnection
  dsimp only
  split <;> rfl

theorem forwardOpen_short {isLfo : Bool} (pristine : Pristine stack.dummy)
    (short : request.requestDataSize < headerOctets isLfo + 1) {response : Response} {after : Stack config}
    (answered : stack.forwardOpenRoutine isLfo request = .ok (response, after)) :
    after.connections = stack.connections := by
  have turnedAway : stack.admitted isLfo request = none := by
    rw [Option.eq_none_iff_forall_ne_some]
    intro asked admission
    obtain ⟨data, reading, read, _, parsed⟩ := admitted_eq_some admission
    have header := parseConnectionPath_header parsed
    rw [readForwardOpen_isLarge read] at header
    have length : headerOctets isLfo + 1 = if isLfo then 40 else 36 := by cases isLfo <;> rfl
    omega
  have table := ((forwardOpenRoutine_turnedAway pristine turnedAway).returns answered).table
  unfold connections
  rw [table.1, table.2]

theorem usesOwnOctets_of_staysInside (intact : Intact stack) (inside : StaysInside service request stack)
    (path : PathStaysInside service request stack) : UsesOwnOctets service request stack := by
  refine ⟨alike_of_staysInside inside path, ?_⟩
  intro short response after answered
  cases service with
  | forwardOpen => exact forwardOpen_short intact.pristine short answered
  | largeForwardOpen => exact forwardOpen_short intact.pristine short answered
  | forwardClose => exact absurd inside (Nat.not_le.mpr short)
  | getConnectionData =>
      change stack.getConnectionData request = _ at answered
      rw [getConnectionData_eq] at answered
      have left : _ = after := congrArg Prod.snd (Except.ok.inj answered)
      rw [← left, reportConnection_after]
      rfl
  | searchConnectionData =>
      change stack.searchConnectionData request = _ at answered
      rw [searchConnectionData_eq] at answered
      have left : _ = after := congrArg Prod.snd (Except.ok.inj answered)
      rw [← left, reportConnection_after]
      rfl

theorem UsesOwnOctets.reply {response response' : Response} {after after' : Stack config} {data : List CipOctet}
    (uses : UsesOwnOctets service request stack)
    (agree : data.take request.requestDataSize = request.data.take request.requestDataSize)
    (answered : service.serve request stack = .ok (response, after))
    (answered' : service.serve { request with data } stack = .ok (response', after')) : response' = response := by
  have same := uses.alike data agree
  rw [answered, answered'] at same
  exact congrArg Prod.fst (Except.ok.inj same)

end TwoBuffers

section Outside

variable {stack : Stack config} {request : Request} {service : ConnectionManagerService}

theorem readForwardCloseHeader_rest (data : List CipOctet) : (readForwardCloseHeader.run data).2 = data.drop 10 := by
  change (data.drop 2).tail.tail.tail.tail.tail.tail.tail.tail = _
  simp only [← List.drop_one, List.drop_drop]

theorem assembleForwardCloseResponse_refused {extendedErrorCode : UInt16}
    (refused : extendedErrorCode ≠ ExtendedStatus.success) (data : List CipOctet) :
    (assembleForwardCloseResponse (readForwardCloseHeader.run data).1 (readForwardCloseHeader.run data).2
      extendedErrorCode).message = octets 9 (data.drop 2) ++ addSintToMessage 0 := by
  unfold assembleForwardCloseResponse
  dsimp only
  rw [if_neg refused, readForwardCloseHeader_read, readForwardCloseHeader_rest, octets_add 8 1, List.drop_drop]
  rfl

theorem assembleForwardCloseResponse_success {triad : ConnectionTriad} {data : List CipOctet}
    {extendedErrorCode : UInt16} :
    (assembleForwardCloseResponse triad data extendedErrorCode).generalStatus = kCipErrorSuccess ↔
      extendedErrorCode = ExtendedStatus.success := by
  unfold assembleForwardCloseResponse
  dsimp only
  by_cases success : extendedErrorCode = ExtendedStatus.success
  · rw [if_pos success]
    exact iff_of_true rfl success
  · rw [if_neg success]
    refine iff_of_false ?_ success
    split <;> decide

/-- Without its header a Forward Close that closes nothing repeats a path size that is not its own. -/
theorem forwardClose_inside (coherent : Coherent stack) (held : request.requestDataSize ≤ request.data.length)
    (uses : UsesOwnOctets .forwardClose request stack) : 11 ≤ request.requestDataSize := by
  by_contra short
  have own : (request.data.take request.requestDataSize).length = request.requestDataSize := by
    rw [List.length_take]
    omega
  let last := octetAt request.data 10 + 1
  let data := completion (request.data.take request.requestDataSize) 10 last
  have agree : data.take request.requestDataSize = request.data.take request.requestDataSize := by
    have front := take_completion (by omega : (request.data.take request.requestDataSize).length ≤ 10) last
    rwa [own] at front
  obtain ⟨extendedErrorCode, after, answered, changes⟩ := forwardClose_answers coherent request
  obtain ⟨extendedErrorCode', after', answered', _⟩ := forwardClose_answers coherent { request with data }
  have refused : extendedErrorCode ≠ ExtendedStatus.success :=
    fun success => changes success (uses.short (by change _ < 11; omega) _ _ answered)
  have same := uses.reply agree answered answered'
  have refused' : extendedErrorCode' ≠ ExtendedStatus.success := by
    intro success
    have status := congrArg Response.generalStatus same
    rw [assembleForwardCloseResponse_success.mpr success] at status
    exact refused (assembleForwardCloseResponse_success.mp status.symm)
  have messages := congrArg Response.message same
  rw [assembleForwardCloseResponse_refused refused, assembleForwardCloseResponse_refused refused'] at messages
  have repeated := octetAt_octets (by decide : 8 < 9) (List.append_inj_left' messages rfl)
  rw [octetAt_drop, octetAt_drop] at repeated
  have differ : last = octetAt request.data 10 := (octetAt_completion _ 10 last).symm.trans repeated
  exact absurd differ (by simp [last])

variable {key : CipConnectionObject → List CipOctet} {count : Nat}

theorem searchesInside_of_alike (kind : UInt8) (lengths : ∀ object, (key object).length = count)
    (recovers : ∀ object object' : CipConnectionObject, assembleConnectionDataResponseMessage object =
      assembleConnectionDataResponseMessage object' → key object = key object')
    (held : request.requestDataSize ≤ request.data.length)
    (alike : ∀ data : List CipOctet, data.take request.requestDataSize = request.data.take request.requestDataSize →
      (stack.reportConnection kind fun object => key object == octets count data).1 =
        (stack.reportConnection kind fun object => key object == octets count request.data).1) :
    SearchesInside key count request stack := by
  by_contra outside
  unfold SearchesInside at outside
  push Not at outside
  obtain ⟨short, slot, listed, announced⟩ := outside
  have own : (request.data.take request.requestDataSize).length = request.requestDataSize := by
    rw [List.length_take]
    omega
  have front := List.prefix_iff_eq_take.mp announced
  change request.data.take request.requestDataSize =
    (key (stack.object slot)).take (request.data.take request.requestDataSize).length at front
  rw [own] at front
  let last := octetAt (key (stack.object slot)) (count - 1) + 1
  let data := completion (request.data.take request.requestDataSize) (count - 1) last
  have agree : data.take request.requestDataSize = request.data.take request.requestDataSize := by
    have taken := take_completion (by omega : (request.data.take request.requestDataSize).length ≤ count - 1) last
    rwa [own] at taken
  have whole : octets count (key (stack.object slot)) = key (stack.object slot) := by
    have eq := octets_of_length (key (stack.object slot))
    rwa [lengths] at eq
  have keys := reportConnection_replies recovers ((alike _ front.symm).trans (alike data agree).symm) listed whole.symm
  have differ := octetAt_octets (by omega : count - 1 < count) keys
  rw [octetAt_completion] at differ
  exact absurd differ.symm (by simp [last])

theorem parseConnectionPath_beyond {reading : Stack config}
    (short : request.requestDataSize < if reading.dummy.isLargeForwardOpen then 40 else 36) :
    ∃ after, reading.parseConnectionPath request [1] =
      .error (.refused ⟨kCipErrorNotEnoughData, ExtendedStatus.success⟩ after) := by
  let start : PathReader :=
    { object := { reading.dummy with productionInhibitTime := 256 }
      configData := reading.configData
      message := []
      remainingPath := 1
      cipClass := ⟨0, []⟩
      instanceId := 0 }
  have refused : PathReader.checkLength request.requestDataSize start =
      start.refuse kCipErrorNotEnoughData ExtendedStatus.success := by
    unfold PathReader.checkLength
    dsimp only [start]
    have words : (1 : UInt64).toNat = 1 := rfl
    generalize (if reading.dummy.isLargeForwardOpen then 40 else 36) = headerLength at short ⊢
    rw [words, if_neg (by omega), if_pos (by omega)]
  have parsed : EtherNetIP.parseConnectionPath config reading.dummy reading.configData [1] request.requestDataSize =
      .error (⟨kCipErrorNotEnoughData, ExtendedStatus.success⟩, start) := by
    change (PathReader.checkLength request.requestDataSize start >>= _) = _
    rw [refused]
    rfl
  unfold parseConnectionPath
  rw [parsed]
  exact ⟨_, rfl⟩

theorem decidesInside_of_alike {isLfo : Bool} (held : request.requestDataSize ≤ request.data.length)
    (alike : ∀ data : List CipOctet, data.take request.requestDataSize = request.data.take request.requestDataSize →
      replyAndConnections (stack.forwardOpenRoutine isLfo { request with data }) =
        replyAndConnections (stack.forwardOpenRoutine isLfo request)) : DecidesInside isLfo request stack := by
  have length : (request.data.take request.requestDataSize).length = request.requestDataSize := by
    rw [List.length_take]
    omega
  have announced : request.announced = { request with data := request.data.take request.requestDataSize } := rfl
  unfold DecidesInside
  rw [announced, readForwardOpen_eq]
  generalize request.data.take request.requestDataSize = own at length alike
  have sameReply {data : List CipOctet} {response response' : Response} {after after' : Stack config}
      (agree : data.take request.requestDataSize = own)
      (first : stack.forwardOpenRoutine isLfo { request with data := own } = .ok (response, after))
      (second : stack.forwardOpenRoutine isLfo { request with data } = .ok (response', after')) :
      response = response' := by
    have both := (alike own (by rw [← length, List.take_length])).trans (alike data agree).symm
    rw [first, second] at both
    exact congrArg Prod.fst (Except.ok.inj both)
  rintro data reading read
  obtain ⟨connectionNumber, number, eq⟩ := map_eq_ok.mp read
  cases eq
  by_contra short
  cases verdict : (stack.readInto isLfo request connectionNumber own).refusalInFront request with
  | none =>
      -- the path size is read behind the octets: it is zero there, and one in the other buffer
      change ¬frontOctets isLfo ((stack.readInto isLfo request connectionNumber own).refusalInFront request) ≤ _ at short
      rw [verdict] at short
      change ¬headerOctets isLfo + 1 ≤ request.requestDataSize at short
      let data := completion own (headerOctets isLfo) 1
      have agree : data.take request.requestDataSize = own := by
        have front := take_completion (by omega : own.length ≤ headerOctets isLfo) 1
        rwa [length] at front
      have passes := (refusalInFront_header (octets_completion own (headerOctets isLfo) 1).symm).trans verdict
      have answered := forwardOpenRoutine_passes number verdict
      have answered' := forwardOpenRoutine_passes number passes
      rw [List.drop_of_length_le (by omega)] at answered
      have left : data.drop (headerOctets isLfo) = [1] := List.drop_left' (octets_length _ _)
      have room : request.requestDataSize < if isLfo then 40 else 36 := by
        have headerLength : (if isLfo then 40 else 36) = headerOctets isLfo + 1 := by cases isLfo <;> rfl
        omega
      obtain ⟨after', refused'⟩ :=
        @parseConnectionPath_beyond config request (stack.readInto isLfo request connectionNumber data) room
      rw [left, refused'] at answered'
      have statuses := congrArg Response.generalStatus (sameReply agree answered answered')
      exact absurd (show kEipStatusErrorOctet = kCipErrorNotEnoughData from statuses) (by decide)
  | some extendedStatus =>
      change ¬frontOctets isLfo ((stack.readInto isLfo request connectionNumber own).refusalInFront request) ≤ _ at short
      rw [verdict] at short
      unfold frontOctets at short
      dsimp only at short
      split_ifs at short with oToT trigger
      · rw [oToT] at verdict
        have invalid := refusalInFront_oToT.mp verdict
        rw [readInto_oToT, octetAt_short (by omega)] at invalid
        exact absurd invalid (by decide)
      · rw [trigger] at verdict
        have invalid := refusalInFront_trigger verdict
        unfold getProductionTrigger at invalid
        rw [readInto_trigger, octetAt_short (by omega)] at invalid
        exact absurd invalid (by decide)
      · have valid : (stack.readInto isLfo request connectionNumber own).dummy.getOToTConnectionType ≠ .invalid := by
          intro invalid
          rw [refusalInFront_oToT.mpr invalid] at verdict
          exact oToT (Option.some.inj verdict).symm
        -- a completion that fails a check the request passes, so the answers differ
        let data := completion own (tToOTypeOctet isLfo) 0x60
        have agree : data.take request.requestDataSize = own := by
          have front := take_completion (by omega : own.length ≤ tToOTypeOctet isLfo) 0x60
          rwa [length] at front
        have valid' : (stack.readInto isLfo request connectionNumber data).dummy.getOToTConnectionType ≠ .invalid := by
          rw [readInto_oToT, octetAt_completion_front (by cases isLfo <;> decide), ← readInto_oToT]
          exact valid
        have invalid' : (stack.readInto isLfo request connectionNumber data).dummy.getTToOConnectionType = .invalid := by
          rw [readInto_tToO, octetAt_completion]
          decide
        have verdict' := (@refusalInFront_tToO config request _ valid').mpr invalid'
        obtain ⟨after, answered, _⟩ := forwardOpenRoutine_inFront number verdict
        obtain ⟨after', answered', _⟩ := forwardOpenRoutine_inFront number verdict'
        have statuses := congrArg Response.additionalStatus (sameReply agree answered answered')
        have status : extendedStatus = ExtendedStatus.errorInvalidTToOConnectionType := (List.cons.inj statuses).1
        rw [status] at verdict
        have invalid := (refusalInFront_tToO valid).mp verdict
        rw [readInto_tToO, octetAt_short (by omega)] at invalid
        exact absurd invalid (by decide)

theorem staysInside_of_usesOwnOctets (coherent : Coherent stack)
    (held : request.requestDataSize ≤ request.data.length) (uses : UsesOwnOctets service request stack) :
    StaysInside service request stack := by
  cases service with
  | forwardOpen => exact decidesInside_of_alike held uses.alike
  | largeForwardOpen => exact decidesInside_of_alike held uses.alike
  | forwardClose => exact forwardClose_inside coherent held uses
  | getConnectionData =>
      change SearchesInside numberOctets 2 request { stack with addressInfoItems := request.addressInfoItems }
      refine searchesInside_of_alike kGetConnectionData (fun object => rfl) numberOctets_recovered held fun data agree => ?_
      exact uses.reply agree (getConnectionData_eq request stack) (getConnectionData_eq { request with data } stack)
  | searchConnectionData =>
      change SearchesInside triadOctets 8 request { stack with addressInfoItems := request.addressInfoItems }
      refine searchesInside_of_alike kSearchConnectionData (fun object => rfl) triadOctets_recovered held fun data agree => ?_
      exact uses.reply agree (searchConnectionData_eq request stack) (searchConnectionData_eq { request with data } stack)

end Outside

/-- A service uses the octets of its request only where what decides about the request lies on them; only what the
path parser finds behind its path need not show. -/
theorem usesOwnOctets {stack : Stack config} (reached : Reached stack) {request : Request}
    (held : request.requestDataSize ≤ request.data.length) (service : ConnectionManagerService) :
    (StaysInside service request stack ∧ PathStaysInside service request stack →
        UsesOwnOctets service request stack) ∧
      (UsesOwnOctets service request stack → StaysInside service request stack) :=
  ⟨fun inside => usesOwnOctets_of_staysInside reached.intact inside.1 inside.2,
    staysInside_of_usesOwnOctets reached.intact.coherent held⟩

open SampleApplication in
theorem close_usesOwnOctets : ∃ stack : Stack configuration, Reached stack ∧ stack.connectionList.toList ≠ [] ∧
    UsesOwnOctets .forwardClose (closeRequest 1) stack := by
  have run : ends [.forwardOpen (openExplicit 1)] (fun stack : Stack configuration =>
      !stack.connectionList.toList.isEmpty) = true := by decide +kernel
  obtain ⟨stack, reached, listed⟩ := exists_of_ends run
  refine ⟨stack, reached, fun none => ?_, (usesOwnOctets reached (by decide) .forwardClose).1 ⟨?_, trivial⟩⟩
  · rw [none] at listed
    cases listed
  · exact (by decide : 11 ≤ (closeRequest 1).requestDataSize)

open SampleApplication in
/-- An empty Forward Close over a buffer that holds an old one closes the connection that one named. -/
theorem emptyClose_closes : ∃ stack : Stack configuration, Reached stack ∧
    ¬UsesOwnOctets .forwardClose { closeRequest 1 with requestDataSize := 0 } stack := by
  have run : ends [.forwardOpen (openExplicit 1)] (fun stack : Stack configuration =>
      match stack.forwardClose { closeRequest 1 with requestDataSize := 0 } with
      | .ok (_, after) => decide (after.connections.length ≠ stack.connections.length)
      | .error _ => false) = true := by decide +kernel
  obtain ⟨stack, reached, closes⟩ := exists_of_ends run
  refine ⟨stack, reached, fun uses => ?_⟩
  split at closes
  · rename_i response after answered
    have kept := uses.short (by decide) response after answered
    exact of_decide_eq_true closes (congrArg List.length kept)
  · cases closes

end Stack

end EtherNetIP
