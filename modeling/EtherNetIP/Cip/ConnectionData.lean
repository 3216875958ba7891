import EtherNetIP.Cip.ForwardOpen

/-! The services that report a connection.

`GetConnectionData` finds it by its number, `SearchConnectionData` by its triad.
Both search the whole connection list, whatever state a connection is in, and
change nothing.
-/

set_option autoImplicit false

namespace EtherNetIP

variable {config : Configuration}

def kGetConnectionData : UInt8 := 0x56
def kSearchConnectionData : UInt8 := 0x57
def kCipErrorPathDestinationUnknown : UInt8 := 0x05

def ConnectionObjectState.code : ConnectionObjectState → UInt16
  | .nonExistent => 0
  | .configuring => 1
  | .waitingForConnectionID => 2
  | .established => 3
  | .timedOut => 4
  | .deferredDelete => 5
  | .closing => 6

/-- The address items of a packet that go back with the reply: O→T first, then T→O. -/
def AddressInfoItems.returned (items : AddressInfoItems) : List SocketAddressInfoItem :=
  [kCipItemIdSocketAddressInfoOriginatorToTarget, kCipItemIdSocketAddressInfoTargetToOriginator].flatMap fun typeId =>
    [items.first, items.second].filter (·.typeId == typeId)

/-- The same connection identifier stands for the originator and for the target. -/
def assembleConnectionDataResponseMessage (object : CipConnectionObject) : List CipOctet :=
  addIntToMessage object.connectionNumber ++ addIntToMessage object.state.code ++
    addIntToMessage object.originatorAddress.sinPort ++ addIntToMessage object.remoteAddress.sinPort ++
    addConnectionTriad object.connectionTriad ++
    addDintToMessage object.cipConsumedConnectionId ++ addDintToMessage object.cipConsumedConnectionId ++
    addSintToMessage object.connectionTimeoutMultiplier ++ [0, 0, 0] ++
    addDintToMessage object.oToTRequestedPacketInterval ++
    addDintToMessage object.transmissionTriggerTimer.toUInt32 ++
    addDintToMessage object.cipProducedConnectionId ++ addDintToMessage object.cipProducedConnectionId ++
    addSintToMessage object.connectionTimeoutMultiplier ++ [0, 0, 0] ++
    addDintToMessage object.tToORequestedPacketInterval ++
    addDintToMessage object.transmissionTriggerTimer.toUInt32

def readConnectionTriad : FromMessage ConnectionTriad := do
  let connectionSerialNumber ← getUintFromMessage
  let originatorVendorId ← getUintFromMessage
  let originatorSerialNumber ← getUdintFromMessage
  return ⟨connectionSerialNumber, originatorVendorId, originatorSerialNumber⟩

namespace Stack

def reportConnection (service : UInt8) (test : CipConnectionObject → Bool) (stack : Stack config) :
    Response × Stack config :=
  let reply (generalStatus : UInt8) (message : List CipOctet) : Response :=
    { replyService := 0x80 ||| service
      generalStatus
      additionalStatus := []
      message
      addressInfoItems := stack.addressInfoItems.returned }
  match stack.findConnection test with
  | some slot => (reply kCipErrorSuccess (assembleConnectionDataResponseMessage (stack.object slot)), stack)
  | none => (reply kCipErrorPathDestinationUnknown [], stack)

def getConnectionData (request : Request) (stack : Stack config) : Except Fault (Response × Stack config) :=
  let (connectionNumber, _) := getUintFromMessage.run request.data
  .ok ({ stack with addressInfoItems := request.addressInfoItems }.reportConnection kGetConnectionData
    (·.connectionNumber == connectionNumber))

def searchConnectionData (request : Request) (stack : Stack config) : Except Fault (Response × Stack config) :=
  let (triad, _) := readConnectionTriad.run request.data
  .ok ({ stack with addressInfoItems := request.addressInfoItems }.reportConnection kSearchConnectionData
    (·.connectionTriad == triad))

end Stack

end EtherNetIP
