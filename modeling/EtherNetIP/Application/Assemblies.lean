import EtherNetIP.Library.Machine
import EtherNetIP.Cip.MessageRouter
import EtherNetIP.Encap.EnipMessage

/-! The assemblies of the sample application.

The application hands numbers and sizes over before it starts the stack. A start
allocates a buffer for each of its three assemblies, to which their data
attribute points from then on; the arrays the application was once built with
are still there beside them. Frames are filled from the attribute, received
data go to it, and what is about to be sent is shown to the application first.
-/

set_option autoImplicit false

namespace EtherNetIP

open Library

def DEMO_APP_HEARTBEAT_INPUT_ONLY_ASSEMBLY_NUM : CipInstanceNum := 152
def DEMO_APP_HEARTBEAT_LISTEN_ONLY_ASSEMBLY_NUM : CipInstanceNum := 153
def DEMO_APP_EXPLICT_ASSEMBLY_NUM : CipInstanceNum := 154
def ASSEMBLY_SIZE : Nat := 128

def kCipErrorAttributeNotSetable : UInt8 := 0x0E
def kCipErrorAttributeNotSupported : UInt8 := 0x14

structure AssemblySettings where
  inputAssemblyNum : Int32
  outputAssemblyNum : Int32
  configAssemblyNum : Int32
  inputSize : Int32
  outputSize : Int32
  configSize : Int32
  deriving DecidableEq, Repr

def instanceNum (number : Int32) : CipInstanceNum := number.toUInt32.toUInt16

/-- An `int` as a `size_t`; a negative one becomes very large. -/
def sizeBytes (size : Int32) : UInt64 := size.toInt64.toUInt64

/-- Where the octets of an assembly are: nowhere, in `g_assembly_data09A`, or in a block of the heap. -/
inductive DataPointer where
  | null
  | assemblyData09A
  | block (index : Nat)
  deriving DecidableEq, Repr

structure Assembly where
  instanceNumber : CipInstanceNum
  length : UInt16
  data : DataPointer
  deriving DecidableEq, Repr

/-- The application and the assembly class. The blocks of the heap are never freed. -/
structure Application where
  settings : AssemblySettings
  /-- The settings of the last start. -/
  started : AssemblySettings
  assemblyData064 : List CipOctet
  assemblyData09A : List CipOctet
  heap : List (List CipOctet)
  assemblies : List Assembly
  /-- The arrays `sendDataToJavaFromCPPWrapper` has handed over, each with the assembly it was called for; the
  newest first. -/
  handedToJava : List (CipInstanceNum × List CipOctet)
  deriving DecidableEq, Repr

namespace Application

/-- The globals of the library as it is loaded. -/
def loaded : Application where
  settings := ⟨0, 0, 0, 0, 0, 0⟩
  started := ⟨0, 0, 0, 0, 0, 0⟩
  assemblyData064 := List.replicate ASSEMBLY_SIZE 0
  assemblyData09A := List.replicate 32 0
  heap := []
  assemblies := []
  handedToJava := []

section Memory

def memory (app : Application) : DataPointer → List CipOctet
  | .null => []
  | .assemblyData09A => app.assemblyData09A
  | .block index => app.heap.getD index []

def content (app : Application) (assembly : Assembly) : List CipOctet :=
  (app.memory assembly.data).take assembly.length.toNat

def copyTo (app : Application) (octets : List CipOctet) : DataPointer → Application
  | .null => app
  | .assemblyData09A => { app with assemblyData09A := octets ++ app.assemblyData09A.drop octets.length }
  | .block index => { app with heap := app.heap.modify index fun block => octets ++ block.drop octets.length }

end Memory

section SetUp

def getCipInstance (app : Application) (instanceNumber : CipInstanceNum) : Option Assembly :=
  app.assemblies.find? (·.instanceNumber == instanceNumber)

/-- Number zero is the class, whose attributes are all taken, like those of an instance that exists: it is asserted
that there is room for another. -/
def createAssemblyObject (app : Application) (instanceId : CipInstanceNum) (data : DataPointer)
    (dataLength : UInt16) : Except Fault Application :=
  if instanceId = 0 ∨ (app.getCipInstance instanceId).isSome then .error .assertion
  else .ok { app with assemblies := app.assemblies ++ [⟨instanceId, dataLength, data⟩] }

/-- `allocates` is the answer of `malloc`. The block is cleared as a whole, the length is cut to 16 bits. -/
def createDynamicAssembly (app : Application) (allocates : UInt64 → Bool) (inst : CipInstanceNum)
    (sizeBytes : UInt64) : Except Fault Application :=
  if allocates sizeBytes then
    let buffer := DataPointer.block app.heap.length
    { app with heap := app.heap ++ [List.replicate sizeBytes.toNat 0] }.createAssemblyObject inst buffer
      sizeBytes.toUInt16
  else .ok app

def applicationInitialization (app : Application) (malloc : Fin 3 → UInt64 → Bool) : Except Fault Application := do
  let settings := app.settings
  let app ← app.createDynamicAssembly (malloc 0) (instanceNum settings.inputAssemblyNum) (sizeBytes settings.inputSize)
  let app ← app.createDynamicAssembly (malloc 1) (instanceNum settings.outputAssemblyNum)
    (sizeBytes settings.outputSize)
  let app ← app.createDynamicAssembly (malloc 2) (instanceNum settings.configAssemblyNum)
    (sizeBytes settings.configSize)
  let app ← app.createAssemblyObject DEMO_APP_HEARTBEAT_INPUT_ONLY_ASSEMBLY_NUM .null 0
  let app ← app.createAssemblyObject DEMO_APP_HEARTBEAT_LISTEN_ONLY_ASSEMBLY_NUM .null 0
  let app ← app.createAssemblyObject DEMO_APP_EXPLICT_ASSEMBLY_NUM .assemblyData09A 32
  return { app with started := settings }

/-- The end of the stack deletes the instances; the blocks stay allocated. -/
def shutdownAssemblies (app : Application) : Application := { app with assemblies := [] }

def configure (app : Application) (base : Configuration) : Configuration :=
  let settings := app.started
  let point (output : UInt32) : ConnectionPoint :=
    ⟨output, settings.inputAssemblyNum.toUInt32, settings.configAssemblyNum.toUInt32⟩
  { base with
    exclusiveOwnerConnections := [point settings.outputAssemblyNum.toUInt32]
    inputOnlyConnections := [point DEMO_APP_HEARTBEAT_INPUT_ONLY_ASSEMBLY_NUM.toUInt32]
    listenOnlyConnections := [point DEMO_APP_HEARTBEAT_LISTEN_ONLY_ASSEMBLY_NUM.toUInt32]
    assemblies := app.assemblies.map fun assembly => (assembly.instanceNumber, assembly.length.toNat) }

end SetUp

section Values

/-- An array of another length is ignored. -/
def setInputValues (app : Application) (values : List CipOctet) : Application :=
  if values.length = ASSEMBLY_SIZE then { app with assemblyData064 := values } else app

/-- The content of the assembly is handed over before it is sent or read. -/
def beforeAssemblyDataSend (app : Application) (assembly : Assembly) : Application :=
  if assembly.data ≠ .null then
    { app with handedToJava := (assembly.instanceNumber, app.content assembly) :: app.handedToJava }
  else app

def sendConnectedData (app : Application) (producingInstance : CipInstanceNum) :
    Except Fault (List CipOctet × Application) :=
  match app.getCipInstance producingInstance with
  | none => .error .nullInstance
  | some assembly =>
      let app := app.beforeAssemblyDataSend assembly
      .ok (app.content assembly, app)

/-- Data of another length are not accepted. -/
def notifyAssemblyConnectedDataReceived (app : Application) (consumingInstance : CipInstanceNum)
    (data : List CipOctet) : Except Fault Application :=
  match app.getCipInstance consumingInstance with
  | none => .error .nullInstance
  | some assembly =>
      if assembly.length.toNat ≠ data.length then .ok app else .ok (app.copyTo data assembly.data)

end Values

section Attributes

structure AttributeReply where
  generalStatus : UInt8
  message : EnipMessage

def encodeCipByteArray (app : Application) (assembly : Assembly) (message : EnipMessage) : EnipMessage :=
  message.add (app.content assembly)

/-- `GetAttributeSingle` of an instance. Attribute 4 is the length of attribute 3. -/
def getAttributeSingle (app : Application) (assembly : Assembly) (attributeNumber : UInt16) :
    AttributeReply × Application :=
  if attributeNumber = 3 then
    let app := app.beforeAssemblyDataSend assembly
    (⟨kCipErrorSuccess, app.encodeCipByteArray assembly .initialized⟩, app)
  else if attributeNumber = 4 then
    (⟨kCipErrorSuccess, EnipMessage.initialized.add (addIntToMessage assembly.length)⟩, app)
  else (⟨kCipErrorAttributeNotSupported, .initialized⟩, app)

def setAttributeSingle (app : Application) (assembly : Assembly) (attributeNumber : UInt16) (data : List CipOctet) :
    AttributeReply × Application :=
  if attributeNumber = 3 then
    if data.length < assembly.length.toNat then (⟨kCipErrorNotEnoughData, .initialized⟩, app)
    else if data.length > assembly.length.toNat then (⟨kCipErrorTooMuchData, .initialized⟩, app)
    else (⟨kCipErrorSuccess, .initialized⟩, app.copyTo data assembly.data)
  else if attributeNumber = 4 then (⟨kCipErrorAttributeNotSetable, .initialized⟩, app)
  else (⟨kCipErrorAttributeNotSupported, .initialized⟩, app)

end Attributes

inductive Access where
  | setAssemblyData (settings : AssemblySettings)
  | setInputValues (values : List CipOctet)
  | start (malloc : Fin 3 → UInt64 → Bool)
  | shutdown
  | sendConnectedData (producingInstance : CipInstanceNum)
  | receiveConnectedData (consumingInstance : CipInstanceNum) (data : List CipOctet)
  | getAttributeSingle (instanceNumber : CipInstanceNum) (attributeNumber : UInt16)
  | setAttributeSingle (instanceNumber : CipInstanceNum) (attributeNumber : UInt16) (data : List CipOctet)

/-- A service of an instance that does not exist is refused without any effect here. -/
def step (app : Application) : Access → Except Fault Application
  | .setAssemblyData settings => .ok { app with settings }
  | .setInputValues values => .ok (app.setInputValues values)
  | .start malloc => app.applicationInitialization malloc
  | .shutdown => .ok app.shutdownAssemblies
  | .sendConnectedData producingInstance => (app.sendConnectedData producingInstance).map Prod.snd
  | .receiveConnectedData consumingInstance data => app.notifyAssemblyConnectedDataReceived consumingInstance data
  | .getAttributeSingle instanceNumber attributeNumber =>
      match app.getCipInstance instanceNumber with
      | none => .ok app
      | some assembly => .ok (app.getAttributeSingle assembly attributeNumber).2
  | .setAttributeSingle instanceNumber attributeNumber data =>
      match app.getCipInstance instanceNumber with
      | none => .ok app
      | some assembly => .ok (app.setAttributeSingle assembly attributeNumber data).2

end Application

end EtherNetIP
