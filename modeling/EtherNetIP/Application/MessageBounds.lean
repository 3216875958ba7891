import EtherNetIP.Application.DataExchange
import EtherNetIP.Cip.ProducedFrame
import EtherNetIP.Cip.TransportRouting

/-! What is written into the message buffer.

The byte array of an assembly is as long as its memory at most, but up to 65535
octets, and neither the encoder of the array nor that of the frames looks at
the room in the message. A Forward Open compares the size of the connection with
that of the assembly alone.
-/

set_option autoImplicit false

namespace EtherNetIP

open Library CipConnectionObject

variable {config : Configuration}

def EnipMessage.Within (message : EnipMessage) : Prop := message.messageBuffer.length = PC_OPENER_ETHERNET_BUFFER_SIZE

instance (message : EnipMessage) : Decidable message.Within := inferInstanceAs (Decidable (_ = _))

theorem EnipMessage.initialized_within_iff (octets : List CipOctet) :
    (EnipMessage.initialized.add octets).Within ↔ octets.length ≤ PC_OPENER_ETHERNET_BUFFER_SIZE := by
  rw [Within, initialized_add, List.length_append, List.length_replicate]
  omega

/-- A path to the assembly class comes with a T→O size that leaves room for the headers of the frames. -/
def Request.FrameFits (isLfo : Bool) (request : Request) : Prop :=
  request.pathClass isLfo = kCipAssemblyClassCode → (request.header isLfo).getTToOConnectionType ≠ .null →
    Stack.frameLength (request.header isLfo) ≤ PC_OPENER_ETHERNET_BUFFER_SIZE

instance (isLfo : Bool) (request : Request) : Decidable (request.FrameFits isLfo) :=
  inferInstanceAs (Decidable (_ → _ → _))

namespace Stack

variable {stack : Stack config} {slot : Slot config}

def FrameFits (slot : Slot config) (object : CipConnectionObject) : Prop :=
  slot.instanceType ≠ .explicitMessaging → object.getTToOConnectionType ≠ .null →
    frameLength object ≤ PC_OPENER_ETHERNET_BUFFER_SIZE

theorem frameFits_decided : DecidedByRequest (@FrameFits config) fun isLfo request => request.FrameFits isLfo where
  lasts := by
    intro slot before after fits same io produces
    rw [← same.eq frameLength fun _ => rfl]
    exact fits io (same.eq getTToOConnectionType (fun _ => rfl) ▸ produces)
  opens := by
    intro stack asked isLfo request slot object admission opened
    have type : object.getTToOConnectionType = (request.header isLfo).getTToOConnectionType :=
      (opened.serves.eq getTToOConnectionType fun _ => rfl).symm.trans
        (admitted_reads admission getTToOConnectionType (fun _ => rfl) fun _ _ => rfl)
    have length : frameLength object = frameLength (request.header isLfo) :=
      (opened.serves.eq frameLength fun _ => rfl).symm.trans
        (admitted_reads admission frameLength (fun _ => rfl) fun _ _ => rfl)
    rw [FrameFits, Request.FrameFits, type, length, ← (admitted_names admission).2.configuration]
    rcases opened.entry with ⟨explicit, router⟩ | ⟨io, assembly⟩
    · exact ⟨fun _ point => absurd (router.symm.trans point) (by decide), fun _ io => absurd explicit io⟩
    · exact ⟨fun fits _ => fits io, fun fits _ => fits assembly⟩
  nothing := by
    intro stack asked isLfo request admission zero point
    rw [← (admitted_names admission).2.configuration, zero] at point
    exact absurd point (by decide)

def SendsWithin (stack : Stack config) (slot : Slot config) : Prop :=
  ∀ leftOver, ∃ message, stack.ioMessage slot leftOver = .ok message ∧ message.Within

theorem sendsWithin_iff (reached : Reached stack) (io : slot.instanceType ≠ .explicitMessaging)
    (listed : slot ∈ stack.connectionList.toList) (produces : (stack.object slot).getTToOConnectionType ≠ .null) :
    stack.SendsWithin slot ↔ frameLength (stack.object slot) ≤ PC_OPENER_ETHERNET_BUFFER_SIZE := by
  have message (leftOver : CipCommonPacketFormatData) : ∃ message, stack.ioMessage slot leftOver = .ok message ∧
      (message.Within ↔ frameLength (stack.object slot) ≤ PC_OPENER_ETHERNET_BUFFER_SIZE) := by
    obtain ⟨length, small, _, size, written⟩ := reached.ioMessage io listed produces leftOver
    refine ⟨_, written, ?_⟩
    rw [EnipMessage.initialized_within_iff, ioPacket_length small size]
    exact Iff.rfl
  constructor
  · intro sends
    obtain ⟨written, done, fits⟩ := message SampleApplication.noItems
    obtain ⟨other, same, within⟩ := sends SampleApplication.noItems
    rw [done] at same
    cases same
    exact fits.mp within
  · intro fits leftOver
    obtain ⟨written, done, within⟩ := message leftOver
    exact ⟨written, done, within.mpr fits⟩

/-- In all states of a run all frames that can be sent fit the message buffer. -/
def FramesWithin (stack : Stack config) : Prop :=
  ∀ slot ∈ stack.connectionList.toList, slot.instanceType ≠ .explicitMessaging →
    (stack.object slot).getTToOConnectionType ≠ .null → stack.SendsWithin slot

theorem framesWithin_iff (reached : Reached stack) : stack.FramesWithin ↔ HoldsOfListed FrameFits stack := by
  refine forall_congr' fun slot => forall_congr' fun listed => forall_congr' fun io => forall_congr' fun produces => ?_
  exact sendsWithin_iff reached io listed produces

end Stack

namespace Application

variable {app : Application} {assembly : Assembly}

theorem getAttributeSingle_within_iff (sound : Sound app) (listed : assembly ∈ app.assemblies) :
    (∀ attributeNumber, (app.getAttributeSingle assembly attributeNumber).1.message.Within) ↔
      assembly.length.toNat ≤ PC_OPENER_ETHERNET_BUFFER_SIZE := by
  have array : (app.getAttributeSingle assembly 3).1.message.Within ↔
      assembly.length.toNat ≤ PC_OPENER_ETHERNET_BUFFER_SIZE := by
    have content : (app.beforeAssemblyDataSend assembly).content assembly = app.content assembly := by
      unfold beforeAssemblyDataSend
      split <;> rfl
    change (EnipMessage.initialized.add ((app.beforeAssemblyDataSend assembly).content assembly)).Within ↔ _
    rw [EnipMessage.initialized_within_iff, content, sound.content_length listed]
  constructor
  · intro all
    exact array.mp (all 3)
  · intro short attributeNumber
    by_cases three : attributeNumber = 3
    · exact three ▸ array.mpr short
    · unfold getAttributeSingle
      rw [if_neg three]
      split
      · exact (EnipMessage.initialized_within_iff _).mpr (by simp [addIntToMessage, PC_OPENER_ETHERNET_BUFFER_SIZE])
      · exact List.length_replicate

open Stack in
/-- No assembly is longer than its memory. What is written of them stays in the message buffer exactly if none is
longer than the buffer, and no accepted request asks for longer frames. -/
theorem messages_within_iff (reached : Reached app) (base : Configuration)
    (assemblyData : CipInstanceNum → List CipOctet) (timeout : UInt16) (operations : List Operation) :
    (∀ assembly ∈ app.assemblies, assembly.length.toNat ≤ (app.memory assembly.data).length) ∧
      (((∀ assembly ∈ app.assemblies, ∀ attributeNumber,
          (app.getAttributeSingle assembly attributeNumber).1.message.Within) ∧
        ∀ count left, (operations.take count).foldlM Stack.step
          (Stack.initialized (app.configure base) assemblyData timeout) = .ok left → left.FramesWithin) ↔
      (∀ assembly ∈ app.assemblies, assembly.length.toNat ≤ PC_OPENER_ETHERNET_BUFFER_SIZE) ∧
        Along Stack.step (AcceptedMeets fun isLfo request => request.FrameFits isLfo)
          (Stack.initialized (app.configure base) assemblyData timeout) operations) := by
  have sound := reached.sound
  refine ⟨sound.lengths, and_congr ?_ ?_⟩
  · exact forall_congr' fun assembly => forall_congr' fun listed => getAttributeSingle_within_iff sound listed
  · rw [← frameFits_decided.throughout_iff]
    refine forall_congr' fun count => forall_congr' fun left => forall_congr' fun run => ?_
    exact framesWithin_iff ⟨assemblyData, timeout, operations.take count, run⟩

section Sizes

open SampleApplication

theorem reached_withInputs : Reached (withInputs (List.replicate 128 0) [0, 0, 0, 0]) :=
  ⟨upWithFourOctets, by decide +kernel⟩

/-- With four octets of inputs and outputs everything stays in the buffer when an exclusive owner is opened. -/
theorem four_octets_within :
    ∃ left : Stack ((withInputs (List.replicate 128 0) [0, 0, 0, 0]).configure configuration),
      [Operation.forwardOpen (openIo 1 (pointToPoint 4) (pointToPoint 4) 101 102)].foldlM Stack.step (start _) =
        .ok left ∧ left.connectionList.toList ≠ [] ∧ left.FramesWithin := by
  let operations := [Operation.forwardOpen (openIo 1 (pointToPoint 4) (pointToPoint 4) 101 102)]
  have opens : (match operations.foldlM Stack.step
      (start ((withInputs (List.replicate 128 0) [0, 0, 0, 0]).configure configuration)) with
      | .ok left => decide (left.connectionList.toList ≠ [])
      | .error _ => false) = true := by decide +kernel
  split at opens
  · rename_i left run
    have fits : (openIo 1 (pointToPoint 4) (pointToPoint 4) 101 102).FrameFits false := by decide +kernel
    have along : Along Stack.step (Stack.AcceptedMeets fun isLfo request => request.FrameFits isLfo)
        (start ((withInputs (List.replicate 128 0) [0, 0, 0, 0]).configure configuration)) operations := by
      refine ⟨fun isLfo request response after asks _ _ => ?_, fun _ _ => trivial⟩
      cases asks
      exact fits
    have within := (messages_within_iff reached_withInputs configuration _ 120 operations).2.mpr ⟨by decide, along⟩
    exact ⟨left, run, of_decide_eq_true opens, within.2 1 left run⟩
  · cases opens

/-- Inputs of 500 octets make frames that are longer than the buffer, and outputs of 600 octets a reply that is. -/
theorem messages_beyond_buffer :
    ∃ app, Reached app ∧ (∃ assembly ∈ app.assemblies, ¬ (app.getAttributeSingle assembly 3).1.message.Within) ∧
      ∃ stack : Stack (app.configure configuration), Stack.Reached stack ∧ ¬ stack.FramesWithin := by
  let settings : AssemblySettings := ⟨102, 101, 103, 500, 600, 4⟩
  let app : Application :=
    { loaded with
      settings, started := settings
      heap := [List.replicate 500 0, List.replicate 600 0, List.replicate 4 0]
      assemblies := [⟨102, 500, .block 0⟩, ⟨101, 600, .block 1⟩, ⟨103, 4, .block 2⟩, ⟨152, 0, .null⟩, ⟨153, 0, .null⟩,
        ⟨154, 32, .assemblyData09A⟩] }
  have reached : Reached app := ⟨[.setAssemblyData settings, .start fun _ size => size < 1024], by decide +kernel⟩
  have opens : ends [.forwardOpen (openIo 1 (pointToPoint 0) (pointToPoint 500) 152 102)]
      (fun stack : Stack (app.configure configuration) => decide (∃ slot ∈ stack.connectionList.toList,
        slot.instanceType ≠ .explicitMessaging ∧ (stack.object slot).getTToOConnectionType ≠ .null ∧
          ¬ Stack.frameLength (stack.object slot) ≤ PC_OPENER_ETHERNET_BUFFER_SIZE)) = true := by decide +kernel
  obtain ⟨stack, stackReached, shown⟩ := exists_of_ends opens
  obtain ⟨slot, listed, io, produces, long⟩ := of_decide_eq_true shown
  refine ⟨app, reached, ⟨⟨101, 600, .block 1⟩, by decide, by decide +kernel⟩, stack, stackReached, fun within => ?_⟩
  exact long ((Stack.sendsWithin_iff stackReached io listed produces).mp (within slot listed io produces))

end Sizes

end Application

end EtherNetIP
