import EtherNetIP.Library.Streams

/-! Addresses a shared stream is sent to.

A member that shares a stream sends it to the address of all streams, also
after it has taken one over, and one that sends apart to an address that is
allowed for it. A hand-over gives the successor the address of the sender.
-/

set_option autoImplicit false

namespace EtherNetIP.Library.Members

variable {Key Input Identifier Address : Type} {before after : Members Key Input Identifier Address} {gone : Set Key}
  {key : Key} {member : Member Input Identifier Address} {home : Address} {elsewhere : Address → Prop}

/-- What is shared is sent to the address, and what is sent apart to one that is allowed for it. -/
def SentTo (home : Address) (elsewhere : Address → Prop) (member : Member Input Identifier Address) : Prop :=
  (member.shared = true → member.address = home) ∧
    (member.shared = false → member.holds = true → elsewhere member.address)

def Addressed (home : Address) (elsewhere : Address → Prop) (members : Members Key Input Identifier Address) : Prop :=
  ∀ key member, members key = some member → SentTo home elsewhere member

theorem Addressed.empty : Addressed home elsewhere (fun _ : Key => (none : Option (Member Input Identifier Address))) :=
  fun _ _ found => by cases found

theorem Addressed.leaves (addressed : Addressed home elsewhere before) (leaves : Leaves before after gone) : Addressed home elsewhere after :=
  fun key member found => addressed key member (leaves.was found).2

variable [DecidableEq Key]

theorem Addressed.update (addressed : Addressed home elsewhere before) (sentTo : SentTo home elsewhere member) :
    Addressed home elsewhere (Function.update before key (some member)) := by
  intro other entry found
  by_cases same : other = key
  · subst same
    rw [Function.update_self] at found
    cases found
    exact sentTo
  · rw [Function.update_of_ne same] at found
    exact addressed other entry found

theorem SentTo.release (sentTo : SentTo home elsewhere member) : SentTo home elsewhere member.release :=
  ⟨sentTo.1, fun _ holds => by cases holds⟩

theorem Addressed.rewrite (addressed : Addressed home elsewhere before) {earlier : Member Input Identifier Address}
    (found : before key = some earlier) (shared : member.shared = earlier.shared) (holds : member.holds = earlier.holds)
    (same : member.address = earlier.address) : Addressed home elsewhere (Function.update before key (some member)) := by
  have sentTo := addressed key earlier found
  refine addressed.update ⟨fun sharing => ?_, fun apart sends => ?_⟩
  · rw [same]
    exact sentTo.1 (shared ▸ sharing)
  · rw [same]
    exact sentTo.2 (shared ▸ apart) (holds ▸ sends)

theorem Addressed.handsOn (addressed : Addressed home elsewhere before) (handsOn : HandsOn before key after) :
    Addressed home elsewhere after := by
  cases handsOn with
  | passive own passive => exact addressed
  | @succeeded closing successor next own controls candidate succeeds =>
      have sender := addressed key closing own
      have successorSentTo : SentTo home elsewhere (closing.takeOver successor) := by
        refine ⟨fun _ => sender.1 controls.2.1, fun apart => ?_⟩
        have shared : successor.shared = true := succeeds.2.2.2.1
        exact absurd (shared.symm.trans apart) (by simp)
      exact (addressed.update successorSentTo).update sender.release
  | last own controls nobody leaves => exact addressed.leaves leaves

theorem Addressed.stable : Stable (Addressed home elsewhere : Members Key Input Identifier Address → Prop) where
  leaves := fun addressed leaves => addressed.leaves leaves
  handsOn := fun addressed handsOn => addressed.handsOn handsOn
  lapse := fun addressed found => addressed.rewrite found rfl rfl rfl

theorem Addressed.moves (addressed : Addressed home elsewhere before) (moves : Moves before after) :
    Addressed home elsewhere after := by
  cases moves with
  | same => exact addressed
  | sends found live holds => exact addressed.rewrite found rfl rfl rfl
  | closes closes => exact Addressed.stable.closes addressed closes
  | lapses lapses => exact Addressed.stable.lapses addressed lapses

theorem Addressed.joins (addressed : Addressed home elsewhere before) (sentTo : SentTo home elsewhere member)
    (joins : Joins before key member after) : Addressed home elsewhere after := by
  cases joins with
  | apart own => exact addressed.update sentTo
  | started shared nobody => exact addressed.update sentTo
  | joined shared found masters input waits same => exact addressed.update sentTo
  | takenOver shared found masters input owner holds same =>
      exact (addressed.update (addressed _ _ found).release).update sentTo

end EtherNetIP.Library.Members
