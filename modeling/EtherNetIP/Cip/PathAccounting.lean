import EtherNetIP.Cip.PathGrammar

/-! The place of the path parser and the words it takes to be left.

The parser moves its place by the octets of each segment and takes words off by
rules of its own. On regular paths the two agree at every stage, no octet behind
the path is looked at, and the paths accepted are the well-formed ones; on any
other path the first disagreement or the first look beyond the path is met.
-/

set_option autoImplicit false

namespace EtherNetIP

open Library CipConnectionObject

namespace PathStage

variable {config : Configuration} {connectionPathSize : UInt64} {stage : PathStage} {reader : PathReader}
  {behind : List CipOctet} {trailing : Nat} {now next : PathStage × PathReader} {regular formed : Prop}

/-- What the parser looks at does not reach into the octets that trail the path. -/
def Within (trailing : Nat) (place : PathStage × PathReader) : Prop :=
  looks place.1 place.2 + trailing ≤ place.2.message.length

def Accounted (trailing : Nat) (place : PathStage × PathReader) : Prop :=
  place.2.message.length = 2 * place.2.remainingPath.toNat + trailing

/-- Wherever the parser comes to, it looks at the path only and accounts for what is left of it. -/
def Clean (config : Configuration) (connectionPathSize : UInt64) (trailing : Nat) (now : PathStage × PathReader) :
    Prop :=
  ∀ place, Visits config connectionPathSize now place → Within trailing place ∧ Accounted trailing place

theorem clean_iff :
    Clean config connectionPathSize trailing now ↔
      (Within trailing now ∧ Accounted trailing now) ∧
        ∀ next, Next config connectionPathSize now next → Clean config connectionPathSize trailing next :=
  forall_visits_iff

section Behind

theorem looks_pos (stage : PathStage) {reader : PathReader} (looking : 0 < looks stage reader)
    (message : List CipOctet) : 0 < looks stage { reader with message } := by
  have long := logicalLength_pos message
  unfold looks at looking ⊢
  cases stage with
  | electronicKey =>
      dsimp only
      split
      · split <;> omega
      · split <;> omega
  | productionInhibitTime =>
      dsimp only at looking ⊢
      split at looking
      · omega
      · rename_i acyclic
        rw [if_neg acyclic]
        split <;> omega
  | classId | configurationInstance =>
      dsimp only
      split <;> omega
  | connectionPoints paths =>
      cases paths with
      | nil => exact looking
      | cons path rest =>
          dsimp only
          split <;> omega
  | segments =>
      dsimp only at looking ⊢
      split at looking
      · rename_i going
        rw [if_pos going]
        unfold dataSegmentLength
        split
        · omega
        · split <;> omega
      · omega
  | class3End | parsed => exact looking

theorem looks_followedBy (stage : PathStage) (reader : PathReader) (behind : List CipOctet) :
    looks stage (reader.followedBy behind) = looks stage reader ∨
      reader.message.length < looks stage (reader.followedBy behind) ∧ reader.message.length < looks stage reader := by
  -- with nothing left every look is beyond the message; else the first octet decides
  by_cases empty : reader.message = []
  · rcases Nat.eq_zero_or_pos (looks stage reader) with none | some_
    · left
      rw [none, ← Nat.le_zero, ← Nat.not_lt]
      intro looking
      exact absurd (looks_pos stage looking reader.message) (Nat.not_lt.mpr (Nat.le_zero.mpr none))
    · rw [empty]
      exact .inr ⟨looks_pos stage some_ _, some_⟩
  · have inside : 1 ≤ reader.message.length := List.length_pos_iff.mpr empty
    unfold looks PathReader.followedBy
    cases stage with
    | electronicKey =>
        dsimp only
        rw [startsElectronicKey_append inside]
        by_cases key : startsElectronicKey reader.message
        · rw [if_pos key]
          -- the format is in the second octet of the key
          by_cases two : 2 ≤ reader.message.length
          · rw [startsElectronicKeyFormat4_append inside fun _ => two]
            exact .inl rfl
          · right
            constructor
            · split <;> first | omega | (split <;> omega)
            · split <;> first | omega | (split <;> omega)
        · rw [startsElectronicKeyFormat4_append inside fun format => absurd format key]
          exact .inl rfl
    | productionInhibitTime =>
        dsimp only
        rw [startsProductionInhibitTime_append inside]
        exact .inl rfl
    | classId =>
        dsimp only
        rw [startsLogicalSegment_append inside, logicalLength_append inside]
        exact .inl rfl
    | configurationInstance =>
        dsimp only
        rw [startsLogicalSegment_append inside, logicalLength_append inside]
        exact .inl rfl
    | class3End => exact .inl rfl
    | connectionPoints paths =>
        cases paths with
        | nil => exact .inl rfl
        | cons path rest =>
            dsimp only
            rw [startsLogicalSegment_append inside, startsLogicalSegment_append inside, logicalLength_append inside]
            exact .inl rfl
    | segments =>
        dsimp only
        rw [getPathSegmentType_append inside, startsSimpleData_append inside,
          startsProductionInhibitTime_append inside]
        by_cases two : 2 ≤ reader.message.length
        · unfold dataSegmentLength
          rw [octetAt_append two]
          exact .inl rfl
        · unfold dataSegmentLength
          split
          · split
            · right
              omega
            · exact .inl rfl
          · exact .inl rfl
    | parsed => exact .inl rfl

theorem within_followedBy :
    Within behind.length (stage, reader.followedBy behind) ↔ Within 0 (stage, reader) := by
  change looks stage (reader.followedBy behind) + behind.length ≤ (reader.message ++ behind).length ↔
    looks stage reader + 0 ≤ reader.message.length
  have same := looks_followedBy stage reader behind
  rw [List.length_append]
  omega

end Behind

theorem clean_followedBy :
    Clean config connectionPathSize behind.length (stage, reader.followedBy behind) ↔
      Clean config connectionPathSize 0 (stage, reader) := by
  refine induction config connectionPathSize (motive := fun stage reader =>
    Clean config connectionPathSize behind.length (stage, reader.followedBy behind) ↔
      Clean config connectionPathSize 0 (stage, reader)) (fun stage reader later => ?_) stage reader
  refine clean_iff.trans (Iff.trans ?_ clean_iff.symm)
  have accounted : Accounted behind.length (stage, reader.followedBy behind) ↔ Accounted 0 (stage, reader) := by
    change (reader.message ++ behind).length = _ + behind.length ↔ reader.message.length = _ + 0
    rw [List.length_append]
    exact Nat.add_right_cancel_iff
  rw [within_followedBy, accounted]
  refine and_congr_right fun here => ?_
  have performs : perform config connectionPathSize stage (reader.followedBy behind) =
      followed behind (perform config connectionPathSize stage reader) := perform_followedBy here.1
  constructor
  · intro all next goes
    refine (later next goes).mp (all (next.1, next.2.followedBy behind) ⟨goes.1, ?_⟩)
    rw [performs, goes.2]
    rfl
  · intro all next goes
    have eq := goes.2
    dsimp only at eq
    rw [performs] at eq
    cases done : perform config connectionPathSize stage reader with
    | error refused =>
        rw [done] at eq
        cases eq
    | ok after =>
        rw [done] at eq
        cases eq
        exact (later after ⟨goes.1, done⟩).mpr (all after ⟨goes.1, done⟩)

/-- From here on the parser goes right exactly if the rest is regular, and then accepts what is well formed. -/
structure Judged (config : Configuration) (connectionPathSize : UInt64) (now : PathStage × PathReader)
    (regular formed : Prop) : Prop where
  clean : Clean config connectionPathSize 0 now ↔ regular
  accepts : regular → ((∃ after, parse config connectionPathSize now.1 now.2 = .ok after) ↔ formed)

namespace Judged

theorem congr (judged : Judged config connectionPathSize now regular formed) {regular' formed' : Prop}
    (sameRegular : regular ↔ regular') (sameFormed : regular → (formed ↔ formed')) :
    Judged config connectionPathSize now regular' formed' :=
  ⟨judged.clean.trans sameRegular, fun holds =>
    (judged.accepts (sameRegular.mpr holds)).trans (sameFormed (sameRegular.mpr holds))⟩

theorem beyond (outside : reader.message.length < looks stage reader) (irregular : ¬regular) :
    Judged config connectionPathSize (stage, reader) regular formed := by
  refine ⟨⟨fun clean => ?_, fun holds => absurd holds irregular⟩, fun holds => absurd holds irregular⟩
  have within : looks stage reader + 0 ≤ reader.message.length := (clean _ .refl).1
  omega

theorem refused {refused : Refusal × PathReader}
    (refuses : perform config connectionPathSize stage reader = .error refused)
    (within : looks stage reader ≤ reader.message.length)
    (words : reader.message.length = 2 * reader.remainingPath.toNat) (going : stage ≠ .parsed)
    (holds : regular) (malformed : ¬formed) : Judged config connectionPathSize (stage, reader) regular formed := by
  constructor
  · refine iff_of_true (clean_iff.mpr ⟨⟨within, words⟩, fun next goes => ?_⟩) holds
    have eq := goes.2
    dsimp only at eq
    rw [refuses] at eq
    cases eq
  · intro _
    rw [parse_eq going, refuses]
    refine iff_of_false (fun ok => ?_) malformed
    obtain ⟨after, eq⟩ := ok
    cases eq

theorem goes (performs : perform config connectionPathSize stage reader = .ok next)
    (within : looks stage reader ≤ reader.message.length)
    (words : reader.message.length = 2 * reader.remainingPath.toNat) (going : stage ≠ .parsed)
    (judged : Judged config connectionPathSize next regular formed) :
    Judged config connectionPathSize (stage, reader) regular formed := by
  constructor
  · rw [clean_iff, ← judged.clean]
    constructor
    · intro clean
      exact clean.2 next ⟨going, performs⟩
    · intro clean
      refine ⟨⟨within, words⟩, fun other goes => ?_⟩
      cases performs.symm.trans goes.2
      exact clean
  · intro holds
    rw [parse_eq going, performs]
    exact judged.accepts holds

theorem advance {octets : Nat} {words : UInt64} (small : words.toNat ≤ 256)
    (before : reader.message.length = 2 * reader.remainingPath.toNat) (inside : octets ≤ reader.message.length)
    (message : next.2.message = reader.message.drop octets)
    (remaining : next.2.remainingPath = reader.remainingPath - words)
    (judged : next.2.message.length = 2 * next.2.remainingPath.toNat →
      Judged config connectionPathSize next regular formed) :
    Judged config connectionPathSize next (octets = 2 * words.toNat ∧ regular) formed := by
  have length : next.2.message.length = reader.message.length - octets := by rw [message, List.length_drop]
  have bound := reader.remainingPath.toNat_lt
  have accounted : next.2.message.length = 2 * next.2.remainingPath.toNat ↔ octets = 2 * words.toNat := by
    rw [length, remaining, UInt64.toNat_sub]
    omega
  constructor
  · constructor
    · intro clean
      have same : next.2.message.length = 2 * next.2.remainingPath.toNat := (clean next .refl).2
      exact ⟨accounted.mp same, (judged same).clean.mp clean⟩
    · rintro ⟨same, holds⟩
      exact (judged (accounted.mpr same)).clean.mpr holds
  · rintro ⟨same, holds⟩
    exact (judged (accounted.mpr same)).accepts holds

end Judged

end PathStage

end EtherNetIP
