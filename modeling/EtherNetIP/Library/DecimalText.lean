import Mathlib.Algebra.Order.Ring.Int
import Mathlib.Data.List.Basic

/-! Numbers in a text.

A number is read by passing over the blanks in front of it, a sign, and as many
digits as there are. A list of numbers is read up to a count, each one but the
last with a separator directly behind it. What has been printed is read back, and
from a front of it come numbers none of which is greater than the one printed.
-/

set_option autoImplicit false

namespace EtherNetIP.Library.DecimalText

section Printing

def printed (separator : Char) (behind : List Char) : List Nat → List Char
  | [] => behind
  | [number] => ' ' :: (Nat.toDigits 10 number ++ behind)
  | number :: next :: rest =>
      ' ' :: (Nat.toDigits 10 number ++ separator :: printed separator behind (next :: rest))

end Printing

section Reading

def isSpace (character : Char) : Bool := character.toNat = 32 || 9 ≤ character.toNat && character.toNat ≤ 13

structure Numeral where
  negative : Bool
  magnitude : Nat
  deriving DecidableEq, Repr

def readSign : List Char → Bool × List Char
  | '-' :: rest => (true, rest)
  | '+' :: rest => (false, rest)
  | text => (false, text)

/-- A number behind blanks; without a digit there is none. -/
def readNumeral (text : List Char) : Option (Numeral × List Char) :=
  let (negative, text) := readSign (text.dropWhile isSpace)
  let digits := text.takeWhile Char.isDigit
  if digits = [] then none
  else some (⟨negative, Nat.ofDigitChars 10 digits 0⟩, text.dropWhile Char.isDigit)

def readNumerals (separator : Char) : Nat → List Char → List Numeral
  | 0, _ => []
  | count + 1, text =>
      match readNumeral text with
      | none => []
      | some (numeral, []) => [numeral]
      | some (numeral, next :: rest) =>
          if next = separator then numeral :: readNumerals separator count rest else [numeral]

end Reading

section RoundTrip

variable {number : Nat} {separator : Char} {rest behind : List Char}

theorem isSpace_of_isDigit {character : Char} (digit : character.isDigit) : isSpace character = false := by
  unfold Char.isDigit at digit
  unfold isSpace
  simp only [ge_iff_le, Bool.and_eq_true, decide_eq_true_eq, UInt32.le_iff_toNat_le] at digit
  have least : 48 ≤ character.toNat := digit.1
  simp only [Bool.or_eq_false_iff, Bool.and_eq_false_iff, decide_eq_false_iff_not]
  omega

theorem readSign_of_isDigit {character : Char} (digit : character.isDigit) :
    readSign (character :: rest) = (false, character :: rest) := by
  unfold readSign
  split
  · next same =>
      cases same
      cases digit
  · next same =>
      cases same
      cases digit
  · rfl

theorem readNumeral_digits {digits : List Char} (allDigits : ∀ character ∈ digits, character.isDigit)
    (some_digit : digits ≠ []) (ends : ∀ character ∈ rest.head?, character.isDigit = false) :
    readNumeral (' ' :: (digits ++ rest)) = some (⟨false, Nat.ofDigitChars 10 digits 0⟩, rest) := by
  obtain ⟨first, others, rfl⟩ := List.exists_cons_of_ne_nil some_digit
  have digit : first.isDigit := allDigits first List.mem_cons_self
  have blanks : List.dropWhile isSpace (' ' :: (first :: others ++ rest)) = first :: (others ++ rest) := by
    rw [List.dropWhile_cons_of_pos rfl]
    apply List.dropWhile_cons_of_neg
    simp [isSpace_of_isDigit digit]
  have stops : rest.takeWhile Char.isDigit = [] ∧ rest.dropWhile Char.isDigit = rest := by
    cases rest with
    | nil => exact ⟨rfl, rfl⟩
    | cons next rest => simp [ends next rfl]
  have taken : List.takeWhile Char.isDigit (first :: others ++ rest) = first :: others := by
    rw [List.takeWhile_append_of_pos allDigits, stops.1, List.append_nil]
  have dropped : List.dropWhile Char.isDigit (first :: others ++ rest) = rest := by
    rw [List.dropWhile_append_of_pos allDigits, stops.2]
  unfold readNumeral
  rw [blanks, readSign_of_isDigit digit]
  dsimp only
  rw [← List.cons_append, taken, dropped, if_neg some_digit]

theorem toDigits_isDigit (number : Nat) : ∀ character ∈ Nat.toDigits 10 number, character.isDigit :=
  fun _ listed => Nat.isDigit_of_mem_toDigits (by decide) (by decide) listed

theorem separator_ends (separates : separator.isDigit = false) :
    ∀ character ∈ (separator :: rest).head?, character.isDigit = false := by
  intro character first
  cases first
  exact separates

theorem readNumeral_printed (ends : ∀ character ∈ rest.head?, character.isDigit = false) :
    readNumeral (' ' :: (Nat.toDigits 10 number ++ rest)) = some (⟨false, number⟩, rest) := by
  rw [readNumeral_digits (toDigits_isDigit number) Nat.toDigits_ne_nil ends, Nat.ofDigitChars_ten_toDigits]

theorem readNumerals_printed (separates : separator.isDigit = false)
    (ends : ∀ character ∈ behind.head?, character.isDigit = false ∧ character ≠ separator)
    (numbers : List Nat) (listed : numbers ≠ []) :
    readNumerals separator numbers.length (printed separator behind numbers) = numbers.map (⟨false, ·⟩) := by
  induction numbers with
  | nil => exact absurd rfl listed
  | cons number numbers hyp =>
      cases numbers with
      | nil =>
          have read := @readNumeral_printed number behind fun character first => (ends character first).1
          unfold printed
          rw [List.length_singleton, readNumerals, read]
          cases behind with
          | nil => rfl
          | cons next rest =>
              dsimp only
              rw [if_neg (ends next rfl).2]
              rfl
      | cons next rest =>
          have others := hyp (List.cons_ne_nil next rest)
          unfold printed
          rw [List.length_cons, readNumerals, readNumeral_printed (separator_ends separates)]
          dsimp only
          rw [if_pos rfl, others]
          rfl

end RoundTrip

section Fronts

variable {number : Nat} {separator : Char} {rest behind : List Char}

theorem ofDigitChars_le (digits : List Char) (start : Nat) : start ≤ Nat.ofDigitChars 10 digits start := by
  induction digits generalizing start with
  | nil => simp
  | cons digit digits hyp =>
      rw [Nat.ofDigitChars_cons]
      have step := hyp (10 * start + (digit.toNat - '0'.toNat))
      omega

theorem ofDigitChars_take_le (number length : Nat) :
    Nat.ofDigitChars 10 ((Nat.toDigits 10 number).take length) 0 ≤ number := by
  have whole := @Nat.ofDigitChars_ten_toDigits number
  rw [← List.take_append_drop length (Nat.toDigits 10 number), Nat.ofDigitChars_append] at whole
  calc Nat.ofDigitChars 10 ((Nat.toDigits 10 number).take length) 0
    _ ≤ Nat.ofDigitChars 10 ((Nat.toDigits 10 number).drop length) _ := ofDigitChars_le _ _
    _ = number := whole

theorem mem_head?_of_take {text : List Char} {length : Nat} {character : Char}
    (first : character ∈ (text.take length).head?) : character ∈ text.head? := by
  rw [List.head?_take] at first
  split at first
  · cases first
  · exact first

/-- From a front of a text that begins with a printed number comes nothing, a number that is not greater and with
which the front ends, or the number itself and a front of what stands behind it. -/
theorem readNumeral_front (ends : ∀ character ∈ rest.head?, character.isDigit = false) (length : Nat) :
    readNumeral ((' ' :: (Nat.toDigits 10 number ++ rest)).take length) = none ∨
      (∃ least ≤ number,
        readNumeral ((' ' :: (Nat.toDigits 10 number ++ rest)).take length) = some (⟨false, least⟩, [])) ∨
      ∃ shorter, readNumeral ((' ' :: (Nat.toDigits 10 number ++ rest)).take length) =
        some (⟨false, number⟩, rest.take shorter) := by
  -- The cut is in front of the blank, behind it, or behind at least one digit.
  obtain _ | _ | kept := length
  · exact .inl rfl
  · exact .inl rfl
  · rw [List.take_succ_cons, List.take_append]
    obtain within | beyond := Nat.le_total (kept + 1) (Nat.toDigits 10 number).length
    · right
      left
      refine ⟨_, ofDigitChars_take_le number (kept + 1), ?_⟩
      rw [Nat.sub_eq_zero_of_le within, List.take_zero]
      apply readNumeral_digits
      · intro character listed
        exact toDigits_isDigit number character (List.mem_of_mem_take listed)
      · intro empty
        have none_left := congrArg List.length empty
        rw [List.length_take_of_le within] at none_left
        cases none_left
      · intro character first
        cases first
    · right
      right
      refine ⟨kept + 1 - (Nat.toDigits 10 number).length, ?_⟩
      rw [List.take_of_length_le beyond]
      apply readNumeral_printed
      intro character first
      exact ends character (mem_head?_of_take first)

theorem readNumerals_front (separates : separator.isDigit = false)
    (ends : ∀ character ∈ behind.head?, character.isDigit = false ∧ character ≠ separator)
    (numbers : List Nat) (listed : numbers ≠ []) (length : Nat) :
    ∃ found : List Nat,
      readNumerals separator numbers.length ((printed separator behind numbers).take length) =
        found.map (⟨false, ·⟩) ∧
      List.Forall₂ (· ≤ ·) found (numbers.take found.length) := by
  induction numbers generalizing length with
  | nil => exact absurd rfl listed
  | cons number numbers hyp =>
      cases numbers with
      | nil =>
          unfold printed
          rw [List.length_singleton, readNumerals]
          obtain nothing | ⟨least, most, cut⟩ | ⟨shorter, whole⟩ :=
            @readNumeral_front number behind (fun character first => (ends character first).1) length
          · rw [nothing]
            exact ⟨[], rfl, .nil⟩
          · rw [cut]
            exact ⟨[least], rfl, .cons most .nil⟩
          · rw [whole]
            refine ⟨[number], ?_, .cons (Nat.le_refl number) .nil⟩
            cases left : behind.take shorter with
            | nil => rfl
            | cons next rest =>
                have first : next ∈ (behind.take shorter).head? := by
                  rw [left]
                  rfl
                dsimp only
                rw [if_neg (ends next (mem_head?_of_take first)).2]
                rfl
      | cons next rest =>
          unfold printed
          rw [List.length_cons, readNumerals]
          obtain nothing | ⟨least, most, cut⟩ | ⟨shorter, whole⟩ :=
            @readNumeral_front number _ (separator_ends separates) length
          · rw [nothing]
            exact ⟨[], rfl, .nil⟩
          · rw [cut]
            exact ⟨[least], rfl, .cons most .nil⟩
          · rw [whole]
            -- Without the separator the number is the last one that is read.
            cases shorter with
            | zero => exact ⟨[number], rfl, .cons (Nat.le_refl number) .nil⟩
            | succ shorter =>
                obtain ⟨found, read, bounded⟩ := hyp (List.cons_ne_nil next rest) shorter
                refine ⟨number :: found, ?_, .cons (Nat.le_refl number) bounded⟩
                rw [List.take_succ_cons]
                dsimp only
                rw [if_pos rfl, read, List.map_cons]

end Fronts

end EtherNetIP.Library.DecimalText
