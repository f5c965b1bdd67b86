import Mathlib.Data.List.Basic

/-!
Decimal notation of integers, and texts that join several notations with a
separator: a text determines the numbers it was built from.
-/

namespace Decimal

def notation10 (value : Int) : List Char :=
  if value < 0 then '-' :: Nat.toDigits 10 value.natAbs else Nat.toDigits 10 value.natAbs

theorem isDigit_of_mem {value : Nat} {char : Char} (member : char ∈ Nat.toDigits 10 value) :
    char.isDigit = true :=
  Nat.isDigit_of_mem_toDigits (by decide) (by decide) member

theorem toDigits_injective {first second : Nat}
    (same : Nat.toDigits 10 first = Nat.toDigits 10 second) : first = second := by
  have read := congrArg (Nat.ofDigitChars 10 · 0) same
  simpa only [Nat.ofDigitChars_ten_toDigits] using read

theorem toDigits_ne_minus {value : Nat} {rest : List Char} :
    Nat.toDigits 10 value ≠ '-' :: rest := by
  intro same
  have minus : '-' ∈ Nat.toDigits 10 value := by rw [same]; exact List.mem_cons_self
  have digit : '-'.isDigit = true := isDigit_of_mem minus
  exact absurd digit (by decide)

theorem notation10_injective {first second : Int}
    (same : notation10 first = notation10 second) : first = second := by
  unfold notation10 at same
  split at same <;> split at same
  · have magnitudes := toDigits_injective (List.cons.inj same).2
    omega
  · exact absurd same.symm toDigits_ne_minus
  · exact absurd same toDigits_ne_minus
  · have magnitudes := toDigits_injective same
    omega

theorem notMem_notation10 {char : Char} (noDigit : char.isDigit = false) (noMinus : char ≠ '-')
    (value : Int) : char ∉ notation10 value := by
  have digits : char ∉ Nat.toDigits 10 value.natAbs := by
    intro member
    have digit := isDigit_of_mem member
    rw [noDigit] at digit
    exact absurd digit (by decide)
  unfold notation10
  split
  · intro member
    rcases List.mem_cons.mp member with minus | member
    · exact noMinus minus
    · exact digits member
  · exact digits

/-- Two texts with the same first separator have the same parts before and after it. -/
theorem split_at_separator {separator : Char} {first second restFirst restSecond : List Char}
    (firstFree : separator ∉ first) (secondFree : separator ∉ second)
    (same : first ++ separator :: restFirst = second ++ separator :: restSecond) :
    first = second ∧ restFirst = restSecond := by
  induction first generalizing second with
  | nil =>
      cases second with
      | nil => exact ⟨rfl, (List.cons.inj same).2⟩
      | cons char rest =>
          have head : separator = char := (List.cons.inj same).1
          exact absurd (List.mem_cons.mpr (Or.inl head)) secondFree
  | cons char rest ih =>
      cases second with
      | nil =>
          have head : char = separator := (List.cons.inj same).1
          exact absurd (List.mem_cons.mpr (Or.inl head.symm)) firstFree
      | cons other others =>
          obtain ⟨head, tail⟩ := List.cons.inj same
          obtain ⟨front, back⟩ := ih (fun member => firstFree (List.mem_cons_of_mem _ member))
            (fun member => secondFree (List.mem_cons_of_mem _ member)) tail
          exact ⟨by rw [head, front], back⟩

/-- Notations joined by a separator that occurs in none of them. -/
def join (separator : Char) : List Int → List Char
  | [] => []
  | [value] => notation10 value
  | value :: rest => notation10 value ++ separator :: join separator rest

theorem join_injective {separator : Char} (noDigit : separator.isDigit = false)
    (noMinus : separator ≠ '-') {first second : List Int} (sized : first.length = second.length)
    (same : join separator first = join separator second) : first = second := by
  have free := notMem_notation10 noDigit noMinus
  induction first generalizing second with
  | nil => exact (List.length_eq_zero_iff.mp sized.symm).symm
  | cons value rest ih =>
      cases second with
      | nil => simp at sized
      | cons other others =>
          have lengths : rest.length = others.length := by simpa using sized
          cases rest with
          | nil =>
              obtain rfl := List.length_eq_zero_iff.mp lengths.symm
              rw [notation10_injective same]
          | cons next rest =>
              cases others with
              | nil => simp at lengths
              | cons following others =>
                  obtain ⟨front, back⟩ := split_at_separator (free value) (free other) same
                  rw [notation10_injective front, ih lengths back]

end Decimal
