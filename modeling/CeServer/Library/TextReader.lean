import Mathlib.Data.List.Basic

/-!
Reading numbers, fields and lines back from text.
-/

namespace TextReader

section Numbers

def digitValue (char : Char) : Option Nat :=
  if '0' ≤ char ∧ char ≤ '9' then some (char.toNat - '0'.toNat)
  else if 'a' ≤ char ∧ char ≤ 'f' then some (char.toNat - 'a'.toNat + 10)
  else if 'A' ≤ char ∧ char ≤ 'F' then some (char.toNat - 'A'.toNat + 10)
  else none

def digit? (base : Nat) (char : Char) : Option Nat := (digitValue char).filter (· < base)

def readDigits (base : Nat) : Nat → List Char → Option Nat
  | value, [] => some value
  | value, char :: rest => do readDigits base (value * base + (← digit? base char)) rest

def readNumber (base : Nat) : List Char → Option Nat
  | [] => none
  | text => readDigits base 0 text

variable {base : Nat}

theorem digitValue_digitChar : ∀ value < 16, digitValue value.digitChar = some value := by
  decide

theorem digit?_digitChar {value : Nat} (below : value < base) (small : base ≤ 16) :
    digit? base value.digitChar = some value := by
  rw [digit?, digitValue_digitChar value (by omega), Option.filter_some]
  exact if_pos (decide_eq_true below)

theorem readDigits_append (value : Nat) (first second : List Char) :
    readDigits base value (first ++ second) =
      (readDigits base value first).bind fun value => readDigits base value second := by
  induction first generalizing value with
  | nil => rfl
  | cons char rest ih =>
      simp only [List.cons_append, readDigits]
      cases digit? base char with
      | none => rfl
      | some digit => exact ih _

theorem readDigits_toDigits (large : 1 < base) (small : base ≤ 16) (value : Nat) :
    readDigits base 0 (Nat.toDigits base value) = some value := by
  induction value using Nat.strongRecOn with
  | ind value ih =>
      by_cases single : value < base
      · rw [Nat.toDigits_of_lt_base single]
        simp [readDigits, digit?_digitChar single small]
      · have whole : base ≤ value := Nat.le_of_not_lt single
        have positive : 0 < value := by omega
        have last : value % base < base := Nat.mod_lt _ (by omega)
        rw [Nat.toDigits_of_base_le large whole, readDigits_append,
          ih _ (Nat.div_lt_self positive large), Option.bind_some]
        simp only [readDigits, digit?_digitChar last small, Option.bind_eq_bind, Option.bind_some]
        rw [Nat.div_add_mod']

theorem readDigits_zeros (large : 1 < base) (count : Nat) (text : List Char) :
    readDigits base 0 (List.replicate count '0' ++ text) = readDigits base 0 text := by
  induction count with
  | zero => rfl
  | succ count ih =>
      have zero : digit? base '0' = some 0 := by
        rw [digit?, show digitValue '0' = some 0 by decide, Option.filter_some]
        exact if_pos (decide_eq_true (Nat.zero_lt_of_lt large))
      simp [List.replicate_succ, readDigits, zero, ih]

/-- Leading zeros do not change a number. -/
theorem readNumber_leftpad (large : 1 < base) (small : base ≤ 16) (width value : Nat) :
    readNumber base (List.leftpad width '0' (Nat.toDigits base value)) = some value := by
  have digits : readDigits base 0 (List.leftpad width '0' (Nat.toDigits base value)) =
      some value := by
    rw [List.leftpad, readDigits_zeros large, readDigits_toDigits large small]
  cases shape : List.leftpad width '0' (Nat.toDigits base value) with
  | nil =>
      have none := (List.append_eq_nil_iff.mp shape).2
      exact absurd none Nat.toDigits_ne_nil
  | cons char rest =>
      rw [shape] at digits
      exact digits

theorem notMem_toDigits (small : base ≤ 16) {char : Char} (noDigit : digitValue char = none)
    (large : 1 < base) (value : Nat) : char ∉ Nat.toDigits base value := by
  induction value using Nat.strongRecOn with
  | ind value ih =>
      have last (digit : Nat) (below : digit < base) : char ∉ [digit.digitChar] := by
        intro member
        rw [List.mem_singleton.mp member, digitValue_digitChar digit (by omega)] at noDigit
        cases noDigit
      by_cases single : value < base
      · rw [Nat.toDigits_of_lt_base single]
        exact last value single
      · have whole : base ≤ value := Nat.le_of_not_lt single
        have positive : 0 < value := by omega
        rw [Nat.toDigits_of_base_le large whole, List.mem_append, not_or]
        exact ⟨ih _ (Nat.div_lt_self positive large), last _ (Nat.mod_lt _ (by omega))⟩

end Numbers

section Fields

/-- The text before the first `separator`, and what follows that. -/
def cutAt (separator : List Char) : List Char → Option (List Char × List Char)
  | [] => if separator.isEmpty then some ([], []) else none
  | char :: rest =>
      match separator.isPrefixOf? (char :: rest) with
      | some later => some ([], later)
      | none => (cutAt separator rest).map fun (front, later) => (char :: front, later)

theorem cutAt_append {separator front : List Char} {head : Char}
    (starts : separator.head? = some head) (free : head ∉ front) (rest : List Char) :
    cutAt separator (front ++ (separator ++ rest)) = some (front, rest) := by
  obtain ⟨more, rfl⟩ := List.head?_eq_some_iff.mp starts
  induction front with
  | nil =>
      have begins : (head :: more).isPrefixOf? (head :: more ++ rest) = some rest :=
        List.isPrefixOf?_eq_some_iff_append_eq.mpr rfl
      rw [List.nil_append, List.cons_append, cutAt, ← List.cons_append, begins]
  | cons char front ih =>
      obtain ⟨other, later⟩ := not_or.mp (List.mem_cons.not.mp free)
      have differs : (head == char) = false := beq_eq_false_iff_ne.mpr other
      rw [List.cons_append, cutAt, List.isPrefixOf?, differs]
      simp only [Bool.false_eq_true, if_false, ih later, Option.map_some]

end Fields

section Lines

/-- What reading line by line gives, the last line terminated or not. -/
def lines : List Char → List (List Char)
  | [] => []
  | '\n' :: rest => [] :: lines rest
  | char :: rest =>
      match lines rest with
      | [] => [[char]]
      | line :: later => (char :: line) :: later

theorem lines_append {line : List Char} (free : '\n' ∉ line) (rest : List Char) :
    lines (line ++ '\n' :: rest) = line :: lines rest := by
  induction line with
  | nil => rfl
  | cons char line ih =>
      obtain ⟨other, later⟩ := not_or.mp (List.mem_cons.not.mp free)
      rw [List.cons_append, lines]
      · rw [ih later]
      · exact fun same => other same.symm

theorem lines_flatMap {texts : List (List Char)} (free : ∀ line ∈ texts, '\n' ∉ line) :
    lines (texts.flatMap fun line => line ++ ['\n']) = texts := by
  induction texts with
  | nil => rfl
  | cons line rest ih =>
      obtain ⟨first, later⟩ := List.forall_mem_cons.mp free
      rw [List.flatMap_cons, List.append_assoc, List.singleton_append, lines_append first, ih later]

/-- What is read from one text at a time is read from all of them. -/
theorem mapM_mapIdx {Item Value : Type} {print : Nat → Item → List Char}
    {value : Nat → Item → Value} {read : List Char → Option Value}
    (each : ∀ i item, read (print i item) = some (value i item)) (items : List Item) :
    (items.mapIdx print).mapM read = some (items.mapIdx value) := by
  induction items generalizing print value with
  | nil => rfl
  | cons item rest ih =>
      rw [List.mapIdx_cons, List.mapIdx_cons, List.mapM_cons, each,
        ih fun i item => each (i + 1) item]
      rfl

end Lines

end TextReader
