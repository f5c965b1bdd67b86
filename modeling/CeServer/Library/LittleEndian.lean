import Mathlib.Tactic.Ring
import Mathlib.Data.Nat.ModEq

/-!
Little-endian words of any width. A word of which only the first bytes are
known reads as if the missing ones were zero.
-/

namespace LittleEndian

def leNat : List UInt8 → Nat
  | [] => 0
  | byte :: rest => byte.toNat + 256 * leNat rest

def leBytes : Nat → Nat → List UInt8
  | 0, _ => []
  | width + 1, value => UInt8.ofNat value :: leBytes width (value / 256)

@[simp] theorem leNat_nil : leNat [] = 0 := rfl

@[simp] theorem leBytes_length (width value : Nat) : (leBytes width value).length = width := by
  induction width generalizing value with
  | zero => rfl
  | succ width ih => simp [leBytes, ih]

theorem leNat_lt (bytes : List UInt8) : leNat bytes < 256 ^ bytes.length := by
  induction bytes with
  | nil => simp
  | cons byte rest ih =>
      have small : byte.toNat < 256 := byte.toNat_lt
      simp only [leNat, List.length_cons, pow_succ]
      omega

theorem leNat_leBytes (width value : Nat) : leNat (leBytes width value) = value % 256 ^ width := by
  induction width generalizing value with
  | zero => simp [leBytes, Nat.mod_one]
  | succ width ih =>
      have low : (UInt8.ofNat value).toNat = value % 256 := by simp
      rw [leBytes, leNat, ih, low, pow_succ, mul_comm (256 ^ width) 256, Nat.mod_mul]

theorem leNat_leBytes_of_lt {width value : Nat} (fits : value < 256 ^ width) :
    leNat (leBytes width value) = value := by
  rw [leNat_leBytes, Nat.mod_eq_of_lt fits]

/-- Reading what arrived of a word and writing it again adds zeros only. -/
theorem prefix_leBytes_leNat {width : Nat} {bytes : List UInt8} (fits : bytes.length ≤ width) :
    bytes <+: leBytes width (leNat bytes) := by
  induction bytes generalizing width with
  | nil => exact List.nil_prefix
  | cons byte rest ih =>
      obtain ⟨width, rfl⟩ : ∃ smaller, width = smaller + 1 :=
        ⟨width - 1, by simp only [List.length_cons] at fits; omega⟩
      have small : byte.toNat < 256 := byte.toNat_lt
      have low : UInt8.ofNat (byte.toNat + 256 * leNat rest) = byte := by
        rw [← UInt8.toNat_inj]
        simp
      have high : (byte.toNat + 256 * leNat rest) / 256 = leNat rest := by omega
      simp only [leNat, leBytes, low, high]
      exact (List.prefix_cons_inj byte).mpr (ih (by simpa using fits))

theorem leNat_lt_of_length {width : Nat} {bytes : List UInt8} (fits : bytes.length ≤ width) :
    leNat bytes < 256 ^ width :=
  Nat.lt_of_lt_of_le (leNat_lt bytes) (Nat.pow_le_pow_right (by decide) fits)

theorem leNat_append (first second : List UInt8) :
    leNat (first ++ second) = leNat first + 256 ^ first.length * leNat second := by
  induction first with
  | nil => simp
  | cons byte rest ih =>
      simp only [List.cons_append, leNat, ih, List.length_cons, pow_succ]
      ring

/-- Zero-filling the end of a word never makes it larger. -/
theorem leNat_le_append (first second : List UInt8) : leNat first ≤ leNat (first ++ second) := by
  rw [leNat_append]
  exact Nat.le_add_right _ _

/-- A fixed-width type that travels as its little-endian bytes. Its reader is
total: what did not arrive counts as zero. -/
class Word (α : Type) where
  width : Nat
  toBytes : α → List UInt8
  ofBytes : List UInt8 → α
  length_toBytes (value : α) : (toBytes value).length = width
  ofBytes_toBytes (value : α) : ofBytes (toBytes value) = value
  prefix_toBytes_ofBytes {bytes : List UInt8} (fits : bytes.length ≤ width) :
    bytes <+: toBytes (ofBytes bytes)

attribute [simp] Word.length_toBytes Word.ofBytes_toBytes

theorem Word.toBytes_ofBytes {α : Type} [Word α] {bytes : List UInt8}
    (complete : bytes.length = Word.width α) : Word.toBytes (Word.ofBytes bytes : α) = bytes :=
  ((Word.prefix_toBytes_ofBytes complete.le).eq_of_length (by simp [complete])).symm

/-- A stream begins with the word that what arrived of it denotes, if what
follows the word begins as it should. -/
theorem prefix_toBytes_append (α : Type) [Word α] {stream rest : List UInt8}
    (following : stream.drop (Word.width α) <+: rest) :
    stream <+: Word.toBytes (Word.ofBytes (stream.take (Word.width α)) : α) ++ rest := by
  rcases Nat.lt_or_ge stream.length (Word.width α) with short | complete
  · rw [List.take_of_length_le short.le]
    exact (Word.prefix_toBytes_ofBytes short.le).trans (List.prefix_append _ _)
  · rw [Word.toBytes_ofBytes (by simp [complete])]
    conv_lhs => rw [← List.take_append_drop (Word.width α) stream]
    exact (List.prefix_append_right_inj _).mpr following

instance : Word UInt8 where
  width := 1
  toBytes value := leBytes 1 value.toNat
  ofBytes bytes := UInt8.ofNat (leNat bytes)
  length_toBytes _ := leBytes_length _ _
  ofBytes_toBytes value := by rw [leNat_leBytes_of_lt value.toNat_lt, UInt8.ofNat_toNat]
  prefix_toBytes_ofBytes fits := by
    rw [UInt8.toNat_ofNat_of_lt' (leNat_lt_of_length fits)]
    exact prefix_leBytes_leNat fits

instance : Word UInt16 where
  width := 2
  toBytes value := leBytes 2 value.toNat
  ofBytes bytes := UInt16.ofNat (leNat bytes)
  length_toBytes _ := leBytes_length _ _
  ofBytes_toBytes value := by rw [leNat_leBytes_of_lt value.toNat_lt, UInt16.ofNat_toNat]
  prefix_toBytes_ofBytes fits := by
    rw [UInt16.toNat_ofNat_of_lt' (leNat_lt_of_length fits)]
    exact prefix_leBytes_leNat fits

instance : Word UInt32 where
  width := 4
  toBytes value := leBytes 4 value.toNat
  ofBytes bytes := UInt32.ofNat (leNat bytes)
  length_toBytes _ := leBytes_length _ _
  ofBytes_toBytes value := by rw [leNat_leBytes_of_lt value.toNat_lt, UInt32.ofNat_toNat]
  prefix_toBytes_ofBytes fits := by
    rw [UInt32.toNat_ofNat_of_lt' (leNat_lt_of_length fits)]
    exact prefix_leBytes_leNat fits

instance : Word UInt64 where
  width := 8
  toBytes value := leBytes 8 value.toNat
  ofBytes bytes := UInt64.ofNat (leNat bytes)
  length_toBytes _ := leBytes_length _ _
  ofBytes_toBytes value := by rw [leNat_leBytes_of_lt value.toNat_lt, UInt64.ofNat_toNat]
  prefix_toBytes_ofBytes fits := by
    rw [UInt64.toNat_ofNat_of_lt' (leNat_lt_of_length fits)]
    exact prefix_leBytes_leNat fits

instance : Word Int32 where
  width := 4
  toBytes value := leBytes 4 value.toUInt32.toNat
  ofBytes bytes := (UInt32.ofNat (leNat bytes)).toInt32
  length_toBytes _ := leBytes_length _ _
  ofBytes_toBytes value := by
    rw [leNat_leBytes_of_lt value.toUInt32.toNat_lt, UInt32.ofNat_toNat, Int32.toInt32_toUInt32]
  prefix_toBytes_ofBytes fits := by
    rw [UInt32.toUInt32_toInt32, UInt32.toNat_ofNat_of_lt' (leNat_lt_of_length fits)]
    exact prefix_leBytes_leNat fits

end LittleEndian
