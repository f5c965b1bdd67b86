import Mathlib.Data.List.Basic

/-!
A text stream with formatting state: base and fill stay until they are changed,
the width is used up by the next formatted output.
-/

structure TextStream where
  text : List Char := []
  base : Nat := 10
  fill : Char := ' '
  width : Nat := 0

namespace TextStream

def setfill (stream : TextStream) (fill : Char) : TextStream := { stream with fill }

def setw (stream : TextStream) (width : Nat) : TextStream := { stream with width }

def hex (stream : TextStream) : TextStream := { stream with base := 16 }

/-- Formatted output is adjusted to the right. -/
def formatted (stream : TextStream) (output : List Char) : TextStream :=
  { stream with
    text := stream.text ++ List.leftpad stream.width stream.fill output
    width := 0 }

def number (stream : TextStream) (value : Nat) : TextStream :=
  stream.formatted (Nat.toDigits stream.base value)

def string (stream : TextStream) (output : List Char) : TextStream := stream.formatted output

def endl (stream : TextStream) : TextStream := { stream with text := stream.text ++ ['\n'] }

section Fields

variable (stream : TextStream) (fill : Char) (width value : Nat) (output : List Char)

@[simp] theorem text_setfill : (stream.setfill fill).text = stream.text := rfl

@[simp] theorem base_setfill : (stream.setfill fill).base = stream.base := rfl

@[simp] theorem fill_setfill : (stream.setfill fill).fill = fill := rfl

@[simp] theorem text_setw : (stream.setw width).text = stream.text := rfl

@[simp] theorem base_setw : (stream.setw width).base = stream.base := rfl

@[simp] theorem fill_setw : (stream.setw width).fill = stream.fill := rfl

@[simp] theorem width_setw : (stream.setw width).width = width := rfl

@[simp] theorem text_hex : stream.hex.text = stream.text := rfl

@[simp] theorem base_hex : stream.hex.base = 16 := rfl

@[simp] theorem width_hex : stream.hex.width = stream.width := (rfl)

@[simp] theorem text_endl : stream.endl.text = stream.text ++ ['\n'] := rfl

theorem text_number : (stream.number value).text =
    stream.text ++ List.leftpad stream.width stream.fill (Nat.toDigits stream.base value) := rfl

@[simp] theorem base_number : (stream.number value).base = stream.base := rfl

@[simp] theorem width_number : (stream.number value).width = 0 := (rfl)

theorem text_string : (stream.string output).text =
    stream.text ++ List.leftpad stream.width stream.fill output := rfl

@[simp] theorem base_string : (stream.string output).base = stream.base := rfl

@[simp] theorem width_string : (stream.string output).width = 0 := (rfl)

/-- Without a width the output is written as it is. -/
theorem text_number_unset (unset : stream.width = 0) :
    (stream.number value).text = stream.text ++ Nat.toDigits stream.base value := by
  simp [text_number, unset, List.leftpad]

theorem text_string_unset (unset : stream.width = 0) :
    (stream.string output).text = stream.text ++ output := by
  simp [text_string, unset, List.leftpad]

end Fields

end TextStream
