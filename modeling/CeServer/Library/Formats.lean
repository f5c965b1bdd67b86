import CeServer.Library.Records
import Mathlib.Data.List.Forall2

/-!
Messages on one stream without separators: a reader that knows the format of each
message finds where it ends, whatever follows.
-/

namespace Formats

variable {Symbol : Type}

/-- A reader of one message: the message and what follows it. -/
abbrev Format (Symbol : Type) := List Symbol → Option (List Symbol × List Symbol)

def Accepts (format : Format Symbol) (message : List Symbol) : Prop :=
  ∀ rest, format (message ++ rest) = some (message, rest)

/-- A header of fixed width that gives the length of what follows it. -/
def sized (width : Nat) (tail : List Symbol → Nat) : Format Symbol := fun stream =>
  let size := width + tail (stream.take width)
  if stream.length < size then none else some (stream.take size, stream.drop size)

def fixed (width : Nat) : Format Symbol := sized width fun _ => 0

/-- One record. -/
def record {Header : Type} (layout : Records.Layout Header Symbol) : Format Symbol :=
  sized layout.width fun header => layout.tailSize (layout.decode header)

/-- Records up to the one that is marked as the last. -/
def records {Header : Type} (layout : Records.Layout Header Symbol) : Format Symbol :=
  fun stream => (layout.readList stream).map fun (_, rest) =>
    (stream.take (stream.length - rest.length), rest)

section Accepts

variable {message header tail : List Symbol} {width : Nat}

theorem accepts_sized {size : List Symbol → Nat} (front : header.length = width)
    (behind : tail.length = size header) : Accepts (sized width size) (header ++ tail) := by
  intro rest
  have whole : (header ++ tail).length = width + size header := by
    rw [List.length_append, front, behind]
  have enough : ¬(header ++ tail ++ rest).length < width + size header := by
    rw [List.length_append, whole]
    omega
  have first : (header ++ tail ++ rest).take width = header := by
    rw [List.append_assoc, List.take_left' front]
  simp only [sized, first, if_neg enough, List.take_left' whole, List.drop_left' whole]

theorem accepts_fixed (sized : message.length = width) : Accepts (fixed width) message := by
  have accepts : Accepts (fixed width) (message ++ []) := accepts_sized sized rfl
  rwa [List.append_nil] at accepts

theorem accepts_record {Header : Type} {layout : Records.Layout Header Symbol}
    {entry : Records.Record Header Symbol} (framed : layout.Framed entry) :
    Accepts (record layout) (layout.encodeRecord entry) := by
  refine accepts_sized (layout.length_encode entry.header) ?_
  rw [layout.decode_encode]
  exact framed

theorem accepts_records {Header : Type} {layout : Records.Layout Header Symbol}
    {entries : List (Records.Record Header Symbol)} {stop : Records.Record Header Symbol}
    (framed : ∀ record ∈ entries, layout.Framed record)
    (others : ∀ record ∈ entries, layout.isLast record.header = false)
    (ends : layout.Framed stop) (last : layout.isLast stop.header = true) :
    Accepts (records layout) (layout.encodeList entries ++ layout.encodeRecord stop) := by
  intro rest
  have read := Records.Layout.readList_append framed others stop ends last rest
  rw [← List.append_assoc] at read
  have behind (message : List Symbol) :
      (message ++ rest).length - rest.length = message.length := by
    rw [List.length_append]
    omega
  simp only [records, read, Option.map_some, behind, List.take_left]

end Accepts

/-- Reads one message of each format, and leaves what follows the last one. -/
def readAll : List (Format Symbol) → List Symbol → Option (List (List Symbol) × List Symbol)
  | [], stream => some ([], stream)
  | format :: formats, stream =>
      match format stream with
      | none => none
      | some (message, following) =>
          (readAll formats following).map fun (messages, rest) => (message :: messages, rest)

theorem readAll_flatten {formats : List (Format Symbol)} {messages : List (List Symbol)}
    (accepted : List.Forall₂ Accepts formats messages) (rest : List Symbol) :
    readAll formats (messages.flatten ++ rest) = some (messages, rest) := by
  induction accepted with
  | nil => rfl
  | @cons format message formats messages first _ ih =>
      rw [List.flatten_cons, List.append_assoc, readAll, first]
      simp only [ih, Option.map_some]

end Formats
