import Mathlib.Data.List.Basic

/-!
Lists that travel without a count: records of a fixed header and of a tail whose
length the header gives, up to a record that is marked as the last.
-/

namespace Records

structure Layout (Header Symbol : Type) where
  width : Nat
  encode : Header → List Symbol
  decode : List Symbol → Header
  tailSize : Header → Nat
  isLast : Header → Bool
  width_pos : 0 < width
  length_encode (header : Header) : (encode header).length = width
  decode_encode (header : Header) : decode (encode header) = header

structure Record (Header Symbol : Type) where
  header : Header
  tail : List Symbol
  deriving DecidableEq

namespace Layout

variable {Header Symbol : Type} (layout : Layout Header Symbol)

def encodeRecord (record : Record Header Symbol) : List Symbol :=
  layout.encode record.header ++ record.tail

def encodeList (records : List (Record Header Symbol)) : List Symbol :=
  records.flatMap layout.encodeRecord

/-- The tail is as long as the header says. -/
def Framed (record : Record Header Symbol) : Prop :=
  record.tail.length = layout.tailSize record.header

/-- A record at the front of a stream, and what follows it. -/
def readRecord (stream : List Symbol) : Option (Record Header Symbol × List Symbol) :=
  if stream.length < layout.width then none
  else
    let header := layout.decode (stream.take layout.width)
    let following := stream.drop layout.width
    let size := layout.tailSize header
    if following.length < size then none
    else some (⟨header, following.take size⟩, following.drop size)

/-- At most so many records; the last one ends the list and is not part of it. -/
def readUpTo : Nat → List Symbol → Option (List (Record Header Symbol) × List Symbol)
  | 0, _ => none
  | count + 1, stream =>
      match layout.readRecord stream with
      | none => none
      | some (record, following) =>
          if layout.isLast record.header then some ([], following)
          else (readUpTo count following).map fun (records, rest) => (record :: records, rest)

def readList (stream : List Symbol) : Option (List (Record Header Symbol) × List Symbol) :=
  layout.readUpTo (stream.length + 1) stream

variable {layout} {record stop : Record Header Symbol} {records : List (Record Header Symbol)}

theorem readRecord_append (framed : layout.Framed record) (rest : List Symbol) :
    layout.readRecord (layout.encodeRecord record ++ rest) = some (record, rest) := by
  have header := layout.length_encode record.header
  have whole : ¬(layout.encode record.header ++ (record.tail ++ rest)).length < layout.width := by
    rw [List.length_append, header]
    omega
  have tail : ¬(record.tail ++ rest).length < layout.tailSize record.header := by
    rw [List.length_append, framed]
    omega
  rw [encodeRecord, List.append_assoc, readRecord, if_neg whole]
  simp only [List.take_left' header, List.drop_left' header, layout.decode_encode, if_neg tail,
    List.take_left' framed, List.drop_left' framed]

theorem readUpTo_append (framed : ∀ record ∈ records, layout.Framed record)
    (others : ∀ record ∈ records, layout.isLast record.header = false)
    (ends : layout.Framed stop) (last : layout.isLast stop.header = true) (rest : List Symbol)
    {count : Nat} (enough : records.length < count) :
    layout.readUpTo count (layout.encodeList records ++ (layout.encodeRecord stop ++ rest)) =
      some (records, rest) := by
  induction records generalizing count with
  | nil =>
      obtain ⟨count, rfl⟩ := Nat.exists_eq_succ_of_ne_zero (Nat.ne_of_gt enough)
      rw [encodeList, List.flatMap_nil, List.nil_append, readUpTo, readRecord_append ends]
      simp only [last, if_true]
  | cons record later ih =>
      obtain ⟨count, rfl⟩ := Nat.exists_eq_succ_of_ne_zero (Nat.ne_zero_of_lt enough)
      have rests := ih (fun next member => framed next (List.mem_cons_of_mem _ member))
        (fun next member => others next (List.mem_cons_of_mem _ member))
        (Nat.lt_of_succ_lt_succ enough)
      rw [encodeList, List.flatMap_cons, List.append_assoc, readUpTo,
        readRecord_append (framed record List.mem_cons_self)]
      simp only [others record List.mem_cons_self, Bool.false_eq_true, if_false]
      rw [← encodeList, rests]
      rfl

theorem length_le_encodeList (layout : Layout Header Symbol)
    (records : List (Record Header Symbol)) :
    records.length ≤ (layout.encodeList records).length := by
  induction records with
  | nil => exact Nat.le_refl 0
  | cons record later ih =>
      have positive := layout.width_pos
      have header := layout.length_encode record.header
      simp only [encodeList, List.flatMap_cons, List.length_append, List.length_cons,
        encodeRecord] at ih ⊢
      omega

/-- The reader stops behind the last record, whatever follows it. -/
theorem readList_append (framed : ∀ record ∈ records, layout.Framed record)
    (others : ∀ record ∈ records, layout.isLast record.header = false)
    (stop : Record Header Symbol) (ends : layout.Framed stop)
    (last : layout.isLast stop.header = true) (rest : List Symbol) :
    layout.readList (layout.encodeList records ++ (layout.encodeRecord stop ++ rest)) =
      some (records, rest) := by
  refine readUpTo_append framed others ends last rest ?_
  have counted := length_le_encodeList layout records
  rw [List.length_append]
  omega

end Layout

end Records
