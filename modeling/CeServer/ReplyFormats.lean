import CeServer.EndToEnd
import CeServer.Library.Formats
import CeServer.ListReaders
import CeServer.Regions

/-!
How a client that knows its request finds the end of the reply: the format of each
command's reply, and that the handler keeps to it.
-/

namespace CeServer

open LittleEndian Interaction Program Formats Records Assembly

/-- An entry can tell the length of the name. -/
def ProcessInfo.Fits (procInfo : ProcessInfo) : Prop := procInfo.name.length < 2 ^ 31

def MemoryRegion.Fits (region : MemoryRegion) : Prop := region.name.length < 2 ^ 31

/-- Arrays are as long as asked for, and lists and names no longer than an entry can
tell. -/
def Op.Fits : (op : Op) → op.Response → Prop
  | .newCharArray size, array => array.length = size.toNat
  | .readProcessInfo _, procInfo => procInfo.Fits
  | .readMemoryRegion _, region => region.Fits
  | .getProcessSnapshot, snapshot => ∀ procInfo ∈ snapshot, procInfo.Fits
  | .getModuleSnapshot _, snapshot =>
      snapshot.length < 2 ^ 31 ∧ ∀ region ∈ snapshot, region.Fits
  | .getThreadSnapshot _, snapshot => snapshot.length < 2 ^ 31
  | _, _ => True

/-- `Memory::read` counts no more bytes than it was asked for. -/
def Op.Counts : (op : Op) → op.Response → Prop
  | .memoryRead _ _ size, answer => answer.1 ≤ size
  | _, _ => True

def lengthField (header : List UInt8) : Nat := (Word.ofBytes header : UInt32).toNat

/-- The reply to a command whose fields arrived so. -/
def replyFormat : Command → List (List UInt8) → Format UInt8
  | .getVersion, _ => sized 5 fun header => (receivedField UInt8 4 header).toNat
  | .closeConnection, _ | .terminateServer, _ | .setConnectionName, _ => fixed 0
  | .getABI, _ | .getArchitecture, _ => fixed 1
  | .getOptions, _ => fixed 2
  | .openProcess, _ | .createToolhelp32Snapshot, _ | .closeHandle, _ | .startDebug, _
  | .writeProcessMemory, _ => fixed 4
  | .getSymbolListFromFile, _ => fixed 8
  | .process32First, _ | .process32Next, _ => record processLayout
  | .module32First, _ | .module32Next, _ => record moduleLayout
  | .readProcessMemory, _ => sized 4 lengthField
  | .virtualQueryEx, _ => fixed 25
  | .getRegionInfo, fields =>
      if (Word.ofBytes (fields.getD 1 []) : UInt64) = 0 then fixed 25
      else sized 26 fun header => (receivedField UInt8 25 header).toNat
  | .virtualQueryExFull, _ => sized 4 fun header => 24 * lengthField header
  | .createToolhelp32SnapshotEx, fields =>
      let flags : UInt32 := Word.ofBytes (fields.getD 0 [])
      if flags &&& TH32CS_SNAPTHREAD ≠ 0 then sized 4 fun header => 4 * lengthField header
      else if flags &&& TH32CS_SNAPMODULE ≠ 0 then records moduleLayout
      else fixed 4

section Bytes

theorem lengthField_toBytes (value : Int32) :
    lengthField (Word.toBytes value) = value.toUInt32.toNat := by
  have whole : leNat (Word.toBytes value) = value.toUInt32.toNat :=
    leNat_leBytes_of_lt value.toUInt32.toNat_lt
  change (UInt32.ofNat (leNat (Word.toBytes value))).toNat = _
  rw [whole, UInt32.ofNat_toNat]

theorem lengthField_ofNat {count : Nat} (fits : count < 2 ^ 31) :
    lengthField (Word.toBytes (Int32.ofNat count)) = count := by
  rw [lengthField_toBytes]
  have small : count < UInt32.size := Nat.lt_trans fits (by decide)
  change (UInt32.ofNat count).toNat = count
  exact UInt32.toNat_ofNat_of_lt' small

theorem accepts_word {T : Type} [Word T] (value : T) :
    Accepts (fixed (Word.width T)) (Word.toBytes value) :=
  accepts_fixed (Word.length_toBytes value)

theorem accepts_processEntry (hasNext : Bool) (processID : Int32) {name : List UInt8}
    (short : name.length < 2 ^ 31) :
    Accepts (record processLayout) (processEntryBytes hasNext processID name) := by
  have framed : processLayout.Framed
      ⟨⟨if hasNext then 1 else 0, processID, Int32.ofNat name.length⟩, name⟩ :=
    (namesize_toNat short).symm
  have accepts := accepts_record framed
  exact accepts

theorem accepts_moduleEntry (hasNext : Bool) (moduleBase : UInt64)
    (modulePart memoryRegionSize : Int32) {name : List UInt8} (short : name.length < 2 ^ 31) :
    Accepts (record moduleLayout)
      (moduleEntryBytes hasNext moduleBase modulePart memoryRegionSize name) := by
  have framed : moduleLayout.Framed ⟨⟨if hasNext then 1 else 0, moduleBase, modulePart,
      memoryRegionSize, Int32.ofNat name.length⟩, name⟩ := (namesize_toNat short).symm
  have accepts := accepts_record framed
  exact accepts

end Bytes

section Handlers

variable {Value : Type} {value : Value} {trace : List (Event Op Op.Response)}
  {format : Format UInt8} {bytes : List UInt8}

def AllFit (trace : List (Event Op Op.Response)) : Prop :=
  ∀ event ∈ trace, event.op.Fits event.response

theorem AllFit.tail {event : Event Op Op.Response} (fits : AllFit (event :: trace)) :
    AllFit trace :=
  fun other member => fits other (List.mem_cons_of_mem _ member)

theorem accepts_of_emits {handler : Handler Value} (emits : handler.Emits Op.sent bytes)
    (performs : handler.Performs trace value) (accepts : Accepts format bytes) :
    Accepts format (sent trace) := by
  rwa [show sent trace = bytes from emits.performs performs]

theorem accepts_silent {event : Event Op Op.Response} (silent : event.op.sent = [])
    (accepts : Accepts format (sent trace)) : Accepts format (sent (event :: trace)) := by
  rwa [sent_cons, silent, List.nil_append]

theorem sent_of_silent {handler : Handler Value} (silent : handler.Uses fun op => op.sent = [])
    (performs : handler.Performs trace value) : sent trace = [] :=
  List.flatMap_eq_nil_iff.mpr fun event member => silent.performs performs event member

theorem performs_keepOpen {handler : Handler Unit} {keepSocketOpen : Bool}
    (performs : (Client.keepOpen handler).Performs trace keepSocketOpen) :
    handler.Performs trace () := by
  obtain ⟨front, back, last, rfl, first, rfl, -⟩ := performs_bind.mp performs
  rwa [List.append_nil]

theorem sendProcessAt_accepts {entry : Option EntryPointer}
    (performs : (Client.sendProcessAt entry).Performs trace ()) (fits : AllFit trace) :
    Accepts (record processLayout) (sent trace) := by
  cases entry with
  | none =>
      exact accepts_of_emits (sendProcess32Entry_emits false 0 []) performs
        (accepts_processEntry false 0 (by decide))
  | some pointer =>
      obtain ⟨procInfo, later, rfl, performs⟩ := performs
      refine accepts_silent rfl ?_
      have short : (cString procInfo.name).length < 2 ^ 31 :=
        Nat.lt_of_le_of_lt (List.takeWhile_sublist _).length_le (fits _ List.mem_cons_self)
      exact accepts_of_emits (sendProcess32Entry_emits true procInfo.pid _) performs
        (accepts_processEntry true procInfo.pid short)

theorem iterateProcessesNext_accepts {first : Bool} {handle : CE_HANDLE}
    (performs : (Client.iterateProcessesNext first handle).Performs trace ())
    (fits : AllFit trace) : Accepts (record processLayout) (sent trace) := by
  obtain ⟨present, later, rfl, performs⟩ := performs
  refine accepts_silent rfl ?_
  cases present with
  | false =>
      exact accepts_of_emits (sendProcess32Entry_emits false 0 []) performs
        (accepts_processEntry false 0 (by decide))
  | true =>
      cases first with
      | false =>
          obtain ⟨entry, last, rfl, performs⟩ := performs
          refine accepts_silent rfl ?_
          exact sendProcessAt_accepts performs fits.tail.tail
      | true =>
          obtain ⟨reset, rest, rfl, entry, last, rfl, performs⟩ := performs
          refine accepts_silent rfl (accepts_silent rfl ?_)
          exact sendProcessAt_accepts performs fits.tail.tail.tail

theorem sendModuleRegion_accepts {region : MemoryRegion} (short : region.Fits)
    (performs : (Client.sendModuleRegion region).Performs trace ()) :
    Accepts (record moduleLayout) (sent trace) :=
  accepts_of_emits (sendModule32Entry_emits true region.startAddr region.part region.regionSize
    region.fileOffset region.name) performs (accepts_moduleEntry true _ _ _ short)

theorem sendModuleAt_accepts {entry : Option EntryPointer}
    (performs : (Client.sendModuleAt entry).Performs trace ()) (fits : AllFit trace) :
    Accepts (record moduleLayout) (sent trace) := by
  cases entry with
  | none =>
      exact accepts_of_emits (sendModule32Entry_emits false 0 0 0 0 []) performs
        (accepts_moduleEntry false 0 0 0 (by decide))
  | some pointer =>
      obtain ⟨region, later, rfl, performs⟩ := performs
      refine accepts_silent rfl ?_
      exact sendModuleRegion_accepts (fits _ List.mem_cons_self) performs

theorem iterateModulesNext_accepts {first : Bool} {handle : CE_HANDLE}
    (performs : (Client.iterateModulesNext first handle).Performs trace ())
    (fits : AllFit trace) : Accepts (record moduleLayout) (sent trace) := by
  obtain ⟨present, later, rfl, performs⟩ := performs
  refine accepts_silent rfl ?_
  cases present with
  | false =>
      exact accepts_of_emits (sendModule32Entry_emits false 0 0 0 0 []) performs
        (accepts_moduleEntry false 0 0 0 (by decide))
  | true =>
      cases first with
      | false =>
          obtain ⟨entry, last, rfl, performs⟩ := performs
          refine accepts_silent rfl ?_
          exact sendModuleAt_accepts performs fits.tail.tail
      | true =>
          obtain ⟨reset, rest, rfl, entry, last, rfl, performs⟩ := performs
          refine accepts_silent rfl (accepts_silent rfl ?_)
          exact sendModuleAt_accepts performs fits.tail.tail.tail

theorem accepts_bind {Result : Type} {program : Handler Result} {rest : Result → Handler Value}
    (silent : program.Uses fun op => op.sent = [])
    (performs : (program >>= rest).Performs trace value)
    (each : ∀ result back, (rest result).Performs back value → Accepts format (sent back)) :
    Accepts format (sent trace) := by
  obtain ⟨front, back, result, rfl, first, second⟩ := performs_bind.mp performs
  rw [sent_append, sent_of_silent silent first, List.nil_append]
  exact each result back second

theorem send_accepts {T : Type} [Word T] {data : T} (performs : (send data).Performs trace ()) :
    Accepts (fixed (Word.width T)) (sent trace) :=
  accepts_of_emits (send_emits data) performs (accepts_word data)

theorem storeTlHelp32Snapshot_silent (flags procId : UInt32) :
    (Client.storeTlHelp32Snapshot flags procId).Uses fun op => op.sent = [] := by
  refine (uses_ite _ _).mpr ⟨fun _ => ?_, fun _ => (uses_ite _ _).mpr ⟨fun _ => ?_, fun _ => ?_⟩⟩
  · exact ⟨rfl, fun _ => ⟨rfl, fun _ => ⟨rfl, fun _ => trivial⟩⟩⟩
  · exact ⟨rfl, fun _ => ⟨rfl, fun _ => ⟨rfl, fun _ => trivial⟩⟩⟩
  · exact trivial

theorem toolHelp32Snapshot_accepts {flags procId : UInt32}
    (performs : (Client.toolHelp32Snapshot flags procId).Performs trace ()) :
    Accepts (fixed 4) (sent trace) :=
  accepts_bind (storeTlHelp32Snapshot_silent flags procId) performs fun _ _ sends =>
    send_accepts sends

/-- A count and then as many entries of one width. -/
theorem accepts_counted {Entry : Type} {entries : List Entry} {encode : Entry → List UInt8}
    {width : Nat} (each : ∀ entry, (encode entry).length = width) (few : entries.length < 2 ^ 31) :
    Accepts (sized 4 fun header => width * lengthField header)
      (Word.toBytes (Int32.ofNat entries.length) ++ entries.flatMap encode) := by
  refine accepts_sized (Word.length_toBytes _) ?_
  rw [lengthField_ofNat few, List.length_flatMap]
  clear few
  induction entries with
  | nil => rfl
  | cons entry later ih =>
      rw [List.map_cons, List.sum_cons, ih, each, List.length_cons, Nat.mul_succ, Nat.add_comm]

theorem toolHelp32SnapshotEx_accepts {flags procId : UInt32}
    (performs : (Client.toolHelp32SnapshotEx flags procId).Performs trace ())
    (fits : AllFit trace) :
    Accepts (if flags &&& TH32CS_SNAPTHREAD ≠ 0 then sized 4 fun header => 4 * lengthField header
      else if flags &&& TH32CS_SNAPMODULE ≠ 0 then records moduleLayout
      else fixed 4) (sent trace) := by
  unfold Client.toolHelp32SnapshotEx at performs
  by_cases threads : flags &&& TH32CS_SNAPTHREAD ≠ 0
  · rw [if_pos threads] at performs ⊢
    obtain ⟨snapshot, later, rfl, performs⟩ := performs
    have few : snapshot.length < 2 ^ 31 := fits _ List.mem_cons_self
    refine accepts_silent rfl ?_
    refine accepts_of_emits ((send_emits _).bind fun _ => Emits.forM snapshot fun thread =>
      send_emits thread.dwTID.toInt32) performs ?_
    exact accepts_counted (fun thread => Word.length_toBytes thread.dwTID.toInt32) few
  rw [if_neg threads] at performs ⊢
  by_cases modules : flags &&& TH32CS_SNAPMODULE ≠ 0
  · rw [if_pos modules] at performs ⊢
    obtain ⟨snapshot, later, rfl, performs⟩ := performs
    have short : ∀ region ∈ snapshot, region.Fits := (fits _ List.mem_cons_self).2
    refine accepts_silent rfl ?_
    refine accepts_of_emits ((Emits.forM snapshot fun region =>
      sendModule32Entry_emits true region.startAddr region.part region.regionSize
        region.fileOffset region.name).bind fun _ =>
          sendModule32Entry_emits false 0 0 0 0 []) performs ?_
    have accepts : Accepts (records moduleLayout)
        (moduleLayout.encodeList (snapshot.map moduleRecord) ++
          moduleLayout.encodeRecord ⟨⟨0, 0, 0, 0, 0⟩, []⟩) := by
      refine accepts_records ?_ ?_ rfl rfl
      · intro entry member
        obtain ⟨region, listed, rfl⟩ := List.mem_map.mp member
        exact moduleRecord_framed (short region listed)
      · intro entry member
        obtain ⟨region, listed, rfl⟩ := List.mem_map.mp member
        rfl
    rwa [Layout.encodeList, List.flatMap_map] at accepts
  · rw [if_neg modules] at performs ⊢
    obtain ⟨snapshot, _, rfl, handle, _, rfl, stored, later, rfl, performs⟩ := performs
    exact accepts_silent rfl (accepts_silent rfl (accepts_silent rfl (send_accepts performs)))

theorem accepts_empty : Accepts (sized 4 lengthField) (Word.toBytes (0 : Int32)) := by
  have accepts : Accepts (sized 4 lengthField) (Word.toBytes (0 : Int32) ++ []) :=
    accepts_sized (Word.length_toBytes _) rfl
  rwa [List.append_nil] at accepts

theorem accepts_contents {count : UInt64} {size : UInt32} {contents : List UInt8}
    (within : count ≤ size.toUInt64) (whole : contents.length = count.toNat) :
    Accepts (sized 4 lengthField) (Word.toBytes count.toUInt32.toInt32 ++ contents) := by
  refine accepts_sized (Word.length_toBytes _) ?_
  have small : count.toNat < UInt32.size := by
    have bounded := UInt64.le_iff_toNat_le.mp within
    rw [UInt32.toNat_toUInt64] at bounded
    exact Nat.lt_of_le_of_lt bounded size.toNat_lt
  rw [lengthField_toBytes, UInt32.toUInt32_toInt32, UInt64.toNat_toUInt32, whole]
  exact (Nat.mod_eq_of_lt small).symm

theorem readProcessMemory_accepts {handle : CE_HANDLE} {address : UInt64} {size : UInt32}
    {compress : UInt8}
    (performs : (Client.readProcessMemory handle address size compress).Performs trace true)
    (fits : AllFit trace) (counts : ∀ event ∈ trace, event.op.Counts event.response) :
    Accepts (sized 4 lengthField) (sent trace) := by
  unfold Client.readProcessMemory at performs
  split at performs
  · cases performs.2
  obtain ⟨present, back, rfl, performs⟩ := performs
  refine accepts_silent rfl ?_
  cases present with
  | false => cases performs.2
  | true =>
      have refused {back : List (Event Op Op.Response)}
          (performs :
            (send (0 : Int32) >>= fun _ => (pure true : Handler Bool)).Performs back true) :
          Accepts (sized 4 lengthField) (sent back) := by
        obtain ⟨result, last, rfl, rfl, -⟩ := performs_send.mp performs
        exact accepts_empty
      dsimp only at performs
      split at performs
      · exact refused performs
      split at performs
      · exact refused performs
      obtain ⟨contents, _, rfl, processID, _, rfl, ⟨count, bytes⟩, back, rfl, performs⟩ := performs
      have array : contents.length = size.toNat :=
        fits ⟨.newCharArray size.toNat, contents⟩ (by simp)
      have within : count ≤ size.toUInt64 :=
        counts ⟨.memoryRead processID address size.toUInt64, (count, bytes)⟩ (by simp)
      refine accepts_silent rfl (accepts_silent rfl (accepts_silent rfl ?_))
      simp only [Program.andThen] at performs
      split at performs
      · exact refused performs
      · obtain ⟨result, _, rfl, sends⟩ := performs_send.mp performs
        obtain ⟨last, _, rfl, rfl, -⟩ := performs_send.mp sends
        have bounded := UInt64.le_iff_toNat_le.mp within
        rw [UInt32.toNat_toUInt64] at bounded
        have whole : ((bytes ++ contents.drop bytes.length).take count.toNat).length =
            count.toNat := by
          simp only [List.length_take, List.length_append, List.length_drop, array]
          omega
        simpa [Op.sent] using accepts_contents within whole

theorem writeProcessMemory_accepts {handle : CE_HANDLE} {address : UInt64} {size : Int32}
    {buffer : List UInt8}
    (performs : (Client.writeProcessMemory handle address size buffer).Performs trace true) :
    Accepts (fixed 4) (sent trace) := by
  obtain ⟨present, back, rfl, performs⟩ := performs
  refine accepts_silent rfl ?_
  cases present with
  | false => cases performs.2
  | true =>
      obtain ⟨processID, _, rfl, written, back, rfl, performs⟩ := performs
      refine accepts_silent rfl (accepts_silent rfl ?_)
      simp only [Program.andThen] at performs
      split at performs
      · obtain ⟨result, last, rfl, -, closed⟩ := performs_send.mp performs
        cases closed
      · obtain ⟨result, last, rfl, rfl, -⟩ := performs_send.mp performs
        exact accepts_word written.toUInt32.toInt32

theorem pollHandle_silent (rounds : Nat) (handle : CE_HANDLE) :
    (Client.pollHandle rounds handle).Uses fun op => op.sent = [] := by
  induction rounds generalizing handle with
  | zero => exact trivial
  | succ rounds ih =>
      refine ⟨rfl, fun polled =>
        (uses_ite _ _).mpr ⟨fun _ => trivial, fun _ => ⟨rfl, fun past => ?_⟩⟩⟩
      exact (uses_ite _ _).mpr ⟨fun _ => trivial, fun _ => ⟨rfl, fun _ => ih _⟩⟩

theorem selectHandle_silent : Client.selectHandle.Uses fun op => op.sent = [] :=
  (pollHandle_silent _ _).bind fun _ => ⟨rfl, fun _ =>
    (uses_ite _ _).mpr ⟨fun _ => ⟨rfl, fun _ => trivial⟩, fun _ => trivial⟩⟩

theorem getArchitecture_accepts {handle : CE_HANDLE}
    (performs : (Client.getArchitecture handle).Performs trace true) :
    Accepts (fixed 1) (sent trace) := by
  obtain ⟨present, back, rfl, performs⟩ := performs
  refine accepts_silent rfl ?_
  cases present with
  | false => cases performs.2
  | true =>
      obtain ⟨processID, _, rfl, model, back, rfl, performs⟩ := performs
      refine accepts_silent rfl (accepts_silent rfl ?_)
      obtain ⟨result, last, rfl, rfl, -⟩ := performs_send.mp performs
      exact accepts_word (Client.getArchitectureFromMemoryModel model)

theorem accepts_region (region? : Option MemoryRegion) :
    Accepts (fixed 25) (Client.virtualQueryExResult region?).toBytes :=
  accepts_fixed (CeVirtualQueryExOutput.toBytes_length _)

theorem accepts_namedRegion (region? : Option MemoryRegion) :
    Accepts (sized 26 fun header => (receivedField UInt8 25 header).toNat)
      ((Client.virtualQueryExResult region?).toBytes ++ nameReply region?) := by
  have record := CeVirtualQueryExOutput.toBytes_length (Client.virtualQueryExResult region?)
  have short := shortName_length region?
  rw [nameReply_eq, ← List.append_assoc]
  refine accepts_sized ?_ ?_
  · rw [List.length_append, record, Word.length_toBytes]
    rfl
  · rw [receivedField, List.drop_left' record, List.take_of_length_le
      (Nat.le_of_eq (Word.length_toBytes _)), Word.ofBytes_toBytes]
    exact (UInt8.toNat_ofNat_of_lt' (Nat.lt_of_le_of_lt short (by decide))).symm

theorem regionInfo_accepts {named : Bool} {handle : CE_HANDLE} {address : UInt64}
    (performs : (Client.regionInfo named handle address).Performs trace true) :
    Accepts (if named = false ∨ address = 0 then fixed 25
      else sized 26 fun header => (receivedField UInt8 25 header).toNat) (sent trace) := by
  rw [regionInfo_eq] at performs
  obtain ⟨present, back, rfl, performs⟩ := performs
  refine accepts_silent rfl ?_
  cases present with
  | false => cases performs.2
  | true =>
      dsimp only at performs
      split at performs
      · rename_i zero
        rw [if_pos (Or.inr (UInt64.le_zero_iff.mp zero))]
        refine accepts_of_emits (replyRegion_emits false none) performs ?_
        rw [if_neg Bool.false_ne_true, List.append_nil]
        exact accepts_region none
      · rename_i nonzero
        obtain ⟨processID, _, rfl, regions, back, rfl, performs⟩ := performs
        refine accepts_silent rfl (accepts_silent rfl ?_)
        refine accepts_of_emits (replyRegion_emits named _) performs ?_
        cases named with
        | false =>
            rw [if_pos (Or.inl rfl), if_neg Bool.false_ne_true, List.append_nil]
            exact accepts_region _
        | true =>
            have apart : ¬(true = false ∨ address = 0) := by
              rintro (no | zero)
              · cases no
              · exact nonzero (UInt64.le_zero_iff.mpr zero)
            rw [if_neg apart, if_pos rfl]
            exact accepts_namedRegion _

theorem virtualQueryExFull_accepts {handle : CE_HANDLE} (flags : UInt8)
    (performs : (Client.virtualQueryExFull handle flags).Performs trace true)
    (fits : AllFit trace) :
    Accepts (sized 4 fun header => 24 * lengthField header) (sent trace) := by
  obtain ⟨present, back, rfl, performs⟩ := performs
  refine accepts_silent rfl ?_
  cases present with
  | false => cases performs.2
  | true =>
      obtain ⟨processID, _, rfl, regions, back, rfl, performs⟩ := performs
      have few : regions.length < 2 ^ 31 :=
        (fits ⟨.getModuleSnapshot processID, regions⟩ (by simp)).1
      refine accepts_silent rfl (accepts_silent rfl ?_)
      refine accepts_of_emits ((send_emits _).bind fun _ => (Emits.forM regions fun region =>
        sendBytes_emits (Client.virtualQueryExFullResult region).toBytes).bind fun _ =>
          show (pure true : Handler Bool).Emits Op.sent [] from rfl) performs ?_
      rw [List.append_nil]
      exact accepts_counted (fun region => by simp [CeRegionInfo.toBytes, Word.width]) few

end Handlers

/-- The reply of a command that keeps the connection open ends where its format says. -/
theorem handle_accepts {command : Command} {trace : List (Event Op Op.Response)}
    (performs : (Client.handle command).Performs trace true) (fits : AllFit trace)
    (counts : ∀ event ∈ trace, event.op.Counts event.response) :
    Accepts (replyFormat command (arrivals trace)) (sent trace) := by
  cases command with
  | closeConnection | terminateServer => cases performs.2
  | getVersion =>
      refine accepts_of_emits ((sendBytes_emits _).bind fun _ => sendBytes_emits _)
        (performs_keepOpen performs) ?_
      rw [replyFormat]
      refine accepts_sized ?_ ?_
      · rfl
      · decide
  | getABI | getOptions => exact send_accepts (performs_keepOpen performs)
  | openProcess =>
      obtain ⟨pid, _, rfl, handle, _, rfl, stored, back, rfl, served⟩ := performs_keepOpen performs
      exact accepts_silent rfl (accepts_silent rfl (accepts_silent rfl (send_accepts served)))
  | createToolhelp32Snapshot =>
      obtain ⟨flags, _, rfl, procId, back, rfl, served⟩ := performs_keepOpen performs
      exact accepts_silent rfl (accepts_silent rfl (toolHelp32Snapshot_accepts served))
  | createToolhelp32SnapshotEx =>
      obtain ⟨flags, _, rfl, procId, back, rfl, served⟩ := performs_keepOpen performs
      exact accepts_silent rfl (accepts_silent rfl
        (toolHelp32SnapshotEx_accepts served fits.tail.tail))
  | process32First | process32Next =>
      obtain ⟨handle, back, rfl, served⟩ := performs_keepOpen performs
      exact accepts_silent rfl (iterateProcessesNext_accepts served fits.tail)
  | module32First | module32Next =>
      obtain ⟨handle, back, rfl, served⟩ := performs_keepOpen performs
      exact accepts_silent rfl (iterateModulesNext_accepts served fits.tail)
  | closeHandle =>
      obtain ⟨handle, _, rfl, closed, back, rfl, served⟩ := performs_keepOpen performs
      exact accepts_silent rfl (accepts_silent rfl (send_accepts served))
  | startDebug =>
      obtain ⟨handle, back, rfl, served⟩ := performs_keepOpen performs
      exact accepts_silent rfl (send_accepts served)
  | setConnectionName =>
      obtain ⟨length, _, rfl, array, _, rfl, body, _, rfl, named, _, rfl, rfl, -⟩ :=
        performs_keepOpen performs
      exact accepts_fixed rfl
  | getSymbolListFromFile =>
      obtain ⟨size, _, rfl, array, _, rfl, body, back, rfl, served⟩ := performs_keepOpen performs
      exact accepts_silent rfl (accepts_silent rfl (accepts_silent rfl (send_accepts served)))
  | getArchitecture =>
      exact accepts_bind selectHandle_silent performs fun _ _ performs =>
        getArchitecture_accepts performs
  | readProcessMemory =>
      obtain ⟨handle, _, rfl, address, _, rfl, size, _, rfl, compress, back, rfl, performs⟩ :=
        performs
      refine accepts_silent rfl (accepts_silent rfl (accepts_silent rfl (accepts_silent rfl ?_)))
      refine readProcessMemory_accepts performs fits.tail.tail.tail.tail fun event member => ?_
      exact counts event (by simp [member])
  | writeProcessMemory =>
      obtain ⟨handle, _, rfl, address, _, rfl, size, _, rfl, array, _, rfl, body, back, rfl,
        performs⟩ := performs
      exact accepts_silent rfl (accepts_silent rfl (accepts_silent rfl (accepts_silent rfl
        (accepts_silent rfl (writeProcessMemory_accepts performs)))))
  | virtualQueryEx =>
      obtain ⟨handle, _, rfl, address, back, rfl, performs⟩ := performs
      have accepts := regionInfo_accepts performs
      rw [if_pos (Or.inl rfl)] at accepts
      exact accepts_silent rfl (accepts_silent rfl accepts)
  | getRegionInfo =>
      obtain ⟨handle, _, rfl, address, back, rfl, performs⟩ := performs
      have accepts := regionInfo_accepts performs
      simp only [Bool.true_eq_false, false_or] at accepts
      exact accepts_silent rfl (accepts_silent rfl accepts)
  | virtualQueryExFull =>
      obtain ⟨handle, _, rfl, flags, back, rfl, performs⟩ := performs
      exact accepts_silent rfl (accepts_silent rfl
        (virtualQueryExFull_accepts (Word.ofBytes flags.2) performs fits.tail.tail))

end CeServer
