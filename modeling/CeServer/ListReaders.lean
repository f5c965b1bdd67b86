import CeServer.Library.Records
import CeServer.ModuleListing

/-!
A client's reader of the list replies: it follows the packed layouts and stops
at the entry with result 0.
-/

namespace CeServer

open LittleEndian Interaction Records

variable {Outside : Type} {env : Environment Outside}

def CeProcessEntry.ofBytes (bytes : List UInt8) : CeProcessEntry where
  result := receivedField Int32 0 bytes
  pid := receivedField Int32 4 bytes
  processnamesize := receivedField Int32 8 bytes

def CeModuleEntry.ofBytes (bytes : List UInt8) : CeModuleEntry where
  result := receivedField Int32 0 bytes
  modulebase := receivedField UInt64 4 bytes
  modulepart := receivedField Int32 12 bytes
  modulesize := receivedField Int32 16 bytes
  modulenamesize := receivedField Int32 20 bytes

section Layouts

theorem CeProcessEntry.ofBytes_toBytes (entry : CeProcessEntry) :
    CeProcessEntry.ofBytes entry.toBytes = entry := by
  obtain ⟨result, pid, processnamesize⟩ := entry
  rw [toBytes, List.append_assoc, ofBytes, CeProcessEntry.mk.injEq]
  refine ⟨?_, ?_, ?_⟩
  · rw [receivedField_front]
  · rw [receivedField_skip result (show 4 = 4 + 0 from rfl), receivedField_front]
  · rw [receivedField_skip result (show 8 = 4 + 4 from rfl),
      receivedField_skip pid (show 4 = 4 + 0 from rfl), receivedField_last]

theorem CeModuleEntry.ofBytes_toBytes (entry : CeModuleEntry) :
    CeModuleEntry.ofBytes entry.toBytes = entry := by
  obtain ⟨result, modulebase, modulepart, modulesize, modulenamesize⟩ := entry
  rw [toBytes, List.append_assoc, List.append_assoc, List.append_assoc, ofBytes,
    CeModuleEntry.mk.injEq]
  refine ⟨?_, ?_, ?_, ?_, ?_⟩
  · rw [receivedField_front]
  · rw [receivedField_skip result (show 4 = 4 + 0 from rfl), receivedField_front]
  · rw [receivedField_skip result (show 12 = 4 + 8 from rfl),
      receivedField_skip modulebase (show 8 = 8 + 0 from rfl), receivedField_front]
  · rw [receivedField_skip result (show 16 = 4 + 12 from rfl),
      receivedField_skip modulebase (show 12 = 8 + 4 from rfl),
      receivedField_skip modulepart (show 4 = 4 + 0 from rfl), receivedField_front]
  · rw [receivedField_skip result (show 20 = 4 + 16 from rfl),
      receivedField_skip modulebase (show 16 = 8 + 8 from rfl),
      receivedField_skip modulepart (show 8 = 4 + 4 from rfl),
      receivedField_skip modulesize (show 4 = 4 + 0 from rfl), receivedField_last]

end Layouts

def processLayout : Layout CeProcessEntry UInt8 where
  width := 12
  encode := CeProcessEntry.toBytes
  decode := CeProcessEntry.ofBytes
  tailSize header := header.processnamesize.toInt.toNat
  isLast header := header.result == 0
  width_pos := by decide
  length_encode header := by simp [CeProcessEntry.toBytes, Word.width]
  decode_encode := CeProcessEntry.ofBytes_toBytes

def moduleLayout : Layout CeModuleEntry UInt8 where
  width := 24
  encode := CeModuleEntry.toBytes
  decode := CeModuleEntry.ofBytes
  tailSize header := header.modulenamesize.toInt.toNat
  isLast header := header.result == 0
  width_pos := by decide
  length_encode header := by simp [CeModuleEntry.toBytes, Word.width]
  decode_encode := CeModuleEntry.ofBytes_toBytes

/-- What a module entry tells of a region. -/
structure ListedModule where
  modulebase : UInt64
  modulepart : Int32
  modulesize : Int32
  name : List UInt8
  deriving DecidableEq

def MemoryRegion.listed (region : MemoryRegion) : ListedModule :=
  ⟨region.startAddr, region.part, region.regionSize, region.name⟩

def readProcessList (stream : List UInt8) : Option (List ProcessInfo × List UInt8) :=
  (processLayout.readList stream).map fun (records, rest) =>
    (records.map fun record => ⟨record.tail, record.header.pid⟩, rest)

def readModuleList (stream : List UInt8) : Option (List ListedModule × List UInt8) :=
  (moduleLayout.readList stream).map fun (records, rest) =>
    (records.map fun record => ⟨record.header.modulebase, record.header.modulepart,
      record.header.modulesize, record.tail⟩, rest)

def sendProcessList (snapshot : List ProcessInfo) : Handler Unit := do
  snapshot.forM fun procInfo => Client.sendProcess32Entry true procInfo.pid procInfo.name
  Client.sendProcess32Entry false 0 []

/-- As `handleCommandToolHelp32SnapshotEx` sends a module list. -/
def sendModuleList (snapshot : List MemoryRegion) : Handler Unit := do
  snapshot.forM Client.sendModuleRegion
  Client.sendModule32Entry false 0 0 0 0 []

def processRecord (procInfo : ProcessInfo) : Record CeProcessEntry UInt8 :=
  ⟨⟨1, procInfo.pid, Int32.ofNat procInfo.name.length⟩, procInfo.name⟩

def moduleRecord (region : MemoryRegion) : Record CeModuleEntry UInt8 :=
  ⟨⟨1, region.startAddr, region.part, region.regionSize, Int32.ofNat region.name.length⟩,
    region.name⟩

section Sending

theorem namesize_toNat {name : List UInt8} (short : name.length < 2 ^ 31) :
    (Int32.ofNat name.length).toInt.toNat = name.length := by
  rw [Int32.toInt_ofNat_of_lt short, Int.toNat_natCast]

theorem processRecord_framed {procInfo : ProcessInfo} (short : procInfo.name.length < 2 ^ 31) :
    processLayout.Framed (processRecord procInfo) :=
  (namesize_toNat short).symm

theorem moduleRecord_framed {region : MemoryRegion} (short : region.name.length < 2 ^ 31) :
    moduleLayout.Framed (moduleRecord region) :=
  (namesize_toNat short).symm

theorem sendProcessList_sent (env : Environment Outside) (snapshot : List ProcessInfo)
    (world : World Outside) :
    sent ((sendProcessList snapshot).run (answer env) world).trace =
      processLayout.encodeList (snapshot.map processRecord) ++
        processLayout.encodeRecord ⟨⟨0, 0, 0⟩, []⟩ := by
  have returns : (sendProcessList snapshot).Uses Op.Returns := by
    have sends (bytes : List UInt8) : (Op.send bytes).Returns := trivial
    exact Program.Stays.uses ((Program.Stays.forM fun procInfo _ =>
      Client.sendProcess32Entry_stays sends true _ _).bind fun _ =>
        Client.sendProcess32Entry_stays sends false 0 [])
  have emits := (Program.Emits.forM snapshot fun procInfo =>
    sendProcess32Entry_emits true procInfo.pid procInfo.name).bind fun _ =>
      sendProcess32Entry_emits false 0 []
  rw [Layout.encodeList, List.flatMap_map]
  exact sent_of_emits returns emits world

theorem sendModuleList_sent (env : Environment Outside) (snapshot : List MemoryRegion)
    (world : World Outside) :
    sent ((sendModuleList snapshot).run (answer env) world).trace =
      moduleLayout.encodeList (snapshot.map moduleRecord) ++
        moduleLayout.encodeRecord ⟨⟨0, 0, 0, 0, 0⟩, []⟩ := by
  have returns : (sendModuleList snapshot).Uses Op.Returns :=
    (Client.sendModuleList_stays (fun _ => trivial) snapshot).uses
  have emits := (Program.Emits.forM snapshot fun region =>
    sendModule32Entry_emits true region.startAddr region.part region.regionSize region.fileOffset
      region.name).bind fun _ => sendModule32Entry_emits false 0 0 0 0 []
  rw [Layout.encodeList, List.flatMap_map]
  exact sent_of_emits returns emits world

end Sending

theorem readProcessList_sent (env : Environment Outside) {snapshot : List ProcessInfo}
    (short : ∀ procInfo ∈ snapshot, procInfo.name.length < 2 ^ 31) (world : World Outside)
    (rest : List UInt8) :
    readProcessList (sent ((sendProcessList snapshot).run (answer env) world).trace ++ rest) =
      some (snapshot, rest) := by
  have framed : ∀ record ∈ snapshot.map processRecord, processLayout.Framed record := by
    intro record member
    obtain ⟨procInfo, listed, rfl⟩ := List.mem_map.mp member
    exact processRecord_framed (short procInfo listed)
  have others : ∀ record ∈ snapshot.map processRecord,
      processLayout.isLast record.header = false := by
    intro record member
    obtain ⟨procInfo, listed, rfl⟩ := List.mem_map.mp member
    rfl
  have read := Layout.readList_append framed others ⟨⟨0, 0, 0⟩, []⟩ rfl rfl rest
  have listed : (snapshot.map processRecord).map
      (fun record => (⟨record.tail, record.header.pid⟩ : ProcessInfo)) = snapshot := by
    rw [List.map_map]
    exact List.map_id' snapshot
  rw [sendProcessList_sent, List.append_assoc, readProcessList, read]
  exact congrArg (fun entries => some (entries, rest)) listed

theorem readModuleList_sent (env : Environment Outside) {snapshot : List MemoryRegion}
    (short : ∀ region ∈ snapshot, region.name.length < 2 ^ 31) (world : World Outside)
    (rest : List UInt8) :
    readModuleList (sent ((sendModuleList snapshot).run (answer env) world).trace ++ rest) =
      some (snapshot.map MemoryRegion.listed, rest) := by
  have framed : ∀ record ∈ snapshot.map moduleRecord, moduleLayout.Framed record := by
    intro record member
    obtain ⟨region, listed, rfl⟩ := List.mem_map.mp member
    exact moduleRecord_framed (short region listed)
  have others : ∀ record ∈ snapshot.map moduleRecord,
      moduleLayout.isLast record.header = false := by
    intro record member
    obtain ⟨region, listed, rfl⟩ := List.mem_map.mp member
    rfl
  have read := Layout.readList_append framed others ⟨⟨0, 0, 0, 0, 0⟩, []⟩ rfl rfl rest
  have listed : (snapshot.map moduleRecord).map
      (fun record => (⟨record.header.modulebase, record.header.modulepart,
        record.header.modulesize, record.tail⟩ : ListedModule)) =
        snapshot.map MemoryRegion.listed :=
    List.map_map
  rw [sendModuleList_sent, List.append_assoc, readModuleList, read]
  exact congrArg (fun entries => some (entries, rest)) listed

/-- Both lists read back as what was listed, up to the end of the bytes. -/
theorem lists_decode (env : Environment Outside) (world : World Outside) (rest : List UInt8) :
    (∀ snapshot : List ProcessInfo, (∀ procInfo ∈ snapshot, procInfo.name.length < 2 ^ 31) →
      readProcessList (sent ((sendProcessList snapshot).run (answer env) world).trace ++ rest) =
        some (snapshot, rest)) ∧
    ∀ snapshot : List MemoryRegion, (∀ region ∈ snapshot, region.name.length < 2 ^ 31) →
      readModuleList (sent ((sendModuleList snapshot).run (answer env) world).trace ++ rest) =
        some (snapshot.map MemoryRegion.listed, rest) :=
  ⟨fun _ short => readProcessList_sent env short world rest,
    fun _ short => readModuleList_sent env short world rest⟩

section Samples

def emptyWorld : World Unit := ⟨[], [], {}, [], false, ()⟩

def namelessHeap : MemoryRegion where
  vadEntry := { vaStart := 4096, vaEnd := 8191 }
  startAddr := 4096
  regionSize := 4096
  fileOffset := 0
  part := 0
  name := []

theorem lists_decode_one :
    readProcessList (sent ((sendProcessList [⟨asciiBytes "a.exe", 4⟩]).run
        (answer Environment.healthy) emptyWorld).trace ++ [1, 0]) =
      some ([⟨asciiBytes "a.exe", 4⟩], [1, 0]) ∧
    readModuleList (sent ((sendModuleList [namelessHeap]).run (answer Environment.healthy)
        emptyWorld).trace ++ [1, 0]) = some ([⟨4096, 0, 4096, []⟩], [1, 0]) :=
  ⟨(lists_decode Environment.healthy emptyWorld [1, 0]).1 [⟨asciiBytes "a.exe", 4⟩] (by decide),
    (lists_decode Environment.healthy emptyWorld [1, 0]).2 [namelessHeap] (by decide)⟩

end Samples

end CeServer
