import CeServer.Replies

/-!
The replies about the memory regions of a process: one region by address, and
the whole map.
-/

namespace CeServer

open LittleEndian Interaction

variable {Outside : Type} {env : Environment Outside}

def VadEntry.contains (vadEntry : VadEntry) (address : UInt64) : Bool :=
  vadEntry.vaStart ≤ address && address ≤ vadEntry.vaEnd

def MemoryRegion.contains (region : MemoryRegion) (address : UInt64) : Bool :=
  region.vadEntry.contains address

/-- What `Memory::getModuleSnapshot` answers for the process of an open handle. -/
def snapshotOf (env : Environment Outside) (world : World Outside) (handle : CE_HANDLE) :
    List MemoryRegion :=
  (env.respond (.getModuleSnapshot (world.state.getProcessID handle)) world.outside).1

def shortName (region? : Option MemoryRegion) : List UInt8 :=
  match region? with
  | none => []
  | some region => region.name.take (min 127 region.name.length)

def nameReply (region? : Option MemoryRegion) : List UInt8 :=
  UInt8.ofNat (shortName region?).length :: shortName region?

theorem shortName_length (region? : Option MemoryRegion) : (shortName region?).length ≤ 127 := by
  cases region? with
  | none => exact Nat.zero_le _
  | some region =>
      rw [shortName, List.length_take]
      omega

def replyRegion (named : Bool) (region? : Option MemoryRegion) : Handler Bool := do
  Client.sendVirtualQueryExResult region?
  if named then
    let truncated := shortName region?
    send (UInt8.ofNat truncated.length)
    if truncated.length > 0 then
      sendBytes truncated
  return true

theorem nameReply_eq (region? : Option MemoryRegion) : nameReply region? =
    Word.toBytes (UInt8.ofNat (shortName region?).length) ++ shortName region? := by
  change _ = UInt8.ofNat (UInt8.ofNat (shortName region?).length).toNat :: shortName region?
  rw [UInt8.ofNat_toNat]
  rfl

theorem replyRegion_emits (named : Bool) (region? : Option MemoryRegion) :
    (replyRegion named region?).Emits Op.sent ((Client.virtualQueryExResult region?).toBytes ++
      if named then nameReply region? else []) := by
  refine (sendBytes_emits _).bind fun _ => ?_
  cases named with
  | false => rfl
  | true =>
      rw [if_pos rfl, nameReply_eq]
      refine (send_emits (UInt8.ofNat (shortName region?).length)).bind fun _ => ?_
      by_cases long : (shortName region?).length > 0
      · rw [if_pos long]
        have tail : (sendBytes (shortName region?) >>= fun _ => (pure true : Handler Bool)).Emits
            Op.sent (shortName region? ++ []) := (sendBytes_emits _).bind fun _ => rfl
        rwa [List.append_nil] at tail
      · rw [if_neg long]
        exact List.length_eq_zero_iff.mp (Nat.le_zero.mp (Nat.not_lt.mp long))

theorem replyRegion_returns (named : Bool) (region? : Option MemoryRegion) :
    (replyRegion named region?).Uses Op.Returns := by
  refine Program.Uses.bind ⟨trivial, fun _ => trivial⟩ fun _ => ?_
  refine (Program.uses_ite _ _).mpr ⟨fun _ => ?_, fun _ => trivial⟩
  refine Program.Uses.bind ⟨trivial, fun _ => trivial⟩ fun _ => ?_
  exact (Program.uses_ite _ _).mpr ⟨fun _ => ⟨trivial, fun _ => trivial⟩, fun _ => trivial⟩

theorem regionInfo_eq (named : Bool) (handle : CE_HANDLE) (address : UInt64) :
    Client.regionInfo named handle address = (do
      if !(← invoke (.state (.containsProcessIDHandle handle))) then
        return false
      else if address ≤ 0 then
        replyRegion false none
      else
        let processID ← invoke (.state (.getProcessID handle))
        let regions ← invoke (.getModuleSnapshot processID)
        replyRegion named (regions.find? fun region => region.contains address)) := rfl

def respectiveRegion (env : Environment Outside) (world : World Outside) (handle : CE_HANDLE)
    (address : UInt64) : Option MemoryRegion :=
  (snapshotOf env world handle).find? fun region => region.contains address

theorem regionInfo_sent (named : Bool) {handle : CE_HANDLE} (address : UInt64)
    {world : World Outside} (opened : handle ∈ world.state.handlesToProcessIDs) :
    sent ((Client.regionInfo named handle address).run (answer env) world).trace =
      if address = 0 then (Client.virtualQueryExResult none).toBytes
      else (Client.virtualQueryExResult (respectiveRegion env world handle address)).toBytes ++
        if named then nameReply (respectiveRegion env world handle address) else [] := by
  have present : world.state.containsProcessIDHandle handle = true := decide_eq_true opened
  simp only [regionInfo_eq, invoke, Program.call_bind, Program.ret_bind, UInt64.le_zero_iff]
  rw [Program.run_call_of_answer (world.state.containsProcessIDHandle handle) world rfl, present]
  simp only [Bool.not_true, Bool.false_eq_true, if_false, Outcome.after_trace]
  by_cases zero : address = 0
  · rw [if_pos zero, if_pos zero]
    exact (sent_of_emits (replyRegion_returns ..) (replyRegion_emits ..) world).trans
      (List.append_nil _)
  · rw [if_neg zero, if_neg zero,
      Program.run_call_of_answer (world.state.getProcessID handle) world rfl,
      Program.run_call_of_answer (snapshotOf env world handle) { world with
        outside := (env.respond (.getModuleSnapshot (world.state.getProcessID handle))
          world.outside).2 } rfl]
    exact sent_of_emits (replyRegion_returns ..) (replyRegion_emits ..) _

theorem virtualQueryEx_sent {handle : CE_HANDLE} (address : UInt64) {world : World Outside}
    (opened : handle ∈ world.state.handlesToProcessIDs) :
    sent (serve env (.virtualQueryEx handle address) world).trace =
      (Client.virtualQueryExResult
        (if address = 0 then none else respectiveRegion env world handle address)).toBytes := by
  have framed : (Request.virtualQueryEx handle address).Framed := by
    simp [Request.Framed, Request.command]
  rw [(serve_perform env _ framed world).sent, Request.perform, regionInfo_sent _ _ opened]
  split
  · rfl
  · exact List.append_nil _

theorem getRegionInfo_sent {handle : CE_HANDLE} (address : UInt64) {world : World Outside}
    (opened : handle ∈ world.state.handlesToProcessIDs) :
    sent (serve env (.getRegionInfo handle address) world).trace =
      (Client.virtualQueryExResult
          (if address = 0 then none else respectiveRegion env world handle address)).toBytes ++
        if address = 0 then [] else nameReply (respectiveRegion env world handle address) := by
  have framed : (Request.getRegionInfo handle address).Framed := by
    simp [Request.Framed, Request.command]
  rw [(serve_perform env _ framed world).sent, Request.perform, regionInfo_sent _ _ opened]
  split
  · exact (List.append_nil _).symm
  · rfl

theorem virtualQueryExFull_sent {handle : CE_HANDLE} (flags : UInt8) {world : World Outside}
    (opened : handle ∈ world.state.handlesToProcessIDs) :
    sent (serve env (.virtualQueryExFull handle flags) world).trace =
      Word.toBytes (Int32.ofNat (snapshotOf env world handle).length) ++
        (snapshotOf env world handle).flatMap fun region =>
          (Client.virtualQueryExFullResult region).toBytes := by
  let regions := snapshotOf env world handle
  let listing : Handler Bool := do
    send (Int32.ofNat regions.length)
    regions.forM Client.sendVirtualQueryExFullResult
    return true
  have returns : listing.Uses Op.Returns := by
    refine Program.Uses.bind ⟨trivial, fun _ => trivial⟩ fun _ => ?_
    have each (region : MemoryRegion) :
        (Client.sendVirtualQueryExFullResult region).Uses Op.Returns :=
      ⟨trivial, fun _ => trivial⟩
    exact (Program.Uses.forM fun region _ => each region).bind fun _ => trivial
  have emits : listing.Emits Op.sent (Word.toBytes (Int32.ofNat regions.length) ++
      (regions.flatMap (fun region => (Client.virtualQueryExFullResult region).toBytes) ++ [])) :=
    (send_emits _).bind fun _ =>
      (Program.Emits.forM regions fun region => sendBytes_emits _).bind fun _ => rfl
  have present : world.state.containsProcessIDHandle handle = true := decide_eq_true opened
  rw [(serve_perform env _ (by simp [Request.Framed, Request.command]) world).sent, Request.perform]
  simp only [Client.virtualQueryExFull, invoke, Program.call_bind, Program.ret_bind]
  rw [Program.run_call_of_answer (world.state.containsProcessIDHandle handle) world rfl, present]
  simp only [Bool.not_true, Bool.false_eq_true, if_false, Outcome.after_trace]
  rw [Program.run_call_of_answer (world.state.getProcessID handle) world rfl,
    Program.run_call_of_answer regions { world with
      outside := (env.respond (.getModuleSnapshot (world.state.getProcessID handle))
        world.outside).2 } rfl]
  rw [List.append_nil] at emits
  exact sent_of_emits returns emits _

noncomputable def Environment.mapping (entries : List VadEntry) : Environment Unit where
  respond op outside := match op with
    | .getModuleSnapshot _ => (Memory.getModuleSnapshot (some entries), outside)
    | op => Environment.healthy.respond op outside
  firstEntry := Environment.healthy.firstEntry

def opened4 : World Unit :=
  { input := [], state := ClientState.storeOpenProcess {} 4 1, outside := () }

theorem mem_opened4 : (1 : CE_HANDLE) ∈ opened4.state.handlesToProcessIDs :=
  Finmap.mem_insert.mpr (.inl rfl)

/-- A reply to GETREGIONINFO with its record and its name, next to the reply to
VIRTUALQUERYEX, which is the record alone. -/
def CompleteReply (matched : Option MemoryRegion) (info query : List UInt8) : Prop :=
  ∃ (record : CeVirtualQueryExOutput) (length : UInt8) (name : List UInt8),
    length.toNat ≤ 127 ∧ name.length = length.toNat ∧
      name = ((matched.map MemoryRegion.name).getD []).take length.toNat ∧
      info = record.toBytes ++ length :: name ∧ query = record.toBytes

theorem CeVirtualQueryExOutput.toBytes_length (record : CeVirtualQueryExOutput) :
    record.toBytes.length = 25 := by
  simp only [toBytes, List.length_append, Word.length_toBytes]
  rfl

theorem completeReply_nameReply (region? : Option MemoryRegion) (record : CeVirtualQueryExOutput) :
    CompleteReply region? (record.toBytes ++ nameReply region?) record.toBytes := by
  have short := shortName_length region?
  have length : (UInt8.ofNat (shortName region?).length).toNat = (shortName region?).length :=
    UInt8.toNat_ofNat_of_lt' (by simp only [UInt8.size]; omega)
  refine ⟨record, _, shortName region?, length.trans_le short, length.symm, ?_, rfl, rfl⟩
  rw [length]
  cases region? with
  | none => rfl
  | some region =>
      simp only [shortName, Option.map_some, Option.getD_some, List.length_take]
      congr 1
      omega

theorem regionInfo_keeps {handle : CE_HANDLE} (address : UInt64) {world : World Outside}
    (opened : handle ∈ world.state.handlesToProcessIDs) :
    (serve env (.getRegionInfo handle address) world).value = some true ∧
      (serve env (.virtualQueryEx handle address) world).value = some true := by
  have field : receivedField CE_HANDLE 0
      (Word.toBytes handle ++ Word.toBytes address ++ world.input) = handle := by
    rw [receivedField, List.drop_zero, List.append_assoc, take_toBytes, Word.ofBytes_toBytes]
  have present : world.state.containsProcessIDHandle handle = true := decide_eq_true opened
  constructor
  · rw [serve, dispatchCommand_value, commandKeepsSocketOpen, Command.ofCode_code]
    simp only [Request.command, Request.payload, keepsSocketOpen, field, present]
  · rw [serve, dispatchCommand_value, commandKeepsSocketOpen, Command.ofCode_code]
    simp only [Request.command, Request.payload, keepsSocketOpen, field, present]

theorem not_completeReply_record (matched : Option MemoryRegion) (record : CeVirtualQueryExOutput)
    (query : List UInt8) : ¬CompleteReply matched record.toBytes query := by
  rintro ⟨_, length, name, _, _, _, info, _⟩
  have shorter := congrArg List.length info
  rw [List.length_append, CeVirtualQueryExOutput.toBytes_length,
    CeVirtualQueryExOutput.toBytes_length, List.length_cons] at shorter
  omega

/-- The reply about an open handle has its name part exactly when the address is
not 0. -/
theorem getRegionInfo_complete_iff {handle : CE_HANDLE} (address : UInt64) {world : World Outside}
    (opened : handle ∈ world.state.handlesToProcessIDs) :
    (serve env (.getRegionInfo handle address) world).value = some true ∧
      (CompleteReply (respectiveRegion env world handle address)
          (sent (serve env (.getRegionInfo handle address) world).trace)
          (sent (serve env (.virtualQueryEx handle address) world).trace) ↔
        address ≠ 0) := by
  refine ⟨(regionInfo_keeps address opened).1, ?_⟩
  rw [getRegionInfo_sent address opened, virtualQueryEx_sent address opened]
  constructor
  · rintro complete rfl
    rw [if_pos rfl, if_pos rfl, List.append_nil] at complete
    exact not_completeReply_record _ _ _ complete
  · intro nonzero
    rw [if_neg nonzero, if_neg nonzero]
    exact completeReply_nameReply _ _

theorem getRegionInfo_complete_iff_mapped :
    CompleteReply
      (respectiveRegion (.mapping [{ vaStart := 0x1000, vaEnd := 0x1FFF }]) opened4 1 0x1800)
      (sent (serve (.mapping [{ vaStart := 0x1000, vaEnd := 0x1FFF }])
        (.getRegionInfo 1 0x1800) opened4).trace)
      (sent (serve (.mapping [{ vaStart := 0x1000, vaEnd := 0x1FFF }])
        (.virtualQueryEx 1 0x1800) opened4).trace) :=
  (getRegionInfo_complete_iff 0x1800 mem_opened4).2.mpr (by decide)

theorem getRegionInfo_incomplete_zero :
    ¬∀ address, CompleteReply (respectiveRegion (.mapping []) opened4 1 address)
      (sent (serve (.mapping []) (.getRegionInfo 1 address) opened4).trace)
      (sent (serve (.mapping []) (.virtualQueryEx 1 address) opened4).trace) := by
  intro complete
  have zero := complete 0
  rw [getRegionInfo_sent 0 mem_opened4, if_pos rfl, if_pos rfl, List.append_nil] at zero
  exact not_completeReply_record _ _ _ zero

section Mapped

structure Mapped (env : Environment Outside) (world : World Outside) (handle : CE_HANDLE)
    (entries : List VadEntry) : Prop where
  opened : handle ∈ world.state.handlesToProcessIDs
  map : snapshotOf env world handle = Memory.getModuleSnapshot (some entries)

theorem mapped_opened4 (entries : List VadEntry) : Mapped (.mapping entries) opened4 1 entries :=
  ⟨mem_opened4, rfl⟩

def VadEntry.regionInfo (vadEntry : VadEntry) : CeRegionInfo :=
  Client.virtualQueryExFullResult (.ofVadEntry vadEntry)

def CeRegionInfo.found (info : CeRegionInfo) : CeVirtualQueryExOutput :=
  { result := 1, protection := info.protection, type := info.type,
    baseaddress := info.baseaddress, size := info.size }

theorem VadEntry.found_regionInfo (vadEntry : VadEntry) :
    Client.virtualQueryExResult (some (.ofVadEntry vadEntry)) = vadEntry.regionInfo.found := rfl

variable {world : World Outside} {handle : CE_HANDLE} {entries : List VadEntry}

theorem Mapped.listing (mapped : Mapped env world handle entries) (flags : UInt8) :
    sent (serve env (.virtualQueryExFull handle flags) world).trace =
      Word.toBytes (Int32.ofNat entries.length) ++
        (entries.map VadEntry.regionInfo).flatMap CeRegionInfo.toBytes := by
  rw [virtualQueryExFull_sent flags mapped.opened, mapped.map, Memory.getModuleSnapshot,
    List.length_map, List.flatMap_map, List.flatMap_map]
  rfl

theorem Mapped.respective (mapped : Mapped env world handle entries) (address : UInt64) :
    respectiveRegion env world handle address =
      (entries.find? fun entry => entry.contains address).map .ofVadEntry := by
  rw [respectiveRegion, mapped.map, Memory.getModuleSnapshot, List.find?_map]
  rfl

theorem Mapped.replies (mapped : Mapped env world handle entries) {address : UInt64}
    (nonzero : address ≠ 0) {found? : Option VadEntry}
    (first : (entries.find? fun entry => entry.contains address) = found?) :
    sent (serve env (.virtualQueryEx handle address) world).trace =
        (Client.virtualQueryExResult (found?.map .ofVadEntry)).toBytes ∧
      ∃ name, sent (serve env (.getRegionInfo handle address) world).trace =
        (Client.virtualQueryExResult (found?.map .ofVadEntry)).toBytes ++ name := by
  rw [virtualQueryEx_sent address mapped.opened, getRegionInfo_sent address mapped.opened,
    if_neg nonzero, if_neg nonzero, mapped.respective, first]
  exact ⟨rfl, _, rfl⟩

end Mapped

section Agreement

def VadEntry.Disjoint (first second : VadEntry) : Prop :=
  ∀ address, first.contains address → ¬second.contains address

theorem find?_of_disjoint {entries : List VadEntry} (disjoint : entries.Pairwise VadEntry.Disjoint)
    {entry : VadEntry} {address : UInt64} (listed : entry ∈ entries)
    (inside : entry.contains address) :
    (entries.find? fun entry => entry.contains address) = some entry := by
  induction entries with
  | nil => exact nomatch listed
  | cons head rest ih =>
      obtain ⟨apart, disjoint⟩ := List.pairwise_cons.mp disjoint
      rcases List.mem_cons.mp listed with rfl | later
      · exact List.find?_cons_of_pos inside
      · have missed : ¬head.contains address := fun holds => apart entry later address holds inside
        rw [List.find?_cons, Bool.eq_false_of_not_eq_true missed]
        exact ih disjoint later

def byteEntries (count : Nat) : List VadEntry :=
  (List.range count).map fun address =>
    { vaStart := UInt64.ofNat address, vaEnd := UInt64.ofNat address }

theorem byteEntries_disjoint {count : Nat} (bounded : count < 2 ^ 64) :
    (byteEntries count).Pairwise VadEntry.Disjoint := by
  refine List.pairwise_map.mpr (List.pairwise_iff_getElem.mpr ?_)
  intro first second firstBound secondBound before address inFirst inSecond
  simp only [VadEntry.contains, List.getElem_range, Bool.and_eq_true, decide_eq_true_eq,
    UInt64.le_iff_toNat_le] at inFirst inSecond
  rw [List.length_range] at firstBound secondBound
  rw [UInt64.toNat_ofNat_of_lt' (by simp only [UInt64.size]; omega)] at inFirst inSecond
  omega

/-- In a disjoint map the single replies are the records of the full listing. -/
theorem virtualQueries_agree {world later : World Outside} {handle : CE_HANDLE}
    {entries : List VadEntry} (mapped : Mapped env world handle entries)
    (mappedLater : Mapped env later handle entries)
    (disjoint : entries.Pairwise VadEntry.Disjoint) (flags : UInt8) :
    ∃ (count : Int32) (listing : List CeRegionInfo),
      sent (serve env (.virtualQueryExFull handle flags) world).trace =
          Word.toBytes count ++ listing.flatMap CeRegionInfo.toBytes ∧
        (entries.length < 2 ^ 31 → count.toInt = listing.length) ∧
        listing.length = entries.length ∧
        (∀ (index : Nat) (entry : VadEntry), entries[index]? = some entry →
          ∃ info, listing[index]? = some info ∧ info.baseaddress = entry.vaStart ∧
          ∀ address, address ≠ 0 → entry.contains address →
            sent (serve env (.virtualQueryEx handle address) later).trace = info.found.toBytes ∧
            ∃ name, sent (serve env (.getRegionInfo handle address) later).trace =
              info.found.toBytes ++ name) ∧
        ∀ address, address ≠ 0 → (∀ entry ∈ entries, ¬entry.contains address) →
          ∃ record : CeVirtualQueryExOutput, record.result = 0 ∧
            sent (serve env (.virtualQueryEx handle address) later).trace = record.toBytes ∧
            ∃ name, sent (serve env (.getRegionInfo handle address) later).trace =
              record.toBytes ++ name := by
  refine ⟨_, _, mapped.listing flags, ?_, List.length_map _, ?_, ?_⟩
  · intro counted
    rw [Int32.toInt_ofNat_of_lt counted, List.length_map]
  · intro index entry listed
    refine ⟨entry.regionInfo, ?_, rfl, ?_⟩
    · rw [List.getElem?_map, listed, Option.map_some]
    · intro address nonzero inside
      have first := find?_of_disjoint disjoint (List.mem_of_getElem? listed) inside
      have replies := mappedLater.replies nonzero first
      rw [Option.map_some, VadEntry.found_regionInfo] at replies
      exact replies
  · intro address nonzero outside
    have missed : (entries.find? fun entry => entry.contains address) = none :=
      List.find?_eq_none.mpr outside
    have replies := mappedLater.replies nonzero missed
    rw [Option.map_none] at replies
    exact ⟨Client.virtualQueryExResult none, rfl, replies⟩

theorem virtualQueries_agree_byteEntries :
    ∃ (listing : List CeRegionInfo) (info : CeRegionInfo), listing[2]? = some info ∧
      sent (serve (.mapping (byteEntries 3)) (.virtualQueryExFull 1 0) opened4).trace =
        Word.toBytes (3 : Int32) ++ listing.flatMap CeRegionInfo.toBytes ∧
      sent (serve (.mapping (byteEntries 3)) (.virtualQueryEx 1 2) opened4).trace =
        info.found.toBytes := by
  have mapped := mapped_opened4 (byteEntries 3)
  obtain ⟨count, listing, full, counted, length, singles, _⟩ :=
    virtualQueries_agree mapped mapped (byteEntries_disjoint (by decide)) 0
  obtain ⟨info, recorded, _, replies⟩ := singles 2 { vaStart := 2, vaEnd := 2 } rfl
  have three : count = 3 := Int32.toInt_inj.mp ((counted (by decide)).trans (by rw [length]; rfl))
  exact ⟨listing, info, recorded, three ▸ full, (replies 2 (by decide) (by decide)).1⟩

/-- The reply to VIRTUALQUERYEXFULL has no reading with as many records as it counts. -/
theorem virtualQueryExFull_miscounts_byteEntries :
    (∀ entry ∈ byteEntries (2 ^ 31), entry.vaStart ≤ entry.vaEnd) ∧
      (byteEntries (2 ^ 31)).Pairwise VadEntry.Disjoint ∧
      ¬∃ (count : Int32) (listing : List CeRegionInfo),
        sent (serve (.mapping (byteEntries (2 ^ 31))) (.virtualQueryExFull 1 0) opened4).trace =
            Word.toBytes count ++ listing.flatMap CeRegionInfo.toBytes ∧
          count.toInt = listing.length := by
  refine ⟨?_, byteEntries_disjoint (by decide), ?_⟩
  · intro entry listed
    obtain ⟨address, _, rfl⟩ := List.mem_map.mp listed
    exact UInt64.le_refl _
  · rintro ⟨count, listing, reply, counted⟩
    rw [(mapped_opened4 _).listing 0] at reply
    have front :=
      congrArg (fun bytes => (Word.ofBytes (bytes.take (Word.width Int32)) : Int32)) reply
    simp only [take_toBytes, Word.ofBytes_toBytes] at front
    have length : (byteEntries (2 ^ 31)).length = 2 ^ 31 :=
      (List.length_map _).trans List.length_range
    rw [← front, length] at counted
    have negative : (Int32.ofNat (2 ^ 31)).toInt = -2 ^ 31 := by decide
    omega

end Agreement

section Coverage

def VadEntry.width (vadEntry : VadEntry) : Nat :=
  vadEntry.vaEnd.toNat - vadEntry.vaStart.toNat + 1

structure CeRegionInfo.Covers (info : CeRegionInfo) (vadEntry : VadEntry) : Prop where
  base : info.baseaddress = vadEntry.vaStart
  size : info.size.toNat = vadEntry.width
  inside (address : UInt64) : vadEntry.contains address →
    info.baseaddress.toNat ≤ address.toNat ∧
      address.toNat < info.baseaddress.toNat + info.size.toNat

/-- What 32 signed bits keep of a 64-bit number. -/
theorem signExtended_eq_iff (wide : UInt64) :
    wide.toUInt32.toInt32.toInt64.toUInt64 = wide ↔
      wide.toNat < 2 ^ 31 ∨ 2 ^ 64 - 2 ^ 31 ≤ wide.toNat := by
  have bits : wide.toUInt32.toInt32.toInt64.toUInt64.toNat =
      ((wide.toBitVec.setWidth 32).signExtend 64).toNat := rfl
  have small := wide.toNat_lt
  rw [← UInt64.toNat_inj, bits, BitVec.toNat_signExtend, BitVec.msb_eq_decide]
  simp only [BitVec.toNat_setWidth, UInt64.toNat_toBitVec, decide_eq_true_eq]
  by_cases high : 2 ^ 31 ≤ wide.toNat % 2 ^ 32
  · rw [if_pos high]
    omega
  · rw [if_neg high]
    omega

theorem VadEntry.toNat_size {vadEntry : VadEntry} (ordered : vadEntry.vaStart ≤ vadEntry.vaEnd)
    (proper : vadEntry.width < 2 ^ 64) :
    (vadEntry.vaEnd - vadEntry.vaStart + 1).toNat = vadEntry.width := by
  rw [UInt64.toNat_add, UInt64.toNat_sub_of_le _ _ ordered]
  exact Nat.mod_eq_of_lt proper

theorem VadEntry.regionInfo_covers_iff {vadEntry : VadEntry}
    (ordered : vadEntry.vaStart ≤ vadEntry.vaEnd) (proper : vadEntry.width < 2 ^ 64) :
    vadEntry.regionInfo.Covers vadEntry ↔
      vadEntry.width < 2 ^ 31 ∨ 2 ^ 64 - 2 ^ 31 ≤ vadEntry.width := by
  have exact : vadEntry.regionInfo.size.toNat = vadEntry.width ↔
      vadEntry.width < 2 ^ 31 ∨ 2 ^ 64 - 2 ^ 31 ≤ vadEntry.width := by
    rw [← vadEntry.toNat_size ordered proper, ← signExtended_eq_iff, ← UInt64.toNat_inj]
    rfl
  rw [← exact]
  refine ⟨fun covers => covers.size, fun size => ⟨rfl, size, fun address inside => ?_⟩⟩
  simp only [VadEntry.contains, Bool.and_eq_true, decide_eq_true_eq,
    UInt64.le_iff_toNat_le] at inside
  have base : vadEntry.regionInfo.baseaddress = vadEntry.vaStart := rfl
  rw [size, base, VadEntry.width]
  omega

/-- Every reply about an entry carries its record, which covers the entry exactly
when its width survives the 32-bit size. -/
theorem regionReplies_cover_iff {world : World Outside} {handle : CE_HANDLE}
    {entries : List VadEntry} (mapped : Mapped env world handle entries) {index : Nat}
    {entry : VadEntry} (listed : entries[index]? = some entry)
    (ordered : entry.vaStart ≤ entry.vaEnd) (proper : entry.width < 2 ^ 64) :
    ∃ info : CeRegionInfo,
      (∀ flags, ∃ (count : Int32) (listing : List CeRegionInfo), listing[index]? = some info ∧
        sent (serve env (.virtualQueryExFull handle flags) world).trace =
          Word.toBytes count ++ listing.flatMap CeRegionInfo.toBytes) ∧
        (∀ address, address ≠ 0 →
          (entries.find? fun entry => entry.contains address) = some entry →
            sent (serve env (.virtualQueryEx handle address) world).trace = info.found.toBytes ∧
            ∃ name, sent (serve env (.getRegionInfo handle address) world).trace =
              info.found.toBytes ++ name) ∧
        (info.Covers entry ↔ entry.width < 2 ^ 31 ∨ 2 ^ 64 - 2 ^ 31 ≤ entry.width) := by
  refine ⟨entry.regionInfo, fun flags => ?_, ?_, entry.regionInfo_covers_iff ordered proper⟩
  · refine ⟨_, _, ?_, mapped.listing flags⟩
    rw [List.getElem?_map, listed, Option.map_some]
  · intro address nonzero first
    have replies := mapped.replies nonzero first
    rw [Option.map_some, VadEntry.found_regionInfo] at replies
    exact replies

theorem regionReplies_cover_iff_page :
    ∃ info : CeRegionInfo,
      sent (serve (.mapping [{ vaStart := 0x1000, vaEnd := 0x1FFF }]) (.virtualQueryEx 1 0x1800)
        opened4).trace = info.found.toBytes ∧
        info.Covers { vaStart := 0x1000, vaEnd := 0x1FFF } := by
  let entry : VadEntry := { vaStart := 0x1000, vaEnd := 0x1FFF }
  have listed : [entry][0]? = some entry := rfl
  obtain ⟨info, _, replies, covers⟩ :=
    regionReplies_cover_iff (mapped_opened4 [entry]) listed (by decide) (by decide)
  exact ⟨info, (replies 0x1800 (by decide) rfl).1, covers.mpr (by decide)⟩

theorem regionReplies_truncate_2GiB :
    let entry : VadEntry := { vaStart := 0x1000, vaEnd := 0x80000FFF }
    entry.vaStart ≤ entry.vaEnd ∧ entry.width = 2 ^ 31 ∧
      ∃ info : CeRegionInfo, info.size.toNat = 2 ^ 64 - 2 ^ 31 ∧
        sent (serve (.mapping [entry]) (.virtualQueryExFull 1 0) opened4).trace =
          Word.toBytes (1 : Int32) ++ info.toBytes ∧
        sent (serve (.mapping [entry]) (.virtualQueryEx 1 0x1000) opened4).trace =
          info.found.toBytes := by
  intro entry
  refine ⟨by decide, by decide, entry.regionInfo, by decide, ?_, ?_⟩
  · rw [(mapped_opened4 [entry]).listing 0]
    exact congrArg _ (List.append_nil _)
  · have first : ([entry].find? fun entry => entry.contains 0x1000) = some entry := rfl
    exact ((mapped_opened4 [entry]).replies (by decide) first).1

end Coverage

end CeServer
