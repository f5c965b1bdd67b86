import CeServer.Enumeration
import CeServer.LibraryRuns

/-!
The two ways to list the modules of a process: one CREATETOOLHELP32SNAPSHOTEX,
or a stored snapshot that MODULE32FIRST and MODULE32NEXT walk through.
-/

namespace CeServer

open LittleEndian Interaction Transition

variable {Outside : Type} {env : Environment Outside} {Connection : Type}

def moduleListing (regions : List MemoryRegion) : List UInt8 :=
  (regions.flatMap fun region => SnapshotKind.modules.reply (some region)) ++
    SnapshotKind.modules.reply none

def moduleRequest (procId : UInt32) : List UInt8 :=
  Word.toBytes TH32CS_SNAPMODULE ++ Word.toBytes procId

theorem toolHelp32SnapshotEx_sent (procId : UInt32) (world : World Outside) :
    sent ((Client.toolHelp32SnapshotEx TH32CS_SNAPMODULE procId).run (answer env) world).trace =
      moduleListing (env.respond (.getModuleSnapshot procId.toInt32) world.outside).1 := by
  let regions := (env.respond (.getModuleSnapshot procId.toInt32) world.outside).1
  let listing : Handler Unit := do
    regions.forM Client.sendModuleRegion
    Client.sendModule32Entry false 0 0 0 0 []
  have returns : listing.Uses Op.Returns :=
    (Client.sendModuleList_stays (fun _ => trivial) regions).uses
  have emits : listing.Emits Op.sent (moduleListing regions) :=
    (Program.Emits.forM regions fun region => sendModule32Entry_emits true region.startAddr
      region.part region.regionSize region.fileOffset region.name).bind fun _ =>
        sendModule32Entry_emits false 0 0 0 0 []
  have unthreaded : ¬TH32CS_SNAPMODULE &&& TH32CS_SNAPTHREAD ≠ 0 := by decide
  have modules : TH32CS_SNAPMODULE &&& TH32CS_SNAPMODULE ≠ 0 := by decide
  rw [Client.toolHelp32SnapshotEx, if_neg unthreaded, if_pos modules]
  simp only [invoke, Program.call_bind, Program.ret_bind]
  rw [Program.run_call_of_answer regions { world with
    outside := (env.respond (.getModuleSnapshot procId.toInt32) world.outside).2 } rfl]
  exact sent_of_emits returns emits _

theorem snapshotEx_reply {before after : Shared Outside} {event : CommandEvent Connection}
    (step : CommandStep env before event after)
    (code : event.code = Command.createToolhelp32SnapshotEx.code) {procId : UInt32}
    (received : event.received = moduleRequest procId) :
    event.reply =
      moduleListing (env.respond (.getModuleSnapshot procId.toInt32) before.outside).1 := by
  have same := (serve_perform env (.createToolhelp32SnapshotEx TH32CS_SNAPMODULE procId)
    (by simp [Request.Framed, Request.command]) (before.world [])).sent
  have arrived : (Request.createToolhelp32SnapshotEx TH32CS_SNAPMODULE procId).payload ++
      (before.world []).input = moduleRequest procId := List.append_nil _
  rw [serve, arrived, Request.perform, keepOpen_sent] at same
  rw [CommandEvent.reply, step.calls, Shared.serve, code, received]
  exact same.trans (toolHelp32SnapshotEx_sent procId (before.world []))

def touching (handle : CE_HANDLE) (events : List (CommandEvent Connection)) :
    List (CommandEvent Connection) :=
  events.filter fun event => event.touches handle

theorem moduleWalk_replies {stored final : Shared Outside} {handle : CE_HANDLE}
    {regions : List MemoryRegion} {reads : Nat}
    (reading : Reading .modules handle regions reads stored.state)
    (storable : regions.length ≤ 2 ^ 64 - 2 ^ 31) {events : List (CommandEvent Connection)}
    (run : Run (CommandStep env) stored events final) {count : Nat}
    (walk : (touching handle events).map CommandEvent.code =
      Command.module32First.code :: List.replicate count Command.module32Next.code) :
    (touching handle events).map CommandEvent.reply =
      (List.range (count + 1)).map fun index =>
        SnapshotKind.modules.reply (visible regions)[index]? := by
  obtain ⟨first, rest, shape, firstCode, restCodes⟩ := List.map_eq_cons_iff.mp walk
  obtain ⟨before, later, rfl, apart, touched, following⟩ := List.filter_eq_cons_iff.mp shape
  obtain ⟨middle, runBefore, runLater⟩ := run.split
  obtain ⟨started, step, runLater⟩ := runLater.uncons
  obtain ⟨reads, reading⟩ := reading.remains storable runBefore fun event member touched =>
    absurd touched (apart event member)
  have field := step.field_of_touches firstCode rfl touched
  obtain ⟨firstReply, reading⟩ := reading.first storable step firstCode field
  have replies := (reading.run storable runLater fun event member touched => by
    have listed : event.code ∈ rest.map CommandEvent.code := by
      rw [← following]
      exact List.mem_map_of_mem (List.mem_filter.mpr ⟨member, touched⟩)
    rw [restCodes] at listed
    exact List.eq_of_mem_replicate listed).1
  have length : rest.length = count := by
    rw [← List.length_map CommandEvent.code, restCodes, List.length_replicate]
  rw [following, length] at replies
  rw [shape, List.map_cons, replies, firstReply, List.range_eq_range', List.range'_succ,
    List.map_cons]

theorem map_getElem?_range {Entry Reply : Type} (entries : List Entry)
    (reply : Option Entry → Reply) :
    ((List.range (entries.length + 1)).map fun index => reply entries[index]?) =
      (entries.map fun entry => reply (some entry)) ++ [reply none] := by
  rw [List.range_succ, List.map_append, List.map_singleton, List.getElem?_eq_none le_rfl]
  congr 1
  apply List.ext_getElem
  · simp
  · intro index inside _
    rw [List.length_map, List.length_range] at inside
    simp [inside]

/-- What FIRST and so many NEXT commands send of a snapshot. -/
def moduleWalk (regions : List MemoryRegion) (count : Nat) : List UInt8 :=
  ((List.range (count + 1)).map fun index =>
    SnapshotKind.modules.reply (visible regions)[index]?).flatten

theorem moduleWalk_short {regions : List MemoryRegion} (short : regions.length ≤ 2 ^ 31) :
    moduleWalk regions regions.length = moduleListing regions := by
  rw [moduleWalk, visible, List.take_of_length_le short, map_getElem?_range, List.flatten_append,
    List.flatten_singleton, ← List.flatMap_def]
  rfl

section Serving

variable {library : VmmLibrary Outside} {shared : Shared Outside} {procId : UInt32}

theorem moduleRequest_flags (procId : UInt32) :
    receivedField UInt32 0 (moduleRequest procId) = TH32CS_SNAPMODULE :=
  receivedField_front TH32CS_SNAPMODULE _

theorem moduleRequest_procId (procId : UInt32) :
    receivedField UInt32 4 (moduleRequest procId) = procId := by
  rw [moduleRequest, receivedField_skip TH32CS_SNAPMODULE (show 4 = 4 + 0 from rfl),
    receivedField_last]

/-- CREATETOOLHELP32SNAPSHOT is served when the snapshot is taken. -/
theorem serves_create_iff :
    shared.Serves env library Command.createToolhelp32Snapshot.code (moduleRequest procId) ↔
      ((Vmm.getModuleSnapshot procId.toInt32).run library shared.outside).value.isSome := by
  have reads : Client.handle .createToolhelp32Snapshot =
      (read UInt32 >>= fun flags => read UInt32 >>= fun procId =>
        Client.keepOpen (Client.toolHelp32Snapshot flags procId)) := rfl
  have takes : Client.keepOpen (Client.toolHelp32Snapshot TH32CS_SNAPMODULE procId) =
      (invoke (.getModuleSnapshot procId.toInt32) >>= fun snapshot => Client.keepOpen
        (Client.storeModuleSnapshot snapshot >>= fun handle => send handle)) := rfl
  rw [serves_iff, Client.dispatchCommand_code, reads, implementedRead_value,
    implementedRead_value]
  change Option.isSome (Outcome.value ((Client.keepOpen (Client.toolHelp32Snapshot
    (receivedField UInt32 0 (moduleRequest procId))
    (receivedField UInt32 4 (moduleRequest procId)))).run _ _)) = true ↔ _
  rw [moduleRequest_flags, moduleRequest_procId, takes]
  refine implementedSnapshot_isSome _ _ (fun regions => ?_) _
  exact ⟨trivial, fun _ => ⟨trivial, fun _ => ⟨trivial, fun _ => trivial⟩⟩⟩

theorem serves_listing_iff :
    shared.Serves env library Command.createToolhelp32SnapshotEx.code (moduleRequest procId) ↔
      ((Vmm.getModuleSnapshot procId.toInt32).run library shared.outside).value.isSome := by
  have reads : Client.handle .createToolhelp32SnapshotEx =
      (read UInt32 >>= fun flags => read UInt32 >>= fun procId =>
        Client.keepOpen (Client.toolHelp32SnapshotEx flags procId)) := rfl
  have takes : Client.keepOpen (Client.toolHelp32SnapshotEx TH32CS_SNAPMODULE procId) =
      (invoke (.getModuleSnapshot procId.toInt32) >>= fun snapshot => Client.keepOpen
        (snapshot.forM Client.sendModuleRegion >>= fun _ =>
          Client.sendModule32Entry false 0 0 0 0 [])) := rfl
  rw [serves_iff, Client.dispatchCommand_code, reads, implementedRead_value,
    implementedRead_value]
  change Option.isSome (Outcome.value ((Client.keepOpen (Client.toolHelp32SnapshotEx
    (receivedField UInt32 0 (moduleRequest procId))
    (receivedField UInt32 4 (moduleRequest procId)))).run _ _)) = true ↔ _
  rw [moduleRequest_flags, moduleRequest_procId, takes]
  refine implementedSnapshot_isSome _ _ (fun regions => ?_) _
  exact Client.keepOpen_uses (Client.sendModuleList_stays (fun _ => trivial) regions).uses

end Serving

section Listings

variable {shared stored final : Shared Outside} {create : CommandEvent Connection}
  {handle : CE_HANDLE} {procId : UInt32} {events : List (CommandEvent Connection)}

theorem CommandStep.createsModules (creation : CommandStep env shared create stored)
    (creates : create.code = Command.createToolhelp32Snapshot.code)
    (fields : create.received = moduleRequest procId)
    (replied : create.reply = Word.toBytes handle) :
    handle = shared.state.generateHandle.1 ∧
      Reading .modules handle ((shared.state.handlesToModuleSnapshots.lookup handle).getD
        (env.respond (.getModuleSnapshot procId.toInt32) shared.outside).1) 0 stored.state := by
  have requests : SnapshotKind.requested (receivedField UInt32 0 create.received) =
      some .modules := fields ▸ requested_modules procId
  have process : receivedField UInt32 4 create.received = procId := by
    rw [fields, moduleRequest_procId]
  obtain ⟨answered, _, state⟩ := creation.creates creates requests
  have issues := toBytes_inj (answered.symm.trans replied)
  rw [issues, process] at state
  refine ⟨issues.symm, ?_⟩
  rw [state]
  exact reading_of_store shared.state.generateHandle.2 handle _

/-- The snapshot that the next handle designates once it is stored under it. -/
def ClientState.designatedModules (state : ClientState) (taken : List MemoryRegion) :
    List MemoryRegion :=
  (state.handlesToModuleSnapshots.lookup state.generateHandle.1).getD taken

/-- The walk sends the snapshot that the handle designates. -/
theorem moduleWalk_sends (creation : CommandStep env shared create stored)
    (creates : create.code = Command.createToolhelp32Snapshot.code)
    (fields : create.received = moduleRequest procId) (replied : create.reply = Word.toBytes handle)
    {taken : List MemoryRegion}
    (takes : (env.respond (.getModuleSnapshot procId.toInt32) shared.outside).1 = taken)
    (storable : (shared.state.designatedModules taken).length ≤ 2 ^ 64 - 2 ^ 31)
    (run : Run (CommandStep env) stored events final) {count : Nat}
    (walk : (touching handle events).map CommandEvent.code =
      Command.module32First.code :: List.replicate count Command.module32Next.code) :
    ((touching handle events).map CommandEvent.reply).flatten =
      moduleWalk (shared.state.designatedModules taken) count := by
  obtain ⟨issues, reading⟩ := creation.createsModules creates fields replied
  rw [takes, issues] at reading
  subst issues
  rw [moduleWalk_replies reading storable run walk]
  rfl

end Listings

section Agreement

variable {library : VmmLibrary Outside} {entries : List VadEntry} {shared : Shared Outside}
  {procId : UInt32}

/-- The library hands out the same map of the process whenever its modules are
listed: each of the two listings is made, and they are the same. -/
structure ModuleListingsAgree (Connection : Type) (env : Environment Outside)
    (library : VmmLibrary Outside) (procId : UInt32) (entries : List VadEntry)
    (shared : Shared Outside) : Prop where
  creates : shared.Serves env library Command.createToolhelp32Snapshot.code (moduleRequest procId)
  lists : ∀ listed : Shared Outside, HandsOut library procId entries listed.outside →
    listed.Serves env library Command.createToolhelp32SnapshotEx.code (moduleRequest procId)
  agree : ∀ {create listing : CommandEvent Connection} {events : List (CommandEvent Connection)}
    {stored final listed relisted : Shared Outside} {handle : CE_HANDLE},
    LibraryStep env library shared create stored →
    create.code = Command.createToolhelp32Snapshot.code → create.received = moduleRequest procId →
    create.reply = Word.toBytes handle → Run (LibraryStep env library) stored events final →
    -- FIRST and n NEXT on the handle, among any other commands
    (touching handle events).map CommandEvent.code =
      Command.module32First.code :: List.replicate entries.length Command.module32Next.code →
    LibraryStep env library listed listing relisted →
    listing.code = Command.createToolhelp32SnapshotEx.code →
    listing.received = moduleRequest procId → HandsOut library procId entries listed.outside →
    listing.reply = ((touching handle events).map CommandEvent.reply).flatten

/-- Without the map, no module listing is served. -/
theorem not_serves_of_long (handed : HandsOut library procId entries shared.outside)
    (long : 2 ^ 31 < entries.length) :
    ¬shared.Serves env library Command.createToolhelp32Snapshot.code (moduleRequest procId) := by
  have same : HandsOut library procId.toInt32.toUInt32 entries shared.outside := handed
  rw [serves_create_iff, run_getModuleSnapshot_none same long]
  exact Bool.false_ne_true

theorem respond_of_handsOut (handed : HandsOut library procId entries shared.outside)
    (short : entries.length ≤ 2 ^ 31) :
    ((env.over library).respond (.getModuleSnapshot procId.toInt32) shared.outside).1 =
      Memory.getModuleSnapshot (some entries) := by
  have same : HandsOut library procId.toInt32.toUInt32 entries shared.outside := handed
  change ((Vmm.getModuleSnapshot procId.toInt32).run library shared.outside).value.getD [] = _
  rw [run_getModuleSnapshot same short]
  rfl

theorem module32_unqueried (first : Bool) :
    (Client.handle (if first then .module32First else .module32Next)).Uses Op.Unqueried := by
  refine (Client.handle_stays (coversAll_within (fun op made => ?_) (fun _ => trivial)
    (fun sized => ?_) fun polls => ?_)).uses
  · cases op <;> first | trivial | (cases first <;> exact absurd made Bool.false_ne_true)
  · cases first <;> cases sized
  · cases first <;> cases polls

theorem exists_moduleWalk (env : Environment Outside) (library : VmmLibrary Outside)
    (client : Connection) (stored : Shared Outside) (handle : CE_HANDLE) (count : Nat) :
    ∃ (events : List (CommandEvent Connection)) (final : Shared Outside),
      Run (LibraryStep env library) stored events final ∧
        (touching handle events).map CommandEvent.code =
          Command.module32First.code :: List.replicate count Command.module32Next.code := by
  let bytes := Word.toBytes handle
  obtain ⟨events, final, run, served⟩ := exists_libraryRun env library client stored
    ((Command.module32First, bytes) :: List.replicate count (Command.module32Next, bytes)) (by
      intro command member
      rcases List.mem_cons.mp member with rfl | later
      · exact module32_unqueried true
      · rw [List.eq_of_mem_replicate later]
        exact module32_unqueried false)
  rw [List.map_cons, List.map_replicate] at served
  have whole : touching handle events = events := by
    refine List.filter_eq_self.mpr fun event member => ?_
    have listed : (event.code, event.received) ∈
        (Command.module32First.code, bytes) ::
          List.replicate count (Command.module32Next.code, bytes) :=
      served ▸ List.mem_map_of_mem member
    have field : receivedField CE_HANDLE 0 bytes = handle := receivedField_last handle
    have named : event.names handle := by
      rcases List.mem_cons.mp listed with begins | later
      · obtain ⟨code, received⟩ := Prod.mk.inj begins
        exact (CommandEvent.names_iff code rfl).mpr (received ▸ field)
      · obtain ⟨code, received⟩ := Prod.mk.inj (List.eq_of_mem_replicate later)
        exact (CommandEvent.names_iff code rfl).mpr (received ▸ field)
    rw [CommandEvent.touches, named, Bool.true_or]
  refine ⟨events, final, run, ?_⟩
  have codes := congrArg (List.map Prod.fst) served
  rw [List.map_map, List.map_cons, List.map_replicate] at codes
  rw [whole]
  exact codes

theorem touching_own (handle : CE_HANDLE) (events : List (CommandEvent Connection)) :
    touching handle (events.map CommandEvent.own) =
      (touching handle events).map CommandEvent.own := by
  simp only [touching, List.filter_map, Function.comp_def, CommandEvent.own_touches]

theorem LibraryStep.repliesHandle {create : CommandEvent Connection} {stored : Shared Outside}
    (creation : LibraryStep env library shared create stored)
    (creates : create.code = Command.createToolhelp32Snapshot.code)
    (fields : create.received = moduleRequest procId) :
    create.reply = Word.toBytes shared.state.generateHandle.1 := by
  obtain ⟨above, step, rfl⟩ := creation.refines
  have requests : SnapshotKind.requested (receivedField UInt32 0 above.received) =
      some .modules := by
    rw [show above.received = moduleRequest procId from fields]
    exact requested_modules procId
  rw [CommandEvent.own_reply]
  exact (step.creates creates requests).1

/-- One listing, and the walk over the snapshot that the handle designates. -/
theorem listings_made {create listing : CommandEvent Connection}
    {events : List (CommandEvent Connection)} {stored final listed relisted : Shared Outside}
    {handle : CE_HANDLE} (handed : HandsOut library procId entries shared.outside)
    (short : entries.length ≤ 2 ^ 31)
    (storable : (shared.state.designatedModules
      (Memory.getModuleSnapshot (some entries))).length ≤ 2 ^ 64 - 2 ^ 31)
    (creation : LibraryStep env library shared create stored)
    (creates : create.code = Command.createToolhelp32Snapshot.code)
    (fields : create.received = moduleRequest procId)
    (replied : create.reply = Word.toBytes handle)
    (run : Run (LibraryStep env library) stored events final)
    (walk : (touching handle events).map CommandEvent.code =
      Command.module32First.code :: List.replicate entries.length Command.module32Next.code)
    (lists : LibraryStep env library listed listing relisted)
    (listingCode : listing.code = Command.createToolhelp32SnapshotEx.code)
    (listingFields : listing.received = moduleRequest procId)
    (rehanded : HandsOut library procId entries listed.outside) :
    listing.reply = moduleListing (Memory.getModuleSnapshot (some entries)) ∧
      ((touching handle events).map CommandEvent.reply).flatten =
        moduleWalk (shared.state.designatedModules (Memory.getModuleSnapshot (some entries)))
          entries.length := by
  obtain ⟨create, created, rfl⟩ := creation.refines
  obtain ⟨listing, step, rfl⟩ := lists.refines
  obtain ⟨events, made, rfl⟩ := refines_run run
  have respond :
      ((env.over library).respond (.getModuleSnapshot procId.toInt32) listed.outside).1 =
        Memory.getModuleSnapshot (some entries) := respond_of_handsOut rehanded short
  rw [touching_own, List.map_map] at walk
  constructor
  · rw [CommandEvent.own_reply, snapshotEx_reply step listingCode listingFields, respond]
  · have replies : CommandEvent.reply ∘ CommandEvent.own =
        (CommandEvent.reply : CommandEvent Connection → List UInt8) :=
      funext CommandEvent.own_reply
    rw [touching_own, List.map_map, replies]
    refine moduleWalk_sends created creates fields ?_ (respond_of_handsOut handed short) storable
      made walk
    rw [← replied, CommandEvent.own_reply]

/-- The two listings agree unless the map has more entries than an `int` counts,
or the handle's number has come round and another snapshot is still stored
under it. -/
theorem moduleListingsAgree_iff (client : Connection)
    (handed : HandsOut library procId entries shared.outside)
    (storable : ∀ old, shared.state.handlesToModuleSnapshots.lookup
      shared.state.generateHandle.1 = some old → old.length ≤ 2 ^ 64 - 2 ^ 31) :
    ModuleListingsAgree Connection env library procId entries shared ↔
      entries.length ≤ 2 ^ 31 ∧
        ∀ old, shared.state.handlesToModuleSnapshots.lookup
            shared.state.generateHandle.1 = some old →
          moduleWalk old entries.length =
            moduleListing (Memory.getModuleSnapshot (some entries)) := by
  let taken := Memory.getModuleSnapshot (some entries)
  have length : taken.length = entries.length := List.length_map _
  have walked (short : entries.length ≤ 2 ^ 31) :
      (shared.state.designatedModules taken).length ≤ 2 ^ 64 - 2 ^ 31 := by
    rw [ClientState.designatedModules]
    cases stored : shared.state.handlesToModuleSnapshots.lookup shared.state.generateHandle.1 with
    | none =>
        rw [Option.getD_none]
        omega
    | some old => exact storable old stored
  constructor
  · intro agrees
    have short : entries.length ≤ 2 ^ 31 :=
      Nat.not_lt.mp fun long => not_serves_of_long handed long agrees.creates
    refine ⟨short, fun old stored => ?_⟩
    obtain ⟨create, created, creation, _, code, received⟩ :=
      exists_libraryStep agrees.creates client
    obtain ⟨listing, _, lists, _, listingCode, listingReceived⟩ :=
      exists_libraryStep (agrees.lists shared handed) client
    have replied := creation.repliesHandle code received
    obtain ⟨events, final, run, walk⟩ := exists_moduleWalk env library client created
      shared.state.generateHandle.1 entries.length
    obtain ⟨listing_sends, walk_sends⟩ := listings_made handed short (walked short) creation code
      received replied run walk lists listingCode listingReceived handed
    have same := agrees.agree creation code received replied run walk lists listingCode
      listingReceived handed
    rw [listing_sends, walk_sends, ClientState.designatedModules, stored, Option.getD_some] at same
    exact same.symm
  · rintro ⟨short, walks⟩
    have served (listed : Shared Outside)
        (listedHanded : HandsOut library procId entries listed.outside) :
        ((Vmm.getModuleSnapshot procId.toInt32).run library listed.outside).value.isSome := by
      have same : HandsOut library procId.toInt32.toUInt32 entries listed.outside := listedHanded
      rw [run_getModuleSnapshot same short]
      rfl
    refine ⟨serves_create_iff.mpr (served shared handed), fun listed rehanded =>
      serves_listing_iff.mpr (served listed rehanded), ?_⟩
    intro create listing events stored final listed relisted handle creation code received replied
      run walk lists listingCode listingReceived rehanded
    obtain ⟨listing_sends, walk_sends⟩ := listings_made handed short (walked short) creation code
      received replied run walk lists listingCode listingReceived rehanded
    rw [listing_sends, walk_sends, ClientState.designatedModules]
    cases stored : shared.state.handlesToModuleSnapshots.lookup shared.state.generateHandle.1 with
    | none =>
        rw [Option.getD_none, ← length]
        exact (moduleWalk_short (show taken.length ≤ 2 ^ 31 by omega)).symm
    | some old => exact (walks old stored).symm

end Agreement

section Holding

/-- A library that knows the map of every process and nothing else. -/
def VmmLibrary.holding (entries : List VadEntry) : VmmLibrary Unit
  | .mapGetVadU _, _ => some (some (1, UInt32.ofNat entries.length), ())
  | .vadAt _ i, _ => (entryAt entries i).map fun entry => (entry, ())
  | .memFree _, _ => some ((), ())
  | .malloc _, _ | .pidList .., _ | .processGetInformationString _, _ | .mapGetThread _, _
  | .processGetInformation _, _ => some (none, ())
  | .pidAt .., _ | .threadAt .., _ => none

theorem handsOut_holding {entries : List VadEntry} (counted : entries.length < 2 ^ 32)
    (dwPID : UInt32) : HandsOut (.holding entries) dwPID entries () :=
  ⟨counted, 1, (), (), rfl, fun _ => rfl, rfl⟩

theorem moduleListingsAgree_iff_onePage :
    ModuleListingsAgree Unit .healthy (.holding [{ vaStart := 0x1000, vaEnd := 0x1FFF }]) 4
      [{ vaStart := 0x1000, vaEnd := 0x1FFF }] { outside := () } :=
  (moduleListingsAgree_iff () (handsOut_holding (by decide) 4) (by simp)).mpr
    ⟨by decide, by simp⟩

theorem moduleListings_unserved_2147483649 :
    ¬ModuleListingsAgree Unit .healthy
      (.holding (List.replicate (2 ^ 31 + 1) { vaStart := 0x1000, vaEnd := 0x1FFF })) 4
      (List.replicate (2 ^ 31 + 1) { vaStart := 0x1000, vaEnd := 0x1FFF }) { outside := () } := by
  intro agrees
  generalize same : List.replicate (2 ^ 31 + 1)
    ({ vaStart := 0x1000, vaEnd := 0x1FFF } : VadEntry) = entries at agrees
  have length : entries.length = 2 ^ 31 + 1 := by
    rw [← same]
    exact List.length_replicate
  have handed := handsOut_holding (show entries.length < 2 ^ 32 by omega) 4
  have long : 2 ^ 31 < entries.length := by omega
  exact not_serves_of_long handed long agrees.creates

end Holding

end CeServer
