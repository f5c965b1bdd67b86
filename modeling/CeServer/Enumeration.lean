import CeServer.CommandRuns
import CeServer.Regions

/-!
Walking through a stored snapshot: FIRST and NEXT commands give its entries one
after the other, whatever the other handles are used for in between.
-/

namespace CeServer

open LittleEndian Interaction Transition

variable {Outside : Type} {env : Environment Outside}

inductive SnapshotKind
  | processes
  | modules
  deriving DecidableEq

namespace SnapshotKind

abbrev Entry : SnapshotKind → Type
  | processes => ProcessInfo
  | modules => MemoryRegion

def table : (kind : SnapshotKind) → ClientState → Table (List kind.Entry)
  | processes, state => state.handlesToProcessInfoSnapshots
  | modules, state => state.handlesToModuleSnapshots

def iter : SnapshotKind → ClientState → Table Int32
  | processes, state => state.processIter
  | modules, state => state.moduleIter

def first : SnapshotKind → Command
  | processes => .process32First
  | modules => .module32First

def next : SnapshotKind → Command
  | processes => .process32Next
  | modules => .module32Next

def requested (flags : UInt32) : Option SnapshotKind :=
  if flags &&& TH32CS_SNAPPROCESS ≠ 0 then some processes
  else if flags &&& TH32CS_SNAPMODULE ≠ 0 then some modules
  else none

def taken (env : Environment Outside) (outside : Outside) (procId : UInt32) :
    (kind : SnapshotKind) → List kind.Entry
  | processes => (env.respond .getProcessSnapshot outside).1
  | modules => (env.respond (.getModuleSnapshot procId.toInt32) outside).1

def object : (kind : SnapshotKind) → List kind.Entry → HandleObject
  | processes, snapshot => .processes snapshot
  | modules, snapshot => .modules snapshot

def reply : (kind : SnapshotKind) → Option kind.Entry → List UInt8
  | processes, none => processEntryBytes false 0 []
  | processes, some procInfo => processEntryBytes true procInfo.pid (cString procInfo.name)
  | modules, none => moduleEntryBytes false 0 0 0 []
  | modules, some region =>
      moduleEntryBytes true region.startAddr region.part region.regionSize region.name

end SnapshotKind

section Replies

theorem keepOpen_sent (handler : Handler Unit) (world : World Outside) :
    sent ((Client.keepOpen handler).run (answer env) world).trace =
      sent (handler.run (answer env) world).trace := by
  rw [Client.keepOpen, Program.run_bind]
  cases (handler.run (answer env) world).value with
  | none => rfl
  | some value => exact congrArg sent (List.append_nil _)

theorem cursorEntry_eq {Entry : Type} (handle : CE_HANDLE) (snapshot : List Entry)
    (cursor : Int32) : cursorEntry handle snapshot cursor =
      snapshot[cursorIndex cursor]?.map fun _ => ⟨handle, cursorIndex cursor⟩ := by
  unfold cursorEntry
  by_cases past : cursorIndex cursor ≥ snapshot.length
  · rw [if_pos past, List.getElem?_eq_none past]
    rfl
  · rw [if_neg past, List.getElem?_eq_getElem (Nat.not_le.mp past)]
    rfl

theorem sendProcessAt_sent (env : Environment Outside) {handle : CE_HANDLE}
    {snapshot : List ProcessInfo} (cursor : Int32) (world : World Outside)
    (found : world.state.handlesToProcessInfoSnapshots.lookup handle = some snapshot) :
    sent ((Client.sendProcessAt (cursorEntry handle snapshot cursor)).run (answer env)
        world).trace =
      SnapshotKind.processes.reply snapshot[cursorIndex cursor]? := by
  have returns (hasNext : Bool) (processID : Int32) (name : List UInt8) :
      (Client.sendProcess32Entry hasNext processID name).Uses Op.Returns :=
    (Client.sendProcess32Entry_stays (fun _ => trivial) hasNext processID name).uses
  rw [cursorEntry_eq]
  cases inside : snapshot[cursorIndex cursor]? with
  | none => exact sent_of_emits (returns false 0 []) (sendProcess32Entry_emits false 0 []) world
  | some procInfo =>
      simp only [Option.map_some, Client.sendProcessAt, invoke, Program.call_bind,
        Program.ret_bind]
      rw [Program.run_call_of_answer procInfo world (by simp [answer, found, inside])]
      exact sent_of_emits (returns ..) (sendProcess32Entry_emits ..) world

theorem sendModuleAt_sent (env : Environment Outside) {handle : CE_HANDLE}
    {snapshot : List MemoryRegion} (cursor : Int32) (world : World Outside)
    (found : world.state.handlesToModuleSnapshots.lookup handle = some snapshot) :
    sent ((Client.sendModuleAt (cursorEntry handle snapshot cursor)).run (answer env) world).trace =
      SnapshotKind.modules.reply snapshot[cursorIndex cursor]? := by
  have returns (hasNext : Bool) (base : UInt64) (part size : Int32) (offset : UInt32)
      (name : List UInt8) :
      (Client.sendModule32Entry hasNext base part size offset name).Uses Op.Returns :=
    (Client.sendModule32Entry_stays (fun _ => trivial) hasNext base part size offset name).uses
  rw [cursorEntry_eq]
  cases inside : snapshot[cursorIndex cursor]? with
  | none =>
      exact sent_of_emits (returns false 0 0 0 0 []) (sendModule32Entry_emits false 0 0 0 0 [])
        world
  | some region =>
      simp only [Option.map_some, Client.sendModuleAt, invoke, Program.call_bind,
        Program.ret_bind]
      rw [Program.run_call_of_answer region world (by simp [answer, found, inside])]
      exact sent_of_emits (returns ..)
        (sendModule32Entry_emits true region.startAddr region.part region.regionSize
          region.fileOffset region.name) world

section Iterate

variable {first : Bool} {handle : CE_HANDLE} {cursor : Int32} {world : World Outside}

theorem iterateProcessesNext_sent {snapshot : List ProcessInfo}
    (found : world.state.handlesToProcessInfoSnapshots.lookup handle = some snapshot)
    (position : (if first then world.state.processIter.insert handle 0
      else world.state.processIter).lookup handle = some cursor) :
    sent ((Client.iterateProcessesNext first handle).run (answer env) world).trace =
      SnapshotKind.processes.reply snapshot[cursorIndex cursor]? := by
  have present : world.state.containsProcessInfoHandle handle = true :=
    decide_eq_true (Finmap.mem_iff.mpr ⟨snapshot, found⟩)
  let moved := ClientState.advance world.state.handlesToProcessInfoSnapshots
    (if first then world.state.processIter.insert handle 0 else world.state.processIter) handle
  have entry : moved.1 = cursorEntry handle snapshot cursor := by
    rw [advance_entry fun _ => position, found, Option.bind_some]
  have later := sendProcessAt_sent env cursor
    { world with state := { world.state with processIter := moved.2 } } found
  simp only [Client.iterateProcessesNext, invoke, Program.call_bind, Program.ret_bind]
  rw [Program.run_call_of_answer (world.state.containsProcessInfoHandle handle) world rfl, present,
    ← later, ← entry]
  cases first with
  | false => rfl
  | true => rfl

theorem iterateModulesNext_sent {snapshot : List MemoryRegion}
    (found : world.state.handlesToModuleSnapshots.lookup handle = some snapshot)
    (position : (if first then world.state.moduleIter.insert handle 0
      else world.state.moduleIter).lookup handle = some cursor) :
    sent ((Client.iterateModulesNext first handle).run (answer env) world).trace =
      SnapshotKind.modules.reply snapshot[cursorIndex cursor]? := by
  have present : world.state.containsMemoryRegionHandle handle = true :=
    decide_eq_true (Finmap.mem_iff.mpr ⟨snapshot, found⟩)
  let moved := ClientState.advance world.state.handlesToModuleSnapshots
    (if first then world.state.moduleIter.insert handle 0 else world.state.moduleIter) handle
  have entry : moved.1 = cursorEntry handle snapshot cursor := by
    rw [advance_entry fun _ => position, found, Option.bind_some]
  have later := sendModuleAt_sent env cursor
    { world with state := { world.state with moduleIter := moved.2 } } found
  simp only [Client.iterateModulesNext, invoke, Program.call_bind, Program.ret_bind]
  rw [Program.run_call_of_answer (world.state.containsMemoryRegionHandle handle) world rfl,
    present, ← later, ← entry]
  cases first with
  | false => rfl
  | true => rfl

end Iterate

theorem advance_lookup_self {Entry : Type} {snapshots : Table (List Entry)} {iter : Table Int32}
    {handle : CE_HANDLE} {snapshot : List Entry} {cursor : Int32}
    (found : snapshots.lookup handle = some snapshot)
    (position : iter.lookup handle = some cursor) :
    (ClientState.advance snapshots iter handle).2.lookup handle =
      some (cursorNext snapshot cursor) := by
  rw [advance_lookup fun _ => position, found]
  exact if_pos rfl

section Commands

variable (env : Environment Outside) (kind : SnapshotKind) (first : Bool)

def SnapshotKind.iterateNext : SnapshotKind → Bool → CE_HANDLE → Handler Unit
  | processes => Client.iterateProcessesNext
  | modules => Client.iterateModulesNext

/-- The cursors as FIRST or NEXT finds them, FIRST after its reset. -/
def SnapshotKind.begun (state : ClientState) (handle : CE_HANDLE) : Table Int32 :=
  if first then (kind.iter state).insert handle 0 else kind.iter state

theorem SnapshotKind.handle_iterateNext (world : World Outside) :
    SameEffect ((Client.handle (if first then kind.first else kind.next)).run (answer env) world)
      ((Client.keepOpen (kind.iterateNext first (receivedField CE_HANDLE 0 world.input))).run
        (answer env) { world with input := world.input.drop 4 }) := by
  cases kind with
  | processes => exact handle_iterateProcessesNext first world
  | modules => exact handle_iterateModulesNext first world

variable {handle : CE_HANDLE} {snapshot : List kind.Entry} {cursor : Int32}

theorem SnapshotKind.iterateNext_sent {world : World Outside}
    (found : (kind.table world.state).lookup handle = some snapshot)
    (position : (kind.begun first world.state handle).lookup handle = some cursor) :
    sent ((kind.iterateNext first handle).run (answer env) world).trace =
      kind.reply snapshot[cursorIndex cursor]? := by
  cases kind with
  | processes => exact iterateProcessesNext_sent found position
  | modules => exact iterateModulesNext_sent found position

theorem SnapshotKind.iterateNext_moves {world : World Outside}
    (found : (kind.table world.state).lookup handle = some snapshot) :
    kind.table ((kind.iterateNext first handle).run (answer env) world).world.state =
        kind.table world.state ∧
      kind.iter ((kind.iterateNext first handle).run (answer env) world).world.state =
        (ClientState.advance (kind.table world.state) (kind.begun first world.state handle)
          handle).2 := by
  cases kind with
  | processes =>
      have present : handle ∈ world.state.handlesToProcessInfoSnapshots :=
        Finmap.mem_iff.mpr ⟨snapshot, found⟩
      rw [iterateNext, iterateProcessesNext_state, if_pos present]
      exact ⟨rfl, rfl⟩
  | modules =>
      have present : handle ∈ world.state.handlesToModuleSnapshots :=
        Finmap.mem_iff.mpr ⟨snapshot, found⟩
      rw [iterateNext, iterateModulesNext_state, if_pos present]
      exact ⟨rfl, rfl⟩

variable {env kind} {Connection : Type} {before after : Shared Outside}
  {event : CommandEvent Connection}

/-- One FIRST or NEXT on a stored snapshot: the entry it answers with, and where
it leaves the cursor. -/
theorem SnapshotKind.iterate (step : CommandStep env before event after)
    (code : event.code = (if first then kind.first else kind.next).code)
    (named : receivedField CE_HANDLE 0 event.received = handle)
    (found : (kind.table before.state).lookup handle = some snapshot)
    (position : (kind.begun first before.state handle).lookup handle = some cursor) :
    event.reply = kind.reply snapshot[cursorIndex cursor]? ∧
      (kind.table after.state).lookup handle = some snapshot ∧
      (kind.iter after.state).lookup handle = some (cursorNext snapshot cursor) := by
  subst named
  have calls := step.calls
  have state := step.state
  rw [Shared.serve, code, Client.dispatchCommand_code] at calls state
  have served := kind.handle_iterateNext env first (before.world event.received)
  let world : World Outside :=
    { before.world event.received with input := event.received.drop 4 }
  have stored : (kind.table world.state).lookup (receivedField CE_HANDLE 0 event.received) =
      some snapshot := found
  obtain ⟨table, iter⟩ := kind.iterateNext_moves env first stored
  rw [state, served.world, keepOpen_state]
  refine ⟨?_, ?_, ?_⟩
  · rw [CommandEvent.reply, calls, served.sent, keepOpen_sent]
    exact kind.iterateNext_sent env first stored position
  · exact (congrArg _ table).trans found
  · exact (congrArg _ iter).trans (advance_lookup_self found position)

end Commands

end Replies

section Cursor

theorem cursorIndex_ofNat {position : Nat} (bounded : position < 2 ^ 31) :
    cursorIndex (Int32.ofNat position) = position := by
  have value := Int32.toInt_ofNat_of_lt bounded
  have nonneg : 0 ≤ (Int32.ofNat position).toInt64 := by
    rw [Int64.le_iff_toInt_le, Int32.toInt_toInt64, value]
    exact Int.natCast_nonneg position
  rw [cursorIndex, Int64.toNat_toUInt64_of_le nonneg, Int64.toNatClampNeg, Int32.toInt_toInt64,
    value, Int.toNat_natCast]

/-- The cursor that 2^31 reads leave is far behind the end of any list. -/
theorem cursorIndex_full : cursorIndex (Int32.ofNat (2 ^ 31)) = 2 ^ 64 - 2 ^ 31 := by
  decide

variable {Entry : Type}

/-- The entries a signed 32-bit cursor gets to. -/
def visible (snapshot : List Entry) : List Entry := snapshot.take (2 ^ 31)

def cursorAfter (snapshot : List Entry) (reads : Nat) : Int32 :=
  Int32.ofNat (min reads (visible snapshot).length)

variable {snapshot : List Entry} (storable : snapshot.length ≤ 2 ^ 64 - 2 ^ 31)
include storable

theorem getElem?_cursorAfter (reads : Nat) :
    snapshot[cursorIndex (cursorAfter snapshot reads)]? = (visible snapshot)[reads]? := by
  have length : (visible snapshot).length = min (2 ^ 31) snapshot.length := List.length_take
  by_cases inside : reads < (visible snapshot).length
  · have position : min reads (visible snapshot).length = reads := by omega
    rw [cursorAfter, position, cursorIndex_ofNat (by omega), visible,
      List.getElem?_take_of_lt (by omega)]
  · have position : min reads (visible snapshot).length = (visible snapshot).length := by omega
    rw [cursorAfter, position, List.getElem?_eq_none (Nat.le_of_not_lt inside)]
    apply List.getElem?_eq_none
    by_cases full : (visible snapshot).length < 2 ^ 31
    · rw [cursorIndex_ofNat full]
      omega
    · rw [show (visible snapshot).length = 2 ^ 31 by omega, cursorIndex_full]
      exact storable

theorem cursorNext_cursorAfter (reads : Nat) :
    cursorNext snapshot (cursorAfter snapshot reads) = cursorAfter snapshot (reads + 1) := by
  have length : (visible snapshot).length = min (2 ^ 31) snapshot.length := List.length_take
  by_cases inside : reads < (visible snapshot).length
  · have position : min reads (visible snapshot).length = reads := by omega
    have following : min (reads + 1) (visible snapshot).length = reads + 1 := by omega
    rw [cursorNext, cursorAfter, cursorAfter, position, following,
      cursorIndex_ofNat (by omega), if_neg (by omega)]
    exact (Int32.ofNat_add reads 1).symm
  · have position : min reads (visible snapshot).length = (visible snapshot).length := by omega
    have following : min (reads + 1) (visible snapshot).length = (visible snapshot).length := by
      omega
    have past := getElem?_cursorAfter storable reads
    rw [List.getElem?_eq_none (Nat.le_of_not_lt inside), List.getElem?_eq_none_iff] at past
    rw [cursorNext, if_pos past, cursorAfter, cursorAfter, position, following]

end Cursor

section Reading

variable {Connection : Type} {kind : SnapshotKind} {handle : CE_HANDLE}
  {snapshot : List kind.Entry} {reads : Nat} {before after : Shared Outside}
  {event : CommandEvent Connection}

/-- The snapshot is stored under the handle, and so many reads have been made
since its walk began. -/
structure Reading (kind : SnapshotKind) (handle : CE_HANDLE) (snapshot : List kind.Entry)
    (reads : Nat) (state : ClientState) : Prop where
  stored : (kind.table state).lookup handle = some snapshot
  cursor : (kind.iter state).lookup handle = some (cursorAfter snapshot reads)

theorem Reading.untouched (reading : Reading kind handle snapshot reads before.state)
    (step : CommandStep env before event after) (foreign : event.touches handle = false) :
    Reading kind handle snapshot reads after.state := by
  have same := step.sameAt foreign
  cases kind with
  | processes => exact ⟨same.processes.trans reading.stored, same.processIter.trans reading.cursor⟩
  | modules => exact ⟨same.modules.trans reading.stored, same.moduleIter.trans reading.cursor⟩

theorem CommandEvent.names_iff {command : Command} (code : event.code = command.code)
    (designates : command.designates) :
    event.names handle ↔ receivedField CE_HANDLE 0 event.received = handle := by
  simp [CommandEvent.names, code, designates]

theorem Reading.first (reading : Reading kind handle snapshot reads before.state)
    (storable : snapshot.length ≤ 2 ^ 64 - 2 ^ 31) (step : CommandStep env before event after)
    (code : event.code = kind.first.code)
    (named : receivedField CE_HANDLE 0 event.received = handle) :
    event.reply = kind.reply (visible snapshot)[0]? ∧
      Reading kind handle snapshot 1 after.state := by
  have start : (0 : Int32) = cursorAfter snapshot 0 := by
    rw [cursorAfter, Nat.zero_min]
    rfl
  obtain ⟨replied, stored, moved⟩ := SnapshotKind.iterate true step code named reading.stored
    ((Table.lookup_insert ..).trans (if_pos rfl))
  rw [start, getElem?_cursorAfter storable] at replied
  rw [start, cursorNext_cursorAfter storable] at moved
  exact ⟨replied, stored, moved⟩

theorem Reading.next (reading : Reading kind handle snapshot reads before.state)
    (storable : snapshot.length ≤ 2 ^ 64 - 2 ^ 31) (step : CommandStep env before event after)
    (code : event.code = kind.next.code)
    (named : receivedField CE_HANDLE 0 event.received = handle) :
    event.reply = kind.reply (visible snapshot)[reads]? ∧
      Reading kind handle snapshot (reads + 1) after.state := by
  obtain ⟨replied, stored, moved⟩ := SnapshotKind.iterate false step code named reading.stored
    reading.cursor
  rw [getElem?_cursorAfter storable] at replied
  rw [cursorNext_cursorAfter storable] at moved
  exact ⟨replied, stored, moved⟩

theorem SnapshotKind.first_designates (kind : SnapshotKind) : kind.first.designates := by
  cases kind <;> rfl

theorem SnapshotKind.next_designates (kind : SnapshotKind) : kind.next.designates := by
  cases kind <;> rfl

theorem touches_eq_names {event : CommandEvent Connection} (unissued : handle ∉ event.issued) :
    event.touches handle = event.names handle := by
  simp [CommandEvent.touches, unissued]

theorem CommandStep.field_of_touches (step : CommandStep env before event after) {command : Command}
    (code : event.code = command.code) (designates : command.designates)
    (touched : event.touches handle) : receivedField CE_HANDLE 0 event.received = handle := by
  rw [touches_eq_names (by simp [step.issuesNothing code designates])] at touched
  exact (CommandEvent.names_iff code designates).mp touched

theorem Reading.run {events : List (CommandEvent Connection)}
    (reading : Reading kind handle snapshot reads before.state)
    (storable : snapshot.length ≤ 2 ^ 64 - 2 ^ 31)
    (run : Run (CommandStep env) before events after)
    (continues : ∀ event ∈ events, event.touches handle → event.code = kind.next.code) :
    (events.filter fun event => event.touches handle).map CommandEvent.reply =
        (List.range' reads (events.filter fun event => event.touches handle).length).map
          (fun index => kind.reply (visible snapshot)[index]?) ∧
      Reading kind handle snapshot
        (reads + (events.filter fun event => event.touches handle).length) after.state := by
  refine run.history (fun events shared =>
    (∀ event ∈ events, event.touches handle → event.code = kind.next.code) →
    (events.filter fun event => event.touches handle).map CommandEvent.reply =
        (List.range' reads (events.filter fun event => event.touches handle).length).map
          (fun index => kind.reply (visible snapshot)[index]?) ∧
      Reading kind handle snapshot
        (reads + (events.filter fun event => event.touches handle).length) shared.state)
    ?_ ?_ continues
  · intro _
    exact ⟨rfl, reading⟩
  · intro past before event after _ ih step continues
    obtain ⟨replies, earlier⟩ := ih fun event member =>
      continues event (List.mem_append_left _ member)
    rw [List.filter_append]
    by_cases touched : event.touches handle
    · have code := continues event (by simp) touched
      have field := step.field_of_touches code kind.next_designates touched
      obtain ⟨replied, later⟩ := earlier.next storable step code field
      have taken : ([event].filter fun event => event.touches handle) = [event] := by
        simp [touched]
      rw [taken, List.map_append, replies, List.length_append, List.length_singleton,
        List.range'_concat, List.map_append, List.map_singleton, List.map_singleton, replied,
        Nat.one_mul, ← Nat.add_assoc]
      exact ⟨rfl, later⟩
    · have passed : ([event].filter fun event => event.touches handle) = [] := by
        simp [touched]
      rw [passed, List.append_nil]
      exact ⟨replies, earlier.untouched step (Bool.eq_false_of_not_eq_true touched)⟩

/-- Whatever FIRST and NEXT commands have done with it, a snapshot stays stored
and its cursor stays at one of its reads. -/
theorem Reading.remains {events : List (CommandEvent Connection)}
    (reading : Reading kind handle snapshot reads before.state)
    (storable : snapshot.length ≤ 2 ^ 64 - 2 ^ 31)
    (run : Run (CommandStep env) before events after)
    (matching : ∀ event ∈ events, event.touches handle →
      event.code = kind.first.code ∨ event.code = kind.next.code) :
    ∃ reads, Reading kind handle snapshot reads after.state := by
  refine run.history (fun events shared => (∀ event ∈ events, event.touches handle →
      event.code = kind.first.code ∨ event.code = kind.next.code) →
    ∃ reads, Reading kind handle snapshot reads shared.state) ?_ ?_ matching
  · intro _
    exact ⟨reads, reading⟩
  · intro past before event after _ ih step matching
    obtain ⟨reads, earlier⟩ := ih fun event member => matching event (List.mem_append_left _ member)
    by_cases touched : event.touches handle
    · rcases matching event (by simp) touched with code | code
      · have field := step.field_of_touches code kind.first_designates touched
        exact ⟨1, (earlier.first storable step code field).2⟩
      · have field := step.field_of_touches code kind.next_designates touched
        exact ⟨reads + 1, (earlier.next storable step code field).2⟩
    · exact ⟨reads, earlier.untouched step (Bool.eq_false_of_not_eq_true touched)⟩

end Reading

section Enumeration

variable {Connection : Type} {kind : SnapshotKind} {handle : CE_HANDLE}
  {shared stored final : Shared Outside} {create first : CommandEvent Connection}
  {past between later : List (CommandEvent Connection)}

theorem SnapshotKind.storedObject_eq {outside : Outside} {received : List UInt8}
    (requests : SnapshotKind.requested (receivedField UInt32 0 received) = some kind) :
    storedObject env outside received .createToolhelp32Snapshot =
      some (kind.object (kind.taken env outside (receivedField UInt32 4 received))) := by
  unfold SnapshotKind.requested at requests
  dsimp only [storedObject]
  split at requests
  · rename_i processes
    obtain rfl := Option.some.inj requests
    exact if_pos processes
  · rename_i noProcesses
    split at requests
    · rename_i modules
      obtain rfl := Option.some.inj requests
      exact (if_neg noProcesses).trans (if_pos modules)
    · exact nomatch requests

theorem toBytes_inj {T : Type} [Word T] {first second : T}
    (same : Word.toBytes first = Word.toBytes second) : first = second := by
  rw [← Word.ofBytes_toBytes first, same, Word.ofBytes_toBytes]

theorem CommandStep.creates (creation : CommandStep env shared create stored)
    (code : create.code = Command.createToolhelp32Snapshot.code)
    (requests : SnapshotKind.requested (receivedField UInt32 0 create.received) = some kind) :
    create.reply = Word.toBytes shared.state.generateHandle.1 ∧
      create.issued = [shared.state.generateHandle.1] ∧
      stored.state = (kind.object (kind.taken env shared.outside
        (receivedField UInt32 4 create.received))).store shared.state.generateHandle.2
          shared.state.generateHandle.1 := by
  have issues := handle_issues env (shared.world create.received)
    (SnapshotKind.storedObject_eq requests)
  have calls := creation.calls
  have state := creation.state
  rw [Shared.serve, code, Client.dispatchCommand_code] at calls state
  exact ⟨(congrArg sent calls).trans issues.sent, (congrArg issued calls).trans issues.issued,
    state.trans issues.state⟩

/-- A handle whose number comes round again designates the older snapshot. -/
theorem reading_of_store (state : ClientState) (handle : CE_HANDLE) (snapshot : List kind.Entry) :
    Reading kind handle (((kind.table state).lookup handle).getD snapshot) 0
      ((kind.object snapshot).store state handle) := by
  have start (entries : List kind.Entry) : cursorAfter entries 0 = 0 := by
    rw [cursorAfter, Nat.zero_min]
    rfl
  cases kind with
  | processes =>
      refine ⟨(store_processes ..).trans (if_pos rfl), ?_⟩
      rw [start]
      exact (store_processIter ..).trans (if_pos rfl)
  | modules =>
      refine ⟨(store_modules ..).trans (if_pos rfl), ?_⟩
      rw [start]
      exact (store_moduleIter ..).trans (if_pos rfl)

/-- The replies to a FIRST and the NEXT commands after it are the entries of the
snapshot one by one and then the end of the list, whatever else is served. -/
theorem enumeration_complete {outside : Outside}
    (earlier : Run (CommandStep env) { outside } past shared)
    (creation : CommandStep env shared create stored)
    (creates : create.code = Command.createToolhelp32Snapshot.code)
    (requests : SnapshotKind.requested (receivedField UInt32 0 create.received) = some kind)
    (replied : create.reply = Word.toBytes handle)
    (short : (kind.taken env shared.outside (receivedField UInt32 4 create.received)).length <
      2 ^ 31)
    (run : Run (CommandStep env) stored (between ++ first :: later) final)
    (few : (issuedOver (past ++ create :: (between ++ first :: later))).length < 2 ^ 31)
    (matching : ∀ event ∈ between, event.names handle →
      event.code = kind.first.code ∨ event.code = kind.next.code)
    (begins : first.code = kind.first.code ∧ first.names handle)
    (continues : ∀ event ∈ later, event.names handle → event.code = kind.next.code) :
    ((first :: later).filter fun event => event.names handle).map CommandEvent.reply =
      (List.range ((first :: later).filter fun event => event.names handle).length).map fun index =>
        kind.reply
          (kind.taken env shared.outside (receivedField UInt32 4 create.received))[index]? := by
  obtain ⟨answered, issues, state⟩ := creation.creates creates requests
  rw [toBytes_inj (answered.symm.trans replied)] at issues state
  have total : (issuedOver (past ++ create :: (between ++ first :: later))).length =
      (issuedOver past).length + 1 + (issuedOver (between ++ first :: later)).length := by
    simp only [issuedOver, List.flatMap_append, List.flatMap_cons, List.length_append, issues,
      List.length_singleton]
    omega
  rw [total] at few
  -- the handle is the next number, so nothing is stored under it
  have counted := (counted_of_run earlier counted_start (by omega)).1
  rw [Nat.zero_add] at counted
  have last : (issuedOver past).length + create.issued.length < 2 ^ 31 := by
    rw [issues, List.length_singleton]
    omega
  obtain ⟨countedStored, next⟩ := creation.counted counted last
  rw [issues, List.length_singleton] at countedStored
  have value := next handle (by rw [issues]; exact List.mem_singleton_self handle)
  have vacant : handle ∉ kind.table shared.state.generateHandle.2 := by
    intro member
    cases kind with
    | processes =>
        have known := counted.processes handle member
        omega
    | modules =>
        have known := counted.modules handle member
        omega
  have unissued : ∀ event ∈ between ++ first :: later, handle ∉ event.issued := by
    intro event member issued
    have larger := (counted_of_run run countedStored (by omega)).2 handle
      (List.mem_flatMap.mpr ⟨event, member, issued⟩)
    omega
  have named : ∀ event ∈ between ++ first :: later, event.touches handle = event.names handle :=
    fun event member => touches_eq_names (unissued event member)
  generalize kind.taken env shared.outside (receivedField UInt32 4 create.received) = snapshot at *
  have storable : snapshot.length ≤ 2 ^ 64 - 2 ^ 31 := by omega
  have whole : visible snapshot = snapshot := List.take_of_length_le short.le
  obtain ⟨middle, runBetween, runLater⟩ := run.split
  obtain ⟨started, step, runLater⟩ := runLater.uncons
  have reading : Reading kind handle snapshot 0 stored.state := by
    have stores := reading_of_store shared.state.generateHandle.2 handle snapshot
    rw [Finmap.lookup_eq_none.mpr vacant] at stores
    exact state ▸ stores
  obtain ⟨reads, reading⟩ := reading.remains storable runBetween fun event member touched => by
    rw [named event (by simp [member])] at touched
    exact matching event member touched
  have field := (CommandEvent.names_iff begins.1 kind.first_designates).mp begins.2
  obtain ⟨firstReply, reading⟩ := reading.first storable step begins.1 field
  have replies := (reading.run storable runLater fun event member touched => by
    rw [named event (by simp [member])] at touched
    exact continues event member touched).1
  have same : (later.filter fun event => event.touches handle) =
      later.filter fun event => event.names handle :=
    List.filter_congr fun event member => named event (by simp [member])
  rw [same] at replies
  have front : ((first :: later).filter fun event => event.names handle) =
      first :: later.filter fun event => event.names handle := by
    simp [begins.2]
  rw [front, List.map_cons, replies, firstReply, List.length_cons, List.range_eq_range',
    List.range'_succ, List.map_cons, whole]

theorem requested_modules (procId : UInt32) : SnapshotKind.requested
    (receivedField UInt32 0 (Word.toBytes TH32CS_SNAPMODULE ++ Word.toBytes procId)) =
      some .modules := by
  have flags : receivedField UInt32 0 (Word.toBytes TH32CS_SNAPMODULE ++ Word.toBytes procId) =
      TH32CS_SNAPMODULE := by
    rw [receivedField, List.drop_zero, take_toBytes, Word.ofBytes_toBytes]
  rw [flags]
  decide

theorem enumeration_complete_twoPages :
    let page (address : UInt64) : VadEntry := { vaStart := address, vaEnd := address + 0xFFF }
    ∃ (create first second third : CommandEvent Unit) (stored final : Shared Unit),
      CommandStep (.mapping [page 0x1000, page 0x2000]) { outside := () } create stored ∧
        Run (CommandStep (.mapping [page 0x1000, page 0x2000])) stored [first, second, third]
          final ∧
        [first, second, third].map CommandEvent.reply =
          [SnapshotKind.modules.reply (some (.ofVadEntry (page 0x1000))),
            SnapshotKind.modules.reply (some (.ofVadEntry (page 0x2000))),
            SnapshotKind.modules.reply none] := by
  intro page
  let env := Environment.mapping [page 0x1000, page 0x2000]
  let start : Shared Unit := { outside := () }
  let fields := Word.toBytes TH32CS_SNAPMODULE ++ Word.toBytes (4 : UInt32)
  let stored := start.next env Command.createToolhelp32Snapshot.code fields
  let one := Word.toBytes (1 : CE_HANDLE)
  let walked := stored.next env Command.module32First.code one
  let advanced := walked.next env Command.module32Next.code one
  have creation := start.step env () Command.createToolhelp32Snapshot.code fields
  have first := stored.step env () Command.module32First.code one
  have second := walked.step env () Command.module32Next.code one
  have third := advanced.step env () Command.module32Next.code one
  have run : Run (CommandStep env) stored
      ([] ++ stored.event env () Command.module32First.code one ::
      [walked.event env () Command.module32Next.code one,
        advanced.event env () Command.module32Next.code one])
      (advanced.next env Command.module32Next.code one) :=
    Run.cons first (Run.cons second (Run.single third))
  have created := creation.creates rfl (requested_modules 4)
  have few : (issuedOver ([] ++ start.event env () Command.createToolhelp32Snapshot.code fields ::
      ([] ++ stored.event env () Command.module32First.code one ::
        [walked.event env () Command.module32Next.code one,
          advanced.event env () Command.module32Next.code one]))).length < 2 ^ 31 := by
    have noneFirst := first.issuesNothing (show _ = Command.module32First.code from rfl) rfl
    have noneSecond := second.issuesNothing (show _ = Command.module32Next.code from rfl) rfl
    have noneThird := third.issuesNothing (show _ = Command.module32Next.code from rfl) rfl
    simp [issuedOver, created.2.1, noneFirst, noneSecond, noneThird]
  have complete := enumeration_complete Run.nil creation rfl (requested_modules 4) created.1
    (show 2 < 2 ^ 31 by decide) run few (List.forall_mem_nil _) ⟨rfl, rfl⟩
    (by simp [Shared.event, SnapshotKind.next])
  exact ⟨_, _, _, _, _, _, creation, run, complete⟩

end Enumeration

end CeServer
