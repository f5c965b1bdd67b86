import CeServer.Footprint
import CeServer.Requests

/-!
Requests cut short by the peer's close: the fields that did not arrive read as
zero, and whether the handler still acts depends on what those zeros select.
-/

namespace CeServer

open LittleEndian Interaction

variable {Outside : Type} {env : Environment Outside} {Value : Type}

def Op.writesMemory : Op → Bool
  | .memoryWrite .. => true
  | _ => false

/-- A run that leaves the shared state as it was and writes nothing to the target. -/
structure NoEffect (world : World Outside)
    (outcome : Outcome Op Op.Response (World Outside) Value) : Prop where
  state : outcome.world.state = world.state
  silent : ∀ event ∈ outcome.trace, event.op.writesMemory = false

theorem noEffect_congr {first second : World Outside}
    {outcome : Outcome Op Op.Response (World Outside) Value} (same : first.state = second.state) :
    NoEffect first outcome ↔ NoEffect second outcome :=
  ⟨fun none => ⟨none.state.trans same, none.silent⟩,
    fun none => ⟨none.state.trans same.symm, none.silent⟩⟩

theorem noEffect_after {world : World Outside} {past : List (Event Op Op.Response)}
    {outcome : Outcome Op Op.Response (World Outside) Value}
    (silent : ∀ event ∈ past, event.op.writesMemory = false) :
    NoEffect world (outcome.after past) ↔ NoEffect world outcome := by
  constructor
  · intro none
    exact ⟨none.state, fun event member => none.silent event (by simp [member])⟩
  · intro none
    refine ⟨none.state, fun event member => ?_⟩
    rcases List.mem_append.mp member with first | later
    · exact silent event first
    · exact none.silent event later

theorem noEffect_keepOpen (handler : Handler Unit) (world : World Outside) :
    NoEffect world ((Client.keepOpen handler).run (answer env) world) ↔
      NoEffect world (handler.run (answer env) world) := by
  rw [Client.keepOpen, Program.run_bind]
  cases (handler.run (answer env) world).value with
  | none => exact ⟨fun none => ⟨none.state, none.silent⟩, fun none => ⟨none.state, none.silent⟩⟩
  | some value =>
      simp only [Program.pure_eq, Program.run_ret]
      exact ⟨fun none => ⟨none.state, fun event member => none.silent event (by simp [member])⟩,
        fun none => ⟨none.state, fun event member => none.silent event (by simpa using member)⟩⟩

theorem noEffect_read (T : Type) [Word T] (rest : T → Handler Value) (world : World Outside) :
    NoEffect world ((read T >>= rest).run (answer env) world) ↔
      NoEffect { world with input := world.input.drop (Word.width T) }
        ((rest (Word.ofBytes (world.input.take (Word.width T)))).run (answer env)
          { world with input := world.input.drop (Word.width T) }) := by
  rw [run_read, noEffect_after (by simp [Op.writesMemory])]
  exact noEffect_congr rfl

theorem noWrite_of_madeBy {op : Op} {command : Command} (made : op.madeBy command)
    (other : command ≠ .writeProcessMemory) : op.writesMemory = false := by
  cases op with
  | memoryWrite => exact absurd (eq_of_beq made) other
  | _ => rfl

theorem state_of_inert {op : Op} (inert : op.Inert) {world later : World Outside}
    {response : op.Response} (answered : answer env op world = some (response, later)) :
    later.state = world.state := by
  cases op with
  | memoryWrite => exact absurd inert id
  | newCharArray size =>
      simp only [answer] at answered
      split at answered
      · simp at answered
      · simp only [Option.some.injEq, Prod.mk.injEq] at answered
        rw [← answered.2]
  | state op =>
      cases op <;> first
        | exact absurd inert id
        | (simp only [answer, Option.some.injEq, Prod.mk.injEq] at answered; rw [← answered.2]; rfl)
  | recvNonBlocking size =>
      simp only [answer, LinuxSocketWrapper.recvNonBlocking, Option.some.injEq] at answered
      split at answered <;> rw [Prod.mk.injEq] at answered <;> rw [← answered.2]
  | readProcessInfo entry | readMemoryRegion entry =>
      simp only [answer, ask] at answered
      split at answered <;> simp only [Option.some.injEq, Prod.mk.injEq] at answered <;>
        rw [← answered.2]
  | recv | close | stopRequested =>
      simp only [answer, LinuxSocketWrapper.recv, Option.some.injEq, Prod.mk.injEq] at answered
      rw [← answered.2]
  | _ =>
      simp only [answer, ask, Option.some.injEq, Prod.mk.injEq] at answered
      rw [← answered.2]

theorem noEffect_of_inert {handler : Handler Value} (inert : handler.Uses Op.Inert)
    (world : World Outside) : NoEffect world (handler.run (answer env) world) := by
  refine ⟨inert.frame (fun _ allowed _ _ _ answered => state_of_inert allowed answered) world,
    fun event member => ?_⟩
  have allowed := inert.trace world event member
  cases shape : event.op with
  | memoryWrite =>
      rw [shape] at allowed
      exact absurd allowed id
  | _ => rfl

theorem noEffect_of_reports {handler : Handler Value} (reports : handler.Uses Op.Reports)
    (world : World Outside) : NoEffect world (handler.run (answer env) world) :=
  noEffect_of_inert (inert_of_reports reports) world

/-- What a handler that writes nothing does to the shared state is its effect. -/
theorem noEffect_iff_of_stays {handler : Handler Value} {command : Command}
    (other : command ≠ .writeProcessMemory)
    (stays : Covers (.within fun op => op.writesMemory = false) command →
      handler.Stays (.within fun op => op.writesMemory = false)) (world : World Outside) :
    NoEffect world (handler.run (answer env) world) ↔
      (handler.run (answer env) world).world.state = world.state := by
  have silent := (stays (covers_within fun _ made => noWrite_of_madeBy made other)).uses
  exact ⟨fun none => none.state, fun same => ⟨same, fun event member =>
    silent.trace world event member⟩⟩

theorem ClientState.generateHandle_ne (state : ClientState) :
    state.generateHandle.2.lastHandleID ≠ state.lastHandleID := by
  obtain ⟨lastHandleID, _, _, _, _, _⟩ := state
  simp only [generateHandle]
  split
  · rename_i wrapped
    rintro rfl
    exact absurd wrapped (by decide)
  · simp

def CursorSettled {Entry : Type} (snapshots : Table (List Entry)) (iter : Table Int32)
    (first : Bool) (handle : CE_HANDLE) : Prop :=
  ∀ snapshot, snapshots.lookup handle = some snapshot →
    if first then iter.lookup handle = some (if snapshot.isEmpty then 0 else 1)
    else ∃ position, iter.lookup handle = some position ∧
      snapshot.length ≤ position.toInt64.toUInt64.toNat

theorem advance_settled_iff {Entry : Type} {snapshots : Table (List Entry)} {iter : Table Int32}
    {handle : CE_HANDLE} {snapshot : List Entry} (found : snapshots.lookup handle = some snapshot) :
    (ClientState.advance snapshots iter handle).2 = iter ↔
      ∃ position, iter.lookup handle = some position ∧
        snapshot.length ≤ position.toInt64.toUInt64.toNat := by
  constructor
  · intro same
    have kept := congrArg (Finmap.lookup handle) same
    simp only [ClientState.advance, found, Table.lookup_subscript, if_true] at kept
    split at kept
    · rename_i past
      rw [Table.lookup_subscript, if_pos rfl] at kept
      exact ⟨_, kept.symm, past⟩
    · -- a step taken moves the cursor
      rw [Table.lookup_insert, if_pos rfl] at kept
      cases known : iter.lookup handle with
      | none => simp [known] at kept
      | some position => simp [known] at kept
  · rintro ⟨position, known, past⟩
    have present : handle ∈ iter := Finmap.mem_iff.mpr ⟨position, known⟩
    simp [ClientState.advance, found, Table.subscript, present, known, past]

theorem advance_reset_iff {Entry : Type} {snapshots : Table (List Entry)} {iter : Table Int32}
    {handle : CE_HANDLE} {snapshot : List Entry} (found : snapshots.lookup handle = some snapshot) :
    (ClientState.advance snapshots (iter.insert handle 0) handle).2 = iter ↔
      iter.lookup handle = some (if snapshot.isEmpty then 0 else 1) := by
  have moved (other : CE_HANDLE) :
      (ClientState.advance snapshots (iter.insert handle 0) handle).2.lookup other =
        if other = handle then some (if snapshot.isEmpty then 0 else 1)
        else iter.lookup other := by
    have start : ((0 : Int32).toInt64.toUInt64.toNat) = 0 := by decide
    have next : (0 : Int32) + 1 = 1 := by decide
    simp only [ClientState.advance, found, Table.subscript, Finmap.mem_insert, true_or, if_true,
      Finmap.lookup_insert, Option.getD_some, start]
    cases snapshot with
    | nil => simp [Table.lookup_insert]
    | cons entry rest => simp [Table.lookup_insert, next]
  constructor
  · intro same
    rw [← moved handle |>.trans (if_pos rfl), same]
  · intro known
    apply Finmap.ext_lookup
    intro other
    rw [moved]
    split
    · rename_i same
      rw [same, known]
    · rfl

theorem iterateProcessesNext_state (first : Bool) (handle : CE_HANDLE) (world : World Outside) :
    ((Client.iterateProcessesNext first handle).run (answer env) world).world.state =
      if handle ∈ world.state.handlesToProcessInfoSnapshots then
        { world.state with processIter := (ClientState.advance
            world.state.handlesToProcessInfoSnapshots
            (if first then world.state.processIter.insert handle 0 else world.state.processIter)
            handle).2 }
      else world.state := by
  simp only [Client.iterateProcessesNext, invoke, Program.call_bind, Program.ret_bind]
  rw [Program.run_call_of_answer
    (world.state.containsProcessInfoHandle handle) world rfl]
  unfold ClientState.containsProcessInfoHandle
  by_cases present : handle ∈ world.state.handlesToProcessInfoSnapshots
  · simp only [present, decide_true, Bool.not_true, Bool.false_eq_true, if_false, if_true]
    cases first with
    | false =>
        exact (noEffect_of_inert (Client.sendProcessAt_inert _) _).state
    | true =>
        exact (noEffect_of_inert (Client.sendProcessAt_inert _) _).state
  · simp only [present, decide_false, Bool.not_false, if_true, if_false]
    exact (noEffect_of_inert (Client.sendProcessAt_inert none) world).state

theorem iterateModulesNext_state (first : Bool) (handle : CE_HANDLE) (world : World Outside) :
    ((Client.iterateModulesNext first handle).run (answer env) world).world.state =
      if handle ∈ world.state.handlesToModuleSnapshots then
        { world.state with moduleIter := (ClientState.advance
            world.state.handlesToModuleSnapshots
            (if first then world.state.moduleIter.insert handle 0 else world.state.moduleIter)
            handle).2 }
      else world.state := by
  simp only [Client.iterateModulesNext, invoke, Program.call_bind, Program.ret_bind]
  rw [Program.run_call_of_answer
    (world.state.containsMemoryRegionHandle handle) world rfl]
  unfold ClientState.containsMemoryRegionHandle
  by_cases present : handle ∈ world.state.handlesToModuleSnapshots
  · simp only [present, decide_true, Bool.not_true, Bool.false_eq_true, if_false, if_true]
    cases first with
    | false =>
        exact (noEffect_of_inert (Client.sendModuleAt_inert _) _).state
    | true =>
        exact (noEffect_of_inert (Client.sendModuleAt_inert _) _).state
  · simp only [present, decide_false, Bool.not_false, if_true, if_false]
    exact (noEffect_of_inert (Client.sendModuleAt_inert none) world).state

theorem iterate_settled_iff {Entry : Type} (snapshots : Table (List Entry)) (iter : Table Int32)
    (first : Bool) (handle : CE_HANDLE) :
    (handle ∈ snapshots →
        (ClientState.advance snapshots (if first then iter.insert handle 0 else iter) handle).2 =
          iter) ↔
      CursorSettled snapshots iter first handle := by
  constructor
  · intro settled snapshot found
    have same := settled (Finmap.mem_iff.mpr ⟨snapshot, found⟩)
    cases first with
    | false => exact (advance_settled_iff found).mp same
    | true => exact (advance_reset_iff found).mp same
  · intro settled present
    obtain ⟨snapshot, found⟩ := Finmap.mem_iff.mp present
    have position := settled snapshot found
    cases first with
    | false => exact (advance_settled_iff found).mpr position
    | true => exact (advance_reset_iff found).mpr position

theorem noEffect_iterateProcessesNext (first : Bool) (handle : CE_HANDLE) (world : World Outside) :
    NoEffect world ((Client.iterateProcessesNext first handle).run (answer env) world) ↔
      CursorSettled world.state.handlesToProcessInfoSnapshots world.state.processIter first
        handle := by
  rw [noEffect_iff_of_stays (by cases first <;> decide) fun covers =>
      Client.iterateProcessesNext_stays first covers handle,
    iterateProcessesNext_state, ← iterate_settled_iff]
  obtain ⟨_, _, ⟨_, _, _, _, _, _⟩, _, _, _⟩ := world
  split
  · rename_i present
    simp [present]
  · rename_i missing
    simp [missing]

theorem noEffect_iterateModulesNext (first : Bool) (handle : CE_HANDLE) (world : World Outside) :
    NoEffect world ((Client.iterateModulesNext first handle).run (answer env) world) ↔
      CursorSettled world.state.handlesToModuleSnapshots world.state.moduleIter first handle := by
  rw [noEffect_iff_of_stays (by cases first <;> decide) fun covers =>
      Client.iterateModulesNext_stays first covers handle,
    iterateModulesNext_state, ← iterate_settled_iff]
  obtain ⟨_, _, ⟨_, _, _, _, _, _⟩, _, _, _⟩ := world
  split
  · rename_i present
    simp [present]
  · rename_i missing
    simp [missing]

def ClientState.Unknown (state : ClientState) (handle : CE_HANDLE) : Prop :=
  handle ∉ state.handlesToProcessInfoSnapshots ∧ handle ∉ state.handlesToModuleSnapshots ∧
    handle ∉ state.processIter ∧ handle ∉ state.moduleIter ∧ handle ∉ state.handlesToProcessIDs

theorem ClientState.closeHandle_eq_iff (state : ClientState) (handle : CE_HANDLE) :
    state.closeHandle handle = state ↔ state.Unknown handle := by
  constructor
  · intro same
    refine ⟨?_, ?_, ?_, ?_, ?_⟩ <;> rw [← same] <;> simp [closeHandle]
  · rintro ⟨processes, modules, processIter, moduleIter, processIDs⟩
    simp only [closeHandle, Table.erase_of_notMem processes, Table.erase_of_notMem modules,
      Table.erase_of_notMem processIter, Table.erase_of_notMem moduleIter,
      Table.erase_of_notMem processIDs]

theorem noEffect_closeHandle (handle : CE_HANDLE) (world : World Outside) :
    NoEffect world ((Client.closeHandle handle).run (answer env) world) ↔
      world.state.Unknown handle := by
  rw [noEffect_iff_of_stays (by decide) fun covers => Client.closeHandle_stays covers handle]
  exact world.state.closeHandle_eq_iff handle

theorem openProcess_effect (pid : UInt32) (world : World Outside) :
    ¬NoEffect world ((Client.openProcess pid).run (answer env) world) := by
  intro none
  refine world.state.generateHandle_ne (Eq.trans ?_ (congrArg ClientState.lastHandleID none.state))
  rfl

theorem toolHelp32Snapshot_effect {flags : UInt32} (procId : UInt32) (world : World Outside)
    (known : flags &&& TH32CS_SNAPPROCESS ≠ 0 ∨ flags &&& TH32CS_SNAPMODULE ≠ 0) :
    ¬NoEffect world ((Client.toolHelp32Snapshot flags procId).run (answer env) world) := by
  intro none
  refine world.state.generateHandle_ne (Eq.trans ?_ (congrArg ClientState.lastHandleID none.state))
  rw [Client.toolHelp32Snapshot, Client.storeTlHelp32Snapshot]
  split
  · rfl
  · rename_i noProcesses
    rw [if_pos (known.resolve_left noProcesses)]
    rfl

theorem toolHelp32SnapshotEx_effect {flags : UInt32} (procId : UInt32) (world : World Outside)
    (unlisted : ¬(flags &&& TH32CS_SNAPTHREAD ≠ 0 ∨ flags &&& TH32CS_SNAPMODULE ≠ 0)) :
    ¬NoEffect world ((Client.toolHelp32SnapshotEx flags procId).run (answer env) world) := by
  intro none
  obtain ⟨noThreads, noModules⟩ := not_or.mp unlisted
  refine world.state.generateHandle_ne (Eq.trans ?_ (congrArg ClientState.lastHandleID none.state))
  rw [Client.toolHelp32SnapshotEx, if_neg noThreads, if_neg noModules]
  rfl

theorem noEffect_writeProcessMemory (handle : CE_HANDLE) (address : UInt64) (size : Int32)
    (buffer : List UInt8) (world : World Outside) :
    NoEffect world ((Client.writeProcessMemory handle address size buffer).run (answer env) world) ↔
      handle ∉ world.state.handlesToProcessIDs := by
  simp only [Client.writeProcessMemory, invoke, Program.call_bind, Program.ret_bind]
  rw [Program.run_call_of_answer
    (world.state.containsProcessIDHandle handle) world rfl,
    noEffect_after (by simp [Op.writesMemory])]
  unfold ClientState.containsProcessIDHandle
  by_cases present : handle ∈ world.state.handlesToProcessIDs
  · simp only [present, decide_true, Bool.not_true, Bool.false_eq_true, if_false, not_true,
      iff_false]
    intro none
    have written := none.silent
      ⟨.memoryWrite (world.state.getProcessID handle) address buffer, _⟩
      (List.mem_cons_of_mem _ List.mem_cons_self)
    exact absurd written (by simp [Op.writesMemory])
  · simp only [present, decide_false, Bool.not_false, if_true, not_false_eq_true, iff_true]
    exact ⟨rfl, by simp⟩

def receivedField (T : Type) [Word T] (offset : Nat) (received : List UInt8) : T :=
  Word.ofBytes ((received.drop offset).take (Word.width T))

section Fields

theorem receivedField_front {T : Type} [Word T] (value : T) (later : List UInt8) :
    receivedField T 0 (Word.toBytes value ++ later) = value := by
  rw [receivedField, List.drop_zero, take_toBytes, Word.ofBytes_toBytes]

/-- A field behind another one is read past its bytes. -/
theorem receivedField_skip {First T : Type} [Word First] [Word T] {offset rest : Nat}
    (first : First) (behind : offset = Word.width First + rest) (later : List UInt8) :
    receivedField T offset (Word.toBytes first ++ later) = receivedField T rest later := by
  rw [behind, receivedField, ← List.drop_drop, drop_toBytes, receivedField]

theorem receivedField_last {T : Type} [Word T] (value : T) :
    receivedField T 0 (Word.toBytes value) = value := by
  rw [← List.append_nil (Word.toBytes value), receivedField_front]

end Fields

def writeBody (handle : CE_HANDLE) (address : UInt64) (size : Int32) : Handler Bool := do
  let buffer ← invoke (.newCharArray size.toInt)
  let buffer ← readBuffer buffer size.toInt.toNat
  Client.writeProcessMemory handle address size buffer

theorem run_writeFields (env : Environment Outside) (world : World Outside) :
    ∃ past : List (Event Op Op.Response), (∀ event ∈ past, event.op.writesMemory = false) ∧
      Client.handleCommandWriteProcessMemory.run (answer env) world =
        ((writeBody (receivedField CE_HANDLE 0 world.input) (receivedField UInt64 4 world.input)
          (receivedField Int32 12 world.input)).run (answer env)
          { world with input := world.input.drop 16 }).after past := by
  have size : Word.ofBytes (((world.input.drop 4).drop 8).take 4) =
      receivedField Int32 12 world.input := by
    rw [List.drop_drop]
    rfl
  have left : ((world.input.drop 4).drop 8).drop 4 = world.input.drop 16 := by
    rw [List.drop_drop, List.drop_drop]
  unfold Client.handleCommandWriteProcessMemory
  rw [run_read, run_read, run_read, Outcome.after_after, Outcome.after_after, ← size, ← left]
  exact ⟨_, by simp [Op.writesMemory], rfl⟩

/-- The buffer of a WRITEPROCESSMEMORY: what arrived of the bytes to write, then
whatever the array held. -/
def writeBuffer (env : Environment Outside) (world : World Outside) (size : Nat) : List UInt8 :=
  let arrived := (world.input.drop 16).take size
  arrived ++ (resize size (env.respond (.newCharArray size) world.outside).1).drop arrived.length

theorem writeBuffer_of_arrived {world : World Outside} {size : Nat}
    (arrived : size ≤ (world.input.drop 16).length) :
    writeBuffer env world size = (world.input.drop 16).take size := by
  have whole : ((world.input.drop 16).take size).length = size := by
    rw [List.length_take]
    omega
  have full : (resize size (env.respond (.newCharArray size) world.outside).1).drop size = [] :=
    List.drop_of_length_le (resize_length _ _).le
  simp only [writeBuffer, whole, full, List.append_nil]

theorem run_handleCommandWriteProcessMemory (env : Environment Outside) (world : World Outside)
    {size : Nat} (nonneg : (receivedField Int32 12 world.input).toInt = size) :
    ∃ past : List (Event Op Op.Response), (∀ event ∈ past, event.op.writesMemory = false) ∧
      Client.handleCommandWriteProcessMemory.run (answer env) world =
        ((Client.writeProcessMemory (receivedField CE_HANDLE 0 world.input)
          (receivedField UInt64 4 world.input) (receivedField Int32 12 world.input)
          (writeBuffer env world size)).run (answer env)
          { world with
            input := (world.input.drop 16).drop size
            outside := (env.respond (.newCharArray size) world.outside).2 }).after past := by
  obtain ⟨past, silent, fields⟩ := run_writeFields env world
  let allocated := env.respond (.newCharArray size) world.outside
  have filled : (writeBody (receivedField CE_HANDLE 0 world.input)
        (receivedField UInt64 4 world.input) (receivedField Int32 12 world.input)).run (answer env)
        { world with input := world.input.drop 16 } =
      ((Client.writeProcessMemory (receivedField CE_HANDLE 0 world.input)
        (receivedField UInt64 4 world.input) (receivedField Int32 12 world.input)
        (writeBuffer env world size)).run (answer env)
        { world with input := (world.input.drop 16).drop size, outside := allocated.2 }).after
        [⟨.newCharArray size, resize size allocated.1⟩,
          ⟨.recv size, (LinuxSocketWrapper.recv size
            { world with input := world.input.drop 16, outside := allocated.2 }).1⟩] := by
    rw [writeBody, nonneg]
    simp only [invoke, Program.call_bind, Program.ret_bind, Int.toNat_natCast]
    rw [Program.run_call_of_answer (resize size allocated.1)
      { world with input := world.input.drop 16, outside := allocated.2 }
      (by simp [answer, allocated])]
    rw [run_readBuffer, Outcome.after_after]
    rfl
  rw [filled, Outcome.after_after] at fields
  refine ⟨_, fun event member => ?_, fields⟩
  rcases List.mem_append.mp member with early | late
  · exact silent event early
  · simp only [List.mem_cons, List.not_mem_nil, or_false] at late
    rcases late with rfl | rfl <;> rfl

theorem noEffect_handleCommandWriteProcessMemory (world : World Outside)
    (nonneg : 0 ≤ (receivedField Int32 12 world.input).toInt) :
    NoEffect world (Client.handleCommandWriteProcessMemory.run (answer env) world) ↔
      receivedField CE_HANDLE 0 world.input ∉ world.state.handlesToProcessIDs := by
  obtain ⟨past, silent, runs⟩ :=
    run_handleCommandWriteProcessMemory env world (Int.eq_natAbs_of_nonneg nonneg)
  rw [runs, noEffect_after silent]
  let size := (receivedField Int32 12 world.input).toInt.natAbs
  have same : world.state = ({ world with
      input := (world.input.drop 16).drop size
      outside := (env.respond (.newCharArray size) world.outside).2 } : World Outside).state := rfl
  rw [noEffect_congr same]
  exact noEffect_writeProcessMemory ..

/-- When the fields that arrived, the others zero, make the command do nothing. -/
def CutHarmless (state : ClientState) (received : List UInt8) : Command → Prop
  | .openProcess => False
  | .createToolhelp32Snapshot =>
      ¬(receivedField UInt32 0 received &&& TH32CS_SNAPPROCESS ≠ 0 ∨
        receivedField UInt32 0 received &&& TH32CS_SNAPMODULE ≠ 0)
  | .createToolhelp32SnapshotEx =>
      receivedField UInt32 0 received &&& TH32CS_SNAPTHREAD ≠ 0 ∨
        receivedField UInt32 0 received &&& TH32CS_SNAPMODULE ≠ 0
  | .process32First =>
      CursorSettled state.handlesToProcessInfoSnapshots state.processIter true
        (receivedField CE_HANDLE 0 received)
  | .process32Next =>
      CursorSettled state.handlesToProcessInfoSnapshots state.processIter false
        (receivedField CE_HANDLE 0 received)
  | .module32First =>
      CursorSettled state.handlesToModuleSnapshots state.moduleIter true
        (receivedField CE_HANDLE 0 received)
  | .module32Next =>
      CursorSettled state.handlesToModuleSnapshots state.moduleIter false
        (receivedField CE_HANDLE 0 received)
  | .closeHandle => state.Unknown (receivedField CE_HANDLE 0 received)
  | .writeProcessMemory => receivedField CE_HANDLE 0 received ∉ state.handlesToProcessIDs
  | _ => True

/-- A length of which only the first bytes are known is not negative when the
whole length is not. -/
theorem receivedField_nonneg {offset size : Nat} {received : List UInt8}
    (cut : (received.drop offset).take 4 <+: Word.toBytes (Int32.ofNat size))
    (bounded : size < 2 ^ 31) : 0 ≤ (receivedField Int32 offset received).toInt := by
  obtain ⟨missing, whole⟩ := cut
  have below := leNat_le_append ((received.drop offset).take 4) missing
  rw [whole] at below
  have value : leNat (Word.toBytes (Int32.ofNat size)) = size := by
    change leNat (leBytes 4 (Int32.ofNat size).toUInt32.toNat) = size
    rw [Int32.toUInt32_ofNat', UInt32.toNat_ofNat_of_lt' (by simp [UInt32.size]; omega)]
    exact leNat_leBytes_of_lt (by omega)
  rw [value] at below
  change 0 ≤ (UInt32.ofNat (leNat ((received.drop offset).take 4))).toInt32.toInt
  rw [UInt32.toInt32_ofNat', Int32.toInt_ofNat_of_lt (by omega)]
  exact Int.natCast_nonneg _

/-- A command acts on what arrived of its request exactly when the fields that
arrived, the others zero, select an effect. -/
theorem handle_noEffect_iff (request : Request) (world : World Outside)
    (cut : world.input <+: request.payload) :
    NoEffect world ((Client.handle request.command).run (answer env) world) ↔
      CutHarmless world.state world.input request.command := by
  cases request with
  | getVersion | closeConnection | terminateServer | getABI | getOptions | getArchitecture _
  | virtualQueryEx _ _ | getRegionInfo _ _ | readProcessMemory _ _ _ _ | startDebug _
  | getSymbolListFromFile _ | virtualQueryExFull _ _ | setConnectionName _ =>
      exact iff_of_true (noEffect_of_inert (Client.handle_inert rfl) world) trivial
  | openProcess pid =>
      refine (noEffect_keepOpen _ world).trans ((noEffect_read UInt32 _ world).trans ?_)
      exact iff_of_false (openProcess_effect _ _) id
  | createToolhelp32Snapshot flags procId =>
      refine (noEffect_keepOpen _ world).trans ((noEffect_read UInt32 _ world).trans ?_)
      refine (noEffect_read UInt32 _ _).trans ⟨fun none known => ?_, fun unknown => ?_⟩
      · exact toolHelp32Snapshot_effect _ _ known none
      · exact noEffect_of_reports (Client.toolHelp32Snapshot_reports _ unknown) _
  | createToolhelp32SnapshotEx flags procId =>
      refine (noEffect_keepOpen _ world).trans ((noEffect_read UInt32 _ world).trans ?_)
      refine (noEffect_read UInt32 _ _).trans ⟨fun none => ?_, fun listed => ?_⟩
      · exact not_not.mp fun unlisted => toolHelp32SnapshotEx_effect _ _ unlisted none
      · exact noEffect_of_reports (Client.toolHelp32SnapshotEx_reports _ listed) _
  | process32First handle | process32Next handle =>
      refine (noEffect_keepOpen _ world).trans ((noEffect_read CE_HANDLE _ world).trans ?_)
      exact noEffect_iterateProcessesNext ..
  | module32First handle | module32Next handle =>
      refine (noEffect_keepOpen _ world).trans ((noEffect_read CE_HANDLE _ world).trans ?_)
      exact noEffect_iterateModulesNext ..
  | closeHandle handle =>
      refine (noEffect_keepOpen _ world).trans ((noEffect_read CE_HANDLE _ world).trans ?_)
      exact noEffect_closeHandle ..
  | writeProcessMemory handle address contents =>
      refine noEffect_handleCommandWriteProcessMemory world
        (receivedField_nonneg ?_ contents.property)
      have size : (((Request.writeProcessMemory handle address contents).payload.drop 12).take 4) =
          Word.toBytes (Int32.ofNat contents.val.length) := by
        rw [Request.payload, show 12 = Word.width CE_HANDLE + Word.width UInt64 from rfl,
          ← List.drop_drop, drop_toBytes, drop_toBytes]
        exact take_toBytes (Int32.ofNat contents.val.length) _
      rw [← size]
      exact (cut.drop 12).take 4

end CeServer
