import CeServer.HandleRefinement
import CeServer.Replies

/-!
Runs of whole commands: any number of connections send them, and one after the
other is served on the state they share.
-/

namespace CeServer

open LittleEndian Interaction Transition

variable {Outside : Type} {env : Environment Outside} {Value : Type}

structure Shared (Outside : Type) where
  state : ClientState := {}
  outside : Outside

structure CommandEvent (Connection : Type) where
  connection : Connection
  code : UInt8
  received : List UInt8
  calls : List (Event Op Op.Response)

def issuedBy : Event Op Op.Response → Option CE_HANDLE
  | ⟨.state .generateHandle, handle⟩ => some handle
  | _ => none

def issued (trace : List (Event Op Op.Response)) : List CE_HANDLE := trace.filterMap issuedBy

/-- The commands whose handle field selects the entry they change. -/
def Command.designates : Command → Bool
  | process32First | process32Next | module32First | module32Next | closeHandle => true
  | _ => false

namespace CommandEvent

variable {Connection : Type}

def reply (event : CommandEvent Connection) : List UInt8 := sent event.calls

def issued (event : CommandEvent Connection) : List CE_HANDLE := CeServer.issued event.calls

def names (event : CommandEvent Connection) (handle : CE_HANDLE) : Bool :=
  match Command.ofCode event.code with
  | some command =>
      command.designates && receivedField CE_HANDLE 0 event.received == handle
  | none => false

def touches (event : CommandEvent Connection) (handle : CE_HANDLE) : Bool :=
  event.names handle || event.issued.contains handle

end CommandEvent

def Shared.world (shared : Shared Outside) (received : List UInt8) : World Outside :=
  { input := received, state := shared.state, outside := shared.outside }

def Shared.serve (env : Environment Outside) (code : UInt8) (received : List UInt8)
    (shared : Shared Outside) : Outcome Op Op.Response (World Outside) Bool :=
  (Client.dispatchCommand code).run (answer env) (shared.world received)

structure CommandStep {Connection : Type} (env : Environment Outside) (before : Shared Outside)
    (event : CommandEvent Connection) (after : Shared Outside) : Prop where
  calls : event.calls = (before.serve env event.code event.received).trace
  state : after.state = (before.serve env event.code event.received).world.state
  outside : after.outside = (before.serve env event.code event.received).world.outside

section Serving

variable {Connection : Type}

def Shared.event (env : Environment Outside) (shared : Shared Outside) (connection : Connection)
    (code : UInt8) (received : List UInt8) : CommandEvent Connection :=
  ⟨connection, code, received, (shared.serve env code received).trace⟩

def Shared.next (env : Environment Outside) (shared : Shared Outside) (code : UInt8)
    (received : List UInt8) : Shared Outside :=
  ⟨(shared.serve env code received).world.state, (shared.serve env code received).world.outside⟩

theorem Shared.step (env : Environment Outside) (shared : Shared Outside) (connection : Connection)
    (code : UInt8) (received : List UInt8) :
    CommandStep env shared (shared.event env connection code received)
      (shared.next env code received) :=
  ⟨rfl, rfl, rfl⟩

end Serving

section Issuing

/-- What a command stores under a fresh handle, if anything. -/
def storedObject (env : Environment Outside) (outside : Outside) (received : List UInt8) :
    Command → Option HandleObject
  | .openProcess => some (.process (receivedField UInt32 0 received).toInt32)
  | .createToolhelp32Snapshot =>
      let flags := receivedField UInt32 0 received
      let procId := receivedField UInt32 4 received
      if flags &&& TH32CS_SNAPPROCESS ≠ 0 then
        some (.processes (env.respond .getProcessSnapshot outside).1)
      else if flags &&& TH32CS_SNAPMODULE ≠ 0 then
        some (.modules (env.respond (.getModuleSnapshot procId.toInt32) outside).1)
      else none
  | .createToolhelp32SnapshotEx =>
      let flags := receivedField UInt32 0 received
      if flags &&& TH32CS_SNAPTHREAD ≠ 0 ∨ flags &&& TH32CS_SNAPMODULE ≠ 0 then none
      else some (.processes (env.respond .getProcessSnapshot outside).1)
  | _ => none

structure Issues (object : HandleObject) (before : ClientState)
    (outcome : Outcome Op Op.Response (World Outside) Value) : Prop where
  state : outcome.world.state =
    object.store before.generateHandle.2 before.generateHandle.1
  issued : issued outcome.trace = [before.generateHandle.1]
  sent : sent outcome.trace = Word.toBytes before.generateHandle.1

theorem issued_effects (trace : List (Event Op Op.Response)) :
    issued (effects trace) = issued trace := by
  rw [issued, issued, effects, List.filterMap_filter]
  refine List.filterMap_congr fun event _ => ?_
  obtain ⟨op, response⟩ := event
  cases op <;> rfl

theorem SameEffect.issued {first second : Outcome Op Op.Response (World Outside) Value}
    (same : SameEffect first second) :
    CeServer.issued first.trace = CeServer.issued second.trace := by
  rw [← issued_effects, same.effects, issued_effects]

theorem SameEffect.issues {object : HandleObject} {before : ClientState}
    {first second : Outcome Op Op.Response (World Outside) Value} (same : SameEffect first second)
    (issues : Issues object before second) : Issues object before first :=
  ⟨same.world ▸ issues.state, same.issued.trans issues.issued, same.sent.trans issues.sent⟩

theorem sameEffect_read (env : Environment Outside) (T : Type) [Word T] (rest : T → Handler Value)
    (world : World Outside) :
    SameEffect ((read T >>= rest).run (answer env) world)
      ((rest (receivedField T 0 world.input)).run (answer env)
        { world with input := world.input.drop (Word.width T) }) := by
  rw [run_read]
  exact (SameEffect.refl _).afterInput rfl

/-- A handler that begins with its handle. -/
theorem handle_ofHandle {command : Command} (serves : CE_HANDLE → Handler Unit)
    (reads : Client.handle command = do
      let handle ← read CE_HANDLE
      Client.keepOpen (serves handle)) (world : World Outside) :
    SameEffect ((Client.handle command).run (answer env) world)
      ((Client.keepOpen (serves (receivedField CE_HANDLE 0 world.input))).run (answer env)
        { world with input := world.input.drop 4 }) := by
  rw [reads]
  exact sameEffect_read env CE_HANDLE (fun handle => Client.keepOpen (serves handle)) world

/-- A handler that begins with flags and a process ID. -/
theorem handle_ofFlags {command : Command} (serves : UInt32 → UInt32 → Handler Unit)
    (reads : Client.handle command = do
      let flags ← read UInt32
      let procId ← read UInt32
      Client.keepOpen (serves flags procId)) (world : World Outside) :
    SameEffect ((Client.handle command).run (answer env) world)
      ((Client.keepOpen (serves (receivedField UInt32 0 world.input)
        (receivedField UInt32 4 world.input))).run (answer env)
          { world with input := (world.input.drop 4).drop 4 }) := by
  rw [reads]
  have flags := sameEffect_read env UInt32 (fun flags => do
    let procId ← read UInt32
    Client.keepOpen (serves flags procId)) world
  have procId := sameEffect_read env UInt32
    (fun procId => Client.keepOpen (serves (receivedField UInt32 0 world.input) procId))
    { world with input := world.input.drop 4 }
  exact flags.trans procId

theorem handle_issues (env : Environment Outside) {command : Command} (world : World Outside)
    {object : HandleObject}
    (stores : storedObject env world.outside world.input command = some object) :
    Issues object world.state ((Client.handle command).run (answer env) world) := by
  cases command with
  | openProcess =>
      obtain rfl := Option.some.inj stores
      have field := sameEffect_read env UInt32
        (fun pid => Client.keepOpen (Client.openProcess pid)) world
      exact field.issues ⟨rfl, rfl, List.append_nil _⟩
  | createToolhelp32Snapshot =>
      refine (handle_ofFlags Client.toolHelp32Snapshot rfl world).issues ?_
      simp only [storedObject] at stores
      rw [Client.toolHelp32Snapshot, Client.storeTlHelp32Snapshot]
      split at stores
      · rename_i processes
        obtain rfl := Option.some.inj stores
        rw [if_pos processes]
        exact ⟨rfl, rfl, List.append_nil _⟩
      · rename_i noProcesses
        split at stores
        · rename_i modules
          obtain rfl := Option.some.inj stores
          rw [if_neg noProcesses, if_pos modules]
          exact ⟨rfl, rfl, List.append_nil _⟩
        · cases stores
  | createToolhelp32SnapshotEx =>
      refine (handle_ofFlags Client.toolHelp32SnapshotEx rfl world).issues ?_
      simp only [storedObject] at stores
      split at stores
      · cases stores
      · rename_i unlisted
        obtain ⟨unthreaded, unmodules⟩ := not_or.mp unlisted
        obtain rfl := Option.some.inj stores
        rw [Client.toolHelp32SnapshotEx, if_neg unthreaded, if_neg unmodules]
        exact ⟨rfl, rfl, List.append_nil _⟩
  | _ => cases stores

end Issuing

section Changes

/-- All that a command can do to the shared state, with the handles it issues. -/
inductive Change (command : Command) (received : List UInt8) (before : ClientState) :
    List CE_HANDLE → ClientState → Prop
  | kept : Change command received before [] before
  | closed (closes : command = .closeHandle) :
      Change command received before [] (before.closeHandle (receivedField CE_HANDLE 0 received))
  | processes (first : Bool)
      (iterates : command = if first then .process32First else .process32Next)
      (present : receivedField CE_HANDLE 0 received ∈ before.handlesToProcessInfoSnapshots) :
      Change command received before []
        { before with processIter := (ClientState.advance before.handlesToProcessInfoSnapshots
            (if first then before.processIter.insert (receivedField CE_HANDLE 0 received) 0
              else before.processIter) (receivedField CE_HANDLE 0 received)).2 }
  | modules (first : Bool)
      (iterates : command = if first then .module32First else .module32Next)
      (present : receivedField CE_HANDLE 0 received ∈ before.handlesToModuleSnapshots) :
      Change command received before []
        { before with moduleIter := (ClientState.advance before.handlesToModuleSnapshots
            (if first then before.moduleIter.insert (receivedField CE_HANDLE 0 received) 0
              else before.moduleIter) (receivedField CE_HANDLE 0 received)).2 }
  | stored (undesignated : command.designates = false) (object : HandleObject) :
      Change command received before [before.generateHandle.1]
        (object.store before.generateHandle.2 before.generateHandle.1)

def Op.Still : Op → Prop
  | .close => False
  | .state op => op.Queries
  | _ => True

theorem Op.Inert.still {op : Op} (inert : op.Inert) : op.Still := by
  cases op <;> first | exact trivial | exact inert

theorem Op.Still.inert_or_writes {op : Op} (still : op.Still) :
    op.Inert ∨ ∃ processID address bytes, op = .memoryWrite processID address bytes := by
  cases op with
  | memoryWrite processID address bytes => exact .inr ⟨processID, address, bytes, rfl⟩
  | _ => exact .inl still

theorem Op.Still.issuesNothing {op : Op} (still : op.Still) : op ≠ .state .generateHandle := by
  rintro rfl
  exact still

theorem issued_eq_nil {handler : Handler Value}
    (unissued : handler.Uses (· ≠ .state .generateHandle)) (world : World Outside) :
    issued (handler.run (answer env) world).trace = [] := by
  refine List.filterMap_eq_nil_iff.mpr fun event member => ?_
  have other := unissued.trace world event member
  obtain ⟨op, response⟩ := event
  cases op with
  | state op =>
      cases op <;> first | rfl | exact absurd rfl other
  | _ => rfl

theorem state_of_still {op : Op} (still : op.Still) {world later : World Outside}
    {response : op.Response} (answered : answer env op world = some (response, later)) :
    later.state = world.state := by
  rcases still.inert_or_writes with inert | ⟨processID, address, bytes, rfl⟩
  · exact state_of_inert inert answered
  · simp only [answer, ask, Option.some.injEq, Prod.mk.injEq] at answered
    rw [← answered.2]

theorem change_of_still {command : Command} {received : List UInt8} {handler : Handler Value}
    (still : handler.Uses Op.Still) (world : World Outside) :
    Change command received world.state (issued (handler.run (answer env) world).trace)
      (handler.run (answer env) world).world.state := by
  rw [issued_eq_nil (still.mono fun _ => Op.Still.issuesNothing) world,
    still.frame (fun _ allowed _ _ _ answered => state_of_still allowed answered) world]
  exact .kept

theorem SameEffect.change {command : Command} {received : List UInt8} {before : ClientState}
    {first second : Outcome Op Op.Response (World Outside) Value} (same : SameEffect first second)
    (change : Change command received before (CeServer.issued second.trace) second.world.state) :
    Change command received before (CeServer.issued first.trace) first.world.state := by
  rw [same.issued, same.world]
  exact change

theorem Issues.change {command : Command} {received : List UInt8} {object : HandleObject}
    {before : ClientState} {outcome : Outcome Op Op.Response (World Outside) Value}
    (issues : Issues object before outcome) (undesignated : command.designates = false) :
    Change command received before (CeServer.issued outcome.trace) outcome.world.state := by
  rw [issues.issued, issues.state]
  exact .stored undesignated object

theorem unissued_of_madeBy {command : Command} {op : Op} (made : op.madeBy command)
    (issuesNone : (Op.state .generateHandle).madeBy command = false) :
    op ≠ .state .generateHandle := by
  rintro rfl
  exact Bool.false_ne_true (issuesNone.symm.trans made)

theorem iterateProcessesNext_unissued (first : Bool) (handle : CE_HANDLE) :
    (Client.iterateProcessesNext first handle).Uses (· ≠ .state .generateHandle) :=
  (Client.iterateProcessesNext_stays first (covers_within fun _ made =>
    unissued_of_madeBy made (by cases first <;> rfl)) handle).uses

theorem iterateModulesNext_unissued (first : Bool) (handle : CE_HANDLE) :
    (Client.iterateModulesNext first handle).Uses (· ≠ .state .generateHandle) :=
  (Client.iterateModulesNext_stays first (covers_within fun _ made =>
    unissued_of_madeBy made (by cases first <;> rfl)) handle).uses

theorem keepOpen_state (handler : Handler Unit) (world : World Outside) :
    ((Client.keepOpen handler).run (answer env) world).world.state =
      (handler.run (answer env) world).world.state := by
  rw [Client.keepOpen, Program.run_bind]
  cases (handler.run (answer env) world).value <;> rfl

theorem handle_iterateProcessesNext (first : Bool) (world : World Outside) :
    SameEffect ((Client.handle (if first then .process32First else .process32Next)).run
        (answer env) world)
      ((Client.keepOpen (Client.iterateProcessesNext first
        (receivedField CE_HANDLE 0 world.input))).run (answer env)
          { world with input := world.input.drop 4 }) := by
  refine handle_ofHandle (Client.iterateProcessesNext first) ?_ world
  cases first <;> rfl

theorem handle_iterateModulesNext (first : Bool) (world : World Outside) :
    SameEffect ((Client.handle (if first then .module32First else .module32Next)).run
        (answer env) world)
      ((Client.keepOpen (Client.iterateModulesNext first
        (receivedField CE_HANDLE 0 world.input))).run (answer env)
          { world with input := world.input.drop 4 }) := by
  refine handle_ofHandle (Client.iterateModulesNext first) ?_ world
  cases first <;> rfl

theorem change_iterateProcessesNext (first : Bool) (command : Command)
    (iterates : command = if first then .process32First else .process32Next)
    (world : World Outside) :
    Change command world.input world.state
      (issued ((Client.handle command).run (answer env) world).trace)
      ((Client.handle command).run (answer env) world).world.state := by
  have same : SameEffect ((Client.handle command).run (answer env) world) _ :=
    iterates ▸ handle_iterateProcessesNext first world
  refine same.change ?_
  rw [issued_eq_nil (Client.keepOpen_uses (iterateProcessesNext_unissued ..)), keepOpen_state,
    iterateProcessesNext_state]
  split
  · rename_i present
    exact .processes first iterates present
  · exact .kept

theorem change_iterateModulesNext (first : Bool) (command : Command)
    (iterates : command = if first then .module32First else .module32Next)
    (world : World Outside) :
    Change command world.input world.state
      (issued ((Client.handle command).run (answer env) world).trace)
      ((Client.handle command).run (answer env) world).world.state := by
  have same : SameEffect ((Client.handle command).run (answer env) world) _ :=
    iterates ▸ handle_iterateModulesNext first world
  refine same.change ?_
  rw [issued_eq_nil (Client.keepOpen_uses (iterateModulesNext_unissued ..)), keepOpen_state,
    iterateModulesNext_state]
  split
  · rename_i present
    exact .modules first iterates present
  · exact .kept

theorem change_closeHandle (world : World Outside) :
    Change .closeHandle world.input world.state
      (issued ((Client.handle .closeHandle).run (answer env) world).trace)
      ((Client.handle .closeHandle).run (answer env) world).world.state :=
  (handle_ofHandle Client.closeHandle rfl world).change (.closed rfl)

/-- A command that begins with flags and a process ID stores an object or only
sends an answer. -/
theorem change_ofFlags {command : Command} (serves : UInt32 → UInt32 → Handler Unit)
    (reads : Client.handle command = do
      let flags ← read UInt32
      let procId ← read UInt32
      Client.keepOpen (serves flags procId)) (undesignated : command.designates = false)
    (world : World Outside)
    (reports : storedObject env world.outside world.input command = none →
      (serves (receivedField UInt32 0 world.input) (receivedField UInt32 4 world.input)).Uses
        Op.Reports) :
    Change command world.input world.state
      (issued ((Client.handle command).run (answer env) world).trace)
      ((Client.handle command).run (answer env) world).world.state := by
  cases stores : storedObject env world.outside world.input command with
  | some object => exact (handle_issues env world stores).change undesignated
  | none =>
      have still := Client.keepOpen_uses
        ((inert_of_reports (reports stores)).mono fun _ => Op.Inert.still)
      exact (handle_ofFlags serves reads world).change (change_of_still still
        { world with input := (world.input.drop 4).drop 4 })

theorem change_toolHelp32Snapshot (world : World Outside) :
    Change .createToolhelp32Snapshot world.input world.state
      (issued ((Client.handle .createToolhelp32Snapshot).run (answer env) world).trace)
      ((Client.handle .createToolhelp32Snapshot).run (answer env) world).world.state := by
  refine change_ofFlags Client.toolHelp32Snapshot rfl rfl world fun stores => ?_
  apply Client.toolHelp32Snapshot_reports
  intro known
  simp only [storedObject] at stores
  split at stores
  · cases stores
  · rename_i noProcesses
    rw [if_pos (known.resolve_left noProcesses)] at stores
    cases stores

theorem change_toolHelp32SnapshotEx (world : World Outside) :
    Change .createToolhelp32SnapshotEx world.input world.state
      (issued ((Client.handle .createToolhelp32SnapshotEx).run (answer env) world).trace)
      ((Client.handle .createToolhelp32SnapshotEx).run (answer env) world).world.state := by
  refine change_ofFlags Client.toolHelp32SnapshotEx rfl rfl world fun stores => ?_
  apply Client.toolHelp32SnapshotEx_reports
  by_contra unlisted
  simp only [storedObject, if_neg unlisted] at stores
  cases stores

theorem still_of_madeBy {op : Op} (made : op.madeBy .writeProcessMemory) : op.Still := by
  cases op with
  | state op => cases op <;> trivial
  | close => cases made
  | _ => trivial

theorem handleCommandWriteProcessMemory_still :
    (Client.handle .writeProcessMemory).Uses Op.Still :=
  (Client.handle_stays (coversAll_within (fun _ => still_of_madeBy) (fun _ => trivial)
    (fun _ _ => trivial) fun polls => by cases polls)).uses

theorem handle_change (command : Command) (world : World Outside) :
    Change command world.input world.state
      (issued ((Client.handle command).run (answer env) world).trace)
      ((Client.handle command).run (answer env) world).world.state := by
  cases command with
  | openProcess => exact (handle_issues env world rfl).change rfl
  | createToolhelp32Snapshot => exact change_toolHelp32Snapshot world
  | createToolhelp32SnapshotEx => exact change_toolHelp32SnapshotEx world
  | process32First => exact change_iterateProcessesNext true _ rfl world
  | process32Next => exact change_iterateProcessesNext false _ rfl world
  | module32First => exact change_iterateModulesNext true _ rfl world
  | module32Next => exact change_iterateModulesNext false _ rfl world
  | closeHandle => exact change_closeHandle world
  | writeProcessMemory => exact change_of_still handleCommandWriteProcessMemory_still world
  | _ => exact change_of_still ((Client.handle_inert rfl).mono fun _ => Op.Inert.still) world

end Changes

section Steps

variable {Connection : Type} {before after : Shared Outside} {event : CommandEvent Connection}

/-- A command without a handler makes no call. -/
theorem CommandStep.change (step : CommandStep env before event after) :
    (event.calls = [] ∧ after.state = before.state) ∨
      ∃ command, Command.ofCode event.code = some command ∧
        Change command event.received before.state event.issued after.state := by
  have calls := step.calls
  have state := step.state
  unfold Shared.serve Client.dispatchCommand at calls state
  cases known : Command.ofCode event.code with
  | none =>
      rw [known] at calls state
      exact .inl ⟨calls, state⟩
  | some command =>
      rw [known] at calls state
      refine .inr ⟨command, rfl, ?_⟩
      rw [CommandEvent.issued, calls, state]
      exact handle_change command (before.world event.received)

structure SameAt (handle : CE_HANDLE) (before after : ClientState) : Prop where
  processes : after.handlesToProcessInfoSnapshots.lookup handle =
    before.handlesToProcessInfoSnapshots.lookup handle
  modules : after.handlesToModuleSnapshots.lookup handle =
    before.handlesToModuleSnapshots.lookup handle
  processIter : after.processIter.lookup handle = before.processIter.lookup handle
  moduleIter : after.moduleIter.lookup handle = before.moduleIter.lookup handle

theorem advance_lookup_of_ne {Entry : Type} (snapshots : Table (List Entry)) (iter : Table Int32)
    {handle other : CE_HANDLE} (distinct : other ≠ handle) :
    (ClientState.advance snapshots iter handle).2.lookup other = iter.lookup other := by
  unfold ClientState.advance
  split
  · rfl
  · dsimp only
    split
    · rw [Table.lookup_subscript, if_neg distinct]
    · rw [Table.lookup_insert, if_neg distinct, Table.lookup_subscript, if_neg distinct]

theorem sameAt_store {handle other : CE_HANDLE} (distinct : other ≠ handle)
    (object : HandleObject) (state : ClientState) :
    SameAt other state (object.store state handle) := by
  constructor
  · rw [store_processes]
    cases object.processes? <;> simp [distinct]
  · rw [store_modules]
    cases object.modules? <;> simp [distinct]
  · rw [store_processIter]
    cases object.processes? <;> simp [distinct]
  · rw [store_moduleIter]
    cases object.modules? <;> simp [distinct]

theorem Change.sameAt {command : Command} {received : List UInt8} {before after : ClientState}
    {handles : List CE_HANDLE} (change : Change command received before handles after)
    {handle : CE_HANDLE}
    (unnamed : command.designates → handle ≠ receivedField CE_HANDLE 0 received)
    (unissued : handle ∉ handles) : SameAt handle before after := by
  cases change with
  | kept => exact ⟨rfl, rfl, rfl, rfl⟩
  | closed closes =>
      have distinct := unnamed (closes ▸ rfl)
      constructor <;> exact (Table.lookup_erase ..).trans (if_neg distinct)
  | processes first iterates present =>
      have distinct := unnamed (by rw [iterates]; cases first <;> rfl)
      refine ⟨rfl, rfl, ?_, rfl⟩
      dsimp only
      rw [advance_lookup_of_ne _ _ distinct]
      cases first with
      | false => rfl
      | true => exact (Table.lookup_insert ..).trans (if_neg distinct)
  | modules first iterates present =>
      have distinct := unnamed (by rw [iterates]; cases first <;> rfl)
      refine ⟨rfl, rfl, rfl, ?_⟩
      dsimp only
      rw [advance_lookup_of_ne _ _ distinct]
      cases first with
      | false => rfl
      | true => exact (Table.lookup_insert ..).trans (if_neg distinct)
  | stored undesignated object =>
      have distinct : handle ≠ before.generateHandle.1 :=
        fun same => unissued (List.mem_singleton.mpr same)
      have same := sameAt_store distinct object before.generateHandle.2
      exact ⟨same.processes, same.modules, same.processIter, same.moduleIter⟩

theorem Change.issuesNothing {command : Command} {received : List UInt8}
    {before after : ClientState} {handles : List CE_HANDLE}
    (change : Change command received before handles after) (designates : command.designates) :
    handles = [] := by
  cases change with
  | stored undesignated object =>
      rw [designates] at undesignated
      exact nomatch undesignated
  | _ => rfl

theorem CommandStep.issuesNothing (step : CommandStep env before event after) {command : Command}
    (code : event.code = command.code) (designates : command.designates) : event.issued = [] := by
  rcases step.change with ⟨silent, _⟩ | ⟨other, known, change⟩
  · rw [CommandEvent.issued, silent]
    rfl
  · rw [code, Command.ofCode_code] at known
    obtain rfl := Option.some.inj known
    exact change.issuesNothing designates

theorem CommandStep.sameAt (step : CommandStep env before event after) {handle : CE_HANDLE}
    (untouched : event.touches handle = false) : SameAt handle before.state after.state := by
  rcases step.change with ⟨_, same⟩ | ⟨command, known, change⟩
  · rw [same]
    exact ⟨rfl, rfl, rfl, rfl⟩
  · simp only [CommandEvent.touches, CommandEvent.names, known, Bool.or_eq_false_iff,
      Bool.and_eq_false_imp, beq_eq_false_iff_ne, List.contains_eq_mem,
      decide_eq_false_iff_not] at untouched
    exact change.sameAt (fun designates => (untouched.1 designates).symm) untouched.2

structure Counted (count : Nat) (state : ClientState) : Prop where
  last : state.lastHandleID.toInt = count
  processes : ∀ handle ∈ state.handlesToProcessInfoSnapshots, handle.toInt ≤ count
  modules : ∀ handle ∈ state.handlesToModuleSnapshots, handle.toInt ≤ count

theorem counted_start : Counted 0 {} :=
  ⟨rfl, fun _ member => absurd member Finmap.notMem_empty,
    fun _ member => absurd member Finmap.notMem_empty⟩

theorem Change.counted {command : Command} {received : List UInt8} {before after : ClientState}
    {handles : List CE_HANDLE} (change : Change command received before handles after) {count : Nat}
    (counted : Counted count before) (bounded : count + handles.length < 2 ^ 31) :
    Counted (count + handles.length) after ∧ ∀ handle ∈ handles, handle.toInt = count + 1 := by
  cases change with
  | kept => exact ⟨counted, nofun⟩
  | closed closes =>
      refine ⟨⟨counted.last, fun handle member => ?_, fun handle member => ?_⟩, nofun⟩
      · exact counted.processes handle (Finmap.mem_erase.mp member).2
      · exact counted.modules handle (Finmap.mem_erase.mp member).2
  | processes first iterates present =>
      exact ⟨⟨counted.last, counted.processes, counted.modules⟩, nofun⟩
  | modules first iterates present =>
      exact ⟨⟨counted.last, counted.processes, counted.modules⟩, nofun⟩
  | stored undesignated object =>
      obtain ⟨number, kept⟩ := ClientState.generateHandle_of_lt counted.last bounded
      have known (handle : CE_HANDLE) (earlier : handle.toInt ≤ count) :
          handle.toInt ≤ (count + 1 : Nat) := by omega
      have fresh (handle : CE_HANDLE) (same : handle = before.generateHandle.1) :
          handle.toInt ≤ (count + 1 : Nat) := by
        rw [same, number]
        omega
      refine ⟨?_, fun handle member => ?_⟩
      · cases object with
        | process processID =>
            exact ⟨number, fun handle member => known handle (counted.processes handle member),
              fun handle member => known handle (counted.modules handle member)⟩
        | processes snapshot =>
            refine ⟨number, fun handle member => ?_,
              fun handle member => known handle (counted.modules handle member)⟩
            rcases Table.mem_insertNew.mp member with same | earlier
            · exact fresh handle same
            · exact known handle (counted.processes handle earlier)
        | modules snapshot =>
            refine ⟨number, fun handle member => known handle (counted.processes handle member),
              fun handle member => ?_⟩
            rcases Table.mem_insertNew.mp member with same | earlier
            · exact fresh handle same
            · exact known handle (counted.modules handle earlier)
      · rw [List.mem_singleton.mp member]
        exact number

theorem CommandStep.counted (step : CommandStep env before event after) {count : Nat}
    (counted : Counted count before.state) (bounded : count + event.issued.length < 2 ^ 31) :
    Counted (count + event.issued.length) after.state ∧
      ∀ handle ∈ event.issued, handle.toInt = count + 1 := by
  rcases step.change with ⟨silent, same⟩ | ⟨command, known, change⟩
  · have none : event.issued = [] := by
      rw [CommandEvent.issued, silent]
      rfl
    rw [same, none]
    exact ⟨counted, nofun⟩
  · exact change.counted counted bounded

def issuedOver (events : List (CommandEvent Connection)) : List CE_HANDLE :=
  events.flatMap CommandEvent.issued

theorem counted_of_run {events : List (CommandEvent Connection)} {count : Nat}
    (run : Run (CommandStep env) before events after) (counted : Counted count before.state)
    (bounded : count + (issuedOver events).length < 2 ^ 31) :
    Counted (count + (issuedOver events).length) after.state ∧
      ∀ handle ∈ issuedOver events, (count : Int) < handle.toInt := by
  refine run.history (fun events shared => count + (issuedOver events).length < 2 ^ 31 →
    Counted (count + (issuedOver events).length) shared.state ∧
      ∀ handle ∈ issuedOver events, (count : Int) < handle.toInt) ?_ ?_ bounded
  · intro _
    exact ⟨counted, nofun⟩
  intro past before event after _ ih step bounded
  have total : (issuedOver (past ++ [event])).length =
      (issuedOver past).length + event.issued.length := by
    simp [issuedOver]
  rw [total] at bounded ⊢
  obtain ⟨earlier, numbers⟩ := ih (by omega)
  obtain ⟨later, next⟩ := step.counted earlier (by omega)
  rw [← Nat.add_assoc]
  refine ⟨later, fun handle member => ?_⟩
  simp only [issuedOver, List.flatMap_append, List.mem_append, List.flatMap_singleton] at member
  rcases member with old | new
  · exact numbers handle old
  · have number := next handle new
    omega

end Steps

end CeServer
