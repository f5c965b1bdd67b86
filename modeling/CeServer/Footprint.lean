import CeServer.Connection
import CeServer.Library.Footprints

/-!
What the handlers may do: which calls each command makes once its fields are
read. Most only query; some also change the shared state; WRITEPROCESSMEMORY alone
writes to the target.
-/

namespace CeServer

open LittleEndian Interaction

def StateOp.Queries : StateOp → Prop
  | .getProcessID _ | .getProcessHandleLegacyCE | .containsProcessInfoHandle _
  | .containsMemoryRegionHandle _ | .containsProcessIDHandle _ => True
  | _ => False

/-- The calls that neither receive nor touch the shared state or the target. -/
def Op.Reports : Op → Prop
  | .recv _ | .recvNonBlocking _ | .close | .stopRequested | .memoryWrite .. | .state _ => False
  | .newCharArray size => 0 ≤ size
  | _ => True

def Op.Serves : Op → Prop
  | .state _ | .memoryWrite .. => True
  | op => op.Reports

/-- The calls that change neither the shared state nor the target and leave the
connection open. -/
def Op.Inert : Op → Prop
  | .memoryWrite .. | .close => False
  | .state op => op.Queries
  | _ => True

/-- The calls of a command's handler behind its fields, and behind the choice of
the handle in GETARCHITECTURE. -/
def StateOp.madeBy (command : Command) : StateOp → Bool
  | .generateHandle =>
      [.openProcess, .createToolhelp32Snapshot, .createToolhelp32SnapshotEx].contains command
  | .storeOpenProcess .. => command == .openProcess
  | .storeProcessSnapshot .. =>
      [.createToolhelp32Snapshot, .createToolhelp32SnapshotEx].contains command
  | .storeModuleSnapshot .. => command == .createToolhelp32Snapshot
  | .closeHandle _ => command == .closeHandle
  | .containsProcessInfoHandle _ | .nextProcessInfo _ =>
      [.process32First, .process32Next].contains command
  | .resetProcessIterator _ => command == .process32First
  | .containsMemoryRegionHandle _ | .nextMemoryRegion _ =>
      [.module32First, .module32Next].contains command
  | .resetModuleIterator _ => command == .module32First
  | .containsProcessIDHandle _ | .getProcessID _ =>
      [.readProcessMemory, .writeProcessMemory, .getArchitecture, .virtualQueryEx, .getRegionInfo,
        .virtualQueryExFull].contains command
  | .getProcessHandleLegacyCE => false

def Op.madeBy (command : Command) : Op → Bool
  | .send _ => true
  | .state op => op.madeBy command
  | .readProcessInfo _ => [.process32First, .process32Next].contains command
  | .readMemoryRegion _ => [.module32First, .module32Next].contains command
  | .getProcessSnapshot =>
      [.createToolhelp32Snapshot, .createToolhelp32SnapshotEx].contains command
  | .getModuleSnapshot _ =>
      [.createToolhelp32Snapshot, .createToolhelp32SnapshotEx, .virtualQueryEx, .getRegionInfo,
        .virtualQueryExFull].contains command
  | .getThreadSnapshot _ => command == .createToolhelp32SnapshotEx
  | .newCharArray size => command == .readProcessMemory && decide (0 ≤ size)
  | .memoryRead .. => command == .readProcessMemory
  | .memoryWrite .. => command == .writeProcessMemory
  | .getMemoryModel _ => command == .getArchitecture
  | .setConnectionName _ => command == .setConnectionName
  | .recv _ | .recvNonBlocking _ | .lastError | .close | .pastTimeout | .sleep | .stopRequested =>
      false

/-- The calls of the choice of the handle in GETARCHITECTURE. -/
def Op.polls : Op → Bool
  | .recvNonBlocking _ | .lastError | .pastTimeout | .sleep | .state .getProcessHandleLegacyCE =>
      true
  | _ => false

def Op.sends : Op → Bool
  | .send _ => true
  | _ => false

/-- A snapshot is stored as it was taken. -/
def Op.Given (admits : (op : Op) → op.Response → Prop) : Op → Prop
  | .state (.storeProcessSnapshot snapshot _) => admits .getProcessSnapshot snapshot
  | .state (.storeModuleSnapshot snapshot _) =>
      ∃ processID, admits (.getModuleSnapshot processID) snapshot
  | _ => True

/-- The footprint has room for what a command does behind its fields, and ignores
at most the results of sends. -/
structure Covers (footprint : Footprint Op Op.Response) (command : Command) : Prop where
  ignores : ∀ op, footprint.ignores op → op.sends
  made : ∀ op, op.madeBy command → op.Given footprint.admits → footprint.allows op

theorem covers_within {allowed : Op → Prop} {command : Command}
    (made : ∀ op, op.madeBy command → allowed op) :
    Covers (.within allowed) command :=
  ⟨fun _ => False.elim, fun op makes _ => made op makes⟩

namespace Client

section Traversal

variable {Value : Type} {footprint : Footprint Op Op.Response} {command : Command}

theorem stays_call {op : Op} {rest : op.Response → Handler Value} (allowed : footprint.allows op)
    (heard : ¬footprint.ignores op)
    (each : ∀ response, footprint.admits op response → (rest response).Stays footprint) :
    (invoke op >>= rest).Stays footprint :=
  ⟨allowed, fun ignored => absurd ignored heard, each⟩

theorem sendBytes_stays (sends : ∀ bytes, footprint.allows (.send bytes)) (bytes : List UInt8) :
    (sendBytes bytes).Stays footprint :=
  ⟨sends bytes, fun _ _ _ => rfl, fun _ _ => trivial⟩

theorem send_stays {T : Type} [Word T] (sends : ∀ bytes, footprint.allows (.send bytes))
    (data : T) : (send data).Stays footprint :=
  sendBytes_stays sends _

theorem keepOpen_uses {allowed : Op → Prop} {handler : Handler Unit}
    (uses : handler.Uses allowed) : (keepOpen handler).Uses allowed :=
  uses.bind fun _ => trivial

theorem keepOpen_stays {handler : Handler Unit} (stays : handler.Stays footprint) :
    (keepOpen handler).Stays footprint :=
  stays.bind fun _ => trivial

theorem answers_stays (sends : ∀ bytes, footprint.allows (.send bytes)) (answer : Int32)
    (keep : Bool) : (do send answer; return keep : Handler Bool).Stays footprint :=
  (send_stays sends answer).bind fun _ => trivial

section Entries

variable (sends : ∀ bytes, footprint.allows (.send bytes))
include sends

theorem sendName_stays (name : List UInt8) :
    (if !name.isEmpty then sendBytes name else pure () : Handler Unit).Stays footprint :=
  Program.stays_ite (fun _ => sendBytes_stays sends name) fun _ => trivial

theorem sendProcess32Entry_stays (hasNext : Bool) (processID : Int32) (name : List UInt8) :
    (sendProcess32Entry hasNext processID name).Stays footprint :=
  (sendBytes_stays sends _).bind fun _ => sendName_stays sends name

theorem sendModule32Entry_stays (hasNext : Bool) (moduleBase : UInt64)
    (modulePart memoryRegionSize : Int32) (fileOffset : UInt32) (name : List UInt8) :
    (sendModule32Entry hasNext moduleBase modulePart memoryRegionSize fileOffset name).Stays
      footprint :=
  (sendBytes_stays sends _).bind fun _ => sendName_stays sends name

theorem sendModuleRegion_stays (region : MemoryRegion) :
    (sendModuleRegion region).Stays footprint :=
  sendModule32Entry_stays sends true region.startAddr region.part region.regionSize
    region.fileOffset region.name

theorem sendModuleList_stays (regions : List MemoryRegion) :
    (do regions.forM sendModuleRegion; sendModule32Entry false 0 0 0 0 [] : Handler Unit).Stays
      footprint :=
  (Program.Stays.forM fun region _ => sendModuleRegion_stays sends region).bind fun _ =>
    sendModule32Entry_stays sends false 0 0 0 0 []

end Entries

end Traversal

end Client

section Covering

variable {Value : Type} {footprint : Footprint Op Op.Response} {command : Command}

theorem Covers.sends (covers : Covers footprint command) (bytes : List UInt8) :
    footprint.allows (.send bytes) :=
  covers.made (.send bytes) rfl trivial

theorem Covers.call (covers : Covers footprint command) {op : Op}
    {rest : op.Response → Handler Value} (made : op.madeBy command)
    (given : op.Given footprint.admits) (heard : op.sends = false)
    (each : ∀ response, footprint.admits op response → (rest response).Stays footprint) :
    (invoke op >>= rest).Stays footprint := by
  refine Client.stays_call (covers.made op made given) (fun ignored => ?_) each
  exact Bool.false_ne_true (heard.symm.trans (covers.ignores op ignored))

theorem Covers.checks (covers : Covers footprint command) {handle : CE_HANDLE}
    {body : Handler Bool} (made : (Op.state (.containsProcessIDHandle handle)).madeBy command)
    (stays : body.Stays footprint) :
    Program.Stays footprint (do
      if !(← invoke (.state (.containsProcessIDHandle handle))) then
        return false
      else
        body) := by
  refine covers.call made trivial rfl fun present _ => ?_
  cases present with
  | false => exact trivial
  | true => exact stays

end Covering

namespace Client

section Bodies

variable {footprint : Footprint Op Op.Response}

theorem openProcess_stays (covers : Covers footprint .openProcess) (pid : UInt32) :
    (openProcess pid).Stays footprint :=
  covers.call rfl trivial rfl fun handle _ => covers.call rfl trivial rfl fun _ _ =>
    send_stays covers.sends handle

theorem toolHelp32Snapshot_stays (covers : Covers footprint .createToolhelp32Snapshot)
    (flags procId : UInt32) : (toolHelp32Snapshot flags procId).Stays footprint := by
  refine Program.Stays.bind ?_ fun handle : CE_HANDLE => send_stays covers.sends handle
  refine Program.stays_ite (fun _ => ?_) fun _ => Program.stays_ite (fun _ => ?_) fun _ => trivial
  · exact covers.call rfl trivial rfl fun snapshot taken => covers.call rfl trivial rfl
      fun handle _ => covers.call rfl taken rfl fun _ _ => trivial
  · exact covers.call rfl trivial rfl fun snapshot taken => covers.call rfl trivial rfl
      fun handle _ => covers.call rfl ⟨_, taken⟩ rfl fun _ _ => trivial

theorem toolHelp32SnapshotEx_stays (covers : Covers footprint .createToolhelp32SnapshotEx)
    (flags procId : UInt32) : (toolHelp32SnapshotEx flags procId).Stays footprint := by
  refine Program.stays_ite (fun _ => ?_) fun _ => Program.stays_ite (fun _ => ?_) fun _ => ?_
  · exact covers.call rfl trivial rfl fun threads _ => (send_stays covers.sends _).bind fun _ =>
      Program.Stays.forM fun thread _ => send_stays covers.sends _
  · exact covers.call rfl trivial rfl fun regions _ => sendModuleList_stays covers.sends regions
  · exact covers.call rfl trivial rfl fun snapshot taken => covers.call rfl trivial rfl
      fun handle _ => covers.call rfl taken rfl fun _ _ => send_stays covers.sends handle

theorem iterateProcessesNext_stays (first : Bool)
    (covers : Covers footprint (if first then .process32First else .process32Next))
    (handle : CE_HANDLE) : (iterateProcessesNext first handle).Stays footprint := by
  have takes (makes : (Op.state (.nextProcessInfo handle)).madeBy
        (if first then .process32First else .process32Next))
      (reads : ∀ entry, (Op.readProcessInfo entry).madeBy
        (if first then .process32First else .process32Next)) :
      (invoke (.state (.nextProcessInfo handle)) >>= sendProcessAt).Stays footprint := by
    refine covers.call makes trivial rfl fun found _ => ?_
    cases found with
    | none => exact sendProcess32Entry_stays covers.sends false 0 []
    | some entry =>
        exact covers.call (reads entry) trivial rfl fun procInfo _ =>
          sendProcess32Entry_stays covers.sends ..
  cases first with
  | false =>
      refine covers.call rfl trivial rfl fun present _ => ?_
      cases present with
      | false => exact sendProcess32Entry_stays covers.sends false 0 []
      | true => exact takes rfl fun _ => rfl
  | true =>
      refine covers.call rfl trivial rfl fun present _ => ?_
      cases present with
      | false => exact sendProcess32Entry_stays covers.sends false 0 []
      | true => exact covers.call rfl trivial rfl fun _ _ => takes rfl fun _ => rfl

theorem iterateModulesNext_stays (first : Bool)
    (covers : Covers footprint (if first then .module32First else .module32Next))
    (handle : CE_HANDLE) : (iterateModulesNext first handle).Stays footprint := by
  have takes (makes : (Op.state (.nextMemoryRegion handle)).madeBy
        (if first then .module32First else .module32Next))
      (reads : ∀ entry, (Op.readMemoryRegion entry).madeBy
        (if first then .module32First else .module32Next)) :
      (invoke (.state (.nextMemoryRegion handle)) >>= sendModuleAt).Stays footprint := by
    refine covers.call makes trivial rfl fun found _ => ?_
    cases found with
    | none => exact sendModule32Entry_stays covers.sends false 0 0 0 0 []
    | some entry =>
        exact covers.call (reads entry) trivial rfl fun region _ =>
          sendModuleRegion_stays covers.sends region
  cases first with
  | false =>
      refine covers.call rfl trivial rfl fun present _ => ?_
      cases present with
      | false => exact sendModule32Entry_stays covers.sends false 0 0 0 0 []
      | true => exact takes rfl fun _ => rfl
  | true =>
      refine covers.call rfl trivial rfl fun present _ => ?_
      cases present with
      | false => exact sendModule32Entry_stays covers.sends false 0 0 0 0 []
      | true => exact covers.call rfl trivial rfl fun _ _ => takes rfl fun _ => rfl

theorem closeHandle_stays (covers : Covers footprint .closeHandle) (handle : CE_HANDLE) :
    (closeHandle handle).Stays footprint :=
  covers.call rfl trivial rfl fun _ _ => send_stays covers.sends _

theorem readProcessMemory_stays (covers : Covers footprint .readProcessMemory)
    (handle : CE_HANDLE) (address : UInt64) (size : UInt32) (compress : UInt8) :
    (readProcessMemory handle address size compress).Stays footprint := by
  have refused := answers_stays covers.sends 0 true
  have allocates : (Op.newCharArray size.toNat).madeBy .readProcessMemory := by
    simp [Op.madeBy]
  refine Program.stays_ite (fun _ => trivial) fun _ => covers.checks rfl ?_
  refine Program.stays_ite (fun _ => refused) fun _ => Program.stays_ite (fun _ => refused)
    fun _ => covers.call allocates trivial rfl fun contents _ => ?_
  refine covers.call rfl trivial rfl fun processID _ => covers.call rfl trivial rfl
    fun result _ => Program.stays_ite (fun _ => refused) fun _ => ?_
  exact (send_stays covers.sends _).bind fun _ => (sendBytes_stays covers.sends _).bind
    fun _ => trivial

theorem writeProcessMemory_stays (covers : Covers footprint .writeProcessMemory)
    (handle : CE_HANDLE) (address : UInt64) (size : Int32) (buffer : List UInt8) :
    (writeProcessMemory handle address size buffer).Stays footprint := by
  refine covers.checks rfl (covers.call rfl trivial rfl fun processID _ =>
    covers.call rfl trivial rfl fun written _ => ?_)
  exact Program.stays_ite (fun _ => answers_stays covers.sends 0 false) fun _ =>
    answers_stays covers.sends _ _

theorem regionInfo_stays (named : Bool)
    (covers : Covers footprint (if named then .getRegionInfo else .virtualQueryEx))
    (handle : CE_HANDLE) (address : UInt64) :
    (regionInfo named handle address).Stays footprint := by
  have queries : (Op.state (.getProcessID handle)).madeBy
      (if named then .getRegionInfo else .virtualQueryEx) := by
    cases named <;> rfl
  have takes (processID : Int32) : (Op.getModuleSnapshot processID).madeBy
      (if named then .getRegionInfo else .virtualQueryEx) := by
    cases named <;> rfl
  refine covers.checks queries (Program.stays_ite (fun _ => ?_) fun _ => ?_)
  · exact (sendBytes_stays covers.sends _).bind fun _ => trivial
  · refine covers.call queries trivial rfl fun processID _ => covers.call (takes processID) trivial
      rfl fun regions _ => (sendBytes_stays covers.sends _).bind fun _ => ?_
    cases named with
    | false => exact trivial
    | true =>
        refine (send_stays covers.sends _).bind fun _ => Program.stays_ite (fun _ => ?_)
          fun _ => trivial
        exact (sendBytes_stays covers.sends _).bind fun _ => trivial

theorem virtualQueryExFull_stays (covers : Covers footprint .virtualQueryExFull)
    (handle : CE_HANDLE) (flags : UInt8) :
    (virtualQueryExFull handle flags).Stays footprint := by
  refine covers.checks rfl (covers.call rfl trivial rfl fun processID _ =>
    covers.call rfl trivial rfl fun regions _ => (send_stays covers.sends _).bind fun _ => ?_)
  exact (Program.Stays.forM fun region _ => sendBytes_stays covers.sends _).bind fun _ => trivial

theorem getArchitecture_stays (covers : Covers footprint .getArchitecture) (handle : CE_HANDLE) :
    (getArchitecture handle).Stays footprint :=
  covers.checks rfl (covers.call rfl trivial rfl fun _ _ => covers.call rfl trivial rfl
    fun _ _ => (send_stays covers.sends _).bind fun _ => trivial)

theorem selectHandle_stays (polls : ∀ op, op.polls → footprint.allows op)
    (ignores : ∀ op, footprint.ignores op → op.sends) : selectHandle.Stays footprint := by
  have poll {Value : Type} {op : Op} {rest : op.Response → Handler Value} (made : op.polls)
      (heard : op.sends = false) (each : ∀ response, (rest response).Stays footprint) :
      (invoke op >>= rest).Stays footprint :=
    stays_call (polls op made) (fun ignored => Bool.false_ne_true
      (heard.symm.trans (ignores op ignored))) fun response _ => each response
  have rounds (count : Nat) (handle : CE_HANDLE) : (pollHandle count handle).Stays footprint := by
    induction count generalizing handle with
    | zero => exact trivial
    | succ count ih =>
        refine poll rfl rfl fun result => Program.stays_ite (fun _ => trivial) fun _ => ?_
        refine poll rfl rfl fun late => Program.stays_ite (fun _ => trivial) fun _ => ?_
        exact poll rfl rfl fun _ => ih _
  refine (rounds _ _).bind fun handle => poll rfl rfl fun error => ?_
  exact Program.stays_ite (fun _ => poll rfl rfl fun _ => trivial) fun _ => trivial

end Bodies

end Client

/-- The commands that declare the length of an array. -/
def Command.declaresLength : Command → Bool
  | writeProcessMemory | getSymbolListFromFile | setConnectionName => true
  | _ => false

/-- Room for the fields as well. -/
structure CoversAll (footprint : Footprint Op Op.Response) (command : Command) : Prop
    extends Covers footprint command where
  receives : ∀ size, footprint.allows (.recv size)
  allocates : command.declaresLength → ∀ size, footprint.allows (.newCharArray size)
  polls : command = .getArchitecture → ∀ op, op.polls → footprint.allows op

theorem coversAll_within {allowed : Op → Prop} {command : Command}
    (made : ∀ op, op.madeBy command → allowed op) (receives : ∀ size, allowed (.recv size))
    (allocates : command.declaresLength → ∀ size, allowed (.newCharArray size))
    (polls : command = .getArchitecture → ∀ op, op.polls → allowed op) :
    CoversAll (.within allowed) command :=
  ⟨covers_within made, receives, allocates, polls⟩

open Client in
/-- The one walk over the handlers: what a footprint has room for, a handler
keeps to. -/
theorem Client.handle_stays {footprint : Footprint Op Op.Response} {command : Command}
    (covers : CoversAll footprint command) : (handle command).Stays footprint := by
  have sends := covers.sends
  have field {Value : Type} {op : Op} {rest : op.Response → Handler Value}
      (allowed : footprint.allows op) (heard : op.sends = false)
      (each : ∀ response, (rest response).Stays footprint) :
      (invoke op >>= rest).Stays footprint :=
    stays_call allowed (fun ignored => Bool.false_ne_true
      (heard.symm.trans (covers.ignores op ignored))) fun response _ => each response
  have reads {Value T : Type} [Word T] {rest : T → Handler Value}
      (each : ∀ value, (rest value).Stays footprint) : (read T >>= rest).Stays footprint :=
    field (covers.receives _) rfl fun _ => each _
  cases command with
  | closeConnection | terminateServer => exact trivial
  | getVersion =>
      exact keepOpen_stays ((sendBytes_stays sends _).bind fun _ => sendBytes_stays sends _)
  | getABI | getOptions => exact keepOpen_stays (send_stays sends _)
  | openProcess => exact keepOpen_stays (reads fun pid => openProcess_stays covers.toCovers pid)
  | createToolhelp32Snapshot =>
      exact keepOpen_stays (reads fun flags => reads fun procId =>
        toolHelp32Snapshot_stays covers.toCovers flags procId)
  | createToolhelp32SnapshotEx =>
      exact keepOpen_stays (reads fun flags => reads fun procId =>
        toolHelp32SnapshotEx_stays covers.toCovers flags procId)
  | process32First =>
      exact keepOpen_stays (reads fun handle =>
        iterateProcessesNext_stays true covers.toCovers handle)
  | process32Next =>
      exact keepOpen_stays (reads fun handle =>
        iterateProcessesNext_stays false covers.toCovers handle)
  | module32First =>
      exact keepOpen_stays (reads fun handle =>
        iterateModulesNext_stays true covers.toCovers handle)
  | module32Next =>
      exact keepOpen_stays (reads fun handle =>
        iterateModulesNext_stays false covers.toCovers handle)
  | closeHandle =>
      exact keepOpen_stays (reads fun handle => closeHandle_stays covers.toCovers handle)
  | startDebug => exact keepOpen_stays (reads fun handle => send_stays sends handle)
  | getArchitecture =>
      exact (selectHandle_stays (covers.polls rfl) covers.ignores).bind fun handle =>
        getArchitecture_stays covers.toCovers handle
  | virtualQueryEx =>
      exact reads fun handle => reads fun address =>
        regionInfo_stays false covers.toCovers handle address
  | getRegionInfo =>
      exact reads fun handle => reads fun address =>
        regionInfo_stays true covers.toCovers handle address
  | virtualQueryExFull =>
      exact reads fun handle => reads fun flags =>
        virtualQueryExFull_stays covers.toCovers handle flags
  | readProcessMemory =>
      exact reads fun handle => reads fun address => reads fun size => reads fun compress =>
        readProcessMemory_stays covers.toCovers handle address size compress
  | writeProcessMemory =>
      exact reads fun handle => reads fun address => reads fun size =>
        field (covers.allocates rfl _) rfl fun contents =>
        field (covers.receives _) rfl fun result =>
          writeProcessMemory_stays covers.toCovers handle address size _
  | getSymbolListFromFile =>
      exact keepOpen_stays (reads fun size => field (covers.allocates rfl _) rfl fun buffer =>
        field (covers.receives _) rfl fun result => send_stays sends _)
  | setConnectionName =>
      exact keepOpen_stays (reads fun size => field (covers.allocates rfl _) rfl fun buffer =>
        field (covers.receives _) rfl fun result => covers.toCovers.call rfl trivial rfl
          fun _ _ => trivial)

section Commands

open Client

variable {Value : Type} {handler : Handler Value} {command : Command} {op : Op}

theorem inert_of_reports (uses : handler.Uses Op.Reports) : handler.Uses Op.Inert :=
  uses.mono fun op reports => by cases op <;> simp_all [Op.Reports, Op.Inert]

theorem Client.toolHelp32Snapshot_reports {flags : UInt32} (procId : UInt32)
    (unknown : ¬(flags &&& TH32CS_SNAPPROCESS ≠ 0 ∨ flags &&& TH32CS_SNAPMODULE ≠ 0)) :
    (toolHelp32Snapshot flags procId).Uses Op.Reports := by
  obtain ⟨noProcesses, noModules⟩ := not_or.mp unknown
  rw [toolHelp32Snapshot, storeTlHelp32Snapshot, if_neg noProcesses, if_neg noModules]
  exact ⟨trivial, fun _ => trivial⟩

theorem Client.toolHelp32SnapshotEx_reports {flags : UInt32} (procId : UInt32)
    (listed : flags &&& TH32CS_SNAPTHREAD ≠ 0 ∨ flags &&& TH32CS_SNAPMODULE ≠ 0) :
    (toolHelp32SnapshotEx flags procId).Uses Op.Reports := by
  refine (Program.uses_ite _ _).mpr ⟨fun _ => ⟨trivial, fun threads => ?_⟩, fun unthreaded => ?_⟩
  · refine Program.Stays.uses ((send_stays (fun _ => trivial) _).bind fun _ => ?_)
    exact Program.Stays.forM fun thread _ => send_stays (fun _ => trivial) _
  · rw [if_pos (listed.resolve_left unthreaded)]
    exact ⟨trivial, fun regions => (sendModuleList_stays (fun _ => trivial) regions).uses⟩

theorem serves_of_madeBy (made : op.madeBy command) : op.Serves := by
  cases op <;> simp_all [Op.madeBy, Op.Serves, Op.Reports]

def Command.changes : Command → Bool
  | openProcess | createToolhelp32Snapshot | createToolhelp32SnapshotEx | process32First
  | process32Next | module32First | module32Next | closeHandle | writeProcessMemory => true
  | _ => false

theorem inert_of_madeBy (made : op.madeBy command) (inert : command.changes = false) :
    op.Inert := by
  cases op with
  | memoryWrite =>
      obtain rfl := eq_of_beq made
      cases inert
  | close => cases made
  | state op =>
      cases op <;> first
        | trivial
        | (cases command <;> first
            | exact absurd inert (by decide)
            | exact absurd made Bool.false_ne_true)
  | _ => trivial

theorem inert_of_polls (polls : op.polls) : op.Inert := by
  cases op with
  | state op => cases op <;> trivial
  | memoryWrite | close => cases polls
  | _ => trivial

theorem Client.handle_inert (inert : command.changes = false) :
    (handle command).Uses Op.Inert :=
  (handle_stays (coversAll_within (fun _ made => inert_of_madeBy made inert) (fun _ => trivial)
    (fun _ _ => trivial) fun _ _ => inert_of_polls)).uses

theorem Client.sendProcessAt_inert (entry : Option EntryPointer) :
    (sendProcessAt entry).Uses Op.Inert := by
  apply Program.Stays.uses
  cases entry with
  | none => exact sendProcess32Entry_stays (fun _ => trivial) false 0 []
  | some entry =>
      exact stays_call trivial id fun _ _ => sendProcess32Entry_stays (fun _ => trivial) ..

theorem Client.sendModuleAt_inert (entry : Option EntryPointer) :
    (sendModuleAt entry).Uses Op.Inert := by
  apply Program.Stays.uses
  cases entry with
  | none => exact sendModule32Entry_stays (fun _ => trivial) false 0 0 0 0 []
  | some entry =>
      exact stays_call trivial id fun region _ => sendModuleRegion_stays (fun _ => trivial) region

theorem Client.handle_keepsOpen (command : Command) : (handle command).Uses (· ≠ .close) := by
  refine (handle_stays (coversAll_within (fun op made => ?_) (fun _ => nofun) (fun _ _ => nofun)
    fun _ op polled => ?_)).uses
  · rintro rfl
    cases made
  · rintro rfl
    cases polled

theorem Client.dispatchCommand_keepsOpen (command : UInt8) :
    (dispatchCommand command).Uses (· ≠ .close) := by
  unfold dispatchCommand
  split
  · exact handle_keepsOpen _
  · exact trivial

end Commands

end CeServer
