import CeServer.Connection

/-!
Well-formed requests, their encodings and what serving one amounts to once its
own field values are known.
-/

namespace CeServer

open LittleEndian Interaction

abbrev Body (bound : Nat) := { bytes : List UInt8 // bytes.length < bound }

inductive Request
  | getVersion
  | closeConnection
  | terminateServer
  | openProcess (pid : UInt32)
  | createToolhelp32Snapshot (flags procId : UInt32)
  | process32First (handle : CE_HANDLE)
  | process32Next (handle : CE_HANDLE)
  | closeHandle (handle : CE_HANDLE)
  | virtualQueryEx (handle : CE_HANDLE) (address : UInt64)
  | readProcessMemory (handle : CE_HANDLE) (address : UInt64) (size : UInt32) (compress : UInt8)
  | writeProcessMemory (handle : CE_HANDLE) (address : UInt64) (contents : Body (2 ^ 31))
  | startDebug (handle : CE_HANDLE)
  | getArchitecture (handle : CE_HANDLE)
  | module32First (handle : CE_HANDLE)
  | module32Next (handle : CE_HANDLE)
  | getSymbolListFromFile (symbolPath : Body (2 ^ 31))
  | virtualQueryExFull (handle : CE_HANDLE) (flags : UInt8)
  | getRegionInfo (handle : CE_HANDLE) (address : UInt64)
  | getABI
  | setConnectionName (name : Body (2 ^ 32 - 1))
  | createToolhelp32SnapshotEx (flags procId : UInt32)
  | getOptions

namespace Request

def command : Request → Command
  | getVersion => .getVersion
  | closeConnection => .closeConnection
  | terminateServer => .terminateServer
  | openProcess _ => .openProcess
  | createToolhelp32Snapshot .. => .createToolhelp32Snapshot
  | process32First _ => .process32First
  | process32Next _ => .process32Next
  | closeHandle _ => .closeHandle
  | virtualQueryEx .. => .virtualQueryEx
  | readProcessMemory .. => .readProcessMemory
  | writeProcessMemory .. => .writeProcessMemory
  | startDebug _ => .startDebug
  | getArchitecture _ => .getArchitecture
  | module32First _ => .module32First
  | module32Next _ => .module32Next
  | getSymbolListFromFile _ => .getSymbolListFromFile
  | virtualQueryExFull .. => .virtualQueryExFull
  | getRegionInfo .. => .getRegionInfo
  | getABI => .getABI
  | setConnectionName _ => .setConnectionName
  | createToolhelp32SnapshotEx .. => .createToolhelp32SnapshotEx
  | getOptions => .getOptions

def payload : Request → List UInt8
  | getVersion | closeConnection | terminateServer | getABI | getOptions => []
  | openProcess pid => Word.toBytes pid
  | createToolhelp32Snapshot flags procId | createToolhelp32SnapshotEx flags procId =>
      Word.toBytes flags ++ Word.toBytes procId
  | process32First handle | process32Next handle | closeHandle handle | startDebug handle
  | getArchitecture handle | module32First handle | module32Next handle => Word.toBytes handle
  | virtualQueryEx handle address | getRegionInfo handle address =>
      Word.toBytes handle ++ Word.toBytes address
  | readProcessMemory handle address size compress =>
      Word.toBytes handle ++ (Word.toBytes address ++ (Word.toBytes size ++ Word.toBytes compress))
  | writeProcessMemory handle address contents =>
      Word.toBytes handle ++ (Word.toBytes address ++
        (Word.toBytes (Int32.ofNat contents.val.length) ++ contents.val))
  | getSymbolListFromFile symbolPath =>
      Word.toBytes (Int32.ofNat symbolPath.val.length) ++ symbolPath.val
  | virtualQueryExFull handle flags => Word.toBytes handle ++ Word.toBytes flags
  | setConnectionName name => Word.toBytes (UInt32.ofNat name.val.length) ++ name.val

def encode (request : Request) : List UInt8 := request.command.code :: request.payload

def encodeAll (requests : List Request) : List UInt8 := requests.flatMap encode

/-- Serving a request on its own field values, without reading the socket. A
GETARCHITECTURE polls for its handle, so here it stands for its own handler. -/
def perform : Request → Handler Bool
  | getVersion => Client.keepOpen Client.handleCommandGetVersion
  | closeConnection => return false
  | terminateServer => return false
  | openProcess pid => Client.keepOpen (Client.openProcess pid)
  | createToolhelp32Snapshot flags procId =>
      Client.keepOpen (Client.toolHelp32Snapshot flags procId)
  | process32First handle => Client.keepOpen (Client.iterateProcessesNext true handle)
  | process32Next handle => Client.keepOpen (Client.iterateProcessesNext false handle)
  | closeHandle handle => Client.keepOpen (Client.closeHandle handle)
  | virtualQueryEx handle address => Client.regionInfo false handle address
  | readProcessMemory handle address size compress =>
      Client.readProcessMemory handle address size compress
  | writeProcessMemory handle address contents => do
      let _ ← invoke (.newCharArray contents.val.length)
      Client.writeProcessMemory handle address (Int32.ofNat contents.val.length) contents.val
  | startDebug handle => Client.keepOpen (Client.startDebug handle)
  | getArchitecture _ => Client.handleCommandGetArchitecture
  | module32First handle => Client.keepOpen (Client.iterateModulesNext true handle)
  | module32Next handle => Client.keepOpen (Client.iterateModulesNext false handle)
  | getSymbolListFromFile symbolPath => Client.keepOpen do
      let _ ← invoke (.newCharArray symbolPath.val.length)
      send (0 : UInt64)
  | virtualQueryExFull handle flags => Client.virtualQueryExFull handle flags
  | getRegionInfo handle address => Client.regionInfo true handle address
  | getABI => Client.keepOpen Client.handleCommandGetABI
  | setConnectionName name => Client.keepOpen do
      let _ ← invoke (.newCharArray (name.val.length + 1))
      invoke (.setConnectionName (cString (name.val ++ [0])))
  | createToolhelp32SnapshotEx flags procId =>
      Client.keepOpen (Client.toolHelp32SnapshotEx flags procId)
  | getOptions => Client.keepOpen Client.handleCommandGetOptions

/-- The commands whose fields are all read with MSG_WAITALL. -/
def Framed (request : Request) : Prop := request.command ≠ .getArchitecture

end Request

variable {Outside : Type} {env : Environment Outside}

def Op.takesIn : Op → Bool
  | .recv _ => true
  | .recvNonBlocking _ => true
  | .stopRequested => true
  | _ => false

def effects (trace : List (Event Op Op.Response)) : List (Event Op Op.Response) :=
  trace.filter fun event => !event.op.takesIn

@[simp] theorem effects_nil : effects [] = [] := rfl

@[simp] theorem effects_append (first second : List (Event Op Op.Response)) :
    effects (first ++ second) = effects first ++ effects second :=
  List.filter_append ..

/-- Two runs that agree on everything but the calls that take in. -/
structure SameEffect {Value : Type} (first second : Outcome Op Op.Response (World Outside) Value) :
    Prop where
  world : first.world = second.world
  value : first.value = second.value
  effects : effects first.trace = effects second.trace

theorem SameEffect.refl {Value : Type} (outcome : Outcome Op Op.Response (World Outside) Value) :
    SameEffect outcome outcome :=
  ⟨rfl, rfl, rfl⟩

theorem SameEffect.trans {Value : Type}
    {first second third : Outcome Op Op.Response (World Outside) Value}
    (before : SameEffect first second) (after : SameEffect second third) :
    SameEffect first third :=
  ⟨before.world.trans after.world, before.value.trans after.value,
    before.effects.trans after.effects⟩

theorem SameEffect.afterInput {Value : Type} {past : List (Event Op Op.Response)}
    {first second : Outcome Op Op.Response (World Outside) Value} (same : SameEffect first second)
    (silent : CeServer.effects past = []) : SameEffect (first.after past) second :=
  ⟨same.world, same.value, by simp [silent, same.effects]⟩

theorem SameEffect.afterBoth {Value : Type} {past : List (Event Op Op.Response)}
    {first second : Outcome Op Op.Response (World Outside) Value} (same : SameEffect first second) :
    SameEffect (first.after past) (second.after past) :=
  ⟨same.world, same.value, by simp [same.effects]⟩

section Reading

variable {Result : Type}

/-- The typed read at the front of a stream, whether or not all its bytes are there. -/
theorem run_read (T : Type) [Word T] (rest : T → Handler Result) (world : World Outside) :
    (read T >>= rest).run (answer env) world =
      ((rest (Word.ofBytes (world.input.take (Word.width T)))).run (answer env)
        { world with input := world.input.drop (Word.width T) }).after
        [⟨.recv (Word.width T), (LinuxSocketWrapper.recv (Word.width T) world).1⟩] := by
  simp only [read, invoke, Program.call_bind, Program.ret_bind, Program.pure_eq]
  rw [Program.run_call_of_answer (LinuxSocketWrapper.recv (Word.width T) world).1
    (LinuxSocketWrapper.recv (Word.width T) world).2 rfl]
  rfl

theorem run_readBuffer (buffer : List UInt8) (size : Nat) (rest : List UInt8 → Handler Result)
    (world : World Outside) :
    (readBuffer buffer size >>= rest).run (answer env) world =
      ((rest (world.input.take size ++ buffer.drop (world.input.take size).length)).run
        (answer env) { world with input := world.input.drop size }).after
        [⟨.recv size, (LinuxSocketWrapper.recv size world).1⟩] := by
  simp only [readBuffer, invoke, Program.call_bind, Program.ret_bind, Program.pure_eq]
  rw [Program.run_call_of_answer (LinuxSocketWrapper.recv size world).1
    (LinuxSocketWrapper.recv size world).2 rfl]
  rfl

theorem take_toBytes {T : Type} [Word T] (value : T) (rest : List UInt8) :
    (Word.toBytes value ++ rest).take (Word.width T) = Word.toBytes value := by
  rw [← Word.length_toBytes value, List.take_left']
  rfl

theorem drop_toBytes {T : Type} [Word T] (value : T) (rest : List UInt8) :
    (Word.toBytes value ++ rest).drop (Word.width T) = rest := by
  rw [← Word.length_toBytes value, List.drop_left']
  rfl

theorem run_read_complete {T : Type} [Word T] (value : T) (stream : List UInt8)
    (rest : T → Handler Result) (world : World Outside)
    {target : Outcome Op Op.Response (World Outside) Result}
    (continued : SameEffect ((rest value).run (answer env) { world with input := stream }) target) :
    SameEffect ((read T >>= rest).run (answer env)
      { world with input := Word.toBytes value ++ stream }) target := by
  rw [run_read]
  simp only [take_toBytes, drop_toBytes, Word.ofBytes_toBytes]
  exact continued.afterInput rfl

end Reading

end CeServer
