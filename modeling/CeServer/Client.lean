import CeServer.Library.Program
import CeServer.ClientState

/-!
`Client`: the request handlers and `dispatchCommand`, as programs over the
calls they make on the socket, the shared state, `Memory`, the clock and the heap.
-/

namespace CeServer

open LittleEndian Interaction

inductive Op
  | recv (size : Nat)
  | recvNonBlocking (size : Nat)
  | send (bytes : List UInt8)
  | lastError
  | close
  | newCharArray (size : Int)
  | pastTimeout
  | sleep
  | state (op : StateOp)
  | readProcessInfo (entry : EntryPointer)
  | readMemoryRegion (entry : EntryPointer)
  | getProcessSnapshot
  | getModuleSnapshot (processID : Int32)
  | getThreadSnapshot (processID : Int32)
  | memoryRead (processID : Int32) (address size : UInt64)
  | memoryWrite (processID : Int32) (address : UInt64) (bytes : List UInt8)
  | getMemoryModel (processID : Int32)
  | setConnectionName (name : List UInt8)
  | stopRequested
  deriving DecidableEq

/-- A receive answers with the result of the call and the bytes it left at the
front of the caller's buffer, `new char[]` with the indeterminate contents of
the array, `Memory::read` with its count and the bytes it stored. -/
abbrev Op.Response : Op → Type
  | recv _ => Int × List UInt8
  | recvNonBlocking _ => Int × List UInt8
  | send _ => Int
  | lastError => Int
  | close => Unit
  | newCharArray _ => List UInt8
  | pastTimeout => Bool
  | sleep => Unit
  | state op => op.Response
  | readProcessInfo _ => ProcessInfo
  | readMemoryRegion _ => MemoryRegion
  | getProcessSnapshot => List ProcessInfo
  | getModuleSnapshot _ => List MemoryRegion
  | getThreadSnapshot _ => List ThreadInfo
  | memoryRead .. => UInt64 × List UInt8
  | memoryWrite .. => UInt64
  | getMemoryModel _ => MemoryModel
  | setConnectionName _ => Unit
  | stopRequested => Bool

/-- The calls that return when the peer has sent or taken something. -/
def Op.awaitsPeer : Op → Bool
  | recv _ | send _ => true
  | _ => false

abbrev Handler := Program Op Op.Response

def invoke (op : Op) : Handler op.Response := .call op .ret

/-- `Client::read<T>`: the bytes that did not arrive stay zero. -/
def read (T : Type) [Word T] : Handler T := do
  let (_, bytes) ← invoke (.recv (Word.width T))
  return Word.ofBytes bytes

/-- `Client::read` into a buffer, whose other bytes keep what they held. -/
def readBuffer (buffer : List UInt8) (size : Nat) : Handler (List UInt8) := do
  let (_, bytes) ← invoke (.recv size)
  return bytes ++ buffer.drop bytes.length

def sendBytes (bytes : List UInt8) : Handler Unit := do
  let _ ← invoke (.send bytes)

def send {T : Type} [Word T] (data : T) : Handler Unit := sendBytes (Word.toBytes data)

/-- The text a `char *` denotes: the bytes before the first NUL. -/
def cString (bytes : List UInt8) : List UInt8 := bytes.takeWhile (· ≠ 0)

namespace Client

def CE_SERVER_VERSION : Int32 := 6

def VERSION_STRING : List UInt8 := asciiBytes "CHEATENGINE Network 2.3"

def storeOpenProcess (processID : Int32) : Handler CE_HANDLE := do
  let handle ← invoke (.state .generateHandle)
  invoke (.state (.storeOpenProcess processID handle))
  return handle

def storeProcessSnapshot (snapshot : List ProcessInfo) : Handler CE_HANDLE := do
  let handle ← invoke (.state .generateHandle)
  invoke (.state (.storeProcessSnapshot snapshot handle))
  return handle

def storeModuleSnapshot (snapshot : List MemoryRegion) : Handler CE_HANDLE := do
  let handle ← invoke (.state .generateHandle)
  invoke (.state (.storeModuleSnapshot snapshot handle))
  return handle

def sendProcess32Entry (hasNext : Bool) (processID : Int32) (name : List UInt8) :
    Handler Unit := do
  sendBytes { result := if hasNext then 1 else 0, pid := processID,
              processnamesize := Int32.ofNat name.length : CeProcessEntry }.toBytes
  if !name.isEmpty then
    sendBytes name

def sendModule32Entry (hasNext : Bool) (moduleBase : UInt64) (modulePart : Int32)
    (memoryRegionSize : Int32) (_fileOffset : UInt32) (name : List UInt8) : Handler Unit := do
  sendBytes { result := if hasNext then 1 else 0, modulebase := moduleBase,
              modulepart := modulePart, modulesize := memoryRegionSize,
              modulenamesize := Int32.ofNat name.length : CeModuleEntry }.toBytes
  if !name.isEmpty then
    sendBytes name

def sendThread32Entry (threadID : Int32) : Handler Unit := send threadID

def sendModuleRegion (region : MemoryRegion) : Handler Unit :=
  sendModule32Entry true region.startAddr region.part region.regionSize region.fileOffset
    region.name

/-- The handle stays 0 when no known flag is set. -/
def storeTlHelp32Snapshot (flags procId : UInt32) : Handler CE_HANDLE := do
  if flags &&& TH32CS_SNAPPROCESS ≠ 0 then
    let snapshot ← invoke .getProcessSnapshot
    storeProcessSnapshot snapshot
  else if flags &&& TH32CS_SNAPMODULE ≠ 0 then
    let snapshot ← invoke (.getModuleSnapshot procId.toInt32)
    storeModuleSnapshot snapshot
  else
    return 0

def toolHelp32Snapshot (flags procId : UInt32) : Handler Unit := do
  let handle ← storeTlHelp32Snapshot flags procId
  send handle

def handleCommandToolHelp32Snapshot : Handler Unit := do
  let flags ← read UInt32
  let procId ← read UInt32
  toolHelp32Snapshot flags procId

def toolHelp32SnapshotEx (flags procId : UInt32) : Handler Unit := do
  if flags &&& TH32CS_SNAPTHREAD ≠ 0 then
    let snapshot ← invoke (.getThreadSnapshot procId.toInt32)
    send (Int32.ofNat snapshot.length)
    snapshot.forM fun thread => sendThread32Entry thread.dwTID.toInt32
  else if flags &&& TH32CS_SNAPMODULE ≠ 0 then
    let snapshot ← invoke (.getModuleSnapshot procId.toInt32)
    snapshot.forM sendModuleRegion
    sendModule32Entry false 0 0 0 0 []
  else
    let snapshot ← invoke .getProcessSnapshot
    let handle ← storeProcessSnapshot snapshot
    send handle

def handleCommandToolHelp32SnapshotEx : Handler Unit := do
  let flags ← read UInt32
  let procId ← read UInt32
  toolHelp32SnapshotEx flags procId

/-- The entry is read through the pointer after the mutex was released. -/
def sendProcessAt : Option EntryPointer → Handler Unit
  | none => sendProcess32Entry false 0 []
  | some entry => do
      let procInfo ← invoke (.readProcessInfo entry)
      sendProcess32Entry true procInfo.pid (cString procInfo.name)

/-- `first` tells PROCESS32FIRST from PROCESS32NEXT. -/
def iterateProcessesNext (first : Bool) (handle : CE_HANDLE) : Handler Unit := do
  if !(← invoke (.state (.containsProcessInfoHandle handle))) then
    sendProcess32Entry false 0 []
  else
    if first then
      invoke (.state (.resetProcessIterator handle))
    let procInfo ← invoke (.state (.nextProcessInfo handle))
    sendProcessAt procInfo

def handleCommandIterateProcessesNext (first : Bool) : Handler Unit := do
  let handle ← read CE_HANDLE
  iterateProcessesNext first handle

def sendModuleAt : Option EntryPointer → Handler Unit
  | none => sendModule32Entry false 0 0 0 0 []
  | some entry => do
      let memoryRegion ← invoke (.readMemoryRegion entry)
      sendModuleRegion memoryRegion

def iterateModulesNext (first : Bool) (handle : CE_HANDLE) : Handler Unit := do
  if !(← invoke (.state (.containsMemoryRegionHandle handle))) then
    sendModule32Entry false 0 0 0 0 []
  else
    if first then
      invoke (.state (.resetModuleIterator handle))
    let memoryRegion ← invoke (.state (.nextMemoryRegion handle))
    sendModuleAt memoryRegion

def handleCommandIterateModulesNext (first : Bool) : Handler Unit := do
  let handle ← read CE_HANDLE
  iterateModulesNext first handle

def closeHandle (handle : CE_HANDLE) : Handler Unit := do
  invoke (.state (.closeHandle handle))
  send (1 : Int32)

def handleCommandCloseHandle : Handler Unit := do
  let handle ← read CE_HANDLE
  closeHandle handle

def handleCommandGetVersion : Handler Unit := do
  sendBytes { version := CE_SERVER_VERSION,
              stringsize := UInt8.ofNat VERSION_STRING.length : CeVersion }.toBytes
  sendBytes VERSION_STRING

def handleCommandGetABI : Handler Unit := send ABI_WINDOWS

/-- `new char[nameLength + 1]` adds in 32 unsigned bits. -/
def handleCommandSetConnectionName : Handler Unit := do
  let nameLength ← read UInt32
  let name ← invoke (.newCharArray (nameLength + 1).toNat)
  let name ← readBuffer name nameLength.toNat
  -- outside of the empty array if the sum has wrapped: `SizedCommand.setName` tells
  invoke (.setConnectionName (cString (name.set nameLength.toNat 0)))

def openProcess (pid : UInt32) : Handler Unit := do
  let handle ← storeOpenProcess pid.toInt32
  send handle

def handleCommandOpenProcess : Handler Unit := do
  let pid ← read UInt32
  openProcess pid

def readProcessMemory (handle : CE_HANDLE) (address : UInt64) (size : UInt32) (compress : UInt8) :
    Handler Bool := do
  if compress ≠ 0 then
    return false
  else if !(← invoke (.state (.containsProcessIDHandle handle))) then
    return false
  else if address ≤ 0 then
    send (0 : Int32)
    return true
  else if size ≤ 0 then
    send (0 : Int32)
    return true
  else
    let memoryContents ← invoke (.newCharArray size.toNat)
    let processID ← invoke (.state (.getProcessID handle))
    let (count, contents) ← invoke (.memoryRead processID address size.toUInt64)
    if count ≤ 0 then
      send (0 : Int32)
      return true
    else
      send count.toUInt32.toInt32
      sendBytes ((contents ++ memoryContents.drop contents.length).take count.toNat)
      return true

def handleCommandReadProcessMemory : Handler Bool := do
  let handle ← read CE_HANDLE
  let address ← read UInt64
  let size ← read UInt32
  let compress ← read UInt8
  readProcessMemory handle address size compress

/-- `size` is the declared length; `written` and `size` meet as `size_t`, so
`written < 0` never holds. -/
def writeProcessMemory (handle : CE_HANDLE) (address : UInt64) (size : Int32)
    (buffer : List UInt8) : Handler Bool := do
  if !(← invoke (.state (.containsProcessIDHandle handle))) then
    return false
  else
    let processID ← invoke (.state (.getProcessID handle))
    let written ← invoke (.memoryWrite processID address buffer)
    if written < 0 then
      send (0 : Int32)
      return false
    else
      send written.toUInt32.toInt32
      return written == size.toInt64.toUInt64

def handleCommandWriteProcessMemory : Handler Bool := do
  let handle ← read CE_HANDLE
  let address ← read UInt64
  let size ← read Int32
  let buffer ← invoke (.newCharArray size.toInt)
  let buffer ← readBuffer buffer size.toInt.toNat
  writeProcessMemory handle address size buffer

/-- `errno`'s value for an operation that would block, on Linux. -/
def EWOULDBLOCK : Int := 11

/-- Each round but the last sleeps 100 ms of the 1000 ms the timeout allows. -/
def pollRounds : Nat := 11

/-- The `do ... while` of `handleCommandGetArchitecture`: the bytes a poll
delivers overwrite the front of the handle variable. -/
def pollHandle : Nat → CE_HANDLE → Handler CE_HANDLE
  | 0, handle => return handle
  | rounds + 1, handle => do
      let (result, bytes) ← invoke (.recvNonBlocking (Word.width CE_HANDLE))
      let handle : CE_HANDLE := Word.ofBytes (bytes ++ (Word.toBytes handle).drop bytes.length)
      if result > 0 then
        return handle
      else if ← invoke .pastTimeout then
        return handle
      else
        invoke .sleep
        pollHandle rounds handle

def selectHandle : Handler CE_HANDLE := do
  let handle ← pollHandle pollRounds (-1)
  if (← invoke .lastError) == EWOULDBLOCK then
    invoke (.state .getProcessHandleLegacyCE)
  else
    return handle

def getArchitectureFromMemoryModel : MemoryModel → UInt8
  | .x86 => 0
  | .x86pae => 0
  | .x64 => 1
  | .arm64 => 3
  | .unknown => 0xFF
  | .na => 0xFF

def getArchitecture (handle : CE_HANDLE) : Handler Bool := do
  if !(← invoke (.state (.containsProcessIDHandle handle))) then
    return false
  else
    let processID ← invoke (.state (.getProcessID handle))
    let memoryModel ← invoke (.getMemoryModel processID)
    send (getArchitectureFromMemoryModel memoryModel)
    return true

def handleCommandGetArchitecture : Handler Bool := do
  let handle ← selectHandle
  getArchitecture handle

def handleCommandGetSymbolListFromFile : Handler Unit := do
  let symbolPathSize ← read Int32
  let symbolPath ← invoke (.newCharArray symbolPathSize.toInt)
  let _ ← readBuffer symbolPath symbolPathSize.toInt.toNat
  send (0 : UInt64)

/-- The six characters of the local array; no NUL follows them in the source. -/
def vadProtectionToHumanReadable (vadEntry : VadEntry) : List Char :=
  let vh := vadEntry.Protection.toUInt8 >>> 3
  let vl := vadEntry.Protection.toUInt8 &&& 7
  let sz0 := if vadEntry.fPrivateMemory then 'p' else '-'
  let sz1 := if vh &&& 2 ≠ 0 then (if vh &&& 1 ≠ 0 then 'm' else 'g')
    else (if vh &&& 1 ≠ 0 then 'n' else '-')
  let sz2 := if vl = 1 ∨ vl = 3 ∨ vl = 4 ∨ vl = 6 then 'r' else '-'
  let sz3 := if vl &&& 4 ≠ 0 then 'w' else '-'
  let sz4 := if vl &&& 2 ≠ 0 then 'x' else '-'
  let sz5 := if vl = 5 ∨ vl = 7 then 'c' else '-'
  let sz1 := if sz1 ≠ '-' ∧ sz2 = '-' ∧ sz3 = '-' ∧ sz4 = '-' ∧ sz5 = '-' then '-' else sz1
  [sz0, sz1, sz2, sz3, sz4, sz5]

def vadProtectionToWin32Protection (vadEntry : VadEntry) : UInt32 :=
  let humanReadable := vadProtectionToHumanReadable vadEntry
  if humanReadable[4]? = some 'x' then
    if humanReadable[3]? = some 'w' then PAGE_EXECUTE_READWRITE else PAGE_EXECUTE_READ
  else if humanReadable[3]? = some 'w' then PAGE_READWRITE else PAGE_READONLY

def vadTypeToWin32Type (vadEntry : VadEntry) : UInt32 :=
  if vadEntry.fPrivateMemory then MEM_PRIVATE
  else if vadEntry.VadType = 2 then MEM_IMAGE else MEM_MAPPED

/-- The signed 32-bit region size is sign-extended into the 64-bit field. -/
def virtualQueryExResult : Option MemoryRegion → CeVirtualQueryExOutput
  | none => { result := 0, protection := 0, type := 0, baseaddress := 0, size := 0 }
  | some region =>
      { result := 1
        protection := vadProtectionToWin32Protection region.vadEntry
        type := vadTypeToWin32Type region.vadEntry
        baseaddress := region.startAddr
        size := region.regionSize.toInt64.toUInt64 }

def sendVirtualQueryExResult (region : Option MemoryRegion) : Handler Unit :=
  sendBytes (virtualQueryExResult region).toBytes

def virtualQueryExFullResult (region : MemoryRegion) : CeRegionInfo :=
  { protection := vadProtectionToWin32Protection region.vadEntry
    type := vadTypeToWin32Type region.vadEntry
    baseaddress := region.startAddr
    size := region.regionSize.toInt64.toUInt64 }

def sendVirtualQueryExFullResult (region : MemoryRegion) : Handler Unit :=
  sendBytes (virtualQueryExFullResult region).toBytes

/-- `named` tells GETREGIONINFO, which also sends a name, from VIRTUALQUERYEX. -/
def regionInfo (named : Bool) (handle : CE_HANDLE) (address : UInt64) : Handler Bool := do
  if !(← invoke (.state (.containsProcessIDHandle handle))) then
    return false
  else if address ≤ 0 then
    sendVirtualQueryExResult none
    return true
  else
    let processID ← invoke (.state (.getProcessID handle))
    let regions ← invoke (.getModuleSnapshot processID)
    let respectiveMemoryRegion := regions.find? fun region =>
      region.vadEntry.vaStart ≤ address && address ≤ region.vadEntry.vaEnd
    sendVirtualQueryExResult respectiveMemoryRegion
    if named then
      let truncated := match respectiveMemoryRegion with
        | none => []
        | some region => region.name.take (min 127 region.name.length)
      send (UInt8.ofNat truncated.length)
      if truncated.length > 0 then
        sendBytes truncated
    return true

def handleCommandGetRegionInfo (named : Bool) : Handler Bool := do
  let handle ← read CE_HANDLE
  let address ← read UInt64
  regionInfo named handle address

/-- The flags are read and never used. -/
def virtualQueryExFull (handle : CE_HANDLE) (_flags : UInt8) : Handler Bool := do
  if !(← invoke (.state (.containsProcessIDHandle handle))) then
    return false
  else
    let processID ← invoke (.state (.getProcessID handle))
    let regions ← invoke (.getModuleSnapshot processID)
    send (Int32.ofNat regions.length)
    regions.forM sendVirtualQueryExFullResult
    return true

def handleCommandVirtualQueryExFull : Handler Bool := do
  let handle ← read CE_HANDLE
  let flags ← read UInt8
  virtualQueryExFull handle flags

def startDebug (handle : CE_HANDLE) : Handler Unit := send handle

def handleCommandStartDebug : Handler Unit := do
  let handle ← read CE_HANDLE
  startDebug handle

def handleCommandGetOptions : Handler Unit := send (0 : UInt16)

def keepOpen (handler : Handler Unit) : Handler Bool := do
  handler
  return true

def handle : Command → Handler Bool
  | .createToolhelp32Snapshot => keepOpen handleCommandToolHelp32Snapshot
  | .process32First => keepOpen (handleCommandIterateProcessesNext true)
  | .process32Next => keepOpen (handleCommandIterateProcessesNext false)
  | .module32First => keepOpen (handleCommandIterateModulesNext true)
  | .module32Next => keepOpen (handleCommandIterateModulesNext false)
  | .closeHandle => keepOpen handleCommandCloseHandle
  | .getVersion => keepOpen handleCommandGetVersion
  | .getABI => keepOpen handleCommandGetABI
  | .createToolhelp32SnapshotEx => keepOpen handleCommandToolHelp32SnapshotEx
  | .setConnectionName => keepOpen handleCommandSetConnectionName
  | .closeConnection => return false
  | .terminateServer => return false
  | .openProcess => keepOpen handleCommandOpenProcess
  | .readProcessMemory => handleCommandReadProcessMemory
  | .writeProcessMemory => handleCommandWriteProcessMemory
  | .getArchitecture => handleCommandGetArchitecture
  | .getSymbolListFromFile => keepOpen handleCommandGetSymbolListFromFile
  | .virtualQueryEx => handleCommandGetRegionInfo false
  | .getRegionInfo => handleCommandGetRegionInfo true
  | .virtualQueryExFull => handleCommandVirtualQueryExFull
  | .startDebug => keepOpen handleCommandStartDebug
  | .getOptions => keepOpen handleCommandGetOptions

/-- A known command without a handler and an unknown command are only logged. -/
def dispatchCommand (command : UInt8) : Handler Bool :=
  match Command.ofCode command with
  | some command => handle command
  | none => return false

@[simp] theorem dispatchCommand_code (command : Command) :
    dispatchCommand command.code = handle command := by
  simp [dispatchCommand]

end Client

end CeServer
