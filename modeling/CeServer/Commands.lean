import CeServer.Library.LittleEndian

/-!
The wire vocabulary: command bytes, handles and the packed reply records.
-/

namespace CeServer

open LittleEndian

abbrev CE_HANDLE := Int32

/-- The commands `dispatchCommand` has a handler for. -/
inductive Command
  | getVersion
  | closeConnection
  | terminateServer
  | openProcess
  | createToolhelp32Snapshot
  | process32First
  | process32Next
  | closeHandle
  | virtualQueryEx
  | readProcessMemory
  | writeProcessMemory
  | startDebug
  | getArchitecture
  | module32First
  | module32Next
  | getSymbolListFromFile
  | virtualQueryExFull
  | getRegionInfo
  | getABI
  | setConnectionName
  | createToolhelp32SnapshotEx
  | getOptions
  deriving DecidableEq, Repr

namespace Command

def all : List Command :=
  [getVersion, closeConnection, terminateServer, openProcess, createToolhelp32Snapshot,
    process32First, process32Next, closeHandle, virtualQueryEx, readProcessMemory,
    writeProcessMemory, startDebug, getArchitecture, module32First, module32Next,
    getSymbolListFromFile, virtualQueryExFull, getRegionInfo, getABI, setConnectionName,
    createToolhelp32SnapshotEx, getOptions]

def code : Command → UInt8
  | getVersion => 0
  | closeConnection => 1
  | terminateServer => 2
  | openProcess => 3
  | createToolhelp32Snapshot => 4
  | process32First => 5
  | process32Next => 6
  | closeHandle => 7
  | virtualQueryEx => 8
  | readProcessMemory => 9
  | writeProcessMemory => 10
  | startDebug => 11
  | getArchitecture => 21
  | module32First => 22
  | module32Next => 23
  | getSymbolListFromFile => 24
  | virtualQueryExFull => 31
  | getRegionInfo => 32
  | getABI => 33
  | setConnectionName => 34
  | createToolhelp32SnapshotEx => 35
  | getOptions => 37

def ofCode (byte : UInt8) : Option Command := all.find? fun command => command.code = byte

@[simp] theorem ofCode_code (command : Command) : ofCode command.code = some command := by
  cases command <;> rfl

theorem code_of_ofCode {byte : UInt8} {command : Command} (found : ofCode byte = some command) :
    command.code = byte := by
  simpa using List.find?_some found

end Command

def TH32CS_SNAPPROCESS : UInt32 := 0x2
def TH32CS_SNAPTHREAD : UInt32 := 0x4
def TH32CS_SNAPMODULE : UInt32 := 0x8

def ABI_WINDOWS : UInt8 := 0

def PAGE_READONLY : UInt32 := 0x02
def PAGE_READWRITE : UInt32 := 0x04
def PAGE_EXECUTE_READ : UInt32 := 0x20
def PAGE_EXECUTE_READWRITE : UInt32 := 0x40

def MEM_PRIVATE : UInt32 := 0x00020000
def MEM_MAPPED : UInt32 := 0x00040000
def MEM_IMAGE : UInt32 := 0x01000000

structure CeVersion where
  version : Int32
  stringsize : UInt8

def CeVersion.toBytes (entry : CeVersion) : List UInt8 :=
  Word.toBytes entry.version ++ Word.toBytes entry.stringsize

structure CeProcessEntry where
  result : Int32
  pid : Int32
  processnamesize : Int32

def CeProcessEntry.toBytes (entry : CeProcessEntry) : List UInt8 :=
  Word.toBytes entry.result ++ Word.toBytes entry.pid ++ Word.toBytes entry.processnamesize

/-- `modulebase` is declared `int64_t`; only its 64 bits travel. -/
structure CeModuleEntry where
  result : Int32
  modulebase : UInt64
  modulepart : Int32
  modulesize : Int32
  modulenamesize : Int32

def CeModuleEntry.toBytes (entry : CeModuleEntry) : List UInt8 :=
  Word.toBytes entry.result ++ Word.toBytes entry.modulebase ++ Word.toBytes entry.modulepart ++
    Word.toBytes entry.modulesize ++ Word.toBytes entry.modulenamesize

structure CeVirtualQueryExOutput where
  result : UInt8
  protection : UInt32
  type : UInt32
  baseaddress : UInt64
  size : UInt64

def CeVirtualQueryExOutput.toBytes (entry : CeVirtualQueryExOutput) : List UInt8 :=
  Word.toBytes entry.result ++ Word.toBytes entry.protection ++ Word.toBytes entry.type ++
    Word.toBytes entry.baseaddress ++ Word.toBytes entry.size

structure CeRegionInfo where
  baseaddress : UInt64
  size : UInt64
  protection : UInt32
  type : UInt32

def CeRegionInfo.toBytes (entry : CeRegionInfo) : List UInt8 :=
  Word.toBytes entry.baseaddress ++ Word.toBytes entry.size ++ Word.toBytes entry.protection ++
    Word.toBytes entry.type

end CeServer
