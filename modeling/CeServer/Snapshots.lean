import CeServer.Commands

/-!
What `Memory` reports about the target: processes, threads, memory regions.
Texts are byte lists without a terminating NUL.
-/

namespace CeServer

structure ProcessInfo where
  name : List UInt8
  pid : Int32
  deriving DecidableEq

structure ThreadInfo where
  dwTID : UInt32
  deriving DecidableEq

/-- The fields of `VMMDLL_MAP_VADENTRY` that the server reads. -/
structure VadEntry where
  vaStart : UInt64
  vaEnd : UInt64
  Protection : UInt32 := 0
  VadType : UInt32 := 0
  fPrivateMemory : Bool := false
  fHeap : Bool := false
  fStack : Bool := false
  fPageFile : Bool := false
  fFile : Bool := false
  fImage : Bool := false
  fTeb : Bool := false
  uszText : Option (List UInt8) := none
  deriving DecidableEq

structure MemoryRegion where
  vadEntry : VadEntry
  startAddr : UInt64
  regionSize : Int32
  fileOffset : UInt32
  part : Int32
  name : List UInt8
  deriving DecidableEq

def asciiBytes (text : String) : List UInt8 := text.toList.map fun char => UInt8.ofNat char.toNat

def resize (count : Nat) (bytes : List UInt8) : List UInt8 :=
  (bytes ++ List.replicate count 0).take count

@[simp] theorem resize_length (count : Nat) (bytes : List UInt8) :
    (resize count bytes).length = count := by
  simp [resize]

def VadEntry.fallbackName (vadEntry : VadEntry) : List UInt8 :=
  if vadEntry.fHeap then asciiBytes "<heap>"
  else if vadEntry.fStack then asciiBytes "<stack>"
  else if vadEntry.fPageFile then asciiBytes "<pagefile>"
  else if vadEntry.fFile then asciiBytes "<file>"
  else if vadEntry.fImage then asciiBytes "<image>"
  else if vadEntry.fTeb then asciiBytes "<teb>"
  else asciiBytes "<unknown>"

def MemoryRegion.ofVadEntry (vadEntry : VadEntry) : MemoryRegion :=
  let name := vadEntry.uszText.getD []
  { vadEntry
    startAddr := vadEntry.vaStart
    regionSize := (vadEntry.vaEnd - vadEntry.vaStart + 1).toUInt32.toInt32
    fileOffset := 0
    part := 0
    name := if name.isEmpty then vadEntry.fallbackName else name }

/-- `none` is a map that could not be retrieved. For at most 2^31 entries this is what
the loop of `Vmm.getModuleSnapshot` makes of the map, index for index. -/
def Memory.getModuleSnapshot (memoryMap : Option (List VadEntry)) : List MemoryRegion :=
  match memoryMap with
  | none => []
  | some entries => entries.map MemoryRegion.ofVadEntry

inductive MemoryModel
  | unknown
  | na
  | x86pae
  | arm64
  | x64
  | x86
  deriving DecidableEq, Repr

end CeServer
