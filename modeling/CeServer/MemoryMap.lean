import Mathlib.Algebra.Group.Nat.Defs
import CeServer.Library.Program
import CeServer.Library.TextReader
import CeServer.Library.TextStream

/-!
`Memory::generateMemoryMap` and `Memory::init`: the physical memory map as a
text, which the DMA library is then given.
-/

namespace CeServer

open Interaction TextReader

/-- `VMMDLL_MAP_PHYSMEMENTRY` -/
structure PhysMemEntry where
  pa : UInt64
  cb : UInt64
  deriving DecidableEq

/-- `VMMDLL_MAP_PHYSMEM`; `cMap` is the number of its entries. -/
structure PhysMemMap where
  dwVersion : UInt32
  pMap : List PhysMemEntry
  counted : pMap.length < 2 ^ 32

def PhysMemMap.cMap (map : PhysMemMap) : UInt32 := UInt32.ofNat map.pMap.length

theorem PhysMemMap.cMap_eq_zero (map : PhysMemMap) : map.cMap = 0 ↔ map.pMap = [] := by
  rw [← UInt32.toNat_inj, cMap, UInt32.toNat_ofNat_of_lt' map.counted, UInt32.toNat_zero,
    List.length_eq_zero_iff]

/-- What one line of the map's text says. -/
structure MapLine where
  index : Nat
  first : UInt64
  last : UInt64
  target : UInt64
  deriving DecidableEq

def PhysMemEntry.mapLine (i : Nat) (entry : PhysMemEntry) : MapLine where
  index := i
  first := entry.pa
  last := entry.pa + entry.cb - 1
  target := entry.pa

namespace Memory

/-- One pass of the loop of `generateMemoryMap`. -/
def printEntry (i : UInt32) (entry : PhysMemEntry) (sb : TextStream) : TextStream :=
  sb.setfill '0' |>.setw 4 |>.number i.toNat |>.string "  ".toList
    |>.hex |>.number entry.pa.toNat |>.string "  -  ".toList
    |>.number (entry.pa + entry.cb - 1).toNat |>.string "  ->  ".toList
    |>.number entry.pa.toNat |>.endl

def printEntries : UInt32 → List PhysMemEntry → TextStream → TextStream
  | _, [], sb => sb
  | i, entry :: rest, sb => printEntries (i + 1) rest (printEntry i entry sb)

def memoryMapText (map : PhysMemMap) : List Char := (printEntries 0 map.pMap {}).text

section Line

def indexText (i : Nat) : List Char := List.leftpad 4 '0' (Nat.toDigits 16 i)

def lineText (i : Nat) (entry : PhysMemEntry) : List Char :=
  indexText i ++ ("  ".toList ++ (Nat.toDigits 16 entry.pa.toNat ++ ("  -  ".toList ++
    (Nat.toDigits 16 (entry.pa + entry.cb - 1).toNat ++ ("  ->  ".toList ++
      Nat.toDigits 16 entry.pa.toNat)))))

/-- The base is decimal until the first index has been printed. -/
def BaseFits (i : UInt32) (sb : TextStream) : Prop := sb.base = 16 ∨ i = 0 ∧ sb.base = 10

theorem digits_of_baseFits {i : UInt32} {sb : TextStream} (fits : BaseFits i sb) :
    Nat.toDigits sb.base i.toNat = Nat.toDigits 16 i.toNat := by
  obtain hex | ⟨rfl, decimal⟩ := fits
  · rw [hex]
  · rw [decimal]
    rfl

theorem printEntry_text {i : UInt32} {sb : TextStream} (fits : BaseFits i sb)
    (entry : PhysMemEntry) :
    (printEntry i entry sb).text = sb.text ++ (lineText i.toNat entry ++ ['\n']) := by
  have index : ((sb.setfill '0' |>.setw 4).number i.toNat).text = sb.text ++ indexText i.toNat := by
    rw [TextStream.text_number]
    simp [digits_of_baseFits fits, indexText]
  rw [printEntry, TextStream.text_endl]
  simp [TextStream.text_number_unset, TextStream.text_string_unset, index, lineText]

theorem printEntry_base (i : UInt32) (entry : PhysMemEntry) (sb : TextStream) :
    (printEntry i entry sb).base = 16 := rfl

theorem mapIdx_lineText_cons (i : Nat) (entry : PhysMemEntry) (rest : List PhysMemEntry) :
    ((entry :: rest).mapIdx fun k => lineText (i + k)) =
      lineText i entry :: rest.mapIdx fun k => lineText (i + 1 + k) := by
  rw [List.mapIdx_cons, Nat.add_zero]
  congr 2
  funext k
  rw [Nat.add_assoc, Nat.add_comm 1]

/-- The stream state that the lines rest on is left behind by the line before. -/
theorem printEntries_text {i : UInt32} {sb : TextStream} (fits : BaseFits i sb)
    (entries : List PhysMemEntry) (counted : i.toNat + entries.length ≤ 2 ^ 32) :
    (printEntries i entries sb).text = sb.text ++
      (entries.mapIdx fun k => lineText (i.toNat + k)).flatMap fun line => line ++ ['\n'] := by
  induction entries generalizing i sb with
  | nil => simp [printEntries]
  | cons entry rest ih =>
      rw [List.length_cons] at counted
      rw [printEntries, mapIdx_lineText_cons, List.flatMap_cons, ← List.append_assoc,
        ← printEntry_text fits]
      cases rest with
      | nil => simp [printEntries]
      | cons following rest =>
          rw [List.length_cons] at counted
          have next : (i + 1).toNat = i.toNat + 1 := by
            rw [UInt32.toNat_add]
            exact Nat.mod_eq_of_lt (by simp; omega)
          have later := ih (Or.inl (printEntry_base i entry sb))
            (by rw [next, List.length_cons]; omega)
          rw [later, next]

theorem memoryMapText_eq (map : PhysMemMap) :
    memoryMapText map =
      (map.pMap.mapIdx lineText).flatMap fun line => line ++ ['\n'] := by
  have decimal : BaseFits 0 {} := Or.inr ⟨rfl, rfl⟩
  have printed := printEntries_text decimal map.pMap (by
    rw [UInt32.toNat_zero, Nat.zero_add]
    exact Nat.le_of_lt map.counted)
  simp only [UInt32.toNat_zero, Nat.zero_add] at printed
  exact printed

end Line

section Reading

def readWord (text : List Char) : Option UInt64 :=
  ((readNumber 16 text).filter (· < 2 ^ 64)).map UInt64.ofNat

def readLine (line : List Char) : Option MapLine := do
  let (index, rest) ← cutAt "  ".toList line
  let (first, rest) ← cutAt "  -  ".toList rest
  let (last, target) ← cutAt "  ->  ".toList rest
  return ⟨← readNumber 16 index, ← readWord first, ← readWord last, ← readWord target⟩

def readMemoryMap (text : List Char) : Option (List MapLine) := (lines text).mapM readLine

theorem readWord_toDigits (word : UInt64) : readWord (Nat.toDigits 16 word.toNat) = some word := by
  have digits := readNumber_leftpad (by decide : 1 < 16) (Nat.le_refl 16) 0 word.toNat
  rw [List.leftpad, Nat.zero_sub, List.replicate_zero, List.nil_append] at digits
  rw [readWord, digits, Option.filter_some, if_pos (decide_eq_true word.toNat_lt)]
  simp

theorem notMem_digits {char : Char} (noDigit : digitValue char = none) (value : Nat) :
    char ∉ Nat.toDigits 16 value :=
  notMem_toDigits (Nat.le_refl 16) noDigit (by decide) value

theorem notMem_indexText {char : Char} (noDigit : digitValue char = none) (i : Nat) :
    char ∉ indexText i := by
  rw [indexText, List.leftpad, List.mem_append, not_or]
  refine ⟨fun padding => ?_, notMem_digits noDigit i⟩
  obtain rfl := List.eq_of_mem_replicate padding
  exact absurd noDigit (by decide)

theorem readLine_lineText (i : Nat) (entry : PhysMemEntry) :
    readLine (lineText i entry) = some (entry.mapLine i) := by
  have blank (value : Nat) : ' ' ∉ Nat.toDigits 16 value := notMem_digits (by decide) value
  have index (rest : List Char) :
      cutAt "  ".toList (indexText i ++ ("  ".toList ++ rest)) = some (indexText i, rest) :=
    cutAt_append rfl (notMem_indexText (by decide) i) rest
  have first (value : Nat) (rest : List Char) :
      cutAt "  -  ".toList (Nat.toDigits 16 value ++ ("  -  ".toList ++ rest)) =
        some (Nat.toDigits 16 value, rest) :=
    cutAt_append rfl (blank value) rest
  have last (value : Nat) (rest : List Char) :
      cutAt "  ->  ".toList (Nat.toDigits 16 value ++ ("  ->  ".toList ++ rest)) =
        some (Nat.toDigits 16 value, rest) :=
    cutAt_append rfl (blank value) rest
  simp only [readLine, lineText, index, first, last, Option.bind_eq_bind, Option.bind_some,
    readWord_toDigits]
  rw [indexText, readNumber_leftpad (by decide) (Nat.le_refl 16)]
  rfl

theorem newline_notMem_lineText (i : Nat) (entry : PhysMemEntry) : '\n' ∉ lineText i entry := by
  have digits (value : Nat) : '\n' ∉ Nat.toDigits 16 value := notMem_digits (by decide) value
  have padded : '\n' ∉ indexText i := notMem_indexText (by decide) i
  simp [lineText, padded, digits]

theorem lines_memoryMapText (map : PhysMemMap) :
    lines (memoryMapText map) = map.pMap.mapIdx lineText := by
  rw [memoryMapText_eq]
  refine lines_flatMap fun line member => ?_
  obtain ⟨i, inside, rfl⟩ := List.mem_mapIdx.mp member
  exact newline_notMem_lineText _ _

def MapLine.entry (line : MapLine) : PhysMemEntry where
  pa := line.first
  cb := line.last - line.first + 1

theorem entry_mapLine (i : Nat) (entry : PhysMemEntry) :
    MapLine.entry (entry.mapLine i) = entry := by
  have size : entry.pa + entry.cb - 1 - entry.pa + 1 = entry.cb := by grind
  rw [PhysMemEntry.mapLine, MapLine.entry, size]

/-- The text has a line for every entry and gives all of them back. -/
structure LosesNothing (entries : List PhysMemEntry) (text : List Char) : Prop where
  terminated : ((lines text).flatMap fun line => line ++ ['\n']) = text
  count : (lines text).length = entries.length
  index : ∀ i line, (lines text)[i]? = some line → (indexText i ++ "  ".toList) <+: line
  recovers : readMemoryMap text = some (entries.mapIdx PhysMemEntry.mapLine)

theorem losesNothing_memoryMapText (map : PhysMemMap) :
    LosesNothing map.pMap (memoryMapText map) where
  terminated := by rw [lines_memoryMapText, ← memoryMapText_eq]
  count := by rw [lines_memoryMapText, List.length_mapIdx]
  index := by
    intro i line found
    rw [lines_memoryMapText, List.getElem?_mapIdx, Option.map_eq_some_iff] at found
    obtain ⟨entry, _, rfl⟩ := found
    rw [lineText, ← List.append_assoc]
    exact List.prefix_append ..
  recovers := by
    rw [readMemoryMap, lines_memoryMapText]
    exact mapM_mapIdx readLine_lineText map.pMap

theorem LosesNothing.unique {entries others : List PhysMemEntry} {text : List Char}
    (first : LosesNothing entries text) (second : LosesNothing others text) :
    entries = others := by
  have back (entries : List PhysMemEntry) :
      (entries.mapIdx PhysMemEntry.mapLine).map MapLine.entry = entries := by
    refine List.ext_getElem? fun i => ?_
    rw [List.getElem?_map, List.getElem?_mapIdx, Option.map_map]
    simp [Function.comp_def, entry_mapLine]
  have same := Option.some.inj (first.recovers.symm.trans second.recovers)
  rw [← back entries, same, back others]

end Reading

section Calls

/-- A handle that is not null. -/
abbrev VMM_HANDLE := Nat

/-- The calls on the DMA library and on the file system. -/
inductive MapOp
  | vmmInitialize (argv : List String)
  | getPhysMem (handle : VMM_HANDLE)
  | memFree (map : PhysMemMap)
  | close (handle : VMM_HANDLE)
  | writeFile (path : String) (text : List Char)
  | startDispatch

/-- `none` is a null handle, or a map that was not to be had. -/
abbrev MapOp.Response : MapOp → Type
  | vmmInitialize _ => Option VMM_HANDLE
  | getPhysMem _ => Option PhysMemMap
  | memFree _ | close _ | writeFile _ _ | startDispatch => Unit

abbrev MapProgram := Program MapOp MapOp.Response

def request (op : MapOp) : MapProgram op.Response := .call op .ret

def generateMemoryMap (VMMDLL_MAP_PHYSMEM_VERSION : UInt32) (mmapPath : String) :
    MapProgram Bool := do
  match ← request (.vmmInitialize ["", "-v", "-printf", "-device", "fpga://algo=0"]) with
  | none => return false
  | some handle =>
      match ← request (.getPhysMem handle) with
      | none =>
          request (.close handle)
          return false
      | some map =>
          -- these branches differ in what they log
          if map.dwVersion ≠ VMMDLL_MAP_PHYSMEM_VERSION then
            request (.memFree map)
            request (.close handle)
            return false
          else if map.cMap = 0 then
            request (.memFree map)
            request (.close handle)
            return false
          else
            request (.writeFile mmapPath (memoryMapText map))
            request (.memFree map)
            request (.close handle)
            return true

def init (VMMDLL_MAP_PHYSMEM_VERSION : UInt32) (mmapPath : String) : MapProgram Bool := do
  if !(← generateMemoryMap VMMDLL_MAP_PHYSMEM_VERSION mmapPath) then
    return false
  else
    let hVMM ← request (.vmmInitialize
      ["-printf", "-v", "-device", "fpga", "-memmap", mmapPath])
    -- also without a handle
    request .startDispatch
    return hVMM.isSome

end Calls

section Runs

variable {World Value : Type}

abbrev MapTrace := List (Event MapOp MapOp.Response)

/-- No call throws. -/
def outcome (answer : (op : MapOp) → World → op.Response × World) (program : MapProgram Value)
    (world : World) : Outcome MapOp MapOp.Response World Value :=
  program.run (fun op world => some (answer op world)) world

def written (trace : MapTrace) : List (String × List Char) :=
  trace.filterMap fun event =>
    match event.op with
    | .writeFile path text => some (path, text)
    | _ => none

variable {VMMDLL_MAP_PHYSMEM_VERSION : UInt32} {mmapPath : String}

/-- How `generateMemoryMap` can end, with the calls it has made until then. -/
inductive Generates (VMMDLL_MAP_PHYSMEM_VERSION : UInt32) (mmapPath : String) :
    MapTrace → Bool → Prop
  | unopened {argv : List String} :
      Generates VMMDLL_MAP_PHYSMEM_VERSION mmapPath [⟨.vmmInitialize argv, none⟩] false
  | unmapped {argv : List String} (handle : VMM_HANDLE) :
      Generates VMMDLL_MAP_PHYSMEM_VERSION mmapPath
        [⟨.vmmInitialize argv, some handle⟩, ⟨.getPhysMem handle, none⟩, ⟨.close handle, ()⟩] false
  | refused {argv : List String} (handle : VMM_HANDLE) (map : PhysMemMap)
      (unfit : map.dwVersion ≠ VMMDLL_MAP_PHYSMEM_VERSION ∨ map.cMap = 0) :
      Generates VMMDLL_MAP_PHYSMEM_VERSION mmapPath
        [⟨.vmmInitialize argv, some handle⟩, ⟨.getPhysMem handle, some map⟩, ⟨.memFree map, ()⟩,
          ⟨.close handle, ()⟩] false
  | generated {argv : List String} (handle : VMM_HANDLE) (map : PhysMemMap)
      (current : map.dwVersion = VMMDLL_MAP_PHYSMEM_VERSION) (listed : map.cMap ≠ 0) :
      Generates VMMDLL_MAP_PHYSMEM_VERSION mmapPath
        [⟨.vmmInitialize argv, some handle⟩, ⟨.getPhysMem handle, some map⟩,
          ⟨.writeFile mmapPath (memoryMapText map), ()⟩, ⟨.memFree map, ()⟩,
          ⟨.close handle, ()⟩] true

section Answered

variable (answer : (op : MapOp) → World → op.Response × World)

theorem outcome_request (op : MapOp) (rest : op.Response → MapProgram Value) (world : World) :
    outcome answer (request op >>= rest) world =
      (outcome answer (rest (answer op world).1) (answer op world).2).after
        [⟨op, (answer op world).1⟩] := rfl

theorem generates (world : World) :
    ∃ value, (outcome answer (generateMemoryMap VMMDLL_MAP_PHYSMEM_VERSION mmapPath)
        world).value = some value ∧
      Generates VMMDLL_MAP_PHYSMEM_VERSION mmapPath
        (outcome answer (generateMemoryMap VMMDLL_MAP_PHYSMEM_VERSION mmapPath) world).trace
        value := by
  rw [generateMemoryMap, outcome_request]
  generalize answer (.vmmInitialize _) world = opened
  obtain ⟨handle, world⟩ := opened
  cases handle with
  | none => exact ⟨false, rfl, .unopened⟩
  | some handle =>
      dsimp only
      rw [outcome_request]
      generalize answer (.getPhysMem handle) world = mapped
      obtain ⟨map, world⟩ := mapped
      cases map with
      | none => exact ⟨false, rfl, .unmapped handle⟩
      | some map =>
          dsimp only
          split
          · rename_i old
            exact ⟨false, rfl, .refused handle map (Or.inl old)⟩
          · rename_i current
            split
            · rename_i empty
              exact ⟨false, rfl, .refused handle map (Or.inr empty)⟩
            · rename_i listed
              exact ⟨true, rfl, .generated handle map (not_not.mp current) listed⟩

end Answered

/-- The handles that were opened and the maps that were got. -/
def acquired (trace : MapTrace) : List (VMM_HANDLE ⊕ PhysMemMap) :=
  trace.filterMap fun
    | ⟨.vmmInitialize _, handle⟩ => handle.map Sum.inl
    | ⟨.getPhysMem _, map⟩ => map.map Sum.inr
    | _ => none

def released (trace : MapTrace) : List (VMM_HANDLE ⊕ PhysMemMap) :=
  trace.filterMap fun
    | ⟨.close handle, _⟩ => some (Sum.inl handle)
    | ⟨.memFree map, _⟩ => some (Sum.inr map)
    | _ => none

theorem Generates.releases {trace : MapTrace} {value : Bool}
    (generates : Generates VMMDLL_MAP_PHYSMEM_VERSION mmapPath trace value) :
    released trace = (acquired trace).reverse := by
  cases generates <;> rfl

theorem Generates.writes {trace : MapTrace} {value : Bool} {handle : VMM_HANDLE}
    {map : PhysMemMap} (generates : Generates VMMDLL_MAP_PHYSMEM_VERSION mmapPath trace value)
    (given : ⟨.getPhysMem handle, some map⟩ ∈ trace)
    (current : map.dwVersion = VMMDLL_MAP_PHYSMEM_VERSION) (listed : map.cMap ≠ 0) :
    value = true ∧ written trace = [(mmapPath, memoryMapText map)] := by
  cases generates with
  | unopened => simp at given
  | unmapped => simp at given
  | refused handle other unfit =>
      obtain ⟨rfl, rfl⟩ : _ ∧ map = other := by simpa using given
      exact absurd unfit (not_or.mpr ⟨not_not.mpr current, listed⟩)
  | generated handle other =>
      obtain ⟨rfl, rfl⟩ : _ ∧ map = other := by simpa using given
      exact ⟨rfl, rfl⟩

theorem Generates.mapped {trace : MapTrace}
    (generates : Generates VMMDLL_MAP_PHYSMEM_VERSION mmapPath trace true) :
    ∃ map : PhysMemMap, map.pMap ≠ [] ∧ written trace = [(mmapPath, memoryMapText map)] := by
  cases generates with
  | generated handle map _ listed =>
      exact ⟨map, fun empty => listed (map.cMap_eq_zero.mpr empty), rfl⟩

variable (answer : (op : MapOp) → World → op.Response × World)

/-- Whatever the library answers, `generateMemoryMap` gives back what it got from
it, the last first. -/
theorem generateMemoryMap_releases (world : World) :
    released (outcome answer (generateMemoryMap VMMDLL_MAP_PHYSMEM_VERSION mmapPath)
        world).trace =
      (acquired (outcome answer (generateMemoryMap VMMDLL_MAP_PHYSMEM_VERSION mmapPath)
        world).trace).reverse := by
  obtain ⟨value, _, generates⟩ := generates answer world
  exact generates.releases

theorem outcome_generate_bind (rest : Bool → MapProgram Value) (world : World) :
    ∃ value later, ∃ trace : MapTrace,
      Generates VMMDLL_MAP_PHYSMEM_VERSION mmapPath trace value ∧
      outcome answer (generateMemoryMap VMMDLL_MAP_PHYSMEM_VERSION mmapPath >>= rest) world =
        (outcome answer (rest value) later).after trace := by
  obtain ⟨value, returned, generates⟩ := generates answer world
  exact ⟨value, _, _, generates, Program.run_bind_of_value returned rest⟩

/-- When `init` succeeds, the device was opened with the map file just written. -/
theorem init_opensMapped {world : World}
    (succeeds : (outcome answer (init VMMDLL_MAP_PHYSMEM_VERSION mmapPath) world).value =
      some true) :
    ∃ map handle, ∃ trace : MapTrace, map.pMap ≠ [] ∧
      written trace = [(mmapPath, memoryMapText map)] ∧
      (outcome answer (init VMMDLL_MAP_PHYSMEM_VERSION mmapPath) world).trace = trace ++
        [⟨.vmmInitialize ["-printf", "-v", "-device", "fpga", "-memmap", mmapPath], some handle⟩,
          ⟨.startDispatch, ()⟩] := by
  obtain ⟨value, later, trace, generates, runs⟩ := outcome_generate_bind answer _ world
  rw [init, runs] at succeeds ⊢
  cases value with
  | false => cases succeeds
  | true =>
      obtain ⟨map, listed, text⟩ := generates.mapped
      simp only [Bool.not_true, Bool.false_eq_true, if_false] at succeeds ⊢
      rw [outcome_request] at succeeds ⊢
      generalize answer (.vmmInitialize _) later = opened at succeeds ⊢
      obtain ⟨hVMM, last⟩ := opened
      obtain ⟨handle, rfl⟩ := Option.isSome_iff_exists.mp (Option.some.inj succeeds)
      exact ⟨map, handle, trace, listed, text, rfl⟩

/-- The text of a map says all of it, and is the text of no other map. -/
theorem generateMemoryMap_losesNothing {world : World} {handle : VMM_HANDLE} {map : PhysMemMap}
    (given : ⟨.getPhysMem handle, some map⟩ ∈
      (outcome answer (generateMemoryMap VMMDLL_MAP_PHYSMEM_VERSION mmapPath) world).trace)
    (current : map.dwVersion = VMMDLL_MAP_PHYSMEM_VERSION) (listed : map.pMap ≠ []) :
    written (outcome answer (generateMemoryMap VMMDLL_MAP_PHYSMEM_VERSION mmapPath)
        world).trace = [(mmapPath, memoryMapText map)] ∧
      LosesNothing map.pMap (memoryMapText map) ∧
      ∀ other : PhysMemMap, memoryMapText other = memoryMapText map → other.pMap = map.pMap := by
  obtain ⟨value, _, generates⟩ := generates answer world
  have counted : map.cMap ≠ 0 := map.cMap_eq_zero.not.mpr listed
  refine ⟨(generates.writes given current counted).2, losesNothing_memoryMapText map, ?_⟩
  intro other same
  have others := losesNothing_memoryMapText other
  rw [same] at others
  exact others.unique (losesNothing_memoryMapText map)

section Samples

def twoEntries : PhysMemMap where
  dwVersion := 2
  pMap := [⟨0x123, 0x133⟩, ⟨0x213, 0x432⟩]
  counted := by decide

example : memoryMapText twoEntries =
    "0000  123  -  255  ->  123\n0001  213  -  644  ->  213\n".toList := by
  decide

def fpga : (op : MapOp) → Unit → op.Response × Unit
  | .vmmInitialize _, _ => (some 1, ())
  | .getPhysMem _, _ => (some twoEntries, ())
  | .memFree _, _ | .close _, _ | .writeFile _ _, _ | .startDispatch, _ => ((), ())

theorem generateMemoryMap_losesNothing_twoEntries :
    written (outcome fpga (generateMemoryMap 2 "mmap.txt") ()).trace =
        [("mmap.txt", memoryMapText twoEntries)] ∧
      LosesNothing twoEntries.pMap (memoryMapText twoEntries) ∧
      ∀ other : PhysMemMap, memoryMapText other = memoryMapText twoEntries →
        other.pMap = twoEntries.pMap := by
  have given : ⟨.getPhysMem 1, some twoEntries⟩ ∈
      (outcome fpga (generateMemoryMap 2 "mmap.txt") ()).trace :=
    List.mem_cons_of_mem _ List.mem_cons_self
  exact generateMemoryMap_losesNothing fpga given rfl (by decide)

end Samples

end Runs

end Memory

end CeServer
