import Mathlib.Data.List.TakeWhile
import CeServer.Library.Implementation
import CeServer.Replies

/-!
What `Memory` asks the DMA library about the target: `getProcessSnapshot`,
`getModuleSnapshot`, `getThreadSnapshot` and `getMemoryModel`, and the commands
on top of them.
-/

namespace CeServer

open LittleEndian Interaction

/-- An address that is not null. -/
abbrev Pointer := Nat

/-- `VMMDLL_PROCESS_INFORMATION::tpMemoryModel` -/
inductive TpMemoryModel
  | na
  | x86
  | x86pae
  | x64
  | arm64
  | other
  deriving DecidableEq

/-- The calls on the DMA library and on the heap, and the accesses to what they
hand out. -/
inductive VmmOp
  | malloc (size : UInt64)
  | pidList (pPIDs : Option Pointer) (pcPIDs : UInt64)
  | pidAt (pPIDs : Option Pointer) (i : Int32)
  | processGetInformationString (dwPID : UInt32)
  | mapGetVadU (dwPID : UInt32)
  | vadAt (vadMap : Pointer) (i : Int32)
  | mapGetThread (dwPID : UInt32)
  | threadAt (threadMap : Pointer) (i : Int32)
  | processGetInformation (dwPID : UInt32)
  | memFree (pvMem : Option Pointer)
  deriving DecidableEq

/-- `none` is a null pointer or a call that failed; a map comes with its `cMap`,
a string with the bytes before its NUL. -/
abbrev VmmOp.Response : VmmOp → Type
  | malloc _ => Option Pointer
  | pidList .. => Option UInt64
  | pidAt .. => UInt32
  | processGetInformationString _ => Option (Pointer × List UInt8)
  | mapGetVadU _ | mapGetThread _ => Option (Pointer × UInt32)
  | vadAt .. => VadEntry
  | threadAt .. => ThreadInfo
  | processGetInformation _ => Option TpMemoryModel
  | memFree _ => Unit

abbrev VmmProgram := Program VmmOp VmmOp.Response

namespace Vmm

def request (op : VmmOp) : VmmProgram op.Response := .call op .ret

/-- The values that an `int` takes in `count` rounds of `i++`, as long as it
compares below. -/
def rounds (count : Nat) (below : Int32 → Bool) : List Int32 :=
  ((List.range count).map Int32.ofNat).takeWhile below

/-- A loop that pushes at most one item a round. -/
def pushEach {Item : Type} (item : Int32 → VmmProgram (Option Item)) :
    List Int32 → VmmProgram (List Item)
  | [] => return []
  | i :: rest => do
      let first ← item i
      let others ← pushEach item rest
      return first.toList ++ others

def getProcessSnapshot : VmmProgram (List ProcessInfo) := do
  match ← request (.pidList none 0) with
  | none => return []
  | some numProcs =>
      let ptrProcessIDs ← request (.malloc (numProcs * 4))
      match ← request (.pidList ptrProcessIDs numProcs) with
      | none => return []
      | some numProcs =>
          let procInfos ← pushEach (fun i => do
            let pid ← request (.pidAt ptrProcessIDs i)
            let name ← request (.processGetInformationString pid)
            return name.map fun name => ⟨name.2, pid.toInt32⟩)
            (rounds numProcs.toNat fun i => i.toInt64.toUInt64 < numProcs)
          -- the array came from `malloc`
          request (.memFree ptrProcessIDs)
          return procInfos

/-- The body of the loop over `pMap`. -/
def regionAt (memoryMap : Pointer) (i : Int32) : VmmProgram (Option MemoryRegion) := do
  let vadEntry ← request (.vadAt memoryMap i)
  return some (.ofVadEntry vadEntry)

def getModuleSnapshot (processID : Int32) : VmmProgram (List MemoryRegion) := do
  match ← request (.mapGetVadU processID.toUInt32) with
  | none => return []
  | some (memoryMap, cMap) =>
      let regions ← pushEach (regionAt memoryMap) (rounds cMap.toNat fun i => i.toUInt32 < cMap)
      request (.memFree memoryMap)
      return regions

def getThreadSnapshot (processID : Int32) : VmmProgram (List ThreadInfo) := do
  match ← request (.mapGetThread processID.toUInt32) with
  | none => return []
  | some (threadMap, cMap) =>
      let threads ← pushEach (fun i => do
        let thread ← request (.threadAt threadMap i)
        return some thread) (rounds cMap.toNat fun i => i.toUInt32 < cMap)
      request (.memFree threadMap)
      return threads

def memoryModel : TpMemoryModel → MemoryModel
  | .na => .na
  | .x86pae => .x86pae
  | .arm64 => .arm64
  | .x64 => .x64
  | .x86 => .x86
  | .other => .unknown

def getMemoryModel (processID : Int32) : VmmProgram MemoryModel := do
  match ← request (.processGetInformation processID.toUInt32) with
  | none => return .unknown
  | some tpMemoryModel => return memoryModel tpMemoryModel

end Vmm

/-- The calls of a handler whose queries are taken down to the library. -/
inductive LibraryOp
  | server (op : Op)
  | vmm (op : VmmOp)
  deriving DecidableEq

abbrev LibraryOp.Response : LibraryOp → Type
  | server op => op.Response
  | vmm op => op.Response

abbrev LibraryProgram := Program LibraryOp LibraryOp.Response

def VmmProgram.lift {Value : Type} : VmmProgram Value → LibraryProgram Value
  | .ret value => .ret value
  | .call op next => .call (.vmm op) fun response => lift (next response)

namespace Memory

/-- The functions of `Memory` that a handler calls, where they ask the library. -/
def queries : (op : Op) → LibraryProgram op.Response
  | .getProcessSnapshot => Vmm.getProcessSnapshot.lift
  | .getModuleSnapshot processID => (Vmm.getModuleSnapshot processID).lift
  | .getThreadSnapshot processID => (Vmm.getThreadSnapshot processID).lift
  | .getMemoryModel processID => (Vmm.getMemoryModel processID).lift
  | op => .call (.server op) .ret

end Memory

variable {Outside Value : Type}

/-- What the library answers and how it changes; `none` is an access to memory
that is not there. -/
abbrev VmmLibrary (Outside : Type) := (op : VmmOp) → Outside → Option (op.Response × Outside)

def libraryAnswer (env : Environment Outside) (library : VmmLibrary Outside) :
    (op : LibraryOp) → World Outside → Option (op.Response × World Outside)
  | .server op, world => answer env op world
  | .vmm op, world => (library op world.outside).map fun answered =>
      (answered.1, { world with outside := answered.2 })

/-- The environment that queries the library. -/
def Environment.over (env : Environment Outside) (library : VmmLibrary Outside) :
    Environment Outside where
  respond
    | .getProcessSnapshot, outside =>
        let outcome := Vmm.getProcessSnapshot.run library outside
        (outcome.value.getD [], outcome.world)
    | .getModuleSnapshot processID, outside =>
        let outcome := (Vmm.getModuleSnapshot processID).run library outside
        (outcome.value.getD [], outcome.world)
    | .getThreadSnapshot processID, outside =>
        let outcome := (Vmm.getThreadSnapshot processID).run library outside
        (outcome.value.getD [], outcome.world)
    | .getMemoryModel processID, outside =>
        let outcome := (Vmm.getMemoryModel processID).run library outside
        (outcome.value.getD .unknown, outcome.world)
    | op, outside => env.respond op outside
  firstEntry := env.firstEntry

/-- The calls of the handler itself. -/
def serverCall : Event LibraryOp LibraryOp.Response → List (Event Op Op.Response)
  | ⟨.server op, response⟩ => [⟨op, response⟩]
  | ⟨.vmm _, _⟩ => []

def serverCalls (trace : List (Event LibraryOp LibraryOp.Response)) :
    List (Event Op Op.Response) :=
  trace.flatMap serverCall

/-- A call that is no query. -/
def ownCall : Event Op Op.Response → List (Event Op Op.Response)
  | ⟨.getProcessSnapshot, _⟩ | ⟨.getModuleSnapshot _, _⟩ | ⟨.getThreadSnapshot _, _⟩
  | ⟨.getMemoryModel _, _⟩ => []
  | event => [event]

section Refinement

variable {env : Environment Outside} {library : VmmLibrary Outside}

theorem run_lift (env : Environment Outside) (library : VmmLibrary Outside)
    (program : VmmProgram Value) (world : World Outside) :
    (program.lift.run (libraryAnswer env library) world).value =
        (program.run library world.outside).value ∧
      (program.lift.run (libraryAnswer env library) world).world =
        { world with outside := (program.run library world.outside).world } ∧
      serverCalls (program.lift.run (libraryAnswer env library) world).trace = [] := by
  induction program generalizing world with
  | ret value => exact ⟨rfl, rfl, rfl⟩
  | call op next ih =>
      rw [VmmProgram.lift, Program.run_call, Program.run_call, libraryAnswer]
      cases library op world.outside with
      | none => exact ⟨rfl, rfl, rfl⟩
      | some pair => exact ih pair.1 { world with outside := pair.2 }

/-- What a query returns is what the environment over the library answers. -/
theorem answered_of_lift {program : VmmProgram Value} {world : World Outside}
    {pair : Value × World Outside}
    (returned : (program.lift.run (libraryAnswer env library) world).value.map (fun response =>
      (response, (program.lift.run (libraryAnswer env library) world).world)) = some pair)
    (fallback : Value) :
    some ((program.run library world.outside).value.getD fallback,
      { world with outside := (program.run library world.outside).world }) = some pair := by
  obtain ⟨value, left, _⟩ := run_lift env library program world
  rw [value, left] at returned
  obtain ⟨response, asked, rfl⟩ := Option.map_eq_some_iff.mp returned
  rw [asked]
  rfl

theorem implemented_of_forwards {op : Op} (forwards : Memory.queries op = .call (.server op) .ret)
    (world : World Outside) :
    Program.implemented Memory.queries (libraryAnswer env library) op world =
      answer env op world := by
  rw [Program.implemented, forwards, Program.run_call, libraryAnswer]
  cases answer env op world with
  | none => rfl
  | some made => rfl

theorem answered_of_implemented (op : Op) (world : World Outside)
    (pair : op.Response × World Outside)
    (returned : Program.implemented Memory.queries (libraryAnswer env library) op world =
      some pair) : answer (env.over library) op world = some pair := by
  cases op with
  | getProcessSnapshot | getModuleSnapshot | getThreadSnapshot =>
      exact answered_of_lift returned []
  | getMemoryModel => exact answered_of_lift returned .unknown
  | _ =>
      rw [implemented_of_forwards rfl] at returned
      exact returned

theorem serverCalls_queries (op : Op) (world : World Outside) (response : op.Response)
    (returned : ((Memory.queries op).run (libraryAnswer env library) world).value =
      some response) :
    ((Memory.queries op).run (libraryAnswer env library) world).trace.flatMap serverCall =
      ownCall ⟨op, response⟩ := by
  have forwarded (calls : Memory.queries op = .call (.server op) .ret) :
      ((Memory.queries op).run (libraryAnswer env library) world).trace.flatMap serverCall =
        [⟨op, response⟩] := by
    rw [calls, Program.run_call, libraryAnswer] at returned ⊢
    cases answered : answer env op world with
    | none =>
        rw [answered] at returned
        cases returned
    | some made =>
        rw [answered] at returned
        obtain rfl := Option.some.inj returned
        rfl
  cases op with
  | getProcessSnapshot | getModuleSnapshot | getThreadSnapshot | getMemoryModel =>
      exact (run_lift env library _ world).2.2
  | _ => exact forwarded rfl

/-- A handler whose queries are taken down to the library does what it does over
the environment that queries the library. -/
theorem run_overLibrary {handler : Handler Value} {world : World Outside} {value : Value}
    (returned : ((handler.implement Memory.queries).run (libraryAnswer env library) world).value =
      some value) :
    let below := (handler.implement Memory.queries).run (libraryAnswer env library) world
    let above := handler.run (answer (env.over library)) world
    above.value = some value ∧ above.world = below.world ∧
      serverCalls below.trace = above.trace.flatMap ownCall := by
  obtain ⟨value, left⟩ :=
    Program.run_implement Memory.queries (libraryAnswer env library) handler world
  have middle := value.symm.trans returned
  have same : handler.run (answer (env.over library)) world =
      handler.run (Program.implemented Memory.queries (libraryAnswer env library)) world :=
    Program.run_of_defined answered_of_implemented middle
  refine ⟨by rw [same, middle], by rw [same, left (by rw [returned]; rfl)], ?_⟩
  rw [serverCalls, Program.run_implement_logs serverCalls_queries handler returned, same]

end Refinement

section VadMaps

variable {library : VmmLibrary Outside} {Item : Type}

/-- The entry of a map at an `int`; below the map there is none. -/
def entryAt (entries : List VadEntry) (i : Int32) : Option VadEntry :=
  if i.toInt < 0 then none else entries[i.toInt.toNat]?

/-- Asked in this state, the library hands out this map. -/
structure HandsOut (library : VmmLibrary Outside) (dwPID : UInt32) (entries : List VadEntry)
    (outside : Outside) : Prop where
  counted : entries.length < 2 ^ 32
  map : ∃ vadMap later freed,
    library (.mapGetVadU dwPID) outside =
        some (some (vadMap, UInt32.ofNat entries.length), later) ∧
      (∀ i, library (.vadAt vadMap i) later = (entryAt entries i).map fun entry => (entry, later)) ∧
      library (.memFree (some vadMap)) later = some ((), freed)

theorem rounds_all {count : Nat} (counted : count < 2 ^ 32) :
    Vmm.rounds (UInt32.ofNat count).toNat (fun i => i.toUInt32 < UInt32.ofNat count) =
      (List.range count).map Int32.ofNat := by
  have length : (UInt32.ofNat count).toNat = count := UInt32.toNat_ofNat_of_lt' counted
  rw [Vmm.rounds, length, List.takeWhile_eq_self_iff]
  intro i member
  obtain ⟨k, below, rfl⟩ := List.mem_map.mp member
  have inside := List.mem_range.mp below
  have value : (Int32.ofNat k).toUInt32.toNat = k := by
    rw [Int32.toUInt32_ofNat', UInt32.toNat_ofNat_of_lt' (inside.trans counted)]
  rw [decide_eq_true_eq, UInt32.lt_iff_toNat_lt, value, length]
  exact inside

theorem run_pushEach {item : Int32 → VmmProgram (Option Item)} {outside : Outside}
    {indices : List Int32} {items : List Item}
    (each : List.Forall₂ (fun i pushed =>
      ((item i).run library outside).value = some (some pushed) ∧
        ((item i).run library outside).world = outside) indices items) :
    ((Vmm.pushEach item indices).run library outside).value = some items ∧
      ((Vmm.pushEach item indices).run library outside).world = outside := by
  induction each with
  | nil => exact ⟨rfl, rfl⟩
  | @cons i pushed rest later first _ ih =>
      obtain ⟨returned, same⟩ := first
      obtain ⟨others, left⟩ := ih
      have whole := Program.run_bind_of_value returned fun first => do
        let others ← Vmm.pushEach item rest
        return first.toList ++ others
      rw [same, Program.run_bind_of_value others] at whole
      rw [Vmm.pushEach, whole]
      exact ⟨rfl, left⟩

theorem run_pushEach_none {item : Int32 → VmmProgram (Option Item)} {outside : Outside}
    {indices : List Int32} {bad : Int32} (member : bad ∈ indices)
    (fails : ((item bad).run library outside).value = none)
    (each : ∀ i ∈ indices, ((item i).run library outside).world = outside) :
    ((Vmm.pushEach item indices).run library outside).value = none := by
  induction indices with
  | nil => cases member
  | cons i rest ih =>
      rw [Vmm.pushEach, Program.run_bind, each i List.mem_cons_self]
      cases returned : ((item i).run library outside).value with
      | none => rfl
      | some first =>
          have later : bad ∈ rest := by
            rcases List.mem_cons.mp member with rfl | later
            · rw [fails] at returned
              cases returned
            · exact later
          have missing := ih later fun j inside => each j (List.mem_cons_of_mem i inside)
          simp only [Outcome.after_value]
          rw [Program.run_bind, missing]

variable {entries : List VadEntry} {outside : Outside} {processID : Int32}

/-- Below 2^31 an index is inside the map. -/
theorem entryAt_ofNat {k : Nat} (inside : k < 2 ^ 31) :
    entryAt entries (Int32.ofNat k) = entries[k]? := by
  rw [entryAt, Int32.toInt_ofNat_of_lt inside, if_neg (by omega), Int.toNat_natCast]

theorem run_regionAt {vadMap : Pointer} {i : Int32}
    (reads : library (.vadAt vadMap i) outside =
      (entryAt entries i).map fun entry => (entry, outside)) :
    ((Vmm.regionAt vadMap i).run library outside).value =
        (entryAt entries i).map (fun entry => some (.ofVadEntry entry)) ∧
      ((Vmm.regionAt vadMap i).run library outside).world = outside := by
  rw [Vmm.regionAt, Vmm.request, Program.call_bind, Program.run_call, reads]
  cases entryAt entries i with
  | none => exact ⟨rfl, rfl⟩
  | some entry => exact ⟨rfl, rfl⟩

theorem run_getModuleSnapshot (handed : HandsOut library processID.toUInt32 entries outside)
    (short : entries.length ≤ 2 ^ 31) :
    ((Vmm.getModuleSnapshot processID).run library outside).value =
      some (Memory.getModuleSnapshot (some entries)) := by
  obtain ⟨counted, vadMap, later, freed, asked, reads, frees⟩ := handed
  have each : List.Forall₂ (fun i region =>
      ((Vmm.regionAt vadMap i).run library later).value = some (some region) ∧
        ((Vmm.regionAt vadMap i).run library later).world = later)
      ((List.range entries.length).map Int32.ofNat) (entries.map .ofVadEntry) := by
    refine List.forall₂_iff_get.mpr ⟨by simp, fun k inside _ => ?_⟩
    have below : k < entries.length := by simpa using inside
    obtain ⟨value, left⟩ := run_regionAt (reads (Int32.ofNat k))
    rw [entryAt_ofNat (by omega), List.getElem?_eq_getElem below] at value
    simpa using ⟨value, left⟩
  obtain ⟨pushed, left⟩ := run_pushEach each
  rw [Vmm.getModuleSnapshot, Vmm.request, Program.call_bind,
    Program.run_call_of_answer _ _ asked]
  simp only [Program.ret_bind, rounds_all counted]
  rw [Program.run_bind_of_value pushed, left, Vmm.request, Program.call_bind,
    Program.run_call_of_answer _ _ frees]
  rfl

/-- Behind 2^31 entries the index is negative. -/
theorem run_getModuleSnapshot_none (handed : HandsOut library processID.toUInt32 entries outside)
    (long : 2 ^ 31 < entries.length) :
    ((Vmm.getModuleSnapshot processID).run library outside).value = none := by
  obtain ⟨counted, vadMap, later, freed, asked, reads, frees⟩ := handed
  have wrapped : Int32.ofNat (2 ^ 31) ∈ (List.range entries.length).map Int32.ofNat :=
    List.mem_map_of_mem (List.mem_range.mpr long)
  have below : entryAt entries (Int32.ofNat (2 ^ 31)) = none := if_pos (by decide)
  have fails := (run_regionAt (reads (Int32.ofNat (2 ^ 31)))).1
  rw [below] at fails
  have missing := run_pushEach_none wrapped fails fun i _ => (run_regionAt (reads i)).2
  rw [Vmm.getModuleSnapshot, Vmm.request, Program.call_bind,
    Program.run_call_of_answer _ _ asked]
  simp only [Program.ret_bind, rounds_all counted, Outcome.after_value]
  rw [Program.run_bind, missing]

end VadMaps

end CeServer
