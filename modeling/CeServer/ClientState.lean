import Mathlib.Data.Finmap
import CeServer.Snapshots

/-!
`ClientState`: the handle tables all connections share. Each method holds the
mutex from its first to its last access, so it is one atomic operation.
-/

namespace CeServer

abbrev Table (Value : Type) := Finmap fun _ : CE_HANDLE => Value

namespace Table

variable {Value : Type}

/-- What `operator[]` leaves in a table of cursors: a missing entry is created as 0. -/
def subscript (table : Table Int32) (handle : CE_HANDLE) : Table Int32 :=
  if handle ∈ table then table else table.insert handle 0

/-- `std::unordered_map::insert` keeps the value of a key that is present. -/
def insertNew (table : Table Value) (handle : CE_HANDLE) (value : Value) : Table Value :=
  if handle ∈ table then table else table.insert handle value

theorem lookup_subscript (table : Table Int32) (handle other : CE_HANDLE) :
    (table.subscript handle).lookup other =
      if other = handle then some ((table.lookup handle).getD 0) else table.lookup other := by
  unfold subscript
  by_cases same : other = handle
  · subst same
    split
    · rename_i member
      obtain ⟨value, found⟩ := Finmap.mem_iff.mp member
      simp [found]
    · rename_i missing
      simp [Finmap.lookup_eq_none.mpr missing]
  · split <;> simp [same, Finmap.lookup_insert_of_ne]

theorem lookup_insert (table : Table Value) (handle other : CE_HANDLE) (value : Value) :
    (Finmap.insert handle value table).lookup other =
      if other = handle then some value else table.lookup other := by
  by_cases same : other = handle
  · subst same
    simp
  · simp [same, Finmap.lookup_insert_of_ne]

theorem lookup_insertNew (table : Table Value) (handle other : CE_HANDLE) (value : Value) :
    (table.insertNew handle value).lookup other =
      if other = handle then some ((table.lookup handle).getD value) else table.lookup other := by
  unfold insertNew
  split
  · rename_i member
    obtain ⟨old, found⟩ := Finmap.mem_iff.mp member
    by_cases same : other = handle
    · subst same
      simp [found]
    · simp [same]
  · rename_i missing
    rw [lookup_insert]
    simp [Finmap.lookup_eq_none.mpr missing]

theorem mem_insertNew {table : Table Value} {handle other : CE_HANDLE} {value : Value} :
    other ∈ table.insertNew handle value ↔ other = handle ∨ other ∈ table := by
  unfold insertNew
  split
  · rename_i present
    constructor
    · exact Or.inr
    · rintro (rfl | member)
      · exact present
      · exact member
  · exact Finmap.mem_insert

theorem lookup_erase (table : Table Value) (handle other : CE_HANDLE) :
    (Finmap.erase handle table).lookup other =
      if other = handle then none else table.lookup other := by
  by_cases same : other = handle
  · subst same
    simp
  · simp [same, Finmap.lookup_erase_ne]

theorem erase_of_notMem {table : Table Value} {handle : CE_HANDLE} (missing : handle ∉ table) :
    Finmap.erase handle table = table := by
  apply Finmap.ext_lookup
  intro other
  rw [lookup_erase]
  split
  · rename_i same
    rw [same, Finmap.lookup_eq_none.mpr missing]
  · rfl

end Table

def UINT64_MAX : UInt64 := 0xFFFFFFFFFFFFFFFF

structure ClientState where
  lastHandleID : CE_HANDLE := 0
  processIter : Table Int32 := ∅
  moduleIter : Table Int32 := ∅
  handlesToProcessInfoSnapshots : Table (List ProcessInfo) := ∅
  handlesToModuleSnapshots : Table (List MemoryRegion) := ∅
  handlesToProcessIDs : Table Int32 := ∅
  deriving DecidableEq

structure EntryPointer where
  handle : CE_HANDLE
  index : Nat
  deriving DecidableEq

/-- `begin()` of a table of process IDs. The iteration order of a hash table is
left open: any entry may come first. -/
structure FirstEntry where
  begin : Table Int32 → Option (CE_HANDLE × Int32)
  begin_mem : ∀ {table handle processID},
    begin table = some (handle, processID) → table.lookup handle = some processID
  begin_none : ∀ {table}, begin table = none → table = ∅

noncomputable def FirstEntry.any : FirstEntry where
  begin table :=
    match Classical.propDecidable
      (∃ pair : CE_HANDLE × Int32, table.lookup pair.1 = some pair.2) with
    | .isTrue entry => some entry.choose
    | .isFalse _ => none
  begin_mem chosen := by
    split at chosen
    · rename_i entry _
      have found := entry.choose_spec
      rw [Option.some.inj chosen] at found
      exact found
    · simp at chosen
  begin_none none := by
    apply Finmap.ext_lookup
    intro handle
    split at none
    · simp at none
    · rename_i empty _
      rw [Finmap.lookup_empty]
      cases found : Finmap.lookup handle _ with
      | none => rfl
      | some processID => exact absurd ⟨(handle, processID), found⟩ empty

namespace ClientState

def generateHandle (state : ClientState) : CE_HANDLE × ClientState :=
  let lastHandleID := state.lastHandleID + 1
  -- the comparison with UINT64_MAX converts the signed ID to 64 unsigned bits
  let lastHandleID := if lastHandleID.toInt64.toUInt64 ≥ UINT64_MAX ∨ lastHandleID < 0 then 0
    else lastHandleID
  (lastHandleID, { state with lastHandleID })

def storeOpenProcess (state : ClientState) (processID : Int32) (handle : CE_HANDLE) :
    ClientState :=
  { state with handlesToProcessIDs := state.handlesToProcessIDs.insert handle processID }

def storeProcessSnapshot (state : ClientState) (snapshot : List ProcessInfo)
    (handle : CE_HANDLE) : ClientState :=
  { state with
    handlesToProcessInfoSnapshots := state.handlesToProcessInfoSnapshots.insertNew handle snapshot
    processIter := state.processIter.insert handle 0 }

def storeModuleSnapshot (state : ClientState) (snapshot : List MemoryRegion)
    (handle : CE_HANDLE) : ClientState :=
  { state with
    handlesToModuleSnapshots := state.handlesToModuleSnapshots.insertNew handle snapshot
    moduleIter := state.moduleIter.insert handle 0 }

def closeHandle (state : ClientState) (handle : CE_HANDLE) : ClientState :=
  { state with
    handlesToProcessInfoSnapshots := state.handlesToProcessInfoSnapshots.erase handle
    handlesToModuleSnapshots := state.handlesToModuleSnapshots.erase handle
    processIter := state.processIter.erase handle
    moduleIter := state.moduleIter.erase handle
    handlesToProcessIDs := state.handlesToProcessIDs.erase handle }

/-- The cursor step shared by `nextProcessInfo` and `nextMemoryRegion`. The
signed cursor is compared with the size as a 64-bit unsigned number. -/
def advance {Entry : Type} (snapshots : Table (List Entry)) (iter : Table Int32)
    (handle : CE_HANDLE) : Option EntryPointer × Table Int32 :=
  match snapshots.lookup handle with
  | none => (none, iter)
  | some snapshot =>
      let iter := iter.subscript handle
      let position := (iter.lookup handle).getD 0
      let index := position.toInt64.toUInt64.toNat
      if index ≥ snapshot.length then (none, iter)
      else (some ⟨handle, index⟩, iter.insert handle (position + 1))

def nextProcessInfo (state : ClientState) (handle : CE_HANDLE) :
    Option EntryPointer × ClientState :=
  let (entry, processIter) := advance state.handlesToProcessInfoSnapshots state.processIter handle
  (entry, { state with processIter })

def nextMemoryRegion (state : ClientState) (handle : CE_HANDLE) :
    Option EntryPointer × ClientState :=
  let (entry, moduleIter) := advance state.handlesToModuleSnapshots state.moduleIter handle
  (entry, { state with moduleIter })

def resetProcessIterator (state : ClientState) (handle : CE_HANDLE) : ClientState :=
  { state with processIter := state.processIter.insert handle 0 }

def resetModuleIterator (state : ClientState) (handle : CE_HANDLE) : ClientState :=
  { state with moduleIter := state.moduleIter.insert handle 0 }

def getProcessID (state : ClientState) (handle : CE_HANDLE) : Int32 :=
  (state.handlesToProcessIDs.lookup handle).getD (-1)

def getProcessHandleLegacyCE (first : FirstEntry) (state : ClientState) : CE_HANDLE :=
  match first.begin state.handlesToProcessIDs with
  | none => -1
  | some (_, processID) => processID

def containsProcessInfoHandle (state : ClientState) (handle : CE_HANDLE) : Bool :=
  decide (handle ∈ state.handlesToProcessInfoSnapshots)

def containsMemoryRegionHandle (state : ClientState) (handle : CE_HANDLE) : Bool :=
  decide (handle ∈ state.handlesToModuleSnapshots)

def containsProcessIDHandle (state : ClientState) (handle : CE_HANDLE) : Bool :=
  decide (handle ∈ state.handlesToProcessIDs)

end ClientState

/-- The methods of `ClientState`; a store with a fresh handle is the two
operations `generateHandle` and the insertion. -/
inductive StateOp
  | generateHandle
  | storeOpenProcess (processID : Int32) (handle : CE_HANDLE)
  | storeProcessSnapshot (snapshot : List ProcessInfo) (handle : CE_HANDLE)
  | storeModuleSnapshot (snapshot : List MemoryRegion) (handle : CE_HANDLE)
  | closeHandle (handle : CE_HANDLE)
  | nextProcessInfo (handle : CE_HANDLE)
  | nextMemoryRegion (handle : CE_HANDLE)
  | resetProcessIterator (handle : CE_HANDLE)
  | resetModuleIterator (handle : CE_HANDLE)
  | getProcessID (handle : CE_HANDLE)
  | getProcessHandleLegacyCE
  | containsProcessInfoHandle (handle : CE_HANDLE)
  | containsMemoryRegionHandle (handle : CE_HANDLE)
  | containsProcessIDHandle (handle : CE_HANDLE)
  deriving DecidableEq

namespace StateOp

abbrev Response : StateOp → Type
  | generateHandle => CE_HANDLE
  | storeOpenProcess .. => Unit
  | storeProcessSnapshot .. => Unit
  | storeModuleSnapshot .. => Unit
  | closeHandle _ => Unit
  | nextProcessInfo _ => Option EntryPointer
  | nextMemoryRegion _ => Option EntryPointer
  | resetProcessIterator _ => Unit
  | resetModuleIterator _ => Unit
  | getProcessID _ => Int32
  | getProcessHandleLegacyCE => CE_HANDLE
  | containsProcessInfoHandle _ => Bool
  | containsMemoryRegionHandle _ => Bool
  | containsProcessIDHandle _ => Bool

def apply (first : FirstEntry) : (op : StateOp) → ClientState → op.Response × ClientState
  | generateHandle, state => state.generateHandle
  | storeOpenProcess processID handle, state => ((), state.storeOpenProcess processID handle)
  | storeProcessSnapshot snapshot handle, state =>
      ((), state.storeProcessSnapshot snapshot handle)
  | storeModuleSnapshot snapshot handle, state => ((), state.storeModuleSnapshot snapshot handle)
  | closeHandle handle, state => ((), state.closeHandle handle)
  | nextProcessInfo handle, state => state.nextProcessInfo handle
  | nextMemoryRegion handle, state => state.nextMemoryRegion handle
  | resetProcessIterator handle, state => ((), state.resetProcessIterator handle)
  | resetModuleIterator handle, state => ((), state.resetModuleIterator handle)
  | getProcessID handle, state => (state.getProcessID handle, state)
  | getProcessHandleLegacyCE, state => (state.getProcessHandleLegacyCE first, state)
  | containsProcessInfoHandle handle, state => (state.containsProcessInfoHandle handle, state)
  | containsMemoryRegionHandle handle, state => (state.containsMemoryRegionHandle handle, state)
  | containsProcessIDHandle handle, state => (state.containsProcessIDHandle handle, state)

end StateOp

end CeServer
