import CeServer.HandleMap

/-!
Any number of clients over one `ClientState`: the five tables refine the
abstract map from handles to objects.
-/

namespace CeServer

open Transition

variable {Client : Type}

/-- The shared state and, for each client that has generated a handle and not
yet stored its object, what it is about to store. -/
structure Sharing (Client : Type) where
  state : ClientState := {}
  storing : Client → Option (CE_HANDLE × HandleObject) := fun _ => none

def StateOp.Accesses : StateOp → Prop
  | .generateHandle | .storeOpenProcess .. | .storeProcessSnapshot .. | .storeModuleSnapshot .. =>
      False
  | _ => True

namespace Sharing

inductive Step [DecidableEq Client] : Sharing Client → HandleEvent Client → Sharing Client → Prop
  | generate {before : Sharing Client} {client : Client} (object : HandleObject)
      (idle : before.storing client = none) :
      Step before (.generate client object before.state.generateHandle.1)
        { state := before.state.generateHandle.2
          storing := Function.update before.storing client
            (some (before.state.generateHandle.1, object)) }
  | insert {before : Sharing Client} {client : Client} {handle : CE_HANDLE}
      {object : HandleObject} (pending : before.storing client = some (handle, object)) :
      Step before (.insert client)
        { state := object.store before.state handle
          storing := Function.update before.storing client none }
  | access {before : Sharing Client} {client : Client} {op : StateOp} (first : FirstEntry)
      (accesses : op.Accesses) (idle : before.storing client = none) :
      Step before (.access client op (op.apply first before.state).1)
        { before with state := (op.apply first before.state).2 }

end Sharing

/-- Up to the cursors, the tables hold what the map says is live; `issued`
handles were generated, and these are the numbers from 1 on. -/
structure Refines (issued : Nat) (sharing : Sharing Client) (map : HandleMap Client) : Prop where
  last : sharing.state.lastHandleID.toInt = issued
  unissued : ∀ handle, map handle = .unissued ↔ ¬(0 < handle.toInt ∧ handle.toInt ≤ issued)
  storing : ∀ client handle object, sharing.storing client = some (handle, object) ↔
    map handle = .inFlight client object
  processIDs : ∀ handle, sharing.state.handlesToProcessIDs.lookup handle = map.processID? handle
  processes : ∀ handle,
    sharing.state.handlesToProcessInfoSnapshots.lookup handle = map.processes? handle
  modules : ∀ handle, sharing.state.handlesToModuleSnapshots.lookup handle = map.modules? handle
  processIter : ∀ handle, (map.processes? handle).isSome →
    sharing.state.processIter.lookup handle = some (map handle).cursor
  moduleIter : ∀ handle, (map.modules? handle).isSome →
    sharing.state.moduleIter.lookup handle = some (map handle).cursor

theorem refines_start : Refines 0 ({} : Sharing Client) HandleMap.start := by
  constructor <;> intros <;> first
    | rfl
    | simp_all [HandleMap.start, HandleMap.processes?, HandleMap.modules?, HandleStatus.object?]

theorem ClientState.generateHandle_of_lt {state : ClientState} {issued : Nat}
    (last : state.lastHandleID.toInt = issued) (bounded : issued + 1 < 2 ^ 31) :
    state.generateHandle.1.toInt = issued + 1 ∧
      state.generateHandle.2 = { state with lastHandleID := state.generateHandle.1 } := by
  have next : (state.lastHandleID + 1).toInt = issued + 1 := by
    rw [Int32.toInt_add, last]
    have one : (1 : Int32).toInt = 1 := by decide
    rw [one]
    exact Int.bmod_eq_of_le (by omega) (by omega)
  have nonneg : ¬state.lastHandleID + 1 < 0 := by
    rw [Int32.lt_iff_toInt_lt, next]
    have zero : (0 : Int32).toInt = 0 := by decide
    omega
  have small : ¬(state.lastHandleID + 1).toInt64.toUInt64 ≥ UINT64_MAX := by
    have wide : 0 ≤ (state.lastHandleID + 1).toInt64 := by
      rw [Int64.le_iff_toInt_le, Int32.toInt_toInt64, next]
      have zero : (0 : Int64).toInt = 0 := by decide
      omega
    rw [ge_iff_le, UInt64.le_iff_toNat_le, Int64.toNat_toUInt64_of_le wide, Int64.toNatClampNeg,
      Int32.toInt_toInt64, next]
    have most : UINT64_MAX.toNat = 2 ^ 64 - 1 := by decide
    omega
  have kept : state.generateHandle.1 = state.lastHandleID + 1 := by
    simp only [generateHandle, small, nonneg, or_self, if_false]
  refine ⟨by rw [kept, next], rfl⟩

theorem advance_entry {Entry : Type} {snapshots : Table (List Entry)} {iter : Table Int32}
    {handle : CE_HANDLE} {cursor : Int32}
    (position : (snapshots.lookup handle).isSome → iter.lookup handle = some cursor) :
    (ClientState.advance snapshots iter handle).1 =
      (snapshots.lookup handle).bind fun snapshot => cursorEntry handle snapshot cursor := by
  cases found : snapshots.lookup handle with
  | none => simp [ClientState.advance, found]
  | some snapshot =>
      have known := position (by simp [found])
      simp only [ClientState.advance, found, Table.lookup_subscript, if_true, known,
        Option.getD_some, Option.bind_some, cursorEntry, cursorIndex]
      by_cases past : cursor.toInt64.toUInt64.toNat ≥ snapshot.length <;> simp [past]

theorem advance_lookup {Entry : Type} {snapshots : Table (List Entry)} {iter : Table Int32}
    {handle other : CE_HANDLE} {cursor : Int32}
    (position : (snapshots.lookup handle).isSome → iter.lookup handle = some cursor) :
    (ClientState.advance snapshots iter handle).2.lookup other =
      match snapshots.lookup handle with
      | some snapshot =>
          if other = handle then some (cursorNext snapshot cursor) else iter.lookup other
      | none => iter.lookup other := by
  cases found : snapshots.lookup handle with
  | none => simp [ClientState.advance, found]
  | some snapshot =>
      have known := position (by simp [found])
      simp only [ClientState.advance, found, Table.lookup_subscript, if_true, known,
        Option.getD_some, cursorNext, cursorIndex]
      by_cases past : cursor.toInt64.toUInt64.toNat ≥ snapshot.length
      · simp [past, Table.lookup_subscript, known]
      · by_cases same : other = handle <;>
          simp [past, same, Table.lookup_insert, Table.lookup_subscript]

section Access

variable {issued : Nat} {sharing : Sharing Client} {map : HandleMap Client}

theorem Refines.answers (refines : Refines issued sharing map) (first : FirstEntry)
    (op : StateOp) (accesses : op.Accesses) :
    map.Answers op (op.apply first sharing.state).1 := by
  cases op with
  | generateHandle | storeOpenProcess | storeProcessSnapshot | storeModuleSnapshot =>
      exact absurd accesses id
  | closeHandle | resetProcessIterator | resetModuleIterator => exact trivial
  | getProcessID handle =>
      simp [HandleMap.Answers, StateOp.apply, ClientState.getProcessID, refines.processIDs]
  | containsProcessIDHandle handle =>
      have known := refines.processIDs handle
      simp [HandleMap.Answers, StateOp.apply, ClientState.containsProcessIDHandle,
        ← Finmap.lookup_isSome, known]
  | containsProcessInfoHandle handle =>
      have known := refines.processes handle
      simp [HandleMap.Answers, StateOp.apply, ClientState.containsProcessInfoHandle,
        ← Finmap.lookup_isSome, known]
  | containsMemoryRegionHandle handle =>
      have known := refines.modules handle
      simp [HandleMap.Answers, StateOp.apply, ClientState.containsMemoryRegionHandle,
        ← Finmap.lookup_isSome, known]
  | nextProcessInfo handle =>
      have position := refines.processIter handle
      rw [← refines.processes handle] at position
      have entry := advance_entry position
      rwa [refines.processes handle] at entry
  | nextMemoryRegion handle =>
      have position := refines.moduleIter handle
      rw [← refines.modules handle] at position
      have entry := advance_entry position
      rwa [refines.modules handle] at entry
  | getProcessHandleLegacyCE =>
      simp only [HandleMap.Answers, StateOp.apply, ClientState.getProcessHandleLegacyCE]
      cases chosen : first.begin sharing.state.handlesToProcessIDs with
      | none =>
          have empty := first.begin_none chosen
          refine Or.inr ⟨rfl, fun handle => ?_⟩
          rw [← refines.processIDs handle, empty, Finmap.lookup_empty]
      | some entry =>
          have found := first.begin_mem chosen
          exact Or.inl ⟨entry.1, by rw [← refines.processIDs entry.1, found]⟩

theorem Refines.closeHandle (refines : Refines issued sharing map) (handle : CE_HANDLE) :
    Refines issued { sharing with state := sharing.state.closeHandle handle }
      (map.after (.closeHandle handle)) := by
  have closes {Part : Type} (part : HandleObject → Option Part) (other : CE_HANDLE) :
      ((map.after (.closeHandle handle)) other).object?.bind part =
        if other = handle then none else (map other).object?.bind part := by
    by_cases same : other = handle
    · subst same
      rw [HandleMap.after_closeHandle]
      cases map other <;> simp [HandleStatus.close, HandleStatus.object?]
    · rw [HandleMap.after_object? map (by simpa using Ne.symm same), if_neg same]
  have untouched {Part : Type} {part : HandleObject → Option Part} {other : CE_HANDLE}
      (present : (((map.after (.closeHandle handle)) other).object?.bind part).isSome) :
      other ≠ handle ∧ map.after (.closeHandle handle) other = map other := by
    have distinct : other ≠ handle := by
      rintro rfl
      simp [closes part] at present
    exact ⟨distinct, Function.update_of_ne distinct _ _⟩
  refine ⟨refines.last, fun other => ?_, fun client other object => ?_, fun other => ?_,
    fun other => ?_, fun other => ?_, fun other present => ?_, fun other present => ?_⟩
  · rw [HandleMap.after_unissued_iff, refines.unissued other]
  · rw [HandleMap.after_inFlight_iff, ← refines.storing client other object]
  · rw [HandleMap.processID?, closes HandleObject.processID?, ← HandleMap.processID?,
      ← refines.processIDs other]
    exact Table.lookup_erase ..
  · rw [HandleMap.processes?, closes HandleObject.processes?, ← HandleMap.processes?,
      ← refines.processes other]
    exact Table.lookup_erase ..
  · rw [HandleMap.modules?, closes HandleObject.modules?, ← HandleMap.modules?,
      ← refines.modules other]
    exact Table.lookup_erase ..
  · obtain ⟨distinct, kept⟩ := untouched present
    rw [HandleMap.processes?, kept] at present
    rw [kept, ← refines.processIter other present]
    exact (Table.lookup_erase ..).trans (if_neg distinct)
  · obtain ⟨distinct, kept⟩ := untouched present
    rw [HandleMap.modules?, kept] at present
    rw [kept, ← refines.moduleIter other present]
    exact (Table.lookup_erase ..).trans (if_neg distinct)

theorem Refines.moved (refines : Refines issued sharing map) {op : StateOp}
    (moves : ∀ handle, op ≠ .closeHandle handle) {processIter moduleIter : Table Int32}
    (processCursors : ∀ handle, (map.processes? handle).isSome →
      processIter.lookup handle = some (map.after op handle).cursor)
    (moduleCursors : ∀ handle, (map.modules? handle).isSome →
      moduleIter.lookup handle = some (map.after op handle).cursor) :
    Refines issued { sharing with state := { sharing.state with processIter, moduleIter } }
      (map.after op) := by
  have object (handle : CE_HANDLE) := HandleMap.after_object? map (moves handle)
  refine ⟨refines.last, fun handle => ?_, fun client handle object => ?_, fun handle => ?_,
    fun handle => ?_, fun handle => ?_, fun handle present => ?_, fun handle present => ?_⟩
  · rw [HandleMap.after_unissued_iff, refines.unissued handle]
  · rw [HandleMap.after_inFlight_iff, ← refines.storing client handle object]
  · rw [HandleMap.processID?, object handle]
    exact refines.processIDs handle
  · rw [HandleMap.processes?, object handle]
    exact refines.processes handle
  · rw [HandleMap.modules?, object handle]
    exact refines.modules handle
  · rw [HandleMap.processes?, object handle] at present
    exact processCursors handle present
  · rw [HandleMap.modules?, object handle] at present
    exact moduleCursors handle present

theorem otherCursor_kept {Entry : Type} (map : HandleMap Client) {handle other : CE_HANDLE}
    {snapshot? : HandleObject → Option (List Entry)} (move : List Entry → Int32 → Int32)
    (absent : (map other).object?.bind snapshot? = none) :
    (Function.update map handle ((map handle).moveCursor snapshot? move) other).cursor =
      (map other).cursor := by
  rw [HandleMap.update_moveCursor_cursor]
  by_cases same : other = handle
  · subst same
    rw [absent]
  · cases (map handle).object?.bind snapshot? <;> simp [same]

theorem Refines.nextProcessInfo (refines : Refines issued sharing map) (handle : CE_HANDLE) :
    Refines issued { sharing with state := (sharing.state.nextProcessInfo handle).2 }
      (map.after (.nextProcessInfo handle)) := by
  refine refines.moved (by simp) (fun other present => ?_) (fun other present => ?_)
  · have position := refines.processIter handle
    rw [← refines.processes handle] at position
    refine (advance_lookup position).trans ?_
    rw [HandleMap.after, HandleMap.update_moveCursor_cursor, ← HandleMap.processes?,
      refines.processes handle, refines.processIter other present]
    cases map.processes? handle with
    | none => rfl
    | some snapshot => by_cases same : other = handle <;> simp [same]
  · rw [HandleMap.after,
      otherCursor_kept map cursorNext (map.processes?_eq_none_of_modules? present)]
    exact refines.moduleIter other present

theorem Refines.nextMemoryRegion (refines : Refines issued sharing map) (handle : CE_HANDLE) :
    Refines issued { sharing with state := (sharing.state.nextMemoryRegion handle).2 }
      (map.after (.nextMemoryRegion handle)) := by
  refine refines.moved (by simp) (fun other present => ?_) (fun other present => ?_)
  · rw [HandleMap.after,
      otherCursor_kept map cursorNext (map.modules?_eq_none_of_processes? present)]
    exact refines.processIter other present
  · have position := refines.moduleIter handle
    rw [← refines.modules handle] at position
    refine (advance_lookup position).trans ?_
    rw [HandleMap.after, HandleMap.update_moveCursor_cursor, ← HandleMap.modules?,
      refines.modules handle, refines.moduleIter other present]
    cases map.modules? handle with
    | none => rfl
    | some snapshot => by_cases same : other = handle <;> simp [same]

theorem Refines.resetProcessIterator (refines : Refines issued sharing map)
    (handle : CE_HANDLE) :
    Refines issued { sharing with state := sharing.state.resetProcessIterator handle }
      (map.after (.resetProcessIterator handle)) := by
  refine refines.moved (by simp) (fun other present => ?_) (fun other present => ?_)
  · rw [Table.lookup_insert, HandleMap.after, HandleMap.update_moveCursor_cursor,
      ← HandleMap.processes?, refines.processIter other present]
    by_cases same : other = handle
    · subst same
      obtain ⟨snapshot, found⟩ := Option.isSome_iff_exists.mp present
      simp [found]
    · cases map.processes? handle <;> simp [same]
  · rw [HandleMap.after, otherCursor_kept map _ (map.processes?_eq_none_of_modules? present)]
    exact refines.moduleIter other present

theorem Refines.resetModuleIterator (refines : Refines issued sharing map)
    (handle : CE_HANDLE) :
    Refines issued { sharing with state := sharing.state.resetModuleIterator handle }
      (map.after (.resetModuleIterator handle)) := by
  refine refines.moved (by simp) (fun other present => ?_) (fun other present => ?_)
  · rw [HandleMap.after, otherCursor_kept map _ (map.modules?_eq_none_of_processes? present)]
    exact refines.processIter other present
  · rw [Table.lookup_insert, HandleMap.after, HandleMap.update_moveCursor_cursor,
      ← HandleMap.modules?, refines.moduleIter other present]
    by_cases same : other = handle
    · subst same
      obtain ⟨snapshot, found⟩ := Option.isSome_iff_exists.mp present
      simp [found]
    · cases map.modules? handle <;> simp [same]

theorem Refines.access (refines : Refines issued sharing map) (first : FirstEntry)
    {op : StateOp} (accesses : op.Accesses) :
    Refines issued { sharing with state := (op.apply first sharing.state).2 } (map.after op) := by
  cases op with
  | generateHandle | storeOpenProcess | storeProcessSnapshot | storeModuleSnapshot =>
      exact absurd accesses id
  | closeHandle handle => exact refines.closeHandle handle
  | nextProcessInfo handle => exact refines.nextProcessInfo handle
  | nextMemoryRegion handle => exact refines.nextMemoryRegion handle
  | resetProcessIterator handle => exact refines.resetProcessIterator handle
  | resetModuleIterator handle => exact refines.resetModuleIterator handle
  | getProcessID | getProcessHandleLegacyCE | containsProcessInfoHandle
  | containsMemoryRegionHandle | containsProcessIDHandle => exact refines

end Access

section Stored

variable (object : HandleObject) (state : ClientState) (handle other : CE_HANDLE)

theorem store_processIDs :
    (object.store state handle).handlesToProcessIDs.lookup other =
      match object.processID? with
      | some processID =>
          if other = handle then some processID else state.handlesToProcessIDs.lookup other
      | none => state.handlesToProcessIDs.lookup other := by
  cases object with
  | process processID => exact Table.lookup_insert ..
  | _ => rfl

theorem store_processes :
    (object.store state handle).handlesToProcessInfoSnapshots.lookup other =
      match object.processes? with
      | some snapshot =>
          if other = handle then
            some ((state.handlesToProcessInfoSnapshots.lookup handle).getD snapshot)
          else state.handlesToProcessInfoSnapshots.lookup other
      | none => state.handlesToProcessInfoSnapshots.lookup other := by
  cases object with
  | processes snapshot => exact Table.lookup_insertNew ..
  | _ => rfl

theorem store_modules :
    (object.store state handle).handlesToModuleSnapshots.lookup other =
      match object.modules? with
      | some snapshot =>
          if other = handle then
            some ((state.handlesToModuleSnapshots.lookup handle).getD snapshot)
          else state.handlesToModuleSnapshots.lookup other
      | none => state.handlesToModuleSnapshots.lookup other := by
  cases object with
  | modules snapshot => exact Table.lookup_insertNew ..
  | _ => rfl

theorem store_processIter :
    (object.store state handle).processIter.lookup other =
      match object.processes? with
      | some _ => if other = handle then some 0 else state.processIter.lookup other
      | none => state.processIter.lookup other := by
  cases object with
  | processes snapshot => exact Table.lookup_insert ..
  | _ => rfl

theorem store_moduleIter :
    (object.store state handle).moduleIter.lookup other =
      match object.modules? with
      | some _ => if other = handle then some 0 else state.moduleIter.lookup other
      | none => state.moduleIter.lookup other := by
  cases object with
  | modules snapshot => exact Table.lookup_insert ..
  | _ => rfl

end Stored

section Stores

variable [DecidableEq Client] {issued : Nat} {sharing : Sharing Client} {map : HandleMap Client}

theorem Refines.generate (refines : Refines issued sharing map) {client : Client}
    (object : HandleObject) (idle : sharing.storing client = none)
    (bounded : issued + 1 < 2 ^ 31) :
    map sharing.state.generateHandle.1 = .unissued ∧
      Refines (issued + 1)
        { state := sharing.state.generateHandle.2
          storing := Function.update sharing.storing client
            (some (sharing.state.generateHandle.1, object)) }
        (Function.update map sharing.state.generateHandle.1 (.inFlight client object)) := by
  obtain ⟨next, advanced⟩ := ClientState.generateHandle_of_lt refines.last bounded
  generalize sharing.state.generateHandle.1 = handle at next advanced
  have fresh : map handle = .unissued := by
    rw [refines.unissued handle, next]
    omega
  have objects (other : CE_HANDLE) :
      (Function.update map handle (.inFlight client object) other).object? =
        (map other).object? := by
    by_cases same : other = handle
    · subst same
      rw [Function.update_self, fresh]
      rfl
    · rw [Function.update_of_ne same]
  refine ⟨fresh, ?_, fun other => ?_, fun storer other stored => ?_, fun other => ?_,
    fun other => ?_, fun other => ?_, fun other present => ?_, fun other present => ?_⟩
  · rw [advanced]
    exact_mod_cast next
  · by_cases same : other = handle
    · subst same
      have positive : (0 : Int) < issued + 1 := by omega
      simp [next, positive]
    · rw [Function.update_of_ne same, refines.unissued other]
      have distinct : other.toInt ≠ issued + 1 := by
        rw [← next]
        exact fun equal => same (Int32.toInt_inj.mp equal)
      push_cast
      omega
  · dsimp only
    by_cases self : storer = client
    · subst self
      rw [Function.update_self]
      constructor
      · intro pending
        obtain ⟨rfl, rfl⟩ := Prod.mk.inj (Option.some.inj pending)
        rw [Function.update_self]
      · intro inFlight
        by_cases same : other = handle
        · subst same
          rw [Function.update_self] at inFlight
          rw [(HandleStatus.inFlight.inj inFlight).2]
        · rw [Function.update_of_ne same, ← refines.storing, idle] at inFlight
          simp at inFlight
    · rw [Function.update_of_ne self, refines.storing]
      by_cases same : other = handle
      · subst same
        simp [fresh, Ne.symm self]
      · rw [Function.update_of_ne same]
  · rw [HandleMap.processID?, objects, advanced]
    exact refines.processIDs other
  · rw [HandleMap.processes?, objects, advanced]
    exact refines.processes other
  · rw [HandleMap.modules?, objects, advanced]
    exact refines.modules other
  · rw [HandleMap.processes?, objects] at present
    have distinct : other ≠ handle := by
      rintro rfl
      simp [fresh, HandleStatus.object?] at present
    rw [Function.update_of_ne distinct, advanced]
    exact refines.processIter other present
  · rw [HandleMap.modules?, objects] at present
    have distinct : other ≠ handle := by
      rintro rfl
      simp [fresh, HandleStatus.object?] at present
    rw [Function.update_of_ne distinct, advanced]
    exact refines.moduleIter other present

theorem Refines.insert (refines : Refines issued sharing map) {client : Client}
    {handle : CE_HANDLE} {object : HandleObject}
    (pending : sharing.storing client = some (handle, object)) :
    map handle = .inFlight client object ∧
      Refines issued
        { state := object.store sharing.state handle
          storing := Function.update sharing.storing client none }
        (Function.update map handle (.live object 0)) := by
  have known := (refines.storing client handle object).mp pending
  have parts {Part : Type} (part : HandleObject → Option Part) (other : CE_HANDLE) :
      (Function.update map handle (.live object 0) other).object?.bind part =
        if other = handle then part object else (map other).object?.bind part := by
    by_cases same : other = handle
    · subst same
      simp [HandleStatus.object?]
    · rw [Function.update_of_ne same, if_neg same]
  have absent {Part : Type} (part : HandleObject → Option Part) :
      (map handle).object?.bind part = none := by
    rw [known]
    rfl
  refine ⟨known, ?_, fun other => ?_, fun storer other stored => ?_, fun other => ?_,
    fun other => ?_, fun other => ?_, fun other present => ?_, fun other present => ?_⟩
  · cases object <;> exact refines.last
  · by_cases same : other = handle
    · subst same
      have issuedBefore := (refines.unissued other).not.mp (by simp [known])
      simpa using not_not.mp issuedBefore
    · rw [Function.update_of_ne same, refines.unissued other]
  · dsimp only
    by_cases self : storer = client
    · subst self
      rw [Function.update_self]
      refine iff_of_false (by simp) fun inFlight => ?_
      by_cases same : other = handle
      · subst same
        simp at inFlight
      · rw [Function.update_of_ne same, ← refines.storing, pending] at inFlight
        exact same (Prod.mk.inj (Option.some.inj inFlight)).1.symm
    · rw [Function.update_of_ne self, refines.storing]
      by_cases same : other = handle
      · subst same
        simp [known, Ne.symm self]
      · rw [Function.update_of_ne same]
  · rw [HandleMap.processID?, parts, store_processIDs, refines.processIDs other]
    by_cases same : other = handle
    · subst same
      cases object.processID? <;> simp [HandleMap.processID?, absent]
    · cases object.processID? <;> simp [HandleMap.processID?, same]
  · rw [HandleMap.processes?, parts, store_processes, refines.processes other,
      refines.processes handle]
    by_cases same : other = handle
    · subst same
      cases object.processes? <;> simp [HandleMap.processes?, absent]
    · cases object.processes? <;> simp [HandleMap.processes?, same]
  · rw [HandleMap.modules?, parts, store_modules, refines.modules other, refines.modules handle]
    by_cases same : other = handle
    · subst same
      cases object.modules? <;> simp [HandleMap.modules?, absent]
    · cases object.modules? <;> simp [HandleMap.modules?, same]
  · rw [HandleMap.processes?, parts] at present
    rw [store_processIter]
    by_cases same : other = handle
    · subst same
      rw [if_pos rfl] at present
      obtain ⟨snapshot, found⟩ := Option.isSome_iff_exists.mp present
      simp [found, HandleStatus.cursor]
    · rw [if_neg same] at present
      rw [Function.update_of_ne same, ← refines.processIter other present]
      cases object.processes? <;> simp [same]
  · rw [HandleMap.modules?, parts] at present
    rw [store_moduleIter]
    by_cases same : other = handle
    · subst same
      rw [if_pos rfl] at present
      obtain ⟨snapshot, found⟩ := Option.isSome_iff_exists.mp present
      simp [found, HandleStatus.cursor]
    · rw [if_neg same] at present
      rw [Function.update_of_ne same, ← refines.moduleIter other present]
      cases object.modules? <;> simp [same]

def generatedCount (events : List (HandleEvent Client)) : Nat :=
  events.countP HandleEvent.generates

theorem Refines.step {after : Sharing Client} {event : HandleEvent Client}
    (refines : Refines issued sharing map) (step : Sharing.Step sharing event after)
    (bounded : issued + generatedCount [event] < 2 ^ 31) :
    ∃ next, HandleMap.Step map event next ∧
      Refines (issued + generatedCount [event]) after next := by
  cases step with
  | @generate client object idle =>
      obtain ⟨fresh, refined⟩ := refines.generate object idle bounded
      exact ⟨_, HandleMap.Step.generate fresh, refined⟩
  | @insert client handle object pending =>
      obtain ⟨inFlight, refined⟩ := refines.insert pending
      exact ⟨_, HandleMap.Step.insert inFlight, refined⟩
  | @access client op first accesses idle =>
      exact ⟨_, HandleMap.Step.access (refines.answers first op accesses),
        refines.access first accesses⟩

theorem Refines.run {finish : Sharing Client} {events : List (HandleEvent Client)}
    (refines : Refines issued sharing map) (run : Run Sharing.Step sharing events finish)
    (bounded : issued + generatedCount events < 2 ^ 31) :
    ∃ last, Run HandleMap.Step map events last ∧
      Refines (issued + generatedCount events) finish last := by
  refine run.simulate (fun past => Refines (issued + generatedCount past)) refines
    fun past before event after map begins refines step => ?_
  have count : generatedCount (past ++ [event]) =
      generatedCount past + generatedCount [event] := List.countP_append
  have within : generatedCount (past ++ [event]) ≤ generatedCount events :=
    begins.sublist.countP_le
  rw [count, ← Nat.add_assoc]
  exact refines.step step (by omega)

end Stores

/-- What every lookup of a handle shows when it designates the given object,
or, for `none`, nothing. -/
structure Shows (state : ClientState) (handle : CE_HANDLE) (object? : Option HandleObject) :
    Prop where
  processID : state.handlesToProcessIDs.lookup handle = object?.bind HandleObject.processID?
  processes : state.handlesToProcessInfoSnapshots.lookup handle =
    object?.bind HandleObject.processes?
  modules : state.handlesToModuleSnapshots.lookup handle = object?.bind HandleObject.modules?
  getProcessID : state.getProcessID handle = (object?.bind HandleObject.processID?).getD (-1)
  containsProcessID : state.containsProcessIDHandle handle =
    (object?.bind HandleObject.processID?).isSome
  containsProcesses : state.containsProcessInfoHandle handle =
    (object?.bind HandleObject.processes?).isSome
  containsModules : state.containsMemoryRegionHandle handle =
    (object?.bind HandleObject.modules?).isSome
  nextProcess : ∃ cursor, (state.nextProcessInfo handle).1 =
    (object?.bind HandleObject.processes?).bind fun snapshot => cursorEntry handle snapshot cursor
  nextModule : ∃ cursor, (state.nextMemoryRegion handle).1 =
    (object?.bind HandleObject.modules?).bind fun snapshot => cursorEntry handle snapshot cursor

theorem Refines.shows {issued : Nat} {sharing : Sharing Client} {map : HandleMap Client}
    (refines : Refines issued sharing map) (handle : CE_HANDLE) :
    Shows sharing.state handle (map handle).object? :=
  { processID := refines.processIDs handle
    processes := refines.processes handle
    modules := refines.modules handle
    getProcessID := refines.answers .any (.getProcessID handle) trivial
    containsProcessID := refines.answers .any (.containsProcessIDHandle handle) trivial
    containsProcesses := refines.answers .any (.containsProcessInfoHandle handle) trivial
    containsModules := refines.answers .any (.containsMemoryRegionHandle handle) trivial
    nextProcess := ⟨_, refines.answers .any (.nextProcessInfo handle) trivial⟩
    nextModule := ⟨_, refines.answers .any (.nextMemoryRegion handle) trivial⟩ }

theorem generatedCount_append (first second : List (HandleEvent Client)) :
    generatedCount (first ++ second) = generatedCount first + generatedCount second :=
  List.countP_append

/-- The shared state refines the abstract map: every response is the map's. Each
handle is generated once and designates the object it was generated for from the
insertion to the first close after it, and nothing at any other time. -/
theorem clientState_refines [DecidableEq Client] {final : Sharing Client}
    {events : List (HandleEvent Client)} (run : Run Sharing.Step {} events final)
    (bounded : generatedCount events ≤ 2 ^ 31 - 1) :
    (∃ map, Run HandleMap.Step HandleMap.start events map ∧
        ∀ handle, Shows final.state handle (map handle).object?) ∧
      ∀ past client object handle rest, events = past ++ .generate client object handle :: rest →
        (∀ other created, .generate other created handle ∉ past ∧
          .generate other created handle ∉ rest) ∧
        (.insert client ∉ rest → Shows final.state handle none) ∧
        ∀ between later, rest = between ++ .insert client :: later → .insert client ∉ between →
          Shows final.state handle
            (if later.any (HandleEvent.closes handle) then none else some object) := by
  constructor
  · obtain ⟨map, followed, refines⟩ := refines_start.run run (by omega)
    exact ⟨map, followed, refines.shows⟩
  · rintro past client object handle rest rfl
    obtain ⟨before, early, late⟩ := run.split
    obtain ⟨middle, generated, remaining⟩ := late.uncons
    have counted := generatedCount_append past (.generate client object handle :: rest)
    have countedRest :
        generatedCount (.generate client object handle :: rest) = generatedCount rest + 1 :=
      List.countP_cons_of_pos rfl
    have one : generatedCount [.generate client object handle] = 1 := rfl
    obtain ⟨start, followedPast, refinesPast⟩ := refines_start.run early (by omega)
    obtain ⟨issued, issuing, refinesIssued⟩ := refinesPast.step generated (by omega)
    obtain ⟨last, followed, refinesLast⟩ := refinesIssued.run remaining (by omega)
    have pending : issued handle = .inFlight client object := by
      cases issuing with
      | generate fresh => simp
    have fresh : start handle = .unissued := by
      cases issuing with
      | generate fresh => exact fresh
    refine ⟨fun other created => ⟨fun member => ?_, ?_⟩, fun waiting => ?_, ?_⟩
    · exact HandleMap.issued_of_generated followedPast member fresh
    · exact HandleMap.notGenerated_of_run followed (by simp [pending]) other created
    · have shows := refinesLast.shows handle
      rwa [HandleMap.inFlight_of_run followed pending waiting] at shows
    · rintro between later rfl waiting
      obtain ⟨waited, first, second⟩ := remaining.split
      obtain ⟨stored, storing, following⟩ := second.uncons
      have countedBetween := generatedCount_append between (.insert client :: later)
      have countedLater : generatedCount (.insert client :: later) = generatedCount later :=
        List.countP_cons_of_neg (by simp [HandleEvent.generates])
      obtain ⟨inFlight, followedFirst, refinesFirst⟩ := refinesIssued.run first (by omega)
      have still := HandleMap.inFlight_of_run followedFirst pending waiting
      cases storing with
      | @insert _ inserted created carried =>
          rw [(refinesFirst.storing client handle object).mpr still] at carried
          obtain ⟨rfl, rfl⟩ := Prod.mk.inj (Option.some.inj carried)
          obtain ⟨_, refinesStored⟩ :=
            refinesFirst.insert ((refinesFirst.storing client handle object).mpr still)
          obtain ⟨finish, followedLater, refinesFinish⟩ := refinesStored.run following (by omega)
          have shows := refinesFinish.shows handle
          have lifetime := HandleMap.live_of_run followedLater (Function.update_self handle _ _)
          split at lifetime
          · rename_i closed
            rw [lifetime] at shows
            rwa [if_pos closed]
          · rename_i opened
            obtain ⟨cursor, live⟩ := lifetime
            rw [live] at shows
            rwa [if_neg opened]

theorem clientState_refines_openProcess :
    ∃ final : Sharing Unit,
      Run Sharing.Step {} [.generate () (.process 4) 1, .insert ()] final ∧
        Shows final.state 1 (some (.process 4)) := by
  let generated : Sharing Unit :=
    { state := { lastHandleID := 1 }, storing := fun _ => some (1, .process 4) }
  let inserted : Sharing Unit :=
    { state := ({ lastHandleID := 1 } : ClientState).storeOpenProcess 4 1,
      storing := fun _ => none }
  have first : Sharing.Step {} (.generate () (.process 4) 1) generated := by
    have step := Sharing.Step.generate (.process 4) (rfl : ({} : Sharing Unit).storing () = none)
    have one : ({} : ClientState).generateHandle = (1, { lastHandleID := 1 }) := by decide
    have stored :
        Function.update (fun _ => none) () (some (1, .process 4)) = generated.storing := by
      funext client
      rfl
    rwa [one, stored] at step
  have second : Sharing.Step generated (.insert ()) inserted := by
    have step := Sharing.Step.insert
      (rfl : generated.storing () = some ((1 : CE_HANDLE), .process 4))
    have idle : Function.update generated.storing () none = inserted.storing := by
      funext client
      rfl
    rwa [idle] at step
  have run := (Run.single first).snoc second
  refine ⟨inserted, run, ?_⟩
  exact ((clientState_refines run (by decide)).2 [] () (.process 4) 1 [.insert ()] rfl).2.2 [] []
    rfl (by simp)

end CeServer
