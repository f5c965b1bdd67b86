import CeServer.Library.Transition
import CeServer.ClientState

/-!
The abstract map from handles to objects: what a handle designates, from its
generation over its insertion to its close.
-/

namespace CeServer

open Transition

inductive HandleObject
  | process (processID : Int32)
  | processes (snapshot : List ProcessInfo)
  | modules (snapshot : List MemoryRegion)

namespace HandleObject

def processID? : HandleObject → Option Int32
  | process processID => some processID
  | _ => none

def processes? : HandleObject → Option (List ProcessInfo)
  | processes snapshot => some snapshot
  | _ => none

def modules? : HandleObject → Option (List MemoryRegion)
  | modules snapshot => some snapshot
  | _ => none

/-- The insertion that follows the generation of the object's handle. -/
def store (object : HandleObject) (state : ClientState) (handle : CE_HANDLE) : ClientState :=
  match object with
  | process processID => state.storeOpenProcess processID handle
  | processes snapshot => state.storeProcessSnapshot snapshot handle
  | modules snapshot => state.storeModuleSnapshot snapshot handle

end HandleObject

inductive HandleEvent (Client : Type)
  | generate (client : Client) (object : HandleObject) (handle : CE_HANDLE)
  | insert (client : Client)
  | access (client : Client) (op : StateOp) (response : op.Response)

def HandleEvent.generates {Client : Type} : HandleEvent Client → Bool
  | generate .. => true
  | _ => false

def HandleEvent.closes {Client : Type} (handle : CE_HANDLE) : HandleEvent Client → Bool
  | access _ (.closeHandle closed) _ => closed == handle
  | _ => false

inductive HandleStatus (Client : Type)
  | unissued
  | inFlight (client : Client) (object : HandleObject)
  | live (object : HandleObject) (cursor : Int32)
  | closed

abbrev HandleMap (Client : Type) := CE_HANDLE → HandleStatus Client

namespace HandleStatus

variable {Client : Type}

def object? : HandleStatus Client → Option HandleObject
  | live object _ => some object
  | _ => none

def cursor : HandleStatus Client → Int32
  | live _ cursor => cursor
  | _ => 0

def close : HandleStatus Client → HandleStatus Client
  | live _ _ => closed
  | status => status

/-- The status with another cursor, when it is that of a live snapshot of one kind. -/
def moveCursor {Entry : Type} (snapshot? : HandleObject → Option (List Entry))
    (move : List Entry → Int32 → Int32) : HandleStatus Client → HandleStatus Client
  | live object cursor =>
      match snapshot? object with
      | some snapshot => live object (move snapshot cursor)
      | none => live object cursor
  | status => status

end HandleStatus

/-- A signed cursor as the 64-bit unsigned index it is compared as. -/
def cursorIndex (cursor : Int32) : Nat := cursor.toInt64.toUInt64.toNat

def cursorEntry {Entry : Type} (handle : CE_HANDLE) (snapshot : List Entry) (cursor : Int32) :
    Option EntryPointer :=
  if cursorIndex cursor ≥ snapshot.length then none else some ⟨handle, cursorIndex cursor⟩

def cursorNext {Entry : Type} (snapshot : List Entry) (cursor : Int32) : Int32 :=
  if cursorIndex cursor ≥ snapshot.length then cursor else cursor + 1

namespace HandleMap

variable {Client : Type}

def processID? (map : HandleMap Client) (handle : CE_HANDLE) : Option Int32 :=
  (map handle).object?.bind HandleObject.processID?

def processes? (map : HandleMap Client) (handle : CE_HANDLE) : Option (List ProcessInfo) :=
  (map handle).object?.bind HandleObject.processes?

def modules? (map : HandleMap Client) (handle : CE_HANDLE) : Option (List MemoryRegion) :=
  (map handle).object?.bind HandleObject.modules?

def Answers (map : HandleMap Client) : (op : StateOp) → op.Response → Prop
  | .getProcessID handle, response => response = (map.processID? handle).getD (-1)
  | .containsProcessIDHandle handle, response => response = (map.processID? handle).isSome
  | .containsProcessInfoHandle handle, response => response = (map.processes? handle).isSome
  | .containsMemoryRegionHandle handle, response => response = (map.modules? handle).isSome
  | .nextProcessInfo handle, response =>
      response = (map.processes? handle).bind fun snapshot =>
        cursorEntry handle snapshot (map handle).cursor
  | .nextMemoryRegion handle, response =>
      response = (map.modules? handle).bind fun snapshot =>
        cursorEntry handle snapshot (map handle).cursor
  -- any live process may come first in the iteration order
  | .getProcessHandleLegacyCE, response =>
      (∃ handle, map.processID? handle = some response) ∨
        response = -1 ∧ ∀ handle, map.processID? handle = none
  | _, _ => True

def after (map : HandleMap Client) : StateOp → HandleMap Client
  | .closeHandle handle => Function.update map handle (map handle).close
  | .nextProcessInfo handle =>
      Function.update map handle ((map handle).moveCursor HandleObject.processes? cursorNext)
  | .nextMemoryRegion handle =>
      Function.update map handle ((map handle).moveCursor HandleObject.modules? cursorNext)
  | .resetProcessIterator handle =>
      Function.update map handle ((map handle).moveCursor HandleObject.processes? fun _ _ => 0)
  | .resetModuleIterator handle =>
      Function.update map handle ((map handle).moveCursor HandleObject.modules? fun _ _ => 0)
  | _ => map

inductive Step : HandleMap Client → HandleEvent Client → HandleMap Client → Prop
  | generate {map : HandleMap Client} {client : Client} {object : HandleObject}
      {handle : CE_HANDLE} (fresh : map handle = .unissued) :
      Step map (.generate client object handle)
        (Function.update map handle (.inFlight client object))
  | insert {map : HandleMap Client} {client : Client} {object : HandleObject}
      {handle : CE_HANDLE} (pending : map handle = .inFlight client object) :
      Step map (.insert client) (Function.update map handle (.live object 0))
  | access {map : HandleMap Client} {client : Client} {op : StateOp} {response : op.Response}
      (answers : map.Answers op response) :
      Step map (.access client op response) (map.after op)

def start : HandleMap Client := fun _ => .unissued

theorem moveCursor_cases {Entry : Type} (snapshot? : HandleObject → Option (List Entry))
    (move : List Entry → Int32 → Int32) (status : HandleStatus Client) :
    status.moveCursor snapshot? move = status ∨
      ∃ object cursor moved, status = .live object cursor ∧
        status.moveCursor snapshot? move = .live object moved := by
  cases status with
  | unissued | inFlight | closed => exact Or.inl rfl
  | live object cursor =>
      cases found : snapshot? object with
      | none => exact Or.inl (by simp [HandleStatus.moveCursor, found])
      | some snapshot =>
          exact Or.inr ⟨object, cursor, move snapshot cursor, rfl,
            by simp [HandleStatus.moveCursor, found]⟩

@[simp] theorem moveCursor_object? {Entry : Type} (snapshot? : HandleObject → Option (List Entry))
    (move : List Entry → Int32 → Int32) (status : HandleStatus Client) :
    (status.moveCursor snapshot? move).object? = status.object? := by
  rcases moveCursor_cases snapshot? move status with kept | ⟨object, cursor, moved, live, result⟩
  · rw [kept]
  · cases status with
    | live created position =>
        obtain ⟨rfl, rfl⟩ := HandleStatus.live.inj live
        rw [result]
        rfl
    | _ => simp at live

theorem moveCursor_cursor {Entry : Type} (snapshot? : HandleObject → Option (List Entry))
    (move : List Entry → Int32 → Int32) (status : HandleStatus Client) :
    (status.moveCursor snapshot? move).cursor =
      match status.object?.bind snapshot? with
      | some snapshot => move snapshot status.cursor
      | none => status.cursor := by
  cases status with
  | live object cursor =>
      cases found : snapshot? object <;>
        simp [HandleStatus.moveCursor, HandleStatus.object?, HandleStatus.cursor, found]
  | _ => rfl

theorem update_moveCursor_cursor {Entry : Type}
    (snapshot? : HandleObject → Option (List Entry)) (move : List Entry → Int32 → Int32)
    (map : HandleMap Client) (handle other : CE_HANDLE) :
    (Function.update map handle ((map handle).moveCursor snapshot? move) other).cursor =
      match (map handle).object?.bind snapshot? with
      | some snapshot =>
          if other = handle then move snapshot (map handle).cursor else (map other).cursor
      | none => (map other).cursor := by
  by_cases same : other = handle
  · subst same
    rw [Function.update_self, moveCursor_cursor]
    simp
  · rw [Function.update_of_ne same]
    cases (map handle).object?.bind snapshot? <;> simp [same]

theorem processes?_eq_none_of_modules? (map : HandleMap Client) {handle : CE_HANDLE}
    (modules : (map.modules? handle).isSome) : map.processes? handle = none := by
  unfold modules? at modules
  unfold processes?
  cases known : (map handle).object? with
  | none => rfl
  | some object => cases object <;> simp_all [HandleObject.modules?, HandleObject.processes?]

theorem modules?_eq_none_of_processes? (map : HandleMap Client) {handle : CE_HANDLE}
    (processes : (map.processes? handle).isSome) : map.modules? handle = none := by
  unfold processes? at processes
  unfold modules?
  cases known : (map handle).object? with
  | none => rfl
  | some object => cases object <;> simp_all [HandleObject.modules?, HandleObject.processes?]

theorem after_closeHandle (map : HandleMap Client) (handle : CE_HANDLE) :
    map.after (.closeHandle handle) handle = (map handle).close := by
  simp [after]

/-- Short of its own close, an operation moves at most the cursor of a handle. -/
theorem after_cases (map : HandleMap Client) {op : StateOp} {handle : CE_HANDLE}
    (other : op ≠ .closeHandle handle) :
    map.after op handle = map handle ∨
      ∃ object cursor moved, map handle = .live object cursor ∧
        map.after op handle = .live object moved := by
  cases op with
  | closeHandle closed =>
      have distinct : handle ≠ closed := by
        rintro rfl
        exact other rfl
      exact Or.inl (Function.update_of_ne distinct _ _)
  | nextProcessInfo target | nextMemoryRegion target | resetProcessIterator target
  | resetModuleIterator target =>
      by_cases same : handle = target
      · subst same
        simp only [after, Function.update_self]
        exact moveCursor_cases _ _ _
      · exact Or.inl (Function.update_of_ne same _ _)
  | _ => exact Or.inl rfl

theorem after_of_notLive (map : HandleMap Client) {handle : CE_HANDLE} (op : StateOp)
    (notLive : ∀ object cursor, map handle ≠ .live object cursor) :
    map.after op handle = map handle := by
  by_cases closing : op = .closeHandle handle
  · subst closing
    rw [after_closeHandle]
    cases status : map handle with
    | live object cursor => exact absurd status (notLive object cursor)
    | _ => rfl
  · rcases after_cases map closing with kept | ⟨object, cursor, _, live, _⟩
    · exact kept
    · exact absurd live (notLive object cursor)

theorem after_of_live (map : HandleMap Client) {handle : CE_HANDLE} (op : StateOp)
    {object : HandleObject} {cursor : Int32} (live : map handle = .live object cursor) :
    map.after op handle = .closed ∨ ∃ moved, map.after op handle = .live object moved := by
  by_cases closing : op = .closeHandle handle
  · subst closing
    rw [after_closeHandle, live]
    exact Or.inl rfl
  · rcases after_cases map closing with kept | ⟨other, position, moved, known, result⟩
    · exact Or.inr ⟨cursor, kept.trans live⟩
    · rw [live] at known
      obtain ⟨rfl, _⟩ := HandleStatus.live.inj known
      exact Or.inr ⟨moved, result⟩

theorem after_unissued_iff (map : HandleMap Client) (op : StateOp) (handle : CE_HANDLE) :
    map.after op handle = .unissued ↔ map handle = .unissued := by
  cases status : map handle with
  | live object cursor =>
      rcases after_of_live map op status with closed | ⟨moved, result⟩ <;> simp [*]
  | _ => rw [after_of_notLive map op (by simp [status]), status]

theorem after_inFlight_iff (map : HandleMap Client) (op : StateOp) (handle : CE_HANDLE)
    (client : Client) (object : HandleObject) :
    map.after op handle = .inFlight client object ↔ map handle = .inFlight client object := by
  cases status : map handle with
  | live object cursor =>
      rcases after_of_live map op status with closed | ⟨moved, result⟩ <;> simp [*]
  | _ => rw [after_of_notLive map op (by simp [status]), status]

theorem after_object? (map : HandleMap Client) {op : StateOp} {handle : CE_HANDLE}
    (other : op ≠ .closeHandle handle) :
    (map.after op handle).object? = (map handle).object? := by
  cases op with
  | closeHandle closed =>
      have distinct : handle ≠ closed := by
        rintro rfl
        exact other rfl
      rw [after, Function.update_of_ne distinct]
  | nextProcessInfo target | nextMemoryRegion target | resetProcessIterator target
  | resetModuleIterator target =>
      by_cases same : handle = target
      · subst same
        simp [after]
      · rw [after, Function.update_of_ne same]
  | _ => rfl

section Steps

variable {before after : HandleMap Client} {event : HandleEvent Client} {handle : CE_HANDLE}

theorem closes_iff {client : Client} {op : StateOp} {response : op.Response} :
    (HandleEvent.access client op response).closes handle = true ↔ op = .closeHandle handle := by
  cases op <;> simp [HandleEvent.closes]

theorem Step.issued (step : Step before event after) (known : before handle ≠ .unissued) :
    after handle ≠ .unissued := by
  cases step with
  | @generate client object issued fresh =>
      by_cases same : handle = issued
      · subst same
        exact absurd fresh known
      · rwa [Function.update_of_ne same]
  | @insert client object stored pending =>
      by_cases same : handle = stored
      · subst same
        simp
      · rwa [Function.update_of_ne same]
  | @access client op response answers =>
      by_cases closing : op = .closeHandle handle
      · subst closing
        rw [after_closeHandle]
        cases status : before handle <;> simp_all [HandleStatus.close]
      · rcases after_cases before closing with kept | ⟨object, cursor, moved, _, result⟩
        · rwa [kept]
        · rw [result]
          simp

theorem Step.closed (step : Step before event after) (done : before handle = .closed) :
    after handle = .closed := by
  cases step with
  | @generate client object issued fresh =>
      by_cases same : handle = issued
      · subst same
        simp [done] at fresh
      · rwa [Function.update_of_ne same]
  | @insert client object stored pending =>
      by_cases same : handle = stored
      · subst same
        simp [done] at pending
      · rwa [Function.update_of_ne same]
  | @access client op response answers =>
      by_cases closing : op = .closeHandle handle
      · subst closing
        rw [after_closeHandle, done]
        rfl
      · rcases after_cases before closing with kept | ⟨object, cursor, moved, live, _⟩
        · rwa [kept]
        · simp [done] at live

theorem Step.inFlight (step : Step before event after) {client : Client} {object : HandleObject}
    (pending : before handle = .inFlight client object) (other : event ≠ .insert client) :
    after handle = .inFlight client object := by
  cases step with
  | @generate generator created issued fresh =>
      have distinct : handle ≠ issued := by
        rintro rfl
        simp [pending] at fresh
      rwa [Function.update_of_ne distinct]
  | @insert storer created stored waiting =>
      have distinct : handle ≠ stored := by
        rintro rfl
        rw [pending] at waiting
        obtain ⟨rfl, _⟩ := HandleStatus.inFlight.inj waiting
        exact other rfl
      rwa [Function.update_of_ne distinct]
  | @access accessor op response answers => exact (after_inFlight_iff ..).mpr pending

/-- A live object stays, with some cursor, until the close of its own handle. -/
theorem Step.live (step : Step before event after) {object : HandleObject} {cursor : Int32}
    (current : before handle = .live object cursor) :
    (event.closes handle = true → after handle = .closed) ∧
      (event.closes handle = false → ∃ moved, after handle = .live object moved) := by
  cases step with
  | @generate client created issued fresh =>
      have distinct : handle ≠ issued := by
        rintro rfl
        simp [current] at fresh
      rw [Function.update_of_ne distinct]
      exact ⟨by simp [HandleEvent.closes], fun _ => ⟨cursor, current⟩⟩
  | @insert client created stored pending =>
      have distinct : handle ≠ stored := by
        rintro rfl
        simp [current] at pending
      rw [Function.update_of_ne distinct]
      exact ⟨by simp [HandleEvent.closes], fun _ => ⟨cursor, current⟩⟩
  | @access client op response answers =>
      constructor
      · intro closing
        obtain rfl := closes_iff.mp closing
        rw [after_closeHandle, current]
        rfl
      · intro opened
        have other : op ≠ .closeHandle handle := by
          intro same
          simp [closes_iff.mpr same] at opened
        rcases after_cases before other with kept | ⟨created, position, moved, known, result⟩
        · exact ⟨cursor, kept.trans current⟩
        · rw [current] at known
          obtain ⟨rfl, _⟩ := HandleStatus.live.inj known
          exact ⟨moved, result⟩

end Steps

section Runs

variable {before after : HandleMap Client} {events : List (HandleEvent Client)}
  {handle : CE_HANDLE}

theorem issued_of_run (run : Run Step before events after) (known : before handle ≠ .unissued) :
    after handle ≠ .unissued :=
  run.invariant known fun _ _ _ holds step => step.issued holds

theorem inFlight_of_run (run : Run Step before events after) {client : Client}
    {object : HandleObject} (pending : before handle = .inFlight client object)
    (waiting : .insert client ∉ events) : after handle = .inFlight client object := by
  induction run with
  | nil => exact pending
  | @snoc past middle event finish earlier last ih =>
      rw [List.mem_append, not_or, List.mem_singleton] at waiting
      exact last.inFlight (ih waiting.1) (Ne.symm waiting.2)

theorem issued_of_generated (run : Run Step before events after) {client : Client}
    {object : HandleObject} (generated : .generate client object handle ∈ events) :
    after handle ≠ .unissued := by
  induction run with
  | nil => simp at generated
  | @snoc past middle event finish earlier last ih =>
      rcases List.mem_append.mp generated with early | late
      · exact last.issued (ih early)
      · obtain rfl := List.mem_singleton.mp late
        cases last with
        | generate fresh => simp

theorem notGenerated_of_run (run : Run Step before events after)
    (known : before handle ≠ .unissued) (client : Client) (object : HandleObject) :
    .generate client object handle ∉ events := by
  induction run with
  | nil => simp
  | @snoc past middle event finish earlier last ih =>
      intro member
      rcases List.mem_append.mp member with early | late
      · exact ih early
      · obtain rfl := List.mem_singleton.mp late
        cases last with
        | generate fresh => exact issued_of_run earlier known fresh

/-- From its insertion on a handle designates its object until it is closed, and
nothing after that. -/
theorem live_of_run (run : Run Step before events after) {object : HandleObject} {cursor : Int32}
    (current : before handle = .live object cursor) :
    if events.any (HandleEvent.closes handle) then after handle = .closed
    else ∃ moved, after handle = .live object moved := by
  induction run with
  | nil => exact ⟨cursor, current⟩
  | @snoc past middle event finish earlier last ih =>
      rw [List.any_append]
      cases closedBefore : past.any (HandleEvent.closes handle) with
      | true =>
          rw [closedBefore] at ih
          simpa using last.closed ih
      | false =>
          rw [closedBefore] at ih
          obtain ⟨position, known⟩ := ih
          have moves := last.live known
          cases closing : event.closes handle with
          | true => simpa [closing] using moves.1 closing
          | false => simpa [closing] using moves.2 closing

end Runs

end HandleMap

end CeServer
