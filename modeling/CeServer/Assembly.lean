import CeServer.HandleTargets
import CeServer.Library.Paths
import CeServer.Linearizability

/-!
The whole server: connections whose handlers call `Memory::read` and
`Memory::write`, and the threads of these calls in `Memory` are the connections'.
-/

namespace CeServer

open LittleEndian Interaction Transition Memory

inductive MemoryCall
  | read (request : ReadRequest)
  | write (request : WriteRequest)
  deriving DecidableEq

namespace MemoryCall

def op : MemoryCall → Op
  | read request => .memoryRead request.pid request.address request.size
  | write request => .memoryWrite request.pid request.address request.bytes

def event {Thread Device : Type} (thread : Thread) : MemoryCall → MemoryEvent Thread Device
  | read request => .callRead thread request
  | write request => .callWrite thread request

end MemoryCall

def Op.memoryCall? : Op → Option MemoryCall
  | .memoryRead processID address size => some (.read ⟨processID, address, size⟩)
  | .memoryWrite processID address bytes => some (.write ⟨processID, address, bytes⟩)
  | _ => none

theorem Op.memoryCall?_eq_some {op : Op} {call : MemoryCall} (calls : op.memoryCall? = some call) :
    op = call.op := by
  cases op <;> simp only [memoryCall?, reduceCtorEq, Option.some.injEq] at calls
  all_goals
    subst calls
    rfl

/-- The call a thread has entered and when. -/
def ThreadState.call? : ThreadState → Option (Nat × MemoryCall)
  | .idle | .threw => none
  | .calling start request | .reading start request _ _ => some (start, .read request)
  | .writing start request | .acquired start request | .written start request _ _ =>
      some (start, .write request)

/-- The steps of `Memory` at which a thread enters a call or leaves it. -/
def MemoryEvent.crosses {Thread Device : Type} : MemoryEvent Thread Device → Bool
  | .callRead .. | .callWrite .. | .returnRead _ | .returnWrite _ => true
  | _ => false

/-- A command that was served. The times are steps of `Memory`. -/
structure FinishedCommand (Connection : Type) where
  connection : Connection
  command : UInt8
  keepSocketOpen : Bool
  start : Nat
  finish : Nat
  trace : List (Event Op Op.Response)

structure Assembly (Connection Device Scatter : Type) where
  serving : Serving Connection := {}
  memory : MemoryState Connection Device Scatter
  -- history: no step reads what follows
  commands : Connection → UInt8 := fun _ => 0
  starts : Connection → Nat := fun _ => 0
  traces : Connection → List (Event Op Op.Response) := fun _ => []
  finished : List (FinishedCommand Connection) := []

inductive AssemblyEvent (Connection Device : Type)
  | dispatch (connection : Connection) (command : UInt8)
  | respond (connection : Connection) (first : FirstEntry) (outside : (op : Op) → op.Response)
  | enter (connection : Connection)
  | memory (event : MemoryEvent Connection Device)
  | leave (connection : Connection)
  | finish (connection : Connection)

namespace Assembly

variable {Connection Device Scatter : Type}

def start (device : Device) : Assembly Connection Device Scatter :=
  { memory := Memory.start device }

variable [DecidableEq Connection]

def logged (assembly : Assembly Connection Device Scatter) (connection : Connection)
    (event : Event Op Op.Response) : Assembly Connection Device Scatter :=
  { assembly with
    traces := Function.update assembly.traces connection (assembly.traces connection ++ [event]) }

/-- A call of `Memory` has returned to the handler that made it. -/
def resumed (assembly : Assembly Connection Device Scatter) (connection : Connection)
    (memory : MemoryState Connection Device Scatter) (event : Event Op Op.Response)
    (rest : Handler Bool) : Assembly Connection Device Scatter :=
  { assembly with
    memory
    serving := { assembly.serving with
      running := Function.update assembly.serving.running connection (some rest) } }.logged
    connection event

def next (dma : Dma Device Scatter) (assembly : Assembly Connection Device Scatter) :
    AssemblyEvent Connection Device → Option (Assembly Connection Device Scatter)
  | .dispatch connection command =>
      (assembly.serving.next (.dispatch connection command)).map fun serving =>
        { assembly with
          serving
          commands := Function.update assembly.commands connection command
          starts := Function.update assembly.starts connection assembly.memory.past.length
          traces := Function.update assembly.traces connection [] }
  | .respond connection first outside =>
      match assembly.serving.running connection with
      | some (.call op _) =>
          if op.memoryCall?.isSome then none
          else (Serving.answer first outside assembly.serving.state op).bind fun answered =>
            (assembly.serving.next (.respond connection first outside)).map fun serving =>
              { assembly with serving }.logged connection ⟨op, answered.1⟩
      | _ => none
  | .enter connection =>
      match (assembly.serving.pending connection).bind Op.memoryCall? with
      | some call =>
          (Memory.next dma assembly.memory (call.event connection)).map fun memory =>
            { assembly with memory }
      | none => none
  | .memory event =>
      if event.crosses then none
      else (Memory.next dma assembly.memory event).map fun memory => { assembly with memory }
  | .leave connection =>
      match assembly.serving.running connection, assembly.memory.threads connection with
      | some (.call (.memoryRead processID address size) rest),
          .reading _ _ item (.returning read) =>
          let response := (read, (assembly.memory.items item).data.take read.toNat)
          (Memory.next dma assembly.memory (.returnRead connection)).map fun memory =>
            assembly.resumed connection memory ⟨.memoryRead processID address size, response⟩
              (rest response)
      | some (.call (.memoryWrite processID address bytes) rest), .written _ request _ success =>
          let response := writeResult request success
          (Memory.next dma assembly.memory (.returnWrite connection)).map fun memory =>
            assembly.resumed connection memory ⟨.memoryWrite processID address bytes, response⟩
              (rest response)
      | _, _ => none
  | .finish connection =>
      match assembly.serving.running connection with
      | some (.ret keepSocketOpen) =>
          (assembly.serving.next (.finish connection)).map fun serving =>
            { assembly with
              serving
              finished :=
                { connection, command := assembly.commands connection, keepSocketOpen
                  start := assembly.starts connection, finish := assembly.memory.past.length
                  trace := assembly.traces connection } :: assembly.finished }
      | _ => none

/-- What a step does to the connections and to `Memory`. -/
inductive Move (dma : Dma Device Scatter) (before : Assembly Connection Device Scatter) :
    AssemblyEvent Connection Device → Assembly Connection Device Scatter → Prop
  | dispatch {connection : Connection} {command : UInt8} {serving : Serving Connection}
      (idle : before.serving.running connection = none)
      (served : Steps Serving.next before.serving (.dispatch connection command) serving) :
      Move dma before (.dispatch connection command) { before with
        serving
        commands := Function.update before.commands connection command
        starts := Function.update before.starts connection before.memory.past.length
        traces := Function.update before.traces connection [] }
  | respond {connection : Connection} {first : FirstEntry} {outside : (op : Op) → op.Response}
      {op : Op} {rest : op.Response → Handler Bool} {response : op.Response}
      {state : ClientState} {serving : Serving Connection}
      (running : before.serving.running connection = some (.call op rest))
      (apart : op.memoryCall? = none)
      (answered : Serving.answer first outside before.serving.state op = some (response, state))
      (served : Steps Serving.next before.serving (.respond connection first outside) serving) :
      Move dma before (.respond connection first outside)
        ({ before with serving }.logged connection ⟨op, response⟩)
  | enter {connection : Connection} {call : MemoryCall}
      {memory : MemoryState Connection Device Scatter}
      (pending : before.serving.pending connection = some call.op)
      (entered : Steps (Memory.next dma) before.memory (call.event connection) memory) :
      Move dma before (.enter connection) { before with memory }
  | memory {event : MemoryEvent Connection Device} {memory : MemoryState Connection Device Scatter}
      (inside : event.crosses = false)
      (taken : Steps (Memory.next dma) before.memory event memory) :
      Move dma before (.memory event) { before with memory }
  | leaveRead {connection : Connection} {processID : Int32} {address size : UInt64}
      {rest : UInt64 × List UInt8 → Handler Bool} {start : Nat} {request : ReadRequest}
      {item : ItemId} {read : UInt64} {memory : MemoryState Connection Device Scatter}
      (running : before.serving.running connection =
        some (.call (.memoryRead processID address size) rest))
      (returning : before.memory.threads connection =
        .reading start request item (.returning read))
      (returned : Steps (Memory.next dma) before.memory (.returnRead connection) memory) :
      Move dma before (.leave connection) (before.resumed connection memory
        ⟨.memoryRead processID address size,
          (read, (before.memory.items item).data.take read.toNat)⟩
        (rest (read, (before.memory.items item).data.take read.toNat)))
  | leaveWrite {connection : Connection} {processID : Int32} {address : UInt64}
      {bytes : List UInt8} {rest : UInt64 → Handler Bool} {start : Nat} {request : WriteRequest}
      {effect : Nat} {success : Bool} {memory : MemoryState Connection Device Scatter}
      (running : before.serving.running connection =
        some (.call (.memoryWrite processID address bytes) rest))
      (written : before.memory.threads connection = .written start request effect success)
      (returned : Steps (Memory.next dma) before.memory (.returnWrite connection) memory) :
      Move dma before (.leave connection) (before.resumed connection memory
        ⟨.memoryWrite processID address bytes, writeResult request success⟩
        (rest (writeResult request success)))
  | finish {connection : Connection} {keepSocketOpen : Bool} {serving : Serving Connection}
      (running : before.serving.running connection = some (.ret keepSocketOpen))
      (served : Steps Serving.next before.serving (.finish connection) serving) :
      Move dma before (.finish connection) { before with
        serving
        finished :=
          { connection, command := before.commands connection, keepSocketOpen
            start := before.starts connection, finish := before.memory.past.length
            trace := before.traces connection } :: before.finished }

variable {dma : Dma Device Scatter} {before after : Assembly Connection Device Scatter}
  {event : AssemblyEvent Connection Device}

theorem move_of_next (taken : Steps (next dma) before event after) :
    Move dma before event after := by
  cases event with
  | dispatch connection command =>
      obtain ⟨serving, served, rfl⟩ := Option.map_eq_some_iff.mp taken
      refine .dispatch ?_ served
      simp only [Serving.next] at served
      split at served
      · cases served
      · assumption
  | respond connection first outside =>
      simp only [Steps, next] at taken
      split at taken
      · rename_i op rest running
        split at taken
        · cases taken
        · rename_i apart
          obtain ⟨⟨response, state⟩, answered, taken⟩ := Option.bind_eq_some_iff.mp taken
          obtain ⟨serving, served, rfl⟩ := Option.map_eq_some_iff.mp taken
          exact .respond running (by simpa using apart) answered served
      · cases taken
  | enter connection =>
      simp only [Steps, next] at taken
      split at taken
      · rename_i call pending
        obtain ⟨op, waits, calls⟩ := Option.bind_eq_some_iff.mp pending
        obtain ⟨memory, entered, rfl⟩ := Option.map_eq_some_iff.mp taken
        rw [Op.memoryCall?_eq_some calls] at waits
        exact .enter waits entered
      · cases taken
  | memory event =>
      simp only [Steps, next] at taken
      split at taken
      · cases taken
      · rename_i inside
        obtain ⟨memory, stepped, rfl⟩ := Option.map_eq_some_iff.mp taken
        exact .memory (Bool.eq_false_iff.mpr inside) stepped
  | leave connection =>
      simp only [Steps, next] at taken
      split at taken
      · rename_i running returning
        obtain ⟨memory, returned, rfl⟩ := Option.map_eq_some_iff.mp taken
        exact .leaveRead running returning returned
      · rename_i running written
        obtain ⟨memory, returned, rfl⟩ := Option.map_eq_some_iff.mp taken
        exact .leaveWrite running written returned
      · cases taken
  | finish connection =>
      simp only [Steps, next] at taken
      split at taken
      · rename_i keepSocketOpen running
        obtain ⟨serving, served, rfl⟩ := Option.map_eq_some_iff.mp taken
        exact .finish running served
      · cases taken

/-- No handle is closed while a command that has checked it still looks it up. -/
def Undisturbed (assembly : Assembly Connection Device Scatter) :
    AssemblyEvent Connection Device → Prop
  | .respond connection first outside =>
      assembly.serving.Undisturbed (.respond connection first outside)
  | _ => True

/-- No buffer is released before it was copied either. -/
def Careful (dma : Dma Device Scatter) (assembly : Assembly Connection Device Scatter)
    (event : AssemblyEvent Connection Device) : Prop :=
  assembly.Undisturbed event ∧ ∀ inside, event = .memory inside →
    ReleasedAfterCopy dma assembly.memory inside

/-- Answers with what `Memory` returned. -/
noncomputable def returns (read : UInt64 × List UInt8) (written : UInt64) :
    (op : Op) → op.Response
  | .memoryRead .. => read
  | .memoryWrite .. => written
  | op => (Environment.healthy.respond op ()).1

theorem serving_read {serving : Serving Connection} {connection : Connection} {processID : Int32}
    {address size : UInt64} {rest : UInt64 × List UInt8 → Handler Bool}
    (running : serving.running connection = some (.call (.memoryRead processID address size) rest))
    (response : UInt64 × List UInt8) :
    Steps Serving.next serving (.respond connection .any (returns response 0)) { serving with
      running := Function.update serving.running connection (some (rest response)) } := by
  simp only [Steps, Serving.next, running, Serving.answer, Option.map_some, returns,
    Serving.checkedAfter, Serving.openedAfter, Function.update_eq_self]

theorem serving_write {serving : Serving Connection} {connection : Connection} {processID : Int32}
    {address : UInt64} {bytes : List UInt8} {rest : UInt64 → Handler Bool}
    (running : serving.running connection =
      some (.call (.memoryWrite processID address bytes) rest))
    (response : UInt64) :
    Steps Serving.next serving (.respond connection .any (returns (0, []) response)) { serving with
      running := Function.update serving.running connection (some (rest response)) } := by
  simp only [Steps, Serving.next, running, Serving.answer, Option.map_some, returns,
    Serving.checkedAfter, Serving.openedAfter, Function.update_eq_self]

omit [DecidableEq Connection] in
theorem pending_of_running {serving : Serving Connection} {connection : Connection} {op : Op}
    {rest : op.Response → Handler Bool}
    (running : serving.running connection = some (.call op rest)) :
    serving.pending connection = some op := by
  simp only [Serving.pending, running]

omit [DecidableEq Connection] in
theorem closing?_of_calls {serving : Serving Connection} {connection : Connection} {op : Op}
    {rest : op.Response → Handler Bool} {first : FirstEntry} {outside : (op : Op) → op.Response}
    (running : serving.running connection = some (.call op rest))
    (calls : op.memoryCall?.isSome) :
    serving.closing? (.respond connection first outside) = none := by
  simp only [Serving.closing?, pending_of_running running]
  cases op with
  | state op => cases calls
  | _ => rfl

/-- A step is at most one step of the connections. -/
theorem Move.serving_step (move : Move dma before event after) :
    after.serving = before.serving ∨ ∃ other,
      Steps Serving.next before.serving other after.serving ∧
        (before.serving.closing? other = none ∨ ∃ connection first outside,
          other = .respond connection first outside ∧
            event = .respond connection first outside) := by
  cases move with
  | dispatch idle served => exact Or.inr ⟨_, served, Or.inl rfl⟩
  | respond running apart answered served =>
      exact Or.inr ⟨_, served, Or.inr ⟨_, _, _, rfl, rfl⟩⟩
  | enter | memory => exact Or.inl rfl
  | leaveRead running =>
      exact Or.inr ⟨_, serving_read running _, Or.inl (closing?_of_calls running rfl)⟩
  | leaveWrite running =>
      exact Or.inr ⟨_, serving_write running _, Or.inl (closing?_of_calls running rfl)⟩
  | finish running served => exact Or.inr ⟨_, served, Or.inl rfl⟩

theorem Move.serving_undisturbed (move : Move dma before event after)
    (undisturbed : before.Undisturbed event) :
    after.serving = before.serving ∨ ∃ other,
      Restrict (Steps Serving.next) Serving.Undisturbed before.serving other after.serving := by
  rcases move.serving_step with same | ⟨other, served, quiet | ⟨_, _, _, rfl, rfl⟩⟩
  · exact Or.inl same
  · refine Or.inr ⟨other, fun handle closes => ?_, served⟩
    rw [quiet] at closes
    cases closes
  · exact Or.inr ⟨_, undisturbed, served⟩

omit [DecidableEq Connection] in
theorem releasedAfterCopy_of_crosses {memory : MemoryState Connection Device Scatter}
    {event : MemoryEvent Connection Device} (crosses : event.crosses = true) :
    ReleasedAfterCopy dma memory event := by
  cases event <;> first
    | exact rfl
    | exact absurd crosses (by simp [MemoryEvent.crosses])

theorem MemoryCall.event_crosses {Thread Device : Type} (call : MemoryCall) (thread : Thread) :
    (call.event thread : MemoryEvent Thread Device).crosses = true := by
  cases call <;> rfl

/-- A step is at most one step of `Memory`. -/
theorem Move.memory_step (move : Move dma before event after) :
    after.memory = before.memory ∨ ∃ other,
      Steps (Memory.next dma) before.memory other after.memory ∧
        (other.crosses = true ∨ event = .memory other) := by
  cases move with
  | dispatch | respond | finish => exact Or.inl rfl
  | enter pending entered =>
      exact Or.inr ⟨_, entered, Or.inl (MemoryCall.event_crosses _ _)⟩
  | memory inside taken => exact Or.inr ⟨_, taken, Or.inr rfl⟩
  | leaveRead running returning returned | leaveWrite running returning returned =>
      exact Or.inr ⟨_, returned, Or.inl rfl⟩

section Parts

variable {device : Device} {events : List (AssemblyEvent Connection Device)}
  {final : Assembly Connection Device Scatter}

/-- The whole server refines its two parts: seen from its connections, and seen
from `Memory`, each of its runs is a run of that part. -/
theorem parts_of_run (run : Run (Steps (next dma)) (start device) events final) :
    (∃ served, Run (Steps Serving.next) {} served final.serving) ∧
      ∃ inside, Run (Steps (Memory.next dma)) (Memory.start device) inside final.memory := by
  constructor
  · refine run.refines Assembly.serving (fun _ => True) trivial (fun _ _ _ _ _ => trivial) ?_
    intro before event after _ taken
    rcases (move_of_next taken).serving_step with same | ⟨other, served, -⟩
    · exact ⟨[], same ▸ Run.nil⟩
    · exact ⟨[other], Run.single served⟩
  · refine run.refines Assembly.memory (fun _ => True) trivial (fun _ _ _ _ _ => trivial) ?_
    intro before event after _ taken
    rcases (move_of_next taken).memory_step with same | ⟨other, inside, -⟩
    · exact ⟨[], same ▸ Run.nil⟩
    · exact ⟨[other], Run.single inside⟩

theorem memory_of_careful
    (run : Run (Restrict (Steps (next dma)) (Careful dma)) (start device) events final) :
    ∃ inside, Run (Restrict (Steps (Memory.next dma)) (ReleasedAfterCopy dma))
      (Memory.start device) inside final.memory := by
  refine run.refines Assembly.memory (fun _ => True) trivial (fun _ _ _ _ _ => trivial) ?_
  intro before event after _ taken
  rcases (move_of_next taken.2).memory_step with same | ⟨other, inside, crosses | here⟩
  · exact ⟨[], same ▸ Run.nil⟩
  · exact ⟨[other], Run.single ⟨releasedAfterCopy_of_crosses crosses, inside⟩⟩
  · exact ⟨[other], Run.single ⟨taken.1.2 other here, inside⟩⟩

end Parts

end Assembly

end CeServer
