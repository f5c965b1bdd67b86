import CeServer.Assembly
import CeServer.BufferAccesses

/-!
From the bytes of a command to the device and back: what a served
READPROCESSMEMORY or WRITEPROCESSMEMORY did and answered, in any run of the server.
-/

namespace CeServer.Assembly

open LittleEndian Interaction Transition Memory Timeline

variable {Connection Device Scatter : Type} {dma : Dma Device Scatter}

/-- The handle whose check succeeded last. -/
def checkedBy (trace : List (Event Op Op.Response)) : Option CE_HANDLE :=
  trace.foldl (fun checked event => Serving.checkedAfter checked event.op event.response) none

theorem checkedBy_snoc (past : List (Event Op Op.Response)) (event : Event Op Op.Response) :
    checkedBy (past ++ [event]) =
      Serving.checkedAfter (checkedBy past) event.op event.response := by
  simp [checkedBy]

/-- `Memory` has returned this answer to a call of the connection that lay
between these steps; a process ID that was looked up was stored, or is -1. -/
def Logged (assembly : Assembly Connection Device Scatter) (connection : Connection)
    (start finish : Nat) : (op : Op) → op.Response → Prop
  | .memoryRead processID address size, response => ∃ entry ∈ assembly.memory.returnedReads,
      entry.thread = connection ∧ entry.request = ⟨processID, address, size⟩ ∧
        response = (entry.count, entry.bytes) ∧ start ≤ entry.start ∧ entry.finish ≤ finish
  | .memoryWrite processID address bytes, response => ∃ entry ∈ assembly.memory.returnedWrites,
      entry.thread = connection ∧ entry.request = ⟨processID, address, bytes⟩ ∧
        response = entry.result ∧ start ≤ entry.start ∧ entry.finish ≤ finish
  | .state (.getProcessID handle), processID =>
      (handle, processID) ∈ assembly.serving.opened ∨ processID = -1
  | _, _ => True

/-- What is known of one call of a command: the answers of `Memory` are its own, and
in an undisturbed run, after a successful check, it acts on a process its handle
was opened for. -/
structure Told (undisturbed : Prop) (assembly : Assembly Connection Device Scatter)
    (connection : Connection) (start finish : Nat) (past : List (Event Op Op.Response))
    (event : Event Op Op.Response) :
    Prop where
  target : undisturbed → ∀ processID handle, event.op.target? = some processID →
    checkedBy past = some handle → (handle, processID) ∈ assembly.serving.opened
  logged : Logged assembly connection start finish event.op event.response

def ToldAll (undisturbed : Prop) (assembly : Assembly Connection Device Scatter)
    (connection : Connection) (start finish : Nat) (trace : List (Event Op Op.Response)) : Prop :=
  ∀ past event later, trace = past ++ event :: later →
    Told undisturbed assembly connection start finish past event

/-- What a step never takes back. -/
structure Extends (before after : Assembly Connection Device Scatter) : Prop where
  opened : ∀ pair ∈ before.serving.opened, pair ∈ after.serving.opened
  reads : ∀ entry ∈ before.memory.returnedReads, entry ∈ after.memory.returnedReads
  writes : ∀ entry ∈ before.memory.returnedWrites, entry ∈ after.memory.returnedWrites
  clock : before.memory.past.length ≤ after.memory.past.length

section Told

variable {undisturbed : Prop} {before after : Assembly Connection Device Scatter}
  {connection : Connection}
  {start finish later : Nat} {trace past : List (Event Op Op.Response)}
  {event : Event Op Op.Response}

theorem Logged.mono (grown : Extends before after) (ends : finish ≤ later) {op : Op}
    {response : op.Response} (logged : Logged before connection start finish op response) :
    Logged after connection start later op response := by
  cases op with
  | memoryRead processID address size =>
      obtain ⟨entry, member, own, request, answer, called, finished⟩ := logged
      exact ⟨entry, grown.reads entry member, own, request, answer, called, finished.trans ends⟩
  | memoryWrite processID address bytes =>
      obtain ⟨entry, member, own, request, answer, called, finished⟩ := logged
      exact ⟨entry, grown.writes entry member, own, request, answer, called, finished.trans ends⟩
  | state op =>
      cases op with
      | getProcessID handle => exact logged.imp_left (grown.opened _)
      | _ => trivial
  | _ => trivial

theorem ToldAll.mono (told : ToldAll undisturbed before connection start finish trace)
    (grown : Extends before after) (ends : finish ≤ later) :
    ToldAll undisturbed after connection start later trace := by
  intro past event rest same
  have known := told past event rest same
  refine ⟨fun quiet processID handle target checked => ?_, known.logged.mono grown ends⟩
  exact grown.opened _ (known.target quiet processID handle target checked)

theorem toldAll_nil : ToldAll undisturbed before connection start finish [] := by
  intro past event later same
  simp at same

theorem ToldAll.snoc (told : ToldAll undisturbed before connection start finish trace)
    (last : Told undisturbed before connection start finish trace event) :
    ToldAll undisturbed before connection start finish (trace ++ [event]) := by
  intro past other later same
  rcases List.eq_nil_or_concat later with rfl | ⟨front, final, rfl⟩
  · obtain ⟨rfl, ended⟩ := List.append_inj' same rfl
    obtain rfl := (List.cons.inj ended).1
    exact last
  · rw [List.concat_eq_append, ← List.cons_append, ← List.append_assoc] at same
    obtain ⟨rfl, -⟩ := List.append_inj' same rfl
    exact told past other front rfl

end Told

/-- A command that is running has made the calls of its trace. -/
structure Running (undisturbed : Prop) (assembly : Assembly Connection Device Scatter)
    (connection : Connection) (program : Handler Bool) : Prop where
  begun : assembly.starts connection ≤ assembly.memory.past.length
  path : (Client.dispatchCommand (assembly.commands connection)).Reaches
    (assembly.traces connection) program
  checked : assembly.serving.checked connection = checkedBy (assembly.traces connection)
  told : ToldAll undisturbed assembly connection (assembly.starts connection)
    assembly.memory.past.length (assembly.traces connection)

structure Finished (undisturbed : Prop) (assembly : Assembly Connection Device Scatter)
    (command : FinishedCommand Connection) : Prop where
  performs : (Client.dispatchCommand command.command).Performs command.trace
    command.keepSocketOpen
  told : ToldAll undisturbed assembly command.connection command.start command.finish
    command.trace

structure Invariant (undisturbed : Prop) (assembly : Assembly Connection Device Scatter) :
    Prop where
  serving : undisturbed → assembly.serving.Invariant
  stored : ∀ handle processID,
    assembly.serving.state.handlesToProcessIDs.lookup handle = some processID →
    (handle, processID) ∈ assembly.serving.opened
  linked : ∀ connection start call,
    (assembly.memory.threads connection).call? = some (start, call) →
    assembly.starts connection ≤ start ∧ assembly.serving.pending connection = some call.op
  running : ∀ connection program, assembly.serving.running connection = some program →
    Running undisturbed assembly connection program
  finished : ∀ command ∈ assembly.finished, Finished undisturbed assembly command

theorem invariant_start (undisturbed : Prop) (device : Device) :
    Invariant undisturbed (start device : Assembly Connection Device Scatter) where
  serving := fun _ => Serving.invariant_start
  stored := Serving.invariant_start.stored
  linked := nofun
  running := nofun
  finished := nofun

section Memory

variable [DecidableEq Connection] {before after : MemoryState Connection Device Scatter}
  {event : MemoryEvent Connection Device}

theorem past_of_next (taken : Steps (Memory.next dma) before event after) :
    after.past = before.past ++ [before.device] := by
  obtain ⟨acted, act, same⟩ := act_of_next taken
  rw [same]

theorem returned_of_next (taken : Steps (Memory.next dma) before event after) :
    (∀ entry ∈ before.returnedReads, entry ∈ after.returnedReads) ∧
      ∀ entry ∈ before.returnedWrites, entry ∈ after.returnedWrites := by
  obtain ⟨acted, act, same⟩ := act_of_next taken
  subst same
  cases act with
  | returnRead => exact ⟨fun _ => List.mem_cons_of_mem _, fun _ => id⟩
  | returnWrite => exact ⟨fun _ => id, fun _ => List.mem_cons_of_mem _⟩
  | _ => exact ⟨fun _ => id, fun _ => id⟩

theorem effects_of_run {device : Device} {events : List (MemoryEvent Connection Device)}
    {final : MemoryState Connection Device Scatter}
    (run : Run (Steps (Memory.next dma)) (Memory.start device) events final) :
    Effects dma final := by
  refine run.invariant (effects_start device) fun before event after effects taken => ?_
  obtain ⟨acted, act, same⟩ := act_of_next taken
  subst same
  exact effects.step act

theorem call?_update {thread other : Connection} {old value : ThreadState}
    (was : before.threads thread = old) (kept : value.call? = old.call? ∨ value.call? = none) :
    (Function.update before.threads thread value other).call? = (before.threads other).call? ∨
      (Function.update before.threads thread value other).call? = none := by
  by_cases here : other = thread
  · rw [here, Function.update_self, was]
    exact kept
  · rw [Function.update_of_ne here]
    exact Or.inl rfl

/-- Inside `Memory` a thread stays in its call, or leaves it with an exception. -/
theorem call?_inside (taken : Steps (Memory.next dma) before event after)
    (inside : event.crosses = false) (thread : Connection) :
    (after.threads thread).call? = (before.threads thread).call? ∨
      (after.threads thread).call? = none := by
  obtain ⟨acted, act, same⟩ := act_of_next taken
  subst same
  cases act with
  | callRead | callWrite | returnRead | returnWrite => cases inside
  | join was | create was | reuse was | retrieve was | wake was | copy was | acquireWrite was
    | memWrite was =>
      exact call?_update was (Or.inl rfl)
  | refuse was | retrieveTwice was => exact call?_update was (Or.inr rfl)
  | _ => exact Or.inl rfl

theorem entered_threads {call : MemoryCall} {connection : Connection}
    (entered : Steps (Memory.next dma) before (call.event connection) after) :
    ∃ value, value.call? = some (before.past.length, call) ∧
      after.threads = Function.update before.threads connection value := by
  cases call with
  | read request =>
      obtain ⟨acted, act, same⟩ := act_of_next entered
      subst same
      cases act with
      | callRead request idle => exact ⟨_, rfl, rfl⟩
  | write request =>
      obtain ⟨acted, act, same⟩ := act_of_next entered
      subst same
      cases act with
      | callWrite request idle => exact ⟨_, rfl, rfl⟩

theorem returnRead_threads {connection : Connection}
    (returned : Steps (Memory.next dma) before (.returnRead connection) after) :
    after.threads = Function.update before.threads connection .idle := by
  obtain ⟨acted, act, same⟩ := act_of_next returned
  subst same
  cases act with
  | returnRead returning => rfl

theorem returnRead_logged {connection : Connection} {start : Nat} {request : ReadRequest}
    {item : ItemId} {read : UInt64}
    (returning : before.threads connection = .reading start request item (.returning read))
    (returned : Steps (Memory.next dma) before (.returnRead connection) after) :
    ∃ entry ∈ after.returnedReads, entry.thread = connection ∧ entry.request = request ∧
      (read, (before.items item).data.take read.toNat) = (entry.count, entry.bytes) ∧
        start = entry.start ∧ entry.finish ≤ after.past.length := by
  have past := past_of_next returned
  obtain ⟨acted, act, same⟩ := act_of_next returned
  subst same
  cases act with
  | returnRead was =>
      rw [returning] at was
      cases was
      refine ⟨_, List.mem_cons_self, rfl, rfl, rfl, rfl, ?_⟩
      rw [past]
      exact Nat.le_of_lt clock_step

theorem returnWrite_logged {connection : Connection} {start : Nat} {request : WriteRequest}
    {effect : Nat} {success : Bool}
    (written : before.threads connection = .written start request effect success)
    (returned : Steps (Memory.next dma) before (.returnWrite connection) after) :
    ∃ entry ∈ after.returnedWrites, entry.thread = connection ∧ entry.request = request ∧
      writeResult request success = entry.result ∧ start = entry.start ∧
        entry.finish ≤ after.past.length := by
  have past := past_of_next returned
  obtain ⟨acted, act, same⟩ := act_of_next returned
  subst same
  cases act with
  | returnWrite was =>
      rw [written] at was
      cases was
      refine ⟨_, List.mem_cons_self, rfl, rfl, rfl, rfl, ?_⟩
      rw [past]
      exact Nat.le_of_lt clock_step

theorem returnWrite_threads {connection : Connection}
    (returned : Steps (Memory.next dma) before (.returnWrite connection) after) :
    after.threads = Function.update before.threads connection .idle := by
  obtain ⟨acted, act, same⟩ := act_of_next returned
  subst same
  cases act with
  | returnWrite written => rfl

end Memory

section Steps

variable [DecidableEq Connection] {undisturbed : Prop}
  {before after : Assembly Connection Device Scatter}
  {event : AssemblyEvent Connection Device} {connection : Connection}

theorem opened_of_next {serving later : Serving Connection} {event : ServingEvent Connection}
    (taken : Steps Serving.next serving event later) :
    ∀ pair ∈ serving.opened, pair ∈ later.opened := by
  intro pair member
  cases event with
  | dispatch connection command =>
      rw [Serving.dispatched_of_next taken]
      exact member
  | respond connection first outside =>
      obtain ⟨op, rest, response, state, _, _, rfl⟩ := Serving.responded_of_next taken
      exact Serving.openedAfter_mono op member
  | finish connection =>
      rw [Serving.finished_of_next taken]
      exact member

theorem extends_of_served {event : ServingEvent Connection} {serving : Serving Connection}
    (served : Steps Serving.next before.serving event serving)
    {commands : Connection → UInt8} {starts : Connection → Nat}
    {traces : Connection → List (Event Op Op.Response)}
    {finished : List (FinishedCommand Connection)} :
    Extends before { before with serving, commands, starts, traces, finished } :=
  ⟨opened_of_next served, fun _ => id, fun _ => id, Nat.le_refl _⟩

theorem Move.extends (move : Move dma before event after) : Extends before after := by
  have opened : ∀ pair ∈ before.serving.opened, pair ∈ after.serving.opened := by
    rcases move.serving_step with same | ⟨other, served, -⟩
    · rw [same]
      exact fun pair => id
    · exact opened_of_next served
  rcases move.memory_step with same | ⟨other, taken, -⟩
  · refine ⟨opened, ?_, ?_, ?_⟩
    all_goals rw [same]
    · exact fun _ => id
    · exact fun _ => id
  · obtain ⟨reads, writes⟩ := returned_of_next taken
    refine ⟨opened, reads, writes, ?_⟩
    rw [past_of_next taken]
    exact Nat.le_of_lt clock_step

omit [DecidableEq Connection] in
theorem Running.frame {program : Handler Bool}
    (running : Running undisturbed before connection program) (grown : Extends before after)
    (commands : after.commands connection = before.commands connection)
    (starts : after.starts connection = before.starts connection)
    (traces : after.traces connection = before.traces connection)
    (checked : after.serving.checked connection = before.serving.checked connection) :
    Running undisturbed after connection program := by
  constructor
  · rw [starts]
    exact running.begun.trans grown.clock
  · rw [commands, traces]
    exact running.path
  · rw [checked, traces]
    exact running.checked
  · rw [starts, traces]
    exact running.told.mono grown grown.clock

omit [DecidableEq Connection] in
theorem Running.resume {op : Op} {rest : op.Response → Handler Bool} {response : op.Response}
    (running : Running undisturbed before connection (.call op rest)) (grown : Extends before after)
    (commands : after.commands connection = before.commands connection)
    (starts : after.starts connection = before.starts connection)
    (traces : after.traces connection = before.traces connection ++ [⟨op, response⟩])
    (checked : after.serving.checked connection =
      Serving.checkedAfter (before.serving.checked connection) op response)
    (told : Told undisturbed after connection (before.starts connection) after.memory.past.length
      (before.traces connection) ⟨op, response⟩) :
    Running undisturbed after connection (rest response) := by
  constructor
  · rw [starts]
    exact running.begun.trans grown.clock
  · rw [commands, traces]
    exact running.path.snoc response
  · rw [checked, traces, checkedBy_snoc, running.checked]
  · rw [starts, traces]
    exact (running.told.mono grown grown.clock).snoc told

omit [DecidableEq Connection] in
theorem Finished.frame {command : FinishedCommand Connection}
    (finished : Finished undisturbed before command) (grown : Extends before after) :
    Finished undisturbed after command :=
  ⟨finished.performs, finished.told.mono grown (Nat.le_refl _)⟩

omit [DecidableEq Connection] in
theorem Invariant.target (invariant : Invariant undisturbed before) (quiet : undisturbed) {op : Op}
    {rest : op.Response → Handler Bool}
    (running : before.serving.running connection = some (.call op rest)) (processID : Int32)
    (handle : CE_HANDLE) (target : op.target? = some processID)
    (checked : checkedBy (before.traces connection) = some handle) :
    (handle, processID) ∈ before.serving.opened := by
  rw [← (invariant.running connection _ running).checked] at checked
  exact (invariant.serving quiet).faithful connection op handle processID
    (pending_of_running running) target checked

omit [DecidableEq Connection] in
/-- The call a running handler waits for is the one its thread has entered. -/
theorem Invariant.call_eq (invariant : Invariant undisturbed before) {op : Op}
    {rest : op.Response → Handler Bool} {first : Nat} {call : MemoryCall}
    (running : before.serving.running connection = some (.call op rest))
    (entered : (before.memory.threads connection).call? = some (first, call)) :
    before.starts connection ≤ first ∧ op = call.op := by
  obtain ⟨called, waits⟩ := invariant.linked connection first call entered
  rw [pending_of_running running] at waits
  exact ⟨called, Option.some.inj waits⟩

theorem MemoryCall.memoryCall?_op (call : MemoryCall) : call.op.memoryCall? = some call := by
  cases call <;> rfl

theorem Invariant.dispatch {command : UInt8} {serving : Serving Connection}
    (invariant : Invariant undisturbed before) (kept : undisturbed → serving.Invariant)
    (idle : before.serving.running connection = none)
    (served : Steps Serving.next before.serving (.dispatch connection command) serving) :
    Invariant undisturbed { before with
      serving
      commands := Function.update before.commands connection command
      starts := Function.update before.starts connection before.memory.past.length
      traces := Function.update before.traces connection [] } where
  serving := kept
  stored := fun _ _ => Serving.stored_of_next served invariant.stored
  linked := by
    intro other first call entered
    obtain ⟨called, waits⟩ := invariant.linked other first call entered
    have apart : other ≠ connection := by
      rintro rfl
      simp [Serving.pending, idle] at waits
    rw [Serving.dispatched_of_next served]
    simp only [Serving.pending, Function.update_of_ne apart]
    exact ⟨called, waits⟩
  running := by
    intro other program running
    by_cases same : other = connection
    · subst same
      rw [Serving.dispatched_of_next served] at running ⊢
      simp only [Function.update_self, Option.some.injEq] at running
      subst running
      refine ⟨?_, ?_, ?_, ?_⟩
      · simp
      · simp only [Function.update_self]
        exact .here
      · simp only [Function.update_self]
        rfl
      · simp only [Function.update_self]
        exact toldAll_nil
    · have was : before.serving.running other = some program := by
        rw [Serving.dispatched_of_next served] at running
        simpa only [Function.update_of_ne same] using running
      refine (invariant.running other program was).frame (extends_of_served served)
        (Function.update_of_ne same _ _) (Function.update_of_ne same _ _)
        (Function.update_of_ne same _ _) ?_
      rw [Serving.dispatched_of_next served]
      exact Function.update_of_ne same _ _
  finished := by
    intro entry member
    exact (invariant.finished entry member).frame (extends_of_served served)

/-- A handle that is looked up has the process ID it was stored with, or none. -/
theorem looked_of_answer {first : FirstEntry} {outside : (op : Op) → op.Response}
    {state later : ClientState} {opened : List (CE_HANDLE × Int32)} {handle : CE_HANDLE}
    {processID : Int32}
    (answered : Serving.answer first outside state (.state (.getProcessID handle)) =
      some (processID, later))
    (stored : ∀ handle processID, state.handlesToProcessIDs.lookup handle = some processID →
      (handle, processID) ∈ opened) :
    (handle, processID) ∈ opened ∨ processID = -1 := by
  have asked : state.getProcessID handle = processID :=
    congrArg Prod.fst (Option.some.inj answered)
  rw [← asked, ClientState.getProcessID]
  cases found : state.handlesToProcessIDs.lookup handle with
  | none => exact Or.inr rfl
  | some processID => exact Or.inl (stored handle processID found)

/-- A running handler gets an answer and its thread is in no call of `Memory`. -/
theorem Invariant.answered {op : Op} {rest : op.Response → Handler Bool} {response : op.Response}
    (invariant : Invariant undisturbed before) (grown : Extends before after)
    (serving : undisturbed → after.serving.Invariant)
    (stored : ∀ handle processID,
      after.serving.state.handlesToProcessIDs.lookup handle = some processID →
      (handle, processID) ∈ after.serving.opened)
    (running : before.serving.running connection = some (.call op rest))
    (resumed : after.serving.running =
      Function.update before.serving.running connection (some (rest response)))
    (checked : after.serving.checked = Function.update before.serving.checked connection
      (Serving.checkedAfter (before.serving.checked connection) op response))
    (commands : after.commands = before.commands) (starts : after.starts = before.starts)
    (traces : after.traces = Function.update before.traces connection
      (before.traces connection ++ [⟨op, response⟩]))
    (finished : after.finished = before.finished)
    (outside : (after.memory.threads connection).call? = none)
    (others : ∀ other, other ≠ connection →
      after.memory.threads other = before.memory.threads other)
    (told : Told undisturbed after connection (before.starts connection) after.memory.past.length
      (before.traces connection) ⟨op, response⟩) :
    Invariant undisturbed after where
  serving := serving
  stored := stored
  linked := by
    intro other first call entered
    by_cases same : other = connection
    · rw [same, outside] at entered
      cases entered
    · rw [others other same] at entered
      obtain ⟨called, waits⟩ := invariant.linked other first call entered
      rw [starts]
      refine ⟨called, ?_⟩
      simpa only [Serving.pending, resumed, Function.update_of_ne same] using waits
  running := by
    intro other program runs
    rw [resumed] at runs
    by_cases same : other = connection
    · subst same
      rw [Function.update_self] at runs
      obtain rfl := Option.some.inj runs
      refine (invariant.running other _ running).resume grown ?_ ?_ ?_ ?_ told
      · rw [commands]
      · rw [starts]
      · rw [traces, Function.update_self]
      · rw [checked, Function.update_self]
    · rw [Function.update_of_ne same] at runs
      refine (invariant.running other program runs).frame grown ?_ ?_ ?_ ?_
      · rw [commands]
      · rw [starts]
      · rw [traces, Function.update_of_ne same]
      · rw [checked, Function.update_of_ne same]
  finished := by
    intro command member
    rw [finished] at member
    exact (invariant.finished command member).frame grown

omit [DecidableEq Connection] in
/-- A step of `Memory` that no handler sees. -/
theorem Invariant.inside {memory : MemoryState Connection Device Scatter}
    (invariant : Invariant undisturbed before)
    (grown : Extends before { before with memory })
    (linked : ∀ other first call, (memory.threads other).call? = some (first, call) →
      before.starts other ≤ first ∧ before.serving.pending other = some call.op) :
    Invariant undisturbed { before with memory } where
  serving := invariant.serving
  stored := invariant.stored
  linked := linked
  running := fun other program runs =>
    (invariant.running other program runs).frame grown rfl rfl rfl rfl
  finished := fun command member => (invariant.finished command member).frame grown

/-- A call of `Memory` has returned to the handler that made it. -/
theorem Invariant.resumed {op : Op} {rest : op.Response → Handler Bool} {response : op.Response}
    {memory : MemoryState Connection Device Scatter} (invariant : Invariant undisturbed before)
    (grown : Extends before (before.resumed connection memory ⟨op, response⟩ (rest response)))
    (serving : undisturbed →
      (before.resumed connection memory ⟨op, response⟩ (rest response)).serving.Invariant)
    (running : before.serving.running connection = some (.call op rest))
    (checked : Serving.checkedAfter (before.serving.checked connection) op response =
      before.serving.checked connection)
    (threads : memory.threads = Function.update before.memory.threads connection .idle)
    (logged : Logged (before.resumed connection memory ⟨op, response⟩ (rest response)) connection
      (before.starts connection) memory.past.length op response) :
    Invariant undisturbed
      (before.resumed connection memory ⟨op, response⟩ (rest response)) := by
  refine invariant.answered grown serving invariant.stored running rfl ?_ rfl rfl rfl rfl ?_ ?_
    ⟨fun quiet processID handle target checked => ?_, logged⟩
  · rw [checked, Function.update_eq_self]
    rfl
  · change (memory.threads connection).call? = none
    rw [threads, Function.update_self]
    rfl
  · intro other apart
    change memory.threads other = _
    rw [threads, Function.update_of_ne apart]
  · exact invariant.target quiet running processID handle target checked

/-- A handler has returned. -/
theorem Invariant.finish {keepSocketOpen : Bool} {serving : Serving Connection}
    {command : FinishedCommand Connection} (invariant : Invariant undisturbed before)
    (grown : Extends before { before with serving, finished := command :: before.finished })
    (kept : undisturbed → serving.Invariant)
    (running : before.serving.running connection = some (.ret keepSocketOpen))
    (served : Steps Serving.next before.serving (.finish connection) serving)
    (ended : Finished undisturbed
      { before with serving, finished := command :: before.finished } command) :
    Invariant undisturbed { before with serving, finished := command :: before.finished } where
  serving := kept
  stored := fun _ _ => Serving.stored_of_next served invariant.stored
  linked := by
    intro other first call entered
    obtain ⟨called, waits⟩ := invariant.linked other first call entered
    have apart : other ≠ connection := by
      rintro rfl
      simp [Serving.pending, running] at waits
    rw [Serving.finished_of_next served]
    simp only [Serving.pending, Function.update_of_ne apart]
    exact ⟨called, waits⟩
  running := by
    intro other program runs
    have done := Serving.finished_of_next served
    change serving.running other = some program at runs
    have apart : other ≠ connection := by
      rintro rfl
      simp [done] at runs
    have was : before.serving.running other = some program := by
      rw [done] at runs
      simpa only [Function.update_of_ne apart] using runs
    refine (invariant.running other program was).frame grown rfl rfl rfl ?_
    change serving.checked other = _
    rw [done]
    exact Function.update_of_ne apart _ _
  finished := by
    intro entry member
    rcases List.mem_cons.mp member with rfl | earlier
    · exact ended
    · exact (invariant.finished entry earlier).frame grown

theorem Invariant.step (invariant : Invariant undisturbed before)
    (quiet : undisturbed → before.Undisturbed event)
    (stepped : Steps (next dma) before event after) : Invariant undisturbed after := by
  have move := move_of_next stepped
  have grown := move.extends
  have serving : undisturbed → after.serving.Invariant := by
    intro holds
    rcases move.serving_undisturbed (quiet holds) with same | ⟨other, served⟩
    · rw [same]
      exact invariant.serving holds
    · exact (invariant.serving holds).step served
  have stored : ∀ handle processID,
      after.serving.state.handlesToProcessIDs.lookup handle = some processID →
      (handle, processID) ∈ after.serving.opened := by
    rcases move.serving_step with same | ⟨other, served, -⟩
    · rw [same]
      exact invariant.stored
    · exact fun _ _ => Serving.stored_of_next served invariant.stored
  cases move with
  | dispatch idle served => exact invariant.dispatch serving idle served
  | @respond connection first outside op rest response state serving running apart answered
      served =>
      obtain ⟨call, next, reply, later, runs, replied, rfl⟩ := Serving.responded_of_next served
      rw [running] at runs
      cases runs
      rw [answered] at replied
      cases replied
      have none : (before.memory.threads connection).call? = none := by
        cases entered : (before.memory.threads connection).call? with
        | none => rfl
        | some pair =>
            obtain ⟨first, call⟩ := pair
            have same := (invariant.call_eq running entered).2
            rw [same, MemoryCall.memoryCall?_op] at apart
            cases apart
      refine invariant.answered grown serving stored running rfl rfl rfl rfl rfl rfl none
        (fun _ _ => rfl) ⟨fun quiet processID handle target checked => ?_, ?_⟩
      · exact grown.opened _ (invariant.target quiet running processID handle target checked)
      · cases op with
        | memoryRead | memoryWrite => cases apart
        | state op =>
            cases op with
            | getProcessID handle =>
                exact (looked_of_answer answered invariant.stored).imp_left (grown.opened _)
            | _ => trivial
        | _ => trivial
  | @enter connection call later pending entered =>
      refine invariant.inside grown fun other first now is => ?_
      obtain ⟨value, called, threads⟩ := entered_threads entered
      rw [threads] at is
      by_cases same : other = connection
      · subst same
        rw [Function.update_self, called] at is
        cases is
        cases runs : before.serving.running other with
        | none => simp [Serving.pending, runs] at pending
        | some program => exact ⟨(invariant.running other program runs).begun, pending⟩
      · rw [Function.update_of_ne same] at is
        exact invariant.linked other first now is
  | @memory event later inside taken =>
      refine invariant.inside grown fun other first call is => ?_
      rcases call?_inside taken inside other with same | none
      · rw [same] at is
        exact invariant.linked other first call is
      · rw [none] at is
        cases is
  | @leaveRead connection processID address size rest first request item read later running
      returning returned =>
      have entered : (before.memory.threads connection).call? = some (first, .read request) := by
        rw [returning]
        rfl
      obtain ⟨called, same⟩ := invariant.call_eq running entered
      refine invariant.resumed grown serving running rfl (returnRead_threads returned) ?_
      cases same
      obtain ⟨entry, listed, own, asked, answer, when, ended⟩ :=
        returnRead_logged returning returned
      exact ⟨entry, listed, own, asked, answer, called.trans_eq when, ended⟩
  | @leaveWrite connection processID address bytes rest first request instant success later running
      written returned =>
      have entered : (before.memory.threads connection).call? = some (first, .write request) := by
        rw [written]
        rfl
      obtain ⟨called, same⟩ := invariant.call_eq running entered
      refine invariant.resumed grown serving running rfl (returnWrite_threads returned) ?_
      cases same
      obtain ⟨entry, listed, own, asked, answer, when, ended⟩ :=
        returnWrite_logged written returned
      exact ⟨entry, listed, own, asked, answer, called.trans_eq when, ended⟩
  | @finish connection keepSocketOpen later running served =>
      have ran := invariant.running connection _ running
      exact invariant.finish grown serving running served
        ⟨ran.path.performs, ran.told.mono grown (Nat.le_refl _)⟩

theorem invariant_of_run {device : Device} {events : List (AssemblyEvent Connection Device)}
    {final : Assembly Connection Device Scatter}
    (run : Run (Restrict (Steps (next dma)) Undisturbed) (start device) events final) :
    Invariant True final :=
  run.invariant (invariant_start True device) fun _ _ _ invariant taken =>
    invariant.step (fun _ => taken.1) taken.2

theorem invariant_of_anyRun {device : Device} {events : List (AssemblyEvent Connection Device)}
    {final : Assembly Connection Device Scatter}
    (run : Run (Steps (next dma)) (start device) events final) : Invariant False final :=
  run.invariant (invariant_start False device) fun _ _ _ invariant taken =>
    invariant.step False.elim taken

end Steps

section Calls

variable {Value : Type} {trace : List (Event Op Op.Response)} {value : Value}

theorem performs_send {bytes : List UInt8} {rest : Unit → Handler Value} :
    (sendBytes bytes >>= rest).Performs trace value ↔ ∃ result later,
      trace = ⟨.send bytes, result⟩ :: later ∧ (rest ()).Performs later value :=
  Iff.rfl

end Calls

/-- The bytes that each receive of a trace delivered. -/
def arrivals (trace : List (Event Op Op.Response)) : List (List UInt8) :=
  trace.filterMap fun
    | ⟨.recv _, arrived⟩ => some arrived.2
    | _ => none

def writeCalls (trace : List (Event Op Op.Response)) : List (WriteRequest × UInt64) :=
  trace.filterMap fun
    | ⟨.memoryWrite processID address bytes, written⟩ => some (⟨processID, address, bytes⟩, written)
    | _ => none

/-- The reply to a READPROCESSMEMORY with these fields and whether the connection
stays open. What is read is what the device held at one instant of the command. -/
inductive ReadReply (dma : Dma Device Scatter) (assembly : Assembly Connection Device Scatter)
    (command : FinishedCommand Connection) (handle : CE_HANDLE) (address : UInt64) (size : UInt32)
    (compress : UInt8) : List UInt8 → Bool → Prop
  | refused (reason : compress ≠ 0 ∨
      ⟨.state (.containsProcessIDHandle handle), false⟩ ∈ command.trace) :
      ReadReply dma assembly command handle address size compress [] false
  | invalid (empty : address = 0 ∨ size = 0) :
      ReadReply dma assembly command handle address size compress (Word.toBytes (0 : Int32)) true
  | served {processID : Int32} {instant : Nat} {device : Device}
      (opened : (handle, processID) ∈ assembly.serving.opened)
      (started : command.start < instant) (ended : instant < command.finish)
      (held : (timeline assembly.memory)[instant]? = some device) {count : UInt64}
      {bytes : List UInt8}
      (answer : (count, bytes) = directRead dma device ⟨processID, address, size.toUInt64⟩) :
      ReadReply dma assembly command handle address size compress
        (Word.toBytes count.toUInt32.toInt32 ++ bytes) true

section Reads

variable [DecidableEq Connection] {final : Assembly Connection Device Scatter}

theorem directRead_length (within : CountsWithin dma) (device : Device) (request : ReadRequest) :
    (directRead dma device request).2.length = (directRead dma device request).1.toNat := by
  have bounded := UInt64.le_iff_toNat_le.mp
    (readPath_within within device request (.sequential request.pid))
  have sized : (promiseBuffer request (deviceRead dma device request)).length =
      request.size.toNat := resize_length _ _
  simp only [directRead, List.length_take, sized]
  exact Nat.min_eq_left bounded

omit [DecidableEq Connection] in
theorem read_of_performs (within : CountsWithin dma) {command : FinishedCommand Connection}
    {handle : CE_HANDLE} {address : UInt64} {size : UInt32} {compress : UInt8}
    (front : List (Event Op Op.Response)) {back : List (Event Op Op.Response)}
    (whole : command.trace = front ++ back)
    (told : ToldAll True final command.connection command.start command.finish command.trace)
    (sampled : ∀ entry ∈ final.memory.returnedReads, ∃ instant,
      TakesEffect (timeline final.memory) (readOperation dma entry) instant)
    (performs : (Client.readProcessMemory handle address size compress).Performs back
      command.keepSocketOpen) :
    ReadReply dma final command handle address size compress (sent back) command.keepSocketOpen ∧
      arrivals back = [] := by
  unfold Client.readProcessMemory at performs
  split at performs
  · rename_i compressed
    obtain ⟨rfl, closed⟩ := performs
    rw [closed]
    exact ⟨.refused (Or.inl compressed), rfl⟩
  obtain ⟨present, back, rfl, performs⟩ := performs
  cases present with
  | false =>
      obtain ⟨rfl, closed⟩ := performs
      rw [closed]
      refine ⟨.refused (Or.inr ?_), rfl⟩
      rw [whole]
      simp
  | true =>
      dsimp only at performs
      split at performs
      · rename_i zero
        obtain ⟨result, back, rfl, rfl, kept⟩ := performs_send.mp performs
        rw [kept]
        exact ⟨.invalid (Or.inl (UInt64.le_zero_iff.mp zero)), rfl⟩
      split at performs
      · rename_i zero
        obtain ⟨result, back, rfl, rfl, kept⟩ := performs_send.mp performs
        rw [kept]
        exact ⟨.invalid (Or.inr (UInt32.le_zero_iff.mp zero)), rfl⟩
      obtain ⟨contents, back, rfl, processID, back, rfl, answer, back, rfl, performs⟩ := performs
      obtain ⟨count, bytes⟩ := answer
      let past := front ++ [⟨.state (.containsProcessIDHandle handle), true⟩,
        ⟨.newCharArray size.toNat, contents⟩, ⟨.state (.getProcessID handle), processID⟩]
      have known := told past ⟨.memoryRead processID address size.toUInt64, (count, bytes)⟩ back
        (by rw [whole]; simp [past])
      have checked : checkedBy past = some handle := by
        rw [checkedBy, List.foldl_append]
        rfl
      obtain ⟨entry, listed, -, asked, answer, called, ended⟩ := known.logged
      obtain ⟨instant, took⟩ := sampled entry listed
      obtain ⟨device, later, held, -, direct⟩ := took.effect
      have answer : (count, bytes) =
          directRead dma device ⟨processID, address, size.toUInt64⟩ := by
        rw [show (count, bytes) = (entry.count, entry.bytes) from answer, ← asked]
        exact direct
      have sized := directRead_length within device ⟨processID, address, size.toUInt64⟩
      rw [← answer] at sized
      have reply : ReadReply dma final command handle address size compress
          (Word.toBytes count.toUInt32.toInt32 ++ bytes) true := .served
        (known.target trivial processID handle rfl checked) (Nat.lt_of_le_of_lt called took.called)
        (Nat.lt_of_lt_of_le took.returned ended) held answer
      simp only [Program.andThen] at performs
      split at performs
      · rename_i zero
        obtain ⟨result, back, rfl, rfl, kept⟩ := performs_send.mp performs
        obtain rfl := UInt64.le_zero_iff.mp zero
        obtain rfl := List.eq_nil_of_length_eq_zero sized
        rw [kept]
        exact ⟨reply, rfl⟩
      · obtain ⟨result, back, rfl, sends⟩ := performs_send.mp performs
        obtain ⟨last, back, rfl, rfl, kept⟩ := performs_send.mp sends
        rw [kept]
        refine ⟨?_, rfl⟩
        have whole : (bytes ++ contents.drop bytes.length).take count.toNat = bytes := by
          rw [← sized, List.take_left]
        rw [whole]
        simpa [Op.sent] using reply

theorem performs_command {command : Command} {trace : List (Event Op Op.Response)}
    {code : UInt8} {value : Bool} (same : code = command.code)
    (performs : (Client.dispatchCommand code).Performs trace value) :
    (Client.handle command).Performs trace value := by
  rwa [same, Client.dispatchCommand_code] at performs

/-- Whatever other connections do meanwhile, a served READPROCESSMEMORY answers
with what the device held, at one instant of the command, for a process that its
handle was opened for. -/
theorem readProcessMemory_endToEnd (scatters : ScattersRead dma) (within : CountsWithin dma)
    {device : Device} {events : List (AssemblyEvent Connection Device)}
    (run : Run (Restrict (Steps (next dma)) (Careful dma)) (start device) events final)
    {command : FinishedCommand Connection} (served : command ∈ final.finished)
    (code : command.command = Command.readProcessMemory.code) :
    ∃ handle address size compress, arrivals command.trace = [handle, address, size, compress] ∧
      ReadReply dma final command (Word.ofBytes handle) (Word.ofBytes address)
        (Word.ofBytes size) (Word.ofBytes compress) (sent command.trace)
        command.keepSocketOpen := by
  have invariant := invariant_of_run (run.mono fun _ _ _ taken => ⟨taken.1.1, taken.2⟩)
  obtain ⟨performs, told⟩ := invariant.finished command served
  obtain ⟨inside, ran⟩ := memory_of_careful run
  have sampled := (linear_of_run scatters ran).sampling.returned
  obtain ⟨handle, _, whole, performs⟩ := performs_command code performs
  obtain ⟨address, _, rfl, performs⟩ := performs
  obtain ⟨size, _, rfl, performs⟩ := performs
  obtain ⟨compress, back, rfl, performs⟩ := performs
  obtain ⟨reply, none⟩ := read_of_performs within [_, _, _, _] whole told sampled performs
  refine ⟨handle.2, address.2, size.2, compress.2, ?_, ?_⟩
  · rw [whole]
    exact congrArg (fun rest => [handle.2, address.2, size.2, compress.2] ++ rest) none
  · rw [whole]
    exact reply

end Reads

/-- The reply to a WRITEPROCESSMEMORY of these bytes. The command makes no write,
or one that takes effect at one instant of the command; the result, -1 for a
failure, is sent as 32 bits. -/
inductive WriteReply (dma : Dma Device Scatter) (assembly : Assembly Connection Device Scatter)
    (command : FinishedCommand Connection) (handle : CE_HANDLE) (address : UInt64) (size : Int32)
    (buffer : List UInt8) : List UInt8 → Bool → Prop
  | refused (unopened : ⟨.state (.containsProcessIDHandle handle), false⟩ ∈ command.trace)
      (unwritten : writeCalls command.trace = []) :
      WriteReply dma assembly command handle address size buffer [] false
  | served {processID : Int32} {entry : ReturnedWrite Connection}
      (opened : (handle, processID) ∈ assembly.serving.opened)
      (written : entry ∈ assembly.memory.returnedWrites)
      (own : entry.thread = command.connection)
      (request : entry.request = ⟨processID, address, buffer⟩)
      (once : writeCalls command.trace = [(entry.request, entry.result)])
      (started : command.start < entry.effect) (ended : entry.effect < command.finish)
      (effect : TakesEffect (timeline assembly.memory) (writeOperation dma entry) entry.effect) :
      WriteReply dma assembly command handle address size buffer
        (Word.toBytes entry.result.toUInt32.toInt32) (entry.result == size.toInt64.toUInt64)

section Writes

variable [DecidableEq Connection] {final : Assembly Connection Device Scatter}

omit [DecidableEq Connection] in
theorem write_of_performs {command : FinishedCommand Connection} {handle : CE_HANDLE}
    {address : UInt64} {size : Int32} {buffer : List UInt8}
    (front : List (Event Op Op.Response)) {back : List (Event Op Op.Response)}
    (whole : command.trace = front ++ back) (none : writeCalls front = [])
    (told : ToldAll True final command.connection command.start command.finish command.trace)
    (effects : ∀ entry ∈ final.memory.returnedWrites,
      TakesEffect (timeline final.memory) (writeOperation dma entry) entry.effect)
    (performs : (Client.writeProcessMemory handle address size buffer).Performs back
      command.keepSocketOpen) :
    WriteReply dma final command handle address size buffer (sent back)
        command.keepSocketOpen ∧ arrivals back = [] := by
  have calls : writeCalls command.trace = writeCalls back := by
    rw [whole, writeCalls, List.filterMap_append]
    exact congrArg (fun earlier => earlier ++ writeCalls back) none
  obtain ⟨present, back, rfl, performs⟩ := performs
  cases present with
  | false =>
      obtain ⟨rfl, closed⟩ := performs
      rw [closed]
      refine ⟨.refused ?_ ?_, rfl⟩
      · rw [whole]
        simp
      · rw [calls]
        rfl
  | true =>
      obtain ⟨processID, back, rfl, written, back, rfl, performs⟩ := performs
      let past := front ++ [⟨.state (.containsProcessIDHandle handle), true⟩,
        ⟨.state (.getProcessID handle), processID⟩]
      have known := told past ⟨.memoryWrite processID address buffer, written⟩ back
        (by rw [whole]; simp [past])
      have checked : checkedBy past = some handle := by
        rw [checkedBy, List.foldl_append]
        rfl
      obtain ⟨entry, listed, own, asked, answer, called, ended⟩ := known.logged
      have took := effects entry listed
      have unsigned : ¬written < 0 := UInt64.not_lt_zero
      simp only [Program.andThen, unsigned, if_false] at performs
      obtain ⟨result, back, rfl, rfl, kept⟩ := performs_send.mp performs
      obtain rfl : written = entry.result := answer
      have once : writeCalls command.trace = [(entry.request, entry.result)] := by
        rw [calls, asked]
        rfl
      have reply : WriteReply dma final command handle address size buffer
          (Word.toBytes entry.result.toUInt32.toInt32)
          (entry.result == size.toInt64.toUInt64) := .served
        (known.target trivial processID handle rfl checked) listed own asked once
        (Nat.lt_of_le_of_lt called took.called)
        (Nat.lt_of_lt_of_le took.returned ended) took
      rw [kept]
      exact ⟨by simpa [Op.sent] using reply, rfl⟩

/-- Whatever other connections do meanwhile, a served WRITEPROCESSMEMORY writes the
received bytes once, at one instant of the command, to a process that its handle
was opened for, and sends the outcome of that write. -/
theorem writeProcessMemory_endToEnd {device : Device}
    {events : List (AssemblyEvent Connection Device)}
    (run : Run (Restrict (Steps (next dma)) Undisturbed) (start device) events final)
    {command : FinishedCommand Connection} (served : command ∈ final.finished)
    (code : command.command = Command.writeProcessMemory.code) :
    ∃ handle address size contents array,
      arrivals command.trace = [handle, address, size, contents] ∧
      ⟨.newCharArray (Word.ofBytes size : Int32).toInt, array⟩ ∈ command.trace ∧
      WriteReply dma final command (Word.ofBytes handle) (Word.ofBytes address)
        (Word.ofBytes size) (contents ++ array.drop contents.length) (sent command.trace)
        command.keepSocketOpen := by
  obtain ⟨performs, told⟩ := (invariant_of_run run).finished command served
  obtain ⟨_, inside⟩ := parts_of_run run.unrestrict
  obtain ⟨memoryEvents, ran⟩ := inside
  have effects := effects_of_run ran
  obtain ⟨handle, _, whole, performs⟩ := performs_command code performs
  obtain ⟨address, _, rfl, performs⟩ := performs
  obtain ⟨size, _, rfl, performs⟩ := performs
  obtain ⟨array, _, rfl, contents, back, rfl, performs⟩ := performs
  obtain ⟨reply, none⟩ := write_of_performs [_, _, _, _, _] whole rfl told
    (fun entry member => (effects.returned entry member).2) performs
  refine ⟨handle.2, address.2, size.2, contents.2, array, ?_, ?_, ?_⟩
  · rw [whole]
    exact congrArg (fun rest => [handle.2, address.2, size.2, contents.2] ++ rest) none
  · rw [whole]
    simp
  · rw [whole]
    exact reply

end Writes

section Samples

/-- A decidable condition under which a step is careful. -/
def calm {Connection : Type} (dma : Dma Device Scatter)
    (assembly : Assembly Connection Device Scatter) : AssemblyEvent Connection Device → Bool
  | .respond connection first outside =>
      (assembly.serving.closing? (.respond connection first outside)).isNone
  | .memory event => releasedAfterCopy dma assembly.memory event
  | _ => true

theorem careful_of_calm {assembly : Assembly Connection Device Scatter}
    {event : AssemblyEvent Connection Device} (quiet : calm dma assembly event = true) :
    Careful dma assembly event := by
  constructor
  · cases event with
    | respond connection first outside =>
        intro handle closes
        have none := Option.isNone_iff_eq_none.mp quiet
        rw [closes] at none
        cases none
    | _ => trivial
  · rintro inside rfl
    exact quiet

theorem run_of_calm [DecidableEq Connection] {device : Device}
    {events : List (AssemblyEvent Connection Device)} {final : Assembly Connection Device Scatter}
    (executed : execute (restricted (next dma) fun assembly event => calm dma assembly event = true)
      (start device) events = some final) :
    Run (Restrict (Steps (next dma)) (Careful dma)) (start device) events final := by
  refine (run_of_execute executed).mono fun before event after taken => ?_
  obtain ⟨quiet, stepped⟩ := restrict_of_restricted taken
  exact ⟨careful_of_calm quiet, stepped⟩

/-- The next call of the connection is answered, a receive with these bytes. -/
noncomputable def replies {Connection : Type} (connection : Connection) (bytes : List UInt8) :
    AssemblyEvent Connection (List UInt8) :=
  .respond connection .any fun op => match op with
    | .recv _ => ((bytes.length : Int), bytes)
    | op => (Environment.healthy.respond op ()).1

/-- A connection opens process 7, which gets handle 1. -/
noncomputable def opensSeven {Connection : Type} (connection : Connection) :
    List (AssemblyEvent Connection (List UInt8)) :=
  [.dispatch connection 3, replies connection [7, 0, 0, 0], replies connection [],
    replies connection [], replies connection [], .finish connection]

/-- Two bytes at address 1 of process 7 are read. -/
noncomputable def readsTwo : List (AssemblyEvent Unit (List UInt8)) :=
  opensSeven () ++
  [.dispatch () 9, replies () [1, 0, 0, 0], replies () [1, 0, 0, 0, 0, 0, 0, 0],
    replies () [2, 0, 0, 0], replies () [0], replies () [], replies () [], replies () [],
    .enter (), .memory (.enqueue ()), .memory .testStop, .memory .testEmpty,
    .memory (.formBatch [⟨(⟨7, 1, 2⟩ : ReadRequest).key, 0⟩]), .memory (.acquire [0]),
    .memory .fill, .memory .setValue, .memory (.lockItem ()), .memory (.wake ()),
    .memory (.copy ()), .memory (.memFree []), .memory .finish, .memory .release, .leave (),
    replies () [], replies () [], .finish ()]

/-- A connection asks for a write to process 7. -/
noncomputable def asksWrite {Connection : Type} (connection : Connection)
    (address size contents : List UInt8) : List (AssemblyEvent Connection (List UInt8)) :=
  [.dispatch connection 10, replies connection [1, 0, 0, 0], replies connection address,
    replies connection size, replies connection [], replies connection contents,
    replies connection [], replies connection [], .enter connection]

noncomputable def carriesOut {Connection : Type} (connection : Connection) :
    List (AssemblyEvent Connection (List UInt8)) :=
  [.memory (.acquireWrite connection), .memory (.memWrite connection), .leave connection,
    replies connection [], .finish connection]

/-- Two bytes at address 1 of process 7 are overwritten. -/
noncomputable def writesTwo : List (AssemblyEvent Unit (List UInt8)) :=
  opensSeven () ++ asksWrite () [1, 0, 0, 0, 0, 0, 0, 0] [2, 0, 0, 0] [8, 9] ++ carriesOut ()

theorem countsWithin_flatMemory : CountsWithin flatMemory := by
  have bounded (bytes : List UInt8) (size : UInt32) :
      UInt32.ofNat (bytes.take size.toNat).length ≤ size := by
    rw [UInt32.le_iff_toNat_le, UInt32.toNat_ofNat', List.length_take]
    exact (Nat.mod_le _ _).trans (Nat.min_le_left _ _)
  exact ⟨fun _ _ _ _ => bounded _ _, fun _ _ _ => bounded _ _⟩

theorem readProcessMemory_endToEnd_readsTwo :
    ∃ (final : Assembly Unit (List UInt8) (List UInt8)) (command : FinishedCommand Unit),
      Run (Restrict (Steps (next flatMemory)) (Careful flatMemory)) (start [5, 6, 7, 8]) readsTwo
          final ∧
        command ∈ final.finished ∧ sent command.trace = [2, 0, 0, 0, 6, 7] ∧
        ∃ handle address size compress, arrivals command.trace = [handle, address, size, compress] ∧
          ReadReply flatMemory final command (Word.ofBytes handle) (Word.ofBytes address)
            (Word.ofBytes size) (Word.ofBytes compress) (sent command.trace)
            command.keepSocketOpen := by
  have executed : (execute (restricted (next flatMemory) fun assembly event =>
      calm flatMemory assembly event = true) (start [5, 6, 7, 8]) readsTwo).map (fun final =>
        final.finished.head?.map fun command => (command.command, sent command.trace)) =
          some (some (9, [2, 0, 0, 0, 6, 7])) := by
    rfl
  obtain ⟨final, ran, observed⟩ := Option.map_eq_some_iff.mp executed
  obtain ⟨command, first, seen⟩ := Option.map_eq_some_iff.mp observed
  obtain ⟨code, bytes⟩ := Prod.mk.inj seen
  have run := run_of_calm ran
  have member := List.mem_of_mem_head? first
  exact ⟨final, command, run, member, bytes, readProcessMemory_endToEnd scattersRead_flatMemory
    countsWithin_flatMemory run member code⟩

theorem writeProcessMemory_endToEnd_writesTwo :
    ∃ (final : Assembly Unit (List UInt8) (List UInt8)) (command : FinishedCommand Unit),
      Run (Restrict (Steps (next flatMemory)) Undisturbed) (start [5, 6, 7, 8]) writesTwo final ∧
        command ∈ final.finished ∧ sent command.trace = [2, 0, 0, 0] ∧
        final.memory.device = [5, 8, 9, 8] ∧
        ∃ handle address size contents array,
          arrivals command.trace = [handle, address, size, contents] ∧
          ⟨.newCharArray (Word.ofBytes size : Int32).toInt, array⟩ ∈ command.trace ∧
          WriteReply flatMemory final command (Word.ofBytes handle) (Word.ofBytes address)
            (Word.ofBytes size) (contents ++ array.drop contents.length) (sent command.trace)
            command.keepSocketOpen := by
  have executed : (execute (restricted (next flatMemory) fun assembly event =>
      calm flatMemory assembly event = true) (start [5, 6, 7, 8]) writesTwo).map (fun final =>
        (final.memory.device, final.finished.head?.map fun command =>
          (command.command, sent command.trace))) =
            some ([5, 8, 9, 8], some (10, [2, 0, 0, 0])) := by
    rfl
  obtain ⟨final, ran, observed⟩ := Option.map_eq_some_iff.mp executed
  obtain ⟨device, listed⟩ := Prod.mk.inj observed
  obtain ⟨command, first, seen⟩ := Option.map_eq_some_iff.mp listed
  obtain ⟨code, bytes⟩ := Prod.mk.inj seen
  have run : Run (Restrict (Steps (next flatMemory)) Undisturbed) (start [5, 6, 7, 8]) writesTwo
      final := (run_of_calm ran).mono fun _ _ _ taken => ⟨taken.1.1, taken.2⟩
  have member := List.mem_of_mem_head? first
  exact ⟨final, command, run, member, bytes, device, writeProcessMemory_endToEnd run member code⟩

end Samples

end CeServer.Assembly
