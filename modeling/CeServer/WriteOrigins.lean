import CeServer.EndToEnd
import CeServer.TargetWrites

/-!
Which request is behind a change of the target: each call of `Memory` that a
handler makes is carried out once, and nothing else writes.
-/

namespace CeServer.Assembly

open LittleEndian Interaction Transition Memory Timeline

variable {Connection Device Scatter : Type} {dma : Dma Device Scatter} [DecidableEq Connection]

def readCalls (trace : List (Event Op Op.Response)) :
    List (ReadRequest × UInt64 × List UInt8) :=
  trace.filterMap fun
    | ⟨.memoryRead processID address size, answer⟩ => some (⟨processID, address, size⟩, answer)
    | _ => none

/-- All calls a connection's commands have made, the oldest first. -/
def record (assembly : Assembly Connection Device Scatter) (connection : Connection) :
    List (Event Op Op.Response) :=
  (assembly.finished.reverse.filter fun command => command.connection = connection).flatMap
      FinishedCommand.trace ++
    if (assembly.serving.running connection).isSome then assembly.traces connection else []

def returnedReads (memory : MemoryState Connection Device Scatter) (connection : Connection) :
    List (ReadRequest × UInt64 × List UInt8) :=
  (memory.returnedReads.reverse.filter fun entry => entry.thread = connection).map fun entry =>
    (entry.request, entry.count, entry.bytes)

def returnedWrites (memory : MemoryState Connection Device Scatter) (connection : Connection) :
    List (WriteRequest × UInt64) :=
  (memory.returnedWrites.reverse.filter fun entry => entry.thread = connection).map fun entry =>
    (entry.request, entry.result)

/-- The calls of `Memory` in a connection's commands are those `Memory` has
carried out for it, in this order and with these answers. -/
structure Ledger (assembly : Assembly Connection Device Scatter) (connection : Connection) :
    Prop where
  reads : readCalls (record assembly connection) = returnedReads assembly.memory connection
  writes : writeCalls (record assembly connection) = returnedWrites assembly.memory connection

section Memory

variable {before after : MemoryState Connection Device Scatter}
  {event : MemoryEvent Connection Device} {connection other : Connection}

/-- Only the two returns add to what `Memory` has carried out. -/
theorem returned_unchanged (taken : Steps (Memory.next dma) before event after)
    (stays : ∀ thread, event ≠ .returnRead thread ∧ event ≠ .returnWrite thread) :
    after.returnedReads = before.returnedReads ∧ after.returnedWrites = before.returnedWrites := by
  obtain ⟨acted, act, same⟩ := act_of_next taken
  subst same
  cases act with
  | @returnRead thread => exact absurd rfl (stays thread).1
  | @returnWrite thread => exact absurd rfl (stays thread).2
  | _ => exact ⟨rfl, rfl⟩

theorem returnRead_returned {start : Nat} {request : ReadRequest} {item : ItemId} {read : UInt64}
    (returning : before.threads connection = .reading start request item (.returning read))
    (returned : Steps (Memory.next dma) before (.returnRead connection) after)
    (other : Connection) :
    returnedReads after other = returnedReads before other ++ (if connection = other then
        [(request, read, (before.items item).data.take read.toNat)] else []) ∧
      returnedWrites after other = returnedWrites before other := by
  obtain ⟨acted, act, same⟩ := act_of_next returned
  subst same
  cases act with
  | returnRead was =>
      rw [returning] at was
      cases was
      constructor
      · by_cases own : connection = other <;>
          simp [returnedReads, List.filter_append, own]
      · rfl

theorem returnWrite_returned {start : Nat} {request : WriteRequest} {effect : Nat} {success : Bool}
    (written : before.threads connection = .written start request effect success)
    (returned : Steps (Memory.next dma) before (.returnWrite connection) after)
    (other : Connection) :
    returnedReads after other = returnedReads before other ∧
      returnedWrites after other = returnedWrites before other ++ (if connection = other then
        [(request, writeResult request success)] else []) := by
  obtain ⟨acted, act, same⟩ := act_of_next returned
  subst same
  cases act with
  | returnWrite was =>
      rw [written] at was
      cases was
      constructor
      · rfl
      · by_cases own : connection = other <;>
          simp [returnedWrites, List.filter_append, own]

/-- A step changes the device when the target changes itself or a thread writes. -/
theorem sources_of_next (taken : Steps (Memory.next dma) before event after) :
    after.device = before.device ∨ event = .change after.device ∨ ∃ thread first request,
      event = .memWrite thread ∧ before.threads thread = .acquired first request ∧
        after.device = (memWrite dma before.device request).2 := by
  obtain ⟨acted, act, same⟩ := act_of_next taken
  subst same
  cases act with
  | change device => exact Or.inr (Or.inl rfl)
  | memWrite acquired => exact Or.inr (Or.inr ⟨_, _, _, rfl, acquired, rfl⟩)
  | _ => exact Or.inl rfl

/-- A write that has reached the device but has not returned yet. -/
def inFlight : ThreadState → List (WriteRequest × UInt64)
  | .written _ request _ success => [(request, writeResult request success)]
  | _ => []

def serve (dma : Dma Device Scatter) (device : Device) (request : WriteRequest) :
    UInt64 × Device :=
  (writeResult request (memWrite dma device request).1, (memWrite dma device request).2)

/-- The device is what the writes leave when they are carried out in this order. -/
structure Replayed (dma : Dma Device Scatter) (device : Device)
    (state : MemoryState Connection Device Scatter)
    (order : List (Connection × WriteRequest × UInt64)) : Prop where
  replays : Replays (serve dma) device order state.device
  calls : ∀ thread, callsOf thread order =
    returnedWrites state thread ++ inFlight (state.threads thread)

theorem Replayed.of_same {device : Device} {order : List (Connection × WriteRequest × UInt64)}
    (replayed : Replayed dma device before order) (same : after.device = before.device)
    (returned : after.returnedWrites = before.returnedWrites)
    (flying : ∀ thread, inFlight (after.threads thread) = inFlight (before.threads thread)) :
    Replayed dma device after order := by
  refine ⟨same ▸ replayed.replays, fun thread => ?_⟩
  rw [replayed.calls, flying, returnedWrites, returnedWrites, returned]

theorem inFlight_update {threads : Connection → ThreadState} {thread : Connection}
    {value : ThreadState} (same : inFlight value = inFlight (threads thread)) (other : Connection) :
    inFlight (Function.update threads thread value other) = inFlight (threads other) := by
  by_cases here : other = thread
  · rw [here, Function.update_self, same]
  · rw [Function.update_of_ne here]

theorem Replayed.step {device : Device} {order : List (Connection × WriteRequest × UInt64)}
    (replayed : Replayed dma device before order)
    (taken : Steps (Memory.next dma) before event after) (alone : ∀ other, event ≠ .change other) :
    ∃ order, Replayed dma device after order := by
  obtain ⟨acted, act, same⟩ := act_of_next taken
  subst same
  cases act with
  | @memWrite thread first request acquired =>
      refine ⟨_, replayed.replays.snoc thread request, fun other => ?_⟩
      rw [callsOf_snoc, replayed.calls]
      by_cases own : thread = other
      · subst own
        simp [acquired, inFlight, returnedWrites, serve]
      · simp [own, Function.update_of_ne (Ne.symm own), returnedWrites]
  | @returnWrite thread first request effect success written =>
      refine ⟨order, replayed.replays, fun other => ?_⟩
      rw [replayed.calls, (returnWrite_returned written taken other).2]
      by_cases own : thread = other
      · subst own
        simp [written, inFlight]
      · simp [own, Function.update_of_ne (Ne.symm own)]
  | change other => exact absurd rfl (alone other)
  | callRead _ was | callWrite _ was | join was | create was | refuse was | reuse was
    | retrieveTwice was | retrieve was | wake was | copy was | returnRead was
    | acquireWrite was =>
      exact ⟨order, replayed.of_same rfl rfl (inFlight_update (by rw [was]; rfl))⟩
  | _ => exact ⟨order, replayed.of_same rfl rfl fun _ => rfl⟩

theorem replayed_of_run {device : Device} {events : List (MemoryEvent Connection Device)}
    {final : MemoryState Connection Device Scatter}
    (run : Run (Steps (Memory.next dma)) (Memory.start device) events final)
    (alone : ∀ other, .change other ∉ events) : ∃ order, Replayed dma device final order := by
  induction run with
  | nil => exact ⟨[], rfl, fun _ => rfl⟩
  | snoc earlier last ih =>
      obtain ⟨order, replayed⟩ := ih fun other member => alone other (List.mem_append_left _ member)
      refine replayed.step last fun other now => ?_
      exact alone other (by simp [now])

end Memory

section Record

variable {before after : Assembly Connection Device Scatter} {connection other : Connection}

theorem record_congr
    (runs : (after.serving.running other).isSome = (before.serving.running other).isSome)
    (traces : after.traces other = before.traces other)
    (finished : after.finished = before.finished) : record after other = record before other := by
  simp only [record, runs, traces, finished]

/-- A call of a connection is answered. -/
theorem record_answered {op : Op} {rest : op.Response → Handler Bool} {response : op.Response}
    (running : before.serving.running connection = some (.call op rest))
    (resumed : after.serving.running =
      Function.update before.serving.running connection (some (rest response)))
    (traces : after.traces = Function.update before.traces connection
      (before.traces connection ++ [⟨op, response⟩]))
    (finished : after.finished = before.finished) :
    record after other =
      record before other ++ (if connection = other then [⟨op, response⟩] else []) := by
  by_cases own : connection = other
  · subst own
    simp [record, running, resumed, traces, finished]
  · have apart : other ≠ connection := Ne.symm own
    simp [record, resumed, traces, finished, own, Function.update_of_ne apart]

theorem record_dispatch {command : UInt8} {serving : Serving Connection}
    (idle : before.serving.running connection = none)
    (served : Steps Serving.next before.serving (.dispatch connection command) serving)
    {commands : Connection → UInt8} {starts : Connection → Nat} :
    record { before with
      serving, commands, starts
      traces := Function.update before.traces connection [] } other = record before other := by
  rw [Serving.dispatched_of_next served]
  by_cases own : other = connection
  · subst own
    simp [record, idle]
  · simp [record, Function.update_of_ne own]

theorem record_finish {keepSocketOpen : Bool} {serving : Serving Connection}
    (running : before.serving.running connection = some (.ret keepSocketOpen))
    (served : Steps Serving.next before.serving (.finish connection) serving)
    {command : FinishedCommand Connection} (own : command.connection = connection)
    (calls : command.trace = before.traces connection) :
    record { before with serving, finished := command :: before.finished } other =
      record before other := by
  rw [Serving.finished_of_next served]
  by_cases same : other = connection
  · subst same
    simp [record, running, own, calls, List.filter_append]
  · have apart : ¬command.connection = other := by
      rw [own]
      exact Ne.symm same
    simp [record, apart, List.filter_append, Function.update_of_ne same]

end Record

section Steps

/-- Seen from `Memory`, a run is one in which the target changed itself just as often. -/
theorem memory_of_run {device : Device} {events : List (AssemblyEvent Connection Device)}
    {final : Assembly Connection Device Scatter}
    (run : Run (Steps (next dma)) (start device) events final) :
    ∃ inside, Run (Steps (Memory.next dma)) (Memory.start device) inside final.memory ∧
      ∀ other, .change other ∈ inside → .memory (.change other) ∈ events := by
  induction run with
  | nil => exact ⟨[], .nil, nofun⟩
  | @snoc past before event after earlier last ih =>
      obtain ⟨inside, ran, changes⟩ := ih
      rcases (move_of_next last).memory_step with same | ⟨event, taken, here⟩
      · rw [same]
        exact ⟨inside, ran, fun other member => List.mem_append_left _ (changes other member)⟩
      · refine ⟨inside ++ [event], ran.snoc taken, fun other member => ?_⟩
        rcases List.mem_append.mp member with before | now
        · exact List.mem_append_left _ (changes other before)
        · obtain rfl := List.mem_singleton.mp now
          rcases here with crosses | rfl
          · cases crosses
          · simp

variable {before after : Assembly Connection Device Scatter}
  {event : AssemblyEvent Connection Device} {other : Connection}

theorem Ledger.congr (ledger : Ledger before other)
    (same : record after other = record before other)
    (reads : returnedReads after.memory other = returnedReads before.memory other)
    (writes : returnedWrites after.memory other = returnedWrites before.memory other) :
    Ledger after other := by
  constructor
  · rw [same, reads]
    exact ledger.reads
  · rw [same, writes]
    exact ledger.writes

theorem Ledger.answered (ledger : Ledger before other) {calls : List (Event Op Op.Response)}
    (made : record after other = record before other ++ calls)
    (reads : returnedReads after.memory other =
      returnedReads before.memory other ++ readCalls calls)
    (writes : returnedWrites after.memory other =
      returnedWrites before.memory other ++ writeCalls calls) : Ledger after other := by
  constructor
  · rw [made, reads, ← ledger.reads]
    exact List.filterMap_append
  · rw [made, writes, ← ledger.writes]
    exact List.filterMap_append

omit [DecidableEq Connection] in
theorem calls_of_apart {op : Op} {response : op.Response} (apart : op.memoryCall? = none) :
    readCalls [⟨op, response⟩] = [] ∧ writeCalls [⟨op, response⟩] = [] := by
  cases op with
  | memoryRead | memoryWrite => cases apart
  | _ => exact ⟨rfl, rfl⟩

theorem Ledger.step (ledger : Ledger before other) (invariant : Invariant False before)
    (stepped : Steps (next dma) before event after) : Ledger after other := by
  cases move_of_next stepped with
  | dispatch idle served => exact ledger.congr (record_dispatch idle served) rfl rfl
  | @respond connection first outside op rest response state serving running apart answered
      served =>
      obtain ⟨call, next, reply, later, runs, replied, rfl⟩ := Serving.responded_of_next served
      rw [running] at runs
      cases runs
      rw [answered] at replied
      cases replied
      refine ledger.answered (record_answered running rfl rfl rfl) ?_ ?_
      all_goals
        by_cases own : connection = other
        · simp [own, calls_of_apart apart, logged]
        · simp [own, readCalls, writeCalls, logged]
  | @enter connection call later pending entered =>
      have quiet : later.returnedReads = before.memory.returnedReads ∧
          later.returnedWrites = before.memory.returnedWrites :=
        returned_unchanged entered fun thread => by cases call <;> simp [MemoryCall.event]
      refine ledger.congr rfl ?_ ?_
      · simp only [returnedReads, quiet.1]
      · simp only [returnedWrites, quiet.2]
  | @memory event later inside taken =>
      have quiet : later.returnedReads = before.memory.returnedReads ∧
          later.returnedWrites = before.memory.returnedWrites := by
        refine returned_unchanged taken fun thread => ⟨?_, ?_⟩
        · rintro rfl
          cases inside
        · rintro rfl
          cases inside
      refine ledger.congr rfl ?_ ?_
      · simp only [returnedReads, quiet.1]
      · simp only [returnedWrites, quiet.2]
  | @leaveRead connection processID address size rest first request item read later running
      returning returned =>
      have entered : (before.memory.threads connection).call? = some (first, .read request) := by
        rw [returning]
        rfl
      cases (invariant.call_eq running entered).2
      obtain ⟨reads, writes⟩ := returnRead_returned returning returned other
      refine ledger.answered (record_answered running rfl rfl rfl) ?_ ?_
      · refine reads.trans ?_
        by_cases own : connection = other <;> simp [own, readCalls]
      · refine writes.trans ?_
        by_cases own : connection = other <;> simp [own, writeCalls]
  | @leaveWrite connection processID address bytes rest first request instant success later running
      written returned =>
      have entered : (before.memory.threads connection).call? = some (first, .write request) := by
        rw [written]
        rfl
      cases (invariant.call_eq running entered).2
      obtain ⟨reads, writes⟩ := returnWrite_returned written returned other
      refine ledger.answered (record_answered running rfl rfl rfl) ?_ ?_
      · refine reads.trans ?_
        by_cases own : connection = other <;> simp [own, readCalls]
      · refine writes.trans ?_
        by_cases own : connection = other <;> simp [own, writeCalls]
  | finish running served => exact ledger.congr (record_finish running served rfl rfl) rfl rfl

theorem ledger_of_run {device : Device} {events : List (AssemblyEvent Connection Device)}
    {final : Assembly Connection Device Scatter}
    (run : Run (Steps (next dma)) (start device) events final) (connection : Connection) :
    Ledger final connection := by
  induction run with
  | nil => exact ⟨rfl, rfl⟩
  | snoc earlier last ih => exact ih.step (invariant_of_anyRun earlier) last

end Steps

section Origins

variable {connection : Connection} {code : UInt8} {past : List (Event Op Op.Response)}

/-- The calls of a WRITEPROCESSMEMORY before its write: the fields it received are those
of the request, and its process is what the registered handle was looked up as. -/
inductive Requested (past : List (Event Op Op.Response)) : CE_HANDLE → WriteRequest → Prop
  | intro {handle address size contents array : List UInt8} {processID : Int32}
      (received : arrivals past = [handle, address, size, contents])
      (allocated : ⟨.newCharArray (Word.ofBytes size : Int32).toInt, array⟩ ∈ past)
      (registered : ⟨.state (.containsProcessIDHandle (Word.ofBytes handle)), true⟩ ∈ past)
      (target : ⟨.state (.getProcessID (Word.ofBytes handle)), processID⟩ ∈ past) :
      Requested past (Word.ofBytes handle)
        ⟨processID, Word.ofBytes address, contents ++ array.drop contents.length⟩

/-- In this state the connection serves a WRITEPROCESSMEMORY whose request asked for
this write, of a process that its handle was opened for; or of process -1, when the
handle has been closed since it was checked. -/
structure Writes (assembly : Assembly Connection Device Scatter) (undisturbed : Prop)
    (connection : Connection) (request : WriteRequest) : Prop where
  command : assembly.commands connection = Command.writeProcessMemory.code
  call : assembly.serving.pending connection =
    some (.memoryWrite request.pid request.address request.bytes)
  aimed : ∃ handle, Requested (assembly.traces connection) handle request ∧
    ((handle, request.pid) ∈ assembly.serving.opened ∨ ¬undisturbed ∧ request.pid = -1)

omit [DecidableEq Connection] in
theorem code_of_reaches {processID : Int32} {address : UInt64} {bytes : List UInt8}
    {rest : UInt64 → Handler Bool}
    (reaches : (Client.dispatchCommand code).Reaches past
      (.call (.memoryWrite processID address bytes) rest)) :
    code = Command.writeProcessMemory.code := by
  unfold Client.dispatchCommand at reaches
  split at reaches
  · rename_i command known
    by_cases same : command = .writeProcessMemory
    · subst same
      exact (Command.code_of_ofCode known).symm
    · have uses := (Client.handle_noWrite same).reaches reaches
      cases uses.1
  · cases reaches

omit [DecidableEq Connection] in
theorem requested_of_reaches {processID : Int32} {address : UInt64} {bytes : List UInt8}
    {rest : UInt64 → Handler Bool}
    (reaches : Client.handleCommandWriteProcessMemory.Reaches past
      (.call (.memoryWrite processID address bytes) rest)) :
    ∃ handle, Requested past handle ⟨processID, address, bytes⟩ ∧
      checkedBy past = some handle := by
  obtain ⟨handle, _, rfl, named⟩ := reaches.passes nofun
  obtain ⟨target, _, rfl, placed⟩ := named.passes nofun
  obtain ⟨size, _, rfl, sized⟩ := placed.passes nofun
  obtain ⟨array, _, rfl, allocated⟩ := sized.passes nofun
  obtain ⟨contents, _, rfl, filled⟩ := allocated.passes nofun
  obtain ⟨present, _, rfl, checked⟩ := filled.passes nofun
  cases present with
  | false => cases checked
  | true =>
      obtain ⟨looked, back, rfl, ready⟩ := checked.passes nofun
      cases ready with
      | here => exact ⟨_, .intro rfl (by simp) (by simp) (by simp), rfl⟩
      | step written later =>
          have quiet := (reportWritten_reports (Word.ofBytes size.2) written).reaches later
          exact absurd quiet.1 id

theorem history_of_next {before after : Assembly Connection Device Scatter}
    {event : AssemblyEvent Connection Device} (taken : Steps (next dma) before event after) :
    timeline before.memory <+: timeline after.memory := by
  rcases (move_of_next taken).memory_step with same | ⟨other, stepped, -⟩
  · rw [same]
  · exact history_of_past (past_of_next stepped)

theorem history_of_run {first final : Assembly Connection Device Scatter}
    {events : List (AssemblyEvent Connection Device)}
    (run : Run (Steps (next dma)) first events final) :
    timeline first.memory <+: timeline final.memory := by
  induction run with
  | nil => exact List.prefix_rfl
  | snoc earlier last ih => exact ih.trans (history_of_next last)

/-- The decomposition of a run at the step from one instant of the device to the next. -/
theorem instant_of_run {device : Device} {events : List (AssemblyEvent Connection Device)}
    {final : Assembly Connection Device Scatter}
    (run : Run (Steps (next dma)) (start device) events final) {instant : Nat} {old new : Device}
    (held : (timeline final.memory)[instant]? = some old)
    (follows : (timeline final.memory)[instant + 1]? = some new) :
    ∃ past before event after later, events = past ++ event :: later ∧
      Run (Steps (next dma)) (start device) past before ∧ Steps (next dma) before event after ∧
      before.memory.past.length = instant ∧ before.memory.device = old ∧
      after.memory.device = new := by
  have bound := (List.getElem?_eq_some_iff.mp follows).1
  obtain ⟨past, before, event, after, later, split, ran, taken, remaining, now, then'⟩ :=
    run.passes (fun assembly => assembly.memory.past.length) (Nat.zero_le instant)
      (by simpa [timeline] using bound) fun before event after taken => by
        rcases (move_of_next taken).memory_step with same | ⟨other, stepped, -⟩
        · rw [same]
          exact Nat.le_succ _
        · rw [past_of_next stepped]
          simp
  refine ⟨past, before, event, after, later, split, ran, taken, now, ?_, ?_⟩
  · have seen := getElem?_of_prefix (history_of_run (remaining.cons taken))
      (timeline_getElem?_now before.memory)
    rw [now, held] at seen
    exact (Option.some.inj seen).symm
  · have seen := getElem?_of_prefix (history_of_run remaining)
      (timeline_getElem?_now after.memory)
    rw [then', follows] at seen
    exact (Option.some.inj seen).symm

theorem Requested.looked {handle : CE_HANDLE} {request : WriteRequest}
    (requested : Requested past handle request) :
    ⟨.state (.getProcessID handle), request.pid⟩ ∈ past := by
  cases requested with
  | intro received allocated registered target => exact target

/-- A thread about to write does so for the command its connection is serving. -/
theorem writes_of_acquired {device : Device} {events : List (AssemblyEvent Connection Device)}
    {assembly : Assembly Connection Device Scatter}
    (run : Run (Steps (next dma)) (start device) events assembly) {first : Nat}
    {request : WriteRequest}
    (acquired : assembly.memory.threads connection = .acquired first request) :
    assembly.Writes (Run (Restrict (Steps (next dma)) Undisturbed) (start device) events assembly)
      connection request := by
  have invariant := invariant_of_anyRun run
  have entered : (assembly.memory.threads connection).call? = some (first, .write request) := by
    rw [acquired]
    rfl
  have call := (invariant.linked connection first _ entered).2
  unfold Serving.pending at call
  split at call
  · rename_i op rest running
    obtain rfl := Option.some.inj call
    have served := invariant.running connection _ running
    have code := code_of_reaches served.path
    have reaches := served.path
    rw [code, Client.dispatchCommand_code] at reaches
    obtain ⟨handle, requested, checked⟩ := requested_of_reaches reaches
    refine ⟨code, pending_of_running running, handle, requested, ?_⟩
    by_cases quiet : Run (Restrict (Steps (next dma)) Undisturbed) (start device) events assembly
    · left
      exact (invariant_of_run quiet).target trivial running request.pid handle rfl checked
    · obtain ⟨earlier, later, calls⟩ := List.append_of_mem requested.looked
      exact (served.told earlier _ later calls).logged.imp_right fun none => ⟨quiet, none⟩
  · cases call

/-- In every run of the server, the target changes only in a step of its own or in the
write of a WRITEPROCESSMEMORY, which writes the bytes its own request carried. -/
theorem deviceChanges_endToEnd {device : Device} {events : List (AssemblyEvent Connection Device)}
    {final : Assembly Connection Device Scatter}
    (run : Run (Steps (next dma)) (start device) events final) {instant : Nat} {old new : Device}
    (held : (timeline final.memory)[instant]? = some old)
    (follows : (timeline final.memory)[instant + 1]? = some new) :
    new = old ∨ ∃ past before event later, events = past ++ event :: later ∧
      Run (Steps (next dma)) (start device) past before ∧ before.memory.past.length = instant ∧
      (event = .memory (.change new) ∨ ∃ connection request,
        event = .memory (.memWrite connection) ∧
        before.Writes (Run (Restrict (Steps (next dma)) Undisturbed) (start device) past before)
          connection request ∧
        new = (memWrite dma old request).2) := by
  obtain ⟨past, before, event, after, later, split, ran, taken, now, rfl, rfl⟩ :=
    instant_of_run run held follows
  rcases (move_of_next taken).memory_step with same | ⟨other, stepped, here⟩
  · exact Or.inl (congrArg MemoryState.device same)
  rcases sources_of_next stepped with
    kept | changed | ⟨connection, first, request, writes, acquired, written⟩
  · exact Or.inl kept
  · rcases here with crosses | same
    · rw [changed] at crosses
      cases crosses
    · rw [changed] at same
      exact Or.inr ⟨past, before, event, later, split, ran, now, Or.inl same⟩
  · rcases here with crosses | same
    · rw [writes] at crosses
      cases crosses
    · rw [writes] at same
      exact Or.inr ⟨past, before, event, later, split, ran, now, Or.inr
        ⟨connection, request, same, writes_of_acquired ran acquired, written⟩⟩

end Origins

/-- While the target does not change by itself and once no command is running, its
memory is what the served writes make of it one after the other: each counts
once, with the answer it got, in the order each connection made them. -/
theorem writes_replayed {device : Device} {events : List (AssemblyEvent Connection Device)}
    {final : Assembly Connection Device Scatter}
    (run : Run (Steps (next dma)) (start device) events final)
    (alone : ∀ other, .memory (.change other) ∉ events)
    (idle : ∀ connection, final.serving.running connection = none) :
    ∃ order, Replays (serve dma) device order final.memory.device ∧
      ∀ connection, callsOf connection order = writeCalls (record final connection) := by
  obtain ⟨inside, ran, changes⟩ := memory_of_run run
  obtain ⟨order, replayed⟩ := replayed_of_run ran fun other member =>
    alone other (changes other member)
  refine ⟨order, replayed.replays, fun connection => ?_⟩
  have outside : inFlight (final.memory.threads connection) = [] := by
    cases waits : final.memory.threads connection with
    | written first request effect success =>
        have entered : (final.memory.threads connection).call? = some (first, .write request) := by
          rw [waits]
          rfl
        have waiting := ((invariant_of_anyRun run).linked connection first _ entered).2
        simp [Serving.pending, idle] at waiting
    | _ => rfl
  rw [replayed.calls, outside, List.append_nil, (ledger_of_run run connection).writes]

section Samples

theorem deviceChanges_endToEnd_writesTwo :
    ∃ final : Assembly Unit (List UInt8) (List UInt8),
      Run (Steps (next flatMemory)) (start [5, 6, 7, 8]) writesTwo final ∧
        (timeline final.memory)[2]? = some [5, 6, 7, 8] ∧
        (timeline final.memory)[3]? = some [5, 8, 9, 8] ∧
        (([5, 8, 9, 8] : List UInt8) = [5, 6, 7, 8] ∨ ∃ past before event later,
          writesTwo = past ++ event :: later ∧
          Run (Steps (next flatMemory)) (start [5, 6, 7, 8]) past before ∧
          before.memory.past.length = 2 ∧
          (event = .memory (.change [5, 8, 9, 8]) ∨ ∃ connection request,
            event = .memory (.memWrite connection) ∧
            before.Writes (Run (Restrict (Steps (next flatMemory)) Undisturbed)
              (start [5, 6, 7, 8]) past before) connection request ∧
            [5, 8, 9, 8] = (memWrite flatMemory [5, 6, 7, 8] request).2)) := by
  have executed : (execute (next flatMemory) (start [5, 6, 7, 8]) writesTwo).map (fun final =>
      ((timeline final.memory)[2]?, (timeline final.memory)[3]?)) =
        some (some [5, 6, 7, 8], some [5, 8, 9, 8]) := by
    rfl
  obtain ⟨final, ran, observed⟩ := Option.map_eq_some_iff.mp executed
  obtain ⟨held, follows⟩ := Prod.mk.inj observed
  have run := run_of_execute ran
  exact ⟨final, run, held, follows, deviceChanges_endToEnd run held follows⟩

/-- Two connections ask for overlapping writes, the second is carried out first and
writes once more at the end. -/
noncomputable def writesThrice : List (AssemblyEvent Bool (List UInt8)) :=
  opensSeven false ++ asksWrite false [1, 0, 0, 0, 0, 0, 0, 0] [2, 0, 0, 0] [8, 9] ++
  asksWrite true [2, 0, 0, 0, 0, 0, 0, 0] [2, 0, 0, 0] [3, 4] ++ carriesOut true ++
  carriesOut false ++ asksWrite true [0, 0, 0, 0, 0, 0, 0, 0] [1, 0, 0, 0] [2] ++ carriesOut true

theorem writes_replayed_writesThrice :
    ∃ final : Assembly Bool (List UInt8) (List UInt8),
      Run (Steps (next flatMemory)) (start [5, 6, 7, 8]) writesThrice final ∧
        final.memory.device = [2, 8, 9, 4] ∧
        writeCalls (record final false) = [(⟨7, 1, [8, 9]⟩, 2)] ∧
        writeCalls (record final true) = [(⟨7, 2, [3, 4]⟩, 2), (⟨7, 0, [2]⟩, 1)] ∧
        ∃ order, Replays (serve flatMemory) [5, 6, 7, 8] order final.memory.device ∧
          ∀ connection, callsOf connection order = writeCalls (record final connection) := by
  have executed : (execute (next flatMemory) (start [5, 6, 7, 8]) writesThrice).map (fun final =>
      (final.memory.device, writeCalls (record final false), writeCalls (record final true),
        (final.serving.running false).isNone, (final.serving.running true).isNone)) =
          some ([2, 8, 9, 4], [(⟨7, 1, [8, 9]⟩, 2)], [(⟨7, 2, [3, 4]⟩, 2), (⟨7, 0, [2]⟩, 1)],
            true, true) := by
    rfl
  obtain ⟨final, ran, observed⟩ := Option.map_eq_some_iff.mp executed
  simp only [Prod.mk.injEq, Option.isNone_iff_eq_none] at observed
  obtain ⟨device, one, other, quiet, still⟩ := observed
  have run := run_of_execute ran
  have alone (other : List UInt8) : .memory (.change other) ∉ writesThrice := by
    simp [writesThrice, opensSeven, asksWrite, carriesOut, replies]
  refine ⟨final, run, device, one, other, writes_replayed run alone fun connection => ?_⟩
  cases connection with
  | false => exact quiet
  | true => exact still

end Samples

end CeServer.Assembly
