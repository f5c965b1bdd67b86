import CeServer.EndToEnd
import CeServer.Liveness

/-!
Every command is served to its end unless its own peer stays silent: handlers are
finite programs, and their calls of `Memory` return.
-/

namespace CeServer

open Interaction Program Transition

namespace Memory

variable {Thread Device Scatter : Type} {dma : Dma Device Scatter} [DecidableEq Thread]
  {before after : MemoryState Thread Device Scatter} {event : MemoryEvent Thread Device}
  {thread : Thread}

theorem Live.call (live : Live before) {call : MemoryCall}
    (entered : Steps (next dma) before (call.event thread) after)
    (small : ∀ request, call = .read request → request.size < MAX_BYTES_PER_DISPATCH) :
    Live after := by
  obtain ⟨acted, act, same⟩ := act_of_next entered
  subst same
  have served := (live.ready.served.step act).tick (before.past ++ [before.device])
  have alert := (live.ready.alert.step live.ready.served act).tick (before.past ++ [before.device])
  have held : Held acted := live.held.step act
  have others (value : ThreadState) (goes : value ≠ .threw ∧ ∀ start request,
      value = .calling start request → request.size < MAX_BYTES_PER_DISPATCH) :
      (∀ other start request, Function.update before.threads thread value other =
        .calling start request → request.size < MAX_BYTES_PER_DISPATCH) ∧
        ∀ other, Function.update before.threads thread value other ≠ .threw := by
    constructor
    · intro other start request calling
      by_cases own : other = thread
      · rw [own, Function.update_self] at calling
        exact goes.2 start request calling
      · rw [Function.update_of_ne own] at calling
        exact live.small other start request calling
    · intro other
      by_cases own : other = thread
      · rw [own, Function.update_self]
        exact goes.1
      · rw [Function.update_of_ne own]
        exact live.calm other
  cases call with
  | read request =>
      cases act with
      | callRead request idle =>
          obtain ⟨sizes, calm⟩ := others (.calling before.past.length request)
            ⟨by simp, fun start other is => by
              cases is
              exact small request rfl⟩
          exact ⟨⟨served, alert, live.ready.running, live.ready.unlocked, live.ready.batchable⟩,
            held, sizes, calm⟩
  | write request =>
      cases act with
      | callWrite request idle =>
          obtain ⟨sizes, calm⟩ := others (.writing before.past.length request)
            ⟨by simp, fun start other is => by cases is⟩
          exact ⟨⟨served, alert, live.ready.running, live.ready.unlocked, live.ready.batchable⟩,
            held, sizes, calm⟩

/-- Inside `Memory` no thread begins or ends a call. -/
theorem idle_inside (taken : Steps (next dma) before event after)
    (inside : event.crosses = false) :
    after.threads thread = .idle ↔ before.threads thread = .idle := by
  have moved {acting : Thread} {old value : ThreadState} (was : before.threads acting = old)
      (busy : old ≠ .idle ∧ value ≠ .idle) :
      Function.update before.threads acting value thread = .idle ↔
        before.threads thread = .idle := by
    by_cases own : thread = acting
    · rw [own, Function.update_self, was]
      exact iff_of_false busy.2 busy.1
    · rw [Function.update_of_ne own]
  obtain ⟨acted, act, same⟩ := act_of_next taken
  subst same
  cases act with
  | callRead | callWrite | returnRead | returnWrite => cases inside
  | join was | create was | refuse was | reuse was | retrieveTwice was | retrieve was | wake was
    | copy was | acquireWrite was | memWrite was => exact moved was ⟨by simp, by simp⟩
  | _ => exact Iff.rfl

end Memory

namespace Assembly

open Memory

variable {Connection Device Scatter : Type} {dma : Dma Device Scatter} [DecidableEq Connection]
  {before after : Assembly Connection Device Scatter} {event : AssemblyEvent Connection Device}
  {connection : Connection}

def serviceable (assembly : Assembly Connection Device Scatter) :
    AssemblyEvent Connection Device → Bool
  | .enter connection =>
      match assembly.serving.pending connection with
      | some (.memoryRead _ _ size) => size < MAX_BYTES_PER_DISPATCH
      | _ => true
  | .memory event => !isOutside event
  | _ => true

/-- `Memory` is not stopped, its allocations succeed, and no client asks for more
than one dispatch may hold. -/
def Serviceable (assembly : Assembly Connection Device Scatter)
    (event : AssemblyEvent Connection Device) : Prop :=
  assembly.serviceable event = true

instance (assembly : Assembly Connection Device Scatter)
    (event : AssemblyEvent Connection Device) : Decidable (assembly.Serviceable event) :=
  inferInstanceAs (Decidable (_ = true))

theorem live_step (live : Live before.memory) (serviceable : before.Serviceable event)
    (stepped : Steps (next dma) before event after) : Live after.memory := by
  cases move_of_next stepped with
  | dispatch | respond | finish => exact live
  | enter pending entered =>
      refine live.call entered fun request is => ?_
      subst is
      simpa [Serviceable, Assembly.serviceable, pending, MemoryCall.op] using serviceable
  | @memory event later inside taken =>
      have within : isOutside event = false := by
        simpa [Serviceable, Assembly.serviceable] using serviceable
      exact live.step taken within
  | leaveRead running returning returned | leaveWrite running returning returned =>
      exact live.step returned rfl

theorem live_of_serviceable {device : Device} {events : List (AssemblyEvent Connection Device)}
    (run : Run (Restrict (Steps (next dma)) Serviceable) (start device) events after) :
    Live after.memory := by
  have begun : Live (Memory.start device : MemoryState Connection Device Scatter) := by
    have rest : Run (Steps (Memory.next dma))
        (Memory.start device : MemoryState Connection Device Scatter) [] (Memory.start device) :=
      .nil
    refine live_of_run rest rfl (fun thread => ?_) rfl (fun entry member => ?_)
      fun thread first request calling => ?_
    · simp [Memory.start]
    · cases member
    · cases calling
  exact run.invariant begun fun _ _ _ live taken => live_step live taken.1 taken.2

/-- New commands come from outside; in `Memory` the target changes and the wait of
the dispatcher ends whenever they like. -/
def progresses (assembly : Assembly Connection Device Scatter) :
    AssemblyEvent Connection Device → Bool
  | .dispatch .. => false
  | .memory event => Memory.progresses assembly.memory event
  | _ => true

section Weight

/-- What is left of a handler after its next step. -/
inductive Lower : Option (Handler Bool) → Option (Handler Bool) → Prop
  | answer {later program : Handler Bool} (below : Below later program) :
      Lower (some later) (some program)
  | finish {program : Handler Bool} : Lower none (some program)

theorem lower_wellFounded : WellFounded Lower := by
  have ended : Acc Lower none := by
    refine ⟨_, fun other smaller => ?_⟩
    cases smaller
  refine ⟨fun handler => ?_⟩
  cases handler with
  | none => exact ended
  | some program =>
      induction program using below_wellFounded.induction with
      | _ program ih =>
          refine ⟨_, fun other smaller => ?_⟩
          cases smaller with
          | answer below => exact ih _ below
          | finish => exact ended

/-- The cost of a call that its handler has still to begin. -/
def entering : ThreadState → Nat
  | .idle => 31
  | _ => 0

def unentered (assembly : Assembly Connection Device Scatter) (connection : Connection) : Nat :=
  if ((assembly.serving.pending connection).bind Op.memoryCall?).isSome then
    entering (assembly.memory.threads connection)
  else 0

variable [Fintype Connection]

def weight (assembly : Assembly Connection Device Scatter) :
    (Connection → Option (Handler Bool)) × Nat :=
  (assembly.serving.running, load assembly.memory + ∑ connection, unentered assembly connection)

def Lighter : (Connection → Option (Handler Bool)) × Nat →
    (Connection → Option (Handler Bool)) × Nat → Prop :=
  Prod.Lex (OneBelow Lower) (· < ·)

omit [DecidableEq Connection] in
theorem lighter_wellFounded : WellFounded (@Lighter Connection) :=
  (oneBelow_wellFounded lower_wellFounded).prod_lex Nat.lt_wfRel.wf

/-- A handler that goes on makes up for whatever else it changes. -/
theorem lighter_of_handler {value : Option (Handler Bool)}
    (resumed : after.serving.running = Function.update before.serving.running connection value)
    (lower : Lower value (before.serving.running connection)) :
    Lighter (weight after) (weight before) := by
  refine .left _ _ ⟨connection, ?_, fun other apart => ?_⟩
  · rwa [resumed, Function.update_self]
  · rw [resumed, Function.update_of_ne apart]

omit [Fintype Connection] in
theorem unentered_inside {inside : MemoryEvent Connection Device}
    {memory : MemoryState Connection Device Scatter} (quiet : inside.crosses = false)
    (taken : Steps (Memory.next dma) before.memory inside memory) (connection : Connection) :
    unentered { before with memory } connection = unentered before connection := by
  have idle : memory.threads connection = .idle ↔ before.memory.threads connection = .idle :=
    idle_inside taken quiet
  have same : entering (memory.threads connection) =
      entering (before.memory.threads connection) := by
    by_cases rests : before.memory.threads connection = .idle
    · rw [rests, idle.mpr rests]
    · have busy : memory.threads connection ≠ .idle := fun now => rests (idle.mp now)
      have none {value : ThreadState} (apart : value ≠ .idle) : entering value = 0 := by
        cases value with
        | idle => exact absurd rfl apart
        | _ => rfl
      rw [none rests, none busy]
  simp only [unentered, same]

theorem weight_inside {inside : MemoryEvent Connection Device}
    {memory : MemoryState Connection Device Scatter} (quiet : inside.crosses = false)
    (taken : Steps (Memory.next dma) before.memory inside memory) :
    weight { before with memory } = (before.serving.running,
      load memory + ∑ connection, unentered before connection) := by
  simp only [weight, unentered_inside quiet taken]

/-- A call that begins costs less than the calls that its handler had to begin. -/
theorem weight_enter {call : MemoryCall} {memory : MemoryState Connection Device Scatter}
    (pending : before.serving.pending connection = some call.op)
    (entered : Steps (Memory.next dma) before.memory (call.event connection) memory) :
    Lighter (weight { before with memory }) (weight before) := by
  refine .right _ ?_
  have paid (value : ThreadState) (few : effort value ≤ 30) (busy : value ≠ .idle)
      (idle : before.memory.threads connection = .idle)
      (threads : memory.threads = Function.update before.memory.threads connection value)
      (backlog : memory.backlog = before.memory.backlog)
      (dispatcher : memory.dispatcher = before.memory.dispatcher) :
      load memory + ∑ other, unentered { before with memory } other <
        load before.memory + ∑ other, unentered before other := by
    have calls : (before.serving.pending connection).bind Op.memoryCall? = some call := by
      rw [pending]
      exact MemoryCall.memoryCall?_op call
    have owed : unentered before connection = 31 := by
      simp [unentered, calls, idle, entering]
    have none : unentered { before with memory } connection = 0 := by
      simp only [unentered, calls, threads, Function.update_self]
      cases value with
      | idle => exact absurd rfl busy
      | _ => rfl
    have sum : ∑ other, unentered { before with memory } other + unentered before connection =
        ∑ other, unentered before other + unentered { before with memory } connection := by
      refine sum_of_others connection fun other apart => ?_
      simp only [unentered, threads, Function.update_of_ne apart]
    have moved := effort_update idle value
    have nothing : effort .idle = 0 := rfl
    simp only [load, backlog, dispatcher, threads]
    omega
  obtain ⟨acted, act, same⟩ := act_of_next entered
  subst same
  cases call with
  | read request =>
      cases act with
      | callRead request idle =>
          exact paid (.calling before.memory.past.length request) (by simp [effort]) (by simp) idle
            rfl rfl rfl
  | write request =>
      cases act with
      | callWrite request idle =>
          exact paid (.writing before.memory.past.length request) (by simp [effort]) (by simp) idle
            rfl rfl rfl

theorem lighter_of_progress (live : Live before.memory)
    (stepped : Steps (next dma) before event after)
    (progress : before.progresses event = true) : Lighter (weight after) (weight before) := by
  cases move_of_next stepped with
  | dispatch => cases progress
  | @respond connection first outside op rest response state serving running apart answered
      served =>
      obtain ⟨call, next, reply, later, runs, replied, rfl⟩ := Serving.responded_of_next served
      rw [running] at runs
      cases runs
      refine lighter_of_handler rfl ?_
      rw [running]
      exact .answer (.answer reply)
  | enter pending entered => exact weight_enter pending entered
  | @memory inside memory quiet taken =>
      obtain ⟨acted, act, same⟩ := act_of_next taken
      have less : load acted < load before.memory := live.load_step act progress
      rw [weight_inside quiet taken]
      refine .right _ (Nat.add_lt_add_right ?_ _)
      rw [same]
      exact less
  | @leaveRead connection processID address size rest first request item read memory running =>
      have below (answer : UInt64 × List UInt8) :
          Lower (some (rest answer)) (some (.call (.memoryRead processID address size) rest)) := by
        have smaller := @Below.answer Op Op.Response Bool (.memoryRead processID address size) rest
        exact .answer (smaller answer)
      refine lighter_of_handler rfl ?_
      rw [running]
      exact below _
  | @leaveWrite connection processID address bytes rest first request instant success memory
      running =>
      have below (answer : UInt64) :
          Lower (some (rest answer))
            (some (.call (.memoryWrite processID address bytes) rest)) := by
        have smaller :=
          @Below.answer Op Op.Response Bool (.memoryWrite processID address bytes) rest
        exact .answer (smaller answer)
      refine lighter_of_handler rfl ?_
      rw [running]
      exact below _
  | @finish connection keepSocketOpen serving running served =>
      rw [Serving.finished_of_next served]
      refine lighter_of_handler rfl ?_
      rw [running]
      exact .finish

theorem weight_rest (live : Live before.memory) (serviceable : before.Serviceable event)
    (stepped : Steps (next dma) before event after) (begun : ∀ other command,
      event ≠ .dispatch other command) (rests : before.progresses event = false) :
    weight after = weight before := by
  cases move_of_next stepped with
  | dispatch => exact absurd rfl (begun _ _)
  | respond | enter | leaveRead | leaveWrite | finish => cases rests
  | @memory inside memory quiet taken =>
      obtain ⟨acted, act, same⟩ := act_of_next taken
      have within : isOutside inside = false := by
        simpa [Serviceable, Assembly.serviceable] using serviceable
      have kept : load acted = load before.memory := live.load_rest act within rests
      have loads : load memory = load before.memory := by
        rw [same]
        exact kept
      rw [weight_inside quiet taken, weight, loads]

end Weight

/-- The connection is in a call that its peer ends. -/
def AwaitsPeer (assembly : Assembly Connection Device Scatter) (connection : Connection) : Prop :=
  ∃ op, assembly.serving.pending connection = some op ∧ op.awaitsPeer = true

/-- A step that brings a command nearer to its end is possible, and needs no peer. -/
def Possible (dma : Dma Device Scatter) (assembly : Assembly Connection Device Scatter) : Prop :=
  ∃ event, assembly.progresses event = true ∧
    (∀ connection first outside, event = .respond connection first outside →
      ¬assembly.AwaitsPeer connection) ∧
    ∃ after, Steps (next dma) assembly event after

/-- The handler allocates an array of negative size: the exception ends the server. -/
def Throws (assembly : Assembly Connection Device Scatter) (connection : Connection) : Prop :=
  ∃ size rest, size < 0 ∧
    assembly.serving.running connection = some (.call (.newCharArray size) rest)

section Possible

theorem possible_of_outside {op : Op} {rest : op.Response → Handler Bool}
    (running : before.serving.running connection = some (.call op rest))
    (apart : op.memoryCall? = none) (unthrown : ¬before.Throws connection)
    (unaided : ¬before.AwaitsPeer connection) : Possible dma before := by
  let outside (op : Op) : op.Response := (Environment.healthy.respond op ()).1
  have answers : ∃ answered,
      Serving.answer FirstEntry.any outside before.serving.state op = some answered := by
    cases op with
    | newCharArray size =>
        have enough : ¬size < 0 := fun less => unthrown ⟨size, rest, less, running⟩
        exact ⟨_, if_neg enough⟩
    | _ => exact ⟨_, rfl⟩
  obtain ⟨answered, given⟩ := answers
  have stepped : (next dma before (.respond connection .any outside)).isSome := by
    simp [next, running, apart, given, Serving.next]
  obtain ⟨after, taken⟩ := Option.isSome_iff_exists.mp stepped
  refine ⟨_, rfl, fun other first answers same => ?_, after, taken⟩
  obtain rfl := (AssemblyEvent.respond.inj same).1
  exact unaided

theorem possible_of_entering {call : MemoryCall}
    (pending : before.serving.pending connection = some call.op)
    (idle : before.memory.threads connection = .idle) : Possible dma before := by
  have calls : (before.serving.pending connection).bind Op.memoryCall? = some call := by
    rw [pending]
    exact MemoryCall.memoryCall?_op call
  have entered : (Memory.next dma before.memory (call.event connection)).isSome := by
    cases call with
    | read request =>
        simp [Memory.next, Memory.step, Memory.readStep, MemoryCall.event, idle]
    | write request =>
        simp [Memory.next, Memory.step, Memory.writeStep, MemoryCall.event, idle]
  have stepped : (next dma before (.enter connection)).isSome := by
    simpa [next, calls] using entered
  obtain ⟨after, taken⟩ := Option.isSome_iff_exists.mp stepped
  exact ⟨_, rfl, by simp, after, taken⟩

omit [DecidableEq Connection] in
theorem running_of_pending {op : Op} (pending : before.serving.pending connection = some op) :
    ∃ rest, before.serving.running connection = some (.call op rest) := by
  simp only [Serving.pending] at pending
  split at pending
  · rename_i running
    obtain rfl := Option.some.inj pending
    exact ⟨_, running⟩
  · cases pending

/-- What `Memory` can do, the server can. -/
theorem possible_of_memory (invariant : Invariant False before)
    (possible : Memory.Possible dma before.memory) : Possible dma before := by
  obtain ⟨event, progress, memory, taken⟩ := possible
  by_cases inside : event.crosses = false
  · refine ⟨.memory event, progress, by simp, { before with memory }, ?_⟩
    simp only [Steps, next, inside, Bool.false_eq_true, if_false]
    exact congrArg (Option.map _) taken
  obtain ⟨acted, act, same⟩ := act_of_next taken
  cases act with
  | callRead | callWrite => cases progress
  | @returnRead connection first request item read returning =>
      have entered : (before.memory.threads connection).call? = some (first, .read request) := by
        rw [returning]
        rfl
      obtain ⟨rest, running⟩ := running_of_pending (invariant.linked connection _ _ entered).2
      have stepped : (next dma before (.leave connection)).isSome := by
        simp only [next, running, returning, MemoryCall.op]
        rw [show Memory.next dma before.memory (.returnRead connection) = some memory from taken]
        rfl
      obtain ⟨after, left⟩ := Option.isSome_iff_exists.mp stepped
      exact ⟨_, rfl, by simp, after, left⟩
  | @returnWrite connection first request effect success written =>
      have entered : (before.memory.threads connection).call? = some (first, .write request) := by
        rw [written]
        rfl
      obtain ⟨rest, running⟩ := running_of_pending (invariant.linked connection _ _ entered).2
      have stepped : (next dma before (.leave connection)).isSome := by
        simp only [next, running, written, MemoryCall.op]
        rw [show Memory.next dma before.memory (.returnWrite connection) = some memory from taken]
        rfl
      obtain ⟨after, left⟩ := Option.isSome_iff_exists.mp stepped
      exact ⟨_, rfl, by simp, after, left⟩
  | _ => exact absurd rfl inside

/-- As long as a handler runs that does not wait for its peer, some handler can go on. -/
theorem possible_of_running (invariant : Invariant False before) (live : Live before.memory)
    {program : Handler Bool} (running : before.serving.running connection = some program)
    (unthrown : ¬before.Throws connection) (unaided : ¬before.AwaitsPeer connection) :
    Possible dma before := by
  cases program with
  | ret keepSocketOpen =>
      have stepped : (next dma before (.finish connection)).isSome := by
        simp [next, running, Serving.next]
      obtain ⟨after, taken⟩ := Option.isSome_iff_exists.mp stepped
      exact ⟨_, rfl, by simp, after, taken⟩
  | call op rest =>
      cases calls : op.memoryCall? with
      | none => exact possible_of_outside running calls unthrown unaided
      | some call =>
          have pending := pending_of_running running
          rw [Op.memoryCall?_eq_some calls] at pending
          by_cases idle : before.memory.threads connection = .idle
          · exact possible_of_entering pending idle
          · have inCall : InCall (before.memory.threads connection) := by
              cases value : before.memory.threads connection with
              | idle => exact absurd value idle
              | threw => exact absurd value (live.calm connection)
              | _ => trivial
            exact possible_of_memory invariant (live.possible inCall)

end Possible

/-- Every command is served to its end: without new commands, in any schedule that
does not rest while a handler or `Memory` can go on without a peer, all connections
come to wait for their next command, but for one whose handler throws and one whose
peer does not end the receive or send that it is in. -/
theorem commands_finish [Finite Connection] {device : Device}
    {events : List (AssemblyEvent Connection Device)}
    {states : Nat → Assembly Connection Device Scatter}
    {schedule : Nat → AssemblyEvent Connection Device}
    (run : Run (Restrict (Steps (next dma)) Serviceable) (start device) events (states 0))
    (follows : ∀ n,
      Restrict (Steps (next dma)) Serviceable (states n) (schedule n) (states (n + 1)))
    (begun : ∀ n other command, schedule n ≠ .dispatch other command)
    (untiring : ∀ n, Possible dma (states n) →
      ∃ later, n ≤ later ∧ (states later).progresses (schedule later) = true) :
    ∃ n, ∀ later, n ≤ later → ∀ connection,
      (states later).serving.running connection = none ∨ (states later).Throws connection ∨
        (states later).AwaitsPeer connection ∧ ∀ last, later ≤ last → ∀ first outside,
          schedule last ≠ .respond connection first outside := by
  have := Fintype.ofFinite Connection
  have reached (n : Nat) : Invariant False (states n) ∧ Live (states n).memory := by
    induction n with
    | zero => exact ⟨invariant_of_anyRun run.unrestrict, live_of_serviceable run⟩
    | succ n ih =>
        exact ⟨ih.1.step False.elim (follows n).2, live_step ih.2 (follows n).1 (follows n).2⟩
  obtain ⟨n, quiet⟩ := eventually_quiet lighter_wellFounded
    (fun n => (states n).progresses (schedule n) = true) (fun n => weight (states n))
    (fun n progress => lighter_of_progress (reached n).2 (follows n).2 progress)
    (fun n rests => weight_rest (reached n).2 (follows n).1 (follows n).2 (begun n)
      (Bool.eq_false_iff.mpr rests))
  refine ⟨n, fun later order connection => ?_⟩
  cases running : (states later).serving.running connection with
  | none => exact Or.inl rfl
  | some program =>
      refine Or.inr ?_
      by_cases unthrown : (states later).Throws connection
      · exact Or.inl unthrown
      by_cases awaits : (states later).AwaitsPeer connection
      · refine Or.inr ⟨awaits, fun last after first outside answers => ?_⟩
        refine quiet last (order.trans after) ?_
        rw [answers]
        rfl
      · have possible : Possible dma (states later) :=
          possible_of_running (reached later).1 (reached later).2 running unthrown awaits
        obtain ⟨last, after, progress⟩ := untiring later possible
        exact absurd progress (quiet last (order.trans after))

section Samples

/-- `Memory` has nothing to do, one connection waits for its next command and the
other for the rest of its request. -/
structure Silent (state : Assembly Bool (List UInt8) (List UInt8)) : Prop where
  rest : AtRest state.memory
  served : state.serving.running true = none
  awaits : state.serving.pending false = some (.recv 4)

theorem Silent.not_possible {state : Assembly Bool (List UInt8) (List UInt8)}
    (silent : Silent state) : ¬Possible flatMemory state := by
  have apart {connection : Bool} {op : Op} {rest : op.Response → Handler Bool}
      (running : state.serving.running connection = some (.call op rest)) :
      connection = false ∧ op = .recv 4 := by
    have pending := pending_of_running running
    cases connection with
    | true =>
        rw [silent.served] at running
        cases running
    | false => exact ⟨rfl, Option.some.inj (pending.symm.trans silent.awaits)⟩
  rintro ⟨event, progress, unaided, after, taken⟩
  cases move_of_next taken with
  | dispatch => cases progress
  | respond running =>
      obtain ⟨rfl, -⟩ := apart running
      exact unaided _ _ _ rfl ⟨_, silent.awaits, rfl⟩
  | @enter connection call later pending =>
      obtain ⟨rest, running⟩ := running_of_pending pending
      cases call <;> cases (apart running).2
  | @memory inside memory quiet inner =>
      exact silent.rest.not_possible ⟨inside, progress, memory, inner⟩
  | leaveRead running | leaveWrite running => cases (apart running).2
  | @finish connection keepSocketOpen serving running =>
      cases connection with
      | true =>
          rw [silent.served] at running
          cases running
      | false =>
          have awaits := silent.awaits
          simp [Serving.pending, running] at awaits

/-- One client opens a process and asks for a write, the other has sent a command
byte and nothing more. -/
noncomputable def asksBoth : List (AssemblyEvent Bool (List UInt8)) :=
  opensSeven true ++ [.dispatch false 9] ++
    (asksWrite true [1, 0, 0, 0, 0, 0, 0, 0] [2, 0, 0, 0] [8, 9]).take 1

noncomputable def finishesOne : List (AssemblyEvent Bool (List UInt8)) :=
  (asksWrite true [1, 0, 0, 0, 0, 0, 0, 0] [2, 0, 0, 0] [8, 9]).drop 1 ++ carriesOut true ++
    [.memory .testStop, .memory .testEmpty]

noncomputable def servesOne : Nat → AssemblyEvent Bool (List UInt8) :=
  prolonged finishesOne (.memory (.change [5, 8, 9, 8]))

noncomputable def servingNext : Assembly Bool (List UInt8) (List UInt8) →
    AssemblyEvent Bool (List UInt8) → Option (Assembly Bool (List UInt8) (List UInt8)) :=
  restricted (next flatMemory) Serviceable

noncomputable def servingStates : Nat → Assembly Bool (List UInt8) (List UInt8) :=
  statesFrom servingNext ((execute servingNext (start [5, 6, 7, 8]) asksBoth).getD
    (start [5, 6, 7, 8])) servesOne

theorem commands_finish_servesOne :
    (servingStates 0).serving.running true = some (Client.dispatchCommand 10) ∧
      (servingStates 15).memory.device = [5, 8, 9, 8] ∧
      ∃ n, ∀ later, n ≤ later → ∀ connection,
        (servingStates later).serving.running connection = none ∨
          (servingStates later).Throws connection ∨
          (servingStates later).AwaitsPeer connection ∧ ∀ last, later ≤ last →
            ∀ first outside, servesOne last ≠ .respond connection first outside := by
  have begins : execute servingNext (start [5, 6, 7, 8]) asksBoth = some (servingStates 0) := by
    rfl
  have run : Run (Restrict (Steps (next flatMemory)) Serviceable) (start [5, 6, 7, 8]) asksBoth
      (servingStates 0) :=
    (run_of_execute begins).mono fun before event after taken => restrict_of_restricted taken
  have executed : (execute servingNext (servingStates 0) finishesOne).map (fun final =>
      (final.memory.device, final.memory.dispatcher, final.memory.threads true,
        final.memory.threads false, final.memory.backlog.entries,
        (final.serving.running true).isNone, final.serving.pending false)) =
          some ([5, 8, 9, 8], .waitTest, .idle, .idle, [], true, some (.recv 4)) := by
    rfl
  obtain ⟨final, ends, observed⟩ := Option.map_eq_some_iff.mp executed
  simp only [Prod.mk.injEq, Option.isNone_iff_eq_none] at observed
  obtain ⟨device, waits, one, other, empty, served, awaits⟩ := observed
  have idle (thread : Bool) : final.memory.threads thread = .idle := by
    cases thread with
    | true => exact one
    | false => exact other
  have silent : Silent final := ⟨⟨waits, idle, empty⟩, served, awaits⟩
  have repeats (state : Assembly Bool (List UInt8) (List UInt8)) (silent : Silent state) :
      ∃ after, servingNext state (.memory (.change [5, 8, 9, 8])) = some after ∧ Silent after := by
    obtain ⟨memory, taken, rest⟩ : ∃ memory, Memory.next flatMemory state.memory
        (.change [5, 8, 9, 8]) = some memory ∧ AtRest memory := silent.rest.change [5, 8, 9, 8]
    have stepped : servingNext state (.memory (.change [5, 8, 9, 8])) =
        some { state with memory } := by
      simp [servingNext, restricted, Serviceable, serviceable, isOutside, next,
        MemoryEvent.crosses, taken]
    exact ⟨_, stepped, rest, silent.served, silent.awaits⟩
  have follows (n : Nat) : Restrict (Steps (next flatMemory)) Serviceable (servingStates n)
      (servesOne n) (servingStates (n + 1)) :=
    restrict_of_restricted (steps_statesFrom Silent ends silent repeats n)
  have begun (n : Nat) (other : Bool) (command : UInt8) :
      servesOne n ≠ .dispatch other command := by
    have all : ∀ event ∈ finishesOne, event ≠ .dispatch other command := by
      simp [finishesOne, asksWrite, carriesOut, replies]
    exact prolonged_of_all _ all (by simp) n
  have finished (state : Assembly Bool (List UInt8) (List UInt8)) (silent : Silent state) :
      ¬Possible flatMemory state := silent.not_possible
  have length : finishesOne.length ≤ 14 + 1 := by
    decide
  have untiring (n : Nat) (possible : Possible flatMemory (servingStates n)) :
      ∃ later, n ≤ later ∧ (servingStates later).progresses (servesOne later) = true :=
    untiring_statesFrom Silent
      (fun later => (servingStates later).progresses (servesOne later) = true)
      ends silent repeats finished length rfl n possible
  have last : servingStates 15 = final := statesFrom_of_execute ends
  exact ⟨rfl, last ▸ device, commands_finish run follows begun untiring⟩

end Samples

end Assembly

end CeServer
