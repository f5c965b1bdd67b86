import CeServer.Numbering
import CeServer.Replies

/-!
GETARCHITECTURE: the polls for its handle, the thread's error code that is read
after them, and the handle the command ends up with.
-/

namespace CeServer

open LittleEndian Interaction Transition

/-- A socket whose polls deliver into the caller's buffer: the error codes of
those that fail first, and what waits in it then. A receive that succeeds leaves
the error code as it is. -/
structure PolledSocket where
  failures : List Int
  waiting : List UInt8
  error : Int

def PolledSocket.recvNonBlocking (size : Nat) (socket : PolledSocket) :
    (Int × List UInt8) × PolledSocket :=
  match socket.failures with
  | code :: later => ((-1, []), { socket with failures := later, error := code })
  | [] =>
      let bytes := socket.waiting.take size
      ((bytes.length, bytes), { socket with waiting := socket.waiting.drop size })

def PolledSocket.prompt (handle : CE_HANDLE) (rest : List UInt8) : PolledSocket :=
  { failures := [], waiting := Word.toBytes handle ++ rest, error := 0 }

/-- `clock` counts the comparisons with the timeout. -/
structure Polling where
  socket : PolledSocket
  state : ClientState
  clock : Nat := 0

structure Polling.Setting where
  late : Nat → Bool
  model : Int32 → MemoryModel
  first : FirstEntry

namespace Polling

/-- The calls GETARCHITECTURE makes; it makes no others. -/
def answer (setting : Setting) : (op : Op) → Polling → Option (op.Response × Polling)
  | .recvNonBlocking size, polling =>
      let (polled, socket) := polling.socket.recvNonBlocking size
      some (polled, { polling with socket })
  | .lastError, polling => some (polling.socket.error, polling)
  | .pastTimeout, polling =>
      some (setting.late polling.clock, { polling with clock := polling.clock + 1 })
  | .sleep, polling => some ((), polling)
  | .state op, polling =>
      let (response, state) := op.apply setting.first polling.state
      some (response, { polling with state })
  | .getMemoryModel processID, polling => some (setting.model processID, polling)
  | .send bytes, polling => some ((bytes.length : Int), polling)
  | _, _ => none

abbrev Result (Value : Type) := Outcome Op Op.Response Polling Value

def serve (setting : Setting) (polling : Polling) : Result Bool :=
  Client.handleCommandGetArchitecture.run (answer setting) polling

end Polling

def Op.queried? : Op → Option Int32
  | .getMemoryModel processID => some processID
  | _ => none

def queried (trace : List (Event Op Op.Response)) : List Int32 :=
  trace.filterMap fun event => event.op.queried?

@[simp] theorem queried_append (first second : List (Event Op Op.Response)) :
    queried (first ++ second) = queried first ++ queried second :=
  List.filterMap_append

def FallsBack (trace : List (Event Op Op.Response)) : Prop :=
  ∃ event ∈ trace, event.op = .state .getProcessHandleLegacyCE

theorem fallsBack_append (first second : List (Event Op Op.Response)) :
    FallsBack (first ++ second) ↔ FallsBack first ∨ FallsBack second := by
  simp only [FallsBack, List.mem_append, or_and_right, exists_or]

structure ArchitectureReply where
  keepSocketOpen : Option Bool
  queried : List Int32
  sent : List UInt8

def architectureReply {World : Type} (outcome : Outcome Op Op.Response World Bool) :
    ArchitectureReply :=
  ⟨outcome.value, queried outcome.trace, sent outcome.trace⟩

theorem architectureReply_after {World : Type} {past : List (Event Op Op.Response)}
    (unasked : queried past = []) (unsent : sent past = [])
    (outcome : Outcome Op Op.Response World Bool) :
    architectureReply (outcome.after past) = architectureReply outcome := by
  simp only [architectureReply, Outcome.after_value, Outcome.after_trace, queried_append,
    sent_append, unasked, unsent, List.nil_append]

namespace Polling

variable {setting : Setting} {polling : Polling}

def replyFor (setting : Setting) (state : ClientState) (handle : CE_HANDLE) : ArchitectureReply :=
  if handle ∈ state.handlesToProcessIDs then
    { keepSocketOpen := some true
      queried := [state.getProcessID handle]
      sent := Word.toBytes (Client.getArchitectureFromMemoryModel
        (setting.model (state.getProcessID handle))) }
  else { keepSocketOpen := some false, queried := [], sent := [] }

theorem getArchitecture_reply (handle : CE_HANDLE) :
    architectureReply ((Client.getArchitecture handle).run (answer setting) polling) =
      replyFor setting polling.state handle := by
  simp only [Client.getArchitecture, invoke, Program.call_bind, Program.ret_bind]
  rw [Program.run_call_of_answer (polling.state.containsProcessIDHandle handle) polling rfl,
    ClientState.containsProcessIDHandle, replyFor]
  by_cases present : handle ∈ polling.state.handlesToProcessIDs
  · rw [decide_eq_true present, if_pos present]
    rfl
  · rw [decide_eq_false present, if_neg present]
    rfl

theorem getArchitecture_noFallback (setting : Setting) (polling : Polling) (handle : CE_HANDLE) :
    ¬FallsBack ((Client.getArchitecture handle).run (answer setting) polling).trace := by
  have uses : (Client.getArchitecture handle).Uses (· ≠ .state .getProcessHandleLegacyCE) := by
    refine ⟨nofun, fun present => (Program.uses_ite _ _).mpr ⟨fun _ => trivial, fun _ => ?_⟩⟩
    exact ⟨nofun, fun processID => ⟨nofun, fun model => ⟨nofun, fun _ => trivial⟩⟩⟩
  rintro ⟨event, member, legacy⟩
  exact uses.trace polling event member legacy

def Polls : Op → Prop
  | .recvNonBlocking _ | .pastTimeout | .sleep | .lastError => True
  | _ => False

theorem pollHandle_polls (rounds : Nat) (handle : CE_HANDLE) :
    (Client.pollHandle rounds handle).Uses Polls := by
  induction rounds generalizing handle with
  | zero => exact trivial
  | succ rounds ih =>
      refine ⟨trivial, fun polled => (Program.uses_ite _ _).mpr ⟨fun _ => trivial, fun _ => ?_⟩⟩
      refine ⟨trivial, fun late => (Program.uses_ite _ _).mpr ⟨fun _ => trivial, fun _ => ?_⟩⟩
      exact ⟨trivial, fun _ => ih _⟩

structure Polled (setting : Setting) (rounds : Nat) (start : CE_HANDLE) (polling : Polling)
    (handle : CE_HANDLE) (error : Int) : Prop where
  value : ((Client.pollHandle rounds start).run (answer setting) polling).value = some handle
  error : ((Client.pollHandle rounds start).run (answer setting) polling).world.socket.error = error
  state : ((Client.pollHandle rounds start).run (answer setting) polling).world.state =
    polling.state

theorem polled_arrived (setting : Setting) (rounds : Nat) (start handle : CE_HANDLE)
    (rest : List UInt8) (error : Int) (state : ClientState) (clock : Nat) :
    Polled setting (rounds + 1) start ⟨⟨[], Word.toBytes handle ++ rest, error⟩, state, clock⟩
      handle error := by
  have answered : answer setting (.recvNonBlocking (Word.width CE_HANDLE))
      ⟨⟨[], Word.toBytes handle ++ rest, error⟩, state, clock⟩ =
        some (((4 : Int), Word.toBytes handle), ⟨⟨[], rest, error⟩, state, clock⟩) := by
    simp only [answer, PolledSocket.recvNonBlocking, take_toBytes, drop_toBytes,
      Word.length_toBytes]
    rfl
  have word : (Word.ofBytes (Word.toBytes handle ++
      (Word.toBytes start).drop (Word.toBytes handle).length) : CE_HANDLE) = handle := by
    rw [Word.length_toBytes, List.drop_of_length_le (by simp), List.append_nil,
      Word.ofBytes_toBytes]
  have run : (Client.pollHandle (rounds + 1) start).run (answer setting)
      ⟨⟨[], Word.toBytes handle ++ rest, error⟩, state, clock⟩ =
        ⟨⟨⟨[], rest, error⟩, state, clock⟩,
          [⟨.recvNonBlocking (Word.width CE_HANDLE), ((4 : Int), Word.toBytes handle)⟩],
          some handle⟩ := by
    simp only [Client.pollHandle, invoke, Program.call_bind, Program.ret_bind]
    rw [Program.run_call_of_answer _ _ answered]
    simp only [word]
    rfl
  exact ⟨congrArg (·.value) run, congrArg (·.world.socket.error) run, congrArg (·.world.state) run⟩

theorem run_pollHandle_failed (setting : Setting) (rounds : Nat) (start : CE_HANDLE)
    (code error : Int) (later : List Int) (waiting : List UInt8) (state : ClientState)
    (clock : Nat) :
    (Client.pollHandle (rounds + 1) start).run (answer setting)
        ⟨⟨code :: later, waiting, error⟩, state, clock⟩ =
      if setting.late clock then
        ⟨⟨⟨later, waiting, code⟩, state, clock + 1⟩,
          [⟨.recvNonBlocking (Word.width CE_HANDLE), ((-1 : Int), [])⟩, ⟨.pastTimeout, true⟩],
          some start⟩
      else
        ((Client.pollHandle rounds start).run (answer setting)
          ⟨⟨later, waiting, code⟩, state, clock + 1⟩).after
            [⟨.recvNonBlocking (Word.width CE_HANDLE), ((-1 : Int), [])⟩, ⟨.pastTimeout, false⟩,
              ⟨.sleep, ()⟩] := by
  have word : (Word.ofBytes (Word.toBytes start) : CE_HANDLE) = start := Word.ofBytes_toBytes _
  simp only [Client.pollHandle, invoke, Program.call_bind, Program.ret_bind]
  rw [Program.run_call_of_answer ((-1 : Int), []) ⟨⟨later, waiting, code⟩, state, clock⟩ rfl]
  simp only [List.length_nil, List.drop_zero, List.nil_append, word]
  rw [if_neg (by decide), Program.run_call_of_answer (setting.late clock)
    ⟨⟨later, waiting, code⟩, state, clock + 1⟩ rfl]
  cases setting.late clock with
  | true => rfl
  | false =>
      simp only [Bool.false_eq_true, if_false]
      rw [Program.run_call_of_answer () ⟨⟨later, waiting, code⟩, state, clock + 1⟩ rfl]
      simp

theorem polled_failures (setting : Setting) (codes : List Int) {later : List Int} {rounds : Nat}
    {start handle : CE_HANDLE} {waiting : List UInt8} (error : Int) {final : Int}
    {state : ClientState} {clock : Nat}
    (patient : ∀ round < codes.length, setting.late (clock + round) = false)
    (next : Polled setting rounds start
      ⟨⟨later, waiting, codes.getLast?.getD error⟩, state, clock + codes.length⟩ handle final) :
    Polled setting (rounds + codes.length) start ⟨⟨codes ++ later, waiting, error⟩, state, clock⟩
      handle final := by
  induction codes generalizing error clock with
  | nil => exact next
  | cons code rest ih =>
      have inTime : setting.late clock = false := patient 0 (Nat.succ_pos _)
      rw [List.getLast?_cons, Option.getD_some, List.length_cons, Nat.add_comm rest.length,
        ← Nat.add_assoc] at next
      have following := ih code (fun round bound => by
        rw [Nat.add_assoc, Nat.add_comm 1]
        exact patient (round + 1) (Nat.succ_lt_succ bound)) next
      have run := run_pollHandle_failed setting (rounds + rest.length) start code error
        (rest ++ later) waiting state clock
      rw [inTime] at run
      constructor
      · exact (congrArg Outcome.value run).trans following.value
      · exact (congrArg (·.world.socket.error) run).trans following.error
      · exact (congrArg (·.world.state) run).trans following.state

theorem polled_silent (setting : Setting) {codes : List Int} {rounds : Nat}
    (long : rounds + 1 ≤ codes.length) (start : CE_HANDLE) (waiting : List UInt8) (error : Int)
    (state : ClientState) (clock : Nat) :
    ∃ code ∈ codes, Polled setting (rounds + 1) start ⟨⟨codes, waiting, error⟩, state, clock⟩
      start code := by
  induction rounds generalizing codes error clock with
  | zero =>
      obtain ⟨code, rest, rfl⟩ := List.exists_cons_of_length_pos long
      refine ⟨code, List.mem_cons_self, ?_⟩
      have run := run_pollHandle_failed setting 0 start code error rest waiting state
        clock
      cases late : setting.late clock with
      | true =>
          rw [late, if_pos rfl] at run
          constructor <;> rw [run]
      | false =>
          rw [late, if_neg Bool.false_ne_true] at run
          constructor <;> rw [run] <;> rfl
  | succ rounds ih =>
      have nonempty : 0 < codes.length := Nat.lt_of_lt_of_le (Nat.succ_pos _) long
      obtain ⟨code, rest, rfl⟩ := List.exists_cons_of_length_pos nonempty
      have run := run_pollHandle_failed setting (rounds + 1) start code error rest
        waiting state clock
      cases late : setting.late clock with
      | true =>
          refine ⟨code, List.mem_cons_self, ?_⟩
          rw [late, if_pos rfl] at run
          constructor <;> rw [run]
      | false =>
          obtain ⟨last, member, polled⟩ := ih (Nat.le_of_succ_le_succ long) code (clock + 1)
          refine ⟨last, List.mem_cons_of_mem _ member, ?_⟩
          rw [late, if_neg Bool.false_ne_true] at run
          constructor
          · exact (congrArg Outcome.value run).trans polled.value
          · exact (congrArg (·.world.socket.error) run).trans polled.error
          · exact (congrArg (·.world.state) run).trans polled.state

section Selection

variable {handle : CE_HANDLE} {error : Int}

theorem run_selectHandle (polled : Polled setting Client.pollRounds (-1) polling handle error) :
    ∃ past later, (∀ event ∈ past, Polls event.op) ∧ later.state = polling.state ∧
      Client.selectHandle.run (answer setting) polling =
        if error = Client.EWOULDBLOCK then
          ⟨later, past ++ [⟨.state .getProcessHandleLegacyCE,
              polling.state.getProcessHandleLegacyCE setting.first⟩],
            some (polling.state.getProcessHandleLegacyCE setting.first)⟩
        else ⟨later, past, some handle⟩ := by
  let polls := (Client.pollHandle Client.pollRounds (-1)).run (answer setting) polling
  have asked : answer setting .lastError polls.world = some (error, polls.world) :=
    congrArg (fun error => some (error, polls.world)) polled.error
  refine ⟨polls.trace ++ [⟨.lastError, error⟩], polls.world, fun event member => ?_,
    polled.state, ?_⟩
  · rcases List.mem_append.mp member with earlier | last
    · exact (pollHandle_polls _ _).trace polling event earlier
    · rw [List.mem_singleton.mp last]
      exact trivial
  · rw [Client.selectHandle, Program.run_bind_of_value polled.value]
    simp only [invoke, Program.call_bind, Program.ret_bind]
    rw [Program.run_call_of_answer _ _ asked]
    by_cases blocked : error = Client.EWOULDBLOCK
    · rw [if_pos blocked, if_pos (by simp [blocked])]
      rw [Program.run_call_of_answer (polling.state.getProcessHandleLegacyCE setting.first)
        polls.world (by rw [← polled.state]; rfl)]
      simp [Outcome.after, polls]
    · rw [if_neg blocked, if_neg (by simp [blocked])]
      simp [Outcome.after, polls]

theorem queried_polls {past : List (Event Op Op.Response)}
    (polls : ∀ event ∈ past, Polls event.op) :
    queried past = [] ∧ sent past = [] ∧ ¬FallsBack past := by
  refine ⟨List.filterMap_eq_nil_iff.mpr fun event member => ?_,
    List.flatMap_eq_nil_iff.mpr fun event member => ?_, ?_⟩
  · have allowed := polls event member
    cases shape : event.op <;> first | rfl | (rw [shape] at allowed; exact absurd allowed id)
  · have allowed := polls event member
    cases shape : event.op <;> first | rfl | (rw [shape] at allowed; exact absurd allowed id)
  · rintro ⟨event, member, legacy⟩
    have allowed := polls event member
    rw [legacy] at allowed
    exact allowed

theorem serve_reply (polled : Polled setting Client.pollRounds (-1) polling handle error) :
    (Client.selectHandle.run (answer setting) polling).value =
        some (if error = Client.EWOULDBLOCK then
          polling.state.getProcessHandleLegacyCE setting.first else handle) ∧
      architectureReply (serve setting polling) = replyFor setting polling.state
        (if error = Client.EWOULDBLOCK then
          polling.state.getProcessHandleLegacyCE setting.first else handle) ∧
      (FallsBack (serve setting polling).trace ↔ error = Client.EWOULDBLOCK) := by
  obtain ⟨past, later, polls, kept, run⟩ := run_selectHandle polled
  obtain ⟨noQuery, noReply, noFallback⟩ := queried_polls polls
  have served {selected : CE_HANDLE} {trace : List (Event Op Op.Response)}
      (unasked : queried trace = []) (unsent : sent trace = [])
      (selects : Client.selectHandle.run (answer setting) polling = ⟨later, trace, some selected⟩) :
      architectureReply (serve setting polling) = replyFor setting polling.state selected ∧
        (FallsBack (serve setting polling).trace ↔ FallsBack trace) := by
    have value : (Client.selectHandle.run (answer setting) polling).value = some selected := by
      rw [selects]
    rw [serve, Client.handleCommandGetArchitecture, Program.run_bind_of_value value, selects,
      architectureReply_after unasked unsent, getArchitecture_reply, kept, Outcome.after_trace,
      fallsBack_append]
    exact ⟨rfl, or_iff_left (getArchitecture_noFallback setting later selected)⟩
  by_cases blocked : error = Client.EWOULDBLOCK
  · rw [if_pos blocked] at run ⊢
    have legacy := (fallsBack_append past [⟨.state .getProcessHandleLegacyCE,
      polling.state.getProcessHandleLegacyCE setting.first⟩]).mpr
        (.inr ⟨_, List.mem_singleton_self _, rfl⟩)
    obtain ⟨reply, falls⟩ := served (by simp [noQuery]; rfl) (by simp [noReply]; rfl) run
    exact ⟨by rw [run], reply, iff_of_true (falls.mpr legacy) blocked⟩
  · rw [if_neg blocked] at run ⊢
    obtain ⟨reply, falls⟩ := served noQuery noReply run
    exact ⟨by rw [run], reply, iff_of_false (fun fell => noFallback (falls.mp fell)) blocked⟩

end Selection

theorem prompt_reply (handle : CE_HANDLE) (rest : List UInt8) (state : ClientState) :
    architectureReply (serve setting { socket := .prompt handle rest, state }) =
        replyFor setting state handle := by
  have polled := polled_arrived setting 10 (-1) handle rest 0 state 0
  have reply := (serve_reply polled).2.1
  rwa [if_neg (by decide)] at reply

section Samples

def openedFirst (processID : Int32) : ClientState :=
  (ClientState.generateHandle {}).2.storeOpenProcess processID 1

theorem openedFirst_reachable (processID : Int32) :
    ∃ (events : List (HandleEvent Unit)) (sharing : Sharing Unit),
      Run Sharing.Step {} events sharing ∧ sharing.state = openedFirst processID := by
  let generated : Sharing Unit :=
    { state := (ClientState.generateHandle {}).2
      storing := Function.update (fun _ => none) () (some (1, .process processID)) }
  have issued : Sharing.Step {} (.generate () (.process processID) 1) generated :=
    Sharing.Step.generate (.process processID) rfl
  have pending : generated.storing () = some (1, .process processID) := by simp [generated]
  exact ⟨_, _, (Run.single issued).snoc (Sharing.Step.insert pending), rfl⟩

theorem mem_openedFirst {processID : Int32} {handle : CE_HANDLE} :
    handle ∈ (openedFirst processID).handlesToProcessIDs ↔ handle = 1 := by
  refine Finmap.mem_insert.trans (or_iff_left ?_)
  exact Finmap.notMem_empty

theorem begin_openedFirst (first : FirstEntry) (processID : Int32) :
    first.begin (openedFirst processID).handlesToProcessIDs = some (1, processID) := by
  cases chosen : first.begin (openedFirst processID).handlesToProcessIDs with
  | none =>
      have member : (1 : CE_HANDLE) ∈ (openedFirst processID).handlesToProcessIDs :=
        mem_openedFirst.mpr rfl
      rw [first.begin_none chosen] at member
      exact absurd member Finmap.notMem_empty
  | some entry =>
      obtain ⟨handle, stored⟩ := entry
      have found := first.begin_mem chosen
      obtain rfl := mem_openedFirst.mp (Finmap.mem_iff.mpr ⟨stored, found⟩)
      have same : (openedFirst processID).handlesToProcessIDs.lookup 1 = some processID :=
        Finmap.lookup_insert _
      rw [Option.some.inj (found.symm.trans same)]

theorem legacyChoice_openedFirst (first : FirstEntry) (processID : Int32) :
    (openedFirst processID).getProcessHandleLegacyCE first = processID := by
  rw [ClientState.getProcessHandleLegacyCE, begin_openedFirst]

noncomputable def patient : Setting :=
  { late := fun _ => false, model := fun _ => .x64, first := FirstEntry.any }

def silentSocket : PolledSocket :=
  { failures := List.replicate 11 Client.EWOULDBLOCK, waiting := [], error := 0 }

theorem blocked_silentSocket : ∀ code ∈ silentSocket.failures, code = Client.EWOULDBLOCK :=
  fun _ member => List.eq_of_mem_replicate member

end Samples

/-- Without a handle the choice, and for a single process the reply, are right
exactly when the process ID of the first table entry is itself an open handle. -/
theorem legacyArchitecture_iff (setting : Setting) (polling : Polling)
    (opened : ∃ handle, handle ∈ polling.state.handlesToProcessIDs)
    (silent : Client.pollRounds ≤ polling.socket.failures.length)
    (blocked : ∀ code ∈ polling.socket.failures, code = Client.EWOULDBLOCK) :
    ((∃ handle, (Client.selectHandle.run (answer setting) polling).value = some handle ∧
          handle ∈ polling.state.handlesToProcessIDs) ∧
        ∀ handle, (∀ other, other ∈ polling.state.handlesToProcessIDs ↔ other = handle) →
          architectureReply (serve setting polling) =
            architectureReply
              (serve setting { socket := .prompt handle [], state := polling.state })) ↔
      ∃ handle processID,
        setting.first.begin polling.state.handlesToProcessIDs = some (handle, processID) ∧
          processID ∈ polling.state.handlesToProcessIDs := by
  obtain ⟨⟨failures, waiting, error⟩, state, clock⟩ := polling
  obtain ⟨code, member, polled⟩ := polled_silent setting silent (-1) waiting error state
    clock
  obtain ⟨value, reply, _⟩ := serve_reply polled
  rw [if_pos (blocked code member)] at value reply
  dsimp only at value reply opened ⊢
  rw [value, reply]
  cases chosen : setting.first.begin state.handlesToProcessIDs with
  | none =>
      obtain ⟨handle, present⟩ := opened
      rw [setting.first.begin_none chosen] at present
      exact absurd present Finmap.notMem_empty
  | some entry =>
      obtain ⟨handle, processID⟩ := entry
      have legacy : state.getProcessHandleLegacyCE setting.first = processID := by
        rw [ClientState.getProcessHandleLegacyCE, chosen]
      rw [legacy]
      constructor
      · rintro ⟨⟨selected, same, present⟩, _⟩
        exact ⟨handle, processID, rfl, Option.some.inj same ▸ present⟩
      · rintro ⟨_, _, same, present⟩
        obtain ⟨rfl, rfl⟩ := Prod.mk.inj (Option.some.inj same)
        refine ⟨⟨processID, rfl, present⟩, fun only single => ?_⟩
        rw [(single processID).mp present, prompt_reply]

/-- Process 1 happens to be open under handle 1. -/
theorem legacyArchitecture_iff_sameNumber :
    architectureReply (serve patient { socket := silentSocket, state := openedFirst 1 }) =
      architectureReply (serve patient { socket := .prompt 1 [], state := openedFirst 1 }) :=
  ((legacyArchitecture_iff patient { socket := silentSocket, state := openedFirst 1 }
    ⟨1, mem_openedFirst.mpr rfl⟩ (by decide) blocked_silentSocket).mpr
      ⟨1, 1, begin_openedFirst _ 1, mem_openedFirst.mpr rfl⟩).2 1 fun _ => mem_openedFirst

/-- With process 4 open under handle 1 the choice is 4. -/
theorem legacyArchitecture_unopened :
    ¬∀ (events : List (HandleEvent Unit)) (sharing : Sharing Unit),
      Run Sharing.Step {} events sharing → (∃ handle, handle ∈ sharing.state.handlesToProcessIDs) →
        ∃ handle, (Client.selectHandle.run (answer patient)
            { socket := silentSocket, state := sharing.state }).value = some handle ∧
          handle ∈ sharing.state.handlesToProcessIDs := by
  intro selects
  obtain ⟨events, sharing, run, state⟩ := openedFirst_reachable 4
  obtain ⟨handle, selected, member⟩ :=
    selects events sharing run ⟨1, state ▸ mem_openedFirst.mpr rfl⟩
  have enough : 10 + 1 ≤ silentSocket.failures.length := by decide
  obtain ⟨code, listed, polled⟩ := polled_silent patient enough (-1) [] 0 (openedFirst 4) 0
  have value : (Client.selectHandle.run (answer patient)
      { socket := silentSocket, state := openedFirst 4 }).value = some 4 := by
    refine (serve_reply polled).1.trans ?_
    rw [if_pos (blocked_silentSocket code listed)]
    exact congrArg some (legacyChoice_openedFirst patient.first 4)
  rw [state] at selected member
  obtain rfl := Option.some.inj (selected.symm.trans value)
  exact absurd (mem_openedFirst.mp member) (by decide)

theorem late_reply (setting : Setting) (state : ClientState) (handle : CE_HANDLE) (error : Int)
    {codes : List Int} (inTime : codes.length < Client.pollRounds)
    (patient : ∀ round < codes.length, setting.late round = false) (rest : List UInt8) :
    architectureReply (serve setting
        { socket := ⟨codes, Word.toBytes handle ++ rest, error⟩, state }) =
      replyFor setting state (if codes.getLast?.getD error = Client.EWOULDBLOCK then
        state.getProcessHandleLegacyCE setting.first else handle) ∧
      (FallsBack (serve setting
          { socket := ⟨codes, Word.toBytes handle ++ rest, error⟩, state }).trace ↔
        codes.getLast?.getD error = Client.EWOULDBLOCK) := by
  obtain ⟨rounds, total⟩ : ∃ rounds, Client.pollRounds = rounds + 1 + codes.length :=
    ⟨Client.pollRounds - 1 - codes.length, by omega⟩
  have arrives := polled_arrived setting rounds (-1) handle rest (codes.getLast?.getD error) state
    (0 + codes.length)
  have polled := polled_failures setting codes error
    (fun round bound => by rw [Nat.zero_add]; exact patient round bound) arrives
  rw [List.append_nil, ← total] at polled
  exact (serve_reply polled).2

/-- A handle that arrives late is honoured exactly when the error code that the
polls leave is not EWOULDBLOCK. -/
theorem lateHandle_iff (setting : Setting) (state : ClientState) (handle : CE_HANDLE) (error : Int)
    {codes : List Int} (inTime : codes.length < Client.pollRounds)
    (patient : ∀ round < codes.length, setting.late round = false) (rest : List UInt8) :
    (architectureReply (serve setting
          { socket := ⟨codes, Word.toBytes handle ++ rest, error⟩, state }) =
        architectureReply (serve setting { socket := .prompt handle rest, state }) ∧
      ¬FallsBack (serve setting
        { socket := ⟨codes, Word.toBytes handle ++ rest, error⟩, state }).trace) ↔
      codes.getLast?.getD error ≠ Client.EWOULDBLOCK := by
  obtain ⟨reply, falls⟩ := late_reply setting state handle error inTime patient rest
  rw [reply, prompt_reply, falls]
  constructor
  · exact fun answers => answers.2
  · intro unblocked
    rw [if_neg unblocked]
    exact ⟨rfl, unblocked⟩

theorem lateHandle_iff_interrupted :
    architectureReply (serve patient
        { socket := ⟨[4], Word.toBytes (1 : CE_HANDLE) ++ [], 0⟩, state := openedFirst 4 }) =
      architectureReply (serve patient { socket := .prompt 1 [], state := openedFirst 4 }) :=
  have inTime : [(4 : Int)].length < Client.pollRounds := by decide
  ((lateHandle_iff patient (openedFirst 4) 1 0 inTime (fun _ _ => rfl) []).mpr (by decide)).1

/-- One poll finds nothing, and the next one finds the handle. -/
theorem lateHandle_fallsBack :
    ¬∀ (events : List (HandleEvent Unit)) (sharing : Sharing Unit) (handle : CE_HANDLE)
      (codes : List Int), Run Sharing.Step {} events sharing →
        handle ∈ sharing.state.handlesToProcessIDs → codes.length < Client.pollRounds →
        ¬FallsBack (serve patient { socket := ⟨codes, Word.toBytes handle ++ [], 0⟩
                                    state := sharing.state }).trace := by
  intro honours
  obtain ⟨events, sharing, run, state⟩ := openedFirst_reachable 4
  have inTime : [Client.EWOULDBLOCK].length < Client.pollRounds := by decide
  have falls := (late_reply patient sharing.state 1 0 inTime (fun _ _ => rfl) []).2
  exact honours events sharing 1 _ run (state ▸ mem_openedFirst.mpr rfl) inTime (falls.mpr rfl)

end Polling

section Linux

variable {Outside : Type} {env : Environment Outside} {Peer : Type} [DecidableEq Peer]

structure HonoursHandle (handle : CE_HANDLE) (rest : List UInt8) (world : World Outside)
    (outcome : Outcome Op Op.Response (World Outside) Bool) : Prop where
  consumed : outcome.world.input = rest
  queried : queried outcome.trace = [world.state.getProcessID handle]
  answered : ∃ model, (⟨.getMemoryModel (world.state.getProcessID handle), model⟩ :
      Event Op Op.Response) ∈ outcome.trace ∧
    sent outcome.trace = Word.toBytes (Client.getArchitectureFromMemoryModel model)
  keeps : outcome.value = some true

theorem minusOne_notMem {events : List (HandleEvent Peer)} {sharing : Sharing Peer}
    (run : Run Sharing.Step {} events sharing) :
    (-1 : CE_HANDLE) ∉ sharing.state.handlesToProcessIDs := by
  intro member
  obtain ⟨number, bound, same, _⟩ := ((numbered_of_run run).live (-1)).mp (.inl member)
  have value := congrArg Int32.toInt same
  rw [toInt_issuedNumber] at value
  have negative : (-1 : CE_HANDLE).toInt = -1 := by decide
  omega

/-- `LinuxSocketWrapper::recvNonBlocking` takes the bytes off the socket, and the
handle variable keeps its -1. -/
theorem linux_getArchitecture {world : World Outside} {handle : CE_HANDLE} {rest : List UInt8}
    (arrived : world.input = Word.toBytes handle ++ rest)
    (ready : 4 ≤ (env.respond (.recvNonBlocking 4) world.outside).1.1)
    (unblocked : (env.respond .lastError
      (env.respond (.recvNonBlocking 4) world.outside).2).1 ≠ Client.EWOULDBLOCK)
    (unissued : (-1 : CE_HANDLE) ∉ world.state.handlesToProcessIDs) :
    (Client.handleCommandGetArchitecture.run (answer env) world).value = some false := by
  let polled := env.respond (.recvNonBlocking 4) world.outside
  let asked := env.respond .lastError polled.2
  have delivered : answer env (.recvNonBlocking 4) world =
      some (((4 : Int), []), { world with input := rest, outside := polled.2 }) := by
    have count : min polled.1.1.toNat 4 = Word.width CE_HANDLE := by
      have enough : 4 ≤ polled.1.1 := ready
      change min polled.1.1.toNat 4 = 4
      omega
    have bytes : world.input.take (min polled.1.1.toNat 4) = Word.toBytes handle := by
      rw [count, arrived, take_toBytes]
    have left : world.input.drop 4 = rest := by
      rw [arrived]
      exact drop_toBytes handle rest
    have length : (Word.toBytes handle).length = 4 := Word.length_toBytes handle
    have full : (Word.toBytes handle).isEmpty = false := by
      rw [List.isEmpty_eq_false_iff, ← List.length_pos_iff, length]
      decide
    simp only [answer, LinuxSocketWrapper.recvNonBlocking]
    change (some (if (world.input.take (min polled.1.1.toNat 4)).isEmpty then _ else _)) = _
    rw [bytes, full, if_neg Bool.false_ne_true, length, left]
    rfl
  have kept : (Word.ofBytes (Word.toBytes (-1 : CE_HANDLE)) : CE_HANDLE) = -1 :=
    Word.ofBytes_toBytes _
  have poll : (Client.pollHandle Client.pollRounds (-1)).run (answer env) world =
      ⟨{ world with input := rest, outside := polled.2 },
        [⟨.recvNonBlocking 4, ((4 : Int), [])⟩], some (-1)⟩ := by
    rw [Client.pollRounds, Client.pollHandle]
    simp only [invoke, Program.call_bind, Program.ret_bind]
    refine (Program.run_call_of_answer _ _ delivered _).trans ?_
    simp only [List.length_nil, List.drop_zero, List.nil_append, kept]
    rfl
  have returned : ((Client.pollHandle Client.pollRounds (-1)).run (answer env) world).value =
      some (-1) := congrArg Outcome.value poll
  have select : (Client.selectHandle.run (answer env) world).value = some (-1) := by
    rw [Client.selectHandle, Program.run_bind_of_value returned, poll]
    simp only [invoke, Program.call_bind, Program.ret_bind]
    rw [Program.run_call_of_answer asked.1 { world with input := rest, outside := asked.2 } rfl,
      if_neg (by simpa using unblocked)]
    rfl
  have value := handle_value env .getArchitecture world
  rw [keepsSocketOpen, select, Option.map_some, ClientState.containsProcessIDHandle,
    decide_eq_false unissued] at value
  exact value

theorem linuxHandle_never {events : List (HandleEvent Peer)} {sharing : Sharing Peer}
    (run : Run Sharing.Step {} events sharing) {world : World Outside}
    (reached : world.state = sharing.state) {handle : CE_HANDLE} {rest : List UInt8}
    (arrived : world.input = Word.toBytes handle ++ rest)
    (ready : 4 ≤ (env.respond (.recvNonBlocking 4) world.outside).1.1)
    (unblocked : (env.respond .lastError
      (env.respond (.recvNonBlocking 4) world.outside).2).1 ≠ Client.EWOULDBLOCK) :
    ¬HonoursHandle handle rest world
      ((Client.dispatchCommand Command.getArchitecture.code).run (answer env) world) := by
  intro honours
  have keeps := honours.keeps
  rw [Client.dispatchCommand_code] at keeps
  have refuses := linux_getArchitecture arrived ready unblocked
    (reached ▸ minusOne_notMem run)
  exact nomatch keeps.symm.trans refuses

noncomputable def Environment.arrived : Environment Unit where
  respond op outside := match op with
    | .recvNonBlocking size => (((size : Int), []), outside)
    | op => Environment.healthy.respond op outside
  firstEntry := Environment.healthy.firstEntry

def asking (handle : CE_HANDLE) (state : ClientState) : World Unit :=
  { input := Word.toBytes handle ++ [], state, outside := () }

theorem ready_asking (handle : CE_HANDLE) (state : ClientState) :
    4 ≤ (Environment.arrived.respond (.recvNonBlocking 4) (asking handle state).outside).1.1 :=
  le_refl (4 : Int)

theorem unblocked_asking (handle : CE_HANDLE) (state : ClientState) :
    (Environment.arrived.respond .lastError
      (Environment.arrived.respond (.recvNonBlocking 4) (asking handle state).outside).2).1 ≠
        Client.EWOULDBLOCK :=
  show (0 : Int) ≠ Client.EWOULDBLOCK by decide

theorem linuxHandle_never_process4 :
    ¬HonoursHandle 1 [] (asking 1 (Polling.openedFirst 4))
      ((Client.dispatchCommand Command.getArchitecture.code).run (answer .arrived)
        (asking 1 (Polling.openedFirst 4))) := by
  obtain ⟨events, sharing, run, state⟩ := Polling.openedFirst_reachable 4
  exact linuxHandle_never run state.symm rfl (ready_asking ..) (unblocked_asking _ _)

theorem linuxHandle_refused :
    ¬∀ (events : List (HandleEvent Unit)) (sharing : Sharing Unit) (handle : CE_HANDLE),
      Run Sharing.Step {} events sharing → handle ∈ sharing.state.handlesToProcessIDs →
        HonoursHandle handle [] (asking handle sharing.state)
          ((Client.dispatchCommand Command.getArchitecture.code).run (answer .arrived)
            (asking handle sharing.state)) := by
  intro honours
  obtain ⟨events, sharing, run, state⟩ := Polling.openedFirst_reachable 4
  have keeps := (honours events sharing 1 run (state ▸ Polling.mem_openedFirst.mpr rfl)).keeps
  rw [Client.dispatchCommand_code] at keeps
  have refuses := linux_getArchitecture (show (asking 1 sharing.state).input = _ from rfl)
    (ready_asking ..) (unblocked_asking _ _) (minusOne_notMem run)
  exact nomatch keeps.symm.trans refuses

end Linux

end CeServer
