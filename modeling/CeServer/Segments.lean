import CeServer.Architecture

/-!
GETARCHITECTURE on a stream that arrives in pieces: what the polls for its
handle leave on the socket for the connection loop.
-/

namespace CeServer

open LittleEndian Interaction Transition

inductive SocketWrapper
  | winsock
  | linux
  deriving DecidableEq

/-- What a non-blocking receive leaves in its caller's buffer: the Linux wrapper
receives to the address of its own parameter. -/
def SocketWrapper.delivered : SocketWrapper → List UInt8 → List UInt8
  | winsock, bytes => bytes
  | linux, _ => []

inductive Poll
  | failed (code : Int)
  | arrived (segment : List UInt8)
  deriving DecidableEq

namespace Poll

def bytes : Poll → List UInt8
  | failed _ => []
  | arrived segment => segment

def stream (polls : List Poll) : List UInt8 := polls.flatMap bytes

@[simp] theorem stream_cons (poll : Poll) (later : List Poll) :
    stream (poll :: later) = poll.bytes ++ stream later :=
  List.flatMap_cons

def firstSegment : List Poll → List UInt8
  | [] => []
  | failed _ :: later => firstSegment later
  | arrived segment :: _ => segment

def afterFirst : List Poll → List Poll
  | [] => []
  | failed _ :: later => afterFirst later
  | arrived _ :: later => later

/-- The thread's error code when the first segment has been received. -/
def lastError (error : Int) : List Poll → Int
  | failed code :: later => lastError code later
  | _ => error

theorem firstSegment_append_stream (polls : List Poll) :
    firstSegment polls ++ stream (afterFirst polls) = stream polls := by
  induction polls with
  | nil => rfl
  | cons poll later ih =>
      cases poll with
      | failed code =>
          rw [stream_cons]
          exact ih
      | arrived segment => rw [stream_cons]; rfl

end Poll

/-- What successive polls find, and the stream behind it. -/
structure SegmentedSocket where
  polls : List Poll
  rest : List UInt8
  error : Int

namespace SegmentedSocket

/-- The bytes the next receives of the connection take, in order. -/
def left (socket : SegmentedSocket) : List UInt8 := Poll.stream socket.polls ++ socket.rest

def recvNonBlocking (size : Nat) (socket : SegmentedSocket) :
    (Int × List UInt8) × SegmentedSocket :=
  match socket.polls with
  | .failed code :: later => ((-1, []), { socket with polls := later, error := code })
  | .arrived segment :: later =>
      let bytes := segment.take size
      ((bytes.length, bytes),
        { socket with polls := if segment.length ≤ size then later
                               else .arrived (segment.drop size) :: later })
  | [] =>
      let bytes := socket.rest.take size
      ((bytes.length, bytes), { socket with rest := socket.rest.drop size })

end SegmentedSocket

structure Segmented where
  socket : SegmentedSocket
  state : ClientState
  clock : Nat := 0

/-- The bytes of a handle, cut in any way, all found by polls before the timeout. -/
structure Arrival (late : Nat → Bool) (handle : CE_HANDLE) where
  polls : List Poll
  nonempty : ∀ segment, .arrived segment ∈ polls → segment ≠ []
  whole : Poll.stream polls = Word.toBytes handle
  enough : polls.length ≤ Client.pollRounds
  inTime : ∀ round, round + 1 < polls.length → late round = false

namespace Segmented

open Polling (Setting)

/-- The calls GETARCHITECTURE makes; it makes no others. -/
def answer (wrapper : SocketWrapper) (setting : Setting) :
    (op : Op) → Segmented → Option (op.Response × Segmented)
  | .recvNonBlocking size, segmented =>
      let (polled, socket) := segmented.socket.recvNonBlocking size
      some ((polled.1, wrapper.delivered polled.2), { segmented with socket })
  | .lastError, segmented => some (segmented.socket.error, segmented)
  | .pastTimeout, segmented =>
      some (setting.late segmented.clock, { segmented with clock := segmented.clock + 1 })
  | .sleep, segmented => some ((), segmented)
  | .state op, segmented =>
      let (response, state) := op.apply setting.first segmented.state
      some (response, { segmented with state })
  | .getMemoryModel processID, segmented => some (setting.model processID, segmented)
  | .send bytes, segmented => some ((bytes.length : Int), segmented)
  | _, _ => none

def serve (wrapper : SocketWrapper) (setting : Setting) (segmented : Segmented) :
    Outcome Op Op.Response Segmented Bool :=
  Client.handleCommandGetArchitecture.run (answer wrapper setting) segmented

/-- The handle variable after a receive of these bytes. -/
def received (wrapper : SocketWrapper) (start : CE_HANDLE) (segment : List UInt8) : CE_HANDLE :=
  Word.ofBytes (wrapper.delivered segment ++
    (Word.toBytes start).drop (wrapper.delivered segment).length)

/-- The handle the command works with. -/
def chosen (wrapper : SocketWrapper) (setting : Setting) (segmented : Segmented) : CE_HANDLE :=
  if Poll.lastError segmented.socket.error segmented.socket.polls = Client.EWOULDBLOCK then
    segmented.state.getProcessHandleLegacyCE setting.first
  else received wrapper (-1) (Poll.firstSegment segmented.socket.polls)

section Polls

variable {wrapper : SocketWrapper} {setting : Setting}

structure Arrives (wrapper : SocketWrapper) (setting : Setting) (rounds : Nat) (start : CE_HANDLE)
    (segmented : Segmented) : Prop where
  value : ((Client.pollHandle rounds start).run (answer wrapper setting) segmented).value =
    some (received wrapper start (Poll.firstSegment segmented.socket.polls))
  socket : ((Client.pollHandle rounds start).run (answer wrapper setting) segmented).world.socket =
    { segmented.socket with
      polls := Poll.afterFirst segmented.socket.polls
      error := Poll.lastError segmented.socket.error segmented.socket.polls }
  state : ((Client.pollHandle rounds start).run (answer wrapper setting) segmented).world.state =
    segmented.state

theorem arrives_first (rounds : Nat) (start : CE_HANDLE) {segment : List UInt8}
    (short : segment.length ≤ 4) (nonempty : segment ≠ []) (later : List Poll) (rest : List UInt8)
    (error : Int) (state : ClientState) (clock : Nat) :
    Arrives wrapper setting (rounds + 1) start
      ⟨⟨.arrived segment :: later, rest, error⟩, state, clock⟩ := by
  have positive : ((segment.length : Nat) : Int) > 0 := by
    have := List.length_pos_iff.mpr nonempty
    omega
  have answered : answer wrapper setting (.recvNonBlocking (Word.width CE_HANDLE))
      ⟨⟨.arrived segment :: later, rest, error⟩, state, clock⟩ =
        some (((segment.length : Int), wrapper.delivered segment),
          ⟨⟨later, rest, error⟩, state, clock⟩) := by
    have width : Word.width CE_HANDLE = 4 := rfl
    simp only [answer, SegmentedSocket.recvNonBlocking, width, List.take_of_length_le short,
      if_pos short]
  have run : (Client.pollHandle (rounds + 1) start).run (answer wrapper setting)
      ⟨⟨.arrived segment :: later, rest, error⟩, state, clock⟩ =
        ⟨⟨⟨later, rest, error⟩, state, clock⟩,
          [⟨.recvNonBlocking (Word.width CE_HANDLE),
            ((segment.length : Int), wrapper.delivered segment)⟩],
          some (received wrapper start segment)⟩ := by
    simp only [Client.pollHandle, invoke, Program.call_bind, Program.ret_bind]
    rw [Program.run_call_of_answer _ _ answered]
    simp only [if_pos positive]
    rfl
  exact ⟨congrArg (·.value) run, congrArg (·.world.socket) run, congrArg (·.world.state) run⟩

theorem arrives_later {rounds : Nat} {start : CE_HANDLE} (code : Int) {later : List Poll}
    {rest : List UInt8} {error : Int} {state : ClientState} {clock : Nat}
    (patient : setting.late clock = false)
    (next : Arrives wrapper setting rounds start ⟨⟨later, rest, code⟩, state, clock + 1⟩) :
    Arrives wrapper setting (rounds + 1) start
      ⟨⟨.failed code :: later, rest, error⟩, state, clock⟩ := by
  have answered : answer wrapper setting (.recvNonBlocking (Word.width CE_HANDLE))
      ⟨⟨.failed code :: later, rest, error⟩, state, clock⟩ =
        some (((-1 : Int), []), ⟨⟨later, rest, code⟩, state, clock⟩) := by
    cases wrapper <;> rfl
  have word : (Word.ofBytes (Word.toBytes start) : CE_HANDLE) = start := Word.ofBytes_toBytes _
  have run : (Client.pollHandle (rounds + 1) start).run (answer wrapper setting)
      ⟨⟨.failed code :: later, rest, error⟩, state, clock⟩ =
        ((Client.pollHandle rounds start).run (answer wrapper setting)
          ⟨⟨later, rest, code⟩, state, clock + 1⟩).after
            [⟨.recvNonBlocking (Word.width CE_HANDLE), ((-1 : Int), [])⟩, ⟨.pastTimeout, false⟩,
              ⟨.sleep, ()⟩] := by
    simp only [Client.pollHandle, invoke, Program.call_bind, Program.ret_bind]
    rw [Program.run_call_of_answer _ _ answered]
    simp only [List.length_nil, List.drop_zero, List.nil_append, word]
    rw [if_neg (by decide), Program.run_call_of_answer (setting.late clock)
      ⟨⟨later, rest, code⟩, state, clock + 1⟩ rfl, patient]
    simp only [Bool.false_eq_true, if_false]
    rw [Program.run_call_of_answer () ⟨⟨later, rest, code⟩, state, clock + 1⟩ rfl]
    simp
  constructor
  · exact (congrArg Outcome.value run).trans next.value
  · exact (congrArg (·.world.socket) run).trans next.socket
  · exact (congrArg (·.world.state) run).trans next.state

theorem arrives {rounds : Nat} {start : CE_HANDLE} {polls : List Poll} {rest : List UInt8}
    {error : Int} {state : ClientState} {clock : Nat} (enough : polls.length ≤ rounds)
    (nonempty : ∀ segment, .arrived segment ∈ polls → segment ≠ [])
    (short : (Poll.stream polls).length ≤ 4) (bytes : Poll.stream polls ≠ [])
    (inTime : ∀ round, round + 1 < polls.length → setting.late (clock + round) = false) :
    Arrives wrapper setting rounds start ⟨⟨polls, rest, error⟩, state, clock⟩ := by
  induction polls generalizing rounds error clock with
  | nil => exact absurd rfl bytes
  | cons poll later ih =>
      obtain ⟨rounds, rfl⟩ : ∃ before, rounds = before + 1 :=
        ⟨rounds - 1, by rw [List.length_cons] at enough; omega⟩
      rw [Poll.stream_cons] at short bytes
      cases poll with
      | arrived segment =>
          refine arrives_first rounds start ?_ (nonempty segment List.mem_cons_self) later rest
            error state clock
          rw [List.length_append] at short
          exact (Nat.le_add_right _ _).trans short
      | failed code =>
          have more : 0 < later.length := by
            rw [List.length_pos_iff]
            rintro rfl
            exact bytes rfl
          refine arrives_later code (inTime 0 (Nat.succ_lt_succ more)) ?_
          refine ih (Nat.le_of_succ_le_succ enough)
            (fun segment member => nonempty segment (List.mem_cons_of_mem _ member)) short bytes
            fun round bound => ?_
          rw [Nat.add_assoc, Nat.add_comm 1]
          exact inTime (round + 1) (Nat.succ_lt_succ bound)

end Polls

variable {wrapper : SocketWrapper} {setting : Setting}

/-- The calls that leave the socket alone. -/
def Keeps : Op → Prop
  | .recvNonBlocking _ => False
  | _ => True

theorem socket_of_keeps {Value : Type} {handler : Handler Value} (keeps : handler.Uses Keeps)
    (segmented : Segmented) :
    (handler.run (answer wrapper setting) segmented).world.socket = segmented.socket := by
  refine keeps.frame (fun op kept before response after answered => ?_) segmented
  cases op
  case recvNonBlocking => exact absurd kept id
  all_goals
    simp only [answer, Option.some.injEq, Prod.mk.injEq, reduceCtorEq] at answered
  all_goals
    obtain ⟨_, rfl⟩ := answered
    rfl

theorem getArchitecture_keeps (handle : CE_HANDLE) :
    (Client.getArchitecture handle).Uses Keeps := by
  refine ⟨trivial, fun present => (Program.uses_ite _ _).mpr ⟨fun _ => trivial, fun _ => ?_⟩⟩
  exact ⟨trivial, fun processID => ⟨trivial, fun model => ⟨trivial, fun _ => trivial⟩⟩⟩

theorem getArchitecture_value (handle : CE_HANDLE) (segmented : Segmented) :
    ((Client.getArchitecture handle).run (answer wrapper setting) segmented).value =
      some (decide (handle ∈ segmented.state.handlesToProcessIDs)) := by
  simp only [Client.getArchitecture, invoke, Program.call_bind, Program.ret_bind]
  rw [Program.run_call_of_answer (segmented.state.containsProcessIDHandle handle) segmented rfl,
    ClientState.containsProcessIDHandle]
  by_cases present : handle ∈ segmented.state.handlesToProcessIDs
  · rw [decide_eq_true present]
    rfl
  · rw [decide_eq_false present]
    rfl

theorem serve_arrives {segmented : Segmented}
    (arrives : Arrives wrapper setting Client.pollRounds (-1) segmented) :
    (serve wrapper setting segmented).value =
        some (decide (chosen wrapper setting segmented ∈ segmented.state.handlesToProcessIDs)) ∧
      (serve wrapper setting segmented).world.socket.left =
        Poll.stream (Poll.afterFirst segmented.socket.polls) ++ segmented.socket.rest := by
  let polled := (Client.pollHandle Client.pollRounds (-1)).run (answer wrapper setting) segmented
  have asked : answer wrapper setting .lastError polled.world =
      some (Poll.lastError segmented.socket.error segmented.socket.polls, polled.world) :=
    congrArg (fun socket => some (SegmentedSocket.error socket, polled.world)) arrives.socket
  have selected : ∃ trace, Client.selectHandle.run (answer wrapper setting) segmented =
      ⟨polled.world, trace, some (chosen wrapper setting segmented)⟩ := by
    rw [Client.selectHandle, Program.run_bind_of_value arrives.value]
    simp only [invoke, Program.call_bind, Program.ret_bind]
    rw [Program.run_call_of_answer _ _ asked, chosen]
    by_cases blocked :
        Poll.lastError segmented.socket.error segmented.socket.polls = Client.EWOULDBLOCK
    · rw [if_pos blocked, if_pos (by simp [blocked]), Program.run_call_of_answer
        (segmented.state.getProcessHandleLegacyCE setting.first) polled.world
        (by rw [← arrives.state]; rfl)]
      exact ⟨_, rfl⟩
    · rw [if_neg blocked, if_neg (by simp [blocked])]
      exact ⟨_, rfl⟩
  obtain ⟨trace, run⟩ := selected
  have value : (Client.selectHandle.run (answer wrapper setting) segmented).value =
      some (chosen wrapper setting segmented) := by rw [run]
  rw [serve, Client.handleCommandGetArchitecture, Program.run_bind_of_value value, run]
  constructor
  · rw [Outcome.after_value, getArchitecture_value]
    exact congrArg (fun state : ClientState => some (decide (_ ∈ state.handlesToProcessIDs)))
      arrives.state
  · rw [Outcome.after_world, socket_of_keeps (getArchitecture_keeps _)]
    exact congrArg SegmentedSocket.left arrives.socket

/-- What is left on the socket begins with the next request. -/
def KeepsStep (rest : List UInt8) (outcome : Outcome Op Op.Response Segmented Bool) : Prop :=
  outcome.value = some true → outcome.world.socket.left = rest

def asking {late : Nat → Bool} {handle : CE_HANDLE} (arrival : Arrival late handle)
    (rest : List UInt8) (error : Int) (state : ClientState) : Segmented :=
  { socket := ⟨arrival.polls, rest, error⟩, state }

section Arrived

variable {handle : CE_HANDLE}

theorem length_stream {late : Nat → Bool} (arrival : Arrival late handle) :
    (Poll.stream arrival.polls).length = 4 := by
  rw [arrival.whole]
  exact Word.length_toBytes handle

theorem serve_asking (wrapper : SocketWrapper) (setting : Setting)
    (arrival : Arrival setting.late handle) (rest : List UInt8) (error : Int)
    (state : ClientState) :
    (serve wrapper setting (asking arrival rest error state)).value =
        some (decide (chosen wrapper setting (asking arrival rest error state) ∈
          state.handlesToProcessIDs)) ∧
      (serve wrapper setting (asking arrival rest error state)).world.socket.left =
        Poll.stream (Poll.afterFirst arrival.polls) ++ rest := by
  have bytes : Poll.stream arrival.polls ≠ [] := by
    intro none
    have length := length_stream arrival
    rw [none] at length
    exact absurd length (by decide)
  apply serve_arrives
  apply arrives arrival.enough arrival.nonempty (length_stream arrival).le bytes
  intro round bound
  rw [Nat.zero_add]
  exact arrival.inTime round bound

/-- The loop stops at the first bytes it gets. -/
theorem getArchitecture_keepsStep_iff (wrapper : SocketWrapper) (setting : Setting)
    (arrival : Arrival setting.late handle) (rest : List UInt8) (error : Int)
    (state : ClientState) :
    KeepsStep rest (serve wrapper setting (asking arrival rest error state)) ↔
      (Poll.firstSegment arrival.polls).length = 4 ∨
        chosen wrapper setting (asking arrival rest error state) ∉ state.handlesToProcessIDs := by
  obtain ⟨value, left⟩ := serve_asking wrapper setting arrival rest error state
  have split := congrArg List.length (Poll.firstSegment_append_stream arrival.polls)
  rw [List.length_append, length_stream arrival] at split
  rw [KeepsStep, value, left, Option.some.injEq, decide_eq_true_eq]
  constructor
  · intro keeps
    by_cases opened :
        chosen wrapper setting (asking arrival rest error state) ∈ state.handlesToProcessIDs
    · have none := List.append_left_eq_self.mp (keeps opened)
      rw [none, List.length_nil] at split
      exact .inl split
    · exact .inr opened
  · rintro (full | closed) opened
    · have none : Poll.stream (Poll.afterFirst arrival.polls) = [] :=
        List.length_eq_zero_iff.mp (by omega)
      exact List.append_left_eq_self.mpr none
    · exact absurd opened closed

end Arrived

def splitHandle (late : Nat → Bool) (patient : late 0 = false ∧ late 1 = false) :
    Arrival late 1 where
  polls := [.failed Client.EWOULDBLOCK, .arrived [1, 0], .arrived [0, 0]]
  nonempty := by
    intro segment member
    rcases List.mem_cons.mp member with first | later
    · cases first
    · rcases List.mem_cons.mp later with second | third
      · cases second
        exact List.cons_ne_nil _ _
      · cases List.mem_singleton.mp third
        exact List.cons_ne_nil _ _
  whole := rfl
  enough := by decide
  inTime := by
    intro round bound
    obtain rfl | rfl : round = 0 ∨ round = 1 := by
      simp only [List.length_cons, List.length_nil] at bound
      omega
    · exact patient.1
    · exact patient.2

/-- One poll finds nothing and the next one two of the four bytes; the legacy
choice happens to be open. -/
theorem getArchitecture_outOfStep :
    ¬∀ (wrapper : SocketWrapper) (setting : Setting) (events : List (HandleEvent Unit))
      (sharing : Sharing Unit) (handle : CE_HANDLE) (arrival : Arrival setting.late handle)
      (rest : List UInt8), Run Sharing.Step {} events sharing →
        handle ∈ sharing.state.handlesToProcessIDs →
        KeepsStep rest (serve wrapper setting (asking arrival rest 0 sharing.state)) := by
  intro keeps
  obtain ⟨events, sharing, run, state⟩ := Polling.openedFirst_reachable 1
  have opened : (1 : CE_HANDLE) ∈ sharing.state.handlesToProcessIDs :=
    state ▸ Polling.mem_openedFirst.mpr rfl
  let arrival := splitHandle Polling.patient.late ⟨rfl, rfl⟩
  have legacy : chosen .linux Polling.patient (asking arrival [] 0 sharing.state) = 1 := by
    rw [state]
    exact Polling.legacyChoice_openedFirst Polling.patient.first 1
  obtain ⟨value, left⟩ := serve_asking .linux Polling.patient arrival [] 0 sharing.state
  rw [legacy, decide_eq_true opened] at value
  have none := left.symm.trans (keeps .linux Polling.patient events sharing 1 arrival [] run opened
    value)
  exact absurd none (List.cons_ne_nil _ _)

end Segmented

end CeServer
