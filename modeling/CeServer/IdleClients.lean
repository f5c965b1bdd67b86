import CeServer.Descriptors
import CeServer.HandleTargets

/-!
One connection on Windows, step by step with the bytes of its peer: which
receives wait for them and why the thread closes the socket.
-/

namespace CeServer

open LittleEndian Interaction Transition Server

inductive Transport
  | up
  | closed
  | broken
  deriving DecidableEq

/-- `nonBlocking` is the mode that `ioctlsocket` sets by FIONBIO; `arrived` are
the bytes that no receive has taken yet. -/
structure WinsockSocket where
  nonBlocking : Bool := false
  arrived : List UInt8 := []
  transport : Transport := .up

/-- `::recv` of Winsock with what is documented of it. It is `none` as long as
the call waits. -/
structure Winsock where
  recv : (waitAll : Bool) → (size : Nat) → WinsockSocket → Option (Int × List UInt8)
  waits : ∀ size socket, socket.nonBlocking = false → socket.transport = .up →
    socket.arrived.length < size → recv true size socket = none
  fails : ∀ size socket result, socket.nonBlocking = false →
    recv true size socket = some result → result.1 < 0 → socket.transport = .broken
  wouldBlock : ∀ waitAll size socket, socket.nonBlocking = true → socket.transport = .up →
    socket.arrived = [] → ∃ result, recv waitAll size socket = some result ∧ result.1 < 0

/-- `thread` is what `handleClientConnection` has still to do of its turn. -/
structure WinsockConnection where
  socket : WinsockSocket := {}
  state : ClientState := {}
  thread : Option (Handler Turn) := some turn

inductive WinsockEvent
  | arrives (bytes : List UInt8)
  | shutsDown
  | breaks
  | call (first : FirstEntry) (outside : (op : Op) → op.Response)
  | finish

namespace WinsockConnection

variable {winsock : Winsock}

def peer (connection : WinsockConnection) (socket : WinsockSocket) : Option WinsockConnection :=
  match connection.socket.transport with
  | .up => some { connection with socket }
  | _ => none

/-- `WinsockWrapper::recv` and `WinsockWrapper::recvNonBlocking`, which first
sets FIONBIO; nothing resets it. -/
def receive (winsock : Winsock) (waitAll : Bool) (size : Nat) (socket : WinsockSocket) :
    Option ((Int × List UInt8) × WinsockSocket) :=
  let socket := { socket with nonBlocking := if waitAll then socket.nonBlocking else true }
  (winsock.recv waitAll size socket).map fun result =>
    (result, { socket with arrived := socket.arrived.drop result.2.length })

def answer (winsock : Winsock) (first : FirstEntry) (outside : (op : Op) → op.Response)
    (connection : WinsockConnection) : (op : Op) → Option (op.Response × WinsockConnection)
  | .recv size => (receive winsock true size connection.socket).map fun received =>
      (received.1, { connection with socket := received.2 })
  | .recvNonBlocking size => (receive winsock false size connection.socket).map fun received =>
      (received.1, { connection with socket := received.2 })
  | op => (Serving.answer first outside connection.state op).map fun answered =>
      (answered.1, { connection with state := answered.2 })

def next (winsock : Winsock) (connection : WinsockConnection) :
    WinsockEvent → Option WinsockConnection
  | .arrives bytes => connection.peer
      { connection.socket with arrived := connection.socket.arrived ++ bytes }
  | .shutsDown => connection.peer { connection.socket with transport := .closed }
  | .breaks => connection.peer { connection.socket with transport := .broken }
  | .call first outside =>
      match connection.thread with
      | some (.call op rest) => (answer winsock first outside connection op).map fun answered =>
          { answered.2 with thread := some (rest answered.1) }
      | _ => none
  | .finish =>
      match connection.thread with
      | some (.ret last) =>
          some { connection with thread := if last.continues then some turn else none }
      | _ => none

/-- A receive with MSG_WAITALL waits for its bytes, and the socket is closed
only on a refused command or because of the peer. -/
structure Patient (winsock : Winsock) (connection : WinsockConnection) : Prop where
  waits : ∀ size rest, connection.thread = some (.call (.recv size) rest) →
    connection.socket.transport = .up → connection.socket.arrived.length < size →
    winsock.recv true size connection.socket = none
  closes : ∀ rest, connection.thread = some (.call .close rest) →
    (∃ command, rest () = .ret (.dispatched command false)) ∨ connection.socket.transport ≠ .up

def ended? (connection : WinsockConnection) : Option Turn :=
  match connection.thread with
  | some (.ret last) => some last
  | _ => none

/-- No GETARCHITECTURE ends with the connection open. -/
def Harmless (connection : WinsockConnection) : WinsockEvent → Prop
  | .finish => connection.ended? ≠ some (.dispatched Command.getArchitecture.code true)
  | _ => True

end WinsockConnection

/-- What the calls of a turn have shown about the socket. -/
inductive SocketPhase
  | blocking
  | failed
  | polled
  | closing (broken : Bool)

namespace SocketPhase

def allows : SocketPhase → Op → Prop
  | closing _, _ => False
  | polled, .recv _ => False
  | _, _ => True

def after : SocketPhase → (op : Op) → op.Response → SocketPhase
  | failed, .close, _ => closing true
  | _, .close, _ => closing false
  | polled, _, _ => polled
  | _, .recvNonBlocking _, _ => polled
  | _, .recv _, result => if result.1 < 0 then failed else blocking
  | _, _, _ => blocking

def Settles : SocketPhase → Turn → Prop
  | polled, last => ∃ keepSocketOpen,
      last = .dispatched Command.getArchitecture.code keepSocketOpen
  | closing true, last => last.continues = false
  | closing false, last => ∃ command, last = .dispatched command false
  | _, _ => True

def Suits (socket : WinsockSocket) : SocketPhase → Prop
  | blocking => socket.nonBlocking = false
  | failed => socket.nonBlocking = false ∧ socket.transport ≠ .up
  | polled => True
  | closing broken => broken = true → socket.transport ≠ .up

end SocketPhase

def socketProtocol : Protocol Op Op.Response where
  Phase := SocketPhase
  allows := SocketPhase.allows
  after := SocketPhase.after

namespace SocketPhase

def Waiting (phase : SocketPhase) : Prop := phase = blocking ∨ phase = failed

def Polling (phase : SocketPhase) : Prop := phase = blocking ∨ phase = polled

theorem waiting_within {op : Op} (unpolled : ∀ size, op ≠ .recvNonBlocking size)
    (kept : op ≠ .close) : socketProtocol.Within Waiting op := by
  rintro phase (rfl | rfl) <;> refine ⟨trivial, fun response => ?_⟩ <;> cases op
  case inl.recv size | inr.recv size =>
    change Waiting (if response.1 < 0 then failed else blocking)
    split
    · exact Or.inr rfl
    · exact Or.inl rfl
  case inl.recvNonBlocking size | inr.recvNonBlocking size => exact absurd rfl (unpolled size)
  case inl.close | inr.close => exact absurd rfl kept
  all_goals exact Or.inl rfl

theorem polling_within {op : Op} (unwaiting : ∀ size, op ≠ .recv size) (kept : op ≠ .close) :
    socketProtocol.Within Polling op := by
  rintro phase (rfl | rfl) <;> cases op
  case inl.recv size | inr.recv size => exact absurd rfl (unwaiting size)
  case inl.close | inr.close => exact absurd rfl kept
  case inl.recvNonBlocking size | inr.recvNonBlocking size =>
    exact ⟨trivial, fun _ => Or.inr rfl⟩
  all_goals first
    | exact ⟨trivial, fun _ => Or.inl rfl⟩
    | exact ⟨trivial, fun _ => Or.inr rfl⟩

end SocketPhase

section Turns

open Client

theorem handle_waits {command : Command} (other : command ≠ .getArchitecture) :
    (handle command).Uses (socketProtocol.Within SocketPhase.Waiting) := by
  refine (handle_stays (coversAll_within (fun op made => ?_) (fun _ => ?_) (fun _ _ => ?_)
    fun same => absurd same other)).uses
  · refine SocketPhase.waiting_within (fun size => ?_) ?_
    · rintro rfl
      cases made
    · rintro rfl
      cases made
  · exact SocketPhase.waiting_within (fun _ => by simp) (by simp)
  · exact SocketPhase.waiting_within (fun _ => by simp) (by simp)

theorem handleCommandGetArchitecture_polls :
    handleCommandGetArchitecture.Uses (socketProtocol.Within SocketPhase.Polling) := by
  have covers : Covers (.within (socketProtocol.Within SocketPhase.Polling)) .getArchitecture := by
    refine covers_within fun op made => SocketPhase.polling_within (fun size => ?_) ?_
    · rintro rfl
      cases made
    · rintro rfl
      cases made
  refine Program.Stays.uses ((selectHandle_stays (fun op polled => ?_) fun _ => False.elim).bind
    fun handle => getArchitecture_stays covers handle)
  refine SocketPhase.polling_within (fun size => ?_) ?_
  · rintro rfl
    cases polled
  · rintro rfl
    cases polled

def concludes (command : UInt8) (keepSocketOpen : Bool) : Handler Turn := do
  if !keepSocketOpen then
    invoke .close
  return .dispatched command keepSocketOpen

theorem concludes_ends {phase : SocketPhase} (command : UInt8) (keepSocketOpen : Bool)
    (suits : phase.Waiting ∨ phase = .polled ∧ command = Command.getArchitecture.code) :
    socketProtocol.Ends SocketPhase.Settles phase (concludes command keepSocketOpen) := by
  cases keepSocketOpen with
  | true =>
      rcases suits with (rfl | rfl) | ⟨rfl, rfl⟩
      · exact trivial
      · exact trivial
      · exact ⟨true, rfl⟩
  | false =>
      rcases suits with (rfl | rfl) | ⟨rfl, rfl⟩
      · exact ⟨trivial, fun _ => ⟨command, rfl⟩⟩
      · exact ⟨trivial, fun _ => rfl⟩
      · exact ⟨trivial, fun _ => ⟨_, rfl⟩⟩

theorem dispatchCommand_ends (command : UInt8) :
    socketProtocol.Ends SocketPhase.Settles .blocking
      (dispatchCommand command >>= concludes command) := by
  by_cases polls : command = Command.getArchitecture.code
  · subst polls
    rw [dispatchCommand_code]
    refine Protocol.Ends.bind_within handleCommandGetArchitecture_polls ?_ (Or.inl rfl)
    rintro phase keepSocketOpen (rfl | rfl)
    · exact concludes_ends _ _ (Or.inl (Or.inl rfl))
    · exact concludes_ends _ _ (Or.inr ⟨rfl, rfl⟩)
  · have waits : (dispatchCommand command).Uses (socketProtocol.Within SocketPhase.Waiting) := by
      unfold dispatchCommand
      cases known : Command.ofCode command with
      | none => exact trivial
      | some other =>
          refine handle_waits fun same => polls ?_
          exact (Command.code_of_ofCode known).symm.trans (congrArg Command.code same)
    exact Protocol.Ends.bind_within waits
      (fun phase keepSocketOpen waiting => concludes_ends command keepSocketOpen (Or.inl waiting))
      (Or.inl rfl)

theorem turn_settles {phase : SocketPhase} (waiting : phase.Waiting) :
    socketProtocol.Ends SocketPhase.Settles phase turn := by
  refine ⟨by rcases waiting with rfl | rfl <;> exact trivial, fun stop => ?_⟩
  have blocking : SocketPhase.after phase .stopRequested stop = .blocking := by
    rcases waiting with rfl | rfl <;> rfl
  change socketProtocol.Ends SocketPhase.Settles (SocketPhase.after phase .stopRequested stop) _
  rw [blocking]
  cases stop with
  | true => exact trivial
  | false =>
      refine ⟨trivial, fun received => ?_⟩
      obtain ⟨recvSize, buffer⟩ := received
      change socketProtocol.Ends SocketPhase.Settles
        (SocketPhase.after .blocking (.recv 1) (recvSize, buffer)) (if recvSize < 0 then _ else _)
      by_cases negative : recvSize < 0
      · have failed : SocketPhase.after .blocking (.recv 1) (recvSize, buffer) = .failed :=
          if_pos negative
        rw [failed, if_pos negative]
        exact ⟨trivial, fun _ => rfl⟩
      · have waited : SocketPhase.after .blocking (.recv 1) (recvSize, buffer) = .blocking :=
          if_neg negative
        rw [waited, if_neg negative]
        by_cases ended : (recvSize == 0) = true
        · rw [if_pos ended]
          exact trivial
        · rw [if_neg ended]
          exact dispatchCommand_ends _

end Turns

namespace WinsockConnection

variable {winsock : Winsock} {before after : WinsockConnection}

def Invariant (connection : WinsockConnection) : Prop :=
  ∀ program, connection.thread = some program →
    ∃ phase, socketProtocol.Ends SocketPhase.Settles phase program ∧ phase.Suits connection.socket

theorem invariant_start : Invariant {} := by
  intro program running
  obtain rfl := Option.some.inj running
  exact ⟨.blocking, turn_settles (Or.inl rfl), rfl⟩

theorem Invariant.patient {connection : WinsockConnection} (invariant : Invariant connection) :
    connection.Patient winsock := by
  constructor
  · intro size rest waiting up short
    obtain ⟨phase, ends, suits⟩ := invariant _ waiting
    cases phase with
    | blocking => exact winsock.waits size connection.socket suits up short
    | failed => exact winsock.waits size connection.socket suits.1 up short
    | polled => exact absurd ends.1 id
    | closing broken => exact absurd ends.1 id
  · intro rest closing
    obtain ⟨phase, ends, suits⟩ := invariant _ closing
    have later := ends.2 ()
    cases shape : rest () with
    | call op next =>
        rw [shape] at later
        cases phase <;> exact absurd later.1 id
    | ret last =>
        rw [shape] at later
        cases phase with
        | failed => exact Or.inr suits.2
        | closing broken => exact absurd ends.1 id
        | blocking | polled =>
            obtain ⟨command, refused⟩ := later
            exact Or.inl ⟨command, congrArg Program.ret refused⟩

/-- What the peer does leaves the mode alone and never mends the transport. -/
theorem Suits.peer {phase : SocketPhase} {first second : WinsockSocket}
    (suits : phase.Suits first) (mode : second.nonBlocking = first.nonBlocking)
    (worn : first.transport ≠ .up → second.transport ≠ .up) : phase.Suits second := by
  cases phase with
  | blocking => exact mode.trans suits
  | failed => exact ⟨mode.trans suits.1, worn suits.2⟩
  | polled => exact trivial
  | closing broken => exact fun broke => worn (suits broke)

theorem Invariant.peer {socket : WinsockSocket} (invariant : Invariant before)
    (taken : before.peer socket = some after)
    (mode : socket.nonBlocking = before.socket.nonBlocking) : Invariant after := by
  unfold WinsockConnection.peer at taken
  split at taken
  · rename_i up
    obtain rfl := Option.some.inj taken
    intro program running
    obtain ⟨phase, ends, suits⟩ := invariant program running
    exact ⟨phase, ends, Suits.peer suits mode fun down => absurd up down⟩
  · simp at taken

theorem receive_transport {waitAll : Bool} {size : Nat} {socket later : WinsockSocket}
    {result : Int × List UInt8} (received : receive winsock waitAll size socket =
      some (result, later)) :
    later.transport = socket.transport ∧
      later.nonBlocking = (if waitAll then socket.nonBlocking else true) ∧
      winsock.recv waitAll size
        { socket with nonBlocking := if waitAll then socket.nonBlocking else true } =
          some result := by
  simp only [receive, Option.map_eq_some_iff] at received
  obtain ⟨found, came, built⟩ := received
  obtain ⟨rfl, rfl⟩ := Prod.mk.inj built
  exact ⟨rfl, rfl, came⟩

theorem Suits.answer {phase : SocketPhase} {op : Op} {first : FirstEntry}
    {outside : (op : Op) → op.Response} {response : op.Response}
    (suits : phase.Suits before.socket) (allowed : phase.allows op)
    (answered : answer winsock first outside before op = some (response, after)) :
    (phase.after op response).Suits after.socket := by
  cases op with
  | recv size =>
      simp only [WinsockConnection.answer, Option.map_eq_some_iff] at answered
      obtain ⟨⟨result, socket⟩, received, built⟩ := answered
      obtain ⟨rfl, rfl⟩ := Prod.mk.inj built
      obtain ⟨transport, mode, came⟩ := receive_transport received
      have waited : before.socket.nonBlocking = false ∧
          phase.after (.recv size) result = if result.1 < 0 then .failed else .blocking := by
        cases phase with
        | blocking => exact ⟨suits, rfl⟩
        | failed => exact ⟨suits.1, rfl⟩
        | polled | closing broken => exact absurd allowed id
      rw [waited.2]
      split
      · rename_i negative
        refine ⟨mode.trans waited.1, ?_⟩
        have broke := winsock.fails size before.socket result waited.1 came negative
        change socket.transport ≠ .up
        rw [transport, broke]
        decide
      · exact mode.trans waited.1
  | recvNonBlocking size =>
      cases phase with
      | closing broken => exact absurd allowed id
      | _ => exact trivial
  | close =>
      simp only [WinsockConnection.answer, Option.map_eq_some_iff] at answered
      obtain ⟨found, _, built⟩ := answered
      obtain ⟨_, rfl⟩ := Prod.mk.inj built
      cases phase with
      | failed => exact fun _ => suits.2
      | closing broken => exact absurd allowed id
      | blocking | polled => exact fun impossible => absurd impossible (by decide)
  | _ =>
      simp only [WinsockConnection.answer, Option.map_eq_some_iff] at answered
      obtain ⟨found, _, built⟩ := answered
      obtain ⟨_, rfl⟩ := Prod.mk.inj built
      cases phase with
      | blocking => exact suits
      | failed => exact suits.1
      | polled => exact trivial
      | closing broken => exact absurd allowed id

theorem Invariant.step {event : WinsockEvent} (invariant : Invariant before)
    (taken : Restrict (Steps (next winsock)) Harmless before event after) : Invariant after := by
  obtain ⟨harmless, step⟩ := taken
  cases event with
  | arrives bytes =>
      have taken : before.peer _ = some after := step
      exact invariant.peer taken rfl
  | shutsDown =>
      have taken : before.peer _ = some after := step
      exact invariant.peer taken rfl
  | breaks =>
      have taken : before.peer _ = some after := step
      exact invariant.peer taken rfl
  | call first outside =>
      simp only [Steps, next] at step
      split at step
      · rename_i op rest running
        obtain ⟨⟨response, later⟩, answered, built⟩ := Option.map_eq_some_iff.mp step
        subst built
        intro program continued
        obtain rfl := Option.some.inj continued
        obtain ⟨phase, ends, suits⟩ := invariant _ running
        have kept := Suits.answer suits ends.1 answered
        exact ⟨phase.after op response, ends.2 response, kept⟩
      · simp at step
  | finish =>
      simp only [Steps, next] at step
      split at step
      · rename_i last running
        obtain rfl := Option.some.inj step
        intro program continued
        obtain ⟨phase, ends, suits⟩ := invariant _ running
        dsimp only at continued
        split at continued
        · rename_i goes
          obtain rfl := Option.some.inj continued
          cases phase with
          | blocking => exact ⟨.blocking, turn_settles (Or.inl rfl), suits⟩
          | failed => exact ⟨.failed, turn_settles (Or.inr rfl), suits⟩
          | polled =>
              obtain ⟨keepSocketOpen, rfl⟩ := ends
              have kept : keepSocketOpen = true := goes
              subst kept
              exact absurd (by simp [ended?, running]) harmless
          | closing broken =>
              cases broken with
              | true => exact absurd goes (by simp [show last.continues = false from ends])
              | false =>
                  obtain ⟨command, rfl⟩ := ends
                  exact absurd goes Bool.false_ne_true
        · simp at continued
      · simp at step

/-- In every run in which no GETARCHITECTURE keeps the connection open, an idle
client is waited for. -/
theorem patient_of_harmless {events : List WinsockEvent} {connection : WinsockConnection}
    (run : Run (Restrict (Steps (next winsock)) Harmless) {} events connection) :
    connection.Patient winsock := by
  have invariant : Invariant connection :=
    run.invariant invariant_start fun _ _ _ holds taken => holds.step taken
  exact invariant.patient

theorem turn_shape : ∃ rest, turn = .call .stopRequested rest ∧
    ∃ later, rest false = .call (.recv 1) later ∧
      ∀ result, result.1 < 0 → later result = .call .close fun _ => .ret .failed :=
  ⟨_, rfl, _, rfl, fun _ negative => if_pos negative⟩

/-- Once FIONBIO is set, a client that has sent nothing is taken for a failure. -/
theorem disconnects_of_nonBlocking (state : ClientState) (first : FirstEntry)
    (outside : (op : Op) → op.Response) (serving : outside .stopRequested = false) :
    ∃ events after, Run (Steps (next winsock)) ⟨⟨true, [], .up⟩, state, some turn⟩ events after ∧
      ¬after.Patient winsock := by
  obtain ⟨result, blocked, negative⟩ := winsock.wouldBlock true 1 ⟨true, [], .up⟩ rfl rfl rfl
  obtain ⟨rest, begins, later, receives, fails⟩ := turn_shape
  have asked : next winsock ⟨⟨true, [], .up⟩, state, some turn⟩ (.call first outside) =
      some ⟨⟨true, [], .up⟩, state, some (.call (.recv 1) later)⟩ := by
    simp only [next, begins, answer, Serving.answer, Option.map_some, serving, receives]
  have failed : next winsock ⟨⟨true, [], .up⟩, state, some (.call (.recv 1) later)⟩
      (.call first outside) =
        some ⟨⟨true, [], .up⟩, state, some (.call .close fun _ => .ret .failed)⟩ := by
    simp only [next, answer, receive, if_true, blocked, Option.map_some, fails result negative,
      List.drop_nil]
  refine ⟨_, _, (Run.single asked).snoc failed, fun patient => ?_⟩
  rcases patient.closes _ rfl with ⟨command, refused⟩ | down
  · simp at refused
  · exact down rfl

/-- The documented behaviour in its plainest form. -/
def documented : Winsock where
  recv waitAll size socket :=
    let bytes := socket.arrived.take size
    match socket.transport with
    | .broken => some (-1, [])
    | .closed => some ((bytes.length : Int), bytes)
    | .up =>
        if socket.nonBlocking then
          if bytes = [] then some (-1, []) else some ((bytes.length : Int), bytes)
        else if bytes.length < (if waitAll then size else min size 1) then none
        else some ((bytes.length : Int), bytes)
  waits size socket blocking up short := by
    simp [blocking, up, short]
  fails size socket result blocking received negative := by
    have counted (bytes : List UInt8) : ¬((bytes.length : Int), bytes).1 < 0 := by
      simp
    cases transport : socket.transport with
    | broken => rfl
    | closed =>
        simp only [transport, Option.some.injEq] at received
        exact absurd (received ▸ negative) (counted _)
    | up =>
        simp only [transport, blocking, Bool.false_eq_true, if_false, if_true] at received
        split at received
        · simp at received
        · exact absurd (Option.some.inj received ▸ negative) (counted _)
  wouldBlock waitAll size socket mode up idle := by
    refine ⟨(-1, []), ?_, by decide⟩
    simp [mode, up, idle]

noncomputable def answers : WinsockEvent :=
  .call .any fun op => (Environment.healthy.respond op ()).1

/-- A client opens process 4 and gets handle 1. -/
noncomputable def opensProcess : List WinsockEvent :=
  .arrives [3, 4, 0, 0, 0] :: List.replicate 6 answers ++ [.finish]

/-- It asks for the architecture of the process. -/
noncomputable def asksArchitecture : List WinsockEvent :=
  .arrives [21, 1, 0, 0, 0] :: List.replicate 8 answers ++ [.finish]

theorem patient_of_harmless_opensProcess : ∃ connection,
    Run (Restrict (Steps (next documented)) Harmless) {} (opensProcess ++ [answers]) connection ∧
      connection.socket = {} ∧ connection.Patient documented := by
  have executed : ((execute (restricted (next documented) fun connection _ =>
      connection.ended? ≠ some (.dispatched Command.getArchitecture.code true)) {}
        (opensProcess ++ [answers])).map fun connection => connection.socket) = some {} := by
    rfl
  obtain ⟨connection, ran, observed⟩ := Option.map_eq_some_iff.mp executed
  have run : Run (Restrict (Steps (next documented)) Harmless) {} (opensProcess ++ [answers])
      connection := by
    refine (run_of_execute ran).mono fun before event after taken => ?_
    obtain ⟨quiet, step⟩ := restrict_of_restricted taken
    refine ⟨?_, step⟩
    cases event with
    | finish => exact quiet
    | _ => exact trivial
  exact ⟨connection, run, observed, patient_of_harmless run⟩

theorem idleClient_disconnected :
    ¬∀ (winsock : Winsock) (events : List WinsockEvent) (connection : WinsockConnection),
      Run (Steps (next winsock)) {} events connection → connection.Patient winsock := by
  intro patient
  have executed : ((execute (next documented) {} (opensProcess ++ asksArchitecture)).map
      fun connection => (connection.socket, connection.thread)) =
        some (⟨true, [], .up⟩, some turn) := by
    rfl
  obtain ⟨⟨socket, state, thread⟩, ran, observed⟩ := Option.map_eq_some_iff.mp executed
  obtain ⟨rfl, rfl⟩ := Prod.mk.inj observed
  obtain ⟨events, after, idles, impatient⟩ := disconnects_of_nonBlocking state .any
    (fun op => (Environment.healthy.respond op ()).1) rfl
  exact impatient (patient documented _ after ((run_of_execute ran).append idles))

end WinsockConnection

end CeServer
