import CeServer.Footprint
import CeServer.Library.Transition

/-!
The descriptors of accepted connections on Linux: the accept loop, the threads
of `handleClientConnection` and the destructor of the socket wrapper,
interleaved over one descriptor table.
-/

namespace CeServer.Server

open Interaction Transition

inductive Holder
  | other
  | connection (client : Nat)
  deriving DecidableEq

def Turn.continues : Turn → Bool
  | stopped | failed => false
  | idle => true
  | dispatched _ keepSocketOpen => keepSocketOpen

/-- A handler's thread. While it runs it refers to its socket; `releasing` is
the destructor of the wrapper, run by the thread that drops the last reference. -/
inductive ClientThread
  | unstarted
  | running (program : Handler Turn)
  | releasing
  | ended

def ClientThread.refers : ClientThread → Bool
  | running _ => true
  | _ => false

inductive ServerThread
  | testing
  | accepting
  | configuring (client : Nat)
  | closing (client : Nat)
  | iterated (client : Nat)
  | releasing (client : Nat)
  | joining
  deriving DecidableEq

namespace ServerThread

def refers (client : Nat) : ServerThread → Bool
  | configuring other | closing other | iterated other => other == client
  | _ => false

def client? : ServerThread → Option Nat
  | configuring client | closing client | iterated client | releasing client => some client
  | _ => none

theorem refers_of_client? {serverThread : ServerThread} {client : Nat}
    (works : serverThread.client? = some client) (holds : serverThread ≠ releasing client) :
    serverThread.refers client = true := by
  cases serverThread <;> simp_all [client?, refers]

end ServerThread

/-- `closed` and `destroyed` are history: an explicit `close` was made, the
destructor has run. -/
structure ClientSocket where
  socket_ : Int := 0
  thread : ClientThread := .unstarted
  closed : Bool := false
  destroyed : Bool := false

/-- `closes` is history: who called `::close` and whose descriptor that closed. -/
structure Sockets where
  bStop : Bool := false
  table : Int → Option Holder
  serverThread : ServerThread := .testing
  accepted : Nat := 0
  clients : Nat → ClientSocket := fun _ => {}
  closes : List (Nat × Option Holder) := []

inductive SocketEvent
  | stop
  | openOther (fd : Int)
  | closeOther (fd : Int)
  | testStop
  | accept (fd : Int)
  | setsockopt (success : Bool)
  | closeUnconfigured
  | endIteration
  | call (client : Nat) (outside : (op : Op) → op.Response)
  | endTurn (client : Nat)
  | destroyAccepted
  | destroyHandled (client : Nat)

namespace Sockets

def start (inUse : Nat → Bool) : Sockets where
  table fd := if 0 ≤ fd && inUse fd.toNat then some .other else none

/-- `::close`: an open number becomes free, any other call fails. -/
def closeDescriptor (sockets : Sockets) (client : Nat) : Sockets :=
  let fd := (sockets.clients client).socket_
  { sockets with
    table := Function.update sockets.table fd none
    closes := (client, sockets.table fd) :: sockets.closes }

/-- `LinuxSocketWrapper::close` leaves `socket_` as it is. -/
def close (sockets : Sockets) (client : Nat) : Sockets :=
  { sockets.closeDescriptor client with
    clients := Function.update sockets.clients client
      { sockets.clients client with closed := true } }

def destroy (sockets : Sockets) (client : Nat) : Sockets :=
  { (if (sockets.clients client).socket_ ≠ 0 then sockets.closeDescriptor client else sockets) with
    clients := Function.update sockets.clients client
      { sockets.clients client with destroyed := true } }

def setThread (sockets : Sockets) (client : Nat) (thread : ClientThread) : Sockets :=
  { sockets with
    clients := Function.update sockets.clients client { sockets.clients client with thread } }

def answer (sockets : Sockets) (client : Nat) (outside : (op : Op) → op.Response) :
    (op : Op) → Option (op.Response × Sockets)
  | .close => some ((), sockets.close client)
  | .stopRequested => some (sockets.bStop, sockets)
  -- an exception that leaves the thread ends the process
  | .newCharArray size =>
      if size < 0 then none else some (outside (.newCharArray size), sockets)
  | op => some (outside op, sockets)

def next (sockets : Sockets) : SocketEvent → Option Sockets
  | .stop => some { sockets with bStop := true }
  | .openOther fd =>
      if 0 ≤ fd ∧ sockets.table fd = none then
        some { sockets with table := Function.update sockets.table fd (some .other) }
      else none
  | .closeOther fd =>
      if sockets.table fd = some .other then
        some { sockets with table := Function.update sockets.table fd none }
      else none
  | .testStop =>
      match sockets.serverThread with
      | .testing =>
          some { sockets with serverThread := if sockets.bStop then .joining else .accepting }
      | _ => none
  | .accept fd =>
      match sockets.serverThread with
      | .accepting =>
          -- a failed accept gives a wrapper around -1, which is not checked
          if fd = -1 ∨ 0 ≤ fd ∧ sockets.table fd = none then
            some { sockets with
              table := if fd = -1 then sockets.table else
                Function.update sockets.table fd (some (.connection sockets.accepted))
              serverThread := .configuring sockets.accepted
              accepted := sockets.accepted + 1
              clients := Function.update sockets.clients sockets.accepted { socket_ := fd } }
          else none
      | _ => none
  | .setsockopt success =>
      match sockets.serverThread with
      | .configuring client =>
          if success then
            if (sockets.table (sockets.clients client).socket_).isSome then
              some { sockets.setThread client (.running turn) with
                serverThread := .iterated client }
            else none
          else some { sockets with serverThread := .closing client }
      | _ => none
  | .closeUnconfigured =>
      match sockets.serverThread with
      | .closing client => some { sockets.close client with serverThread := .iterated client }
      | _ => none
  | .endIteration =>
      match sockets.serverThread with
      | .iterated client =>
          some { sockets with
            serverThread :=
              if (sockets.clients client).thread.refers then .testing else .releasing client }
      | _ => none
  | .call client outside =>
      match (sockets.clients client).thread with
      | .running (.call op rest) =>
          (sockets.answer client outside op).map fun answered =>
            answered.2.setThread client (.running (rest answered.1))
      | _ => none
  | .endTurn client =>
      match (sockets.clients client).thread with
      | .running (.ret last) =>
          some (sockets.setThread client
            (if last.continues then .running turn
              else if sockets.serverThread.refers client then .ended else .releasing))
      | _ => none
  | .destroyAccepted =>
      match sockets.serverThread with
      | .releasing client => some { sockets.destroy client with serverThread := .testing }
      | _ => none
  | .destroyHandled client =>
      match (sockets.clients client).thread with
      | .releasing => some ((sockets.destroy client).setThread client .ended)
      | _ => none

section Fields

variable (sockets : Sockets) (client : Nat)

@[simp] theorem setThread_clients_self (thread : ClientThread) :
    (sockets.setThread client thread).clients client = { sockets.clients client with thread } :=
  Function.update_self _ _ _

theorem setThread_clients_of_ne (thread : ClientThread) {other : Nat} (different : other ≠ client) :
    (sockets.setThread client thread).clients other = sockets.clients other :=
  Function.update_of_ne different _ _

@[simp] theorem close_clients_self :
    (sockets.close client).clients client = { sockets.clients client with closed := true } :=
  Function.update_self _ _ _

theorem close_clients_of_ne {other : Nat} (different : other ≠ client) :
    (sockets.close client).clients other = sockets.clients other :=
  Function.update_of_ne different _ _

@[simp] theorem destroy_clients_self :
    (sockets.destroy client).clients client = { sockets.clients client with destroyed := true } :=
  Function.update_self _ _ _

theorem destroy_clients_of_ne {other : Nat} (different : other ≠ client) :
    (sockets.destroy client).clients other = sockets.clients other :=
  Function.update_of_ne different _ _

@[simp] theorem destroy_serverThread :
    (sockets.destroy client).serverThread = sockets.serverThread := by
  unfold destroy
  split <;> rfl

@[simp] theorem destroy_accepted : (sockets.destroy client).accepted = sockets.accepted := by
  unfold destroy
  split <;> rfl

end Fields

def closings (sockets : Sockets) (client : Nat) : Nat :=
  sockets.closes.countP fun call => call.2 = some (.connection client)

structure ClosedOnce (sockets : Sockets) : Prop where
  own : ∀ caller client, (caller, some (.connection client)) ∈ sockets.closes → caller = client
  atMostOnce : ∀ client, sockets.closings client ≤ 1
  released : ∀ client, client < sockets.accepted → 0 ≤ (sockets.clients client).socket_ →
    (sockets.clients client).destroyed = true → sockets.closings client = 1

def destroying? (sockets : Sockets) : SocketEvent → Option Nat
  | .destroyAccepted =>
      match sockets.serverThread with
      | .releasing client => some client
      | _ => none
  | .destroyHandled client => some client
  | _ => none

/-- A destructor that closes an explicitly closed socket again meets a number no
connection has been given since; one that skips the number 0 finds it closed. -/
def DestroysOnce (sockets : Sockets) (client : Nat) : Prop :=
  if (sockets.clients client).socket_ = 0 then (sockets.clients client).closed = true
  else (sockets.clients client).closed = true →
    ∀ holder, sockets.table (sockets.clients client).socket_ ≠ some (.connection holder)

def Undoubled (sockets : Sockets) (event : SocketEvent) : Prop :=
  ∀ client, sockets.destroying? event = some client → sockets.DestroysOnce client

inductive Move (before : Sockets) : SocketEvent → Sockets → Prop
  | stop : Move before .stop { before with bStop := true }
  | openOther {fd : Int} (free : before.table fd = none) :
      Move before (.openOther fd)
        { before with table := Function.update before.table fd (some .other) }
  | closeOther {fd : Int} (held : before.table fd = some .other) :
      Move before (.closeOther fd) { before with table := Function.update before.table fd none }
  | testStop (testing : before.serverThread = .testing) :
      Move before .testStop
        { before with serverThread := if before.bStop then .joining else .accepting }
  | acceptFailed (accepting : before.serverThread = .accepting) :
      Move before (.accept (-1)) { before with
        serverThread := .configuring before.accepted
        accepted := before.accepted + 1
        clients := Function.update before.clients before.accepted { socket_ := -1 } }
  | accept {fd : Int} (accepting : before.serverThread = .accepting) (valid : 0 ≤ fd)
      (free : before.table fd = none) :
      Move before (.accept fd) { before with
        table := Function.update before.table fd (some (.connection before.accepted))
        serverThread := .configuring before.accepted
        accepted := before.accepted + 1
        clients := Function.update before.clients before.accepted { socket_ := fd } }
  | configured {client : Nat} (configuring : before.serverThread = .configuring client) :
      Move before (.setsockopt true)
        { before.setThread client (.running turn) with serverThread := .iterated client }
  | unconfigured {client : Nat} (configuring : before.serverThread = .configuring client) :
      Move before (.setsockopt false) { before with serverThread := .closing client }
  | closeUnconfigured {client : Nat} (closing : before.serverThread = .closing client) :
      Move before .closeUnconfigured { before.close client with serverThread := .iterated client }
  | endIteration {client : Nat} (iterated : before.serverThread = .iterated client) :
      Move before .endIteration { before with
        serverThread :=
          if (before.clients client).thread.refers then .testing else .releasing client }
  | closeHandled {client : Nat} {outside : (op : Op) → op.Response} {rest : Unit → Handler Turn}
      (running : (before.clients client).thread = .running (.call .close rest)) :
      Move before (.call client outside)
        ((before.close client).setThread client (.running (rest ())))
  | respond {client : Nat} {outside : (op : Op) → op.Response} {op : Op}
      {rest : op.Response → Handler Turn} (response : op.Response)
      (running : (before.clients client).thread = .running (.call op rest)) (kept : op ≠ .close) :
      Move before (.call client outside) (before.setThread client (.running (rest response)))
  | nextTurn {client : Nat} {last : Turn}
      (running : (before.clients client).thread = .running (.ret last))
      (continues : last.continues = true) :
      Move before (.endTurn client) (before.setThread client (.running turn))
  | endHandler {client : Nat} {last : Turn}
      (running : (before.clients client).thread = .running (.ret last))
      (returns : last.continues = false) :
      Move before (.endTurn client) (before.setThread client
        (if before.serverThread.refers client then .ended else .releasing))
  | destroyAccepted {client : Nat} (releasing : before.serverThread = .releasing client) :
      Move before .destroyAccepted { before.destroy client with serverThread := .testing }
  | destroyHandled {client : Nat} (releasing : (before.clients client).thread = .releasing) :
      Move before (.destroyHandled client) ((before.destroy client).setThread client .ended)

theorem move_of_next {before after : Sockets} {event : SocketEvent}
    (taken : before.next event = some after) : Move before event after := by
  cases event with
  | stop =>
      obtain rfl := Option.some.inj taken
      exact .stop
  | openOther fd =>
      simp only [next, Option.ite_none_right_eq_some, Option.some.injEq] at taken
      obtain ⟨⟨-, free⟩, rfl⟩ := taken
      exact .openOther free
  | closeOther fd =>
      simp only [next, Option.ite_none_right_eq_some, Option.some.injEq] at taken
      obtain ⟨held, rfl⟩ := taken
      exact .closeOther held
  | testStop =>
      simp only [next] at taken
      split at taken
      · rename_i testing
        obtain rfl := Option.some.inj taken
        exact .testStop testing
      · simp at taken
  | accept fd =>
      simp only [next] at taken
      split at taken
      · rename_i accepting
        simp only [Option.ite_none_right_eq_some, Option.some.injEq] at taken
        obtain ⟨rfl | ⟨valid, free⟩, rfl⟩ := taken
        · exact .acceptFailed accepting
        · rw [if_neg (by omega)]
          exact .accept accepting valid free
      · simp at taken
  | setsockopt success =>
      simp only [next] at taken
      split at taken
      · rename_i client configuring
        cases success with
        | true =>
            simp only [if_true, Option.ite_none_right_eq_some, Option.some.injEq] at taken
            obtain ⟨-, rfl⟩ := taken
            exact .configured configuring
        | false =>
            obtain rfl := Option.some.inj taken
            exact .unconfigured configuring
      · simp at taken
  | closeUnconfigured =>
      simp only [next] at taken
      split at taken
      · rename_i client closing
        obtain rfl := Option.some.inj taken
        exact .closeUnconfigured closing
      · simp at taken
  | endIteration =>
      simp only [next] at taken
      split at taken
      · rename_i client iterated
        obtain rfl := Option.some.inj taken
        exact .endIteration iterated
      · simp at taken
  | call client outside =>
      simp only [next] at taken
      split at taken
      · rename_i op rest running
        obtain ⟨⟨response, answered⟩, given, rfl⟩ := Option.map_eq_some_iff.mp taken
        cases op with
        | close =>
            obtain ⟨rfl, rfl⟩ := Prod.mk.inj (Option.some.inj given)
            exact .closeHandled running
        | newCharArray size =>
            simp only [answer, Option.ite_none_left_eq_some, Option.some.injEq] at given
            obtain ⟨rfl, rfl⟩ := Prod.mk.inj given.2
            exact .respond _ running nofun
        | _ =>
            obtain ⟨rfl, rfl⟩ := Prod.mk.inj (Option.some.inj given)
            exact .respond _ running nofun
      · simp at taken
  | endTurn client =>
      simp only [next] at taken
      split at taken
      · rename_i last running
        obtain rfl := Option.some.inj taken
        by_cases continues : last.continues = true
        · rw [if_pos continues]
          exact .nextTurn running continues
        · rw [if_neg continues]
          exact .endHandler running (Bool.eq_false_iff.mpr continues)
      · simp at taken
  | destroyAccepted =>
      simp only [next] at taken
      split at taken
      · rename_i client releasing
        obtain rfl := Option.some.inj taken
        exact .destroyAccepted releasing
      · simp at taken
  | destroyHandled client =>
      simp only [next] at taken
      split at taken
      · rename_i releasing
        obtain rfl := Option.some.inj taken
        exact .destroyHandled releasing
      · simp at taken

end Sockets

end CeServer.Server
