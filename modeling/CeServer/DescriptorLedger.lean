import CeServer.Descriptors

/-!
Who owns which descriptor while connections come and go, and when the close
calls of the server close each of them once.
-/

namespace CeServer

open Interaction Transition

namespace Server

def closeProtocol : Protocol Op Op.Response where
  Phase := Bool
  allows closed _ := closed = false
  after
    | _, .close, _ => true
    | closed, _, _ => closed

theorem neutral_of_keepsOpen {op : Op} (kept : op ≠ .close) : closeProtocol.Neutral false op := by
  refine ⟨rfl, fun response => ?_⟩
  cases op with
  | close => exact absurd rfl kept
  | _ => rfl

def LastIfClosed (closed : Bool) (last : Turn) : Prop := closed = true → last.continues = false

theorem turn_ends : closeProtocol.Ends LastIfClosed false turn := by
  refine ⟨rfl, fun stop => ?_⟩
  cases stop with
  | true => exact nofun
  | false =>
      refine ⟨rfl, fun received => ?_⟩
      obtain ⟨recvSize, buffer⟩ := received
      change closeProtocol.Ends LastIfClosed false (if recvSize < 0 then _ else _)
      split
      · exact ⟨rfl, fun _ _ => rfl⟩
      · split
        · exact nofun
        · refine Protocol.Ends.bind ((Client.dispatchCommand_keepsOpen _).mono
            fun _ => neutral_of_keepsOpen) fun keepSocketOpen => ?_
          cases keepSocketOpen with
          | false => exact ⟨rfl, fun _ _ => rfl⟩
          | true => exact nofun

def ClientSocket.Owns (socket : ClientSocket) (fd : Int) : Prop :=
  socket.socket_ = fd ∧ 0 ≤ fd ∧ socket.closed = false ∧ socket.destroyed = false

def ClientSocket.Released (socket : ClientSocket) : Prop :=
  0 ≤ socket.socket_ ∧ (socket.closed = true ∨ socket.destroyed = true)

instance (socket : ClientSocket) : Decidable socket.Released :=
  inferInstanceAs (Decidable (_ ∧ _))

structure ClientSocket.Alike (first second : ClientSocket) : Prop where
  socket_ : first.socket_ = second.socket_
  closed : first.closed = second.closed
  destroyed : first.destroyed = second.destroyed

theorem ClientSocket.Alike.owns {first second : ClientSocket} (alike : first.Alike second)
    (fd : Int) : first.Owns fd ↔ second.Owns fd := by
  rw [Owns, Owns, alike.socket_, alike.closed, alike.destroyed]

theorem ClientSocket.Alike.released {first second : ClientSocket} (alike : first.Alike second) :
    first.Released ↔ second.Released := by
  rw [Released, Released, alike.socket_, alike.closed, alike.destroyed]

namespace Sockets

theorem setThread_alike (sockets : Sockets) (client : Nat) (thread : ClientThread) (other : Nat) :
    ((sockets.setThread client thread).clients other).Alike (sockets.clients other) := by
  by_cases same : other = client
  · subst same
    exact ⟨by simp [setThread], by simp [setThread], by simp [setThread]⟩
  · exact ⟨by simp [setThread, same], by simp [setThread, same], by simp [setThread, same]⟩

/-- What the two threads that may refer to a connection know of each other. -/
structure Consistent (sockets : Sockets) (client : Nat) : Prop where
  unstarted : sockets.accepted ≤ client → (sockets.clients client).thread = .unstarted
  accepted : sockets.serverThread.client? = some client →
    client < sockets.accepted ∧ (sockets.clients client).destroyed = false
  configured : sockets.serverThread = .configuring client ∨
      sockets.serverThread = .closing client →
    (sockets.clients client).thread = .unstarted ∧ (sockets.clients client).closed = false
  alone : sockets.serverThread = .releasing client →
    (sockets.clients client).thread = .unstarted ∨ (sockets.clients client).thread = .ended
  handling : ∀ program, (sockets.clients client).thread = .running program →
    (sockets.clients client).destroyed = false ∧
      closeProtocol.Ends LastIfClosed (sockets.clients client).closed program
  handled : (sockets.clients client).thread = .releasing →
    (sockets.clients client).destroyed = false ∧ sockets.serverThread.client? ≠ some client

theorem consistent_start (inUse : Nat → Bool) (client : Nat) :
    (start inUse).Consistent client where
  unstarted _ := rfl
  accepted := nofun
  configured := by rintro (works | works) <;> exact nomatch works
  alone := nofun
  handling := nofun
  handled := nofun

section Step

variable {before after : Sockets} {client : Nat}

theorem Consistent.frame (consistent : before.Consistent client)
    (kept : after.clients client = before.clients client)
    (server : after.serverThread.client? = some client →
      after.serverThread = before.serverThread)
    (grows : before.accepted ≤ after.accepted) : after.Consistent client where
  unstarted beyond := by
    rw [kept]
    exact consistent.unstarted (grows.trans beyond)
  accepted works := by
    obtain ⟨bound, alive⟩ := consistent.accepted (server works ▸ works)
    rw [kept]
    exact ⟨bound.trans_le grows, alive⟩
  configured works := by
    have same : after.serverThread = before.serverThread := by
      rcases works with works | works <;> exact server (by rw [works]; rfl)
    rw [kept]
    exact consistent.configured (same ▸ works)
  alone works := by
    rw [kept]
    exact consistent.alone (server (by rw [works]; rfl) ▸ works)
  handling program running := by
    rw [kept] at running ⊢
    exact consistent.handling program running
  handled releasing := by
    rw [kept] at releasing ⊢
    obtain ⟨alive, elsewhere⟩ := consistent.handled releasing
    exact ⟨alive, fun works => elsewhere (server works ▸ works)⟩

theorem Consistent.bound (consistent : before.Consistent client)
    (started : (before.clients client).thread ≠ .unstarted) : client < before.accepted :=
  Nat.lt_of_not_le fun beyond => started (consistent.unstarted beyond)

theorem Consistent.accept {fd : Int} {table : Int → Option Holder}
    (consistent : ∀ client, before.Consistent client) (client : Nat) :
    Consistent { before with
      table
      serverThread := .configuring before.accepted
      accepted := before.accepted + 1
      clients := Function.update before.clients before.accepted { socket_ := fd } } client := by
  by_cases same : client = before.accepted
  · subst same
    constructor <;> simp [ServerThread.client?]
  · refine (consistent client).frame (Function.update_of_ne same _ _) (fun works => ?_)
      (Nat.le_succ _)
    exact absurd (Option.some.inj works).symm same

theorem Consistent.rerun {current : Handler Turn} (program : Handler Turn)
    (consistent : before.Consistent client)
    (running : (before.clients client).thread = .running current)
    (server : after.serverThread = before.serverThread)
    (accepted : after.accepted = before.accepted)
    (runs : (after.clients client).thread = .running program)
    (alive : (after.clients client).destroyed = false)
    (ends : closeProtocol.Ends LastIfClosed (after.clients client).closed program) :
    after.Consistent client where
  unstarted beyond :=
    absurd (accepted ▸ beyond) (Nat.not_le.mpr (consistent.bound (by simp [running])))
  accepted works := ⟨accepted ▸ (consistent.accepted (server ▸ works)).1, alive⟩
  configured works := absurd (running.symm.trans (consistent.configured (server ▸ works)).1) nofun
  alone works := by
    rcases consistent.alone (server ▸ works) with idle | idle <;>
      exact absurd (running.symm.trans idle) nofun
  handling other isOther := by
    obtain rfl := ClientThread.running.inj (runs.symm.trans isOther)
    exact ⟨alive, ends⟩
  handled releasing := absurd (runs.symm.trans releasing) nofun

/-- The handler's thread ends; it destroys the socket unless the server thread still
refers to it. -/
theorem Consistent.endHandler {current : Handler Turn} (consistent : before.Consistent client)
    (running : (before.clients client).thread = .running current) :
    (before.setThread client
      (if before.serverThread.refers client then .ended else .releasing)).Consistent client := by
  obtain ⟨alive, -⟩ := consistent.handling _ running
  refine ⟨fun beyond => ?_, fun works => ?_, fun works => ?_, fun works => ?_,
    fun program runs => ?_, fun releasing => ?_⟩
  · exact absurd beyond (Nat.not_le.mpr (consistent.bound (by simp [running])))
  · exact ⟨(consistent.accepted works).1, by simpa using alive⟩
  · exact absurd (running.symm.trans (consistent.configured works).1) nofun
  · rcases consistent.alone works with idle | idle <;>
      exact absurd (running.symm.trans idle) nofun
  · rw [setThread_clients_self] at runs
    simp only at runs
    split at runs <;> exact nomatch runs
  · rw [setThread_clients_self] at releasing
    refine ⟨by simpa using alive, fun works => ?_⟩
    have refers : before.serverThread.refers client = true :=
      ServerThread.refers_of_client? works fun releases => by
        rcases consistent.alone releases with idle | idle <;>
          exact absurd (running.symm.trans idle) nofun
    simp [refers] at releasing

theorem Consistent.step {event : SocketEvent} (consistent : ∀ client, before.Consistent client)
    (move : before.Move event after) (other : Nat) : after.Consistent other := by
  have view := consistent other
  cases move with
  | stop | openOther | closeOther => exact view.frame rfl (fun _ => rfl) (Nat.le_refl _)
  | testStop testing =>
      refine view.frame rfl (fun works => ?_) (Nat.le_refl _)
      simp only at works
      split at works <;> exact nomatch works
  | acceptFailed accepting => exact Consistent.accept consistent other
  | accept accepting valid free => exact Consistent.accept consistent other
  | @configured client configuring =>
      by_cases same : other = client
      · subst same
        obtain ⟨bound, alive⟩ := view.accepted (by rw [configuring]; rfl)
        obtain ⟨-, open'⟩ := view.configured (.inl configuring)
        refine ⟨fun beyond => absurd bound (Nat.not_lt.mpr beyond), fun _ => ?_, ?_, nofun,
          fun program running => ?_, ?_⟩
        · exact ⟨bound, by simpa using alive⟩
        · rintro (works | works) <;> exact nomatch works
        · simp only [setThread_clients_self, ClientThread.running.injEq] at running ⊢
          subst running
          rw [open']
          exact ⟨alive, turn_ends⟩
        · simp
      · refine view.frame (setThread_clients_of_ne _ _ _ same) (fun works => ?_) (Nat.le_refl _)
        exact absurd (Option.some.inj works).symm same
  | @unconfigured client configuring =>
      by_cases same : other = client
      · subst same
        obtain ⟨bound, alive⟩ := view.accepted (by rw [configuring]; rfl)
        obtain ⟨idle, open'⟩ := view.configured (.inl configuring)
        refine ⟨view.unstarted, fun _ => ⟨bound, alive⟩, fun _ => ⟨idle, open'⟩, nofun,
          view.handling, fun releasing => ?_⟩
        exact absurd (idle.symm.trans releasing) nofun
      · refine view.frame rfl (fun works => ?_) (Nat.le_refl _)
        exact absurd (Option.some.inj works).symm same
  | @closeUnconfigured client closing =>
      by_cases same : other = client
      · subst same
        obtain ⟨bound, alive⟩ := view.accepted (by rw [closing]; rfl)
        obtain ⟨idle, -⟩ := view.configured (.inr closing)
        refine ⟨fun _ => ?_, fun _ => ⟨bound, ?_⟩, ?_, nofun, fun program running => ?_,
          fun releasing => ?_⟩
        · simpa using idle
        · simpa using alive
        · rintro (works | works) <;> exact nomatch works
        · simp [idle] at running
        · simp [idle] at releasing
      · refine view.frame (close_clients_of_ne _ _ same) (fun works => ?_) (Nat.le_refl _)
        exact absurd (Option.some.inj works).symm same
  | @endIteration client iterated =>
      by_cases same : other = client
      · subst same
        have works : before.serverThread.client? = some other := by rw [iterated]; rfl
        refine ⟨view.unstarted, fun _ => view.accepted works, ?_, fun releasing => ?_,
          view.handling, fun releasing => absurd works (view.handled releasing).2⟩
        · rintro (works | works) <;> simp only at works <;> split at works <;> exact nomatch works
        · cases thread : (before.clients other).thread with
          | unstarted => exact .inl rfl
          | ended => exact .inr rfl
          | running program => simp [thread, ClientThread.refers] at releasing
          | releasing => exact absurd works (view.handled thread).2
      · refine view.frame rfl (fun works => ?_) (Nat.le_refl _)
        simp only at works
        split at works
        · exact nomatch works
        · exact absurd (Option.some.inj works).symm same
  | @closeHandled client outside rest running =>
      by_cases same : other = client
      · subst same
        obtain ⟨alive, -, ends⟩ := view.handling _ running
        refine view.rerun (rest ()) running rfl rfl ?_ ?_ ?_
        · simp
        · simpa using alive
        · rw [setThread_clients_self, close_clients_self]
          exact ends ()
      · refine view.frame ?_ (fun _ => rfl) (Nat.le_refl _)
        rw [setThread_clients_of_ne _ _ _ same, close_clients_of_ne _ _ same]
  | @respond client outside op rest response running kept =>
      by_cases same : other = client
      · subst same
        obtain ⟨alive, allowed, ends⟩ := view.handling _ running
        have still := ends response
        rw [show (before.clients other).closed = false from allowed,
          (neutral_of_keepsOpen kept).2 response] at still
        refine view.rerun (rest response) running rfl rfl ?_ ?_ ?_
        · simp
        · simpa using alive
        · simpa [show (before.clients other).closed = false from allowed] using still
      · exact view.frame (setThread_clients_of_ne _ _ _ same) (fun _ => rfl) (Nat.le_refl _)
  | @nextTurn client last running continues =>
      by_cases same : other = client
      · subst same
        obtain ⟨alive, ends⟩ := view.handling _ running
        have open' : (before.clients other).closed = false :=
          Bool.eq_false_iff.mpr fun closed => absurd (ends closed) (by simp [continues])
        refine view.rerun turn running rfl rfl ?_ ?_ ?_
        · simp
        · simpa using alive
        · simpa [open'] using turn_ends
      · exact view.frame (setThread_clients_of_ne _ _ _ same) (fun _ => rfl) (Nat.le_refl _)
  | @endHandler client last running returns =>
      by_cases same : other = client
      · subst same
        exact view.endHandler running
      · exact view.frame (setThread_clients_of_ne _ _ _ same) (fun _ => rfl) (Nat.le_refl _)
  | @destroyAccepted client releasing =>
      by_cases same : other = client
      · subst same
        refine ⟨fun beyond => ?_, nofun, ?_, nofun, fun program running => ?_,
          fun releases => ?_⟩
        · simpa using view.unstarted (by simpa using beyond)
        · rintro (works | works) <;> exact nomatch works
        · rcases view.alone releasing with idle | idle <;> simp [idle] at running
        · rcases view.alone releasing with idle | idle <;> simp [idle] at releases
      · exact view.frame (destroy_clients_of_ne _ _ same) nofun (by simp)
  | @destroyHandled client releasing =>
      by_cases same : other = client
      · subst same
        obtain ⟨-, elsewhere⟩ := view.handled releasing
        have lost : ((before.destroy other).setThread other .ended).serverThread.client? ≠
            some other := by
          change (before.destroy other).serverThread.client? ≠ some other
          rwa [destroy_serverThread]
        refine ⟨fun beyond => ?_, fun works => absurd works lost, fun works => ?_,
          fun works => ?_, fun program running => ?_, fun releases => ?_⟩
        · change (before.destroy other).accepted ≤ other at beyond
          rw [destroy_accepted] at beyond
          exact absurd beyond (Nat.not_le.mpr (view.bound (by simp [releasing])))
        · rcases works with works | works <;> exact absurd (by rw [works]; rfl) lost
        · exact absurd (by rw [works]; rfl) lost
        · simp at running
        · simp at releases
      · refine view.frame ?_ (fun _ => destroy_serverThread _ _) (destroy_accepted _ _).ge
        rw [setThread_clients_of_ne _ _ _ same, destroy_clients_of_ne _ _ same]

end Step

/-- Descriptors and their owners agree, and what has been closed so far was each
connection's own descriptor, once. -/
structure Books (sockets : Sockets) : Prop where
  fresh : ∀ client, sockets.accepted ≤ client →
    (sockets.clients client).closed = false ∧ (sockets.clients client).destroyed = false
  held : ∀ fd client, sockets.table fd = some (.connection client) ↔
    client < sockets.accepted ∧ (sockets.clients client).Owns fd
  counted : ∀ client,
    sockets.closings client = if (sockets.clients client).Released then 1 else 0
  own : ∀ caller client, (caller, some (.connection client)) ∈ sockets.closes → caller = client

theorem books_start (inUse : Nat → Bool) : (start inUse).Books where
  fresh _ _ := ⟨rfl, rfl⟩
  held fd client := by
    constructor
    · intro held
      simp only [start] at held
      split at held <;> simp at held
    · rintro ⟨bound, -⟩
      exact absurd bound (Nat.not_lt_zero client)
  counted _ := by simp [closings, start, ClientSocket.Released]
  own := nofun

section Bookkeeping

variable {before after : Sockets} {client : Nat}

theorem Books.closedOnce (books : before.Books) : before.ClosedOnce where
  own := books.own
  atMostOnce client := by
    rw [books.counted]
    split <;> omega
  released client _ valid destroyed := by
    rw [books.counted, if_pos ⟨valid, .inr destroyed⟩]

theorem Books.frame (books : before.Books) (accepted : after.accepted = before.accepted)
    (table : ∀ fd client, after.table fd = some (.connection client) ↔
      before.table fd = some (.connection client)) (closes : after.closes = before.closes)
    (alike : ∀ client, (after.clients client).Alike (before.clients client)) : after.Books where
  fresh client beyond := by
    rw [(alike client).closed, (alike client).destroyed]
    exact books.fresh client (accepted ▸ beyond)
  held fd client := by rw [table, books.held, accepted, (alike client).owns]
  counted client := by
    rw [closings, closes, ← closings, books.counted]
    simp only [(alike client).released]
  own := closes ▸ books.own

theorem Books.setThread (books : before.Books) (client : Nat) (thread : ClientThread) :
    (before.setThread client thread).Books :=
  books.frame rfl (fun _ _ => Iff.rfl) rfl (before.setThread_alike client thread)

theorem Books.accept {fd : Int} {table : Int → Option Holder} {serverThread : ServerThread}
    (books : before.Books)
    (opened : ∀ number holder, table number = some (.connection holder) ↔
      before.table number = some (.connection holder) ∨
        number = fd ∧ 0 ≤ fd ∧ holder = before.accepted) :
    Books { before with
      table
      serverThread
      accepted := before.accepted + 1
      clients := Function.update before.clients before.accepted { socket_ := fd } } where
  fresh client beyond := by
    have different : client ≠ before.accepted := Nat.ne_of_gt beyond
    simp only [Function.update_of_ne different]
    exact books.fresh client (Nat.le_of_succ_le beyond)
  held number client := by
    rw [opened, books.held]
    by_cases same : client = before.accepted
    · subst same
      simp only [Nat.lt_irrefl, false_and, false_or, and_true, Function.update_self,
        ClientSocket.Owns, Nat.lt_succ_self, true_and]
      constructor
      · rintro ⟨rfl, valid⟩
        exact ⟨rfl, valid⟩
      · rintro ⟨rfl, valid⟩
        exact ⟨rfl, valid⟩
    · simp only [Function.update_of_ne same, same, and_false, or_false]
      refine and_congr_left fun _ => ⟨fun bound => Nat.lt_succ_of_lt bound, fun bound => ?_⟩
      exact Nat.lt_of_le_of_ne (Nat.le_of_lt_succ bound) same
  counted client := by
    change before.closings client = _
    rw [books.counted]
    by_cases same : client = before.accepted
    · subst same
      obtain ⟨open', alive⟩ := books.fresh before.accepted (Nat.le_refl _)
      simp [ClientSocket.Released, open', alive]
    · simp only [Function.update_of_ne same]
  own := books.own

/-- A close call of the connection on its own number, which no other connection
holds, after which it counts as closed. -/
theorem Books.retire (books : before.Books) (bound : client < before.accepted)
    (exclusive : ∀ holder,
      before.table (before.clients client).socket_ = some (.connection holder) → holder = client)
    (socket : ClientSocket) (same : socket.socket_ = (before.clients client).socket_)
    (gone : socket.closed = true ∨ socket.destroyed = true) :
    Books { before.closeDescriptor client with
      clients := Function.update before.clients client socket } where
  fresh other beyond := by
    have different : other ≠ client := fun isClient => by
      subst isClient
      exact absurd bound (Nat.not_lt.mpr beyond)
    simp only [Function.update_of_ne different]
    exact books.fresh other beyond
  held fd holder := by
    have lost : ¬socket.Owns fd := by
      rintro ⟨-, -, open', alive⟩
      simp [open', alive] at gone
    simp only [closeDescriptor]
    by_cases isClient : holder = client
    · subst isClient
      rw [Function.update_self]
      refine iff_of_false (fun held => ?_) fun owns => lost owns.2
      by_cases number : fd = (before.clients holder).socket_
      · rw [number, Function.update_self] at held
        exact nomatch held
      · rw [Function.update_of_ne number] at held
        exact number ((books.held fd holder).mp held).2.1.symm
    · rw [Function.update_of_ne isClient, ← books.held]
      by_cases number : fd = (before.clients client).socket_
      · rw [number, Function.update_self]
        exact iff_of_false nofun fun held => isClient (exclusive holder held)
      · rw [Function.update_of_ne number]
  counted holder := by
    have counts : ({ before.closeDescriptor client with
        clients := Function.update before.clients client socket } : Sockets).closings holder =
          before.closings holder +
            if before.table (before.clients client).socket_ = some (.connection holder)
              then 1 else 0 := by
      simp [closings, closeDescriptor, List.countP_cons]
    rw [counts, books.counted]
    by_cases isClient : holder = client
    · subst isClient
      simp only [Function.update_self, ClientSocket.Released, same, gone, and_true]
      by_cases held : before.table (before.clients holder).socket_ = some (.connection holder)
      · obtain ⟨-, -, valid, open', alive⟩ := (books.held _ holder).mp held
        simp [held, valid, open', alive]
      · have lost : ¬(before.clients holder).Owns (before.clients holder).socket_ :=
          fun owns => held ((books.held _ holder).mpr ⟨bound, owns⟩)
        simp only [ClientSocket.Owns, true_and, not_and, Bool.not_eq_false] at lost
        rw [if_neg held, Nat.add_zero]
        refine if_congr (and_iff_left_of_imp fun valid => ?_) rfl rfl
        by_cases closed : (before.clients holder).closed = true
        · exact .inl closed
        · exact .inr (lost valid (Bool.eq_false_iff.mpr closed))
    · simp only [Function.update_of_ne isClient]
      rw [if_neg fun held => isClient (exclusive holder held), Nat.add_zero]
  own caller holder member := by
    rcases List.mem_cons.mp member with now | past
    · obtain ⟨rfl, held⟩ := Prod.mk.inj now
      exact (exclusive holder held.symm).symm
    · exact books.own caller holder past

theorem Books.exclusive (books : before.Books) (bound : client < before.accepted)
    (open' : (before.clients client).closed = false)
    (alive : (before.clients client).destroyed = false) (holder : Nat)
    (held : before.table (before.clients client).socket_ = some (.connection holder)) :
    holder = client := by
  obtain ⟨-, -, valid, -⟩ := (books.held _ holder).mp held
  have owns := (books.held _ client).mpr ⟨bound, rfl, valid, open', alive⟩
  simpa using held.symm.trans owns

theorem Books.close (books : before.Books) (bound : client < before.accepted)
    (open' : (before.clients client).closed = false)
    (alive : (before.clients client).destroyed = false) : (before.close client).Books :=
  books.retire bound (books.exclusive bound open' alive) _ rfl (.inl rfl)

theorem Books.destroy (books : before.Books) (bound : client < before.accepted)
    (alive : (before.clients client).destroyed = false) (once : before.DestroysOnce client) :
    (before.destroy client).Books := by
  unfold DestroysOnce at once
  unfold Sockets.destroy
  by_cases zero : (before.clients client).socket_ = 0
  · rw [if_pos zero] at once
    rw [if_neg (not_not.mpr zero)]
    refine ⟨fun other beyond => ?_, fun fd holder => ?_, fun holder => ?_, books.own⟩
    · have different : other ≠ client := fun isClient => by
        subst isClient
        exact absurd bound (Nat.not_lt.mpr beyond)
      simp only [Function.update_of_ne different]
      exact books.fresh other beyond
    · change before.table fd = _ ↔ _
      rw [books.held]
      by_cases isClient : holder = client
      · subst isClient
        simp [ClientSocket.Owns, once]
      · simp only [Function.update_of_ne isClient]
    · change before.closings holder = _
      rw [books.counted]
      by_cases isClient : holder = client
      · subst isClient
        simp [ClientSocket.Released, once, zero]
      · simp only [Function.update_of_ne isClient]
  · rw [if_neg zero] at once
    rw [if_pos zero]
    refine books.retire bound (fun holder held => ?_) _ rfl (.inr rfl)
    by_cases closed : (before.clients client).closed = true
    · exact absurd held (once closed holder)
    · exact books.exclusive bound (Bool.eq_false_iff.mpr closed) alive holder held

theorem Books.step {event : SocketEvent} (books : before.Books)
    (consistent : ∀ client, before.Consistent client) (move : before.Move event after)
    (once : before.Undoubled event) : after.Books := by
  have sameSockets (client : Nat) : (before.clients client).Alike (before.clients client) :=
    ⟨rfl, rfl, rfl⟩
  have update (fd : Int) (now : Option Holder) (holder : Nat)
      (was : before.table fd ≠ some (.connection holder)) (is : now ≠ some (.connection holder))
      (number : Int) : Function.update before.table fd now number = some (.connection holder) ↔
        before.table number = some (.connection holder) := by
    by_cases same : number = fd
    · subst same
      rw [Function.update_self]
      exact iff_of_false is was
    · rw [Function.update_of_ne same]
  cases move with
  | stop | testStop | unconfigured | endIteration =>
      exact books.frame rfl (fun _ _ => Iff.rfl) rfl sameSockets
  | @openOther fd free =>
      refine books.frame rfl (fun number holder => ?_) rfl sameSockets
      exact update fd (some .other) holder (by simp [free]) (by simp) number
  | @closeOther fd held =>
      refine books.frame rfl (fun number holder => ?_) rfl sameSockets
      exact update fd none holder (by simp [held]) (by simp) number
  | acceptFailed accepting =>
      refine books.accept fun number holder => ?_
      simp
  | @accept fd accepting valid free =>
      refine books.accept fun number holder => ?_
      by_cases same : number = fd
      · subst same
        simp [free, valid, eq_comm]
      · simp [same]
  | configured configuring =>
      exact (books.setThread _ (.running turn)).frame rfl (fun _ _ => Iff.rfl) rfl
        fun client => ⟨rfl, rfl, rfl⟩
  | @closeUnconfigured client closing =>
      have view := consistent client
      obtain ⟨bound, alive⟩ := view.accepted (by rw [closing]; rfl)
      obtain ⟨-, open'⟩ := view.configured (.inr closing)
      exact (books.close bound open' alive).frame rfl (fun _ _ => Iff.rfl) rfl
        fun client => ⟨rfl, rfl, rfl⟩
  | @closeHandled client outside rest running =>
      obtain ⟨alive, open', -⟩ := (consistent client).handling _ running
      have bound := (consistent client).bound (by simp [running])
      exact (books.close bound open' alive).setThread client _
  | respond response running kept => exact books.setThread _ _
  | nextTurn running continues => exact books.setThread _ _
  | endHandler running returns => exact books.setThread _ _
  | @destroyAccepted client releasing =>
      obtain ⟨bound, alive⟩ := (consistent client).accepted (by rw [releasing]; rfl)
      refine (books.destroy bound alive (once client ?_)).frame rfl (fun _ _ => Iff.rfl) rfl
        fun client => ⟨rfl, rfl, rfl⟩
      simp [destroying?, releasing]
  | @destroyHandled client releasing =>
      obtain ⟨alive, -⟩ := (consistent client).handled releasing
      have bound := (consistent client).bound (by simp [releasing])
      exact (books.destroy bound alive (once client rfl)).setThread client _

/-- A destructor that does not keep the books leaves the connection's descriptor
open for good or closes another connection's. -/
theorem Books.not_closedOnce (books : before.Books) (bound : client < before.accepted)
    (alive : (before.clients client).destroyed = false) (doubled : ¬before.DestroysOnce client)
    (accepted : after.accepted = before.accepted)
    (socket_ : (after.clients client).socket_ = (before.clients client).socket_)
    (destroyed : (after.clients client).destroyed = true)
    (closes : after.closes = (before.destroy client).closes) : ¬after.ClosedOnce := by
  intro closedOnce
  unfold DestroysOnce at doubled
  unfold Sockets.destroy at closes
  split at doubled
  · rename_i zero
    rw [if_neg (not_not.mpr zero)] at closes
    have released := closedOnce.released client (accepted ▸ bound)
      (by rw [socket_, zero]) destroyed
    rw [closings, closes] at released
    change before.closings client = 1 at released
    rw [books.counted] at released
    simp [ClientSocket.Released, doubled, alive] at released
  · rename_i nonzero
    rw [if_pos nonzero] at closes
    simp only [Classical.not_imp, not_forall, not_not] at doubled
    obtain ⟨closed, holder, held⟩ := doubled
    obtain rfl : client = holder := by
      apply closedOnce.own
      rw [closes, ← held]
      exact List.mem_cons_self
    obtain ⟨-, -, -, open', -⟩ := (books.held _ client).mp held
    simp [closed] at open'

theorem not_closedOnce_of_doubled {event : SocketEvent} (books : before.Books)
    (consistent : ∀ client, before.Consistent client) (move : before.Move event after)
    (doubled : ¬before.Undoubled event) : ¬after.ClosedOnce := by
  simp only [Undoubled, not_forall] at doubled
  obtain ⟨client, destroying, doubled⟩ := doubled
  cases move with
  | @destroyAccepted other releasing =>
      simp only [destroying?, releasing, Option.some.injEq] at destroying
      subst destroying
      obtain ⟨bound, alive⟩ := (consistent other).accepted (by rw [releasing]; rfl)
      exact books.not_closedOnce bound alive doubled (destroy_accepted _ _) (by simp) (by simp) rfl
  | @destroyHandled other releasing =>
      obtain rfl := Option.some.inj destroying
      obtain ⟨alive, -⟩ := (consistent other).handled releasing
      exact books.not_closedOnce ((consistent other).bound (by simp [releasing])) alive doubled
        (destroy_accepted _ _) (by simp) (by simp) rfl
  | _ => exact nomatch destroying

end Bookkeeping

/-- The runs in which every descriptor is closed once, and by its own connection
only, are those all of whose destructors meet the condition. -/
theorem closedOnce_iff (inUse : Nat → Bool) (events : List SocketEvent) (sockets : Sockets) :
    Run (Restrict (Steps next) Undoubled) (start inUse) events sockets ↔
      Run (fun before event after => Steps next before event after ∧ after.ClosedOnce)
        (start inUse) events sockets := by
  refine Run.congr (fun sockets => sockets.Books ∧ ∀ client, sockets.Consistent client)
    ⟨books_start inUse, consistent_start inUse⟩ ?_ ?_
  · rintro before event after ⟨books, consistent⟩ ⟨once, taken⟩
    have move := move_of_next taken
    exact ⟨books.step consistent move once, Consistent.step consistent move⟩
  · rintro before event after ⟨books, consistent⟩
    constructor
    · rintro ⟨once, taken⟩
      exact ⟨taken, (books.step consistent (move_of_next taken) once).closedOnce⟩
    · rintro ⟨taken, closedOnce⟩
      refine ⟨?_, taken⟩
      by_contra doubled
      exact not_closedOnce_of_doubled books consistent (move_of_next taken) doubled closedOnce

noncomputable def receivesNothing (op : Op) : op.Response := (Environment.healthy.respond op ()).1

/-- A handler closes its socket after a failed receive. Before its thread has
dropped the last reference the next connection gets the number. -/
noncomputable def closeReused : List SocketEvent :=
  [.testStop, .accept 5, .setsockopt true, .endIteration,
    .call 0 receivesNothing, .call 0 receivesNothing, .call 0 receivesNothing, .endTurn 0,
    .testStop, .accept 5, .destroyHandled 0]

theorem closeReused_not_closedOnce :
    ¬∀ (inUse : Nat → Bool) (events : List SocketEvent) (sockets : Sockets),
      Run (Steps next) (start inUse) events sockets → sockets.ClosedOnce := by
  intro closedOnce
  have executed : (execute next (start fun _ => false) closeReused).map (·.closes) =
      some [(0, some (.connection 1)), (0, some (.connection 0))] := by
    rfl
  obtain ⟨sockets, ran, closes⟩ := Option.map_eq_some_iff.mp executed
  have own := (closedOnce _ _ sockets (run_of_execute ran)).own 0 1
  rw [closes] at own
  exact absurd (own List.mem_cons_self) (by decide)

end Sockets

end Server

end CeServer
