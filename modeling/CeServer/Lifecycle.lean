import CeServer.DescriptorLedger

/-!
`Server::start`, `stop` and `join`: the thread that owns the server, the server
thread and the threads of the connections.
-/

namespace CeServer.Server

open Interaction Transition

/-- The member `serverThread`. `join` deletes the thread and keeps the pointer. -/
inductive ThreadPointer
  | null
  | thread
  | dangling
  deriving DecidableEq

/-- The first `joined` threads of `clientThreads` have been joined and deleted;
`exited` is the end of the server thread. -/
structure Lifecycle where
  sockets : Sockets
  serverThread : ThreadPointer := .null
  clientThreads : List Nat := []
  joined : Nat := 0
  exited : Bool := false
  -- history: the commands each connection has served
  served : Nat → List UInt8 := fun _ => []

inductive LifecycleEvent
  | start (listens : Bool)
  | stop
  | join
  | sockets (event : SocketEvent)
  | joinClient
  | exit

/-- Descriptors that others open and close are no step of the server. -/
def SocketEvent.foreign : SocketEvent → Bool
  | .openOther _ | .closeOther _ => true
  | _ => false

namespace Lifecycle

def created (sockets : Sockets) : SocketEvent → List Nat
  | .setsockopt true => sockets.serverThread.client?.toList
  | _ => []

def servedBy (sockets : Sockets) (client : Nat) : SocketEvent → List UInt8
  | .endTurn other =>
      if other = client then
        match (sockets.clients client).thread with
        | .running (.ret (.dispatched command _)) => [command]
        | _ => []
      else []
  | _ => []

def next (lifecycle : Lifecycle) : LifecycleEvent → Option Lifecycle
  | .start listens =>
      match lifecycle.serverThread with
      | .null => some { lifecycle with serverThread := if listens then .thread else .null }
      | _ => some lifecycle
  | .stop => some { lifecycle with sockets := { lifecycle.sockets with bStop := true } }
  | .join =>
      match lifecycle.serverThread with
      | .null => some lifecycle
      | .thread =>
          if lifecycle.exited then some { lifecycle with serverThread := .dangling } else none
      -- undefined: `joinable` of a deleted thread
      | .dangling => none
  | .sockets .stop => none
  | .sockets event =>
      if event.foreign || lifecycle.serverThread ≠ .null then
        (lifecycle.sockets.next event).map fun sockets =>
          { lifecycle with
            sockets
            clientThreads := lifecycle.clientThreads ++ created lifecycle.sockets event
            served := fun client =>
              lifecycle.served client ++ servedBy lifecycle.sockets client event }
      else none
  | .joinClient =>
      match lifecycle.sockets.serverThread, lifecycle.clientThreads[lifecycle.joined]? with
      | .joining, some client =>
          match (lifecycle.sockets.clients client).thread with
          | .ended => some { lifecycle with joined := lifecycle.joined + 1 }
          | _ => none
      | _, _ => none
  | .exit =>
      match lifecycle.sockets.serverThread with
      | .joining =>
          if lifecycle.joined = lifecycle.clientThreads.length ∧ lifecycle.exited = false then
            some { lifecycle with exited := true }
          else none
      | _ => none

def begin (inUse : Nat → Bool) : Lifecycle := { sockets := Sockets.start inUse }

/-- What a step does. -/
inductive Move (before : Lifecycle) : LifecycleEvent → Lifecycle → Prop
  | start (idle : before.serverThread = .null) :
      Move before (.start true) { before with serverThread := .thread }
  | startRefused {listens : Bool} (refused : before.serverThread ≠ .null ∨ listens = false) :
      Move before (.start listens) before
  | stop : Move before .stop { before with sockets := { before.sockets with bStop := true } }
  | joinNothing (idle : before.serverThread = .null) : Move before .join before
  | join (started : before.serverThread = .thread) (exited : before.exited = true) :
      Move before .join { before with serverThread := .dangling }
  | sockets {event : SocketEvent} {sockets : Sockets}
      (runs : event.foreign = true ∨ before.serverThread ≠ .null)
      (stays : event ≠ .stop) (taken : Steps Sockets.next before.sockets event sockets) :
      Move before (.sockets event) { before with
        sockets
        clientThreads := before.clientThreads ++ created before.sockets event
        served := fun client => before.served client ++ servedBy before.sockets client event }
  | joinClient {client : Nat} (joining : before.sockets.serverThread = .joining)
      (listed : before.clientThreads[before.joined]? = some client)
      (ended : (before.sockets.clients client).thread = .ended) :
      Move before .joinClient { before with joined := before.joined + 1 }
  | exit (joining : before.sockets.serverThread = .joining)
      (all : before.joined = before.clientThreads.length) (live : before.exited = false) :
      Move before .exit { before with exited := true }

theorem move_of_next {before after : Lifecycle} {event : LifecycleEvent}
    (taken : Steps next before event after) : Move before event after := by
  cases event with
  | start listens =>
      simp only [Steps, next] at taken
      split at taken
      · rename_i idle
        obtain rfl := Option.some.inj taken
        cases listens with
        | true => exact .start idle
        | false =>
            have same : { before with serverThread := .null } = before := by
              rw [← idle]
            have refused : Move before (.start false) before := .startRefused (Or.inr rfl)
            simpa [same] using refused
      · rename_i started
        obtain rfl := Option.some.inj taken
        exact .startRefused (Or.inl started)
  | stop =>
      obtain rfl := Option.some.inj taken
      exact .stop
  | join =>
      simp only [Steps, next] at taken
      split at taken
      · rename_i idle
        obtain rfl := Option.some.inj taken
        exact .joinNothing idle
      · rename_i started
        simp only [Option.ite_none_right_eq_some, Option.some.injEq] at taken
        obtain ⟨exited, rfl⟩ := taken
        exact .join started exited
      · cases taken
  | sockets event =>
      have stays : event ≠ .stop := by
        rintro rfl
        cases taken
      have allowed : (if event.foreign || decide (before.serverThread ≠ .null) then
          (before.sockets.next event).map fun sockets =>
            { before with
              sockets
              clientThreads := before.clientThreads ++ created before.sockets event
              served := fun client =>
                before.served client ++ servedBy before.sockets client event }
          else none) = some after := by
        cases event with
        | stop => exact absurd rfl stays
        | _ => exact taken
      simp only [Option.ite_none_right_eq_some, Bool.or_eq_true, decide_eq_true_eq] at allowed
      obtain ⟨runs, stepped⟩ := allowed
      obtain ⟨sockets, moved, rfl⟩ := Option.map_eq_some_iff.mp stepped
      exact .sockets runs stays moved
  | joinClient =>
      simp only [Steps, next] at taken
      split at taken
      · rename_i joining listed
        split at taken
        · rename_i ended
          obtain rfl := Option.some.inj taken
          exact .joinClient joining listed ended
        · cases taken
      · cases taken
  | exit =>
      simp only [Steps, next] at taken
      split at taken
      · rename_i joining
        simp only [Option.ite_none_right_eq_some, Option.some.injEq] at taken
        obtain ⟨⟨all, live⟩, rfl⟩ := taken
        exact .exit joining all live
      · cases taken

end Lifecycle

namespace Sockets

variable {before after : Sockets} {event : SocketEvent} {client : Nat}

theorem client?_of_refers {serverThread : ServerThread}
    (refers : serverThread.refers client = true) :
    serverThread.client? = some client := by
  cases serverThread <;> simp_all [ServerThread.refers, ServerThread.client?]

/-- Where an accepted socket is while its wrapper has not been destroyed. -/
def Alive (sockets : Sockets) (client : Nat) : Prop :=
  sockets.serverThread.client? = some client ∨
    (∃ program, (sockets.clients client).thread = .running program) ∨
    (sockets.clients client).thread = .releasing

theorem Alive.mono (alive : before.Alive client)
    (server : before.serverThread.client? = some client → after.serverThread.client? = some client)
    (kept : (after.clients client).thread = (before.clients client).thread) :
    after.Alive client := by
  rcases alive with works | thread
  · exact Or.inl (server works)
  · rw [← kept] at thread
    exact Or.inr thread

theorem setThread_thread (sockets : Sockets) (client other : Nat) (thread : ClientThread) :
    ((sockets.setThread client thread).clients other).thread =
      if other = client then thread else (sockets.clients other).thread := by
  by_cases same : other = client
  · subst same
    simp
  · rw [setThread_clients_of_ne _ _ _ same, if_neg same]

theorem setThread_destroyed (sockets : Sockets) (client other : Nat) (thread : ClientThread) :
    ((sockets.setThread client thread).clients other).destroyed =
      (sockets.clients other).destroyed :=
  (setThread_alike sockets client thread other).destroyed

theorem close_thread (sockets : Sockets) (client other : Nat) :
    ((sockets.close client).clients other).thread = (sockets.clients other).thread := by
  by_cases same : other = client
  · subst same
    simp
  · rw [close_clients_of_ne _ _ same]

theorem close_destroyed (sockets : Sockets) (client other : Nat) :
    ((sockets.close client).clients other).destroyed = (sockets.clients other).destroyed := by
  by_cases same : other = client
  · subst same
    simp
  · rw [close_clients_of_ne _ _ same]

theorem destroy_thread (sockets : Sockets) (client other : Nat) :
    ((sockets.destroy client).clients other).thread = (sockets.clients other).thread := by
  by_cases same : other = client
  · subst same
    simp
  · rw [destroy_clients_of_ne _ _ same]

/-- Every accepted socket is in use, or its wrapper has been destroyed. -/
def Accounted (sockets : Sockets) : Prop :=
  ∀ client, client < sockets.accepted →
    (sockets.clients client).destroyed = true ∨ sockets.Alive client

theorem Accounted.frame (accounted : before.Accounted)
    (accepted : after.accepted = before.accepted)
    (server : ∀ client, before.serverThread.client? = some client →
      after.serverThread.client? = some client ∨ after.Alive client)
    (kept : ∀ client, (after.clients client).thread = (before.clients client).thread)
    (destroyed : ∀ client, (before.clients client).destroyed = true →
      (after.clients client).destroyed = true) : after.Accounted := by
  intro client bound
  rw [accepted] at bound
  rcases accounted client bound with gone | works | thread
  · exact Or.inl (destroyed client gone)
  · rcases server client works with works | alive
    · exact Or.inr (Or.inl works)
    · exact Or.inr alive
  · rw [← kept] at thread
    exact Or.inr (Or.inr thread)

/-- One thread moves on and its socket stays in use. -/
theorem Accounted.rethread (accounted : before.Accounted)
    (accepted : after.accepted = before.accepted) (client : Nat) (alive : after.Alive client)
    (server : ∀ other, other ≠ client → before.serverThread.client? = some other →
      after.serverThread.client? = some other)
    (kept : ∀ other, other ≠ client →
      (after.clients other).thread = (before.clients other).thread)
    (destroyed : ∀ other, other ≠ client →
      (after.clients other).destroyed = (before.clients other).destroyed) : after.Accounted := by
  intro other bound
  by_cases same : other = client
  · rw [same]
    exact Or.inr alive
  · rw [accepted] at bound
    rcases accounted other bound with gone | works
    · rw [destroyed other same]
      exact Or.inl gone
    · exact Or.inr (works.mono (server other same) (kept other same))

theorem Accounted.accept {fd : Int} {table : Int → Option Holder} (accounted : before.Accounted)
    (accepting : before.serverThread = .accepting) :
    Accounted { before with
      table
      serverThread := .configuring before.accepted
      accepted := before.accepted + 1
      clients := Function.update before.clients before.accepted { socket_ := fd } } := by
  intro client bound
  by_cases same : client = before.accepted
  · rw [same]
    exact Or.inr (Or.inl rfl)
  · have kept : Function.update before.clients before.accepted
        ({ socket_ := fd } : ClientSocket) client = before.clients client :=
      Function.update_of_ne same _ _
    rcases accounted client (by simp at bound; omega) with gone | alive
    · exact Or.inl (by simpa only [kept] using gone)
    · refine Or.inr (alive.mono (fun works => ?_) (congrArg ClientSocket.thread kept))
      rw [accepting] at works
      cases works

theorem Accounted.destroy (accounted : before.Accounted)
    (accepted : after.accepted = before.accepted) (client : Nat)
    (gone : (after.clients client).destroyed = true)
    (server : ∀ other, other ≠ client → before.serverThread.client? = some other →
      after.serverThread.client? = some other)
    (kept : ∀ other, other ≠ client → after.clients other = before.clients other) :
    after.Accounted := by
  intro other bound
  by_cases same : other = client
  · rw [same]
    exact Or.inl gone
  · rw [accepted] at bound
    rcases accounted other bound with gone | works
    · rw [kept other same]
      exact Or.inl gone
    · exact Or.inr (works.mono (server other same) (congrArg ClientSocket.thread (kept other same)))

theorem Accounted.step (accounted : before.Accounted) (move : before.Move event after) :
    after.Accounted := by
  cases move with
  | stop | openOther | closeOther =>
      exact accounted.frame rfl (fun _ => Or.inl) (fun _ => rfl) (fun _ => id)
  | testStop testing =>
      refine accounted.frame rfl (fun client works => ?_) (fun _ => rfl) (fun _ => id)
      rw [testing] at works
      cases works
  | acceptFailed accepting | accept accepting => exact accounted.accept accepting
  | @configured client configuring =>
      refine accounted.rethread rfl client (Or.inl rfl) (fun other apart works => ?_)
        (fun other apart => ?_) (fun other _ => setThread_destroyed _ _ _ _)
      · rw [configuring] at works
        exact absurd (Option.some.inj works).symm apart
      · exact (setThread_thread _ _ _ _).trans (if_neg apart)
  | @unconfigured client configuring =>
      refine accounted.frame rfl (fun other works => Or.inl ?_) (fun _ => rfl) (fun _ => id)
      rw [configuring] at works
      exact works
  | @closeUnconfigured client closing =>
      refine accounted.frame rfl (fun other works => Or.inl ?_) (fun _ => close_thread _ _ _)
        (fun other gone => (close_destroyed _ _ _).trans gone)
      rw [closing] at works
      exact works
  | @endIteration client iterated =>
      refine accounted.frame rfl (fun other works => ?_) (fun _ => rfl) (fun _ => id)
      rw [iterated] at works
      obtain rfl := Option.some.inj works
      cases thread : (before.clients client).thread with
      | running program => exact Or.inr (Or.inr (Or.inl ⟨program, thread⟩))
      | unstarted | releasing | ended =>
          left
          simp [ClientThread.refers, ServerThread.client?]
  | @closeHandled client outside rest running =>
      refine accounted.rethread rfl client (Or.inr (Or.inl ⟨rest (), ?_⟩)) (fun _ _ => id)
        (fun other apart => ?_) (fun other _ => ?_)
      · rw [setThread_thread, if_pos rfl]
      · rw [setThread_thread, if_neg apart, close_thread]
      · rw [setThread_destroyed, close_destroyed]
  | @respond client outside op rest response running kept =>
      refine accounted.rethread rfl client (Or.inr (Or.inl ⟨rest response, ?_⟩)) (fun _ _ => id)
        (fun other apart => ?_) (fun other _ => setThread_destroyed _ _ _ _)
      · rw [setThread_thread, if_pos rfl]
      · rw [setThread_thread, if_neg apart]
  | @nextTurn client last running continues =>
      refine accounted.rethread rfl client (Or.inr (Or.inl ⟨turn, ?_⟩)) (fun _ _ => id)
        (fun other apart => ?_) (fun other _ => setThread_destroyed _ _ _ _)
      · rw [setThread_thread, if_pos rfl]
      · rw [setThread_thread, if_neg apart]
  | @endHandler client last running returns =>
      refine accounted.rethread rfl client ?_ (fun _ _ => id)
        (fun other apart => ?_) (fun other _ => setThread_destroyed _ _ _ _)
      · by_cases refers : before.serverThread.refers client = true
        · exact Or.inl (client?_of_refers refers)
        · refine Or.inr (Or.inr ?_)
          rw [setThread_thread, if_pos rfl, if_neg refers]
      · rw [setThread_thread, if_neg apart]
  | @destroyAccepted client releasing =>
      refine accounted.destroy (destroy_accepted _ _) client (by simp) (fun other apart works => ?_)
        (fun other apart => destroy_clients_of_ne _ _ apart)
      rw [releasing] at works
      exact absurd (Option.some.inj works).symm apart
  | @destroyHandled client releasing =>
      refine accounted.destroy (destroy_accepted _ _) client ?_ (fun other apart works => ?_)
        (fun other apart => ?_)
      · rw [setThread_destroyed]
        simp
      · exact (congrArg ServerThread.client? (destroy_serverThread _ _)).trans works
      · rw [setThread_clients_of_ne _ _ _ apart, destroy_clients_of_ne _ _ apart]

/-- The thread of a connection changes only by its own steps and by being created. -/
theorem thread_step (consistent : before.Consistent client) (move : before.Move event after) :
    (after.clients client).thread = (before.clients client).thread ∨
      client ∈ Lifecycle.created before event ∧ (before.clients client).thread = .unstarted ∨
      (∃ program, (before.clients client).thread = .running program) ∨
      (before.clients client).thread = .releasing := by
  cases move with
  | stop | openOther | closeOther | testStop | unconfigured | endIteration => exact Or.inl rfl
  | acceptFailed | accept =>
      left
      by_cases same : client = before.accepted
      · rw [consistent.unstarted same.ge]
        simp [same]
      · exact congrArg ClientSocket.thread (Function.update_of_ne same _ _)
  | @configured other configuring =>
      by_cases same : client = other
      · right; left
        rw [same] at consistent ⊢
        refine ⟨?_, (consistent.configured (Or.inl configuring)).1⟩
        simp [Lifecycle.created, configuring, ServerThread.client?]
      · exact Or.inl ((setThread_thread _ _ _ _).trans (if_neg same))
  | closeUnconfigured => exact Or.inl (close_thread _ _ _)
  | @closeHandled other outside rest running =>
      by_cases same : client = other
      · rw [same]
        exact Or.inr (Or.inr (Or.inl ⟨_, running⟩))
      · rw [setThread_thread, if_neg same, close_thread]
        exact Or.inl rfl
  | @respond other outside op rest response running =>
      by_cases same : client = other
      · rw [same]
        exact Or.inr (Or.inr (Or.inl ⟨_, running⟩))
      · exact Or.inl ((setThread_thread _ _ _ _).trans (if_neg same))
  | @nextTurn other last running | @endHandler other last running =>
      by_cases same : client = other
      · rw [same]
        exact Or.inr (Or.inr (Or.inl ⟨_, running⟩))
      · exact Or.inl ((setThread_thread _ _ _ _).trans (if_neg same))
  | destroyAccepted => exact Or.inl (destroy_thread _ _ _)
  | @destroyHandled other releasing =>
      by_cases same : client = other
      · rw [same]
        exact Or.inr (Or.inr (Or.inr releasing))
      · rw [setThread_thread, if_neg same, destroy_thread]
        exact Or.inl rfl

theorem ended_step (consistent : before.Consistent client) (move : before.Move event after)
    (ended : (before.clients client).thread = .ended) : (after.clients client).thread = .ended := by
  rcases thread_step consistent move with same | ⟨-, fresh⟩ | ⟨program, running⟩ | releasing
  · rw [same, ended]
  · rw [ended] at fresh
    cases fresh
  · rw [ended] at running
    cases running
  · rw [ended] at releasing
    cases releasing

theorem started_step (consistent : before.Consistent client) (move : before.Move event after)
    (started : (before.clients client).thread ≠ .unstarted ∨
      client ∈ Lifecycle.created before event) :
    (after.clients client).thread ≠ .unstarted := by
  have keeps (same : (after.clients client).thread = (before.clients client).thread)
      (nothing : Lifecycle.created before event = []) :
      (after.clients client).thread ≠ .unstarted := by
    rw [same]
    exact started.resolve_right (by simp [nothing])
  cases move with
  | stop | openOther | closeOther | testStop | unconfigured | endIteration => exact keeps rfl rfl
  | acceptFailed | accept =>
      have bound := consistent.bound (started.resolve_right List.not_mem_nil)
      exact keeps (congrArg ClientSocket.thread (Function.update_of_ne bound.ne _ _)) rfl
  | @configured other configuring =>
      by_cases same : client = other
      · simp [same]
      · have apart : client ∉ Lifecycle.created before (.setsockopt true) := by
          simp [Lifecycle.created, configuring, ServerThread.client?, same]
        rw [setThread_thread, if_neg same]
        exact started.resolve_right apart
  | closeUnconfigured => exact keeps (close_thread _ _ _) rfl
  | @endHandler other =>
      by_cases same : client = other
      · rw [setThread_thread, if_pos same]
        split <;> simp
      · exact keeps ((setThread_thread _ _ _ _).trans (if_neg same)) rfl
  | @closeHandled other | @respond other | @nextTurn other | @destroyHandled other =>
      by_cases same : client = other
      · simp [same]
      · refine keeps ?_ rfl
        simp only [setThread_thread, if_neg same, close_thread, destroy_thread]
  | destroyAccepted => exact keeps (destroy_thread _ _ _) rfl

theorem joining_step (move : before.Move event after) (joining : before.serverThread = .joining) :
    after.serverThread = .joining ∧ Lifecycle.created before event = [] := by
  refine ⟨?_, ?_⟩
  · cases move with
    | testStop works | acceptFailed works | accept works | configured works | unconfigured works
      | closeUnconfigured works | endIteration works | destroyAccepted works =>
        rw [joining] at works
        cases works
    | destroyHandled => exact (destroy_serverThread _ _).trans joining
    | _ => exact joining
  · cases event with
    | setsockopt success =>
        cases success <;> simp [Lifecycle.created, joining, ServerThread.client?]
    | _ => rfl

end Sockets

namespace Lifecycle

/-- What the threads know of each other in every state the server reaches. -/
structure Sound (lifecycle : Lifecycle) : Prop where
  consistent : ∀ client, lifecycle.sockets.Consistent client
  accounted : lifecycle.sockets.Accounted
  idle : lifecycle.serverThread = .null →
    lifecycle.sockets.serverThread = .testing ∧ lifecycle.sockets.accepted = 0
  listed : ∀ client, (lifecycle.sockets.clients client).thread ≠ .unstarted →
    client ∈ lifecycle.clientThreads
  started : ∀ client ∈ lifecycle.clientThreads,
    (lifecycle.sockets.clients client).thread ≠ .unstarted
  ended : ∀ client ∈ lifecycle.clientThreads.take lifecycle.joined,
    (lifecycle.sockets.clients client).thread = .ended
  within : lifecycle.joined ≤ lifecycle.clientThreads.length
  waits : 0 < lifecycle.joined ∨ lifecycle.exited = true →
    lifecycle.sockets.serverThread = .joining
  all : lifecycle.exited = true → lifecycle.joined = lifecycle.clientThreads.length
  deleted : lifecycle.serverThread = .dangling → lifecycle.exited = true

theorem sound_begin (inUse : Nat → Bool) : (begin inUse).Sound where
  consistent := Sockets.consistent_start inUse
  accounted := nofun
  idle _ := ⟨rfl, rfl⟩
  listed _ started := absurd rfl started
  started := nofun
  ended := nofun
  within := Nat.le_refl _
  waits := by
    rintro (joined | exited)
    · cases joined
    · cases exited
  all := nofun
  deleted := nofun

variable {before after : Lifecycle} {event : LifecycleEvent}

theorem Sound.sockets (sound : before.Sound) {event : SocketEvent} {sockets : Sockets}
    (runs : event.foreign = true ∨ before.serverThread ≠ .null)
    (taken : Steps Sockets.next before.sockets event sockets) {served : Nat → List UInt8} :
    Sound { before with
      sockets, served
      clientThreads := before.clientThreads ++ created before.sockets event } := by
  have move := Sockets.move_of_next taken
  have prior : (before.clientThreads ++ created before.sockets event).take before.joined =
      before.clientThreads.take before.joined := List.take_append_of_le_length sound.within
  constructor
  · exact Sockets.Consistent.step sound.consistent move
  · exact sound.accounted.step move
  · intro idle
    obtain ⟨testing, none⟩ := sound.idle idle
    rcases runs with foreign | started
    · cases event with
      | openOther fd | closeOther fd =>
          cases move
          exact ⟨testing, none⟩
      | _ => cases foreign
    · exact absurd idle started
  · intro client started
    rcases Sockets.thread_step (sound.consistent client) move with same | ⟨new, -⟩ |
      ⟨program, running⟩ | releasing
    · rw [same] at started
      exact List.mem_append_left _ (sound.listed client started)
    · exact List.mem_append_right _ new
    · exact List.mem_append_left _ (sound.listed client (by simp [running]))
    · exact List.mem_append_left _ (sound.listed client (by simp [releasing]))
  · intro client member
    exact Sockets.started_step (sound.consistent client) move
      ((List.mem_append.mp member).imp_left (sound.started client))
  · intro client member
    rw [prior] at member
    exact Sockets.ended_step (sound.consistent client) move (sound.ended client member)
  · simpa using sound.within.trans (Nat.le_add_right _ _)
  · intro done
    exact (Sockets.joining_step move (sound.waits done)).1
  · intro exited
    rw [(Sockets.joining_step move (sound.waits (Or.inr exited))).2, List.append_nil]
    exact sound.all exited
  · exact sound.deleted

theorem Sound.step (sound : before.Sound) (stepped : Steps next before event after) :
    after.Sound := by
  cases move_of_next stepped with
  | start idle =>
      exact { sound with idle := nofun, deleted := nofun }
  | startRefused | joinNothing => exact sound
  | stop =>
      have stopped : Sockets.Move before.sockets .stop { before.sockets with bStop := true } :=
        Sockets.move_of_next rfl
      exact { sound with
        consistent := Sockets.Consistent.step sound.consistent stopped
        accounted := sound.accounted.step stopped }
  | join started exited => exact { sound with idle := nofun, deleted := fun _ => exited }
  | sockets runs stays taken => exact sound.sockets runs taken
  | @joinClient client joining listed ended =>
      have below : before.joined < before.clientThreads.length :=
        (List.getElem?_eq_some_iff.mp listed).1
      refine { sound with
        ended := fun other member => ?_, within := below, waits := fun _ => joining,
        all := fun exited => absurd (sound.all exited) (Nat.ne_of_lt below) }
      rw [List.take_add_one, listed] at member
      rcases List.mem_append.mp member with earlier | now
      · exact sound.ended other earlier
      · obtain rfl := List.mem_singleton.mp now
        exact ended
  | exit joining all live =>
      exact { sound with waits := fun _ => joining, all := fun _ => all, deleted := fun _ => rfl }

theorem sound_of_run {inUse : Nat → Bool} {events : List LifecycleEvent} {final : Lifecycle}
    (run : Run (Steps next) (begin inUse) events final) : final.Sound :=
  run.invariant (sound_begin inUse) fun _ _ _ sound taken => sound.step taken

theorem Sound.quiet (sound : before.Sound) (exited : before.exited = true) (client : Nat) :
    (before.sockets.clients client).thread = .unstarted ∨
      (before.sockets.clients client).thread = .ended := by
  by_cases started : (before.sockets.clients client).thread = .unstarted
  · exact Or.inl started
  · right
    have listed := sound.listed client started
    rw [← List.take_length (l := before.clientThreads), ← sound.all exited] at listed
    exact sound.ended client listed

theorem Sound.destroyed (sound : before.Sound) (exited : before.exited = true) {client : Nat}
    (bound : client < before.sockets.accepted) :
    (before.sockets.clients client).destroyed = true := by
  rcases sound.accounted client bound with gone | works | ⟨program, running⟩ | releasing
  · exact gone
  · rw [sound.waits (Or.inr exited)] at works
    cases works
  · rcases sound.quiet exited client with idle | idle
    all_goals
      rw [running] at idle
      cases idle
  · rcases sound.quiet exited client with idle | idle
    all_goals
      rw [releasing] at idle
      cases idle

/-- What the server has done. -/
structure SameWork (first second : Lifecycle) : Prop where
  clients : second.sockets.clients = first.sockets.clients
  accepted : second.sockets.accepted = first.sockets.accepted
  closes : second.sockets.closes = first.sockets.closes
  served : second.served = first.served

theorem Sound.rests (sound : before.Sound) (exited : before.exited = true)
    (stepped : Steps next before event after) : SameWork before after ∧ after.exited = true := by
  have joining := sound.waits (Or.inr exited)
  cases move_of_next stepped with
  | start | startRefused | stop | joinNothing | join | joinClient =>
      exact ⟨⟨rfl, rfl, rfl, rfl⟩, exited⟩
  | exit => exact ⟨⟨rfl, rfl, rfl, rfl⟩, rfl⟩
  | @sockets event sockets runs stays taken =>
      refine ⟨?_, exited⟩
      cases Sockets.move_of_next taken with
      | stop => exact absurd rfl stays
      | openOther | closeOther => exact ⟨rfl, rfl, rfl, by simp [servedBy]⟩
      | testStop works | acceptFailed works | accept works | configured works
        | unconfigured works | closeUnconfigured works | endIteration works
        | destroyAccepted works =>
          rw [joining] at works
          cases works
      | @closeHandled client _ _ works | @respond client _ _ _ _ works
        | @nextTurn client _ works | @endHandler client _ works | @destroyHandled client works =>
          rcases sound.quiet exited client with idle | idle
          all_goals
            rw [works] at idle
            cases idle

/-- When `join` returns, every accepted socket has been destroyed and no thread
of a connection runs; whatever is called afterwards, the server does no more. -/
theorem join_returns_last {inUse : Nat → Bool} {events : List LifecycleEvent}
    (run : Run (Steps next) (begin inUse) events before) (started : before.serverThread = .thread)
    (joined : Steps next before .join after) :
    (∀ client, client < after.sockets.accepted →
        (after.sockets.clients client).destroyed = true ∧
          ∀ program, (after.sockets.clients client).thread ≠ .running program) ∧
      ∀ later final, Run (Steps next) after later final → SameWork after final := by
  have sound := sound_of_run (run.snoc joined)
  have exited : after.exited = true := by
    cases move_of_next joined with
    | joinNothing idle =>
        rw [started] at idle
        cases idle
    | join started exited => exact exited
  refine ⟨fun client bound => ⟨sound.destroyed exited bound, fun program running => ?_⟩,
    fun later final rest => ?_⟩
  · rcases sound.quiet exited client with idle | idle
    all_goals
      rw [running] at idle
      cases idle
  · have kept : final.Sound ∧ final.exited = true ∧ SameWork after final := by
      induction rest with
      | nil => exact ⟨sound, exited, rfl, rfl, rfl, rfl⟩
      | snoc earlier last ih =>
          obtain ⟨sound, exited, same⟩ := ih
          obtain ⟨still, ends⟩ := sound.rests exited last
          exact ⟨sound.step last, ends, still.clients.trans same.clients,
            still.accepted.trans same.accepted, still.closes.trans same.closes,
            still.served.trans same.served⟩
    exact kept.2.2

end Lifecycle

/-- A thread that serves no further command once the server is stopped. -/
inductive ClientThread.Finishing : ClientThread → Prop
  | unstarted : Finishing .unstarted
  | fresh : Finishing (.running turn)
  | stopped : Finishing (.running (.ret .stopped))
  | releasing : Finishing .releasing
  | ended : Finishing .ended

namespace Sockets

variable {before after : Sockets} {event : SocketEvent} {client : Nat}

open Lifecycle ClientThread

theorem destroy_bStop (sockets : Sockets) (client : Nat) :
    (sockets.destroy client).bStop = sockets.bStop := by
  unfold destroy
  split <;> rfl

theorem servedBy_of_ne {other : Nat} (apart : client ≠ other) :
    servedBy before client (.endTurn other) = [] :=
  if_neg (Ne.symm apart)

theorem servedBy_endTurn {last : Turn}
    (running : (before.clients client).thread = .running (.ret last)) :
    servedBy before client (.endTurn client) =
      match last with
      | .dispatched command _ => [command]
      | _ => [] := by
  simp only [servedBy, if_true, running]
  cases last <;> rfl

/-- The first call of a turn asks whether the server is stopped. -/
theorem turn_stopped (stopped : before.bStop = true) {outside : (op : Op) → op.Response}
    (running : (before.clients client).thread = .running turn)
    (taken : Steps Sockets.next before (.call client outside) after) :
    (after.clients client).thread = .running (.ret .stopped) := by
  have asks : before.next (.call client outside) =
      some (before.setThread client (.running (.ret .stopped))) := by
    simp only [next, running]
    change ((some (before.bStop, before)).map _ = _)
    rw [stopped]
    rfl
  obtain rfl := Option.some.inj (asks.symm.trans taken)
  simp

theorem finishing_of_thread (finishing : (before.clients client).thread.Finishing)
    (same : (after.clients client).thread = (before.clients client).thread) :
    (after.clients client).thread.Finishing := same ▸ finishing

theorem finishing_step (stopped : before.bStop = true)
    (taken : Steps Sockets.next before event after)
    (finishing : (before.clients client).thread.Finishing) :
    (after.clients client).thread.Finishing ∧ servedBy before client event = [] := by
  cases move_of_next taken with
  | stop | openOther | closeOther | testStop | unconfigured | endIteration => exact ⟨finishing, rfl⟩
  | acceptFailed | accept =>
      refine ⟨?_, rfl⟩
      by_cases same : client = before.accepted
      · subst same
        simpa using Finishing.unstarted
      · exact finishing_of_thread finishing
          (congrArg ClientSocket.thread (Function.update_of_ne same _ _))
  | @configured other configuring =>
      refine ⟨?_, rfl⟩
      by_cases same : client = other
      · subst same
        simpa using Finishing.fresh
      · exact finishing_of_thread finishing ((setThread_thread _ _ _ _).trans (if_neg same))
  | closeUnconfigured => exact ⟨finishing_of_thread finishing (close_thread _ _ _), rfl⟩
  | @closeHandled other outside rest running =>
      refine ⟨?_, rfl⟩
      by_cases same : client = other
      · subst same
        rw [running] at finishing
        cases finishing
      · refine finishing_of_thread finishing ?_
        rw [setThread_thread, if_neg same, close_thread]
  | @respond other outside op rest response running =>
      refine ⟨?_, rfl⟩
      by_cases same : client = other
      · subst same
        have fresh : (before.clients client).thread = .running turn := by
          rw [running] at finishing ⊢
          cases finishing
          rfl
        rw [turn_stopped stopped fresh taken]
        exact .stopped
      · exact finishing_of_thread finishing ((setThread_thread _ _ _ _).trans (if_neg same))
  | @nextTurn other last running continues =>
      by_cases same : client = other
      · subst same
        rw [running] at finishing
        cases finishing
        cases continues
      · exact ⟨finishing_of_thread finishing ((setThread_thread _ _ _ _).trans (if_neg same)),
          servedBy_of_ne same⟩
  | @endHandler other last running returns =>
      by_cases same : client = other
      · subst same
        rw [running] at finishing
        cases finishing
        refine ⟨?_, servedBy_endTurn running⟩
        rw [setThread_thread, if_pos rfl]
        split
        · exact .ended
        · exact .releasing
      · exact ⟨finishing_of_thread finishing ((setThread_thread _ _ _ _).trans (if_neg same)),
          servedBy_of_ne same⟩
  | destroyAccepted => exact ⟨finishing_of_thread finishing (destroy_thread _ _ _), rfl⟩
  | @destroyHandled other releasing =>
      refine ⟨?_, rfl⟩
      by_cases same : client = other
      · subst same
        rw [setThread_thread, if_pos rfl]
        exact .ended
      · refine finishing_of_thread finishing ?_
        rw [setThread_thread, if_neg same, destroy_thread]

/-- A thread that has served a command is at the start of its next turn or has left. -/
theorem served_step (taken : Steps Sockets.next before event after)
    (serves : servedBy before client event ≠ []) :
    (after.clients client).thread.Finishing ∧ (servedBy before client event).length = 1 := by
  cases move_of_next taken with
  | @nextTurn other last running continues =>
      by_cases same : client = other
      · subst same
        rw [servedBy_endTurn running] at serves ⊢
        refine ⟨?_, ?_⟩
        · rw [setThread_thread, if_pos rfl]
          exact .fresh
        · cases last <;> first | rfl | exact absurd rfl serves
      · exact absurd (servedBy_of_ne same) serves
  | @endHandler other last running returns =>
      by_cases same : client = other
      · subst same
        rw [servedBy_endTurn running] at serves ⊢
        refine ⟨?_, ?_⟩
        · rw [setThread_thread, if_pos rfl]
          split
          · exact .ended
          · exact .releasing
        · cases last <;> first | rfl | exact absurd rfl serves
      · exact absurd (servedBy_of_ne same) serves
  | _ => exact absurd rfl serves

/-- The accept whose test of `bStop` has succeeded already. -/
def acceptsLeft : ServerThread → Nat
  | .accepting => 1
  | _ => 0

theorem accepts_step (stopped : before.bStop = true) (move : before.Move event after) :
    after.bStop = true ∧ after.accepted + acceptsLeft after.serverThread ≤
      before.accepted + acceptsLeft before.serverThread := by
  cases move with
  | stop => exact ⟨rfl, Nat.le_refl _⟩
  | testStop testing =>
      refine ⟨stopped, ?_⟩
      rw [if_pos stopped]
      exact Nat.add_le_add_left (Nat.zero_le _) _
  | acceptFailed accepting | accept accepting =>
      refine ⟨stopped, ?_⟩
      rw [accepting]
      exact Nat.le_refl _
  | configured | unconfigured | closeUnconfigured =>
      exact ⟨stopped, Nat.add_le_add_left (Nat.zero_le _) _⟩
  | @endIteration client iterated =>
      refine ⟨stopped, Nat.add_le_add_left ?_ _⟩
      dsimp only
      split <;> exact Nat.zero_le _
  | @destroyAccepted client releasing =>
      refine ⟨?_, Nat.add_le_add (destroy_accepted _ _).le (Nat.zero_le _)⟩
      exact (destroy_bStop _ _).trans stopped
  | @destroyHandled client releasing =>
      refine ⟨(destroy_bStop _ _).trans stopped, ?_⟩
      change (before.destroy client).accepted + acceptsLeft (before.destroy client).serverThread ≤ _
      rw [destroy_accepted, destroy_serverThread]
  | _ => exact ⟨stopped, Nat.le_refl _⟩

end Sockets

namespace Lifecycle

/-- Since a state in which the server was stopped, at most one more connection was
accepted, and each connection has served at most the command it was at. -/
structure WindsDown (first last : Lifecycle) : Prop where
  stopped : last.sockets.bStop = true
  accepts : last.sockets.accepted + Sockets.acceptsLeft last.sockets.serverThread ≤
    first.sockets.accepted + Sockets.acceptsLeft first.sockets.serverThread
  commands : ∀ client, ∃ commands, last.served client = first.served client ++ commands ∧
    (commands = [] ∧ ((first.sockets.clients client).thread.Finishing →
        (last.sockets.clients client).thread.Finishing) ∨
      commands.length = 1 ∧ (last.sockets.clients client).thread.Finishing ∧
        ¬(first.sockets.clients client).thread.Finishing)

theorem WindsDown.step {first before after : Lifecycle} {event : LifecycleEvent}
    (winds : WindsDown first before) (stepped : Steps next before event after) :
    WindsDown first after := by
  cases move_of_next stepped with
  | stop => exact ⟨rfl, winds.accepts, winds.commands⟩
  | start | startRefused | joinNothing | join | joinClient | exit =>
      exact ⟨winds.stopped, winds.accepts, winds.commands⟩
  | @sockets event sockets runs stays taken =>
      obtain ⟨stopped, accepts⟩ := Sockets.accepts_step winds.stopped (Sockets.move_of_next taken)
      refine ⟨stopped, accepts.trans winds.accepts, fun client => ?_⟩
      obtain ⟨commands, earlier, far⟩ := winds.commands client
      refine ⟨commands ++ servedBy before.sockets client event, ?_, ?_⟩
      · change before.served client ++ _ = _
        rw [earlier, List.append_assoc]
      · have finishes (far : (before.sockets.clients client).thread.Finishing) :=
          Sockets.finishing_step winds.stopped taken far
        rcases far with ⟨rfl, finishing⟩ | ⟨one, finishing, fresh⟩
        · by_cases quiet : servedBy before.sockets client event = []
          · rw [quiet]
            exact Or.inl ⟨rfl, fun begins => (finishes (finishing begins)).1⟩
          · obtain ⟨ends, counted⟩ := Sockets.served_step taken quiet
            exact Or.inr ⟨counted, ends, fun begins => quiet (finishes (finishing begins)).2⟩
        · obtain ⟨still, quiet⟩ := finishes finishing
          rw [quiet, List.append_nil]
          exact Or.inr ⟨one, still, fresh⟩

/-- After `stop` at most one more connection is accepted; a connection serves at
most the command it was about to serve, and one that has yet to test `bStop`, as
every new connection, serves none. -/
theorem stop_winds_down {inUse : Nat → Bool} {events later : List LifecycleEvent}
    {middle final : Lifecycle} (run : Run (Steps next) (begin inUse) events middle)
    (stopped : middle.sockets.bStop = true) (rest : Run (Steps next) middle later final) :
    final.sockets.accepted ≤ middle.sockets.accepted + 1 ∧
      ∀ client, ∃ commands, final.served client = middle.served client ++ commands ∧
        commands.length ≤ 1 ∧
        ((middle.sockets.clients client).thread.Finishing → commands = []) ∧
        (middle.sockets.accepted ≤ client → commands = []) := by
  have begins : WindsDown middle middle :=
    ⟨stopped, Nat.le_refl _, fun client => ⟨[], by simp, Or.inl ⟨rfl, id⟩⟩⟩
  have winds := rest.invariant begins fun _ _ _ winds taken => winds.step taken
  refine ⟨?_, fun client => ?_⟩
  · have left : Sockets.acceptsLeft middle.sockets.serverThread ≤ 1 := by
      cases middle.sockets.serverThread <;> simp [Sockets.acceptsLeft]
    have bound := winds.accepts
    omega
  · obtain ⟨commands, served, far⟩ := winds.commands client
    have none (finishing : (middle.sockets.clients client).thread.Finishing) : commands = [] := by
      rcases far with ⟨rfl, -⟩ | ⟨-, -, busy⟩
      · rfl
      · exact absurd finishing busy
    refine ⟨commands, served, ?_, none, fun beyond => none ?_⟩
    · rcases far with ⟨rfl, -⟩ | ⟨one, -⟩
      · exact Nat.zero_le _
      · exact one.le
    · rw [((sound_of_run run).consistent client).unstarted beyond]
      exact .unstarted

section Samples

/-- A receive delivers one byte that is no command. -/
noncomputable def receivesByte : (op : Op) → op.Response
  | .recv _ => (1, [255])
  | op => Sockets.receivesNothing op

/-- The server is stopped after a connection has tested `bStop` for its turn. -/
noncomputable def stopsInTurn : List LifecycleEvent :=
  [.start true, .sockets .testStop, .sockets (.accept 5), .sockets (.setsockopt true),
    .sockets .endIteration, .sockets (.call 0 receivesByte), .stop]

noncomputable def endsTurn : List LifecycleEvent :=
  [.sockets (.call 0 receivesByte), .sockets (.call 0 receivesByte), .sockets (.endTurn 0),
    .sockets .testStop, .sockets (.destroyHandled 0), .joinClient, .exit]

theorem join_returns_last_endsTurn :
    ∃ before after : Lifecycle,
      Run (Steps next) (begin fun _ => false) (stopsInTurn ++ endsTurn) before ∧
        before.serverThread = .thread ∧ Steps next before .join after ∧
        after.sockets.accepted = 1 ∧
        (∀ client, client < after.sockets.accepted →
          (after.sockets.clients client).destroyed = true ∧
            ∀ program, (after.sockets.clients client).thread ≠ .running program) ∧
        ∀ later final, Run (Steps next) after later final → SameWork after final := by
  have executed : (execute next (begin fun _ => false) (stopsInTurn ++ endsTurn)).map (fun before =>
      (before.serverThread, (next before .join).map fun after => after.sockets.accepted)) =
        some (.thread, some 1) := by
    rfl
  obtain ⟨before, ran, observed⟩ := Option.map_eq_some_iff.mp executed
  obtain ⟨started, returns⟩ := Prod.mk.inj observed
  obtain ⟨after, joined, accepted⟩ := Option.map_eq_some_iff.mp returns
  have run := run_of_execute ran
  exact ⟨before, after, run, started, joined, accepted, join_returns_last run started joined⟩

theorem stop_winds_down_endsTurn :
    ∃ middle final : Lifecycle,
      Run (Steps next) (begin fun _ => false) stopsInTurn middle ∧
        middle.sockets.bStop = true ∧ Run (Steps next) middle endsTurn final ∧
        middle.served 0 = [] ∧ final.served 0 = [255] ∧
        final.sockets.accepted ≤ middle.sockets.accepted + 1 ∧
        ∀ client, ∃ commands, final.served client = middle.served client ++ commands ∧
          commands.length ≤ 1 ∧
          ((middle.sockets.clients client).thread.Finishing → commands = []) ∧
          (middle.sockets.accepted ≤ client → commands = []) := by
  have executed : (execute next (begin fun _ => false) stopsInTurn).map (fun middle =>
      (middle.sockets.bStop, middle.served 0,
        (execute next middle endsTurn).map fun final => final.served 0)) =
          some (true, [], some [255]) := by
    rfl
  obtain ⟨middle, ran, observed⟩ := Option.map_eq_some_iff.mp executed
  obtain ⟨stopped, more⟩ := Prod.mk.inj observed
  obtain ⟨before, ends⟩ := Prod.mk.inj more
  obtain ⟨final, rest, after⟩ := Option.map_eq_some_iff.mp ends
  have run := run_of_execute ran
  have later := run_of_execute rest
  exact ⟨middle, final, run, stopped, later, before, after, stop_winds_down run stopped later⟩

end Samples

end Lifecycle

end CeServer.Server
