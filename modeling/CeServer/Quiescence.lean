import CeServer.Library.Schedules
import CeServer.Lifecycle

/-!
After `stop` the server comes to rest: no schedule of its threads goes on for
ever, and where one is stuck a thread waits for a peer or for `Memory`.
-/

namespace CeServer

/-- The calls that return when the peer or the threads of `Memory` have done their part. -/
def Op.waits : Op → Bool
  | memoryRead .. | memoryWrite .. => true
  | op => op.awaitsPeer

namespace Server

open Interaction Transition

/-- The steps of the server's own threads, whose calls from outside return. -/
def LifecycleEvent.own : LifecycleEvent → Bool
  | .start _ | .stop | .join => false
  | .sockets event => !event.foreign
  | .joinClient | .exit => true

namespace ServerThread

/-- The steps of the accept loop to its end once the server is stopped. -/
def remaining : ServerThread → Nat
  | accepting => 6
  | configuring _ => 5
  | closing _ => 4
  | iterated _ => 3
  | releasing _ => 2
  | testing => 1
  | joining => 0

end ServerThread

namespace ClientThread

open Classical in
/-- How far a thread is from its end once the server is stopped, and the program
it has to finish before it gets there. -/
noncomputable def rank : ClientThread → Nat × Handler Turn
  | unstarted | ended => (0, .ret .stopped)
  | releasing => (1, .ret .stopped)
  | running program =>
      (if program = .ret .stopped then 2 else if program = turn then 3 else 4, program)

def Lower : Nat × Handler Turn → Nat × Handler Turn → Prop := Prod.Lex (· < ·) Program.Below

theorem lower_wellFounded : WellFounded Lower :=
  WellFounded.prod_lex Nat.lt_wfRel.wf Program.below_wellFounded

theorem rank_ret {last : Turn} (busy : last ≠ .stopped) :
    (rank (running (.ret last))).1 = 4 := by
  have apart : (.ret last : Handler Turn) ≠ .ret .stopped := fun same => busy (Program.ret.inj same)
  have other : (.ret last : Handler Turn) ≠ turn := nofun
  simp [rank, apart, other]

theorem rank_turn : rank (running turn) = (3, turn) := by
  have apart : turn ≠ .ret .stopped := nofun
  simp [rank, apart]

theorem rank_call {op : Op} {rest : op.Response → Handler Turn} (busy : .call op rest ≠ turn) :
    rank (running (.call op rest)) = (4, .call op rest) := by
  have apart : (.call op rest : Handler Turn) ≠ .ret .stopped := nofun
  simp [rank, apart, busy]

theorem lower_answer {op : Op} {rest : op.Response → Handler Turn} (busy : .call op rest ≠ turn)
    (response : op.Response) :
    Lower (rank (running (rest response))) (rank (running (.call op rest))) := by
  rw [rank_call busy]
  simp only [rank]
  split
  · exact .left _ _ (by decide)
  · split
    · exact .left _ _ (by decide)
    · exact .right _ (.answer response)

end ClientThread

namespace Sockets

open ClientThread

variable {before after : Sockets} {event : SocketEvent}

/-- Once stopped, a step moves the accept loop on, or one thread of a connection. -/
inductive Settles (before : Sockets) (event : SocketEvent) (after : Sockets) : Prop
  | foreign (is : event.foreign = true) (server : after.serverThread = before.serverThread)
      (clients : after.clients = before.clients)
  | server (sooner : after.serverThread.remaining < before.serverThread.remaining)
  | client (client : Nat) (bound : client < before.accepted)
      (server : after.serverThread = before.serverThread)
      (lower : Lower (rank (after.clients client).thread) (rank (before.clients client).thread))
      (others : ∀ other, other ≠ client →
        (after.clients other).thread = (before.clients other).thread)
      (nothing : Lifecycle.created before event = [])

theorem settles_of_next (consistent : ∀ client, before.Consistent client)
    (stopped : before.bStop = true) (stays : event ≠ .stop)
    (taken : Steps Sockets.next before event after) : Settles before event after := by
  cases move_of_next taken with
  | stop => exact absurd rfl stays
  | openOther | closeOther => exact .foreign rfl rfl rfl
  | testStop testing =>
      refine .server ?_
      rw [testing, if_pos stopped]
      simp [ServerThread.remaining]
  | acceptFailed works | accept works | configured works | unconfigured works
    | closeUnconfigured works | destroyAccepted works =>
      refine .server ?_
      rw [works]
      simp [ServerThread.remaining]
  | @endIteration client works =>
      refine .server ?_
      rw [works]
      dsimp only
      split <;> simp [ServerThread.remaining]
  | @closeHandled client outside rest running =>
      refine .client client ((consistent client).bound (by simp [running])) rfl ?_
        (fun other apart => ?_) rfl
      · have busy : (.call .close rest : Handler Turn) ≠ turn := nofun
        rw [setThread_thread, if_pos rfl, running]
        exact lower_answer busy ()
      · rw [setThread_thread, if_neg apart, close_thread]
  | @respond client outside op rest response running kept =>
      refine .client client ((consistent client).bound (by simp [running])) rfl ?_
        (fun other apart => (setThread_thread _ _ _ _).trans (if_neg apart)) rfl
      by_cases fresh : .call op rest = turn
      · rw [fresh] at running
        rw [turn_stopped stopped running taken, running, rank_turn]
        exact .left _ _ (by simp)
      · rw [setThread_thread, if_pos rfl, running]
        exact lower_answer fresh response
  | @nextTurn client last running continues =>
      refine .client client ((consistent client).bound (by simp [running])) rfl ?_
        (fun other apart => (setThread_thread _ _ _ _).trans (if_neg apart)) rfl
      have busy : last ≠ .stopped := by
        rintro rfl
        cases continues
      rw [setThread_thread, if_pos rfl, running, rank_turn]
      refine Prod.lex_def.mpr (Or.inl ?_)
      rw [rank_ret busy]
      decide
  | @endHandler client last running returns =>
      refine .client client ((consistent client).bound (by simp [running])) rfl ?_
        (fun other apart => (setThread_thread _ _ _ _).trans (if_neg apart)) rfl
      have left :
          (rank (if before.serverThread.refers client then .ended else .releasing)).1 ≤ 1 := by
        split <;> simp [rank]
      have more : 2 ≤ (rank (.running (.ret last))).1 := by
        by_cases busy : last = .stopped
        · simp [busy, rank]
        · rw [rank_ret busy]
          decide
      rw [setThread_thread, if_pos rfl, running]
      exact Prod.lex_def.mpr (Or.inl (by omega))
  | @destroyHandled client releasing =>
      refine .client client ((consistent client).bound (by simp [releasing]))
        (destroy_serverThread _ _) ?_ (fun other apart => ?_) rfl
      · rw [setThread_thread, if_pos rfl, releasing]
        exact .left _ _ (by decide)
      · rw [setThread_thread, if_neg apart, destroy_thread]

end Sockets

namespace Lifecycle

open ClientThread

variable {before after : Lifecycle} {event : LifecycleEvent} {count : Nat}

/-- What is left to do for the accept loop, for the loop that joins, and for the
threads of the first connections. -/
noncomputable def weight (count : Nat) (lifecycle : Lifecycle) :
    (Nat × Nat) × (Fin count → Nat × Handler Turn) :=
  ((lifecycle.sockets.serverThread.remaining,
      lifecycle.clientThreads.length - lifecycle.joined + if lifecycle.exited then 0 else 1),
    fun client => (lifecycle.sockets.clients client).thread.rank)

def Lighter : (Nat × Nat) × (Fin count → Nat × Handler Turn) →
    (Nat × Nat) × (Fin count → Nat × Handler Turn) → Prop :=
  Prod.Lex (Prod.Lex (· < ·) (· < ·)) (OneBelow Lower)

theorem lighter_wellFounded (count : Nat) : WellFounded (@Lighter count) :=
  (Nat.lt_wfRel.wf.prod_lex Nat.lt_wfRel.wf).prod_lex (oneBelow_wellFounded lower_wellFounded)

theorem Sound.lighter (sound : before.Sound) (stopped : before.sockets.bStop = true)
    (bound : before.sockets.accepted ≤ count) (stepped : Steps next before event after)
    (own : event.own = true) : Lighter (weight count after) (weight count before) := by
  cases move_of_next stepped with
  | start | startRefused | stop | joinNothing | join => cases own
  | @sockets event sockets runs stays taken =>
      rcases Sockets.settles_of_next sound.consistent stopped stays taken with
        ⟨is, -, -⟩ | sooner | ⟨client, accepted, server, lower, others, nothing⟩
      · simp [LifecycleEvent.own, is] at own
      · exact .left _ _ (.left _ _ sooner)
      · have same : (weight count { before with
            sockets
            clientThreads := before.clientThreads ++ created before.sockets event
            served := fun client =>
              before.served client ++ servedBy before.sockets client event }).1 =
            (weight count before).1 := by
          simp [weight, server, nothing]
        refine Prod.lex_def.mpr (Or.inr ⟨same, ⟨client, accepted.trans_le bound⟩, lower, ?_⟩)
        intro other apart
        refine congrArg ClientThread.rank (others other fun equal => apart ?_)
        exact Fin.ext equal
  | @joinClient client joining listed ended =>
      have below : before.joined < before.clientThreads.length :=
        (List.getElem?_eq_some_iff.mp listed).1
      refine .left _ _ (.right _ ?_)
      dsimp only
      omega
  | exit joining all live =>
      refine .left _ _ (.right _ ?_)
      simp [live]

theorem weight_step (stepped : Steps next before event after) (own : event.own = false) :
    weight count after = weight count before := by
  cases move_of_next stepped with
  | start | startRefused | stop | joinNothing | join => rfl
  | @sockets event sockets runs stays taken =>
      cases Sockets.move_of_next taken with
      | stop => exact absurd rfl stays
      | openOther | closeOther => simp [weight, created]
      | _ => cases own
  | joinClient | exit => cases own

/-- A handler has allocated an array of negative size; the exception leaves its thread. -/
def Threw (lifecycle : Lifecycle) : Prop :=
  ∃ client size rest, size < 0 ∧
    (lifecycle.sockets.clients client).thread = .running (.call (.newCharArray size) rest)

/-- The thread that everything else waits for is in a call that does not return by itself. -/
inductive Waits (lifecycle : Lifecycle) : Prop
  | accept (accepting : lifecycle.sockets.serverThread = .accepting)
  | call {client : Nat} {op : Op} {rest : op.Response → Handler Turn}
      (joining : lifecycle.sockets.serverThread = .joining)
      (following : lifecycle.clientThreads[lifecycle.joined]? = some client)
      (running : (lifecycle.sockets.clients client).thread = .running (.call op rest))
      (waits : op.waits = true)

/-- A step of the server's own threads that is no return from such a call. -/
def Unaided (lifecycle : Lifecycle) : LifecycleEvent → Bool
  | .sockets (.accept _) => false
  | .sockets (.call client _) =>
      match (lifecycle.sockets.clients client).thread with
      | .running (.call op _) => !op.waits
      | _ => true
  | event => event.own

/-- A step of the server's own threads is possible, and needs nobody else unless
the thread that has to go on waits. -/
def Advances (lifecycle : Lifecycle) : Prop :=
  ∃ event, event.own = true ∧ (next lifecycle event).isSome ∧
    (lifecycle.Unaided event = true ∨ lifecycle.Waits)

theorem enabled {event : SocketEvent} (started : before.serverThread ≠ .null)
    (stays : event ≠ .stop) (possible : (before.sockets.next event).isSome) :
    (next before (.sockets event)).isSome := by
  cases event with
  | stop => exact absurd rfl stays
  | _ => simpa [next, started] using possible

theorem client_advances (started : before.serverThread ≠ .null) (unthrown : ¬before.Threw)
    (joining : before.sockets.serverThread = .joining) {client : Nat}
    (following : before.clientThreads[before.joined]? = some client)
    (begun : (before.sockets.clients client).thread ≠ .unstarted)
    (live : (before.sockets.clients client).thread ≠ .ended) : before.Advances := by
  cases thread : (before.sockets.clients client).thread with
  | unstarted => exact absurd thread begun
  | ended => exact absurd thread live
  | releasing =>
      refine ⟨.sockets (.destroyHandled client), rfl, enabled started (by simp) ?_, Or.inl rfl⟩
      simp [Sockets.next, thread]
  | running program =>
      cases program with
      | ret last =>
          refine ⟨.sockets (.endTurn client), rfl, enabled started (by simp) ?_, Or.inl rfl⟩
          simp [Sockets.next, thread]
      | call op rest =>
          have answers : ∃ answered,
              before.sockets.answer client Sockets.receivesNothing op = some answered := by
            cases op with
            | newCharArray size =>
                have enough : ¬size < 0 := fun less => unthrown ⟨client, size, rest, less, thread⟩
                exact ⟨_, if_neg enough⟩
            | _ => exact ⟨_, rfl⟩
          obtain ⟨answered, given⟩ := answers
          refine ⟨.sockets (.call client Sockets.receivesNothing), rfl,
            enabled started (by simp) ?_, ?_⟩
          · simp [Sockets.next, thread, given]
          · by_cases waits : op.waits = true
            · exact Or.inr (.call joining following thread waits)
            · left
              simpa [Unaided, thread] using waits

theorem Sound.advances (sound : before.Sound) (started : before.serverThread ≠ .null)
    (live : before.exited = false) (unthrown : ¬before.Threw) : before.Advances := by
  cases server : before.sockets.serverThread with
  | testing =>
      refine ⟨.sockets .testStop, rfl, enabled started (by simp) ?_, Or.inl rfl⟩
      simp [Sockets.next, server]
  | accepting =>
      refine ⟨.sockets (.accept (-1)), rfl, enabled started (by simp) ?_, Or.inr (.accept server)⟩
      simp [Sockets.next, server]
  | configuring client =>
      refine ⟨.sockets (.setsockopt false), rfl, enabled started (by simp) ?_, Or.inl rfl⟩
      simp [Sockets.next, server]
  | closing client =>
      refine ⟨.sockets .closeUnconfigured, rfl, enabled started (by simp) ?_, Or.inl rfl⟩
      simp [Sockets.next, server]
  | iterated client =>
      refine ⟨.sockets .endIteration, rfl, enabled started (by simp) ?_, Or.inl rfl⟩
      simp [Sockets.next, server]
  | releasing client =>
      refine ⟨.sockets .destroyAccepted, rfl, enabled started (by simp) ?_, Or.inl rfl⟩
      simp [Sockets.next, server]
  | joining =>
      by_cases all : before.joined = before.clientThreads.length
      · exact ⟨.exit, rfl, by simp [next, server, all, live], Or.inl rfl⟩
      · have below : before.joined < before.clientThreads.length := by
          have within := sound.within
          omega
        have listed := List.getElem?_eq_getElem below
        have begun := sound.started _ (List.getElem_mem below)
        by_cases ended :
            (before.sockets.clients before.clientThreads[before.joined]).thread = .ended
        · exact ⟨.joinClient, rfl, by simp [next, server, listed, ended], Or.inl rfl⟩
        · exact client_advances started unthrown server listed begun ended

theorem serverThread_step (stepped : Steps next before event after)
    (started : before.serverThread ≠ .null) : after.serverThread ≠ .null := by
  cases move_of_next stepped with
  | start | join => simp
  | _ => exact started

/-- Once the server is stopped, its threads take only finitely many steps in any
schedule. Until the server thread has ended they can go on, unless a handler has
thrown or the thread that has to go on waits for a peer or for `Memory`; where
these waits end it ends, and `join` can return. -/
theorem stop_quiesces {inUse : Nat → Bool} {events : List LifecycleEvent}
    {states : Nat → Lifecycle} {schedule : Nat → LifecycleEvent}
    (run : Run (Steps next) (begin inUse) events (states 0))
    (stopped : (states 0).sockets.bStop = true) (started : (states 0).serverThread ≠ .null)
    (follows : ∀ n, Steps next (states n) (schedule n) (states (n + 1))) :
    (∃ n, ∀ later, n ≤ later → (schedule later).own = false) ∧
      (∀ n, (states n).exited = false → ¬(states n).Threw → (states n).Advances) ∧
      ((∀ n, (states n).Advances → ∃ later, n ≤ later ∧ (schedule later).own = true) →
        ∃ n, (states n).exited = true ∨ (states n).Threw) := by
  have reached (n : Nat) : (states n).Sound ∧ WindsDown (states 0) (states n) ∧
      (states n).serverThread ≠ .null := by
    induction n with
    | zero =>
        exact ⟨sound_of_run run, ⟨stopped, Nat.le_refl _, fun client =>
          ⟨[], by simp, Or.inl ⟨rfl, id⟩⟩⟩, started⟩
    | succ n ih =>
        exact ⟨ih.1.step (follows n), ih.2.1.step (follows n),
          serverThread_step (follows n) ih.2.2⟩
  let count := (states 0).sockets.accepted + Sockets.acceptsLeft (states 0).sockets.serverThread
  obtain ⟨n, quiet⟩ := eventually_quiet (lighter_wellFounded count)
    (fun n => (schedule n).own = true) (fun n => weight count (states n))
    (fun n own => (reached n).1.lighter (reached n).2.1.stopped
      (Nat.le_trans (Nat.le_add_right _ _) (reached n).2.1.accepts) (follows n) own)
    (fun n rests => weight_step (follows n) (Bool.eq_false_iff.mpr rests))
  have advances (n : Nat) (live : (states n).exited = false) (unthrown : ¬(states n).Threw) :
      (states n).Advances := (reached n).1.advances (reached n).2.2 live unthrown
  refine ⟨⟨n, fun later order => Bool.eq_false_iff.mpr (quiet later order)⟩, advances,
    fun fair => ⟨n, ?_⟩⟩
  by_contra unfinished
  obtain ⟨live, unthrown⟩ := not_or.mp unfinished
  obtain ⟨later, order, own⟩ := fair n (advances n (Bool.eq_false_iff.mpr live) unthrown)
  exact quiet later order own

section Samples

/-- The server is stopped while it accepts and a connection waits for its command. -/
noncomputable def stopsInAccept : List LifecycleEvent :=
  [.start true, .sockets .testStop, .sockets (.accept 5), .sockets (.setsockopt true),
    .sockets .endIteration, .sockets (.call 0 receivesByte), .sockets .testStop, .stop]

/-- One more peer connects, then the first sends its command. -/
noncomputable def windingDown : List LifecycleEvent :=
  [.sockets (.accept 6), .sockets (.setsockopt true), .sockets .endIteration, .sockets .testStop,
    .sockets (.call 0 receivesByte), .sockets (.call 0 receivesByte), .sockets (.endTurn 0),
    .sockets (.destroyHandled 0), .joinClient, .sockets (.call 1 receivesByte),
    .sockets (.endTurn 1), .sockets (.destroyHandled 1), .joinClient, .exit]

noncomputable def winding : Nat → LifecycleEvent := prolonged windingDown .stop

noncomputable def windingStates : Nat → Lifecycle :=
  statesFrom next ((execute next (begin fun _ => false) stopsInAccept).getD (begin fun _ => false))
    winding

theorem stop_quiesces_windingDown :
    Run (Steps next) (begin fun _ => false) stopsInAccept (windingStates 0) ∧
      (windingStates 0).sockets.bStop = true ∧ (windingStates 0).serverThread ≠ .null ∧
      (∀ n, Steps next (windingStates n) (winding n) (windingStates (n + 1))) ∧
      (windingStates 0).Waits ∧ (windingStates 4).Waits ∧ (windingStates 14).exited = true ∧
      (∃ n, ∀ later, n ≤ later → (winding later).own = false) ∧
      (∀ n, (windingStates n).exited = false → ¬(windingStates n).Threw →
        (windingStates n).Advances) ∧
      ((∀ n, (windingStates n).Advances → ∃ later, n ≤ later ∧ (winding later).own = true) →
        ∃ n, (windingStates n).exited = true ∨ (windingStates n).Threw) := by
  have run : Run (Steps next) (begin fun _ => false) stopsInAccept (windingStates 0) :=
    run_of_execute rfl
  have executed :
      (execute next (windingStates 0) windingDown).map Lifecycle.exited = some true := by
    rfl
  obtain ⟨final, ends, exited⟩ := Option.map_eq_some_iff.mp executed
  have stops (state : Lifecycle) (quiet : state.exited = true) :
      ∃ after, next state .stop = some after ∧ after.exited = true :=
    ⟨{ state with sockets := { state.sockets with bStop := true } }, rfl, quiet⟩
  have follows (n : Nat) : Steps next (windingStates n) (winding n) (windingStates (n + 1)) :=
    steps_statesFrom (fun state : Lifecycle => state.exited = true) ends exited stops n
  have started : (windingStates 0).serverThread ≠ .null := by
    change ThreadPointer.thread ≠ .null
    decide
  have accepting : (windingStates 0).Waits := .accept rfl
  have receiving : (windingStates 4).Waits :=
    @Waits.call (windingStates 4) 0 (.recv 1) _ rfl rfl rfl rfl
  exact ⟨run, rfl, started, follows, accepting, receiving, rfl,
    stop_quiesces run rfl started follows⟩

end Samples

end Lifecycle

end Server

end CeServer
