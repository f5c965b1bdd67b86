import CeServer.CommandRuns
import CeServer.Queries

/-!
Runs of whole commands over the DMA library. They refine the runs over what its
queries return, as far as the library answers.
-/

namespace CeServer

open LittleEndian Interaction Transition

variable {Outside : Type} {Connection : Type} {Value : Type}

def Shared.serveOver (env : Environment Outside) (library : VmmLibrary Outside) (code : UInt8)
    (received : List UInt8) (shared : Shared Outside) :
    Outcome LibraryOp LibraryOp.Response (World Outside) Bool :=
  ((Client.dispatchCommand code).implement Memory.queries).run (libraryAnswer env library)
    (shared.world received)

/-- The handler gets to its end: it neither throws nor accesses what is not there. -/
def Shared.Serves (env : Environment Outside) (library : VmmLibrary Outside) (code : UInt8)
    (received : List UInt8) (shared : Shared Outside) : Prop :=
  (shared.serveOver env library code received).value.isSome

structure LibraryStep (env : Environment Outside) (library : VmmLibrary Outside)
    (before : Shared Outside) (event : CommandEvent Connection) (after : Shared Outside) :
    Prop where
  serves : before.Serves env library event.code event.received
  calls : event.calls = serverCalls (before.serveOver env library event.code event.received).trace
  state : after.state = (before.serveOver env library event.code event.received).world.state
  outside : after.outside = (before.serveOver env library event.code event.received).world.outside

theorem exists_libraryStep {env : Environment Outside} {library : VmmLibrary Outside}
    {code : UInt8} {received : List UInt8} {shared : Shared Outside}
    (serves : shared.Serves env library code received) (connection : Connection) :
    ∃ event after, LibraryStep env library shared event after ∧
      event.connection = connection ∧ event.code = code ∧ event.received = received :=
  ⟨⟨connection, code, received, serverCalls (shared.serveOver env library code received).trace⟩,
    ⟨_, _⟩, ⟨serves, rfl, rfl, rfl⟩, rfl, rfl, rfl⟩

namespace CommandEvent

/-- The command without its queries. -/
def own (event : CommandEvent Connection) : CommandEvent Connection :=
  { event with calls := event.calls.flatMap ownCall }

variable (event : CommandEvent Connection)

@[simp] theorem own_reply : event.own.reply = event.reply := by
  simp only [reply, own, sent, List.flatMap_assoc]
  refine List.flatMap_congr fun call _ => ?_
  obtain ⟨op, response⟩ := call
  cases op <;> first | rfl | exact List.append_nil _

@[simp] theorem own_issued : event.own.issued = event.issued := by
  simp only [issued, own, CeServer.issued]
  induction event.calls with
  | nil => rfl
  | cons call rest ih =>
      rw [List.flatMap_cons, List.filterMap_append, ih, List.filterMap_cons]
      obtain ⟨op, response⟩ := call
      cases op with
      | state op => cases op <;> rfl
      | _ => rfl

@[simp] theorem own_touches (handle : CE_HANDLE) :
    event.own.touches handle = event.touches handle := by
  rw [touches, own_issued]
  rfl

end CommandEvent

section Refinement

variable {env : Environment Outside} {library : VmmLibrary Outside}
  {before after : Shared Outside}

theorem LibraryStep.refines {event : CommandEvent Connection}
    (step : LibraryStep env library before event after) :
    ∃ above, CommandStep (env.over library) before above after ∧ above.own = event := by
  obtain ⟨value, returned⟩ := Option.isSome_iff_exists.mp step.serves
  obtain ⟨_, left, calls⟩ := run_overLibrary returned
  refine ⟨⟨event.connection, event.code, event.received,
    (before.serve (env.over library) event.code event.received).trace⟩, ⟨rfl, ?_, ?_⟩, ?_⟩
  · exact step.state.trans (congrArg World.state left).symm
  · exact step.outside.trans (congrArg World.outside left).symm
  · have same := (step.calls.trans calls).symm
    obtain ⟨connection, code, received, served⟩ := event
    exact congrArg (CommandEvent.mk connection code received) same

theorem refines_run {events : List (CommandEvent Connection)}
    (run : Run (LibraryStep env library) before events after) :
    ∃ above, Run (CommandStep (env.over library)) before above after ∧
      above.map CommandEvent.own = events := by
  induction run with
  | nil => exact ⟨[], Run.nil, rfl⟩
  | snoc _ step ih =>
      obtain ⟨earlier, run, others⟩ := ih
      obtain ⟨last, above, same⟩ := step.refines
      exact ⟨earlier ++ [last], Run.snoc run above, by
        rw [List.map_append, others, List.map_singleton, same]⟩

end Refinement

section Served

variable {env : Environment Outside} {library : VmmLibrary Outside}

/-- The calls that ask the library nothing and do not throw. -/
def Op.Unqueried : Op → Prop
  | .getProcessSnapshot | .getModuleSnapshot _ | .getThreadSnapshot _ | .getMemoryModel _ => False
  | op => op.Returns

theorem implemented_isSome (env : Environment Outside) (library : VmmLibrary Outside) (op : Op)
    (unqueried : op.Unqueried) (world : World Outside) :
    (Program.implemented Memory.queries (libraryAnswer env library) op world).isSome := by
  have forwards : Memory.queries op = .call (.server op) .ret ∧ op.Returns := by
    cases op with
    | getProcessSnapshot | getModuleSnapshot | getThreadSnapshot | getMemoryModel =>
        exact unqueried.elim
    | _ => exact ⟨rfl, unqueried⟩
  rw [implemented_of_forwards forwards.1]
  exact answer_returns env forwards.2 world

theorem serves_iff {code : UInt8} {received : List UInt8} {shared : Shared Outside} :
    shared.Serves env library code received ↔
      ((Client.dispatchCommand code).run
        (Program.implemented Memory.queries (libraryAnswer env library))
        (shared.world received)).value.isSome := by
  rw [Shared.Serves, Shared.serveOver,
    (Program.run_implement Memory.queries (libraryAnswer env library) _ _).1]

theorem implementedRead_value (T : Type) [Word T] (rest : T → Handler Value)
    (world : World Outside) :
    ((read T >>= rest).run (Program.implemented Memory.queries (libraryAnswer env library))
        world).value =
      ((rest (receivedField T 0 world.input)).run
        (Program.implemented Memory.queries (libraryAnswer env library))
        { world with input := world.input.drop (Word.width T) }).value := by
  simp only [read, invoke, Program.call_bind, Program.ret_bind, Program.pure_eq]
  rw [Program.run_call_of_answer (LinuxSocketWrapper.recv (Word.width T) world).1
    (LinuxSocketWrapper.recv (Word.width T) world).2 (implemented_of_forwards rfl world)]
  rfl

theorem implementedSnapshot_isSome {Result : Type} (processID : Int32)
    (rest : List MemoryRegion → Handler Result)
    (unqueried : ∀ regions, (rest regions).Uses Op.Unqueried) (world : World Outside) :
    ((invoke (.getModuleSnapshot processID) >>= rest).run
        (Program.implemented Memory.queries (libraryAnswer env library)) world).value.isSome ↔
      ((Vmm.getModuleSnapshot processID).run library world.outside).value.isSome := by
  have lifted := (run_lift env library (Vmm.getModuleSnapshot processID) world).1
  rw [invoke, Program.call_bind, Program.run_call, Program.implemented, Memory.queries, lifted]
  cases ((Vmm.getModuleSnapshot processID).run library world.outside).value with
  | none => rfl
  | some regions =>
      obtain ⟨result, returned⟩ := (unqueried regions).returns (implemented_isSome env library)
        ((Vmm.getModuleSnapshot processID).lift.run (libraryAnswer env library) world).world
      simp only [Option.map_some, Program.ret_bind, Outcome.after_value]
      rw [returned]
      rfl

theorem serves_of_unqueried {command : Command}
    (unqueried : (Client.handle command).Uses Op.Unqueried) (received : List UInt8)
    (shared : Shared Outside) : shared.Serves env library command.code received := by
  obtain ⟨keepSocketOpen, returned⟩ := unqueried.returns (implemented_isSome env library)
    (shared.world received)
  rw [serves_iff, Client.dispatchCommand_code, returned]
  rfl

/-- Commands that ask the library nothing are served one after the other. -/
theorem exists_libraryRun (env : Environment Outside) (library : VmmLibrary Outside)
    (connection : Connection) (before : Shared Outside) (commands : List (Command × List UInt8))
    (unqueried : ∀ served ∈ commands, (Client.handle served.1).Uses Op.Unqueried) :
    ∃ (events : List (CommandEvent Connection)) (after : Shared Outside),
      Run (LibraryStep env library) before events after ∧
        events.map (fun event => (event.code, event.received)) =
          commands.map fun served => (served.1.code, served.2) := by
  induction commands generalizing before with
  | nil => exact ⟨[], before, Run.nil, rfl⟩
  | cons command rest ih =>
      obtain ⟨event, middle, step, _, code, received⟩ := exists_libraryStep
        (serves_of_unqueried (unqueried command List.mem_cons_self) command.2 before) connection
      obtain ⟨events, after, run, served⟩ := ih middle fun later member =>
        unqueried later (List.mem_cons_of_mem command member)
      refine ⟨event :: events, after, Run.cons step run, ?_⟩
      rw [List.map_cons, List.map_cons, served, code, received]

end Served

end CeServer
