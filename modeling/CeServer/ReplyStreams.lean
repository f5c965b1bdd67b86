import CeServer.PartialSends
import CeServer.RequestStreams
import CeServer.WriteOrigins
import Mathlib.Data.List.TakeWhile

/-!
What the client of a connection gets while other connections change the shared
tables: the replies to its requests, one after the other, each ending where the
request says.
-/

namespace CeServer

open LittleEndian Interaction Program Transition Formats Memory

/-- A stored snapshot can be told entry by entry. -/
def Op.StoresFitting : Op → Prop
  | .state (.storeProcessSnapshot snapshot _) => ∀ procInfo ∈ snapshot, procInfo.Fits
  | .state (.storeModuleSnapshot snapshot _) => ∀ region ∈ snapshot, region.Fits
  | _ => True

section Stores

open Client

theorem storesFitting_of_given {op : Op} (given : op.Given Op.Fits) : op.StoresFitting := by
  cases op with
  | state op =>
      cases op with
      | storeProcessSnapshot snapshot handle => exact given
      | storeModuleSnapshot snapshot handle =>
          obtain ⟨processID, fits⟩ := given
          exact fits.2
      | _ => trivial
  | _ => trivial

/-- A handler stores only snapshots that it was given. -/
theorem handle_storesFitting (command : Command) :
    (handle command).UsesGiven Op.Fits Op.StoresFitting := by
  have covers : CoversAll ⟨Op.Fits, Op.StoresFitting, fun _ => False⟩ command := by
    refine ⟨⟨fun _ => False.elim, fun op _ given => storesFitting_of_given given⟩,
      fun _ => trivial, fun _ _ => trivial, fun _ op polls => ?_⟩
    cases op with
    | state op => cases op <;> trivial
    | _ => trivial
  exact (handle_stays covers).given

theorem dispatchCommand_storesFitting (code : UInt8) :
    (dispatchCommand code).UsesGiven Op.Fits Op.StoresFitting := by
  unfold dispatchCommand
  split
  · exact handle_storesFitting _
  · exact trivial

end Stores

/-- All entries of the stored snapshots can be told. -/
structure ClientState.Fits (state : ClientState) : Prop where
  processes : ∀ handle snapshot, state.handlesToProcessInfoSnapshots.lookup handle = some snapshot →
    ∀ procInfo ∈ snapshot, procInfo.Fits
  modules : ∀ handle snapshot, state.handlesToModuleSnapshots.lookup handle = some snapshot →
    ∀ region ∈ snapshot, region.Fits

section Answers

variable {state later : ClientState} {first : FirstEntry}

/-- A table keeps its entries but for what is inserted. -/
theorem insertNew_fits {Entry : Type} {fits : Entry → Prop} {table : Table (List Entry)}
    {handle : CE_HANDLE} {new : List Entry}
    (held : ∀ other snapshot, table.lookup other = some snapshot → ∀ entry ∈ snapshot, fits entry)
    (added : ∀ entry ∈ new, fits entry) (other : CE_HANDLE) (snapshot : List Entry)
    (found : (table.insertNew handle new).lookup other = some snapshot) :
    ∀ entry ∈ snapshot, fits entry := by
  rw [Table.lookup_insertNew] at found
  split at found
  · cases old : table.lookup handle with
    | none =>
        rw [old] at found
        obtain rfl := Option.some.inj found
        exact added
    | some present =>
        rw [old] at found
        obtain rfl := Option.some.inj found
        exact held handle present old
  · exact held other snapshot found

theorem erase_fits {Entry : Type} {fits : Entry → Prop} {table : Table (List Entry)}
    {handle : CE_HANDLE}
    (held : ∀ other snapshot, table.lookup other = some snapshot → ∀ entry ∈ snapshot, fits entry)
    (other : CE_HANDLE) (snapshot : List Entry)
    (found : (Finmap.erase handle table).lookup other = some snapshot) :
    ∀ entry ∈ snapshot, fits entry := by
  rw [Table.lookup_erase] at found
  split at found
  · cases found
  · exact held other snapshot found

theorem ClientState.Fits.apply (fits : state.Fits) {op : StateOp}
    (stores : (Op.state op).StoresFitting) : (op.apply first state).2.Fits := by
  cases op with
  | storeProcessSnapshot snapshot handle =>
      exact ⟨insertNew_fits fits.processes stores, fits.modules⟩
  | storeModuleSnapshot snapshot handle =>
      exact ⟨fits.processes, insertNew_fits fits.modules stores⟩
  | closeHandle handle => exact ⟨erase_fits fits.processes, erase_fits fits.modules⟩
  | _ => exact ⟨fits.processes, fits.modules⟩

/-- An entry of a snapshot that is still stored, or what the freed memory held. -/
theorem fits_of_entry {Entry : Type} {fits : Entry → Prop} {table : Table (List Entry)}
    {handle : CE_HANDLE} {index : Nat} {outside : Entry}
    (held : ∀ other snapshot, table.lookup other = some snapshot → ∀ entry ∈ snapshot, fits entry)
    (freed : fits outside) :
    fits ((((table.lookup handle).getD [])[index]?).getD outside) := by
  cases found : ((table.lookup handle).getD [])[index]? with
  | none => exact freed
  | some entry =>
      cases stored : table.lookup handle with
      | none => simp [stored] at found
      | some snapshot =>
          rw [stored] at found
          exact held handle snapshot stored entry (List.mem_of_getElem? found)

/-- The shared state answers fittingly if what lies outside does. -/
theorem answer_fits (fits : state.Fits) {outside : (op : Op) → op.Response} {op : Op}
    {response : op.Response}
    (answered : Serving.answer first outside state op = some (response, later))
    (given : op.Fits (outside op)) (stores : op.StoresFitting) :
    op.Fits response ∧ later.Fits := by
  cases op with
  | state op =>
      have kept : (op.apply first state).2.Fits := fits.apply stores
      rw [Option.some.inj answered] at kept
      exact ⟨trivial, kept⟩
  | newCharArray size =>
      simp only [Serving.answer] at answered
      split at answered
      · cases answered
      · cases answered
        exact ⟨given, fits⟩
  | readProcessInfo entry =>
      cases answered
      exact ⟨fits_of_entry fits.processes given, fits⟩
  | readMemoryRegion entry =>
      cases answered
      exact ⟨fits_of_entry fits.modules given, fits⟩
  | _ =>
      cases answered
      exact ⟨given, fits⟩

end Answers

namespace Assembly

variable {Connection Device Scatter : Type} {dma : Dma Device Scatter} [DecidableEq Connection]

/-- What lies outside the handlers fits. -/
def Fitting (assembly : Assembly Connection Device Scatter) :
    AssemblyEvent Connection Device → Prop
  | .respond connection _ outside =>
      ∀ op, assembly.serving.pending connection = some op → op.Fits (outside op)
  | _ => True

structure Fitted (assembly : Assembly Connection Device Scatter) : Prop where
  state : assembly.serving.state.Fits
  running : ∀ connection program, assembly.serving.running connection = some program →
    program.UsesGiven Op.Fits Op.StoresFitting
  calls : ∀ connection, AllFit (record assembly connection)

section Steps

variable {before after : Assembly Connection Device Scatter}
  {event : AssemblyEvent Connection Device} {connection : Connection}

theorem fitted_start (device : Device) :
    Fitted (start device : Assembly Connection Device Scatter) where
  state := ⟨fun _ _ found => (by cases found), fun _ _ found => (by cases found)⟩
  running := fun _ _ runs => (by cases runs)
  calls := fun _ _ member => absurd member List.not_mem_nil

theorem Fitted.congr (fitted : Fitted before) (serving : after.serving = before.serving)
    (same : ∀ other, record after other = record before other) : Fitted after where
  state := serving ▸ fitted.state
  running := serving ▸ fitted.running
  calls other := (same other) ▸ fitted.calls other

/-- A handler gets an answer that fits. -/
theorem Fitted.answered (fitted : Fitted before) {op : Op} {rest : op.Response → Handler Bool}
    {response : op.Response} (running : before.serving.running connection = some (.call op rest))
    (resumed : after.serving.running =
      Function.update before.serving.running connection (some (rest response)))
    (traces : after.traces = Function.update before.traces connection
      (before.traces connection ++ [⟨op, response⟩]))
    (finished : after.finished = before.finished) (fits : op.Fits response)
    (state : after.serving.state.Fits) : Fitted after where
  state := state
  running := by
    intro other program runs
    rw [resumed] at runs
    by_cases same : other = connection
    · subst same
      rw [Function.update_self] at runs
      obtain rfl := Option.some.inj runs
      exact (fitted.running other _ running).2 response fits
    · rw [Function.update_of_ne same] at runs
      exact fitted.running other program runs
  calls := by
    intro other event member
    rw [record_answered running resumed traces finished] at member
    rcases List.mem_append.mp member with earlier | last
    · exact fitted.calls other event earlier
    · split at last
      · obtain rfl := List.mem_singleton.mp last
        exact fits
      · cases last

theorem Fitted.step (fitted : Fitted before) (fitting : before.Fitting event)
    (stepped : Steps (next dma) before event after) : Fitted after := by
  cases move_of_next stepped with
  | @dispatch connection command serving idle served =>
      refine ⟨?_, fun other program runs => ?_, fun other => ?_⟩
      · rw [Serving.dispatched_of_next served]
        exact fitted.state
      · rw [Serving.dispatched_of_next served] at runs
        by_cases same : other = connection
        · subst same
          simp only [Function.update_self, Option.some.injEq] at runs
          subst runs
          exact dispatchCommand_storesFitting command
        · simp only [Function.update_of_ne same] at runs
          exact fitted.running other program runs
      · rw [record_dispatch idle served]
        exact fitted.calls other
  | @respond connection first outside op rest response state serving running apart answered
      served =>
      obtain ⟨call, next, reply, later, runs, replied, rfl⟩ := Serving.responded_of_next served
      rw [running] at runs
      cases runs
      rw [answered] at replied
      cases replied
      obtain ⟨fits, kept⟩ := answer_fits fitted.state answered
        (fitting op (pending_of_running running)) (fitted.running connection _ running).1
      exact fitted.answered running rfl rfl rfl fits kept
  | enter | memory => exact fitted.congr rfl fun _ => record_congr rfl rfl rfl
  | leaveRead running | leaveWrite running =>
      exact fitted.answered running rfl rfl rfl trivial fitted.state
  | @finish connection keepSocketOpen serving running served =>
      refine ⟨?_, fun other program runs => ?_, fun other => ?_⟩
      · rw [Serving.finished_of_next served]
        exact fitted.state
      · rw [Serving.finished_of_next served] at runs
        by_cases same : other = connection
        · subst same
          simp at runs
        · simp only [Function.update_of_ne same] at runs
          exact fitted.running other program runs
      · rw [record_finish running served rfl rfl]
        exact fitted.calls other

theorem fitted_of_run {device : Device} {events : List (AssemblyEvent Connection Device)}
    {final : Assembly Connection Device Scatter}
    (run : Run (Restrict (Steps (next dma)) Fitting) (start device) events final) : Fitted final :=
  run.invariant (fitted_start device) fun _ _ _ fitted taken => fitted.step taken.1 taken.2

end Steps

end Assembly

namespace FinishedCommand

variable {Connection : Type}

def reply (command : FinishedCommand Connection) : List UInt8 := onWire command.trace

end FinishedCommand

namespace Assembly

variable {Connection Device Scatter : Type} {dma : Dma Device Scatter} [DecidableEq Connection]
  {device : Device} {events : List (AssemblyEvent Connection Device)}
  {final : Assembly Connection Device Scatter}

/-- The commands a connection was served, the oldest first. -/
def servedCommands (assembly : Assembly Connection Device Scatter) (connection : Connection) :
    List (FinishedCommand Connection) :=
  assembly.finished.reverse.filter fun command => command.connection = connection

/-- All bytes of a connection that its socket has accepted. -/
def output (assembly : Assembly Connection Device Scatter) (connection : Connection) :
    List UInt8 :=
  onWire (record assembly connection)

/-- All bytes that a connection has received. -/
def received (assembly : Assembly Connection Device Scatter) (connection : Connection) :
    List UInt8 :=
  (servedCommands assembly connection).flatMap FinishedCommand.received ++
    if (assembly.serving.running connection).isSome then
      assembly.commands connection :: (arrivals (assembly.traces connection)).flatten
    else []

theorem mem_record {connection : Connection} {command : FinishedCommand Connection}
    (served : command ∈ servedCommands final connection) {event : Event Op Op.Response}
    (called : event ∈ command.trace) : event ∈ record final connection :=
  List.mem_append_left _ (List.mem_flatMap.mpr ⟨command, served, called⟩)

theorem finished_of_served {connection : Connection} {command : FinishedCommand Connection}
    (served : command ∈ servedCommands final connection) : command ∈ final.finished :=
  List.mem_reverse.mp (List.mem_of_mem_filter served)

/-- `Memory` has counted no more than it was asked for in any answer it gave. -/
theorem finished_counts (within : CountsWithin dma)
    (run : Run (Steps (next dma)) (start device) events final)
    {command : FinishedCommand Connection} (member : command ∈ final.finished) :
    ∀ event ∈ command.trace, event.op.Counts event.response := by
  intro event called
  obtain ⟨past, later, whole⟩ := List.append_of_mem called
  have logged := ((invariant_of_anyRun run).finished command member).told past event later whole
  obtain ⟨inside, ran⟩ := (parts_of_run run).2
  obtain ⟨op, response⟩ := event
  cases op with
  | memoryRead processID address size =>
      obtain ⟨entry, listed, -, asked, answer, -⟩ := logged.logged
      have returns : Returns dma ⟨processID, address, size⟩ response :=
        ⟨Connection, inferInstance, device, inside, final.memory, ran, entry, listed, asked, answer⟩
      exact returns.within within
  | _ => trivial

theorem served_accepts (within : CountsWithin dma)
    (run : Run (Restrict (Steps (next dma)) Fitting) (start device) events final)
    {connection : Connection} {command : FinishedCommand Connection}
    (served : command ∈ servedCommands final connection)
    (kept : command.keepSocketOpen = true) (accepted : Accepted (record final connection)) :
    Accepts command.format command.reply := by
  have ran := run.unrestrict
  have member := finished_of_served served
  have performs := ((invariant_of_anyRun ran).finished command member).performs
  have fits : AllFit command.trace := fun event called =>
    (fitted_of_run run).calls connection event (mem_record served called)
  have whole : Accepted command.trace := fun event called =>
    accepted event (mem_record served called)
  rw [kept, Client.dispatchCommand] at performs
  rw [FinishedCommand.format, FinishedCommand.reply, onWire_of_accepted whole]
  cases known : Command.ofCode command.command with
  | none =>
      rw [known] at performs
      cases performs.2
  | some code =>
      rw [known] at performs
      exact handle_accepts performs fits (finished_counts within ran member)

theorem onWire_append (first second : List (Event Op Op.Response)) :
    onWire (first ++ second) = onWire first ++ onWire second :=
  List.flatMap_append

/-- Whatever other connections do meanwhile, a client that knows its own requests
finds the reply to each in what it gets, as long as the connection is kept open. -/
theorem replies_split (within : CountsWithin dma)
    (run : Run (Restrict (Steps (next dma)) Fitting) (start device) events final)
    (connection : Connection) {requests : List Request}
    (framed : ∀ request ∈ requests, request.Framed)
    (stream : received final connection <+: Request.encodeAll requests)
    (filled : Filled (record final connection)) (accepted : Accepted (record final connection)) :
    let kept := (servedCommands final connection).takeWhile FinishedCommand.keepSocketOpen
    let answered := requests.take kept.length
    kept.map FinishedCommand.command = answered.map (fun request => request.command.code) ∧
      ∃ rest, output final connection = (kept.map FinishedCommand.reply).flatten ++ rest ∧
        readAll (answered.map Request.format) (output final connection) =
          some (kept.map FinishedCommand.reply, rest) := by
  intro kept answered
  have listed {command : FinishedCommand Connection} (member : command ∈ kept) :
      command ∈ servedCommands final connection := (List.takeWhile_sublist _).subset member
  have parts : kept ++ (servedCommands final connection).dropWhile
      FinishedCommand.keepSocketOpen = servedCommands final connection :=
    List.takeWhile_append_dropWhile
  obtain ⟨unsent, sends⟩ := stream
  rw [received, ← parts, List.flatMap_append, List.append_assoc, List.append_assoc] at sends
  obtain ⟨-, -, -, codes, formats⟩ := FinishedCommand.formats_of_received
    (fun command member =>
      ((invariant_of_anyRun run.unrestrict).finished command
        (finished_of_served (listed member))).performs)
    (fun command member size arrived called =>
      filled size arrived (mem_record (listed member) called)) framed sends
  have accepts : List.Forall₂ Accepts (answered.map Request.format)
      (kept.map FinishedCommand.reply) := by
    rw [← formats]
    refine List.forall₂_map_left_iff.mpr (List.forall₂_map_right_iff.mpr
      (List.forall₂_same.mpr fun command member => ?_))
    exact served_accepts within run (listed member) (List.mem_takeWhile_imp member) accepted
  have whole : ∃ rest, output final connection =
      (kept.map FinishedCommand.reply).flatten ++ rest := by
    have replies (commands : List (FinishedCommand Connection)) :
        onWire (commands.flatMap FinishedCommand.trace) =
          (commands.map FinishedCommand.reply).flatten :=
      List.flatMap_assoc
    rw [output, record, onWire_append]
    change ∃ rest, onWire ((servedCommands final connection).flatMap FinishedCommand.trace) ++ _ = _
    rw [replies, ← parts, List.map_append, List.flatten_append, List.append_assoc]
    exact ⟨_, rfl⟩
  obtain ⟨rest, same⟩ := whole
  refine ⟨codes, rest, same, ?_⟩
  rw [same]
  exact readAll_flatten accepts rest

section Samples

def library : MemoryRegion := { namelessHeap with name := asciiBytes "a.dll" }

/-- Receives deliver these bytes, and every process has mapped one library. -/
noncomputable def oneLibrary (bytes : List UInt8) : (op : Op) → op.Response
  | .recv _ => ((bytes.length : Int), bytes)
  | .getModuleSnapshot _ => [library]
  | .readMemoryRegion _ => library
  | .newCharArray size => List.replicate size.toNat 0
  | op => (Environment.healthy.respond op ()).1

theorem oneLibrary_fits (bytes : List UInt8) (op : Op) : op.Fits (oneLibrary bytes op) := by
  have short : library.Fits := show (asciiBytes "a.dll").length < 2 ^ 31 by decide
  cases op with
  | newCharArray size => exact List.length_replicate
  | getModuleSnapshot =>
      refine ⟨show ([library] : List MemoryRegion).length < 2 ^ 31 by decide, ?_⟩
      intro region member
      obtain rfl := List.mem_singleton.mp member
      exact short
  | getProcessSnapshot => exact fun _ member => absurd member List.not_mem_nil
  | getThreadSnapshot => exact show ([] : List ThreadInfo).length < 2 ^ 31 by decide
  | readProcessInfo => exact show ([] : List UInt8).length < 2 ^ 31 by decide
  | readMemoryRegion => exact short
  | _ => trivial

noncomputable def tells (connection : Bool) (bytes : List UInt8) :
    AssemblyEvent Bool (List UInt8) :=
  .respond connection .any (oneLibrary bytes)

/-- One connection lists the modules of process 7 and asks for the ABI; the other
asks for the version meanwhile. -/
noncomputable def listsModules : List (AssemblyEvent Bool (List UInt8)) :=
  [.dispatch false Command.createToolhelp32SnapshotEx.code, tells false [8, 0, 0, 0],
    .dispatch true Command.getVersion.code, tells false [7, 0, 0, 0], tells false [],
    tells false [], tells true [], tells false [], tells false [], tells true [], .finish true,
    .finish false, .dispatch false Command.getABI.code, tells false [], .finish false]

def receivedWhole : Event Op Op.Response → Bool
  | ⟨.recv size, arrived⟩ => arrived.2.length == size
  | _ => true

def sentWhole (event : Event Op Op.Response) : Bool :=
  event.op.sent.length ≤ (acceptedBytes event.op event.response).length

/-- What the first connection's client has sent. -/
def modulesAndABI : List Request := [.createToolhelp32SnapshotEx 8 7, .getABI, .getOptions]

theorem replies_split_listsModules :
    ∃ final : Assembly Bool (List UInt8) (List UInt8),
      Run (Restrict (Steps (next flatMemory)) Fitting) (start [5, 6, 7, 8]) listsModules final ∧
        (servedCommands final false).map FinishedCommand.reply =
          [moduleEntryBytes true 4096 0 4096 (asciiBytes "a.dll") ++
              moduleEntryBytes false 0 0 0 [],
            [0]] ∧
        let kept := (servedCommands final false).takeWhile FinishedCommand.keepSocketOpen
        let answered := modulesAndABI.take kept.length
        kept.map FinishedCommand.command = answered.map (fun request => request.command.code) ∧
          ∃ rest, output final false = (kept.map FinishedCommand.reply).flatten ++ rest ∧
            readAll (answered.map Request.format) (output final false) =
              some (kept.map FinishedCommand.reply, rest) := by
  have executed : (execute (next flatMemory) (start [5, 6, 7, 8]) listsModules).map (fun final =>
      ((servedCommands final false).map FinishedCommand.reply,
        (received final false).isPrefixOf (Request.encodeAll modulesAndABI),
        (record final false).all receivedWhole, (record final false).all sentWhole)) =
        some ([moduleEntryBytes true 4096 0 4096 (asciiBytes "a.dll") ++
          moduleEntryBytes false 0 0 0 [], [0]], true, true, true) := by
    rfl
  obtain ⟨final, ran, observed⟩ := Option.map_eq_some_iff.mp executed
  simp only [Prod.mk.injEq] at observed
  obtain ⟨replies, begins, receives, sends⟩ := observed
  have fitting : ∀ event ∈ listsModules, ∀ state : Assembly Bool (List UInt8) (List UInt8),
      state.Fitting event := by
    intro event member state
    cases event with
    | respond connection first outside =>
        intro op _
        have known : ∃ bytes, outside = oneLibrary bytes := by
          simp only [listsModules, tells, List.mem_cons, List.not_mem_nil, reduceCtorEq, or_false,
            false_or, AssemblyEvent.respond.injEq] at member
          obtain ⟨-, -, rfl⟩ | ⟨-, -, rfl⟩ | ⟨-, -, rfl⟩ | ⟨-, -, rfl⟩ | ⟨-, -, rfl⟩ |
            ⟨-, -, rfl⟩ | ⟨-, -, rfl⟩ | ⟨-, -, rfl⟩ | ⟨-, -, rfl⟩ := member
          all_goals exact ⟨_, rfl⟩
        obtain ⟨bytes, rfl⟩ := known
        exact oneLibrary_fits bytes op
    | _ => trivial
  have run := (run_of_execute ran).restrict fitting
  have framed : ∀ request ∈ modulesAndABI, request.Framed := by
    simp [modulesAndABI, Request.Framed, Request.command]
  have filled : Filled (record final false) := fun size arrived called => by
    simpa [receivedWhole] using List.all_eq_true.mp receives _ called
  have accepted : Accepted (record final false) := fun event called => by
    simpa [sentWhole, Short] using List.all_eq_true.mp sends event called
  exact ⟨final, run, replies, replies_split countsWithin_flatMemory run false framed
    (List.isPrefixOf_iff_prefix.mp begins) filled accepted⟩

end Samples

end Assembly

end CeServer
