import CeServer.Connection
import CeServer.HandleChecks

/-!
The connections of one server, their handlers interleaved call by call over the
shared handle tables, and the process each of them acts on.
-/

namespace CeServer

open LittleEndian Interaction Transition

variable {Connection : Type}

/-- `checked` is the handle whose check succeeded last in the command a
connection is running, `opened` what `storeOpenProcess` has stored so far. Both
are history: no step reads them. -/
structure Serving (Connection : Type) where
  state : ClientState := {}
  running : Connection → Option (Handler Bool) := fun _ => none
  checked : Connection → Option CE_HANDLE := fun _ => none
  opened : List (CE_HANDLE × Int32) := []

inductive ServingEvent (Connection : Type)
  | dispatch (connection : Connection) (command : UInt8)
  | respond (connection : Connection) (first : FirstEntry) (outside : (op : Op) → op.Response)
  | finish (connection : Connection)

namespace Serving

/-- One call of a handler. Calls on the shared state are answered by it, a
pointer into a snapshot that is still stored reads that snapshot, and a negative
array length throws. -/
def answer (first : FirstEntry) (outside : (op : Op) → op.Response) (state : ClientState) :
    (op : Op) → Option (op.Response × ClientState)
  | .state op => some (op.apply first state)
  | .newCharArray size => if size < 0 then none else some (outside (.newCharArray size), state)
  | .readProcessInfo entry =>
      let snapshot := (state.handlesToProcessInfoSnapshots.lookup entry.handle).getD []
      some ((snapshot[entry.index]?).getD (outside (.readProcessInfo entry)), state)
  | .readMemoryRegion entry =>
      let snapshot := (state.handlesToModuleSnapshots.lookup entry.handle).getD []
      some ((snapshot[entry.index]?).getD (outside (.readMemoryRegion entry)), state)
  | op => some (outside op, state)

def checkedAfter (checked : Option CE_HANDLE) : (op : Op) → op.Response → Option CE_HANDLE
  | .state (.containsProcessIDHandle handle), present => if present then some handle else none
  | _, _ => checked

def openedAfter (opened : List (CE_HANDLE × Int32)) : Op → List (CE_HANDLE × Int32)
  | .state (.storeOpenProcess processID handle) => (handle, processID) :: opened
  | _ => opened

def next [DecidableEq Connection] (system : Serving Connection) :
    ServingEvent Connection → Option (Serving Connection)
  | .dispatch connection command =>
      match system.running connection with
      | some _ => none
      | none => some { system with
          running := Function.update system.running connection
            (some (Client.dispatchCommand command))
          checked := Function.update system.checked connection none }
  | .respond connection first outside =>
      match system.running connection with
      | some (.call op rest) =>
          (answer first outside system.state op).map fun answered =>
            { state := answered.2
              running := Function.update system.running connection (some (rest answered.1))
              checked := Function.update system.checked connection
                (checkedAfter (system.checked connection) op answered.1)
              opened := openedAfter system.opened op }
      | _ => none
  | .finish connection =>
      match system.running connection with
      | some (.ret _) => some { system with
          running := Function.update system.running connection none
          checked := Function.update system.checked connection none }
      | _ => none

def pending (system : Serving Connection) (connection : Connection) : Option Op :=
  match system.running connection with
  | some (.call op _) => some op
  | _ => none

/-- After a successful check of a handle every call on a process is made with an
ID that was stored under that handle. -/
def Faithful (system : Serving Connection) : Prop :=
  ∀ connection op handle processID, system.pending connection = some op →
    op.target? = some processID → system.checked connection = some handle →
    (handle, processID) ∈ system.opened

end Serving

inductive LooksUp {Value : Type} (handle : CE_HANDLE) : Handler Value → Prop
  | here {next : Int32 → Handler Value} :
      LooksUp handle (.call (.state (.getProcessID handle)) next)
  | later {op : Op} {next : op.Response → Handler Value} (response : op.Response) :
      LooksUp handle (next response) → LooksUp handle (.call op next)

namespace Serving

def closing? (system : Serving Connection) : ServingEvent Connection → Option CE_HANDLE
  | .respond connection _ _ =>
      match system.pending connection with
      | some (.state (.closeHandle handle)) => some handle
      | _ => none
  | _ => none

/-- No handle is closed while another command has checked it and is still going
to look it up. -/
def Undisturbed (system : Serving Connection) (event : ServingEvent Connection) : Prop :=
  ∀ handle, system.closing? event = some handle → ∀ connection program,
    system.running connection = some program → system.checked connection = some handle →
    ¬LooksUp handle program

/-- What is known of a connection in each phase of its command. -/
def Secured (system : Serving Connection) (checked : Option CE_HANDLE) (program : Handler Bool) :
    CheckPhase → Prop
  | .unchecked => checked = none
  | .checked handle => checked = some handle ∧
      (LooksUp handle program → handle ∈ system.state.handlesToProcessIDs)
  | .resolved handle processID => checked = some handle ∧ (handle, processID) ∈ system.opened

structure Invariant (system : Serving Connection) : Prop where
  stored : ∀ handle processID, system.state.handlesToProcessIDs.lookup handle = some processID →
    (handle, processID) ∈ system.opened
  secured : ∀ connection program, system.running connection = some program →
    ∃ phase, checkProtocol.Follows phase program ∧
      system.Secured (system.checked connection) program phase

section Table

variable {first : FirstEntry} {state : ClientState}

theorem lookup_of_apply {op : StateOp} {handle : CE_HANDLE} {processID : Int32}
    (found : (op.apply first state).2.handlesToProcessIDs.lookup handle = some processID) :
    state.handlesToProcessIDs.lookup handle = some processID ∨
      op = .storeOpenProcess processID handle := by
  cases op with
  | storeOpenProcess stored other =>
      simp only [StateOp.apply, ClientState.storeOpenProcess, Table.lookup_insert] at found
      split at found
      · rename_i same
        right
        rw [same, Option.some.inj found]
      · exact Or.inl found
  | closeHandle other =>
      simp only [StateOp.apply, ClientState.closeHandle, Table.lookup_erase] at found
      split at found
      · simp at found
      · exact Or.inl found
  | _ => exact Or.inl found

theorem mem_apply {op : StateOp} {handle : CE_HANDLE}
    (present : handle ∈ state.handlesToProcessIDs) (kept : op ≠ .closeHandle handle) :
    handle ∈ (op.apply first state).2.handlesToProcessIDs := by
  cases op with
  | storeOpenProcess stored other =>
      simp only [StateOp.apply, ClientState.storeOpenProcess]
      exact Finmap.mem_insert.mpr (Or.inr present)
  | closeHandle other =>
      have apart : handle ≠ other := fun same => kept (by rw [same])
      simp only [StateOp.apply, ClientState.closeHandle]
      exact Finmap.mem_erase.mpr ⟨apart, present⟩
  | _ => exact present

end Table

section Answer

variable {first : FirstEntry} {outside : (op : Op) → op.Response} {state later : ClientState}
  {op : Op} {response : op.Response}

theorem answer_state (answered : answer first outside state op = some (response, later)) :
    later = state ∨ ∃ call, op = .state call ∧ later = (call.apply first state).2 := by
  cases op with
  | state call =>
      right
      exact ⟨call, rfl, (congrArg Prod.snd (Option.some.inj answered)).symm⟩
  | newCharArray size =>
      left
      simp only [answer] at answered
      split at answered
      · simp at answered
      · exact (congrArg Prod.snd (Option.some.inj answered)).symm
  | _ => exact Or.inl (congrArg Prod.snd (Option.some.inj answered)).symm

theorem lookup_of_answer (answered : answer first outside state op = some (response, later))
    {handle : CE_HANDLE} {processID : Int32}
    (found : later.handlesToProcessIDs.lookup handle = some processID) :
    state.handlesToProcessIDs.lookup handle = some processID ∨
      op = .state (.storeOpenProcess processID handle) := by
  rcases answer_state answered with same | ⟨call, isCall, applied⟩
  · left
    rwa [same] at found
  · rw [applied] at found
    rcases lookup_of_apply found with before | stores
    · exact Or.inl before
    · right
      rw [isCall, stores]

theorem mem_answer (answered : answer first outside state op = some (response, later))
    {handle : CE_HANDLE} (present : handle ∈ state.handlesToProcessIDs)
    (kept : op ≠ .state (.closeHandle handle)) : handle ∈ later.handlesToProcessIDs := by
  rcases answer_state answered with same | ⟨call, isCall, applied⟩
  · rwa [same]
  · rw [applied]
    refine mem_apply present fun closes => kept ?_
    rw [isCall, closes]

end Answer

theorem openedAfter_mono {opened : List (CE_HANDLE × Int32)} {pair : CE_HANDLE × Int32} (op : Op)
    (member : pair ∈ opened) : pair ∈ openedAfter opened op := by
  unfold openedAfter
  split
  · exact List.mem_cons_of_mem _ member
  · exact member

theorem Secured.mono {before after : Serving Connection} {checked : Option CE_HANDLE}
    {program : Handler Bool} {phase : CheckPhase} (secured : before.Secured checked program phase)
    (opened : ∀ pair ∈ before.opened, pair ∈ after.opened)
    (present : ∀ handle, checked = some handle → LooksUp handle program →
      handle ∈ before.state.handlesToProcessIDs → handle ∈ after.state.handlesToProcessIDs) :
    after.Secured checked program phase := by
  cases phase with
  | unchecked => exact secured
  | checked handle =>
      refine ⟨secured.1, fun looks => ?_⟩
      exact present handle secured.1 looks (secured.2 looks)
  | resolved handle processID => exact ⟨secured.1, opened _ secured.2⟩

theorem Secured.respond {before after : Serving Connection} {checked : Option CE_HANDLE}
    {phase : CheckPhase} {op : Op} {rest : op.Response → Handler Bool} {response : op.Response}
    {first : FirstEntry} {outside : (op : Op) → op.Response}
    (secured : before.Secured checked (.call op rest) phase)
    (follows : checkProtocol.Follows phase (.call op rest))
    (stored : ∀ handle processID,
      before.state.handlesToProcessIDs.lookup handle = some processID →
      (handle, processID) ∈ before.opened)
    (answered : answer first outside before.state op = some (response, after.state))
    (opened : after.opened = openedAfter before.opened op)
    (kept : ∀ handle, checked = some handle → LooksUp handle (.call op rest) →
      op ≠ .state (.closeHandle handle)) :
    after.Secured (checkedAfter checked op response) (rest response)
      (checkProtocol.after phase op response) := by
  cases phase with
  | unchecked =>
      cases op with
      | state op =>
          cases op with
          | containsProcessIDHandle handle =>
              obtain ⟨asked, same⟩ := Prod.mk.inj (Option.some.inj answered)
              cases response with
              | false => rfl
              | true =>
                  refine ⟨rfl, fun _ => ?_⟩
                  rw [← same]
                  exact of_decide_eq_true asked
          | _ => exact secured
      | _ => exact secured
  | checked handle =>
      have forward (looks : LooksUp handle (rest response)) :
          handle ∈ after.state.handlesToProcessIDs :=
        mem_answer answered (secured.2 (.later response looks))
          (kept handle secured.1 (.later response looks))
      cases op with
      | state op =>
          cases op with
          | containsProcessIDHandle other => exact absurd follows.1 id
          | getProcessID other =>
              obtain rfl : other = handle := follows.1
              refine ⟨secured.1, ?_⟩
              obtain ⟨processID, found⟩ := Finmap.mem_iff.mp (secured.2 .here)
              have asked : before.state.getProcessID other = response :=
                congrArg Prod.fst (Option.some.inj answered)
              have same : response = processID := by
                rw [← asked, ClientState.getProcessID, found, Option.getD_some]
              rw [opened, same]
              exact openedAfter_mono _ (stored other processID found)
          | _ => exact ⟨secured.1, forward⟩
      | _ => exact ⟨secured.1, forward⟩
  | resolved handle processID =>
      have known : (handle, processID) ∈ after.opened := by
        rw [opened]
        exact openedAfter_mono op secured.2
      cases op with
      | state op =>
          cases op with
          | containsProcessIDHandle other => exact absurd follows.1 id
          | _ => exact ⟨secured.1, known⟩
      | _ => exact ⟨secured.1, known⟩

theorem invariant_start : Invariant ({} : Serving Connection) :=
  ⟨fun _ _ found => by simp at found, fun _ _ running => by simp at running⟩

section Inversion

variable [DecidableEq Connection] {before after : Serving Connection} {connection : Connection}

theorem dispatched_of_next {command : UInt8}
    (step : Steps next before (.dispatch connection command) after) :
    after = { before with
      running := Function.update before.running connection
        (some (Client.dispatchCommand command))
      checked := Function.update before.checked connection none } := by
  simp only [Steps, next] at step
  split at step
  · cases step
  · exact (Option.some.inj step).symm

theorem finished_of_next (step : Steps next before (.finish connection) after) :
    after = { before with
      running := Function.update before.running connection none
      checked := Function.update before.checked connection none } := by
  simp only [Steps, next] at step
  split at step
  · exact (Option.some.inj step).symm
  · cases step

theorem responded_of_next {first : FirstEntry} {outside : (op : Op) → op.Response}
    (step : Steps next before (.respond connection first outside) after) :
    ∃ op rest response state, before.running connection = some (.call op rest) ∧
      answer first outside before.state op = some (response, state) ∧
      after =
        { state
          running := Function.update before.running connection (some (rest response))
          checked := Function.update before.checked connection
            (checkedAfter (before.checked connection) op response)
          opened := openedAfter before.opened op } := by
  simp only [Steps, next] at step
  split at step
  · rename_i op rest program
    obtain ⟨⟨response, state⟩, answered, rfl⟩ := Option.map_eq_some_iff.mp step
    exact ⟨op, rest, response, state, program, answered, rfl⟩
  · cases step

end Inversion

/-- What the table holds was stored, whatever the connections do. -/
theorem stored_of_next [DecidableEq Connection] {before after : Serving Connection}
    {event : ServingEvent Connection} (step : Steps next before event after)
    (stored : ∀ handle processID,
      before.state.handlesToProcessIDs.lookup handle = some processID →
      (handle, processID) ∈ before.opened) {handle : CE_HANDLE} {processID : Int32}
    (found : after.state.handlesToProcessIDs.lookup handle = some processID) :
    (handle, processID) ∈ after.opened := by
  cases event with
  | dispatch connection command =>
      obtain rfl := dispatched_of_next step
      exact stored handle processID found
  | finish connection =>
      obtain rfl := finished_of_next step
      exact stored handle processID found
  | respond connection first outside =>
      obtain ⟨op, rest, response, state, program, answered, rfl⟩ := responded_of_next step
      rcases lookup_of_answer answered found with earlier | stores
      · exact openedAfter_mono op (stored handle processID earlier)
      · subst stores
        exact List.mem_cons_self

theorem Invariant.step [DecidableEq Connection] {before after : Serving Connection}
    {event : ServingEvent Connection}
    (invariant : Invariant before)
    (taken : Restrict (Steps next) Undisturbed before event after) : Invariant after := by
  obtain ⟨undisturbed, step⟩ := taken
  refine ⟨fun _ _ => stored_of_next step invariant.stored, ?_⟩
  cases event with
  | dispatch connection command =>
      obtain rfl := dispatched_of_next step
      intro other program running
      by_cases same : other = connection
      · subst same
        simp only [Function.update_self, Option.some.injEq] at running
        subst running
        refine ⟨.unchecked, dispatchCommand_follows command, ?_⟩
        simp [Secured]
      · simp only [Function.update_of_ne same] at running ⊢
        exact invariant.secured other program running
  | finish connection =>
      obtain rfl := finished_of_next step
      intro other program running
      by_cases same : other = connection
      · subst same
        simp at running
      · simp only [Function.update_of_ne same] at running ⊢
        exact invariant.secured other program running
  | respond connection first outside =>
      obtain ⟨op, rest, response, state, program, answered, rfl⟩ := responded_of_next step
      have kept (other : Connection) (body : Handler Bool)
          (running : before.running other = some body) (handle : CE_HANDLE)
          (checked : before.checked other = some handle) (looks : LooksUp handle body) :
          op ≠ .state (.closeHandle handle) := by
        intro closes
        subst closes
        refine undisturbed handle ?_ other body running checked looks
        simp [closing?, pending, program]
      intro other body running
      by_cases same : other = connection
      · subst same
        simp only [Function.update_self, Option.some.injEq] at running
        subst running
        obtain ⟨phase, follows, secured⟩ := invariant.secured other _ program
        refine ⟨checkProtocol.after phase op response, follows.2 response, ?_⟩
        simp only [Function.update_self]
        exact secured.respond follows invariant.stored answered rfl (kept other _ program)
      · simp only [Function.update_of_ne same] at running ⊢
        obtain ⟨phase, follows, secured⟩ := invariant.secured other body running
        refine ⟨phase, follows, secured.mono (fun pair => openedAfter_mono op) ?_⟩
        intro handle checked looks present
        exact mem_answer answered present (kept other body running handle checked looks)

theorem Invariant.faithful {system : Serving Connection} (invariant : Invariant system) :
    system.Faithful := by
  intro connection op handle processID waiting target checked
  unfold pending at waiting
  split at waiting
  · rename_i call rest running
    obtain rfl := Option.some.inj waiting
    obtain ⟨phase, follows, secured⟩ := invariant.secured connection _ running
    cases phase with
    | unchecked =>
        rw [secured] at checked
        simp at checked
    | checked other =>
        have none : call.target? = none := by
          have allowed := follows.1
          cases call with
          | state op => rfl
          | _ => exact allowed
        rw [none] at target
        simp at target
    | resolved other found =>
        have same : processID = found := by
          have allowed := follows.1
          cases call with
          | state op => simp [Op.target?] at target
          | _ => exact allowed processID target
        obtain rfl : other = handle := Option.some.inj (secured.1.symm.trans checked)
        rw [same]
        exact secured.2
  · simp at waiting

/-- In every run in which no handle is closed between the check and the lookup
of another command, each command acts on a process its handle was opened for. -/
theorem faithful_of_undisturbed [DecidableEq Connection]
    {events : List (ServingEvent Connection)} {system : Serving Connection}
    (run : Run (Restrict (Steps next) Undisturbed) {} events system) : system.Faithful := by
  have invariant : Invariant system :=
    run.invariant invariant_start fun _ _ _ holds taken => holds.step taken
  exact invariant.faithful

noncomputable def receives (connection : Connection) (bytes : List UInt8) :
    ServingEvent Connection :=
  .respond connection .any fun op => match op with
    | .recv _ => ((bytes.length : Int), bytes)
    | op => (Environment.healthy.respond op ()).1

/-- One client opens process 7 and gets handle 1, another asks for four bytes of
it at address 4096; `between` happens after the handle was checked. -/
noncomputable def readOfOpened (between : List (ServingEvent Bool)) : List (ServingEvent Bool) :=
  [.dispatch false 3, receives false [7, 0, 0, 0], receives false [], receives false [],
    receives false [], .finish false,
    .dispatch true 9, receives true [1, 0, 0, 0], receives true [0, 16, 0, 0, 0, 0, 0, 0],
    receives true [4, 0, 0, 0], receives true [0], receives true []] ++
  between ++ [receives true [], receives true []]

theorem faithful_of_undisturbed_readOfOpened :
    ∃ system, Run (Restrict (Steps next) Undisturbed) {} (readOfOpened []) system ∧
      system.pending true = some (.memoryRead 7 4096 4) ∧ system.Faithful := by
  have executed : ((execute (restricted next fun system event => system.closing? event = none) {}
      (readOfOpened [])).map fun system => system.pending true) =
        some (some (.memoryRead 7 4096 4)) := by
    rfl
  obtain ⟨system, ran, waits⟩ := Option.map_eq_some_iff.mp executed
  have run : Run (Restrict (Steps next) Undisturbed) {} (readOfOpened []) system := by
    refine (run_of_execute ran).mono fun before event after taken => ?_
    obtain ⟨quiet, step⟩ := restrict_of_restricted taken
    exact ⟨fun handle closes => by rw [quiet] at closes; simp at closes, step⟩
  exact ⟨system, run, waits, faithful_of_undisturbed run⟩

/-- Another client closes the handle after it was checked: the read is made on
process -1. -/
theorem read_of_closed_not_faithful :
    ¬∀ (events : List (ServingEvent Bool)) (system : Serving Bool),
      Run (Steps next) {} events system → system.Faithful := by
  intro faithful
  have executed : ((execute next {} (readOfOpened
      [.dispatch false 7, receives false [1, 0, 0, 0], receives false []])).map fun system =>
        (system.pending true, system.checked true, system.opened)) =
          some (some (.memoryRead (-1) 4096 4), some 1, [(1, 7)]) := by
    rfl
  obtain ⟨system, ran, observed⟩ := Option.map_eq_some_iff.mp executed
  obtain ⟨waits, rest⟩ := Prod.mk.inj observed
  obtain ⟨checked, opened⟩ := Prod.mk.inj rest
  have stored := faithful _ system (run_of_execute ran) true _ 1 (-1) waits rfl checked
  rw [opened] at stored
  simp at stored

end Serving
end CeServer
