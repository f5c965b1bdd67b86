import CeServer.BufferAccesses

/-!
What brings a connection thread down: the negative array length that a request
declares in a signed field, which `new` answers with an exception, and the
length of a name for which its terminator is stored far outside of its array.
-/

namespace CeServer

open LittleEndian Interaction Server

variable {Outside : Type}

/-- The length a handler allocates its buffer with, where the field is signed. -/
def declaredLength? (received : List UInt8) : Command → Option Int32
  | .writeProcessMemory => some (receivedField Int32 12 received)
  | .getSymbolListFromFile => some (receivedField Int32 0 received)
  | _ => none

/-- The fields that arrived, the missing bytes zero, declare a negative length. -/
def DeclaresNegative (code : UInt8) (received : List UInt8) : Prop :=
  ∃ command length, Command.ofCode code = some command ∧
    declaredLength? received command = some length ∧ length.toInt < 0

theorem selectHandle_returns (env : Environment Outside) (world : World Outside) :
    ∃ handle, (Client.selectHandle.run (answer env) world).value = some handle := by
  have selects : Client.selectHandle.Uses Op.Returns :=
    (Client.selectHandle_stays (fun op _ => by cases op <;> trivial) fun _ => False.elim).uses
  exact selects.returns (fun _ allowed => answer_returns env allowed) world

theorem keepsSocketOpen_eq_none_iff (env : Environment Outside) (world : World Outside)
    (command : Command) : keepsSocketOpen env world command = none ↔
      ∃ length, declaredLength? world.input command = some length ∧ length.toInt < 0 := by
  cases command with
  | writeProcessMemory | getSymbolListFromFile =>
      simp only [keepsSocketOpen, declaredLength?, Option.some.injEq, exists_eq_left']
      split <;> simp [*]
  | getArchitecture =>
      obtain ⟨handle, selected⟩ := selectHandle_returns env world
      simp [keepsSocketOpen, selected, declaredLength?]
  | _ => simp [keepsSocketOpen, declaredLength?]

theorem commandKeepsSocketOpen_eq_none_iff (env : Environment Outside) (world : World Outside)
    (code : UInt8) :
    commandKeepsSocketOpen env world code = none ↔ DeclaresNegative code world.input := by
  unfold commandKeepsSocketOpen DeclaresNegative
  cases Command.ofCode code with
  | none => simp
  | some command => simp [keepsSocketOpen_eq_none_iff]

theorem dispatchCommand_returns_iff (env : Environment Outside) (world : World Outside)
    (code : UInt8) :
    (∃ keepSocketOpen, ((Client.dispatchCommand code).run (answer env) world).value =
      some keepSocketOpen) ↔ ¬DeclaresNegative code world.input := by
  rw [← commandKeepsSocketOpen_eq_none_iff env, ← dispatchCommand_value,
    ← Option.isSome_iff_exists, Option.isSome_iff_ne_none]

/-- `nameLength + 1` wraps to 0. -/
def DeclaresWrapping (code : UInt8) (received : List UInt8) : Prop :=
  Command.ofCode code = some .setConnectionName ∧ receivedField UInt32 0 received = 4294967295

section Writes

def CharArray.WritesInside (array : CharArray) : Prop :=
  ∀ first count, .write first count ∈ array.accesses →
    (Access.write first count).Within array.length

theorem CharArray.Inside.writes {array : CharArray} (inside : array.Inside) : array.WritesInside :=
  fun _ _ member => inside _ member

theorem CharArray.writesInside_scan {array : CharArray} (inside : array.Inside) :
    array.scan.WritesInside := by
  intro first count member
  rcases List.mem_append.mp member with earlier | scanned
  · exact inside _ earlier
  · cases List.mem_singleton.mp scanned

/-- Serving the command, nothing is written outside of an array. -/
def WritesInside (env : Environment Outside) (world : World Outside) (code : UInt8) : Prop :=
  ∀ command : SizedCommand, Command.ofCode code = some command.command →
    ∀ keepSocketOpen array,
      (command.handle.run (answer env) world).value = some (keepSocketOpen, array) →
        array.WritesInside

/-- `Memory::read` counts no more bytes than it was asked for. -/
def CountsBounded (env : Environment Outside) : Prop :=
  ∀ processID address size outside,
    (env.respond (.memoryRead processID address size) outside).1.1 ≤ size

variable {env : Environment Outside}

theorem admitted_of_bounded (bounded : CountsBounded env) {Value : Type} {handler : Handler Value}
    {world : World Outside} :
    ∀ event ∈ (handler.run (answer env) world).trace, Admitted event.op event.response := by
  rintro ⟨op, response⟩ member
  obtain ⟨before, later, made⟩ := Program.answered_of_mem_trace member
  cases op with
  | memoryRead processID address size =>
      simp only [answer, ask, Option.some.injEq, Prod.mk.injEq] at made
      rw [← made.1]
      exact bounded processID address size before.outside
  | _ => exact admitted_of_answer made fun _ _ _ => by simp

theorem setName_writes (nameLength : UInt32) :
    Ensures (fun name => name.WritesInside ↔ nameLength ≠ 4294967295)
      (SizedCommand.setName nameLength) := by
  by_cases wraps : nameLength = 4294967295
  · subst wraps
    intro bytes allocated received fits _ _
    refine iff_of_false (fun writes => ?_) fun other => other rfl
    have stored := writes 4294967295 1
      (List.mem_append_left _ (List.mem_append_right _ List.mem_cons_self))
    rcases within_write.mp stored with none | bounded
    · cases none
    · exact absurd (show 4294967296 ≤ 0 from bounded) (by decide)
  · refine (SizedCommand.setName_ensures nameLength).mono fun used inside => ?_
    exact iff_of_true (inside.mpr wraps).writes wraps

theorem getSymbolList_writes (symbolPathSize : Int32) :
    Ensures CharArray.WritesInside (SizedCommand.getSymbolList symbolPathSize) := by
  refine CharArray.ensures_new fun symbolPath _ sound => ?_
  refine CharArray.ensures_receive sound (Nat.le_refl _) fun symbolPath sound => ?_
  exact fun _ _ => CharArray.writesInside_scan sound.inside

theorem handle_writes {command : SizedCommand} (other : command ≠ .setConnectionName) :
    Ensures CharArray.WritesInside command.handle := by
  cases command with
  | setConnectionName => exact absurd rfl other
  | getSymbolListFromFile => exact Program.YieldsGiven.bind _ getSymbolList_writes
  | writeProcessMemory =>
      refine Program.YieldsGiven.bind _ fun handle => Program.YieldsGiven.bind _ fun address => ?_
      refine Program.YieldsGiven.bind _ fun size => ?_
      exact (SizedCommand.write_ensures handle address size).mono fun _ inside => inside.writes
  | readProcessMemory =>
      refine Program.YieldsGiven.bind _ fun handle => Program.YieldsGiven.bind _ fun address => ?_
      refine Program.YieldsGiven.bind _ fun size => Program.YieldsGiven.bind _ fun compress => ?_
      exact (SizedCommand.handleRead_ensures handle address size compress).mono
        fun _ inside => inside.writes

theorem setName_writesInside_iff (bounded : CountsBounded env) (world : World Outside) :
    (∀ keepSocketOpen array,
      (SizedCommand.setConnectionName.handle.run (answer env) world).value =
        some (keepSocketOpen, array) → array.WritesInside) ↔
      receivedField UInt32 0 world.input ≠ 4294967295 := by
  have fits (keepSocketOpen : Bool) (array : CharArray) (returned :
      (SizedCommand.setConnectionName.handle.run (answer env) world).value =
        some (keepSocketOpen, array)) :
      array.WritesInside ↔ receivedField UInt32 0 world.input ≠ 4294967295 := by
    have run : SizedCommand.setConnectionName.handle.run (answer env) world = _ :=
      run_read UInt32 SizedCommand.setName world
    rw [run] at returned
    exact (setName_writes (receivedField UInt32 0 world.input)).value
      (admitted_of_bounded bounded) returned
  obtain ⟨⟨keepSocketOpen, array⟩, returned, _⟩ :=
    Option.map_eq_some_iff.mp (handle_keeps env .setConnectionName world)
  constructor
  · intro writes
    exact (fits keepSocketOpen array returned).mp (writes keepSocketOpen array returned)
  · intro length keepSocketOpen array returned
    exact (fits keepSocketOpen array returned).mpr length

theorem writesInside_iff (bounded : CountsBounded env) (world : World Outside) (code : UInt8) :
    WritesInside env world code ↔ ¬DeclaresWrapping code world.input := by
  constructor
  · rintro writes ⟨named, wraps⟩
    exact (setName_writesInside_iff bounded world).mp (writes .setConnectionName named) wraps
  · intro fits command named
    by_cases names : command = .setConnectionName
    · subst names
      exact (setName_writesInside_iff bounded world).mpr fun wraps => fits ⟨named, wraps⟩
    · exact fun keepSocketOpen array returned =>
        (handle_writes names).value (admitted_of_bounded bounded) returned

end Writes

section Connections

variable {env : Environment Outside}

/-- The connection comes to call `dispatchCommand` with this command and world. -/
inductive Dispatches (env : Environment Outside) : World Outside → UInt8 → World Outside → Prop
  | now {world : World Outside} {code : UInt8} {received : List UInt8}
      (arrived : world.input = code :: received) :
      Dispatches env world code { world with input := received }
  | later {world called : World Outside} {first code : UInt8} {received : List UInt8}
      (arrived : world.input = first :: received)
      (keeps : ((Client.dispatchCommand first).run (answer env)
        { world with input := received }).value = some true)
      (rest : Dispatches env ((Client.dispatchCommand first).run (answer env)
        { world with input := received }).world code called) : Dispatches env world code called

theorem dispatches_of_threw {turns : Nat} {world : World Outside}
    (threw : (handleClientConnection env turns world).status = .threw) :
    ∃ code called, Dispatches env world code called ∧
      ((Client.dispatchCommand code).run (answer env) called).value = none := by
  induction turns generalizing world with
  | zero => exact nomatch threw
  | succ turns ih =>
      cases arrived : world.input with
      | nil =>
          rw [handleClientConnection_idle turns arrived] at threw
          exact ih threw
      | cons code received =>
          cases value : ((Client.dispatchCommand code).run (answer env)
              { world with input := received }).value with
          | none => exact ⟨code, _, .now arrived, value⟩
          | some keepSocketOpen =>
              cases keepSocketOpen with
              | false =>
                  rw [handleClientConnection_refuses turns arrived value] at threw
                  exact nomatch threw
              | true =>
                  rw [handleClientConnection_keeps turns arrived value] at threw
                  obtain ⟨later, called, dispatches, throws⟩ := ih threw
                  exact ⟨later, called, .later arrived value dispatches, throws⟩

theorem threw_of_dispatches {world called : World Outside} {code : UInt8}
    (dispatches : Dispatches env world code called)
    (throws : ((Client.dispatchCommand code).run (answer env) called).value = none) :
    ∃ turns, (handleClientConnection env turns world).status = .threw := by
  induction dispatches with
  | now arrived => exact ⟨1, handleClientConnection_throws 0 arrived throws⟩
  | later arrived keeps _ ih =>
      obtain ⟨turns, threw⟩ := ih throws
      refine ⟨turns + 1, ?_⟩
      rw [handleClientConnection_keeps turns arrived keeps]
      exact threw

/-- A command returns, and has written nothing outside of an array, exactly when
it declares neither a negative length nor the one that wraps; so does every
command that a connection serves. -/
theorem handleClientConnection_returns_iff (env : Environment Outside)
    (bounded : CountsBounded env) :
    (∀ (world : World Outside) (code : UInt8),
      ((∃ keepSocketOpen, ((Client.dispatchCommand code).run (answer env) world).value =
          some keepSocketOpen) ∧ WritesInside env world code) ↔
        ¬DeclaresNegative code world.input ∧ ¬DeclaresWrapping code world.input) ∧
      ∀ world : World Outside,
        ((∀ turns, (handleClientConnection env turns world).status ≠ .threw) ∧
            ∀ code called, Dispatches env world code called → WritesInside env called code) ↔
          ∀ code called, Dispatches env world code called →
            ¬DeclaresNegative code called.input ∧ ¬DeclaresWrapping code called.input := by
  refine ⟨fun world code => ?_, fun world => ?_⟩
  · rw [dispatchCommand_returns_iff, writesInside_iff bounded]
  · constructor
    · rintro ⟨returns, writes⟩ code called dispatches
      refine ⟨fun negative => ?_, (writesInside_iff bounded called code).mp
        (writes code called dispatches)⟩
      have throws : ((Client.dispatchCommand code).run (answer env) called).value = none :=
        (dispatchCommand_value env code called).trans
          ((commandKeepsSocketOpen_eq_none_iff env called code).mpr negative)
      obtain ⟨turns, threw⟩ := threw_of_dispatches dispatches throws
      exact returns turns threw
    · intro harmless
      refine ⟨fun turns threw => ?_, fun code called dispatches =>
        (writesInside_iff bounded called code).mpr (harmless code called dispatches).2⟩
      obtain ⟨code, called, dispatches, throws⟩ := dispatches_of_threw threw
      obtain ⟨keepSocketOpen, returned⟩ :=
        (dispatchCommand_returns_iff env called code).mpr (harmless code called dispatches).1
      rw [throws] at returned
      cases returned

/-- A connection whose client asks for the version and leaves. -/
theorem handleClientConnection_returns_iff_version :
    let world : World Unit := { input := [Command.getVersion.code], outside := () }
    CountsBounded .healthy ∧
      (∀ turns, (handleClientConnection .healthy turns world).status ≠ .threw) ∧
        ∀ code called, Dispatches .healthy world code called →
          WritesInside .healthy called code := by
  intro world
  have bounded : CountsBounded .healthy := fun _ _ size _ => UInt64.le_refl size
  refine ⟨bounded, ((handleClientConnection_returns_iff .healthy bounded).2 world).mpr ?_⟩
  intro code called dispatches
  cases dispatches with
  | now arrived =>
      obtain ⟨rfl, rfl⟩ := List.cons.inj arrived
      refine ⟨?_, fun wraps => ?_⟩
      · rintro ⟨command, length, named, declared, _⟩
        obtain rfl := Option.some.inj ((Command.ofCode_code .getVersion).symm.trans named)
        cases declared
      · have named := (Command.ofCode_code .getVersion).symm.trans wraps.1
        cases named
  | later arrived keeps rest =>
      obtain ⟨rfl, rfl⟩ := List.cons.inj arrived
      cases rest with
      | now next => cases next
      | later next => cases next

end Connections

/-- WRITEPROCESSMEMORY with the length -1. -/
theorem handleClientConnection_throws_negative :
    ¬∀ (world : World Unit) (turns : Nat),
      (handleClientConnection .healthy turns world).status ≠ .threw := by
  intro returns
  let received : List UInt8 := List.replicate 12 0 ++ [255, 255, 255, 255]
  let world : World Unit := { input := Command.writeProcessMemory.code :: received, outside := () }
  have declares : DeclaresNegative Command.writeProcessMemory.code received :=
    ⟨_, _, Command.ofCode_code _, rfl, by decide⟩
  have throws := (commandKeepsSocketOpen_eq_none_iff .healthy { world with input := received }
    Command.writeProcessMemory.code).mpr declares
  obtain ⟨turns, threw⟩ := threw_of_dispatches (.now rfl) ((dispatchCommand_value ..).trans throws)
  exact returns world turns threw

end CeServer
