import CeServer.Truncation

/-!
How a connection ends. After the peer's close every receive returns 0, and the
loop goes round again; only a command it refuses makes it close the socket.
-/

namespace CeServer

open LittleEndian Interaction

variable {Outside : Type} {env : Environment Outside} {Value : Type}

def Op.Returns : Op → Prop
  | .newCharArray size => 0 ≤ size
  | _ => True

theorem returns_of_madeBy {op : Op} {command : Command} (made : op.madeBy command) :
    op.Returns := by
  cases op with
  | newCharArray size =>
      rw [Op.madeBy, Bool.and_eq_true, decide_eq_true_eq] at made
      exact made.2
  | _ => trivial

theorem covers_returns (command : Command) : Covers (.within Op.Returns) command :=
  covers_within fun _ => returns_of_madeBy

theorem answer_returns (env : Environment Outside) {op : Op} (returns : op.Returns)
    (world : World Outside) : (answer env op world).isSome := by
  cases op with
  | newCharArray size =>
      have nonneg : ¬size < 0 := Int.not_lt.mpr returns
      simp [answer, nonneg]
  | readProcessInfo entry | readMemoryRegion entry =>
      simp only [answer, ask]
      split <;> simp
  | _ => simp [answer, ask]

theorem value_of_yields (env : Environment Outside) {handler : Handler Value}
    {result : Value} (returns : handler.Uses Op.Returns) (yields : handler.Yields (· = result))
    (world : World Outside) : (handler.run (answer env) world).value = some result := by
  obtain ⟨value, returned⟩ := returns.returns (fun _ allowed => answer_returns env allowed) world
  rw [returned, yields.value returned]

theorem keepOpen_value (env : Environment Outside) {handler : Handler Unit}
    (returns : handler.Uses Op.Returns) (world : World Outside) :
    ((Client.keepOpen handler).run (answer env) world).value = some true :=
  value_of_yields env (Client.keepOpen_uses returns)
    (Program.Yields.bind handler fun _ => rfl) world

/-- Whether a command keeps the socket open, by the fields at the front of the
stream; `none` is a negative array length, which throws. -/
def keepsSocketOpen (env : Environment Outside) (world : World Outside) : Command → Option Bool
  | .closeConnection | .terminateServer => some false
  | .readProcessMemory =>
      some (decide (receivedField UInt8 16 world.input = 0) &&
        world.state.containsProcessIDHandle (receivedField CE_HANDLE 0 world.input))
  | .writeProcessMemory =>
      let handle := receivedField CE_HANDLE 0 world.input
      let size := receivedField Int32 12 world.input
      if size.toInt < 0 then none
      else
        -- only a write of all the bytes keeps the socket open
        let written := (env.respond (.memoryWrite (world.state.getProcessID handle)
          (receivedField UInt64 4 world.input) (writeBuffer env world size.toInt.toNat))
          (env.respond (.newCharArray size.toInt) world.outside).2).1
        some (world.state.containsProcessIDHandle handle && written == size.toInt64.toUInt64)
  | .getSymbolListFromFile =>
      if (receivedField Int32 0 world.input).toInt < 0 then none else some true
  | .virtualQueryEx | .getRegionInfo | .virtualQueryExFull =>
      some (world.state.containsProcessIDHandle (receivedField CE_HANDLE 0 world.input))
  | .getArchitecture =>
      (Client.selectHandle.run (answer env) world).value.map world.state.containsProcessIDHandle
  | _ => some true

section Values

theorem value_read (T : Type) [Word T] (rest : T → Handler Value) (world : World Outside) :
    ((read T >>= rest).run (answer env) world).value =
      ((rest (Word.ofBytes (world.input.take (Word.width T)))).run (answer env)
        { world with input := world.input.drop (Word.width T) }).value := by
  rw [run_read, Outcome.after_value]

/-- A handler that refuses an unknown handle and answers for any other. -/
def Answers (handle : CE_HANDLE) (handler : Handler Bool) : Prop :=
  ∃ body : Handler Bool, body.Yields (· = true) ∧ handler = do
    if !(← invoke (.state (.containsProcessIDHandle handle))) then
      return false
    else
      body

theorem Answers.value (env : Environment Outside) {handle : CE_HANDLE} {handler : Handler Bool}
    (answers : Answers handle handler) (returns : handler.Uses Op.Returns)
    (world : World Outside) :
    (handler.run (answer env) world).value = some (world.state.containsProcessIDHandle handle) := by
  obtain ⟨body, yields, rfl⟩ := answers
  have body_returns : body.Uses Op.Returns := returns.2 true
  simp only [invoke, Program.call_bind, Program.ret_bind]
  rw [Program.run_call_of_answer (world.state.containsProcessIDHandle handle) world rfl,
    Outcome.after_value]
  cases world.state.containsProcessIDHandle handle with
  | false => rfl
  | true => exact value_of_yields env body_returns yields world

theorem regionInfo_answers (named : Bool) (handle : CE_HANDLE) (address : UInt64) :
    Answers handle (Client.regionInfo named handle address) := by
  refine ⟨_, ?_, rfl⟩
  refine Program.yields_ite.mpr ⟨fun _ => Program.Yields.bind _ fun _ => rfl, fun _ => ?_⟩
  refine Program.Yields.bind _ fun _ => Program.Yields.bind _ fun regions =>
    Program.Yields.bind _ fun _ => ?_
  cases named with
  | false => rfl
  | true =>
      refine Program.Yields.bind _ fun _ => Program.yields_ite.mpr ⟨fun _ => ?_, fun _ => rfl⟩
      exact Program.Yields.bind _ fun _ => rfl

theorem virtualQueryExFull_answers (handle : CE_HANDLE) (flags : UInt8) :
    Answers handle (Client.virtualQueryExFull handle flags) := by
  refine ⟨_, ?_, rfl⟩
  refine Program.Yields.bind _ fun _ => Program.Yields.bind _ fun regions =>
    Program.Yields.bind _ fun _ => ?_
  exact Program.Yields.bind _ fun _ => rfl

theorem readProcessMemory_answers (handle : CE_HANDLE) (address : UInt64) (size : UInt32) :
    Answers handle (Client.readProcessMemory handle address size 0) := by
  refine ⟨_, ?_, rfl⟩
  refine Program.yields_ite.mpr ⟨fun _ => Program.Yields.bind _ fun _ => rfl, fun _ => ?_⟩
  refine Program.yields_ite.mpr ⟨fun _ => Program.Yields.bind _ fun _ => rfl, fun _ => ?_⟩
  refine Program.Yields.bind _ fun _ => Program.Yields.bind _ fun _ =>
    Program.Yields.bind _ fun result => ?_
  refine Program.yields_ite.mpr ⟨fun _ => Program.Yields.bind _ fun _ => rfl, fun _ => ?_⟩
  exact Program.Yields.bind _ fun _ => Program.Yields.bind _ fun _ => rfl

theorem getArchitecture_answers (handle : CE_HANDLE) :
    Answers handle (Client.getArchitecture handle) := by
  refine ⟨_, ?_, rfl⟩
  exact Program.Yields.bind _ fun _ => Program.Yields.bind _ fun _ =>
    Program.Yields.bind _ fun _ => rfl

/-- A compressed read is refused before the handle is checked. -/
theorem readProcessMemory_compressed {compress : UInt8} (compressed : compress ≠ 0)
    (handle : CE_HANDLE) (address : UInt64) (size : UInt32) :
    Client.readProcessMemory handle address size compress = return false :=
  if_pos compressed

theorem readProcessMemory_value (handle : CE_HANDLE) (address : UInt64) (size : UInt32)
    (compress : UInt8) (world : World Outside) :
    ((Client.readProcessMemory handle address size compress).run (answer env) world).value =
      some (decide (compress = 0) && world.state.containsProcessIDHandle handle) := by
  by_cases plain : compress = 0
  · subst plain
    exact (readProcessMemory_answers handle address size).value env
      (Client.readProcessMemory_stays (covers_returns _) handle address size 0).uses world
  · rw [readProcessMemory_compressed plain, decide_eq_false plain]
    rfl

theorem handleCommandGetArchitecture_value (world : World Outside) :
    (Client.handleCommandGetArchitecture.run (answer env) world).value =
      (Client.selectHandle.run (answer env) world).value.map
        world.state.containsProcessIDHandle := by
  have kept : (Client.selectHandle.run (answer env) world).world.state = world.state :=
    (noEffect_of_inert (Client.selectHandle_stays (fun _ => inert_of_polls)
      fun _ => False.elim).uses world).state
  rw [Client.handleCommandGetArchitecture, Program.run_bind]
  cases (Client.selectHandle.run (answer env) world).value with
  | none => rfl
  | some handle =>
      rw [Outcome.after_value, (getArchitecture_answers handle).value env
        (Client.getArchitecture_stays (covers_returns _) handle).uses, kept, Option.map_some]

theorem writeProcessMemory_value (handle : CE_HANDLE) (address : UInt64) (size : Int32)
    (buffer : List UInt8) (world : World Outside) :
    ((Client.writeProcessMemory handle address size buffer).run (answer env) world).value =
      some (world.state.containsProcessIDHandle handle &&
        (env.respond (.memoryWrite (world.state.getProcessID handle) address buffer)
          world.outside).1 == size.toInt64.toUInt64) := by
  simp only [Client.writeProcessMemory, invoke, Program.call_bind, Program.ret_bind]
  rw [Program.run_call_of_answer (world.state.containsProcessIDHandle handle) world rfl,
    Outcome.after_value]
  cases world.state.containsProcessIDHandle handle with
  | false => rfl
  | true =>
      let written := env.respond
        (.memoryWrite (world.state.getProcessID handle) address buffer) world.outside
      simp only [Bool.not_true, Bool.false_eq_true, if_false, Bool.true_and]
      rw [Program.run_call_of_answer (world.state.getProcessID handle) world rfl,
        Program.run_call_of_answer written.1 { world with outside := written.2 } rfl]
      have unsigned : ¬written.1 < 0 := UInt64.not_lt_zero
      simp only [Outcome.after_value, unsigned, if_false]
      rfl

theorem handleCommandWriteProcessMemory_value (world : World Outside) :
    (Client.handleCommandWriteProcessMemory.run (answer env) world).value =
      keepsSocketOpen env world .writeProcessMemory := by
  simp only [keepsSocketOpen]
  split
  · rename_i negative
    obtain ⟨past, _, fields⟩ := run_writeFields env world
    have thrown : answer env (.newCharArray (receivedField Int32 12 world.input).toInt)
        { world with input := world.input.drop 16 } = none := by
      simp only [answer, if_pos negative]
    rw [fields, writeBody, invoke, Program.call_bind, Program.run_call_of_throw thrown]
    rfl
  · rename_i nonneg
    have sized : (receivedField Int32 12 world.input).toInt =
        ((receivedField Int32 12 world.input).toInt.toNat : Int) := by omega
    obtain ⟨past, _, runs⟩ := run_handleCommandWriteProcessMemory env world sized
    rw [runs, Outcome.after_value, writeProcessMemory_value, ← sized]

theorem handleCommandGetSymbolListFromFile_value (world : World Outside) :
    ((Client.keepOpen Client.handleCommandGetSymbolListFromFile).run (answer env) world).value =
      keepsSocketOpen env world .getSymbolListFromFile := by
  let size : Int32 := receivedField Int32 0 world.input
  let body : Handler Bool := do
    let symbolPath ← invoke (.newCharArray size.toInt)
    let _ ← readBuffer symbolPath size.toInt.toNat
    send (0 : UInt64)
    return true
  have fields : ((Client.keepOpen Client.handleCommandGetSymbolListFromFile).run (answer env)
      world).value = (body.run (answer env) { world with input := world.input.drop 4 }).value := by
    simp only [Client.keepOpen, Client.handleCommandGetSymbolListFromFile, Program.bind_assoc]
    exact value_read Int32 _ world
  rw [fields, keepsSocketOpen]
  split
  · rename_i negative
    have thrown : answer env (.newCharArray size.toInt)
        { world with input := world.input.drop 4 } = none := by
      simp only [answer, if_pos negative, size]
    exact congrArg Outcome.value (Program.run_call_of_throw thrown _)
  · rename_i nonneg
    refine value_of_yields env ?_ ?_ _
    · exact ⟨Int.not_lt.mp nonneg, fun _ => ⟨trivial, fun _ => ⟨trivial, fun _ => trivial⟩⟩⟩
    · exact Program.Yields.bind _ fun _ => Program.Yields.bind _ fun _ =>
        Program.Yields.bind _ fun _ => rfl

theorem handle_returns {command : Command} (unsized : command.declaresLength = false) :
    (Client.handle command).Uses Op.Returns :=
  (Client.handle_stays (coversAll_within (fun _ => returns_of_madeBy) (fun _ => trivial)
    (fun sized => absurd (unsized.symm.trans sized) Bool.false_ne_true)
    fun _ op _ => by cases op <;> trivial)).uses

/-- What a handler returns depends on the fields it reads and on the shared
state as `keepsSocketOpen` says. -/
theorem handle_value (env : Environment Outside) (command : Command) (world : World Outside) :
    ((Client.handle command).run (answer env) world).value = keepsSocketOpen env world command := by
  cases command with
  | closeConnection | terminateServer => rfl
  | setConnectionName =>
      refine keepOpen_value env ?_ world
      have field : (read UInt32).Uses Op.Returns := ⟨trivial, fun _ => trivial⟩
      exact field.bind fun size =>
        ⟨Int.natCast_nonneg _, fun _ => ⟨trivial, fun _ => ⟨trivial, fun _ => trivial⟩⟩⟩
  | virtualQueryEx | getRegionInfo =>
      refine (value_read CE_HANDLE _ world).trans ((value_read UInt64 _ _).trans ?_)
      exact (regionInfo_answers ..).value env
        (Client.regionInfo_stays _ (covers_returns _) _ _).uses _
  | virtualQueryExFull =>
      refine (value_read CE_HANDLE _ world).trans ((value_read UInt8 _ _).trans ?_)
      exact (virtualQueryExFull_answers ..).value env
        (Client.virtualQueryExFull_stays (covers_returns _) _ _).uses _
  | readProcessMemory =>
      refine (value_read CE_HANDLE _ world).trans ((value_read UInt64 _ _).trans ?_)
      refine (value_read UInt32 _ _).trans ((value_read UInt8 _ _).trans ?_)
      have compress : Word.ofBytes ((((world.input.drop 4).drop 8).drop 4).take 1) =
          receivedField UInt8 16 world.input := by
        rw [List.drop_drop, List.drop_drop]
        rfl
      rw [readProcessMemory_value, keepsSocketOpen, ← compress]
      rfl
  | writeProcessMemory => exact handleCommandWriteProcessMemory_value world
  | getArchitecture => exact handleCommandGetArchitecture_value world
  | getSymbolListFromFile =>
      exact handleCommandGetSymbolListFromFile_value world
  | _ =>
      refine value_of_yields env (handle_returns rfl) ?_ world
      exact Program.Yields.bind _ fun _ => rfl

end Values

def commandKeepsSocketOpen (env : Environment Outside) (world : World Outside) (code : UInt8) :
    Option Bool :=
  match Command.ofCode code with
  | some command => keepsSocketOpen env world command
  | none => some false

theorem dispatchCommand_value (env : Environment Outside) (code : UInt8) (world : World Outside) :
    ((Client.dispatchCommand code).run (answer env) world).value =
      commandKeepsSocketOpen env world code := by
  unfold Client.dispatchCommand commandKeepsSocketOpen
  cases Command.ofCode code with
  | none => rfl
  | some command => exact handle_value env command world

/-- Among the commands of the stream one is refused, and each before it is served. -/
inductive EndsRefused (env : Environment Outside) : World Outside → Prop
  | refused {world : World Outside} {code : UInt8} {received : List UInt8}
      (arrived : world.input = code :: received)
      (refuses : commandKeepsSocketOpen env { world with input := received } code = some false) :
      EndsRefused env world
  | served {world : World Outside} {code : UInt8} {received : List UInt8}
      (arrived : world.input = code :: received)
      (keeps : commandKeepsSocketOpen env { world with input := received } code = some true)
      (later : EndsRefused env ((Client.dispatchCommand code).run (answer env)
        { world with input := received }).world) : EndsRefused env world

open Server

/-- A connection whose peer has closed is released exactly when a command of its
stream is refused. -/
theorem handleClientConnection_released_iff (env : Environment Outside) (world : World Outside) :
    (∃ turns, (handleClientConnection env turns world).status = .returned ∧
      ⟨.close, ()⟩ ∈ (handleClientConnection env turns world).trace) ↔ EndsRefused env world := by
  constructor
  · rintro ⟨turns, returned, closes⟩
    clear closes
    induction turns generalizing world with
    | zero => simp [handleClientConnection] at returned
    | succ turns ih =>
        cases arrived : world.input with
        | nil =>
            rw [handleClientConnection_idle turns arrived] at returned
            exact ih world returned
        | cons code received =>
            have value := dispatchCommand_value env code { world with input := received }
            cases keeps : commandKeepsSocketOpen env { world with input := received } code with
            | none =>
                rw [handleClientConnection_throws turns arrived (value.trans keeps)] at returned
                exact absurd returned (by decide)
            | some keepSocketOpen =>
                cases keepSocketOpen with
                | false => exact EndsRefused.refused arrived keeps
                | true =>
                    rw [handleClientConnection_keeps turns arrived (value.trans keeps)] at returned
                    exact EndsRefused.served arrived keeps (ih _ returned)
  · intro refused
    induction refused with
    | @refused world code received arrived refuses =>
        have value := dispatchCommand_value env code { world with input := received }
        refine ⟨1, ?_⟩
        rw [handleClientConnection_refuses 0 arrived (value.trans refuses)]
        exact ⟨rfl, by simp⟩
    | @served world code received arrived keeps later ih =>
        obtain ⟨turns, returned, closes⟩ := ih
        have value := dispatchCommand_value env code { world with input := received }
        refine ⟨turns + 1, ?_⟩
        rw [handleClientConnection_keeps turns arrived (value.trans keeps)]
        exact ⟨returned, List.mem_append_right _ closes⟩

/-- Once nothing is left of the stream the loop goes round for ever. -/
theorem handleClientConnection_spins (env : Environment Outside) (turns : Nat)
    {world : World Outside} (ended : world.input = []) :
    (handleClientConnection env turns world).status = .running := by
  induction turns with
  | zero => rfl
  | succ turns ih =>
      rw [handleClientConnection_idle turns ended]
      exact ih

theorem handleClientConnection_notReleased :
    ¬∀ world : World Unit, ∃ turns,
      (handleClientConnection .healthy turns world).status = .returned ∧
        ⟨.close, ()⟩ ∈ (handleClientConnection .healthy turns world).trace := by
  intro released
  obtain ⟨turns, returned, _⟩ := released ⟨[], [], {}, [], false, ()⟩
  rw [handleClientConnection_spins .healthy turns rfl] at returned
  exact absurd returned (by decide)

end CeServer
