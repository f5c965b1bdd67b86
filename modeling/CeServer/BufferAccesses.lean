import CeServer.Readers
import CeServer.WriteReplies

/-!
Every index at which the handlers touch the arrays they allocate for a length
the client declares.
-/

namespace CeServer

open LittleEndian Interaction

variable {Outside : Type} {env : Environment Outside} {Value : Type}

section Counts

namespace Memory

open Transition

variable {Thread Device Scatter : Type} {dma : Dma Device Scatter}
  {before after : MemoryState Thread Device Scatter} {event : MemoryEvent Thread Device}

/-- The device never counts more bytes than it was asked for. -/
structure CountsWithin (dma : Dma Device Scatter) : Prop where
  memReadEx : ∀ device pid address size, (dma.memReadEx device pid address size).read ≤ size
  scatterRead : ∀ handle address size, (dma.scatterRead handle address size).read ≤ size

structure Counted (item : BacklogItem Thread) : Prop where
  promised : ∀ read buffer, item.promise.value = some (read, buffer) → read ≤ item.size
  copied : item.promiseRead = true → item.read ≤ item.size

structure Counts (state : MemoryState Thread Device Scatter) : Prop where
  items : ∀ item, Counted (state.items item)
  filled : ∀ path item read buffer todo,
    state.dispatcher = .filled path item read buffer todo → read ≤ (state.items item).size

theorem counted_fresh (request : ReadRequest) :
    Counted ({ request with } : BacklogItem Thread) :=
  ⟨nofun, nofun⟩

theorem counts_start (device : Device) :
    Counts (start device : MemoryState Thread Device Scatter) :=
  ⟨fun _ => ⟨nofun, nofun⟩, nofun⟩

theorem counted_update {items : ItemId → BacklogItem Thread} {item : ItemId}
    {value : BacklogItem Thread} (all : ∀ other, Counted (items other)) (new : Counted value)
    (other : ItemId) : Counted (Function.update items item value other) := by
  by_cases here : other = item
  · rw [here, Function.update_self]
    exact new
  · rw [Function.update_of_ne here]
    exact all other

theorem readPath_within (counts : CountsWithin dma) (device : Device) (request : ReadRequest)
    (path : DispatchPath Scatter) :
    (readPath dma device request path).read.toUInt64 ≤ request.size := by
  have reported : (readPath dma device request path).read ≤ request.size.toUInt32 := by
    cases path with
    | sequential pid => exact counts.memReadEx device pid request.address _
    | scatter handle => exact counts.scatterRead handle request.address _
  have bounded : (readPath dma device request path).read.toNat ≤ request.size.toUInt32.toNat :=
    UInt32.le_iff_toNat_le.mp reported
  rw [UInt64.toNat_toUInt32] at bounded
  rw [UInt64.le_iff_toNat_le, UInt32.toNat_toUInt64]
  exact bounded.trans (Nat.mod_le _ _)

theorem Counts.of_same (counts : Counts before) (items : after.items = before.items)
    (filled : ∀ path item read buffer todo,
      after.dispatcher = .filled path item read buffer todo →
      before.dispatcher = .filled path item read buffer todo) : Counts after := by
  refine ⟨fun item => ?_, fun path item read buffer todo now => ?_⟩
  · rw [items]
    exact counts.items item
  · rw [items]
    exact counts.filled path item read buffer todo (filled path item read buffer todo now)

theorem Counts.update (counts : Counts before) {item : ItemId} {value : BacklogItem Thread}
    (items : after.items = Function.update before.items item value) (counted : Counted value)
    (sized : value.size = (before.items item).size)
    (filled : ∀ path item read buffer todo,
      after.dispatcher = .filled path item read buffer todo →
      before.dispatcher = .filled path item read buffer todo) : Counts after := by
  refine ⟨fun other => ?_, fun path other read buffer todo now => ?_⟩
  · rw [items]
    exact counted_update counts.items counted other
  · have kept := view_update (fun item => item.size) sized other
    rw [items]
    exact (counts.filled path other read buffer todo (filled _ _ _ _ _ now)).trans_eq kept.symm

theorem Counts.step [DecidableEq Thread] (within : CountsWithin dma) (counts : Counts before)
    (served : Served before) (act : Act dma before event after) : Counts after := by
  cases act with
  | create calling missing =>
      refine ⟨counted_update counts.items (counted_fresh _), ?_⟩
      intro path item read buffer todo filled
      have now := Dispatcher.notified_eq_filled.mp filled
      have member : item ∈ before.dispatcher.todo := by
        rw [now]
        exact List.mem_cons_self
      have old : item ≠ before.created :=
        Nat.ne_of_lt (served.queue.working item member).1
      simp only [Function.update_of_ne old]
      exact counts.filled path item read buffer todo now
  | @retrieve thread first request item locking unlocked unread fresh =>
      have held := counts.items item
      exact counts.update rfl ⟨held.promised, held.copied⟩ rfl fun _ _ _ _ _ => id
  | @copy thread first request item read buffer copying =>
      have held := counts.items item
      obtain ⟨_, _, _, _, value⟩ := served.readers.reader thread _ _ _ _ copying
      exact counts.update rfl ⟨held.promised, fun _ => held.promised _ _ value⟩ rfl
        fun _ _ _ _ _ => id
  | @fill path item todo result reading read =>
      refine ⟨counts.items, ?_⟩
      rintro _ _ _ _ _ ⟨⟩
      rw [read]
      exact readPath_within within before.device _ path
  | @setValue path item read buffer todo filled unset =>
      have held := counts.items item
      refine counts.update rfl ⟨?_, held.copied⟩ rfl ?_
      · rintro _ _ ⟨⟩
        exact counts.filled path item read buffer todo filled
      · intro _ _ _ _ _ now
        cases path <;> simp [afterSet] at now
  | notifyStop =>
      exact counts.of_same rfl fun _ _ _ _ _ => Dispatcher.notified_eq_filled.mp
  | acquire | testStop | testEmpty | waitTest =>
      refine counts.of_same rfl fun path item read buffer todo filled => ?_
      dsimp only at filled
      split at filled <;> simp at filled
  | wakeSpuriously | formBatch | prepare | execute | setTwice | finish | release | memFree =>
      exact counts.of_same rfl nofun
  | callRead | join | refuse | reuse | retrieveTwice | wake | returnRead | callWrite
    | acquireWrite | memWrite | returnWrite | change | setStop =>
      exact counts.of_same rfl fun _ _ _ _ _ => id

structure Reported (state : MemoryState Thread Device Scatter) : Prop where
  served : Served state
  counts : Counts state

/-- A count and bytes that `Memory::read` can return for the request. -/
def Returns (dma : Dma Device Scatter) (request : ReadRequest) (answer : UInt64 × List UInt8) :
    Prop :=
  ∃ (Thread : Type) (_ : DecidableEq Thread) (device : Device)
    (events : List (MemoryEvent Thread Device)) (state : MemoryState Thread Device Scatter),
    Run (Steps (next dma)) (start device) events state ∧
      ∃ entry ∈ state.returnedReads, entry.request = request ∧
        answer = (entry.count, entry.bytes)

theorem Returns.within (within : CountsWithin dma) {request : ReadRequest}
    {answer : UInt64 × List UInt8} (returns : Returns dma request answer) :
    answer.1 ≤ request.size := by
  obtain ⟨Thread, _, device, events, state, run, entry, member, rfl, rfl⟩ := returns
  have reported : Reported state := run_invariant (unrestricted run)
    ⟨served_start device, counts_start device⟩
    (fun _ _ _ held _ act => ⟨held.served.step act, held.counts.step within held.served act⟩)
    fun _ past held => ⟨held.served.tick past, held.counts.of_same rfl fun _ _ _ _ _ => id⟩
  have logged := reported.served.readers.logged entry member
  have bounded := (reported.counts.items entry.item).copied logged.promiseRead
  rw [← logged.count] at bounded
  exact bounded.trans_eq (congrArg ReadRequest.size logged.request)

end Memory

end Counts

/-- `count` indices of an array from `first` on. -/
inductive Access
  | write (first count : Nat)
  | read (first count : Nat)
  deriving DecidableEq

def Access.Touches (index : Nat) : Access → Prop
  | write first count | read first count => first ≤ index ∧ index < first + count

/-- An array of `new char[]` and what has been done to it. -/
structure CharArray where
  length : Nat := 0
  bytes : List UInt8 := []
  accesses : List Access := []
  deriving DecidableEq

namespace CharArray

def Inside (array : CharArray) : Prop :=
  ∀ access ∈ array.accesses, ∀ index, access.Touches index → index < array.length

def new (size : Int) : Handler CharArray := do
  let bytes ← invoke (.newCharArray size)
  return { length := size.toNat, bytes }

def access (array : CharArray) (access : Access) : CharArray :=
  { array with accesses := array.accesses ++ [access] }

def overwrite (array : CharArray) (bytes : List UInt8) : CharArray :=
  { array with bytes := bytes ++ array.bytes.drop bytes.length }

/-- `Client::read` into the array writes the bytes that arrive. -/
def receive (array : CharArray) (size : Nat) : Handler CharArray := do
  let (_, bytes) ← invoke (.recv size)
  return (array.overwrite bytes).access (.write 0 bytes.length)

def store (array : CharArray) (index : Nat) (byte : UInt8) : CharArray :=
  { array with bytes := array.bytes.set index byte }.access (.write index 1)

/-- Used as a C string, the array is read up to the first NUL, and past its end
when it has none. -/
def scan (array : CharArray) : CharArray :=
  array.access (.read 0 ((cString array.bytes).length + 1))

end CharArray

/-- The handlers that allocate by a length of the request, with their arrays. -/
inductive SizedCommand
  | setConnectionName
  | getSymbolListFromFile
  | writeProcessMemory
  | readProcessMemory
  deriving DecidableEq

namespace SizedCommand

def command : SizedCommand → Command
  | setConnectionName => .setConnectionName
  | getSymbolListFromFile => .getSymbolListFromFile
  | writeProcessMemory => .writeProcessMemory
  | readProcessMemory => .readProcessMemory

def setName (nameLength : UInt32) : Handler (Bool × CharArray) := do
  let name ← CharArray.new (nameLength + 1).toNat
  let name ← name.receive nameLength.toNat
  let name := (name.store nameLength.toNat 0).scan
  invoke (.setConnectionName (cString name.bytes))
  return (true, name)

def handleCommandSetConnectionName : Handler (Bool × CharArray) := do
  let nameLength ← read UInt32
  setName nameLength

def getSymbolList (symbolPathSize : Int32) : Handler (Bool × CharArray) := do
  let symbolPath ← CharArray.new symbolPathSize.toInt
  let symbolPath ← symbolPath.receive symbolPathSize.toInt.toNat
  let symbolPath := symbolPath.scan
  send (0 : UInt64)
  return (true, symbolPath)

def handleCommandGetSymbolListFromFile : Handler (Bool × CharArray) := do
  let symbolPathSize ← read Int32
  getSymbolList symbolPathSize

/-- `Memory::write` passes the length on as a DWORD. -/
def handleWrite (handle : CE_HANDLE) (address : UInt64) (size : Int32) (buffer : CharArray) :
    Handler (Bool × CharArray) := do
  if !(← invoke (.state (.containsProcessIDHandle handle))) then
    return (false, buffer)
  else
    let processID ← invoke (.state (.getProcessID handle))
    let written ← invoke (.memoryWrite processID address buffer.bytes)
    let buffer := buffer.access (.read 0 size.toInt64.toUInt64.toUInt32.toNat)
    if written < 0 then
      send (0 : Int32)
      return (false, buffer)
    else
      send written.toUInt32.toInt32
      return (written == size.toInt64.toUInt64, buffer)

def handleCommandWriteProcessMemory : Handler (Bool × CharArray) := do
  let handle ← read CE_HANDLE
  let address ← read UInt64
  let size ← read Int32
  let buffer ← CharArray.new size.toInt
  let buffer ← buffer.receive size.toInt.toNat
  handleWrite handle address size buffer

/-- `Memory::read` copies as many bytes as it counts. -/
def handleRead (handle : CE_HANDLE) (address : UInt64) (size : UInt32) (compress : UInt8) :
    Handler (Bool × CharArray) := do
  if compress ≠ 0 then
    return (false, {})
  else if !(← invoke (.state (.containsProcessIDHandle handle))) then
    return (false, {})
  else if address ≤ 0 then
    send (0 : Int32)
    return (true, {})
  else if size ≤ 0 then
    send (0 : Int32)
    return (true, {})
  else
    let memoryContents ← CharArray.new size.toNat
    let processID ← invoke (.state (.getProcessID handle))
    let (count, contents) ← invoke (.memoryRead processID address size.toUInt64)
    let memoryContents := (memoryContents.overwrite contents).access (.write 0 count.toNat)
    if count ≤ 0 then
      send (0 : Int32)
      return (true, memoryContents)
    else
      send count.toUInt32.toInt32
      sendBytes (memoryContents.bytes.take count.toNat)
      return (true, memoryContents.access (.read 0 count.toNat))

def handleCommandReadProcessMemory : Handler (Bool × CharArray) := do
  let handle ← read CE_HANDLE
  let address ← read UInt64
  let size ← read UInt32
  let compress ← read UInt8
  handleRead handle address size compress

def handle : SizedCommand → Handler (Bool × CharArray)
  | setConnectionName => handleCommandSetConnectionName
  | getSymbolListFromFile => handleCommandGetSymbolListFromFile
  | writeProcessMemory => handleCommandWriteProcessMemory
  | readProcessMemory => handleCommandReadProcessMemory

end SizedCommand

section Erasure

open SizedCommand

def erase (handler : Handler (Bool × CharArray)) : Handler Bool := do
  let (keepSocketOpen, _) ← handler
  return keepSocketOpen

theorem erase_ite {condition : Prop} [Decidable condition]
    (first second : Handler (Bool × CharArray)) :
    erase (if condition then first else second) =
      if condition then erase first else erase second := by
  split <;> rfl

theorem erase_bind (handler : Handler Value) {rest : Value → Handler (Bool × CharArray)}
    {plain : Value → Handler Bool} (each : ∀ value, erase (rest value) = plain value) :
    erase (handler >>= rest) = (handler >>= plain) :=
  (Program.bind_assoc handler rest _).trans (congrArg (handler >>= ·) (funext each))

theorem erase_check (handle : CE_HANDLE) (buffer : CharArray)
    {body : Handler (Bool × CharArray)} {plain : Handler Bool} (same : erase body = plain) :
    erase (do
      if !(← invoke (.state (.containsProcessIDHandle handle))) then
        return (false, buffer)
      else
        body) = (do
      if !(← invoke (.state (.containsProcessIDHandle handle))) then
        return false
      else
        plain) := by
  refine erase_bind _ fun present => ?_
  rw [erase_ite, same]
  rfl

theorem erase_handleWrite (handle : CE_HANDLE) (address : UInt64) (size : Int32)
    (buffer : CharArray) :
    erase (handleWrite handle address size buffer) =
      Client.writeProcessMemory handle address size buffer.bytes :=
  erase_check handle buffer <| erase_bind _ fun _ => erase_bind _ fun _ => erase_ite _ _

theorem erase_handleRead (handle : CE_HANDLE) (address : UInt64) (size : UInt32)
    (compress : UInt8) :
    erase (handleRead handle address size compress) =
      Client.readProcessMemory handle address size compress := by
  refine (erase_ite _ _).trans (if_congr Iff.rfl rfl (erase_check handle {} ?_))
  refine (erase_ite _ _).trans (if_congr Iff.rfl rfl ?_)
  refine (erase_ite _ _).trans (if_congr Iff.rfl rfl ?_)
  refine erase_bind (invoke (.newCharArray _)) fun memoryContents => ?_
  exact erase_bind _ fun processID => erase_bind _ fun answered => erase_ite _ _

/-- Without its arrays each is the handler that serves the command. -/
theorem erase_handle (command : SizedCommand) :
    erase command.handle = Client.handle command.command := by
  cases command with
  | setConnectionName | getSymbolListFromFile => rfl
  | writeProcessMemory =>
      refine erase_bind _ fun handle => erase_bind _ fun address => erase_bind _ fun size => ?_
      refine erase_bind (invoke (.newCharArray _)) fun bytes => ?_
      exact erase_bind (invoke (.recv _)) fun received => erase_handleWrite handle address size _
  | readProcessMemory =>
      exact erase_bind _ fun handle => erase_bind _ fun address => erase_bind _ fun size =>
        erase_bind _ fun compress => erase_handleRead handle address size compress

end Erasure

section Bounds

/-- What the calls of the handlers answer, the device's counts included. -/
def Admitted : (op : Op) → op.Response → Prop
  | .recv size, (_, bytes) => bytes.length ≤ size
  | .newCharArray size, bytes => 0 ≤ size ∧ bytes.length = size.toNat
  | .memoryRead _ _ size, (count, _) => count ≤ size
  | _, _ => True

abbrev Ensures (holds : CharArray → Prop) (handler : Handler (Bool × CharArray)) : Prop :=
  handler.YieldsGiven Admitted fun used => holds used.2

def Access.Within (length : Nat) (access : Access) : Prop :=
  ∀ index, access.Touches index → index < length

theorem within_write {length first count : Nat} :
    (Access.write first count).Within length ↔ count = 0 ∨ first + count ≤ length := by
  constructor
  · intro within
    by_contra outside
    have last := within (first + count - 1) ⟨by omega, by omega⟩
    omega
  · rintro bounded index ⟨above, below⟩
    omega

theorem within_read {length first count : Nat} :
    (Access.read first count).Within length ↔ count = 0 ∨ first + count ≤ length :=
  within_write

theorem cString_length_lt {bytes : List UInt8} :
    (cString bytes).length + 1 ≤ bytes.length ↔ 0 ∈ bytes := by
  induction bytes with
  | nil => simp [cString]
  | cons byte rest ih =>
      by_cases last : byte = 0
      · simp [cString, last]
      · have apart : ¬(0 = byte) := fun same => last same.symm
        rw [List.mem_cons, or_iff_right apart, ← ih]
        simp [cString, last]

namespace CharArray

/-- Whatever has been done to an array of this size stayed inside it. -/
structure Sound (array : CharArray) (size : Nat) : Prop where
  length : array.length = size
  bytes : array.bytes.length = size
  inside : array.Inside

theorem inside_access {array : CharArray} {access : Access} :
    (array.access access).Inside ↔ array.Inside ∧ access.Within array.length := by
  simp only [Inside, CharArray.access, List.forall_mem_append, List.forall_mem_singleton]
  rfl

theorem inside_scan {array : CharArray} {size : Nat} (sound : array.Sound size) :
    array.scan.Inside ↔ 0 ∈ array.bytes := by
  rw [scan, inside_access, within_read, and_iff_right sound.inside,
    or_iff_right (Nat.succ_ne_zero _), sound.length, ← sound.bytes, Nat.zero_add]
  exact cString_length_lt

theorem Sound.received {array : CharArray} {size : Nat} (sound : array.Sound size)
    {bytes : List UInt8} (fits : bytes.length ≤ size) :
    ((array.overwrite bytes).access (.write 0 bytes.length)).Sound size where
  length := sound.length
  bytes := by
    have sized := sound.bytes
    simp only [access, overwrite, List.length_append, List.length_drop]
    omega
  inside := by
    refine inside_access.mpr ⟨sound.inside, within_write.mpr (Or.inr ?_)⟩
    rw [Nat.zero_add, show (array.overwrite bytes).length = size from sound.length]
    exact fits

theorem Sound.stored {array : CharArray} {size index : Nat} (sound : array.Sound size)
    (below : index < size) (byte : UInt8) : (array.store index byte).Sound size where
  length := sound.length
  bytes := (List.length_set).trans sound.bytes
  inside := inside_access.mpr ⟨sound.inside, within_write.mpr (Or.inr (sound.length ▸ below))⟩

theorem ensures_new {size : Int} {rest : CharArray → Handler (Bool × CharArray)}
    {holds : CharArray → Prop}
    (each : ∀ array, 0 ≤ size → array.Sound size.toNat → Ensures holds (rest array)) :
    Ensures holds (CharArray.new size >>= rest) :=
  fun _ allocated => each _ allocated.1 ⟨rfl, allocated.2, nofun⟩

theorem ensures_receive {array : CharArray} {size count : Nat}
    {rest : CharArray → Handler (Bool × CharArray)} {holds : CharArray → Prop}
    (sound : array.Sound size) (fits : count ≤ size)
    (each : ∀ array, array.Sound size → Ensures holds (rest array)) :
    Ensures holds (array.receive count >>= rest) :=
  fun _ received => each _ (sound.received (Nat.le_trans received fits))

end CharArray

namespace SizedCommand

open CharArray

theorem check_ensures {handle : CE_HANDLE} {holds : CharArray → Prop} {array : CharArray}
    {body : Handler (Bool × CharArray)} (held : holds array) (ensures : Ensures holds body) :
    Ensures holds (do
      if !(← invoke (.state (.containsProcessIDHandle handle))) then
        return (false, array)
      else
        body) := by
  intro present _
  cases present with
  | false => exact held
  | true => exact ensures

/-- The terminator is the last byte of the array, unless its length wraps to 0. -/
theorem setName_ensures (nameLength : UInt32) :
    Ensures (fun name => name.Inside ↔ nameLength ≠ 4294967295) (setName nameLength) := by
  by_cases wraps : nameLength = 4294967295
  · subst wraps
    intro bytes allocated received fits _ _
    refine ⟨fun inside => ?_, fun other => absurd rfl other⟩
    have stored : (Access.write 4294967295 1).Within 0 :=
      (inside_access.mp (inside_access.mp inside).1).2
    exact absurd (within_write.mp stored) (by decide)
  · have below : nameLength.toNat < 4294967295 := by
      have bound := nameLength.toNat_lt
      have apart : nameLength.toNat ≠ 4294967295 := fun same => wraps (UInt32.toNat_inj.mp same)
      omega
    have size : ((nameLength + 1).toNat : Int).toNat = nameLength.toNat + 1 := by
      rw [Int.toNat_natCast, UInt32.toNat_add]
      exact Nat.mod_eq_of_lt (Nat.succ_lt_succ below)
    refine ensures_new fun name _ sound => ?_
    rw [size] at sound
    refine ensures_receive sound (Nat.le_succ _) fun name sound => ?_
    have stored := sound.stored (Nat.lt_succ_self _) 0
    have terminated : 0 ∈ (name.store nameLength.toNat 0).bytes :=
      List.mem_set (Nat.lt_of_lt_of_eq (Nat.lt_succ_self _) sound.bytes.symm) 0
    intro _ _
    exact iff_of_true ((inside_scan stored).mpr terminated) wraps

theorem length_declared {size : Int32} (nonneg : 0 ≤ size.toInt) :
    size.toInt64.toUInt64.toUInt32.toNat ≤ size.toInt.toNat := by
  have bounded : size.toInt.toNat < 2 ^ 31 := by
    have top := size.toInt_lt
    omega
  have same : Int32.ofNat size.toInt.toNat = size := by
    rw [← Int32.ofInt_eq_ofNat, Int.toNat_of_nonneg nonneg, Int32.ofInt_toInt]
  have widened := size_of_length bounded
  rw [same] at widened
  rw [widened, UInt64.toUInt32_ofNat']
  exact Nat.mod_le _ _

theorem write_ensures (handle : CE_HANDLE) (address : UInt64) (size : Int32) :
    Ensures CharArray.Inside (do
      let buffer ← CharArray.new size.toInt
      let buffer ← buffer.receive size.toInt.toNat
      handleWrite handle address size buffer) := by
  refine ensures_new fun buffer nonneg sound => ?_
  refine ensures_receive sound (Nat.le_refl _) fun buffer sound => ?_
  refine check_ensures sound.inside ?_
  refine Program.YieldsGiven.bind _ fun processID => Program.YieldsGiven.bind _ fun written => ?_
  have within : (Access.read 0 size.toInt64.toUInt64.toUInt32.toNat).Within buffer.length := by
    rw [within_read, sound.length, Nat.zero_add]
    exact Or.inr (length_declared nonneg)
  have inside := inside_access.mpr ⟨sound.inside, within⟩
  exact Program.yieldsGiven_ite.mpr ⟨fun _ _ _ => inside, fun _ _ _ => inside⟩

theorem handleRead_ensures (handle : CE_HANDLE) (address : UInt64) (size : UInt32)
    (compress : UInt8) : Ensures CharArray.Inside (handleRead handle address size compress) := by
  have none : ({} : CharArray).Inside := nofun
  refine Program.yieldsGiven_ite.mpr ⟨fun _ => none, fun _ => check_ensures none ?_⟩
  refine Program.yieldsGiven_ite.mpr ⟨fun _ _ _ => none, fun _ => ?_⟩
  refine Program.yieldsGiven_ite.mpr ⟨fun _ _ _ => none, fun _ => ?_⟩
  refine ensures_new fun memoryContents _ sound => Program.YieldsGiven.bind _ fun processID => ?_
  intro answered counted
  obtain ⟨count, contents⟩ := answered
  have fits : count.toNat ≤ size.toNat := by
    have bounded := UInt64.le_iff_toNat_le.mp counted
    rwa [UInt32.toNat_toUInt64] at bounded
  have length : (memoryContents.overwrite contents).length = size.toNat := sound.length
  have written : ((memoryContents.overwrite contents).access (.write 0 count.toNat)).Inside := by
    refine inside_access.mpr ⟨sound.inside, within_write.mpr (Or.inr ?_)⟩
    rw [length, Nat.zero_add]
    exact fits
  refine Program.yieldsGiven_ite.mpr ⟨fun _ _ _ => written, fun _ _ _ _ _ => ?_⟩
  refine inside_access.mpr ⟨written, within_read.mpr (Or.inr ?_)⟩
  rw [Nat.zero_add]
  exact fits.trans_eq length.symm

end SizedCommand

end Bounds

section Runs

variable {Device Scatter : Type} {dma : Dma Device Scatter}

def memoryRead? : Event Op Op.Response → Option (ReadRequest × UInt64 × List UInt8)
  | ⟨.memoryRead processID address size, answer⟩ => some (⟨processID, address, size⟩, answer)
  | _ => none

/-- What `memory->read` returned in the run is what a run of the backlog returns. -/
def AnsweredByMemory (dma : Dma Device Scatter) (trace : List (Event Op Op.Response)) : Prop :=
  ∀ read ∈ trace.filterMap memoryRead?, Memory.Returns dma read.1 read.2

theorem admitted_of_answer {op : Op} {world later : World Outside} {response : op.Response}
    (answered : answer env op world = some (response, later))
    (other : ∀ processID address size, op ≠ .memoryRead processID address size) :
    Admitted op response := by
  cases op with
  | recv size =>
      cases answered
      exact List.length_take_le _ _
  | newCharArray size =>
      simp only [answer] at answered
      split at answered
      · cases answered
      · rename_i nonneg
        cases answered
        exact ⟨Int.not_lt.mp nonneg, resize_length _ _⟩
  | memoryRead processID address size => exact absurd rfl (other processID address size)
  | _ => exact trivial

theorem admitted_trace (within : Memory.CountsWithin dma) {handler : Handler Value}
    {world : World Outside}
    (answered : AnsweredByMemory dma (handler.run (answer env) world).trace) :
    ∀ event ∈ (handler.run (answer env) world).trace, Admitted event.op event.response := by
  intro event member
  obtain ⟨before, later, made⟩ := Program.answered_of_mem_trace member
  by_cases reads : ∃ processID address size, event.op = .memoryRead processID address size
  · obtain ⟨op, response⟩ := event
    obtain ⟨processID, address, size, rfl⟩ := reads
    exact (answered _ (List.mem_filterMap.mpr ⟨_, member, rfl⟩)).within within
  · exact admitted_of_answer made fun processID address size same =>
      reads ⟨processID, address, size, same⟩

theorem erase_trace (handler : Handler (Bool × CharArray)) (world : World Outside) :
    ((erase handler).run (answer env) world).trace = (handler.run (answer env) world).trace := by
  rw [erase, Program.run_bind]
  split
  · rfl
  · exact List.append_nil _

theorem erase_value (handler : Handler (Bool × CharArray)) (world : World Outside) :
    ((erase handler).run (answer env) world).value =
      (handler.run (answer env) world).value.map Prod.fst := by
  rw [erase, Program.run_bind]
  split
  · rename_i none
    rw [none]
    rfl
  · rename_i used returned
    rw [returned]
    rfl

/-- Serving the command, no index outside an array is written or read. -/
def StaysInside (env : Environment Outside) (command : SizedCommand) (world : World Outside) :
    Prop :=
  ∀ keepSocketOpen array,
    (command.handle.run (answer env) world).value = some (keepSocketOpen, array) → array.Inside

/-- The path of a GETSYMBOLLISTFROMFILE: what arrived of it, then whatever the
array held. -/
def symbolPath (env : Environment Outside) (world : World Outside) : List UInt8 :=
  let size := (receivedField Int32 0 world.input).toInt
  let arrived := (world.input.drop 4).take size.toNat
  arrived ++ (resize size.toNat (env.respond (.newCharArray size) world.outside).1).drop
    arrived.length

def LengthFits (env : Environment Outside) (world : World Outside) : SizedCommand → Prop
  | .setConnectionName => receivedField UInt32 0 world.input ≠ 4294967295
  | .getSymbolListFromFile =>
      (receivedField Int32 0 world.input).toInt < 0 ∨ 0 ∈ symbolPath env world
  | .writeProcessMemory | .readProcessMemory => True

section Commands

open SizedCommand

variable {world : World Outside}

theorem value_of_ensures (within : Memory.CountsWithin dma) {command : SizedCommand}
    (answered : AnsweredByMemory dma (command.handle.run (answer env) world).trace)
    (ensures : Ensures CharArray.Inside command.handle) : StaysInside env command world :=
  fun _ _ returned => ensures.value (admitted_trace within answered) returned

theorem handle_keeps (env : Environment Outside) (command : SizedCommand) (world : World Outside) :
    (command.handle.run (answer env) world).value.map Prod.fst =
      keepsSocketOpen env world command.command := by
  rw [← erase_value, erase_handle, handle_value]

theorem setConnectionName_staysInside (within : Memory.CountsWithin dma)
    (answered : AnsweredByMemory dma (setConnectionName.handle.run (answer env) world).trace) :
    StaysInside env .setConnectionName world ↔ LengthFits env world .setConnectionName := by
  have admitted := admitted_trace within answered
  have fits (keepSocketOpen : Bool) (array : CharArray) (returned :
      (setConnectionName.handle.run (answer env) world).value = some (keepSocketOpen, array)) :
      array.Inside ↔ LengthFits env world .setConnectionName := by
    have run : setConnectionName.handle.run (answer env) world = _ := run_read UInt32 setName world
    rw [run] at admitted returned
    exact (setName_ensures (receivedField UInt32 0 world.input)).value
      (fun event member => admitted event (List.mem_append_right _ member)) returned
  obtain ⟨⟨keepSocketOpen, array⟩, returned, _⟩ :=
    Option.map_eq_some_iff.mp (handle_keeps env .setConnectionName world)
  constructor
  · intro stays
    exact (fits keepSocketOpen array returned).mp (stays keepSocketOpen array returned)
  · intro length keepSocketOpen array returned
    exact (fits keepSocketOpen array returned).mpr length

/-- The path is the contents of its array when it is taken for a C string. -/
theorem run_getSymbolListFromFile (env : Environment Outside) (world : World Outside)
    (nonneg : 0 ≤ (receivedField Int32 0 world.input).toInt) :
    ∃ array : CharArray, array.Sound (receivedField Int32 0 world.input).toInt.toNat ∧
      array.bytes = symbolPath env world ∧
      (getSymbolListFromFile.handle.run (answer env) world).value = some (true, array.scan) := by
  let size := (receivedField Int32 0 world.input).toInt
  let rest : World Outside := { world with input := world.input.drop 4 }
  let allocated := env.respond (.newCharArray size) world.outside
  let fresh : CharArray := { length := size.toNat, bytes := resize size.toNat allocated.1 }
  let arrived := rest.input.take size.toNat
  have sound : fresh.Sound size.toNat := ⟨rfl, resize_length _ _, nofun⟩
  have made : answer env (.newCharArray size) rest =
      some (resize size.toNat allocated.1, { rest with outside := allocated.2 }) :=
    if_neg (Int.not_lt.mpr nonneg)
  refine ⟨(fresh.overwrite arrived).access (.write 0 arrived.length),
    sound.received (List.length_take_le _ _), rfl, ?_⟩
  have run : getSymbolListFromFile.handle.run (answer env) world = _ :=
    run_read Int32 getSymbolList world
  have allocates : (getSymbolList (receivedField Int32 0 world.input)).run (answer env) rest = _ :=
    Program.run_call_of_answer _ _ made _
  exact (congrArg Outcome.value run).trans (congrArg Outcome.value allocates)

theorem getSymbolListFromFile_staysInside (env : Environment Outside) (world : World Outside) :
    StaysInside env .getSymbolListFromFile world ↔
      LengthFits env world .getSymbolListFromFile := by
  have keeps := handle_keeps env .getSymbolListFromFile world
  by_cases negative : (receivedField Int32 0 world.input).toInt < 0
  · have thrown : keepsSocketOpen env world .getSymbolListFromFile = none := if_pos negative
    have none := Option.map_eq_none_iff.mp (keeps.trans thrown)
    refine iff_of_true (fun keepSocketOpen array returned => ?_) (Or.inl negative)
    rw [none] at returned
    cases returned
  · obtain ⟨array, sound, bytes, returned⟩ :=
      run_getSymbolListFromFile env world (Int.not_lt.mp negative)
    have inside := CharArray.inside_scan sound
    rw [bytes] at inside
    constructor
    · intro stays
      exact Or.inr (inside.mp (stays true array.scan returned))
    · rintro (short | terminated) keepSocketOpen other same
      · exact absurd short negative
      · rw [returned] at same
        cases same
        exact inside.mpr terminated

end Commands

/-- The lengths that lead outside an array are the one that wraps around to an
empty array and those of a path without NUL. -/
theorem staysInside_iff (within : Memory.CountsWithin dma) (env : Environment Outside)
    (command : SizedCommand) (world : World Outside)
    (answered : AnsweredByMemory dma
      ((Client.handle command.command).run (answer env) world).trace) :
    StaysInside env command world ↔ LengthFits env world command := by
  rw [← erase_handle, erase_trace] at answered
  cases command with
  | setConnectionName => exact setConnectionName_staysInside within answered
  | getSymbolListFromFile => exact getSymbolListFromFile_staysInside env world
  | writeProcessMemory =>
      refine iff_of_true (value_of_ensures within answered ?_) trivial
      exact Program.YieldsGiven.bind _ fun handle => Program.YieldsGiven.bind _ fun address =>
        Program.YieldsGiven.bind _ fun size => SizedCommand.write_ensures handle address size
  | readProcessMemory =>
      refine iff_of_true (value_of_ensures within answered ?_) trivial
      exact Program.YieldsGiven.bind _ fun handle => Program.YieldsGiven.bind _ fun address =>
        Program.YieldsGiven.bind _ fun size => Program.YieldsGiven.bind _ fun compress =>
          SizedCommand.handleRead_ensures handle address size compress

end Runs

section Samples

theorem ofNat_length_take_le (size : UInt32) (bytes : List UInt8) :
    UInt32.ofNat (bytes.take size.toNat).length ≤ size := by
  rw [UInt32.le_iff_toNat_le, UInt32.toNat_ofNat']
  exact (Nat.mod_le _ _).trans (List.length_take_le _ _)

theorem flatMemory_within : Memory.CountsWithin Memory.flatMemory where
  memReadEx _ _ _ size := ofNat_length_take_le size _
  scatterRead _ _ size := ofNat_length_take_le size _

theorem returns_readTwoBytes : Memory.Returns Memory.flatMemory ⟨7, 1, 2⟩ (2, [2, 3]) := by
  have executed : (Transition.execute (Memory.next Memory.flatMemory) (Memory.start [1, 2, 3, 4])
      Memory.readTwoBytes).map (fun final => final.returnedReads.map fun entry =>
        (entry.request, entry.count, entry.bytes)) = some [(⟨7, 1, 2⟩, 2, [2, 3])] := by
    rfl
  obtain ⟨final, ran, returned⟩ := Option.map_eq_some_iff.mp executed
  have member : (⟨7, 1, 2⟩, 2, [2, 3]) ∈ final.returnedReads.map fun entry =>
      (entry.request, entry.count, entry.bytes) := by
    rw [returned]
    exact List.mem_cons_self
  obtain ⟨entry, logged, same⟩ := List.mem_map.mp member
  obtain ⟨request, answer⟩ := Prod.mk.inj same
  exact ⟨Unit, inferInstance, _, _, final, Transition.run_of_execute ran, entry, logged, request,
    answer.symm⟩

/-- A target of four bytes, two of which are asked for. -/
noncomputable def fourBytes : Environment Unit where
  respond
    | .memoryRead .., _ => ((2, [2, 3]), ())
    | op, outside => Environment.healthy.respond op outside
  firstEntry := Environment.healthy.firstEntry

def asksTwoBytes : World Unit where
  input := [1, 0, 0, 0, 1, 0, 0, 0, 0, 0, 0, 0, 2, 0, 0, 0, 0]
  state := (ClientState.generateHandle {}).2.storeOpenProcess 7 1
  outside := ()

theorem staysInside_iff_asksTwoBytes : StaysInside fourBytes .readProcessMemory asksTwoBytes := by
  have reads : ((Client.handle .readProcessMemory).run (answer fourBytes)
      asksTwoBytes).trace.filterMap memoryRead? = [(⟨7, 1, 2⟩, 2, [2, 3])] := by
    decide
  refine (staysInside_iff flatMemory_within fourBytes .readProcessMemory
    asksTwoBytes ?_).mpr trivial
  intro read member
  rw [show SizedCommand.readProcessMemory.command = .readProcessMemory from rfl, reads] at member
  obtain rfl := List.mem_singleton.mp member
  exact returns_readTwoBytes

/-- A name of the greatest length gets an array of none, and a path without NUL
is read past its end. -/
theorem lengths_leadOutside :
    ¬StaysInside Environment.healthy .setConnectionName
        ⟨[255, 255, 255, 255], [], {}, [], false, ()⟩ ∧
      ¬StaysInside Environment.healthy .getSymbolListFromFile
        ⟨[1, 0, 0, 0, 65], [], {}, [], false, ()⟩ := by
  constructor
  · intro stays
    have returned : (SizedCommand.setConnectionName.handle.run (answer Environment.healthy)
        ⟨[255, 255, 255, 255], [], {}, [], false, ()⟩).value =
          some (true, ⟨0, [], [.write 0 0, .write 4294967295 1, .read 0 1]⟩) := by
      decide
    have below := stays _ _ returned (.write 4294967295 1) (by simp) 4294967295
      ⟨Nat.le_refl _, Nat.lt_succ_self _⟩
    exact absurd below (Nat.not_lt_zero _)
  · intro stays
    have returned : (SizedCommand.getSymbolListFromFile.handle.run (answer Environment.healthy)
        ⟨[1, 0, 0, 0, 65], [], {}, [], false, ()⟩).value =
          some (true, ⟨1, [65], [.write 0 1, .read 0 2]⟩) := by
      decide
    have below := stays _ _ returned (.read 0 2) (by simp) 1 ⟨Nat.zero_le 1, Nat.lt_succ_self 1⟩
    exact absurd below (Nat.lt_irrefl 1)

end Samples

end CeServer
