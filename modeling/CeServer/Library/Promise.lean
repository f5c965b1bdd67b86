/-!
A promise that is set once and whose future is taken once. Both operations
throw (`none`) when they are made a second time.
-/

structure Promise (Value : Type) where
  value : Option Value := none
  futureRetrieved : Bool := false

namespace Promise

variable {Value : Type} {promise after : Promise Value} {value : Value}

def setValue (promise : Promise Value) (value : Value) : Option (Promise Value) :=
  match promise.value with
  | none => some { promise with value := some value }
  | some _ => none

def getFuture (promise : Promise Value) : Option (Promise Value) :=
  if promise.futureRetrieved then none else some { promise with futureRetrieved := true }

theorem setValue_of_unset (unset : promise.value = none) :
    promise.setValue value = some { promise with value := some value } := by
  simp [setValue, unset]

theorem setValue_eq_none : promise.setValue value = none ↔ promise.value ≠ none := by
  unfold setValue
  cases promise.value <;> simp

theorem getFuture_eq_none : promise.getFuture = none ↔ promise.futureRetrieved = true := by
  simp [getFuture]

theorem setValue_eq_some (set : promise.setValue value = some after) :
    promise.value = none ∧ after = { promise with value := some value } := by
  unfold setValue at set
  cases unset : promise.value with
  | none => simpa [unset, eq_comm] using set
  | some old => simp [unset] at set

theorem getFuture_eq_some (taken : promise.getFuture = some after) :
    promise.futureRetrieved = false ∧ after = { promise with futureRetrieved := true } := by
  unfold getFuture at taken
  split at taken
  · simp at taken
  · rename_i fresh
    exact ⟨by simpa using fresh, (Option.some.inj taken).symm⟩

end Promise
