import Mathlib.Data.List.Basic

/-!
The states a shared object goes through, one for each step of a run, and
operations that take effect at one instant between their call and their return.
-/

namespace Timeline

variable {Object : Type*}

/-- `start` and `finish` are the steps that call the operation and return from
it; `effect` relates the object before and after the operation. -/
structure Operation (Object : Type*) where
  start : Nat
  finish : Nat
  effect : Object → Object → Prop

structure TakesEffect (timeline : List Object) (operation : Operation Object) (instant : Nat) :
    Prop where
  called : operation.start < instant
  returned : instant < operation.finish
  effect : ∃ before after, timeline[instant]? = some before ∧
    timeline[instant + 1]? = some after ∧ operation.effect before after

variable {timeline later : List Object} {instant : Nat} {object : Object}

theorem getElem?_of_prefix (extended : timeline <+: later)
    (seen : timeline[instant]? = some object) : later[instant]? = some object := by
  obtain ⟨rest, rfl⟩ := extended
  obtain ⟨below, _⟩ := List.getElem?_eq_some_iff.mp seen
  rw [List.getElem?_append_left below, seen]

theorem TakesEffect.mono {operation : Operation Object} (extended : timeline <+: later)
    (taken : TakesEffect timeline operation instant) : TakesEffect later operation instant := by
  obtain ⟨before, after, old, new, effect⟩ := taken.effect
  exact ⟨taken.called, taken.returned, before, after, getElem?_of_prefix extended old,
    getElem?_of_prefix extended new, effect⟩

theorem TakesEffect.precedes {first second : Operation Object} {firstInstant secondInstant : Nat}
    (one : TakesEffect timeline first firstInstant)
    (two : TakesEffect timeline second secondInstant)
    (order : first.finish ≤ second.start) : firstInstant < secondInstant := by
  have finished := one.returned
  have started := two.called
  omega

section Serial

variable {Client Request Answer : Type*} {serve : Object → Request → Answer × Object}

/-- Served one after the other, these requests get these answers. -/
def Replays (serve : Object → Request → Answer × Object) :
    Object → List (Client × Request × Answer) → Object → Prop
  | first, [], last => last = first
  | first, (_, request, answer) :: later, last =>
      answer = (serve first request).1 ∧ Replays serve (serve first request).2 later last

theorem Replays.snoc {first last : Object} {order : List (Client × Request × Answer)}
    (replays : Replays serve first order last) (client : Client) (request : Request) :
    Replays serve first (order ++ [(client, request, (serve last request).1)])
      (serve last request).2 := by
  induction order generalizing first with
  | nil =>
      obtain rfl : last = first := replays
      exact ⟨rfl, rfl⟩
  | cons call later ih => exact ⟨replays.1, ih replays.2⟩

variable [DecidableEq Client]

def callsOf (client : Client) (order : List (Client × Request × Answer)) :
    List (Request × Answer) :=
  (order.filter fun call => call.1 = client).map Prod.snd

theorem callsOf_snoc (client other : Client) (order : List (Client × Request × Answer))
    (call : Request × Answer) : callsOf client (order ++ [(other, call)]) =
      callsOf client order ++ (if other = client then [call] else []) := by
  by_cases own : other = client <;> simp [callsOf, List.filter_append, own]

end Serial

end Timeline
