import Mathlib.Logic.Function.Basic

/-!
# A broker with retained messages

A broker keeps one payload for each topic. The session of a client may leave a will, which the
broker keeps when the session is lost, but not when the client says goodbye.
-/

/-- A broker, as far as one client is concerned. -/
structure Broker (α β : Type*) where
  retained : α → Option β
  /-- The session that is open, with its will. -/
  session : Option (Option (α × β))

namespace Broker

variable {α β : Type*}

/-- A broker that has not heard of the client. -/
def unaware : Broker α β := ⟨fun _ => none, none⟩

section

variable [DecidableEq α]

/-- Keep a payload for a topic, or none. -/
def keep (broker : Broker α β) (topic : α) (payload : Option β) : Broker α β :=
  { broker with retained := Function.update broker.retained topic payload }

/-- The session is lost. -/
def lose (broker : Broker α β) : Broker α β :=
  match broker.session with
  | some (some will) => { broker.keep will.1 (some will.2) with session := none }
  | _ => { broker with session := none }

/-- A session opens. An older one of the client is lost. -/
def accept (broker : Broker α β) (will : Option (α × β)) : Broker α β :=
  { broker.lose with session := some will }

/-- The client says goodbye. -/
def leave (broker : Broker α β) : Broker α β := { broker with session := none }

end

/-- No will is on the topic. -/
def Silent (broker : Broker α β) (topic : α) : Prop :=
  ∀ will, broker.session = some (some will) → will.1 ≠ topic

variable {broker : Broker α β} {topic : α}

section

variable [DecidableEq α]

@[simp] theorem retained_keep_self (payload : Option β) :
    (broker.keep topic payload).retained topic = payload :=
  Function.update_self ..

theorem retained_keep_of_ne {other : α} (apart : topic ≠ other) (payload : Option β) :
    (broker.keep other payload).retained topic = broker.retained topic :=
  Function.update_of_ne apart ..

@[simp] theorem session_keep (other : α) (payload : Option β) :
    (broker.keep other payload).session = broker.session := rfl

@[simp] theorem session_lose : broker.lose.session = none := by
  rw [lose]
  split <;> rfl

/-- A lost session leaves the topics without a will alone. -/
theorem Silent.retained_lose (silent : broker.Silent topic) :
    broker.lose.retained topic = broker.retained topic := by
  rw [lose]
  split
  next will opened => exact retained_keep_of_ne (silent will opened).symm _
  next => rfl

theorem Silent.retained_accept (silent : broker.Silent topic) (will : Option (α × β)) :
    (broker.accept will).retained topic = broker.retained topic :=
  silent.retained_lose

end

end Broker
