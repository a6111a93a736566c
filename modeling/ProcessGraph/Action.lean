import ProcessGraph.Remote

/-!
# Actions

* `Outcome`: how an action ended: with a value, with an error, or waiting for an answer that never
  comes.
* `Action`: a function of the state of an entity and the world around it.
* `ask`: a request and its answer, `log`, `printLine`, `clock`, `sleep`, `sleepUntil`.
* `attempt`: an error as a value; `onPart`: an action on a part of the state; `apart`, `beside`:
  an action on a state that is forgotten.
-/

namespace ProcessGraph

/-- How an action ended. A caller that gives up on an action sees it waiting. -/
inductive Outcome (ε α : Type) where
  | done (value : α)
  | failed (error : ε)
  | waiting

/-- An action on an entity in state `σ` beside a remote side in state `ρ`. Whatever the outcome, the
state that it leaves is seen. -/
def Action (ρ σ ε α : Type) : Type := σ → World ρ → Outcome ε α × σ × World ρ

namespace Action

variable {ρ σ τ ε ε' α β : Type}

/-- The action that does nothing and gives a value. -/
def succeed (a : α) : Action ρ σ ε α := fun s w => (.done a, s, w)

/-- One action after another. Only a value leads on to the second. -/
def andThen (x : Action ρ σ ε α) (f : α → Action ρ σ ε β) : Action ρ σ ε β := fun s w =>
  match x s w with
  | (.done a, s, w) => f a s w
  | (.failed e, s, w) => (.failed e, s, w)
  | (.waiting, s, w) => (.waiting, s, w)

instance : Monad (Action ρ σ ε) where
  pure := succeed
  bind := andThen

/-- The action that ends with an error. -/
def fail (e : ε) : Action ρ σ ε α := fun s w => (.failed e, s, w)

/-- The action that waits for what never comes. -/
def wait : Action ρ σ ε α := fun s w => (.waiting, s, w)

/-- The state of the entity. -/
def read : Action ρ σ ε σ := fun s w => (.done s, s, w)

/-- Changes the state of the entity. -/
def update (f : σ → σ) : Action ρ σ ε Unit := fun s w => (.done (), f s, w)

/-- Goes on with the value of a result. -/
def ofExcept : Except ε α → Action ρ σ ε α
  | .ok a => succeed a
  | .error e => fail e

/-- Makes an error a value. -/
def attempt (x : Action ρ σ ε α) : Action ρ σ ε' (Except ε α) := fun s w =>
  match x s w with
  | (.done a, s, w) => (.done (.ok a), s, w)
  | (.failed e, s, w) => (.done (.error e), s, w)
  | (.waiting, s, w) => (.waiting, s, w)

/-- Renames an error. -/
def mapError (f : ε → ε') (x : Action ρ σ ε α) : Action ρ σ ε' α := fun s w =>
  match x s w with
  | (.done a, s, w) => (.done a, s, w)
  | (.failed e, s, w) => (.failed (f e), s, w)
  | (.waiting, s, w) => (.waiting, s, w)

/-- An action on a part of the state, which is put back whatever the outcome. -/
def onPart (get : σ → τ) (put : τ → σ → σ) (x : Action ρ τ ε α) : Action ρ σ ε α := fun s w =>
  match x (get s) w with
  | (outcome, t, w) => (outcome, put t s, w)

/-- An action on an entity of its own, which is forgotten afterwards. -/
def apart (t : τ) (x : Action ρ τ ε α) : Action ρ σ ε α := fun s w =>
  match x t w with
  | (outcome, _, w) => (outcome, s, w)

/-- An action on the entity and a state of its own, which is forgotten afterwards. -/
def beside (t : τ) (x : Action ρ (σ × τ) ε α) : Action ρ σ ε α := fun s w =>
  match x (s, t) w with
  | (outcome, (s, _), w) => (outcome, s, w)

/-- Logs events in order. -/
def logAll (es : List Log.Event) : Action ρ σ ε Unit := fun s w => (.done (), s, w.logAll es)

/-- Logs an event. -/
def log (e : Log.Event) : Action ρ σ ε Unit := logAll [e]

/-- Prints a line. -/
def printLine (text : String) : Action ρ σ ε Unit := fun s w =>
  (.done (), s, w.record (.line text))

/-- The time. -/
def clock : Action ρ σ ε Nat := fun s w => (.done w.now, s, w)

/-- Waits until a moment. -/
def sleepUntil (moment : Nat) : Action ρ σ ε Unit := fun s w => (.done (), s, w.advanceTo moment)

/-- Waits for some milliseconds. -/
def sleep (duration : Nat) : Action ρ σ ε Unit := fun s w =>
  (.done (), s, w.advanceTo (w.endOfWait duration))

/-- Makes a request and waits for its answer. -/
def ask [Remote ρ] (r : Request) : Action ρ σ ε r.Reply := fun s w =>
  match w.send r with
  | (some a, w) => (.done a.reply, s, (w.advanceTo (w.endOfWait a.after)).logAll a.events)
  | (none, w) => (.waiting, s, w)

end Action

end ProcessGraph
