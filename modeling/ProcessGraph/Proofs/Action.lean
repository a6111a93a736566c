import ProcessGraph.Action

/-!
# What actions do

One equation for each action: its outcome, the state it leaves and the world it leaves.

* `World.exchange`: a request and the wait for its answer, as `ask` makes them.
* `Remote.Gives`: the replies that a remote side can give to a fetch, in whatever state it is.
* `Outcome.Agrees`: two actions that end alike.
* `done_of_bind`: what a sequence did that ended with a value.
* `Commits`: an action ends with a value and a state in a given relation, or it leaves the state as
  it was. `Commits.bind` puts together an action that only looks and one that commits.
* `Steady`: an action that only looks, with what is known of its value.
-/

namespace ProcessGraph

variable {ρ : Type}

/-! ## requests and replies -/

/-- A request and the wait for its answer: the reply, if there is one, and the world afterwards. -/
def World.exchange [Remote ρ] (w : World ρ) (r : Request) : Option r.Reply × World ρ :=
  match w.send r with
  | (some a, w) => (some a.reply, (w.advanceTo (w.endOfWait a.after)).logAll a.events)
  | (none, w) => (none, w)

/-- In some state the remote side answers the fetch of a profile by `reply`. -/
def Remote.Gives (ρ : Type) [Remote ρ] (kind : Kind) (id : Option Identifier)
    (reply : Except ClientError Json.Value) : Prop :=
  ∃ (r : ρ) (a : Answer (Except ClientError Json.Value)),
    (Remote.answer r (.fetch kind id)).1 = some a ∧ a.reply = reply

theorem exchange_gives [Remote ρ] {w w' : World ρ} {kind : Kind} {id : Option Identifier}
    {reply : Except ClientError Json.Value}
    (h : w.exchange (.fetch kind id) = (some reply, w')) : Remote.Gives ρ kind id reply := by
  unfold World.exchange at h
  cases hs : w.send (.fetch kind id) with
  | mk answer v =>
    have ha : (Remote.answer w.remote (.fetch kind id)).1 = answer := congrArg Prod.fst hs
    rw [hs] at h
    cases answer with
    | none => simp at h
    | some a =>
      simp only [Prod.mk.injEq, Option.some.injEq] at h
      exact ⟨w.remote, a, ha, h.1⟩

/-! ## outcomes -/

namespace Outcome

variable {ε α α' β β' : Type}

/-- The outcome with another value. -/
def map (f : α → β) : Outcome ε α → Outcome ε β
  | .done a => .done (f a)
  | .failed e => .failed e
  | .waiting => .waiting

/-- Two outcomes agree: two values in a relation, two errors in a relation, or no end twice. -/
inductive Agrees (E : ε → ε → Prop) (R : α → β → Prop) : Outcome ε α → Outcome ε β → Prop where
  | done {a : α} {b : β} (h : R a b) : Agrees E R (.done a) (.done b)
  | failed {e e' : ε} (h : E e e') : Agrees E R (.failed e) (.failed e')
  | waiting : Agrees E R .waiting .waiting

theorem agrees_refl {E : ε → ε → Prop} {R : α → α → Prop} (hE : ∀ e, E e e) (hR : ∀ a, R a a)
    (o : Outcome ε α) : o.Agrees E R o := by
  cases o with
  | done a => exact .done (hR a)
  | failed e => exact .failed (hE e)
  | waiting => exact .waiting

theorem Agrees.mono {E : ε → ε → Prop} {R S : α → β → Prop} {o : Outcome ε α} {o' : Outcome ε β}
    (h : o.Agrees E R o') (hRS : ∀ a b, R a b → S a b) : o.Agrees E S o' := by
  cases h with
  | done h => exact .done (hRS _ _ h)
  | failed h => exact .failed h
  | waiting => exact .waiting

theorem Agrees.map {E : ε → ε → Prop} {R : α → β → Prop} {S : α' → β' → Prop} {o : Outcome ε α}
    {o' : Outcome ε β} {f : α → α'} {g : β → β'} (h : o.Agrees E R o')
    (hf : ∀ a b, R a b → S (f a) (g b)) : (o.map f).Agrees E S (o'.map g) := by
  cases h with
  | done h => exact .done (hf _ _ h)
  | failed h => exact .failed h
  | waiting => exact .waiting

end Outcome

namespace Action

variable {σ τ ε ε' α β : Type}

/-! ## sequences -/

theorem bind_apply (x : Action ρ σ ε α) (f : α → Action ρ σ ε β) (s : σ) (w : World ρ) :
    (x >>= f) s w = match x s w with
      | (.done a, s, w) => f a s w
      | (.failed e, s, w) => (.failed e, s, w)
      | (.waiting, s, w) => (.waiting, s, w) := rfl

@[simp] theorem pure_apply (a : α) (s : σ) (w : World ρ) :
    (pure a : Action ρ σ ε α) s w = (.done a, s, w) := rfl

theorem bind_pure_apply (x : Action ρ σ ε α) (f : α → β) (s : σ) (w : World ρ) :
    (x >>= fun a => pure (f a)) s w = ((x s w).1.map f, (x s w).2) := by
  rw [bind_apply]
  rcases x s w with ⟨a | e | _, t, v⟩ <;> rfl

/-- What is done in three steps may be done as one step and then two, or as two and then one. -/
theorem bind_assoc {γ : Type} (x : Action ρ σ ε α) (f : α → Action ρ σ ε β) (g : β → Action ρ σ ε γ) :
    x >>= f >>= g = x >>= fun a => f a >>= g := by
  funext s w
  simp only [bind_apply]
  rcases x s w with ⟨a | e | _, t, v⟩ <;> rfl

/-- A sequence that ends with a value took both of its parts to their ends. -/
theorem done_of_bind {x : Action ρ σ ε α} {f : α → Action ρ σ ε β} {s s' : σ} {w w' : World ρ} {b : β}
    (h : (x >>= f) s w = (.done b, s', w')) :
    ∃ a t v, x s w = (.done a, t, v) ∧ f a t v = (.done b, s', w') := by
  rw [bind_apply] at h
  rcases hx : x s w with ⟨a | e | _, t, v⟩
  · rw [hx] at h
    exact ⟨a, t, v, rfl, h⟩
  · simp [hx] at h
  · simp [hx] at h

/-! ## single actions -/

@[simp] theorem read_apply (s : σ) (w : World ρ) : (read : Action ρ σ ε σ) s w = (.done s, s, w) := rfl

@[simp] theorem update_apply (f : σ → σ) (s : σ) (w : World ρ) :
    (update f : Action ρ σ ε Unit) s w = (.done (), f s, w) := rfl

@[simp] theorem ofExcept_ok (a : α) (s : σ) (w : World ρ) :
    (ofExcept (.ok a) : Action ρ σ ε α) s w = (.done a, s, w) := rfl

@[simp] theorem log_apply (e : Log.Event) (s : σ) (w : World ρ) :
    (log e : Action ρ σ ε Unit) s w = (.done (), s, w.logAll [e]) := rfl

@[simp] theorem clock_apply (s : σ) (w : World ρ) :
    (clock : Action ρ σ ε Nat) s w = (.done w.now, s, w) := rfl

theorem attempt_apply (x : Action ρ σ ε α) (s : σ) (w : World ρ) :
    (attempt x : Action ρ σ ε' (Except ε α)) s w = match x s w with
      | (.done a, s, w) => (.done (.ok a), s, w)
      | (.failed e, s, w) => (.done (.error e), s, w)
      | (.waiting, s, w) => (.waiting, s, w) := rfl

theorem ask_apply [Remote ρ] (r : Request) (s : σ) (w : World ρ) :
    (ask r : Action ρ σ ε r.Reply) s w = match w.exchange r with
      | (some reply, w) => (.done reply, s, w)
      | (none, w) => (.waiting, s, w) := by
  unfold ask World.exchange
  rcases w.send r with ⟨_ | a, v⟩ <;> rfl

/-! ## actions that commit or leave no trace -/

/-- An action that began in the state `s` ended with a value and a state in the relation `P`, or it left
the state as it was. -/
inductive Commits (s : σ) (P : α → σ → Prop) : Outcome ε α × σ × World ρ → Prop where
  | done {a : α} {t : σ} {w : World ρ} (h : P a t) : Commits s P (.done a, t, w)
  | failed (e : ε) (w : World ρ) : Commits s P (.failed e, s, w)
  | waiting (w : World ρ) : Commits s P (.waiting, s, w)

/-- An action that began in the state `s` left it as it was; its value, if any, satisfies `R`. -/
abbrev Steady (s : σ) (R : α → Prop) : Outcome ε α × σ × World ρ → Prop :=
  Commits s fun a t => t = s ∧ R a

namespace Commits

variable {s : σ} {P Q : α → σ → Prop} {R : α → Prop}

theorem mono {r : Outcome ε α × σ × World ρ} (h : Commits s P r) (hPQ : ∀ a t, P a t → Q a t) :
    Commits s Q r := by
  cases h with
  | done h => exact .done (hPQ _ _ h)
  | failed e w => exact .failed e w
  | waiting w => exact .waiting w

theorem and {r : Outcome ε α × σ × World ρ} (h : Commits s P r) (h' : Commits s Q r) :
    Commits s (fun a t => P a t ∧ Q a t) r := by
  cases h with
  | done h =>
    cases h' with
    | done h' => exact .done ⟨h, h'⟩
  | failed e w => exact .failed e w
  | waiting w => exact .waiting w

/-- **A failure has changed nothing.** -/
theorem state_eq_of_failed {r : Outcome ε α × σ × World ρ} {e : ε} (h : Commits s P r)
    (he : r.1 = .failed e) : r.2.1 = s := by
  cases h with
  | done h => cases he
  | failed e w => rfl
  | waiting w => rfl

/-- What holds at the beginning and after every commit holds at the end. -/
theorem keeps {I : σ → Prop} {r : Outcome ε α × σ × World ρ} (h : Commits s P r) (hs : I s)
    (hP : ∀ a t, P a t → I t) : I r.2.1 := by
  cases h with
  | done h => exact hP _ _ h
  | failed e w => exact hs
  | waiting w => exact hs

theorem bind {P : β → σ → Prop} {x : Action ρ σ ε α} {f : α → Action ρ σ ε β} {w : World ρ}
    (hx : Steady s R (x s w)) (hf : ∀ a w, R a → Commits s P (f a s w)) :
    Commits s P ((x >>= f) s w) := by
  rw [bind_apply]
  generalize x s w = r at hx
  cases hx with
  | done h =>
    obtain ⟨rfl, ha⟩ := h
    exact hf _ _ ha
  | failed e w => exact .failed e w
  | waiting w => exact .waiting w

/-- An operation that looks at its state first. -/
theorem look {P : β → σ → Prop} {f : σ → Action ρ σ ε β} {w : World ρ} (h : Commits s P (f s s w)) :
    Commits s P ((read >>= f) s w) := h

/-- What is known of the state alone stays when the value is made into another one. -/
theorem withValue {P : σ → Prop} {x : Action ρ σ ε α} {f : α → β} {w : World ρ}
    (hx : Commits s (fun _ t => P t) (x s w)) :
    Commits s (fun _ t => P t) ((x >>= fun a => pure (f a)) s w) := by
  rw [bind_apply]
  generalize x s w = r at hx
  cases hx with
  | done h => exact .done h
  | failed e w => exact .failed e w
  | waiting w => exact .waiting w

/-- The end of an operation that stores something and gives a value. -/
theorem store {f : σ → σ} {a : α} {w : World ρ} (h : P a (f s)) :
    Commits s P ((update f >>= fun _ => pure a : Action ρ σ ε α) s w) := .done h

end Commits

theorem steady_logAll (es : List Log.Event) (s : σ) (w : World ρ) :
    Steady s (fun _ => True) ((logAll es : Action ρ σ ε Unit) s w) := .done ⟨rfl, trivial⟩

theorem steady_ofExcept (x : Except ε α) (s : σ) (w : World ρ) :
    Steady s (x = .ok ·) ((ofExcept x : Action ρ σ ε α) s w) := by
  cases x with
  | error e => exact .failed e w
  | ok a => exact .done ⟨rfl, rfl⟩

theorem steady_request [Remote ρ] (r : Request) (s : σ) (w : World ρ) :
    Steady s (fun _ => True) ((ask r : Action ρ σ ε r.Reply) s w) := by
  rw [ask_apply]
  rcases w.exchange r with ⟨_ | reply, v⟩
  · exact .waiting v
  · exact .done ⟨rfl, trivial⟩

theorem steady_ask [Remote ρ] (kind : Kind) (id : Option Identifier) (s : σ) (w : World ρ) :
    Steady s (Remote.Gives ρ kind id)
      ((ask (.fetch kind id) : Action ρ σ ε (Except ClientError Json.Value)) s w) := by
  rw [ask_apply]
  rcases hx : w.exchange (.fetch kind id) with ⟨_ | reply, v⟩
  · exact .waiting v
  · exact .done ⟨rfl, exchange_gives hx⟩

end Action

end ProcessGraph
