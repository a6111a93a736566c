import ProcessGraph.Proofs.Atomicity
import ProcessGraph.Proofs.Episode
import ProcessGraph.Proofs.Timing

/-!
# Operations that are abandoned

A caller gives up on an operation that still waits for answers. Such an operation is one whose later answers
never come.

* `CutShort`: what an operation left behind of whose answers some may never come.
* `ContainerHandle.Operation.perform_alike`, `SystemHandle.Operation.perform_alike`: an operation at other times
  ends like the same operation, or it still waits.
* `abandoned_state_eq`: an abandoned operation has changed nothing, and no profile is ever seen with what was
  enumerated for another.
-/

namespace ProcessGraph

variable {ρ σ ε α β : Type}

/-! ## single actions at other times -/

section

variable {cut : Prop} {v : World (Timed ρ)} {w : World ρ}

theorem ofExcept_alike (h : v.requests = w.requests) (x : Except ε α) (s : σ) :
    Alike cut (Action.ofExcept x s v) (Action.ofExcept x s w) := by
  cases x with
  | error e => exact .failed
  | ok a => exact .done h

/-- An action that looks at its state first. -/
theorem Alike.look {f : σ → Action (Timed ρ) σ ε β} {g : σ → Action ρ σ ε β} {s : σ}
    (h : Alike cut (f s s v) (g s s w)) :
    Alike cut ((Action.read >>= f) s v) ((Action.read >>= g) s w) := h

end

/-! ## operations at other times -/

namespace ProcessHandle

variable [Remote ρ] {cut : Prop} {v : World (Timed ρ)} {w : World ρ}

theorem call_alike (h : v.Mirrors cut w) (args : Option Json.Value) (p : ProcessHandle) :
    Alike cut ((call args : Action (Timed ρ) _ ε _) p v) (call args p w) := by
  refine .look (.bind (ask_alike h _ p) (fun result t v w h => ?_) fun result t w => ?_)
  · cases result with
    | none => exact .done (by simpa using h)
    | some payload => exact .done h
  · cases result with
    | none => exact World.requests_logAll w _
    | some payload => rfl

theorem Operation.perform_alike (h : v.Mirrors cut w) (op : Operation) (p : ProcessHandle) :
    Alike cut (op.perform p v) (op.perform p w) := by
  cases op with
  | setup =>
    refine .withValue ?_
    rw [setup_apply, setup_apply]
    exact adopt_alike h _ _ _ _ p
  | profile => exact .withValue (ofExcept_alike h.requests p.profile? p)
  | call args => exact .withValue (call_alike h args p)
  | execute => exact .withValue (ask_alike h _ p)

end ProcessHandle

namespace ContainerHandle

variable [Remote ρ] {cut : Prop} {v : World (Timed ρ)} {w : World ρ}

theorem find_alike (h : v.Mirrors cut w) (q : Query) (c : ContainerHandle) :
    Alike cut (find q c v) (find q c w) := by
  obtain ⟨_ | name⟩ := q
  · exact .done h.requests
  · exact .withValue (enumerate_alike h c)

theorem Operation.perform_alike (h : v.Mirrors cut w) (op : Operation) (c : ContainerHandle) :
    Alike cut (op.perform c v) (op.perform c w) := by
  cases op with
  | setup =>
    refine .withValue ?_
    rw [setup_apply, setup_apply]
    exact adopt_alike h _ _ _ _ c
  | profile => exact .withValue (ofExcept_alike h.requests c.profile? c)
  | processes => exact .withValue (enumerate_alike h c)
  | process q => exact .withValue (find_alike h q c)
  | processesByType name => exact .withValue (.withValue (enumerate_alike h c))

end ContainerHandle

namespace SystemHandle

variable [Remote ρ] {cut : Prop} {v : World (Timed ρ)} {w : World ρ}

theorem find_alike (h : v.Mirrors cut w) (q : Query) (s : SystemHandle) :
    Alike cut (find q s v) (find q s w) := by
  obtain ⟨_ | name⟩ := q
  · exact .done h.requests
  · exact .withValue (enumerate_alike h s)

theorem listIds_alike (h : v.Mirrors cut w) (kind : Kind) (s : SystemHandle) :
    Alike cut (listIds kind s v) (listIds kind s w) := by
  refine Alike.bind (ask_alike h _ s) (fun reply t v w h => ofExcept_alike h reply t) fun reply t w => ?_
  cases (reply : Except ClientError (List Identifier)) <;> rfl

omit [Remote ρ] in
theorem onContainer_alike {x : Action (Timed ρ) ContainerHandle ε α} {y : Action ρ ContainerHandle ε α}
    (h : v.Mirrors cut w) (hxy : ∀ c, Alike cut (x c v) (y c w)) (i : Nat) (s : SystemHandle) :
    Alike cut (onContainer i x s v) (onContainer i y s w) := by
  unfold onContainer
  cases s.containers with
  | none => exact .done h.requests
  | some cs =>
    cases hc : cs[i]? with
    | none =>
      simp only [hc]
      exact .done h.requests
    | some c =>
      have hc' := hxy c
      simp only [hc]
      generalize x c v = r at hc'
      generalize y c w = r' at hc'
      cases hc' with
      | done h => exact .done h
      | failed => exact .failed
      | waiting => exact .waiting
      | cutOff hcut hmade =>
        refine .cutOff hcut fun b hb => ?_
        obtain ⟨a | e | _, t, u⟩ := r'
        · exact hmade a rfl
        · cases hb
        · cases hb

theorem Operation.perform_alike (h : v.Mirrors cut w) (op : Operation) (s : SystemHandle) :
    Alike cut (op.perform s v) (op.perform s w) := by
  cases op with
  | setup =>
    refine .withValue ?_
    rw [setup_eq, setup_eq]
    exact adopt_alike h _ _ _ _ s
  | refresh => exact .withValue (refresh_alike h s)
  | profile => exact .withValue (ofExcept_alike h.requests s.profile? s)
  | containerIds => exact .withValue (ofExcept_alike h.requests s.containerIds? s)
  | containers => exact .withValue (enumerate_alike h s)
  | container q => exact .withValue (find_alike h q s)
  | containersByType name => exact .withValue (.withValue (enumerate_alike h s))
  | list kind => exact .withValue (listIds_alike h kind s)
  | onContainer i op =>
    exact .withValue (onContainer_alike h (fun c => op.perform_alike h c) i s)

end SystemHandle

/-! ## what is left behind -/

/-- What an operation that began in the state `s` left behind, of whose answers some may never come, as against
the whole operation: it ended with the same value and the same state; or with an error, as the whole one did;
or it waits with the state as it was, and has made no other requests than the whole one, if that succeeded. -/
inductive CutShort (s : σ) : Outcome ε α × σ × World (Timed ρ) → Outcome ε α × σ × World ρ → Prop where
  | done {a : α} {t : σ} {v : World (Timed ρ)} {w : World ρ} (h : v.requests = w.requests) :
      CutShort s (.done a, t, v) (.done a, t, w)
  | failed {e e' : ε} {v : World (Timed ρ)} {w : World ρ} : CutShort s (.failed e, s, v) (.failed e', s, w)
  | waiting {v : World (Timed ρ)} {r : Outcome ε α × σ × World ρ}
      (hmade : ∀ a, r.1 = .done a → v.requests <+: r.2.2.requests) : CutShort s (.waiting, s, v) r

open ProcessGraph.Action (Commits) in
theorem Alike.cutShort {cut : Prop} {s : σ} {P : α → σ → Prop} {r : Outcome ε α × σ × World (Timed ρ)}
    {r' : Outcome ε α × σ × World ρ} (h : Alike cut r r') (hr : Commits s P r) : CutShort s r r' := by
  cases h with
  | done h => exact .done h
  | failed =>
    cases hr
    exact .failed
  | waiting =>
    cases hr
    exact .waiting (by rintro a ⟨⟩)
  | cutOff _ hmade =>
    cases hr
    exact .waiting hmade

/-- The container has its old profile, or nothing that was enumerated for it. -/
def ContainerHandle.Unmixed (c d : ContainerHandle) : Prop := d.profile = c.profile ∨ d.processes = none

theorem ContainerHandle.Step.unmixed [Remote ρ] {c d : ContainerHandle} (h : Step ρ c d) : c.Unmixed d := by
  cases h with
  | same => exact .inl rfl
  | setup profile h => exact .inr rfl
  | enumerate ps h => exact .inl rfl

/-- The system has its old profile, or nothing that was enumerated for it, or what its new profile lists. -/
def SystemHandle.Unmixed (s t : SystemHandle) : Prop :=
  t.profile = s.profile ∨ t.containers = none ∨
    ∃ profile cs, t = ⟨some profile, some cs⟩ ∧ cs.map (·.identifier) = profile.containerIds

theorem SystemHandle.Step.unmixed [Remote ρ] {s t : SystemHandle} (h : Step ρ s t) : s.Unmixed t := by
  cases h with
  | same => exact .inl rfl
  | setup profile h => exact .inr (.inl rfl)
  | enumerate cs h => exact .inl rfl
  | refresh profile t h hrenewed =>
    cases hrenewed with
    | bare old => exact .inr (.inl rfl)
    | enumerated old cached fresh hopen =>
      have hids := map_identifier_renewed (ContainerHandle.map_identifier_of_opens hopen)
      exact .inr (.inr ⟨profile, _, rfl, hids⟩)
  | container cs i c d hcs hc h => exact .inl rfl

/-- **An abandoned operation has changed nothing.** Take any operation on a system, a container or a process, and
let any of its answers never come: all that is seen of it is a wait with the entity as it was, or what is seen
of the whole operation. So, whatever is abandoned in a run, no profile is ever seen with what was enumerated
for another one. -/
theorem abandoned_state_eq [Remote ρ] (w : World ρ) (delay : Nat → Option Nat) :
    (∀ (op : SystemHandle.Operation) (s : SystemHandle),
      CutShort s (op.perform s (w.timed delay)) (op.perform s w) ∧
      s.Unmixed (op.perform s (w.timed delay)).2.1) ∧
    (∀ (op : ContainerHandle.Operation) (c : ContainerHandle),
      CutShort c (op.perform c (w.timed delay)) (op.perform c w) ∧
      c.Unmixed (op.perform c (w.timed delay)).2.1) ∧
    (∀ (op : ProcessHandle.Operation) (p : ProcessHandle),
      CutShort p (op.perform p (w.timed delay)) (op.perform p w)) ∧
    (∀ ops, (SystemHandle.run ops .new (w.timed delay)).1.Coherent) ∧
    (∀ ops id, (runAll ContainerHandle.Operation.perform ops (.new id) (w.timed delay)).1.Coherent) := by
  have h := w.timed_mirrors delay
  refine ⟨fun op s => ?_, fun op c => ?_, fun op p => ?_, fun ops => ?_, fun ops id => ?_⟩
  · have hcommits := op.perform_commits s (w.timed delay)
    exact ⟨(op.perform_alike h s).cutShort hcommits, hcommits.keeps (.inl rfl) fun _ _ h => h.unmixed⟩
  · have hcommits := op.perform_commits c (w.timed delay)
    exact ⟨(op.perform_alike h c).cutShort hcommits, hcommits.keeps (.inl rfl) fun _ _ h => h.unmixed⟩
  · exact (op.perform_alike h p).cutShort (op.perform_commits p _)
  · exact (SystemHandle.run_new_faithful ops _).coherent
  · exact (ContainerHandle.runAll_new_faithful ops id _).coherent

/-- The refresh of a system with one container asks for the profile and for two more containers. It is
abandoned when it waits for the second of these. -/
example :
    (SystemHandle.Operation.refresh.perform .oneArm
      ((World.start Script.halfKnown).timed fun n => if n < 2 then some 5 else none)).1 = .waiting := by
  with_unfolding_all rfl

end ProcessGraph
