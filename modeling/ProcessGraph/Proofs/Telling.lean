import ProcessGraph.Proofs.Arrivals

/-!
# Who tells what

* `Speaker`, `Remote.Logs`: events are logged by handles, or they come with answers of the remote side.
* `World.Said`: what handles logged between two worlds.
* `FanOut.fanOut_said`: a fan-out tells of the siblings that end, one after another in the order of the answers, and of
  no others. That holds however the fan-out ends, and if it does not.
-/

namespace ProcessGraph

variable {ρ σ α β : Type}

/-! ## who speaks -/

/-- Who logs an event: a handle, or the way to the remote side beside an answer. -/
inductive Speaker where
  | handle
  | transport
deriving DecidableEq

/-- An answer of the remote side comes with this event, in some state and to some request. -/
def Remote.Logs (ρ : Type) [Remote ρ] (e : Log.Event) : Prop :=
  ∃ (r : ρ) (q : Request) (a : Answer q.Reply), (Remote.answer r q).1 = some a ∧ e ∈ a.events

/-- The events of the handles among all events. -/
def ofHandles (xs : List (Speaker × Log.Event)) : List Log.Event :=
  (xs.filter fun x => x.1 = .handle).map Prod.snd

namespace World

theorem events_logAll (w : World ρ) (es : List Log.Event) : (w.logAll es).events = w.events ++ es := by
  simp [events, logAll, List.filterMap_append, List.filterMap_map]

theorem events_send [Remote ρ] (w : World ρ) (q : Request) : (w.send q).2.events = w.events := by
  simp [events, send]

/-- From one world to a later one the handles logged these events, in this order. All other events came with
answers. -/
def Said [Remote ρ] (w v : World ρ) (own : List Log.Event) : Prop :=
  ∃ xs : List (Speaker × Log.Event), v.events = w.events ++ xs.map Prod.snd ∧ own = ofHandles xs ∧
    ∀ e, (Speaker.transport, e) ∈ xs → Remote.Logs ρ e

namespace Said

variable [Remote ρ] {u v w : World ρ} {es fs : List Log.Event}

/-- Nothing is said while the log stays as it is. -/
theorem silent (h : v.events = w.events) : w.Said v [] :=
  ⟨[], by simp [h], rfl, by simp⟩

theorem refl (w : World ρ) : w.Said w [] := silent rfl

theorem trans (h : u.Said v es) (h' : v.Said w fs) : u.Said w (es ++ fs) := by
  obtain ⟨xs, hv, rfl, hxs⟩ := h
  obtain ⟨ys, hw, rfl, hys⟩ := h'
  refine ⟨xs ++ ys, ?_, ?_, ?_⟩
  · rw [hw, hv, List.map_append, List.append_assoc]
  · simp [ofHandles]
  · intro e he
    rcases List.mem_append.1 he with he | he
    · exact hxs e he
    · exact hys e he

theorem logAll (w : World ρ) (es : List Log.Event) : w.Said (w.logAll es) es := by
  refine ⟨es.map (Speaker.handle, ·), ?_, ?_, by simp⟩
  · simp [events_logAll, Function.comp_def]
  · simp [ofHandles, List.filter_map, Function.comp_def]

/-- What comes with answers is not said by handles. -/
theorem heard (w : World ρ) {es : List Log.Event} (h : ∀ e ∈ es, Remote.Logs ρ e) : w.Said (w.logAll es) [] := by
  refine ⟨es.map (Speaker.transport, ·), ?_, ?_, ?_⟩
  · simp [events_logAll, Function.comp_def]
  · simp [ofHandles, List.filter_map, Function.comp_def]
  · intro e he
    obtain ⟨e', he', heq⟩ := List.mem_map.1 he
    obtain ⟨-, rfl⟩ := Prod.mk.inj heq
    exact h _ he'

theorem after_heard (w : World ρ) {es fs : List Log.Event} (h : ∀ e ∈ es, Remote.Logs ρ e) :
    w.Said (w.logAll (es ++ fs)) fs := by
  have hboth := (heard w h).trans (logAll (w.logAll es) fs)
  have heq : (w.logAll es).logAll fs = w.logAll (es ++ fs) := by simp [World.logAll]
  rwa [heq] at hboth

theorem exchange (w : World ρ) (q : Request) : w.Said (w.exchange q).2 [] := by
  have hsend : w.Said (w.send q).2 [] := silent (events_send w q)
  unfold World.exchange
  cases hs : w.send q with
  | mk answer v =>
    have ha : (Remote.answer w.remote q).1 = answer := congrArg Prod.fst hs
    rw [hs] at hsend
    cases answer with
    | none => exact hsend
    | some a =>
      have hwait : v.Said (v.advanceTo (v.endOfWait a.after)) [] := silent rfl
      exact (hsend.trans hwait).trans (heard _ fun e he => ⟨w.remote, q, a, ha, he⟩)

end Said

end World

/-! ## what siblings say -/

namespace FanOut

variable [Remote ρ]

/-- What is logged with the answers to siblings comes from the remote side. -/
theorem logs_of_mem_answers (n : Nat) (bs : List (Branch α)) (r : ρ) :
    ∀ t ∈ answers n bs r, ∀ e ∈ t.answer.events, Remote.Logs ρ e := by
  induction bs generalizing n r with
  | nil => simp [answers]
  | cons b rest ih =>
    rw [answers]
    rcases ha : Remote.answer r (.fetch b.kind (some b.identifier)) with ⟨_ | a, u⟩
    · exact ih (n + 1) u
    · exact List.forall_mem_cons.2 ⟨fun e he => ⟨r, _, a, congrArg Prod.fst ha, he⟩, ih (n + 1) u⟩

/-- A sibling that is answered later, in a launch at a moment. -/
def pendingAt (now : Nat) (t : Answered α) : Pending α := ⟨now + t.wait, t.answer.events ++ t.events, t.result⟩

/-- What a launch says, as against the siblings that are answered: those that are answered at once are told of up to the
first failure. If there is none, the others are pending. -/
structure LaunchSaid (w : World ρ) (l : List (Answered α)) (r : Except ClientError (List (Slot α)) × World ρ) :
    Prop where
  said : w.Said r.2 ((upToFailure (l.filter Answered.atOnce)).flatMap Answered.events)
  taken : ∀ slots, r.1 = .ok slots → ∀ t ∈ l.filter Answered.atOnce, ∃ x, t.result = .ok x
  pending : ∀ slots, r.1 = .ok slots →
    slots.filterMap Slot.pending? = (l.filter fun t => !t.atOnce).map (pendingAt w.now)

/-- A sibling that has not failed, in front of a launch. -/
theorem LaunchSaid.before {w u : World ρ} {l : List (Answered α)} {slot : Slot α}
    {r : Except ClientError (List (Slot α)) × World ρ} (front : List (Answered α)) (h : LaunchSaid u l r)
    (hnow : u.now = w.now)
    (hsaid : w.Said u ((front.filter Answered.atOnce).flatMap Answered.events))
    (hok : ∀ t ∈ front.filter Answered.atOnce, ∃ x, t.result = .ok x)
    (hslot : [slot].filterMap Slot.pending? = (front.filter fun t => !t.atOnce).map (pendingAt w.now)) :
    LaunchSaid w (front ++ l) (slot.before r) := by
  refine ⟨?_, fun slots hslots => ?_, fun slots hslots => ?_⟩
  · rw [Slot.before_snd, List.filter_append, upToFailure_append_of_ok hok, List.flatMap_append]
    exact hsaid.trans h.said
  · obtain ⟨e | slots', v⟩ := r
    · cases hslots
    · rw [List.filter_append]
      exact List.forall_mem_append.2 ⟨hok, h.taken slots' rfl⟩
  · obtain ⟨e | slots', v⟩ := r
    · cases hslots
    · have hslots : slot :: slots' = slots := Except.ok.inj hslots
      rw [← hslots, ← List.singleton_append, List.filterMap_append, hslot, h.pending slots' rfl, List.filter_append,
        List.map_append, hnow]

theorem answers_cons (n : Nat) (b : Branch α) (rest : List (Branch α)) (w : World ρ) :
    answers n (b :: rest) w.remote = match w.send (.fetch b.kind (some b.identifier)) with
      | (some a, v) => ⟨n, b, a⟩ :: answers (n + 1) rest v.remote
      | (none, v) => answers (n + 1) rest v.remote := by
  rw [answers, World.send]
  rcases Remote.answer w.remote (.fetch b.kind (some b.identifier)) with ⟨_ | a, u⟩ <;> rfl

theorem launch_said (n : Nat) (bs : List (Branch α)) (w : World ρ) :
    LaunchSaid w (answers n bs w.remote) (launch bs w) := by
  induction bs generalizing n w with
  | nil => exact ⟨.refl w, by simp [answers], by rintro _ ⟨⟩; rfl⟩
  | cons b rest ih =>
    have hlogs := logs_of_mem_answers n (b :: rest) w.remote
    have hquiet : w.Said (w.send (.fetch b.kind (some b.identifier))).2 [] := .silent (World.events_send w _)
    have hnow : (w.send (.fetch b.kind (some b.identifier))).2.now = w.now := rfl
    rw [answers_cons] at hlogs ⊢
    rw [launch]
    generalize w.send (.fetch b.kind (some b.identifier)) = sent at hlogs hquiet hnow ⊢
    obtain ⟨_ | a, v⟩ := sent
    · exact (ih (n + 1) v).before [] hnow hquiet (by simp) rfl
    · have hnow : v.now = w.now := hnow
      obtain ⟨hlogs, -⟩ := List.forall_mem_cons.1 hlogs
      rcases hx : b.finish a.reply with ⟨es, x⟩
      have hevents : Answered.events ⟨n, b, a⟩ = es := congrArg Prod.fst hx
      have hresult : Answered.result ⟨n, b, a⟩ = x := congrArg Prod.snd hx
      simp only [hx]
      split
      next h0 =>
        have hatOnce : Answered.atOnce ⟨n, b, a⟩ = true := by simpa [Answered.atOnce] using h0
        have hsaid : w.Said (v.logAll (a.events ++ es)) (Answered.events ⟨n, b, a⟩) := by
          rw [hevents]
          exact hquiet.trans (.after_heard v hlogs)
        cases x with
        | error e =>
          refine ⟨?_, by rintro _ ⟨⟩, by rintro _ ⟨⟩⟩
          rw [List.filter_cons_of_pos hatOnce, upToFailure_of_fails ⟨e, hresult⟩, List.flatMap_singleton]
          exact hsaid
        | ok x =>
          refine (ih (n + 1) (v.logAll (a.events ++ es))).before [⟨n, b, a⟩] hnow ?_ ?_ ?_
          · simpa [hatOnce] using hsaid
          · simpa [hatOnce] using ⟨x, hresult⟩
          · simp [hatOnce, Slot.pending?]
      next h0 =>
        have hlater : Answered.atOnce ⟨n, b, a⟩ = false := by simpa [Answered.atOnce] using h0
        refine (ih (n + 1) v).before [⟨n, b, a⟩] hnow ?_ (by simp [hlater]) ?_
        · simpa [hlater] using hquiet
        · simp [hlater, Slot.pending?, pendingAt, World.endOfWait, Answered.wait, hnow, hevents, hresult]

/-- Pending siblings are told of as their answers come, up to the first failure. -/
theorem settle_said {l : List (Answered α)} (hlogs : ∀ t ∈ l, ∀ e ∈ t.answer.events, Remote.Logs ρ e) (now : Nat)
    (w : World ρ) : w.Said (settle (l.map (pendingAt now)) w).2 ((upToFailure l).flatMap Answered.events) := by
  induction l generalizing w with
  | nil => exact .refl w
  | cons t rest ih =>
    obtain ⟨ht, hrest⟩ := List.forall_mem_cons.1 hlogs
    have hwait : w.Said (w.advanceTo (pendingAt now t).due) [] := .silent rfl
    have hsaid : w.Said ((w.advanceTo (pendingAt now t).due).logAll (t.answer.events ++ t.events)) t.events :=
      hwait.trans (.after_heard _ ht)
    rw [List.map_cons, settle]
    rcases t.fails_or_ok with ⟨e, he⟩ | ⟨x, hx⟩
    · have hresult : (pendingAt now t).result = .error e := he
      simp only [hresult]
      rw [upToFailure_of_fails ⟨e, he⟩, List.flatMap_singleton]
      exact hsaid
    · have hresult : (pendingAt now t).result = .ok x := hx
      simp only [hresult]
      rw [upToFailure_of_ok ⟨x, hx⟩, List.flatMap_cons]
      exact hsaid.trans (ih hrest _)

/-- The pending siblings in the order of their answers. -/
theorem arrivals_eq {slots : List (Slot α)} {l : List (Answered α)} {now : Nat}
    (h : slots.filterMap Slot.pending? = l.map (pendingAt now)) :
    arrivals slots = (l.mergeSort fun a b => a.wait ≤ b.wait).map (pendingAt now) := by
  rw [arrivals, h]
  refine (List.map_mergeSort (s := fun p q : Pending α => decide (p.due ≤ q.due)) fun a _ b _ => ?_).symm
  simp [pendingAt]

/-- **A fan-out tells of the siblings that end**, in the order of the answers, and of no others. -/
theorem fanOut_said (bs : List (Branch α)) (s : σ) (w : World ρ) :
    w.Said (Action.fanOut bs s w).2.2 ((ended bs w.remote).flatMap Answered.events) := by
  have hlaunch := launch_said 0 bs w
  have hlaunched := launch_launched bs w
  have hlogs := logs_of_mem_answers 0 bs w.remote
  unfold Action.fanOut
  rw [ended, inOrder]
  generalize launch bs w = launched at hlaunch hlaunched
  obtain ⟨e | slots, v⟩ := launched
  · have hnow : (returns bs w.remote).findSome? errorAtOnce? = some e := hlaunched
    rw [upToFailure_append_of_fails (exists_fails_atOnce hnow)]
    exact hlaunch.said
  · have hsettle := settle_said (l := ((answers 0 bs w.remote).filter fun t => !t.atOnce).mergeSort fun a b =>
      a.wait ≤ b.wait) (fun t ht => hlogs t (List.mem_of_mem_filter ((List.mergeSort_perm _ _).subset ht))) w.now v
    rw [← arrivals_eq (hlaunch.pending slots rfl)] at hsettle
    have hsaid := hlaunch.said.trans hsettle
    have hok := hlaunch.taken slots rfl
    rw [upToFailure_eq_self hok, ← List.flatMap_append, ← upToFailure_append_of_ok hok] at hsaid
    simp only
    generalize settle (arrivals slots) v = settled at hsaid
    obtain ⟨_ | e, u⟩ := settled
    · cases slots.mapM Slot.value? <;> exact hsaid
    · exact hsaid

end FanOut

end ProcessGraph
