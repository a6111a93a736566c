import Mathlib.Data.List.Forall2
import ProcessGraph.FanOut
import ProcessGraph.Proofs.Action

/-!
# Fan-outs

* `Returned`, `returns`: what comes back to each branch, and when, if all of them start.
* `verdict`: how a fan-out ends, read off what comes back and nothing else.
* `fanOut_apply`: a fan-out ends by its verdict and leaves the state alone.
* `verdict_eq_done_iff`, `exists_verdict_failed_iff`: it succeeds iff every branch does, and it fails
  iff some branch does; then the error is that of a branch.
* `Branch.Opens`, `steady_fanOut`: the values of a fan-out come from replies to its own requests.
-/

namespace ProcessGraph

/-- Some reply that the remote side can give to the request of the branch is made into the value. -/
def Branch.Opens (ρ : Type) [Remote ρ] {α : Type} (b : Branch α) (x : α) : Prop :=
  ∃ reply, Remote.Gives ρ b.kind (some b.identifier) reply ∧ (b.finish reply).2 = .ok x

namespace FanOut

variable {ρ α : Type}

/-! ## what comes back -/

/-- How many milliseconds after its request a branch is answered, and what is made of the answer;
nothing if there is none. -/
abbrev Returned (α : Type) := Option (Nat × Except ClientError α)

/-- What comes back to each branch if all of them start in order. -/
def returns [Remote ρ] : List (Branch α) → ρ → List (Returned α)
  | [], _ => []
  | b :: rest, r =>
    let (answer, r) := Remote.answer r (.fetch b.kind (some b.identifier))
    answer.map (fun a => (a.after, (b.finish a.reply).2)) :: returns rest r

/-- The error of a result. -/
def error? : Except ClientError α → Option ClientError
  | .error e => some e
  | .ok _ => none

/-- The error of an answer that is there at once. -/
def errorAtOnce? : Returned α → Option ClientError
  | some (0, x) => error? x
  | _ => none

/-- An answer that is still to come, with the time the client waits for it. -/
def later? : Returned α → Option (Nat × Except ClientError α)
  | some (n + 1, x) => some (min (n + 1) World.longestWait, x)
  | _ => none

/-- The answers that are still to come, in the order of their arrival. -/
def lateComers (rs : List (Returned α)) : List (Nat × Except ClientError α) :=
  (rs.filterMap later?).mergeSort fun p q => p.1 ≤ q.1

/-- What is made of the answer to a branch, whenever it comes. -/
def result? (r : Returned α) : Option (Except ClientError α) := r.map Prod.snd

/-- The value of a branch. -/
def value? (r : Returned α) : Option α := (result? r).bind Except.toOption

/-- How a fan-out ends. -/
def verdict (rs : List (Returned α)) : Outcome ClientError (List α) :=
  match rs.findSome? errorAtOnce? with
  | some e => .failed e
  | none =>
    match (lateComers rs).findSome? fun p => error? p.2 with
    | some e => .failed e
    | none =>
      match rs.mapM value? with
      | some values => .done values
      | none => .waiting

/-! ## a fan-out ends by its verdict -/

/-- A started branch, at a time, has what comes back to it. -/
inductive Slot.Holds (now : Nat) : Slot α → Returned α → Prop where
  | ready (x : α) : Holds now (.ready x) (some (0, .ok x))
  | pending (n : Nat) (es : List Log.Event) (x : Except ClientError α) :
      Holds now (.pending ⟨now + min (n + 1) World.longestWait, es, x⟩) (some (n + 1, x))
  | unanswered : Holds now .unanswered none

/-- How a launch ends, as against what comes back to its branches. -/
def Launched (w : World ρ) (rs : List (Returned α)) :
    Except ClientError (List (Slot α)) × World ρ → Prop
  | (.error e, _) => rs.findSome? errorAtOnce? = some e
  | (.ok slots, w') =>
    rs.findSome? errorAtOnce? = none ∧ w'.now = w.now ∧ List.Forall₂ (Slot.Holds w.now) slots rs

/-- A branch that starts and does not fail at once is put in front of the launch of the others. -/
theorem Launched.before {w v : World ρ} {r : Returned α} {rs : List (Returned α)} {slot : Slot α}
    {launched : Except ClientError (List (Slot α)) × World ρ} (h : Launched v rs launched)
    (hnow : v.now = w.now) (herr : errorAtOnce? r = none) (hslot : Slot.Holds w.now slot r) :
    Launched w (r :: rs) (slot.before launched) := by
  obtain ⟨⟨e⟩ | ⟨slots⟩, u⟩ := launched
  · simpa [Launched, Slot.before, List.findSome?_cons, herr] using h
  · obtain ⟨h1, h2, h3⟩ := h
    refine ⟨by simpa [List.findSome?_cons, herr] using h1, h2.trans hnow, ?_⟩
    exact .cons hslot (hnow ▸ h3)

theorem launch_launched [Remote ρ] (bs : List (Branch α)) (w : World ρ) :
    Launched w (returns bs w.remote) (launch bs w) := by
  induction bs generalizing w with
  | nil => exact ⟨rfl, rfl, .nil⟩
  | cons b rest ih =>
    unfold launch returns World.send
    rcases Remote.answer w.remote (.fetch b.kind (some b.identifier)) with ⟨_ | a, r⟩
    · exact (ih _).before rfl rfl .unanswered
    · rcases hx : b.finish a.reply with ⟨es, x⟩
      simp only [Option.map_some, hx]
      split
      next h0 =>
        rw [h0]
        cases x with
        | error e => rfl
        | ok x => exact (ih _).before rfl rfl (.ready x)
      next h0 =>
        obtain ⟨n, hn⟩ := Nat.exists_eq_succ_of_ne_zero h0
        rw [hn]
        exact (ih _).before rfl rfl (.pending n _ x)

theorem settle_fst (ps : List (Pending α)) (w : World ρ) :
    (settle ps w).1 = ps.findSome? fun p => error? p.result := by
  induction ps generalizing w with
  | nil => rfl
  | cons p rest ih =>
    unfold settle
    cases hp : p.result with
    | error e => simp [hp, error?]
    | ok x => simp [hp, error?, ih]

/-- A pending branch is due after the start, and its wait is the one of the answer to come. -/
theorem Slot.Holds.later {now : Nat} {slot : Slot α} {r : Returned α} (h : slot.Holds now r) :
    slot.pending?.map (fun p => (p.due - now, p.result)) = later? r ∧
      ∀ p, slot.pending? = some p → now ≤ p.due := by
  cases h with
  | ready x => simp [pending?, later?]
  | pending n es x => simp [pending?, later?]
  | unanswered => simp [pending?, later?]

theorem le_due_of_mem {now : Nat} {slots : List (Slot α)} {rs : List (Returned α)}
    (h : List.Forall₂ (Slot.Holds now) slots rs) {p : Pending α}
    (hp : p ∈ slots.filterMap Slot.pending?) : now ≤ p.due := by
  obtain ⟨slot, hslot, hpend⟩ := List.mem_filterMap.1 hp
  clear hp
  induction h with
  | nil => cases hslot
  | cons hhead _ ih =>
    rcases List.mem_cons.1 hslot with rfl | hslot
    · exact hhead.later.2 p hpend
    · exact ih hslot

theorem map_arrivals {now : Nat} {slots : List (Slot α)} {rs : List (Returned α)}
    (h : List.Forall₂ (Slot.Holds now) slots rs) :
    (arrivals slots).map (fun p => (p.due - now, p.result)) = lateComers rs := by
  have hmap : (slots.filterMap Slot.pending?).map (fun p => (p.due - now, p.result)) =
      rs.filterMap later? := by
    induction h with
    | nil => rfl
    | cons hslot _ ih => rw [List.map_filterMap] at ih ⊢; simp [List.filterMap_cons, hslot.later.1, ih]
  unfold arrivals lateComers
  rw [List.map_mergeSort (s := fun p q => decide (p.1 ≤ q.1)), hmap]
  intro p hp q hq
  have := le_due_of_mem h hp
  have := le_due_of_mem h hq
  simp only [decide_eq_decide]
  omega

theorem mapM_value? {now : Nat} {slots : List (Slot α)} {rs : List (Returned α)}
    (h : List.Forall₂ (Slot.Holds now) slots rs) : slots.mapM Slot.value? = rs.mapM value? := by
  induction h with
  | nil => rfl
  | cons hslot _ ih =>
    rw [List.mapM_cons, List.mapM_cons, ih]
    cases hslot <;> rfl

/-- **A fan-out ends by its verdict** and leaves the state alone. -/
theorem fanOut_apply {σ : Type} [Remote ρ] (bs : List (Branch α)) (s : σ) (w : World ρ) :
    ∃ w', Action.fanOut bs s w = (verdict (returns bs w.remote), s, w') := by
  have hl := launch_launched bs w
  unfold Action.fanOut verdict
  generalize launch bs w = launched at hl
  obtain ⟨⟨e⟩ | ⟨slots⟩, v⟩ := launched
  · rw [show (returns bs w.remote).findSome? errorAtOnce? = some e from hl]
    exact ⟨v, rfl⟩
  · obtain ⟨h1, -, h2⟩ := hl
    have hs := settle_fst (arrivals slots) v
    rw [h1, ← map_arrivals h2, ← mapM_value? h2, List.findSome?_map]
    simp only [Function.comp_def]
    rw [← hs]
    rcases settle (arrivals slots) v with ⟨_ | e, u⟩
    · simp only
      cases slots.mapM Slot.value? with
      | none => exact ⟨u, rfl⟩
      | some vs => exact ⟨u, rfl⟩
    · exact ⟨u, rfl⟩

/-! ## what the verdict is -/

theorem mapM_value?_eq_some_iff {rs : List (Returned α)} {vs : List α} :
    rs.mapM value? = some vs ↔ rs.map result? = vs.map fun v => some (.ok v) := by
  induction rs generalizing vs with
  | nil => cases vs <;> simp
  | cons r rest ih =>
    rw [List.mapM_cons]
    rcases r with _ | ⟨n, e | x⟩
    · cases vs <;> simp [value?, result?]
    · cases vs <;> simp [value?, result?, Except.toOption]
    · cases vs with
      | nil => cases rest.mapM value? <;> simp [value?, result?, Except.toOption]
      | cons v vs =>
        rw [List.map_cons, List.map_cons, List.cons.injEq, ← ih]
        cases rest.mapM value? <;> simp [value?, result?, Except.toOption]

theorem error_mem_of_atOnce {rs : List (Returned α)} {e : ClientError}
    (h : rs.findSome? errorAtOnce? = some e) : some (.error e) ∈ rs.map result? := by
  obtain ⟨r, hr, he⟩ := List.exists_of_findSome?_eq_some h
  rcases r with _ | ⟨_ | n, e' | x⟩ <;> simp [errorAtOnce?, error?] at he
  subst he
  exact List.mem_map.2 ⟨_, hr, rfl⟩

theorem error_mem_of_late {rs : List (Returned α)} {e : ClientError}
    (h : (lateComers rs).findSome? (fun p => error? p.2) = some e) :
    some (.error e) ∈ rs.map result? := by
  obtain ⟨p, hp, he⟩ := List.exists_of_findSome?_eq_some h
  obtain ⟨r, hr, hlater⟩ := List.mem_filterMap.1 ((List.mergeSort_perm _ _).mem_iff.1 hp)
  rcases r with _ | ⟨_ | n, x⟩ <;> simp [later?] at hlater
  subst hlater
  rcases x with e' | x <;> simp [error?] at he
  subst he
  exact List.mem_map.2 ⟨_, hr, rfl⟩

/-- Every error comes at once or late. -/
theorem error_found {rs : List (Returned α)} {e : ClientError} (h : some (.error e) ∈ rs.map result?)
    (hnow : rs.findSome? errorAtOnce? = none) :
    (lateComers rs).findSome? (fun p => error? p.2) ≠ none := by
  intro hlate
  obtain ⟨r, hr, he⟩ := List.mem_map.1 h
  rcases r with _ | ⟨_ | n, x⟩ <;> simp [result?] at he
  · have := List.findSome?_eq_none_iff.1 hnow _ hr
    simp [errorAtOnce?, error?, he] at this
  · have hmem : (min (n + 1) World.longestWait, x) ∈ lateComers rs :=
      (List.mergeSort_perm _ _).mem_iff.2 (List.mem_filterMap.2 ⟨_, hr, rfl⟩)
    have := List.findSome?_eq_none_iff.1 hlate _ hmem
    simp [error?, he] at this

/-- A fan-out that fails does so with the error of one of its branches. -/
theorem error_mem_of_verdict {rs : List (Returned α)} {e : ClientError} (h : verdict rs = .failed e) :
    some (.error e) ∈ rs.map result? := by
  unfold verdict at h
  split at h
  next e' hnow =>
    cases h
    exact error_mem_of_atOnce hnow
  next =>
    split at h
    next e' hlate =>
      cases h
      exact error_mem_of_late hlate
    next => split at h <;> cases h

/-- **A fan-out fails exactly when one of its branches does.** -/
theorem exists_verdict_failed_iff {rs : List (Returned α)} :
    (∃ e, verdict rs = .failed e) ↔ ∃ e, some (.error e) ∈ rs.map result? := by
  constructor
  · rintro ⟨e, h⟩
    exact ⟨e, error_mem_of_verdict h⟩
  · rintro ⟨e, h⟩
    unfold verdict
    split
    next e' _ => exact ⟨e', rfl⟩
    next hnow =>
      split
      next e' _ => exact ⟨e', rfl⟩
      next hlate => exact absurd hlate (error_found h hnow)

theorem verdict_of_no_error {rs : List (Returned α)} (h : ¬ ∃ e, some (.error e) ∈ rs.map result?) :
    verdict rs = match rs.mapM value? with
      | some vs => .done vs
      | none => .waiting := by
  have hfail := mt exists_verdict_failed_iff.1 h
  unfold verdict at hfail ⊢
  split
  next e hnow => exact absurd ⟨e, by rw [hnow]⟩ hfail
  next hnow =>
    split
    next e hlate => exact absurd ⟨e, by rw [hnow, hlate]⟩ hfail
    next => rfl

/-- **A fan-out succeeds exactly when every branch does**, with the values in the order of the
branches. -/
theorem verdict_eq_done_iff {rs : List (Returned α)} {vs : List α} :
    verdict rs = .done vs ↔ rs.map result? = vs.map fun v => some (.ok v) := by
  by_cases herr : ∃ e, some (.error e) ∈ rs.map result?
  · obtain ⟨e', hv⟩ := exists_verdict_failed_iff.2 herr
    constructor
    · intro h
      rw [hv] at h
      cases h
    · intro h
      rw [h] at herr
      simp at herr
  · rw [verdict_of_no_error herr, ← mapM_value?_eq_some_iff]
    cases rs.mapM value? <;> simp

/-- The verdict depends on the results of the branches, but for the choice among several errors. -/
theorem agrees_verdict {rs rs' : List (Returned α)} (h : rs.map result? = rs'.map result?) :
    (verdict rs).Agrees (fun _ _ => True) Eq (verdict rs') := by
  by_cases herr : ∃ e, some (.error e) ∈ rs.map result?
  · obtain ⟨e, hv⟩ := exists_verdict_failed_iff.2 herr
    obtain ⟨e', hv'⟩ := exists_verdict_failed_iff.2 (h ▸ herr)
    rw [hv, hv']
    exact .failed trivial
  · rw [verdict_of_no_error herr, verdict_of_no_error (h ▸ herr)]
    have hvalues (l : List (Returned α)) :
        l.mapM value? = (l.map result?).mapM fun x => x.bind Except.toOption := by
      rw [List.mapM_map]
      rfl
    rw [hvalues rs, hvalues rs', h]
    cases (rs'.map result?).mapM fun x => x.bind Except.toOption with
    | none => exact .waiting
    | some vs => exact .done rfl

/-! ## where the values come from -/

theorem opens_of_results [Remote ρ] {bs : List (Branch α)} {r : ρ} {vs : List α}
    (h : (returns bs r).map result? = vs.map fun v => some (.ok v)) :
    List.Forall₂ (Branch.Opens ρ) bs vs := by
  induction bs generalizing r vs with
  | nil =>
    cases vs with
    | nil => exact .nil
    | cons v vs => cases h
  | cons b rest ih =>
    cases vs with
    | nil => cases h
    | cons v vs =>
      rw [returns, List.map_cons, List.map_cons, List.cons.injEq] at h
      obtain ⟨hhead, hrest⟩ := h
      refine .cons ?_ (ih hrest)
      cases ha : (Remote.answer r (.fetch b.kind (some b.identifier))).1 with
      | none => simp [ha, result?] at hhead
      | some a => exact ⟨a.reply, ⟨r, a, ha, rfl⟩, by simpa [ha, result?] using hhead⟩

end FanOut

/-- **A fan-out only looks**: its values are opened by replies to its branches, and the state stays. -/
theorem Action.steady_fanOut {ρ σ α : Type} [Remote ρ] (bs : List (Branch α)) (s : σ) (w : World ρ) :
    Steady s (List.Forall₂ (Branch.Opens ρ) bs) (fanOut bs s w) := by
  obtain ⟨w', h⟩ := FanOut.fanOut_apply bs s w
  rw [h]
  cases hv : FanOut.verdict (FanOut.returns bs w.remote) with
  | done vs => exact .done ⟨rfl, FanOut.opens_of_results (FanOut.verdict_eq_done_iff.1 hv)⟩
  | failed e => exact .failed e w'
  | waiting => exact .waiting w'

end ProcessGraph
