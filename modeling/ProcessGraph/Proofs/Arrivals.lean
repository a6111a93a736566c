import Mathlib.Data.List.Perm.Subperm
import Mathlib.Data.List.Sort
import ProcessGraph.Proofs.Requests

/-!
# Which siblings end

* `Answered`, `answers`: the siblings that are answered, if all of them start.
* `Answered.Sooner`: the order in which the answers are taken: by time, and at one time by position.
* `Ended`: the siblings that end are those that are answered no later than the first failure. This holds of the ones
  that never start, too: a sibling before them fails at once, and that is sooner than any answer to them could be.
* `ended`, `ended_ended`: these siblings, in the order in which a fan-out takes the answers.
* `Settled`, `settled_ended`: how a fan-out ends, as against the siblings that end.
-/

namespace ProcessGraph.FanOut

variable {ρ α β : Type}

/-! ## siblings and the answers to them -/

/-- A sibling at its position, and the answer to it. -/
structure Answered (α : Type) where
  position : Nat
  branch : Branch α
  answer : Answer (Except ClientError Json.Value)

namespace Answered

/-- How many milliseconds the client waits for the answer. -/
def wait (t : Answered α) : Nat := min t.answer.after World.longestWait

/-- What is logged of a sibling. -/
def events (t : Answered α) : List Log.Event := (t.branch.finish t.answer.reply).1

/-- What is made of the answer to a sibling. -/
def result (t : Answered α) : Except ClientError α := (t.branch.finish t.answer.reply).2

/-- The sibling cannot be made of the answer to it. -/
def Fails (t : Answered α) : Prop := ∃ e, t.result = .error e

/-- The answer to one sibling is taken before that to another: it comes first, or both come at one time and the sibling
stands before the other. -/
def Sooner (a b : Answered α) : Prop := a.wait < b.wait ∨ a.wait = b.wait ∧ a.position < b.position

/-- Is the answer there at once? -/
def atOnce (t : Answered α) : Bool := t.answer.after = 0

/-- What comes back to a sibling that is answered. -/
def returned (t : Answered α) : Returned α := some (t.answer.after, t.result)

theorem Sooner.asymm {a b : Answered α} (h : a.Sooner b) : ¬ b.Sooner a := by
  unfold Sooner at h ⊢
  omega

theorem not_sooner_self (a : Answered α) : ¬ a.Sooner a := fun h => h.asymm h

theorem not_fails_iff {t : Answered α} : ¬ t.Fails ↔ ∃ x, t.result = .ok x := by
  unfold Fails
  cases t.result <;> simp

theorem fails_or_ok (t : Answered α) : t.Fails ∨ ∃ x, t.result = .ok x :=
  (Classical.em t.Fails).imp_right not_fails_iff.1

theorem wait_of_atOnce {t : Answered α} (h : t.atOnce) : t.wait = 0 := by
  have hafter : t.answer.after = 0 := of_decide_eq_true h
  simp [wait, hafter]

theorem wait_pos {t : Answered α} (h : ¬ t.atOnce) : 0 < t.wait := by
  have hafter : t.answer.after ≠ 0 := by simpa [atOnce] using h
  have hlong : 0 < World.longestWait := by decide
  unfold wait
  omega

end Answered

/-- The siblings of a fan-out that end, out of all that are answered. -/
structure Ended (answered ended : List (Answered α)) : Prop where
  /-- They end one after another, in the order of the answers. -/
  order : ended.Pairwise Answered.Sooner
  /-- A sibling ends exactly if it is answered, and none that fails is answered sooner. -/
  mem_iff : ∀ a, a ∈ ended ↔ a ∈ answered ∧ ∀ b ∈ answered, b.Fails → ¬ b.Sooner a

/-- No sibling ends twice. -/
theorem Ended.nodup {answered ended : List (Answered α)} (h : Ended answered ended) : ended.Nodup :=
  h.order.imp fun {a _} hab => by
    rintro rfl
    exact a.not_sooner_self hab

/-! ## up to the first failure -/

/-- Siblings up to the first one that fails. -/
def upToFailure : List (Answered α) → List (Answered α)
  | [] => []
  | t :: rest =>
    match t.result with
    | .error _ => [t]
    | .ok _ => t :: upToFailure rest

section

variable {t a : Answered α} {l l' : List (Answered α)}

theorem upToFailure_of_fails (h : t.Fails) (rest : List (Answered α)) : upToFailure (t :: rest) = [t] := by
  obtain ⟨e, he⟩ := h
  simp only [upToFailure, he]

theorem upToFailure_of_ok (h : ∃ x, t.result = .ok x) (rest : List (Answered α)) :
    upToFailure (t :: rest) = t :: upToFailure rest := by
  obtain ⟨x, hx⟩ := h
  simp only [upToFailure, hx]

theorem upToFailure_isPrefix (l : List (Answered α)) : upToFailure l <+: l := by
  induction l with
  | nil => exact List.prefix_rfl
  | cons t rest ih =>
    rcases t.fails_or_ok with h | h
    · rw [upToFailure_of_fails h]
      exact ⟨rest, rfl⟩
    · rw [upToFailure_of_ok h]
      exact (List.prefix_cons_inj t).2 ih

/-- Siblings none of which fails stand before the first failure. -/
theorem upToFailure_append_of_ok (h : ∀ t ∈ l, ∃ x, t.result = .ok x) :
    upToFailure (l ++ l') = l ++ upToFailure l' := by
  induction l with
  | nil => rfl
  | cons t rest ih =>
    obtain ⟨ht, hrest⟩ := List.forall_mem_cons.1 h
    rw [List.cons_append, upToFailure_of_ok ht, ih hrest, List.cons_append]

/-- What comes after a failure does not matter. -/
theorem upToFailure_append_of_fails (h : ∃ t ∈ l, t.Fails) : upToFailure (l ++ l') = upToFailure l := by
  induction l with
  | nil =>
    obtain ⟨t, ht, -⟩ := h
    cases ht
  | cons t rest ih =>
    rcases t.fails_or_ok with ht | ht
    · rw [List.cons_append, upToFailure_of_fails ht, upToFailure_of_fails ht]
    · obtain ⟨u, hu, hfails⟩ := h
      have hne : u ≠ t := by
        rintro rfl
        exact Answered.not_fails_iff.2 ht hfails
      have hrest : u ∈ rest := (List.mem_cons.1 hu).resolve_left hne
      rw [List.cons_append, upToFailure_of_ok ht, upToFailure_of_ok ht, ih ⟨u, hrest, hfails⟩]

/-- If none fails, all are there. -/
theorem upToFailure_eq_self (h : ∀ t ∈ l, ∃ x, t.result = .ok x) : upToFailure l = l := by
  have happend : upToFailure (l ++ []) = l ++ upToFailure [] := upToFailure_append_of_ok h
  simpa [upToFailure] using happend

/-- Of siblings in order, those up to the first failure are those that no failure precedes. -/
theorem mem_upToFailure_iff (h : l.Pairwise Answered.Sooner) :
    a ∈ upToFailure l ↔ a ∈ l ∧ ∀ b ∈ l, b.Fails → ¬ b.Sooner a := by
  induction l with
  | nil => simp [upToFailure]
  | cons t rest ih =>
    obtain ⟨hfirst, hrest⟩ := List.pairwise_cons.1 h
    have hhead : ∀ b ∈ t :: rest, b.Fails → ¬ b.Sooner t :=
      List.forall_mem_cons.2 ⟨fun _ => t.not_sooner_self, fun b hb _ => (hfirst b hb).asymm⟩
    rcases t.fails_or_ok with ht | ht
    · rw [upToFailure_of_fails ht, List.mem_singleton]
      constructor
      · rintro rfl
        exact ⟨List.mem_cons_self, hhead⟩
      · rintro ⟨hmem, hnone⟩
        exact (List.mem_cons.1 hmem).resolve_right fun ha => hnone t List.mem_cons_self ht (hfirst a ha)
    · rw [upToFailure_of_ok ht, List.mem_cons, ih hrest]
      constructor
      · rintro (rfl | ⟨hmem, hnone⟩)
        · exact ⟨List.mem_cons_self, hhead⟩
        · exact ⟨List.mem_cons_of_mem _ hmem,
            List.forall_mem_cons.2 ⟨fun hfails => absurd hfails (Answered.not_fails_iff.2 ht), hnone⟩⟩
      · rintro ⟨hmem, hnone⟩
        exact (List.mem_cons.1 hmem).imp_right fun ha => ⟨ha, fun b hb => hnone b (List.mem_cons_of_mem _ hb)⟩

/-- The error of a sibling. -/
def failure? (t : Answered α) : Option ClientError := error? t.result

theorem failure?_eq_some_iff {e : ClientError} : failure? t = some e ↔ t.result = .error e := by
  unfold failure?
  cases t.result <;> simp [error?]

theorem ok_of_findSome?_eq_none (h : l.findSome? failure? = none) : ∀ t ∈ l, ∃ x, t.result = .ok x := by
  intro t ht
  rw [← Answered.not_fails_iff]
  rintro ⟨e, he⟩
  have hnone := List.findSome?_eq_none_iff.1 h t ht
  rw [failure?_eq_some_iff.2 he] at hnone
  cases hnone

/-- The first failure ends the list. -/
theorem exists_last_of_findSome? {e : ClientError} (h : l.findSome? failure? = some e) :
    ∃ before t, upToFailure l = before ++ [t] ∧ t.result = .error e ∧ ∀ t' ∈ before, ∃ x, t'.result = .ok x := by
  obtain ⟨before, t, after, rfl, ht, hbefore⟩ := List.findSome?_eq_some_iff.1 h
  have ht := failure?_eq_some_iff.1 ht
  have hok := ok_of_findSome?_eq_none (List.findSome?_eq_none_iff.2 hbefore)
  exact ⟨before, t, by rw [upToFailure_append_of_ok hok, upToFailure_of_fails ⟨e, ht⟩], ht, hok⟩

end

/-! ## the order of the answers -/

/-- Answered siblings in the order in which a fan-out takes the answers: those that are there at once, and then the
others by time. -/
def inOrder (l : List (Answered α)) : List (Answered α) :=
  l.filter Answered.atOnce ++ (l.filter fun t => !t.atOnce).mergeSort fun a b => a.wait ≤ b.wait

theorem inOrder_perm (l : List (Answered α)) : (inOrder l).Perm l :=
  ((List.mergeSort_perm _ _).append_left _).trans (List.filter_append_perm _ _)

/-- Sorting by time keeps the order of those that are answered at one time. -/
theorem pairwise_mergeSort_wait {l : List (Answered α)} (h : l.Pairwise (·.position < ·.position)) :
    (l.mergeSort fun a b => a.wait ≤ b.wait).Pairwise Answered.Sooner := by
  have htrans : ∀ a b c : Answered α, decide (a.wait ≤ b.wait) → decide (b.wait ≤ c.wait) →
      decide (a.wait ≤ c.wait) := by
    simp only [decide_eq_true_eq]
    omega
  have htotal : ∀ a b : Answered α, (decide (a.wait ≤ b.wait) || decide (b.wait ≤ a.wait)) = true := by
    simp only [Bool.or_eq_true, decide_eq_true_eq]
    omega
  induction l with
  | nil => simp
  | cons t rest ih =>
    obtain ⟨hfirst, hrest⟩ := List.pairwise_cons.1 h
    obtain ⟨before, after, hsort, hsplit, hbefore⟩ := List.mergeSort_cons htrans htotal t rest
    have hsorted := List.pairwise_mergeSort htrans htotal (t :: rest)
    rw [hsort] at hsorted ⊢
    obtain ⟨-, hsorted, -⟩ := List.pairwise_append.1 hsorted
    have hrest := ih hrest
    have hperm := List.mergeSort_perm rest fun a b => a.wait ≤ b.wait
    rw [hsplit] at hrest hperm
    obtain ⟨hleft, hright, hacross⟩ := List.pairwise_append.1 hrest
    have hlater : ∀ c ∈ after, t.Sooner c := by
      intro c hc
      have hwait : t.wait ≤ c.wait := by simpa using (List.pairwise_cons.1 hsorted).1 c hc
      have hposition := hfirst c (hperm.subset (List.mem_append_right _ hc))
      unfold Answered.Sooner
      omega
    have hsooner : ∀ b ∈ before, b.Sooner t := by
      intro b hb
      have hwait : b.wait < t.wait := by simpa using hbefore b hb
      exact .inl hwait
    refine List.pairwise_append.2 ⟨hleft, List.pairwise_cons.2 ⟨hlater, hright⟩, fun b hb => ?_⟩
    exact List.forall_mem_cons.2 ⟨hsooner b hb, hacross b hb⟩

/-- The answers that are there at once are taken first, in the order of the siblings, and the others by time. -/
theorem inOrder_pairwise {l : List (Answered α)} (h : l.Pairwise (·.position < ·.position)) :
    (inOrder l).Pairwise Answered.Sooner := by
  have hnow : ∀ t ∈ l.filter Answered.atOnce, t.wait = 0 := fun t ht =>
    Answered.wait_of_atOnce (List.mem_filter.1 ht).2
  refine List.pairwise_append.2 ⟨?_, pairwise_mergeSort_wait (h.filter _), fun a ha b hb => ?_⟩
  · refine (h.filter _).imp_of_mem fun {a b} ha hb hlt => .inr ⟨?_, hlt⟩
    rw [hnow a ha, hnow b hb]
  · have hb := (List.mem_filter.1 ((List.mergeSort_perm _ _).subset hb)).2
    have hpos : 0 < b.wait := Answered.wait_pos (by simpa using hb)
    exact .inl (hnow a ha ▸ hpos)

/-- Siblings up to the first failure in the order of the answers are those that end. -/
theorem ended_upToFailure {l : List (Answered α)} (h : l.Pairwise (·.position < ·.position)) :
    Ended l (upToFailure (inOrder l)) where
  order := (inOrder_pairwise h).sublist (upToFailure_isPrefix _).sublist
  mem_iff a := by
    have hmem : ∀ b, b ∈ inOrder l ↔ b ∈ l := fun b => (inOrder_perm l).mem_iff
    simp only [mem_upToFailure_iff (inOrder_pairwise h), hmem]

/-! ## the answers to siblings -/

/-- The siblings that are answered if all of them start in order, the first at a position. -/
def answers [Remote ρ] : Nat → List (Branch α) → ρ → List (Answered α)
  | _, [], _ => []
  | n, b :: rest, r =>
    let (answer, r) := Remote.answer r (.fetch b.kind (some b.identifier))
    match answer with
    | some a => ⟨n, b, a⟩ :: answers (n + 1) rest r
    | none => answers (n + 1) rest r

/-- The siblings of a fan-out that end, in the order in which their answers are taken. -/
def ended [Remote ρ] (bs : List (Branch α)) (r : ρ) : List (Answered α) := upToFailure (inOrder (answers 0 bs r))

theorem errorAtOnce?_returned (t : Answered α) :
    errorAtOnce? t.returned = if t.atOnce then failure? t else none := by
  obtain ⟨n, b, ⟨_ | after, reply, es⟩⟩ := t <;> rfl

theorem later?_returned (t : Answered α) :
    later? t.returned = if !t.atOnce then some (t.wait, t.result) else none := by
  obtain ⟨n, b, ⟨_ | after, reply, es⟩⟩ := t <;> rfl

section

variable [Remote ρ]

theorem le_position_answers (n : Nat) (bs : List (Branch α)) (r : ρ) : ∀ t ∈ answers n bs r, n ≤ t.position := by
  induction bs generalizing n r with
  | nil => simp [answers]
  | cons b rest ih =>
    have hrest : ∀ r, ∀ t ∈ answers (n + 1) rest r, n ≤ t.position := fun r t ht =>
      Nat.le_of_succ_le (ih (n + 1) r t ht)
    rw [answers]
    rcases Remote.answer r (.fetch b.kind (some b.identifier)) with ⟨_ | a, u⟩
    · exact hrest u
    · exact List.forall_mem_cons.2 ⟨Nat.le_refl n, hrest u⟩

theorem answers_pairwise (n : Nat) (bs : List (Branch α)) (r : ρ) :
    (answers n bs r).Pairwise (·.position < ·.position) := by
  induction bs generalizing n r with
  | nil => exact .nil
  | cons b rest ih =>
    rw [answers]
    rcases Remote.answer r (.fetch b.kind (some b.identifier)) with ⟨_ | a, u⟩
    · exact ih (n + 1) u
    · exact List.pairwise_cons.2 ⟨le_position_answers (n + 1) rest u, ih (n + 1) u⟩

/-- **The siblings that a fan-out takes are those that end.** -/
theorem ended_ended (bs : List (Branch α)) (r : ρ) : Ended (answers 0 bs r) (ended bs r) :=
  ended_upToFailure (answers_pairwise 0 bs r)

theorem map_branch_answers (n : Nat) (bs : List (Branch α)) (r : ρ) :
    ((answers n bs r).map Answered.branch).Sublist bs := by
  induction bs generalizing n r with
  | nil => exact .slnil
  | cons b rest ih =>
    rw [answers]
    rcases Remote.answer r (.fetch b.kind (some b.identifier)) with ⟨_ | a, u⟩
    · exact (ih (n + 1) u).cons b
    · exact (ih (n + 1) u).cons_cons b

/-- What can be read off all that comes back can be read off the answers, as nothing is read off a sibling that is not
answered. -/
theorem filterMap_returns {f : Returned α → Option β} (hf : f none = none) (n : Nat) (bs : List (Branch α)) (r : ρ) :
    (returns bs r).filterMap f = (answers n bs r).filterMap fun t => f t.returned := by
  induction bs generalizing n r with
  | nil => rfl
  | cons b rest ih =>
    rw [answers, returns]
    rcases Remote.answer r (.fetch b.kind (some b.identifier)) with ⟨_ | a, u⟩
    · simpa [List.filterMap_cons, hf] using ih (n + 1) u
    · simp only [Option.map_some, List.filterMap_cons, ih (n + 1) u]
      rfl

theorem findSome?_returns (n : Nat) (bs : List (Branch α)) (r : ρ) :
    (returns bs r).findSome? errorAtOnce? = ((answers n bs r).filter Answered.atOnce).findSome? failure? := by
  rw [← List.head?_filterMap, ← List.head?_filterMap, filterMap_returns rfl n, List.filterMap_filter]
  simp only [errorAtOnce?_returned]

theorem filterMap_later?_returns (n : Nat) (bs : List (Branch α)) (r : ρ) :
    (returns bs r).filterMap later? =
      ((answers n bs r).filter fun t => !t.atOnce).map fun t => (t.wait, t.result) := by
  rw [filterMap_returns rfl n, ← List.filterMap_eq_map, List.filterMap_filter]
  simp only [later?_returned, Function.comp_apply]

theorem lateComers_returns (n : Nat) (bs : List (Branch α)) (r : ρ) :
    lateComers (returns bs r) = (((answers n bs r).filter fun t => !t.atOnce).mergeSort fun a b =>
      a.wait ≤ b.wait).map fun t => (t.wait, t.result) := by
  rw [lateComers, filterMap_later?_returns n]
  exact (List.map_mergeSort (s := fun p q => decide (p.1 ≤ q.1)) (f := fun t : Answered α => (t.wait, t.result))
    fun _ _ _ _ => rfl).symm

/-- A fan-out fails with the first error in the order of the answers. -/
theorem verdict_eq_failed_iff (n : Nat) (bs : List (Branch α)) (r : ρ) {e : ClientError} :
    verdict (returns bs r) = .failed e ↔ (inOrder (answers n bs r)).findSome? failure? = some e := by
  have hlate : ((fun p : Nat × Except ClientError α => error? p.2) ∘ fun t : Answered α => (t.wait, t.result)) =
      failure? := rfl
  unfold verdict inOrder
  rw [findSome?_returns n, lateComers_returns n, List.findSome?_map, List.findSome?_append, hlate]
  cases ((answers n bs r).filter Answered.atOnce).findSome? failure? with
  | some e' => simp
  | none =>
    simp only [Option.none_or]
    cases List.findSome? failure? _ with
    | some e' => simp
    | none => cases (returns bs r).mapM value? <;> simp

/-- A fan-out succeeds only if each sibling gives its value. -/
theorem map_result_answers_of_verdict (n : Nat) {bs : List (Branch α)} {r : ρ} {xs : List α}
    (h : verdict (returns bs r) = .done xs) : (answers n bs r).map Answered.result = xs.map .ok := by
  have hresults := congrArg (List.filterMap id) (verdict_eq_done_iff.1 h)
  rw [List.filterMap_map, List.filterMap_map] at hresults
  have hanswers : (returns bs r).filterMap result? = (answers n bs r).map Answered.result := by
    rw [filterMap_returns rfl n, ← List.filterMap_eq_map]
    rfl
  refine hanswers.symm.trans (hresults.trans ?_)
  simp

/-- The siblings that end at once have started. -/
theorem map_branch_upToFailure (n : Nat) (bs : List (Branch α)) (r : ρ) :
    ((upToFailure ((answers n bs r).filter Answered.atOnce)).map Answered.branch).Sublist
      (bs.take (started (returns bs r))) := by
  induction bs generalizing n r with
  | nil => exact .slnil
  | cons b rest ih =>
    rw [answers, returns]
    rcases Remote.answer r (.fetch b.kind (some b.identifier)) with ⟨_ | ⟨_ | after, reply, es⟩, u⟩
    · simpa [started, errorAtOnce?] using (ih (n + 1) u).cons b
    · have hnow : Answered.atOnce ⟨n, b, 0, reply, es⟩ := rfl
      simp only [Option.map_some, List.filter_cons, hnow, if_true]
      cases hx : Answered.result ⟨n, b, 0, reply, es⟩ with
      | error e =>
        have hback : (b.finish reply).2 = .error e := hx
        rw [upToFailure_of_fails ⟨e, hx⟩]
        simp [started, errorAtOnce?, error?, hback]
      | ok x =>
        have hback : (b.finish reply).2 = .ok x := hx
        rw [upToFailure_of_ok ⟨x, hx⟩]
        simpa [started, errorAtOnce?, error?, hback] using ih (n + 1) u
    · simpa [started, errorAtOnce?, List.filter_cons, Answered.atOnce] using (ih (n + 1) u).cons b

/-- If something fails at once, some sibling does that is answered at once. -/
theorem exists_fails_atOnce {bs : List (Branch α)} {r : ρ} {e : ClientError}
    (h : (returns bs r).findSome? errorAtOnce? = some e) :
    ∃ t ∈ (answers 0 bs r).filter Answered.atOnce, t.Fails := by
  rw [findSome?_returns 0] at h
  obtain ⟨t, ht, he⟩ := List.exists_of_findSome?_eq_some h
  exact ⟨t, ht, e, failure?_eq_some_iff.1 he⟩

/-- The siblings of a fan-out that end, as against those that began and how the fan-out ended. -/
structure Settled (bs : List (Branch α)) (r : ρ) (began : List (Branch α)) (o : Outcome ClientError (List α))
    (ts : List (Answered α)) : Prop where
  /-- They are all that are answered no later than the first failure. -/
  ended : Ended (answers 0 bs r) ts
  /-- The siblings that began are the first ones. -/
  first : began <+: bs
  /-- Only siblings that began end, each of them once. -/
  begun : (ts.map Answered.branch).Subperm began
  /-- In a success they give the values, and nothing else. -/
  done : ∀ xs, o = .done xs → (ts.map Answered.result).Perm (xs.map .ok)
  /-- A failure comes from the last of them. -/
  failed : ∀ e, o = .failed e → ∃ before t, ts = before ++ [t] ∧ t.result = .error e ∧
    ∀ t' ∈ before, ∃ x, t'.result = .ok x

theorem Settled.mem {bs began : List (Branch α)} {r : ρ} {o : Outcome ClientError (List α)}
    {ts : List (Answered α)} (h : Settled bs r began o ts) {t : Answered α} (ht : t ∈ ts) : t.branch ∈ bs :=
  h.first.subset (h.begun.subset (List.mem_map_of_mem ht))

/-- **A fan-out ends as the siblings do that end.** -/
theorem settled_ended (bs : List (Branch α)) (r : ρ) :
    Settled bs r (bs.take (started (returns bs r))) (verdict (returns bs r)) (ended bs r) where
  ended := ended_ended bs r
  first := List.take_prefix _ _
  begun := by
    cases hnow : (returns bs r).findSome? errorAtOnce? with
    | none =>
      have hall : ((inOrder (answers 0 bs r)).map Answered.branch).Perm ((answers 0 bs r).map Answered.branch) :=
        (inOrder_perm _).map _
      rw [started_eq_length hnow, length_returns, List.take_length]
      exact ((upToFailure_isPrefix _).sublist.map _).subperm.trans
        (hall.subperm.trans (map_branch_answers 0 bs r).subperm)
    | some e =>
      -- a failure at once is the end of the launch: all other answers come too late
      rw [ended, inOrder, upToFailure_append_of_fails (exists_fails_atOnce hnow)]
      exact (map_branch_upToFailure 0 bs r).subperm
  done := by
    intro xs hxs
    have hresults := map_result_answers_of_verdict 0 hxs
    have hok : ∀ t ∈ inOrder (answers 0 bs r), ∃ x, t.result = .ok x := by
      intro t ht
      have hmem : t.result ∈ xs.map .ok := hresults ▸ List.mem_map_of_mem ((inOrder_perm _).subset ht)
      obtain ⟨x, -, hx⟩ := List.mem_map.1 hmem
      exact ⟨x, hx.symm⟩
    rw [ended, upToFailure_eq_self hok, ← hresults]
    exact (inOrder_perm _).map _
  failed := by
    intro e he
    exact exists_last_of_findSome? ((verdict_eq_failed_iff 0 bs r).1 he)

end

end ProcessGraph.FanOut
