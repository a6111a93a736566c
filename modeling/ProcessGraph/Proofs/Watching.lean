import Mathlib.Data.List.Chain
import Mathlib.Data.List.Induction
import ProcessGraph.Command.Watch
import ProcessGraph.Proofs.Quiet
import ProcessGraph.Proofs.RefreshLoop
import ProcessGraph.Proofs.SameResults

/-!
# What a watch prints

* `Sighting`: a tick whose process was called: what the call gave and what the tick printed.
* `Watch.Run`: ticks of a watch one after another, with anything in between that prints nothing. The ticks of a
  refresh loop are a run, `Watch.exists_run_of_ticks`, and any results can come up, `Watch.exists_run`.
* `Watcher.Follows`: the watcher decides on every line. `Watcher.after_start` is all that it keeps.
* `Announced`, `Watch.run_announces`: which ticks print a line, and what the lines show.
-/

namespace ProcessGraph.Command

variable {ρ : Type}

/-- A tick whose process was called: its number, what the call gave, and the lines that the tick printed. -/
structure Sighting where
  tick : Nat
  result : Option Payload
  lines : List String

/-- Did the tick print anything? -/
def Sighting.printed (s : Sighting) : Bool := !s.lines.isEmpty

/-! ## one tick -/

/-- What a watcher prints when it receives a result. -/
def Watcher.news (k : Watcher) (tick : Nat) (result : Option Payload) : List String :=
  if k.isNews result then [line tick result] else []

/-- A watcher prints the news of a result and keeps the result. -/
theorem Watcher.receive_apply (tick : Nat) (result : Option Payload) (k : Watcher) (w : World ρ) :
    ∃ v : World ρ, (receive tick result : Action ρ Watcher Error Unit) k w = (.done (), k.see result, v) ∧
      v.remote = w.remote ∧ v.requests = w.requests ∧ v.lines = w.lines ++ k.news tick result := by
  rw [receive, Action.bind_apply, Action.read_apply]
  simp only [news]
  split
  next => exact ⟨_, rfl, rfl, w.requests_record _, w.lines_record _⟩
  next => exact ⟨_, rfl, rfl, rfl, (List.append_nil _).symm⟩

namespace Watch

variable [Remote ρ] {watch : Watch} {arguments : Option Json.Value} {n : Nat} {s t : SystemHandle}
  {k : Watcher} {w u v w' : World ρ} {c c' d : SystemHandle × Watcher}

/-- A tick whose process is resolved and called prints the news of the result and nothing else. -/
theorem onTick_of_resolved {p q : ProcessHandle} {result : Option Payload}
    (hresolve : resolve watch.container watch.process s w = (.done p, t, u))
    (hcall : (ProcessHandle.call arguments : Action ρ ProcessHandle Error _) p u = (.done result, q, v)) :
    ∃ w' : World ρ, (watch.onTick arguments n : Action ρ _ Error Unit) (s, k) w =
        (.done (), (t, k.see result), w') ∧ w'.remote = v.remote ∧ w'.requests = v.requests ∧
      w'.lines = w.lines ++ k.news n result := by
  obtain ⟨w', hreceive, hremote, hrequests, hlines⟩ := Watcher.receive_apply n result k v
  have hquiet : v.lines = w.lines := by
    have hu := quiet_resolve watch.container watch.process s w
    have hcalls : Action.Quiet (ProcessHandle.call arguments : Action ρ ProcessHandle Error _) :=
      ProcessHandle.quiet_call arguments
    have hv := hcalls p u
    rw [hresolve] at hu
    rw [hcall] at hv
    exact hv.trans hu
  have hapart : (Action.apart p (ProcessHandle.call arguments) : Action ρ (SystemHandle × Watcher) Error _)
      (t, k) u = (.done result, (t, k), v) := by
    simp only [Action.apart, hcall]
  refine ⟨w', ?_, hremote, hrequests, hquiet ▸ hlines⟩
  rw [onTick, Action.bind_apply, RefreshLoop.onSystem_apply, Action.attempt_apply, hresolve]
  show (Action.apart p (ProcessHandle.call arguments) >>= fun result =>
    onWatcher (Watcher.receive n result)) (t, k) u = _
  rw [Action.bind_apply, hapart]
  simp only [onWatcher, Action.onPart, hreceive]

/-- A tick whose process is not resolved leaves the watcher alone. It logs this, and does no more. -/
theorem onTick_of_unresolved {e : Error}
    (hresolve : resolve watch.container watch.process s w = (.failed e, t, u)) :
    (watch.onTick arguments n : Action ρ _ Error Unit) (s, k) w =
      (.done (), (t, k), u.logAll [watch.unresolved n e]) := by
  rw [onTick, Action.bind_apply, RefreshLoop.onSystem_apply, Action.attempt_apply, hresolve]
  rfl

/-! ## ticks one after another -/

/-- Ticks of a watch one after another. In between the system and the world may change, as they do when the
system is refreshed, but nothing is printed. A tick that does not resolve its process is no sighting. -/
inductive Run (watch : Watch) (arguments : Option Json.Value) :
    SystemHandle × Watcher → World ρ → List Sighting → SystemHandle × Watcher → World ρ → Prop where
  | nil {c : SystemHandle × Watcher} {w : World ρ} : Run watch arguments c w [] c w
  | between {s t : SystemHandle} {k : Watcher} {c' : SystemHandle × Watcher} {w v w' : World ρ}
      {ss : List Sighting} (hlines : v.lines = w.lines) (h : Run watch arguments (t, k) v ss c' w') :
      Run watch arguments (s, k) w ss c' w'
  | unresolved {n : Nat} {s : SystemHandle} {k : Watcher} {d c' : SystemHandle × Watcher} {w v w' : World ρ}
      {e : Error} {ss : List Sighting} (hresolve : (resolve watch.container watch.process s w).1 = .failed e)
      (htick : (watch.onTick arguments n : Action ρ _ Error Unit) (s, k) w = (.done (), d, v))
      (h : Run watch arguments d v ss c' w') : Run watch arguments (s, k) w ss c' w'
  | called {n : Nat} {s t : SystemHandle} {k : Watcher} {d c' : SystemHandle × Watcher} {w u v w' : World ρ}
      {p : ProcessHandle} {result : Option Payload} {lines : List String} {ss : List Sighting}
      (hresolve : resolve watch.container watch.process s w = (.done p, t, u))
      (hcall : ((ProcessHandle.call arguments : Action ρ ProcessHandle Error _) p u).1 = .done result)
      (htick : (watch.onTick arguments n : Action ρ _ Error Unit) (s, k) w = (.done (), d, v))
      (hlines : v.lines = w.lines ++ lines) (h : Run watch arguments d v ss c' w') :
      Run watch arguments (s, k) w (⟨n, result, lines⟩ :: ss) c' w'

/-- A tick of the handler in front of a run. -/
theorem Run.of_onTick {ss : List Sighting}
    (htick : (watch.onTick arguments n : Action ρ _ Error Unit) c w = (.done (), d, v))
    (h : Run watch arguments d v ss c' w') :
    ∃ ss', Run watch arguments c w ss' c' w' ∧ (ss'.map (·.tick)).Sublist (n :: ss.map (·.tick)) := by
  obtain ⟨s, k⟩ := c
  rcases hresolve : resolve watch.container watch.process s w with ⟨p | e | _, t, u⟩
  · rcases hcall : (ProcessHandle.call arguments : Action ρ ProcessHandle Error _) p u with ⟨result | e | _, q, x⟩
    · obtain ⟨y, htick', -, -, hlines⟩ := onTick_of_resolved (n := n) (k := k) hresolve hcall
      rw [htick] at htick'
      cases htick'
      exact ⟨_, .called hresolve (by rw [hcall]) htick hlines h, .refl _⟩
    all_goals
      rw [onTick, Action.bind_apply, RefreshLoop.onSystem_apply, Action.attempt_apply, hresolve] at htick
      simp [Action.bind_apply, Action.apart, hcall] at htick
  · exact ⟨ss, .unresolved (by rw [hresolve]) htick h, List.sublist_cons_self _ _⟩
  · rw [onTick, Action.bind_apply, RefreshLoop.onSystem_apply, Action.attempt_apply, hresolve] at htick
    cases htick

/-- **The ticks of a refresh loop that a watch handles are a run of the watch.** -/
theorem exists_run_of_ticks {ts : List RefreshLoop.TickRecord}
    (h : RefreshLoop.Ticks (watch.onTick arguments : Nat → Action ρ _ Error Unit) c w ts c' w') :
    ∃ ss, Run watch arguments c w ss c' w' ∧ (ss.map (·.tick)).Sublist (ts.map (·.number)) := by
  induction h with
  | nil => exact ⟨[], .nil, .slnil⟩
  | @cons c d c' w v w' t ts ht hs ih =>
    obtain ⟨ss, hrun, hsub⟩ := ih
    obtain ⟨s, k⟩ := c
    -- whether or not the refresh fails, it prints nothing before the handler runs
    cases ht with
    | @refreshed n start profile s' u _ _ hstart hrefresh hhandler =>
      obtain ⟨ss', hrun', hticks⟩ := hrun.of_onTick hhandler
      have hlines := SystemHandle.quiet_refresh s (w.advanceTo start)
      rw [hrefresh] at hlines
      exact ⟨ss', .between hlines hrun', hticks.trans (hsub.cons_cons n)⟩
    | @kept n start e u _ _ hstart hrefresh hhandler =>
      obtain ⟨ss', hrun', hticks⟩ := hrun.of_onTick hhandler
      have hlines := SystemHandle.quiet_refresh s (w.advanceTo start)
      rw [hrefresh] at hlines
      exact ⟨ss', .between ((u.lines_logAll _).trans hlines) hrun', hticks.trans (hsub.cons_cons n)⟩

end Watch

/-! ## what the watcher keeps -/

/-- The last payload among some results. -/
def lastPayload (ss : List Sighting) : Option Payload := (ss.filterMap (·.result)).getLast?

@[simp] theorem lastPayload_concat (ss : List Sighting) (s : Sighting) :
    lastPayload (ss ++ [s]) = s.result.or (lastPayload ss) := by
  cases h : s.result <;> simp [lastPayload, h]

theorem result_eq_none_of_lastPayload {ss : List Sighting} (h : lastPayload ss = none) :
    ∀ s ∈ ss, s.result = none := by
  simpa [lastPayload, List.getLast?_eq_none_iff, List.filterMap_eq_nil_iff] using h

namespace Watcher

/-- The watcher after some results. -/
def after (k : Watcher) (ss : List Sighting) : Watcher := ss.foldl (fun k s => k.see s.result) k

/-- **All that a watch keeps** is the last payload and whether there has been a result. -/
theorem after_start (ss : List Sighting) : start.after ss = ⟨lastPayload ss, !ss.isEmpty⟩ := by
  induction ss using List.reverseRecOn with
  | nil => rfl
  | append_singleton ss s ih =>
    rw [after] at ih ⊢
    rw [List.foldl_concat, ih, lastPayload_concat]
    cases h : s.result <;> simp [see]

/-- Each tick printed what the watcher had to tell of its result. -/
def Follows : Watcher → List Sighting → Prop
  | _, [] => True
  | k, s :: ss => s.lines = k.news s.tick s.result ∧ Follows (k.see s.result) ss

theorem follows_append {k : Watcher} {ss ts : List Sighting} :
    k.Follows (ss ++ ts) ↔ k.Follows ss ∧ (k.after ss).Follows ts := by
  induction ss generalizing k with
  | nil => simp [Follows, after]
  | cons s ss ih => simp [Follows, after, ih, and_assoc]

end Watcher

open Watcher (start)

/-- **A run follows its watcher**: every tick prints what is news to it, and nothing else is printed. -/
theorem Watch.Run.follows [Remote ρ] {watch : Watch} {arguments : Option Json.Value}
    {c c' : SystemHandle × Watcher} {w w' : World ρ} {ss : List Sighting}
    (h : Watch.Run watch arguments c w ss c' w') :
    c.2.Follows ss ∧ w'.lines = w.lines ++ ss.flatMap (·.lines) := by
  induction h with
  | nil => exact ⟨trivial, by simp⟩
  | between hlines h ih => exact ⟨ih.1, by rw [ih.2, hlines]⟩
  | @unresolved n s k d c' w v w' e ss hresolve htick h ih =>
    rcases hr : resolve watch.container watch.process s w with ⟨o, t, u⟩
    rw [hr] at hresolve
    simp only at hresolve
    subst hresolve
    have hquiet := quiet_resolve watch.container watch.process s w
    rw [hr] at hquiet
    have hy := htick.symm.trans (Watch.onTick_of_unresolved hr)
    cases hy
    exact ⟨ih.1, by rw [ih.2, World.lines_logAll, hquiet]⟩
  | @called n s t k d c' w u v w' p result lines ss hresolve hcall htick hlines h ih =>
    rcases hr : (ProcessHandle.call arguments : Action ρ ProcessHandle Error _) p u with ⟨o, q, x⟩
    rw [hr] at hcall
    simp only at hcall
    subst hcall
    obtain ⟨y, hy, -, -, hnews⟩ := Watch.onTick_of_resolved (n := n) (k := k) hresolve hr
    rw [htick] at hy
    cases hy
    have heq : lines = k.news n result := List.append_cancel_left (hlines.symm.trans hnews)
    exact ⟨⟨heq, ih.1⟩, by rw [ih.2, hlines]; simp⟩

/-! ## which ticks print -/

section Printing

variable {before ss : List Sighting} {s : Sighting}

theorem lines_of_follows (h : start.Follows (before ++ [s])) :
    s.lines = (Watcher.mk (lastPayload before) (!before.isEmpty)).news s.tick s.result := by
  rw [← Watcher.after_start]
  exact (Watcher.follows_append.1 h).2.1

/-- A tick prints if it is the first or its result is not the last payload. -/
theorem printed_iff (h : start.Follows (before ++ [s])) :
    s.printed = true ↔ before = [] ∨ Payload.sameResult s.result (lastPayload before) = false := by
  rw [Sighting.printed, lines_of_follows h]
  cases before with
  | nil => simp [Watcher.news, Watcher.isNews]
  | cons t ts =>
    cases hsame : Payload.sameResult s.result (lastPayload (t :: ts)) <;>
      simp [Watcher.news, Watcher.isNews, hsame]

theorem lines_of_printed (h : start.Follows (before ++ [s])) (hs : s.printed = true) :
    s.lines = [Watcher.line s.tick s.result] := by
  have hlines := lines_of_follows h
  rw [Watcher.news] at hlines
  split at hlines
  next => exact hlines
  next => simp [Sighting.printed, hlines] at hs

theorem printed_payload_iff {p : Payload} (h : start.Follows (before ++ [s])) (hs : s.result = some p) :
    s.printed = true ↔ ∀ q, lastPayload before = some q → p.same q = false := by
  rw [printed_iff h, hs]
  cases hlast : lastPayload before with
  | none => simp [Payload.sameResult]
  | some q =>
    have hne : before ≠ [] := by
      rintro rfl
      cases hlast
    simp [Payload.sameResult, hne]

theorem printed_absence_iff (h : start.Follows (before ++ [s])) (hs : s.result = none) :
    s.printed = true ↔ before = [] ∨ (lastPayload before).isSome := by
  rw [printed_iff h, hs]
  cases lastPayload before <;> simp [Payload.sameResult]

end Printing

/-! ## what the lines show -/

/-- The ticks that printed a line. -/
def shown (ss : List Sighting) : List Sighting := ss.filter (·.printed)

/-- The payloads that the lines show, those without a result passed over. -/
def shownPayloads (ss : List Sighting) : List Payload := (shown ss).filterMap (·.result)

section Showing

variable {before ss : List Sighting} {s : Sighting}

theorem shown_concat (ss : List Sighting) (s : Sighting) :
    shown (ss ++ [s]) = if s.printed then shown ss ++ [s] else shown ss := by
  cases h : s.printed <;> simp [shown, h]

theorem shownPayloads_concat (ss : List Sighting) (s : Sighting) :
    shownPayloads (ss ++ [s]) = if s.printed then shownPayloads ss ++ s.result.toList else shownPayloads ss := by
  rw [shownPayloads, shown_concat]
  cases s.printed with
  | false => rfl
  | true => cases h : s.result <;> simp [shownPayloads, h]

theorem shownPayloads_of_lastPayload (h : lastPayload ss = none) : shownPayloads ss = [] := by
  rw [shownPayloads, List.filterMap_eq_nil_iff]
  intro s hs
  exact result_eq_none_of_lastPayload h s (List.mem_of_mem_filter hs)

/-- The documents among the results list each key once, as documents that were read do. -/
def Wellformed (ss : List Sighting) : Prop := ∀ s ∈ ss, ∀ p, s.result = some p → p.Distinct

theorem Wellformed.of_append {ts : List Sighting} (h : Wellformed (ss ++ ts)) : Wellformed ss :=
  fun s hs => h s (List.mem_append_left _ hs)

theorem distinct_of_lastPayload {p : Payload} (hss : Wellformed ss) (h : lastPayload ss = some p) :
    p.Distinct := by
  have hmem : p ∈ ss.filterMap (·.result) := List.mem_of_getLast? h
  obtain ⟨s, hs, hp⟩ := List.mem_filterMap.1 hmem
  exact hss s hs p hp

theorem distinct_of_shownPayloads {p : Payload} (hss : Wellformed ss) (h : p ∈ shownPayloads ss) :
    p.Distinct := by
  obtain ⟨s, hs, hp⟩ := List.mem_filterMap.1 h
  exact hss s (List.mem_of_mem_filter hs) p hp

/-- **The last payload shown is the last payload that there was.** -/
theorem exists_shownPayload (hss : Wellformed ss) (h : start.Follows ss) {p : Payload}
    (hp : lastPayload ss = some p) : ∃ q, (shownPayloads ss).getLast? = some q ∧ p.same q = true := by
  induction ss using List.reverseRecOn generalizing p with
  | nil => cases hp
  | append_singleton ss s ih =>
    have hfollows := (Watcher.follows_append.1 h).1
    rw [lastPayload_concat] at hp
    rw [shownPayloads_concat]
    cases hresult : s.result with
    | none =>
      rw [hresult, Option.none_or] at hp
      simpa using ih hss.of_append hfollows hp
    | some r =>
      have hr : r.Distinct := hss s (by simp) r hresult
      rw [hresult, Option.some_or, Option.some.injEq] at hp
      subst hp
      by_cases hs : s.printed = true
      · exact ⟨r, by simp [hs], Payload.same_self hr⟩
      · -- a payload that is not printed is the one before it, which is shown
        have hsame := (printed_payload_iff h hresult).not.1 hs
        push Not at hsame
        obtain ⟨q, hlast, hrq⟩ := hsame
        obtain ⟨q', hq', hqq'⟩ := ih hss.of_append hfollows hlast
        exact ⟨q', by simpa [hs] using hq', Payload.same_trans (by simpa using hrq) hqq'⟩

/-- What equals the last payload shown equals the last payload that there was. -/
theorem same_lastPayload (hss : Wellformed ss) (h : start.Follows ss) {p q : Payload}
    (hq : (shownPayloads ss).getLast? = some q) (hpq : p.same q = true) :
    ∃ l, lastPayload ss = some l ∧ p.same l = true := by
  cases hlast : lastPayload ss with
  | none => simp [shownPayloads_of_lastPayload hlast] at hq
  | some l =>
    obtain ⟨q', hq', hlq⟩ := exists_shownPayload hss h hlast
    obtain rfl : q' = q := Option.some.inj (hq'.symm.trans hq)
    have hdistinct : q'.Distinct := distinct_of_shownPayloads hss (List.mem_of_getLast? hq)
    have hql := Payload.same_symm (distinct_of_lastPayload hss hlast) hdistinct hlq
    exact ⟨l, rfl, Payload.same_trans hpq hql⟩

/-- **No payload is shown twice in a row.** -/
theorem isChain_shownPayloads (hss : Wellformed ss) (h : start.Follows ss) :
    (shownPayloads ss).IsChain fun p q => q.same p = false := by
  induction ss using List.reverseRecOn with
  | nil => exact .nil
  | append_singleton ss s ih =>
    have hfollows := (Watcher.follows_append.1 h).1
    have ih := ih hss.of_append hfollows
    rw [shownPayloads_concat]
    split
    next hs =>
      cases hresult : s.result with
      | none => simpa using ih
      | some p =>
        refine List.isChain_append.2 ⟨ih, .singleton p, ?_⟩
        intro q hq r hr
        obtain rfl : p = r := by simpa using hr
        by_contra hsame
        rw [Bool.not_eq_false] at hsame
        -- the payload would equal the one that it was compared with
        obtain ⟨l, hlast, hpl⟩ := same_lastPayload hss.of_append hfollows hq hsame
        have hne := (printed_payload_iff h hresult).1 hs l hlast
        rw [hpl] at hne
        cases hne
    next => exact ih

/-- After a tick without a result the last line tells so. -/
theorem exists_shown_absence (h : start.Follows (before ++ [s])) (hs : s.result = none) :
    ∃ t, (shown (before ++ [s])).getLast? = some t ∧ t.result = none := by
  rw [shown_concat]
  by_cases hprinted : s.printed = true
  · exact ⟨s, by simp [hprinted], hs⟩
  · rw [if_neg hprinted]
    have hquiet := (printed_absence_iff h hs).not.1 hprinted
    simp only [not_or, Option.isSome_iff_ne_none, not_not] at hquiet
    obtain ⟨hne, hlast⟩ := hquiet
    -- the first tick has printed, and no tick has had a payload
    have hfirst : shown before ≠ [] := by
      cases before with
      | nil => exact absurd rfl hne
      | cons t rest =>
        have hfollows : start.Follows ([] ++ [t]) := ⟨h.1, trivial⟩
        have ht := (printed_iff hfollows).2 (.inl rfl)
        simp [shown, ht]
    obtain ⟨t, ht⟩ := Option.ne_none_iff_exists'.1 (mt List.getLast?_eq_none_iff.1 hfirst)
    exact ⟨t, ht, result_eq_none_of_lastPayload hlast t (List.mem_of_mem_filter (List.mem_of_getLast? ht))⟩

/-- After a tick with a payload the last line shows it, but for lines of calls that have failed since. -/
theorem exists_shown_payload (hss : Wellformed (before ++ [s])) (h : start.Follows (before ++ [s]))
    {p : Payload} (hs : s.result = some p) :
    ∃ ts t us q, shown (before ++ [s]) = ts ++ t :: us ∧ t.result = some q ∧ p.same q = true ∧
      ∀ u ∈ us, u.result = none := by
  obtain ⟨q, hq, hsame⟩ := exists_shownPayload hss h (p := p) (by simp [hs])
  obtain ⟨qs, hqs⟩ := List.getLast?_eq_some_iff.1 hq
  obtain ⟨as, bs, hsplit, -, hbs⟩ := List.filterMap_eq_append_iff.1 hqs
  obtain ⟨cs, t, us, rfl, -, ht, hus⟩ := List.filterMap_eq_cons_iff.1 hbs
  exact ⟨as ++ cs, t, us, q, by rw [hsplit, List.append_assoc], ht, hsame, List.filterMap_eq_nil_iff.1 hus⟩

end Showing

/-! ## the law of a watch -/

/-- What a tick prints after the ones before it, and what the lines show then. A payload is printed if it is the
first one or differs from the one before it, whether or not calls have failed in between. A failed call is told
of at the first tick and after a payload, and not as long as there has been no payload. -/
structure Announced (before : List Sighting) (s : Sighting) : Prop where
  line : s.printed = true → s.lines = [Watcher.line s.tick s.result]
  payload : ∀ p, s.result = some p →
    (s.printed = true ↔ ∀ q, lastPayload before = some q → p.same q = false)
  absence : s.result = none → (before = [] ∨ ∃ t, before.getLast? = some t ∧ t.result.isSome = true) →
    s.printed = true
  silence : s.result = none → before ≠ [] → (∀ t ∈ before, t.result = none) → s.printed = false
  payload_shown : ∀ p, s.result = some p → ∃ ts t us q, shown (before ++ [s]) = ts ++ t :: us ∧
    t.result = some q ∧ p.same q = true ∧ ∀ u ∈ us, u.result = none
  absence_shown : s.result = none → ∃ t, (shown (before ++ [s])).getLast? = some t ∧ t.result = none

theorem announced_of_follows {before : List Sighting} {s : Sighting} (hss : Wellformed (before ++ [s]))
    (h : start.Follows (before ++ [s])) : Announced before s where
  line := lines_of_printed h
  payload _ hs := printed_payload_iff h hs
  absence hs hbefore := by
    refine (printed_absence_iff h hs).2 (hbefore.imp_right ?_)
    rintro ⟨t, ht, hresult⟩
    obtain ⟨init, rfl⟩ := List.getLast?_eq_some_iff.1 ht
    simp [Option.isSome_or, hresult]
  silence hs hne hnone := by
    rw [← Bool.not_eq_true, printed_absence_iff h hs, not_or]
    have hempty : before.filterMap (·.result) = [] := List.filterMap_eq_nil_iff.2 hnone
    exact ⟨hne, by simp [lastPayload, hempty]⟩
  payload_shown _ hs := exists_shown_payload hss h hs
  absence_shown hs := exists_shown_absence h hs

namespace Watch

/-- **What a watch prints**, whatever the calls of its ticks give: the lines of its sightings, each of which is
announced, and no payload twice in a row. -/
theorem run_announces [Remote ρ] {watch : Watch} {arguments : Option Json.Value} {s : SystemHandle}
    {c' : SystemHandle × Watcher} {w w' : World ρ} {ss : List Sighting}
    (h : Run watch arguments (s, start) w ss c' w') (hss : Wellformed ss) :
    w'.lines = w.lines ++ ss.flatMap (·.lines) ∧
    (∀ before t after, ss = before ++ t :: after → Announced before t) ∧
    (shownPayloads ss).IsChain fun p q => q.same p = false := by
  obtain ⟨hfollows, hlines⟩ := h.follows
  refine ⟨hlines, ?_, isChain_shownPayloads hss hfollows⟩
  intro before t after hsplit
  have happend : ss = (before ++ [t]) ++ after := by simp [hsplit]
  subst happend
  exact announced_of_follows hss.of_append (Watcher.follows_append.1 hfollows).1

/-! ## any results -/

/-- A process at work, in a container, in a system. -/
def gripper : ProcessHandle := ⟨⟨"g"⟩, some ⟨"grip", []⟩⟩

/-- A system in which the container and its process have been looked up already. -/
def bench : SystemHandle where
  profile := some ⟨[(⟨"a"⟩, .null)], .null, List.nodup_cons.2 ⟨List.not_mem_nil, List.nodup_nil⟩⟩
  containers := some [⟨⟨"a"⟩, some ⟨"arm", [⟨"g"⟩], []⟩, some [gripper]⟩]

/-- The watch of the process of the bench. -/
def atBench : Watch := ⟨"arm", "grip", none, none, none⟩

/-- A remote side that gives results to the calls of the process, one after another. -/
def answering (results : List (Option Payload)) : Script := { Script.empty with calls := [("g", results)] }

theorem resolve_bench (w : World Script) :
    resolve atBench.container atBench.process bench w = (.done gripper, bench, w) := rfl

/-- A call takes the next result. -/
theorem exists_call (result : Option Payload) (rest : List (Option Payload)) {w : World Script}
    (hw : w.remote = answering (result :: rest)) :
    ∃ q v, (ProcessHandle.call none : Action Script ProcessHandle Error _) gripper w = (.done result, q, v) ∧
      (rest ≠ [] → v.remote = answering rest) := by
  obtain ⟨remote, now, history⟩ := w
  simp only at hw
  subst hw
  cases rest with
  | nil => cases result <;> exact ⟨_, _, rfl, by simp⟩
  | cons r rest => cases result <;> exact ⟨_, _, rfl, fun _ => rfl⟩

/-- **Any results can come up in a run**, at ticks in a row. -/
theorem exists_run (results : List (Option Payload)) (n : Nat) (k : Watcher) {w : World Script}
    (hw : results ≠ [] → w.remote = answering results) :
    ∃ ss c' w', Run atBench none (bench, k) w ss c' w' ∧ ss.map (·.result) = results ∧
      ss.map (·.tick) = List.range' n results.length := by
  induction results generalizing n k w with
  | nil => exact ⟨[], _, _, .nil, rfl, rfl⟩
  | cons result rest ih =>
    obtain ⟨q, v, hcall, hv⟩ := exists_call result rest (hw (by simp))
    obtain ⟨x, htick, hx, -, hlines⟩ := onTick_of_resolved (n := n) (k := k) (resolve_bench w) hcall
    obtain ⟨ss, c', w', hrun, hresults, hticks⟩ := ih (n + 1) (k.see result) fun hne => hx.trans (hv hne)
    have hdone : ((ProcessHandle.call none : Action Script ProcessHandle Error _) gripper w).1 = .done result := by
      rw [hcall]
    refine ⟨_, c', w', .called (resolve_bench w) hdone htick hlines hrun, by simp [hresults], ?_⟩
    simp [hticks, List.range'_succ]

/-- The document of a small number. -/
def one : Payload := .json (.number (.integer 1 (by decide)))

/-- Another one. -/
def two : Payload := .json (.number (.integer 2 (by decide)))

/-- A result that stays, a failed call, the result once more and then another one. -/
theorem run_announces_numbers :
    ∃ ss c' w', Run atBench none (bench, start) (.start (answering [some one, some one, none, some one, some two]))
        ss c' w' ∧
      ss.map (·.result) = [some one, some one, none, some one, some two] ∧ Wellformed ss ∧
      w'.lines = ss.flatMap (·.lines) ∧
      (∀ before t after, ss = before ++ t :: after → Announced before t) ∧
      (shownPayloads ss).IsChain fun p q => q.same p = false := by
  obtain ⟨ss, c', w', hrun, hresults, -⟩ :=
    exists_run [some one, some one, none, some one, some two] 0 start (w := .start (answering _)) fun _ => rfl
  have hss : Wellformed ss := by
    intro s hs p hp
    have hmem : some p ∈ [some one, some one, none, some one, some two] :=
      hresults ▸ hp ▸ List.mem_map_of_mem hs
    simp only [List.mem_cons, List.not_mem_nil, Option.some.injEq, reduceCtorEq, or_false, false_or] at hmem
    rcases hmem with rfl | rfl | rfl | rfl <;> trivial
  obtain ⟨hlines, hannounced, hchain⟩ := run_announces hrun hss
  exact ⟨ss, c', w', hrun, hresults, hss, hlines, hannounced, hchain⟩

/-- The tick prints exactly if it is the first or its result is not that of the tick before it. -/
def OnChange (before : List Sighting) (s : Sighting) : Prop :=
  s.printed = true ↔ ∀ t, before.getLast? = some t → Payload.sameResult s.result t.result = false

/-- A result that returns after a failed call is not printed, though the tick before it had none. -/
theorem not_onChange_of_return :
    ∃ ss c' w', Run atBench none (bench, start) (.start (answering [some one, none, some one])) ss c' w' ∧
      ss.map (·.result) = [some one, none, some one] ∧
      ¬ ∀ before t after, ss = before ++ t :: after → OnChange before t := by
  obtain ⟨ss, c', w', hrun, hresults, -⟩ :=
    exists_run [some one, none, some one] 0 start (w := .start (answering _)) fun _ => rfl
  refine ⟨ss, c', w', hrun, hresults, fun h => ?_⟩
  obtain ⟨r, _, rfl, hr, hresults⟩ := List.map_eq_cons_iff.1 hresults
  obtain ⟨s, _, rfl, hs, hresults⟩ := List.map_eq_cons_iff.1 hresults
  obtain ⟨t, _, rfl, ht, hresults⟩ := List.map_eq_cons_iff.1 hresults
  obtain rfl := List.map_eq_nil_iff.1 hresults
  have hprinted : t.printed = true := (h [r, s] t [] rfl).2 (by simp [hs, ht, Payload.sameResult])
  -- but the last payload is the same
  have hlast : lastPayload [r, s] = some one := by simp [lastPayload, hr, hs]
  have hfollows : start.Follows ([r, s] ++ [t]) := hrun.follows.1
  have hne := (printed_payload_iff hfollows ht).1 hprinted one hlast
  cases hne

end Watch

end ProcessGraph.Command
