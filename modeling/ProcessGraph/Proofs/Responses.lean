import ProcessGraph.Gateway
import ProcessGraph.Proofs.Authority
import ProcessGraph.Proofs.Wire

/-!
# What responses mean

* `Http.NamesJson`, `Http.Response.Declares`: when a content type is that of documents, and when a response has it.
* `Gateway.Invoked`, `Gateway.ReadAs`: what an invocation and a read make of an outcome, as relations.
* `Gateway.interpretInvocation_eq_iff`, `Gateway.interpretRead_eq_iff`: the interpretations are these relations.
* `Connection.Exchanged`: an exchange that sends at most one request.
* `Connection.responses_classified`: all of it for the answers of a connection.
-/

namespace ProcessGraph

/-! ## content types -/

namespace Http

/-- The text before the first semicolon, without the blanks around it, is the name of the type of documents, its
letters in either case. -/
def NamesJson (text : String) : Prop :=
  ∃ front core back tail, text.toList = front ++ core ++ back ++ tail ∧
    (∀ c ∈ front, Text.isBlank c) ∧ (∀ c ∈ back, Text.isBlank c) ∧
    (∀ c ∈ front ++ core ++ back, c ≠ ';') ∧ (∀ c ∈ tail.head?, c = ';') ∧
    core.map Char.toLower = "application/json".toList

/-- Blanks have no case. -/
theorem toLower_of_isBlank {c : Char} (h : Text.isBlank c) : c.toLower = c := by
  have hcase : ¬ (65 ≤ c.toNat ∧ c.toNat ≤ 90) := by
    simp only [Text.isBlank, Bool.or_eq_true, Bool.and_eq_true, decide_eq_true_eq] at h
    omega
  unfold Char.toLower
  rw [dif_neg]
  intro hupper
  exact hcase hupper

/-- The name of the type of documents has no blanks, whatever the case of its letters. -/
theorem not_isBlank_of_names {core : List Char} (h : core.map Char.toLower = "application/json".toList) :
    ∀ c ∈ core, Text.isBlank c = false := by
  intro c hc
  by_contra hblank
  rw [Bool.not_eq_false] at hblank
  have hmem : c ∈ "application/json".toList := by
    rw [← h, ← toLower_of_isBlank hblank]
    exact List.mem_map_of_mem hc
  have hnone : ∀ d ∈ "application/json".toList, Text.isBlank d = false := by simp [Text.isBlank]
  rw [hnone c hmem] at hblank
  cases hblank

/-- A text is what is left of it without the elements at its end, and these. -/
theorem exists_eq_dropTrailing_append {α : Type} (p : α → Bool) (xs : List α) :
    ∃ back, xs = Text.dropTrailing p xs ++ back ∧ ∀ x ∈ back, p x := by
  refine ⟨(xs.reverse.takeWhile p).reverse, ?_, fun x hx => ?_⟩
  · rw [Text.dropTrailing, ← List.reverse_append, List.takeWhile_append_dropWhile, List.reverse_reverse]
  · exact List.mem_takeWhile_imp (List.mem_reverse.1 hx)

/-- Blanks around a text without blanks are trimmed. -/
theorem trim_append {front core back : List Char} (hfront : ∀ c ∈ front, Text.isBlank c)
    (hcore : ∀ c ∈ core, Text.isBlank c = false) (hne : core ≠ []) (hback : ∀ c ∈ back, Text.isBlank c) :
    Text.trim (front ++ core ++ back) = core := by
  have hdrop : (front ++ core ++ back).dropWhile Text.isBlank = core ++ back := by
    obtain ⟨c, rest, rfl⟩ := List.exists_cons_of_ne_nil hne
    have hc := hcore c List.mem_cons_self
    rw [List.append_assoc, List.dropWhile_append_of_pos hfront]
    simp [hc]
  have hlast : ∀ c ∈ core.getLast?, ¬ Text.isBlank c := by
    intro c hc
    rw [hcore c (List.mem_of_getLast? hc)]
    decide
  have hall : Text.dropTrailing Text.isBlank back = [] := by
    rw [Text.dropTrailing, List.dropWhile_eq_nil_iff.2 fun c hc => hback c (List.mem_reverse.1 hc)]
    rfl
  rw [Text.trim, hdrop, Text.dropTrailing_append hne hlast, hall, List.append_nil]

/-- **Which content types are that of documents.** -/
theorem isJsonType_iff (text : String) : isJsonType text ↔ NamesJson text := by
  have hname : isJsonType text ↔
      (Text.trim (text.toList.takeWhile (· ≠ ';'))).map Char.toLower = "application/json".toList := by
    rw [isJsonType, decide_eq_true_eq, ← String.toList_inj, String.toList_ofList, jsonType]
  rw [hname]
  constructor
  · intro hcore
    generalize hbefore : text.toList.takeWhile (· ≠ ';') = before at hcore
    obtain ⟨back, hrest, hback⟩ := exists_eq_dropTrailing_append Text.isBlank (before.dropWhile Text.isBlank)
    have hparts : before = before.takeWhile Text.isBlank ++ Text.trim before ++ back := by
      rw [List.append_assoc, Text.trim, ← hrest, List.takeWhile_append_dropWhile]
    refine ⟨before.takeWhile Text.isBlank, Text.trim before, back, text.toList.dropWhile (· ≠ ';'), ?_,
      fun c hc => List.mem_takeWhile_imp hc, hback, fun c hc => ?_, fun c hc => ?_, hcore⟩
    · rw [← hparts, ← hbefore, List.takeWhile_append_dropWhile]
    · rw [← hparts, ← hbefore] at hc
      simpa using List.mem_takeWhile_imp hc
    · have hends := List.head?_dropWhile_not (· ≠ ';') text.toList
      rw [Option.mem_def.1 hc] at hends
      simpa using hends
  · rintro ⟨front, core, back, tail, htext, hfront, hback, hends, htail, hcore⟩
    have hplain := not_isBlank_of_names hcore
    have hne : core ≠ [] := by
      rintro rfl
      cases hcore
    have hbefore : text.toList.takeWhile (· ≠ ';') = front ++ core ++ back := by
      have hpos : ∀ c ∈ front ++ core ++ back, (c ≠ ';' : Bool) := fun c hc => by simpa using hends c hc
      rw [htext, List.takeWhile_append_of_pos hpos]
      cases tail with
      | nil => simp
      | cons d rest =>
        obtain rfl := htail d rfl
        simp
    rw [hbefore, trim_append hfront hplain hne hback, hcore]

/-- The text is the value of the first header for the type of the body, and all of that is visible. -/
def Response.Declares (r : Response) (text : String) : Prop :=
  ∃ value, headerValue? contentTypeName r.headers = some value ∧ (∀ b ∈ value, isVisible b) ∧
    Text.utf8 text = value

/-- The response declares the type of documents. -/
def Response.IsJson (r : Response) : Prop := ∃ text, r.Declares text ∧ NamesJson text

/-- Visible bytes are the text that they are in ASCII. -/
theorem utf8_of_visible {value : Text.Bytes} (h : ∀ b ∈ value, isVisible b) :
    Text.utf8 (String.ofList (value.map fun b => Char.ofNat b.toNat)) = value := by
  have hbyte : ∀ b ∈ value, (Char.ofNat b.toNat).toNat = b.toNat ∧ b.toNat < 128 := by
    intro b hb
    have hvisible := h b hb
    simp only [isVisible, Bool.or_eq_true, Bool.and_eq_true, decide_eq_true_eq] at hvisible
    have hsmall : b.toNat < 128 := by omega
    have hvalid : b.toNat.isValidChar := by
      left
      omega
    rw [Char.ofNat, dif_pos hvalid]
    exact ⟨rfl, hsmall⟩
  have hascii : ∀ c ∈ value.map fun b => Char.ofNat b.toNat, c.toNat < 128 := by
    intro c hc
    obtain ⟨b, hb, rfl⟩ := List.mem_map.1 hc
    rw [(hbyte b hb).1]
    exact (hbyte b hb).2
  rw [Text.utf8, String.toList_ofList, Text.Utf8.encode_of_ascii hascii, List.map_map]
  refine (List.map_congr_left fun b hb => ?_).trans (List.map_id value)
  rw [Function.comp_apply, Text.Utf8.asciiByte, (hbyte b hb).1]
  simp

/-- **The content type of a response is what it declares**, to the byte. -/
theorem Response.contentType?_eq_some_iff {r : Response} {text : String} :
    r.contentType? = some text ↔ r.Declares text := by
  unfold contentType? headerText? Declares
  cases headerValue? contentTypeName r.headers with
  | none => simp
  | some value =>
    simp only [Option.bind_some, valueText?, List.all_eq_true, Option.some.injEq, exists_eq_left']
    constructor
    · intro htext
      split at htext
      next hvisible =>
        obtain rfl := Option.some.inj htext
        exact ⟨hvisible, utf8_of_visible hvisible⟩
      next => cases htext
    · rintro ⟨hvisible, htext⟩
      -- no two texts have the same bytes
      have hsame : Text.Utf8.encode text.toList =
          Text.Utf8.encode (value.map fun b => Char.ofNat b.toNat) := by
        have hback := utf8_of_visible hvisible
        rw [Text.utf8, String.toList_ofList] at hback
        exact htext.trans hback.symm
      have hchars := congrArg Text.Utf8.decode? hsame
      rw [Text.Utf8.decode?_encode, Text.Utf8.decode?_encode, Option.some.injEq] at hchars
      rw [if_pos hvisible, ← hchars, String.ofList_toList]

theorem Response.any_contentType?_iff (r : Response) : r.contentType?.any isJsonType ↔ r.IsJson := by
  rw [Option.any_eq_true, IsJson]
  refine exists_congr fun text => ?_
  rw [contentType?_eq_some_iff, isJsonType_iff]

end Http

/-! ## what outcomes mean -/

namespace Gateway

/-- What an invocation makes of an outcome: there is no result without a whole response of success, nor with a
broken document; otherwise the result is the document or, of any other type, the body as it is. -/
inductive Invoked : Http.Outcome → Option Payload → Prop where
  | unreachable : Invoked .unreachable none
  | rejected {r : Http.Response} (hstatus : r.status ≠ 200) : Invoked (.response r) none
  | cutOff {r : Http.Response} (hbody : r.body = none) : Invoked (.response r) none
  | malformed {r : Http.Response} {bytes : Text.Bytes} (hbody : r.body = some bytes) (htype : r.IsJson)
    (hbytes : Json.Value.ofBytes? bytes = none) : Invoked (.response r) none
  | document {r : Http.Response} {bytes : Text.Bytes} {v : Json.Value} (hstatus : r.status = 200)
    (hbody : r.body = some bytes) (htype : r.IsJson) (hbytes : Json.Value.ofBytes? bytes = some v) :
    Invoked (.response r) (some (.json v))
  | binary {r : Http.Response} {bytes : Text.Bytes} {declared : Option String} (hstatus : r.status = 200)
    (hbody : r.body = some bytes) (htype : ¬ r.IsJson)
    (hdeclared : ∀ text, declared = some text ↔ r.Declares text) :
    Invoked (.response r) (some (.binary declared bytes))

/-- What a read makes of an outcome. -/
inductive ReadAs (target : String) : Http.Outcome → Except ClientError Json.Value → Prop where
  | unreachable : ReadAs target .unreachable (.error (.network target))
  | rejected {r : Http.Response} (hstatus : r.status ≠ 200) :
    ReadAs target (.response r) (.error (.status target r.status))
  | cutOff {r : Http.Response} (hstatus : r.status = 200) (hbody : r.body = none) :
    ReadAs target (.response r) (.error (.network target))
  | malformed {r : Http.Response} {bytes : Text.Bytes} (hstatus : r.status = 200) (hbody : r.body = some bytes)
    (hbytes : Json.Value.ofBytes? bytes = none) :
    ReadAs target (.response r) (.error (.decode target .malformed))
  | document {r : Http.Response} {bytes : Text.Bytes} {v : Json.Value} (hstatus : r.status = 200)
    (hbody : r.body = some bytes) (hbytes : Json.Value.ofBytes? bytes = some v) :
    ReadAs target (.response r) (.ok v)

/-- A missing result comes with one event, a warning, and any other with none. -/
def Warned (result : Option Payload) (events : List Log.Event) : Prop :=
  match result with
  | none => ∃ e, events = [e] ∧ e.level = .warn
  | some _ => events = []

/-- The interpretation of an invocation obeys the relation, and it warns exactly once if there is no result. -/
theorem invoked_interpretInvocation (id : Identifier) (function : Function) (o : Http.Outcome) :
    Invoked o (interpretInvocation id function o).1 ∧
      Warned (interpretInvocation id function o).1 (interpretInvocation id function o).2 := by
  cases o with
  | unreachable => exact ⟨.unreachable, _, rfl, rfl⟩
  | response r =>
    unfold interpretInvocation
    simp only
    split
    next hstatus => exact ⟨.rejected hstatus, _, rfl, rfl⟩
    next hstatus =>
      have hstatus : r.status = 200 := not_not.1 hstatus
      split
      next hbody => exact ⟨.cutOff hbody, _, rfl, rfl⟩
      next bytes hbody =>
        split
        next htype =>
          have htype := r.any_contentType?_iff.1 htype
          split
          next v hbytes => exact ⟨.document hstatus hbody htype hbytes, rfl⟩
          next hbytes => exact ⟨.malformed hbody htype hbytes, _, rfl, rfl⟩
        next htype =>
          refine ⟨.binary hstatus hbody (mt r.any_contentType?_iff.2 htype) fun text => ?_, rfl⟩
          exact Http.Response.contentType?_eq_some_iff

/-- An outcome has one result. -/
theorem Invoked.unique {o : Http.Outcome} {result result' : Option Payload} (h : Invoked o result)
    (h' : Invoked o result') : result = result' := by
  cases h with
  | binary _ hbody _ hdeclared =>
    cases h' with
    | binary _ hbody' _ hdeclared' =>
      obtain rfl := Option.some.inj (hbody.symm.trans hbody')
      rw [Option.ext fun text => (hdeclared text).trans (hdeclared' text).symm]
    | _ => simp_all
  | _ => cases h' <;> simp_all

/-- **The interpretation of an invocation** is what the relation says. -/
theorem interpretInvocation_eq_iff (id : Identifier) (function : Function) (o : Http.Outcome)
    (result : Option Payload) : (interpretInvocation id function o).1 = result ↔ Invoked o result := by
  have hsound := (invoked_interpretInvocation id function o).1
  constructor
  · rintro rfl
    exact hsound
  · intro h
    exact hsound.unique h

theorem readAs_interpretRead (target : String) (o : Http.Outcome) : ReadAs target o (interpretRead target o) := by
  cases o with
  | unreachable => exact .unreachable
  | response r =>
    unfold interpretRead
    simp only
    split
    next hstatus => exact .rejected hstatus
    next hstatus =>
      have hstatus : r.status = 200 := not_not.1 hstatus
      split
      next hbody => exact .cutOff hstatus hbody
      next bytes hbody =>
        split
        next hbytes => exact .malformed hstatus hbody hbytes
        next v hbytes => exact .document hstatus hbody hbytes

theorem ReadAs.unique {target : String} {o : Http.Outcome} {result result' : Except ClientError Json.Value}
    (h : ReadAs target o result) (h' : ReadAs target o result') : result = result' := by
  cases h <;> cases h' <;> simp_all

/-- **The interpretation of a read** is what the relation says. -/
theorem interpretRead_eq_iff (target : String) (o : Http.Outcome) (result : Except ClientError Json.Value) :
    interpretRead target o = result ↔ ReadAs target o result := by
  constructor
  · rintro rfl
    exact readAs_interpretRead target o
  · intro h
    exact (readAs_interpretRead target o).unique h

/-- Where a response declares a document, an invocation and a read agree on it. -/
theorem invoked_iff_readAs {r : Http.Response} (htype : r.IsJson) (target : String) (v : Json.Value) :
    Invoked (.response r) (some (.json v)) ↔ ReadAs target (.response r) (.ok v) := by
  constructor
  · rintro ⟨⟩
    exact .document ‹_› ‹_› ‹_›
  · rintro ⟨⟩
    exact .document ‹_› ‹_› htype ‹_›

end Gateway

/-! ## the answers of a connection -/

namespace Connection

variable {π α : Type} [Http.Peer π]

theorem rel_imp {β : Type} {R S : α → β → Prop} (h : ∀ a b, R a b → S a b) {o : Option α} {o' : Option β}
    (hrel : Option.Rel R o o') : Option.Rel S o o' := by
  cases hrel with
  | some hab => exact .some (h _ _ hab)
  | none => exact .none

/-- One request to the peer, or none if it cannot be sent, which counts as an unreachable peer. -/
inductive Exchanged (c : Connection π) (r : Http.Request) : Option Http.Outcome → Connection π → Prop where
  | unsent (h : r.canSend = false) : Exchanged c r (some .unreachable) c
  | sent (h : r.canSend) : Exchanged c r (Http.Peer.exchange c.peer r).1
      { c with peer := (Http.Peer.exchange c.peer r).2 }

/-- An exchange ends as its outcome is interpreted. -/
theorem exchange_exchanged (c : Connection π) (r : Http.Request) (interpret : Http.Outcome → α × List Log.Event) :
    ∃ o, Exchanged c r o (c.exchange r interpret).2 ∧
      Option.Rel (fun outcome a => (a.reply, a.events) = interpret outcome) o (c.exchange r interpret).1 := by
  unfold exchange
  cases hsend : r.canSend with
  | false => exact ⟨_, .unsent hsend, .some rfl⟩
  | true =>
    refine ⟨_, .sent hsend, ?_⟩
    simp only [if_true]
    cases (Http.Peer.exchange c.peer r).1 with
    | none => exact .none
    | some outcome => exact .some rfl

open Gateway (Invoked ReadAs Warned)

/-- **Every response is classified.** An invocation sends one request at most, its result is the one that the
outcome of that request has, and a missing result comes with one warning; without a URL nothing is sent. A read does
the same without warnings. Where a response declares a document, the two agree on it. -/
theorem responses_classified (c : Connection π) :
    (∀ id args, Remote.answer c (.call id args) = c.invoke .call id args) ∧
    (∀ id, Remote.answer c (.execute id) = c.invoke .execute id .emptyObject) ∧
    (∀ kind id, Remote.answer c (.fetch kind id) = c.read kind .profile id Gateway.interpretRead) ∧
    (∀ function id args,
      (∀ e, c.gateway.route .process function (some id) = .error e →
        ∃ a, c.invoke function id args = (some a, c) ∧ a.reply = none ∧ Warned a.reply a.events) ∧
      (∀ url, c.gateway.route .process function (some id) = .ok url →
        ∃ o, Exchanged c (c.gateway.invocationRequest url args) o (c.invoke function id args).2 ∧
          Option.Rel (fun outcome a => (∀ result, a.reply = result ↔ Invoked outcome result) ∧
            Warned a.reply a.events) o (c.invoke function id args).1)) ∧
    (∀ kind function id,
      (∀ e, c.gateway.route kind function id = .error e →
        c.read kind function id Gateway.interpretRead = (some ⟨0, .error (.invalidUrl e), []⟩, c)) ∧
      (∀ url, c.gateway.route kind function id = .ok url →
        ∃ o, Exchanged c (c.gateway.readRequest url) o (c.read kind function id Gateway.interpretRead).2 ∧
          Option.Rel (fun outcome a => (∀ result, a.reply = result ↔ ReadAs url.text outcome result) ∧
            a.events = []) o (c.read kind function id Gateway.interpretRead).1)) ∧
    (∀ r : Http.Response, r.IsJson → ∀ target v,
      Invoked (.response r) (some (.json v)) ↔ ReadAs target (.response r) (.ok v)) := by
  refine ⟨fun id args => ?_, fun id => ?_, fun kind id => ?_, fun function id args => ?_,
    fun kind function id => ?_, fun r htype target v => Gateway.invoked_iff_readAs htype target v⟩
  · simp only [Remote.answer, answer]
  · simp only [Remote.answer, answer]
  · simp only [Remote.answer, answer]
  · refine ⟨fun e he => ?_, fun url hurl => ?_⟩
    · refine ⟨⟨0, none, [Gateway.noUrlWarning id]⟩, ?_, rfl, _, rfl, rfl⟩
      rw [invoke, he]
    · have hinvoke : c.invoke function id args = c.exchange (c.gateway.invocationRequest url args)
          (Gateway.interpretInvocation id function) := by
        rw [invoke, hurl]
      obtain ⟨o, hexchanged, hrel⟩ := c.exchange_exchanged (c.gateway.invocationRequest url args)
        (Gateway.interpretInvocation id function)
      rw [hinvoke]
      refine ⟨o, hexchanged, rel_imp (fun outcome a ha => ?_) hrel⟩
      have hreply : a.reply = (Gateway.interpretInvocation id function outcome).1 := congrArg Prod.fst ha
      have hevents : a.events = (Gateway.interpretInvocation id function outcome).2 := congrArg Prod.snd ha
      rw [hreply, hevents]
      exact ⟨Gateway.interpretInvocation_eq_iff id function outcome,
        (Gateway.invoked_interpretInvocation id function outcome).2⟩
  · refine ⟨fun e he => ?_, fun url hurl => ?_⟩
    · rw [read, he]
    · have hread : c.read kind function id Gateway.interpretRead = c.exchange (c.gateway.readRequest url)
          fun o => (Gateway.interpretRead url.text o, []) := by
        rw [read, hurl]
      obtain ⟨o, hexchanged, hrel⟩ := c.exchange_exchanged (c.gateway.readRequest url)
        fun o => (Gateway.interpretRead url.text o, [])
      rw [hread]
      refine ⟨o, hexchanged, rel_imp (fun outcome a ha => ?_) hrel⟩
      have hreply : a.reply = Gateway.interpretRead url.text outcome := congrArg Prod.fst ha
      have hevents : a.events = [] := congrArg Prod.snd ha
      rw [hreply]
      exact ⟨Gateway.interpretRead_eq_iff url.text outcome, hevents⟩

end Connection

end ProcessGraph
