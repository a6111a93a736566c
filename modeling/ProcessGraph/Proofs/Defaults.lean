import Mathlib.Data.List.Nodup
import Mathlib.Logic.Relation
import ProcessGraph.Config.Document
import ProcessGraph.Proofs.SameResults

/-!
# What a configuration does not say

* `Config.Place`: a place of a record, and how a member of its name is read into it.
* `Config.Lawful`: places do not overlap, and there is nothing else in the record.
* `Config.Stands`: what a place holds is decided by its own member, or else by the default.
* `Config.readMembers_eq_ok_iff`: a record read from members holds in each place what stands there.
* `Endpoint.fieldDefaults_eq` and the like: the defaults of single fields are those of their section.
* `Config.settings`: the places of all sections, with their members in a whole document.
* `Config.ofDocument_eq_ok_iff`: the same for whole configurations, whether a section is missing or only a member of it.
* `Config.absent_members_default`: what is missing may as well be there with its default, and members of unknown names
  do not matter.
-/

namespace ProcessGraph.Config

open Json (Value Members ShapeError)

variable {α β : Type}

/-! ## places of a record -/

/-- A place of a record: the name of its member, how a member is read, and where the content goes. -/
structure Place (α : Type) where
  name : String
  Content : Type
  read : Value → Except ShapeError Content
  get : α → Content
  put : Content → α → α

/-- The field that reads a member into a place. -/
def Place.field (p : Place α) : Field α := (p.name, fun v a => (p.read v).map fun x => p.put x a)

/-- The places of a record: they differ by name, what is put into one is seen there and nowhere else, and there is
nothing else in the record. -/
structure Lawful (ps : List (Place α)) : Prop where
  nodup : (ps.map Place.name).Nodup
  get_put : ∀ p ∈ ps, ∀ x a, p.get (p.put x a) = x
  get_put_of_ne : ∀ p ∈ ps, ∀ q ∈ ps, p.name ≠ q.name → ∀ x a, p.get (q.put x a) = p.get a
  ext : ∀ {a b}, (∀ p ∈ ps, p.get a = p.get b) → a = b

/-- What a place holds, if this is its member: what the member is read as, or the default if there is none. -/
def Stands (read : Value → Except ShapeError β) (default content : β) : Option Value → Prop
  | none => content = default
  | some v => read v = .ok content

theorem Lawful.eq_of_name_eq {ps : List (Place α)} (h : Lawful ps) {p q : Place α} (hp : p ∈ ps) (hq : q ∈ ps)
    (hname : p.name = q.name) : p = q :=
  List.inj_on_of_nodup_map h.nodup hp hq hname

/-- The field that a member is read by is that of the place with its name. -/
theorem find?_fields (ps : List (Place α)) (key : String) :
    (ps.map Place.field).find? (fun f => f.1 = key) = (ps.find? fun p => p.name = key).map Place.field := by
  rw [List.find?_map]
  rfl

/-- A member of another name than all places is passed over. -/
theorem readMembers_unknown {ps : List (Place α)} {key : String} (h : ∀ p ∈ ps, p.name ≠ key) (v : Value)
    (rest : Members) (a : α) :
    readMembers (ps.map Place.field) ((key, v) :: rest) a = readMembers (ps.map Place.field) rest a := by
  have hnone : (ps.find? fun p => p.name = key) = none := by simpa using h
  rw [readMembers, find?_fields, hnone]
  rfl

/-- A member of the name of a place is put there, if it can be read. -/
theorem readMembers_known {ps : List (Place α)} (hps : Lawful ps) {p : Place α} (hp : p ∈ ps) (v : Value)
    (rest : Members) (a : α) :
    readMembers (ps.map Place.field) ((p.name, v) :: rest) a = match p.read v with
      | .ok x => readMembers (ps.map Place.field) rest (p.put x a)
      | .error e => .error e := by
  have hfind : (ps.find? fun q => q.name = p.name) = some p := by
    cases hq : ps.find? fun q => q.name = p.name with
    | none =>
      have hne : p.name ≠ p.name := by simpa using List.find?_eq_none.1 hq p hp
      exact absurd rfl hne
    | some q =>
      have hname : q.name = p.name := by simpa using List.find?_some hq
      rw [hps.eq_of_name_eq (List.mem_of_find?_eq_some hq) hp hname]
  rw [readMembers, find?_fields, hfind]
  simp only [Option.map_some, Place.field]
  cases p.read v <;> rfl

/-- **A record read from members holds in each place what stands there**: what its own member is read as, or what was
there before if it has none. -/
theorem readMembers_eq_ok_iff {ps : List (Place α)} (hps : Lawful ps) {ms : Members} (hms : (Keyed.keys ms).Nodup)
    {a b : α} : readMembers (ps.map Place.field) ms a = .ok b ↔
      ∀ p ∈ ps, Stands p.read (p.get a) (p.get b) (Keyed.find? p.name ms) := by
  induction ms generalizing a with
  | nil =>
    simp only [readMembers, Keyed.find?, Stands, Except.ok.injEq]
    exact ⟨fun h p _ => by rw [h], fun h => hps.ext fun p hp => (h p hp).symm⟩
  | cons m rest ih =>
    obtain ⟨key, v⟩ := m
    obtain ⟨hkey, hrest⟩ := List.nodup_cons.1 hms
    by_cases hknown : ∃ q ∈ ps, q.name = key
    · obtain ⟨q, hq, rfl⟩ := hknown
      have hnone : Keyed.find? q.name rest = none := Keyed.find?_of_not_mem hkey
      rw [readMembers_known hps hq]
      cases hread : q.read v with
      | error e =>
        constructor
        · intro h
          cases h
        · intro h
          have hstands := h q hq
          rw [Keyed.find?, if_pos rfl, Stands, hread] at hstands
          cases hstands
      | ok x =>
        simp only
        rw [ih hrest]
        refine forall_congr' fun p => forall_congr' fun hp => ?_
        by_cases hname : p.name = q.name
        · -- the one member of this place has just been read
          obtain rfl := hps.eq_of_name_eq hp hq hname
          rw [hnone, Keyed.find?, if_pos rfl, Stands, Stands, hps.get_put p hp, hread, Except.ok.injEq, eq_comm]
        · rw [hps.get_put_of_ne p hp q hq hname, Keyed.find?, if_neg (Ne.symm hname)]
    · have hother : ∀ p ∈ ps, p.name ≠ key := fun p hp hname => hknown ⟨p, hp, hname⟩
      rw [readMembers_unknown hother, ih hrest]
      refine forall_congr' fun p => forall_congr' fun hp => ?_
      rw [Keyed.find?, if_neg (Ne.symm (hother p hp))]

/-! ## members of unknown names -/

theorem readMembers_append (fields : List (Field α)) (ms ms' : Members) (a : α) :
    readMembers fields (ms ++ ms') a = (readMembers fields ms a).bind (readMembers fields ms') := by
  induction ms generalizing a with
  | nil => rfl
  | cons m rest ih =>
    obtain ⟨key, v⟩ := m
    rw [List.cons_append, readMembers, readMembers]
    cases fields.find? fun f => f.1 = key with
    | none => exact ih a
    | some f =>
      simp only
      cases f.2 v a with
      | error e => rfl
      | ok b => exact ih b

/-- A member of an unknown name changes no result, wherever it stands. -/
theorem readMembers_insert_unknown {ps : List (Place α)} {key : String} (h : ∀ p ∈ ps, p.name ≠ key) (v : Value)
    (before after : Members) (a : α) :
    readMembers (ps.map Place.field) (before ++ (key, v) :: after) a =
      readMembers (ps.map Place.field) (before ++ after) a := by
  rw [readMembers_append, readMembers_append]
  congr 1
  funext b
  exact readMembers_unknown h v after b

/-- Two members that are read alike in every place are as good as each other. -/
theorem readMembers_replace {ps : List (Place α)} {key : String} {v v' : Value}
    (h : ∀ p ∈ ps, p.name = key → p.read v' = p.read v) (before after : Members) (a : α) :
    readMembers (ps.map Place.field) (before ++ (key, v') :: after) a =
      readMembers (ps.map Place.field) (before ++ (key, v) :: after) a := by
  rw [readMembers_append, readMembers_append]
  congr 1
  funext b
  rw [readMembers, readMembers, find?_fields]
  cases hp : ps.find? fun p => p.name = key with
  | none => rfl
  | some p =>
    have hname : p.name = key := by simpa using List.find?_some hp
    simp only [Option.map_some, Place.field, h p (List.mem_of_find?_eq_some hp) hname]

/-! ## the places of a configuration -/

/-- The places of an endpoint. -/
def Endpoint.places : List (Place Endpoint) := [
  ⟨"base_url", String, Value.asString, (·.baseUrl), fun s e => { e with baseUrl := s }⟩,
  ⟨"api_prefix", String, Value.asString, (·.apiPrefix), fun s e => { e with apiPrefix := s }⟩,
  ⟨"timeout_ms", Nat, Value.asNatural, (·.timeout), fun n e => { e with timeout := n }⟩,
  ⟨"headers", List (String × String), readHeaders, (·.headers), fun hs e => { e with headers := hs }⟩]

/-- The places of the settings of a refresh loop. -/
def Poll.places : List (Place Poll) := [
  ⟨"interval_ms", Nat, Value.asNatural, (·.interval), fun n p => { p with interval := n }⟩,
  ⟨"max_ticks", Option Nat, Value.asOption Value.asNatural, (·.maxTicks), fun n p => { p with maxTicks := n }⟩]

/-- The places of the settings of logging. -/
def Logging.places (reading : Reading) : List (Place Logging) := [
  ⟨"directory", Option String, Value.asOption readPath, (·.directory), fun d l => { l with directory := d }⟩,
  ⟨"format", LogFormat, LogFormat.ofDocument reading, (·.format), fun f l => { l with format := f }⟩,
  ⟨"file_prefix", Option String, Value.asOption Value.asString, (·.filePrefix),
    fun s l => { l with filePrefix := s }⟩]

/-- The places of a configuration: its sections. -/
def places (reading : Reading) : List (Place Config) := [
  ⟨"endpoint", Endpoint, Endpoint.ofDocument reading, (·.endpoint), fun e c => { c with endpoint := e }⟩,
  ⟨"poll", Poll, Poll.ofDocument reading, (·.poll), fun p c => { c with poll := p }⟩,
  ⟨"logging", Logging, Logging.ofDocument reading, (·.logging), fun l c => { c with logging := l }⟩]

theorem Endpoint.fields_eq : Endpoint.fields = Endpoint.places.map Place.field := rfl

theorem Poll.fields_eq : Poll.fields = Poll.places.map Place.field := rfl

theorem Logging.fields_eq (reading : Reading) : Logging.fields reading = (Logging.places reading).map Place.field := rfl

theorem sections_eq (reading : Reading) : sections reading = (places reading).map Place.field := rfl

theorem ofDocument_object (reading : Reading) (doc : Members) :
    ofDocument reading (.object doc) = readMembers ((places reading).map Place.field) doc fieldDefaults := by
  rw [ofDocument, sections_eq, readRecord]

theorem Endpoint.lawful_places : Lawful Endpoint.places where
  nodup := by decide
  get_put := by simp [places]
  get_put_of_ne := by simp [places]
  ext := by
    rintro ⟨⟩ ⟨⟩ h
    simpa [places] using h

theorem Poll.lawful_places : Lawful Poll.places where
  nodup := by decide
  get_put := by simp [places]
  get_put_of_ne := by simp [places]
  ext := by
    rintro ⟨⟩ ⟨⟩ h
    simpa [places] using h

theorem Logging.lawful_places (reading : Reading) : Lawful (Logging.places reading) where
  nodup := by simp [places]
  get_put := by simp [places]
  get_put_of_ne := by simp [places]
  ext := by
    rintro ⟨⟩ ⟨⟩ h
    simpa [places] using h

theorem lawful_places (reading : Reading) : Lawful (places reading) where
  nodup := by simp [places]
  get_put := by simp [places]
  get_put_of_ne := by simp [places]
  ext := by
    rintro ⟨⟩ ⟨⟩ h
    simpa [places] using h

/-! ## defaults of fields and of sections -/

/-- An endpoint that lists no field is one that is missing. -/
theorem Endpoint.fieldDefaults_eq : Endpoint.fieldDefaults = {} := rfl

/-- Settings of a refresh loop that list no field are ones that are missing. -/
theorem Poll.fieldDefaults_eq : Poll.fieldDefaults = {} := rfl

/-- Settings of logging that list no field are ones that are missing. -/
theorem Logging.fieldDefaults_eq : Logging.fieldDefaults = {} := rfl

/-- A configuration that lists no section is the default one. -/
theorem fieldDefaults_eq : fieldDefaults = {} := rfl

/-! ## what each field says -/

/-- A field of a section, with the name of its member there. -/
structure Setting where
  sectionName : String
  name : String
  Content : Type
  read : Value → Except ShapeError Content
  get : Config → Content

/-- A place of a section as a field of a configuration. -/
def Place.inSection (sectionName : String) (get : Config → α) (p : Place α) : Setting :=
  ⟨sectionName, p.name, p.Content, p.read, fun c => p.get (get c)⟩

/-- The fields of all sections. -/
def settings (reading : Reading) : List Setting :=
  Endpoint.places.map (Place.inSection "endpoint" (·.endpoint)) ++
    (Poll.places.map (Place.inSection "poll" (·.poll)) ++
      (Logging.places reading).map (Place.inSection "logging" (·.logging)))

theorem forall_mem_settings_iff {reading : Reading} {P : Setting → Prop} :
    (∀ s ∈ settings reading, P s) ↔ (∀ p ∈ Endpoint.places, P (p.inSection "endpoint" (·.endpoint))) ∧
      (∀ p ∈ Poll.places, P (p.inSection "poll" (·.poll))) ∧
      ∀ p ∈ Logging.places reading, P (p.inSection "logging" (·.logging)) := by
  simp only [settings, List.forall_mem_append, List.forall_mem_map]

/-- The member of a document that sets a field. -/
def Setting.member? (s : Setting) (doc : Members) : Option Value :=
  (Keyed.find? s.sectionName doc).bind (Value.get? s.name)

/-- The field is what its own member says, or else the default. -/
def Setting.Stands (s : Setting) (doc : Members) (c : Config) : Prop :=
  Config.Stands s.read (s.get {}) (s.get c) (s.member? doc)

/-- The names of the sections. -/
def sectionNames : List String := ["endpoint", "poll", "logging"]

/-- The sections that are there are objects. No object lists a name twice. -/
structure Sectioned (doc : Members) : Prop where
  nodup : (Keyed.keys doc).Nodup
  object : ∀ m ∈ doc, m.1 ∈ sectionNames → ∃ ms, m.2 = .object ms ∧ (Keyed.keys ms).Nodup

/-- A section that may be missing is what its fields say, if the defaults of its fields are its own. -/
theorem stands_readRecord {ps : List (Place α)} (hps : Lawful ps) {reading : Reading} {recordName : String}
    {unlisted default a : α} (hdefault : unlisted = default) {doc : Members} (hdoc : Sectioned doc)
    {sectionName : String} (hname : sectionName ∈ sectionNames) :
    Stands (readRecord reading recordName (ps.map Place.field) unlisted) default a (Keyed.find? sectionName doc) ↔
      ∀ p ∈ ps, Stands p.read (p.get default) (p.get a)
        ((Keyed.find? sectionName doc).bind (Value.get? p.name)) := by
  subst hdefault
  cases hfind : Keyed.find? sectionName doc with
  | none => exact ⟨fun h p _ => congrArg p.get h, fun h => hps.ext h⟩
  | some v =>
    obtain ⟨ms, rfl, hms⟩ := hdoc.object _ (Keyed.mem_of_find? hfind) hname
    exact readMembers_eq_ok_iff hps hms

/-- **A configuration read from a document holds in each field what stands there**: what the member of the field says,
or the default if there is none, whether the section is missing or the member alone. -/
theorem ofDocument_eq_ok_iff {reading : Reading} {doc : Members} (hdoc : Sectioned doc) {c : Config} :
    ofDocument reading (.object doc) = .ok c ↔ ∀ s ∈ settings reading, s.Stands doc c := by
  rw [ofDocument_object, fieldDefaults_eq, readMembers_eq_ok_iff (lawful_places reading) hdoc.nodup,
    forall_mem_settings_iff]
  simp only [places, List.forall_mem_cons, List.not_mem_nil, IsEmpty.forall_iff, implies_true, and_true]
  refine and_congr ?_ (and_congr ?_ ?_)
  · unfold Endpoint.ofDocument
    rw [Endpoint.fields_eq]
    exact stands_readRecord Endpoint.lawful_places Endpoint.fieldDefaults_eq hdoc (by decide)
  · unfold Poll.ofDocument
    rw [Poll.fields_eq]
    exact stands_readRecord Poll.lawful_places Poll.fieldDefaults_eq hdoc (by decide)
  · unfold Logging.ofDocument
    rw [Logging.fields_eq]
    exact stands_readRecord (Logging.lawful_places reading) Logging.fieldDefaults_eq hdoc (by decide)

/-! ## members that may be added -/

/-- The document of the default configuration. -/
def defaults : Members := [
  ("endpoint", .object [("base_url", .string "http://localhost:8080"), ("api_prefix", .string "/api"),
    ("timeout_ms", .number (.integer 5000 (by decide))), ("headers", .emptyObject)]),
  ("poll", .object [("interval_ms", .number (.integer 100 (by decide))), ("max_ticks", .null)]),
  ("logging", .object [("directory", .null), ("format", .string "pretty"), ("file_prefix", .null)])]

/-- The value says of the field what is its default. -/
def Setting.SaysDefault (s : Setting) (v : Value) : Prop := s.read v = .ok (s.get {})

/-- The document of the default configuration says of every field what is its default. -/
theorem saysDefault_defaults {reading : Reading} :
    ∀ s ∈ settings reading, ∃ v, s.member? defaults = some v ∧ s.SaysDefault v := by
  simp only [forall_mem_settings_iff, Endpoint.places, Poll.places, Logging.places, List.forall_mem_cons,
    List.not_mem_nil, IsEmpty.forall_iff, implies_true, and_true]
  refine ⟨⟨?_, ?_, ?_, ?_⟩, ⟨?_, ?_⟩, ?_, ?_, ?_⟩
  all_goals exact ⟨_, rfl, rfl⟩

/-- A document with more members: what it said of a field it says still, and it may say of fields that were missing
what is their default. Nothing is asked of members of other names. -/
structure Completes (reading : Reading) (doc doc' : Members) : Prop where
  sectioned : Sectioned doc'
  member : ∀ s ∈ settings reading, s.member? doc' = s.member? doc ∨
    s.member? doc = none ∧ ∃ v, s.member? doc' = some v ∧ s.SaysDefault v

/-- More members of this kind leave the configuration as it is. -/
theorem Completes.ofDocument_eq_ok_iff {reading : Reading} {doc doc' : Members} (h : Completes reading doc doc')
    (hdoc : Sectioned doc) {c : Config} :
    ofDocument reading (.object doc') = .ok c ↔ ofDocument reading (.object doc) = .ok c := by
  rw [Config.ofDocument_eq_ok_iff h.sectioned, Config.ofDocument_eq_ok_iff hdoc]
  refine forall_congr' fun s => forall_congr' fun hs => ?_
  rcases h.member s hs with hsame | ⟨hnone, v, hv, hdefault⟩
  · rw [Setting.Stands, Setting.Stands, hsame]
  · rw [Setting.Stands, Setting.Stands, hnone, hv, Stands, Stands, hdefault, Except.ok.injEq, eq_comm]

/-- One more member of an unknown name, in the document or in one of its sections, wherever it stands. -/
inductive Surplus (reading : Reading) : Members → Members → Prop where
  | outside (before after : Members) (key : String) (v : Value) (h : key ∉ sectionNames) :
    Surplus reading (before ++ after) (before ++ (key, v) :: after)
  | inside (before after before' after' : Members) (name key : String) (v : Value) (hname : name ∈ sectionNames)
    (h : ∀ s ∈ settings reading, s.sectionName = name → s.name ≠ key) :
    Surplus reading (before ++ (name, .object (before' ++ after')) :: after)
      (before ++ (name, .object (before' ++ (key, v) :: after')) :: after)

/-- **A member of an unknown name changes no result**, be it a configuration or an error. -/
theorem Surplus.ofDocument_eq {reading : Reading} {doc doc' : Members} (h : Surplus reading doc doc') :
    ofDocument reading (.object doc') = ofDocument reading (.object doc) := by
  rw [ofDocument_object, ofDocument_object]
  cases h with
  | outside before after key v h =>
    refine readMembers_insert_unknown (fun p hp hname => h ?_) _ _ _ _
    subst hname
    exact List.mem_map_of_mem (f := Place.name) hp
  | inside before after before' after' name key v hname h =>
    obtain ⟨hendpoint, hpoll, hlogging⟩ := forall_mem_settings_iff.1 h
    refine readMembers_replace ?_ _ _ _
    simp only [places, List.forall_mem_cons, List.not_mem_nil, IsEmpty.forall_iff, implies_true, and_true]
    refine ⟨?_, ?_, ?_⟩
    · exact fun hsection => readMembers_insert_unknown (fun p hp => hendpoint p hp hsection) v before' after' _
    · exact fun hsection => readMembers_insert_unknown (fun p hp => hpoll p hp hsection) v before' after' _
    · exact fun hsection => readMembers_insert_unknown (fun p hp => hlogging p hp hsection) v before' after' _

/-- **What a configuration does not say has its default.** The defaults of the fields of a section are those of the
section itself, and the defaults of the sections are those of the configuration. Each field of a configuration is what
its own member says, or else that of the default configuration, whether its section is missing or the member alone; so a
member has a say in its own field only. What is missing may be added with its default, at every level at once, as the
document of the default configuration says it or otherwise; and members of unknown names do not matter. -/
theorem absent_members_default (reading : Reading) {doc : Members} (hdoc : Sectioned doc) :
    (Endpoint.fieldDefaults = {} ∧ Poll.fieldDefaults = {} ∧ Logging.fieldDefaults = {} ∧ fieldDefaults = {}) ∧
    (∀ c, ofDocument reading (.object doc) = .ok c ↔ ∀ s ∈ settings reading, s.Stands doc c) ∧
    (∀ doc', Completes reading doc doc' → ∀ c, ofDocument reading (.object doc) = .ok c →
      ofDocument reading (.object doc') = .ok c) ∧
    (∀ s ∈ settings reading, ∃ v, s.member? defaults = some v ∧ s.SaysDefault v) ∧
    ∀ doc', Relation.ReflTransGen (Surplus reading) doc doc' →
      ofDocument reading (.object doc') = ofDocument reading (.object doc) := by
  refine ⟨⟨Endpoint.fieldDefaults_eq, Poll.fieldDefaults_eq, Logging.fieldDefaults_eq, fieldDefaults_eq⟩,
    fun c => ofDocument_eq_ok_iff hdoc, ?_, saysDefault_defaults, ?_⟩
  · intro doc' hcompletes c hc
    exact (hcompletes.ofDocument_eq_ok_iff hdoc).2 hc
  · intro doc' hsurplus
    induction hsurplus with
    | refl => rfl
    | tail _ hmember ih => rw [hmember.ofDocument_eq, ih]

/-- A document that says one thing: a refresh loop ticks every 40 milliseconds. -/
def brief : Members := [("poll", .object [("interval_ms", .number (.integer 40 (by decide)))])]

/-- The brief document with a comment beside a section and one inside. -/
def briefCommented : Members := [
  ("poll", .object [("comment", .null), ("interval_ms", .number (.integer 40 (by decide)))]),
  ("comment", .string "slow")]

/-- The brief document with a section and two members of others, which say the defaults. -/
def briefCompleted : Members := [
  ("logging", .object [("file_prefix", .null), ("format", .string "pretty"), ("directory", .null)]),
  ("poll", .object [("max_ticks", .null), ("interval_ms", .number (.integer 40 (by decide)))]),
  ("endpoint", .object [("timeout_ms", .number (.integer 5000 (by decide)))])]

/-- The brief document, the commented one and the completed one give the same configuration. -/
theorem absent_members_default_brief :
    Sectioned brief ∧ ofDocument .strict (.object brief) = .ok { poll := { interval := 40 } } ∧
      Completes .strict brief briefCompleted ∧
      ofDocument .strict (.object briefCompleted) = .ok { poll := { interval := 40 } } ∧
      Relation.ReflTransGen (Surplus .strict) brief briefCommented ∧
      ofDocument .strict (.object briefCommented) = .ok { poll := { interval := 40 } } := by
  have hbrief : Sectioned brief :=
    ⟨by decide, List.forall_mem_cons.2 ⟨fun _ => ⟨_, rfl, by decide⟩, nofun⟩⟩
  have hcompletes : Completes .strict brief briefCompleted := by
    refine ⟨⟨by decide, ?_⟩, ?_⟩
    · simp only [briefCompleted, List.forall_mem_cons]
      exact ⟨fun _ => ⟨_, rfl, by decide⟩, fun _ => ⟨_, rfl, by decide⟩, fun _ => ⟨_, rfl, by decide⟩, nofun⟩
    · simp only [forall_mem_settings_iff, Endpoint.places, Poll.places, Logging.places, List.forall_mem_cons,
        List.not_mem_nil, IsEmpty.forall_iff, implies_true, and_true]
      exact ⟨⟨.inl rfl, .inl rfl, .inr ⟨rfl, _, rfl, rfl⟩, .inl rfl⟩, ⟨.inl rfl, .inr ⟨rfl, _, rfl, rfl⟩⟩,
        .inr ⟨rfl, _, rfl, rfl⟩, .inr ⟨rfl, _, rfl, rfl⟩, .inr ⟨rfl, _, rfl, rfl⟩⟩
  have hunknown : ∀ s ∈ settings .strict, s.sectionName = "poll" → s.name ≠ "comment" := by
    simp [forall_mem_settings_iff, Place.inSection, Endpoint.places, Poll.places, Logging.places]
  have hinside : Surplus .strict brief _ :=
    .inside [] [] [] [("interval_ms", .number (.integer 40 (by decide)))] "poll" "comment" .null (by decide) hunknown
  have hcommented : Relation.ReflTransGen (Surplus .strict) brief briefCommented :=
    .tail (.single hinside) (.outside [_] [] "comment" (.string "slow") (by decide))
  have hconfig : ofDocument .strict (.object brief) = .ok { poll := { interval := 40 } } := rfl
  obtain ⟨-, -, hcompleted, -, hsurplus⟩ := absent_members_default .strict hbrief
  exact ⟨hbrief, hconfig, hcompletes, hcompleted _ hcompletes _ hconfig, hcommented,
    (hsurplus _ hcommented).trans hconfig⟩

end ProcessGraph.Config
