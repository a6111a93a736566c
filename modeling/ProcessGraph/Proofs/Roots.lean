import ProcessGraph.Proofs.Responses
import ProcessGraph.Proofs.Routes

/-!
# Roots of routes

A gateway checks the root of its routes alone, but reads it again in front of each of them.

* `Url.Divided`: a text that begins with a scheme, with the blanks that are trimmed when it is read alone.
* `Url.exists_parseAfterScheme_iff`: what has to be read for a text to be a URL: its authority, if it has one.
* `Url.Divided.exists_parse_append_iff`: behind one root all paths are read, or none is.
* `Gateway.Composes`: every function of every entity has a URL.
* `Request.LacksUrl`: what tells that a request had none.
* `Gateway.roots_surface`: which gateways have all their URLs, and what becomes of the requests of the others.
-/

namespace ProcessGraph

namespace Url

/-! ## trimmed ends -/

/-- Is the character left out at the ends of a text? -/
def isTrimmed (c : Char) : Bool := c.toNat ≤ 32

/-- The text ends in a character that is not left out. -/
def EndsPlain (cs : List Char) : Prop := ∃ c ∈ cs.getLast?, isTrimmed c = false

/-- Only the front of a text is trimmed that ends in another one. -/
theorem trim_append {cs tail : List Char} (hcs : cs.dropWhile isTrimmed ≠ []) (htail : EndsPlain tail) :
    trim (cs ++ tail) = cs.dropWhile isTrimmed ++ tail := by
  obtain ⟨c, hc, hplain⟩ := htail
  have hfront : (cs ++ tail).dropWhile isTrimmed = cs.dropWhile isTrimmed ++ tail := by
    rw [List.dropWhile_append, if_neg (by simpa using hcs)]
  have hlast : ∀ d ∈ (cs.dropWhile isTrimmed ++ tail).getLast?, ¬ isTrimmed d := by
    intro d hd
    rw [List.getLast?_append, Option.mem_def.1 hc] at hd
    obtain rfl := Option.some.inj hd
    simp [hplain]
  calc trim (cs ++ tail) = Text.dropTrailing isTrimmed ((cs ++ tail).dropWhile isTrimmed) := rfl
    _ = Text.dropTrailing isTrimmed (cs.dropWhile isTrimmed ++ tail ++ []) := by rw [hfront, List.append_nil]
    _ = cs.dropWhile isTrimmed ++ tail ++ [] := Text.dropTrailing_append (by simp [hcs]) hlast
    _ = cs.dropWhile isTrimmed ++ tail := List.append_nil _

theorem exists_dropWhile_of_mem {a : Char} {cs : List Char} (h : a ∈ cs) :
    ∃ c rest, cs.dropWhile (· ≠ a) = c :: rest := by
  refine List.exists_cons_of_ne_nil ?_
  rw [Ne, List.dropWhile_eq_nil_iff]
  exact fun hall => by simpa using hall a h

/-- What follows a scheme and its colon does not change the scheme. -/
theorem scheme?_append_of_eq_some {cs scheme : List Char} (h : scheme? cs = some scheme) :
    ':' ∈ cs ∧ ∀ tail, scheme? (cs ++ tail) = some scheme := by
  unfold scheme? at h
  simp only at h
  split at h
  next first more rest hfront hrest =>
    have hle : (cs.takeWhile isSchemeChar).length ≤ cs.length := (List.takeWhile_prefix _).length_le
    have hne : (cs.takeWhile isSchemeChar).length ≠ cs.length := by
      intro hlength
      rw [hlength, List.drop_length] at hrest
      cases hrest
    refine ⟨List.mem_of_mem_drop (hrest ▸ List.mem_cons_self), fun tail => ?_⟩
    have hsame : (cs ++ tail).takeWhile isSchemeChar = cs.takeWhile isSchemeChar := by
      rw [List.takeWhile_append, if_neg hne]
    unfold scheme?
    simp only [hsame, List.drop_append_of_le_length hle, hrest, List.cons_append]
    rw [hfront] at h ⊢
    exact h
  · cases h

/-- A text that begins with a scheme: what follows the colon, but for the blanks at the end, which are trimmed when
the text is read alone, and stay when something is behind them. -/
structure Divided (cs scheme body blanks : List Char) : Prop where
  blank : ∀ c ∈ blanks, isTrimmed c
  alone : parseChars cs = parseAfterScheme scheme body
  before : ∀ tail, EndsPlain tail → parseChars (cs ++ tail) = parseAfterScheme scheme (body ++ blanks ++ tail)
  suffix : body ++ blanks <:+ cs

/-- A text that spells a URL can be divided. -/
theorem exists_divided {cs : List Char} {u : Url} (h : parseChars cs = .ok u) :
    ∃ scheme body blanks, Divided cs scheme body blanks := by
  obtain ⟨blanks, hblanks, hblank⟩ := Http.exists_eq_dropTrailing_append isTrimmed (cs.dropWhile isTrimmed)
  have htrim : cs.dropWhile isTrimmed = trim cs ++ blanks := hblanks
  unfold parseChars at h
  simp only at h
  split at h
  next scheme hscheme =>
    obtain ⟨hcolon, hfollowed⟩ := scheme?_append_of_eq_some hscheme
    have hcolon : ':' ∈ trim cs := (List.mem_filter.1 hcolon).1
    have hdrop : ∀ tail, (((trim cs ++ tail).dropWhile (· ≠ ':')).drop 1) =
        ((trim cs).dropWhile (· ≠ ':')).drop 1 ++ tail := by
      intro tail
      obtain ⟨c, rest, hrest⟩ := exists_dropWhile_of_mem hcolon
      rw [List.dropWhile_append, hrest]
      rfl
    refine ⟨scheme, ((trim cs).dropWhile (· ≠ ':')).drop 1, blanks, hblank, ?_, fun tail htail => ?_, ?_⟩
    · unfold parseChars
      simp only [hscheme]
    · have hne : cs.dropWhile isTrimmed ≠ [] := by
        rw [htrim]
        simp [List.ne_nil_of_mem hcolon]
      have htext : trim (cs ++ tail) = trim cs ++ (blanks ++ tail) := by
        rw [trim_append hne htail, htrim, List.append_assoc]
      unfold parseChars
      simp only [htext, dropBreaks_append, hfollowed, hdrop, List.append_assoc]
    · have hbody : ((trim cs).dropWhile (· ≠ ':')).drop 1 <:+ trim cs :=
        (List.drop_suffix _ _).trans (List.dropWhile_suffix _)
      obtain ⟨front, hfront⟩ := hbody
      have hsuffix : ((trim cs).dropWhile (· ≠ ':')).drop 1 ++ blanks <:+ cs.dropWhile isTrimmed :=
        ⟨front, by rw [← List.append_assoc, hfront, htrim]⟩
      exact hsuffix.trans (List.dropWhile_suffix _)
  · cases h

/-! ## what has to be read -/

/-- Does the character begin a query or a fragment? -/
def endsPath (c : Char) : Bool := c = '?' || c = '#'

/-- The text before query and fragment, without tabs and line breaks. -/
def front (cs : List Char) : List Char := dropBreaks (splitTail cs).1

theorem eq_of_isBreak {c : Char} (h : isBreak c) : c = '\t' ∨ c = '\n' ∨ c = '\r' := by
  simpa [isBreak, or_assoc] using h

theorem takeWhile_dropBreaks {p : Char → Bool} (hp : ∀ c, isBreak c → p c) (cs : List Char) :
    (dropBreaks cs).takeWhile p = dropBreaks (cs.takeWhile p) := by
  induction cs with
  | nil => rfl
  | cons c cs ih =>
    unfold dropBreaks at ih ⊢
    by_cases hc : isBreak c
    · simp [hc, hp c hc, ih]
    · by_cases hkept : p c <;> simp [hc, hkept, ih]

theorem front_eq (cs : List Char) : front cs = (dropBreaks cs).takeWhile fun c => c ≠ '?' ∧ c ≠ '#' := by
  rw [front, splitTail_fst, takeWhile_dropBreaks]
  intro c hc
  rcases eq_of_isBreak hc with rfl | rfl | rfl <;> decide

/-- What stands in front of query and fragment only grows with what follows. -/
theorem front_isPrefix (cs tail : List Char) : front cs <+: front (cs ++ tail) := by
  rw [front_eq, front_eq, dropBreaks_append, List.takeWhile_append]
  split
  next hlength =>
    rw [(List.takeWhile_prefix _).eq_of_length hlength]
    exact List.prefix_append _ _
  · exact List.prefix_rfl

theorem not_any_endsPath_iff {cs : List Char} : cs.any endsPath = false ↔ ∀ c ∈ cs, c ≠ '?' ∧ c ≠ '#' := by
  simp [endsPath]

/-- There is a query or a fragment exactly if there is a character that begins one. -/
theorem splitTail_isSome (cs : List Char) :
    ((splitTail cs).2.1.isSome || (splitTail cs).2.2.isSome) = cs.any endsPath := by
  cases hmarked : cs.any endsPath with
  | false =>
    rw [splitTail_of_forall (not_any_endsPath_iff.1 hmarked)]
    rfl
  | true =>
    simp only [splitTail, List.span_eq_takeWhile_dropWhile]
    by_cases hnumber : '#' ∈ cs
    · obtain ⟨c, rest, hrest⟩ := exists_dropWhile_of_mem hnumber
      simp only [hrest, Option.isSome_some, Bool.or_true]
    · have hfront : cs.takeWhile (· ≠ '#') = cs := by
        rw [List.takeWhile_eq_self_iff]
        intro c hc
        simpa using ne_of_mem_of_not_mem hc hnumber
      have hquestion : '?' ∈ cs := by
        obtain ⟨c, hc, rfl | rfl⟩ : ∃ c ∈ cs, c = '?' ∨ c = '#' := by simpa [endsPath] using hmarked
        · exact hc
        · exact absurd hc hnumber
      obtain ⟨c, rest, hrest⟩ := exists_dropWhile_of_mem hquestion
      simp only [hfront, hrest, Option.isSome_some, Bool.true_or]

/-- What follows a slash. -/
def slashed? (special : Bool) : List Char → Option (List Char)
  | c :: rest => if isSlash special c then some rest else none
  | [] => none

theorem eq_of_slashed?_false {cs rest : List Char} (h : slashed? false cs = some rest) : cs = '/' :: rest := by
  cases cs with
  | nil => cases h
  | cons c cs =>
    simp only [slashed?, isSlash, Bool.false_and, Bool.or_false, decide_eq_true_eq] at h
    split at h
    next hslash => rw [hslash, Option.some.inj h]
    · cases h

/-- What follows the slashes in front of an authority, if there is one. -/
def authorityStart? (scheme cs : List Char) : Option (List Char) :=
  let special := isSpecialScheme scheme
  if isWebScheme scheme then some (cs.dropWhile (isSlash special))
  else (slashed? special cs).bind (slashed? special)

/-- The text can be read as an authority. That of a local file is a drive or a host, if anything. -/
def ReadsAuthority (scheme : List Char) (followed : Bool) (cs : List Char) : Prop :=
  if isFileScheme scheme then isDriveLetter cs ∨ cs = [] ∨ ∃ host, Host.parse cs = .ok host
  else ∃ a, parseAuthority scheme followed cs = .ok a

/-- The text before query and fragment can be read: its authority can, if it has one. -/
def ReadsFront (scheme : List Char) (marked : Bool) (cs : List Char) : Prop :=
  ∀ rest ∈ authorityStart? scheme cs,
    ReadsAuthority scheme (marked || !(spanAuthority (isSpecialScheme scheme) rest).2.isEmpty)
      (spanAuthority (isSpecialScheme scheme) rest).1

theorem exists_map_eq_ok_iff {ε α β : Type} {x : Except ε α} {f : α → β} :
    (∃ b, x.map f = .ok b) ↔ ∃ a, x = .ok a := by
  constructor
  · rintro ⟨b, hb⟩
    obtain ⟨a, ha, -⟩ := exists_of_map_eq_ok hb
    exact ⟨a, ha⟩
  · rintro ⟨a, rfl⟩
    exact ⟨f a, rfl⟩

theorem map_dropBreaks_afterSlash? (cs : List Char) :
    (afterSlash? cs).map dropBreaks = slashed? true (dropBreaks cs) := by
  unfold afterSlash? dropBreaks
  induction cs with
  | nil => rfl
  | cons c cs ih =>
    by_cases hc : isBreak c
    · simpa [hc] using ih
    · by_cases hslash : isSlash true c <;> simp [hc, hslash, slashed?]

/-- A host of a local file can be read with any path behind it. -/
theorem exists_parseFileHost_iff (cs : List Char) :
    (∃ p, parseFileHost cs = .ok p) ↔
      isDriveLetter (spanAuthority true (dropBreaks cs)).1 ∨ (spanAuthority true (dropBreaks cs)).1 = [] ∨
        ∃ host, Host.parse (spanAuthority true (dropBreaks cs)).1 = .ok host := by
  have hhost : (spanAuthority true (dropBreaks cs)).1 = dropBreaks (spanAuthority true cs).1 := by
    simp only [spanAuthority, List.span_eq_takeWhile_dropWhile]
    refine takeWhile_dropBreaks (fun c hc => ?_) cs
    rcases eq_of_isBreak hc with rfl | rfl | rfl <;> decide
  rw [hhost]
  unfold parseFileHost
  simp only
  generalize dropBreaks (spanAuthority true cs).1 = hostChars
  cases hdrive : isDriveLetter hostChars with
  | true => exact iff_of_true ⟨_, rfl⟩ (.inl rfl)
  | false =>
    cases hostChars with
    | nil => exact iff_of_true ⟨_, rfl⟩ (.inr (.inl rfl))
    | cons c rest =>
      cases hparse : Host.parse (c :: rest) with
      | error e => simp [bind, Except.bind]
      | ok host =>
        refine iff_of_true ?_ (.inr (.inr ⟨host, rfl⟩))
        simp only [List.isEmpty_cons, Bool.false_eq_true, if_false, bind, Except.bind]
        split <;> exact ⟨_, rfl⟩

theorem exists_parseFile_iff (body : List Char) :
    (∃ p, parseFile body = .ok p) ↔ ∀ rest ∈ (slashed? true (dropBreaks body)).bind (slashed? true),
      isDriveLetter (spanAuthority true rest).1 ∨ (spanAuthority true rest).1 = [] ∨
        ∃ host, Host.parse (spanAuthority true rest).1 = .ok host := by
  unfold parseFile
  rw [← map_dropBreaks_afterSlash?]
  cases afterSlash? body with
  | none => simp
  | some first =>
    simp only [Option.map_some, Option.bind_some, ← map_dropBreaks_afterSlash?]
    cases afterSlash? first with
    | none => simp
    | some rest => simpa using exists_parseFileHost_iff rest

theorem exists_parseAfterSlashes_iff (scheme : List Char) (query fragment : Option (List Char)) (cs : List Char) :
    (∃ u, parseAfterSlashes scheme query fragment cs = .ok u) ↔
      ∃ a, parseAuthority scheme
        (query.isSome || fragment.isSome || !(spanAuthority (isSpecialScheme scheme) cs).2.isEmpty)
        (spanAuthority (isSpecialScheme scheme) cs).1 = .ok a := by
  unfold parseAfterSlashes
  simp only
  exact exists_map_eq_ok_iff

/-- **What follows a scheme can be read exactly if its authority can be**, if it has one: whatever stands in path,
query and fragment is read. -/
theorem exists_parseAfterScheme_iff (scheme cs : List Char) :
    (∃ u, parseAfterScheme scheme cs = .ok u) ↔ ReadsFront scheme (cs.any endsPath) (front cs) := by
  rw [← splitTail_isSome]
  unfold parseAfterScheme ReadsFront front authorityStart? ReadsAuthority
  generalize splitTail cs = parts
  obtain ⟨body, query, fragment⟩ := parts
  cases hfile : isFileScheme scheme with
  | true =>
    obtain rfl : scheme = "file".toList := by simpa [isFileScheme] using hfile
    have hread := exists_parseFile_iff body
    simp only [if_true]
    exact exists_map_eq_ok_iff.trans hread
  | false =>
    cases hweb : isWebScheme scheme with
    | true =>
      have hspecial : isSpecialScheme scheme := by simp [isSpecialScheme, hweb]
      simp only [hspecial, if_true, Bool.false_eq_true, if_false, Option.mem_some, forall_eq']
      rw [exists_parseAfterSlashes_iff, hspecial, Option.isSome_map, Option.isSome_map]
    | false =>
      have hspecial : isSpecialScheme scheme = false := by simp [isSpecialScheme, hweb, hfile]
      have hnone : (∀ rest, dropBreaks body ≠ '/' :: '/' :: rest) →
          (slashed? false (dropBreaks body)).bind (slashed? false) = none := by
        intro hslashes
        rw [Option.eq_none_iff_forall_ne_some]
        intro rest hrest
        obtain ⟨first, hfirst, hrest⟩ := Option.bind_eq_some_iff.1 hrest
        exact hslashes rest (by rw [eq_of_slashed?_false hfirst, eq_of_slashed?_false hrest])
      simp only [hspecial, Bool.false_eq_true, if_false]
      split
      next rest hslashes =>
        rw [exists_parseAfterSlashes_iff, hspecial, Option.isSome_map, Option.isSome_map, hslashes]
        simp [slashed?, isSlash]
      next first hmore hslash =>
        rw [hnone fun rest hslashes => hmore rest (List.cons.inj (hslash.symm.trans hslashes)).2]
        exact iff_of_true ⟨_, rfl⟩ (by simp)
      next hslashes _ =>
        rw [hnone hslashes]
        exact iff_of_true ⟨_, rfl⟩ (by simp)

/-! ## paths behind a root -/

theorem slashed?_append_of_some {special : Bool} {cs rest : List Char} (h : slashed? special cs = some rest)
    (tail : List Char) : slashed? special (cs ++ tail) = some (rest ++ tail) := by
  cases cs with
  | nil => cases h
  | cons c cs =>
    simp only [slashed?, List.cons_append] at h ⊢
    split at h
    next hslash => rw [if_pos hslash, ← Option.some.inj h]
    · cases h

theorem slashed?_append_of_none {special : Bool} {cs : List Char} (h : slashed? special cs = none) (hne : cs ≠ [])
    (tail : List Char) : slashed? special (cs ++ tail) = none := by
  cases cs with
  | nil => exact absurd rfl hne
  | cons c cs => simpa [slashed?] using h

theorem isSuffix_of_slashed? {special : Bool} {cs rest : List Char} (h : slashed? special cs = some rest) :
    rest <:+ cs := by
  cases cs with
  | nil => cases h
  | cons c cs =>
    simp only [slashed?] at h
    split at h
    · rw [← Option.some.inj h]
      exact List.suffix_cons c cs
    · cases h

variable {scheme cs rest path : List Char}

theorem isSuffix_of_authorityStart? (h : authorityStart? scheme cs = some rest) : rest <:+ cs := by
  unfold authorityStart? at h
  simp only at h
  split at h
  · rw [← Option.some.inj h]
    exact List.dropWhile_suffix _
  · obtain ⟨first, hfirst, hrest⟩ := Option.bind_eq_some_iff.1 h
    exact (isSuffix_of_slashed? hrest).trans (isSuffix_of_slashed? hfirst)

/-- What follows the front of an authority belongs to it, or stands behind it. -/
theorem authorityStart?_append_of_some (h : authorityStart? scheme cs = some rest)
    (hne : isWebScheme scheme → rest ≠ []) (tail : List Char) :
    authorityStart? scheme (cs ++ tail) = some (rest ++ tail) := by
  unfold authorityStart? at h ⊢
  simp only at h ⊢
  split at h
  next hweb =>
    have hrest := Option.some.inj h
    rw [if_pos hweb, List.dropWhile_append, hrest, if_neg]
    simpa using hne hweb
  next hweb =>
    obtain ⟨first, hfirst, hrest⟩ := Option.bind_eq_some_iff.1 h
    rw [if_neg hweb, slashed?_append_of_some hfirst, Option.bind_some, slashed?_append_of_some hrest]

/-- The text may stand behind the slash of a path: it is no path of its own, and where that slash opens an authority,
it is one. -/
structure Below (path : List Char) : Prop where
  dropBreaks_eq : dropBreaks path = path
  unmarked : ∀ c ∈ path, c ≠ '?' ∧ c ≠ '#'
  ends : EndsPlain ('/' :: path)
  slashed : ∀ special, slashed? special path = none
  reads : ∀ scheme followed, isWebScheme scheme = false →
    ReadsAuthority scheme followed (spanAuthority (isSpecialScheme scheme) path).1

/-- Behind a text without an authority, the slash of a path may open one, which is the path then. -/
theorem authorityStart?_append_of_none (h : authorityStart? scheme cs = none)
    (hpath : ∀ special, slashed? special path = none) (hrest : authorityStart? scheme (cs ++ '/' :: path) = some rest) :
    isWebScheme scheme = false ∧ rest = path := by
  have hopen : ∀ special, slashed? special ('/' :: path) = some path := by
    intro special
    simp [slashed?, isSlash]
  unfold authorityStart? at h hrest
  simp only at h hrest
  split at h
  · cases h
  next hweb =>
    rw [if_neg hweb] at hrest
    refine ⟨by simpa using hweb, ?_⟩
    obtain ⟨first, hfirst, hrest⟩ := Option.bind_eq_some_iff.1 hrest
    cases hone : slashed? (isSpecialScheme scheme) cs with
    | none =>
      by_cases hempty : cs = []
      · rw [hempty, List.nil_append, hopen] at hfirst
        rw [← Option.some.inj hfirst, hpath] at hrest
        cases hrest
      · rw [slashed?_append_of_none hone hempty] at hfirst
        cases hfirst
    | some after =>
      rw [slashed?_append_of_some hone] at hfirst
      rw [hone, Option.bind_some] at h
      rw [← Option.some.inj hfirst] at hrest
      by_cases hempty : after = []
      · rw [hempty, List.nil_append, hopen] at hrest
        exact (Option.some.inj hrest).symm
      · rw [slashed?_append_of_none h hempty] at hrest
        cases hrest

/-- A slash ends an authority. -/
theorem spanAuthority_append_slash (special : Bool) (cs path : List Char) :
    (spanAuthority special (cs ++ '/' :: path)).1 = (spanAuthority special cs).1 ∧
      (spanAuthority special (cs ++ '/' :: path)).2.isEmpty = false := by
  simp only [spanAuthority, List.span_eq_takeWhile_dropWhile]
  refine ⟨?_, ?_⟩
  · rw [List.takeWhile_append]
    split
    next hlength =>
      have hall := (List.takeWhile_prefix _).eq_of_length hlength
      rw [hall]
      simp [isSlash]
    · rfl
  · rw [List.isEmpty_eq_false_iff, Ne, List.dropWhile_eq_nil_iff]
    intro hall
    have hslash := hall '/' (by simp)
    simp [isSlash] at hslash

/-- **Behind one front all paths are read, or none is.** -/
theorem Below.readsFront_append_iff (hpath : Below path)
    (hne : isWebScheme scheme → ∀ rest ∈ authorityStart? scheme cs, rest ≠ []) (marked : Bool) :
    ReadsFront scheme marked (cs ++ '/' :: path) ↔ ReadsFront scheme true cs := by
  unfold ReadsFront
  cases hstart : authorityStart? scheme cs with
  | none =>
    refine iff_of_true (fun rest hrest => ?_) (by simp)
    obtain ⟨hweb, rfl⟩ := authorityStart?_append_of_none hstart hpath.slashed hrest
    exact hpath.reads scheme _ hweb
  | some rest =>
    rw [authorityStart?_append_of_some hstart fun hweb => hne hweb rest hstart]
    obtain ⟨hfirst, hsecond⟩ := spanAuthority_append_slash (isSpecialScheme scheme) rest path
    simp [hfirst, hsecond]

theorem Below.exists_parseAfterScheme_iff (hpath : Below path)
    (hne : isWebScheme scheme → ∀ rest ∈ authorityStart? scheme (front cs), rest ≠ []) :
    (∃ u, parseAfterScheme scheme (cs ++ '/' :: path) = .ok u) ↔ ReadsFront scheme true (front cs) := by
  rw [Url.exists_parseAfterScheme_iff]
  cases hmarked : cs.any endsPath with
  | true =>
    have hmark : ∃ c ∈ cs, c = '?' ∨ c = '#' := by simpa [endsPath] using hmarked
    rw [front, splitTail_append_fst hmark, List.any_append, hmarked, Bool.true_or, front]
  | false =>
    have hunmarked := not_any_endsPath_iff.1 hmarked
    have htext : ∀ c ∈ cs ++ '/' :: path, c ≠ '?' ∧ c ≠ '#' := by
      refine List.forall_mem_append.2 ⟨hunmarked, List.forall_mem_cons.2 ⟨by decide, hpath.unmarked⟩⟩
    have hfront : front (cs ++ '/' :: path) = front cs ++ '/' :: path := by
      rw [front, front, splitTail_of_forall htext, splitTail_of_forall hunmarked, dropBreaks_append,
        dropBreaks_cons_slash, hpath.dropBreaks_eq]
    rw [hfront]
    exact hpath.readsFront_append_iff hne _

/-- The host of a web address is not empty. -/
theorem ne_nil_of_readsAuthority {followed : Bool} (hweb : isWebScheme scheme)
    (h : ReadsAuthority scheme followed (spanAuthority (isSpecialScheme scheme) rest).1) : rest ≠ [] := by
  rintro rfl
  have hfile : isFileScheme scheme = false := by
    by_contra hfile
    obtain rfl : scheme = "file".toList := by simpa [isFileScheme] using hfile
    exact absurd hweb (by decide)
  have hspecial : isSpecialScheme scheme := by simp [isSpecialScheme, hweb]
  rw [ReadsAuthority, hfile, if_neg (by decide)] at h
  obtain ⟨a, ha⟩ := h
  have hempty : parseAuthority scheme followed (spanAuthority (isSpecialScheme scheme) []).1 = .error .emptyHost :=
    parseAuthority_of_special hspecial followed rfl rfl
  rw [hempty] at ha
  cases ha

/-- **Behind the root of a URL all paths are read, or none is.** -/
theorem Divided.exists_parse_append_iff {body blanks : List Char} {u : Url} (h : Divided cs scheme body blanks)
    (hu : parseChars cs = .ok u) (hpath : Below path) :
    (∃ v, parseChars (cs ++ '/' :: path) = .ok v) ↔ ReadsFront scheme true (front (body ++ blanks)) := by
  rw [h.before _ hpath.ends]
  refine hpath.exists_parseAfterScheme_iff fun hweb rest hrest => ?_
  have hbody := (exists_parseAfterScheme_iff scheme body).1 ⟨u, h.alone ▸ hu⟩
  obtain ⟨first, hfirst⟩ : ∃ first, authorityStart? scheme (front body) = some first := by
    simp [authorityStart?, hweb]
  have hne : first ≠ [] := ne_nil_of_readsAuthority hweb (hbody first hfirst)
  obtain ⟨more, hmore⟩ := front_isPrefix body blanks
  rw [← hmore, authorityStart?_append_of_some hfirst fun _ => hne] at hrest
  rw [← Option.some.inj hrest]
  simp [hne]

/-! ## plain ends -/

theorem eq_of_splitCredentials (h : splitCredentials cs = (some [], [])) : cs = ['@'] := by
  unfold splitCredentials at h
  simp only at h
  split at h
  next hlength =>
    obtain ⟨htake, hback⟩ := Prod.mk.inj h
    rw [List.reverse_eq_nil_iff] at hback
    rw [hback] at hlength htake
    have hone : cs.length = 1 := by
      have hshort := List.take_eq_nil_iff.1 (Option.some.inj htake)
      rcases hshort with hshort | hempty
      · simp only [List.length_nil] at hlength hshort
        omega
      · rw [hempty] at hlength
        cases hlength
    obtain ⟨c, rfl⟩ := List.length_eq_one_iff.1 hone
    by_cases hsign : c = '@'
    · rw [hsign]
    · simp [hsign] at hback
  · cases h

/-- Only an at sign alone is read as an authority where nothing follows, and not where a path does. -/
theorem ReadsAuthority.of_not_followed (h : ReadsAuthority scheme false cs) (hsign : cs ≠ ['@']) (followed : Bool) :
    ReadsAuthority scheme followed cs := by
  unfold ReadsAuthority at h ⊢
  split
  next hfile => rwa [if_pos hfile] at h
  next hfile =>
    rw [if_neg hfile] at h
    obtain ⟨a, ha⟩ := h
    refine ⟨a, ha ▸ ?_⟩
    unfold parseAuthority
    rcases hsplit : splitCredentials cs with ⟨given, rest⟩
    have hcheck : (given == some [] && rest.isEmpty) = false := by
      by_contra hcheck
      rw [Bool.not_eq_false, Bool.and_eq_true, beq_iff_eq, List.isEmpty_iff] at hcheck
      exact hsign (eq_of_splitCredentials (hcheck.1 ▸ hcheck.2 ▸ hsplit))
    simp only [Bool.and_assoc, hcheck, Bool.and_false]

/-- A root whose last character is neither trimmed nor an at sign is read with a path behind it. -/
theorem Divided.readsFront {body blanks : List Char} {u : Url} (h : Divided cs scheme body blanks)
    (hu : parseChars cs = .ok u)
    (hplain : ∀ c ∈ (dropBreaks cs).getLast?, isTrimmed c = false ∧ c ≠ '@') :
    ReadsFront scheme true (front (body ++ blanks)) := by
  have hbody := (exists_parseAfterScheme_iff scheme body).1 ⟨u, h.alone ▸ hu⟩
  have hsuffix : dropBreaks body ++ dropBreaks blanks <:+ dropBreaks cs := by
    rw [← dropBreaks_append]
    exact h.suffix.filter _
  have hlast : ∀ (ds : List Char), ds <:+ dropBreaks cs → ∀ c ∈ ds.getLast?, isTrimmed c = false ∧ c ≠ '@' := by
    rintro ds ⟨before, hbefore⟩ c hc
    refine hplain c ?_
    rw [← hbefore, List.getLast?_append, Option.mem_def.1 hc]
    rfl
  have hblanks : dropBreaks blanks = [] := by
    by_contra hne
    obtain ⟨c, hc⟩ := Option.ne_none_iff_exists'.1 (mt List.getLast?_eq_none_iff.1 hne)
    have hmem : c ∈ blanks := (List.mem_filter.1 (List.mem_of_getLast? hc)).1
    have htrimmed := (hlast _ ((List.suffix_append _ _).trans hsuffix) c hc).1
    rw [h.blank c hmem] at htrimmed
    cases htrimmed
  have hfront : front (body ++ blanks) = front body := by
    rw [front_eq, front_eq, dropBreaks_append, hblanks, List.append_nil]
  rw [hfront]
  intro rest hrest
  have hread := hbody rest hrest
  rw [Bool.true_or]
  cases hfollowed : body.any endsPath || !(spanAuthority (isSpecialScheme scheme) rest).2.isEmpty with
  | true => rwa [hfollowed] at hread
  | false =>
    rw [hfollowed] at hread
    refine hread.of_not_followed ?_ true
    -- the authority is all there is, so that a sign at its end is the last character of the root
    rw [Bool.or_eq_false_iff, Bool.not_eq_false', List.isEmpty_iff] at hfollowed
    have htext : (spanAuthority (isSpecialScheme scheme) rest).1 = rest := by
      have hnothing := hfollowed.2
      simp only [spanAuthority, List.span_eq_takeWhile_dropWhile] at hnothing ⊢
      rw [List.takeWhile_eq_self_iff]
      exact List.dropWhile_eq_nil_iff.1 hnothing
    have hbefore : rest <:+ dropBreaks cs := by
      have hfront : front body = dropBreaks body := by
        rw [front, splitTail_of_forall (not_any_endsPath_iff.1 hfollowed.1)]
      rw [hblanks, List.append_nil, ← hfront] at hsuffix
      exact (isSuffix_of_authorityStart? hrest).trans hsuffix
    rw [htext]
    rintro rfl
    exact (hlast _ hbefore '@' rfl).2 rfl

/-! ## names behind a root -/

/-- A text without the signs of credentials and of a port is a host. -/
theorem parseAuthority_of_opaque {host : Host} (hscheme : isSpecialScheme scheme = false)
    (hsplit : splitCredentials cs = (none, cs)) (hhost : spanHost false cs = (cs, []))
    (hparse : Host.parseOpaque cs = .ok host) (followed : Bool) :
    parseAuthority scheme followed cs = .ok (⟨[], [], host, none⟩, []) := by
  have hgiven : ((none : Option (List Char)) == some []) = false := rfl
  have hnobody : credentials ((none : Option (List Char)).getD []) = ([], []) := rfl
  have hport : parsePort scheme [] = .ok none := rfl
  unfold parseAuthority
  simp only [hsplit, hhost, hparse, hscheme, hgiven, hnobody]
  simp [hport, bind, Except.bind, pure, Except.pure]

theorem below_nil : Below [] where
  dropBreaks_eq := rfl
  unmarked := by simp
  ends := ⟨'/', rfl, by decide⟩
  slashed _ := rfl
  reads scheme followed hweb := by
    unfold ReadsAuthority
    split
    · exact .inr (.inl rfl)
    next hfile =>
      have hspecial : isSpecialScheme scheme = false := by simp [isSpecialScheme, hweb, hfile]
      exact ⟨_, parseAuthority_of_opaque hspecial rfl rfl rfl followed⟩

end Url

open Url (Below)

/-- Where the name of a kind is taken for an authority, it is one. -/
theorem Kind.readsAuthority_className (kind : Kind) {scheme : List Char} (hweb : Url.isWebScheme scheme = false)
    (followed : Bool) : Url.ReadsAuthority scheme followed kind.className.toList := by
  unfold Url.ReadsAuthority
  split
  · have hhost : Url.Host.parse kind.className.toList = .ok (.name kind.className.toList) := by
      cases kind <;> with_unfolding_all rfl
    exact .inr (.inr ⟨_, hhost⟩)
  next hfile =>
    have hspecial : Url.isSpecialScheme scheme = false := by simp [Url.isSpecialScheme, hweb, hfile]
    cases kind <;> exact ⟨_, Url.parseAuthority_of_opaque hspecial rfl rfl rfl followed⟩

namespace Gateway

/-- What a route adds to its root is a slash and a text that may stand behind one. -/
theorem exists_ending (kind : Kind) (function : Function) :
    ∃ path, ending kind function = '/' :: path ∧ Below path := by
  have hkind := kind.isName_className
  have hfunction := function.isName_name
  have hslash : ∀ special, ∀ c ∈ kind.className.toList, Url.isSlash special c = false := by
    intro special c hc
    have hends := (hkind.ends c hc).1
    simp only [Url.isSlash, Bool.true_and, Bool.or_eq_false_iff] at hends ⊢
    simp [hends]
  refine ⟨_, rfl, ⟨?_, ?_, ?_, fun special => ?_, fun scheme followed hweb => ?_⟩⟩
  · rw [Url.dropBreaks_append, Url.dropBreaks_cons_slash, hkind.dropBreaks_eq, hfunction.dropBreaks_eq]
  · exact fun c hc => unmarked_ending kind function c (List.mem_cons_of_mem _ hc)
  · obtain ⟨c, hc⟩ := Option.ne_none_iff_exists'.1 (mt List.getLast?_eq_none_iff.1 hfunction.ne_nil)
    have hlarge := (hfunction.ends c (List.mem_of_getLast? hc)).2.2.2
    have hname : '/' :: (kind.className.toList ++ '/' :: function.name.toList) =
        ('/' :: (kind.className.toList ++ ['/'])) ++ function.name.toList := by
      simp
    refine ⟨c, ?_, by simpa [Url.isTrimmed] using hlarge⟩
    rw [hname, List.getLast?_append_of_ne_nil _ hfunction.ne_nil]
    exact hc
  · obtain ⟨c, rest, hname⟩ := List.exists_cons_of_ne_nil hkind.ne_nil
    rw [hname, List.cons_append, Url.slashed?, if_neg]
    simp [hslash special c (by simp [hname])]
  · rw [(Url.spanAuthority_append_slash _ _ _).1]
    have htext : (Url.spanAuthority (Url.isSpecialScheme scheme) kind.className.toList).1 = kind.className.toList := by
      rw [Url.spanAuthority, List.span_eq_takeWhile_dropWhile, List.takeWhile_eq_self_iff]
      intro c hc
      simp [hslash _ c hc, (hkind.ends c hc).2.1, (hkind.ends c hc).2.2.1]
    rw [htext]
    exact kind.readsAuthority_className hweb followed

/-! ## gateways -/

/-- Every function of every entity has a URL. -/
def Composes (g : Gateway) : Prop := ∀ kind function id, ∃ url, g.route kind function id = .ok url

/-- An identifier does not decide whether a route has a URL. -/
theorem exists_route_iff (g : Gateway) (kind : Kind) (function : Function) (id : Option Identifier) :
    (∃ url, g.route kind function id = .ok url) ↔
      ∃ url, Url.parseChars (g.apiRoot.toList ++ ending kind function) = .ok url := by
  have htext : Url.parse (g.routeText kind function) = Url.parseChars (g.apiRoot.toList ++ ending kind function) := by
    simp [Url.parse, routeText, ending]
  unfold route
  rw [htext]
  cases Url.parseChars (g.apiRoot.toList ++ ending kind function) with
  | error e => simp [bind, Except.bind]
  | ok url => cases id <;> simp [bind, Except.bind, pure, Except.pure]

theorem exists_parse_root {e : Config.Endpoint} {g : Gateway} (hg : ofEndpoint e = .ok g) :
    ∃ u, Url.parseChars g.apiRoot.toList = .ok u := by
  obtain ⟨base, -, hg⟩ := exists_of_bind_eq_ok hg
  obtain ⟨u, hu, hg⟩ := exists_of_bind_eq_ok hg
  obtain ⟨headers, -, hg⟩ := exists_of_bind_eq_ok hg
  rw [← Except.ok.inj hg]
  exact ⟨u, parse_of_parseUrl hu⟩

variable {e : Config.Endpoint} {g : Gateway}

/-- A route has a URL exactly if the root of all routes is one with a slash behind it. -/
theorem exists_route_iff_of_ofEndpoint (hg : ofEndpoint e = .ok g) (kind : Kind) (function : Function)
    (id : Option Identifier) :
    (∃ url, g.route kind function id = .ok url) ↔ ∃ u, Url.parse (g.apiRoot ++ "/") = .ok u := by
  obtain ⟨u, hu⟩ := exists_parse_root hg
  obtain ⟨scheme, body, blanks, hdivided⟩ := Url.exists_divided hu
  obtain ⟨path, hpath, hbelow⟩ := exists_ending kind function
  have hslash : Url.parse (g.apiRoot ++ "/") = Url.parseChars (g.apiRoot.toList ++ ['/']) := by
    simp [Url.parse]
  rw [exists_route_iff, hpath, hdivided.exists_parse_append_iff hu hbelow, hslash,
    hdivided.exists_parse_append_iff hu Url.below_nil]

/-- The routes of a gateway all have URLs, or none has. -/
theorem composes_iff (hg : ofEndpoint e = .ok g) : g.Composes ↔ ∃ u, Url.parse (g.apiRoot ++ "/") = .ok u := by
  constructor
  · intro h
    exact (exists_route_iff_of_ofEndpoint hg .system .list none).1 (h .system .list none)
  · intro h kind function id
    exact (exists_route_iff_of_ofEndpoint hg kind function id).2 h

theorem exists_route_error (hg : ofEndpoint e = .ok g) (h : ¬ g.Composes) (kind : Kind) (function : Function)
    (id : Option Identifier) : ∃ cause, g.route kind function id = .error cause := by
  rw [composes_iff hg, ← exists_route_iff_of_ofEndpoint hg kind function id] at h
  cases hroute : g.route kind function id with
  | error cause => exact ⟨cause, rfl⟩
  | ok url => exact absurd ⟨url, hroute⟩ h

/-- A root with a plain end has all its routes. -/
theorem composes_of_plain (hg : ofEndpoint e = .ok g)
    (hplain : ∀ c ∈ (Url.dropBreaks g.apiRoot.toList).getLast?, 32 < c.toNat ∧ c ≠ '@') : g.Composes := by
  obtain ⟨u, hu⟩ := exists_parse_root hg
  obtain ⟨scheme, body, blanks, hdivided⟩ := Url.exists_divided hu
  intro kind function id
  obtain ⟨path, hpath, hbelow⟩ := exists_ending kind function
  rw [exists_route_iff, hpath, hdivided.exists_parse_append_iff hu hbelow]
  refine hdivided.readsFront hu fun c hc => ?_
  obtain ⟨hlarge, hsign⟩ := hplain c hc
  exact ⟨by simpa [Url.isTrimmed] using hlarge, hsign⟩

theorem composes_of_validate (hvalid : e.validate = .ok ()) (hg : ofEndpoint e = .ok g) : g.Composes := by
  obtain ⟨u, auth, a, -, -, hrooted⟩ := exists_rooted hvalid hg
  exact fun kind function id => ⟨_, hrooted.route kind function id⟩

/-! ## what outcomes never tell -/

theorem interpretRead_ne_invalidUrl (target : String) (o : Http.Outcome) (cause : Url.Error) :
    interpretRead target o ≠ .error (.invalidUrl cause) := by
  intro h
  cases (interpretRead_eq_iff target o _).1 h

theorem interpretList_ne_invalidUrl (target : String) (o : Http.Outcome) (cause : Url.Error) :
    interpretList target o ≠ .error (.invalidUrl cause) := by
  unfold interpretList
  cases hread : interpretRead target o with
  | error error =>
    intro h
    obtain rfl := Except.error.inj h
    exact interpretRead_ne_invalidUrl target o cause hread
  | ok document =>
    cases hdocument : identifiersOfDocument document <;> simp [Except.bind, Except.mapError, hdocument]

theorem noUrlWarning_ne_warning (id id' : Identifier) (function : Function) (more : List (String × Log.Field))
    (message : String) : noUrlWarning id ≠ warning id' function more message := by
  simp [noUrlWarning, warning, Log.Event.plain]

theorem noUrlWarning_notMem (id : Identifier) (function : Function) (o : Http.Outcome) :
    noUrlWarning id ∉ (interpretInvocation id function o).2 := by
  have hother : ∀ more message, noUrlWarning id ∉ [warning id function more message] := by
    intro more message hmem
    exact noUrlWarning_ne_warning id id function more message (List.mem_singleton.1 hmem)
  cases o with
  | unreachable => exact hother _ _
  | response r =>
    unfold interpretInvocation
    simp only
    split
    · exact hother _ _
    split
    · exact hother _ _
    split
    · split
      · simp
      · exact hother _ _
    · simp

end Gateway

/-! ## requests without a URL -/

/-- The answer tells that the request has no URL: a read fails for it, and an invocation warns of it. -/
def Request.LacksUrl : (r : Request) → Answer r.Reply → Prop
  | .fetch _ _, a => ∃ cause, a.reply = .error (.invalidUrl cause)
  | .list _, a => ∃ cause, a.reply = .error (.invalidUrl cause)
  | .call id _, a => Gateway.noUrlWarning id ∈ a.events
  | .execute id, a => Gateway.noUrlWarning id ∈ a.events

/-- The answer to a request that has no URL: it comes at once, and an invocation has no result. -/
def Request.dropped (cause : Url.Error) : (r : Request) → Answer r.Reply
  | .fetch _ _ => ⟨0, .error (.invalidUrl cause), []⟩
  | .list _ => ⟨0, .error (.invalidUrl cause), []⟩
  | .call id _ => ⟨0, none, [Gateway.noUrlWarning id]⟩
  | .execute id => ⟨0, none, [Gateway.noUrlWarning id]⟩

theorem Request.lacksUrl_dropped (cause : Url.Error) (r : Request) : r.LacksUrl (r.dropped cause) := by
  cases r with
  | fetch kind id => exact ⟨cause, rfl⟩
  | list kind => exact ⟨cause, rfl⟩
  | call id args => exact List.mem_singleton_self _
  | execute id => exact List.mem_singleton_self _

namespace Connection

variable {π α : Type} [Http.Peer π] {c : Connection π}

theorem exists_of_exchange {r : Http.Request} {interpret : Http.Outcome → α × List Log.Event} {a : Answer α}
    (h : (c.exchange r interpret).1 = some a) : ∃ o, (a.reply, a.events) = interpret o := by
  obtain ⟨o, -, hrel⟩ := c.exchange_exchanged r interpret
  rw [h] at hrel
  cases hrel with
  | some ha => exact ⟨_, ha⟩

theorem exists_of_read (h : c.gateway.Composes) {kind : Kind} {function : Function} {id : Option Identifier}
    {interpret : String → Http.Outcome → Except ClientError α} {a : Answer (Except ClientError α)}
    (ha : (c.read kind function id interpret).1 = some a) : ∃ target o, a.reply = interpret target o := by
  obtain ⟨url, hurl⟩ := h kind function id
  rw [read, hurl] at ha
  obtain ⟨o, ho⟩ := exists_of_exchange ha
  exact ⟨url.text, o, congrArg Prod.fst ho⟩

theorem noUrlWarning_notMem_of_invoke (h : c.gateway.Composes) {function : Function} {id : Identifier}
    {args : Json.Value} {a : Answer (Option Payload)} (ha : (c.invoke function id args).1 = some a) :
    Gateway.noUrlWarning id ∉ a.events := by
  obtain ⟨url, hurl⟩ := h .process function (some id)
  rw [invoke, hurl] at ha
  obtain ⟨o, ho⟩ := exists_of_exchange ha
  have hevents : a.events = (Gateway.interpretInvocation id function o).2 := congrArg Prod.snd ho
  rw [hevents]
  exact Gateway.noUrlWarning_notMem id function o

/-- Where all routes have URLs, no answer tells that one is missing. -/
theorem not_lacksUrl (h : c.gateway.Composes) (r : Request) {a : Answer r.Reply}
    (ha : (Remote.answer c r).1 = some a) : ¬ r.LacksUrl a := by
  simp only [Remote.answer] at ha
  cases r with
  | fetch kind id =>
    simp only [answer] at ha
    obtain ⟨target, o, hreply⟩ := exists_of_read h ha
    rintro ⟨cause, hcause⟩
    exact Gateway.interpretRead_ne_invalidUrl target o cause (hreply.symm.trans hcause)
  | list kind =>
    simp only [answer] at ha
    obtain ⟨target, o, hreply⟩ := exists_of_read h ha
    rintro ⟨cause, hcause⟩
    exact Gateway.interpretList_ne_invalidUrl target o cause (hreply.symm.trans hcause)
  | call id args =>
    simp only [answer] at ha
    exact noUrlWarning_notMem_of_invoke h ha
  | execute id =>
    simp only [answer] at ha
    exact noUrlWarning_notMem_of_invoke h ha

/-- A request that has no URL is answered at once, and nothing is sent. -/
theorem answer_of_route_error (h : ∀ kind function id, ∃ cause, c.gateway.route kind function id = .error cause)
    (r : Request) : ∃ cause, Remote.answer c r = (some (r.dropped cause), c) := by
  cases r with
  | fetch kind id =>
    obtain ⟨cause, hcause⟩ := h kind .profile id
    exact ⟨cause, by simp only [Remote.answer, answer, read, hcause, Request.dropped]⟩
  | list kind =>
    obtain ⟨cause, hcause⟩ := h kind .list none
    exact ⟨cause, by simp only [Remote.answer, answer, read, hcause, Request.dropped]⟩
  | call id args =>
    obtain ⟨cause, hcause⟩ := h .process .call (some id)
    exact ⟨cause, by simp only [Remote.answer, answer, invoke, hcause, Request.dropped]⟩
  | execute id =>
    obtain ⟨cause, hcause⟩ := h .process .execute (some id)
    exact ⟨cause, by simp only [Remote.answer, answer, invoke, hcause, Request.dropped]⟩

end Connection

/-! ## what construction surfaces -/

namespace Gateway

/-- **A root can be accepted that no route can be composed behind.** The routes of a gateway have URLs exactly if the
root has one with a slash behind it, which is not the text that is checked. A root with a plain end has, and so has
that of a valid endpoint. If the routes have URLs, no answer of a connection tells that one is missing; otherwise each
of its answers does, at once, and nothing is sent. -/
theorem roots_surface {e : Config.Endpoint} {g : Gateway} (hg : ofEndpoint e = .ok g) :
    (g.Composes ↔ ∃ u, Url.parse (g.apiRoot ++ "/") = .ok u) ∧
    ((∀ c ∈ (Url.dropBreaks g.apiRoot.toList).getLast?, 32 < c.toNat ∧ c ≠ '@') → g.Composes) ∧
    (e.validate = .ok () → g.Composes) ∧
    ∀ {π : Type} [Http.Peer π] (peer : π),
      (g.Composes → ∀ (r : Request) a, (Remote.answer (Connection.mk g peer) r).1 = some a → ¬ r.LacksUrl a) ∧
      (¬ g.Composes → (∀ kind function id, ∃ cause, g.route kind function id = .error cause) ∧
        ∀ r : Request, ∃ cause, r.LacksUrl (r.dropped cause) ∧
          Remote.answer (Connection.mk g peer) r = (some (r.dropped cause), Connection.mk g peer)) := by
  refine ⟨composes_iff hg, composes_of_plain hg, fun hvalid => composes_of_validate hvalid hg, fun peer => ⟨?_, ?_⟩⟩
  · exact fun h r a ha => Connection.not_lacksUrl (c := ⟨g, peer⟩) h r ha
  · intro h
    have hnone := exists_route_error hg h
    refine ⟨hnone, fun r => ?_⟩
    obtain ⟨cause, hcause⟩ := Connection.answer_of_route_error (c := ⟨g, peer⟩) hnone r
    exact ⟨cause, r.lacksUrl_dropped cause, hcause⟩

/-- Behind a port and a blank, which are accepted, every request is dropped. -/
theorem roots_blank_dropped :
    let g : Gateway := ⟨"http://robot.test:81 ", []⟩
    ofEndpoint { baseUrl := "http://robot.test", apiPrefix := ":81 " } = .ok g ∧
      ∀ {π : Type} [Http.Peer π] (peer : π) (r : Request), ∃ cause, r.LacksUrl (r.dropped cause) ∧
        Remote.answer (Connection.mk g peer) r = (some (r.dropped cause), Connection.mk g peer) := by
  intro g
  have hg : ofEndpoint { baseUrl := "http://robot.test", apiPrefix := ":81 " } =
      .ok ⟨"http://robot.test:81 ", []⟩ := by
    with_unfolding_all rfl
  have hslash : Url.parse ("http://robot.test:81 " ++ "/") = .error .invalidPort := by
    with_unfolding_all rfl
  obtain ⟨hcomposes, -, -, hanswers⟩ := roots_surface hg
  have hnone : ¬ g.Composes := by
    intro h
    obtain ⟨u, hu⟩ := hcomposes.1 h
    cases hslash.symm.trans hu
  exact ⟨hg, fun peer => ((hanswers peer).2 hnone).2⟩

/-- Not every gateway has URLs for its routes. -/
theorem roots_blank_accepted :
    ¬ ∀ (e : Config.Endpoint) (g : Gateway), ofEndpoint e = .ok g →
      ∀ kind function id, ∃ url, g.route kind function id = .ok url := by
  intro hall
  have hg : ofEndpoint { baseUrl := "http://robot.test", apiPrefix := ":81 " } =
      .ok ⟨"http://robot.test:81 ", []⟩ := by
    with_unfolding_all rfl
  obtain ⟨url, hurl⟩ := hall _ _ hg .system .list none
  have hroute : (⟨"http://robot.test:81 ", []⟩ : Gateway).route .system .list none = .error .invalidPort := by
    with_unfolding_all rfl
  rw [hroute] at hurl
  cases hurl

end Gateway

end ProcessGraph
