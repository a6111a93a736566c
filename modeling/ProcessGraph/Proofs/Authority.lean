import Mathlib.Data.List.TakeDrop
import Mathlib.Data.List.TakeWhile
import ProcessGraph.Url.Parser

/-!
# Web addresses and what follows their authority

* `Url.isInner`: the characters that stand in a written authority.
* `Url.OpensTail`: what may follow an authority.
* `Url.authority?`, `Url.located`: the authority that a text spells, and the URL of it with a path, query and
  fragment.
* `Url.parseChars_located`: whatever follows, the text before it decides the authority.
* `Url.inner_of_parseChars`: the authority of a URL that was read is written in inner characters.
-/

namespace ProcessGraph

open Text (dropTrailing)

/-! ## ends of lists -/

theorem Text.dropTrailing_append {α : Type} {p : α → Bool} {xs ys : List α} (hxs : xs ≠ [])
    (h : ∀ x ∈ xs.getLast?, ¬ p x) : dropTrailing p (xs ++ ys) = xs ++ dropTrailing p ys := by
  obtain ⟨front, last, rfl⟩ := List.eq_nil_or_concat xs |>.resolve_left hxs
  have hlast : p last = false := by simpa using h last (by simp)
  rw [dropTrailing, dropTrailing, List.reverse_append, List.dropWhile_append]
  split
  next hys =>
    rw [List.isEmpty_iff.1 hys]
    simp [hlast]
  · simp

theorem Text.dropTrailing_isPrefix {α : Type} (p : α → Bool) (xs : List α) : dropTrailing p xs <+: xs := by
  have h : xs.reverse.dropWhile p <:+ xs.reverse := List.dropWhile_suffix p
  simpa [dropTrailing] using List.reverse_prefix.2 h

/-! ## escapes -/

/-- What a percent-encoded text is written in: the escapes, and the characters that stand for themselves. -/
theorem Text.Percent.forall_mem_encode {reserved : Char → Bool} {P : Char → Prop} (hsign : P '%')
    (hdigit : ∀ n < 16, P (Hex.upperDigit n)) (hkept : ∀ c : Char, c.toNat < 128 → reserved c = false → P c)
    {cs : List Char} : ∀ c ∈ encode reserved cs, P c := by
  intro c hc
  obtain ⟨d, -, hc⟩ := List.mem_flatMap.1 hc
  split at hc
  · obtain ⟨b, -, hc⟩ := List.mem_flatMap.1 hc
    have hb := b.toNat_lt
    simp only [encodeByte, List.mem_cons, List.not_mem_nil, or_false] at hc
    rcases hc with rfl | rfl | rfl
    · exact hsign
    · exact hdigit _ (by omega)
    · exact hdigit _ (by omega)
  next h =>
    obtain rfl := List.mem_singleton.1 hc
    simp only [Bool.or_eq_true, decide_eq_true_eq, not_or, Bool.not_eq_true, Nat.not_le, ge_iff_le] at h
    exact hkept c h.1 h.2

/-! ## results -/

theorem exists_of_map_eq_ok {ε α β : Type} {x : Except ε α} {f : α → β} {b : β} (h : x.map f = .ok b) :
    ∃ a, x = .ok a ∧ f a = b := by
  cases x with
  | error e => cases h
  | ok a => exact ⟨a, rfl, Except.ok.inj h⟩

theorem exists_of_bind_eq_ok {ε α β : Type} {x : Except ε α} {f : α → Except ε β} {b : β}
    (h : x.bind f = .ok b) : ∃ a, x = .ok a ∧ f a = .ok b := by
  cases x with
  | error e => cases h
  | ok a => exact ⟨a, rfl, h⟩

namespace Url

/-! ## inner characters -/

/-- May the character stand in a written authority? It ends nothing, and it is not dropped at an end. -/
def isInner (c : Char) : Bool := 32 < c.toNat && !(isSlash true c || c = '?' || c = '#')

/-- The text may follow an authority: it begins a path, a query or a fragment, if anything. -/
def OpensTail (tail : List Char) : Prop := ∀ c ∈ tail.head?, c = '/' ∨ c = '?' ∨ c = '#'

theorem OpensTail.of_isPrefix {tail tail' : List Char} (h : OpensTail tail) (hfront : tail' <+: tail) :
    OpensTail tail' := by
  intro c hc
  obtain ⟨rest, rfl⟩ := hfront
  refine h c ?_
  cases tail' with
  | nil => cases hc
  | cons d tail' => exact hc

theorem not_isBreak_of_isInner {c : Char} (h : isInner c) : isBreak c = false := by
  have hc : 32 < c.toNat := by simpa using (Bool.and_eq_true_iff.1 h).1
  have htab : c ≠ '\t' := by rintro rfl; simp at hc
  have hnewline : c ≠ '\n' := by rintro rfl; simp at hc
  have hreturn : c ≠ '\r' := by rintro rfl; simp at hc
  simp [isBreak, htab, hnewline, hreturn]

theorem ends_of_isInner {c : Char} (h : isInner c) : isSlash true c = false ∧ c ≠ '?' ∧ c ≠ '#' := by
  simp only [isInner, Bool.and_eq_true, Bool.not_eq_true', Bool.or_eq_false_iff, decide_eq_false_iff_not] at h
  exact ⟨h.2.1.1, h.2.1.2, h.2.2⟩

/-! ## reading an authority -/

/-- The authority that a text spells. -/
def authority? (scheme cs : List Char) : Except Error Authority := (parseAuthority scheme false cs).map Prod.fst

theorem splitCredentials_snd_subset (cs : List Char) : (splitCredentials cs).2 ⊆ cs := by
  intro c hc
  unfold splitCredentials at hc
  simp only at hc
  split at hc
  · exact List.mem_reverse.1 (List.takeWhile_subset _ (List.mem_reverse.1 hc))
  · exact hc

theorem spanHost_append (inside : Bool) (cs : List Char) : (spanHost inside cs).1 ++ (spanHost inside cs).2 = cs := by
  induction cs generalizing inside with
  | nil => rfl
  | cons c r ih =>
    unfold spanHost
    split
    · rfl
    · simp [ih]

/-- The parts of an authority of a web address: the host must not be empty. -/
theorem parseAuthority_of_special {scheme : List Char} (hscheme : isSpecialScheme scheme) (followed : Bool)
    {cs rest host port : List Char} {given : Option (List Char)} (hsplit : splitCredentials cs = (given, rest))
    (hhost : spanHost false rest = (host, port)) :
    parseAuthority scheme followed cs =
      if host = [] then .error .emptyHost
      else
        (Host.parse host).bind fun h =>
          (parsePort scheme ((port.drop 1).takeWhile (· ≠ '\\'))).map fun p =>
            (⟨(credentials (given.getD [])).1, (credentials (given.getD [])).2, h, p⟩,
              (port.drop 1).dropWhile (· ≠ '\\')) := by
  unfold parseAuthority
  simp only [hsplit, hhost, hscheme, List.span_eq_takeWhile_dropWhile]
  by_cases hempty : host = []
  · subst hempty
    split <;> rfl
  · have hne : host.isEmpty = false := by simp [hempty]
    have hrest : rest.isEmpty = false := by
      have happend := spanHost_append false rest
      rw [hhost] at happend
      simp [← happend, hempty]
    simp only [hempty, hne, hrest, Bool.and_false, Bool.false_and, Bool.false_eq_true, if_false, if_true]
    cases Host.parse host with
    | error e => rfl
    | ok h =>
      cases parsePort scheme ((port.drop 1).takeWhile (· ≠ '\\')) with
      | error e => simp [Except.bind, Except.map, bind]
      | ok p => simp [Except.bind, Except.map, bind, pure, Except.pure]

/-- A written authority leaves nothing to the path, and what follows it does not matter. -/
theorem parseAuthority_of_isInner {scheme cs : List Char} (hscheme : isSpecialScheme scheme)
    (h : ∀ c ∈ cs, isInner c) (followed : Bool) :
    parseAuthority scheme followed cs = (authority? scheme cs).map fun a => (a, []) := by
  rcases hsplit : splitCredentials cs with ⟨given, rest⟩
  rcases hhost : spanHost false rest with ⟨host, port⟩
  have hport : ∀ c ∈ port.drop 1, (c ≠ '\\' : Bool) := by
    intro c hc
    have hrest : c ∈ rest := by
      have happend := spanHost_append false rest
      rw [hhost] at happend
      exact happend ▸ List.mem_append_right _ (List.mem_of_mem_drop hc)
    have hcs : c ∈ cs := splitCredentials_snd_subset cs (by rw [hsplit]; exact hrest)
    have hslash := (ends_of_isInner (h c hcs)).1
    simp only [isSlash, Bool.true_and, Bool.or_eq_false_iff, decide_eq_false_iff_not] at hslash
    simpa using hslash.2
  rw [authority?, parseAuthority_of_special hscheme _ hsplit hhost,
    parseAuthority_of_special hscheme _ hsplit hhost, List.takeWhile_eq_self_iff.2 hport,
    List.dropWhile_eq_nil_iff.2 hport]
  split
  · rfl
  · cases Host.parse host with
    | error e => rfl
    | ok h => cases parsePort scheme (port.drop 1) <;> rfl

/-! ## what follows an authority -/

theorem dropBreaks_of_isInner {cs : List Char} (h : ∀ c ∈ cs, isInner c) : dropBreaks cs = cs := by
  rw [dropBreaks, List.filter_eq_self]
  intro c hc
  simp [not_isBreak_of_isInner (h c hc)]

theorem dropBreaks_append (cs ds : List Char) : dropBreaks (cs ++ ds) = dropBreaks cs ++ dropBreaks ds :=
  List.filter_append ..

theorem dropBreaks_cons_slash (cs : List Char) : dropBreaks ('/' :: cs) = '/' :: dropBreaks cs := by
  rfl

/-- The part before query and fragment grows with what is put in front of it. -/
theorem splitTail_append {cs : List Char} (h : ∀ c ∈ cs, c ≠ '?' ∧ c ≠ '#') (tail : List Char) :
    splitTail (cs ++ tail) = (cs ++ (splitTail tail).1, (splitTail tail).2) := by
  have hnumber : ∀ c ∈ cs, (c ≠ '#' : Bool) := fun c hc => by simpa using (h c hc).2
  have hquestion : ∀ c ∈ cs, (c ≠ '?' : Bool) := fun c hc => by simpa using (h c hc).1
  simp only [splitTail, List.span_eq_takeWhile_dropWhile, List.takeWhile_append_of_pos hnumber,
    List.dropWhile_append_of_pos hnumber, List.takeWhile_append_of_pos hquestion,
    List.dropWhile_append_of_pos hquestion]

/-- What follows an authority begins with a slash before its query and fragment, if anything is there. -/
theorem head_splitTail {tail : List Char} (h : OpensTail tail) :
    ∀ c ∈ (dropBreaks (splitTail tail).1).head?, c = '/' := by
  simp only [splitTail, List.span_eq_takeWhile_dropWhile]
  cases tail with
  | nil => simp [dropBreaks]
  | cons d tail =>
    rcases h d rfl with rfl | rfl | rfl
    · simp [dropBreaks, isBreak]
    · simp [dropBreaks]
    · simp [dropBreaks]

/-- The URL of a web address: its authority, and the path, the query and the fragment that follow. -/
def located (scheme : List Char) (tail : List Char) (a : Authority) : Url :=
  let (body, query, fragment) := splitTail (dropTrailing (·.toNat ≤ 32) tail)
  ⟨scheme, a.username, a.password, some a.host, a.port, pathAfterAuthority true (dropBreaks body),
    query.map fun q => Text.Percent.encode (inQuerySet true) (dropBreaks q),
    fragment.map fun f => Text.Percent.encode inFragmentSet (dropBreaks f)⟩

/-- The schemes of web pages. -/
def isPageScheme (scheme : List Char) : Prop := scheme = "http".toList ∨ scheme = "https".toList

theorem scheme?_append {scheme : List Char} (hscheme : isPageScheme scheme) (rest : List Char) :
    scheme? (scheme ++ ':' :: rest) = some scheme := by
  rcases hscheme with rfl | rfl <;> rfl

theorem isSpecialScheme_of_isPageScheme {scheme : List Char} (h : isPageScheme scheme) :
    isSpecialScheme scheme ∧ isFileScheme scheme = false := by
  rcases h with rfl | rfl <;> decide

/-- The front of a web address is not trimmed, and it is all inner characters but for the slashes. -/
theorem trim_located {scheme auth : List Char} (hscheme : isPageScheme scheme) (hne : auth ≠ [])
    (hauth : ∀ c ∈ auth, isInner c) (tail : List Char) :
    trim (scheme ++ ':' :: '/' :: '/' :: (auth ++ tail)) =
      scheme ++ ':' :: '/' :: '/' :: (auth ++ dropTrailing (·.toNat ≤ 32) tail) := by
  have hlast : ∀ c ∈ (scheme ++ ':' :: '/' :: '/' :: auth).getLast?, ¬ (c.toNat ≤ 32 : Bool) := by
    intro c hc
    have hmem : c ∈ auth := by
      have happend : scheme ++ ':' :: '/' :: '/' :: auth = (scheme ++ [':', '/', '/']) ++ auth := by simp
      rw [happend, List.getLast?_append, List.getLast?_eq_some_getLast hne, Option.some_or] at hc
      exact Option.some.inj hc ▸ List.getLast_mem hne
    have hc := (Bool.and_eq_true_iff.1 (hauth c hmem)).1
    simpa using hc
  have hdrop : (scheme ++ ':' :: '/' :: '/' :: (auth ++ tail)).dropWhile (·.toNat ≤ 32) =
      scheme ++ ':' :: '/' :: '/' :: (auth ++ tail) := by
    rcases hscheme with rfl | rfl <;> rfl
  have happend : ∀ ys, scheme ++ ':' :: '/' :: '/' :: (auth ++ ys) = (scheme ++ ':' :: '/' :: '/' :: auth) ++ ys := by
    simp
  rw [trim, hdrop, happend, happend, Text.dropTrailing_append (by simp) hlast]

/-- **Whatever follows an authority, the text before it decides it.** -/
theorem parseChars_located {scheme auth tail : List Char} (hscheme : isPageScheme scheme) (hne : auth ≠ [])
    (hauth : ∀ c ∈ auth, isInner c) (htail : OpensTail tail) :
    parseChars (scheme ++ ':' :: '/' :: '/' :: (auth ++ tail)) =
      (authority? scheme auth).map (located scheme tail) := by
  obtain ⟨hspecial, hfile⟩ := isSpecialScheme_of_isPageScheme hscheme
  have htail := htail.of_isPrefix (Text.dropTrailing_isPrefix (·.toNat ≤ 32) tail)
  rw [parseChars, trim_located hscheme hne hauth]
  unfold located
  generalize dropTrailing (·.toNat ≤ 32) tail = tail at htail
  have hbreaks : dropBreaks (scheme ++ ':' :: '/' :: '/' :: (auth ++ tail)) =
      scheme ++ ':' :: dropBreaks ('/' :: '/' :: (auth ++ tail)) := by
    rcases hscheme with rfl | rfl <;> rfl
  have hcolon : ((scheme ++ ':' :: '/' :: '/' :: (auth ++ tail)).dropWhile (· ≠ ':')).drop 1 =
      '/' :: '/' :: (auth ++ tail) := by
    rcases hscheme with rfl | rfl <;> rfl
  simp only [hbreaks, scheme?_append hscheme, hcolon]
  have hfront : ∀ c ∈ '/' :: '/' :: auth, c ≠ '?' ∧ c ≠ '#' := by
    intro c hc
    rcases List.mem_cons.1 hc with rfl | hc
    · decide
    rcases List.mem_cons.1 hc with rfl | hc
    · decide
    · exact (ends_of_isInner (hauth c hc)).2
  have hsplit : splitTail ('/' :: '/' :: (auth ++ tail)) =
      ('/' :: '/' :: (auth ++ (splitTail tail).1), (splitTail tail).2) := splitTail_append hfront tail
  rw [parseAfterScheme, hsplit]
  have hhead := head_splitTail htail
  generalize splitTail tail = parts at hhead
  obtain ⟨body, query, fragment⟩ := parts
  have hbody : (dropBreaks ('/' :: '/' :: (auth ++ body))).dropWhile (isSlash true) = auth ++ dropBreaks body := by
    rw [← List.cons_append, ← List.cons_append, dropBreaks_append, dropBreaks_cons_slash, dropBreaks_cons_slash,
      dropBreaks_of_isInner hauth]
    obtain ⟨c, auth, rfl⟩ := List.exists_cons_of_ne_nil hne
    have hslash := (ends_of_isInner (hauth c List.mem_cons_self)).1
    have hmark : isSlash true '/' = true := by decide
    simp only [List.cons_append, List.dropWhile_cons, hmark, hslash, if_true, Bool.false_eq_true, if_false]
  have hspan : spanAuthority true (auth ++ dropBreaks body) = (auth, dropBreaks body) := by
    have hkept : ∀ c ∈ auth, (!(isSlash true c || c = '?' || c = '#')) = true :=
      fun c hc => (Bool.and_eq_true_iff.1 (hauth c hc)).2
    rw [spanAuthority, List.span_eq_takeWhile_dropWhile, List.takeWhile_append_of_pos hkept,
      List.dropWhile_append_of_pos hkept]
    cases hbody : dropBreaks body with
    | nil => simp
    | cons c rest =>
      obtain rfl := hhead c (by simp [hbody])
      simp [isSlash]
  simp only [hspecial, hfile, Bool.false_eq_true, if_false, if_true, hbody, parseAfterSlashes, hspan,
    parseAuthority_of_isInner hspecial hauth]
  cases authority? scheme auth <;> rfl

/-! ## what a written authority consists of -/

theorem isInner_digitChar (d : Nat) : isInner (Nat.digitChar d) := by
  by_cases h : d < 16
  · have hdigit : ∀ d < 16, isInner (Nat.digitChar d) := by decide
    exact hdigit d h
  · have hne : ∀ k < 16, d ≠ k := by omega
    have hstar : Nat.digitChar d = '*' := by simp [Nat.digitChar, hne]
    rw [hstar]
    decide

theorem isInner_of_mem_toDigitsCore {base fuel n : Nat} {ds : List Char} (hds : ∀ c ∈ ds, isInner c) :
    ∀ c ∈ Nat.toDigitsCore base fuel n ds, isInner c := by
  induction fuel generalizing n ds with
  | zero => exact hds
  | succ fuel ih =>
    have hcons : ∀ c ∈ Nat.digitChar (n % base) :: ds, isInner c :=
      List.forall_mem_cons.2 ⟨isInner_digitChar _, hds⟩
    unfold Nat.toDigitsCore
    simp only
    split
    · exact hcons
    · exact ih hcons

theorem isInner_of_mem_toDigits (base n : Nat) : ∀ c ∈ Nat.toDigits base n, isInner c :=
  isInner_of_mem_toDigitsCore (by simp)

theorem isInner_of_mem_encode (cs : List Char) : ∀ c ∈ Text.Percent.encode inUserinfoSet cs, isInner c := by
  refine Text.Percent.forall_mem_encode (by decide) (by decide) fun c hascii hkept => ?_
  simp [inUserinfoSet, inPathSet, inFragmentSet, Host.isControl] at hkept
  have hblank : c.toNat ≠ 32 := fun h => hkept.1.1.2.1 (Char.toNat_inj.1 h)
  have hlarge : 32 < c.toNat := by omega
  simp [isInner, isSlash, hkept, hlarge]

theorem isInner_of_not_isForbidden {c : Char} (h : Domain.isForbidden c = false) : isInner c := by
  simp [Domain.isForbidden] at h
  simp [isInner, isSlash, h]

theorem isInner_joined (ps : List Nat) : ∀ c ∈ Ipv6.joined ps, isInner c := by
  induction ps with
  | nil => simp [Ipv6.joined]
  | cons p rest ih =>
    cases rest with
    | nil => exact isInner_of_mem_toDigits 16 p
    | cons q rest =>
      intro c hc
      rw [Ipv6.joined] at hc
      rcases List.mem_append.1 hc with hc | hc
      · exact isInner_of_mem_toDigits 16 p c hc
      rcases List.mem_cons.1 hc with rfl | hc
      · decide
      · exact ih c hc

theorem isInner_ipv6_chars (ps : List Nat) : ∀ c ∈ Ipv6.chars ps, isInner c := by
  unfold Ipv6.chars
  simp only
  split
  · exact isInner_joined ps
  · intro c hc
    rcases List.mem_append.1 hc with hc | hc
    · exact isInner_joined _ c hc
    rcases List.mem_cons.1 hc with rfl | hc
    · decide
    rcases List.mem_cons.1 hc with rfl | hc
    · decide
    · exact isInner_joined _ c hc

theorem isInner_ipv4_chars (address : Nat) : ∀ c ∈ Ipv4.chars address, isInner c := by
  have hdot : isInner '.' := by decide
  intro c hc
  simp only [Ipv4.chars, List.mem_append, List.mem_cons] at hc
  rcases hc with hc | rfl | hc | rfl | hc | rfl | hc
  · exact isInner_of_mem_toDigits 10 _ c hc
  · exact hdot
  · exact isInner_of_mem_toDigits 10 _ c hc
  · exact hdot
  · exact isInner_of_mem_toDigits 10 _ c hc
  · exact hdot
  · exact isInner_of_mem_toDigits 10 _ c hc

theorem inner_of_domain_parse {bytes : Text.Bytes} {domain : List Char} (h : Domain.parse bytes = .ok domain) :
    domain ≠ [] ∧ ∀ c ∈ domain, isInner c := by
  unfold Domain.parse at h
  split at h
  · cases h
  next domain' hne hascii =>
    obtain rfl := Except.ok.inj h
    refine ⟨by rintro rfl; exact hne rfl, fun c hc => isInner_of_not_isForbidden ?_⟩
    simp only [Domain.ascii?, Option.bind_eq_bind, Option.bind_eq_some_iff] at hascii
    obtain ⟨chars, -, labels, -, hlabels⟩ := hascii
    split at hlabels
    next hallowed =>
      obtain rfl := Option.some.inj hlabels
      have hnone : ¬ ∃ c ∈ Domain.join (labels.map Domain.Label.written), Domain.isForbidden c := by
        simpa using (Bool.and_eq_true_iff.1 hallowed).2
      exact Bool.eq_false_iff.2 fun hforbidden => hnone ⟨c, hc, hforbidden⟩
    · cases hlabels
  · cases h

/-- A host is written in inner characters. -/
theorem inner_of_host_parse {cs : List Char} {host : Host} (h : Host.parse cs = .ok host) :
    host.chars ≠ [] ∧ ∀ c ∈ host.chars, isInner c := by
  cases host with
  | ipv4 address => exact ⟨by simp [Host.chars, Ipv4.chars], isInner_ipv4_chars address⟩
  | ipv6 pieces =>
    refine ⟨by simp [Host.chars], fun c hc => ?_⟩
    simp only [Host.chars, List.mem_cons, List.mem_append, List.not_mem_nil, or_false] at hc
    rcases hc with rfl | hc | rfl
    · decide
    · exact isInner_ipv6_chars pieces c hc
    · decide
  | name domain =>
    unfold Host.parse at h
    split at h
    next result hbracketed =>
      exfalso
      unfold Host.bracketed at hbracketed
      split at hbracketed
      · split at hbracketed
        · obtain rfl := Option.some.inj hbracketed
          obtain ⟨pieces, -, ⟨⟩⟩ := exists_of_map_eq_ok h
        · rw [← Option.some.inj hbracketed] at h
          cases h
      · cases hbracketed
    · obtain ⟨domain', hdomain, h⟩ := exists_of_bind_eq_ok h
      split at h
      · obtain ⟨address, -, ⟨⟩⟩ := exists_of_map_eq_ok h
      · cases h
        exact inner_of_domain_parse hdomain

/-! ## the URLs of web pages -/

/-- The authority part, without the slashes in front of it. -/
def authorityText (u : Url) (host : Host) : List Char := u.userinfoChars ++ (host.chars ++ u.portChars)

/-- What follows the authority part. -/
def tailChars (u : Url) : List Char := u.path.chars ++ (u.queryChars ++ u.fragmentChars)

theorem chars_eq {u : Url} {host : Host} (h : u.host = some host) :
    u.chars = u.scheme ++ ':' :: '/' :: '/' :: (u.authorityText host ++ u.tailChars) := by
  simp [chars, charsWithoutFragment, authorityChars, h, authorityText, tailChars]

/-- What the URL of a web page is made of. -/
structure Spelled (u : Url) (host : Host) : Prop where
  host_eq : u.host = some host
  parsed : ∃ cs, Host.parse cs = .ok host
  username : ∃ cs, u.username = Text.Percent.encode inUserinfoSet cs
  password : ∃ cs, u.password = Text.Percent.encode inUserinfoSet cs
  path : ∃ parts, u.path = .segments parts

theorem spelled_of_parseAfterSlashes {scheme cs : List Char} (hscheme : isSpecialScheme scheme)
    {query fragment : Option (List Char)} {u : Url} (h : parseAfterSlashes scheme query fragment cs = .ok u) :
    ∃ host, u.Spelled host := by
  unfold parseAfterSlashes at h
  simp only at h
  rcases hspan : spanAuthority (isSpecialScheme scheme) cs with ⟨text, path⟩
  rw [hspan] at h
  obtain ⟨⟨a, left⟩, ha, h⟩ := exists_of_bind_eq_ok h
  rcases hsplit : splitCredentials text with ⟨given, rest⟩
  rcases hhost : spanHost false rest with ⟨host, port⟩
  rw [parseAuthority_of_special hscheme _ hsplit hhost] at ha
  split at ha
  · cases ha
  · obtain ⟨host', hparse, ha⟩ := exists_of_bind_eq_ok ha
    obtain ⟨p, -, ha⟩ := exists_of_map_eq_ok ha
    cases ha
    obtain rfl := Except.ok.inj h
    exact ⟨host', rfl, ⟨_, hparse⟩, ⟨_, rfl⟩, ⟨_, rfl⟩, _, by simp [pathAfterAuthority, hscheme]; rfl⟩

theorem scheme_of_parseAfterSlashes {scheme cs : List Char} {query fragment : Option (List Char)} {u : Url}
    (h : parseAfterSlashes scheme query fragment cs = .ok u) : u.scheme = scheme := by
  obtain ⟨⟨a, left⟩, -, h⟩ := exists_of_bind_eq_ok h
  obtain rfl := Except.ok.inj h
  rfl

/-- The URL of a web page is read from what follows the slashes before its authority. -/
theorem exists_parseAfterSlashes {cs : List Char} {u : Url} (h : parseChars cs = .ok u)
    (hscheme : isPageScheme u.scheme) :
    ∃ query fragment rest, parseAfterSlashes u.scheme query fragment rest = .ok u := by
  unfold parseChars at h
  simp only at h
  split at h
  next scheme _ =>
    unfold parseAfterScheme at h
    simp only at h
    split at h
    next hfile =>
      obtain ⟨⟨host, path⟩, -, h⟩ := exists_of_bind_eq_ok h
      obtain rfl := Except.ok.inj h
      simp [(isSpecialScheme_of_isPageScheme hscheme).2] at hfile
    split at h
    next hspecial => exact ⟨_, _, _, scheme_of_parseAfterSlashes h ▸ h⟩
    next hspecial =>
      -- the scheme of what was read here is none of a web page
      have hne : u.scheme ≠ scheme := by
        rintro rfl
        exact hspecial (isSpecialScheme_of_isPageScheme hscheme).1
      split at h
      · exact absurd (scheme_of_parseAfterSlashes h) hne
      · obtain rfl := Except.ok.inj h
        exact absurd rfl hne
      · obtain rfl := Except.ok.inj h
        exact absurd rfl hne
  · cases h

theorem spelled_of_parseChars {cs : List Char} {u : Url} (h : parseChars cs = .ok u)
    (hscheme : isPageScheme u.scheme) : ∃ host, u.Spelled host := by
  obtain ⟨query, fragment, rest, h⟩ := exists_parseAfterSlashes h hscheme
  exact spelled_of_parseAfterSlashes (isSpecialScheme_of_isPageScheme hscheme).1 h

theorem Spelled.inner {u : Url} {host : Host} (h : u.Spelled host) :
    u.authorityText host ≠ [] ∧ ∀ c ∈ u.authorityText host, isInner c := by
  obtain ⟨cs, hparsed⟩ := h.parsed
  obtain ⟨hne, hhost⟩ := inner_of_host_parse hparsed
  refine ⟨by simp [authorityText, hne], fun c hc => ?_⟩
  rcases List.mem_append.1 hc with hc | hc
  · unfold userinfoChars at hc
    obtain ⟨user, huser⟩ := h.username
    obtain ⟨password, hpassword⟩ := h.password
    split at hc
    · cases hc
    rcases List.mem_append.1 hc with hc | hc
    · exact isInner_of_mem_encode user c (huser ▸ hc)
    rcases List.mem_append.1 hc with hc | hc
    · split at hc
      · cases hc
      rcases List.mem_cons.1 hc with rfl | hc
      · decide
      · exact isInner_of_mem_encode password c (hpassword ▸ hc)
    · obtain rfl := List.mem_singleton.1 hc
      decide
  rcases List.mem_append.1 hc with hc | hc
  · exact hhost c hc
  · unfold portChars at hc
    split at hc
    · rcases List.mem_cons.1 hc with rfl | hc
      · decide
      · exact isInner_of_mem_toDigits 10 _ c hc
    · cases hc

theorem Spelled.opensTail {u : Url} {host : Host} (h : u.Spelled host) : OpensTail u.tailChars := by
  obtain ⟨parts, hpath⟩ := h.path
  unfold tailChars queryChars fragmentChars
  rw [hpath]
  cases parts with
  | cons part rest => simp [OpensTail, Path.chars]
  | nil =>
    cases u.query with
    | some q => simp [OpensTail, Path.chars]
    | none => cases u.fragment <;> simp [OpensTail, Path.chars]

/-- Two URLs lead to the same place with the same credentials. -/
structure SameAuthority (u v : Url) : Prop where
  scheme : v.scheme = u.scheme
  username : v.username = u.username
  password : v.password = u.password
  host : v.host = u.host
  port : v.port = u.port

/-- **The URL of a web page keeps its authority**, whatever takes the place of its path, query and fragment. It is
assumed that its text is read as the URL again. -/
theorem sameAuthority_of_parseChars {cs : List Char} {u : Url} (h : parseChars cs = .ok u)
    (hscheme : isPageScheme u.scheme) (hagain : parseChars u.chars = .ok u) :
    ∃ auth tail, u.chars = u.scheme ++ ':' :: '/' :: '/' :: (auth ++ tail) ∧ auth ≠ [] ∧
      (∀ c ∈ auth, isInner c) ∧ OpensTail tail ∧
      ∀ tail', OpensTail tail' →
        ∃ v, parseChars (u.scheme ++ ':' :: '/' :: '/' :: (auth ++ tail')) = .ok v ∧ u.SameAuthority v := by
  obtain ⟨host, hspelled⟩ := spelled_of_parseChars h hscheme
  obtain ⟨hne, hinner⟩ := hspelled.inner
  have hchars := chars_eq hspelled.host_eq
  refine ⟨_, _, hchars, hne, hinner, hspelled.opensTail, fun tail' htail' => ?_⟩
  rw [hchars, parseChars_located hscheme hne hinner hspelled.opensTail] at hagain
  obtain ⟨a, ha, hu⟩ := exists_of_map_eq_ok hagain
  refine ⟨located u.scheme tail' a, ?_, ?_⟩
  · rw [parseChars_located hscheme hne hinner htail', ha]
    rfl
  · have husername : a.username = u.username := congrArg username hu
    have hpassword : a.password = u.password := congrArg password hu
    have hhost : some a.host = u.host := congrArg Url.host hu
    have hport : a.port = u.port := congrArg port hu
    exact ⟨rfl, husername, hpassword, hhost, hport⟩

end Url

end ProcessGraph
