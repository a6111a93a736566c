import Mathlib.Data.List.TakeDrop
import Mathlib.Data.List.TakeWhile
import ProcessGraph.Json.Parser
import ProcessGraph.Json.Printer
import ProcessGraph.Proofs.Encodings

/-!
# Documents are read back from their text

* `Number.scan_intChars`: an integer is read back, if the text after it stops there.
* `scanString_escapes`: so is a string, whatever its characters.
* `Value.Integral`, `Value.Plain`: values without doubles; documents.
* `Value.scanValue_chars`: a value is read back, with as much fuel as its text needs.
* `Value.ofBytes?_compact`: a document is read back from its bytes.
-/

namespace ProcessGraph.Json

/-! ## digits -/

namespace Number

theorem isDigit_of_mem {n : Nat} {c : Char} (h : c ∈ Nat.toDigits 10 n) : isDigit c :=
  Nat.isDigit_of_mem_toDigits (by decide) (by decide) h

theorem digitChar_ne_zero : ∀ d < 10, 0 < d → Nat.digitChar d ≠ '0' := by
  decide

/-- Only zero begins with a zero. -/
theorem head_toDigits_ne {n : Nat} (h : 0 < n) : ∀ c ∈ (Nat.toDigits 10 n).head?, c ≠ '0' := by
  induction n using Nat.strongRecOn with
  | ind n ih =>
    by_cases hn : n < 10
    · rw [Nat.toDigits_of_lt_base hn]
      rintro c hc
      obtain rfl := Option.some.inj hc
      exact digitChar_ne_zero n hn h
    · rw [Nat.toDigits_of_base_le (by decide) (by omega), List.head?_append,
        List.head?_eq_some_head Nat.toDigits_ne_nil, Option.some_or, ← List.head?_eq_some_head]
      exact ih (n / 10) (by omega) (by omega)

theorem le_ofDigitChars (ds : List Char) (s : Nat) : s ≤ Nat.ofDigitChars 10 ds s := by
  induction ds generalizing s with
  | nil => exact Nat.le_refl s
  | cons c ds ih =>
    rw [Nat.ofDigitChars_cons]
    have htail := ih (10 * s + (c.toNat - '0'.toNat))
    omega

/-- All digits of a number fit, if the number does. -/
theorem absorb_of_lt {s : Nat} {ds : List Char} (h : Nat.ofDigitChars 10 ds s < 0x10000000000000000) :
    absorb s ds = (Nat.ofDigitChars 10 ds s, []) := by
  induction ds generalizing s with
  | nil => rfl
  | cons c ds ih =>
    rw [Nat.ofDigitChars_cons, Nat.mul_comm] at h ⊢
    have hgrow : s * 10 + (c.toNat - '0'.toNat) ≤ Nat.ofDigitChars 10 ds (s * 10 + (c.toNat - '0'.toNat)) := by
      exact le_ofDigitChars _ _
    have hnext : s * 10 + digit c < 0x10000000000000000 := Nat.lt_of_le_of_lt hgrow h
    rw [absorb]
    simp only [hnext, if_true]
    exact ih h

/-- The text does not go on with a number. -/
def Stops (r : List Char) : Prop := ∀ c ∈ r.head?, c = ',' ∨ c = ']' ∨ c = '}'

theorem span_digits {r : List Char} (h : Stops r) (n : Nat) :
    spanDigits (Nat.toDigits 10 n ++ r) = (Nat.toDigits 10 n, r) := by
  have hdigits : ∀ c ∈ Nat.toDigits 10 n, isDigit c := fun c hc => isDigit_of_mem hc
  rw [spanDigits, List.span_eq_takeWhile_dropWhile, List.takeWhile_append_of_pos hdigits,
    List.dropWhile_append_of_pos hdigits]
  cases r with
  | nil => simp
  | cons c r =>
    have hc : isDigit c = false := by
      rcases h c rfl with rfl | rfl | rfl <;> rfl
    simp [hc]

theorem scanWhole_toDigits {r : List Char} (h : Stops r) (n : Nat) :
    scanWhole (Nat.toDigits 10 n ++ r) = some (Nat.toDigits 10 n, r) := by
  rw [scanWhole, span_digits h]
  rcases Nat.eq_zero_or_pos n with rfl | hn
  · rfl
  · obtain ⟨c, ds, hds⟩ := List.exists_cons_of_ne_nil (Nat.toDigits_ne_nil (b := 10) (n := n))
    have hc : c ≠ '0' := head_toDigits_ne hn c (by rw [hds]; rfl)
    rw [hds]
    split
    next heq => cases heq
    next heq =>
      cases heq
      exact absurd rfl hc
    next heq =>
      cases heq
      rfl

/-- The sign at the front of a literal, and what follows it. -/
def spanSign : List Char → Bool × List Char
  | '-' :: r => (true, r)
  | r => (false, r)

/-- What follows the digits before a point, and the number that they make with it. -/
def finish (negative : Bool) (ds r : List Char) : Option (Number × List Char) :=
  let (significand, left) := absorb 0 ds
  match r with
  | '.' :: r => (scanFraction significand left.length r).bind fun (s, e, r) => finishReal negative s e r
  | 'e' :: _ | 'E' :: _ => finishReal negative significand left.length r
  | _ => (whole? negative significand left.length).bind fun n => some (n, r)

theorem scan_eq (cs : List Char) :
    scan cs = (scanWhole (spanSign cs).2).bind fun (ds, r) => finish (spanSign cs).1 ds r := by
  rfl

theorem spanSign_toDigits (n : Nat) (r : List Char) :
    spanSign (Nat.toDigits 10 n ++ r) = (false, Nat.toDigits 10 n ++ r) := by
  obtain ⟨c, ds, hds⟩ := List.exists_cons_of_ne_nil (Nat.toDigits_ne_nil (b := 10) (n := n))
  have hdigit : isDigit c := isDigit_of_mem (n := n) (by simp [hds])
  rw [hds, List.cons_append]
  unfold spanSign
  split
  next hminus =>
    obtain rfl := (List.cons.inj hminus).1
    cases hdigit
  · rfl

/-- After the digits of a whole number, nothing more belongs to it. -/
theorem scan_digits {r cs : List Char} (h : Stops r) {n : Nat} (hn : n < 0x10000000000000000) {negative : Bool}
    (hsign : spanSign cs = (negative, Nat.toDigits 10 n ++ r)) :
    scan cs = (whole? negative n 0).map fun n => (n, r) := by
  have hvalue : Nat.ofDigitChars 10 (Nat.toDigits 10 n) 0 = n := Nat.ofDigitChars_toDigits (by decide) (by decide)
  have habsorb : absorb 0 (Nat.toDigits 10 n) = (n, []) := by
    rw [absorb_of_lt (by rwa [hvalue]), hvalue]
  rw [scan_eq, hsign, scanWhole_toDigits h, Option.bind_some]
  simp only [finish, habsorb]
  cases r with
  | nil => cases whole? negative n 0 <;> rfl
  | cons c r => rcases h c rfl with rfl | rfl | rfl <;> cases whole? negative n 0 <;> rfl

/-- **An integer is read back from its text.** -/
theorem scan_intChars {r : List Char} (h : Stops r) (i : Int)
    (hi : -0x8000000000000000 ≤ i ∧ i < 0x10000000000000000) :
    scan (intChars i ++ r) = some (.integer i hi, r) := by
  unfold intChars
  split
  next hneg =>
    have hrange : 0 < i.natAbs ∧ i.natAbs ≤ 0x8000000000000000 := by omega
    have hvalue : -(i.natAbs : Int) = i := by omega
    rw [List.cons_append, scan_digits h (n := i.natAbs) (by omega) rfl]
    simp only [whole?, ne_eq, not_true_eq_false, if_false, if_true, dif_pos hrange, hvalue, Option.map_some]
  next hneg =>
    have hrange : i.natAbs < 0x10000000000000000 := by omega
    have hvalue : (i.natAbs : Int) = i := by omega
    rw [scan_digits h (n := i.natAbs) hrange (spanSign_toDigits _ _)]
    simp [whole?, ofNat?, hrange, hvalue]

end Number

/-! ## strings -/

theorem value?_lowerDigit : ∀ n < 16, Text.Hex.value? (Text.Hex.lowerDigit n) = some n := by
  decide

theorem scanString_control {c : Char} (h : c.toNat < 32) (r : List Char) :
    scanString ('\\' :: 'u' :: '0' :: '0' :: Text.Hex.lowerDigit (c.toNat / 16) ::
      Text.Hex.lowerDigit (c.toNat % 16) :: r) = consScanned c (scanString r) := by
  have hzero : Text.Hex.value? '0' = some 0 := rfl
  have hvalue : (0 * 16 + 0) * 16 * 16 + c.toNat / 16 * 16 + c.toNat % 16 = c.toNat := by omega
  have hhex : hex4? '0' '0' (Text.Hex.lowerDigit (c.toNat / 16)) (Text.Hex.lowerDigit (c.toNat % 16)) =
      some c.toNat := by
    simp only [hex4?, hzero, value?_lowerDigit (c.toNat / 16) (by omega), value?_lowerDigit (c.toNat % 16) (by omega),
      Option.bind_eq_bind, Option.bind_some, Option.pure_def]
    congr 1
    omega
  have hsurrogate : c.toNat < 0xD800 ∨ 0xE000 ≤ c.toNat := by omega
  rw [scanString, hhex]
  simp only [hsurrogate, if_true, Char.ofNat_toNat]

/-- A character is read back from what stands for it between quotes. -/
theorem scanString_escape (c : Char) (r : List Char) : scanString (escape c ++ r) = consScanned c (scanString r) := by
  unfold escape
  split
  next h => subst h; rfl
  split
  next h => subst h; rfl
  split
  next h => subst h; rfl
  split
  next h => subst h; rfl
  split
  next h => subst h; rfl
  split
  next h =>
    obtain rfl : c = Char.ofNat 8 := by rw [← h, Char.ofNat_toNat]
    rfl
  split
  next h =>
    obtain rfl : c = Char.ofNat 12 := by rw [← h, Char.ofNat_toNat]
    rfl
  split
  next h => exact scanString_control h r
  next hquote hbackslash _ _ _ _ _ hcontrol =>
    have hplain : ¬ (c = '\\' ∨ c.toNat < 32) := by simp [hbackslash, hcontrol]
    rw [List.cons_append, List.nil_append, scanString.eq_def]
    split
    next heq => cases heq
    next heq => exact absurd (List.cons.inj heq).1 hquote
    next heq => exact absurd (List.cons.inj heq).1 hbackslash
    next heq => exact absurd (List.cons.inj heq).1 hbackslash
    next heq =>
      obtain ⟨rfl, rfl⟩ := List.cons.inj heq
      rw [if_neg hplain]

theorem scanString_escapes (cs r : List Char) : scanString (cs.flatMap escape ++ '"' :: r) = some (cs, r) := by
  induction cs with
  | nil => rfl
  | cons c cs ih =>
    rw [List.flatMap_cons, List.append_assoc, scanString_escape, ih]
    rfl


/-! ## words and blanks -/

theorem skipBlanks_of_head (cs : List Char) (h : ∀ c ∈ cs.head?, isBlank c = false) : skipBlanks cs = cs := by
  cases cs with
  | nil => rfl
  | cons c cs => simp [skipBlanks, h c rfl]

theorem Number.Stops.skipBlanks_eq {r : List Char} (h : Number.Stops r) : skipBlanks r = r := by
  refine skipBlanks_of_head _ fun c hc => ?_
  rcases h c hc with rfl | rfl | rfl <;> rfl

theorem Number.stops_nil : Number.Stops [] := by
  intro c hc
  cases hc

namespace Value

mutual

/-- Every number in the value is an integer. -/
def Integral : Value → Prop
  | number (.real _) => False
  | array items => IntegralItems items
  | object ms => IntegralMembers ms
  | _ => True

/-- `Integral` for the items of an array. -/
def IntegralItems : List Value → Prop
  | [] => True
  | v :: rest => Integral v ∧ IntegralItems rest

/-- `Integral` for the values of an object. -/
def IntegralMembers : List (String × Value) → Prop
  | [] => True
  | (_, v) :: rest => Integral v ∧ IntegralMembers rest

end

/-- A written integer begins with a digit or a minus sign. -/
theorem exists_intChars_eq (i : Int) :
    ∃ c cs, Number.intChars i = c :: cs ∧ (c = '-' ∨ Number.isDigit c) := by
  unfold Number.intChars
  split
  · exact ⟨_, _, rfl, .inl rfl⟩
  · obtain ⟨c, cs, hcs⟩ := List.exists_cons_of_ne_nil (Nat.toDigits_ne_nil (b := 10) (n := i.natAbs))
    exact ⟨c, cs, hcs, .inr (Number.isDigit_of_mem (n := i.natAbs) (by simp [hcs]))⟩

theorem ne_of_begins {c d : Char} (hc : c = '-' ∨ Number.isDigit c) (hd : d ≠ '-')
    (hd' : Number.isDigit d = false) : c ≠ d := by
  rintro rfl
  rcases hc with h | h
  · exact hd h
  · rw [h] at hd'
    cases hd'

/-- The first character of a written value is no blank, and no bracket that closes. -/
theorem exists_chars_eq {v : Value} (hv : v.Integral) :
    ∃ c cs, v.chars = c :: cs ∧ isBlank c = false ∧ c ≠ ']' := by
  cases v with
  | null => exact ⟨_, _, rfl, rfl, by decide⟩
  | bool b => cases b <;> exact ⟨_, _, rfl, rfl, by decide⟩
  | string s => exact ⟨_, _, rfl, rfl, by decide⟩
  | array items => exact ⟨_, _, rfl, rfl, by decide⟩
  | object ms => exact ⟨_, _, rfl, rfl, by decide⟩
  | number n =>
    cases n with
    | real x => cases hv
    | integer i hi =>
      obtain ⟨c, cs, hcs, hc⟩ := exists_intChars_eq i
      have hblank : isBlank c = false := by
        simp [isBlank, ne_of_begins hc (d := ' ') (by decide) rfl, ne_of_begins hc (d := '\n') (by decide) rfl,
          ne_of_begins hc (d := '\t') (by decide) rfl, ne_of_begins hc (d := '\r') (by decide) rfl]
      exact ⟨c, cs, hcs, hblank, ne_of_begins hc (by decide) rfl⟩

theorem skipBlanks_chars {v : Value} (hv : v.Integral) (r : List Char) : skipBlanks (v.chars ++ r) = v.chars ++ r := by
  obtain ⟨c, cs, hcs, hblank, -⟩ := exists_chars_eq hv
  refine skipBlanks_of_head _ fun d hd => ?_
  rw [hcs] at hd
  obtain rfl := Option.some.inj hd
  exact hblank

theorem scanValue_integer {r : List Char} (h : Number.Stops r) (i : Int)
    (hi : -0x8000000000000000 ≤ i ∧ i < 0x10000000000000000) (fuel depth : Nat) :
    scanValue (fuel + 1) depth (Number.intChars i ++ r) = some (.number (.integer i hi), r) := by
  have hskip : skipBlanks (Number.intChars i ++ r) = Number.intChars i ++ r :=
    skipBlanks_chars (v := .number (.integer i hi)) trivial r
  have hscan := Number.scan_intChars h i hi
  obtain ⟨c, cs, hcs, hc⟩ := exists_intChars_eq i
  rw [scanValue, hskip]
  rw [hcs, List.cons_append] at hscan ⊢
  split
  next heq => cases heq
  next heq => exact absurd (List.cons.inj heq).1 (ne_of_begins hc (by decide) rfl)
  next heq => exact absurd (List.cons.inj heq).1 (ne_of_begins hc (by decide) rfl)
  next heq => exact absurd (List.cons.inj heq).1 (ne_of_begins hc (by decide) rfl)
  next heq => exact absurd (List.cons.inj heq).1 (ne_of_begins hc (by decide) rfl)
  next heq => exact absurd (List.cons.inj heq).1 (ne_of_begins hc (by decide) rfl)
  next heq => exact absurd (List.cons.inj heq).1 (ne_of_begins hc (by decide) rfl)
  · rw [hscan]
    rfl

theorem exists_itemChars_eq {v : Value} (hv : v.Integral) (rest : List Value) :
    ∃ c cs, itemChars (v :: rest) = c :: cs ∧ isBlank c = false ∧ c ≠ ']' := by
  obtain ⟨c, cs, hcs, hc⟩ := exists_chars_eq hv
  cases rest with
  | nil => exact ⟨c, cs, hcs, hc⟩
  | cons w rest => exact ⟨c, cs ++ ',' :: itemChars (w :: rest), by rw [itemChars, hcs, List.cons_append], hc⟩

theorem exists_memberChars_eq (m : String × Value) (rest : List (String × Value)) :
    ∃ cs, memberChars (m :: rest) = '"' :: cs := by
  obtain ⟨k, v⟩ := m
  cases rest <;> exact ⟨_, rfl⟩

theorem scanString_quote (s : String) (r : List Char) :
    scanString (s.toList.flatMap escape ++ '"' :: r) = some (s.toList, r) := scanString_escapes _ _

theorem quote_append (s : String) (r : List Char) : quote s ++ r = '"' :: (s.toList.flatMap escape ++ '"' :: r) := by
  simp [quote]

mutual

theorem scanValue_chars (fuel depth : Nat) {r : List Char} (v : Value) (hi : v.Integral) (hd : v.Distinct)
    (hdepth : v.depth ≤ depth) (hfuel : 2 * v.chars.length ≤ fuel) (hr : Number.Stops r) :
    scanValue fuel depth (v.chars ++ r) = some (v, r) := by
  obtain ⟨c, cs, hcs, -⟩ := exists_chars_eq hi
  obtain ⟨fuel, rfl⟩ : ∃ f, fuel = f + 1 := ⟨fuel - 1, by rw [hcs, List.length_cons] at hfuel; omega⟩
  match v with
  | null => rfl
  | bool true => rfl
  | bool false => rfl
  | number (.integer i hi) => exact scanValue_integer hr i hi fuel depth
  | string s =>
    rw [chars, quote_append, scanValue, skipBlanks_of_head _ (by simp [isBlank])]
    simp [scanString_quote]
  | array [] =>
    obtain ⟨depth, rfl⟩ : ∃ d, depth = d + 1 := ⟨depth - 1, by rw [Value.depth] at hdepth; omega⟩
    rfl
  | object [] =>
    obtain ⟨depth, rfl⟩ : ∃ d, depth = d + 1 := ⟨depth - 1, by rw [Value.depth] at hdepth; omega⟩
    rfl
  | array (item :: items) =>
    rw [Value.depth] at hdepth
    obtain ⟨depth, rfl⟩ : ∃ d, depth = d + 1 := ⟨depth - 1, by omega⟩
    rw [chars, List.length_cons, List.length_append, List.length_singleton] at hfuel
    have hitems := scanItems_chars fuel depth r (item :: items) (by simp) hi hd (by omega)
      (by omega)
    rw [chars, List.cons_append, List.append_assoc, List.singleton_append, scanValue,
      skipBlanks_of_head _ (by simp [isBlank])]
    obtain ⟨c, cs, hcs, hblank, hc⟩ := exists_itemChars_eq hi.1 items
    rw [hcs, List.cons_append] at hitems ⊢
    simp only [skipBlanks_of_head (c :: (cs ++ ']' :: r)) (by simp [hblank])]
    split
    next heq => exact absurd (List.cons.inj heq).1 hc
    · rw [hitems]
  | object (m :: ms) =>
    rw [Value.depth] at hdepth
    obtain ⟨depth, rfl⟩ : ∃ d, depth = d + 1 := ⟨depth - 1, by omega⟩
    rw [chars, List.length_cons, List.length_append, List.length_singleton] at hfuel
    have hmembers := scanMembers_chars fuel depth r (m :: ms) (by simp) hi hd.2 (by omega)
      (by omega)
    rw [chars, List.cons_append, List.append_assoc, List.singleton_append, scanValue,
      skipBlanks_of_head _ (by simp [isBlank])]
    obtain ⟨cs, hcs⟩ := exists_memberChars_eq m ms
    rw [hcs, List.cons_append] at hmembers ⊢
    simp only [skipBlanks_of_head ('"' :: (cs ++ '}' :: r)) (by simp [isBlank])]
    split
    next heq => exact absurd (List.cons.inj heq).1 (by decide)
    · rw [hmembers]
      simp only [Keyed.ofPairs_of_nodup hd.1]

theorem scanItems_chars (fuel depth : Nat) (r : List Char) (items : List Value) (hne : items ≠ [])
    (hi : IntegralItems items) (hd : DistinctItems items)
    (hdepth : itemsDepth items ≤ depth) (hfuel : 2 * (itemChars items).length + 1 ≤ fuel) :
    scanItems fuel depth (itemChars items ++ ']' :: r) = some (items, r) := by
  obtain ⟨fuel, rfl⟩ : ∃ f, fuel = f + 1 := ⟨fuel - 1, by omega⟩
  match items with
  | [v] =>
    rw [itemChars] at hfuel
    rw [itemsDepth] at hdepth
    have hstops : Number.Stops (']' :: r) := by simp [Number.Stops]
    have hvalue := scanValue_chars fuel depth v hi.1 hd.1 (by omega) (by omega) hstops
    rw [itemChars, scanItems, hvalue]
    simp only [hstops.skipBlanks_eq]
  | v :: w :: rest =>
    rw [itemChars, List.length_append, List.length_cons] at hfuel
    rw [itemsDepth] at hdepth
    have hstops : Number.Stops (',' :: (itemChars (w :: rest) ++ ']' :: r)) := by simp [Number.Stops]
    have hvalue := scanValue_chars fuel depth v hi.1 hd.1 (by omega) (by omega) hstops
    have hrest := scanItems_chars fuel depth r (w :: rest) (by simp) hi.2 hd.2 (by omega)
      (by omega)
    rw [itemChars, List.append_assoc, List.cons_append, scanItems, hvalue]
    simp only [hstops.skipBlanks_eq, hrest]

theorem scanMembers_chars (fuel depth : Nat) (r : List Char) (ms : List (String × Value)) (hne : ms ≠ [])
    (hi : IntegralMembers ms) (hd : DistinctMembers ms)
    (hdepth : membersDepth ms ≤ depth) (hfuel : 2 * (memberChars ms).length + 1 ≤ fuel) :
    scanMembers fuel depth (memberChars ms ++ '}' :: r) = some (ms, r) := by
  obtain ⟨fuel, rfl⟩ : ∃ f, fuel = f + 1 := ⟨fuel - 1, by omega⟩
  match ms with
  | [(k, v)] =>
    rw [memberChars, List.length_append, List.length_cons] at hfuel
    rw [membersDepth] at hdepth
    have hstops : Number.Stops ('}' :: r) := by simp [Number.Stops]
    have hvalue := scanValue_chars fuel depth v hi.1 hd.1 (by omega) (by omega) hstops
    have hcolon : skipBlanks (':' :: (v.chars ++ '}' :: r)) = ':' :: (v.chars ++ '}' :: r) :=
      skipBlanks_of_head _ (by simp [isBlank])
    rw [memberChars, List.append_assoc, List.cons_append, quote_append, scanMembers,
      skipBlanks_of_head _ (by simp [isBlank])]
    simp only [scanString_quote, hcolon, hvalue, hstops.skipBlanks_eq, String.ofList_toList]
  | (k, v) :: w :: rest =>
    rw [memberChars, List.length_append, List.length_cons, List.length_append, List.length_cons] at hfuel
    rw [membersDepth] at hdepth
    have hstops : Number.Stops (',' :: (memberChars (w :: rest) ++ '}' :: r)) := by simp [Number.Stops]
    have hvalue := scanValue_chars fuel depth v hi.1 hd.1 (by omega) (by omega) hstops
    have hrest := scanMembers_chars fuel depth r (w :: rest) (by simp) hi.2 hd.2 (by omega)
      (by omega)
    have hcolon : ∀ cs, skipBlanks (':' :: cs) = ':' :: cs := fun cs => skipBlanks_of_head _ (by simp [isBlank])
    rw [memberChars, List.append_assoc, List.cons_append, List.append_assoc, List.cons_append, quote_append,
      scanMembers, skipBlanks_of_head _ (by simp [isBlank])]
    simp only [scanString_quote, hcolon, hvalue, hstops.skipBlanks_eq, String.ofList_toList, hrest]

end

/-- A document: its numbers are integers, its keys are distinct, and it does not nest too deep. -/
structure Plain (v : Value) : Prop where
  integral : v.Integral
  distinct : v.Distinct
  depth_le : v.depth ≤ maxDepth

theorem plain_null : null.Plain :=
  ⟨by simp [Integral], by simp [Distinct], by simp [depth]⟩

theorem plain_string (text : String) : (string text).Plain :=
  ⟨by simp [Integral], by simp [Distinct], by simp [depth]⟩

theorem plain_emptyObject : emptyObject.Plain :=
  ⟨by simp [emptyObject, Integral, IntegralMembers], by simp [emptyObject, Distinct, DistinctMembers],
    by decide +kernel⟩

/-- **A document is read back from its bytes.** -/
theorem ofBytes?_compact {v : Value} (h : v.Plain) : ofBytes? (Text.utf8 v.compact) = some v := by
  have hscan := scanValue_chars (2 * v.chars.length + 2) maxDepth (r := []) v h.integral h.distinct h.depth_le
    (by omega) Number.stops_nil
  rw [List.append_nil] at hscan
  rw [ofBytes?, Text.utf8, compact, String.toList_ofList, Text.Utf8.decode?_encode, Option.bind_some, parseWithin?,
    hscan]
  rfl

end Value

end ProcessGraph.Json
