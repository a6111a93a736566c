import ProcessGraph.Text.FormEncoded

/-!
# Encoded texts are read back

* `Utf8.decode?_encode`, `Utf8.decodeLossy_encode`: a text is read back from its bytes.
* `Utf8.decode?_eq_some_iff`, `ofUtf8?_eq_some_iff`: no other bytes are read as that text.
* `Utf8.encode_of_ascii`: a text in ASCII has one byte for each character.
* `FormEncoded.decode_encode`: a text is read back from its encoded form.
* `FormEncoded.pairs_pair`: so is a pair, whatever its name and its value.
-/

namespace ProcessGraph.Text

/-! ## UTF-8 -/

namespace Utf8

theorem toNat_toUInt8 {n : Nat} (h : n < 256) : n.toUInt8.toNat = n := by
  rw [Nat.toUInt8, UInt8.toNat_ofNat', Nat.mod_eq_of_lt (by omega)]

/-- A byte that continues a sequence. -/
theorem toNat_continuation (n : Nat) : (0x80 + n % 0x40).toUInt8.toNat = 0x80 + n % 0x40 :=
  toNat_toUInt8 (by omega)

theorem scan_lead {b : UInt8} {p : Pending} (h : lead b = .pending p) (rest : Bytes) :
    scan none (b :: rest) = scan (some p) rest := by
  simp [scan, h]

/-- A byte in the middle of a sequence. -/
theorem scan_middle {value missing low high m : Nat} (hlow : low ≤ 0x80 + m % 0x40) (hhigh : 0x80 + m % 0x40 ≤ high)
    (hmissing : missing ≠ 1) (rest : Bytes) :
    scan (some ⟨value, missing, low, high⟩) ((0x80 + m % 0x40).toUInt8 :: rest) =
      scan (some ⟨value * 0x40 + m % 0x40, missing - 1, 0x80, 0xBF⟩) rest := by
  rw [scan, toNat_continuation, if_pos ⟨hlow, hhigh⟩, if_neg hmissing, Nat.add_sub_cancel_left]

/-- The last byte of a sequence. -/
theorem scan_last {value low high m : Nat} (hlow : low ≤ 0x80 + m % 0x40) (hhigh : 0x80 + m % 0x40 ≤ high)
    (rest : Bytes) :
    scan (some ⟨value, 1, low, high⟩) ((0x80 + m % 0x40).toUInt8 :: rest) =
      some (Char.ofNat (value * 0x40 + m % 0x40)) :: scan none rest := by
  rw [scan, toNat_continuation, if_pos ⟨hlow, hhigh⟩, if_pos rfl, Nat.add_sub_cancel_left]

/-- The first byte of a sequence of two. -/
theorem lead_two {n : Nat} (hlow : 0x80 ≤ n) (hhigh : n < 0x800) :
    lead (0xC0 + n / 0x40).toUInt8 = .pending ⟨n / 0x40, 1, 0x80, 0xBF⟩ := by
  have hb : (0xC0 + n / 0x40).toUInt8.toNat = 0xC0 + n / 0x40 := toNat_toUInt8 (by omega)
  simp only [lead, hb]
  rw [if_neg (by omega), if_neg (by omega), if_pos (by omega), Nat.add_sub_cancel_left]

/-- The first byte of a sequence of three. The second one must not spell a shorter sequence or a surrogate. -/
theorem lead_three {n : Nat} (hlow : 0x800 ≤ n) (hhigh : n < 0x10000) (hvalid : n < 0xD800 ∨ 0xDFFF < n) :
    ∃ low high, lead (0xE0 + n / 0x1000).toUInt8 = .pending ⟨n / 0x1000, 2, low, high⟩ ∧
      low ≤ 0x80 + n / 0x40 % 0x40 ∧ 0x80 + n / 0x40 % 0x40 ≤ high := by
  have hb : (0xE0 + n / 0x1000).toUInt8.toNat = 0xE0 + n / 0x1000 := toNat_toUInt8 (by omega)
  simp only [lead, hb]
  rw [if_neg (by omega), if_neg (by omega), if_neg (by omega)]
  split
  next hfirst =>
    have hzero : n / 0x1000 = 0 := by omega
    exact ⟨0xA0, 0xBF, by rw [hzero], by omega, by omega⟩
  split
  next hsurrogates =>
    have hthirteen : n / 0x1000 = 0xD := by omega
    exact ⟨0x80, 0x9F, by rw [hthirteen], by omega, by omega⟩
  · exact ⟨0x80, 0xBF, by rw [if_pos (by omega), Nat.add_sub_cancel_left], by omega, by omega⟩

/-- The first byte of a sequence of four. The second one must not spell a shorter sequence or none of a character. -/
theorem lead_four {n : Nat} (hlow : 0x10000 ≤ n) (hhigh : n < 0x110000) :
    ∃ low high, lead (0xF0 + n / 0x40000).toUInt8 = .pending ⟨n / 0x40000, 3, low, high⟩ ∧
      low ≤ 0x80 + n / 0x1000 % 0x40 ∧ 0x80 + n / 0x1000 % 0x40 ≤ high := by
  have hb : (0xF0 + n / 0x40000).toUInt8.toNat = 0xF0 + n / 0x40000 := toNat_toUInt8 (by omega)
  simp only [lead, hb]
  rw [if_neg (by omega), if_neg (by omega), if_neg (by omega), if_neg (by omega), if_neg (by omega),
    if_neg (by omega)]
  split
  next hfirst =>
    have hzero : n / 0x40000 = 0 := by omega
    exact ⟨0x90, 0xBF, by rw [hzero], by omega, by omega⟩
  split
  · exact ⟨0x80, 0xBF, by rw [Nat.add_sub_cancel_left], by omega, by omega⟩
  next hlast =>
    have hfour : n / 0x40000 = 4 := by omega
    exact ⟨0x80, 0x8F, by rw [if_pos (by omega), hfour], by omega, by omega⟩

/-- A character is read back, whatever follows. -/
theorem scan_encodeChar (c : Char) (rest : Bytes) : scan none (encodeChar c ++ rest) = some c :: scan none rest := by
  have hvalid : c.toNat < 0xD800 ∨ 0xDFFF < c.toNat ∧ c.toNat < 0x110000 := c.valid
  have hchar : Char.ofNat c.toNat = c := Char.ofNat_toNat c
  unfold encodeChar
  generalize c.toNat = n at hvalid hchar
  subst hchar
  simp only
  split
  next hone =>
    have hb : n.toUInt8.toNat = n := toNat_toUInt8 (by omega)
    simp [scan, lead, hb, hone]
  split
  next hone htwo =>
    have hvalue : n / 0x40 * 0x40 + n % 0x40 = n := by omega
    simp only [List.cons_append, List.nil_append]
    rw [scan_lead (lead_two (by omega) htwo), scan_last (by omega) (by omega), hvalue]
  split
  next htwo hthree =>
    have hvalue : (n / 0x1000 * 0x40 + n / 0x40 % 0x40) * 0x40 + n % 0x40 = n := by omega
    obtain ⟨low, high, hlead, hlow, hhigh⟩ := lead_three (n := n) (by omega) hthree (by omega)
    simp only [List.cons_append, List.nil_append]
    rw [scan_lead hlead, scan_middle hlow hhigh (by decide), scan_last (by omega) (by omega), hvalue]
  next hthree =>
    have hvalue : ((n / 0x40000 * 0x40 + n / 0x1000 % 0x40) * 0x40 + n / 0x40 % 0x40) * 0x40 + n % 0x40 = n := by
      omega
    obtain ⟨low, high, hlead, hlow, hhigh⟩ := lead_four (n := n) (by omega) (by omega)
    simp only [List.cons_append, List.nil_append]
    rw [scan_lead hlead, scan_middle hlow hhigh (by decide), scan_middle (by omega) (by omega) (by decide),
      scan_last (by omega) (by omega), hvalue]

theorem length_encodeChar_pos (c : Char) : 0 < (encodeChar c).length := by
  unfold encodeChar
  dsimp only
  repeat' split
  all_goals exact Nat.zero_lt_succ _

theorem scan_encode (cs : List Char) (rest : Bytes) :
    scan none (encode cs ++ rest) = cs.map some ++ scan none rest := by
  induction cs with
  | nil => rfl
  | cons c cs ih =>
    rw [encode, List.flatMap_cons, List.append_assoc, scan_encodeChar, ← encode, ih, List.map_cons, List.cons_append]

/-- **A text is read back from its bytes.** -/
theorem decode?_encode (cs : List Char) : decode? (encode cs) = some cs := by
  have hscan := scan_encode cs []
  rw [List.append_nil, scan, List.append_nil] at hscan
  rw [decode?, hscan, List.mapM_map]
  simpa using List.mapM_pure (m := Option) (f := id) (l := cs)

/-- Nothing is replaced in a text that is read back. -/
theorem decodeLossy_encode (cs : List Char) : decodeLossy (encode cs) = cs := by
  have hscan := scan_encode cs []
  rw [List.append_nil, scan, List.append_nil] at hscan
  simp [decodeLossy, hscan, Function.comp_def]

/-! ## the bytes of a text that is read -/

theorem toUInt8_toNat (b : UInt8) : b.toNat.toUInt8 = b := UInt8.ofNat_toNat

theorem toNat_ofNat {n : Nat} (h : n.isValidChar) : (Char.ofNat n).toNat = n := by
  rw [Char.ofNat, dif_pos h]
  rfl

/-- A byte in the middle of a sequence that is complete. -/
theorem exists_of_scan_middle {value missing low high : Nat} (hlow : 0x80 ≤ low) (hhigh : high ≤ 0xBF)
    (hmissing : missing ≠ 1) {bytes : Bytes} {c : Char} {rest : List (Option Char)}
    (h : scan (some ⟨value, missing, low, high⟩) bytes = some c :: rest) :
    ∃ m r, m < 0x40 ∧ low ≤ 0x80 + m ∧ 0x80 + m ≤ high ∧ bytes = (0x80 + m).toUInt8 :: r ∧
      scan (some ⟨value * 0x40 + m, missing - 1, 0x80, 0xBF⟩) r = some c :: rest := by
  cases bytes with
  | nil => simp [scan] at h
  | cons b r =>
    rw [scan] at h
    split at h
    next hb =>
      dsimp only at hb h
      have hm : 0x80 + (b.toNat - 0x80) = b.toNat := by omega
      exact ⟨b.toNat - 0x80, r, by omega, by omega, by omega, by rw [hm, toUInt8_toNat], h⟩
    next => simp at h

/-- The last byte of a sequence that is complete. -/
theorem exists_of_scan_last {value low high : Nat} (hlow : 0x80 ≤ low) (hhigh : high ≤ 0xBF) {bytes : Bytes} {c : Char}
    {rest : List (Option Char)} (h : scan (some ⟨value, 1, low, high⟩) bytes = some c :: rest) :
    ∃ m r, m < 0x40 ∧ low ≤ 0x80 + m ∧ 0x80 + m ≤ high ∧ bytes = (0x80 + m).toUInt8 :: r ∧
      c = Char.ofNat (value * 0x40 + m) ∧ scan none r = rest := by
  cases bytes with
  | nil => simp [scan] at h
  | cons b r =>
    rw [scan] at h
    split at h
    next hb =>
      rw [if_pos rfl, List.cons.injEq, Option.some.injEq] at h
      dsimp only at hb h
      have hm : 0x80 + (b.toNat - 0x80) = b.toNat := by omega
      exact ⟨b.toNat - 0x80, r, by omega, by omega, by omega, by rw [hm, toUInt8_toNat], h.1.symm, h.2⟩
    next => simp at h

/-- How a byte opens a sequence of two, three or four. The range of the second byte leaves out shorter sequences,
surrogates and what is beyond the last character. -/
inductive Opens (b : UInt8) : Pending → Prop where
  | two (hlow : 0xC2 ≤ b.toNat) (hhigh : b.toNat < 0xE0) : Opens b ⟨b.toNat - 0xC0, 1, 0x80, 0xBF⟩
  | three {value low high : Nat} (hb : b.toNat = 0xE0 + value) (hvalue : value < 0x10) (hlow : 0x80 ≤ low)
      (hhigh : high ≤ 0xBF) (hshort : value = 0 → 0xA0 ≤ low) (hsurrogate : value = 0xD → high ≤ 0x9F) :
      Opens b ⟨value, 2, low, high⟩
  | four {value low high : Nat} (hb : b.toNat = 0xF0 + value) (hvalue : value < 5) (hlow : 0x80 ≤ low)
      (hhigh : high ≤ 0xBF) (hshort : value = 0 → 0x90 ≤ low) (hbeyond : value = 4 → high ≤ 0x8F) :
      Opens b ⟨value, 3, low, high⟩

theorem opens_of_lead {b : UInt8} {p : Pending} (h : lead b = .pending p) : Opens b p := by
  simp only [lead] at h
  split at h
  · cases h
  split at h
  · cases h
  split at h
  · obtain rfl := Lead.pending.inj h
    exact .two (by omega) (by omega)
  split at h
  · obtain rfl := Lead.pending.inj h
    exact .three (by omega) (by omega) (by omega) (by omega) (by omega) (by omega)
  split at h
  · obtain rfl := Lead.pending.inj h
    exact .three (by omega) (by omega) (by omega) (by omega) (by omega) (by omega)
  split at h
  · obtain rfl := Lead.pending.inj h
    exact .three (by omega) (by omega) (by omega) (by omega) (by omega) (by omega)
  split at h
  · obtain rfl := Lead.pending.inj h
    exact .four (by omega) (by omega) (by omega) (by omega) (by omega) (by omega)
  split at h
  · obtain rfl := Lead.pending.inj h
    exact .four (by omega) (by omega) (by omega) (by omega) (by omega) (by omega)
  split at h
  · obtain rfl := Lead.pending.inj h
    exact .four (by omega) (by omega) (by omega) (by omega) (by omega) (by omega)
  · cases h

/-- A sequence of two, three or four bytes that is complete is that of its character. -/
theorem exists_of_scan_pending {b : UInt8} {p : Pending} (hopens : Opens b p) {bytes : Bytes} {c : Char}
    {rest : List (Option Char)} (hscan : scan (some p) bytes = some c :: rest) :
    ∃ r, b :: bytes = encodeChar c ++ r ∧ scan none r = rest := by
  cases hopens with
  | two hlow hhigh =>
    obtain ⟨m, r, hm, -, -, rfl, rfl, hrest⟩ := exists_of_scan_last (by omega) (by omega) hscan
    refine ⟨r, ?_, hrest⟩
    generalize hv : b.toNat - 0xC0 = v
    have hn : (Char.ofNat (v * 0x40 + m)).toNat = v * 0x40 + m := toNat_ofNat (.inl (by omega))
    have hfirst : 0xC0 + (v * 0x40 + m) / 0x40 = b.toNat := by omega
    have hsecond : (v * 0x40 + m) % 0x40 = m := by omega
    simp only [encodeChar, hn]
    rw [if_neg (by omega), if_pos (by omega), hfirst, hsecond, toUInt8_toNat]
    rfl
  | @three v low high hb hvalue hlow hhigh hshort hsurrogate =>
    obtain ⟨k, r₁, hk, hklow, hkhigh, rfl, hlast⟩ := exists_of_scan_middle hlow hhigh (by decide) hscan
    obtain ⟨m, r, hm, -, -, rfl, rfl, hrest⟩ := exists_of_scan_last (by omega) (by omega) hlast
    refine ⟨r, ?_, hrest⟩
    generalize hn : (v * 0x40 + k) * 0x40 + m = n
    have hchar : (Char.ofNat n).toNat = n := toNat_ofNat (by unfold Nat.isValidChar; omega)
    have hfirst : 0xE0 + n / 0x1000 = b.toNat := by omega
    have hsecond : n / 0x40 % 0x40 = k := by omega
    have hthird : n % 0x40 = m := by omega
    simp only [encodeChar, hchar]
    rw [if_neg (by omega), if_neg (by omega), if_pos (by omega), hfirst, hsecond, hthird, toUInt8_toNat]
    rfl
  | @four v low high hb hvalue hlow hhigh hshort hbeyond =>
    obtain ⟨j, r₁, hj, hjlow, hjhigh, rfl, hmiddle⟩ := exists_of_scan_middle hlow hhigh (by decide) hscan
    obtain ⟨k, r₂, hk, -, -, rfl, hlast⟩ := exists_of_scan_middle (by omega) (by omega) (by decide) hmiddle
    obtain ⟨m, r, hm, -, -, rfl, rfl, hrest⟩ := exists_of_scan_last (by omega) (by omega) hlast
    refine ⟨r, ?_, hrest⟩
    generalize hn : ((v * 0x40 + j) * 0x40 + k) * 0x40 + m = n
    have hchar : (Char.ofNat n).toNat = n := toNat_ofNat (by unfold Nat.isValidChar; omega)
    have hfirst : 0xF0 + n / 0x40000 = b.toNat := by omega
    have hsecond : n / 0x1000 % 0x40 = j := by omega
    have hthird : n / 0x40 % 0x40 = k := by omega
    have hfourth : n % 0x40 = m := by omega
    simp only [encodeChar, hchar]
    rw [if_neg (by omega), if_neg (by omega), if_neg (by omega), hfirst, hsecond, hthird, hfourth, toUInt8_toNat]
    rfl

/-- The first character that is read has the bytes in front. -/
theorem exists_of_scan {bytes : Bytes} {c : Char} {rest : List (Option Char)} (h : scan none bytes = some c :: rest) :
    ∃ r, bytes = encodeChar c ++ r ∧ scan none r = rest := by
  cases bytes with
  | nil => cases h
  | cons b r =>
    rw [scan] at h
    split at h
    next d hlead =>
      obtain ⟨hd, hrest⟩ := List.cons.inj h
      obtain rfl := Option.some.inj hd
      simp only [lead] at hlead
      split at hlead
      next hb =>
        obtain rfl := Lead.char.inj hlead
        have hn : (Char.ofNat b.toNat).toNat = b.toNat := toNat_ofNat (.inl (by omega))
        refine ⟨r, ?_, hrest⟩
        simp [encodeChar, hn, hb]
      next => repeat' split at hlead
              all_goals cases hlead
    next p hlead => exact exists_of_scan_pending (opens_of_lead hlead) h
    next => cases (List.cons.inj h).1

/-- Something is read where a sequence is pending. -/
theorem scan_pending_ne (p : Pending) (bytes : Bytes) : scan (some p) bytes ≠ [] := by
  induction bytes generalizing p with
  | nil => simp [scan]
  | cons b r ih =>
    rw [scan]
    split
    · dsimp only
      split
      · simp
      · exact ih _
    · simp

theorem scan_cons_ne (b : UInt8) (r : Bytes) : scan none (b :: r) ≠ [] := by
  rw [scan]
  split
  · simp
  · exact scan_pending_ne _ _
  · simp

theorem eq_encode_of_scan {bytes : Bytes} {cs : List Char} (h : scan none bytes = cs.map some) :
    bytes = encode cs := by
  induction cs generalizing bytes with
  | nil =>
    cases bytes with
    | nil => rfl
    | cons b r => exact absurd h (scan_cons_ne b r)
  | cons c cs ih =>
    obtain ⟨r, rfl, hr⟩ := exists_of_scan h
    rw [ih hr, encode, encode, List.flatMap_cons]

theorem eq_map_of_mapM_id {α : Type} {xs : List (Option α)} {ys : List α} (h : xs.mapM id = some ys) :
    xs = ys.map some := by
  induction xs generalizing ys with
  | nil =>
    obtain rfl := Option.some.inj h
    rfl
  | cons x xs ih =>
    rw [List.mapM_cons] at h
    obtain ⟨y, hy, h⟩ := Option.bind_eq_some_iff.1 h
    obtain ⟨vs, hvs, h⟩ := Option.bind_eq_some_iff.1 h
    obtain rfl := Option.some.inj h
    rw [ih hvs, List.map_cons, ← hy, id]

/-- **Bytes are a text exactly if they are those of the text.** -/
theorem decode?_eq_some_iff {bytes : Bytes} {cs : List Char} : decode? bytes = some cs ↔ bytes = encode cs := by
  constructor
  · intro h
    exact eq_encode_of_scan (eq_map_of_mapM_id h)
  · rintro rfl
    exact decode?_encode cs

/-! ## plain text -/

theorem encode_append (cs ds : List Char) : encode (cs ++ ds) = encode cs ++ encode ds := List.flatMap_append

theorem encode_cons (c : Char) (cs : List Char) : encode (c :: cs) = encodeChar c ++ encode cs := List.flatMap_cons

/-- The byte of a character in ASCII. -/
def asciiByte (c : Char) : UInt8 := c.toNat.toUInt8

theorem encodeChar_of_ascii {c : Char} (h : c.toNat < 128) : encodeChar c = [asciiByte c] := by
  simp [encodeChar, asciiByte, h]

/-- A text in ASCII has one byte for each character. -/
theorem encode_of_ascii {cs : List Char} (h : ∀ c ∈ cs, c.toNat < 128) : encode cs = cs.map asciiByte := by
  induction cs with
  | nil => rfl
  | cons c cs ih =>
    rw [encode_cons, encodeChar_of_ascii (h c List.mem_cons_self), ih fun d hd => h d (List.mem_cons_of_mem c hd)]
    rfl

theorem toNat_asciiByte {c : Char} (h : c.toNat < 128) : (asciiByte c).toNat = c.toNat :=
  toNat_toUInt8 (by omega)

theorem asciiByte_inj {c d : Char} (hc : c.toNat < 128) (hd : d.toNat < 128) :
    asciiByte c = asciiByte d ↔ c = d := by
  refine ⟨fun h => Char.toNat_inj.1 ?_, congrArg asciiByte⟩
  rw [← toNat_asciiByte hc, ← toNat_asciiByte hd, h]

end Utf8

theorem ofUtf8?_eq_some_iff {bytes : Bytes} {text : String} : ofUtf8? bytes = some text ↔ bytes = utf8 text := by
  rw [ofUtf8?, Option.map_eq_some_iff, utf8]
  constructor
  · rintro ⟨cs, hcs, rfl⟩
    rw [String.toList_ofList, Utf8.decode?_eq_some_iff.1 hcs]
  · rintro rfl
    exact ⟨text.toList, Utf8.decode?_encode _, String.ofList_toList⟩

/-! ## escapes -/

namespace Percent

theorem decode_cons {b : UInt8} (h : b ≠ 0x25) (rest : Bytes) : decode (b :: rest) = b :: decode rest := by
  match rest with
  | [] => rfl
  | [_] => rfl
  | _ :: _ :: _ => rw [decode, if_neg h]

theorem digit_upperDigit : ∀ n < 16, (Hex.upperDigit n).toNat < 128 ∧ Utf8.asciiByte (Hex.upperDigit n) ≠ 0x2B ∧
    digit? (Utf8.asciiByte (Hex.upperDigit n)) = some n := by
  decide

/-- The bytes of an escape. -/
def escapeBytes (b : UInt8) : Bytes :=
  [0x25, Utf8.asciiByte (Hex.upperDigit (b.toNat / 16)), Utf8.asciiByte (Hex.upperDigit (b.toNat % 16))]

theorem encode_encodeByte (b : UInt8) : Utf8.encode (encodeByte b) = escapeBytes b := by
  have hb := b.toNat_lt
  refine Utf8.encode_of_ascii ?_
  simp only [encodeByte, List.mem_cons, List.not_mem_nil, or_false, forall_eq_or_imp, forall_eq]
  exact ⟨by decide, (digit_upperDigit _ (by omega)).1, (digit_upperDigit _ (by omega)).1⟩

theorem decode_escapeBytes (b : UInt8) (rest : Bytes) : decode (escapeBytes b ++ rest) = b :: decode rest := by
  have hb := b.toNat_lt
  have hvalue : (b.toNat / 16 * 16 + b.toNat % 16).toUInt8 = b := by
    rw [Nat.div_add_mod']
    exact UInt8.ofNat_toNat
  simp only [escapeBytes, List.cons_append, List.nil_append]
  rw [decode, if_pos rfl, (digit_upperDigit _ (by omega)).2.2, (digit_upperDigit _ (by omega)).2.2]
  simp only [hvalue]

end Percent

/-! ## pairs -/

namespace FormEncoded

/-- A byte, a plus sign standing for a blank. -/
def blankOf (b : UInt8) : UInt8 := if b = 0x2B then 0x20 else b

theorem bounds_of_isAlphanum {c : Char} (h : c.isAlphanum) :
    (48 ≤ c.toNat ∧ c.toNat ≤ 57) ∨ (65 ≤ c.toNat ∧ c.toNat ≤ 90) ∨ (97 ≤ c.toNat ∧ c.toNat ≤ 122) := by
  unfold Char.isAlphanum Char.isAlpha Char.isUpper Char.isLower Char.isDigit at h
  simp only [Bool.or_eq_true, Bool.and_eq_true, decide_eq_true_eq, ge_iff_le, UInt32.le_iff_toNat_le] at h
  have hupper : 'A'.val.toNat = 65 ∧ 'Z'.val.toNat = 90 := by decide
  have hlower : 'a'.val.toNat = 97 ∧ 'z'.val.toNat = 122 := by decide
  have hdigit : '0'.val.toNat = 48 ∧ '9'.val.toNat = 57 := by decide
  have htoNat : c.toNat = c.val.toNat := rfl
  omega

theorem bounds_of_isPlain {c : Char} (h : isPlain c) :
    c.toNat < 128 ∧ c ≠ '+' ∧ c ≠ '%' ∧ c ≠ '&' ∧ c ≠ '=' := by
  have hne : ∀ d, isPlain d = false → c ≠ d := by
    rintro d hd rfl
    rw [h] at hd
    cases hd
  refine ⟨?_, hne _ (by decide), hne _ (by decide), hne _ (by decide), hne _ (by decide)⟩
  simp only [isPlain, Bool.or_eq_true, decide_eq_true_eq] at h
  rcases h with (((h | rfl) | rfl) | rfl) | rfl
  · have hbounds := bounds_of_isAlphanum h
    omega
  all_goals decide

/-- What is written for one character. -/
def encodeOne (c : Char) : List Char := if c = ' ' then ['+'] else if isPlain c then [c] else Percent.encodeChar c

theorem decode_escapes (bytes rest : Bytes) :
    Percent.decode ((Utf8.encode (bytes.flatMap Percent.encodeByte)).map blankOf ++ rest) =
      bytes ++ Percent.decode rest := by
  induction bytes with
  | nil => rfl
  | cons b bytes ih =>
    have hb := b.toNat_lt
    have hblank : (Percent.escapeBytes b).map blankOf = Percent.escapeBytes b := by
      simp [Percent.escapeBytes, blankOf, (Percent.digit_upperDigit (b.toNat / 16) (by omega)).2.1,
        (Percent.digit_upperDigit (b.toNat % 16) (by omega)).2.1]
    rw [List.flatMap_cons, Utf8.encode_append, Percent.encode_encodeByte, List.map_append, hblank, List.append_assoc,
      Percent.decode_escapeBytes, ih, List.cons_append]

theorem decode_encodeOne (c : Char) (rest : Bytes) :
    Percent.decode ((Utf8.encode (encodeOne c)).map blankOf ++ rest) = Utf8.encodeChar c ++ Percent.decode rest := by
  unfold encodeOne
  split
  next hblank =>
    subst hblank
    exact Percent.decode_cons (by decide) rest
  split
  next hplain =>
    obtain ⟨hascii, hplus, hpercent, -⟩ := bounds_of_isPlain hplain
    have hb : Utf8.asciiByte c ≠ 0x2B := fun h => hplus ((Utf8.asciiByte_inj hascii (by decide)).1 h)
    have hb' : Utf8.asciiByte c ≠ 0x25 := fun h => hpercent ((Utf8.asciiByte_inj hascii (by decide)).1 h)
    rw [Utf8.encode_cons, Utf8.encodeChar_of_ascii hascii]
    simpa [Utf8.encode, blankOf, hb] using Percent.decode_cons hb' rest
  · exact decode_escapes (Utf8.encodeChar c) rest

/-- A text is read back from its encoded form. -/
theorem decode_encode (cs : List Char) : decode (Utf8.encode (encode cs)) = cs := by
  have hbytes : ∀ cs, Percent.decode ((Utf8.encode (encode cs)).map blankOf) = Utf8.encode cs := by
    intro cs
    induction cs with
    | nil => rfl
    | cons c cs ih =>
      have hcons : encode (c :: cs) = encodeOne c ++ encode cs := List.flatMap_cons
      rw [hcons, Utf8.encode_append, List.map_append, decode_encodeOne, ih, Utf8.encode_cons]
  exact (congrArg Utf8.decodeLossy (hbytes cs)).trans (Utf8.decodeLossy_encode cs)

/-- An encoded text is not shorter. -/
theorem length_le_encode (cs : List Char) : cs.length ≤ (encode cs).length := by
  induction cs with
  | nil => exact Nat.zero_le _
  | cons c cs ih =>
    have hone : 0 < (encodeOne c).length := by
      unfold encodeOne
      split
      · exact Nat.zero_lt_succ _
      split
      · exact Nat.zero_lt_succ _
      · obtain ⟨b, bs, hbytes⟩ := List.exists_cons_of_length_pos (Utf8.length_encodeChar_pos c)
        rw [Percent.encodeChar, hbytes, List.flatMap_cons]
        exact Nat.zero_lt_succ _
    have hcons : encode (c :: cs) = encodeOne c ++ encode cs := List.flatMap_cons
    rw [hcons, List.length_append, List.length_cons]
    omega

/-- May the character stand in an encoded text? -/
def isWritten (c : Char) : Bool := isPlain c || c = '+' || c = '%'

theorem bounds_of_isWritten {c : Char} (h : isWritten c) : c.toNat < 128 ∧ c ≠ '&' ∧ c ≠ '=' := by
  simp only [isWritten, Bool.or_eq_true, decide_eq_true_eq] at h
  rcases h with (h | rfl) | rfl
  · obtain ⟨hascii, -, -, hand, hequals⟩ := bounds_of_isPlain h
    exact ⟨hascii, hand, hequals⟩
  · decide
  · decide

theorem isWritten_of_mem_encode {cs : List Char} : ∀ c ∈ encode cs, isWritten c := by
  intro c hc
  obtain ⟨d, -, hc⟩ := List.mem_flatMap.1 hc
  split at hc
  · obtain rfl := List.mem_singleton.1 hc
    rfl
  split at hc
  next hplain =>
    obtain rfl := List.mem_singleton.1 hc
    simp [isWritten, hplain]
  · obtain ⟨b, -, hc⟩ := List.mem_flatMap.1 hc
    have hb := b.toNat_lt
    have hdigit : ∀ n < 16, isWritten (Hex.upperDigit n) := by decide
    simp only [Percent.encodeByte, List.mem_cons, List.not_mem_nil, or_false] at hc
    rcases hc with rfl | rfl | rfl
    · rfl
    · exact hdigit _ (by omega)
    · exact hdigit _ (by omega)

theorem splitWhere_of_forall {α : Type} {p : α → Bool} {xs : List α} (h : ∀ x ∈ xs, p x = false) :
    splitWhere p xs = [xs] := by
  induction xs with
  | nil => rfl
  | cons x xs ih =>
    rw [splitWhere, h x List.mem_cons_self, ih fun y hy => h y (List.mem_cons_of_mem x hy)]
    rfl

theorem decodePair_append {name value : Bytes} (h : ∀ b ∈ name, (b ≠ 0x3D : Bool)) :
    decodePair (name ++ 0x3D :: value) = (decode name, decode value) := by
  have hname : (name ++ 0x3D :: value).takeWhile (· ≠ 0x3D) = name := by
    rw [List.takeWhile_append_of_pos h]
    simp
  have hvalue : (name ++ 0x3D :: value).drop (name.length + 1) = value := by simp
  simp only [decodePair, hname, hvalue]

/-- **A pair is read back from its encoded form.** -/
theorem pairs_pair (name value : List Char) : pairs (Utf8.encode (pair name value)) = [(name, value)] := by
  have hbytes : ∀ cs b, b ∈ Utf8.encode (encode cs) → b ≠ 0x26 ∧ b ≠ 0x3D := by
    intro cs b hb
    rw [Utf8.encode_of_ascii fun c hc => (bounds_of_isWritten (isWritten_of_mem_encode c hc)).1] at hb
    obtain ⟨c, hc, rfl⟩ := List.mem_map.1 hb
    obtain ⟨hascii, hand, hequals⟩ := bounds_of_isWritten (isWritten_of_mem_encode c hc)
    exact ⟨fun h => hand ((Utf8.asciiByte_inj hascii (by decide)).1 h),
      fun h => hequals ((Utf8.asciiByte_inj hascii (by decide)).1 h)⟩
  have hpair : Utf8.encode (pair name value) = Utf8.encode (encode name) ++ 0x3D :: Utf8.encode (encode value) := by
    rw [pair, Utf8.encode_append, Utf8.encode_cons]
    rfl
  have hone : splitWhere (· = 0x26) (Utf8.encode (pair name value)) = [Utf8.encode (pair name value)] := by
    refine splitWhere_of_forall fun b hb => ?_
    rw [hpair] at hb
    rcases List.mem_append.1 hb with hb | hb
    · simpa using (hbytes name b hb).1
    rcases List.mem_cons.1 hb with rfl | hb
    · decide
    · simpa using (hbytes value b hb).1
  have hname : ∀ b ∈ Utf8.encode (encode name), (b ≠ 0x3D : Bool) := by
    intro b hb
    simpa using (hbytes name b hb).2
  rw [pairs, hone, hpair]
  simp [decodePair_append hname, decode_encode]

end FormEncoded

end ProcessGraph.Text
