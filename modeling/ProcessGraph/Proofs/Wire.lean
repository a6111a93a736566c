import Mathlib.Algebra.GroupWithZero.Nat
import Mathlib.Data.List.TakeDrop
import Mathlib.Data.List.TakeWhile
import ProcessGraph.Fixture.Server
import ProcessGraph.Proofs.Encodings

/-!
# Requests are read back from the wire

* `isGraphic`: visible characters.
* `Writable`, `readFields_lines`: fields that can be written are read back from their lines.
* `WritableLine`, `RequestLine.read?_requestLine`: so is the first line of a request.
* `number?_toString`: so is a number from its digits.
* `Unframing`, `Request.declared`: headers that do not frame a body, and those that are sent in their place.
* `Target.ofPath?_append`, `Target.parse?_absolute`: a path and a query are read back from targets of both forms.
* `ofWire_message`, `Request.ofWire_wire`: a request arrives as it was sent, with the length of its body.
-/

namespace ProcessGraph.Http

open Text (Bytes utf8)
open Text.Utf8 (asciiByte)

/-! ## bytes and characters -/

/-- Is the character visible, and in ASCII? -/
def isGraphic (c : Char) : Bool := 32 < c.toNat && c.toNat < 127

theorem lt_of_isGraphic {c : Char} (h : isGraphic c) : c.toNat < 128 := by
  have hc : c.toNat < 127 := of_decide_eq_true (Bool.and_eq_true_iff.1 h).2
  omega

theorem isGraphic_of_isNameChar {c : Char} (h : isNameChar c) : isGraphic c := by
  simp only [isNameChar, Bool.or_eq_true] at h
  rcases h with h | h
  · have hbounds := Text.FormEncoded.bounds_of_isAlphanum h
    simp only [isGraphic, Bool.and_eq_true, decide_eq_true_eq]
    omega
  · have hsigns : "!#$%&'*+-.^_`|~".toList.all isGraphic := by decide
    exact List.all_eq_true.1 hsigns c (List.contains_iff_mem.1 h)

theorem ascii_of_isNameChar {cs : List Char} (h : ∀ c ∈ cs, isNameChar c) : ∀ c ∈ cs, c.toNat < 128 :=
  fun c hc => lt_of_isGraphic (isGraphic_of_isNameChar (h c hc))

theorem ofNat_asciiByte {c : Char} (h : c.toNat < 128) : Char.ofNat (asciiByte c).toNat = c := by
  rw [Text.Utf8.toNat_asciiByte h, Char.ofNat_toNat]

theorem asciiChars_map {cs : List Char} (h : ∀ c ∈ cs, c.toNat < 128) : asciiChars (cs.map asciiByte) = cs := by
  rw [asciiChars, List.map_map]
  exact (List.map_congr_left fun c hc => ofNat_asciiByte (h c hc)).trans (List.map_id cs)

/-- A stretch is split off where it ends. -/
theorem span_append {α : Type} {p : α → Bool} {xs : List α} (h : ∀ x ∈ xs, p x) {y : α} (hy : p y = false)
    (ys : List α) : (xs ++ y :: ys).span p = (xs, y :: ys) := by
  rw [List.span_eq_takeWhile_dropWhile, List.takeWhile_append_of_pos h, List.dropWhile_append_of_pos h]
  simp [hy]

/-! ## fields -/

/-- A field that can be written: its name is a token, and its value has no blanks at its ends. -/
structure Writable (field : String × Bytes) : Prop where
  name_ne : field.1.toList ≠ []
  isName : ∀ c ∈ field.1.toList, isNameChar c
  length_le : field.1.length ≤ maxNameLength
  isValue : ∀ b ∈ field.2, isValueByte b
  trimmed : trimValue field.2 = field.2

theorem trimValue_of_forall {bytes : Bytes} (h : ∀ b ∈ bytes, isBlankByte b = false) : trimValue bytes = bytes := by
  have hdrop : ∀ {bs : Bytes}, (∀ b ∈ bs, isBlankByte b = false) → bs.dropWhile isBlankByte = bs := by
    intro bs hbs
    cases bs with
    | nil => rfl
    | cons b bs => simp [hbs b List.mem_cons_self]
  rw [trimValue, hdrop h, hdrop fun b hb => h b (List.mem_reverse.1 hb), List.reverse_reverse]

/-- A value of visible characters can be written. -/
theorem writable_of_isGraphic {name : String} {value : List Char} (hne : name.toList ≠ [])
    (hname : ∀ c ∈ name.toList, isNameChar c) (hlength : name.length ≤ maxNameLength)
    (hvalue : ∀ c ∈ value, isGraphic c) : Writable (name, Text.Utf8.encode value) := by
  have hbytes : ∀ b ∈ Text.Utf8.encode value, 32 < b.toNat ∧ b.toNat < 127 := by
    intro b hb
    rw [Text.Utf8.encode_of_ascii fun c hc => lt_of_isGraphic (hvalue c hc)] at hb
    obtain ⟨c, hc, rfl⟩ := List.mem_map.1 hb
    rw [Text.Utf8.toNat_asciiByte (lt_of_isGraphic (hvalue c hc))]
    simpa [isGraphic] using hvalue c hc
  refine ⟨hne, hname, hlength, fun b hb => ?_, trimValue_of_forall fun b hb => ?_⟩
  · have hb := hbytes b hb
    simp only [isValueByte, Bool.or_eq_true, Bool.and_eq_true, decide_eq_true_eq]
    omega
  · obtain ⟨hlow, -⟩ := hbytes b hb
    have hblank : b ≠ 0x20 := by rintro rfl; simp at hlow
    have htab : b ≠ 0x09 := by rintro rfl; simp at hlow
    simp [isBlankByte, hblank, htab]

theorem isGraphic_of_isDigit {c : Char} (h : c.isDigit) : isGraphic c :=
  isGraphic_of_isNameChar (by simp [isNameChar, Char.isAlphanum, h])

/-- The field that declares a length. -/
theorem writable_length (n : Nat) : Writable (lengthName, utf8 (toString n)) := by
  refine writable_of_isGraphic (by decide) (List.all_eq_true.1 (by decide)) (by decide) fun c hc => ?_
  have htext : (toString n).toList = Nat.toDigits 10 n := by simp
  rw [htext] at hc
  exact isGraphic_of_isDigit (Nat.isDigit_of_mem_toDigits (by decide) (by decide) hc)

theorem name_bytes {cs : List Char} (h : ∀ c ∈ cs, isNameChar c) : ∀ b ∈ cs.map asciiByte, isNameByte b := by
  intro b hb
  obtain ⟨c, hc, rfl⟩ := List.mem_map.1 hb
  rw [isNameByte, ofNat_asciiByte (lt_of_isGraphic (isGraphic_of_isNameChar (h c hc)))]
  exact h c hc

theorem fieldLine_eq {field : String × Bytes} (h : Writable field) :
    fieldLine field = field.1.toList.map asciiByte ++ 0x3A :: 0x20 :: (field.2 ++ lineEnd) := by
  have hcolon : Text.Utf8.encode ": ".toList = [0x3A, 0x20] := rfl
  rw [fieldLine, utf8, String.toList_append, Text.Utf8.encode_append,
    Text.Utf8.encode_of_ascii (ascii_of_isNameChar h.isName), hcolon]
  simp

theorem trimValue_cons_blank (bytes : Bytes) : trimValue (0x20 :: bytes) = trimValue bytes := rfl

/-- **A field is read back from its line.** -/
theorem readField?_fieldLine {field : String × Bytes} (h : Writable field) (rest : Bytes) :
    readField? (fieldLine field ++ rest) = some (field, rest) := by
  have hcolon : isNameByte 0x3A = false := by decide
  have hreturn : isValueByte 0x0D = false := by decide
  have hvalue : ∀ b ∈ 0x20 :: field.2, isValueByte b := List.forall_mem_cons.2 ⟨by decide, h.isValue⟩
  have hline : fieldLine field ++ rest =
      field.1.toList.map asciiByte ++ 0x3A :: ((0x20 :: field.2) ++ 0x0D :: 0x0A :: rest) := by
    rw [fieldLine_eq h]
    simp [lineEnd]
  have hname : field.1.toList.map asciiByte ≠ [] := by simpa using h.name_ne
  have hback : String.ofList (asciiChars (field.1.toList.map asciiByte)) = field.1 := by
    rw [asciiChars_map (ascii_of_isNameChar h.isName), String.ofList_toList]
  unfold readField?
  rw [hline, span_append (name_bytes h.isName) hcolon]
  simp only
  rw [span_append hvalue hreturn]
  simp only [trimValue_cons_blank, h.trimmed, hback]
  rfl

/-- The first byte of a field ends no line. -/
theorem afterLineEnd?_fieldLine {field : String × Bytes} (h : Writable field) (rest : Bytes) :
    afterLineEnd? (fieldLine field ++ rest) = none := by
  obtain ⟨c, cs, hcs⟩ := List.exists_cons_of_ne_nil h.name_ne
  have hbyte : isNameByte (asciiByte c) := name_bytes h.isName _ (by simp [hcs])
  rw [fieldLine_eq h, hcs, List.map_cons, List.cons_append, List.cons_append]
  unfold afterLineEnd?
  split
  next heq =>
    rw [(List.cons.inj heq).1] at hbyte
    cases hbyte
  next heq =>
    rw [(List.cons.inj heq).1] at hbyte
    cases hbyte
  · rfl

/-- **Fields are read back from their lines.** -/
theorem readFields_lines {fields : Fields} (h : ∀ f ∈ fields, Writable f) {room : Nat} (hroom : fields.length ≤ room)
    (rest : Bytes) : readFields room (fields.flatMap fieldLine ++ (lineEnd ++ rest)) = .ok (fields, rest) := by
  induction fields generalizing room with
  | nil =>
    unfold readFields
    rfl
  | cons f fields ih =>
    obtain ⟨hf, hfields⟩ := List.forall_mem_cons.1 h
    obtain ⟨room, rfl⟩ : ∃ n, room = n + 1 := ⟨room - 1, by rw [List.length_cons] at hroom; omega⟩
    have hrest := ih hfields (Nat.le_of_succ_le_succ hroom)
    unfold readFields
    rw [List.flatMap_cons, List.append_assoc, afterLineEnd?_fieldLine hf, readField?_fieldLine hf]
    simp only [hrest]
    rfl

/-! ## first lines -/

theorem utf8_version (rest : Bytes) :
    afterVersion? (utf8 "HTTP/1.1" ++ (lineEnd ++ rest)) = some (1, lineEnd ++ rest) := rfl

theorem dropEmptyLines_of_isNameByte {b : UInt8} (h : isNameByte b) (bytes : Bytes) :
    dropEmptyLines (b :: bytes) = b :: bytes := by
  unfold dropEmptyLines
  split
  next heq =>
    rw [(List.cons.inj heq).1] at h
    cases h
  next heq =>
    rw [(List.cons.inj heq).1] at h
    cases h
  · rfl

/-- A method and a target that can be written in a first line. -/
structure WritableLine (method : String) (target : List Char) : Prop where
  method_ne : method.toList ≠ []
  isName : ∀ c ∈ method.toList, isNameChar c
  target_ne : target ≠ []
  isGraphic : ∀ c ∈ target, isGraphic c

theorem requestLine_eq {method : String} {target : List Char} (h : WritableLine method target) :
    utf8 (requestLine method target) =
      method.toList.map asciiByte ++ 0x20 :: (target.map asciiByte ++ 0x20 :: utf8 "HTTP/1.1") := by
  have hmethod := ascii_of_isNameChar h.isName
  have htarget : ∀ c ∈ target, c.toNat < 128 := fun c hc => lt_of_isGraphic (h.isGraphic c hc)
  have htext : (requestLine method target).toList = method.toList ++ ' ' :: (target ++ ' ' :: "HTTP/1.1".toList) := by
    simp [requestLine]
  rw [utf8, htext, Text.Utf8.encode_append, Text.Utf8.encode_cons, Text.Utf8.encode_append, Text.Utf8.encode_cons,
    Text.Utf8.encode_of_ascii hmethod, Text.Utf8.encode_of_ascii htarget]
  rfl

/-- **The first line of a request is read back.** -/
theorem RequestLine.read?_requestLine {method : String} {target : List Char} (h : WritableLine method target)
    (rest : Bytes) :
    RequestLine.read? (utf8 (requestLine method target) ++ (lineEnd ++ rest)) = some (⟨method, target, 1⟩, rest) := by
  have hmethod := ascii_of_isNameChar h.isName
  have htarget : ∀ c ∈ target, c.toNat < 128 := fun c hc => lt_of_isGraphic (h.isGraphic c hc)
  have hblank : isNameByte 0x20 = false := by decide
  have hblank' : isTargetByte 0x20 = false := by decide
  have hbytes : ∀ b ∈ target.map asciiByte, isTargetByte b := by
    intro b hb
    obtain ⟨c, hc, rfl⟩ := List.mem_map.1 hb
    have hgraphic := h.isGraphic c hc
    simp only [Http.isGraphic, Bool.and_eq_true, decide_eq_true_eq] at hgraphic
    rw [isTargetByte, Text.Utf8.toNat_asciiByte (htarget c hc)]
    simp only [Bool.and_eq_true, decide_eq_true_eq]
    omega
  have hline : utf8 (requestLine method target) ++ (lineEnd ++ rest) = method.toList.map asciiByte ++
      0x20 :: (target.map asciiByte ++ 0x20 :: (utf8 "HTTP/1.1" ++ (lineEnd ++ rest))) := by
    rw [requestLine_eq h]
    simp
  have hdrop : dropEmptyLines (utf8 (requestLine method target) ++ (lineEnd ++ rest)) =
      utf8 (requestLine method target) ++ (lineEnd ++ rest) := by
    obtain ⟨c, cs, hcs⟩ := List.exists_cons_of_ne_nil h.method_ne
    rw [hline, hcs, List.map_cons, List.cons_append]
    exact dropEmptyLines_of_isNameByte (name_bytes h.isName _ (by simp [hcs])) _
  have hback : String.ofList (asciiChars (method.toList.map asciiByte)) = method := by
    rw [asciiChars_map hmethod, String.ofList_toList]
  have hdecode : Text.Utf8.decode? (target.map asciiByte) = some target := by
    rw [← Text.Utf8.encode_of_ascii htarget, Text.Utf8.decode?_encode]
  unfold RequestLine.read?
  rw [hdrop, hline, span_append (name_bytes h.isName) hblank]
  obtain ⟨m, ms, hms⟩ := List.exists_cons_of_ne_nil (l := method.toList.map asciiByte) (by simpa using h.method_ne)
  obtain ⟨t, ts, hts⟩ := List.exists_cons_of_ne_nil (l := target.map asciiByte) (by simpa using h.target_ne)
  simp only [hms]
  rw [span_append hbytes hblank']
  simp only [hts]
  rw [← hts, hdecode, ← hms, hback, utf8_version]
  rfl

/-! ## lengths -/

theorem digit?_asciiByte {c : Char} (h : c.isDigit) : digit? (asciiByte c) = some (c.toNat - '0'.toNat) := by
  have hbounds : 48 ≤ c.toNat ∧ c.toNat ≤ 57 := by
    simpa [Char.isDigit, UInt32.le_iff_toNat_le] using h
  have hrange : 0x30 ≤ c.toNat ∧ c.toNat ≤ 0x39 := hbounds
  rw [digit?, Text.Utf8.toNat_asciiByte (by omega), if_pos hrange]
  rfl

theorem mapM_digit? {ds : List Char} (h : ∀ c ∈ ds, c.isDigit) :
    (ds.map asciiByte).mapM digit? = some (ds.map fun c => c.toNat - '0'.toNat) := by
  induction ds with
  | nil => rfl
  | cons c ds ih =>
    obtain ⟨hc, hds⟩ := List.forall_mem_cons.1 h
    rw [List.map_cons, List.mapM_cons, digit?_asciiByte hc, ih hds]
    rfl

theorem utf8_toString (n : Nat) : utf8 (toString n) = (Nat.toDigits 10 n).map asciiByte := by
  have htext : (toString n).toList = Nat.toDigits 10 n := by simp
  rw [utf8, htext]
  refine Text.Utf8.encode_of_ascii fun c hc => ?_
  have hdigit : c.isDigit := Nat.isDigit_of_mem_toDigits (by decide) (by decide) hc
  have hbounds := Text.FormEncoded.bounds_of_isAlphanum (c := c) (by simp [Char.isAlphanum, hdigit])
  omega

theorem foldl_toDigits (n : Nat) : (Nat.toDigits 10 n).foldl (fun n c => n * 10 + (c.toNat - '0'.toNat)) 0 = n := by
  have hfold := Nat.ofDigitChars_toDigits (b := 10) (n := n) (by decide) (by decide)
  simpa only [Nat.ofDigitChars, Nat.mul_comm] using hfold

/-- **A number is read back from its digits.** -/
theorem number?_toString (n : Nat) : number? (utf8 (toString n)) = some n := by
  have hdigit : ∀ c ∈ Nat.toDigits 10 n, c.isDigit := fun c hc =>
    Nat.isDigit_of_mem_toDigits (by decide) (by decide) hc
  have hne : ((Nat.toDigits 10 n).map asciiByte).isEmpty = false := by
    simp [Nat.toDigits_ne_nil]
  have hvalue : ((Nat.toDigits 10 n).map fun c => c.toNat - '0'.toNat).foldl (fun n d => n * 10 + d) 0 = n := by
    rw [List.foldl_map]
    exact foldl_toDigits n
  rw [number?, utf8_toString, hne, mapM_digit? hdigit]
  simpa using hvalue

/-! ## framings -/

/-- The field says nothing about where the body ends. -/
def Unframing (field : String × Bytes) : Prop := lowerName field.1 ≠ codingName ∧ lowerName field.1 ≠ lengthName

theorem foldlM_add {fields : Fields} (h : ∀ f ∈ fields, Unframing f) (minor : Nat) (a : Announced) :
    fields.foldlM (Announced.add minor) a = .ok a := by
  induction fields with
  | nil => rfl
  | cons f fields ih =>
    obtain ⟨⟨hcoding, hlength⟩, hfields⟩ := List.forall_mem_cons.1 h
    have hadd : Announced.add minor a f = .ok a := by simp [Announced.add, hcoding, hlength]
    rw [List.foldlM_cons, hadd]
    exact ih hfields

/-- A request that does not say where its body ends has none. -/
theorem requestFraming_of_unframing {fields : Fields} (h : ∀ f ∈ fields, Unframing f) (minor : Nat) :
    requestFraming minor fields = .ok (.length 0) := by
  rw [requestFraming, foldlM_add h]
  rfl

theorem length?_toString {n : Nat} (h : n ≤ maxLength) : length? (utf8 (toString n)) = some n := by
  have hfits : n < Nat.pow 2 64 := Nat.lt_of_le_of_lt h (by decide)
  rw [length?, number?_toString]
  simp [Option.filter, hfits]

/-- A request whose last field declares the length of its body. -/
theorem requestFraming_concat {fields : Fields} (h : ∀ f ∈ fields, Unframing f) {n : Nat} (hn : n ≤ maxLength)
    (minor : Nat) :
    requestFraming minor (fields ++ [(lengthName, utf8 (toString n))]) = .ok (.length n) := by
  have hname : lowerName lengthName = lengthName := by decide
  have hother : lengthName ≠ codingName := by decide
  have hadd : Announced.add minor ⟨none, none⟩ (lengthName, utf8 (toString n)) = .ok ⟨some n, none⟩ := by
    simp only [Announced.add, hname, hother, if_false, Option.isNone_none, Bool.and_true, decide_true, if_true,
      length?_toString hn, hn]
  have hlast : [(lengthName, utf8 (toString n))].foldlM (Announced.add minor) ⟨none, none⟩ = .ok ⟨some n, none⟩ := by
    rw [List.foldlM_cons, hadd]
    rfl
  have hfold : (fields ++ [(lengthName, utf8 (toString n))]).foldlM (Announced.add minor) ⟨none, none⟩ =
      .ok ⟨some n, none⟩ := by
    rw [List.foldlM_append, foldlM_add h]
    exact hlast
  rw [requestFraming, hfold]
  rfl

/-! ## targets -/

/-- The query of a target, with its question mark. -/
def queryText : Option (List Char) → List Char
  | some q => '?' :: q
  | none => []

theorem ne_of_isPathChar {c : Char} (h : isPathChar c) : c ≠ '?' ∧ c ≠ '#' := by
  have hne : ∀ d, isPathChar d = false → c ≠ d := by
    rintro d hd rfl
    rw [h] at hd
    cases hd
  exact ⟨hne '?' (by decide), hne '#' (by decide)⟩

theorem ne_of_isQueryChar {c : Char} (h : isQueryChar c) : c ≠ '#' := by
  rintro rfl
  cases h

/-- **A path and a query are read back from a target.** -/
theorem Target.ofPath?_append {path : List Char} (hne : path ≠ []) (hpath : ∀ c ∈ path, isPathChar c)
    {query : Option (List Char)} (hquery : ∀ q ∈ query, ∀ c ∈ q, isQueryChar c) :
    ofPath? (path ++ queryText query) = some ⟨path, query.getD []⟩ := by
  have hquestion : ∀ c ∈ path, (c ≠ '?' : Bool) := fun c hc => by simpa using (ne_of_isPathChar (hpath c hc)).1
  have hnumber : ∀ c ∈ path ++ queryText query, (c ≠ '#' : Bool) := by
    intro c hc
    rcases List.mem_append.1 hc with hc | hc
    · simpa using (ne_of_isPathChar (hpath c hc)).2
    · cases query with
      | none => cases hc
      | some q =>
        rcases List.mem_cons.1 hc with rfl | hc
        · decide
        · simpa using ne_of_isQueryChar (hquery q rfl c hc)
  have htake : (path ++ queryText query).takeWhile (· ≠ '?') = path := by
    rw [List.takeWhile_append_of_pos hquestion]
    cases query <;> simp [queryText]
  have hdrop : (path ++ queryText query).drop (path.length + 1) = query.getD [] := by
    cases query <;> simp [queryText]
  have hquery : (query.getD []).all isQueryChar := by
    cases query with
    | none => rfl
    | some q => exact List.all_eq_true.2 (hquery q rfl)
  have hpath : path.all isPathChar := List.all_eq_true.2 hpath
  have hempty : path.isEmpty = false := by simp [hne]
  unfold ofPath?
  rw [List.takeWhile_eq_self_iff.2 hnumber]
  simp only [htake, hdrop, hpath, hquery, hempty, Bool.and_true, if_true, Bool.false_eq_true, if_false]

/-- A target that begins with a slash is a path. -/
theorem Target.parse?_path (cs : List Char) : Target.parse? ('/' :: cs) = ofPath? ('/' :: cs) := rfl

/-- A target that is a whole URL is what follows its authority. -/
theorem Target.parse?_absolute {authority tail : List Char} (hne : authority ≠ []) (hauthority : isAuthority authority)
    (hends : ∀ c ∈ authority, c ≠ '/' ∧ c ≠ '?' ∧ c ≠ '#') :
    Target.parse? ("http".toList ++ ':' :: '/' :: '/' :: (authority ++ '/' :: tail)) = ofPath? ('/' :: tail) := by
  have hscheme : afterScheme? ("http".toList ++ ':' :: '/' :: '/' :: (authority ++ '/' :: tail)) =
      some (authority ++ '/' :: tail) := rfl
  have hends : ∀ c ∈ authority, (c ≠ '/' && c ≠ '?' && c ≠ '#') = true := by
    intro c hc
    simpa [and_assoc] using hends c hc
  have htake : (authority ++ '/' :: tail).takeWhile (fun c => c ≠ '/' && c ≠ '?' && c ≠ '#') = authority := by
    rw [List.takeWhile_append_of_pos hends]
    simp
  have hempty : authority.isEmpty = false := by simp [hne]
  have hletters : ∀ cs, "http".toList ++ cs = 'h' :: 't' :: 't' :: 'p' :: cs := fun _ => rfl
  unfold Target.parse?
  rw [hscheme, hletters]
  split
  next heq => cases heq
  next heq => cases heq
  next heq => exact absurd (List.cons.inj heq).1 (by decide)
  next heq _ _ _ => cases heq
  next heq _ _ _ =>
    obtain rfl := Option.some.inj heq
    simp only [htake, hempty, hauthority, Bool.not_false, Bool.and_true, if_true, List.drop_left]

theorem step?_of_isDigit {s : AuthorityScan} (h : s.endsInAt = false) {c : Char} (hc : c.isDigit) :
    s.step? c = some s := by
  have hne : ∀ d : Char, d.isDigit = false → c ≠ d := by
    rintro d hd rfl
    rw [hc] at hd
    cases hd
  have hplain : isAuthorityChar c := by simp [isAuthorityChar, Char.isAlphanum, hc]
  have hs : { s with endsInAt := false } = s := by
    cases s
    cases h
    rfl
  unfold AuthorityScan.step?
  simp only [hs, hne ':' (by decide), hne '[' (by decide), hne ']' (by decide), hne '@' (by decide),
    hne '%' (by decide), hplain, if_false, if_true]

theorem foldlM_step?_of_isDigit {s : AuthorityScan} (h : s.endsInAt = false) {ds : List Char}
    (hds : ∀ c ∈ ds, c.isDigit) : ds.foldlM AuthorityScan.step? s = some s := by
  induction ds with
  | nil => rfl
  | cons c ds ih =>
    obtain ⟨hc, hds⟩ := List.forall_mem_cons.1 hds
    rw [List.foldlM_cons, step?_of_isDigit h hc]
    exact ih hds

/-! ## requests -/

theorem length_encode_of_isGraphic {cs : List Char} (h : ∀ c ∈ cs, isGraphic c) :
    (Text.Utf8.encode cs).length = cs.length := by
  rw [Text.Utf8.encode_of_ascii fun c hc => lt_of_isGraphic (h c hc), List.length_map]

/-- How long a field is in a head. -/
def fieldLength (field : String × Bytes) : Nat := field.1.toList.length + field.2.length + 4

theorem length_fieldLine {field : String × Bytes} (h : Writable field) :
    (fieldLine field).length = fieldLength field := by
  rw [fieldLine_eq h, fieldLength]
  simp only [List.length_append, List.length_map, List.length_cons, lineEnd, List.length_nil]
  omega

theorem length_lines {fields : Fields} (h : ∀ f ∈ fields, Writable f) :
    (fields.flatMap fieldLine).length = (fields.map fieldLength).sum := by
  induction fields with
  | nil => rfl
  | cons f fields ih =>
    obtain ⟨hf, hfields⟩ := List.forall_mem_cons.1 h
    rw [List.flatMap_cons, List.length_append, length_fieldLine hf, ih hfields, List.map_cons, List.sum_cons]

/-- How long the head of a request is. -/
theorem length_head {method : String} {target : List Char} {fields : Fields} (hline : WritableLine method target)
    (hfields : ∀ f ∈ fields, Writable f) :
    (message (requestLine method target) fields []).length =
      method.toList.length + target.length + (fields.map fieldLength).sum + 14 := by
  have hversion : (utf8 "HTTP/1.1").length = 8 := by decide
  rw [message, requestLine_eq hline]
  simp only [List.length_append, List.length_cons, List.length_map, length_lines hfields, hversion, lineEnd,
    List.length_nil]
  omega

/-- **A request is read back from its message.** -/
theorem ofWire_message {method : String} {target : List Char} {fields : Fields} {body : Bytes} {t : Target}
    {framing : Framing} (hline : WritableLine method target) (htarget : target.length ≤ maxTargetLength)
    (hparse : Target.parse? target = some t) (hfields : ∀ f ∈ fields, Writable f) (hcount : fields.length ≤ maxFields)
    (hsize : (message (requestLine method target) fields []).length ≤ maxHead)
    (hframing : requestFraming 1 fields = .ok framing) :
    Fixture.Arrival.ofWire (message (requestLine method target) fields body) =
      .ok ⟨method, t, fields, framing.body? body⟩ := by
  have hnames : (fields.all fun f => f.1.length ≤ maxNameLength) = true := by
    simpa using fun f hf => (hfields f hf).length_le
  have hlength : (message (requestLine method target) fields body).length - body.length ≤ maxHead := by
    simp only [message, List.length_append, List.length_nil] at hsize ⊢
    omega
  have hhead : readHead (message (requestLine method target) fields body)
      (fields.flatMap fieldLine ++ (lineEnd ++ body)) = .ok (fields, body) := by
    rw [readHead, readFields_lines hfields hcount]
    simp only [hlength, hnames]
    rfl
  have htarget : ¬ maxTargetLength < (Text.Utf8.encode target).length := by
    rw [length_encode_of_isGraphic hline.isGraphic]
    omega
  have hofHead : Fixture.Arrival.ofHead ⟨method, target, 1⟩ fields body =
      .ok ⟨method, t, fields, framing.body? body⟩ := by
    simp only [Fixture.Arrival.ofHead, htarget, if_false, hparse, hframing]
    rfl
  have hread : RequestLine.read? (message (requestLine method target) fields body) =
      some (⟨method, target, 1⟩, fields.flatMap fieldLine ++ (lineEnd ++ body)) :=
    RequestLine.read?_requestLine hline _
  unfold Fixture.Arrival.ofWire
  simp only [hread, hhead, bind, Except.bind, hofHead]

/-- The fields of a request, with the length of its body at their end, if it has one. -/
def Request.declared (r : Request) : Fields :=
  if r.body.isEmpty then r.headers else r.headers ++ [(lengthName, utf8 (toString r.body.length))]

theorem Unframing.ne {field : String × Bytes} (h : Unframing field) : field.1 ≠ codingName ∧ field.1 ≠ lengthName := by
  have hcoding : lowerName codingName = codingName := by decide
  have hlength : lowerName lengthName = lengthName := by decide
  refine ⟨fun heq => h.1 ?_, fun heq => h.2 ?_⟩
  · rw [heq, hcoding]
  · rw [heq, hlength]

/-- A request whose headers do not frame its body is sent with its length. -/
theorem Request.framed_eq {r : Request} (h : ∀ f ∈ r.headers, Unframing f) :
    r.framed = { r with headers := r.declared } := by
  have herase : Keyed.erase codingName r.headers = r.headers := by
    rw [Keyed.erase, List.filter_eq_self]
    intro f hf
    simpa using (h f hf).ne.1
  have hcoding : Keyed.find? codingName r.headers = none := by
    refine Keyed.find?_of_not_mem fun hmem => ?_
    obtain ⟨f, hf, hname⟩ := List.mem_map.1 hmem
    exact (h f hf).ne.1 hname
  have hvalues : valuesOf lengthName r.headers = [] := by
    simp only [valuesOf, List.map_eq_nil_iff, List.filter_eq_nil_iff]
    intro f hf
    simpa using (h f hf).2
  have hnone : lengths? (valuesOf lengthName r.headers) = none := by
    rw [hvalues]
    rfl
  have hkey : lengthName ∉ Keyed.keys r.headers := by
    intro hmem
    obtain ⟨f, hf, hname⟩ := List.mem_map.1 hmem
    exact (h f hf).ne.2 hname
  unfold framed declared
  simp only [herase, hcoding, hnone, Keyed.insert_of_not_mem hkey]
  split <;> rfl

/-- **A request is read back from the wire.** -/
theorem Request.ofWire_wire {r : Request} {t : Target} (hline : WritableLine r.method r.target)
    (htarget : r.target.length ≤ maxTargetLength) (hparse : Target.parse? r.target = some t)
    (hfields : ∀ f ∈ r.headers, Writable f ∧ Unframing f) (hcount : r.headers.length < maxFields)
    (hsize : r.method.toList.length + r.target.length + (r.declared.map fieldLength).sum + 14 ≤ maxHead)
    (hbody : r.body.length ≤ maxLength) :
    Fixture.Arrival.ofWire r.wire = .ok ⟨r.method, t, r.declared, some r.body⟩ := by
  have hframed := framed_eq fun f hf => (hfields f hf).2
  have hwire : r.wire = message (requestLine r.method r.target) r.declared r.body := by
    rw [wire, hframed]
    rfl
  have hwritable : ∀ f ∈ r.declared, Writable f := by
    unfold declared
    split
    · exact fun f hf => (hfields f hf).1
    · intro f hf
      rcases List.mem_append.1 hf with hf | hf
      · exact (hfields f hf).1
      · obtain rfl := List.mem_singleton.1 hf
        exact writable_length r.body.length
  have hlength : r.declared.length ≤ maxFields := by
    unfold declared
    split
    · omega
    · rw [List.length_append, List.length_singleton]
      omega
  have hframing : requestFraming 1 r.declared = .ok (.length r.body.length) := by
    unfold declared
    split
    next hempty =>
      rw [List.isEmpty_iff.1 hempty]
      exact requestFraming_of_unframing (fun f hf => (hfields f hf).2) 1
    · exact requestFraming_concat (fun f hf => (hfields f hf).2) hbody 1
  rw [← length_head hline hwritable] at hsize
  rw [hwire, ofWire_message hline htarget hparse hwritable hlength hsize hframing]
  simp [Framing.body?]

end ProcessGraph.Http
