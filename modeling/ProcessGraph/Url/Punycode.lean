/-!
# Punycode

* `encode`: a label as basic characters, a hyphen, and digits that tell where the others go.
* `decode?`: the label that such a text stands for.
-/

namespace ProcessGraph.Url.Punycode

/-- The digit of a number below thirty-six. -/
def digitChar (n : Nat) : Char :=
  if n < 26 then Char.ofNat ('a'.toNat + n) else Char.ofNat ('0'.toNat + (n - 26))

/-- The number of a digit. -/
def digit? (c : Char) : Option Nat :=
  if 'a' ≤ c ∧ c ≤ 'z' then some (c.toNat - 'a'.toNat)
  else if 'A' ≤ c ∧ c ≤ 'Z' then some (c.toNat - 'A'.toNat)
  else if '0' ≤ c ∧ c ≤ '9' then some (c.toNat - '0'.toNat + 26)
  else none

/-- Divides a distance until it is small; counts the divisions in steps of thirty-six. -/
def adaptLoop (delta k : Nat) : Nat :=
  if 455 < delta then adaptLoop (delta / 35) (k + 36) else k + 36 * delta / (delta + 38)
termination_by delta

/-- The bias after a distance has been written. -/
def adapt (delta points : Nat) (first : Bool) : Nat :=
  let delta := if first then delta / 700 else delta / 2
  adaptLoop (delta + delta / points) 0

/-- The threshold of the digit at position `k`. -/
def threshold (k bias : Nat) : Nat :=
  if k ≤ bias then 1 else if bias + 26 ≤ k then 26 else k - bias

theorem threshold_pos (k bias : Nat) : 0 < threshold k bias := by
  unfold threshold
  split
  · omega
  · split <;> omega

/-- A distance as digits of varying base. -/
def writeDistance (q k bias : Nat) : List Char :=
  let t := threshold k bias
  if q < t then [digitChar q]
  else digitChar (t + (q - t) % (36 - t)) :: writeDistance ((q - t) / (36 - t)) (k + 36) bias
termination_by q
decreasing_by
  have pos := threshold_pos k bias
  exact Nat.lt_of_le_of_lt (Nat.div_le_self _ _) (by omega)

/-- What the encoder carries along: distance, bias, and how many characters are done. -/
structure State where
  delta : Nat
  bias : Nat
  done : Nat
  first : Bool

/-- Passes over a label once, writing a distance at every occurrence of the code point `n`. -/
def passLabel (n : Nat) : State → List Nat → List Char × State
  | st, [] => ([], st)
  | st, c :: cs =>
    if c < n then passLabel n { st with delta := st.delta + 1 } cs
    else if c = n then
      let out := writeDistance st.delta 36 st.bias
      let next : State := ⟨0, adapt st.delta (st.done + 1) st.first, st.done + 1, false⟩
      let (rest, st) := passLabel n next cs
      (out ++ rest, st)
    else passLabel n st cs

/-- Writes code points, given in ascending order from `n` on. -/
def writePoints (label : List Nat) : List Nat → Nat → State → List Char
  | [], _, _ => []
  | m :: rest, n, st =>
    let st := { st with delta := st.delta + (m - n) * (st.done + 1) }
    let (out, st) := passLabel m st label
    out ++ writePoints label rest (m + 1) { st with delta := st.delta + 1 }

/-- The code points outside ASCII, each once, in ascending order. -/
def pointsOf (label : List Nat) : List Nat :=
  ((label.filter (128 ≤ ·)).mergeSort (· ≤ ·)).eraseDups

/-- The encoded form of a label. -/
def encode (label : List Char) : List Char :=
  let basic := label.filter (·.toNat < 128)
  let start := if basic.isEmpty then [] else basic ++ ['-']
  let points := label.map Char.toNat
  start ++ writePoints points (pointsOf points) 128 ⟨0, 72, basic.length, true⟩

/-- Reads one distance. -/
def readDistance : List Char → Nat → Nat → Nat → Nat → Option (Nat × List Char)
  | [], _, _, _, _ => none
  | c :: cs, k, bias, weight, acc =>
    match digit? c with
    | none => none
    | some d =>
      let acc := acc + d * weight
      let t := threshold k bias
      if d < t then some (acc, cs) else readDistance cs (k + 36) bias (weight * (36 - t)) acc

theorem length_of_readDistance {cs rest : List Char} {k bias weight acc delta : Nat}
    (h : readDistance cs k bias weight acc = some (delta, rest)) : rest.length < cs.length := by
  induction cs generalizing k weight acc with
  | nil => simp [readDistance] at h
  | cons c cs ih =>
    simp only [readDistance] at h
    split at h
    · simp at h
    · split at h
      · simp only [Option.some.injEq, Prod.mk.injEq] at h
        simp [← h.2]
      · exact Nat.lt_succ_of_lt (ih h)

/-- Reads distances and puts the characters in place. -/
def decodeLoop (cs : List Char) (out : List Nat) (n i bias : Nat) (first : Bool) :
    Option (List Nat) :=
  if cs.isEmpty then some out
  else
    match h : readDistance cs 36 bias 1 0 with
    | none => none
    | some (delta, rest) =>
      let points := out.length + 1
      let total := i + delta
      let n := n + total / points
      let place := total % points
      if 0x10FFFF < n then none
      else
        decodeLoop rest (out.take place ++ n :: out.drop place) n (place + 1)
          (adapt delta points first) false
termination_by cs.length
decreasing_by exact length_of_readDistance h

/-- The label that an encoded text stands for. Basic characters, if there are any, end at the last
hyphen. -/
def decode? (cs : List Char) : Option (List Char) :=
  let last := cs.reverse.takeWhile (· ≠ '-')
  let basic := cs.take (cs.length - last.length - 1)
  let digits := if basic.isEmpty then cs else last.reverse
  (decodeLoop digits (basic.map Char.toNat) 128 0 72 true).bind fun ns =>
    if ns.all fun n => n < 0xD800 ∨ 0xE000 ≤ n then some (ns.map Char.ofNat) else none

end ProcessGraph.Url.Punycode
