import RegistryAuth.Text.Ascii

/-!
# Punycode (RFC 3492)

A text is written with ASCII letters and digits: its ASCII characters, a hyphen, and then for each
other character, in the order of code points, how far it is from the one before, as a number of
variable length.  The weights of the digits adapt to the numbers seen so far.  Texts are limited so
that every number of the encoding fits 32 bits.
-/

namespace RegistryAuth.Idna.Punycode

def base : Nat := 36

def initialBias : Nat := 72

/-- The greatest word of 32 bits. -/
def maxWord : Nat := 0xFFFFFFFF

/-- The longest text that is encoded, in characters. -/
def maxText : Nat := 1000

/-- The longest code that is decoded, in characters. -/
def maxCode : Nat := 2000

/-- The digit of a value: letters first. -/
def digit (v : Nat) : Char :=
  if v < 26 then Char.ofNat (0x61 + v) else Char.ofNat (0x30 + (v - 26))

def digitValue? (c : Char) : Option Nat :=
  let n := c.toNat
  if 0x30 ≤ n ∧ n ≤ 0x39 then some (n - 0x30 + 26)
  else if 0x41 ≤ n ∧ n ≤ 0x5A then some (n - 0x41)
  else if 0x61 ≤ n ∧ n ≤ 0x7A then some (n - 0x61)
  else none

/-- The threshold of the digit at position `k`, which is a multiple of the base: a smaller digit is the
last of its number. -/
def threshold (k bias : Nat) : Nat :=
  if k ≤ bias then 1 else if bias + 26 ≤ k then 26 else k - bias

theorem threshold_pos (k bias : Nat) : 1 ≤ threshold k bias := by
  unfold threshold; split
  · omega
  · split <;> omega

theorem threshold_le (k bias : Nat) : threshold k bias ≤ 26 := by
  unfold threshold; split
  · omega
  · split <;> omega

/-- Scales a distance down, counting the digits that it saves. -/
def scaleDistance (delta k : Nat) : Nat × Nat :=
  if 455 < delta then scaleDistance (delta / 35) (k + base) else (delta, k)
termination_by delta
decreasing_by exact Nat.div_lt_self (by omega) (by omega)

/-- The bias after a distance, with `count` characters written so far. -/
def adapt (delta count : Nat) (first : Bool) : Nat :=
  -- The first distance tends to be far greater than those after it.
  let d := if first then delta / 700 else delta / 2
  let (d, k) := scaleDistance (d + d / count) 0
  k + 36 * d / (d + 38)

/-! ## Encoding -/

/-- The digits of a distance, from position `k` on. -/
def writeDistance (bias k q : Nat) : List Char :=
  let t := threshold k bias
  if q < t then [digit q]
  else digit (t + (q - t) % (base - t)) :: writeDistance bias (k + base) ((q - t) / (base - t))
termination_by q
decreasing_by
  have h₁ := threshold_pos k bias
  exact Nat.lt_of_le_of_lt (Nat.div_le_self _ _) (by omega)

/-- An encoding under way. -/
structure Encoder where
  /-- The digits so far, the last first. -/
  digits : List Char
  /-- The distance to the next character. -/
  delta : Nat
  bias : Nat
  /-- How many characters have been written. -/
  count : Nat

/-- Passes one character of the text while the characters of code point `n` are written. -/
def Encoder.pass (basicCount n : Nat) (e : Encoder) (c : Char) : Encoder :=
  if c.toNat < n then { e with delta := e.delta + 1 }
  else if c.toNat = n then
    ⟨(writeDistance e.bias base e.delta).reverse ++ e.digits, 0,
      adapt e.delta (e.count + 1) (e.count == basicCount), e.count + 1⟩
  else e

/-- Writes the characters of each code point in turn; `n` is the least that may come next. -/
def Encoder.run (text : List Char) (basicCount : Nat) : List Nat → Nat → Encoder → Encoder
  | [], _, e => e
  | m :: rest, n, e =>
    let e := { e with delta := e.delta + (m - n) * (e.count + 1) }
    let e := text.foldl (pass basicCount m) e
    run text basicCount rest (m + 1) { e with delta := e.delta + 1 }

/-- The distinct code points of a text beyond ASCII, in increasing order. -/
def distinctCodes (text : List Char) : List Nat :=
  (((text.filter (!Text.isAscii ·)).map (·.toNat)).mergeSort).eraseReps

/-- The code of a text that is not too long. -/
def encode? (text : List Char) : Option (List Char) :=
  if maxText < text.length then none
  else
    let basic := text.filter Text.isAscii
    let start : Encoder := ⟨[], 0, initialBias, basic.length⟩
    let coded := (start.run text basic.length (distinctCodes text) 0x80).digits.reverse
    some (basic ++ (if basic = [] then [] else ['-']) ++ coded)

/-! ## Decoding -/

/-- Adds the distance at the front of the code to `i`; `weight` is that of the digit at position `k`. -/
def readDistance? (bias k weight i : Nat) : List Char → Option (Nat × List Char)
  | [] => none
  | c :: rest =>
    match digitValue? c with
    | none => none
    | some d =>
      let i := i + d * weight
      let t := threshold k bias
      if maxWord < i then none
      else if d < t then some (i, rest)
      else if maxWord < weight * (base - t) then none
      else readDistance? bias (k + base) (weight * (base - t)) i rest

theorem length_of_readDistance? {bias k weight i : Nat} {cs : List Char} {r : Nat × List Char}
    (h : readDistance? bias k weight i cs = some r) : r.2.length < cs.length := by
  induction cs generalizing k weight i with
  | nil => simp [readDistance?] at h
  | cons c rest ih =>
    rw [readDistance?] at h
    split at h
    · simp at h
    · simp only at h
      split at h
      · simp at h
      · split at h
        · simp only [Option.some.injEq] at h
          subst h
          simp
        · split at h
          · simp at h
          · have := ih h
            simp only [List.length_cons]
            omega

/-- Inserts the characters that the code places into a text; `n` is the code point before. -/
def insertCodes? (bias n i : Nat) (text : List Char) (code : List Char) : Option (List Char) :=
  match code with
  | [] => some text
  | c :: rest =>
    match h : readDistance? bias base 1 i (c :: rest) with
    | none => none
    | some (next, rest') =>
      let count := text.length + 1
      let n := n + next / count
      let place := next % count
      if n.isValidChar then
        insertCodes? (adapt (next - i) count (i == 0)) n (place + 1)
          (text.insertIdx place (Char.ofNat n)) rest'
      else none
termination_by code.length
decreasing_by simpa using length_of_readDistance? h

/-- The text of a code that is not too long. -/
def decode? (code : List Char) : Option (List Char) :=
  if maxCode < code.length then none
  else
    -- The last hyphen divides; one that begins the code divides nothing and is no digit either.
    let coded := (code.reverse.takeWhile (· ≠ '-')).reverse
    let basic := code.take (code.length - coded.length - 1)
    insertCodes? initialBias 0x80 0 basic (if basic = [] then code else coded)

end RegistryAuth.Idna.Punycode
