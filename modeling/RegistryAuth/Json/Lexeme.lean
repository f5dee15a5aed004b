import RegistryAuth.Json.Basic

/-!
# The lexemes of JSON

White space, words, numbers and strings, read from the front of bytes.  Each reader returns what is
left.  A string is read by a machine that takes one byte at a time; two escapes that write the halves
of a surrogate pair make one character.
-/

namespace RegistryAuth.Json

open Text (Bytes)

def isGap (b : UInt8) : Bool :=
  b == 0x20 || b == 0x0A || b == 0x09 || b == 0x0D

def skipGap (bs : Bytes) : Bytes :=
  bs.dropWhile isGap

def byte (c : Char) : UInt8 :=
  c.toNat.toUInt8

def isDigit (b : UInt8) : Bool :=
  0x30 ≤ b && b ≤ 0x39

def digitValue (b : UInt8) : Nat :=
  b.toNat - 0x30

def readWord : List Char → Bytes → Except Fault Bytes
  | [], bs => .ok bs
  | _ :: _, [] => .error .endInValue
  | c :: word, b :: rest => if b = byte c then readWord word rest else .error .expectedWord

/-! ## Numbers -/

/-- The greatest number of 64 bits. -/
def maxWord : Nat := 0xFFFFFFFFFFFFFFFF

/-- The greatest exponent that is read in full. -/
def maxExponent : Nat := 0x7FFFFFFF

/-- Takes digits into a number for as long as it fits 64 bits: the number, how many digits were
taken, and those that were not. -/
def absorb (n : Nat) (ds : Bytes) : Nat × Nat × Bytes :=
  go n 0 ds
where
  go (n count : Nat) : Bytes → Nat × Nat × Bytes
    | [] => (n, count, [])
    | d :: rest =>
      let next := n * 10 + digitValue d
      if maxWord < next then (n, count, d :: rest) else go next (count + 1) rest

/-- Divides by ten to the 308 until the exponent is in reach of one more power of ten. -/
def scaleDown (x : Binary64) (e : Int) : Binary64 × Int :=
  if e < -308 ∧ !x.isZero then
    scaleDown (x.div (Binary64.nearest false (Nat.pow 10 308) 1)) (e + 308)
  else (x, e)
termination_by (-e).toNat
decreasing_by omega

/-- A significand of at most 64 bits times a power of ten: the significand is rounded, then
multiplied or divided by the rounded power.  Each step rounds, so the result may differ from the
nearest number in the last place. -/
def assemble (negative : Bool) (significand : Nat) (e : Int) : Except Fault Binary64 :=
  let sign (x : Binary64) : Binary64 := if negative then x.neg else x
  let x := Binary64.ofNat significand
  if x.isZero then .ok (sign x)
  else if 308 < e then .error .numberOutOfRange
  else if 0 ≤ e then
    let y := x.mul (Binary64.nearest false (Nat.pow 10 e.toNat) 1)
    if y.isFinite then .ok (sign y) else .error .numberOutOfRange
  else
    let (x, e) := scaleDown x e
    if x.isZero then .ok (sign x)
    else .ok (sign (x.div (Binary64.nearest false (Nat.pow 10 (-e).toNat) 1)))

/-- Reads an exponent, which begins after its letter, and assembles the number. -/
def readExponent (negative : Bool) (significand : Nat) (start : Int) (bs : Bytes) :
    Except Fault (Binary64 × Bytes) := do
  let (down, bs) :=
    match bs with
    | b :: rest => if b = byte '-' then (true, rest) else if b = byte '+' then (false, rest) else (false, bs)
    | [] => (false, [])
  match bs with
  | [] => .error .endInValue
  | b :: _ =>
    if isDigit b then
      let e := (bs.takeWhile isDigit).foldl (fun n d => n * 10 + digitValue d) 0
      let rest := bs.dropWhile isDigit
      if maxExponent < e then
        -- No power of ten that great makes a difference to zero, and no small one to the rest.
        if significand ≠ 0 ∧ !down then .error .numberOutOfRange
        else .ok (.finite negative 0 Binary64.minExponent, rest)
      else
        let x ← assemble negative significand (if down then start - e else start + e)
        .ok (x, rest)
    else .error .invalidNumber

def isExponentMark (b : UInt8) : Bool :=
  b == byte 'e' || b == byte 'E'

/-- Reads what may follow the whole part of a number, of which `dropped` digits were left out. -/
def readFraction (negative : Bool) (significand dropped : Nat) (bs : Bytes) :
    Except Fault (Number × Bytes) :=
  match bs with
  | [] => finish bs
  | b :: rest =>
    if b = byte '.' then
      let ds := rest.takeWhile isDigit
      let rest := rest.dropWhile isDigit
      if ds = [] then .error (if rest = [] then .endInValue else .invalidNumber)
      else
        let (significand, taken, _) := absorb significand ds
        let e : Int := dropped - taken
        match rest with
        | c :: after =>
          if isExponentMark c then real (readExponent negative significand e after)
          else real ((assemble negative significand e).map (·, rest))
        | [] => real ((assemble negative significand e).map (·, rest))
    else if isExponentMark b then real (readExponent negative significand dropped rest)
    else finish bs
where
  real : Except Fault (Binary64 × Bytes) → Except Fault (Number × Bytes)
    | .ok (x, rest) => .ok (.real x, rest)
    | .error f => .error f
  finish (bs : Bytes) : Except Fault (Number × Bytes) :=
    if dropped ≠ 0 then real ((assemble negative significand dropped).map (·, bs))
    else if !negative then .ok (.whole significand, bs)
    -- Zero keeps its sign only as a real, and what no 64 bits with a sign can hold is one too.
    else if significand = 0 ∨ 0x8000000000000000 < significand then .ok (.real (Binary64.ofNat significand).neg, bs)
    else .ok (.whole (-(significand : Int)), bs)

/-- Reads a number after its sign. -/
def readUnsigned (negative : Bool) (bs : Bytes) : Except Fault (Number × Bytes) :=
  match bs with
  | [] => .error .endInValue
  | b :: rest =>
    if b = byte '0' then
      match rest with
      | c :: _ => if isDigit c then .error .invalidNumber else readFraction negative 0 0 rest
      | [] => readFraction negative 0 0 rest
    else if isDigit b then
      let (significand, _, left) := absorb 0 (bs.takeWhile isDigit)
      readFraction negative significand left.length (bs.dropWhile isDigit)
    else .error .invalidNumber

def readNumber (bs : Bytes) : Except Fault (Number × Bytes) :=
  match bs with
  | b :: rest => if b = byte '-' then readUnsigned true rest else readUnsigned false bs
  | [] => .error .endInValue

def startsNumber (b : UInt8) : Bool :=
  b == byte '-' || isDigit b

/-- Passes over an exponent, which begins after its letter. -/
def passExponent (bs : Bytes) : Except Fault Bytes :=
  let bs :=
    match bs with
    | b :: rest => if b = byte '-' ∨ b = byte '+' then rest else bs
    | [] => []
  match bs with
  | b :: _ => if isDigit b then .ok (bs.dropWhile isDigit) else .error .invalidNumber
  | [] => .error .invalidNumber

def passFraction (bs : Bytes) : Except Fault Bytes :=
  match bs with
  | [] => .ok []
  | b :: rest =>
    if b = byte '.' then
      match rest with
      | d :: _ =>
        if isDigit d then
          match rest.dropWhile isDigit with
          | c :: after => if isExponentMark c then passExponent after else .ok (c :: after)
          | [] => .ok []
        else .error .invalidNumber
      | [] => .error .invalidNumber
    else if isExponentMark b then passExponent rest
    else .ok bs

/-- Passes over a number that begins with a digit or a minus sign, without its value. -/
def passNumber (bs : Bytes) : Except Fault Bytes :=
  let bs :=
    match bs with
    | b :: rest => if b = byte '-' then rest else bs
    | [] => []
  match bs with
  | b :: rest =>
    if b = byte '0' then
      match rest with
      | c :: _ => if isDigit c then .error .invalidNumber else passFraction rest
      | [] => .ok []
    else if isDigit b then passFraction (bs.dropWhile isDigit)
    else .error .invalidNumber
  | [] => .error .invalidNumber

/-! ## Strings -/

def hexValue? (b : UInt8) : Option Nat :=
  Text.hexValue? (Char.ofNat b.toNat)

/-- The number that four hexadecimal digits write, the last digit first. -/
def hexUnit? (ds : Bytes) : Option Nat :=
  ds.foldr (fun d n => do return (← n) * 16 + (← hexValue? d)) (some 0)

def shortEscape? (b : UInt8) : Option UInt8 :=
  if b = byte '"' ∨ b = byte '\\' ∨ b = byte '/' then some b
  else if b = byte 'b' then some 0x08
  else if b = byte 'f' then some 0x0C
  else if b = byte 'n' then some 0x0A
  else if b = byte 'r' then some 0x0D
  else if b = byte 't' then some 0x09
  else none

/-- Where a string reader stands. -/
inductive StringState where
  /-- Between characters. -/
  | plain
  /-- After a backslash. -/
  | escape
  /-- After `\u` and the digits held, the last first; `high` is the first half of a pair. -/
  | unit (high : Option Nat) (digits : Bytes)
  /-- After the first half of a pair. -/
  | half (high : Nat)
  /-- After the first half of a pair and a backslash. -/
  | halfEscape (high : Nat)

/-- The bytes of a code point, the last first. -/
def reversedBytes (n : Nat) : Bytes :=
  (String.utf8EncodeChar (Char.ofNat n)).reverse

/-- What four digits mean after an optional first half: the next state and the bytes written. -/
def takeUnit (high : Option Nat) (n : Nat) : Except Fault (StringState × Bytes) :=
  match high with
  | some h =>
    if 0xDC00 ≤ n ∧ n ≤ 0xDFFF then
      .ok (.plain, reversedBytes (0x10000 + (h - 0xD800) * 0x400 + (n - 0xDC00)))
    else .error .loneSurrogate
  | none =>
    if 0xDC00 ≤ n ∧ n ≤ 0xDFFF then .error .loneSurrogate
    else if 0xD800 ≤ n ∧ n ≤ 0xDBFF then .ok (.half n, [])
    else .ok (.plain, reversedBytes n)

/-- Reads the bytes of a string after its opening quote, up to its closing one. -/
def readStringBytes (bs : Bytes) : Except Fault (Bytes × Bytes) :=
  go .plain [] bs
where
  go (state : StringState) (acc : Bytes) : Bytes → Except Fault (Bytes × Bytes)
    | [] => .error .endInString
    | b :: rest =>
      match state with
      | .plain =>
        if b = byte '"' then .ok (acc.reverse, rest)
        else if b = byte '\\' then go .escape acc rest
        else if b < 0x20 then .error .controlCharacter
        else go .plain (b :: acc) rest
      | .escape =>
        if b = byte 'u' then go (.unit none []) acc rest
        else
          match shortEscape? b with
          | some c => go .plain (c :: acc) rest
          | none => .error .invalidEscape
      | .unit high ds =>
        -- Four bytes are taken whatever they are, a closing quote among them.
        if ds.length < 3 then go (.unit high (b :: ds)) acc rest
        else
          match hexUnit? (b :: ds) with
          | none => .error .invalidEscape
          | some n =>
            match takeUnit high n with
            | .ok (state, out) => go state (out ++ acc) rest
            | .error f => .error f
      | .half high =>
        if b = byte '\\' then go (.halfEscape high) acc rest else .error .unpairedEscape
      | .halfEscape high =>
        if b = byte 'u' then go (.unit (some high) []) acc rest else .error .unpairedEscape

/-- Reads a string after its opening quote. -/
def readString (bs : Bytes) : Except Fault (String × Bytes) :=
  match readStringBytes bs with
  | .ok (content, rest) =>
    match Text.Utf8.decode? content with
    | some cs => .ok (String.ofList cs, rest)
    | none => .error .invalidUnicode
  | .error f => .error f

/-- Passes over a string after its opening quote; surrogates and ill-formed bytes are let through. -/
def passString (bs : Bytes) : Except Fault Bytes :=
  go .plain bs
where
  go (state : StringState) : Bytes → Except Fault Bytes
    | [] => .error .endInString
    | b :: rest =>
      match state with
      | .escape =>
        if b = byte 'u' then go (.unit none []) rest
        else if (shortEscape? b).isSome then go .plain rest
        else .error .invalidEscape
      | .unit high ds =>
        if ds.length < 3 then go (.unit high (b :: ds)) rest
        else if (hexUnit? (b :: ds)).isSome then go .plain rest
        else .error .invalidEscape
      | _ =>
        if b = byte '"' then .ok rest
        else if b = byte '\\' then go .escape rest
        else if b < 0x20 then .error .controlCharacter
        else go .plain rest

end RegistryAuth.Json
