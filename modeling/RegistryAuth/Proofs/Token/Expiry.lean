import Mathlib.Data.List.TakeWhile
import RegistryAuth.Proofs.Binary64.Rounding
import RegistryAuth.Proofs.Text.Decimals
import RegistryAuth.Token.Claims

/-!
# Expiries

An expiry that writes a whole number, as a JSON number or as a text with white space around it, names the
instant of that many seconds, if there is one, and is malformed otherwise, as
`Claims.expiry_is_dated_or_malformed` says.  A text goes through the 64-bit format, which is exact as far as
instants can be named; beyond them it is enough that rounding does not lead back.
-/

namespace RegistryAuth

open Text

/-! ## 1. Integers as texts -/

namespace Text

/-- Decimal digits, with a sign or without, and the integer that they write. -/
inductive IsInteger : Int → List Char → Prop
  | unsigned {ds : List Char} (h : IsDecimal ds) : IsInteger (Nat.ofDigitChars 10 ds 0 : Nat) ds
  | plus {ds : List Char} (h : IsDecimal ds) : IsInteger (Nat.ofDigitChars 10 ds 0 : Nat) ('+' :: ds)
  | minus {ds : List Char} (h : IsDecimal ds) : IsInteger (-(Nat.ofDigitChars 10 ds 0 : Nat)) ('-' :: ds)

theorem isInteger_wholeText (n : Int) : IsInteger n (Json.wholeText n) := by
  have hdigits := isDecimal_toDigits n.natAbs
  have hvalue : Nat.ofDigitChars 10 (Nat.toDigits 10 n.natAbs) 0 = n.natAbs :=
    Nat.ofDigitChars_toDigits (by decide) (by decide)
  unfold Json.wholeText
  by_cases hn : n < 0
  · have h := IsInteger.minus hdigits
    rw [hvalue, show -(n.natAbs : Int) = n by omega] at h
    rwa [if_pos hn]
  · have h := IsInteger.unsigned hdigits
    rw [hvalue, show (n.natAbs : Int) = n by omega] at h
    rwa [if_neg hn]

theorem IsInteger.isBlank_eq_false {n : Int} {cs : List Char} (h : IsInteger n cs) :
    ∀ c ∈ cs, isBlank c = false := by
  cases h with
  | unsigned h => exact fun c hc => isBlank_of_isDigit (h.2 c hc)
  | plus h => exact List.forall_mem_cons.2 ⟨rfl, fun c hc => isBlank_of_isDigit (h.2 c hc)⟩
  | minus h => exact List.forall_mem_cons.2 ⟨rfl, fun c hc => isBlank_of_isDigit (h.2 c hc)⟩

end Text

/-! ## 2. Integers through the format -/

namespace Binary64

/-- More digits than are rounded at all write a number beyond 2⁵³. -/
theorem le_of_digitCount {n : Nat} (h : 310 < digitCount n) : 2 ^ 53 ≤ n := by
  by_contra hsmall
  have hlength : (Nat.toDigits 10 n).length ≤ 16 :=
    (Nat.length_toDigits_le_iff (by decide) (by decide)).2 (by omega)
  unfold digitCount at h
  split at h <;> omega

theorem approximates_ofDecimal (negative : Bool) (n : Nat) :
    (ofDecimal negative n 0).Approximates (signed negative n) := by
  have hscale : n * Nat.pow 10 (0 : Int).toNat = n := Nat.mul_one n
  unfold ofDecimal
  extract_lets magnitude
  by_cases hzero : n = 0 ∨ magnitude < -330
  · have hn : n = 0 := hzero.resolve_right (by omega)
    rw [if_pos hzero, hn, signed_zero]
    exact approximates_zero negative
  · rw [if_neg hzero]
    by_cases hgreat : 310 < magnitude
    · rw [if_pos hgreat]
      refine .of_great (le_of_digitCount (by omega)) fun k hk => ?_
      cases hk
    · rw [if_neg hgreat, if_pos le_rfl, hscale]
      exact approximates_nearest negative n

theorem readUnsigned?_of_isDecimal (negative : Bool) {ds : List Char} (h : IsDecimal ds) :
    readUnsigned? negative ds = some (ofDecimal negative (Nat.ofDigitChars 10 ds 0) 0) := by
  have htake : ds.takeWhile isDigit = ds := List.takeWhile_eq_self_iff.2 h.isDigit
  have hdrop : ds.dropWhile isDigit = [] := List.dropWhile_eq_nil_iff.2 h.isDigit
  unfold readUnsigned?
  simp only [htake, hdrop]
  rw [if_neg fun hnone => h.1 hnone.1, List.append_nil]
  unfold digitsValue
  rw [foldl_digits]
  rfl

theorem readSign_of_isDecimal {ds : List Char} (h : IsDecimal ds) : readSign ds = (false, ds) := by
  obtain ⟨hne, hdigits⟩ := h
  unfold readSign
  split
  · exact absurd (hdigits '-' List.mem_cons_self) (by decide)
  · exact absurd (hdigits '+' List.mem_cons_self) (by decide)
  · rfl

/-- The text of an integer is read as a number that approximates it. -/
theorem parse?_of_isInteger {n : Int} {cs : List Char} (h : IsInteger n cs) :
    ∃ x, parse? cs = some x ∧ x.Approximates n := by
  unfold parse?
  cases h with
  | unsigned h =>
    rw [readSign_of_isDecimal h]
    simp only [readUnsigned?_of_isDecimal false h]
    exact ⟨_, rfl, approximates_ofDecimal false _⟩
  | plus h =>
    simp only [readSign, readUnsigned?_of_isDecimal false h]
    exact ⟨_, rfl, approximates_ofDecimal false _⟩
  | minus h =>
    simp only [readSign, readUnsigned?_of_isDecimal true h]
    exact ⟨_, rfl, approximates_ofDecimal true _⟩

end Binary64

/-! ## 3. The expiry -/

namespace Claims

/-- What a number of seconds is as an expiry: an instant if it can be named, a malformed claim otherwise. -/
inductive Dates (n : Int) : Except Fault Instant → Prop
  | named (h : Instant.leastSecond ≤ n ∧ n ≤ Instant.greatestSecond) : Dates n (.ok (Instant.ofSeconds n))
  | refused (h : n < Instant.leastSecond ∨ Instant.greatestSecond < n) (reason : String) :
      Dates n (.error (.malformed expiryName reason))

/-- The values that write a whole number. -/
inductive WritesWhole (n : Int) : Json → Prop
  | number : WritesWhole n (.number (.whole n))
  | text {s : String} {before cs after : List Char} (hs : s.toList = before ++ (cs ++ after))
      (hbefore : ∀ c ∈ before, isBlank c = true) (hafter : ∀ c ∈ after, isBlank c = true)
      (h : IsInteger n cs) : WritesWhole n (.string s)

theorem dates_instantOf (n : Int) : Dates n (instantOf n) := by
  unfold instantOf Instant.ofSecond?
  by_cases h : Instant.leastSecond ≤ n ∧ n ≤ Instant.greatestSecond
  · rw [if_pos h]
    exact .named h
  · rw [if_neg h]
    exact .refused (by omega) _

/-- What is refused for one number of seconds is refused for every other that cannot be named. -/
theorem Dates.of_beyond {k n : Int} {r : Except Fault Instant} (h : Dates k r)
    (hk : k < Instant.leastSecond ∨ Instant.greatestSecond < k)
    (hn : n < Instant.leastSecond ∨ Instant.greatestSecond < n) : Dates n r := by
  cases h with
  | named hnamed => omega
  | refused _ reason => exact .refused hn reason

theorem dates_instantOfReal {x : Binary64} {n : Int} (h : x.Approximates n) : Dates n (instantOfReal x) := by
  have hleast : Instant.leastSecond = -377705116800 := rfl
  have hgreatest : Instant.greatestSecond = 253402300799 := rfl
  unfold instantOfReal
  rcases Nat.lt_or_ge n.natAbs (2 ^ 53) with hsmall | hgreat
  · have hclamp : clampSeconds n = n := by
      unfold clampSeconds
      omega
    rw [h.exact hsmall]
    simp only [hclamp]
    exact dates_instantOf n
  · have hbeyond : n < Instant.leastSecond ∨ Instant.greatestSecond < n := by omega
    cases hfloor : x.floor? with
    | none => exact .refused hbeyond _
    | some k =>
      -- The floor is as far beyond the instants as the number is.
      have hk : clampSeconds k < Instant.leastSecond ∨ Instant.greatestSecond < clampSeconds k := by
        unfold clampSeconds
        rcases le_or_gt 0 n with hpos | hneg
        · have := h.above (by omega) k hfloor
          omega
        · have := h.below (by omega) k hfloor
          omega
      exact (dates_instantOf (clampSeconds k)).of_beyond hk hbeyond

/-- An instant of the calendar, or a malformed expiry. -/
def Settled (r : Except Fault Instant) : Prop :=
  (∃ n, Instant.leastSecond ≤ n ∧ n ≤ Instant.greatestSecond ∧ r = .ok (Instant.ofSeconds n)) ∨
    ∃ reason, r = .error (.malformed expiryName reason)

theorem Dates.eq_ok {n : Int} {r : Except Fault Instant} (h : Dates n r)
    (hn : Instant.leastSecond ≤ n ∧ n ≤ Instant.greatestSecond) : r = .ok (Instant.ofSeconds n) := by
  cases h with
  | named => rfl
  | refused hbeyond => omega

theorem Dates.settled {n : Int} {r : Except Fault Instant} (h : Dates n r) : Settled r := by
  cases h with
  | named h => exact .inl ⟨n, h.1, h.2, rfl⟩
  | refused _ reason => exact .inr ⟨reason, rfl⟩

theorem settled_instantOfReal (x : Binary64) : Settled (instantOfReal x) := by
  unfold instantOfReal
  cases x.floor? with
  | none => exact .inr ⟨_, rfl⟩
  | some k => exact (dates_instantOf _).settled

theorem settled_expiry {claims : Claims} {v : Json} (h : claims.get? expiryName = some v) :
    Settled claims.expiry := by
  unfold expiry
  rw [h]
  rcases v with _ | _ | (n | x) | s | _ | _
  case number.whole =>
    simp only
    split
    · exact (dates_instantOf n).settled
    · exact settled_instantOfReal _
  case number.real => exact settled_instantOfReal x
  case string =>
    simp only
    split
    · exact settled_instantOfReal _
    · exact .inr ⟨_, rfl⟩
  all_goals exact .inr ⟨_, rfl⟩

/-- An expiry that writes a whole number names the instant of that many seconds, or is malformed if that
instant cannot be named; and whatever the expiry is, it names an instant of the calendar or is malformed. -/
theorem expiry_is_dated_or_malformed (claims : Claims) {v : Json} (h : claims.get? expiryName = some v) :
    (∀ n, WritesWhole n v → Dates n claims.expiry) ∧ Settled claims.expiry := by
  refine ⟨fun n hwhole => ?_, settled_expiry h⟩
  unfold expiry
  rw [h]
  cases hwhole with
  | number =>
    simp only
    by_cases hn : n < 0x8000000000000000
    · rw [if_pos hn]
      exact dates_instantOf n
    · rw [if_neg hn]
      have happroximates := Binary64.approximates_nearest false n.toNat
      rw [Binary64.signed_false, Int.toNat_of_nonneg (by omega)] at happroximates
      exact dates_instantOfReal happroximates
  | text hs hbefore hafter hinteger =>
    obtain ⟨x, hparse, happroximates⟩ := Binary64.parse?_of_isInteger hinteger
    simp only [hs, trimWhile_around hbefore hafter hinteger.isBlank_eq_false, hparse]
    exact dates_instantOfReal happroximates

/-- The last second of the calendar, as a text with a no-break space before it and a line feed after it. -/
theorem expiry_of_padded_text :
    expiry ⟨[(expiryName, .string "\u00a0253402300799\n")]⟩ = .ok (Instant.ofSeconds 253402300799) := by
  have hs : "\u00a0253402300799\n".toList = ['\u00a0'] ++ (Json.wholeText 253402300799 ++ ['\n']) := by decide
  have hwrites : WritesWhole 253402300799 (.string "\u00a0253402300799\n") :=
    .text hs (List.forall_mem_singleton.2 rfl) (List.forall_mem_singleton.2 rfl) (isInteger_wholeText _)
  exact ((expiry_is_dated_or_malformed ⟨[(expiryName, _)]⟩ rfl).1 _ hwrites).eq_ok (by decide)

end Claims

end RegistryAuth
