import RegistryAuth.Proofs.Http.Hosts
import RegistryAuth.Proofs.Idna.Ordinary
import RegistryAuth.Proofs.Text.Decimals

/-!
# Ordinary names as hosts

A host that is an ordinary name is read as this name and nothing else: it holds no code, and its last label
is no number since it begins with a letter.  With a port behind it, the name and the port are all of the
authority.
-/

namespace RegistryAuth.Url

open Text Idna

/-! ## 1. Hosts -/

theorem not_mark_of_isNameChar {c : Char} (h : isNameChar c = true) : c ∉ authorityMarks :=
  Host.not_mark_of_isAllowed (isForbidden_of_isNameChar h)

theorem percentDecode_encode {cs : List Char} (h : '%' ∉ cs) :
    percentDecode (Utf8.encode cs) = Utf8.encode cs := by
  have hself : percentEncode (fun _ => false) cs = cs := percentEncode_eq_self fun _ _ => rfl
  have hdecoded : percentDecode (Utf8.encode (percentEncode (fun _ => false) cs)) = Utf8.encode cs :=
    percentDecode_percentEncode h
  rwa [hself] at hdecoded

namespace Ipv4

/-- A letter is no decimal digit, though it may be a hexadecimal one. -/
theorem le_of_hexValue? {c : Char} {d : Nat} (hletter : isLetter c = true) (h : hexValue? c = some d) :
    10 ≤ d := by
  simp only [isLetter, isCapital, Bool.or_eq_true, Bool.and_eq_true, decide_eq_true_eq] at hletter
  unfold hexValue? at h
  simp only at h
  split at h
  · omega
  · split at h
    · cases h
      omega
    · split at h
      · cases h
        omega
      · cases h

theorem number?_cons_of_isLetter {c : Char} (hletter : isLetter c = true) (cs : List Char) :
    number? 10 (c :: cs) = none := by
  -- A reading that has failed is not taken up again.
  have hstays (cs : List Char) : cs.foldl
      (fun n c => do
        let n ← n
        let d ← hexValue? c
        if d < 10 then some (n * 10 + d) else none) none = (none : Option Nat) := by
    induction cs with
    | nil => rfl
    | cons d cs ih => exact ih
  unfold number?
  rw [List.foldl_cons]
  cases hvalue : hexValue? c with
  | none => exact hstays cs
  | some d =>
    have hnot : ¬ d < 10 := Nat.not_lt.2 (le_of_hexValue? hletter hvalue)
    simp only [Option.bind_eq_bind, Option.bind_some, if_neg hnot]
    exact hstays cs

theorem labelNumber?_cons_of_isLetter {c : Char} (hletter : isLetter c = true) (cs : List Char) :
    labelNumber? (c :: cs) = none := by
  have hzero : c ≠ '0' := by
    rintro rfl
    exact absurd hletter (by decide)
  unfold labelNumber?
  split
  · rfl
  · rename_i heq
    exact absurd (List.cons.inj heq).1 hzero
  · rename_i heq
    exact absurd (List.cons.inj heq).1 hzero
  · rename_i heq
    exact absurd (List.cons.inj heq).1 hzero
  · exact number?_cons_of_isLetter hletter cs

variable {parts : List (List Char)}

theorem labels_joined (h : IsOrdinary parts) : labels (joined parts) = parts := by
  have hlast : parts.getLast? ≠ some [] := fun hnil =>
    (h.label [] (List.mem_of_getLast? hnil)).ne_nil rfl
  unfold labels
  simp only [h.splitAt_joined, if_neg hlast]

/-- The last label of an ordinary name is no number. -/
theorem endsInNumber_joined (h : IsOrdinary parts) : endsInNumber (joined parts) = false := by
  unfold endsInNumber
  rw [labels_joined h]
  cases hlast : parts.getLast? with
  | none => rfl
  | some label =>
    obtain ⟨c, hhead, hletter⟩ := Option.map_eq_some_iff.1 (h.last label hlast)
    obtain ⟨cs, rfl⟩ := List.head?_eq_some_iff.1 hhead
    have hdigit : isDigit c = false := by
      simp only [isLetter, isCapital, Bool.or_eq_true, Bool.and_eq_true, decide_eq_true_eq] at hletter
      simp only [isDigit, Bool.and_eq_false_iff, decide_eq_false_iff_not]
      omega
    simp [labelNumber?_cons_of_isLetter hletter, hdigit]

end Ipv4

variable {parts : List (List Char)}

/-- An ordinary name is read as itself. -/
theorem Host.parse_joined (h : IsOrdinary parts) :
    Host.parse (joined parts) = .ok (.domain (joined parts)) := by
  have hhead : (joined parts).head? ≠ some '[' := fun hhead =>
    absurd (h.isNameChar_of_mem (List.mem_of_head? hhead)) (by decide)
  have hcode : '%' ∉ joined parts := fun hmem => absurd (h.isNameChar_of_mem hmem) (by decide)
  have hnumber : ¬ Ipv4.endsInNumber (joined parts) = true := Bool.eq_false_iff.1 (Ipv4.endsInNumber_joined h)
  unfold Host.parse
  rw [if_neg hhead, percentDecode_encode hcode, h.toAscii?_encode]
  show Host.ofDomain (joined parts) = _
  unfold Host.ofDomain
  rw [if_neg h.joined_ne_nil, if_neg hnumber]

/-! ## 2. Ports -/

/-- What is written of a port behind a host. -/
def portText : Option Nat → List Char
  | none => []
  | some p => ':' :: Nat.toDigits 10 p

theorem isPortText_portText (port : Option Nat) : IsPortText (portText port) := by
  cases port with
  | none => exact .inl rfl
  | some p => exact .inr ⟨p, rfl⟩

theorem portNumber_toDigits (p : Nat) : portNumber (Nat.toDigits 10 p) = p :=
  (foldl_digits (Nat.toDigits 10 p) 0).trans (Nat.ofDigitChars_toDigits (by decide) (by decide))

/-- A port that fits into two bytes is read from its digits. -/
theorem parsePort_toDigits {p : Nat} (hp : p ≤ 65535) : parsePort (Nat.toDigits 10 p) = .ok (some p) := by
  have hdecimal := isDecimal_toDigits p
  have hvalue : (Nat.toDigits 10 p).foldl (fun n c => min 65536 (n * 10 + (c.toNat - 0x30))) 0 = p := by
    have hheld : (Nat.toDigits 10 p).foldl (fun n c => min 65536 (n * 10 + (c.toNat - 0x30))) 0 =
        min 65536 (portNumber (Nat.toDigits 10 p)) :=
      foldl_min (Nat.toDigits 10 p) 0
    rw [hheld, portNumber_toDigits]
    omega
  have hgood : ¬ ((!(Nat.toDigits 10 p).all isDigit) = true ∨ 65535 < p) := by
    rw [hdecimal.all]
    simpa using hp
  unfold parsePort
  simp only [hvalue]
  rw [if_neg hgood, if_neg hdecimal.1]

theorem hostPart_append_portText {name : List Char} (h : ∀ c ∈ name, c ∉ authorityMarks)
    (port : Option Nat) : hostPart (name ++ portText port) = name := by
  have hport : hostPart.go false (portText port) = [] := by
    cases port with
    | none => rfl
    | some p => rfl
  unfold hostPart
  induction name with
  | nil => exact hport
  | cons c name ih =>
    have hmark := h c List.mem_cons_self
    simp only [authorityMarks, List.mem_cons, List.not_mem_nil, or_false, not_or] at hmark
    obtain ⟨-, hcolon, hopen, hclose⟩ := hmark
    rw [List.cons_append, hostPart.go, if_neg fun hand => hcolon hand.1, if_neg hopen, if_neg hclose,
      ih fun d hd => h d (List.mem_cons_of_mem c hd)]

/-! ## 3. Authorities -/

theorem parsePort_portText {port : Option Nat} (hport : ∀ p, port = some p → p ≤ 65535) :
    parsePort (cut (· == '\\') ((portText port).drop 1)).1 = .ok port ∧
      (cut (· == '\\') ((portText port).drop 1)).2 = [] := by
  have hcut : cut (· == '\\') ((portText port).drop 1) = ((portText port).drop 1, []) := by
    refine cut_of_forall fun c hc => beq_false_of_ne ?_
    rintro rfl
    exact (isPortText_portText port).not_mem (by decide) (by decide) (List.mem_of_mem_drop hc)
  rw [hcut]
  refine ⟨?_, rfl⟩
  cases port with
  | none => rfl
  | some p => exact parsePort_toDigits (hport p rfl)

/-- An ordinary name and a port are all of the authority that is read. -/
theorem parseAuthority_joined (h : IsOrdinary parts) {port : Option Nat}
    (hport : ∀ p, port = some p → p ≤ 65535) (scheme : List Char) (ended : Bool) :
    parseAuthority scheme true ended (joined parts ++ portText port) =
      .ok (⟨[], none, .domain (joined parts), if port = defaultPort? scheme then none else port⟩, []) := by
  have hmarks : ∀ c ∈ joined parts, c ∉ authorityMarks :=
    fun c hc => not_mark_of_isNameChar (h.isNameChar_of_mem hc)
  have hat : '@' ∉ joined parts ++ portText port := by
    intro hmem
    rcases List.mem_append.1 hmem with hmem | hmem
    · exact hmarks '@' hmem (by decide)
    · exact (isPortText_portText port).not_mem (by decide) (by decide) hmem
  have hdrop : (joined parts ++ portText port).drop (joined parts).length = portText port := List.drop_left
  obtain ⟨hread, hleft⟩ := parsePort_portText hport
  have hnamed : Host.domain (joined parts) ≠ .domain [] := fun heq => h.joined_ne_nil (Host.domain.inj heq)
  unfold parseAuthority
  simp only [splitAtLastAt_of_not_mem hat, hostPart_append_portText hmarks, hdrop, hread, hleft,
    h.joined_ne_nil, Host.parse_joined h, hnamed, reduceCtorEq, false_and, if_false, if_true]
  rfl

end RegistryAuth.Url
