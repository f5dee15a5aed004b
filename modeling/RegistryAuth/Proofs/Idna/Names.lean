import RegistryAuth.Idna.Domain
import RegistryAuth.Proofs.Idna.Composing
import RegistryAuth.Proofs.Text.Lossy
import RegistryAuth.Proofs.Text.Parts

/-!
# What domain names hold

The ASCII form of a domain name holds no character that may not stand in one: neither controls nor blanks
nor any delimiter of an address.  Its labels were cut from a text that has none, and Punycode adds letters,
digits and hyphens.
-/

namespace RegistryAuth.Idna

open Text (Bytes)

/-- Whether a text holds nothing that may not stand in a domain name. -/
def IsAllowed (cs : List Char) : Prop :=
  ∀ c ∈ cs, isForbidden c = false

theorem IsAllowed.append {cs ds : List Char} (h : IsAllowed cs) (h' : IsAllowed ds) :
    IsAllowed (cs ++ ds) :=
  fun c hc => (List.mem_append.1 hc).elim (h c) (h' c)

theorem isAllowed_codeMark : IsAllowed codeMark := by
  intro c hc
  have hall : codeMark.all (fun c => !isForbidden c) = true := by decide
  simpa using List.all_eq_true.1 hall c hc

/-! ## 1. Punycode -/

namespace Punycode

theorem isForbidden_digit : ∀ v < base, isForbidden (digit v) = false := by
  decide

/-- By induction on the number.  A digit is less than the base, since the last is less than its threshold
and the others are a threshold and a remainder. -/
theorem isAllowed_writeDistance (bias k q : Nat) : IsAllowed (writeDistance bias k q) := by
  induction q using Nat.strongRecOn generalizing k with
  | _ q ih =>
    have hpos := threshold_pos k bias
    have hle := threshold_le k bias
    have hbase : base = 36 := rfl
    rw [writeDistance]
    by_cases hq : q < threshold k bias
    · rw [if_pos hq]
      intro c hc
      rw [List.mem_singleton.1 hc]
      exact isForbidden_digit q (by omega)
    · rw [if_neg hq]
      intro c hc
      rcases List.mem_cons.1 hc with rfl | hc
      · have hmod : (q - threshold k bias) % (base - threshold k bias) < base - threshold k bias :=
          Nat.mod_lt _ (by omega)
        exact isForbidden_digit _ (by omega)
      · have hdiv := Nat.div_le_self (q - threshold k bias) (base - threshold k bias)
        exact ih _ (by omega) (k + base) c hc

theorem Encoder.isAllowed_pass {basicCount n : Nat} {e : Encoder} (h : IsAllowed e.digits) (c : Char) :
    IsAllowed (e.pass basicCount n c).digits := by
  unfold Encoder.pass
  by_cases hless : c.toNat < n
  · rw [if_pos hless]
    exact h
  · rw [if_neg hless]
    by_cases heq : c.toNat = n
    · rw [if_pos heq]
      intro d hd
      rcases List.mem_append.1 hd with hd | hd
      · exact isAllowed_writeDistance e.bias base e.delta d (List.mem_reverse.1 hd)
      · exact h d hd
    · rw [if_neg heq]
      exact h

theorem Encoder.isAllowed_run (text : List Char) (basicCount : Nat) {codes : List Nat} {n : Nat}
    {e : Encoder} (h : IsAllowed e.digits) : IsAllowed (e.run text basicCount codes n).digits := by
  induction codes generalizing n e with
  | nil => exact h
  | cons m codes ih =>
    rw [Encoder.run]
    apply ih
    exact List.foldlRecOn (motive := fun e : Encoder => IsAllowed e.digits) text _ h
      fun _ he c _ => Encoder.isAllowed_pass he c

/-- The code of a text holds characters of the text, digits and a hyphen. -/
theorem isAllowed_encode {text code : List Char} (htext : IsAllowed text)
    (h : encode? text = some code) : IsAllowed code := by
  unfold encode? at h
  split at h
  · cases h
  · simp only [Option.some.injEq] at h
    subst h
    have hbasic : IsAllowed (text.filter Text.isAscii) := fun c hc => htext c (List.mem_of_mem_filter hc)
    refine (hbasic.append ?_).append ?_
    · split
      · exact fun _ hc => absurd hc List.not_mem_nil
      · exact fun c hc => List.mem_singleton.1 hc ▸ rfl
    · intro c hc
      exact Encoder.isAllowed_run text _ (fun _ hd => absurd hd List.not_mem_nil) c (List.mem_reverse.1 hc)

end Punycode

/-! ## 2. Labels and names -/

/-- The code that a label is given in is the label as it was read. -/
theorem Label.of_ofMapped? {cs : List Char} {label : Label} (h : Label.ofMapped? cs = some label) :
    label.code = some cs ∨ label = ⟨cs, none⟩ := by
  unfold Label.ofMapped? at h
  split at h
  · split at h
    · split at h
      · split at h
        · cases h
          exact .inl rfl
        · cases h
      · cases h
    · cases h
  · split at h
    · cases h
      exact .inr rfl
    · cases h

theorem Label.isAllowed_toAscii {cs part : List Char} {label : Label} (hcs : IsAllowed cs)
    (hlabel : Label.ofMapped? cs = some label) (h : label.toAscii? = some part) : IsAllowed part := by
  unfold Label.toAscii? at h
  rcases Label.of_ofMapped? hlabel with hcode | rfl
  · rw [hcode] at h
    cases h
    exact hcs
  · simp only at h
    split at h
    · cases h
      exact hcs
    · obtain ⟨code, hcode, rfl⟩ := Option.map_eq_some_iff.1 h
      exact isAllowed_codeMark.append (Punycode.isAllowed_encode hcs hcode)

/-- The steps in which a name is made. -/
theorem of_toAscii? {bs : Bytes} {name : List Char} (h : toAscii? bs = some name) :
    ∃ mapped labels parts, mapText? (Text.Utf8.decodeLossy bs) = some mapped ∧ IsAllowed mapped ∧
      (Text.splitAt '.' mapped).mapM Label.ofMapped? = some labels ∧
      labels.mapM Label.toAscii? = some parts ∧ name = ['.'].intercalate parts := by
  unfold toAscii? at h
  obtain ⟨mapped, hmapped, h⟩ := Option.bind_eq_some_iff.1 h
  split at h
  · cases h
  · rename_i hnone
    obtain ⟨labels, hlabels, h⟩ := Option.bind_eq_some_iff.1 h
    split at h
    · cases h
    · obtain ⟨parts, hparts, h⟩ := Option.bind_eq_some_iff.1 h
      cases h
      have hallowed : IsAllowed mapped := by
        rw [Bool.not_eq_true, List.any_eq_false] at hnone
        exact fun c hc => Bool.eq_false_iff.2 (hnone c hc)
      exact ⟨mapped, labels, parts, hmapped, hallowed, hlabels, hparts, rfl⟩

theorem isAllowed_of_toAscii? {bs : Bytes} {name : List Char} (h : toAscii? bs = some name) :
    IsAllowed name := by
  obtain ⟨mapped, labels, parts, -, hmapped, hlabels, hparts, rfl⟩ := of_toAscii? h
  intro c hc
  rcases Text.of_mem_intercalate hc with rfl | ⟨part, hpart, hcpart⟩
  · decide
  · obtain ⟨label, hlabel, hascii⟩ := Text.exists_of_mem_mapM hparts hpart
    obtain ⟨cs, hcs, hread⟩ := Text.exists_of_mem_mapM hlabels hlabel
    have hallowed : IsAllowed cs := fun d hd => hmapped d (Text.mem_of_mem_splitAt hcs hd)
    exact Label.isAllowed_toAscii hallowed hread hascii c hcpart

/-! ## 3. Controls and blanks -/

theorem mapChar?_of_control {c : Char} (hc : c.toNat ≤ 0x20) : mapChar? c = some [c] := by
  have hascii : Text.isAscii c = true := decide_eq_true (show c.toNat < 0x80 by omega)
  have hsmall : Text.isCapital c = false := by
    simp [Text.isCapital]
    omega
  unfold mapChar? Text.lowerAscii
  rw [if_pos hascii, hsmall]
  rfl

/-- A control or a blank at the end of a text is not lost when the text is mapped. -/
theorem mem_of_mapText?_concat {c : Char} (hc : c.toNat ≤ 0x20) {cs mapped : List Char}
    (h : mapText? (cs ++ [c]) = some mapped) : c ∈ mapped := by
  obtain ⟨parts, hparts, rfl⟩ := Option.map_eq_some_iff.1 h
  rw [List.mapM_append] at hparts
  obtain ⟨before, -, hparts⟩ := Option.bind_eq_some_iff.1 hparts
  rw [List.mapM_cons, mapChar?_of_control hc] at hparts
  cases hparts
  rw [List.flatten_append]
  exact mem_compose_concat (by omega) before.flatten

/-- No domain name is read of bytes that end with a control or a blank. -/
theorem toAscii?_concat {c : Char} (hc : c.toNat ≤ 0x20) (bs : Bytes) :
    toAscii? (bs ++ [UInt8.ofNat c.toNat]) = none := by
  apply Option.eq_none_iff_forall_ne_some.2
  intro name hname
  obtain ⟨mapped, -, -, hmapped, hallowed, -⟩ := of_toAscii? hname
  rw [Text.Utf8.decodeLossy_concat (show c.toNat < 0x80 by omega) bs] at hmapped
  have hnot := hallowed c (mem_of_mapText?_concat hc hmapped)
  simp [isForbidden, hc] at hnot

end RegistryAuth.Idna
