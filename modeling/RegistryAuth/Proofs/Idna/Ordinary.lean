import RegistryAuth.Proofs.Idna.Names

/-!
# Names that are kept as they are

An ordinary name has labels of small letters, digits and hyphens, of which none is marked as Punycode and the
last begins with a letter.  Each step in which the ASCII form of a name is made keeps such a name, so it is its
own ASCII form.
-/

namespace RegistryAuth.Idna

open Text

/-! ## 1. Characters -/

/-- Whether a character is a small letter, a digit or a hyphen. -/
def isLabelChar (c : Char) : Bool :=
  (isLetter c && !isCapital c) || isDigit c || c == '-'

/-- Whether a character is one of a label or stands between labels. -/
def isNameChar (c : Char) : Bool :=
  isLabelChar c || c == '.'

theorem lt_of_isNameChar {c : Char} (h : isNameChar c = true) : c.toNat < 0x80 := by
  simp only [isNameChar, isLabelChar, isLetter, isCapital, isDigit, Bool.or_eq_true, Bool.and_eq_true,
    decide_eq_true_eq, beq_iff_eq] at h
  rcases h with ((⟨hletter, -⟩ | hdigit) | rfl) | rfl
  · omega
  · omega
  · decide
  · decide

theorem lowerAscii_of_isNameChar {c : Char} (h : isNameChar c = true) : lowerAscii c = c := by
  refine if_neg fun hcapital => ?_
  have hletter : isLetter c = true := Bool.or_eq_true_iff.2 (.inl hcapital)
  simp only [isNameChar, isLabelChar, hletter, hcapital, Bool.not_true, Bool.and_false, Bool.false_or,
    Bool.or_eq_true, beq_iff_eq] at h
  rcases h with (hdigit | rfl) | rfl
  · simp only [isCapital, isDigit, Bool.and_eq_true, decide_eq_true_eq] at hcapital hdigit
    omega
  · exact absurd hcapital (by decide)
  · exact absurd hcapital (by decide)

theorem isForbidden_of_isNameChar {c : Char} (h : isNameChar c = true) : isForbidden c = false := by
  have hall : ∀ n < 0x80, isNameChar (Char.ofNat n) = true → isForbidden (Char.ofNat n) = false := by decide
  have hc := hall c.toNat (lt_of_isNameChar h)
  rw [Char.ofNat_toNat] at hc
  exact hc h

theorem mapChar?_of_isNameChar {c : Char} (h : isNameChar c = true) : mapChar? c = some [c] := by
  have hascii : isAscii c = true := decide_eq_true (lt_of_isNameChar h)
  unfold mapChar?
  rw [if_pos hascii, lowerAscii_of_isNameChar h]

/-- A text of such characters is mapped to itself. -/
theorem mapText?_eq_self {cs : List Char} (h : ∀ c ∈ cs, isNameChar c = true) : mapText? cs = some cs := by
  have hparts : cs.mapM mapChar? = some (cs.map fun c => [c]) :=
    mapM_eq_some_map fun c hc => mapChar?_of_isNameChar (h c hc)
  have hflatten : (cs.map fun c => [c]).flatten = cs := by
    rw [← List.flatMap_def, List.flatMap_singleton']
  have hlow : cs.all (·.toNat < 0x300) = true := by
    refine List.all_eq_true.2 fun c hc => decide_eq_true ?_
    have hlt := lt_of_isNameChar (h c hc)
    omega
  unfold mapText?
  rw [hparts, Option.map_some, hflatten, compose, if_pos hlow]

/-! ## 2. Labels -/

structure IsOrdinaryLabel (cs : List Char) : Prop where
  ne_nil : cs ≠ []
  all : cs.all isLabelChar = true
  not_marked : codeMark.isPrefixOf cs = false

namespace IsOrdinaryLabel

variable {cs : List Char}

theorem isLabelChar_of_mem (h : IsOrdinaryLabel cs) {c : Char} (hc : c ∈ cs) : isLabelChar c = true :=
  List.all_eq_true.1 h.all c hc

theorem isNameChar_of_mem (h : IsOrdinaryLabel cs) {c : Char} (hc : c ∈ cs) : isNameChar c = true :=
  Bool.or_eq_true_iff.2 (.inl (h.isLabelChar_of_mem hc))

theorem not_mem_dot (h : IsOrdinaryLabel cs) : '.' ∉ cs :=
  fun hmem => absurd (h.isLabelChar_of_mem hmem) (by decide)

theorem all_isAscii (h : IsOrdinaryLabel cs) : cs.all isAscii = true :=
  List.all_eq_true.2 fun _ hc => decide_eq_true (lt_of_isNameChar (h.isNameChar_of_mem hc))

theorem ofMapped? (h : IsOrdinaryLabel cs) : Label.ofMapped? cs = some ⟨cs, none⟩ := by
  unfold Label.ofMapped?
  rw [if_neg (Bool.eq_false_iff.1 h.not_marked), if_pos (.inl h.all_isAscii)]

theorem toAscii? (h : IsOrdinaryLabel cs) : Label.toAscii? ⟨cs, none⟩ = some cs :=
  if_pos h.all_isAscii

theorem not_isRightward (h : IsOrdinaryLabel cs) : cs.any isRightward = false := by
  refine List.any_eq_false.2 fun c hc => ?_
  have hlt := lt_of_isNameChar (h.isNameChar_of_mem hc)
  simp only [isRightward, Bool.and_eq_true, decide_eq_true_eq, not_and]
  omega

end IsOrdinaryLabel

/-! ## 3. Names -/

/-- The text of a name. -/
def joined (labels : List (List Char)) : List Char :=
  ['.'].intercalate labels

structure IsOrdinary (labels : List (List Char)) : Prop where
  ne_nil : labels ≠ []
  label : ∀ cs ∈ labels, IsOrdinaryLabel cs
  last : ∀ cs, labels.getLast? = some cs → cs.head?.map isLetter = some true

namespace IsOrdinary

variable {labels : List (List Char)}

theorem isNameChar_of_mem (h : IsOrdinary labels) {c : Char} (hc : c ∈ joined labels) :
    isNameChar c = true := by
  rcases of_mem_intercalate hc with rfl | ⟨cs, hcs, hc⟩
  · rfl
  · exact (h.label cs hcs).isNameChar_of_mem hc

theorem splitAt_joined (h : IsOrdinary labels) : splitAt '.' (joined labels) = labels :=
  splitAt_intercalate h.ne_nil fun cs hcs => (h.label cs hcs).not_mem_dot

theorem joined_ne_nil (h : IsOrdinary labels) : joined labels ≠ [] := by
  intro hnil
  have hparts := h.splitAt_joined
  rw [hnil] at hparts
  -- The only part of an empty text is empty, and no label is.
  have hempty : [] ∈ labels := hparts ▸ List.mem_singleton_self []
  exact (h.label [] hempty).ne_nil rfl

/-- An ordinary name is its own ASCII form. -/
theorem toAscii?_encode (h : IsOrdinary labels) :
    Idna.toAscii? (Utf8.encode (joined labels)) = some (joined labels) := by
  have hmapped : mapText? (joined labels) = some (joined labels) :=
    mapText?_eq_self fun c hc => h.isNameChar_of_mem hc
  have hallowed : (joined labels).any isForbidden = false :=
    List.any_eq_false.2 fun c hc => Bool.eq_false_iff.1 (isForbidden_of_isNameChar (h.isNameChar_of_mem hc))
  have hlabels : labels.mapM Label.ofMapped? = some (labels.map fun cs => ⟨cs, none⟩) :=
    mapM_eq_some_map fun cs hcs => (h.label cs hcs).ofMapped?
  have hleft : ((labels.map fun cs => (⟨cs, none⟩ : Label)).any (·.text.any isRightward)) = false := by
    rw [List.any_map]
    exact List.any_eq_false.2 fun cs hcs => Bool.eq_false_iff.1 (h.label cs hcs).not_isRightward
  have hparts : (labels.map fun cs => (⟨cs, none⟩ : Label)).mapM Label.toAscii? = some labels := by
    have htexts : (labels.map fun cs => (⟨cs, none⟩ : Label)).mapM Label.toAscii? =
        some ((labels.map fun cs => ⟨cs, none⟩).map Label.text) :=
      mapM_eq_some_map (List.forall_mem_map.2 fun cs hcs => (h.label cs hcs).toAscii?)
    rw [htexts, List.map_map]
    exact congrArg some (List.map_id labels)
  unfold Idna.toAscii?
  rw [Utf8.decodeLossy_encode, hmapped]
  simp only [Option.bind_eq_bind, Option.bind_some, hallowed, Bool.false_eq_true, if_false,
    h.splitAt_joined, hlabels, hleft, Bool.false_and, hparts]
  rfl

end IsOrdinary

end RegistryAuth.Idna
