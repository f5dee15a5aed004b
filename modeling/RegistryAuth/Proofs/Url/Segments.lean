import Mathlib.Data.List.Infix
import RegistryAuth.Proofs.Text.Parts
import RegistryAuth.Proofs.Url.Authority
import RegistryAuth.Proofs.Url.Percent

/-!
# Segments of a path

A text that is written between two slashes is one segment of the path, encoded, if it `IsSegment`: it holds
nothing that ends a segment or the path, and it stands for no other path.  Encoding neither makes such a text
of another nor takes one away, and it keeps texts apart that hold no codes themselves.
-/

namespace RegistryAuth.Url

open Text

variable {cs : List Char}

/-! ## 1. Dots -/

/-- Whether a segment stands for a path: the one that is read, or the one above. -/
def isDotted (cs : List Char) : Bool :=
  isSingleDot cs || isDoubleDot cs

/-- The dotted segments, in small letters. -/
def dottedTexts : List (List Char) :=
  [".", "%2e", "..", ".%2e", "%2e.", "%2e%2e"].map String.toList

theorem isDotted_iff : isDotted cs = true ↔ cs.map lowerAscii ∈ dottedTexts := by
  have htext (s : String) : String.ofList (cs.map lowerAscii) = s ↔ cs.map lowerAscii = s.toList := by
    rw [← String.toList_inj, String.toList_ofList]
  simp only [isDotted, isSingleDot, isDoubleDot, Bool.or_eq_true, List.contains_iff_mem, dottedTexts,
    List.map_cons, List.map_nil, List.mem_cons, List.not_mem_nil, or_false, htext, or_assoc]

/-- Every code in a dotted segment is that of a full stop. -/
theorem code_of_dotted (h : isDotted cs = true) {rest : List Char} (hrest : '%' :: rest <:+ cs) :
    (rest.map lowerAscii).take 2 = ['2', 'e'] := by
  have hcodes : ∀ text ∈ dottedTexts, ∀ tail ∈ text.tails, tail.head? = some '%' →
      tail.tail.take 2 = ['2', 'e'] := by
    decide
  have htail : '%' :: rest.map lowerAscii <:+ cs.map lowerAscii := hrest.map lowerAscii
  exact hcodes _ (isDotted_iff.1 h) _ ((List.mem_tails _ _).2 htail) rfl

theorem lowerAscii_of_inPathSet {c : Char} (h : inPathSet c = true) : lowerAscii c = c := by
  refine if_neg fun hcapital => ?_
  simp only [isCapital, Bool.and_eq_true, decide_eq_true_eq] at hcapital
  simp only [inPathSet, inFragmentSet, inControlSet, Bool.or_eq_true, decide_eq_true_eq, beq_iff_eq] at h
  rcases h with (((((((((hlow | hhigh) | rfl) | rfl) | rfl) | rfl) | rfl) | rfl) | rfl) | rfl) | rfl
  · omega
  · omega
  all_goals exact absurd hcapital (by decide)

theorem not_inPathSet_of_dotted (h : isDotted cs = true) {c : Char} (hc : c ∈ cs) : inPathSet c = false := by
  have hnot : ∀ text ∈ dottedTexts, text.all (!inPathSet ·) = true := by decide
  have hsmall := List.all_eq_true.1 (hnot _ (isDotted_iff.1 h)) _ (List.mem_map_of_mem (f := lowerAscii) hc)
  refine Bool.eq_false_iff.2 fun hset => ?_
  rw [lowerAscii_of_inPathSet hset, hset] at hsmall
  cases hsmall

theorem hexDigit_dot : ∀ d < 16, (lowerAscii (hexDigit d) = '2' → d = 2) ∧
    (lowerAscii (hexDigit d) = 'e' → d = 14) := by
  decide

/-- Only a full stop is encoded as a code of a full stop. -/
theorem eq_dot_of_code {c : Char} {rest : List Char}
    (h : ∀ code, (String.utf8EncodeChar c).flatMap percentByte ++ rest = '%' :: code →
      (code.map lowerAscii).take 2 = ['2', 'e']) : c = '.' := by
  obtain ⟨b, bs, hbytes⟩ := List.exists_cons_of_ne_nil (String.utf8EncodeChar_ne_nil (c := c))
  have hb := b.toNat_lt
  have hcode := h (hexDigit (b.toNat / 16) :: hexDigit (b.toNat % 16) :: (bs.flatMap percentByte ++ rest))
    (by rw [hbytes]; rfl)
  rw [List.map_cons, List.map_cons, List.take_succ_cons, List.take_succ_cons, List.take_zero] at hcode
  obtain ⟨htwo, he⟩ := List.cons.inj hcode
  have hhigh := (hexDigit_dot (b.toNat / 16) (by omega)).1 htwo
  have hlow := (hexDigit_dot (b.toNat % 16) (by omega)).2 (List.cons.inj he).1
  have hdot : b = 0x2E := UInt8.toNat_inj.1 (show b.toNat = 0x2E by omega)
  refine Utf8.eq_of_mem_utf8EncodeChar (by decide) ?_
  rw [hbytes, hdot]
  exact List.mem_cons_self

/-- Encoding changes nothing in a dotted segment, and makes no other text into one. -/
theorem percentEncode_of_dotted
    (h : isDotted cs = true ∨ isDotted (percentEncode inPathSet cs) = true) :
    percentEncode inPathSet cs = cs := by
  rcases h with h | h
  · exact percentEncode_eq_self fun c hc => not_inPathSet_of_dotted h hc
  · -- What is left of the text keeps this of the codes, but need not be dotted.
    have hcodes (code : List Char) (hcode : '%' :: code <:+ percentEncode inPathSet cs) :
        (code.map lowerAscii).take 2 = ['2', 'e'] :=
      code_of_dotted h hcode
    clear h
    induction cs with
    | nil => rfl
    | cons c cs ih =>
      rw [percentEncode_cons] at hcodes ⊢
      by_cases hset : inPathSet c = true
      · rw [if_pos hset] at hcodes
        obtain rfl := eq_dot_of_code fun code hcode => hcodes code (hcode ▸ List.suffix_refl _)
        exact absurd hset (by decide)
      · rw [if_neg hset] at hcodes ⊢
        rw [ih fun code hcode => hcodes code (hcode.trans (List.suffix_append _ _))]
        rfl

theorem isDotted_percentEncode (cs : List Char) :
    isDotted (percentEncode inPathSet cs) = isDotted cs := by
  by_cases h : isDotted cs = true ∨ isDotted (percentEncode inPathSet cs) = true
  · rw [percentEncode_of_dotted h]
  · rw [not_or, Bool.not_eq_true, Bool.not_eq_true] at h
    rw [h.1, h.2]

/-! ## 2. Segments -/

/-- Whether a text between two slashes is one segment: nothing in it ends a segment or the path, and it stands
for no other path. -/
structure IsSegment (cs : List Char) : Prop where
  not_ends : cs.any (endsAuthority true) = false
  not_dotted : isDotted cs = false

theorem IsSegment.not_ends_of_mem (h : IsSegment cs) {c : Char} (hc : c ∈ cs) :
    isSeparator true c = false ∧ endsPath c = false := by
  rw [← Bool.or_eq_false_iff]
  exact Bool.eq_false_iff.2 (List.any_eq_false.1 h.not_ends c hc)

variable {path parts : List (List Char)}

theorem addSegments_of_undotted (h : ∀ s ∈ parts, isDotted s = false) (path : List (List Char)) :
    addSegments false path parts = parts.reverse ++ path := by
  induction parts generalizing path with
  | nil => rfl
  | cons s parts ih =>
    obtain ⟨hsingle, hdouble⟩ := Bool.or_eq_false_iff.1 (h s List.mem_cons_self)
    rw [addSegments, if_neg (Bool.eq_false_iff.1 hdouble), if_neg (Bool.eq_false_iff.1 hsingle),
      if_neg (by simp), ih (fun t ht => h t (List.mem_cons_of_mem s ht)), List.reverse_cons, List.append_assoc]
    rfl

/-- A dotted segment at the front of a path is passed over. -/
theorem addSegments_of_dotted {s t : List Char} (h : isDotted s = true) :
    addSegments false [] (s :: t :: parts) = addSegments false [] (t :: parts) := by
  rw [addSegments]
  rcases Bool.or_eq_true_iff.1 h with hsingle | hdouble
  · by_cases hdouble : isDoubleDot s = true
    · rw [if_pos hdouble]
      rfl
    · rw [if_neg hdouble, if_pos hsingle]
      rfl
  · rw [if_pos hdouble]
    rfl

theorem dropSegment_subset (path : List (List Char)) : dropSegment path ⊆ path := by
  cases path with
  | nil => exact List.Subset.refl []
  | cons s rest =>
    rw [dropSegment]
    split
    · exact List.Subset.refl _
    · exact List.subset_cons_self s rest

/-- Every segment that is read is one of those written, unless it is empty. -/
theorem of_mem_addSegments {s : List Char} (h : s ∈ addSegments false path parts) :
    s = [] ∨ s ∈ path ∨ s ∈ parts := by
  induction parts generalizing path with
  | nil => exact .inr (.inl h)
  | cons t parts ih =>
    have hopen {shorter : List (List Char)} (hshorter : shorter ⊆ path)
        (h : s ∈ addSegments false (if parts.isEmpty then [] :: shorter else shorter) parts) :
        s = [] ∨ s ∈ path ∨ s ∈ t :: parts := by
      rcases ih h with hnil | hpath | hparts
      · exact .inl hnil
      · split at hpath
        · rcases List.mem_cons.1 hpath with hnil | hpath
          · exact .inl hnil
          · exact .inr (.inl (hshorter hpath))
        · exact .inr (.inl (hshorter hpath))
      · exact .inr (.inr (List.mem_cons_of_mem t hparts))
    rw [addSegments] at h
    split at h
    · exact hopen (dropSegment_subset path) h
    · split at h
      · exact hopen (List.Subset.refl path) h
      · rw [if_neg (by simp)] at h
        rcases ih h with hnil | hpath | hparts
        · exact .inl hnil
        · rcases List.mem_cons.1 hpath with rfl | hpath
          · exact .inr (.inr List.mem_cons_self)
          · exact .inr (.inl hpath)
        · exact .inr (.inr (List.mem_cons_of_mem t hparts))

/-- Segments that are put together are split again. -/
theorem splitSegments_intercalate (hne : parts ≠ [])
    (h : ∀ s ∈ parts, ∀ c ∈ s, isSeparator true c = false) :
    splitSegments true (['/'].intercalate parts) = parts := by
  have hnot {s : List Char} (hs : s ∈ parts) {c : Char} (hc : c ∈ s) : c ≠ '/' ∧ c ≠ '\\' := by
    have hsep := h s hs c hc
    simpa [isSeparator] using hsep
  have hmap : (['/'].intercalate parts).map (fun c => if c = '\\' then '/' else c) =
      ['/'].intercalate parts := by
    refine (List.map_congr_left fun c hc => if_neg ?_).trans (List.map_id _)
    rcases of_mem_intercalate hc with rfl | ⟨s, hs, hc⟩
    · decide
    · exact (hnot hs hc).2
  unfold splitSegments
  rw [if_pos rfl, hmap, splitAt_intercalate hne fun s hs hmem => (hnot hs hmem).1 rfl]

/-- Segments that are put together are read back, encoded. -/
theorem readSegments_intercalate (hne : parts ≠ []) (h : ∀ s ∈ parts, IsSegment s) :
    readSegments .special (['/'].intercalate parts) = parts.map (percentEncode inPathSet) := by
  have hsplit := splitSegments_intercalate hne fun s hs c hc => ((h s hs).not_ends_of_mem hc).1
  have hplain : ∀ s ∈ parts.map (percentEncode inPathSet), isDotted s = false := by
    intro s hs
    obtain ⟨t, ht, rfl⟩ := List.mem_map.1 hs
    rw [isDotted_percentEncode]
    exact (h t ht).not_dotted
  show (addSegments false [] ((splitSegments true _).map (percentEncode inPathSet))).reverse = _
  rw [hsplit, addSegments_of_undotted hplain, List.append_nil, List.reverse_reverse]

theorem not_inPathSet_of_isSeparator {c : Char} (h : isSeparator true c = true) : inPathSet c = false := by
  simp only [isSeparator, Bool.true_and, Bool.or_eq_true, beq_iff_eq] at h
  rcases h with rfl | rfl
  · decide
  · decide

theorem not_separator_of_percentByte {b : UInt8} {c : Char} (h : c ∈ percentByte b) :
    isSeparator true c = false := by
  have hdigit : ∀ d < 16, isSeparator true (hexDigit d) = false := by decide
  have hb := b.toNat_lt
  simp only [percentByte, List.mem_cons, List.not_mem_nil, or_false] at h
  rcases h with rfl | rfl | rfl
  · decide
  · exact hdigit _ (by omega)
  · exact hdigit _ (by omega)

/-- No separator is left in a segment that is read. -/
theorem not_separator_of_readSegments {s : List Char} (hs : s ∈ readSegments .special cs) {c : Char}
    (hc : c ∈ s) : isSeparator true c = false := by
  rcases of_mem_addSegments (List.mem_reverse.1 hs) with rfl | hnil | hs
  · cases hc
  · cases hnil
  · obtain ⟨t, ht, rfl⟩ := List.mem_map.1 hs
    rcases of_mem_percentEncode hc with ⟨hct, -⟩ | ⟨b, hcb⟩
    · have hslash : c ≠ '/' := fun heq => not_mem_of_mem_splitAt ht (heq ▸ hct)
      -- A backslash was read as a slash.
      obtain ⟨d, -, hd⟩ := List.mem_map.1 (mem_of_mem_splitAt ht hct)
      have hback : c ≠ '\\' := by
        rintro rfl
        split at hd
        · exact absurd hd (by decide)
        · rename_i hne
          exact hne hd
      simp [isSeparator, hslash, hback]
    · exact not_separator_of_percentByte hcb

/-! ## 3. Addresses -/

section Addresses

variable {scheme : List Char} {a : Authority}

/-- An address whose authority ends at a slash: its path is read from there to the first mark. -/
theorem parse_eq_ok {s : String} {name path : List Char} (hkind : schemeKind scheme = .special)
    (hsplit : splitScheme? (cleaned s.toList) = some (scheme, '/' :: '/' :: (name ++ '/' :: path)))
    (hne : name ≠ []) (hname : name.any (endsAuthority true) = false)
    (hauthority : parseAuthority scheme true true name = .ok (a, [])) :
    parse s = .ok (withBack true scheme (some a)
      (.segments (readSegments .special (cut endsPath path).1)) (cut endsPath path).2) := by
  have hnot : ∀ c ∈ name, endsAuthority true c = false :=
    fun c hc => Bool.eq_false_iff.2 (List.any_eq_false.1 hname c hc)
  have hdrop : ('/' :: '/' :: (name ++ '/' :: path)).dropWhile (isSeparator true) = name ++ '/' :: path := by
    obtain ⟨c, rest, hcons⟩ := List.exists_cons_of_ne_nil hne
    have hc : isSeparator true c = false :=
      (Bool.or_eq_false_iff.1 (hnot c (hcons ▸ List.mem_cons_self))).1
    rw [List.dropWhile_cons_of_pos (by rfl), List.dropWhile_cons_of_pos (by rfl), hcons, List.cons_append,
      List.dropWhile_cons_of_neg (Bool.eq_false_iff.1 hc)]
  have hpath : cut endsPath ('/' :: path) = ('/' :: (cut endsPath path).1, (cut endsPath path).2) := by
    unfold cut
    rw [List.takeWhile_cons_of_pos (by rfl), List.dropWhile_cons_of_pos (by rfl)]
  unfold parse
  rw [hsplit]
  simp only [hkind, hdrop, parseAfterSlashes, show SchemeKind.special.isSpecial = true from rfl,
    cut_append hnot (show endsAuthority true '/' = true from rfl), List.isEmpty_cons, Bool.not_false,
    hauthority, List.nil_append, hpath]
  rfl

/-- An address has neither a query nor a fragment only if no mark is left behind its path. -/
theorem eq_nil_of_withBack {special : Bool} {authority : Option Authority} {path : Path} {cs : List Char}
    (hquery : (withBack special scheme authority path cs).query = none)
    (hfragment : (withBack special scheme authority path cs).fragment = none) : cs = [] := by
  rw [← fst_append_snd_cut (· == '#') cs]
  cases hfront : (cut (· == '#') cs).1 with
  | cons c rest => simp [withBack, hfront] at hquery
  | nil =>
    cases hback : (cut (· == '#') cs).2 with
    | cons c rest => simp [withBack, hback] at hfragment
    | nil => rfl

end Addresses

end RegistryAuth.Url
