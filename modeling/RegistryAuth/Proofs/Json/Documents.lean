import RegistryAuth.Proofs.Json.Members
import RegistryAuth.Proofs.Json.NumberValues
import RegistryAuth.Proofs.Json.Ordered

/-!
# Documents

What a document denotes is given along the grammar: its numbers and its strings denote what they write, and
of the members of an object that have a name in common the last one counts.  A document is read exactly if it
denotes something, and as what it denotes: `parse_eq_ok_iff`.
-/

namespace RegistryAuth.Json

open Text (Bytes)

/-! ## 1. What is denoted -/

mutual

/-- What a value denotes that is written out, with at most `depth` containers inside one another. -/
inductive Denotes : Nat → Bytes → Json → Prop
  | null {depth : Nat} : Denotes depth ("null".toList.map byte) .null
  | bool {depth : Nat} (b : Bool) : Denotes depth ((if b then "true" else "false").toList.map byte) (.bool b)
  | number {depth : Nat} {bs : Bytes} {n : Number} (h : IsNumeral n bs) : Denotes depth bs (.number n)
  | string {depth : Nat} {bs : Bytes} {s : String} (h : IsText s bs) : Denotes depth bs (.string s)
  | array {depth : Nat} {body : Bytes} {items : List Json} (h : DenotesItems depth true body items) :
    Denotes (depth + 1) (byte '[' :: body) (.array items)
  | object {depth : Nat} {body : Bytes} {written members : List (String × Json)}
    (h : DenotesMembers depth true body written) (hmembers : Resolves written members) :
    Denotes (depth + 1) (byte '\x7b' :: body) (.object members)

/-- The items of an array from its beginning or from after an item, with the closing bracket. -/
inductive DenotesItems : Nat → Bool → Bytes → List Json → Prop
  | close {depth : Nat} {first : Bool} {gap : Bytes} (hgap : IsGap gap) :
    DenotesItems depth first (gap ++ [byte ']']) []
  | next {depth : Nat} {first : Bool} {lead text body : Bytes} {v : Json} {items : List Json}
    (hlead : IsLead first lead) (hv : Denotes depth text v) (h : DenotesItems depth false body items) :
    DenotesItems depth first (lead ++ (text ++ body)) (v :: items)

/-- The members of an object as they are written, from its beginning or from after a member, with the
closing brace. -/
inductive DenotesMembers : Nat → Bool → Bytes → List (String × Json) → Prop
  | close {depth : Nat} {first : Bool} {gap : Bytes} (hgap : IsGap gap) :
    DenotesMembers depth first (gap ++ [byte '\x7d']) []
  | next {depth : Nat} {first : Bool} {lead label gap gap' text body : Bytes} {name : String} {v : Json}
    {members : List (String × Json)} (hlead : IsLead first lead) (hlabel : IsText name label)
    (hgap : IsGap gap) (hgap' : IsGap gap') (hv : Denotes depth text v)
    (h : DenotesMembers depth false body members) :
    DenotesMembers depth first (lead ++ (label ++ (gap ++ byte ':' :: (gap' ++ (text ++ body)))))
      ((name, v) :: members)

end

/-- A value with white space around it, and what it denotes. -/
def IsDocument (bs : Bytes) (v : Json) : Prop :=
  ∃ gap text gap', bs = gap ++ (text ++ gap') ∧ IsGap gap ∧ IsGap gap' ∧ Denotes 127 text v

section Texts

variable {depth : Nat} {first : Bool} {text body rest : Bytes} {v : Json}

theorem Denotes.exists_cons (h : Denotes depth text v) :
    ∃ b bs, text = b :: bs ∧ isGap b = false ∧ b ≠ byte ']' := by
  cases h with
  | null => exact ⟨_, _, rfl, by decide⟩
  | bool b => cases b <;> exact ⟨_, _, rfl, by decide⟩
  | number h =>
    obtain ⟨b, bs, rfl, hb⟩ := h.isNumber.exists_cons
    exact ⟨b, bs, rfl, isGap_of_startsNumber hb, ne_of_startsNumber hb (by decide)⟩
  | string h =>
    obtain ⟨left, rfl, -⟩ := readString_append h
    exact ⟨_, left, rfl, by decide⟩
  | array h => exact ⟨_, _, rfl, by decide⟩
  | object h hmembers => exact ⟨_, _, rfl, by decide⟩

theorem Denotes.length_pos (h : Denotes depth text v) : 0 < text.length := by
  obtain ⟨b, bs, rfl, -⟩ := h.exists_cons
  exact Nat.succ_pos _

theorem DenotesItems.length_pos {items : List Json} (h : DenotesItems depth first body items) :
    0 < body.length := by
  cases h with
  | close _ => simp
  | next _ hv _ =>
    have hpos := hv.length_pos
    simp only [List.length_append]
    omega

theorem DenotesMembers.length_pos {members : List (String × Json)}
    (h : DenotesMembers depth first body members) : 0 < body.length := by
  cases h with
  | close _ => simp
  | next _ _ _ _ hv _ =>
    have hpos := hv.length_pos
    simp only [List.length_append, List.length_cons]
    omega

theorem IsLead.append_gap {lead gap : Bytes} (h : IsLead first lead) (hgap : IsGap gap) :
    IsLead first (lead ++ gap) := by
  cases first with
  | true =>
    have hlead : IsGap lead := h
    exact hlead.append hgap
  | false =>
    obtain ⟨gap₁, gap₂, hgap₁, hgap₂, rfl⟩ := h
    exact ⟨gap₁, gap₂ ++ gap, hgap₁, hgap₂.append hgap, by simp⟩

/-- A number ends before the rest of its array. -/
theorem DenotesItems.ends {items : List Json} (h : DenotesItems depth false body items) (rest : Bytes) :
    Ends (body ++ rest) := by
  cases h with
  | close hgap =>
    rw [List.append_assoc]
    exact ends_gap hgap (by decide) rest
  | next hlead _ _ =>
    rw [List.append_assoc]
    exact ends_lead hlead _

theorem DenotesMembers.ends {members : List (String × Json)} (h : DenotesMembers depth false body members)
    (rest : Bytes) : Ends (body ++ rest) := by
  cases h with
  | close hgap =>
    rw [List.append_assoc]
    exact ends_gap hgap (by decide) rest
  | next hlead _ _ _ _ _ =>
    rw [List.append_assoc]
    exact ends_lead hlead _

theorem ends_of_isGap {gap : Bytes} (h : IsGap gap) : Ends gap :=
  fun b hb => goesOn_of_isGap (h b (List.mem_of_head? hb))

end Texts

/-! ## 2. What is read is denoted -/

section Reading

variable {bs rest : Bytes} {v : Json}

theorem of_scalar? (depth : Nat) (h : scalar? bs = some (.ok (v, rest))) :
    ∃ text, bs = text ++ rest ∧ (Ends rest → Denotes depth text v) := by
  cases bs with
  | nil => simp [scalar?] at h
  | cons b bs =>
    have word (text : String) {c : Char} {word : List Char} {w : Json} (htext : text.toList = c :: word)
        (hw : Denotes depth (text.toList.map byte) w) (hb : b = byte c)
        (h : some ((readWord word bs).map (w, ·)) = some (.ok (v, rest))) :
        ∃ text, b :: bs = text ++ rest ∧ (Ends rest → Denotes depth text v) := by
      obtain ⟨rest', hword, heq⟩ := map_eq_ok_iff.1 (Option.some.inj h)
      cases heq
      refine ⟨text.toList.map byte, ?_, fun _ => hw⟩
      rw [hb, eq_append_of_readWord hword, htext]
      rfl
    unfold scalar? at h
    simp only at h
    by_cases hnull : b = byte 'n'
    · rw [if_pos hnull] at h
      exact word "null" rfl .null hnull h
    rw [if_neg hnull] at h
    by_cases htrue : b = byte 't'
    · rw [if_pos htrue] at h
      exact word "true" rfl (.bool true) htrue h
    rw [if_neg htrue] at h
    by_cases hfalse : b = byte 'f'
    · rw [if_pos hfalse] at h
      exact word "false" rfl (.bool false) hfalse h
    rw [if_neg hfalse] at h
    by_cases hnumber : startsNumber b = true
    · rw [if_pos hnumber, Option.some.injEq] at h
      obtain ⟨r, hread, heq⟩ := map_eq_ok_iff.1 h
      cases heq
      obtain ⟨number, hbs, -, hnumeral⟩ := of_readNumber hread
      exact ⟨number, hbs, fun hrest => .number (hnumeral hrest)⟩
    rw [if_neg hnumber] at h
    by_cases hquote : b = byte '"'
    · rw [if_pos hquote, Option.some.injEq] at h
      obtain ⟨r, hread, heq⟩ := map_eq_ok_iff.1 h
      cases heq
      obtain ⟨text, hbs, htext⟩ := of_readString hread
      exact ⟨text, hquote ▸ hbs, fun _ => .string htext⟩
    rw [if_neg hquote] at h
    split at h <;> cases h

theorem of_scalar?_eq_none (h : scalar? bs = none) :
    ∃ rest, bs = byte '[' :: rest ∨ bs = byte '\x7b' :: rest := by
  cases bs with
  | nil => simp [scalar?] at h
  | cons b bs =>
    unfold scalar? at h
    simp only at h
    repeat' split at h
    all_goals cases h
    rename_i hb
    exact ⟨bs, hb.imp (congrArg (· :: bs)) (congrArg (· :: bs))⟩

/-- What the reader has read with so much fuel, when it has come to an end. -/
structure ReadOff (fuel : Nat) : Prop where
  value : ∀ depth bs v rest, valueWith fuel (depth + 1) bs = .ok (v, rest) →
    ∃ gap text, bs = gap ++ (text ++ rest) ∧ IsGap gap ∧ (Ends rest → Denotes depth text v)
  items : ∀ depth seen bs v rest, itemsWith fuel (depth + 1) seen.length seen bs = .ok (v, rest) →
    ∃ body items, bs = body ++ rest ∧ DenotesItems depth (seen.length == 0) body items ∧
      v = .array (seen.reverse ++ items)
  members : ∀ depth seen bs v rest, membersWith fuel (depth + 1) seen bs = .ok (v, rest) →
    ∃ body members, bs = body ++ rest ∧ DenotesMembers depth seen.isEmpty body members ∧
      v = .object (sortMembers (seen.reverse ++ members))

variable {fuel depth : Nat}

theorem ReadOff.of_value (ih : ReadOff fuel) (h : valueWith (fuel + 1) (depth + 1) bs = .ok (v, rest)) :
    ∃ gap text, bs = gap ++ (text ++ rest) ∧ IsGap gap ∧ (Ends rest → Denotes depth text v) := by
  obtain ⟨gap, hgap, hbs⟩ := exists_gap bs
  unfold valueWith at h
  simp only at h
  split at h
  · rename_i r hscalar
    rw [eq_ok_of_here h] at hscalar
    obtain ⟨text, htext, hdenotes⟩ := of_scalar? depth hscalar
    exact ⟨gap, text, htext ▸ hbs, hgap, hdenotes⟩
  · rename_i hnone
    obtain ⟨left, hopen⟩ := of_scalar?_eq_none hnone
    -- At the last depth a container is refused.
    cases depth with
    | zero => simp [fail] at h
    | succ depth =>
      simp only at h
      rcases hopen with hopen | hopen
      · rw [hopen] at h hbs
        rw [List.head?_cons, if_pos rfl, List.tail_cons] at h
        obtain ⟨body, items, rfl, hitems, rfl⟩ := ih.items depth [] _ _ _ h
        exact ⟨gap, byte '[' :: body, hbs, hgap, fun _ => .array hitems⟩
      · have hlist : some (byte '\x7b') ≠ some (byte '[') := by decide
        rw [hopen] at h hbs
        rw [List.head?_cons, if_neg hlist, List.tail_cons] at h
        obtain ⟨body, members, rfl, hmembers, rfl⟩ := ih.members depth [] _ _ _ h
        exact ⟨gap, byte '\x7b' :: body, hbs, hgap, fun _ => .object hmembers (resolves_sortMembers members)⟩

theorem ReadOff.of_items (ih : ReadOff fuel) {seen : List Json}
    (h : itemsWith (fuel + 1) (depth + 1) seen.length seen bs = .ok (v, rest)) :
    ∃ body items, bs = body ++ rest ∧ DenotesItems depth (seen.length == 0) body items ∧
      v = .array (seen.reverse ++ items) := by
  unfold itemsWith at h
  split at h
  · simp [fail] at h
  · rename_i left hturn
    rcases of_itemTurn hturn with ⟨gap, rest', heq, hgap, rfl⟩ | ⟨_, _, heq, -⟩
    · cases heq
      cases h
      exact ⟨gap ++ [byte ']'], [], by simp, .close hgap, by simp⟩
    · cases heq
  · rename_i left hturn
    rcases of_itemTurn hturn with ⟨_, _, heq, -⟩ | ⟨lead, left', heq, hlead, rfl⟩
    · cases heq
    · cases heq
      split at h
      · simp [within] at h
      · rename_i w after hvalue
        -- The gap that the reader of the item skips is counted to what comes before the item.
        obtain ⟨gap, text, rfl, hgap, hdenotes⟩ := ih.value _ _ _ _ hvalue
        obtain ⟨body, items, rfl, hitems, rfl⟩ := ih.items depth (w :: seen) _ _ _ h
        have hlead' : IsLead (seen.length == 0) (lead ++ gap) := hlead.append_gap hgap
        refine ⟨lead ++ gap ++ (text ++ body), w :: items, by simp, ?_, by simp⟩
        exact .next hlead' (hdenotes (hitems.ends rest)) hitems

theorem ReadOff.of_members (ih : ReadOff fuel) {seen : List (String × Json)}
    (h : membersWith (fuel + 1) (depth + 1) seen bs = .ok (v, rest)) :
    ∃ body members, bs = body ++ rest ∧ DenotesMembers depth seen.isEmpty body members ∧
      v = .object (sortMembers (seen.reverse ++ members)) := by
  unfold membersWith at h
  split at h
  · simp [fail, within] at h
  · rename_i left hturn
    rcases of_memberTurn hturn with ⟨gap, rest', heq, hgap, rfl⟩ | ⟨_, _, heq, -⟩
    · cases heq
      cases h
      exact ⟨gap ++ [byte '\x7d'], [], by simp, .close hgap, by simp⟩
    · cases heq
  · rename_i left hturn
    rcases of_memberTurn hturn with ⟨_, _, heq, -⟩ | ⟨lead, left', heq, hlead, rfl⟩
    · cases heq
    · cases heq
      split at h
      · simp [fail, within] at h
      · rename_i name after hname
        obtain ⟨label, hlabel, htext⟩ := of_readString hname
        rw [hlabel]
        split at h
        · simp [fail] at h
        · rename_i left' hcolon
          obtain ⟨gap, hgap, rfl⟩ := of_readColon hcolon
          split at h
          · simp [within] at h
          · rename_i w after' hvalue
            obtain ⟨gap', text, rfl, hgap', hdenotes⟩ := ih.value _ _ _ _ hvalue
            obtain ⟨body, members, rfl, hmembers, rfl⟩ := ih.members depth ((name, w) :: seen) _ _ _ h
            refine ⟨lead ++ (label ++ (gap ++ byte ':' :: (gap' ++ (text ++ body)))), (name, w) :: members,
              by simp, ?_, by simp⟩
            exact .next hlead htext hgap hgap' (hdenotes (hmembers.ends rest)) hmembers

/-- By induction on the fuel, of which each call leaves less. -/
theorem readOff (fuel : Nat) : ReadOff fuel := by
  induction fuel with
  | zero =>
    refine ⟨fun _ _ _ _ h => ?_, fun _ _ _ _ _ h => ?_, fun _ _ _ _ _ h => ?_⟩
    · simp [valueWith, fail] at h
    · simp [itemsWith, fail] at h
    · simp [membersWith, fail] at h
  | succ fuel ih =>
    exact ⟨fun _ _ _ _ h => ih.of_value h, fun _ _ _ _ _ h => ih.of_items h,
      fun _ _ _ _ _ h => ih.of_members h⟩

end Reading

/-! ## 3. What is denoted is read -/

section Scalars

variable {depth : Nat} {bs rest : Bytes}

theorem scalar?_null (rest : Bytes) :
    scalar? ("null".toList.map byte ++ rest) = some (.ok (.null, rest)) := by
  show some ((readWord "ull".toList ("ull".toList.map byte ++ rest)).map (Json.null, ·)) = _
  rw [readWord_append]
  rfl

theorem scalar?_bool (b : Bool) (rest : Bytes) :
    scalar? ((if b then "true" else "false").toList.map byte ++ rest) = some (.ok (.bool b, rest)) := by
  cases b with
  | true =>
    show some ((readWord "rue".toList ("rue".toList.map byte ++ rest)).map (Json.bool true, ·)) = _
    rw [readWord_append]
    rfl
  | false =>
    show some ((readWord "alse".toList ("alse".toList.map byte ++ rest)).map (Json.bool false, ·)) = _
    rw [readWord_append]
    rfl

theorem scalar?_number {n : Number} (h : IsNumeral n bs) (hrest : Ends rest) :
    scalar? (bs ++ rest) = some (.ok (.number n, rest)) := by
  have hread := h.readNumber_append hrest
  obtain ⟨b, left, rfl, hb⟩ := h.isNumber.exists_cons
  have hnull : b ≠ byte 'n' := ne_of_startsNumber hb (by decide)
  have htrue : b ≠ byte 't' := ne_of_startsNumber hb (by decide)
  have hfalse : b ≠ byte 'f' := ne_of_startsNumber hb (by decide)
  rw [List.cons_append] at hread ⊢
  simp only [scalar?, if_neg hnull, if_neg htrue, if_neg hfalse, hb, if_true, hread]
  rfl

theorem scalar?_string {s : String} (h : IsText s bs) (rest : Bytes) :
    scalar? (bs ++ rest) = some (.ok (.string s, rest)) := by
  obtain ⟨left, rfl, hread⟩ := readString_append h
  rw [List.cons_append]
  show some ((readString (left ++ rest)).map fun r => (Json.string r.1, r.2)) = _
  rw [hread]
  rfl

/-- A scalar is read at whatever depth. -/
theorem valueWith_scalar {v : Json} (h : Denotes depth bs v) (hscalar : scalar? (bs ++ rest) = some (.ok (v, rest)))
    {fuel : Nat} (hfuel : bs.length ≤ fuel) {gap : Bytes} (hgap : IsGap gap) :
    valueWith fuel (depth + 1) (gap ++ (bs ++ rest)) = .ok (v, rest) := by
  have hpos := h.length_pos
  obtain ⟨fuel, rfl⟩ := Nat.exists_eq_add_one_of_ne_zero (n := fuel) (by omega)
  obtain ⟨b, left, rfl, hb, -⟩ := h.exists_cons
  rw [List.cons_append] at hscalar ⊢
  unfold valueWith
  simp only [skipGap_before hgap hb, hscalar, here]

end Scalars

section Containers

variable {fuel depth : Nat} {gap : Bytes}

theorem valueWith_list (hgap : IsGap gap) (bs : Bytes) :
    valueWith (fuel + 1) (depth + 2) (gap ++ byte '[' :: bs) = itemsWith fuel (depth + 1) 0 [] bs := by
  have hskip := skipGap_before (b := byte '[') hgap (by decide) bs
  have hscalar : scalar? (byte '[' :: bs) = none := rfl
  simp only [valueWith, hskip, hscalar, List.head?_cons, List.tail_cons, if_true]

theorem valueWith_object (hgap : IsGap gap) (bs : Bytes) :
    valueWith (fuel + 1) (depth + 2) (gap ++ byte '\x7b' :: bs) = membersWith fuel (depth + 1) [] bs := by
  have hskip := skipGap_before (b := byte '\x7b') hgap (by decide) bs
  have hscalar : scalar? (byte '\x7b' :: bs) = none := rfl
  have hlist : some (byte '\x7b') ≠ some (byte '[') := by decide
  simp only [valueWith, hskip, hscalar, List.head?_cons, List.tail_cons, if_neg hlist]

end Containers

-- By recursion on the grammar, of which every part is shorter than the whole.
mutual

/-- A value is read as what it denotes, if it does not go on in what comes after it. -/
theorem Denotes.valueWith_append {depth : Nat} {text : Bytes} {v : Json} (h : Denotes depth text v) :
    ∀ fuel gap rest, text.length ≤ fuel → IsGap gap → Ends rest →
      valueWith fuel (depth + 1) (gap ++ (text ++ rest)) = .ok (v, rest) := by
  cases h with
  | null =>
    intro fuel gap rest hfuel hgap _
    exact valueWith_scalar .null (scalar?_null rest) hfuel hgap
  | bool b =>
    intro fuel gap rest hfuel hgap _
    exact valueWith_scalar (.bool b) (scalar?_bool b rest) hfuel hgap
  | number h =>
    intro fuel gap rest hfuel hgap hrest
    exact valueWith_scalar (.number h) (scalar?_number h hrest) hfuel hgap
  | string h =>
    intro fuel gap rest hfuel hgap _
    exact valueWith_scalar (.string h) (scalar?_string h rest) hfuel hgap
  | array h =>
    intro fuel gap rest hfuel hgap _
    rw [List.length_cons] at hfuel
    obtain ⟨fuel, rfl⟩ := Nat.exists_eq_add_one_of_ne_zero (n := fuel) (by omega)
    rw [List.cons_append, valueWith_list hgap]
    exact h.itemsWith_append fuel [] rest rfl (by omega)
  | object h hmembers =>
    intro fuel gap rest hfuel hgap _
    rw [List.length_cons] at hfuel
    obtain ⟨fuel, rfl⟩ := Nat.exists_eq_add_one_of_ne_zero (n := fuel) (by omega)
    rw [List.cons_append, valueWith_object hgap, resolves_iff.1 hmembers]
    exact h.membersWith_append fuel [] rest rfl (by omega)
termination_by 2 * text.length
decreasing_by
  all_goals simp only [List.length_cons]
  all_goals omega

theorem DenotesItems.itemsWith_append {depth : Nat} {first : Bool} {body : Bytes} {items : List Json}
    (h : DenotesItems depth first body items) :
    ∀ fuel seen rest, (seen.length == 0) = first → body.length ≤ fuel →
      itemsWith fuel (depth + 1) seen.length seen (body ++ rest) =
        .ok (.array (seen.reverse ++ items), rest) := by
  cases h with
  | @close _ _ gap hgap =>
    intro fuel seen rest hfirst hfuel
    rw [List.length_append, List.length_singleton] at hfuel
    obtain ⟨fuel, rfl⟩ := Nat.exists_eq_add_one_of_ne_zero (n := fuel) (by omega)
    have hturn := itemTurn_close (seen.length == 0) hgap rest
    rw [List.append_assoc, List.append_nil]
    simp only [itemsWith, List.singleton_append, hturn]
  | @next _ _ lead text body v items hlead hv hitems =>
    intro fuel seen rest hfirst hfuel
    have hpos := hv.length_pos
    have hpos' := hitems.length_pos
    rw [List.length_append, List.length_append] at hfuel
    obtain ⟨fuel, rfl⟩ := Nat.exists_eq_add_one_of_ne_zero (n := fuel) (by omega)
    have hread := hv.valueWith_append fuel [] (body ++ rest) (by omega) .nil (hitems.ends rest)
    have hrest := hitems.itemsWith_append fuel (v :: seen) rest rfl (by omega)
    obtain ⟨b, bs, rfl, hb, hclose⟩ := hv.exists_cons
    subst hfirst
    rw [List.nil_append, List.cons_append] at hread
    rw [List.length_cons, List.reverse_cons, List.append_assoc] at hrest
    simp only [List.append_assoc, List.cons_append, itemsWith, itemTurn_item hlead hb hclose, hread]
    exact hrest
termination_by 2 * body.length + 1
decreasing_by
  all_goals simp only [List.length_append]
  all_goals omega

theorem DenotesMembers.membersWith_append {depth : Nat} {first : Bool} {body : Bytes}
    {members : List (String × Json)} (h : DenotesMembers depth first body members) :
    ∀ fuel seen rest, seen.isEmpty = first → body.length ≤ fuel →
      membersWith fuel (depth + 1) seen (body ++ rest) =
        .ok (.object (sortMembers (seen.reverse ++ members)), rest) := by
  cases h with
  | @close _ _ gap hgap =>
    intro fuel seen rest hfirst hfuel
    rw [List.length_append, List.length_singleton] at hfuel
    obtain ⟨fuel, rfl⟩ := Nat.exists_eq_add_one_of_ne_zero (n := fuel) (by omega)
    have hturn := memberTurn_close seen.isEmpty hgap rest
    rw [List.append_assoc, List.append_nil]
    simp only [membersWith, List.singleton_append, hturn]
  | @next _ _ lead label gap gap' text body name v members hlead hlabel hgap hgap' hv hmembers =>
    intro fuel seen rest hfirst hfuel
    have hpos := hmembers.length_pos
    obtain ⟨left, rfl, hname⟩ := readString_append hlabel
    simp only [List.length_append, List.length_cons] at hfuel
    obtain ⟨fuel, rfl⟩ := Nat.exists_eq_add_one_of_ne_zero (n := fuel) (by omega)
    have hcolon := readColon_append hgap (gap' ++ (text ++ (body ++ rest)))
    have hread := hv.valueWith_append fuel gap' (body ++ rest) (by omega) hgap' (hmembers.ends rest)
    have hrest := hmembers.membersWith_append fuel ((name, v) :: seen) rest rfl (by omega)
    subst hfirst
    rw [List.reverse_cons, List.append_assoc] at hrest
    simp only [List.append_assoc, List.cons_append, membersWith, memberTurn_member hlead, hname, hcolon, hread]
    exact hrest
termination_by 2 * body.length + 1
decreasing_by
  all_goals simp only [List.length_append, List.length_cons]
  all_goals omega

end

/-! ## 4. Documents -/

/-- What is read is denoted, and what is denoted is read. -/
theorem parse_eq_ok_iff {bs : Bytes} {v : Json} : parse bs = .ok v ↔ IsDocument bs v := by
  constructor
  · intro h
    unfold parse at h
    split at h
    · cases h
    · rename_i w rest hread
      split at h
      · rename_i hend
        cases h
        obtain ⟨gap', hgap', hrest⟩ := exists_gap rest
        rw [hend, List.append_nil] at hrest
        subst hrest
        obtain ⟨gap, text, hbs, hgap, hdenotes⟩ := (readOff _).value 127 _ _ _ hread
        exact ⟨gap, text, rest, hbs, hgap, hgap', hdenotes (ends_of_isGap hgap')⟩
      · simp [fail] at h
  · rintro ⟨gap, text, gap', rfl, hgap, hgap', hdenotes⟩
    have hfuel : text.length ≤ 2 * (gap ++ (text ++ gap')).length + 2 := by
      simp only [List.length_append]
      omega
    have hread : value depthLimit (gap ++ (text ++ gap')) = .ok (v, gap') :=
      hdenotes.valueWith_append _ gap gap' hfuel hgap (ends_of_isGap hgap')
    simp only [parse, hread, skipGap_eq_nil hgap', if_true]

/-- Nothing else than an object begins with a brace. -/
theorem Denotes.object_of_brace {depth : Nat} {body : Bytes} {v : Json}
    (h : Denotes depth (byte '\x7b' :: body) v) : ∃ members, v = .object members := by
  generalize htext : byte '\x7b' :: body = text at h
  cases h with
  | object h hmembers => exact ⟨_, rfl⟩
  | null => exact absurd (List.cons.inj htext).1 (by decide)
  | bool b => cases b <;> exact absurd (List.cons.inj htext).1 (by decide)
  | number h =>
    obtain ⟨b, bs, rfl, hb⟩ := h.isNumber.exists_cons
    exact absurd (List.cons.inj htext).1.symm (ne_of_startsNumber hb (by decide))
  | string h =>
    obtain ⟨raw, out, rfl, -⟩ := h
    exact absurd (List.cons.inj htext).1 (by decide)
  | array h => exact absurd (List.cons.inj htext).1 (by decide)

theorem IsDocument.object_of_brace {bs : Bytes} {v : Json} (h : IsDocument (byte '\x7b' :: bs) v) :
    ∃ members, v = .object members := by
  obtain ⟨gap, text, gap', hbs, hgap, -, hdenotes⟩ := h
  cases gap with
  | nil =>
    obtain ⟨b, left, rfl, -⟩ := hdenotes.exists_cons
    obtain rfl : byte '\x7b' = b := (List.cons.inj hbs).1
    exact hdenotes.object_of_brace
  | cons b gap =>
    obtain rfl : byte '\x7b' = b := (List.cons.inj hbs).1
    exact absurd (hgap _ List.mem_cons_self) (by decide)

/-- A document is read as an object exactly if it denotes one. -/
theorem parseObject_eq_ok_iff {bs : Bytes} {members : List (String × Json)} :
    parseObject bs = .ok members ↔ IsDocument bs (.object members) := by
  constructor
  · intro h
    obtain ⟨gap, hgap, hbs⟩ := exists_gap bs
    unfold parseObject at h
    split at h
    · simp [fail] at h
    · rename_i b rest hskip
      rw [hskip] at hbs
      split at h
      · rename_i hbrace
        subst hbrace
        split at h
        · rename_i members' hparse
          cases h
          obtain ⟨gap₀, text, gap', hrest, hgap₀, hgap', hdenotes⟩ := parse_eq_ok_iff.1 hparse
          exact ⟨gap ++ gap₀, text, gap', by rw [hbs, hrest, List.append_assoc], hgap.append hgap₀, hgap',
            hdenotes⟩
        · rename_i v hother hparse
          obtain ⟨members', rfl⟩ := (parse_eq_ok_iff.1 hparse).object_of_brace
          exact absurd rfl (hother members')
        · cases h
      · simp [fail] at h
  · rintro ⟨gap, text, gap', rfl, hgap, hgap', hdenotes⟩
    have hparse : parse (text ++ gap') = .ok (.object members) :=
      parse_eq_ok_iff.2 ⟨[], text, gap', rfl, .nil, hgap', hdenotes⟩
    obtain ⟨body, rfl⟩ : ∃ body, text = byte '\x7b' :: body := by
      cases hdenotes with
      | object _ _ => exact ⟨_, rfl⟩
    rw [List.cons_append] at hparse ⊢
    unfold parseObject
    rw [skipGap_before hgap (by decide)]
    simp only [if_true, hparse]

end RegistryAuth.Json
