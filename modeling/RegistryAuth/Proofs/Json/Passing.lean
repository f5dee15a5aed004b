import RegistryAuth.Proofs.Json.Lexing

/-!
# Values that are passed over

A value is passed over by a machine that holds its open brackets on a stack.  What it has passed when a
bracket is off the stack again is a value of the grammar, however deep its containers lie; and every value
of the grammar is passed over, with steps to spare.
-/

namespace RegistryAuth.Json

open Text (Bytes)

/-! ## 1. Values -/

def Bracket.opening : Bracket → UInt8
  | .list => byte '['
  | .object => byte '\x7b'

def Bracket.closing : Bracket → UInt8
  | .list => byte ']'
  | .object => byte '\x7d'

theorem Bracket.isGap_opening (kind : Bracket) : isGap kind.opening = false := by
  cases kind <;> decide

theorem Bracket.isGap_closing (kind : Bracket) : isGap kind.closing = false := by
  cases kind <;> decide

/-- A value that holds no other. -/
inductive IsScalar : Bytes → Prop
  | word {word : String} (h : word ∈ ["null", "true", "false"]) : IsScalar (word.toList.map byte)
  | number {bs : Bytes} (h : IsNumber bs) : IsScalar bs
  | string {raw : Bytes} (h : IsPassed raw) : IsScalar (byte '"' :: (raw ++ [byte '"']))

/-- What stands before an item or a member of a container; no comma stands before the first. -/
def IsLead (first : Bool) (bs : Bytes) : Prop :=
  if first then IsGap bs else ∃ gap gap', IsGap gap ∧ IsGap gap' ∧ bs = gap ++ byte ',' :: gap'

/-- What stands before the value of an entry: the name of a member and its colon. -/
inductive IsLabel : Bracket → Bytes → Prop
  | item : IsLabel .list []
  | name {raw gap : Bytes} (hraw : IsPassed raw) (hgap : IsGap gap) :
    IsLabel .object (byte '"' :: (raw ++ byte '"' :: (gap ++ [byte ':'])))

mutual

/-- A value, without white space around it. -/
inductive IsValue : Bytes → Prop
  | scalar {bs : Bytes} (h : IsScalar bs) : IsValue bs
  | container {kind : Bracket} {body : Bytes} (h : IsBody kind true body) :
    IsValue (kind.opening :: body)

/-- What stands within a container, from its beginning or from after an entry, with its closing bracket. -/
inductive IsBody : Bracket → Bool → Bytes → Prop
  | close {kind : Bracket} {first : Bool} {gap : Bytes} (hgap : IsGap gap) :
    IsBody kind first (gap ++ [kind.closing])
  | entry {kind : Bracket} {first : Bool} {lead label gap v body : Bytes} (hlead : IsLead first lead)
    (hlabel : IsLabel kind label) (hgap : IsGap gap) (hv : IsValue v) (h : IsBody kind false body) :
    IsBody kind first (lead ++ (label ++ (gap ++ (v ++ body))))

end

/-! ## 2. Scalars and names -/

theorem isScalar_of_readWord (text : String) {c : Char} {word : List Char} {bs rest : Bytes}
    (htext : text.toList = c :: word) (hword : text ∈ ["null", "true", "false"])
    (h : readWord word bs = .ok rest) : ∃ v, byte c :: bs = v ++ rest ∧ IsScalar v := by
  refine ⟨text.toList.map byte, ?_, .word hword⟩
  rw [eq_append_of_readWord h, htext]
  rfl

theorem of_passScalar {bs rest : Bytes} (h : passScalar bs = .ok rest) :
    ∃ v, bs = v ++ rest ∧ IsScalar v := by
  cases bs with
  | nil => cases h
  | cons b bs =>
    unfold passScalar at h
    simp only at h
    split at h
    · rename_i hb
      exact hb ▸ isScalar_of_readWord "null" rfl (by decide) h
    · split at h
      · rename_i hb
        exact hb ▸ isScalar_of_readWord "true" rfl (by decide) h
      · split at h
        · rename_i hb
          exact hb ▸ isScalar_of_readWord "false" rfl (by decide) h
        · split at h
          · obtain ⟨number, hbs, hnumber⟩ := of_passNumber h
            exact ⟨number, hbs, .number hnumber⟩
          · split at h
            · rename_i hb
              obtain ⟨raw, rfl, hraw⟩ := of_passString h
              exact ⟨byte '"' :: (raw ++ [byte '"']), by simp [hb], .string hraw⟩
            · cases h

theorem of_readColon {bs rest : Bytes} (h : readColon bs = .ok rest) :
    ∃ gap, IsGap gap ∧ bs = gap ++ byte ':' :: rest := by
  obtain ⟨gap, hgap, hbs⟩ := exists_gap bs
  unfold readColon at h
  split at h
  · cases h
  · rename_i b left hleft
    split at h
    · rename_i hb
      cases h
      rw [hleft, hb] at hbs
      exact ⟨gap, hgap, hbs⟩
    · cases h

theorem of_passName {bs rest : Bytes} (h : passName bs = .ok rest) :
    ∃ gap label, IsGap gap ∧ IsLabel .object label ∧ bs = gap ++ (label ++ rest) := by
  obtain ⟨gap, hgap, hbs⟩ := exists_gap bs
  unfold passName at h
  split at h
  · cases h
  · rename_i b left hleft
    rw [hleft] at hbs
    split at h
    · rename_i hb
      split at h
      · rename_i after hpass
        obtain ⟨raw, rfl, hraw⟩ := of_passString hpass
        obtain ⟨gap', hgap', rfl⟩ := of_readColon h
        refine ⟨gap, _, hgap, .name hraw hgap', ?_⟩
        rw [hbs, hb]
        simp
      · cases h
    · cases h

/-! ## 3. The machine -/

/-- What the machine has passed over with so much fuel, when it has come to its end: a value, or the rest
of the container that is open. -/
structure PassedOver (fuel : Nat) : Prop where
  value : ∀ stack bs rest, passWith fuel .value stack bs = .ok rest →
    ∃ gap v tail left, bs = gap ++ (v ++ tail) ∧ IsGap gap ∧ IsValue v ∧ left < fuel ∧
      passWith left .after stack tail = .ok rest
  body : ∀ kind first stack bs rest,
    passWith fuel (if first then .opened else .after) (kind :: stack) bs = .ok rest →
    ∃ body tail left, bs = body ++ tail ∧ IsBody kind first body ∧ left < fuel ∧
      passWith left .after stack tail = .ok rest

section Machine

variable {fuel n : Nat} {kind : Bracket} {stack : List Bracket} {bs rest : Bytes}

/-- The value of an entry is passed over, and then the rest of its container. -/
theorem PassedOver.of_entry (ih : ∀ n < fuel, PassedOver n) (hn : n < fuel) {first : Bool}
    {lead label : Bytes} (hlead : IsLead first lead) (hlabel : IsLabel kind label)
    (h : passWith n .value (kind :: stack) bs = .ok rest) :
    ∃ body tail left, lead ++ (label ++ bs) = body ++ tail ∧ IsBody kind first body ∧ left < fuel ∧
      passWith left .after stack tail = .ok rest := by
  obtain ⟨gap, v, tail, left, rfl, hgap, hv, hleft, hafter⟩ := (ih n hn).value _ _ _ h
  obtain ⟨body, tail', left', rfl, hbody, hleft', hend⟩ :=
    (ih left (by omega)).body kind false stack _ _ hafter
  exact ⟨_, tail', left', by simp, .entry hlead hlabel hgap hv hbody, by omega, hend⟩

theorem PassedOver.of_value (ih : ∀ n < fuel, PassedOver n)
    (h : passWith fuel .value stack bs = .ok rest) :
    ∃ gap v tail left, bs = gap ++ (v ++ tail) ∧ IsGap gap ∧ IsValue v ∧ left < fuel ∧
      passWith left .after stack tail = .ok rest := by
  obtain ⟨gap, hgap, hbs⟩ := exists_gap bs
  have opened (kind : Bracket) {n : Nat} {bs' : Bytes} (hn : n < fuel)
      (hleft : bs = gap ++ kind.opening :: bs')
      (h' : passWith n .opened (kind :: stack) bs' = .ok rest) :
      ∃ gap v tail left, bs = gap ++ (v ++ tail) ∧ IsGap gap ∧ IsValue v ∧ left < fuel ∧
        passWith left .after stack tail = .ok rest := by
    obtain ⟨body, tail, left, rfl, hbody, hlt, hend⟩ := (ih n hn).body kind true stack _ _ h'
    exact ⟨gap, _, tail, left, hleft, hgap, .container hbody, by omega, hend⟩
  cases fuel with
  | zero => cases h
  | succ n =>
    unfold passWith at h
    simp only at h
    split at h
    · cases h
    · rename_i b left hleft
      rw [hleft] at hbs
      split at h
      · rename_i hb
        exact opened .list (Nat.lt_succ_self n) (by rw [hbs, hb]; rfl) h
      · split at h
        · rename_i hb
          exact opened .object (Nat.lt_succ_self n) (by rw [hbs, hb]; rfl) h
        · split at h
          · rename_i tail hpass
            obtain ⟨v, hv, hscalar⟩ := of_passScalar hpass
            rw [hv] at hbs
            exact ⟨gap, v, tail, n, hbs, hgap, .scalar hscalar, Nat.lt_succ_self n, h⟩
          · cases h

/-- The bracket that closes a container is passed over. -/
theorem PassedOver.of_close {first : Bool} {gap tail : Bytes} {b : UInt8} (hgap : IsGap gap)
    (hbs : bs = gap ++ b :: tail) (hb : b = kind.closing)
    (h : passWith n .after stack tail = .ok rest) :
    ∃ body tail left, bs = body ++ tail ∧ IsBody kind first body ∧ left < n + 1 ∧
      passWith left .after stack tail = .ok rest :=
  ⟨gap ++ [kind.closing], tail, n, by rw [hbs, hb]; simp, .close hgap, Nat.lt_succ_self n, h⟩

theorem PassedOver.of_opened (ih : ∀ n < fuel, PassedOver n)
    (h : passWith fuel .opened (kind :: stack) bs = .ok rest) :
    ∃ body tail left, bs = body ++ tail ∧ IsBody kind true body ∧ left < fuel ∧
      passWith left .after stack tail = .ok rest := by
  obtain ⟨gap, hgap, hbs⟩ := exists_gap bs
  cases fuel with
  | zero => cases h
  | succ n =>
    unfold passWith at h
    cases hleft : skipGap bs with
    | nil => cases kind <;> simp [hleft] at h
    | cons b left =>
      rw [hleft] at hbs
      cases kind with
      | list =>
        simp only [hleft] at h
        split at h
        · rename_i hb
          exact of_close hgap hbs hb h
        · have hlead : IsLead true gap := hgap
          rw [hbs]
          exact of_entry ih (Nat.lt_succ_self n) hlead .item h
      | object =>
        simp only [hleft] at h
        split at h
        · rename_i hb
          exact of_close hgap hbs hb h
        · split at h
          · rename_i after hname
            obtain ⟨gap', label, hgap', hlabel, hafter⟩ := of_passName hname
            have hlead : IsLead true (gap ++ gap') := hgap.append hgap'
            rw [hbs, hafter, ← List.append_assoc]
            exact of_entry ih (Nat.lt_succ_self n) hlead hlabel h
          · cases h

theorem PassedOver.of_after (ih : ∀ n < fuel, PassedOver n)
    (h : passWith fuel .after (kind :: stack) bs = .ok rest) :
    ∃ body tail left, bs = body ++ tail ∧ IsBody kind false body ∧ left < fuel ∧
      passWith left .after stack tail = .ok rest := by
  obtain ⟨gap, hgap, hbs⟩ := exists_gap bs
  cases fuel with
  | zero => cases h
  | succ n =>
    unfold passWith at h
    cases hleft : skipGap bs with
    | nil => cases kind <;> simp [hleft] at h
    | cons b left =>
      rw [hleft] at hbs
      cases kind with
      | list =>
        simp only [hleft] at h
        split at h
        · rename_i hb
          have hlead : IsLead false (gap ++ [byte ',']) := ⟨gap, [], hgap, .nil, rfl⟩
          have hentry := of_entry ih (Nat.lt_succ_self n) hlead .item h
          rw [hbs, hb]
          simpa using hentry
        · split at h
          · rename_i hb
            exact of_close hgap hbs hb h
          · cases h
      | object =>
        simp only [hleft] at h
        split at h
        · rename_i hb
          split at h
          · rename_i after hname
            obtain ⟨gap', label, hgap', hlabel, hafter⟩ := of_passName hname
            have hlead : IsLead false (gap ++ byte ',' :: gap') := ⟨gap, gap', hgap, hgap', rfl⟩
            have hentry := of_entry ih (Nat.lt_succ_self n) hlead hlabel h
            rw [hbs, hb, hafter]
            simpa using hentry
          · cases h
        · split at h
          · rename_i hb
            exact of_close hgap hbs hb h
          · cases h

/-- By induction on the fuel: every step leaves less of it for the rest. -/
theorem passedOver (fuel : Nat) : PassedOver fuel := by
  induction fuel using Nat.strong_induction_on with
  | _ fuel ih =>
    refine ⟨fun stack bs rest h => PassedOver.of_value ih h, fun kind first stack bs rest h => ?_⟩
    cases first with
    | true => exact PassedOver.of_opened ih h
    | false => exact PassedOver.of_after ih h

end Machine

/-- What is passed over is white space and a value. -/
theorem of_passValue {bs rest : Bytes} (h : passValue bs = .ok rest) :
    ∃ gap v, bs = gap ++ (v ++ rest) ∧ IsGap gap ∧ IsValue v := by
  obtain ⟨gap, v, tail, left, hbs, hgap, hv, -, hend⟩ := (passedOver _).value _ _ _ h
  -- With no bracket open the machine stops where it is.
  have htail : tail = rest := by
    cases left with
    | zero => cases hend
    | succ n => exact Except.ok.inj hend
  exact ⟨gap, v, htail ▸ hbs, hgap, hv⟩

/-! ## 4. Every value is passed over -/

theorem IsScalar.exists_cons {v : Bytes} (h : IsScalar v) :
    ∃ b bs, v = b :: bs ∧ isGap b = false ∧ b ≠ byte ']' ∧ b ≠ byte '[' ∧ b ≠ byte '\x7b' := by
  cases h with
  | word hword =>
    simp only [List.mem_cons, List.not_mem_nil, or_false] at hword
    rcases hword with rfl | rfl | rfl <;> exact ⟨_, _, rfl, by decide⟩
  | number hnumber =>
    obtain ⟨b, bs, rfl, hb⟩ := hnumber.exists_cons
    exact ⟨b, bs, rfl, isGap_of_startsNumber hb, ne_of_startsNumber hb (by decide),
      ne_of_startsNumber hb (by decide), ne_of_startsNumber hb (by decide)⟩
  | string _ => exact ⟨byte '"', _, rfl, by decide⟩

theorem passScalar_append {v rest : Bytes} (h : IsScalar v) (hrest : Ends rest) :
    passScalar (v ++ rest) = .ok rest := by
  cases h with
  | word hword =>
    simp only [List.mem_cons, List.not_mem_nil, or_false] at hword
    rcases hword with rfl | rfl | rfl
    · exact readWord_append "ull".toList rest
    · exact readWord_append "rue".toList rest
    · exact readWord_append "alse".toList rest
  | number hnumber =>
    have hpass := passNumber_append hnumber hrest
    obtain ⟨b, bs, rfl, hb⟩ := hnumber.exists_cons
    have hnull : b ≠ byte 'n' := ne_of_startsNumber hb (by decide)
    have htrue : b ≠ byte 't' := ne_of_startsNumber hb (by decide)
    have hfalse : b ≠ byte 'f' := ne_of_startsNumber hb (by decide)
    rw [List.cons_append] at hpass ⊢
    simp only [passScalar, if_neg hnull, if_neg htrue, if_neg hfalse, hb, if_true, hpass]
  | @string raw hraw =>
    have hpass := passString_append hraw rest
    simp only [List.cons_append, List.append_assoc]
    exact hpass

theorem passName_append {label gap : Bytes} (hlabel : IsLabel .object label) (hgap : IsGap gap)
    (rest : Bytes) : passName (gap ++ (label ++ rest)) = .ok rest := by
  cases hlabel with
  | @name raw gap' hraw hgap' =>
    have hpass := passString_append hraw (gap' ++ byte ':' :: rest)
    have hskip := skipGap_before hgap isGap_quote (raw ++ byte '"' :: (gap' ++ byte ':' :: rest))
    simp only [List.cons_append, List.append_assoc, List.nil_append] at hpass hskip ⊢
    simp only [passName, hskip, if_true, hpass, readColon_append hgap']

theorem IsValue.exists_cons {v : Bytes} (h : IsValue v) :
    ∃ b bs, v = b :: bs ∧ isGap b = false ∧ b ≠ byte ']' := by
  cases h with
  | scalar h =>
    obtain ⟨b, bs, hv, hb, hne, -, -⟩ := h.exists_cons
    exact ⟨b, bs, hv, hb, hne⟩
  | @container kind body _ => cases kind <;> exact ⟨_, body, rfl, by decide⟩

theorem Bracket.goesOn_closing (kind : Bracket) : goesOn kind.closing = false := by
  cases kind <;> decide

theorem ends_lead {lead : Bytes} (h : IsLead false lead) (rest : Bytes) : Ends (lead ++ rest) := by
  obtain ⟨gap, gap', hgap, -, rfl⟩ := h
  rw [List.append_assoc]
  exact ends_gap hgap (by decide) _

/-- A number ends before the rest of its container. -/
theorem IsBody.ends {kind : Bracket} {body : Bytes} (h : IsBody kind false body) (tail : Bytes) :
    Ends (body ++ tail) := by
  cases h with
  | close hgap =>
    rw [List.append_assoc]
    exact ends_gap hgap kind.goesOn_closing tail
  | entry hlead _ _ _ _ =>
    rw [List.append_assoc]
    exact ends_lead hlead _

section Steps

variable {kind : Bracket} {first : Bool} {gap : Bytes} (n : Nat) (stack : List Bracket)

theorem passWith_open (kind : Bracket) (hgap : IsGap gap) (bs : Bytes) :
    passWith (n + 1) .value stack (gap ++ kind.opening :: bs) =
      passWith n .opened (kind :: stack) bs := by
  have hskip := skipGap_before hgap kind.isGap_opening bs
  have hlist : byte '\x7b' ≠ byte '[' := by decide
  cases kind <;> rw [Bracket.opening] at hskip ⊢ <;> simp [passWith, hskip, hlist]

theorem passWith_close (hgap : IsGap gap) (tail : Bytes) :
    passWith (n + 1) (if first then .opened else .after) (kind :: stack) (gap ++ kind.closing :: tail) =
      passWith n .after stack tail := by
  have hskip := skipGap_before hgap kind.isGap_closing tail
  have hlist : byte ']' ≠ byte ',' := by decide
  have hobject : byte '\x7d' ≠ byte ',' := by decide
  cases kind <;> cases first <;> rw [Bracket.closing] at hskip ⊢ <;>
    simp [passWith, hskip, hlist, hobject]

/-- The machine comes to the value of an entry. -/
theorem passWith_entry {lead label : Bytes} (hlead : IsLead first lead) (hlabel : IsLabel kind label)
    (hgap : IsGap gap) {b : UInt8} (hb : isGap b = false) (hclose : b ≠ byte ']') (bs : Bytes) :
    ∃ gap', IsGap gap' ∧
      passWith (n + 1) (if first then .opened else .after) (kind :: stack)
        (lead ++ (label ++ (gap ++ b :: bs))) = passWith n .value (kind :: stack) (gap' ++ b :: bs) := by
  cases kind with
  | list =>
    cases hlabel with
    | item =>
      cases first with
      | true =>
        have hskip := skipGap_before (IsGap.append hlead hgap) hb bs
        rw [List.append_assoc] at hskip
        exact ⟨[], .nil, by simp [passWith, hskip, hclose]⟩
      | false =>
        obtain ⟨gap₁, gap₂, hgap₁, hgap₂, rfl⟩ := hlead
        have hskip := skipGap_before hgap₁ isGap_comma (gap₂ ++ (gap ++ b :: bs))
        exact ⟨gap₂ ++ gap, hgap₂.append hgap, by simp [passWith, hskip]⟩
  | object =>
    refine ⟨gap, hgap, ?_⟩
    cases first with
    | true =>
      have hname := passName_append hlabel .nil (gap ++ b :: bs)
      cases hlabel with
      | name _ _ =>
        have hskip := skipGap_before hlead isGap_quote
        have hquote : byte '"' ≠ byte '\x7d' := by decide
        simp only [List.cons_append, List.nil_append] at hname ⊢
        simp only [if_true, passWith, hskip, if_neg hquote, hname]
    | false =>
      obtain ⟨gap₁, gap₂, hgap₁, hgap₂, rfl⟩ := hlead
      have hname := passName_append hlabel hgap₂ (gap ++ b :: bs)
      have hskip := skipGap_before hgap₁ isGap_comma (gap₂ ++ (label ++ (gap ++ b :: bs)))
      simp [passWith, hskip, hname]

end Steps

-- By recursion on the grammar.  An entry takes one step more than its value and what comes after it, and
-- a container one more than what stands within it.
mutual

/-- The machine passes over a value in fewer than two steps for each byte of it. -/
theorem passWith_value {v : Bytes} (h : IsValue v) :
    ∃ n, n + 1 ≤ 2 * v.length ∧ ∀ left stack gap tail, IsGap gap → Ends tail →
      passWith (left + n) .value stack (gap ++ (v ++ tail)) = passWith left .after stack tail := by
  cases h with
  | scalar h =>
    obtain ⟨b, bs, rfl, hb, -, hlist, hobject⟩ := h.exists_cons
    have hlength : 1 + 1 ≤ 2 * (b :: bs).length := by
      rw [List.length_cons]
      omega
    refine ⟨1, hlength, fun left stack gap tail hgap htail => ?_⟩
    have hskip := skipGap_before hgap hb (bs ++ tail)
    have hpass := passScalar_append h htail
    rw [List.cons_append] at hpass ⊢
    simp only [passWith, hskip, if_neg hlist, if_neg hobject, hpass]
  | @container kind body hbody =>
    obtain ⟨n, hn, hpass⟩ := passWith_body hbody
    have hlength : n + 1 + 1 ≤ 2 * (kind.opening :: body).length := by
      rw [List.length_cons]
      omega
    refine ⟨n + 1, hlength, fun left stack gap tail hgap _ => ?_⟩
    rw [List.cons_append, ← Nat.add_assoc, passWith_open _ _ kind hgap]
    exact hpass left stack tail
termination_by 2 * v.length
decreasing_by
  simp only [List.length_cons]
  omega

theorem passWith_body {kind : Bracket} {first : Bool} {body : Bytes} (h : IsBody kind first body) :
    ∃ n, n ≤ 2 * body.length ∧ ∀ left stack tail,
      passWith (left + n) (if first then .opened else .after) (kind :: stack) (body ++ tail) =
        passWith left .after stack tail := by
  cases h with
  | @close _ _ gap hgap =>
    have hlength : 1 ≤ 2 * (gap ++ [kind.closing]).length := by
      rw [List.length_append, List.length_singleton]
      omega
    refine ⟨1, hlength, fun left stack tail => ?_⟩
    rw [List.append_assoc]
    exact passWith_close left stack hgap tail
  | @entry _ _ lead label gap v body hlead hlabel hgap hv hbody =>
    obtain ⟨n, hn, hvalue⟩ := passWith_value hv
    obtain ⟨m, hm, hrest⟩ := passWith_body hbody
    obtain ⟨b, bs, rfl, hb, hclose⟩ := hv.exists_cons
    have hlength : m + n + 1 ≤ 2 * (lead ++ (label ++ (gap ++ (b :: bs ++ body)))).length := by
      simp only [List.length_append]
      omega
    refine ⟨m + n + 1, hlength, fun left stack tail => ?_⟩
    obtain ⟨gap', hgap', hentry⟩ := passWith_entry (left + m + n) stack hlead hlabel hgap hb hclose
      (bs ++ (body ++ tail))
    calc passWith (left + (m + n + 1)) (if first then .opened else .after) (kind :: stack)
          ((lead ++ (label ++ (gap ++ (b :: bs ++ body)))) ++ tail)
      _ = passWith (left + m + n) .value (kind :: stack) (gap' ++ (b :: bs ++ (body ++ tail))) := by
        rw [← Nat.add_assoc, ← Nat.add_assoc]
        simpa only [List.append_assoc, List.cons_append] using hentry
      _ = passWith (left + m) .after (kind :: stack) (body ++ tail) :=
        hvalue _ _ gap' _ hgap' (hbody.ends tail)
      _ = passWith left .after stack tail := hrest left stack tail
termination_by 2 * body.length + 1
decreasing_by
  all_goals simp only [List.length_append]
  all_goals omega

end

/-- A value is passed over, however deep, if it does not go on in what comes after it. -/
theorem passValue_append {gap v rest : Bytes} (hgap : IsGap gap) (hv : IsValue v) (hrest : Ends rest) :
    passValue (gap ++ (v ++ rest)) = .ok rest := by
  obtain ⟨n, hn, hpass⟩ := passWith_value hv
  obtain ⟨left, hfuel⟩ : ∃ left, 3 * (gap ++ (v ++ rest)).length + 3 = left + 1 + n := by
    refine ⟨3 * (gap ++ (v ++ rest)).length + 3 - 1 - n, ?_⟩
    simp only [List.length_append]
    omega
  rw [passValue, hfuel, hpass _ _ gap rest hgap hrest]
  rfl

end RegistryAuth.Json
