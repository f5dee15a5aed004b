import RegistryAuth.Proofs.Json.Passing
import RegistryAuth.Proofs.Json.Record

/-!
# Documents that a record is read from

A record of one text is read from the front of a document: from an object that has the field once, among
whatever other members, or from an array of nothing but the text.  It is read from every such document and
from no other.
-/

namespace RegistryAuth.Json

open Text (Bytes)

/-! ## 1. Objects by their members -/

/-- A member, by its name and its value. -/
inductive IsMember : String × Bytes → Bytes → Prop
  | named {name : String} {text gap gap' v : Bytes} (htext : IsText name text) (hgap : IsGap gap)
    (hgap' : IsGap gap') (hv : IsValue v) :
    IsMember (name, v) (text ++ (gap ++ byte ':' :: (gap' ++ v)))

/-- The members of an object from its beginning or from after a member, and its closing brace. -/
inductive IsMembers : Bool → List (String × Bytes) → Bytes → Prop
  | close {first : Bool} {gap : Bytes} (hgap : IsGap gap) : IsMembers first [] (gap ++ [byte '\x7d'])
  | next {first : Bool} {lead member body : Bytes} {m : String × Bytes} {ms : List (String × Bytes)}
    (hlead : IsLead first lead) (hm : IsMember m member) (h : IsMembers false ms body) :
    IsMembers first (m :: ms) (lead ++ (member ++ body))

/-- An object, by its members in their order. -/
inductive IsObject (ms : List (String × Bytes)) : Bytes → Prop
  | members {body : Bytes} (h : IsMembers true ms body) : IsObject ms (byte '\x7b' :: body)

theorem IsText.isValue {t : String} {bs : Bytes} (h : IsText t bs) : IsValue bs := by
  obtain ⟨raw, out, rfl, hwrites, -⟩ := h
  exact .scalar (.string hwrites.isPassed)

theorem IsMembers.isBody {first : Bool} {ms : List (String × Bytes)} {body : Bytes}
    (h : IsMembers first ms body) : IsBody .object first body := by
  induction h with
  | close hgap => exact .close hgap
  | @next first lead member body m ms hlead hm h ih =>
    cases hm with
    | @named name text gap gap' v htext hgap hgap' hv =>
      obtain ⟨raw, out, rfl, hwrites, -⟩ := htext
      have hbody : IsBody .object first _ :=
        .entry hlead (.name hwrites.isPassed hgap) hgap' hv ih
      simpa using hbody

/-- An object whose members are told is a value like others. -/
theorem IsObject.isValue {ms : List (String × Bytes)} {bs : Bytes} (h : IsObject ms bs) : IsValue bs := by
  cases h with
  | members h =>
    have hbody : IsBody .object true _ := h.isBody
    exact .container hbody

/-! ## 2. Reading members -/

/-- What the front of an object's content asks for: its end, or a member from after the first quote. -/
theorem of_memberTurn {first : Bool} {bs : Bytes} {turn : MemberTurn} (h : memberTurn first bs = .ok turn) :
    (∃ gap rest, turn = .close rest ∧ IsGap gap ∧ bs = gap ++ byte '\x7d' :: rest) ∨
      ∃ lead rest, turn = .member rest ∧ IsLead first lead ∧ bs = lead ++ byte '"' :: rest := by
  obtain ⟨gap, hgap, hbs⟩ := exists_gap bs
  have quoted {b : UInt8} {rest : Bytes}
      (h : (if b = byte '"' then .ok (.member rest)
        else if b = byte '\x7d' then .error .trailingComma
        else .error .nameNotString : Except Fault MemberTurn) = .ok turn) :
      turn = .member rest ∧ b = byte '"' := by
    split at h
    · rename_i hb
      cases h
      exact ⟨rfl, hb⟩
    · split at h <;> cases h
  unfold memberTurn at h
  cases hleft : skipGap bs with
  | nil =>
    rw [hleft] at h
    cases h
  | cons b left =>
    rw [hleft] at hbs h
    simp only at h
    by_cases hb : b = byte '\x7d'
    · rw [if_pos hb] at h
      cases h
      exact .inl ⟨gap, left, rfl, hgap, by rw [hbs, hb]⟩
    · rw [if_neg hb] at h
      cases first with
      | true =>
        rw [if_pos rfl] at h
        obtain ⟨hturn, hquote⟩ := quoted h
        exact .inr ⟨gap, left, hturn, hgap, by rw [hbs, hquote]⟩
      | false =>
        rw [if_neg Bool.false_ne_true] at h
        by_cases hcomma : b = byte ','
        · rw [if_pos hcomma] at h
          obtain ⟨gap', hgap', hrest⟩ := exists_gap left
          cases hnext : skipGap left with
          | nil =>
            rw [hnext] at h
            cases h
          | cons q rest =>
            rw [hnext] at h hrest
            obtain ⟨hturn, hquote⟩ := quoted h
            refine .inr ⟨gap ++ byte ',' :: gap', rest, hturn, ⟨gap, gap', hgap, hgap', rfl⟩, ?_⟩
            rw [hbs, hcomma, hrest, hquote]
            simp
        · rw [if_neg hcomma] at h
          cases h

/-- What the front of an array's content asks for: its end, or an item. -/
theorem of_itemTurn {first : Bool} {bs : Bytes} {turn : ItemTurn} (h : itemTurn first bs = .ok turn) :
    (∃ gap rest, turn = .close rest ∧ IsGap gap ∧ bs = gap ++ byte ']' :: rest) ∨
      ∃ lead rest, turn = .item rest ∧ IsLead first lead ∧ bs = lead ++ rest := by
  obtain ⟨gap, hgap, hbs⟩ := exists_gap bs
  unfold itemTurn at h
  cases hleft : skipGap bs with
  | nil =>
    rw [hleft] at h
    cases h
  | cons b left =>
    rw [hleft] at hbs h
    simp only at h
    by_cases hb : b = byte ']'
    · rw [if_pos hb] at h
      cases h
      exact .inl ⟨gap, left, rfl, hgap, by rw [hbs, hb]⟩
    · rw [if_neg hb] at h
      cases first with
      | true =>
        rw [if_pos rfl] at h
        cases h
        exact .inr ⟨gap, b :: left, rfl, hgap, hbs⟩
      | false =>
        rw [if_neg Bool.false_ne_true] at h
        by_cases hcomma : b = byte ','
        · rw [if_pos hcomma] at h
          obtain ⟨gap', hgap', hrest⟩ := exists_gap left
          cases hnext : skipGap left with
          | nil =>
            rw [hnext] at h
            cases h
          | cons c rest =>
            rw [hnext] at h hrest
            simp only at h
            split at h
            · cases h
            · cases h
              refine .inr ⟨gap ++ byte ',' :: gap', c :: rest, rfl, ⟨gap, gap', hgap, hgap', rfl⟩, ?_⟩
              rw [hbs, hcomma, hrest]
              simp
        · rw [if_neg hcomma] at h
          cases h

theorem of_readText {t : String} {bs rest : Bytes} (h : readText bs = .ok (t, rest)) :
    ∃ gap v, bs = gap ++ (v ++ rest) ∧ IsGap gap ∧ IsText t v := by
  obtain ⟨gap, hgap, hbs⟩ := exists_gap bs
  unfold readText at h
  simp only at h
  cases hleft : skipGap bs with
  | nil =>
    rw [hleft] at h
    cases h
  | cons b left =>
    rw [hleft] at h hbs
    split at h
    · rename_i hquote
      obtain ⟨text, htext, ht⟩ := of_readString h
      refine ⟨gap, text, ?_, hgap, ht⟩
      rw [hbs, ← htext, Option.some.inj hquote]
      rfl
    · cases h

theorem of_readField {content : Option String} {bs rest : Bytes}
    (h : readField .text bs = .ok (content, rest)) :
    ∃ t gap v, content = some t ∧ bs = gap ++ (v ++ rest) ∧ IsGap gap ∧ IsText t v := by
  have hread : (readText bs).map (fun x => (some x.1, x.2)) = .ok (content, rest) := h
  cases htext : readText bs with
  | error f => simp [htext, Except.map] at hread
  | ok x =>
    rw [htext] at hread
    cases hread
    obtain ⟨gap, v, hbs, hgap, ht⟩ := of_readText htext
    exact ⟨x.1, gap, v, rfl, hbs, hgap, ht⟩

/-! ## 3. Reading a record of one text -/

/-- What the members of an object add to fields that were seen: nothing, or the one field. -/
inductive Adds (name : String) : List (String × Bytes) → Fields → Fields → Prop
  | nothing {ms : List (String × Bytes)} {fields : Fields} (hnone : ms.filter (·.1 = name) = []) :
    Adds name ms fields fields
  | field {ms : List (String × Bytes)} {t : String} {v : Bytes}
    (hone : ms.filter (·.1 = name) = [(name, v)]) (ht : IsText t v) : Adds name ms [] [(name, some t)]

section Adds

variable {name other t : String} {v : Bytes} {m : String × Bytes} {ms : List (String × Bytes)}
  {seen mid fields : Fields}

theorem adds_self (ht : IsText t v) : Adds name [(name, v)] [] [(name, some t)] :=
  .field (List.filter_cons_of_pos (by simp)) ht

theorem adds_other (hne : other ≠ name) : Adds name [(other, v)] seen seen :=
  .nothing (List.filter_cons_of_neg (by simpa using hne))

/-- What a member adds comes before what those after it add; only one of them adds something. -/
theorem Adds.cons (h : Adds name [m] seen mid) (h' : Adds name ms mid fields) :
    Adds name (m :: ms) seen fields := by
  have hfilter : (m :: ms).filter (·.1 = name) = [m].filter (·.1 = name) ++ ms.filter (·.1 = name) :=
    List.filter_append [m] ms
  cases h with
  | nothing hnone =>
    rw [hnone, List.nil_append] at hfilter
    cases h' with
    | nothing hnone' => exact .nothing (hfilter.trans hnone')
    | field hone ht => exact .field (hfilter.trans hone) ht
  | field hone ht =>
    cases h' with
    | nothing hnone' => exact .field (by rw [hfilter, hone, hnone', List.append_nil]) ht

/-- The member of the name adds its text, where no field was seen, and it is the only one. -/
theorem Adds.of_cons_self (h : Adds name ((name, v) :: ms) seen fields) :
    seen = [] ∧ ms.filter (·.1 = name) = [] ∧ ∃ t, fields = [(name, some t)] ∧ IsText t v := by
  have hfilter : ((name, v) :: ms).filter (·.1 = name) = (name, v) :: ms.filter (·.1 = name) :=
    List.filter_cons_of_pos (by simp)
  cases h with
  | nothing hnone =>
    rw [hfilter] at hnone
    cases hnone
  | @field t v' hone ht =>
    rw [hfilter] at hone
    obtain ⟨hv, hnone⟩ := List.cons.inj hone
    obtain rfl : v = v' := congrArg Prod.snd hv
    exact ⟨rfl, hnone, t, rfl, ht⟩

theorem Adds.of_cons_of_ne (h : Adds name ((other, v) :: ms) seen fields) (hne : other ≠ name) :
    Adds name ms seen fields := by
  have hfilter : ((other, v) :: ms).filter (·.1 = name) = ms.filter (·.1 = name) :=
    List.filter_cons_of_neg (by simpa using hne)
  cases h with
  | nothing hnone => exact .nothing (hfilter.symm.trans hnone)
  | field hone ht => exact .field (hfilter.symm.trans hone) ht

end Adds

/-- A document that holds a text under a name: an object that has the name once, or an array of nothing but
the text. -/
inductive Carries (name t : String) : Bytes → Prop
  | object {ms : List (String × Bytes)} {doc v : Bytes} (h : IsObject ms doc)
    (hone : ms.filter (·.1 = name) = [(name, v)]) (ht : IsText t v) : Carries name t doc
  | list {gap gap' v : Bytes} (hgap : IsGap gap) (hgap' : IsGap gap') (ht : IsText t v) :
    Carries name t (byte '[' :: (gap ++ (v ++ (gap' ++ [byte ']']))))

/-- Whether bytes begin with a document that holds a text under a name, whatever comes after it. -/
def Offers (name t : String) (bs : Bytes) : Prop :=
  ∃ gap doc rest, bs = gap ++ (doc ++ rest) ∧ IsGap gap ∧ Carries name t doc

namespace Record

variable {r : Record} {name : String} {bs : Bytes} {seen fields : Fields}

theorem field?_of_fields (hfields : r.fields = [⟨name, .text⟩]) (other : String) :
    r.field? other = if other = name then some ⟨name, .text⟩ else none := by
  unfold field?
  rw [hfields]
  by_cases h : other = name
  · simp [h]
  · have hne : ¬ name = other := fun heq => h heq.symm
    simp [h, hne]

/-- What is read next of an object: its end, or a member, which is a field that was not seen or is passed
over. -/
theorem of_readMembers_succ {fuel : Nat} {first : Bool}
    (h : r.readMembers (fuel + 1) first seen bs = .ok fields) :
    (∃ gap rest, bs = gap ++ byte '\x7d' :: rest ∧ IsGap gap ∧ r.complete seen = .ok fields) ∨
      ∃ lead other text gap rest, bs = lead ++ (text ++ (gap ++ byte ':' :: rest)) ∧ IsLead first lead ∧
        IsText other text ∧ IsGap gap ∧
        ((∃ f content left, r.field? other = some f ∧ (seen.lookup other).isSome = false ∧
            readField f.kind rest = .ok (content, left) ∧
            r.readMembers fuel false ((other, content) :: seen) left = .ok fields) ∨
          ∃ left, r.field? other = none ∧ r.passOther rest = .ok left ∧
            r.readMembers fuel false seen left = .ok fields) := by
  unfold readMembers at h
  split at h
  · simp [within, fail] at h
  · rename_i rest hturn
    rcases of_memberTurn hturn with ⟨gap, rest', -, hgap, rfl⟩ | ⟨_, _, heq, -⟩
    · exact .inl ⟨gap, rest', rfl, hgap, h⟩
    · cases heq
  · rename_i rest hturn
    rcases of_memberTurn hturn with ⟨_, _, heq, -⟩ | ⟨lead, rest', heq, hlead, rfl⟩
    · cases heq
    · cases heq
      split at h
      · simp [within, fail] at h
      · rename_i other after hname
        obtain ⟨text, htext, ht⟩ := of_readString hname
        rw [htext]
        split at h
        · rename_i f hf
          split at h
          · simp [fail] at h
          · rename_i hnew
            split at h
            · simp [fail] at h
            · rename_i after hcolon
              obtain ⟨gap, hgap, rfl⟩ := of_readColon hcolon
              split at h
              · simp at h
              · rename_i content left hfield
                have hfield := eq_ok_of_here (eq_ok_of_within hfield)
                exact .inr ⟨lead, other, text, gap, after, rfl, hlead, ht, hgap,
                  .inl ⟨f, content, left, hf, Bool.eq_false_iff.2 hnew, hfield, h⟩⟩
        · rename_i hf
          split at h
          · simp [fail] at h
          · rename_i after hcolon
            obtain ⟨gap, hgap, rfl⟩ := of_readColon hcolon
            split at h
            · simp at h
            · rename_i left hpass
              exact .inr ⟨lead, other, text, gap, after, rfl, hlead, ht, hgap,
                .inr ⟨left, hf, eq_ok_of_within hpass, h⟩⟩

/-- By induction on the fuel: each member that is read is one of the object's. -/
theorem of_readMembers (hfields : r.fields = [⟨name, .text⟩]) (hothers : r.keepsOthers = false)
    {fuel : Nat} {first : Bool} (hseen : seen = [] ∨ ∃ t, seen = [(name, some t)])
    (h : r.readMembers fuel first seen bs = .ok fields) :
    ∃ ms body tail, bs = body ++ tail ∧ IsMembers first ms body ∧ Adds name ms seen fields := by
  induction fuel generalizing first seen bs with
  | zero => simp [readMembers, fail] at h
  | succ fuel ih =>
    rcases of_readMembers_succ h with ⟨gap, rest, rfl, hgap, hcomplete⟩ |
      ⟨lead, other, text, gap, rest, rfl, hlead, htext, hgap,
        ⟨f, content, left, hf, hnew, hfield, hrest⟩ | ⟨left, hf, hpass, hrest⟩⟩
    · obtain ⟨rfl, -⟩ := complete_eq_ok hcomplete
      exact ⟨[], gap ++ [byte '\x7d'], rest, by simp, .close hgap, .nothing rfl⟩
    · rw [field?_of_fields hfields] at hf
      split at hf
      · rename_i hother
        cases hf
        subst hother
        obtain rfl : seen = [] := by
          rcases hseen with rfl | ⟨t, rfl⟩
          · rfl
          · simp at hnew
        obtain ⟨t, gap', v, rfl, rfl, hgap', hv⟩ := of_readField hfield
        obtain ⟨ms, body, tail, rfl, hbody, hadds⟩ := ih (.inr ⟨t, rfl⟩) hrest
        exact ⟨_, _, tail, by simp, .next hlead (.named htext hgap hgap' hv.isValue) hbody,
          (adds_self hv).cons hadds⟩
      · cases hf
    · rw [field?_of_fields hfields] at hf
      split at hf
      · cases hf
      · rename_i hother
        rw [passOther, hothers, if_neg Bool.false_ne_true] at hpass
        obtain ⟨gap', v, rfl, hgap', hv⟩ := of_passValue (eq_ok_of_here hpass)
        obtain ⟨ms, body, tail, rfl, hbody, hadds⟩ := ih hseen hrest
        exact ⟨_, _, tail, by simp, .next hlead (.named htext hgap hgap' hv) hbody,
          (adds_other hother).cons hadds⟩

theorem of_readArrayEnd {bs : Bytes} (h : readArrayEnd bs = .ok ()) :
    ∃ gap rest, IsGap gap ∧ bs = gap ++ byte ']' :: rest := by
  obtain ⟨gap, hgap, hbs⟩ := exists_gap bs
  unfold readArrayEnd at h
  cases hleft : skipGap bs with
  | nil =>
    rw [hleft] at h
    cases h
  | cons b rest =>
    rw [hleft] at h hbs
    simp only at h
    split at h
    · rename_i hb
      exact ⟨gap, rest, hgap, by rw [hbs, hb]⟩
    · split at h <;> cases h

/-- An array is read as the record when it holds the text and nothing more. -/
theorem of_readItems (hfields : r.fields = [⟨name, .text⟩])
    (h : r.readItems 0 r.fields [] bs = .ok fields) :
    ∃ t doc rest, byte '[' :: bs = doc ++ rest ∧ Carries name t doc ∧ fields = [(name, some t)] := by
  rw [hfields, readItems] at h
  split at h
  · simp [fail] at h
  · simp [fail, FieldKind.optional] at h
  · rename_i rest hturn
    rcases of_itemTurn hturn with ⟨_, _, heq, -⟩ | ⟨gap, rest', heq, hlead, rfl⟩
    · cases heq
    · cases heq
      have hgap : IsGap gap := hlead
      split at h
      · simp at h
      · rename_i content after hfield
        obtain ⟨t, gap', v, rfl, rfl, hgap', hv⟩ := of_readField (eq_ok_of_here (eq_ok_of_within hfield))
        rw [readItems] at h
        cases hend : readArrayEnd after with
        | error f => simp [hend, here, fail, Except.map] at h
        | ok u =>
          rw [hend] at h
          cases h
          obtain ⟨gap'', rest, hgap'', rfl⟩ := of_readArrayEnd hend
          exact ⟨t, _, rest, by simp, .list (hgap.append hgap') hgap'' hv, rfl⟩

/-- A record of one text is read from a document that holds its text. -/
theorem offers_of_read (hfields : r.fields = [⟨name, .text⟩]) (hothers : r.keepsOthers = false)
    (h : r.read bs = .ok fields) {t : String} (ht : fields.text? name = some t) : Offers name t bs := by
  obtain ⟨gap, hgap, hbs⟩ := exists_gap bs
  unfold read at h
  cases hleft : skipGap bs with
  | nil =>
    rw [hleft] at h
    simp [fail] at h
  | cons b left =>
    rw [hleft] at h hbs
    simp only at h
    split at h
    · rename_i hb
      obtain ⟨ms, body, tail, rfl, hbody, hadds⟩ := of_readMembers hfields hothers (.inl rfl) h
      cases hadds with
      | nothing hnone => cases ht
      | @field t' v hone hv =>
        obtain rfl : t' = t := by simpa [Fields.text?] using ht
        refine ⟨gap, byte '\x7b' :: body, tail, ?_, hgap, .object (.members hbody) hone hv⟩
        rw [hbs, hb]
        rfl
    · split at h
      · rename_i hb
        obtain ⟨t', doc, rest, hdoc, hcarries, rfl⟩ := of_readItems hfields h
        obtain rfl : t' = t := by simpa [Fields.text?] using ht
        exact ⟨gap, doc, rest, by rw [hbs, hb.1, hdoc], hgap, hcarries⟩
      · simp [fail] at h

end Record

/-! ## 4. What is read -/

theorem itemTurn_close (first : Bool) {gap : Bytes} (hgap : IsGap gap) (rest : Bytes) :
    itemTurn first (gap ++ byte ']' :: rest) = .ok (.close rest) := by
  have hskip := skipGap_before (b := byte ']') hgap (by decide) rest
  simp only [itemTurn, hskip, if_true]

theorem itemTurn_item {first : Bool} {lead : Bytes} (hlead : IsLead first lead) {b : UInt8}
    (hb : isGap b = false) (hclose : b ≠ byte ']') (bs : Bytes) :
    itemTurn first (lead ++ b :: bs) = .ok (.item (b :: bs)) := by
  cases first with
  | true =>
    have hskip := skipGap_before hlead hb bs
    simp only [itemTurn, hskip, if_neg hclose, if_true]
  | false =>
    obtain ⟨gap, gap', hgap, hgap', rfl⟩ := hlead
    have hcomma : byte ',' ≠ byte ']' := by decide
    have hskip := skipGap_before hgap isGap_comma (gap' ++ b :: bs)
    have hskip' := skipGap_before hgap' hb bs
    simp only [List.append_assoc, List.cons_append, itemTurn, hskip, if_neg hcomma,
      if_neg Bool.false_ne_true, if_true, hskip', if_neg hclose]

theorem memberTurn_close (first : Bool) {gap : Bytes} (hgap : IsGap gap) (rest : Bytes) :
    memberTurn first (gap ++ byte '\x7d' :: rest) = .ok (.close rest) := by
  have hskip := skipGap_before (b := byte '\x7d') hgap (by decide) rest
  simp only [memberTurn, hskip, if_true]

theorem memberTurn_member {first : Bool} {lead : Bytes} (hlead : IsLead first lead) (rest : Bytes) :
    memberTurn first (lead ++ byte '"' :: rest) = .ok (.member rest) := by
  have hclose : byte '"' ≠ byte '\x7d' := by decide
  cases first with
  | true =>
    have hskip := skipGap_before hlead isGap_quote rest
    simp only [memberTurn, hskip, if_neg hclose, if_true]
  | false =>
    obtain ⟨gap, gap', hgap, hgap', rfl⟩ := hlead
    have hcomma : byte ',' ≠ byte '\x7d' := by decide
    have hskip := skipGap_before hgap isGap_comma (gap' ++ byte '"' :: rest)
    have hskip' := skipGap_before hgap' isGap_quote rest
    simp only [List.append_assoc, List.cons_append, memberTurn, hskip, if_neg hcomma,
      if_neg Bool.false_ne_true, if_true, hskip']

theorem readText_append {t : String} {gap v : Bytes} (hgap : IsGap gap) (ht : IsText t v) (rest : Bytes) :
    readText (gap ++ (v ++ rest)) = .ok (t, rest) := by
  obtain ⟨left, rfl, hread⟩ := readString_append ht
  have hskip := skipGap_before hgap isGap_quote (left ++ rest)
  simp only [readText, List.cons_append, hskip, List.head?_cons, List.tail_cons, if_true, hread rest]

theorem readField_append {t : String} {gap v : Bytes} (hgap : IsGap gap) (ht : IsText t v)
    (rest : Bytes) : readField .text (gap ++ (v ++ rest)) = .ok (some t, rest) := by
  show (readText (gap ++ (v ++ rest))).map (fun x => (some x.1, x.2)) = _
  rw [readText_append hgap ht]
  rfl

theorem IsMember.length_pos {m : String × Bytes} {member : Bytes} (h : IsMember m member) :
    0 < member.length := by
  cases h with
  | named htext _ _ _ =>
    obtain ⟨left, rfl, -⟩ := readString_append htext
    exact Nat.succ_pos _

namespace Record

variable {r : Record} {name : String} {seen fields : Fields}

/-- By induction on the members: they add what they hold under the name. -/
theorem readMembers_append (hfields : r.fields = [⟨name, .text⟩]) (hothers : r.keepsOthers = false)
    {first : Bool} {ms : List (String × Bytes)} {body : Bytes} (h : IsMembers first ms body)
    (hadds : Adds name ms seen fields) {fuel : Nat} (hfuel : body.length < fuel) (tail : Bytes) :
    r.readMembers fuel first seen (body ++ tail) = r.complete fields := by
  induction h generalizing seen fuel with
  | @close first gap hgap =>
    obtain ⟨fuel, rfl⟩ := Nat.exists_eq_add_one.2 (Nat.zero_lt_of_lt hfuel)
    have hturn := memberTurn_close first hgap tail
    rw [List.append_assoc]
    cases hadds with
    | nothing _ => simp only [readMembers, List.singleton_append, hturn]
    | field hone _ => cases hone
  | @next first lead member body m ms hlead hm hbody ih =>
    obtain ⟨fuel, rfl⟩ := Nat.exists_eq_add_one.2 (Nat.zero_lt_of_lt hfuel)
    have hless : body.length < fuel := by
      have hmember := hm.length_pos
      simp only [List.length_append] at hfuel
      omega
    cases hm with
    | @named other text gap gap' v htext hgap hgap' hv =>
      obtain ⟨left, rfl, hread⟩ := readString_append htext
      have hturn := memberTurn_member hlead (left ++ (gap ++ byte ':' :: (gap' ++ (v ++ (body ++ tail)))))
      have hcolon := readColon_append hgap (gap' ++ (v ++ (body ++ tail)))
      simp only [List.append_assoc, List.cons_append, readMembers, hturn, hread, hcolon]
      by_cases hother : other = name
      · subst hother
        rw [field?_of_fields hfields, if_pos rfl]
        obtain ⟨rfl, hnone, t, rfl, ht⟩ := hadds.of_cons_self
        have hfield := readField_append hgap' ht (body ++ tail)
        simp only [List.lookup_nil, Option.isSome_none, if_neg Bool.false_ne_true, hfield, here, within]
        exact ih (.nothing hnone) hless
      · rw [field?_of_fields hfields, if_neg hother]
        have hpass := passValue_append hgap' hv (hbody.isBody.ends tail)
        simp only [passOther, hothers, if_neg Bool.false_ne_true, hpass, here, within]
        exact ih (hadds.of_cons_of_ne hother) hless

theorem complete_of_text (hfields : r.fields = [⟨name, .text⟩]) (t : String) :
    r.complete [(name, some t)] = .ok [(name, some t)] := by
  simp [complete, hfields, List.find?]

theorem readItems_append (hfields : r.fields = [⟨name, .text⟩]) {t : String} {gap gap' v : Bytes}
    (hgap : IsGap gap) (hgap' : IsGap gap') (ht : IsText t v) (rest : Bytes) :
    r.readItems 0 r.fields [] (gap ++ (v ++ (gap' ++ byte ']' :: rest))) = .ok [(name, some t)] := by
  have hfield := readField_append .nil ht (gap' ++ byte ']' :: rest)
  obtain ⟨left, rfl, -⟩ := readString_append ht
  have hskip := skipGap_before (b := byte ']') hgap' (by decide) rest
  have hlead : IsLead (0 == 0) gap := hgap
  have hturn := itemTurn_item hlead isGap_quote (by decide) (left ++ (gap' ++ byte ']' :: rest))
  have hend : readArrayEnd (gap' ++ byte ']' :: rest) = .ok () := by
    simp only [readArrayEnd, hskip, if_true]
  simp only [List.nil_append, List.cons_append] at hfield ⊢
  rw [hfields, readItems, hturn]
  simp only [hfield, here, within]
  rw [readItems, hend]
  rfl

/-- A document that holds a text is read as the record with the text, whatever comes after it. -/
theorem read_of_carries (hfields : r.fields = [⟨name, .text⟩]) (hothers : r.keepsOthers = false)
    (hpositional : r.positional = true) {t : String} {gap doc : Bytes} (hgap : IsGap gap)
    (h : Carries name t doc) (rest : Bytes) : r.read (gap ++ (doc ++ rest)) = .ok [(name, some t)] := by
  cases h with
  | @object ms _ v h hone ht =>
    cases h with
    | @members body h =>
      have hskip := skipGap_before (b := byte '\x7b') hgap (by decide) (body ++ rest)
      have hfuel : body.length < (body ++ rest).length + 1 := by
        rw [List.length_append]
        omega
      have hread := readMembers_append hfields hothers h (.field hone ht) hfuel rest
      simp only [read, List.cons_append, hskip, if_true, hread, complete_of_text hfields]
  | list hgap₁ hgap₂ ht =>
    have hskip := skipGap_before (b := byte '[') hgap (by decide)
    have hobject : byte '[' ≠ byte '\x7b' := by decide
    simp only [read, List.cons_append, List.append_assoc, List.nil_append, hskip, if_neg hobject,
      hpositional, and_self, if_true]
    exact readItems_append hfields hgap₁ hgap₂ ht rest

/-- A record of one text is read from the bytes that begin with a document of its text, and from no
others. -/
theorem read_text_iff (hfields : r.fields = [⟨name, .text⟩]) (hothers : r.keepsOthers = false)
    (hpositional : r.positional = true) (bs : Bytes) (t : String) :
    (∃ fields, r.read bs = .ok fields ∧ fields.text? name = some t) ↔ Offers name t bs := by
  constructor
  · rintro ⟨fields, hread, htext⟩
    exact offers_of_read hfields hothers hread htext
  · rintro ⟨gap, doc, rest, rfl, hgap, hcarries⟩
    refine ⟨_, read_of_carries hfields hothers hpositional hgap hcarries rest, ?_⟩
    simp [Fields.text?]

end Record

end RegistryAuth.Json
