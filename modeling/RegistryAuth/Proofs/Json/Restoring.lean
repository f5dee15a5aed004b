import RegistryAuth.Proofs.Json.Documents
import RegistryAuth.Proofs.Json.Printing

/-!
# Values are read back

A value is read from its compact form as it was: `parse_print`.  Its numbers have to be whole and of 64
bits, the members of its objects in the order of their names, and its containers no deeper than a reader
goes.
-/

namespace RegistryAuth.Json

open Text Text.Utf8

/-! ## 1. Containers -/

section Containers

variable {depth : Nat}

theorem denotesItems_printBehind {items : List Json}
    (hitems : ∀ v ∈ items, Denotes depth (encode (print v)) v) :
    DenotesItems depth false (encode (printBehind print items) ++ [byte ']']) items := by
  induction items with
  | nil => exact .close .nil
  | cons v items ih =>
    rw [encode_printBehind_cons, List.append_assoc, List.append_assoc]
    exact .next isLead_comma (hitems v List.mem_cons_self)
      (ih fun w hw => hitems w (List.mem_cons_of_mem v hw))

theorem denotes_array {items : List Json} (hitems : ∀ v ∈ items, Denotes depth (encode (print v)) v) :
    Denotes (depth + 1) (encode (print (.array items))) (.array items) := by
  rw [encode_print_array]
  cases items with
  | nil => exact .array (.close .nil)
  | cons v items =>
    have hbody : DenotesItems depth true
        ([] ++ (encode (print v) ++ (encode (printBehind print items) ++ [byte ']']))) (v :: items) :=
      .next isLead_nil (hitems v List.mem_cons_self)
        (denotesItems_printBehind fun w hw => hitems w (List.mem_cons_of_mem v hw))
    rw [printItems_cons, encode_append, List.append_assoc]
    exact .array hbody

/-- A printed member goes before what is written behind it. -/
theorem denotesMembers_printMember {first : Bool} {lead body : Bytes} {m : String × Json}
    {members : List (String × Json)} (hlead : IsLead first lead) (hm : Denotes depth (encode (print m.2)) m.2)
    (h : DenotesMembers depth false body members) :
    DenotesMembers depth first (lead ++ (encode (printMember m) ++ body)) (m :: members) := by
  have hmember : DenotesMembers depth first (lead ++ (encode (printString m.1) ++
      ([] ++ byte ':' :: ([] ++ (encode (print m.2) ++ body))))) ((m.1, m.2) :: members) :=
    .next hlead (isText_printString m.1) .nil .nil hm h
  rw [printMember, encode_append, encode_cons_of_ascii (by decide), List.append_assoc]
  exact hmember

theorem denotesMembers_printBehind {members : List (String × Json)}
    (hmembers : ∀ m ∈ members, Denotes depth (encode (print m.2)) m.2) :
    DenotesMembers depth false (encode (printBehind printMember members) ++ [byte '\x7d']) members := by
  induction members with
  | nil => exact .close .nil
  | cons m members ih =>
    rw [encode_printBehind_cons, List.append_assoc, List.append_assoc]
    exact denotesMembers_printMember isLead_comma (hmembers m List.mem_cons_self)
      (ih fun m' hm' => hmembers m' (List.mem_cons_of_mem m hm'))

theorem denotes_object {members : List (String × Json)}
    (hsorted : members.Pairwise fun m m' => m.1 < m'.1)
    (hmembers : ∀ m ∈ members, Denotes depth (encode (print m.2)) m.2) :
    Denotes (depth + 1) (encode (print (.object members))) (.object members) := by
  rw [encode_print_object]
  refine .object ?_ (resolves_self hsorted)
  cases members with
  | nil => exact .close .nil
  | cons m members =>
    rw [printMembers_cons, encode_append, List.append_assoc]
    exact denotesMembers_printMember isLead_nil (hmembers m List.mem_cons_self)
      (denotesMembers_printBehind fun m' hm' => hmembers m' (List.mem_cons_of_mem m hm'))

end Containers

/-! ## 2. Values -/

/-- Whether a value comes back from its compact form as it was, with at most `depth` containers inside one
another. -/
inductive IsExact : Nat → Json → Prop
  | null {depth : Nat} : IsExact depth .null
  | bool {depth : Nat} (b : Bool) : IsExact depth (.bool b)
  | whole {depth : Nat} {n : Int} (hlow : -0x8000000000000000 ≤ n) (hhigh : n ≤ maxWord) :
    IsExact depth (.number (.whole n))
  | string {depth : Nat} (s : String) : IsExact depth (.string s)
  | array {depth : Nat} {items : List Json} (h : ∀ v ∈ items, IsExact depth v) :
    IsExact (depth + 1) (.array items)
  | object {depth : Nat} {members : List (String × Json)}
    (hsorted : members.Pairwise fun m m' => m.1 < m'.1) (h : ∀ m ∈ members, IsExact depth m.2) :
    IsExact (depth + 1) (.object members)

/-- One case for each kind of value. -/
theorem IsExact.denotes {depth : Nat} {v : Json} (h : IsExact depth v) : Denotes depth (encode (print v)) v := by
  induction h with
  | null => exact .null
  | bool b =>
    cases b with
    | true => exact .bool true
    | false => exact .bool false
  | whole hlow hhigh => exact .number (.whole hlow hhigh)
  | string s => exact .string (isText_printString s)
  | array _ ih => exact denotes_array ih
  | object hsorted _ ih => exact denotes_object hsorted ih

theorem IsExact.isDocument {v : Json} (h : IsExact 127 v) : IsDocument (encode (print v)) v :=
  ⟨[], _, [], (List.append_nil _).symm, .nil, .nil, h.denotes⟩

theorem parse_print {v : Json} (h : IsExact 127 v) : parse (encode (print v)) = .ok v :=
  parse_eq_ok_iff.2 h.isDocument

theorem parseObject_print {members : List (String × Json)} (h : IsExact 127 (.object members)) :
    parseObject (encode (print (.object members))) = .ok members :=
  parseObject_eq_ok_iff.2 h.isDocument

end RegistryAuth.Json
