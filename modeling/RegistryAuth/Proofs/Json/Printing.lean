import RegistryAuth.Json.Printer
import RegistryAuth.Proofs.Json.Members
import RegistryAuth.Proofs.Json.Numerals

/-!
# Values as they are written

The compact form of a value is one of the grammar.  Its strings write the text that they were made of,
whatever characters the text has, and the members of an object stand there in their order.
-/

namespace RegistryAuth.Json

open Text (Bytes)
open Text.Utf8

/-! ## 1. Strings -/

theorem writes_append_of_isPlain {bs raw out : Bytes} (hbs : ∀ b ∈ bs, IsPlain b) (h : Writes raw out) :
    Writes (bs ++ raw) (bs ++ out) := by
  induction bs with
  | nil => exact h
  | cons b bs ih =>
    exact .plain (hbs b List.mem_cons_self) (ih fun b' hb' => hbs b' (List.mem_cons_of_mem b hb'))

/-- A character that needs no escape has none of the bytes that do. -/
theorem isPlain_of_mem_utf8EncodeChar {c : Char} (hquote : c ≠ '"') (hslash : c ≠ '\\')
    (hcontrol : ¬ c.toNat < 0x20) {b : UInt8} (hb : b ∈ String.utf8EncodeChar c) : IsPlain b := by
  have hne {d : Char} (hd : d.toNat < 0x80) (hcd : c ≠ d) : b ≠ byte d := by
    intro heq
    have hbd : b.toNat = d.toNat := heq ▸ toNat_ofNat (by omega)
    by_cases hc : c.toNat < 0x80
    · rw [utf8EncodeChar_of_ascii hc, List.mem_singleton] at hb
      have hbc : b.toNat = c.toNat := hb ▸ toNat_ofNat (by omega)
      exact hcd (Char.ext (UInt32.toNat_inj.1 (hbc.symm.trans hbd)))
    · have hbig := le_of_mem_utf8EncodeChar (by omega) hb
      omega
  refine ⟨hne (by decide) hquote, hne (by decide) hslash, ?_⟩
  rw [UInt8.lt_iff_toNat_lt]
  show ¬ b.toNat < 0x20
  by_cases hc : c.toNat < 0x80
  · rw [utf8EncodeChar_of_ascii hc, List.mem_singleton] at hb
    rw [hb, toNat_ofNat (by omega)]
    exact hcontrol
  · have hbig := le_of_mem_utf8EncodeChar (by omega) hb
    omega

/-- The digits of a control. -/
theorem hexUnit?_control : ∀ n < 0x20,
    (encode ['0', '0', Text.hexDigit (n / 16), Text.hexDigit (n % 16)]).length = 4 ∧
      hexUnit? (encode ['0', '0', Text.hexDigit (n / 16), Text.hexDigit (n % 16)]).reverse = some n := by
  decide

/-- A character is written so that a reader takes it as it was. -/
theorem writes_escapeChar (c : Char) {raw out : Bytes} (h : Writes raw out) :
    Writes (encode (escapeChar c) ++ raw) (String.utf8EncodeChar c ++ out) := by
  -- By the arms of `escapeChar`: short escapes first, then the digits of a control, then no escape.
  unfold escapeChar
  by_cases hquote : c = '"'
  · subst hquote
    exact .short (b := byte '"') rfl h
  rw [if_neg hquote]
  by_cases hslash : c = '\\'
  · subst hslash
    exact .short (b := byte '\\') rfl h
  rw [if_neg hslash]
  split
  · subst c
    exact .short (b := byte 'b') rfl h
  split
  · subst c
    exact .short (b := byte 'f') rfl h
  split
  · subst c
    exact .short (b := byte 'n') rfl h
  split
  · subst c
    exact .short (b := byte 'r') rfl h
  split
  · subst c
    exact .short (b := byte 't') rfl h
  by_cases hcontrol : c.toNat < 0x20
  · rw [if_pos hcontrol]
    obtain ⟨hlength, hunit⟩ := hexUnit?_control c.toNat hcontrol
    have hwrites := Writes.unit hlength hunit (.inl (by omega)) h
    rw [Char.ofNat_toNat] at hwrites
    exact hwrites
  · rw [if_neg hcontrol]
    have hone : encode [c] = String.utf8EncodeChar c := List.flatMap_singleton _ c
    rw [hone]
    exact writes_append_of_isPlain (fun b => isPlain_of_mem_utf8EncodeChar hquote hslash hcontrol) h

theorem writes_escaped (cs : List Char) : Writes (encode (cs.flatMap escapeChar)) (encode cs) := by
  induction cs with
  | nil => exact .nil
  | cons c cs ih =>
    rw [List.flatMap_cons, encode_append, encode_cons]
    exact writes_escapeChar c ih

theorem isText_printString (s : String) : IsText s (encode (printString s)) := by
  refine ⟨_, _, ?_, writes_escaped s.toList, decode?_encode s.toList⟩
  unfold printString
  rw [encode_cons_of_ascii (by decide), encode_append]
  rfl

/-! ## 2. Entries of containers -/

theorem isLead_nil : IsLead true [] :=
  IsGap.nil

theorem isLead_comma : IsLead false [byte ','] :=
  ⟨[], [], .nil, .nil, rfl⟩

/-- What is written of a container behind its first entry, without the closing bracket. -/
def printBehind {α : Type} (written : α → List Char) (xs : List α) : List Char :=
  xs.flatMap fun x => ',' :: written x

def printMember (m : String × Json) : List Char :=
  printString m.1 ++ ':' :: print m.2

theorem printItems_cons (v : Json) (items : List Json) :
    printItems (v :: items) = print v ++ printBehind print items := by
  induction items generalizing v with
  | nil => rw [printItems, printBehind, List.flatMap_nil, List.append_nil]
  | cons w items ih =>
    rw [printItems, ih]
    · rfl
    · exact fun h => List.cons_ne_nil _ _ h

theorem printMembers_cons (m : String × Json) (members : List (String × Json)) :
    printMembers (m :: members) = printMember m ++ printBehind printMember members := by
  induction members generalizing m with
  | nil => rw [printMembers, printBehind, List.flatMap_nil, List.append_nil, printMember]
  | cons m' members ih =>
    rw [printMembers, ih]
    · rfl
    · exact fun h => List.cons_ne_nil _ _ h

section Behind

variable {α : Type} (written : α → List Char)

theorem encode_printBehind_cons (x : α) (xs : List α) :
    encode (printBehind written (x :: xs)) =
      [byte ','] ++ (encode (written x) ++ encode (printBehind written xs)) := by
  rw [printBehind, List.flatMap_cons, List.cons_append, encode_cons_of_ascii (by decide), encode_append]
  rfl

end Behind

theorem encode_print_array (items : List Json) :
    encode (print (.array items)) = byte '[' :: (encode (printItems items) ++ [byte ']']) := by
  rw [print, encode_cons_of_ascii (by decide), encode_append]
  rfl

theorem encode_print_object (members : List (String × Json)) :
    encode (print (.object members)) = byte '\x7b' :: (encode (printMembers members) ++ [byte '\x7d']) := by
  rw [print, encode_cons_of_ascii (by decide), encode_append]
  rfl

/-- Items that are written behind others stand in an array. -/
theorem isBody_printBehind {items : List Json} (hitems : ∀ v ∈ items, IsValue (encode (print v))) :
    IsBody .list false (encode (printBehind print items) ++ [byte ']']) := by
  induction items with
  | nil => exact .close .nil
  | cons v items ih =>
    have hrest := ih fun w hw => hitems w (List.mem_cons_of_mem v hw)
    have hbody : IsBody .list false ([byte ','] ++ ([] ++ ([] ++ (encode (print v) ++
        (encode (printBehind print items) ++ [byte ']']))))) :=
      .entry isLead_comma .item .nil (hitems v List.mem_cons_self) hrest
    rw [encode_printBehind_cons, List.append_assoc, List.append_assoc]
    exact hbody

theorem isBody_printItems {items : List Json} (hitems : ∀ v ∈ items, IsValue (encode (print v))) :
    IsBody .list true (encode (printItems items) ++ [byte ']']) := by
  cases items with
  | nil => exact .close .nil
  | cons v items =>
    have hrest := isBody_printBehind fun w hw => hitems w (List.mem_cons_of_mem v hw)
    have hbody : IsBody .list true ([] ++ ([] ++ ([] ++ (encode (print v) ++
        (encode (printBehind print items) ++ [byte ']']))))) :=
      .entry isLead_nil .item .nil (hitems v List.mem_cons_self) hrest
    rw [printItems_cons, encode_append, List.append_assoc]
    exact hbody

/-- A member as it is written. -/
theorem isMember_printMember {m : String × Json} (hv : IsValue (encode (print m.2))) :
    IsMember (m.1, encode (print m.2)) (encode (printMember m)) := by
  have hmember : IsMember (m.1, encode (print m.2))
      (encode (printString m.1) ++ ([] ++ byte ':' :: ([] ++ encode (print m.2)))) :=
    .named (isText_printString m.1) .nil .nil hv
  rw [printMember, encode_append]
  exact hmember

/-- Members that are written behind others stand in an object, in their order. -/
theorem isMembers_printBehind {members : List (String × Json)}
    (hmembers : ∀ m ∈ members, IsValue (encode (print m.2))) :
    IsMembers false (members.map fun m => (m.1, encode (print m.2)))
      (encode (printBehind printMember members) ++ [byte '\x7d']) := by
  induction members with
  | nil => exact .close .nil
  | cons m members ih =>
    rw [encode_printBehind_cons, List.append_assoc, List.append_assoc]
    exact .next isLead_comma (isMember_printMember (hmembers m List.mem_cons_self))
      (ih fun m' hm' => hmembers m' (List.mem_cons_of_mem m hm'))

/-- An object is written with its members in their order. -/
theorem isObject_print {members : List (String × Json)}
    (hmembers : ∀ m ∈ members, IsValue (encode (print m.2))) :
    IsObject (members.map fun m => (m.1, encode (print m.2))) (encode (print (.object members))) := by
  rw [encode_print_object]
  cases members with
  | nil => exact .members (.close .nil)
  | cons m members =>
    have hbody : IsMembers true _ ([] ++ (encode (printMember m) ++
        (encode (printBehind printMember members) ++ [byte '\x7d']))) :=
      .next isLead_nil (isMember_printMember (hmembers m List.mem_cons_self))
        (isMembers_printBehind fun m' hm' => hmembers m' (List.mem_cons_of_mem m hm'))
    rw [printMembers_cons, encode_append, List.append_assoc]
    exact .members hbody

/-! ## 3. Values -/

/-- Whether the numbers of a value are finite.  Others cannot be written. -/
inductive IsFinite : Json → Prop
  | null : IsFinite .null
  | bool (b : Bool) : IsFinite (.bool b)
  | whole (n : Int) : IsFinite (.number (.whole n))
  | real (negative : Bool) (m : Nat) (e : Int) : IsFinite (.number (.real (.finite negative m e)))
  | string (s : String) : IsFinite (.string s)
  | array {items : List Json} (h : ∀ v ∈ items, IsFinite v) : IsFinite (.array items)
  | object {members : List (String × Json)} (h : ∀ m ∈ members, IsFinite m.2) :
    IsFinite (.object members)

theorem isValue_word (word : String) (h : word ∈ ["null", "true", "false"]) :
    IsValue (word.toList.map byte) :=
  .scalar (.word h)

theorem isValue_print {v : Json} (h : IsFinite v) : IsValue (encode (print v)) := by
  induction h with
  | null => exact isValue_word "null" (by decide)
  | bool b =>
    cases b with
    | true => exact isValue_word "true" (by decide)
    | false => exact isValue_word "false" (by decide)
  | whole n => exact .scalar (.number (Number.isNumber_text_whole n))
  | real negative m e => exact .scalar (.number (Number.isNumber_text_finite negative m e))
  | string s => exact (isText_printString s).isValue
  | array _ ih =>
    rw [encode_print_array]
    exact .container (isBody_printItems ih)
  | object _ ih => exact (isObject_print ih).isValue

/-- An object that has a text under one name only holds it there, wherever the member stands. -/
theorem carries_print {name t : String} {before after : List (String × Json)}
    (hothers : ∀ m ∈ before ++ after, m.1 ≠ name ∧ IsFinite m.2) :
    Carries name t (encode (print (.object (before ++ (name, .string t) :: after)))) := by
  have hvalues : ∀ m ∈ before ++ (name, .string t) :: after, IsValue (encode (print m.2)) := by
    intro m hm
    rcases List.mem_append.1 hm with hm | hm
    · exact isValue_print (hothers m (List.mem_append_left after hm)).2
    · rcases List.mem_cons.1 hm with rfl | hm
      · exact (isText_printString t).isValue
      · exact isValue_print (hothers m (List.mem_append_right before hm)).2
  have hnone {members : List (String × Json)} (h : ∀ m ∈ members, m.1 ≠ name) :
      (members.map fun m => (m.1, encode (print m.2))).filter (·.1 = name) = [] := by
    rw [List.filter_eq_nil_iff]
    intro written hwritten
    obtain ⟨m, hm, rfl⟩ := List.mem_map.1 hwritten
    simpa using h m hm
  refine .object (isObject_print hvalues) ?_ (isText_printString t)
  rw [List.map_append, List.map_cons, List.filter_append, List.filter_cons_of_pos (by simp),
    hnone fun m hm => (hothers m (List.mem_append_left after hm)).1,
    hnone fun m hm => (hothers m (List.mem_append_right before hm)).1]
  rfl

end RegistryAuth.Json
