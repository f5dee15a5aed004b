import RegistryAuth.Json.Record

/-!
# Fields of records

A record that is read from an object has a text in each field that has to hold one, though perhaps an
empty one.
-/

namespace RegistryAuth.Json

/-- Whether no field that has to hold a text has been read without one. -/
def Record.Texts (r : Record) (seen : Fields) : Prop :=
  ∀ name f, r.field? name = some f → f.kind = .text → seen.lookup name ≠ some none

variable {r : Record} {seen fields : Fields} {bs : Text.Bytes}

theorem eq_ok_of_here {α : Type} {x : Except Fault α} {a : α} (h : here x = .ok a) : x = .ok a := by
  cases x with
  | error f => simp [here, fail] at h
  | ok b => simpa [here] using h

theorem eq_ok_of_within {α : Type} {s : Segment} {x : Except ReadError α} {a : α}
    (h : within s x = .ok a) : x = .ok a := by
  cases x with
  | error e => simp [within] at h
  | ok b => simpa [within] using h

/-- A field that has to hold a text is read with one. -/
theorem content_of_readField {content : Option String} {rest : Text.Bytes}
    (h : readField .text bs = .ok (content, rest)) : content ≠ none := by
  have hread : (readText bs).map (fun x => (some x.1, x.2)) = .ok (content, rest) := h
  cases htext : readText bs with
  | error f => simp [htext, Except.map] at hread
  | ok x =>
    rw [htext] at hread
    cases hread
    exact Option.some_ne_none _

theorem Record.Texts.cons {name : String} {f : Field} {content : Option String} (h : r.Texts seen)
    (hfield : r.field? name = some f) (hcontent : f.kind = .text → content ≠ none) :
    r.Texts ((name, content) :: seen) := by
  intro name' f' hfield' hkind
  by_cases hname : name' = name
  · subst hname
    obtain rfl : f' = f := Option.some.inj (hfield'.symm.trans hfield)
    rw [List.lookup_cons_self]
    exact fun heq => hcontent hkind (Option.some.inj heq)
  · rw [List.lookup_cons, beq_false_of_ne hname]
    exact h name' f' hfield' hkind

/-- A record that is complete is what was seen, and no field that has to hold a text is missing. -/
theorem Record.complete_eq_ok (h : r.complete seen = .ok fields) :
    fields = seen ∧ ∀ name f, r.field? name = some f → f.kind = .text → (seen.lookup name).isSome := by
  unfold complete at h
  split at h
  · simp [fail] at h
  · rename_i hnone
    refine ⟨(Except.ok.inj h).symm, fun name f hfield hkind => ?_⟩
    have hmem := List.mem_of_find?_eq_some hfield
    have hname : f.name = name := by simpa using List.find?_some hfield
    have hseen := List.find?_eq_none.1 hnone f hmem
    rw [hname, hkind] at hseen
    simpa [FieldKind.optional, Option.isSome_iff_ne_none] using hseen

/-- By induction on the fuel: each member that is read leaves the fields with their texts. -/
theorem Record.texts_of_readMembers {fuel : Nat} {first : Bool} (hseen : r.Texts seen)
    (h : r.readMembers fuel first seen bs = .ok fields) :
    r.Texts fields ∧ ∀ name f, r.field? name = some f → f.kind = .text →
      (fields.lookup name).isSome := by
  induction fuel generalizing first seen bs with
  | zero => simp [readMembers, fail] at h
  | succ fuel ih =>
    unfold readMembers at h
    split at h
    · simp [within, fail] at h
    · obtain ⟨rfl, hall⟩ := complete_eq_ok h
      exact ⟨hseen, hall⟩
    · split at h
      · simp [within, fail] at h
      · rename_i name rest _
        split at h
        · rename_i field hfield
          split at h
          · simp [fail] at h
          · split at h
            · simp [fail] at h
            · split at h
              · simp at h
              · rename_i content rest' hcontent
                refine ih (hseen.cons hfield fun hkind => ?_) h
                rw [hkind] at hcontent
                exact content_of_readField (eq_ok_of_here (eq_ok_of_within hcontent))
        · split at h
          · simp [fail] at h
          · split at h
            · simp at h
            · exact ih hseen h

/-- A record that is read from an object has a text in each field that has to hold one. -/
theorem Record.text?_of_read {name : String} {f : Field} (hobject : r.positional = false)
    (hfield : r.field? name = some f) (hkind : f.kind = .text) (h : r.read bs = .ok fields) :
    ∃ t, fields.lookup name = some (some t) := by
  unfold read at h
  split at h
  · simp [fail] at h
  · split at h
    · obtain ⟨htexts, hall⟩ := texts_of_readMembers (fun name f _ _ => by simp) h
      obtain ⟨content, hcontent⟩ := Option.isSome_iff_exists.1 (hall name f hfield hkind)
      cases content with
      | none => exact absurd hcontent (htexts name f hfield hkind)
      | some t => exact ⟨t, hcontent⟩
    · simp [hobject, fail] at h

end RegistryAuth.Json
