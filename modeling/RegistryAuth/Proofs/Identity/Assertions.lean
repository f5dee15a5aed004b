import RegistryAuth.Identity.Workload
import RegistryAuth.Proofs.Text.Decimals
import RegistryAuth.Proofs.Text.Lossy
import RegistryAuth.Proofs.Url.Authority
import RegistryAuth.Proofs.Url.Form

/-!
# Assertions

The content of a file is presented as an assertion without the white space around it, if it is text that is
not all white space; else it cannot be read.  What is asked for with it is the scope of the audience.
-/

namespace RegistryAuth

open Text

/-! ## 1. Text with white space around it -/

namespace Text

variable {α : Type} {p : α → Bool} {xs : List α}

/-- What is left of a text ends with a character that is not trimmed. -/
theorem getLast?_trimEndWhile {x : α} (h : (trimEndWhile p xs).getLast? = some x) : p x = false := by
  have hne : List.rdropWhile p xs ≠ [] := by
    intro hnil
    rw [show trimEndWhile p xs = [] from hnil] at h
    cases h
  have hlast := List.rdropWhile_last_not p xs hne
  rw [show trimEndWhile p xs = List.rdropWhile p xs from rfl, List.getLast?_eq_some_getLast hne] at h
  rw [Option.some.inj h] at hlast
  simpa using hlast

/-- A text is what is left of it when it is trimmed, with what is trimmed around that. -/
theorem exists_around (p : α → Bool) (xs : List α) : ∃ before after, xs = before ++ trimWhile p xs ++ after ∧
    (∀ x ∈ before, p x = true) ∧ ∀ x ∈ after, p x = true := by
  obtain ⟨after, hafter, hall⟩ := exists_trimmed p (xs.dropWhile p)
  refine ⟨xs.takeWhile p, after, ?_, fun x hx => List.mem_takeWhile_imp hx, hall⟩
  rw [trimWhile, List.append_assoc, ← hafter, List.takeWhile_append_dropWhile]

end Text

/-! ## 2. Assertions -/

namespace Workload

/-- What is presented of the content of a file: its text without the white space around it. -/
inductive Presents : Except FileFault Bytes → List Char → Prop
  | around {before text after : List Char} (hbefore : ∀ c ∈ before, isBlank c = true)
    (hafter : ∀ c ∈ after, isBlank c = true) (hne : text ≠ [])
    (hfirst : ∀ c, text.head? = some c → isBlank c = false)
    (hlast : ∀ c, text.getLast? = some c → isBlank c = false) :
    Presents (.ok (Utf8.encode (before ++ text ++ after))) text

/-- Why nothing can be presented of the content of a file. -/
inductive Unreadable : Except FileFault Bytes → FileFault → String → Prop
  | missing (f : FileFault) : Unreadable (.error f) f ""
  | garbled {bytes : Bytes} (h : ∀ cs, Utf8.encode cs ≠ bytes) :
    Unreadable (.ok bytes) .invalidData "stream did not contain valid UTF-8"
  | blank {cs : List Char} (h : ∀ c ∈ cs, isBlank c = true) :
    Unreadable (.ok (Utf8.encode cs)) .invalidData "assertion file is empty"

variable {content : Except FileFault Bytes}

theorem presents_or_unreadable (content : Except FileFault Bytes) :
    (∃ text, Presents content text) ∨ ∃ f cause, Unreadable content f cause := by
  cases content with
  | error f => exact .inr ⟨f, _, .missing f⟩
  | ok bytes =>
    by_cases hutf8 : ∃ cs, Utf8.encode cs = bytes
    · obtain ⟨cs, rfl⟩ := hutf8
      by_cases hblank : ∀ c ∈ cs, isBlank c = true
      · exact .inr ⟨_, _, .blank hblank⟩
      · obtain ⟨before, after, hcs, hbefore, hafter⟩ := exists_around isBlank cs
        have hne : trimWhile isBlank cs ≠ [] := by
          intro hnil
          rw [hnil, List.append_nil] at hcs
          refine hblank fun c hc => ?_
          rw [hcs] at hc
          exact (List.mem_append.1 hc).elim (hbefore c) (hafter c)
        have hpresents := Presents.around hbefore hafter hne
          (fun c hc => head?_trimWhile isBlank cs hc) fun c hc => getLast?_trimEndWhile hc
        rw [← hcs] at hpresents
        exact .inl ⟨_, hpresents⟩
    · exact .inr ⟨_, _, .garbled fun cs hcs => hutf8 ⟨cs, hcs⟩⟩

theorem assertion_of_presents {text : List Char} (h : Presents content text) (path : String) :
    assertion path content = .ok (String.ofList text) := by
  cases h with
  | @around before _ after hbefore hafter hne hfirst hlast =>
    have hempty : ¬ text.isEmpty = true := by simpa using hne
    simp only [assertion, Utf8.decode?_encode, trimWhile_of_around hbefore hafter hne hfirst hlast,
      if_neg hempty]

theorem assertion_of_unreadable {f : FileFault} {cause : String} (h : Unreadable content f cause)
    (path : String) : assertion path content = .error (.credential path f cause) := by
  cases h with
  | missing f => rfl
  | @garbled bytes h =>
    have hnone : Utf8.decode? bytes = none :=
      Option.eq_none_iff_forall_ne_some.2 fun cs hcs => h cs (Utf8.decode?_eq_some_iff.1 hcs)
    simp only [assertion, hnone]
  | @blank cs h =>
    have hnil : trimWhile isBlank cs = [] := by
      rw [trimWhile, List.dropWhile_eq_nil_iff.2 h]
      rfl
    simp only [assertion, Utf8.decode?_encode, hnil, List.isEmpty_nil, if_true]

/-! ## 3. Grants -/

variable {s : WorkloadSettings} {client : ClientId} {tenant : TenantId}

/-- A file that cannot be read fails a grant before anything else is looked at. -/
theorem grant_of_unreadable {f : FileFault} {cause : String} (h : Unreadable content f cause) :
    grant s client tenant content = .error (.credential s.assertionFile f cause) := by
  simp only [grant, assertion_of_unreadable h]

theorem grant_of_presents {text : List Char} (h : Presents content text) :
    grant s client tenant content = ((s.tokenEndpoint tenant).mapError .config).map
      fun url => ⟨url, client, String.ofList text, s.scope⟩ := by
  simp only [grant, assertion_of_presents h]
  cases s.tokenEndpoint tenant <;> rfl

theorem Grant.decode_request {g : Grant} {q : Http.Request} (h : g.request = .ok q) :
    Http.Uri.ofUrl g.endpoint = .ok q.uri ∧ q.method = .post ∧
      Form.decode (Utf8.encode q.body) = g.form := by
  obtain ⟨uri, huri, hq⟩ := bind_eq_ok_iff.1 h
  cases hq
  exact ⟨huri, rfl, Form.decode_encode g.form⟩

end Workload

/-- The scope is the audience without the slashes at its end, and a suffix. -/
theorem WorkloadSettings.exists_scope (s : WorkloadSettings) :
    ∃ base n, s.audience.toList = base ++ List.replicate n '/' ∧ base.getLast? ≠ some '/' ∧
      s.scope = String.ofList base ++ "/.default" := by
  obtain ⟨n, hn⟩ := exists_trimEndWhile_append_replicate '/' s.audience.toList
  refine ⟨_, n, hn, fun hlast => ?_, rfl⟩
  cases getLast?_trimEndWhile hlast

end RegistryAuth
