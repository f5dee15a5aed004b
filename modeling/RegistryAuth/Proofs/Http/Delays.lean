import RegistryAuth.Broker.Reply
import RegistryAuth.Proofs.Text.Decimals
import RegistryAuth.Proofs.Text.Utf8

/-!
# Delays that are told in digits

A server tells in digits how many seconds to wait.  A delay that fits an unsigned word of 64 bits is taken,
and cut to the greatest one of a signed word; one that does not fit is not taken at all, for a number is no
date either.
-/

namespace RegistryAuth

open Text Text.Utf8

/-! ## 1. Digits are no date -/

namespace MailDate

variable {cs : List Char}

theorem not_blank_of_isDigit {c : Char} (h : Text.isDigit c = true) : isSpace c = false ∧ c ≠ '(' := by
  constructor
  · apply Bool.eq_false_iff.2
    intro hspace
    simp only [isSpace, Bool.or_eq_true, beq_iff_eq] at hspace
    rcases hspace with rfl | rfl <;> revert h <;> decide
  · rintro rfl
    revert h
    decide

theorem skipBlanks_of_digits (h : ∀ c ∈ cs, Text.isDigit c = true) : skipBlanks cs = cs := by
  cases cs with
  | nil => rw [skipBlanks]
  | cons c cs =>
    obtain ⟨hspace, hcomment⟩ := not_blank_of_isDigit (h c List.mem_cons_self)
    rw [skipBlanks, if_neg (by simp [hspace]), if_neg hcomment]

theorem needBlanks_of_digits (h : ∀ c ∈ cs, Text.isDigit c = true) : needBlanks cs = none := by
  unfold needBlanks
  rw [skipBlanks_of_digits h]
  exact if_neg (Nat.lt_irrefl _)

theorem lowerAscii_of_isDigit {c : Char} (h : Text.isDigit c = true) : lowerAscii c = c := by
  apply if_neg
  simp only [Text.isDigit, isCapital, Bool.and_eq_true, decide_eq_true_eq] at h ⊢
  omega

/-- The days of the week are written in letters. -/
theorem readWeekday_of_digits (h : ∀ c ∈ cs, Text.isDigit c = true) : readWeekday cs = some cs := by
  have hletters : weekdays.all (fun w => (w.1.toList.map lowerAscii).any (!Text.isDigit ·)) = true := by
    decide
  have hdigits : cs.map lowerAscii = cs :=
    (List.map_congr_left fun c hc => lowerAscii_of_isDigit (h c hc)).trans (List.map_id cs)
  have hword : word weekdays cs = none := by
    unfold word
    rw [hdigits, Option.map_eq_none_iff, List.find?_eq_none]
    intro w hw hprefix
    obtain ⟨c, hc, hletter⟩ := List.any_eq_true.1 (List.all_eq_true.1 hletters w hw)
    have hdigit : Text.isDigit c = true := h c ((List.isPrefixOf_iff_prefix.1 hprefix).subset hc)
    rw [hdigit] at hletter
    exact Bool.noConfusion hletter
  unfold readWeekday
  rw [hword]

/-- What is left after digits were read is the end of the text. -/
theorem eq_drop_of_digits {count n : Nat} {rest : List Char} (h : digits count cs = some (n, rest)) :
    rest = cs.drop count := by
  unfold digits at h
  split at h
  · exact (congrArg Prod.snd (Option.some.inj h)).symm
  · split at h
    · split at h
      · exact (congrArg Prod.snd (Option.some.inj h)).symm
      · cases h
    · cases h

/-- The day of a date would have to be followed by a blank. -/
theorem read?_of_digits (h : ∀ c ∈ cs, Text.isDigit c = true) : read? cs = none := by
  have hrest (count : Nat) : needBlanks (cs.drop count) = none :=
    needBlanks_of_digits fun c hc => h c (List.mem_of_mem_drop hc)
  have hday : ∀ x, readDay cs = some x → needBlanks x.2 = none := by
    rintro ⟨day, rest⟩ hread
    unfold readDay at hread
    rw [Option.or_eq_some_iff] at hread
    rcases hread with hread | ⟨-, hread⟩
    · rw [eq_drop_of_digits hread]
      exact hrest 2
    · rw [eq_drop_of_digits hread]
      exact hrest 1
  unfold read?
  rw [skipBlanks_of_digits h, readWeekday_of_digits h]
  cases hread : readDay cs with
  | none => simp [hread]
  | some x => simp [hread, hday x hread]

end MailDate

/-! ## 2. Visible text -/

namespace Http

/-- Blanks and tabs. -/
def IsPadding (cs : List Char) : Prop :=
  ∀ c ∈ cs, c = ' ' ∨ c = '\t'

theorem visibleText?_encode {cs : List Char}
    (h : ∀ c ∈ cs, c = '\t' ∨ 0x20 ≤ c.toNat ∧ c.toNat < 0x7F) : visibleText? (encode cs) = some cs := by
  have hascii : ∀ c ∈ cs, c.toNat < 0x80 := by
    intro c hc
    rcases h c hc with rfl | ⟨-, hlt⟩
    · decide
    · omega
  have hbytes := encode_of_ascii hascii
  have hvisible : (encode cs).all (fun b => b == 0x09 || (0x20 ≤ b && b < 0x7F)) = true := by
    rw [hbytes, List.all_map, List.all_eq_true]
    intro c hc
    have hbyte : (UInt8.ofNat c.toNat).toNat = c.toNat := toNat_ofNat (by have := hascii c hc; omega)
    rcases h c hc with rfl | ⟨hlow, hhigh⟩
    · rfl
    · simp [UInt8.le_iff_toNat_le, UInt8.lt_iff_toNat_lt, hbyte, hlow, hhigh]
  have hback : ∀ c ∈ cs, Char.ofNat (UInt8.ofNat c.toNat).toNat = c := by
    intro c hc
    rw [toNat_ofNat (by have := hascii c hc; omega), Char.ofNat_toNat]
  unfold visibleText?
  rw [if_pos hvisible, hbytes, List.map_map]
  exact congrArg some ((List.map_congr_left hback).trans (List.map_id cs))

/-! ## 3. Hints -/

namespace RetryHint

variable {ds : List Char}

theorem seconds?_of_digits (h : IsDecimal ds) :
    seconds? ds =
      if Nat.ofDigitChars 10 ds 0 ≤ maxSeconds then some (Nat.ofDigitChars 10 ds 0) else none := by
  have hall := h.all
  have hvalue := foldl_digits ds 0
  obtain ⟨c, cs, rfl⟩ := List.exists_cons_of_ne_nil h.1
  have hplus : c ≠ '+' := by
    rintro rfl
    have hdigit := h.2 '+' List.mem_cons_self
    revert hdigit
    decide
  unfold seconds?
  simp only
  split
  · rename_i rest heq
    cases heq
    exact absurd rfl hplus
  · rw [if_pos ⟨List.cons_ne_nil c cs, hall⟩, hvalue]

/-- The hint of digits: the number that they write, cut to what a signed word holds, or nothing where they
write more than a word holds. -/
theorem ofText?_of_digits (now : Instant) (h : IsDecimal ds) :
    ofText? now ds =
      if Nat.ofDigitChars 10 ds 0 < 2 ^ 64 then
        some (.delay (.ofSeconds (min (Nat.ofDigitChars 10 ds 0) (2 ^ 63 - 1))))
      else none := by
  have hdate : MailDate.parse? ds = none := by
    unfold MailDate.parse?
    rw [MailDate.read?_of_digits h.isDigit]
    rfl
  unfold ofText?
  rw [seconds?_of_digits h]
  by_cases hfits : Nat.ofDigitChars 10 ds 0 < 2 ^ 64
  · rw [if_pos hfits, if_pos (show Nat.ofDigitChars 10 ds 0 ≤ maxSeconds from Nat.le_of_lt_succ hfits)]
    rfl
  · have hmore : ¬ Nat.ofDigitChars 10 ds 0 ≤ maxSeconds := fun hle => hfits (Nat.lt_succ_of_le hle)
    rw [if_neg hfits, if_neg hmore]
    simp only [hdate]

end RetryHint

namespace Response

/-- Whether a response tells in digits for how many seconds to wait, with nothing but blanks and tabs around
them. -/
def AsksFor (r : Response) (n : Nat) : Prop :=
  ∃ before ds after, r.header? "retry-after" = some (encode (before ++ (ds ++ after))) ∧
    IsPadding before ∧ IsPadding after ∧ IsDecimal ds ∧ Nat.ofDigitChars 10 ds 0 = n

end Response

theorem IsPadding.isBlank {cs : List Char} (h : IsPadding cs) : ∀ c ∈ cs, isBlank c = true := by
  intro c hc
  rcases h c hc with rfl | rfl <;> decide

theorem IsPadding.isVisible {cs : List Char} (h : IsPadding cs) :
    ∀ c ∈ cs, c = '\t' ∨ 0x20 ≤ c.toNat ∧ c.toNat < 0x7F := by
  intro c hc
  rcases h c hc with rfl | rfl <;> decide

theorem ofResponse?_of_asksFor (now : Instant) {r : Response} {n : Nat} (h : r.AsksFor n) :
    RetryHint.ofResponse? now r =
      if n < 2 ^ 64 then some (.delay (.ofSeconds (min n (2 ^ 63 - 1)))) else none := by
  obtain ⟨before, ds, after, hvalue, hbefore, hafter, hds, rfl⟩ := h
  have hvisible : visibleText? (encode (before ++ (ds ++ after))) = some (before ++ (ds ++ after)) := by
    apply visibleText?_encode
    intro c hc
    simp only [List.mem_append] at hc
    rcases hc with hc | hc | hc
    · exact hbefore.isVisible c hc
    · have hbounds := bounds_of_isDigit (hds.2 c hc)
      exact .inr (by omega)
    · exact hafter.isVisible c hc
  have htrim : trimWhile isBlank (before ++ (ds ++ after)) = ds :=
    trimWhile_around hbefore.isBlank hafter.isBlank fun c hc => isBlank_of_isDigit (hds.2 c hc)
  rw [← RetryHint.ofText?_of_digits now hds]
  unfold RetryHint.ofResponse?
  simp only [hvalue, hvisible, htrim, Option.bind_eq_bind, Option.bind_some]

end Http

/-! ## 4. Answers of a server -/

namespace Answer

theorem header?_received (a : Answer) (name : String) :
    a.received.header? name = (a.response.header? name).map trimHeader := by
  unfold Http.Response.header? received
  rw [List.find?_map, Option.map_map, Option.map_map]
  rfl

theorem trimHeader_encode {before ds after : List Char} (hbefore : Http.IsPadding before)
    (hafter : Http.IsPadding after) (hds : ∀ c ∈ ds, c.isDigit = true) :
    trimHeader (encode (before ++ (ds ++ after))) = encode ds := by
  have hpadding {cs : List Char} (h : Http.IsPadding cs) :
      ∀ b ∈ encode cs, (b == 0x20 || b == 0x09) = true := by
    intro b hb
    obtain ⟨c, hc, hb⟩ := List.mem_flatMap.1 hb
    rcases h c hc with rfl | rfl <;> rw [List.mem_singleton.1 hb] <;> rfl
  have hdigits : ∀ b ∈ encode ds, (b == 0x20 || b == 0x09) = false := by
    intro b hb
    obtain ⟨c, hc, hb⟩ := List.mem_flatMap.1 hb
    have hbounds := bounds_of_isDigit (hds c hc)
    rw [utf8EncodeChar_of_ascii (by omega), List.mem_singleton] at hb
    have hbyte : b.toNat = c.toNat := hb ▸ toNat_ofNat (by omega)
    apply Bool.eq_false_iff.2
    intro hpad
    simp only [Bool.or_eq_true, beq_iff_eq] at hpad
    rcases hpad with rfl | rfl
    · have hspace : (0x20 : UInt8).toNat = 32 := rfl
      omega
    · have htab : (0x09 : UInt8).toNat = 9 := rfl
      omega
  rw [encode_append, encode_append]
  exact trimWhile_around (hpadding hbefore) (hpadding hafter) hdigits

end Answer

/-- A client finds the digits without what was around them. -/
theorem Http.Response.AsksFor.received {a : Answer} {n : Nat} (h : a.response.AsksFor n) :
    a.received.AsksFor n := by
  obtain ⟨before, ds, after, hvalue, hbefore, hafter, hds, hn⟩ := h
  have hnone : Http.IsPadding [] := fun _ hc => absurd hc List.not_mem_nil
  refine ⟨[], ds, [], ?_, hnone, hnone, hds, hn⟩
  rw [Answer.header?_received, hvalue, Option.map_some, Answer.trimHeader_encode hbefore hafter hds.2,
    List.nil_append, List.append_nil]

/-- The delays that servers ask for in digits.  One of fewer than 2⁶⁴ seconds is taken and cut to the greatest
that there is, so of two such delays the longer one is never taken for a shorter; but of a number beyond
that there is no hint. -/
theorem delay_saturates_or_is_lost {a : Answer} {n : Nat} (h : a.response.AsksFor n) (now : Instant) :
    Http.RetryHint.ofResponse? now a.response =
      (if n < 2 ^ 64 then some (.delay (.ofSeconds (min n (2 ^ 63 - 1)))) else none) ∧
    (a.metadata now).retryAfter = Http.RetryHint.ofResponse? now a.response ∧
    ∀ (r : Http.Response) (m : Nat), r.AsksFor m → n ≤ m → m < 2 ^ 64 → ∃ d d',
      Http.RetryHint.ofResponse? now a.response = some (.delay d) ∧
        Http.RetryHint.ofResponse? now r = some (.delay d') ∧ d.nanos ≤ d'.nanos := by
  have hhint := Http.ofResponse?_of_asksFor now h
  have hreceived := Http.ofResponse?_of_asksFor now h.received
  refine ⟨hhint, hreceived.trans hhint.symm, fun r m hm hle hfits => ?_⟩
  have hlonger := Http.ofResponse?_of_asksFor now hm
  rw [if_pos (by omega)] at hhint
  rw [if_pos hfits] at hlonger
  refine ⟨_, _, hhint, hlonger, ?_⟩
  simp only [Duration.ofSeconds, Duration.ofParts, Duration.perSecond]
  omega

def patientResponse : Http.Response :=
  ⟨429, [("retry-after", bytesOf "\t 9223372036854775808 "), ("retry-after", bytesOf "1")], []⟩

theorem delays_of_patient_response :
    patientResponse.AsksFor 9223372036854775808 ∧
      Http.RetryHint.ofResponse? ⟨0⟩ patientResponse =
        some (.delay (.ofSeconds 9223372036854775807)) := by
  have hasks : patientResponse.AsksFor 9223372036854775808 :=
    ⟨['\t', ' '], Nat.toDigits 10 9223372036854775808, [' '], by decide +kernel, by simp [Http.IsPadding],
      by simp [Http.IsPadding], isDecimal_toDigits _, Nat.ofDigitChars_ten_toDigits⟩
  exact ⟨hasks, (delay_saturates_or_is_lost (a := ⟨patientResponse, none⟩) hasks ⟨0⟩).1⟩

def endlessResponse : Http.Response :=
  ⟨429, [("retry-after", bytesOf "18446744073709551616")], []⟩

/-- So it is not so that every number of seconds is taken. -/
theorem endless_delay_is_dropped :
    ¬ ∀ (r : Http.Response) (n : Nat) (now : Instant), r.AsksFor n →
      Http.RetryHint.ofResponse? now r = some (.delay (.ofSeconds (min n (2 ^ 63 - 1)))) := by
  intro hall
  have hasks : endlessResponse.AsksFor (2 ^ 64) :=
    ⟨[], Nat.toDigits 10 (2 ^ 64), [], by decide +kernel, by simp [Http.IsPadding],
      by simp [Http.IsPadding], isDecimal_toDigits _, Nat.ofDigitChars_ten_toDigits⟩
  have hnone : Http.RetryHint.ofResponse? ⟨0⟩ endlessResponse = none := by
    rw [Http.ofResponse?_of_asksFor ⟨0⟩ hasks]
    rfl
  cases hnone.symm.trans (hall endlessResponse (2 ^ 64) ⟨0⟩ hasks)

end RegistryAuth
