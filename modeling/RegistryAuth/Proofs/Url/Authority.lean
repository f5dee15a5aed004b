import Mathlib.Data.List.DropRight
import RegistryAuth.Proofs.Results
import RegistryAuth.Url.Parser

/-!
# Authorities and addresses

The steps in which an authority and an address are read, and what can be said of the texts of each.  An
address of a special scheme is read up to its first separator as an authority.  Text that holds no `@`
names no user, and text that holds neither `?` nor `#` makes neither query nor fragment.  What an authority
without a backslash is read from is `Authority.ReadFrom`: all of the text is host and port.
-/

namespace RegistryAuth

/-! ## 1. Trimming -/

namespace Text

variable {α : Type} (p : α → Bool) (xs : List α)

theorem trimEndWhile_prefix : trimEndWhile p xs <+: xs :=
  List.rdropWhile_prefix p xs

/-- What is left of a text begins with a character that is not trimmed. -/
theorem head?_trimWhile {c : α} (h : (trimWhile p xs).head? = some c) : p c = false := by
  obtain ⟨rest, hrest⟩ := trimEndWhile_prefix p (xs.dropWhile p)
  -- Trimming the end leaves the head alone, so it is the head of what was dropped to.
  have hhead : (xs.dropWhile p).head? = some c := by
    rw [← hrest, List.head?_append, show (trimEndWhile p (xs.dropWhile p)).head? = some c from h]
    rfl
  have hnot := List.head?_dropWhile_not p xs
  rw [hhead] at hnot
  simpa using hnot

theorem trimEndWhile_append_cons (xs ys : List α) {y : α} (hy : p y = false) :
    trimEndWhile p (xs ++ y :: ys) = xs ++ y :: trimEndWhile p ys := by
  have hcons (zs : List α) : (y :: zs).dropWhile p = y :: zs :=
    List.dropWhile_cons_of_neg (by simp [hy])
  have hreverse : (xs ++ y :: ys).reverse = ys.reverse ++ y :: xs.reverse := by simp
  unfold trimEndWhile
  rw [hreverse, List.dropWhile_append]
  split
  · rename_i hnil
    rw [hcons, List.isEmpty_iff.1 hnil]
    simp
  · simp

theorem exists_trimmed : ∃ gap, xs = trimEndWhile p xs ++ gap ∧ ∀ x ∈ gap, p x = true :=
  ⟨List.rtakeWhile p xs, List.rdropWhile_append_rtakeWhile.symm, fun _ hx => List.mem_rtakeWhile_imp hx⟩

/-- A text whose ends are not of a class is not trimmed. -/
theorem trimWhile_of_ends {x y : α} {xs : List α} (hx : p x = false) (hy : p y = false) :
    trimWhile p (x :: (xs ++ [y])) = x :: (xs ++ [y]) := by
  unfold trimWhile
  rw [List.dropWhile_cons_of_neg (by simp [hx]), ← List.cons_append, trimEndWhile_append_cons p _ [] hy]
  rfl

end Text

namespace Url

/-! ## 2. Cutting -/

theorem cut_of_forall {p : Char → Bool} {cs : List Char} (h : ∀ c ∈ cs, p c = false) :
    cut p cs = (cs, []) := by
  have hnot : ∀ c ∈ cs, (!p c) = true := fun c hc => by simp [h c hc]
  unfold cut
  rw [List.takeWhile_eq_self_iff.2 hnot, List.dropWhile_eq_nil_iff.2 hnot]

theorem forall_of_snd_cut {p : Char → Bool} {cs : List Char} (h : (cut p cs).2 = []) :
    ∀ c ∈ cs, p c = false := by
  intro c hc
  have hnot := List.dropWhile_eq_nil_iff.1 h c hc
  simpa using hnot

theorem cut_append {p : Char → Bool} {cs rest : List Char} {d : Char} (h : ∀ c ∈ cs, p c = false)
    (hd : p d = true) : cut p (cs ++ d :: rest) = (cs, d :: rest) := by
  have hnot : ∀ c ∈ cs, (!p c) = true := fun c hc => by simp [h c hc]
  unfold cut
  rw [List.takeWhile_append_of_pos hnot, List.dropWhile_append_of_pos hnot,
    List.takeWhile_cons_of_neg (by simp [hd]), List.dropWhile_cons_of_neg (by simp [hd]),
    List.append_nil]

theorem fst_cut (p : Char → Bool) (cs : List Char) : (cut p cs).1 = cs.takeWhile (!p ·) := rfl

theorem fst_append_snd_cut (p : Char → Bool) (cs : List Char) : (cut p cs).1 ++ (cut p cs).2 = cs :=
  List.takeWhile_append_dropWhile

/-- A scheme in small letters is read up to its colon. -/
theorem splitScheme?_append {scheme : List Char} (rest : List Char)
    (hletter : (scheme.head?.map Text.isLetter) = some true)
    (hall : scheme.all isSchemeChar = true) (hsmall : scheme.map Text.lowerAscii = scheme) :
    splitScheme? (scheme ++ ':' :: rest) = some (scheme, rest) := by
  obtain ⟨c, cs, rfl⟩ : ∃ c cs, scheme = c :: cs := by
    cases scheme with
    | nil => simp at hletter
    | cons c cs => exact ⟨c, cs, rfl⟩
  have hfirst : Text.isLetter c = true := by simpa using hletter
  have hchars := List.all_eq_true.1 hall
  have hcolon : ¬ isSchemeChar ':' = true := by decide
  unfold splitScheme?
  rw [List.takeWhile_append_of_pos hchars, List.dropWhile_append_of_pos hchars,
    List.takeWhile_cons_of_neg hcolon, List.dropWhile_cons_of_neg hcolon, List.append_nil, hsmall]
  show (if Text.isLetter c = true then _ else _) = _
  rw [if_pos hfirst]

/-! ## 3. Authorities -/

theorem splitAtLastAt_of_not_mem {cs : List Char} (h : '@' ∉ cs) : splitAtLastAt cs = (none, cs) := by
  have hdrop : cs.reverse.dropWhile (· != '@') = [] := by
    refine List.dropWhile_eq_nil_iff.2 fun c hc => ?_
    rw [List.mem_reverse] at hc
    exact bne_iff_ne.2 fun heq => h (heq ▸ hc)
  unfold splitAtLastAt
  rw [hdrop]

theorem splitAtLastAt_append {place : List Char} (h : '@' ∉ place) (user : List Char) :
    splitAtLastAt (user ++ '@' :: place) = (some user, place) := by
  have hnot : ∀ c ∈ place.reverse, (c != '@') = true := by
    intro c hc
    exact bne_iff_ne.2 fun heq => h (heq ▸ List.mem_reverse.1 hc)
  have hreverse : (user ++ '@' :: place).reverse = place.reverse ++ '@' :: user.reverse := by simp
  unfold splitAtLastAt
  rw [hreverse, List.dropWhile_append_of_pos hnot, List.takeWhile_append_of_pos hnot,
    List.dropWhile_cons_of_neg (by decide), List.takeWhile_cons_of_neg (by decide)]
  simp

theorem splitAtLastAt_concat {c : Char} (hc : c ≠ '@') (cs : List Char) :
    ∃ place, (splitAtLastAt (cs ++ [c])).2 = place ++ [c] := by
  have hnot : (c != '@') = true := bne_iff_ne.2 hc
  unfold splitAtLastAt
  rw [List.reverse_concat, List.dropWhile_cons_of_pos (p := (· != '@')) hnot,
    List.takeWhile_cons_of_pos (p := (· != '@')) hnot]
  split
  · exact ⟨_, List.reverse_cons⟩
  · exact ⟨cs, rfl⟩

theorem splitAtLastAt_suffix (cs : List Char) : (splitAtLastAt cs).2 <:+ cs := by
  unfold splitAtLastAt
  split
  · rw [← List.reverse_prefix, List.reverse_reverse]
    exact List.takeWhile_prefix _
  · exact List.suffix_refl cs

/-- The host of a text is its beginning, up to a colon. -/
theorem hostPart_append (cs : List Char) :
    ∃ rest, cs = hostPart cs ++ rest ∧ (rest = [] ∨ ∃ port, rest = ':' :: port) := by
  have hgo : ∀ bracketed, ∃ rest, cs = hostPart.go bracketed cs ++ rest ∧
      (rest = [] ∨ ∃ port, rest = ':' :: port) := by
    induction cs with
    | nil => exact fun _ => ⟨[], rfl, .inl rfl⟩
    | cons c cs ih =>
      intro bracketed
      unfold hostPart.go
      split
      · rename_i hc
        exact ⟨c :: cs, rfl, .inr ⟨cs, by rw [hc.1]⟩⟩
      · obtain ⟨rest, hrest, hport⟩ := ih (if c = '[' then true else if c = ']' then false else bracketed)
        exact ⟨rest, congrArg (c :: ·) hrest, hport⟩
  exact hgo false

/-- The number that decimal digits write. -/
def portNumber (digits : List Char) : Nat :=
  digits.foldl (fun n c => n * 10 + (c.toNat - 0x30)) 0

/-- Holding a number at a bound while its digits are read does not change which numbers exceed it. -/
theorem foldl_min (digits : List Char) (n : Nat) :
    digits.foldl (fun n c => min 65536 (n * 10 + (c.toNat - 0x30))) (min 65536 n) =
      min 65536 (digits.foldl (fun n c => n * 10 + (c.toNat - 0x30)) n) := by
  induction digits generalizing n with
  | nil => rfl
  | cons c digits ih =>
    have hstep : min 65536 (min 65536 n * 10 + (c.toNat - 0x30)) =
        min 65536 (n * 10 + (c.toNat - 0x30)) := by
      omega
    rw [List.foldl_cons, List.foldl_cons, hstep, ih]

/-- A port that is read is the number of its digits, which fits into two bytes. -/
theorem parsePort_eq_ok {digits : List Char} {port : Option Nat} (h : parsePort digits = .ok port) :
    digits.all Text.isDigit = true ∧ portNumber digits ≤ 65535 ∧
      port = if digits = [] then none else some (portNumber digits) := by
  have hvalue : digits.foldl (fun n c => min 65536 (n * 10 + (c.toNat - 0x30))) 0 =
      min 65536 (portNumber digits) :=
    foldl_min digits 0
  unfold parsePort at h
  simp only [hvalue] at h
  split at h
  · simp at h
  · rename_i hgood
    rw [not_or, Bool.not_eq_true, Bool.not_eq_false', Nat.not_lt] at hgood
    obtain ⟨hdigits, hle⟩ := hgood
    have hbound : portNumber digits ≤ 65535 := by omega
    refine ⟨hdigits, hbound, ?_⟩
    split at h
    · rename_i hnil
      rw [if_pos hnil]
      exact (Except.ok.inj h).symm
    · rename_i hne
      rw [if_neg hne, ← Except.ok.inj h]
      congr 1
      omega

/-- What the whole of a text is read as: a host, and a port if a colon and digits follow it, which is left
out where it is the one that the scheme has without saying so. -/
inductive Authority.ReadFrom (scheme : List Char) (a : Authority) : List Char → Prop
  | host {text : List Char} (hhost : Host.parse text = .ok a.host) (hport : a.port = none) :
    ReadFrom scheme a text
  | port {text digits : List Char} (hhost : Host.parse text = .ok a.host)
    (hdigits : digits.all Text.isDigit = true) (hle : portNumber digits ≤ 65535)
    (hport : a.port = if digits = [] ∨ defaultPort? scheme = some (portNumber digits) then none
      else some (portNumber digits)) : ReadFrom scheme a (text ++ ':' :: digits)

variable {scheme cs left : List Char} {ended : Bool} {a : Authority}

/-- The steps in which an authority is read: its user, and of what comes after it the host and the port. -/
theorem of_parseAuthority {special : Bool}
    (h : parseAuthority scheme special ended cs = .ok (a, left)) :
    ∃ user place port, splitAtLastAt cs = (user, place) ∧
      (if special then Host.parse else Host.parseOpaque) (hostPart place) = .ok a.host ∧
      parsePort (cut (· == '\\') ((place.drop (hostPart place).length).drop 1)).1 = .ok port ∧
      a = ⟨(splitUser (user.getD [])).1, (splitUser (user.getD [])).2, a.host,
        if port = defaultPort? scheme then none else port⟩ ∧
      left = (cut (· == '\\') ((place.drop (hostPart place).length).drop 1)).2 := by
  unfold parseAuthority at h
  simp only at h
  split at h
  · simp at h
  · split at h
    · simp at h
    · rename_i host hhost
      -- An empty host text is refused before it is read.
      have hparse : (if special then Host.parse else Host.parseOpaque) (hostPart (splitAtLastAt cs).2) =
          .ok host := by
        cases special with
        | false => exact hhost
        | true =>
          by_cases hnil : hostPart (splitAtLastAt cs).2 = []
          · simp [hnil] at hhost
          · simpa [hnil] using hhost
      split at h
      · simp at h
      · split at h
        · simp at h
        · rename_i port hport
          split at h
          · simp at h
          · cases h
            exact ⟨_, _, port, rfl, hparse, hport, rfl, rfl⟩

/-- The steps in which an authority without a user is read. -/
theorem parseAuthority_eq_ok (hat : '@' ∉ cs) (h : parseAuthority scheme true ended cs = .ok (a, left)) :
    ∃ port, Host.parse (hostPart cs) = .ok a.host ∧
      parsePort (cut (· == '\\') ((cs.drop (hostPart cs).length).drop 1)).1 = .ok port ∧
      a = ⟨[], none, a.host, if port = defaultPort? scheme then none else port⟩ ∧
      left = (cut (· == '\\') ((cs.drop (hostPart cs).length).drop 1)).2 := by
  obtain ⟨user, place, port, hsplit, hparse, hport, ha, hleft⟩ := of_parseAuthority h
  rw [splitAtLastAt_of_not_mem hat] at hsplit
  cases hsplit
  exact ⟨port, hparse, hport, ha, hleft⟩

/-- Without a user and a backslash all of an authority is host and port. -/
theorem readFrom_of_parseAuthority (hat : '@' ∉ cs) (hback : '\\' ∉ cs)
    (h : parseAuthority scheme true ended cs = .ok (a, left)) :
    a.ReadFrom scheme cs ∧ left = [] := by
  obtain ⟨port, hhost, hport, ha, hleft⟩ := parseAuthority_eq_ok hat h
  obtain ⟨rest, hrest, hcolon⟩ := hostPart_append cs
  have hdrop : cs.drop (hostPart cs).length = rest :=
    (congrArg (List.drop (hostPart cs).length) hrest).trans List.drop_left
  have hcut : cut (· == '\\') (rest.drop 1) = (rest.drop 1, []) := by
    refine cut_of_forall fun c hc => ?_
    refine beq_false_of_ne fun heq => hback ?_
    rw [hrest, ← heq]
    exact List.mem_append_right _ (List.mem_of_mem_drop hc)
  rw [hdrop, hcut] at hport hleft
  obtain ⟨hdigits, hle, hvalue⟩ := parsePort_eq_ok hport
  have hported : a.port = if port = defaultPort? scheme then none else port := congrArg Authority.port ha
  refine ⟨?_, hleft⟩
  rcases hcolon with rfl | ⟨digits, rfl⟩
  · rw [List.append_nil] at hrest
    refine .host (hrest ▸ hhost) ?_
    rw [hported, hvalue]
    simp
  · rw [hrest]
    refine .port hhost hdigits hle ?_
    -- The port is left out where nothing follows the colon, or what the scheme has anyway.
    rw [hported, hvalue]
    by_cases hnil : digits = []
    · simp [hnil]
    · simp [hnil, eq_comm]

/-! ## 4. Addresses -/

theorem withBack_of_nil (special : Bool) (scheme : List Char) (authority : Option Authority)
    (path : Path) : withBack special scheme authority path [] = ⟨scheme, authority, path, none, none⟩ :=
  rfl

/-- The steps in which an address is read after the slashes: its authority, its path and what is behind. -/
theorem of_parseAfterSlashes {kind : SchemeKind} {u : Url} (h : parseAfterSlashes scheme kind cs = .ok u) :
    ∃ a left, parseAuthority scheme kind.isSpecial (!(cut (endsAuthority kind.isSpecial) cs).2.isEmpty)
        (cut (endsAuthority kind.isSpecial) cs).1 = .ok (a, left) ∧
      u = withBack kind.isSpecial scheme (some a)
        (.segments (parsePath kind (cut endsPath (left ++ (cut (endsAuthority kind.isSpecial) cs).2)).1))
        (cut endsPath (left ++ (cut (endsAuthority kind.isSpecial) cs).2)).2 := by
  unfold parseAfterSlashes at h
  simp only at h
  split at h
  · simp at h
  · rename_i a left hauthority
    exact ⟨a, left, hauthority, (Except.ok.inj h).symm⟩

/-- Whether a host can be that of a file: none, or one that is read. -/
def Host.IsOfFile (host : Host) : Prop :=
  host = .domain [] ∨ ∃ text, Host.parse text = .ok host

/-- Drives, and the machine itself, take a name away. -/
theorem Host.IsOfFile.ite {host : Host} (h : host.IsOfFile) (p : Prop) [Decidable p] :
    (if p then .domain [] else host).IsOfFile := by
  by_cases hp : p
  · rw [if_pos hp]
    exact .inl rfl
  · rw [if_neg hp]
    exact h

/-- An address of a file names no user and no port. -/
theorem of_parseFile {u : Url} (h : parseFile cs = .ok u) :
    ∃ host, u.scheme = "file".toList ∧ u.authority = some ⟨[], none, host, none⟩ ∧ host.IsOfFile := by
  have hread {text : List Char} {host : Host}
      (h : (if text = [] then .ok (.domain []) else Host.parse text) = Except.ok host) :
      host.IsOfFile := by
    by_cases htext : text = []
    · rw [if_pos htext] at h
      exact .inl (Except.ok.inj h).symm
    · rw [if_neg htext] at h
      exact .inr ⟨text, h⟩
  unfold parseFile at h
  simp only at h
  split at h
  · split at h
    · simp at h
    · rename_i host hhost
      obtain rfl := Except.ok.inj h
      exact ⟨_, rfl, rfl, ((hread hhost).ite _).ite _⟩
  · obtain rfl := Except.ok.inj h
    exact ⟨.domain [], rfl, rfl, .inl rfl⟩

/-- An address that has no authority. -/
theorem of_parsePlain (scheme cs : List Char) :
    (parsePlain scheme cs).scheme = scheme ∧ (parsePlain scheme cs).authority = none := by
  unfold parsePlain
  simp only
  split
  · exact ⟨rfl, rfl⟩
  · exact ⟨rfl, rfl⟩

/-- How an address is read after its scheme, by the kind of the scheme. -/
inductive ReadAfter (scheme rest : List Char) (u : Url) : Prop
  | file (hkind : schemeKind scheme = .file) (h : parseFile rest = .ok u)
  | special (hkind : schemeKind scheme = .special)
    (h : parseAfterSlashes scheme .special (rest.dropWhile (isSeparator true)) = .ok u)
  | slashes {after : List Char} (hkind : schemeKind scheme = .other)
    (h : parseAfterSlashes scheme .other after = .ok u)
  | plain (hkind : schemeKind scheme = .other) (h : parsePlain scheme rest = u)

theorem of_parse {s : String} {u : Url} (h : parse s = .ok u) :
    ∃ scheme rest, splitScheme? (cleaned s.toList) = some (scheme, rest) ∧ ReadAfter scheme rest u := by
  unfold parse at h
  split at h
  · simp at h
  · rename_i scheme rest hsplit
    refine ⟨scheme, rest, hsplit, ?_⟩
    split at h
    · rename_i hkind
      exact .file hkind h
    · rename_i hkind
      exact .special hkind h
    · rename_i hkind
      split at h
      · exact .slashes hkind h
      · exact .plain hkind (Except.ok.inj h)

theorem ReadAfter.scheme_eq {rest : List Char} {u : Url} (h : ReadAfter scheme rest u) :
    u.scheme = scheme := by
  cases h with
  | file hkind h =>
    obtain ⟨-, hscheme, -⟩ := of_parseFile h
    unfold schemeKind at hkind
    split at hkind
    · rename_i hfile
      exact hscheme.trans hfile.symm
    · split at hkind
      · cases hkind
      · cases hkind
  | special hkind h =>
    obtain ⟨-, -, -, rfl⟩ := of_parseAfterSlashes h
    rfl
  | slashes hkind h =>
    obtain ⟨-, -, -, rfl⟩ := of_parseAfterSlashes h
    rfl
  | plain hkind h => exact h ▸ (of_parsePlain scheme rest).1

/-- An address of the web is read from the first character that separates nothing. -/
theorem of_parse_web {s : String} {u : Url} (hscheme : u.scheme = "http".toList ∨ u.scheme = "https".toList)
    (h : parse s = .ok u) :
    ∃ rest, splitScheme? (cleaned s.toList) = some (u.scheme, rest) ∧
      parseAfterSlashes u.scheme .special (rest.dropWhile (isSeparator true)) = .ok u := by
  obtain ⟨scheme, rest, hsplit, hread⟩ := of_parse h
  obtain rfl := hread.scheme_eq
  have hkind : schemeKind u.scheme = .special := by
    rcases hscheme with heq | heq
    · rw [heq]
      decide
    · rw [heq]
      decide
  refine ⟨rest, hsplit, ?_⟩
  cases hread with
  | special _ h => exact h
  | file hkind' h => cases hkind.symm.trans hkind'
  | slashes hkind' h => cases hkind.symm.trans hkind'
  | plain hkind' h => cases hkind.symm.trans hkind'

/-- An address of a special scheme in whose text nothing marks a user, a query or a fragment. -/
theorem parseAfterSlashes_eq_ok {u : Url} (hat : '@' ∉ cs) (hends : ∀ c ∈ cs, endsPath c = false)
    (h : parseAfterSlashes scheme .special cs = .ok u) :
    ∃ a left, parseAuthority scheme true (!(cut (endsAuthority true) cs).2.isEmpty)
        (cut (endsAuthority true) cs).1 = .ok (a, left) ∧
      a.username = [] ∧ a.password = none ∧
      u = ⟨scheme, some a,
        .segments (parsePath .special (left ++ (cut (endsAuthority true) cs).2)), none, none⟩ := by
  have hsplit := fst_append_snd_cut (endsAuthority true) cs
  have hat' : '@' ∉ (cut (endsAuthority true) cs).1 := by
    intro hmem
    rw [← hsplit] at hat
    exact hat (List.mem_append_left _ hmem)
  obtain ⟨a, left, hauthority, hurl⟩ := of_parseAfterSlashes h
  rw [show SchemeKind.special.isSpecial = true from rfl] at hauthority hurl
  obtain ⟨port, -, -, ha, hleft⟩ := parseAuthority_eq_ok hat' hauthority
  -- What an authority leaves is a part of its text, so no mark is in it either.
  have hmem : ∀ c ∈ left ++ (cut (endsAuthority true) cs).2, c ∈ cs := by
    intro c hc
    rw [← hsplit]
    rcases List.mem_append.1 hc with hc | hc
    · rw [hleft] at hc
      have hdrop := (List.dropWhile_suffix _).subset hc
      exact List.mem_append_left _ (List.mem_of_mem_drop (List.mem_of_mem_drop hdrop))
    · exact List.mem_append_right _ hc
  have hcut := cut_of_forall fun c hc => hends c (hmem c hc)
  rw [hcut, withBack_of_nil] at hurl
  refine ⟨a, left, hauthority, ?_, ?_, hurl⟩
  · rw [ha]
  · rw [ha]

/-! ## 5. Paths -/

/-- A path that segments are added to is not empty: a dotted segment at the end leaves an empty one. -/
theorem addSegments_ne_nil (file : Bool) (path : List (List Char)) (s : List Char)
    (rest : List (List Char)) : addSegments file path (s :: rest) ≠ [] := by
  induction rest generalizing path s with
  | nil =>
    unfold addSegments
    split
    · exact List.cons_ne_nil _ _
    · split
      · exact List.cons_ne_nil _ _
      · split
        · exact List.cons_ne_nil _ _
        · exact List.cons_ne_nil _ _
  | cons t rest ih =>
    unfold addSegments
    split
    · exact ih _ t
    · split
      · exact ih _ t
      · split
        · exact ih _ t
        · exact ih _ t

theorem splitSegments_ne_nil (special : Bool) (cs : List Char) : splitSegments special cs ≠ [] := by
  have hgo (parts : List (List Char)) (part cs : List Char) : Text.splitAt.go '/' parts part cs ≠ [] := by
    induction cs generalizing parts part with
    | nil => simp [Text.splitAt.go]
    | cons c cs ih =>
      rw [Text.splitAt.go]
      split
      · exact ih _ _
      · exact ih _ _
  exact hgo [] [] _

theorem readSegments_ne_nil (kind : SchemeKind) (cs : List Char) : readSegments kind cs ≠ [] := by
  have hparts : (splitSegments kind.isSpecial cs).map (percentEncode inPathSet) ≠ [] :=
    List.map_eq_nil_iff.not.2 (splitSegments_ne_nil kind.isSpecial cs)
  obtain ⟨s, rest, hcons⟩ := List.exists_cons_of_ne_nil hparts
  unfold readSegments
  simp only [hcons]
  exact List.reverse_eq_nil_iff.not.2 (addSegments_ne_nil _ _ s rest)

/-- The path of a special address begins with a slash, whatever is written behind its authority. -/
theorem text_parsePath_ne_nil (cs : List Char) : (Path.segments (parsePath .special cs)).text ≠ [] := by
  have hpath : parsePath .special cs ≠ [] := by
    cases cs with
    | nil => exact List.cons_ne_nil _ _
    | cons c rest => exact readSegments_ne_nil .special _
  obtain ⟨s, rest, hsegments⟩ := List.exists_cons_of_ne_nil hpath
  rw [hsegments]
  exact List.cons_ne_nil _ _

end Url

end RegistryAuth
