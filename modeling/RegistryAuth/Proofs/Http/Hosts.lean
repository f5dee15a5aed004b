import RegistryAuth.Http.Uri
import RegistryAuth.Proofs.Url.Hosts

/-!
# Hosts of requests

The host that the address of a request names is read off its authority: what is behind the last `@` and
before the port.  It is the host of the URL that the address was made from.
-/

namespace RegistryAuth

/-! ## 1. The parts of an authority -/

namespace Url

/-- What stands behind the host: nothing, or a colon and the port. -/
def IsPortText (cs : List Char) : Prop :=
  cs = [] ∨ ∃ n, cs = ':' :: Nat.toDigits 10 n

theorem IsPortText.not_mem {cs : List Char} (h : IsPortText cs) {c : Char} (hcolon : c ≠ ':')
    (hdigit : c.isDigit = false) : c ∉ cs := by
  rcases h with rfl | ⟨n, rfl⟩
  · exact List.not_mem_nil
  · intro hmem
    rcases List.mem_cons.1 hmem with heq | hmem
    · exact hcolon heq
    · rw [Nat.isDigit_of_mem_toDigits (by decide) (by decide) hmem] at hdigit
      cases hdigit

theorem Authority.exists_text_eq (a : Authority) :
    ∃ user port, a.text = user ++ (if user = [] then [] else ['@']) ++ a.host.text ++ port ∧
      IsPortText port := by
  unfold Authority.text
  cases a.port with
  | none => exact ⟨_, _, rfl, .inl rfl⟩
  | some n => exact ⟨_, _, rfl, .inr ⟨n, rfl⟩⟩

/-- The host and the port of an authority are behind the last `@`, or are all of it. -/
theorem Authority.IsPlain.snd_splitAtLastAt {a : Authority} (h : a.IsPlain) :
    ∃ port, (splitAtLastAt a.text).2 = a.host.text ++ port ∧ IsPortText port := by
  obtain ⟨user, port, htext, hport⟩ := a.exists_text_eq
  have hplace : '@' ∉ a.host.text ++ port := by
    rw [List.mem_append, not_or]
    exact ⟨h.host.not_mem_at, hport.not_mem (by decide) (by decide)⟩
  refine ⟨port, ?_, hport⟩
  rw [htext]
  by_cases huser : user = []
  · rw [if_pos huser, huser]
    simp [splitAtLastAt_of_not_mem hplace]
  · rw [if_neg huser, List.append_assoc, List.append_assoc, List.singleton_append,
      splitAtLastAt_append hplace]

end Url

/-! ## 2. Addresses of requests -/

namespace Http.Uri

open Url

/-- The host that stands in front of a port. -/
def hostOf (place : List Char) : List Char :=
  if place.head? = some '[' then place.takeWhile (· != ']') ++ [']'] else place.takeWhile (· != ':')

/-- The host of an address, without a user and a port. -/
def host (uri : Uri) : List Char :=
  hostOf (splitAtLastAt uri.authority).2

theorem hostOf_append {text port : List Char} (htext : IsHostText text) (hport : IsPortText port) :
    hostOf (text ++ port) = text := by
  unfold hostOf
  cases htext with
  | name h =>
    have hhead : (text ++ port).head? ≠ some '[' := by
      intro hhead
      rcases List.mem_append.1 (List.mem_of_head? hhead) with hmem | hmem
      · exact h '[' hmem (by decide)
      · exact hport.not_mem (by decide) (by decide) hmem
    have hcolon : ∀ c ∈ text, (c != ':') = true :=
      fun c hc => bne_iff_ne.2 fun heq => h c hc (heq ▸ by decide)
    rw [if_neg hhead, List.takeWhile_append_of_pos hcolon]
    rcases hport with rfl | ⟨n, rfl⟩
    · simp
    · simp
  | @brackets inner hat hclose =>
    have hnot : ∀ c ∈ '[' :: inner, (c != ']') = true := by
      intro c hc
      refine bne_iff_ne.2 fun heq => ?_
      rcases List.mem_cons.1 hc with rfl | hc
      · cases heq
      · exact hclose (heq ▸ hc)
    have happend : '[' :: (inner ++ [']']) ++ port = ('[' :: inner) ++ ']' :: port := by simp
    have hhead : ('[' :: inner ++ ']' :: port).head? = some '[' := rfl
    rw [happend, if_pos hhead, List.takeWhile_append_of_pos hnot, List.takeWhile_cons_of_neg (by decide)]
    simp

theorem host_eq {uri : Uri} {a : Authority} (ha : a.IsPlain) (huri : uri.authority = a.text) :
    uri.host = a.host.text := by
  obtain ⟨port, hplace, hport⟩ := ha.snd_splitAtLastAt
  unfold host
  rw [huri, hplace]
  exact hostOf_append ha.host hport

/-- The address of requests to a URL that has an authority: the parts of the URL, without the fragment. -/
theorem of_ofUrl {u : Url} {a : Authority} {uri : Uri} (ha : u.authority = some a)
    (h : ofUrl u = .ok uri) :
    uri = ⟨some u.scheme, a.text, if u.path.text = [] then ['/'] else u.path.text, u.query⟩ := by
  unfold ofUrl at h
  rw [ha] at h
  split at h
  · cases h
  · simp only [Bind.bind, Except.bind] at h
    split at h
    · cases h
    · split at h
      · cases h
      · split at h
        · cases h
        · exact (Except.ok.inj h).symm

/-- A request goes to the host of the URL that its address was made from. -/
theorem host_of_parse {s : String} {u : Url} {a : Authority} {uri : Uri} (hparse : Url.parse s = .ok u)
    (ha : u.authority = some a) (huri : uri.authority = a.text) : uri.host = a.host.text :=
  host_eq (isPlain_of_parse hparse ha) huri

end Http.Uri

end RegistryAuth
