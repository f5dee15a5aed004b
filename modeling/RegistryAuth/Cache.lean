import RegistryAuth.Observation
import RegistryAuth.Time.Basic
import RegistryAuth.Token.Access

/-!
# The token cache

A token is served until its entry's end, which is a fixed time after it was stored, whatever the token
itself says.  A look-up that finds an entry past its end takes it out; a sweep takes out all of them.
The instant of every operation is given to it.
-/

namespace RegistryAuth

/-- A cached token and the first instant at which it is not served. -/
structure CacheEntry where
  token : AccessToken
  notAfter : Instant
  deriving DecidableEq

/-- Whether the token is served at an instant. -/
def CacheEntry.isValidAt (e : CacheEntry) (now : Instant) : Bool :=
  now.before e.notAfter

/-- Tokens by key, each for the same time. -/
structure TokenCache where
  ttl : Duration
  entries : List (CacheKey × CacheEntry)
  ttl_nonneg : 0 ≤ ttl.nanos
  nodup_keys : (entries.map (·.1)).Nodup

namespace TokenCache

/-- The cache without tokens; a negative time counts as none. -/
def empty (ttl : Duration) : TokenCache :=
  ⟨ttl.clamped, [], Int.le_max_right .., .nil⟩

/-- The number of entries, those past their end included. -/
def size (c : TokenCache) : Nat :=
  c.entries.length

def find? (c : TokenCache) (key : CacheKey) : Option CacheEntry :=
  c.entries.lookup key

def filter (c : TokenCache) (p : CacheKey × CacheEntry → Bool) : TokenCache where
  ttl := c.ttl
  entries := c.entries.filter p
  ttl_nonneg := c.ttl_nonneg
  nodup_keys := c.nodup_keys.sublist ((List.filter_sublist ..).map _)

def erase (c : TokenCache) (key : CacheKey) : TokenCache :=
  c.filter (·.1 ≠ key)

def lookup (c : TokenCache) (now : Instant) (key : CacheKey) : Lookup :=
  match c.find? key with
  | some e => if e.isValidAt now then .hit else .expired
  | none => .miss

def served? (c : TokenCache) (now : Instant) (key : CacheKey) : Option AccessToken :=
  ((c.find? key).filter (·.isValidAt now)).map (·.token)

/-- Takes out the entry of a key if it is past its end. -/
def evict (c : TokenCache) (now : Instant) (key : CacheKey) : TokenCache :=
  match c.find? key with
  | some e => if e.isValidAt now then c else c.erase key
  | none => c

/-- Looks a key up: the token that is served, and what is left. -/
def get (c : TokenCache) (now : Instant) (key : CacheKey) : Option AccessToken × TokenCache :=
  (c.served? now key, c.evict now key)

theorem not_mem_erase (c : TokenCache) (key : CacheKey) :
    key ∉ (c.erase key).entries.map (·.1) := by
  simp [erase, filter]

/-- Stores a token from an instant on, until its time has run or instants end. -/
def insert (c : TokenCache) (now : Instant) (key : CacheKey) (token : AccessToken) : TokenCache where
  ttl := c.ttl
  entries := (key, ⟨token, now.addCapped c.ttl⟩) :: (c.erase key).entries
  ttl_nonneg := c.ttl_nonneg
  nodup_keys := List.nodup_cons.2 ⟨c.not_mem_erase key, (c.erase key).nodup_keys⟩

/-- Takes out all entries past their end: their number, and what is left. -/
def sweep (c : TokenCache) (now : Instant) : Nat × TokenCache :=
  let kept := c.filter (·.2.isValidAt now)
  (c.size - kept.size, kept)

def signals (c : TokenCache) (now : Instant) (key : CacheKey) : List Signal :=
  [.lookedUp key (c.lookup now key), .countedLookup (c.lookup now key)]

/-! ## What is found afterwards -/

variable (c : TokenCache) (now : Instant) (key other : CacheKey)

@[simp] theorem find?_empty (ttl : Duration) : (empty ttl).find? key = none := rfl

/-- A look-up counts as a hit just when it serves a token. -/
theorem lookup_eq_hit_iff : c.lookup now key = .hit ↔ (c.served? now key).isSome = true := by
  unfold lookup served?
  cases c.find? key with
  | none => simp
  | some e => cases hvalid : e.isValidAt now <;> simp [hvalid, Option.filter]

theorem lookup_filter_of_keys {entries : List (CacheKey × CacheEntry)}
    (p : CacheKey × CacheEntry → Bool) (h : (entries.map (·.1)).Nodup) :
    (entries.filter p).lookup key = (entries.lookup key).filter (p ⟨key, ·⟩) := by
  induction entries with
  | nil => rfl
  | cons entry rest ih =>
    obtain ⟨k, e⟩ := entry
    simp only [List.map_cons, List.nodup_cons] at h
    by_cases hk : key = k
    · subst hk
      -- The key does not come again, so a rejected entry leaves nothing.
      have hr : rest.lookup key = none := by
        refine List.lookup_eq_none_iff.2 fun entry hentry => ?_
        have : key ≠ entry.1 := fun hk => h.1 (hk ▸ List.mem_map_of_mem hentry)
        simpa using this
      cases hp : p (key, e) <;> simp [hp, ih h.2, hr, Option.filter]
    · have hb : (key == k) = false := by simpa using hk
      cases hp : p (k, e) <;> simp [List.lookup_cons, hp, hb, ih h.2]

theorem find?_filter (p : CacheKey × CacheEntry → Bool) :
    (c.filter p).find? key = (c.find? key).filter (p ⟨key, ·⟩) :=
  lookup_filter_of_keys key p c.nodup_keys

theorem find?_erase : (c.erase key).find? other = if other = key then none else c.find? other := by
  simp only [erase, find?_filter]
  split <;> cases c.find? other <;> simp_all

theorem find?_insert (token : AccessToken) :
    (c.insert now key token).find? other =
      if other = key then some ⟨token, now.addCapped c.ttl⟩ else c.find? other := by
  have h := c.find?_erase key other
  simp only [find?, insert, List.lookup_cons] at h ⊢
  by_cases hk : other = key
  · simp [hk]
  · have hb : (other == key) = false := by simpa using hk
    simp [hb, h, hk]

theorem find?_evict :
    (c.evict now key).find? other =
      if other = key then (c.find? other).filter (·.isValidAt now) else c.find? other := by
  unfold evict
  split
  · rename_i e h
    split
    · rename_i hv
      split
      · rename_i hk
        simp [hk, h, hv, Option.filter]
      · rfl
    · rename_i hv
      rw [find?_erase]
      split
      · rename_i hk
        simp [hk, h, hv, Option.filter]
      · rfl
  · rename_i h
    split
    · rename_i hk
      simp [hk, h]
    · rfl

theorem find?_sweep : (c.sweep now).2.find? key = (c.find? key).filter (·.isValidAt now) :=
  c.find?_filter key (·.2.isValidAt now)

end TokenCache

end RegistryAuth
