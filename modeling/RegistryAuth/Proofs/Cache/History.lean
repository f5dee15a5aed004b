import Mathlib.Data.List.Dedup
import RegistryAuth.Cache

/-!
# A cache serves its history

Look-ups and sweeps take entries out of a cache, stores replace them and the calendar cuts their ends.
None of this is seen: a look-up serves a token just when the latest store under the key is of that token
and has not come to its end.
-/

namespace RegistryAuth

/-- Whether an instant is within the years that can be named. -/
def Instant.InCalendar (t : Instant) : Prop :=
  (Instant.ofSeconds Instant.leastSecond).nanos ≤ t.nanos ∧ t.nanos ≤ Instant.greatest.nanos

namespace TokenCache

/-! ## 1. Uses of a cache and their history -/

/-- What is done with a cache while its clock runs.  A copy of a cache has the entries, the time to live
and the clock of the cache, so what is done with the copy is done with the cache. -/
inductive Use where
  | insert (key : CacheKey) (token : AccessToken)
  | get (key : CacheKey)
  | sweep
  /-- So many nanoseconds pass. -/
  | wait (nanos : Nat)

/-- A cache and what its clock shows. -/
structure Timed where
  now : Instant
  cache : TokenCache

namespace Timed

/-- A cache that holds nothing yet. -/
def start (ttl : Duration) (now : Instant) : Timed :=
  ⟨now, empty ttl⟩

/-- What a use leaves behind. -/
def use (x : Timed) : Use → Timed
  | .insert key token => { x with cache := x.cache.insert x.now key token }
  | .get key => { x with cache := (x.cache.get x.now key).2 }
  | .sweep => { x with cache := (x.cache.sweep x.now).2 }
  | .wait nanos => { x with now := x.now.add ⟨nanos⟩ }

/-- What uses leave behind, one after the other. -/
def run (x : Timed) (us : List Use) : Timed :=
  us.foldl use x

end Timed

/-- The stores that were made, the latest first, and what the clock shows. -/
structure History where
  now : Instant
  stores : List (CacheKey × AccessToken × Instant)

/-- The first instant at which a token is not served that was stored at an instant. -/
def endOf (ttl : Duration) (stored : Instant) : Instant :=
  ⟨min (stored.nanos + max ttl.nanos 0) Instant.greatest.nanos⟩

namespace History

/-- The history before anything is stored. -/
def start (now : Instant) : History :=
  ⟨now, []⟩

/-- What a use adds to the history: only stores and the time count. -/
def use (h : History) : Use → History
  | .insert key token => { h with stores := (key, token, h.now) :: h.stores }
  | .get _ => h
  | .sweep => h
  | .wait nanos => { h with now := h.now.add ⟨nanos⟩ }

/-- What uses add to the history, one after the other. -/
def run (h : History) (us : List Use) : History :=
  us.foldl use h

/-- The keys under which something was stored. -/
def keys (h : History) : List CacheKey :=
  (h.stores.map (·.1)).dedup

/-- The latest store under a key: the token and the instant. -/
def latest? (h : History) (key : CacheKey) : Option (AccessToken × Instant) :=
  h.stores.lookup key

/-- Whether the latest store under a key has not come to its end. -/
def isLive (h : History) (ttl : Duration) (key : CacheKey) : Bool :=
  (h.latest? key).any fun stored => h.now.before (endOf ttl stored.2)

/-- The entry that the latest store under a key made. -/
def entry? (h : History) (ttl : Duration) (key : CacheKey) : Option CacheEntry :=
  (h.latest? key).map fun stored => ⟨stored.1, endOf ttl stored.2⟩

end History

/-! ## 2. The cache follows its history -/

theorem ttl_evict (c : TokenCache) (now : Instant) (key : CacheKey) :
    (c.evict now key).ttl = c.ttl := by
  unfold evict
  split
  · split <;> rfl
  · rfl

theorem find?_of_evict {c : TokenCache} {now : Instant} {key other : CacheKey} {e : CacheEntry}
    (h : (c.evict now key).find? other = some e) : c.find? other = some e := by
  rw [c.find?_evict now key other] at h
  split at h
  · exact (Option.filter_eq_some_iff.1 h).1
  · exact h

/-- A cache holds the entry of the latest store under a key, or has lost it after its end. -/
structure Timed.Follows (ttl : Duration) (x : Timed) (h : History) : Prop where
  now_eq : x.now = h.now
  ttl_eq : x.cache.ttl = ttl.clamped
  entry : ∀ key, x.cache.find? key = h.entry? ttl key ∨
    x.cache.find? key = none ∧ h.isLive ttl key = false

namespace Timed.Follows

variable {ttl : Duration} {x : Timed} {h : History}

theorem addCapped_clamped (t : Instant) : t.addCapped ttl.clamped = endOf ttl t := rfl

theorem filter_entry? (key : CacheKey) :
    (h.entry? ttl key).filter (·.isValidAt h.now) =
      if h.isLive ttl key then h.entry? ttl key else none := by
  unfold History.entry? History.isLive
  cases h.latest? key with
  | none => rfl
  | some stored =>
    rw [Option.map_some, Option.any_some]
    rfl

/-- Nothing that a cache has lost is live, so one that is to be kept only while it is live is there. -/
theorem filter_find? (hf : x.Follows ttl h) (key : CacheKey) :
    (x.cache.find? key).filter (·.isValidAt x.now) =
      if h.isLive ttl key then h.entry? ttl key else none := by
  rw [hf.now_eq]
  -- An entry that is gone had come to its end, so the filter drops it from the history as well.
  rcases hf.entry key with he | ⟨hn, hd⟩
  · rw [he, filter_entry?]
  · rw [hn, hd]
    rfl

theorem of_filtered {c : TokenCache} (hf : x.Follows ttl h) (httl : c.ttl = x.cache.ttl)
    (hc : ∀ key, c.find? key = x.cache.find? key ∨
      c.find? key = (x.cache.find? key).filter (·.isValidAt x.now)) :
    Timed.Follows ttl { x with cache := c } h where
  now_eq := hf.now_eq
  ttl_eq := httl.trans hf.ttl_eq
  entry key := by
    show c.find? key = _ ∨ c.find? key = none ∧ _
    rcases hc key with hk | hk
    · rw [hk]
      exact hf.entry key
    · rw [hk, hf.filter_find? key]
      cases hl : h.isLive ttl key with
      | true => exact .inl rfl
      | false => exact .inr ⟨rfl, rfl⟩

theorem insert (hf : x.Follows ttl h) (key : CacheKey) (token : AccessToken) :
    (x.use (.insert key token)).Follows ttl (h.use (.insert key token)) where
  now_eq := hf.now_eq
  ttl_eq := hf.ttl_eq
  entry other := by
    have hfind : (x.use (.insert key token)).cache.find? other =
        if other = key then some ⟨token, x.now.addCapped x.cache.ttl⟩ else x.cache.find? other :=
      x.cache.find?_insert x.now key other token
    have hlatest : (h.use (.insert key token)).latest? other =
        if other = key then some (token, h.now) else h.latest? other := by
      by_cases hk : other = key
      · rw [hk, if_pos rfl]
        exact List.lookup_cons_self
      · have hb : (other == key) = false := beq_false_of_ne hk
        rw [if_neg hk]
        show List.lookup other ((key, token, h.now) :: h.stores) = h.stores.lookup other
        rw [List.lookup_cons, hb]
    have hnow : (h.use (.insert key token)).now = h.now := rfl
    rw [hfind]
    simp only [History.entry?, History.isLive, hlatest, hnow]
    by_cases hk : other = key
    · rw [if_pos hk, if_pos hk, hf.now_eq, hf.ttl_eq, addCapped_clamped]
      exact .inl rfl
    · rw [if_neg hk, if_neg hk]
      exact hf.entry other

theorem wait (hf : x.Follows ttl h) (nanos : Nat) :
    (x.use (.wait nanos)).Follows ttl (h.use (.wait nanos)) where
  now_eq := congrArg (·.add ⟨nanos⟩) hf.now_eq
  ttl_eq := hf.ttl_eq
  entry key := by
    rcases hf.entry key with he | ⟨hn, hd⟩
    · exact .inl he
    · refine .inr ⟨hn, ?_⟩
      -- Time only moves on, so what has come to its end stays there.
      simp only [History.isLive, History.use, History.latest?, Option.any_eq_false] at hd ⊢
      intro stored hs
      have hbefore : ¬ h.now.nanos < (endOf ttl stored.2).nanos := of_decide_eq_false (hd stored hs)
      exact decide_eq_false (show ¬ h.now.nanos + nanos < (endOf ttl stored.2).nanos by omega)

/-- A use keeps a cache with its history. -/
theorem use (hf : x.Follows ttl h) (u : Use) : (x.use u).Follows ttl (h.use u) := by
  cases u with
  | insert key token => exact hf.insert key token
  | get key =>
    refine hf.of_filtered ?_ fun other => ?_
    · exact x.cache.ttl_evict x.now key
    · have hfind := x.cache.find?_evict x.now key other
      by_cases hk : other = key
      · exact .inr (hfind.trans (if_pos hk))
      · exact .inl (hfind.trans (if_neg hk))
  | sweep => exact hf.of_filtered rfl fun other => .inr (x.cache.find?_sweep x.now other)
  | wait nanos => exact hf.wait nanos

theorem start (ttl : Duration) (now : Instant) :
    (Timed.start ttl now).Follows ttl (History.start now) :=
  ⟨rfl, rfl, fun _ => .inl rfl⟩

theorem run (hf : x.Follows ttl h) (us : List Use) : (x.run us).Follows ttl (h.run us) := by
  -- By induction on the uses; cache and history move on together.
  induction us generalizing x h with
  | nil => exact hf
  | cons u us ih => exact ih (hf.use u)

end Timed.Follows

/-! ## 3. What is seen of a cache -/

variable {ttl : Duration} {x : Timed} {h : History}

theorem Timed.Follows.served?_eq (hf : x.Follows ttl h) (key : CacheKey) :
    x.cache.served? x.now key =
      if h.isLive ttl key then (h.latest? key).map (·.1) else none := by
  unfold served?
  rw [hf.filter_find? key]
  cases h.isLive ttl key with
  | false => rfl
  | true =>
    unfold History.entry?
    cases h.latest? key <;> rfl

theorem Timed.Follows.served?_eq_some_iff (hf : x.Follows ttl h) (key : CacheKey)
    (token : AccessToken) :
    x.cache.served? x.now key = some token ↔
      ∃ stored, h.latest? key = some (token, stored) ∧ h.now.nanos < (endOf ttl stored).nanos := by
  rw [hf.served?_eq key]
  constructor
  · intro hs
    cases hl : h.isLive ttl key with
    | false => simp [hl] at hs
    | true =>
      rw [hl, if_pos rfl, Option.map_eq_some_iff] at hs
      obtain ⟨⟨token', stored⟩, hlatest, rfl⟩ := hs
      refine ⟨stored, hlatest, ?_⟩
      unfold History.isLive at hl
      rw [hlatest, Option.any_some] at hl
      exact of_decide_eq_true hl
  · rintro ⟨stored, hlatest, hlt⟩
    have hl : h.isLive ttl key = true := by
      unfold History.isLive
      rw [hlatest, Option.any_some]
      exact decide_eq_true hlt
    rw [hl, if_pos rfl, hlatest]
    rfl

/-- A sweep counts what it takes out. -/
theorem sweep_fst (c : TokenCache) (now : Instant) :
    (c.sweep now).1 = c.entries.countP fun entry => !entry.2.isValidAt now := by
  show c.entries.length - (c.entries.filter (·.2.isValidAt now)).length = _
  -- What is left and what is taken out make up all entries.
  have hlen := List.length_eq_countP_add_countP (l := c.entries) fun entry => entry.2.isValidAt now
  have hnot : c.entries.countP (fun entry => decide ¬ entry.2.isValidAt now = true) =
      c.entries.countP fun entry => !entry.2.isValidAt now := by
    simp
  rw [← List.countP_eq_length_filter]
  omega

theorem mem_keys_iff (c : TokenCache) (key : CacheKey) :
    key ∈ c.entries.map (·.1) ↔ (c.find? key).isSome := by
  rw [find?, List.lookup_isSome_iff, List.mem_map]
  constructor
  · rintro ⟨entry, hentry, rfl⟩
    exact ⟨entry, hentry, beq_self_eq_true _⟩
  · rintro ⟨entry, hentry, hk⟩
    exact ⟨entry, hentry, (eq_of_beq hk).symm⟩

/-- What a sweep leaves are the keys whose latest store is live. -/
theorem Timed.Follows.size_sweep (hf : x.Follows ttl h) :
    (x.cache.sweep x.now).2.size = h.keys.countP (h.isLive ttl ·) := by
  -- Both sides list live keys without repetition, so it is enough that they have the same ones.
  have hmem : ∀ key, key ∈ (x.cache.sweep x.now).2.entries.map (·.1) ↔
      key ∈ h.keys.filter (h.isLive ttl ·) := by
    intro key
    rw [mem_keys_iff, find?_sweep, hf.filter_find? key, List.mem_filter]
    cases hl : h.isLive ttl key with
    | false => simp
    | true =>
      have hsome : (h.latest? key).isSome = true := by
        unfold History.isLive at hl
        cases hk : h.latest? key with
        | none => simp [hk] at hl
        | some stored => rfl
      have hkey : key ∈ h.keys := by
        obtain ⟨stored, hk⟩ := Option.isSome_iff_exists.1 hsome
        obtain ⟨later, earlier, hs, -⟩ := List.lookup_eq_some_iff.1 hk
        have hm : (key, stored) ∈ h.stores := by rw [hs]; simp
        exact List.mem_dedup.2 (List.mem_map_of_mem hm)
      simp [History.entry?, hsome, hkey]
  have hperm : ((x.cache.sweep x.now).2.entries.map (·.1)).Perm
      (h.keys.filter (h.isLive ttl ·)) :=
    (List.perm_ext_iff_of_nodup (x.cache.sweep x.now).2.nodup_keys
      ((List.nodup_dedup _).filter _)).2 hmem
  rw [List.countP_eq_length_filter, ← hperm.length_eq, List.length_map]
  rfl

/-! ## 4. Ends stay within the calendar -/

/-- All instants that a cache and its clock hold can be named, later readings of the clock apart. -/
structure Timed.Nameable (x : Timed) : Prop where
  least_le_now : (Instant.ofSeconds Instant.leastSecond).nanos ≤ x.now.nanos
  entries : ∀ entry ∈ x.cache.entries, entry.2.notAfter.InCalendar

theorem subset_entries_evict (c : TokenCache) (now : Instant) (key : CacheKey) :
    (c.evict now key).entries ⊆ c.entries := by
  unfold evict
  split
  · split
    · exact fun _ hentry => hentry
    · exact fun _ hentry => List.mem_of_mem_filter hentry
  · exact fun _ hentry => hentry

theorem inCalendar_addCapped {now : Instant} {d : Duration} (hd : 0 ≤ d.nanos)
    (hnow : (Instant.ofSeconds Instant.leastSecond).nanos ≤ now.nanos) :
    (now.addCapped d).InCalendar := by
  -- An end is cut at the last instant, and no entry ends before it was made.
  have hcalendar : (Instant.ofSeconds Instant.leastSecond).nanos ≤ Instant.greatest.nanos := by decide
  constructor
  · exact Int.le_min.2 ⟨by omega, hcalendar⟩
  · exact Int.min_le_right _ _

theorem Timed.Nameable.use (hx : x.Nameable) (u : Use) : (x.use u).Nameable := by
  cases u with
  | insert key token =>
    refine ⟨hx.least_le_now, fun entry hentry => ?_⟩
    rcases List.mem_cons.1 hentry with rfl | hold
    · exact inCalendar_addCapped x.cache.ttl_nonneg hx.least_le_now
    · exact hx.entries entry (List.mem_of_mem_filter hold)
  | get key =>
    exact ⟨hx.least_le_now, fun entry hentry =>
      hx.entries entry (subset_entries_evict _ _ _ hentry)⟩
  | sweep =>
    exact ⟨hx.least_le_now, fun entry hentry => hx.entries entry (List.mem_of_mem_filter hentry)⟩
  | wait nanos =>
    have hle := hx.least_le_now
    exact ⟨show _ ≤ x.now.nanos + nanos by omega, hx.entries⟩

theorem Timed.Nameable.run (hx : x.Nameable) (us : List Use) : (x.run us).Nameable := by
  induction us generalizing x with
  | nil => exact hx
  | cons u us ih => exact ih (hx.use u)

/-- What is seen of a cache after any uses is told by its history alone: which tokens it serves, how many
entries a sweep takes out and how many it leaves; and no end that it computes leaves the calendar. -/
theorem run_seen_as_history (ttl : Duration) (start : Instant) (us : List Use) :
    let x := (Timed.start ttl start).run us
    let h := (History.start start).run us
    (∀ key token, (x.cache.get x.now key).1 = some token ↔
      ∃ stored, h.latest? key = some (token, stored) ∧
        h.now.nanos < min (stored.nanos + max ttl.nanos 0) Instant.greatest.nanos) ∧
    (x.cache.sweep x.now).1 = x.cache.entries.countP (fun entry => !entry.2.isValidAt x.now) ∧
    (x.cache.sweep x.now).2.size = h.keys.countP (h.isLive ttl ·) ∧
    (start.InCalendar → ∀ entry ∈ x.cache.entries, entry.2.notAfter.InCalendar) := by
  intro x h
  have hf : x.Follows ttl h := (Timed.Follows.start ttl start).run us
  refine ⟨hf.served?_eq_some_iff, sweep_fst x.cache x.now, hf.size_sweep, fun hstart => ?_⟩
  have hfresh : (Timed.start ttl start).Nameable :=
    ⟨hstart.1, fun entry hentry => absurd hentry (List.not_mem_nil)⟩
  exact (hfresh.run us).entries

end TokenCache

end RegistryAuth
