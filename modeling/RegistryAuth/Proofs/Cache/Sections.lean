import Mathlib.Data.List.Induction
import RegistryAuth.Proofs.Cache.History

/-!
# Callers that share a cache

A cache is locked for one section of an operation at a time.  A look-up reads the clock, then looks into
the cache, and comes back for an entry that it found past its end; what others have stored by then is
looked at once more, by the instant that was read at first.  A store and a sweep read the clock, and lock
the cache after that.  However the sections of any number of callers come between each other, no token is
lost that could still be served.
-/

namespace RegistryAuth.TokenCache

/-! ## 1. Sections -/

/-- An operation on a shared cache, by the section that comes next. -/
inductive Task where
  -- A look-up.
  | getting (key : CacheKey)
  | looking (key : CacheKey) (now : Instant)
  | evicting (key : CacheKey) (now : Instant)
  | answered (key : CacheKey) (now : Instant) (token : Option AccessToken)
  -- A store.
  | inserting (key : CacheKey) (token : AccessToken)
  | storing (key : CacheKey) (token : AccessToken) (now : Instant)
  | inserted
  -- A sweep.
  | sweeping
  | retaining (now : Instant)
  | swept (dropped : Nat)
  deriving DecidableEq

namespace Task

/-- What a look-up is after it has looked.  The lock is given back even if an entry past its end was found,
and the entry may be another one when the lock is taken again. -/
def looked (c : TokenCache) (key : CacheKey) (now : Instant) : Task :=
  match c.lookup now key with
  | .hit => .answered key now (c.served? now key)
  | .expired => .evicting key now
  | .miss => .answered key now none

/-- What the next section makes of a task and of the cache, by what the clock shows. -/
def next (clock : Instant) (c : TokenCache) : Task → Task × TokenCache
  | .getting key => (.looking key clock, c)
  | .looking key now => (looked c key now, c)
  | .evicting key now => (.answered key now none, c.evict now key)
  | .inserting key token => (.storing key token clock, c)
  | .storing key token now => (.inserted, c.insert now key token)
  | .sweeping => (.retaining clock, c)
  | .retaining now => (.swept (c.sweep now).1, (c.sweep now).2)
  | .answered key now token => (.answered key now token, c)
  | .inserted => (.inserted, c)
  | .swept dropped => (.swept dropped, c)

/-- What so many sections make of a task when nothing comes between them. -/
def alone (clock : Instant) : Nat → TokenCache → Task → Task × TokenCache
  | 0, c, t => (t, c)
  | n + 1, c, t => alone clock n (t.next clock c).2 (t.next clock c).1

/-- The instant that a task has read off the clock. -/
def read? : Task → Option Instant
  | .looking _ now | .evicting _ now | .storing _ _ now | .retaining now | .answered _ now _ => some now
  | .getting _ | .inserting .. | .sweeping | .inserted | .swept _ => none

variable (clock : Instant) (c : TokenCache) (key : CacheKey)

/-! An operation whose sections follow each other is the operation on a cache of one's own. -/

theorem alone_getting : alone clock 3 c (.getting key) =
    (.answered key clock (c.get clock key).1, (c.get clock key).2) := by
  show alone clock 1 ((Task.looking key clock).next clock c).2 ((Task.looking key clock).next clock c).1 =
    (.answered key clock (c.served? clock key), c.evict clock key)
  -- Only an entry past its end makes the caller come back, and only such an entry is evicted.
  cases hfind : c.find? key with
  | none =>
    have hlookup : c.lookup clock key = .miss := by simp [lookup, hfind]
    have hserved : c.served? clock key = none := by simp [served?, hfind]
    have hevict : c.evict clock key = c := by simp [evict, hfind]
    simp only [next, looked, hlookup, hserved, hevict, alone]
  | some e =>
    cases hvalid : e.isValidAt clock with
    | true =>
      have hlookup : c.lookup clock key = .hit := by simp [lookup, hfind, hvalid]
      have hevict : c.evict clock key = c := by simp [evict, hfind, hvalid]
      simp only [next, looked, hlookup, hevict, alone]
    | false =>
      have hlookup : c.lookup clock key = .expired := by simp [lookup, hfind, hvalid]
      have hserved : c.served? clock key = none := by simp [served?, hfind, hvalid, Option.filter]
      simp only [next, looked, hlookup, hserved, alone]

theorem alone_inserting (token : AccessToken) :
    alone clock 2 c (.inserting key token) = (.inserted, c.insert clock key token) := rfl

theorem alone_sweeping :
    alone clock 2 c .sweeping = (.swept (c.sweep clock).1, (c.sweep clock).2) := rfl

/-! ## 2. What a section does -/

variable {clock c key} {e : CacheEntry} {now : Instant}

/-- A section takes an entry away by a store under its key, or by an instant at which the entry has come
to its end. -/
theorem find?_next (clock : Instant) (t : Task) (h : c.find? key = some e) :
    (t.next clock c).2.find? key = some e ∨
      (∃ token now, t = .storing key token now ∧
        (t.next clock c).2.find? key = some ⟨token, now.addCapped c.ttl⟩) ∨
      ∃ now, t.read? = some now ∧ e.notAfter.nanos ≤ now.nanos := by
  -- What is dropped by an instant is past its end there.
  have dropped {now : Instant} (hvalid : e.isValidAt now ≠ true) : e.notAfter.nanos ≤ now.nanos := by
    have hle : ¬ now.nanos < e.notAfter.nanos := fun hlt => hvalid (decide_eq_true hlt)
    omega
  cases t with
  | evicting other now =>
    by_cases hvalid : e.isValidAt now = true
    · refine .inl ?_
      show (c.evict now other).find? key = some e
      rw [find?_evict, h]
      simp [Option.filter, hvalid]
    · exact .inr (.inr ⟨now, rfl, dropped hvalid⟩)
  | storing other token now =>
    have hfind := c.find?_insert now other key token
    by_cases hk : key = other
    · subst hk
      exact .inr (.inl ⟨token, now, rfl, hfind.trans (if_pos rfl)⟩)
    · exact .inl ((hfind.trans (if_neg hk)).trans h)
  | retaining now =>
    by_cases hvalid : e.isValidAt now = true
    · refine .inl ?_
      show (c.sweep now).2.find? key = some e
      rw [find?_sweep, h]
      simp [Option.filter, hvalid]
    · exact .inr (.inr ⟨now, rfl, dropped hvalid⟩)
  | getting _ | looking _ _ | answered _ _ _ | inserting _ _ | inserted | sweeping | swept _ => exact .inl h

theorem read?_looked (c : TokenCache) (key : CacheKey) (now : Instant) :
    (looked c key now).read? = some now := by
  unfold looked
  cases c.lookup now key <;> rfl

theorem looked_ne_looking {other : CacheKey} {read : Instant} :
    looked c other read ≠ .looking key now := by
  unfold looked
  cases c.lookup read other <;> exact Task.noConfusion

theorem looked_eq_answered {other : CacheKey} {read : Instant} {token : AccessToken}
    (h : looked c other read = .answered key now (some token)) :
    other = key ∧ read = now ∧ c.served? read other = some token := by
  unfold looked at h
  cases hlookup : c.lookup read other with
  | hit =>
    rw [hlookup] at h
    exact Task.answered.inj h
  | expired =>
    rw [hlookup] at h
    cases h
  | miss =>
    rw [hlookup] at h
    cases h

variable {t : Task}

/-- The instant of a task was read just now, or was its instant before. -/
theorem read?_next (h : (t.next clock c).1.read? = some now) : now = clock ∨ t.read? = some now := by
  cases t with
  | getting _ | inserting _ _ | sweeping => exact .inl (Option.some.inj h).symm
  | looking other read => exact .inr ((read?_looked c other read).symm.trans h)
  | evicting _ _ | answered _ _ _ => exact .inr h
  | storing _ _ _ | inserted | retaining _ | swept _ => cases h

/-- Only a look-up that begins reads the instant by which it looks. -/
theorem next_eq_looking (h : (t.next clock c).1 = .looking key now) :
    t = .getting key ∧ clock = now := by
  cases t with
  | getting other =>
    cases h
    exact ⟨rfl, rfl⟩
  | looking other read => exact absurd h looked_ne_looking
  | evicting _ _ | answered _ _ _ | inserting _ _ | storing _ _ _ | inserted | sweeping | retaining _
  | swept _ => cases h

/-- A token is the answer of a look-up that found it in an entry before its end, or was the answer. -/
theorem next_eq_answered {token : AccessToken}
    (h : (t.next clock c).1 = .answered key now (some token)) :
    t = .answered key now (some token) ∨
      t = .looking key now ∧ ∃ e, c.find? key = some e ∧ e.token = token ∧
        now.nanos < e.notAfter.nanos := by
  cases t with
  | looking other read =>
    obtain ⟨rfl, rfl, hserved⟩ := looked_eq_answered h
    obtain ⟨e, hfiltered, rfl⟩ := Option.map_eq_some_iff.1 hserved
    obtain ⟨hfind, hvalid⟩ := Option.filter_eq_some_iff.1 hfiltered
    exact .inr ⟨rfl, e, hfind, rfl, of_decide_eq_true hvalid⟩
  | answered other read answer => exact .inl h
  | getting _ | evicting _ _ | inserting _ _ | storing _ _ _ | inserted | sweeping | retaining _
  | swept _ => cases h

end Task

/-! ## 3. Callers -/

/-- A cache, what its clock shows, and the operations that were begun. -/
structure Shared where
  now : Instant
  cache : TokenCache
  tasks : List Task

/-- What may happen next. -/
inductive Happening where
  /-- So many nanoseconds pass. -/
  | wait (nanos : Nat)
  | beginGet (key : CacheKey)
  | beginInsert (key : CacheKey) (token : AccessToken)
  | beginSweep
  /-- The operation of a number goes through its next section. -/
  | go (i : Nat)

namespace Shared

/-- A cache that nobody uses yet. -/
def ofCache (c : TokenCache) (now : Instant) : Shared :=
  ⟨now, c, []⟩

/-- What a happening leads to. -/
def step (x : Shared) : Happening → Shared
  | .wait nanos => { x with now := x.now.add ⟨nanos⟩ }
  | .beginGet key => { x with tasks := x.tasks ++ [.getting key] }
  | .beginInsert key token => { x with tasks := x.tasks ++ [.inserting key token] }
  | .beginSweep => { x with tasks := x.tasks ++ [.sweeping] }
  | .go i =>
    match x.tasks[i]? with
    | some t =>
      { x with cache := (t.next x.now x.cache).2, tasks := x.tasks.set i (t.next x.now x.cache).1 }
    | none => x

/-- What happenings lead to, one after the other. -/
def run (x : Shared) (hs : List Happening) : Shared :=
  hs.foldl step x

/-- Whether a happening is the section of a store under a key, and what is then held. -/
def Stores (x : Shared) (h : Happening) (key : CacheKey) : Prop :=
  ∃ i token now, h = .go i ∧ x.tasks[i]? = some (.storing key token now) ∧
    (x.step h).cache.find? key = some ⟨token, now.addCapped x.cache.ttl⟩

theorem step_go_of_some {x : Shared} {i : Nat} {t : Task} (h : x.tasks[i]? = some t) :
    x.step (.go i) = { x with
      cache := (t.next x.now x.cache).2
      tasks := x.tasks.set i (t.next x.now x.cache).1 } := by
  simp only [step, h]

theorem step_go_of_none {x : Shared} {i : Nat} (h : x.tasks[i]? = none) : x.step (.go i) = x := by
  simp only [step, h]

theorem run_append (x : Shared) (hs hs' : List Happening) : x.run (hs ++ hs') = (x.run hs).run hs' :=
  List.foldl_append

theorem run_concat (x : Shared) (hs : List Happening) (h : Happening) :
    x.run (hs ++ [h]) = (x.run hs).step h :=
  x.run_append hs [h]

theorem now_le_step (x : Shared) (h : Happening) : x.now.nanos ≤ (x.step h).now.nanos := by
  cases h with
  | wait nanos => exact show x.now.nanos ≤ x.now.nanos + nanos by omega
  | beginGet _ | beginInsert _ _ | beginSweep => exact Int.le_refl _
  | go i =>
    cases htask : x.tasks[i]? with
    | none => exact Int.le_of_eq (congrArg (·.now.nanos) (step_go_of_none htask)).symm
    | some t => exact Int.le_of_eq (congrArg (·.now.nanos) (step_go_of_some htask)).symm

theorem now_le_run (x : Shared) (hs : List Happening) : x.now.nanos ≤ (x.run hs).now.nanos := by
  induction hs generalizing x with
  | nil => exact Int.le_refl _
  | cons h hs ih => exact Int.le_trans (x.now_le_step h) (ih (x.step h))

/-- A task is begun, was there before or comes of its section. -/
theorem tasks_step {x : Shared} {h : Happening} {i : Nat} {t : Task}
    (ht : (x.step h).tasks[i]? = some t) :
    t.read? = none ∨ x.tasks[i]? = some t ∨
      ∃ t', h = .go i ∧ x.tasks[i]? = some t' ∧ (t'.next x.now x.cache).1 = t := by
  -- A task that is begun comes last.
  have begun {t₀ : Task} (hread : t₀.read? = none) (ht : (x.tasks ++ [t₀])[i]? = some t) :
      t.read? = none ∨ x.tasks[i]? = some t := by
    rcases Nat.lt_or_ge i x.tasks.length with hlt | hge
    · exact .inr ((List.getElem?_append_left hlt).symm.trans ht)
    · rw [List.getElem?_append_right hge, List.getElem?_singleton] at ht
      split at ht
      · cases ht
        exact .inl hread
      · cases ht
  cases h with
  | wait nanos => exact .inr (.inl ht)
  | beginGet key => exact (begun rfl ht).imp_right .inl
  | beginInsert key token => exact (begun rfl ht).imp_right .inl
  | beginSweep => exact (begun rfl ht).imp_right .inl
  | go j =>
    cases htask : x.tasks[j]? with
    | none =>
      rw [step_go_of_none htask] at ht
      exact .inr (.inl ht)
    | some t' =>
      rw [step_go_of_some htask] at ht
      by_cases hij : i = j
      · subst hij
        obtain ⟨hlt, -⟩ := List.getElem?_eq_some_iff.1 htask
        rw [List.getElem?_set_self hlt] at ht
        exact .inr (.inr ⟨t', rfl, htask, Option.some.inj ht⟩)
      · rw [List.getElem?_set_ne (Ne.symm hij)] at ht
        exact .inr (.inl ht)

/-! ## 4. No task is ahead of the clock -/

/-- Whether all instants that were read are past. -/
def Timely (x : Shared) : Prop :=
  ∀ t ∈ x.tasks, ∀ now, t.read? = some now → now.nanos ≤ x.now.nanos

theorem Timely.step {x : Shared} (hx : x.Timely) (h : Happening) : (x.step h).Timely := by
  intro t ht now hread
  refine Int.le_trans ?_ (x.now_le_step h)
  obtain ⟨i, hi⟩ := List.mem_iff_getElem?.1 ht
  rcases tasks_step hi with hnone | hold | ⟨t', -, ht', rfl⟩
  · rw [hnone] at hread
    cases hread
  · exact hx t (List.mem_of_getElem? hold) now hread
  · rcases Task.read?_next hread with rfl | hread'
    · exact Int.le_refl _
    · exact hx t' (List.mem_of_getElem? ht') now hread'

theorem Timely.run {x : Shared} (hx : x.Timely) (hs : List Happening) : (x.run hs).Timely := by
  induction hs generalizing x with
  | nil => exact hx
  | cons h hs ih => exact ih (hx.step h)

theorem timely_ofCache (c : TokenCache) (now : Instant) : (ofCache c now).Timely :=
  fun _ ht => absurd ht List.not_mem_nil

/-! ## 5. How an entry leaves -/

section Leaving

variable {x : Shared} {key : CacheKey} {e : CacheEntry}

/-- An entry stays until another is stored in its place or it comes to its end. -/
theorem Timely.find?_step (hx : x.Timely) (hfind : x.cache.find? key = some e) (h : Happening) :
    (x.step h).cache.find? key = some e ∨ x.Stores h key ∨ e.notAfter.nanos ≤ x.now.nanos := by
  cases h with
  | wait _ | beginGet _ | beginInsert _ _ | beginSweep => exact .inl hfind
  | go i =>
    cases htask : x.tasks[i]? with
    | none =>
      rw [step_go_of_none htask]
      exact .inl hfind
    | some t =>
      have hstep := step_go_of_some htask
      rcases t.find?_next x.now hfind with hstays | ⟨token, now, rfl, hstored⟩ | ⟨now, hread, hle⟩
      · rw [hstep]
        exact .inl hstays
      · refine .inr (.inl ⟨i, token, now, rfl, htask, ?_⟩)
        rw [hstep]
        exact hstored
      · -- The instant may be an old one, but the entry had come to its end at it, and so it has now.
        exact .inr (.inr (Int.le_trans hle (hx t (List.mem_of_getElem? htask) now hread)))

/-- An entry that has not come to its end is there unless another was stored in its place. -/
theorem Timely.find?_run (hx : x.Timely) (hfind : x.cache.find? key = some e) (hs : List Happening)
    (hlive : (x.run hs).now.nanos < e.notAfter.nanos)
    (hstores : ∀ before h after, hs = before ++ h :: after → ¬ (x.run before).Stores h key) :
    (x.run hs).cache.find? key = some e := by
  -- By induction from the front: the entry is live at every moment, as the clock only goes on.
  induction hs generalizing x with
  | nil => exact hfind
  | cons h hs ih =>
    have hfirst : ¬ x.Stores h key := hstores [] h hs rfl
    have hnow : x.now.nanos ≤ (x.run (h :: hs)).now.nanos := x.now_le_run (h :: hs)
    rcases hx.find?_step hfind h with hstays | hstored | hended
    · have hlater : ∀ before h' after, hs = before ++ h' :: after →
          ¬ ((x.step h).run before).Stores h' key :=
        fun before h' after heq => hstores (h :: before) h' after (congrArg (h :: ·) heq)
      exact ih (hx.step h) hstays hlive hlater
    · exact absurd hstored hfirst
    · omega

end Leaving

/-! ## 6. Where an answer comes from -/

section Answers

variable {c : TokenCache} {start now : Instant} {hs : List Happening} {i : Nat} {key : CacheKey}

/-- A look-up looks by what the clock showed in its first section. -/
theorem exists_reading (h : ((ofCache c start).run hs).tasks[i]? = some (.looking key now)) :
    ∃ before after, hs = before ++ .go i :: after ∧
      ((ofCache c start).run before).tasks[i]? = some (.getting key) ∧
      ((ofCache c start).run before).now = now := by
  induction hs using List.reverseRecOn with
  | nil => cases h
  | append_singleton hs m ih =>
    rw [run_concat] at h
    rcases tasks_step h with hnone | hold | ⟨t, rfl, ht, hnext⟩
    · cases hnone
    · obtain ⟨before, after, rfl, hread⟩ := ih hold
      exact ⟨before, after ++ [m], by simp, hread⟩
    · obtain ⟨rfl, hnow⟩ := Task.next_eq_looking hnext
      exact ⟨hs, [], rfl, ht, hnow⟩

/-- A token that is answered was found in an entry that was valid by what the clock had shown in the first
section of the look-up. -/
theorem exists_found {token : AccessToken}
    (h : ((ofCache c start).run hs).tasks[i]? = some (.answered key now (some token))) :
    ∃ before between after, hs = before ++ .go i :: between ++ .go i :: after ∧
      ((ofCache c start).run before).tasks[i]? = some (.getting key) ∧
      ((ofCache c start).run before).now = now ∧
      ∃ e, ((ofCache c start).run (before ++ .go i :: between)).cache.find? key = some e ∧
        e.token = token ∧ now.nanos < e.notAfter.nanos := by
  induction hs using List.reverseRecOn with
  | nil => cases h
  | append_singleton hs m ih =>
    rw [run_concat] at h
    rcases tasks_step h with hnone | hold | ⟨t, rfl, ht, hnext⟩
    · cases hnone
    · obtain ⟨before, between, after, rfl, hread⟩ := ih hold
      exact ⟨before, between, after ++ [m], by simp, hread⟩
    · rcases Task.next_eq_answered hnext with rfl | ⟨rfl, hfound⟩
      · obtain ⟨before, between, after, rfl, hread⟩ := ih ht
        exact ⟨before, between, after ++ [.go i], by simp, hread⟩
      · obtain ⟨before, between, rfl, hgetting, hnow⟩ := exists_reading ht
        exact ⟨before, between, [], rfl, hgetting, hnow, hfound⟩

end Answers

end Shared

/-! ## 7. Nothing live is lost -/

/-- However the sections of callers that share a cache come between each other: an entry leaves only for
another that is stored under its key or after its end; one that is live is there, whoever has looked for
its key before; and a token that is served was valid at the instant that its look-up read. -/
theorem live_entries_stay (c : TokenCache) (start : Instant) (hs : List Happening) :
    let x := (Shared.ofCache c start).run hs
    (∀ key e h, x.cache.find? key = some e → (x.step h).cache.find? key ≠ some e →
      x.Stores h key ∨ e.notAfter.nanos ≤ x.now.nanos) ∧
    (∀ key e hs', x.cache.find? key = some e → (x.run hs').now.nanos < e.notAfter.nanos →
      (∀ before h after, hs' = before ++ h :: after → ¬ (x.run before).Stores h key) →
      (x.run hs').cache.find? key = some e) ∧
    (∀ i key now token, x.tasks[i]? = some (.answered key now (some token)) →
      ∃ before between after, hs = before ++ .go i :: between ++ .go i :: after ∧
        ((Shared.ofCache c start).run before).tasks[i]? = some (.getting key) ∧
        ((Shared.ofCache c start).run before).now = now ∧
        ∃ e, ((Shared.ofCache c start).run (before ++ .go i :: between)).cache.find? key = some e ∧
          e.token = token ∧ now.nanos < e.notAfter.nanos) := by
  intro x
  have hx : x.Timely := (Shared.timely_ofCache c start).run hs
  refine ⟨fun key e h hfind hgone => ?_, fun key e hs' hfind hlive hstores => ?_, ?_⟩
  · exact (hx.find?_step hfind h).resolve_left hgone
  · exact hx.find?_run hfind hs' hlive hstores
  · exact fun i key now token hanswered => Shared.exists_found hanswered

/-- A caller finds an entry past its end, another stores a new token, and the first comes back. -/
example :
    let key := CacheKey.client "a"
    let c := (empty (.ofSeconds 1)).insert ⟨0⟩ key ⟨"old"⟩
    let x := (Shared.ofCache c (.ofSeconds 5)).run
      [.beginGet key, .go 0, .go 0, .beginInsert key ⟨"new"⟩, .go 1, .go 1]
    x.tasks[0]? = some (.evicting key (.ofSeconds 5)) ∧
      (x.step (.go 0)).cache.find? key = some ⟨⟨"new"⟩, .ofSeconds 6⟩ := by
  decide

end RegistryAuth.TokenCache
