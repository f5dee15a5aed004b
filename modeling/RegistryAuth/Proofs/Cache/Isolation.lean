import RegistryAuth.Proofs.Cache.History

/-!
# Keys do not meet in a cache

A clock may be set back.  Then it is seen whether an entry that had come to its end was taken out before:
a cache that took it out serves nothing, one that did not serves the token again.  Even so the look-ups of
a key are answered as if nothing had been done under any other key.
-/

namespace RegistryAuth.TokenCache

/-! ## 1. Uses under a clock that is set -/

/-- What is done with a cache, or with its clock. -/
inductive Act where
  | use (u : Use)
  /-- The clock is turned on, or back by a span below zero. -/
  | turn (d : Duration)

/-- The key that a use is of; sweeps are of none, and nor is time. -/
def Use.key? : Use → Option CacheKey
  | .insert key _ => some key
  | .get key => some key
  | .sweep => none
  | .wait _ => none

/-- Whether something is done under a key, or under all of them. -/
def Act.concerns (key : CacheKey) : Act → Bool
  | .use u => u.key?.all (· = key)
  | .turn _ => true

namespace Timed

/-- What an act leaves behind. -/
def act (x : Timed) : Act → Timed
  | .use u => x.use u
  | .turn d => { x with now := x.now.add d }

/-- The answer to an act that is a look-up, and its key. -/
def answer? (x : Timed) : Act → Option (CacheKey × Option AccessToken)
  | .use (.get key) => some (key, (x.cache.get x.now key).1)
  | _ => none

/-- The answers to the look-ups among acts, one after the other. -/
def answers (x : Timed) : List Act → List (CacheKey × Option AccessToken)
  | [] => []
  | a :: as => (x.answer? a).toList ++ (x.act a).answers as

end Timed

/-! ## 2. Caches that agree on a key -/

/-- Whether two caches hold the same under a key, keep tokens for the same time and read the same clock. -/
structure Timed.Agree (key : CacheKey) (x y : Timed) : Prop where
  now_eq : x.now = y.now
  ttl_eq : x.cache.ttl = y.cache.ttl
  find?_eq : x.cache.find? key = y.cache.find? key

namespace Timed.Agree

variable {key : CacheKey} {x y : Timed}

theorem refl (key : CacheKey) (x : Timed) : x.Agree key x :=
  ⟨rfl, rfl, rfl⟩

theorem served?_eq (h : x.Agree key y) : x.cache.served? x.now key = y.cache.served? y.now key := by
  unfold served?
  rw [h.find?_eq, h.now_eq]

/-- What is not done under a key leaves it as it is. -/
theorem act_left (h : x.Agree key y) {a : Act} (ha : a.concerns key = false) :
    (x.act a).Agree key y := by
  cases a with
  | turn d => cases ha
  | use u =>
    cases u with
    | insert other token =>
      have hne : key ≠ other := fun heq => by simp [Act.concerns, Use.key?, heq] at ha
      refine ⟨h.now_eq, h.ttl_eq, ?_⟩
      show (x.cache.insert x.now other token).find? key = _
      rw [find?_insert, if_neg hne]
      exact h.find?_eq
    | get other =>
      have hne : key ≠ other := fun heq => by simp [Act.concerns, Use.key?, heq] at ha
      refine ⟨h.now_eq, (x.cache.ttl_evict x.now other).trans h.ttl_eq, ?_⟩
      show (x.cache.evict x.now other).find? key = _
      rw [find?_evict, if_neg hne]
      exact h.find?_eq
    | sweep => cases ha
    | wait nanos => cases ha

/-- Whatever is done with both caches leaves them in agreement. -/
theorem act (h : x.Agree key y) (a : Act) : (x.act a).Agree key (y.act a) := by
  cases a with
  | turn d => exact ⟨congrArg (·.add d) h.now_eq, h.ttl_eq, h.find?_eq⟩
  | use u =>
    cases u with
    | insert other token =>
      refine ⟨h.now_eq, h.ttl_eq, ?_⟩
      show (x.cache.insert x.now other token).find? key = (y.cache.insert y.now other token).find? key
      rw [find?_insert, find?_insert, h.now_eq, h.ttl_eq, h.find?_eq]
    | get other =>
      refine ⟨h.now_eq, ?_, ?_⟩
      · exact (x.cache.ttl_evict x.now other).trans (h.ttl_eq.trans (y.cache.ttl_evict y.now other).symm)
      · show (x.cache.evict x.now other).find? key = (y.cache.evict y.now other).find? key
        rw [find?_evict, find?_evict, h.now_eq, h.find?_eq]
    | sweep =>
      refine ⟨h.now_eq, h.ttl_eq, ?_⟩
      show (x.cache.sweep x.now).2.find? key = (y.cache.sweep y.now).2.find? key
      rw [find?_sweep, find?_sweep, h.now_eq, h.find?_eq]
    | wait nanos => exact ⟨congrArg (·.add ⟨nanos⟩) h.now_eq, h.ttl_eq, h.find?_eq⟩

/-- A look-up of the key is answered alike, and one of another key is none of it. -/
theorem filter_answer? (h : x.Agree key y) {a : Act} (ha : a.concerns key = true) :
    (x.answer? a).toList.filter (·.1 = key) = (y.answer? a).toList := by
  cases a with
  | turn d => rfl
  | use u =>
    cases u with
    | get other =>
      obtain rfl : other = key := by simpa [Act.concerns, Use.key?] using ha
      have hserved : (x.cache.get x.now other).1 = (y.cache.get y.now other).1 := h.served?_eq
      simp [answer?, hserved]
    | insert other token => rfl
    | sweep => rfl
    | wait nanos => rfl

theorem filter_answer?_of_other {a : Act} (ha : a.concerns key = false) :
    (x.answer? a).toList.filter (·.1 = key) = [] := by
  cases a with
  | turn d => rfl
  | use u =>
    cases u with
    | get other =>
      have hne : other ≠ key := by simpa [Act.concerns, Use.key?] using ha
      simp [answer?, hne]
    | insert other token => rfl
    | sweep => rfl
    | wait nanos => rfl

theorem filter_answers (h : x.Agree key y) (acts : List Act) :
    (x.answers acts).filter (·.1 = key) = y.answers (acts.filter (·.concerns key)) := by
  -- By induction on the acts; the second cache takes part only in those that concern the key.
  induction acts generalizing x y with
  | nil => rfl
  | cons a as ih =>
    rw [answers, List.filter_append]
    cases ha : a.concerns key with
    | true =>
      rw [h.filter_answer? ha, ih (h.act a), List.filter_cons_of_pos ha]
      rfl
    | false =>
      rw [filter_answer?_of_other ha, ih (h.act_left ha), List.filter_cons_of_neg (by simp [ha])]
      rfl

end Timed.Agree

/-! ## 3. What is seen under a key -/

/-- Whatever is done with a cache and however its clock is set, the look-ups of a key are answered as if
nothing had been done under the other keys; and those of the other kind of selector are others. -/
theorem answers_ignore_other_keys (x : Timed) (acts : List Act) (key : CacheKey) :
    (x.answers acts).filter (·.1 = key) = x.answers (acts.filter (·.concerns key)) ∧
      ∀ (client : ClientId) (resource : ResourceId),
        (Selector.client client).cacheKey ≠ (Selector.resource resource).cacheKey :=
  ⟨(Timed.Agree.refl key x).filter_answers acts, fun _ _ => CacheKey.noConfusion⟩

/-- Tokens that are kept for a second; the clock is turned on by two, and back again. -/
example :
    let key := CacheKey.client "a"
    let store := Act.use (.insert key ⟨"t"⟩)
    let look := Act.use (.get key)
    let x := Timed.start (.ofSeconds 1) ⟨0⟩
    -- Only a look-up in between takes the entry out.
    x.answers [store, .turn (.ofSeconds 2), .turn (.ofSeconds (-2)), look] = [(key, some ⟨"t"⟩)] ∧
      x.answers [store, .turn (.ofSeconds 2), look, .turn (.ofSeconds (-2)), look] =
        [(key, none), (key, none)] := by
  decide

end RegistryAuth.TokenCache
