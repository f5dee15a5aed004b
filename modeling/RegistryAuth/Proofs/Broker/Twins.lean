import Mathlib.Data.List.Forall2
import RegistryAuth.Proofs.Broker.Permanence
import RegistryAuth.Proofs.Broker.Waiters
import RegistryAuth.Proofs.Http.Retokening

/-!
# Twin runs

Two runs are twins when they differ in tokens only: in those that were served, stored or returned, in the
responses that they came in, and in the bodies of the requests that exchange them.  Every operation takes
twins to twins, so runs of the same moves are twins when the answers of their scripts differ in tokens, as
long as the first run was granted the tokens that differ: `Traffic.Twin.run`.
-/

namespace RegistryAuth

/-! ## 1. What may differ -/

/-- The same failure twice, or two successes. -/
inductive Veiled {ε α : Type} : Except ε α → Except ε α → Prop
  | error (e : ε) : Veiled (.error e) (.error e)
  | ok (x y : α) : Veiled (.ok x) (.ok y)

section Veils

variable {ε δ α : Type} {a b : Except ε α}

theorem Veiled.refl (a : Except ε α) : Veiled a a := by
  cases a with
  | error e => exact .error e
  | ok x => exact .ok x x

theorem Veiled.mapError (h : Veiled a b) (f : ε → δ) : Veiled (a.mapError f) (b.mapError f) := by
  cases h with
  | error e => exact .error (f e)
  | ok x y => exact .ok x y

theorem Veiled.ofResult_eq {a b : Except Error α} (h : Veiled a b) :
    Outcome.ofResult a = Outcome.ofResult b := by
  cases h <;> rfl

end Veils

/-- Outcomes of a request that differ in the tokens of their answers at most. -/
inductive Http.Retokened :
    Except Http.Failure Http.Response → Except Http.Failure Http.Response → Prop
  | same (outcome : Except Http.Failure Http.Response) : Retokened outcome outcome
  | answer {r r' : Http.Response} (h : r.Retokened r') : Retokened (.ok r) (.ok r')

/-- Replies that differ in the tokens of their answers at most. -/
structure Reply.Retokened (r r' : Reply) : Prop where
  rest : r' = { r with outcome := r'.outcome }
  outcome : Http.Retokened r.outcome r'.outcome

theorem Reply.Retokened.refl (r : Reply) : r.Retokened r :=
  ⟨rfl, .same _⟩

theorem Reply.Retokened.of_outcome (slot : Http.Slot) {a b : Except Http.Failure Http.Response}
    (h : Http.Retokened a b) : (Reply.ofOutcome slot a).Retokened (.ofOutcome slot b) :=
  ⟨rfl, h⟩

/-- Events of an operation that differ in tokens at most. -/
inductive Event.Twin (op : Option Operation) : Event → Event → Prop
  | same (e : Event) : Twin op e e
  | looked (cache : Nat) (key : CacheKey) (now : Instant) {a b : Option AccessToken}
    (h : a.isSome = b.isSome) : Twin op (.looked cache key now a) (.looked cache key now b)
  | stored (cache : Nat) (key : CacheKey) (t u : AccessToken) (now : Instant) :
    Twin op (.stored cache key t now) (.stored cache key u now)
  | settled (slot : Http.Slot) {a b : Except Http.Failure Http.Response} (h : Http.Retokened a b) :
    Twin op (.settled slot a) (.settled slot b)
  | ended {a b : Except Error AccessToken} (h : Veiled a b) : Twin op (.ended a) (.ended b)
  | exchanged (q : Http.Request) (body : List Char) (h : op = some .registryExchange) :
    Twin op (.sent q) (.sent { q with body })

structure Record.Twin (r r' : Record) : Prop where
  origin : r.origin = r'.origin
  event : Event.Twin r.origin.operation r.event r'.event

/-! ## 2. Caches -/

namespace TokenCache

/-- The keys of a cache and when their entries end. -/
def times (c : TokenCache) : List (CacheKey × Instant) :=
  c.entries.map fun x => (x.1, x.2.notAfter)

/-- Caches that differ in tokens at most. -/
structure Twin (c d : TokenCache) : Prop where
  ttl : c.ttl = d.ttl
  times : c.times = d.times

theorem Twin.refl (c : TokenCache) : c.Twin c :=
  ⟨rfl, rfl⟩

theorem times_filter (c : TokenCache) {p : CacheKey × CacheEntry → Bool}
    {q : CacheKey × Instant → Bool} (h : ∀ x, p x = q (x.1, x.2.notAfter)) :
    (c.filter p).times = c.times.filter q := by
  have hp : p = q ∘ fun x => (x.1, x.2.notAfter) := funext h
  unfold times TokenCache.filter
  rw [List.filter_map, hp]

theorem map_find? (c : TokenCache) (key : CacheKey) :
    (c.find? key).map (·.notAfter) = c.times.lookup key := by
  unfold find? times
  induction c.entries with
  | nil => rfl
  | cons entry rest ih =>
    obtain ⟨k, e⟩ := entry
    rw [List.map_cons, List.lookup_cons, List.lookup_cons]
    cases hk : key == k with
    | true => rfl
    | false => exact ih

variable {c d : TokenCache} (h : c.Twin d) (now : Instant) (key : CacheKey)
include h

/-- Twins have entries for the same keys, with the same ends. -/
theorem Twin.find? : (c.find? key = none ∧ d.find? key = none) ∨
    ∃ e e', c.find? key = some e ∧ d.find? key = some e' ∧ e.notAfter = e'.notAfter := by
  have hends : (c.find? key).map (·.notAfter) = (d.find? key).map (·.notAfter) := by
    rw [map_find?, map_find?, h.times]
  cases hc : c.find? key with
  | none =>
    cases hd : d.find? key with
    | none => exact .inl ⟨rfl, rfl⟩
    | some e' =>
      rw [hc, hd] at hends
      cases hends
  | some e =>
    cases hd : d.find? key with
    | none =>
      rw [hc, hd] at hends
      cases hends
    | some e' =>
      rw [hc, hd] at hends
      exact .inr ⟨e, e', rfl, rfl, Option.some.inj hends⟩

theorem Twin.lookup_eq : c.lookup now key = d.lookup now key := by
  unfold lookup
  rcases h.find? key with ⟨hc, hd⟩ | ⟨e, e', hc, hd, hend⟩
  · rw [hc, hd]
  · rw [hc, hd]
    show (if now.before e.notAfter then Lookup.hit else .expired) =
      if now.before e'.notAfter then Lookup.hit else .expired
    rw [hend]

theorem Twin.isSome_served? : (c.served? now key).isSome = (d.served? now key).isSome := by
  have hhit : c.lookup now key = .hit ↔ d.lookup now key = .hit := by rw [h.lookup_eq]
  rw [lookup_eq_hit_iff, lookup_eq_hit_iff] at hhit
  exact Bool.eq_iff_iff.2 hhit

theorem Twin.signals_eq : c.signals now key = d.signals now key := by
  unfold signals
  rw [h.lookup_eq]

theorem Twin.filter {p : CacheKey × CacheEntry → Bool} {q : CacheKey × Instant → Bool}
    (hp : ∀ x, p x = q (x.1, x.2.notAfter)) : (c.filter p).Twin (d.filter p) where
  ttl := h.ttl
  times := by rw [times_filter c hp, times_filter d hp, h.times]

theorem Twin.erase : (c.erase key).Twin (d.erase key) :=
  h.filter (q := fun x => x.1 ≠ key) fun _ => rfl

theorem Twin.evict : (c.evict now key).Twin (d.evict now key) := by
  unfold TokenCache.evict
  rcases h.find? key with ⟨hc, hd⟩ | ⟨e, e', hc, hd, hend⟩
  · rw [hc, hd]
    exact h
  · rw [hc, hd]
    show (if now.before e.notAfter then c else c.erase key).Twin
      (if now.before e'.notAfter then d else d.erase key)
    rw [hend]
    by_cases hvalid : now.before e'.notAfter = true
    · rw [if_pos hvalid, if_pos hvalid]
      exact h
    · rw [if_neg hvalid, if_neg hvalid]
      exact h.erase key

theorem Twin.insert (t u : AccessToken) : (c.insert now key t).Twin (d.insert now key u) where
  ttl := h.ttl
  times := by
    show (key, now.addCapped c.ttl) :: (c.erase key).times =
      (key, now.addCapped d.ttl) :: (d.erase key).times
    rw [h.ttl, (h.erase key).times]

theorem Twin.sweep : (c.sweep now).2.Twin (d.sweep now).2 :=
  h.filter (q := fun x => now.before x.2) fun _ => rfl

omit now key in
theorem Twin.size_eq : c.size = d.size := by
  have hlength := congrArg List.length h.times
  unfold TokenCache.times at hlength
  rw [List.length_map, List.length_map] at hlength
  exact hlength

end TokenCache

/-! ## 3. States -/

/-- States that differ in tokens at most, and in the responses that are still to come. -/
structure State.Twin (s t : State) : Prop where
  clock : s.clock = t.clock
  machine : s.machine = t.machine
  files : s.files = t.files
  slowFiles : s.slowFiles = t.slowFiles
  cancelled : s.cancelled = t.cancelled
  permits : s.permits = t.permits
  webOnly : s.webOnly = t.webOnly
  clocks : ∀ i, (s.caches i).clock = (t.caches i).clock
  tokens : ∀ i, (s.tokens i).Twin (t.tokens i)
  replies : List.Forall₂ Reply.Retokened s.replies t.replies
  trace : List.Forall₂ Record.Twin s.trace t.trace

/-- A state where other replies are to come. -/
def State.withReplies (s : State) (replies : List Reply) : State :=
  { s with replies }

namespace State.Twin

theorem of_replies {s : State} {replies : List Reply} (htrace : s.trace = [])
    (hreplies : List.Forall₂ Reply.Retokened s.replies replies) : s.Twin (s.withReplies replies) := by
  have hsame : List.Forall₂ Record.Twin s.trace s.trace := by
    rw [htrace]
    exact .nil
  exact ⟨rfl, rfl, rfl, rfl, rfl, rfl, rfl, fun _ => rfl, fun _ => .refl _, hreplies, hsame⟩

variable {s t : State} (h : s.Twin t) (o : Origin)
include h

theorem isCancelled_eq (name : String) : s.isCancelled name = t.isCancelled name := by
  unfold isCancelled
  rw [h.cancelled]

theorem now_eq (cache : Nat) : s.now cache = t.now cache := by
  unfold now
  rw [h.clocks cache, h.clock, h.machine]

theorem record {e e' : Event} (he : Event.Twin o.operation e e') :
    (s.record o e).Twin (t.record o e') :=
  { h with trace := List.rel_append h.trace (.cons ⟨rfl, he⟩ .nil) }

theorem signal (signals : List Signal) : (s.signal o signals).Twin (t.signal o signals) := by
  induction signals generalizing s t with
  | nil => exact h
  | cons x xs ih => exact ih (h.record o (.same _))

theorem cancel (name : String) : (s.cancel o name).Twin (t.cancel o name) := by
  have hnames : { s with cancelled := name :: s.cancelled }.Twin
      { t with cancelled := name :: t.cancelled } :=
    { h with cancelled := congrArg (name :: ·) h.cancelled }
  exact hnames.record o (.same _)

omit o in
theorem setTokens (cache : Nat) {c d : TokenCache} (hc : c.Twin d) :
    (s.setTokens cache c).Twin (t.setTokens cache d) := by
  have hclocks : ∀ i, ((s.setTokens cache c).caches i).clock =
      ((t.setTokens cache d).caches i).clock := by
    intro i
    unfold State.setTokens
    simp only
    split <;> exact h.clocks i
  have htokens : ∀ i, ((s.setTokens cache c).tokens i).Twin ((t.setTokens cache d).tokens i) := by
    intro i
    unfold State.tokens State.setTokens
    simp only
    split
    · exact hc
    · exact h.tokens i
  exact { h with clocks := hclocks, tokens := htokens }

theorem takePermit? (bucket : Nat) :
    (s.takePermit? o bucket = none ∧ t.takePermit? o bucket = none) ∨
      ∃ s' t', s.takePermit? o bucket = some s' ∧ t.takePermit? o bucket = some t' ∧ s'.Twin t' := by
  unfold State.takePermit?
  rw [← h.permits]
  cases hn : s.permits bucket with
  | zero => exact .inl ⟨rfl, rfl⟩
  | succ n =>
    have hpermits : { s with permits := fun b => if b = bucket then n else s.permits b }.Twin
        { t with permits := fun b => if b = bucket then n else s.permits b } :=
      { h with permits := rfl }
    exact .inr ⟨_, _, rfl, rfl, hpermits.record o (.same _)⟩

theorem store (cache : Nat) (key : CacheKey) (x y : AccessToken) :
    (s.store o cache key x).Twin (t.store o cache key y) := by
  unfold State.store
  simp only
  rw [h.now_eq cache]
  have hstored := h.setTokens cache ((h.tokens cache).insert (t.now cache) key x y)
  exact hstored.record o (.stored cache key x y _)

/-- A look-up serves both twins or neither. -/
theorem lookUp (cache : Nat) (key : CacheKey) :
    (s.lookUp o cache key).1.Twin (t.lookUp o cache key).1 ∧
      (s.lookUp o cache key).2.isSome = (t.lookUp o cache key).2.isSome := by
  unfold State.lookUp TokenCache.get
  simp only
  rw [h.now_eq cache, (h.tokens cache).signals_eq]
  have hserved := (h.tokens cache).isSome_served? (t.now cache) key
  have hleft := h.setTokens cache ((h.tokens cache).evict (t.now cache) key)
  exact ⟨(hleft.record o (.looked cache key _ hserved)).signal o _, hserved⟩

omit o in
theorem sweep (cache : Nat) : (s.sweep cache).1.Twin (t.sweep cache).1 := by
  unfold State.sweep
  simp only
  rw [h.now_eq cache]
  exact h.setTokens cache ((h.tokens cache).sweep (t.now cache))

/-- What comes for requests to one place differs in responses at most. -/
theorem send {q q' : Http.Request} (hq : Event.Twin o.operation (.sent q) (.sent q'))
    (huri : q.uri = q'.uri) : (s.send o q).1.Twin (t.send o q').1 ∧
      (s.send o q).2.Retokened (t.send o q').2 := by
  have hsent := h.record o hq
  have hreach : (s.record o (.sent q)).canReach q.uri = (t.record o (.sent q')).canReach q'.uri := by
    unfold canReach
    rw [huri, hsent.webOnly]
  have hreplies : List.Forall₂ Reply.Retokened (s.record o (.sent q)).replies
      (t.record o (.sent q')).replies := hsent.replies
  unfold State.send
  simp only
  rw [hreach]
  split
  · generalize hs : (s.record o (.sent q)).replies = rs at hreplies
    generalize ht : (t.record o (.sent q')).replies = ts at hreplies
    cases hreplies with
    | nil => exact ⟨hsent, .refl _⟩
    | cons hreply hrest => exact ⟨{ hsent with replies := hrest }, hreply⟩
  · exact ⟨hsent, .refl _⟩

theorem passing {r r' : Reply} (hr : r.Retokened r') : (s.passing o r).Twin (t.passing o r') := by
  have hcancels : r'.cancels = r.cancels := by rw [hr.rest]
  have hadvance : r'.advance = r.advance := by rw [hr.rest]
  unfold State.passing
  rw [hcancels, hadvance, ← h.clock]
  have hclock : { s with clock := s.clock.add (r.advance.getD .zero) }.Twin
      { t with clock := s.clock.add (r.advance.getD .zero) } :=
    { h with clock := rfl }
  split
  · exact hclock.cancel o _
  · exact hclock

end State.Twin

/-! ## 4. Stages -/

/-- The response that an event tells of. -/
def Event.response? : Event → Option Http.Response
  | .settled _ (.ok response) => some response
  | _ => none

/-- Whether a record tells of an answer that its operation was granted a token by. -/
def Record.isGranted (r : Record) : Bool :=
  match r.event with
  | .settled slot (.ok response) => r.origin.operation.any (·.isGranted slot response)
  | _ => false

/-- Whether the answers that stand in one trace, and others in their places in another, were granted. -/
def GrantedWhereOther (trace trace' : List Record) : Prop :=
  ∀ x ∈ trace.zip trace', x.1.event.response? ≠ x.2.event.response? → x.1.isGranted = true

instance (trace trace' : List Record) : Decidable (GrantedWhereOther trace trace') :=
  inferInstanceAs (Decidable (∀ x ∈ trace.zip trace', _))

theorem mem_zip_of_prefix {α : Type} {xs ys xs' ys' : List α} {x y : α} (hx : xs ++ [x] <+: xs')
    (hy : ys ++ [y] <+: ys') (hlength : xs.length = ys.length) : (x, y) ∈ xs'.zip ys' := by
  obtain ⟨more, rfl⟩ := hx
  obtain ⟨more', rfl⟩ := hy
  rw [List.append_assoc, List.append_assoc, List.zip_append hlength]
  exact List.mem_append_right _ (List.mem_cons_self ..)

/-- Stages that differ at most in the token that they exchange, and in the tenant that it tells. -/
inductive Stage.Twin : Stage → Stage → Prop
  | same (g : Stage) : Twin g g
  | exchange (x : Exchanger) (t u : AccessToken) (tenant tenant' : Option TenantId) (host : String) :
    Twin (.exchange x t tenant host) (.exchange x u tenant' host)

/-- Requests that an operation has prepared and that differ in the body of an exchange at most. -/
inductive Prepared.Twin (op : Operation) :
    Except Http.Fault Http.Request → Except Http.Fault Http.Request → Prop
  | same (request : Except Http.Fault Http.Request) : Twin op request request
  | exchanged (q : Http.Request) (body : List Char) (h : op = .registryExchange) :
    Twin op (.ok q) (.ok { q with body })

inductive Progress.Twin (op : Operation) : Progress → Progress → Prop
  | reading : Twin op .reading .reading
  | hung : Twin op .hung .hung
  | waiting {request request' : Except Http.Fault Http.Request}
    (h : Prepared.Twin op request request') : Twin op (.waiting request) (.waiting request')
  | flying {r r' : Reply} (h : r.Retokened r') : Twin op (.flying r) (.flying r')

inductive Turn.Twin (op : Operation) : Turn → Turn → Prop
  | going {p p' : Progress} (h : p.Twin op p') : Twin op (.going p) (.going p')
  | ended {a b : Except Error AccessToken} (h : Veiled a b) : Twin op (.ended a) (.ended b)

/-- What polls of twins have come to. -/
structure Stage.TwinTurns (op : Operation) (a b : State × Turn) : Prop where
  state : a.1.Twin b.1
  turn : a.2.Twin op b.2

namespace Stage

variable {g g' : Stage} (h : g.Twin g') (c : Caller)
include h

omit c in
theorem Twin.operation_eq : g'.operation = g.operation := by
  cases h <;> rfl

omit c in
theorem Twin.bucket_eq : g'.bucket = g.bucket := by
  cases h <;> rfl

omit c in
theorem Twin.readsFile_eq : g'.readsFile = g.readsFile := by
  cases h <;> rfl

theorem Twin.origin_eq : g'.origin c = g.origin c := by
  unfold origin
  rw [h.operation_eq]

omit c in
theorem Twin.conclude_eq (slot : Http.Slot) (outcome : Except Http.Failure Http.Response) :
    g'.conclude slot outcome = g.conclude slot outcome := by
  cases h <;> rfl

omit h in
/-- What a reply brought is recorded before the stage goes on to its end. -/
theorem trace_grows_settle (g : Stage) (s : State) (reply : Reply) :
    ((s.passing (g.origin c) reply).record (g.origin c) (.settled reply.slot reply.outcome)).trace <+:
      (g.settle c s reply).1.trace := by
  have heffects : State.Effects c ((s.passing (g.origin c) reply).record (g.origin c)
      (.settled reply.slot reply.outcome)) (g.settle c s reply).1 :=
    (g.effects_keep c _ _).trans (g.effects_finish c _ _)
  exact heffects.trace_grows

omit h c in
theorem isGranted_operation (g : Stage) (slot : Http.Slot) (response : Http.Response) :
    g.operation.isGranted slot response = (g.conclude slot (.ok response)).isOk := by
  cases g <;> rfl

omit c in
/-- Twins are prepared with twin requests, or with the same failure. -/
theorem Twin.prepare (files : Files) :
    (∃ e, g.prepare files = .error e ∧ g'.prepare files = .error e) ∨
      ∃ request request', g.prepare files = .ok request ∧ g'.prepare files = .ok request' ∧
        Prepared.Twin g.operation request request' := by
  cases h with
  | same g =>
    cases hp : g.prepare files with
    | error e => exact .inl ⟨e, rfl, rfl⟩
    | ok request => exact .inr ⟨request, request, rfl, rfl, .same request⟩
  | exchange x t u tenant tenant' host =>
    cases hrequest : Registry.request x.settings t tenant host with
    | error fault =>
      have hother := Registry.request_eq_error hrequest u tenant'
      left
      refine ⟨.config fault, ?_, ?_⟩
      · show ((Registry.request x.settings t tenant host).map _).mapError _ = _
        rw [hrequest]
        rfl
      · show ((Registry.request x.settings u tenant' host).map _).mapError _ = _
        rw [hother]
        rfl
    | ok q =>
      obtain ⟨service, hforms⟩ := Registry.request_with_form hrequest
      have hother := hforms u tenant'
      right
      refine ⟨.ok q, _, ?_, ?_, .exchanged q (Registry.form service tenant' u).encode rfl⟩
      · show ((Registry.request x.settings t tenant host).map _).mapError _ = _
        rw [hrequest]
        rfl
      · show ((Registry.request x.settings u tenant' host).map _).mapError _ = _
        rw [hother]
        rfl

omit c in
/-- Answers that differ are concluded alike where the first one was granted. -/
theorem Twin.conclude (slot : Http.Slot) {a b : Except Http.Failure Http.Response}
    (hab : Http.Retokened a b)
    (hgranted : ∀ r r', a = .ok r → b = .ok r' → r ≠ r' → g.operation.isGranted slot r = true) :
    Veiled (g.conclude slot a) (g'.conclude slot b) := by
  rw [h.conclude_eq]
  cases hab with
  | same => exact .refl _
  | @answer r r' hr =>
    by_cases heq : r = r'
    · subst heq
      exact .refl _
    · have hfirst := hgranted r r' rfl rfl heq
      have hsecond := Operation.isGranted_of_retokened hr hfirst
      rw [isGranted_operation] at hfirst hsecond
      obtain ⟨t, ht⟩ := isOk_iff.1 hfirst
      obtain ⟨t', ht'⟩ := isOk_iff.1 hsecond
      rw [ht, ht']
      exact .ok t t'

variable {s s' : State} (hs : s.Twin s')
include hs

theorem Twin.keep {a b : Except Error AccessToken} (hab : Veiled a b) :
    (g.keep s (g.origin c) a).Twin (g'.keep s' (g'.origin c) b) := by
  cases h with
  | same g =>
    cases hab with
    | error e => cases g <;> exact hs
    | ok t u =>
      cases g with
      | managed r selector => exact hs.store _ r.cache selector.cacheKey t u
      | workload r client tenant => exact hs
      | exchange x token tenant host => exact hs
  | exchange x t u tenant tenant' host => cases hab <;> exact hs

theorem Twin.finish {a b : Except Error AccessToken} (hab : Veiled a b) :
    TwinTurns g.operation (g.finish c s a) (g'.finish c s' b) := by
  have hsignal := hs.signal (g.origin c) [.counted g.operation (.ofResult a)]
  have hended := hsignal.record (g.origin c) (.ended hab)
  unfold Stage.finish
  rw [h.origin_eq, h.operation_eq, ← hab.ofResult_eq]
  exact ⟨hended, .ended hab⟩

theorem Twin.lookUp : (g.lookUp c s).1.Twin (g'.lookUp c s').1 ∧
    (g.lookUp c s).2.isSome = (g'.lookUp c s').2.isSome := by
  cases h with
  | same g =>
    cases g with
    | managed r selector => exact hs.lookUp _ r.cache selector.cacheKey
    | workload r client tenant => exact ⟨hs, rfl⟩
    | exchange x token tenant host => exact ⟨hs, rfl⟩
  | exchange x t u tenant tenant' host => exact ⟨hs, rfl⟩

variable {trace trace' : List Record} (hgranted : GrantedWhereOther trace trace')
include hgranted

/-- Twin stages whose replies have come, in runs that were granted what differs. -/
theorem Twin.settle {r r' : Reply} (hr : r.Retokened r')
    (htrace : (g.settle c s r).1.trace <+: trace) (htrace' : (g'.settle c s' r').1.trace <+: trace') :
    TwinTurns g.operation (g.settle c s r) (g'.settle c s' r') := by
  have hslot : r'.slot = r.slot := by rw [hr.rest]
  have hpassed := hs.passing (g.origin c) hr
  have hsettled := hpassed.record (g.origin c) (.settled r.slot hr.outcome)
  -- What is recorded of the answers stands at one place of the two traces.
  have hgrown := (trace_grows_settle c g s r).trans htrace
  have hgrown' := (trace_grows_settle c g' s' r').trans htrace'
  rw [h.origin_eq, hslot] at hgrown'
  have hplace := mem_zip_of_prefix hgrown hgrown' hpassed.trace.length_eq
  have hconclude : Veiled (g.conclude r.slot r.outcome) (g'.conclude r.slot r'.outcome) := by
    refine h.conclude r.slot hr.outcome fun a b ha hb hne => ?_
    have hplaceGranted := hgranted _ hplace
    rw [ha, hb] at hplaceGranted
    exact hplaceGranted fun heq => hne (Option.some.inj heq)
  have hkept := h.keep c hsettled hconclude
  unfold Stage.settle
  simp only
  rw [h.origin_eq, hslot]
  rw [h.origin_eq] at hkept
  exact h.finish c hkept hconclude

theorem Twin.pollReply {r r' : Reply} (hr : r.Retokened r')
    (htrace : (g.pollReply c s r).1.trace <+: trace)
    (htrace' : (g'.pollReply c s' r').1.trace <+: trace') :
    TwinTurns g.operation (g.pollReply c s r) (g'.pollReply c s' r') := by
  have hyields : r'.yields = r.yields := by rw [hr.rest]
  have hcoming : r'.coming = r.coming := by rw [hr.rest]
  unfold Stage.pollReply at htrace htrace' ⊢
  rw [hyields] at htrace' ⊢
  cases hn : r.yields with
  | succ n =>
    have hlater : (r.later n).Retokened (r'.later n) := by
      refine ⟨?_, hr.outcome⟩
      rw [hr.rest]
      rfl
    exact ⟨hs, .going (.flying hlater)⟩
  | zero =>
    rw [hn] at htrace htrace'
    simp only [hcoming] at htrace htrace' ⊢
    by_cases hreaches : r.coming.reaches c.patient = true
    · rw [if_pos hreaches] at htrace htrace' ⊢
      rw [if_pos hreaches]
      exact h.settle c hs hgranted hr htrace htrace'
    · rw [if_neg hreaches, if_neg hreaches, h.origin_eq]
      exact ⟨hs.passing _ hr, .going .hung⟩

theorem Twin.pollPermit {request request' : Except Http.Fault Http.Request}
    (hrequest : Prepared.Twin g.operation request request')
    (htrace : (g.pollPermit c s request).1.trace <+: trace)
    (htrace' : (g'.pollPermit c s' request').1.trace <+: trace') :
    TwinTurns g.operation (g.pollPermit c s request) (g'.pollPermit c s' request') := by
  unfold Stage.pollPermit at htrace htrace' ⊢
  rw [← hs.isCancelled_eq, h.origin_eq, h.bucket_eq] at htrace' ⊢
  by_cases hc : s.isCancelled c.name = true
  · rw [if_pos hc, if_pos hc]
    exact h.finish c hs (.refl _)
  · rw [if_neg hc] at htrace htrace' ⊢
    rw [if_neg hc]
    rcases hs.takePermit? (g.origin c) g.bucket with ⟨hnone, hnone'⟩ | ⟨t, t', ht, ht', hpermit⟩
    · rw [hnone, hnone']
      exact ⟨hs, .going (.waiting hrequest)⟩
    · rw [ht] at htrace ⊢
      rw [ht'] at htrace' ⊢
      cases hrequest with
      | same request =>
        cases request with
        | error fault => exact h.finish c hpermit (.refl _)
        | ok q =>
          obtain ⟨hsent, hreply⟩ := hpermit.send (g.origin c) (.same (.sent q)) rfl
          exact h.pollReply c hsent hgranted hreply htrace htrace'
      | exchanged q body hop =>
        obtain ⟨hsent, hreply⟩ := hpermit.send (g.origin c)
          (.exchanged q body (congrArg some hop)) rfl
        exact h.pollReply c hsent hgranted hreply htrace htrace'

theorem Twin.enter (htrace : (g.enter c s).1.trace <+: trace)
    (htrace' : (g'.enter c s').1.trace <+: trace') :
    TwinTurns g.operation (g.enter c s) (g'.enter c s') := by
  unfold Stage.enter at htrace htrace' ⊢
  rw [← hs.files] at htrace' ⊢
  rcases h.prepare s.files with ⟨e, he, he'⟩ | ⟨request, request', hp, hp', hrequest⟩
  · rw [he, he']
    exact h.finish c hs (.refl _)
  · rw [hp] at htrace ⊢
    rw [hp'] at htrace' ⊢
    exact h.pollPermit c hs hgranted hrequest htrace htrace'

theorem Twin.start (htrace : (g.start c s).1.trace <+: trace)
    (htrace' : (g'.start c s').1.trace <+: trace') :
    TwinTurns g.operation (g.start c s) (g'.start c s') := by
  have hopened := hs.signal (g.origin c) [.began g.operation, .counted g.operation .attempt]
  obtain ⟨hleft, hserved⟩ := h.lookUp c hopened
  unfold Stage.start at htrace htrace' ⊢
  rw [h.origin_eq, h.operation_eq, h.readsFile_eq] at htrace' ⊢
  simp only at htrace htrace' ⊢
  -- The look-ups are named first, since both runs branch on them.
  generalize g.lookUp c (s.signal (g.origin c) [.began g.operation, .counted g.operation .attempt]) =
    found at htrace hleft hserved ⊢
  generalize g'.lookUp c
    (s'.signal (g.origin c) [.began g.operation, .counted g.operation .attempt]) =
    found' at htrace' hleft hserved ⊢
  obtain ⟨t, served⟩ := found
  obtain ⟨t', served'⟩ := found'
  cases served with
  | some token =>
    obtain ⟨token', rfl⟩ := Option.isSome_iff_exists.1 (Eq.symm hserved)
    exact h.finish c hleft (.ok token token')
  | none =>
    obtain rfl := Option.isNone_iff_eq_none.1 (by simpa using hserved.symm)
    simp only at htrace htrace' ⊢
    rw [← hleft.slowFiles] at htrace' ⊢
    by_cases hreading : (g.readsFile && t.slowFiles) = true
    · rw [if_pos hreading, if_pos hreading]
      exact ⟨hleft, .going .reading⟩
    · rw [if_neg hreading] at htrace htrace' ⊢
      rw [if_neg hreading]
      exact h.enter c hleft hgranted htrace htrace'

/-- A further poll keeps twins twins. -/
theorem Twin.resume {p p' : Progress} (hp : p.Twin g.operation p')
    (htrace : (g.resume c s p).1.trace <+: trace) (htrace' : (g'.resume c s' p').1.trace <+: trace') :
    TwinTurns g.operation (g.resume c s p) (g'.resume c s' p') := by
  cases hp with
  | reading =>
    unfold Stage.resume at htrace htrace' ⊢
    simp only at htrace htrace' ⊢
    rw [← hs.slowFiles] at htrace' ⊢
    by_cases hslow : s.slowFiles = true
    · rw [if_pos hslow, if_pos hslow]
      exact ⟨hs, .going .reading⟩
    · rw [if_neg hslow] at htrace htrace' ⊢
      rw [if_neg hslow]
      exact h.enter c hs hgranted htrace htrace'
  | waiting hrequest => exact h.pollPermit c hs hgranted hrequest htrace htrace'
  | flying hr =>
    unfold Stage.resume at htrace htrace' ⊢
    simp only at htrace htrace' ⊢
    rw [← hs.isCancelled_eq] at htrace' ⊢
    by_cases hc : s.isCancelled c.name = true
    · rw [if_pos hc, if_pos hc]
      exact h.finish c hs (.refl _)
    · rw [if_neg hc] at htrace htrace' ⊢
      rw [if_neg hc]
      exact h.pollReply c hs hgranted hr htrace htrace'
  | hung =>
    unfold Stage.resume
    simp only
    rw [← hs.isCancelled_eq]
    by_cases hc : s.isCancelled c.name = true
    · rw [if_pos hc, if_pos hc]
      exact h.finish c hs (.refl _)
    · rw [if_neg hc, if_neg hc]
      exact ⟨hs, .going .hung⟩

end Stage

/-! ## 5. Calls -/

/-- Results that differ in tokens at most. -/
inductive Result.Twin : Result → Result → Prop
  | token {a b : Except Error AccessToken} (h : Veiled a b) : Twin (.token a) (.token b)
  | plain (a : Except Error Unit) : Twin (.plain a) (.plain a)
  | worked (began : Bool) (a : Except Error Unit) : Twin (.worked began a) (.worked began a)

/-- How far twin calls have come. -/
inductive Phase.Twin : Phase → Phase → Prop
  | ready (command : Command) : Twin (.ready command) (.ready command)
  | running (purpose : Purpose) {g g' : Stage} {p p' : Progress} (hg : g.Twin g')
    (hp : p.Twin g.operation p') : Twin (.running purpose g p) (.running purpose g' p')
  | working (ending : Ending) : Twin (.working ending) (.working ending)
  | done {a b : Result} (h : a.Twin b) : Twin (.done a) (.done b)

structure Call.Twin (c c' : Call) : Prop where
  caller : c'.caller = c.caller
  phase : c.phase.Twin c'.phase

/-- What polls of twin calls have come to. -/
structure Call.TwinPhases (a b : State × Phase) : Prop where
  state : a.1.Twin b.1
  phase : a.2.Twin b.2

namespace Call

variable (c : Caller) {s s' : State} (hs : s.Twin s')

include hs in
theorem twin_finish (op : Operation) {a b : Except Error AccessToken} (hab : Veiled a b) :
    TwinPhases (finish c s op a) (finish c s' op b) := by
  have hsignal := hs.signal (c.within op) [.counted op (.ofResult a)]
  have hended := hsignal.record (c.within op) (.ended (hab.mapError (Error.operation op)))
  unfold finish
  simp only
  rw [← hab.ofResult_eq]
  exact ⟨hended, .done (.token (hab.mapError _))⟩

theorem twin_last (purpose : Purpose) {g g' : Stage} (hg : g.Twin g') {a b : State × Turn}
    (h : Stage.TwinTurns g.operation a b) : TwinPhases (last c purpose g a) (last c purpose g' b) := by
  obtain ⟨s, turn⟩ := a
  obtain ⟨s', turn'⟩ := b
  obtain ⟨hs, hturn⟩ := h
  cases hturn with
  | going hp => exact ⟨hs, .running purpose hg hp⟩
  | ended hab =>
    cases purpose with
    | result => exact ⟨hs, .done (.token hab)⟩
    | retrieval op x tenant host => exact twin_finish c hs op hab
    | exchange op => exact twin_finish c hs op hab

variable {trace trace' : List Record} (hgranted : GrantedWhereOther trace trace')
include hgranted

theorem twin_proceed (purpose : Purpose) {g g' : Stage} (hg : g.Twin g') {a b : State × Turn}
    (h : Stage.TwinTurns g.operation a b) (htrace : (proceed c purpose g a).1.trace <+: trace)
    (htrace' : (proceed c purpose g' b).1.trace <+: trace') :
    TwinPhases (proceed c purpose g a) (proceed c purpose g' b) := by
  cases purpose with
  | result => exact twin_last c .result hg h
  | exchange op => exact twin_last c (.exchange op) hg h
  | retrieval op x tenant host =>
    obtain ⟨s, turn⟩ := a
    obtain ⟨s', turn'⟩ := b
    obtain ⟨hs, hturn⟩ := h
    cases hturn with
    | going hp => exact twin_last c _ hg ⟨hs, .going hp⟩
    | ended hab =>
      cases hab with
      | error e => exact twin_last c (.retrieval op x tenant host) hg ⟨hs, .ended (.error e)⟩
      | ok token token' =>
        -- The tokens are exchanged in this poll, and all that the exchange records comes before its end.
        have hexchange : (exchangeStage x tenant host token).Twin (exchangeStage x tenant host token') :=
          .exchange x token token' _ _ host
        have hgrown : ∀ token s, ((exchangeStage x tenant host token).start c s).1.trace <+:
            (proceed c (.retrieval op x tenant host) g (s, .ended (.ok token))).1.trace :=
          fun token s => (effects_last c (.exchange op) _ _ _).trace_grows
        have hstart := hexchange.start c hs hgranted ((hgrown token s).trans htrace)
          ((hgrown token' s').trans htrace')
        exact twin_last c (.exchange op) hexchange hstart

include hs

theorem twin_run (purpose : Purpose) (g : Stage)
    (htrace : (proceed c purpose g (g.start c s)).1.trace <+: trace)
    (htrace' : (proceed c purpose g (g.start c s')).1.trace <+: trace') :
    TwinPhases (proceed c purpose g (g.start c s)) (proceed c purpose g (g.start c s')) := by
  have hgrown : ∀ s, (g.start c s).1.trace <+: (proceed c purpose g (g.start c s)).1.trace :=
    fun s => (effects_proceed c purpose g _ _).trace_grows
  have hstart := (Stage.Twin.same g).start c hs hgranted ((hgrown s).trans htrace)
    ((hgrown s').trans htrace')
  exact twin_proceed c hgranted purpose (.same g) hstart htrace htrace'

theorem twin_authorize (a : Authorizer) (credential : Credential) (host : String)
    (htrace : (authorize c s a credential host).1.trace <+: trace)
    (htrace' : (authorize c s' a credential host).1.trace <+: trace') :
    TwinPhases (authorize c s a credential host) (authorize c s' a credential host) := by
  have hopened := hs.signal (c.within (operationOf credential))
    [.began (operationOf credential), .counted (operationOf credential) .attempt]
  unfold authorize at htrace htrace' ⊢
  simp only at htrace htrace' ⊢
  cases hg : retrieval? a.retriever credential with
  | none => exact twin_finish c hopened _ (.refl _)
  | some g =>
    rw [hg] at htrace htrace'
    exact twin_run c hopened hgranted _ g htrace htrace'

omit hgranted in
theorem twin_acquire (bucket : Nat) (waiting : Phase) (refused : Error → Phase)
    (granted : State → State × Phase) (hwaiting : waiting.Twin waiting)
    (hrefused : ∀ e, (refused e).Twin (refused e))
    (h : ∀ t t', t.Twin t' → TwinPhases (granted t) (granted t')) :
    TwinPhases (acquire c s bucket waiting refused granted)
      (acquire c s' bucket waiting refused granted) := by
  unfold acquire
  rw [← hs.isCancelled_eq]
  by_cases hc : s.isCancelled c.name = true
  · rw [if_pos hc, if_pos hc]
    exact ⟨hs, hrefused _⟩
  · rw [if_neg hc, if_neg hc]
    rcases hs.takePermit? c.plain bucket with ⟨hnone, hnone'⟩ | ⟨t, t', ht, ht', hpermit⟩
    · rw [hnone, hnone']
      exact ⟨hs, hwaiting⟩
    · rw [ht, ht']
      exact h t t' hpermit

omit c hs hgranted in
theorem twin_endWork (ending : Ending) : (endWork ending).Twin (endWork ending) := by
  cases ending with
  | success => exact .done (.worked _ _)
  | failure => exact .done (.worked _ _)
  | never => exact .working .never

omit hgranted in
theorem twin_beginWork (work : Work) : TwinPhases (beginWork c work s) (beginWork c work s') := by
  have hphase : (if work.suspends then Phase.working work.ending else endWork work.ending).Twin
      (if work.suspends then Phase.working work.ending else endWork work.ending) := by
    split
    · exact .working _
    · exact twin_endWork _
  unfold beginWork
  refine ⟨?_, hphase⟩
  show (if work.cancels then s.cancel c.plain c.name else s).Twin
    (if work.cancels then s'.cancel c.plain c.name else s')
  by_cases hcancels : work.cancels = true
  · rw [if_pos hcancels, if_pos hcancels]
    exact hs.cancel c.plain c.name
  · rw [if_neg hcancels, if_neg hcancels]
    exact hs

theorem twin_start (command : Command) (htrace : (start c s command).1.trace <+: trace)
    (htrace' : (start c s' command).1.trace <+: trace') :
    TwinPhases (start c s command) (start c s' command) := by
  cases command with
  | stage g => exact twin_run c hs hgranted .result g htrace htrace'
  | exchangeByClaims x token host =>
    -- The token to be exchanged is the caller's own, so it is the same in both runs.
    cases ht : token.tenant with
    | error fault =>
      simp only [start, ht]
      exact ⟨hs, .done (.token (.refl _))⟩
    | ok tenant =>
      simp only [start, ht] at htrace htrace' ⊢
      exact twin_run c hs hgranted .result _ htrace htrace'
  | authorize a credential host => exact twin_authorize c hs hgranted a credential host htrace htrace'
  | permit bucket =>
    unfold start
    exact twin_acquire c hs bucket _ _ _ (.ready _) (fun _ => .done (.plain _))
      fun t t' ht => ⟨ht, .done (.plain _)⟩
  | throttle bucket work =>
    unfold start
    exact twin_acquire c hs bucket _ _ _ (.ready _) (fun _ => .done (.worked _ _))
      fun t t' ht => twin_beginWork c ht work
  | cancel => exact ⟨hs.cancel _ _, .done (.plain _)⟩
  | refuse fault => exact ⟨hs, .done (.token (.refl _))⟩

omit c in
/-- A poll keeps twins twins. -/
theorem Twin.poll {c c' : Call} (h : c.Twin c') (htrace : (c.poll s).1.trace <+: trace)
    (htrace' : (c'.poll s').1.trace <+: trace') :
    (c.poll s).1.Twin (c'.poll s').1 ∧ (c.poll s).2.Twin (c'.poll s').2 := by
  obtain ⟨caller, phase⟩ := c
  obtain ⟨caller', phase'⟩ := c'
  obtain ⟨hcaller, hphase⟩ := h
  change caller' = caller at hcaller
  change phase.Twin phase' at hphase
  subst hcaller
  cases hphase with
  | ready command =>
    obtain ⟨hstate, hphase⟩ := twin_start caller' hs hgranted command htrace htrace'
    exact ⟨hstate, rfl, hphase⟩
  | @running purpose g g' p p' hg hp =>
    have hgrown : ∀ (g : Stage) s p, (g.resume caller' s p).1.trace <+:
        (proceed caller' purpose g (g.resume caller' s p)).1.trace :=
      fun g s p => (effects_proceed caller' purpose g _ _).trace_grows
    have hresume := hg.resume caller' hs hgranted hp ((hgrown g s p).trans htrace)
      ((hgrown g' s' p').trans htrace')
    obtain ⟨hstate, hphase⟩ := twin_proceed caller' hgranted purpose hg hresume htrace htrace'
    exact ⟨hstate, rfl, hphase⟩
  | working ending =>
    unfold Call.poll
    simp only
    rw [← hs.isCancelled_eq]
    by_cases hc : s.isCancelled caller'.name = true
    · rw [if_pos hc, if_pos hc]
      exact ⟨hs, rfl, .done (.worked _ _)⟩
    · rw [if_neg hc, if_neg hc]
      exact ⟨hs, rfl, twin_endWork ending⟩
  | done hresult => exact ⟨hs, rfl, .done hresult⟩

end Call

/-! ## 6. Runs -/

namespace Traffic

/-- Runs that differ in tokens at most. -/
structure Twin (w w' : Traffic) : Prop where
  state : w.state.Twin w'.state
  length : w'.calls.length = w.calls.length
  calls : ∀ (i : Nat) (c c' : Call), w.calls[i]? = some c → w'.calls[i]? = some c' → c.Twin c'

theorem Twin.of_state {s t : State} (h : s.Twin t) : (ofState s).Twin (ofState t) :=
  ⟨h, rfl, fun i c c' hc _ => by cases hc⟩

variable {w w' : Traffic} {trace trace' : List Record} (hgranted : GrantedWhereOther trace trace')
include hgranted

theorem Twin.poll (h : w.Twin w') (i : Nat) (htrace : (w.step (.poll i)).state.trace <+: trace)
    (htrace' : (w'.step (.poll i)).state.trace <+: trace') :
    (w.step (.poll i)).Twin (w'.step (.poll i)) := by
  cases hi : w.calls[i]? with
  | none =>
    have hi' : w'.calls[i]? = none := by
      rw [List.getElem?_eq_none_iff] at hi ⊢
      rw [h.length]
      exact hi
    rw [step_poll_of_none hi, step_poll_of_none hi']
    exact h
  | some c =>
    have hlt := (List.getElem?_eq_some_iff.1 hi).1
    have hlt' : i < w'.calls.length := h.length ▸ hlt
    have hi' := List.getElem?_eq_getElem hlt'
    rw [step_poll_of_some hi] at htrace ⊢
    rw [step_poll_of_some hi'] at htrace' ⊢
    have hpoll := (h.calls i c _ hi hi').poll h.state hgranted htrace htrace'
    refine ⟨hpoll.1, by simp [h.length], fun j d d' hd hd' => ?_⟩
    by_cases hij : i = j
    · subst hij
      rw [List.getElem?_set_self hlt] at hd
      rw [List.getElem?_set_self hlt'] at hd'
      obtain rfl := Option.some.inj hd
      obtain rfl := Option.some.inj hd'
      exact hpoll.2
    · rw [List.getElem?_set_ne hij] at hd hd'
      exact h.calls j d d' hd hd'

omit hgranted in
theorem Twin.call (h : w.Twin w') (name : String) (command : Command) :
    (w.step (.call name command)).Twin (w'.step (.call name command)) := by
  refine ⟨h.state, by simp [Traffic.step, h.length], fun i c c' hc hc' => ?_⟩
  simp only [Traffic.step, List.getElem?_append, h.length] at hc hc'
  by_cases hi : i < w.calls.length
  · rw [if_pos hi] at hc hc'
    exact h.calls i c c' hc hc'
  · rw [if_neg hi] at hc hc'
    obtain rfl := Option.some.inj (hc.symm.trans hc')
    obtain rfl := List.mem_singleton.1 (List.mem_of_getElem? hc)
    exact ⟨rfl, .ready command⟩

/-- Every move keeps twins twins. -/
theorem Twin.step (h : w.Twin w') (m : Move) (htrace : (w.step m).state.trace <+: trace)
    (htrace' : (w'.step m).state.trace <+: trace') : (w.step m).Twin (w'.step m) := by
  cases m with
  | call name command => exact h.call name command
  | poll i => exact h.poll hgranted i htrace htrace'
  | clocks clock machine => exact { h with state := { h.state with clock := rfl, machine := rfl } }
  | files files slow => exact { h with state := { h.state with files := rfl, slowFiles := rfl } }
  | sweep cache => exact { h with state := h.state.sweep cache }

/-- Runs of the same moves from twins come to twins, where the first was granted the tokens that differ. -/
theorem Twin.run (h : w.Twin w') (ms : List Move) (htrace : (w.run ms).state.trace <+: trace)
    (htrace' : (w'.run ms).state.trace <+: trace') : (w.run ms).Twin (w'.run ms) := by
  -- The last move is taken off; what was recorded before it stands in the same trace.
  induction ms using List.reverseRecOn with
  | nil => exact h
  | append_singleton ms m ih =>
    rw [run_append] at htrace htrace' ⊢
    rw [run_append]
    have hgrown := trace_grows_run (w.run ms) [m]
    have hgrown' := trace_grows_run (w'.run ms) [m]
    exact (ih (hgrown.trans htrace) (hgrown'.trans htrace')).step hgranted m htrace htrace'

end Traffic

end RegistryAuth
