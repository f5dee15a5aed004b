import Mathlib.Data.List.Induction
import RegistryAuth.Broker.Call

/-!
# Traffic

Calls come at any time and are polled in any order, while clocks are set, files are replaced and caches
are swept.  A run is a list of such moves from a state; a call that is dropped is one that no later
move polls.  What a run has done is read off its trace, by call or by origin.
-/

namespace RegistryAuth

/-! ## 1. Runs -/

/-- What happens between one poll and the next, or that poll. -/
inductive Move where
  /-- A call is made under a name; it does nothing before it is polled. -/
  | call (name : String) (command : Command)
  /-- The call of a number is polled. -/
  | poll (call : Nat)
  /-- The clocks are set, to any instants. -/
  | clocks (clock machine : Instant)
  /-- The files are replaced, and their content is there at once or later. -/
  | files (files : Files) (slow : Bool)
  | sweep (cache : Nat)

/-- The call that a move makes: its name and its command. -/
def Move.made? : Move → Option (String × Command)
  | .call name command => some (name, command)
  | _ => none

/-- The calls that moves make, in the order of their numbers. -/
def Move.made (ms : List Move) : List (String × Command) :=
  ms.filterMap made?

/-- A state where nothing has happened: with so many permits in each bucket, with caches that keep tokens
for a time and hold none yet, and with replies to come. -/
def State.fresh (permits : Nat) (ttl : Duration) (replies : List Reply) : State where
  clock := ⟨0⟩
  machine := ⟨0⟩
  files := ⟨[]⟩
  slowFiles := false
  cancelled := []
  permits _ := permits
  caches _ := ⟨.manual, .empty ttl⟩
  webOnly := false
  replies
  trace := []

/-- Calls and what they share; a call's number is its place. -/
structure Traffic where
  state : State
  calls : List Call

namespace Traffic

/-- A state before any call is made. -/
def ofState (s : State) : Traffic :=
  ⟨s, []⟩

/-- What a move leads to. -/
def step (w : Traffic) : Move → Traffic
  | .call name command =>
    { w with calls := w.calls ++ [.ofCommand w.calls.length name command] }
  | .poll i =>
    match w.calls[i]? with
    | some c => ⟨(c.poll w.state).1, w.calls.set i (c.poll w.state).2⟩
    | none => w
  | .clocks clock machine => { w with state := { w.state with clock, machine } }
  | .files files slow => { w with state := { w.state with files, slowFiles := slow } }
  | .sweep cache => { w with state := (w.state.sweep cache).1 }

/-- What moves lead to, one after the other. -/
def run (w : Traffic) (ms : List Move) : Traffic :=
  ms.foldl step w

/-- What a call has ended with. -/
def result? (w : Traffic) (call : Nat) : Option Result :=
  w.calls[call]?.bind Call.result?

/-- The token that a call has returned. -/
def token? (w : Traffic) (call : Nat) : Option AccessToken :=
  match w.result? call with
  | some (.token (.ok token)) => some token
  | _ => none

theorem result?_of_token? {w : Traffic} {call : Nat} {token : AccessToken}
    (h : w.token? call = some token) : w.result? call = some (.token (.ok token)) := by
  unfold token? at h
  split at h
  · rename_i token' hresult
    rw [hresult, Option.some.inj h]
  · simp at h

theorem step_poll_of_some {w : Traffic} {i : Nat} {c : Call} (h : w.calls[i]? = some c) :
    w.step (.poll i) = ⟨(c.poll w.state).1, w.calls.set i (c.poll w.state).2⟩ := by
  simp only [step, h]

theorem step_poll_of_none {w : Traffic} {i : Nat} (h : w.calls[i]? = none) : w.step (.poll i) = w := by
  simp only [step, h]

theorem run_append (w : Traffic) (ms ns : List Move) : w.run (ms ++ ns) = (w.run ms).run ns :=
  List.foldl_append

end Traffic

/-- What holds at the start and is kept by every move holds after every run. -/
theorem Traffic.run_induction {P : List Move → Traffic → Prop} {w : Traffic} (hstart : P [] w)
    (hstep : ∀ ms w m, P ms w → P (ms ++ [m]) (w.step m)) (ms : List Move) : P ms (w.run ms) := by
  -- The last move is taken off, since `P` speaks of all moves up to a state.
  induction ms using List.reverseRecOn with
  | nil => exact hstart
  | append_singleton ms m ih =>
    rw [run_append]
    exact hstep ms _ m ih

/-! ## 2. Reading a trace -/

/-- The records of events at one origin. -/
def Origin.records (o : Origin) (es : List Event) : List Record :=
  es.map (⟨o, ·⟩)

/-- What happened on behalf of a call. -/
def recordsOf (call : Nat) (trace : List Record) : List Record :=
  trace.filter (·.origin.call = call)

/-- What happened at an origin. -/
def eventsOf (o : Origin) (trace : List Record) : List Event :=
  (trace.filter (·.origin = o)).map (·.event)

section Reading

variable (call : Nat) (o : Origin) (rs ts : List Record) (es : List Event)

theorem Origin.records_append (es' : List Event) :
    o.records (es ++ es') = o.records es ++ o.records es' :=
  List.map_append

theorem Origin.origin_of_mem_records {o : Origin} {es : List Event} {r : Record}
    (h : r ∈ o.records es) : r.origin = o := by
  obtain ⟨e, -, rfl⟩ := List.mem_map.1 h
  rfl

theorem Origin.mem_records {o : Origin} {es : List Event} {r : Record} :
    r ∈ o.records es ↔ r.origin = o ∧ r.event ∈ es := by
  constructor
  · intro h
    obtain ⟨e, he, rfl⟩ := List.mem_map.1 h
    exact ⟨rfl, he⟩
  · rintro ⟨rfl, he⟩
    exact List.mem_map.2 ⟨r.event, he, rfl⟩

theorem Origin.mem_records_iff (e : Event) : (⟨o, e⟩ : Record) ∈ o.records es ↔ e ∈ es := by
  simp [records]

@[simp] theorem recordsOf_append : recordsOf call (rs ++ ts) = recordsOf call rs ++ recordsOf call ts :=
  List.filter_append ..

theorem recordsOf_of_forall (h : ∀ r ∈ rs, r.origin.call = call) : recordsOf call rs = rs :=
  List.filter_eq_self.2 fun r hr => decide_eq_true (h r hr)

theorem recordsOf_of_forall_ne (h : ∀ r ∈ rs, r.origin.call ≠ call) : recordsOf call rs = [] :=
  List.filter_eq_nil_iff.2 fun r hr => by simpa using h r hr

theorem mem_recordsOf_iff (r : Record) : r ∈ recordsOf call rs ↔ r ∈ rs ∧ r.origin.call = call := by
  simp [recordsOf]

theorem recordsOf_sublist : (recordsOf call rs).Sublist rs :=
  List.filter_sublist

@[simp] theorem eventsOf_nil : eventsOf o [] = [] := rfl

@[simp] theorem eventsOf_append : eventsOf o (rs ++ ts) = eventsOf o rs ++ eventsOf o ts := by
  simp [eventsOf]

@[simp] theorem eventsOf_records : eventsOf o (o.records es) = es := by
  have hfilter : (o.records es).filter (·.origin = o) = o.records es :=
    List.filter_eq_self.2 fun r hr => decide_eq_true (Origin.origin_of_mem_records hr)
  rw [eventsOf, hfilter, Origin.records, List.map_map]
  exact List.map_id es

theorem eventsOf_records_of_ne {o' : Origin} (h : o' ≠ o) : eventsOf o (o'.records es) = [] := by
  rw [eventsOf, List.map_eq_nil_iff, List.filter_eq_nil_iff]
  intro r hr
  rw [Origin.origin_of_mem_records hr]
  simpa using h

/-- What happened at an origin happened on behalf of its call. -/
theorem eventsOf_recordsOf : eventsOf o (recordsOf o.call rs) = eventsOf o rs := by
  unfold eventsOf recordsOf
  rw [List.filter_filter]
  congr 1
  apply List.filter_congr
  intro r _
  by_cases h : r.origin = o
  · simp [h]
  · simp [h]

theorem mem_eventsOf_iff (e : Event) : e ∈ eventsOf o rs ↔ (⟨o, e⟩ : Record) ∈ rs := by
  simp only [eventsOf, List.mem_map, List.mem_filter, decide_eq_true_eq]
  constructor
  · rintro ⟨⟨o', e'⟩, ⟨hr, ho⟩, he⟩
    subst ho he
    exact hr
  · intro hr
    exact ⟨⟨o, e⟩, ⟨hr, rfl⟩, rfl⟩

/-- A place in a list that has grown is new or was there before. -/
theorem split_append {α : Type} {trace new before after : List α} {x : α}
    (h : trace ++ new = before ++ x :: after) :
    (∃ gap, before = trace ++ gap ∧ new = gap ++ x :: after) ∨ ∃ more, trace = before ++ x :: more := by
  rcases List.append_eq_append_iff.1 h with ⟨gap, hbefore, hnew⟩ | ⟨gap, htrace, hafter⟩
  · exact .inl ⟨gap, hbefore, hnew⟩
  · -- The place is the first new one when nothing old is left behind `before`.
    cases gap with
    | nil => exact .inl ⟨[], by simpa using htrace.symm, hafter.symm⟩
    | cons y gap =>
      obtain ⟨rfl, -⟩ := List.cons.inj hafter
      exact .inr ⟨gap, htrace⟩

theorem split_concat {α : Type} {trace before after : List α} {r x : α}
    (h : trace ++ [r] = before ++ x :: after) :
    before = trace ∧ x = r ∨ ∃ more, trace = before ++ x :: more := by
  rcases split_append h with ⟨gap, hbefore, hlast⟩ | hmore
  · cases gap with
    | nil => exact .inl ⟨by simpa using hbefore, (List.cons.inj hlast).1.symm⟩
    | cons y gap => simp at hlast
  · exact .inr hmore

/-- The order of events at an origin is that of the trace. -/
theorem sublist_of_eventsOf {es : List Event} (h : es.Sublist (eventsOf o rs)) :
    (o.records es).Sublist rs := by
  -- A record is its origin and its event, so those of one origin can be made anew.
  have hfilter : o.records (eventsOf o rs) = rs.filter (·.origin = o) := by
    unfold Origin.records eventsOf
    rw [List.map_map]
    refine (List.map_congr_left fun r hr => ?_).trans (List.map_id _)
    have ho : r.origin = o := of_decide_eq_true (List.mem_filter.1 hr).2
    show (⟨o, r.event⟩ : Record) = r
    rw [← ho]
  have hsub : (o.records es).Sublist (o.records (eventsOf o rs)) := h.map _
  rw [hfilter] at hsub
  exact hsub.trans List.filter_sublist

end Reading

/-! ## 3. A small broker -/

namespace Sample

/-- A retriever whose cache keeps tokens for a second. -/
def retriever : ManagedRetriever :=
  ⟨⟨"http://node/token", "https://api/", .ofSeconds 1⟩, 0, 0⟩

/-- An authorizer whose parts draw from the bucket of the retriever. -/
def authorizer : Authorizer :=
  ⟨.managed retriever, ⟨.default, 0⟩⟩

/-- The selector of a client. -/
def selector : Selector :=
  .client ⟨"a1", by decide⟩

/-- The selector of the same client in capital letters. -/
def capitalSelector : Selector :=
  .client ⟨"A1", by decide⟩

/-- An answer whose body is a record of one text. -/
def answer (name text : String) : Reply :=
  .ofOutcome none (.ok ⟨200, [], Text.bytesOf ("\x7b\"" ++ name ++ "\":\"" ++ text ++ "\"\x7d")⟩)

/-- A state with two permits, where the retriever and then the registry answer. -/
def state : State :=
  .fresh 2 (.ofSeconds 1) [answer "access_token" "t", answer "refresh_token" "r"]

end Sample

end RegistryAuth
