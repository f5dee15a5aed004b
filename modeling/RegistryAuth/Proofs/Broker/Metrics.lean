import RegistryAuth.Proofs.Broker.Facade

/-!
# Metrics

An operation counts that it was attempted and then how it ended, and a look-up counts what it found.
After every run in which no call is under way the counts agree with each other and with the requests that
were sent, however the calls ended and whatever came between their polls.
-/

namespace RegistryAuth

/-! ## 1. Counts -/

/-- What an event lets be seen. -/
def Event.signal? : Event → Option Signal
  | .signal x => some x
  | _ => none

def Event.isSent : Event → Bool
  | .sent _ => true
  | _ => false

/-- All that a trace lets be seen, in its order. -/
def signalsOf (trace : List Record) : List Signal :=
  trace.filterMap (·.event.signal?)

/-- How often an outcome of an operation was counted. -/
def counted (op : Operation) (outcome : Outcome) (trace : List Record) : Nat :=
  (signalsOf trace).count (.counted op outcome)

/-- How often a look-up was counted that found this. -/
def lookedUp (found : Lookup) (trace : List Record) : Nat :=
  (signalsOf trace).count (.countedLookup found)

/-- How many requests an operation sent. -/
def dispatched (op : Operation) (trace : List Record) : Nat :=
  trace.countP fun r => r.origin.operation = some op && r.event.isSent

section Counting

variable (op : Operation) (outcome : Outcome) (found : Lookup) (rs ts : List Record) (o : Origin)
  (es : List Event)

theorem signalsOf_append : signalsOf (rs ++ ts) = signalsOf rs ++ signalsOf ts :=
  List.filterMap_append

theorem signalsOf_records : signalsOf (o.records es) = es.filterMap Event.signal? := by
  unfold signalsOf Origin.records
  rw [List.filterMap_map]
  rfl

@[simp] theorem counted_append :
    counted op outcome (rs ++ ts) = counted op outcome rs + counted op outcome ts := by
  unfold counted
  rw [signalsOf_append, List.count_append]

@[simp] theorem lookedUp_append :
    lookedUp found (rs ++ ts) = lookedUp found rs + lookedUp found ts := by
  unfold lookedUp
  rw [signalsOf_append, List.count_append]

@[simp] theorem dispatched_append :
    dispatched op (rs ++ ts) = dispatched op rs + dispatched op ts :=
  List.countP_append

theorem dispatched_records (ho : o.operation = some op) :
    dispatched op (o.records es) = es.countP Event.isSent := by
  unfold dispatched Origin.records
  rw [List.countP_map]
  refine List.countP_congr fun e _ => ?_
  simp [ho]

theorem dispatched_records_of_ne (ho : o.operation ≠ some op) : dispatched op (o.records es) = 0 := by
  unfold dispatched Origin.records
  rw [List.countP_map, List.countP_eq_zero]
  intro e _
  simp [ho]

variable {rs ts}

theorem counted_of_perm (h : rs.Perm ts) : counted op outcome rs = counted op outcome ts :=
  (h.filterMap _).count_eq _

theorem lookedUp_of_perm (h : rs.Perm ts) : lookedUp found rs = lookedUp found ts :=
  (h.filterMap _).count_eq _

theorem dispatched_of_perm (h : rs.Perm ts) : dispatched op rs = dispatched op ts :=
  h.countP_eq _

end Counting

/-- What an operation that began and ended with a result has added to a count. -/
def Operation.share (op : Operation) (result : Except Error AccessToken) (op' : Operation)
    (outcome : Outcome) : Nat :=
  if op = op' ∧ (outcome = .attempt ∨ outcome = .ofResult result) then 1 else 0

theorem Operation.share_attempt (op op' : Operation) (result : Except Error AccessToken) :
    op.share result op' .attempt = op.share result op' .success + op.share result op' .failure := by
  unfold share
  by_cases h : op = op'
  · cases result <;> simp [h, Outcome.ofResult]
  · simp [h]

theorem count_bracket (op op' : Operation) (outcome : Outcome) (result : Except Error AccessToken)
    (between : List Signal) (hbetween : Signal.counted op' outcome ∉ between) :
    ([Signal.began op, .counted op .attempt] ++ between ++
      [Signal.counted op (.ofResult result)]).count (Signal.counted op' outcome) =
      op.share result op' outcome := by
  rw [List.count_append, List.count_append, List.count_eq_zero.2 hbetween]
  unfold Operation.share
  by_cases h : op = op'
  · cases outcome <;> cases result <;> simp [h, Outcome.ofResult]
  · have hne : ∀ outcome', Signal.counted op outcome' ≠ .counted op' outcome := by
      intro outcome' heq
      exact h (Signal.counted.inj heq).1
    simp [h, hne]

/-! ## 2. What a trace should count -/

/-- What the counts of calls should come to when all calls have returned. -/
structure MetricsAccounted (trace : List Record) : Prop where
  /-- What was attempted succeeded or failed. -/
  attempts : ∀ op, counted op .attempt trace = counted op .success trace + counted op .failure trace
  /-- Each attempt for a managed identity looks its key up once. -/
  lookups : lookedUp .hit trace + lookedUp .miss trace + lookedUp .expired trace =
    counted .managedIdentity .attempt trace
  /-- Only a look-up that serves nothing leads to a request for metadata. -/
  requests : dispatched .managedIdentity trace ≤ lookedUp .miss trace + lookedUp .expired trace

/-- What the counts of calls should come to when the stages are used by authorizers only. -/
structure FacadeMetricsAccounted (trace : List Record) : Prop where
  /-- Each token that was retrieved is exchanged. -/
  exchanges : counted .registryExchange .attempt trace =
    counted .managedIdentity .success trace + counted .workloadIdentity .success trace
  /-- An authorizer succeeds when its exchange does. -/
  acquisitions : counted .acquireWithManagedIdentity .success trace +
    counted .acquireWithWorkloadIdentity .success trace = counted .registryExchange .success trace

theorem MetricsAccounted.nil : MetricsAccounted [] :=
  ⟨fun _ => rfl, rfl, Nat.le_refl 0⟩

theorem FacadeMetricsAccounted.nil : FacadeMetricsAccounted [] :=
  ⟨rfl, rfl⟩

section Parts

variable {rs ts before after : List Record}

theorem MetricsAccounted.append (h : MetricsAccounted rs) (h' : MetricsAccounted ts) :
    MetricsAccounted (rs ++ ts) := by
  constructor
  · intro op
    have hrs := h.attempts op
    have hts := h'.attempts op
    rw [counted_append, counted_append, counted_append]
    omega
  · have hrs := h.lookups
    have hts := h'.lookups
    rw [lookedUp_append, lookedUp_append, lookedUp_append, counted_append]
    omega
  · have hrs := h.requests
    have hts := h'.requests
    rw [dispatched_append, lookedUp_append, lookedUp_append]
    omega

theorem FacadeMetricsAccounted.of_counts {trace : List Record} (count : Operation → Outcome → Nat)
    (hcount : ∀ op outcome, counted op outcome trace = count op outcome)
    (hexchanges : count .registryExchange .attempt =
      count .managedIdentity .success + count .workloadIdentity .success)
    (hacquisitions : count .acquireWithManagedIdentity .success +
      count .acquireWithWorkloadIdentity .success = count .registryExchange .success) :
    FacadeMetricsAccounted trace := by
  constructor
  · rw [hcount, hcount, hcount]
    exact hexchanges
  · rw [hcount, hcount, hcount]
    exact hacquisitions

theorem FacadeMetricsAccounted.append (h : FacadeMetricsAccounted rs)
    (h' : FacadeMetricsAccounted ts) : FacadeMetricsAccounted (rs ++ ts) := by
  constructor
  · have hrs := h.exchanges
    have hts := h'.exchanges
    rw [counted_append, counted_append, counted_append]
    omega
  · have hrs := h.acquisitions
    have hts := h'.acquisitions
    rw [counted_append, counted_append, counted_append]
    omega

theorem MetricsAccounted.of_perm (hperm : rs.Perm ts) (h : MetricsAccounted rs) :
    MetricsAccounted ts := by
  constructor
  · intro op
    rw [← counted_of_perm op _ hperm, ← counted_of_perm op _ hperm, ← counted_of_perm op _ hperm]
    exact h.attempts op
  · rw [← lookedUp_of_perm _ hperm, ← lookedUp_of_perm _ hperm, ← lookedUp_of_perm _ hperm,
      ← counted_of_perm _ _ hperm]
    exact h.lookups
  · rw [← dispatched_of_perm _ hperm, ← lookedUp_of_perm _ hperm, ← lookedUp_of_perm _ hperm]
    exact h.requests

theorem FacadeMetricsAccounted.of_perm (hperm : rs.Perm ts) (h : FacadeMetricsAccounted rs) :
    FacadeMetricsAccounted ts := by
  constructor
  · rw [← counted_of_perm _ _ hperm, ← counted_of_perm _ _ hperm, ← counted_of_perm _ _ hperm]
    exact h.exchanges
  · rw [← counted_of_perm _ _ hperm, ← counted_of_perm _ _ hperm, ← counted_of_perm _ _ hperm]
    exact h.acquisitions

/-- What holds of the beginning and the end of an operation and of what lies within holds of all. -/
theorem MetricsAccounted.around (h : MetricsAccounted (before ++ after)) (hrs : MetricsAccounted rs) :
    MetricsAccounted (before ++ rs ++ after) := by
  apply of_perm _ (h.append hrs)
  rw [List.append_assoc, List.append_assoc]
  exact List.perm_append_comm.append_left before

/-- What holds of nothing, and of parts together in whatever order, holds of a trace when it holds of
what each call has done. -/
theorem of_recordsOf {P : List Record → Prop} (hnil : P [])
    (happend : ∀ {rs ts}, P rs → P ts → P (rs ++ ts))
    (hperm : ∀ {rs ts : List Record}, rs.Perm ts → P rs → P ts) {n : Nat} {trace : List Record}
    (hknown : ∀ r ∈ trace, r.origin.call < n) (h : ∀ i < n, P (recordsOf i trace)) : P trace := by
  -- By induction on the number of calls: what the last one has done is taken out of the trace.
  induction n generalizing trace with
  | zero =>
    have hnone : trace = [] :=
      List.eq_nil_iff_forall_not_mem.2 fun r hr => Nat.not_lt_zero _ (hknown r hr)
    rw [hnone]
    exact hnil
  | succ n ih =>
    have hrest : P (trace.filter (fun r => !decide (r.origin.call = n))) := by
      apply ih
      · intro r hr
        have hmem := List.mem_filter.1 hr
        have hlt := hknown r hmem.1
        have hne : r.origin.call ≠ n := by simpa using hmem.2
        omega
      · intro i hi
        have hsame : recordsOf i (trace.filter (fun r => !decide (r.origin.call = n))) = recordsOf i trace := by
          unfold recordsOf
          rw [List.filter_filter]
          refine List.filter_congr fun r _ => ?_
          by_cases hr : r.origin.call = i
          · simp [hr, Nat.ne_of_lt hi]
          · simp [hr]
        rw [hsame]
        exact h i (Nat.lt_succ_of_lt hi)
    exact hperm (List.filter_append_perm _ trace) (happend (h n (Nat.lt_succ_self n)) hrest)

end Parts

/-! ## 3. What a stage counts -/

namespace Stage

variable {g : Stage} {es : List Event} {result : Except Error AccessToken}

@[simp] theorem signals_told (reply : Reply) : reply.told.filterMap Event.signal? = [] := by
  unfold Reply.told
  cases reply.cancels <;> rfl

@[simp] theorem signals_keeping (now : Instant) :
    (g.keeping now result).filterMap Event.signal? = [] := by
  unfold keeping
  split <;> rfl

/-- What a stage lets be seen once its look-up has served nothing is how it ends. -/
theorem Asked.signals (h : g.Asked es (.ended result)) :
    es.filterMap Event.signal? = [.counted g.operation (.ofResult result)] := by
  cases h with
  | refused hp => rfl
  | withdrawn => rfl
  | unmade hp he => rfl
  | settled hp hr => simp [Operation.closing, List.filterMap_cons, Event.signal?]
  | abandoned hp ht =>
    rcases ht with rfl | ⟨reply, rfl⟩
    · rfl
    · simp [Operation.closing, List.filterMap_cons, Event.signal?]

theorem countP_isSent (es : List Event) :
    es.countP Event.isSent = (es.filter Event.isSpending).countP Event.isSent := by
  rw [List.countP_filter]
  refine List.countP_congr fun e _ => ?_
  cases e <;> simp [Event.isSent, Event.isSpending]

theorem Course.isSent_le_one {turn : Turn} (h : g.Course es turn) : es.countP Event.isSent ≤ 1 := by
  rw [countP_isSent]
  obtain ⟨spent, hspent⟩ : ∃ spent, es.filter Event.isSpending = spent := ⟨_, rfl⟩
  have honce := h.spent
  rw [hspent] at honce ⊢
  cases honce with
  | nothing => exact Nat.zero_le 1
  | permit => exact Nat.zero_le 1
  | request q => exact Nat.le_refl 1

/-- What a stage that ended has let be seen: its beginning, its look-up and its end.  It sent nothing if
the look-up served it. -/
theorem Course.signals (h : g.Course es (.ended result)) :
    ∃ served found, g.Found served found ∧ (served.isSome = true → es.countP Event.isSent = 0) ∧
      es.filterMap Event.signal? = [.began g.operation, .counted g.operation .attempt] ++
        found.filterMap Event.signal? ++ [.counted g.operation (.ofResult result)] := by
  cases h with
  | @served found token hf =>
    refine ⟨some token, found, hf, fun _ => ?_, ?_⟩
    · rw [countP_isSent, List.filter_append, List.filter_append, hf.spending]
      rfl
    · rw [List.filterMap_append, List.filterMap_append]
      rfl
  | @missed found asked _ hf ha =>
    refine ⟨none, found, hf, fun hserved => Bool.noConfusion hserved, ?_⟩
    rw [List.filterMap_append, List.filterMap_append, ha.signals]
    rfl

/-- Of the signals of a look-up none counts an outcome. -/
theorem Found.counted_not_mem {served : Option AccessToken} (h : g.Found served es) (op : Operation)
    (outcome : Outcome) : .counted op outcome ∉ es.filterMap Event.signal? := by
  cases h with
  | managed hhit => simp [List.filterMap_cons, Event.signal?]
  | workload => simp
  | exchange => simp

variable {o : Origin}

theorem Course.counted (h : g.Course es (.ended result)) (op : Operation) (outcome : Outcome) :
    counted op outcome (o.records es) = g.operation.share result op outcome := by
  obtain ⟨served, found, hf, -, hsignals⟩ := h.signals
  unfold RegistryAuth.counted
  rw [signalsOf_records, hsignals]
  exact count_bracket _ _ _ _ _ (hf.counted_not_mem op outcome)

/-- A look-up is counted as what the signals between a stage's beginning and its end say. -/
theorem Course.lookedUp {found : List Event} (hsignals : es.filterMap Event.signal? =
      [.began g.operation, .counted g.operation .attempt] ++ found.filterMap Event.signal? ++
        [.counted g.operation (.ofResult result)]) (look : Lookup) :
    lookedUp look (o.records es) = (found.filterMap Event.signal?).count (.countedLookup look) := by
  unfold RegistryAuth.lookedUp
  rw [signalsOf_records, hsignals]
  simp

/-- The counts of a stage that ended agree. -/
theorem Course.metrics (h : g.Course es (.ended result))
    (ho : o.operation = some g.operation) : MetricsAccounted (o.records es) := by
  obtain ⟨served, found, hf, hserved, hsignals⟩ := h.signals
  have hlooked := Course.lookedUp (o := o) hsignals
  refine ⟨fun op => ?_, ?_, ?_⟩
  · rw [h.counted, h.counted, h.counted]
    exact g.operation.share_attempt op result
  · rw [hlooked, hlooked, hlooked, h.counted]
    cases hf with
    | @managed r selector served now look hhit => cases look <;> rfl
    | workload => rfl
    | exchange => rfl
  · rw [hlooked, hlooked]
    cases hf with
    | @managed r selector served now look hhit =>
      have hmanaged : o.operation = some .managedIdentity := ho
      have hle := h.isSent_le_one
      rw [dispatched_records _ _ _ hmanaged]
      cases look with
      | hit =>
        rw [hserved (hhit.1 rfl)]
        exact Nat.zero_le _
      | miss => exact hle
      | expired => exact hle
    | workload =>
      have hne : o.operation ≠ some .managedIdentity := by simp [ho, Stage.operation]
      rw [dispatched_records_of_ne _ _ _ hne]
      exact Nat.zero_le _
    | exchange =>
      have hne : o.operation ≠ some .managedIdentity := by simp [ho, Stage.operation]
      rw [dispatched_records_of_ne _ _ _ hne]
      exact Nat.zero_le _

end Stage

/-! ## 4. What a call counts -/

/-- Whether a call stands within a stage. -/
def Phase.isRunning : Phase → Bool
  | .running .. => true
  | _ => false

/-- Whether a command uses a stage beside all authorizers. -/
def Command.isDirect : Command → Bool
  | .stage _ | .exchangeByClaims .. => true
  | _ => false

namespace Operation

theorem counted_bracket (op op' : Operation) (outcome : Outcome) (result : Except Error AccessToken)
    (o : Origin) : counted op' outcome (o.records (op.opening ++ op.closing result)) =
      op.share result op' outcome := by
  unfold counted
  rw [signalsOf_records]
  exact count_bracket op op' outcome result [] List.not_mem_nil

theorem counted_within (op op' : Operation) (outcome : Outcome) (result : Except Error AccessToken)
    (o : Origin) (rs : List Record) :
    counted op' outcome (o.records op.opening ++ rs ++ o.records (op.closing result)) =
      op.share result op' outcome + counted op' outcome rs := by
  have hbracket := counted_bracket op op' outcome result o
  rw [Origin.records_append, counted_append] at hbracket
  rw [counted_append, counted_append]
  omega

/-- An operation that looks nothing up and sends nothing leaves the counts in agreement. -/
theorem metrics_bracket {op : Operation} (hop : op ≠ .managedIdentity)
    (result : Except Error AccessToken) (o : Origin) :
    MetricsAccounted (o.records (op.opening ++ op.closing result)) := by
  have hlooked : ∀ look, lookedUp look (o.records (op.opening ++ op.closing result)) = 0 := by
    intro look
    unfold lookedUp
    rw [signalsOf_records]
    simp [opening, closing, List.filterMap_cons, Event.signal?]
  have hsent : dispatched .managedIdentity (o.records (op.opening ++ op.closing result)) = 0 := by
    unfold dispatched
    rw [List.countP_eq_zero]
    intro r hr
    have hevent := (Origin.mem_records.1 hr).2
    simp only [opening, closing, List.cons_append, List.nil_append, List.mem_cons,
      List.not_mem_nil, or_false] at hevent
    rcases hevent with h | h | h | h <;> simp [h, Event.isSent]
  refine ⟨fun op' => ?_, ?_, ?_⟩
  · rw [counted_bracket, counted_bracket, counted_bracket]
    exact op.share_attempt op' result
  · rw [hlooked, hlooked, hlooked, counted_bracket]
    simp [share, hop]
  · rw [hsent]
    exact Nat.zero_le _

theorem metrics_within {op : Operation} (hop : op ≠ .managedIdentity) {rs : List Record}
    (h : MetricsAccounted rs) (result : Except Error AccessToken) (o : Origin) :
    MetricsAccounted (o.records op.opening ++ rs ++ o.records (op.closing result)) := by
  have hbracket := metrics_bracket hop result o
  rw [Origin.records_append] at hbracket
  exact hbracket.around h

end Operation

theorem metrics_of_plain {rs : List Record} {o : Origin}
    (h : ∀ r ∈ rs, r.origin = o ∧ r.event.isPlain = true) :
    MetricsAccounted rs ∧ FacadeMetricsAccounted rs := by
  have hnone : signalsOf rs = [] := by
    refine List.filterMap_eq_nil_iff.2 fun r hr => ?_
    have hplain := (h r hr).2
    cases hevent : r.event <;> simp_all [Event.isPlain, Event.signal?]
  have hcounted : ∀ op outcome, counted op outcome rs = 0 := by
    intro op outcome
    simp [counted, hnone]
  have hlooked : ∀ look, lookedUp look rs = 0 := by
    intro look
    simp [lookedUp, hnone]
  have hsent : dispatched .managedIdentity rs = 0 := by
    refine List.countP_eq_zero.2 fun r hr => ?_
    have hplain := (h r hr).2
    cases hevent : r.event <;> simp_all [Event.isPlain, Event.isSent]
  constructor
  · constructor <;> simp [hcounted, hlooked, hsent]
  · constructor <;> simp [hcounted]

namespace Call

variable {c : Caller} {command : Command} {rs : List Record} {phase : Phase}

theorem operationOf_ne_managedIdentity (credential : Credential) :
    operationOf credential ≠ .managedIdentity := by
  cases credential <;> exact Operation.noConfusion

/-- The counts of a call that stands within no stage agree. -/
theorem History.metrics (h : History c command rs phase) (hidle : phase.isRunning = false) :
    MetricsAccounted rs := by
  cases h with
  | unpolled => exact .nil
  | unclaimed h => exact .nil
  | @alone g es turn h =>
    cases turn with
    | going p => exact Bool.noConfusion hidle
    | ended result => exact h.metrics rfl
  | @byClaims x token host tenant g es turn ht hg h =>
    cases turn with
    | going p => exact Bool.noConfusion hidle
    | ended result => exact h.metrics rfl
  | mismatched hop h he =>
    subst hop
    exact Operation.metrics_bracket (operationOf_ne_managedIdentity _) _ _
  | retrieving hop hg h => exact Bool.noConfusion hidle
  | unretrieved hop hg h =>
    subst hop
    exact Operation.metrics_within (operationOf_ne_managedIdentity _) (h.metrics rfl) _ _
  | @retrieved a credential host op g x es es' token turn hop hg h hx h' =>
    subst hop
    cases turn with
    | going p => exact Bool.noConfusion hidle
    | ended result =>
      have hretrieval : MetricsAccounted ((g.origin c).records es) := h.metrics rfl
      have hexchange : MetricsAccounted ((x.origin c).records es') := h'.metrics rfl
      rw [List.append_assoc (Origin.records _ _)]
      exact Operation.metrics_within (operationOf_ne_managedIdentity _)
        (hretrieval.append hexchange) _ _
  | plain hc hp hr => exact (metrics_of_plain hr).1

/-- The counts of an authorizer's call that stands within no stage agree with those of its stages. -/
theorem History.facade_metrics (h : History c command rs phase)
    (hidle : phase.isRunning = false) (hfacade : command.isDirect = false) :
    FacadeMetricsAccounted rs := by
  cases h with
  | unpolled => exact .nil
  | unclaimed h => exact Bool.noConfusion hfacade
  | alone h => exact Bool.noConfusion hfacade
  | byClaims ht hg h => exact Bool.noConfusion hfacade
  | @mismatched a credential host op e hop h he =>
    subst hop
    apply FacadeMetricsAccounted.of_counts _ fun op outcome => Operation.counted_bracket _ op outcome _ _
    · cases credential <;> rfl
    · cases credential <;> rfl
  | retrieving hop hg h => exact Bool.noConfusion hidle
  | @unretrieved a credential host op g es e hop hg h =>
    subst hop
    -- Nothing succeeds, so nothing is exchanged.
    apply FacadeMetricsAccounted.of_counts fun op outcome => _
    · intro op outcome
      rw [Operation.counted_within, h.counted, operation_eq_retrieval hg]
    · cases credential <;> rfl
    · cases credential <;> rfl
  | @retrieved a credential host op g x es es' token turn hop hg h hx h' =>
    subst hop
    cases turn with
    | going p => exact Bool.noConfusion hidle
    | ended result =>
      have hexchange : x.operation = .registryExchange := by rw [hx]; rfl
      have hclosing : facadeClosing (operationOf credential) (.ended result) =
        (operationOf credential).closing (result.mapError (.operation (operationOf credential))) := rfl
      rw [hclosing, List.append_assoc (Origin.records _ _)]
      apply FacadeMetricsAccounted.of_counts fun op outcome => _
      · intro op outcome
        rw [Operation.counted_within, counted_append, h.counted, h'.counted,
          operation_eq_retrieval hg, hexchange]
      · cases credential <;> cases result <;> rfl
      · cases credential <;> cases result <;> rfl
  | plain hc hp hr => exact (metrics_of_plain hr).2

end Call

/-! ## 5. Runs -/

namespace Traffic

/-- When no call is under way, every attempt has been counted as a success or a failure, look-ups are as
many as attempts for managed identities, and no request for metadata was sent on a hit.  Where stages are
used by authorizers only, each retrieved token has been exchanged, and an authorizer has succeeded
whenever its exchange did. -/
theorem attempts_match_outcomes {s : State} (htrace : s.trace = []) (ms : List Move)
    (hidle : ∀ c ∈ ((ofState s).run ms).calls, c.phase.isRunning = false) :
    MetricsAccounted ((ofState s).run ms).state.trace ∧
      ((∀ made ∈ Move.made ms, made.2.isDirect = false) →
        FacadeMetricsAccounted ((ofState s).run ms).state.trace) := by
  have hrecorded := recorded_run htrace ms
  constructor
  · apply of_recordsOf .nil .append .of_perm hrecorded.known
    intro i hi
    have hcall := List.getElem?_eq_getElem hi
    obtain ⟨name, command, hmade, -, hhistory⟩ := hrecorded.of_calls hcall
    exact hhistory.metrics (hidle _ (List.getElem_mem hi))
  · intro hfacade
    apply of_recordsOf .nil .append .of_perm hrecorded.known
    intro i hi
    have hcall := List.getElem?_eq_getElem hi
    obtain ⟨name, command, hmade, -, hhistory⟩ := hrecorded.of_calls hcall
    exact hhistory.facade_metrics (hidle _ (List.getElem_mem hi))
      (hfacade _ (List.mem_of_getElem? hmade))

/-- A call that succeeds, one that its cache serves and that is cancelled before its exchange, and one
that is refused for its flow. -/
def countedCalls : List Move :=
  [.call "first" (.authorize Sample.authorizer (.managed Sample.selector none) "registry.io"),
    .call "second" (.authorize Sample.authorizer (.managed Sample.capitalSelector none) "registry.io"),
    .call "third" (.authorize Sample.authorizer
      (.workload ⟨"tenant", by decide⟩ ⟨"client", by decide⟩) "registry.io"),
    .call "second" .cancel, .poll 0, .poll 1, .poll 3, .poll 1, .poll 2]

/-- Both look-ups of the calls are counted, of which one was a hit, and one request for metadata was
sent. -/
theorem metrics_of_counted_calls :
    (∀ c ∈ ((ofState Sample.state).run countedCalls).calls, c.phase.isRunning = false) ∧
    (∀ made ∈ Move.made countedCalls, made.2.isDirect = false) ∧
    lookedUp .hit ((ofState Sample.state).run countedCalls).state.trace = 1 ∧
    lookedUp .miss ((ofState Sample.state).run countedCalls).state.trace = 1 ∧
    dispatched .managedIdentity ((ofState Sample.state).run countedCalls).state.trace = 1 ∧
    MetricsAccounted ((ofState Sample.state).run countedCalls).state.trace ∧
    FacadeMetricsAccounted ((ofState Sample.state).run countedCalls).state.trace := by
  have hidle : ∀ c ∈ ((ofState Sample.state).run countedCalls).calls, c.phase.isRunning = false := by
    decide +kernel
  have hfacade : ∀ made ∈ Move.made countedCalls, made.2.isDirect = false := by
    decide +kernel
  have haccounted := attempts_match_outcomes (s := Sample.state) rfl countedCalls hidle
  exact ⟨hidle, hfacade, by decide +kernel, by decide +kernel, by decide +kernel, haccounted.1,
    haccounted.2 hfacade⟩

end Traffic

end RegistryAuth
