import RegistryAuth.Proofs.Broker.Traffic

/-!
# Slots side by side

The handle of a request puts the metadata of the response into a slot that it shares with the stage that
sent the request.  `Desk` holds the slots of all calls side by side: however their uses interleave, each
stage finds its slot empty when it sends, and takes out what its own handle put in.  Every trace in which
a stage has one request at most goes with such a use: `SlotAct.lawful_ofTrace`.
-/

namespace RegistryAuth

/-! ## 1. One request -/

/-- Whether an event is that a request is sent or settled. -/
def Event.isDispatch : Event → Bool
  | .sent _ | .settled .. => true
  | _ => false

/-- What may have become of the one request of a stage. -/
inductive DispatchedOnce : List Event → Prop
  | unsent : DispatchedOnce []
  | unsettled (q : Http.Request) : DispatchedOnce [.sent q]
  | settled (q : Http.Request) (slot : Http.Slot) (outcome : Except Http.Failure Http.Response) :
    DispatchedOnce [.sent q, .settled slot outcome]

theorem DispatchedOnce.of_settled {before after : List Event} {slot : Http.Slot}
    {outcome : Except Http.Failure Http.Response}
    (h : DispatchedOnce (before ++ .settled slot outcome :: after)) : ∃ q, before = [.sent q] := by
  generalize hes : before ++ .settled slot outcome :: after = es at h
  cases h with
  | unsent => simp at hes
  | unsettled q' => simp [List.append_eq_cons_iff] at hes
  | settled q' slot' outcome' =>
    have hbefore : before = [.sent q'] := by
      simp [List.append_eq_cons_iff, List.cons_eq_append_iff] at hes
      exact hes.1
    exact ⟨q', hbefore⟩

theorem DispatchedOnce.of_append {es es' : List Event} (h : DispatchedOnce (es ++ es')) :
    DispatchedOnce es := by
  generalize hes : es ++ es' = all at h
  cases h with
  | unsent =>
    obtain ⟨rfl, -⟩ := List.append_eq_nil_iff.1 hes
    exact .unsent
  | unsettled q =>
    rcases List.append_eq_singleton_iff.1 hes with ⟨rfl, -⟩ | ⟨rfl, -⟩
    · exact .unsent
    · exact .unsettled q
  | settled q slot outcome =>
    rcases List.append_eq_cons_iff.1 hes with ⟨rfl, -⟩ | ⟨rest, rfl, hrest⟩
    · exact .unsent
    · rcases List.append_eq_singleton_iff.1 hrest.symm with ⟨rfl, -⟩ | ⟨rfl, -⟩
      · exact .unsettled q
      · exact .settled q slot outcome

/-! ## 2. Slots side by side -/

/-- What happens to slots, in the order in which it happens, beside the records of a trace. -/
inductive SlotAct where
  /-- A stage makes an empty slot for the request that it is to send. -/
  | made (o : Origin)
  /-- The handle of a request puts the metadata of the response into its slot. -/
  | arrived (o : Origin) (metadata : Http.Metadata)
  | recorded (r : Record)

def SlotAct.origin : SlotAct → Origin
  | .made o | .arrived o _ => o
  | .recorded r => r.origin

/-- The record of an act that is one of the trace. -/
def SlotAct.record? : SlotAct → Option Record
  | .recorded r => some r
  | _ => none

/-- The metadata that an act puts into the slot of an origin. -/
def SlotAct.arrival? (o : Origin) : SlotAct → Option Http.Metadata
  | .arrived o' metadata => if o' = o then some metadata else none
  | _ => none

/-- What the handle of an origin has put into its slot last. -/
def lastArrived? (o : Origin) (acts : List SlotAct) : Http.Slot :=
  (acts.filterMap (SlotAct.arrival? o)).getLast?

theorem arrivals_eq_nil {o : Origin} {acts : List SlotAct}
    (h : ∀ metadata, .arrived o metadata ∉ acts) : acts.filterMap (SlotAct.arrival? o) = [] := by
  refine List.filterMap_eq_nil_iff.2 fun a ha => ?_
  cases a with
  | arrived o' metadata =>
    refine if_neg fun ho => ?_
    rw [ho] at ha
    exact h metadata ha
  | _ => rfl

theorem lastArrived?_concat (o : Origin) (acts : List SlotAct) (a : SlotAct) :
    lastArrived? o (acts ++ [a]) = (a.arrival? o).or (lastArrived? o acts) := by
  unfold lastArrived?
  rw [List.filterMap_append]
  cases h : a.arrival? o with
  | none => simp [h]
  | some metadata => simp [h]

/-- The slots of all calls, numbered as they were made, and which of them is whose. -/
structure Desk where
  slots : List Http.Slot
  owned : Origin → Option Nat

namespace Desk

def empty : Desk :=
  ⟨[], fun _ => none⟩

def make (d : Desk) (o : Origin) : Desk :=
  ⟨d.slots ++ [none], Function.update d.owned o (some d.slots.length)⟩

/-- Does something to the slot of an origin. -/
def use (d : Desk) (o : Origin) (f : Http.Slot → Http.Slot) : Desk :=
  match d.owned o with
  | some n => { d with slots := d.slots.modify n f }
  | none => d

/-- What an act does to the slots: the handle empties its slot before it sends, and the stage takes out
what is there when its request is settled. -/
def act (d : Desk) : SlotAct → Desk
  | .made o => d.make o
  | .arrived o metadata => d.use o (·.store metadata)
  | .recorded r => if r.event.isDispatch then d.use r.origin (·.take.2) else d

def run (acts : List SlotAct) : Desk :=
  acts.foldl act empty

/-- Different origins have different slots. -/
structure Apart (d : Desk) : Prop where
  bounded : ∀ o n, d.owned o = some n → n < d.slots.length
  injective : ∀ o o' n, d.owned o = some n → d.owned o' = some n → o = o'

section Contents

variable {d : Desk} {o o' : Origin} {f : Http.Slot → Http.Slot}

theorem owned_make_self : (d.make o).owned o = some d.slots.length :=
  Function.update_self ..

theorem owned_make_of_ne (hne : o' ≠ o) : (d.make o).owned o' = d.owned o' :=
  Function.update_of_ne hne ..

theorem slots_make : (d.make o).slots = d.slots ++ [none] := rfl

theorem Apart.make (h : d.Apart) (o : Origin) : (d.make o).Apart := by
  have hold : ∀ o' n, (d.make o).owned o' = some n →
      o' = o ∧ n = d.slots.length ∨ o' ≠ o ∧ d.owned o' = some n := by
    intro o' n ho'
    by_cases hsame : o' = o
    · rw [hsame, owned_make_self] at ho'
      exact .inl ⟨hsame, (Option.some.inj ho').symm⟩
    · rw [owned_make_of_ne hsame] at ho'
      exact .inr ⟨hsame, ho'⟩
  constructor
  · intro o' n ho'
    rw [slots_make, List.length_append, List.length_singleton]
    rcases hold o' n ho' with ⟨-, hn⟩ | ⟨-, hn⟩
    · omega
    · have hlt := h.bounded o' n hn
      omega
  · intro o₁ o₂ n h₁ h₂
    -- A number that was given out before is not the one of the new slot.
    rcases hold o₁ n h₁ with ⟨ho₁, hn₁⟩ | ⟨-, hn₁⟩
    · rcases hold o₂ n h₂ with ⟨ho₂, -⟩ | ⟨-, hn₂⟩
      · rw [ho₁, ho₂]
      · have hlt := h.bounded o₂ n hn₂
        omega
    · rcases hold o₂ n h₂ with ⟨-, hn₂⟩ | ⟨-, hn₂⟩
      · have hlt := h.bounded o₁ n hn₁
        omega
      · exact h.injective o₁ o₂ n hn₁ hn₂

theorem owned_use (d : Desk) (o : Origin) (f : Http.Slot → Http.Slot) : (d.use o f).owned = d.owned := by
  unfold use
  split <;> rfl

theorem length_use (d : Desk) (o : Origin) (f : Http.Slot → Http.Slot) :
    (d.use o f).slots.length = d.slots.length := by
  unfold use
  split
  · exact List.length_modify ..
  · rfl

theorem Apart.use (h : d.Apart) (o : Origin) (f : Http.Slot → Http.Slot) : (d.use o f).Apart where
  bounded := by
    rw [owned_use, length_use]
    exact h.bounded
  injective := by
    rw [owned_use]
    exact h.injective

theorem Apart.act (h : d.Apart) (a : SlotAct) : (d.act a).Apart := by
  cases a with
  | made o => exact h.make o
  | arrived o metadata => exact h.use o _
  | recorded r =>
    show (if r.event.isDispatch then d.use r.origin (·.take.2) else d).Apart
    split
    · exact h.use r.origin _
    · exact h

theorem run_concat (acts : List SlotAct) (a : SlotAct) : run (acts ++ [a]) = (run acts).act a := by
  unfold run
  rw [List.foldl_append]
  rfl

end Contents

section Runs

variable {d : Desk} {o : Origin} {a : SlotAct}

end Runs

end Desk

/-! ## 3. Lawful uses -/

namespace SlotAct

def isMadeBy (o : Origin) : SlotAct → Bool
  | .made o' => o' = o
  | _ => false

def isSentBy (o : Origin) : SlotAct → Bool
  | .recorded ⟨o', .sent _⟩ => o' = o
  | _ => false

/-- Whether stages and handles would act so, between what comes before and after it: a stage makes one slot,
before it sends its request; the handle puts metadata there only after that; and the last of them are those
that the request is settled with. -/
def isLawfulAt (before after : List SlotAct) : SlotAct → Bool
  | .made o => !after.any (isMadeBy o)
  | .arrived o _ => before.any (isSentBy o)
  | .recorded ⟨o, .sent _⟩ => before.any (isMadeBy o)
  | .recorded ⟨o, .settled slot _⟩ => slot = lastArrived? o before
  | .recorded _ => true

/-- Whether all slots are used as stages and handles use them. -/
def Lawful (acts : List SlotAct) : Prop :=
  ∀ i (h : i < acts.length), isLawfulAt (acts.take i) (acts.drop (i + 1)) acts[i] = true

instance (acts : List SlotAct) : Decidable (Lawful acts) :=
  inferInstanceAs (Decidable (∀ i, ∀ _ : i < acts.length, _ = true))

theorem mem_of_isMadeBy {o : Origin} {acts : List SlotAct} (h : acts.any (isMadeBy o) = true) :
    .made o ∈ acts := by
  obtain ⟨a, ha, hmade⟩ := List.any_eq_true.1 h
  cases a with
  | made o' =>
    rw [← of_decide_eq_true hmade]
    exact ha
  | _ => exact Bool.noConfusion hmade

theorem Lawful.at_split {acts before after : List SlotAct} {a : SlotAct} (h : Lawful acts)
    (hacts : acts = before ++ a :: after) : isLawfulAt before after a = true := by
  subst hacts
  have hlt : before.length < (before ++ a :: after).length := by simp
  simpa using h before.length hlt

theorem Lawful.of_split {acts : List SlotAct}
    (h : ∀ before a after, acts = before ++ a :: after → isLawfulAt before after a = true) : Lawful acts := by
  intro i hi
  apply h
  rw [List.getElem_cons_drop, List.take_append_drop]

/-- A lawful use goes on with an act that is lawful by then, and makes no slot anew. -/
theorem Lawful.concat {acts : List SlotAct} {a : SlotAct} (h : Lawful acts)
    (ha : isLawfulAt acts [] a = true) (hnew : ∀ o, a = .made o → .made o ∉ acts) :
    Lawful (acts ++ [a]) := by
  refine .of_split fun before x after hsplit => ?_
  rcases split_concat hsplit with ⟨rfl, rfl⟩ | ⟨more, hmore⟩
  · obtain rfl : after = [] := by simpa using hsplit
    exact ha
  · obtain rfl : after = more ++ [a] := by
      rw [hmore, List.append_assoc] at hsplit
      exact (List.cons.inj (List.append_cancel_left hsplit)).2.symm
    have hx := h.at_split hmore
    -- What is lawful depends on what comes later only where a slot is made.
    cases x with
    | made o =>
      have hone : isMadeBy o a = false := by
        by_contra hmade
        rw [Bool.not_eq_false] at hmade
        have hmem : .made o ∈ [a] := mem_of_isMadeBy (by simpa using hmade)
        refine hnew o (List.mem_singleton.1 hmem).symm ?_
        rw [hmore]
        exact List.mem_append_right _ List.mem_cons_self
      have hold : more.any (isMadeBy o) = false := by simpa [isLawfulAt] using hx
      simp [isLawfulAt, hold, hone]
    | arrived o metadata => exact hx
    | recorded r =>
      obtain ⟨o, e⟩ := r
      cases e <;> exact hx

end SlotAct

/-- The records of acts, in their order. -/
def SlotAct.trace (acts : List SlotAct) : List Record :=
  acts.filterMap SlotAct.record?

namespace SlotAct

variable {acts before after : List SlotAct} {o : Origin} {q : Http.Request}

theorem trace_flatMap {use : Record → List SlotAct} (h : ∀ r, trace (use r) = [r]) (rs : List Record) :
    trace (rs.flatMap use) = rs := by
  induction rs with
  | nil => rfl
  | cons r rs ih =>
    have happend : trace (use r ++ rs.flatMap use) = trace (use r) ++ trace (rs.flatMap use) :=
      List.filterMap_append
    rw [List.flatMap_cons, happend, h, ih]
    rfl

/-- How slots are used around a record: one is made just before the request is sent, and what it is settled
with arrives just before. -/
def ofRecord (r : Record) : List SlotAct :=
  match r.event with
  | .sent _ => [.made r.origin, .recorded r]
  | .settled slot _ => (slot.map (.arrived r.origin)).toList ++ [.recorded r]
  | _ => [.recorded r]

def ofTrace (rs : List Record) : List SlotAct :=
  rs.flatMap ofRecord

theorem trace_ofRecord (r : Record) : trace (ofRecord r) = [r] := by
  unfold ofRecord
  split
  · rfl
  · rename_i slot outcome _
    cases slot <;> rfl
  · rfl

theorem trace_ofTrace (rs : List Record) : trace (ofTrace rs) = rs :=
  trace_flatMap trace_ofRecord rs

theorem ofTrace_concat (rs : List Record) (r : Record) : ofTrace (rs ++ [r]) = ofTrace rs ++ ofRecord r := by
  simp [ofTrace]

theorem mem_ofTrace {rs : List Record} {r : Record} : .recorded r ∈ ofTrace rs ↔ r ∈ rs := by
  constructor
  · intro h
    rw [← trace_ofTrace rs]
    exact List.mem_filterMap.2 ⟨_, h, rfl⟩
  · intro h
    refine List.mem_flatMap.2 ⟨r, h, ?_⟩
    unfold ofRecord
    split <;> simp

theorem exists_of_made_mem {rs : List Record} (h : .made o ∈ ofTrace rs) : ∃ q, ⟨o, .sent q⟩ ∈ rs := by
  obtain ⟨r, hr, hmade⟩ := List.mem_flatMap.1 h
  obtain ⟨o', e⟩ := r
  cases e with
  | sent q =>
    obtain rfl : o = o' := by simpa [ofRecord] using hmade
    exact ⟨q, hr⟩
  | settled slot outcome => cases slot <;> simp [ofRecord] at hmade
  | _ => simp [ofRecord] at hmade

theorem exists_of_arrived_mem {rs : List Record} {metadata : Http.Metadata}
    (h : .arrived o metadata ∈ ofTrace rs) : ∃ slot outcome, ⟨o, .settled slot outcome⟩ ∈ rs := by
  obtain ⟨r, hr, harrived⟩ := List.mem_flatMap.1 h
  obtain ⟨o', e⟩ := r
  cases e with
  | settled slot outcome =>
    cases slot with
    | none => simp [ofRecord] at harrived
    | some metadata' =>
      obtain ⟨rfl, -⟩ : o = o' ∧ metadata = metadata' := by simpa [ofRecord] using harrived
      exact ⟨_, outcome, hr⟩
  | _ => simp [ofRecord] at harrived

theorem mem_filter_isDispatch {rs : List Record} {e : Event} :
    e ∈ (eventsOf o rs).filter Event.isDispatch ↔ ⟨o, e⟩ ∈ rs ∧ e.isDispatch = true := by
  rw [List.mem_filter, mem_eventsOf_iff]

/-- A slot may be made and a request sent where none was sent before. -/
theorem Lawful.sent {rs : List Record} (h : Lawful (ofTrace rs))
    (hnone : (eventsOf o rs).filter Event.isDispatch = []) (q : Http.Request) :
    Lawful (ofTrace (rs ++ [⟨o, .sent q⟩])) := by
  have hmade : Lawful (ofTrace rs ++ [.made o]) := by
    refine h.concat rfl fun o' ho' hmem => ?_
    cases ho'
    obtain ⟨q', hq'⟩ := exists_of_made_mem hmem
    have hin := mem_filter_isDispatch.2 ⟨hq', rfl⟩
    rw [hnone] at hin
    exact List.not_mem_nil hin
  rw [ofTrace_concat]
  show Lawful (ofTrace rs ++ [.made o, .recorded ⟨o, .sent q⟩])
  rw [List.append_cons]
  refine hmade.concat ?_ fun _ ho' => SlotAct.noConfusion ho'
  simp [isLawfulAt, isMadeBy]

/-- What a request is settled with may arrive and be taken where it was only sent before. -/
theorem Lawful.settled {rs : List Record} (h : Lawful (ofTrace rs)) {q : Http.Request}
    (hq : (eventsOf o rs).filter Event.isDispatch = [.sent q]) (slot : Http.Slot)
    (outcome : Except Http.Failure Http.Response) :
    Lawful (ofTrace (rs ++ [⟨o, .settled slot outcome⟩])) := by
  have hsent : (⟨o, .sent q⟩ : Record) ∈ rs :=
    (mem_filter_isDispatch.1 (hq ▸ List.mem_singleton_self (Event.sent q))).1
  rw [ofTrace_concat]
  cases slot with
  | some metadata =>
    have harrived : Lawful (ofTrace rs ++ [.arrived o metadata]) := by
      refine h.concat ?_ fun _ ho' => SlotAct.noConfusion ho'
      exact List.any_eq_true.2 ⟨_, mem_ofTrace.2 hsent, decide_eq_true rfl⟩
    show Lawful (ofTrace rs ++ [.arrived o metadata, .recorded ⟨o, .settled (some metadata) outcome⟩])
    rw [List.append_cons]
    refine harrived.concat ?_ fun _ ho' => SlotAct.noConfusion ho'
    simp [isLawfulAt, lastArrived?_concat, arrival?]
  | none =>
    -- Nothing is in the slot, since what arrives is recorded to have been settled.
    have hnone : lastArrived? o (ofTrace rs) = none := by
      refine List.getLast?_eq_none_iff.2 (arrivals_eq_nil fun metadata harrived => ?_)
      obtain ⟨slot', outcome', hsettled⟩ := exists_of_arrived_mem harrived
      have hin := mem_filter_isDispatch.2 ⟨hsettled, rfl⟩
      rw [hq] at hin
      simp at hin
    refine h.concat ?_ fun _ ho' => SlotAct.noConfusion ho'
    simp [isLawfulAt, hnone]

end SlotAct

end RegistryAuth
