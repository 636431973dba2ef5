import DeckPlan.Proofs.Outside.Dialogue

/-!
# Orders of calls

An order is a list of steps: the calls to be made one after the other, each with the reply that is
expected and with the replies that are good enough to go on (`Step.accepts`). A dialogue follows an
order (`Follows`) if it makes the calls of the order until a reply is refused, which ends it.

* `Follows.calls_prefix`: the calls are a prefix of the order,
* `Follows.eq_of_ok`: a dialogue with a value as its outcome makes all calls,
* `Follows.accepted_of_dropLast`: only the last reply may be one that is not accepted,
* `Follows.append`, `Follows.ended`: orders are put together as programs are, and they are taken
  apart by `Follows.append_cases`.

`Agrees` forgets the outcome: it says of the dialogue up to any moment which calls of the order were
made, and that all replies but the last were the expected ones.
-/

namespace DeckPlan

/-- A call of an order. -/
structure Step where
  call : Call
  /-- The replies after which the next step is taken. -/
  accepts : call.Reply → Prop
  /-- The expected reply. -/
  reply : call.Reply

namespace Step

/-- The exchange of a step that goes as expected. -/
def exchange (step : Step) : Exchange :=
  ⟨step.call, .ok step.reply⟩

/-- The expected reply is an accepted one. -/
def Accepted (step : Step) : Prop :=
  step.accepts step.reply

/-- The call of the step was made, and it failed or its reply is not accepted. -/
def Refuses (step : Step) (exchange : Exchange) : Prop :=
  ∃ reply : Except Fault step.call.Reply, exchange = ⟨step.call, reply⟩ ∧
    ∀ value, reply = .ok value → ¬ step.accepts value

/-- A step is refused if its call fails. -/
theorem refuses_error {step : Step} (fault : Fault) :
    step.Refuses ⟨step.call, .error fault⟩ :=
  ⟨_, rfl, fun _ h => nomatch h⟩

/-- A step is refused by a reply that it does not accept. -/
theorem refuses_ok {step : Step} {value : step.call.Reply} (h : ¬ step.accepts value) :
    step.Refuses ⟨step.call, .ok value⟩ :=
  ⟨_, rfl, fun _ heq => Except.ok.inj heq ▸ h⟩

/-- The call of a step that is refused was made. -/
theorem Refuses.call_eq {step : Step} {exchange : Exchange} (h : step.Refuses exchange) :
    exchange.call = step.call := by
  obtain ⟨reply, rfl, -⟩ := h
  rfl

end Step

variable {α β : Type} {usable : Prop}

/-- The dialogue makes the calls of the order. It ends with a value when all of them are made and
accepted, and with a failure when a reply is refused or when what is given is not usable. -/
inductive Follows (usable : Prop) : List Step → List Exchange → Except Fault α → Prop
  | complete (value : α) : Follows usable [] [] (.ok value)
  | accepted {step : Step} {order : List Step} {exchanges : List Exchange}
      {outcome : Except Fault α} :
      step.Accepted → Follows usable order exchanges outcome →
        Follows usable (step :: order) (step.exchange :: exchanges) outcome
  | refused {step : Step} {order : List Step} {exchange : Exchange} (fault : Fault) :
      step.Refuses exchange → Follows usable (step :: order) [exchange] (.error fault)
  | unusable {order : List Step} (fault : Fault) :
      ¬ usable → Follows usable order [] (.error fault)

/-- The dialogue up to some moment makes calls of the order, and all its replies but the last are
the expected ones. -/
inductive Agrees : List Step → List Exchange → Prop
  | nil {order : List Step} : Agrees order []
  | last {step : Step} {order : List Step} {exchange : Exchange} :
      exchange.call = step.call → Agrees (step :: order) [exchange]
  | cons {step : Step} {order : List Step} {exchanges : List Exchange} :
      Agrees order exchanges → Agrees (step :: order) (step.exchange :: exchanges)

namespace Follows

variable {order second : List Step} {exchanges rest : List Exchange} {outcome : Except Fault α}

/-! ## What follows an order -/

/-- The calls of a dialogue are a prefix of the order. -/
theorem calls_prefix (h : Follows usable order exchanges outcome) :
    exchanges.map Exchange.call <+: order.map Step.call := by
  induction h with
  | complete => exact List.nil_prefix
  | accepted _ _ ih => exact List.cons_prefix_cons.2 ⟨rfl, ih⟩
  | refused _ hrefuses =>
    rw [List.map_singleton, hrefuses.call_eq]
    exact List.cons_prefix_cons.2 ⟨rfl, List.nil_prefix⟩
  | unusable => exact List.nil_prefix

/-- A dialogue that ends with a value makes all calls of the order, and all go as expected. -/
theorem eq_of_ok {value : α} (h : Follows usable order exchanges (.ok value)) :
    exchanges = order.map Step.exchange := by
  generalize houtcome : (Except.ok value : Except Fault α) = outcome at h
  induction h with
  | complete => rfl
  | accepted _ _ ih => rw [List.map_cons, ih houtcome]
  | refused => cases houtcome
  | unusable => cases houtcome

/-- Whatever leads to a value is accepted. -/
theorem accepted_of_ok {value : α} (h : Follows usable order exchanges (.ok value)) :
    ∀ step ∈ order, step.Accepted := by
  generalize houtcome : (Except.ok value : Except Fault α) = outcome at h
  induction h with
  | complete => exact fun _ hmem => nomatch hmem
  | accepted haccepted _ ih => exact List.forall_mem_cons.2 ⟨haccepted, ih houtcome⟩
  | refused => cases houtcome
  | unusable => cases houtcome

/-- A failure comes from the last reply or from what is given. -/
theorem refused_of_error {fault : Fault}
    (h : Follows usable order exchanges (.error fault : Except Fault α)) (husable : usable) :
    ∃ step ∈ order, ∃ last, exchanges.getLast? = some last ∧ step.Refuses last := by
  generalize houtcome : (Except.error fault : Except Fault α) = outcome at h
  induction h with
  | complete => cases houtcome
  | @accepted step order exchanges outcome _ _ ih =>
    obtain ⟨later, hmem, last, hlast, hrefuses⟩ := ih houtcome
    refine ⟨later, List.mem_cons_of_mem _ hmem, last, ?_, hrefuses⟩
    rw [List.getLast?_cons, hlast]
    rfl
  | @refused step order exchange fault hrefuses =>
    exact ⟨step, List.mem_cons_self, exchange, rfl, hrefuses⟩
  | unusable _ hnot => exact absurd husable hnot

/-- Where no reply is refused, what is usable leads to a value. -/
theorem exists_eq_ok (h : Follows usable order exchanges outcome) (husable : usable)
    (hnot : ∀ step ∈ order, ∀ exchange ∈ exchanges, ¬ step.Refuses exchange) :
    ∃ value, outcome = .ok value := by
  cases outcome with
  | ok value => exact ⟨value, rfl⟩
  | error fault =>
    obtain ⟨step, hstep, last, hlast, hrefuses⟩ := h.refused_of_error husable
    exact absurd hrefuses (hnot step hstep last (List.mem_of_getLast? hlast))

/-- All exchanges before the last one go as expected and are accepted. -/
theorem accepted_of_dropLast (h : Follows usable order exchanges outcome) :
    ∃ front, front <+: order ∧ (∀ step ∈ front, step.Accepted) ∧
      exchanges.dropLast = front.map Step.exchange := by
  induction h with
  | complete => exact ⟨[], List.nil_prefix, by simp, rfl⟩
  | @accepted step order exchanges outcome haccepted _ ih =>
    obtain ⟨front, hstart, hall, hfront⟩ := ih
    cases exchanges with
    | nil => exact ⟨[], List.nil_prefix, by simp, rfl⟩
    | cons first later =>
      refine ⟨step :: front, List.cons_prefix_cons.2 ⟨rfl, hstart⟩, ?_, ?_⟩
      · exact List.forall_mem_cons.2 ⟨haccepted, hall⟩
      · rw [List.dropLast_cons_cons, hfront, List.map_cons]
  | refused => exact ⟨[], List.nil_prefix, by simp, rfl⟩
  | unusable => exact ⟨[], List.nil_prefix, by simp, rfl⟩

/-- Every exchange goes as expected or is refused. -/
theorem mem_cases (h : Follows usable order exchanges outcome) {exchange : Exchange}
    (hmem : exchange ∈ exchanges) :
    ∃ step ∈ order, (step.Accepted ∧ exchange = step.exchange) ∨ step.Refuses exchange := by
  induction h with
  | complete | unusable => cases hmem
  | @accepted step order exchanges outcome haccepted _ ih =>
    rcases List.mem_cons.1 hmem with rfl | hmem
    · exact ⟨step, List.mem_cons_self, .inl ⟨haccepted, rfl⟩⟩
    · obtain ⟨later, hlater, hcases⟩ := ih hmem
      exact ⟨later, List.mem_cons_of_mem _ hlater, hcases⟩
  | @refused step order last _ hrefuses =>
    obtain rfl := List.mem_singleton.1 hmem
    exact ⟨step, List.mem_cons_self, .inr hrefuses⟩

/-- The dialogue up to any moment agrees with the order. -/
theorem agrees (h : Follows usable order (exchanges ++ rest) outcome) :
    Agrees order exchanges := by
  generalize hall : exchanges ++ rest = all at h
  induction h generalizing exchanges with
  | complete | unusable =>
    obtain ⟨rfl, -⟩ := List.append_eq_nil_iff.1 hall
    exact .nil
  | accepted _ _ ih =>
    rcases List.append_eq_cons_iff.1 hall with ⟨rfl, -⟩ | ⟨later, rfl, hlater⟩
    · exact .nil
    · exact .cons (ih hlater.symm)
  | refused _ hrefuses =>
    rcases List.append_eq_cons_iff.1 hall with ⟨rfl, -⟩ | ⟨later, rfl, hlater⟩
    · exact .nil
    · -- A refused reply is the last one.
      obtain ⟨rfl, -⟩ := List.append_eq_nil_iff.1 hlater.symm
      exact .last hrefuses.call_eq

/-! ## Orders in a row -/

/-- Of the outcome only counts whether it is a value. -/
theorem congr {usable' : Prop} {outcome' : Except Fault β}
    (h : Follows usable order exchanges outcome) (husable : usable' → usable)
    (houtcome : outcome'.isOk = outcome.isOk) : Follows usable' order exchanges outcome' := by
  induction h with
  | complete =>
    cases outcome' with
    | ok value => exact .complete value
    | error fault => cases houtcome
  | accepted haccepted _ ih => exact .accepted haccepted (ih houtcome)
  | refused _ hrefuses =>
    cases outcome' with
    | ok value => cases houtcome
    | error fault => exact .refused fault hrefuses
  | unusable _ hnot =>
    cases outcome' with
    | ok value => cases houtcome
    | error fault => exact .unusable fault fun h => hnot (husable h)

/-- A dialogue that ends early follows any longer order too. -/
theorem ended {usable' : Prop} {fault fault' : Fault}
    (h : Follows usable order exchanges (.error fault : Except Fault α))
    (husable : usable' → usable) (second : List Step) :
    Follows usable' (order ++ second) exchanges (.error fault' : Except Fault β) := by
  generalize houtcome : (Except.error fault : Except Fault α) = outcome at h
  induction h with
  | complete => cases houtcome
  | accepted haccepted _ ih => exact .accepted haccepted (ih houtcome)
  | refused _ hrefuses => exact .refused _ hrefuses
  | unusable _ hnot => exact .unusable _ fun h => hnot (husable h)

/-- After one order has gone through, the next one is followed. -/
theorem append {usable' : Prop} {value : α} {later : Except Fault β}
    (h : Follows usable order exchanges (.ok value)) (hrest : Follows usable' second rest later) :
    Follows usable' (order ++ second) (exchanges ++ rest) later := by
  generalize houtcome : (Except.ok value : Except Fault α) = outcome at h
  induction h with
  | complete => exact hrest
  | accepted haccepted _ ih => exact .accepted haccepted (ih houtcome)
  | refused => cases houtcome
  | unusable => cases houtcome

/-- A dialogue that follows two orders in a row ends in the first one, or has gone through it. -/
theorem append_cases (h : Follows usable (order ++ second) exchanges outcome) :
    (∃ fault, outcome = .error fault ∧
        Follows usable order exchanges (.error fault : Except Fault α)) ∨
      ∃ later, exchanges = order.map Step.exchange ++ later ∧ (∀ step ∈ order, step.Accepted) ∧
        Follows usable second later outcome := by
  induction order generalizing exchanges with
  | nil => exact .inr ⟨exchanges, rfl, fun _ hmem => (nomatch hmem), h⟩
  | cons step order ih =>
    cases h with
    | accepted haccepted hrest =>
      rcases ih hrest with ⟨fault, rfl, hended⟩ | ⟨later, rfl, hall, hlater⟩
      · exact .inl ⟨fault, rfl, .accepted haccepted hended⟩
      · exact .inr ⟨later, rfl, List.forall_mem_cons.2 ⟨haccepted, hall⟩, hlater⟩
    | refused fault hrefuses => exact .inl ⟨fault, rfl, .refused fault hrefuses⟩
    | unusable fault hnot => exact .inl ⟨fault, rfl, .unusable fault hnot⟩

/-- The last step of an order goes as expected or is refused, and the outcome tells which. -/
theorem singleton_cases {step : Step} (h : Follows usable [step] exchanges outcome)
    (husable : usable) :
    ∃ exchange, exchanges = [exchange] ∧
      ((∃ value, outcome = .ok value ∧ step.Accepted ∧ exchange = step.exchange) ∨
        ∃ fault, outcome = .error fault ∧ step.Refuses exchange) := by
  cases h with
  | accepted haccepted hrest =>
    cases hrest with
    | complete value => exact ⟨_, rfl, .inl ⟨value, rfl, haccepted, rfl⟩⟩
    | unusable _ hnot => exact absurd husable hnot
  | refused fault hrefuses => exact ⟨_, rfl, .inr ⟨fault, rfl, hrefuses⟩⟩
  | unusable _ hnot => exact absurd husable hnot

/-- When an order has gone through, what is given was usable. -/
theorem of_ok {usable' : Prop} {value : α} (h : Follows usable order exchanges (.ok value))
    (value' : β) : Follows usable' order exchanges (.ok value') := by
  simpa only [List.append_nil] using h.append (.complete value')

end Follows

namespace Agrees

variable {first second : List Step} {exchanges : List Exchange}

/-- An order that is carried out as expected is agreed with. -/
theorem of_complete (order : List Step) : Agrees order (order.map Step.exchange) := by
  induction order with
  | nil => exact .nil
  | cons step order ih => exact .cons ih

/-- A dialogue up to some moment is still in the first of two orders, or has it behind it. -/
theorem append_cases (h : Agrees (first ++ second) exchanges) :
    Agrees first exchanges ∨
      ∃ later, exchanges = first.map Step.exchange ++ later ∧ Agrees second later := by
  induction first generalizing exchanges with
  | nil => exact .inr ⟨exchanges, rfl, h⟩
  | cons step first ih =>
    cases h with
    | nil => exact .inl .nil
    | last hcall => exact .inl (.last hcall)
    | cons hlater =>
      rcases ih hlater with hfirst | ⟨later, rfl, hsecond⟩
      · exact .inl (.cons hfirst)
      · exact .inr ⟨later, rfl, hsecond⟩

/-- Only calls of the order are made. -/
theorem exists_step {order : List Step} (h : Agrees order exchanges) {exchange : Exchange}
    (hmem : exchange ∈ exchanges) : ∃ step ∈ order, exchange.call = step.call := by
  induction h with
  | nil => cases hmem
  | @last step order last hcall =>
    obtain rfl := List.mem_singleton.1 hmem
    exact ⟨step, List.mem_cons_self, hcall⟩
  | @cons step order exchanges _ ih =>
    rcases List.mem_cons.1 hmem with rfl | hmem
    · exact ⟨step, List.mem_cons_self, rfl⟩
    · obtain ⟨later, hlater, hcall⟩ := ih hmem
      exact ⟨later, List.mem_cons_of_mem _ hlater, hcall⟩

end Agrees

end DeckPlan
