import Sagas.Proofs.Acceptance
import Sagas.Proofs.Silence

/-!
# A report tells the truth

Where nothing is sent and no two sagas share a name, each turn of a delivery has its own instance to
work on. So what a turn did to the store and the outbox is still there when the delivery ends, and
each outcome of a report can be held against the world that its caller finds.

No outcome tells of a message that was sent on the way, whoever has sent it. So it is not enough
that hooks and handlers send nothing: wrappers must not send either.

* `Turn.Tells`: what one outcome tells of its turn.
* `Truthful`: what the outcomes of some turns tell of the worlds around them.
* `turn_truthful`, `turnsFrom_truthful`: a single turn, and from it the turns of some registrations.
* `report_truthful`: the report of a delivery.
* `sending_wrapper_not_truthful`: but not inside a wrapper that sends a message.
-/

namespace Sagas

variable {A : Application} {α : Type}

/-! ## The handler that came back last -/

/-- A handler that came back, inside its chain, with the state that it left. -/
structure Return (A : Application) where
  step : StepInfo
  left : A.State
  result : HandlerResult A.Body

/-- The handler that an event tells has come back. -/
def Event.return? : Event A → Option (Return A)
  | .returned step left result => some ⟨step, left, result⟩
  | _ => none

/-- The transition that a handler came back with; no transition keeps the saga going. -/
def Return.transition? (returned : Return A) : Option (Transition A.Body) :=
  returned.result.toOption.map (·.getD (.proceed none))

namespace Turn

/-- The handler of the last attempt of a turn. -/
def return? (turn : Turn A) : Option (Return A) :=
  (turn.events.filterMap Event.return?).getLast?

/-- The message of the transition that the last attempt of a turn came back with. -/
def outgoing? (turn : Turn A) : Option (Outgoing A.Body) :=
  (turn.return?.bind Return.transition?).bind Transition.outgoing?

end Turn

/-! ## What outcomes tell -/

/-- An outcome tells the truth about a turn, with the stores that stood before and after it. -/
structure Turn.Tells (turn : Turn A) (message : MessageType) (outcome : Outcome) (last : Return A)
    (transition : Transition A.Body) (before after : Store) : Prop where
  /-- The handler of the last attempt came back with the transition. -/
  last_eq : turn.return? = some last
  transition_eq : last.transition? = some transition
  key : outcome.key = last.step.key
  saga : outcome.key.sagaType = turn.registration.saga.type.name
  stage : ∃ handler, turn.registration.handler? message = some (outcome.stage, handler)
  kind : outcome.kind = transition.kind
  published : outcome.published = transition.outgoing?.isSome
  /-- The record of the instance is the version that the step saved. -/
  kept : outcome.kind ≠ .retry → outcome.retry = none ∧
    ∃ record, after.find? outcome.key = some record ∧
      record.token.isSome = true ∧ outcome.token = record.token ∧
      Status.after outcome.kind = some record.status ∧
      turn.registration.saga.encode last.left = .ok record.state
  /-- Nothing was saved, and the redelivery is the one that the transition asks for. -/
  asked : outcome.kind = .retry → outcome.token = none ∧ outcome.published = false ∧
    outcome.retry = some {
      saga := turn.registration.saga.type, sagaId := outcome.key.sagaId
      delay := transition.delay?, error := transition.error? } ∧
    after.find? outcome.key = before.find? outcome.key

/-- The outcomes of some turns tell the truth about them, and account for all that changed in the
store and the outbox. -/
structure Truthful (message : MessageType) (turns : List (Turn A)) (outcomes : List Outcome)
    (w w' : World A) : Prop where
  told : List.Forall₂ (fun turn outcome => ∃ last transition,
    turn.Tells message outcome last transition w.store w'.store) turns outcomes
  saves : w'.store.saves = w.store.saves + outcomes.countP (·.kind ≠ .retry)
  sent : w'.outbox.sent = w.outbox.sent ++ turns.filterMap Turn.outgoing?
  others : ∀ key, (∀ outcome ∈ outcomes, outcome.kind ≠ .retry → outcome.key ≠ key) →
    w'.store.find? key = w.store.find? key

/-- Only the record of its own instance matters to an outcome. -/
theorem Turn.Tells.congr {turn : Turn A} {message : MessageType} {outcome : Outcome}
    {last : Return A} {transition : Transition A.Body} {before before' after after' : Store}
    (h : turn.Tells message outcome last transition before after)
    (hbefore : before'.find? outcome.key = before.find? outcome.key)
    (hafter : after'.find? outcome.key = after.find? outcome.key) :
    turn.Tells message outcome last transition before' after' :=
  { h with
    kept := by
      rw [hafter]
      exact h.kept
    asked := by
      rw [hafter, hbefore]
      exact h.asked }

/-! ## One turn -/

namespace Visit

variable {visit : Visit A} {stage : Stage} {events : List (Event A)} {settled : Settled}

/-- What a step did that came to something. -/
inductive Acts (visit : Visit A) (stage : Stage) : List (Event A) → Settled → Prop where
  | asked {before : List (Event A)} {key : Key} {left transition} : Idle before →
      key.sagaType = visit.sagaType →
      (transition.getD (.proceed none)).kind = .retry →
      Acts visit stage (before ++ [.returned (visit.stepOf stage key) left (.ok transition)])
        (visit.redelivery (visit.stepOf stage key) (transition.getD (.proceed none)))
  | saved {before : List (Event A)} {key : Key} {left transition record} (token : Token) :
      Idle before →
      visit.Saving (visit.stepOf stage key) left transition record →
      Acts visit stage
        (before ++ .returned (visit.stepOf stage key) left (.ok transition) ::
          .saved record (.ok token) ::
          ((transition.getD (.proceed none)).outgoing?.map (.published · (.ok ()))).toList)
        (kept (visit.stepOf stage key) (transition.getD (.proceed none))
          (transition.getD (.proceed none)).outgoing?.isSome token)

theorem after_eq_none_iff {kind : TransitionKind} : Status.after kind = none ↔ kind = .retry := by
  cases kind <;> simp [Status.after]

theorem Concludes.acts (h : visit.Concludes stage events (.ok settled)) :
    visit.Acts stage events settled := by
  generalize hresult : Except.ok settled = result at h
  cases h with
  | stopped => cases hresult
  | @acted before tail key left transition _ hbefore hsaga hsettles =>
    subst hresult
    generalize hacted : transition.getD (.proceed none) = acted at hsettles
    cases hsettles with
    | redelivered hnone =>
      rw [← hacted]
      refine .asked hbefore hsaga ?_
      rw [hacted]
      exact after_eq_none_iff.1 hnone
    | @silent status json now token hstatus hjson hout =>
      have hsaving : visit.Saving (visit.stepOf stage key) left transition
          (visit.recordOf key status left json now) :=
        ⟨hsaga, rfl, by rw [hacted]; exact hstatus, hjson, rfl⟩
      have hacts := Acts.saved token hbefore hsaving
      rw [hacted, hout] at hacts
      exact hacts
    | @published status json now token outgoing hstatus hjson hout =>
      have hsaving : visit.Saving (visit.stepOf stage key) left transition
          (visit.recordOf key status left json now) :=
        ⟨hsaga, rfl, by rw [hacted]; exact hstatus, hjson, rfl⟩
      have hacts := Acts.saved token hbefore hsaving
      rw [hacted, hout] at hacts
      exact hacts

end Visit

/-! ### What idle events leave out -/

theorem Idle.filterMap_eq_nil {events : List (Event A)} (h : Idle events) {f : Event A → Option α}
    (hf : ∀ event, event.isIdle = true → f event = none) : events.filterMap f = [] :=
  List.filterMap_eq_nil_iff.2 fun event hmem => hf event (h event hmem)

/-- After idle events and the return of a handler, what events tell is told by those that follow. -/
theorem filterMap_acted {before after : List (Event A)} {step : StepInfo} {left : A.State}
    {result : HandlerResult A.Body} (h : Idle before) {f : Event A → Option α}
    (hf : ∀ event, event.isIdle = true → f event = none)
    (hreturned : f (.returned step left result) = none) :
    (before ++ .returned step left result :: after).filterMap f = after.filterMap f := by
  rw [List.filterMap_append, h.filterMap_eq_nil hf, List.nil_append, List.filterMap_cons, hreturned]

theorem getLast?_return? {before after : List (Event A)} {step : StepInfo} {left : A.State}
    {result : HandlerResult A.Body} (h : after.filterMap Event.return? = []) :
    ((before ++ .returned step left result :: after).filterMap Event.return?).getLast? =
      some ⟨step, left, result⟩ := by
  rw [List.filterMap_append, List.filterMap_cons]
  simp only [Event.return?] at h ⊢
  rw [h, List.getLast?_concat]

theorem accepted?_of_isIdle (event : Event A) (h : event.isIdle = true) :
    event.accepted? = none := by
  cases event with
  | saved record result =>
    cases result with
    | ok token => cases h
    | error error => rfl
  | _ => rfl

theorem message?_of_isIdle (event : Event A) (h : event.isIdle = true) : event.message? = none := by
  cases event with
  | published => cases h
  | _ => rfl

theorem token?_of_isIdle (event : Event A) (h : event.isIdle = true) : event.token? = none := by
  cases event with
  | saved record result =>
    cases result with
    | ok token => cases h
    | error error => rfl
  | _ => rfl

/-- The effects of a turn come after its last handler. -/
structure Turn.Left (turn : Turn A) (last : Return A) (tail : List (Event A)) : Prop where
  last_eq : turn.return? = some last
  store : turn.after.store = (Sagas.accepted tail).foldl Store.put turn.before.store
  sent : turn.after.outbox.sent = turn.before.outbox.sent ++ tail.filterMap Event.message?
  tokens : tail.filterMap Event.token? =
    (List.range' (turn.before.store.saves + 1) (Sagas.accepted tail).length).map
      turn.before.store.mint

section

variable {turn : Turn A} {visit : Visit A} {message : MessageType} {stage : Stage}
  {handler : Handler A} {key : Key} {left : A.State} {transition : Option (Transition A.Body)}
  {tail : List (Event A)}

theorem Turn.Effects.acted (h : turn.Effects) {before : List (Event A)} (last : Return A)
    (hbefore : Idle before) (hnone : tail.filterMap Event.return? = [])
    (hevents : turn.events = before ++ .returned last.step last.left last.result :: tail) :
    turn.Left last tail := by
  obtain ⟨hstore, hsent, htokens⟩ := h
  have haccepted : Sagas.accepted turn.events = Sagas.accepted tail := by
    rw [hevents]
    exact filterMap_acted hbefore accepted?_of_isIdle rfl
  refine ⟨?_, by rw [hstore, haccepted], ?_, ?_⟩
  · rw [return?, hevents]
    exact getLast?_return? hnone
  · rw [hsent, hevents, filterMap_acted hbefore message?_of_isIdle rfl]
  · rw [haccepted, hevents, filterMap_acted hbefore token?_of_isIdle rfl] at htokens
    exact htokens

theorem Turn.Left.outgoing?_eq {step : StepInfo}
    (h : turn.Left ⟨step, left, .ok transition⟩ tail) :
    turn.outgoing? = (transition.getD (.proceed none)).outgoing? := by
  unfold outgoing?
  rw [h.last_eq]
  rfl

/-- A turn that asked for a redelivery left everything as it was. -/
theorem Turn.Left.truthful_of_asked
    (h : turn.Left ⟨visit.stepOf stage key, left, .ok transition⟩ [])
    (hvisit : visit.registration = turn.registration) (hsaga : key.sagaType = visit.sagaType)
    (hhandler : turn.registration.handler? message = some (stage, handler))
    (hkind : (transition.getD (.proceed none)).kind = .retry) :
    Truthful message [turn]
      [(visit.redelivery (visit.stepOf stage key) (transition.getD (.proceed none))).outcome]
      turn.before turn.after := by
  have houtgoing := h.outgoing?_eq
  obtain ⟨hlast, hstore, hsent, -⟩ := h
  have hsame : turn.after.store = turn.before.store := hstore
  have hsaga : key.sagaType = turn.registration.saga.type.name := by rw [hsaga, ← hvisit]; rfl
  have htype : visit.saga.type = turn.registration.saga.type := by rw [← hvisit]; rfl
  generalize hacted : transition.getD (.proceed none) = acted at *
  have hnothing : acted.outgoing? = none := by
    cases acted with
    | retry => rfl
    | _ => cases hkind
  have htells : turn.Tells message (visit.redelivery (visit.stepOf stage key) acted).outcome
      ⟨visit.stepOf stage key, left, .ok transition⟩ acted turn.before.store turn.after.store := by
    refine ⟨hlast, congrArg some hacted, rfl, hsaga, ⟨handler, hhandler⟩, rfl, ?_, ?_, ?_⟩
    · rw [hnothing]
      rfl
    · exact fun hkept => absurd hkind hkept
    · rw [hsame, ← htype]
      exact fun _ => ⟨rfl, rfl, rfl, rfl⟩
  refine ⟨.cons ⟨_, acted, htells⟩ .nil, ?_, ?_, ?_⟩
  · simp [hsame, Visit.redelivery, hkind]
  · simp [hsent, houtgoing, hnothing]
  · exact fun _ _ => by rw [hsame]

/-- What a turn that saved left in the store and in the outbox. -/
theorem Turn.Left.saved {last : Return A} {record : Record} {token : Token}
    {outgoing : Option (Outgoing A.Body)} (h : turn.Left last
      (.saved record (.ok token) :: (outgoing.map (.published · (.ok ()))).toList)) :
    turn.after.store = turn.before.store.put record ∧
      turn.after.store.find? record.toKey = some { record with token := some token } ∧
      turn.after.outbox.sent = turn.before.outbox.sent ++ outgoing.toList := by
  obtain ⟨-, hstore, hsent, htokens⟩ := h
  have hput : turn.after.store = turn.before.store.put record := by
    rw [hstore]
    cases outgoing <;> rfl
  have htoken : token = turn.before.store.mint (turn.before.store.saves + 1) := by
    cases outgoing with
    | none => exact (List.cons.inj htokens).1
    | some outgoing => exact (List.cons.inj htokens).1
  refine ⟨hput, ?_, ?_⟩
  · rw [hput, Store.find?_put, if_pos rfl, htoken]
  · rw [hsent]
    cases outgoing <;> rfl

/-- A turn that saved left its record, and sent out the message of its transition. -/
theorem Turn.Left.truthful_of_saved {record : Record} {token : Token}
    (h : turn.Left ⟨visit.stepOf stage key, left, .ok transition⟩
      (.saved record (.ok token) ::
        ((transition.getD (.proceed none)).outgoing?.map (.published · (.ok ()))).toList))
    (hvisit : visit.registration = turn.registration)
    (hsaving : visit.Saving (visit.stepOf stage key) left transition record)
    (hhandler : turn.registration.handler? message = some (stage, handler)) :
    Truthful message [turn]
      [(Visit.kept (visit.stepOf stage key) (transition.getD (.proceed none))
        (transition.getD (.proceed none)).outgoing?.isSome token).outcome]
      turn.before turn.after := by
  have houtgoing := h.outgoing?_eq
  have hlast := h.last_eq
  obtain ⟨hput, hfind, hsent⟩ := h.saved
  obtain ⟨hsaga, hkey, hstatus, hjson, -⟩ := hsaving
  have hsaga : key.sagaType = turn.registration.saga.type.name := by
    rw [← hvisit]
    exact hsaga
  have hjson : turn.registration.saga.encode left = .ok record.state := by
    rw [← hvisit]
    exact hjson
  generalize hacted : transition.getD (.proceed none) = acted at *
  have hkind : acted.kind ≠ .retry := by
    intro hretry
    rw [hretry] at hstatus
    cases hstatus
  have htells : turn.Tells message
      (Visit.kept (visit.stepOf stage key) acted acted.outgoing?.isSome token).outcome
      ⟨visit.stepOf stage key, left, .ok transition⟩ acted turn.before.store turn.after.store := by
    refine ⟨hlast, congrArg some hacted, rfl, hsaga, ⟨handler, hhandler⟩, rfl, rfl, ?_, ?_⟩
    · intro _
      rw [hkey] at hfind
      exact ⟨rfl, _, hfind, rfl, rfl, hstatus, hjson⟩
    · exact fun hretry => absurd hretry hkind
  refine ⟨.cons ⟨_, acted, htells⟩ .nil, ?_, ?_, ?_⟩
  · simp [hput, Store.put, Visit.kept, hkind]
  · have hone : [turn].filterMap Turn.outgoing? = turn.outgoing?.toList := by
      rw [List.filterMap_cons]
      cases turn.outgoing? <;> rfl
    rw [hsent, hone, houtgoing]
  · intro other hother
    have hne : record.toKey ≠ other := by
      rw [hkey]
      exact hother _ (List.mem_singleton.2 rfl) hkind
    rw [hput, Store.find?_put, if_neg hne]

end

namespace Orchestrator

variable {orchestrator : Orchestrator A} {nesting : Nat} {request : Request A.Body} {w : World A}
  {turn : Turn A} {settled : Settled}

/-- A turn that came to something acted on the transition of its last handler. -/
theorem turn_acts (hmem : turn ∈ orchestrator.turns nesting request w)
    (hsettled : turn.settled? = some settled) :
    ∃ stage handler, turn.registration.handler? request.message.type = some (stage, handler) ∧
      (orchestrator.visitOf nesting request turn).Acts stage turn.events settled := by
  have hstep := turns_steps nesting request w turn hmem
  rw [Turn.result_eq_some hsettled] at hstep
  rcases hstep.concludes with
    ⟨-, -, hnone⟩ | ⟨stage, handler, result, hhandler, hconcludes, hresult⟩
  · cases hnone
  obtain rfl : result = .ok settled := by
    cases result with
    | ok found => rw [Option.some.inj (Except.ok.inj hresult)]
    | error error => cases hresult
  exact ⟨stage, handler, hhandler, hconcludes.acts⟩

/-- **The outcome of one turn tells the truth.** -/
theorem turn_truthful (hmemory : orchestrator.InMemory) (hsilent : orchestrator.Silent)
    (hmem : turn ∈ orchestrator.turns nesting request w) (hsettled : turn.settled? = some settled) :
    Truthful request.message.type [turn] [settled.outcome] turn.before turn.after := by
  obtain ⟨stage, handler, hhandler, hacts⟩ := turn_acts hmem hsettled
  have heffects := turn_effects hmemory hsilent hmem
  generalize hevents : turn.events = events at hacts
  cases hacts with
  | @asked before key left transition hbefore hsaga hkind =>
    have hleft := heffects.acted ⟨_, left, .ok transition⟩ hbefore rfl hevents
    exact hleft.truthful_of_asked rfl hsaga hhandler hkind
  | @saved before key left transition record token hbefore hsaving =>
    refine (heffects.acted ⟨_, left, .ok transition⟩ hbefore ?_ hevents).truthful_of_saved
      rfl hsaving hhandler
    cases (transition.getD (.proceed none)).outgoing? <;> rfl

end Orchestrator

/-! ## All turns -/

section

variable {message : MessageType} {turns turns' : List (Turn A)} {outcomes outcomes' : List Outcome}
  {w w' w'' : World A}

theorem Truthful.nil (message : MessageType) (w : World A) : Truthful message [] [] w w :=
  ⟨.nil, rfl, by simp, fun _ _ => rfl⟩

/-- Each outcome is under the name of its saga. -/
theorem Truthful.names (h : Truthful message turns outcomes w w') :
    outcomes.map (·.key.sagaType) = turns.map (·.registration.saga.type.name) := by
  rw [← List.forall₂_eq_eq_eq, List.forall₂_map_left_iff, List.forall₂_map_right_iff]
  refine h.told.flip.imp fun outcome turn htold => ?_
  obtain ⟨last, transition, htells⟩ := htold
  exact htells.saga

theorem Truthful.exists_turn (h : Truthful message turns outcomes w w') {outcome : Outcome}
    (hmem : outcome ∈ outcomes) :
    ∃ turn ∈ turns, turn.registration.saga.type.name = outcome.key.sagaType := by
  have hname : outcome.key.sagaType ∈ turns.map (·.registration.saga.type.name) := by
    rw [← h.names]
    exact List.mem_map_of_mem hmem
  exact List.mem_map.1 hname

/-- Turns of sagas with other names have nothing to do with each other. -/
theorem Truthful.append (h : Truthful message turns outcomes w w')
    (h' : Truthful message turns' outcomes' w' w'')
    (hnames : ∀ turn ∈ turns, ∀ turn' ∈ turns',
      turn.registration.saga.type.name ≠ turn'.registration.saga.type.name) :
    Truthful message (turns ++ turns') (outcomes ++ outcomes') w w'' := by
  have hapart : ∀ outcome ∈ outcomes, ∀ outcome' ∈ outcomes', outcome.key ≠ outcome'.key := by
    intro outcome hmem outcome' hmem' hkey
    obtain ⟨turn, hturn, hname⟩ := h.exists_turn hmem
    obtain ⟨turn', hturn', hname'⟩ := h'.exists_turn hmem'
    exact hnames turn hturn turn' hturn' (by rw [hname, hname', hkey])
  have hfirst : List.Forall₂ (fun turn outcome => ∃ last transition,
      turn.Tells message outcome last transition w.store w''.store) turns outcomes := by
    refine List.forall₂_iff_zip.2 ⟨h.told.length_eq, fun {turn outcome} hmem => ?_⟩
    obtain ⟨last, transition, htells⟩ := (List.forall₂_iff_zip.1 h.told).2 hmem
    refine ⟨last, transition, htells.congr rfl (h'.others _ fun outcome' hmem' _ => ?_)⟩
    exact (hapart outcome (List.of_mem_zip hmem).2 outcome' hmem').symm
  have hsecond : List.Forall₂ (fun turn outcome => ∃ last transition,
      turn.Tells message outcome last transition w.store w''.store) turns' outcomes' := by
    refine List.forall₂_iff_zip.2 ⟨h'.told.length_eq, fun {turn outcome'} hmem' => ?_⟩
    obtain ⟨last, transition, htells⟩ := (List.forall₂_iff_zip.1 h'.told).2 hmem'
    refine ⟨last, transition, htells.congr (h.others _ fun outcome hmem _ => ?_).symm rfl⟩
    exact hapart outcome hmem outcome' (List.of_mem_zip hmem').2
  refine ⟨List.rel_append hfirst hsecond, ?_, ?_, ?_⟩
  · rw [h'.saves, h.saves, List.countP_append, Nat.add_assoc]
  · rw [h'.sent, h.sent, List.filterMap_append, List.append_assoc]
  · intro key hkey
    rw [h'.others key fun outcome hmem => hkey outcome (List.mem_append_right _ hmem)]
    exact h.others key fun outcome hmem => hkey outcome (List.mem_append_left _ hmem)

end

namespace Orchestrator

variable {orchestrator : Orchestrator A} {send : Request A.Body → Run A Answer}
  {nesting : Nat} {request : Request A.Body} {log : List (Directory.Logged A)}
  {registrations : List (Registration A)} {w : World A}

/-- Turns none of which ended in an error were given to all of the registrations. -/
theorem map_registration_of_error_free
    (h : ∀ turn ∈ orchestrator.turnsFrom send request registrations w, turn.error? = none) :
    (orchestrator.turnsFrom send request registrations w).map (·.registration) =
      registrations := by
  induction registrations generalizing w with
  | nil => rfl
  | cons registration rest ih =>
    rw [turnsFrom_cons] at h ⊢
    rw [if_pos (h _ List.mem_cons_self)] at h ⊢
    rw [List.map_cons, ih fun turn hmem => h turn (List.mem_cons_of_mem _ hmem)]
    rfl

/-- The outcomes of turns that each tell the truth tell it together. -/
theorem turnsFrom_truthful {message : MessageType}
    (hnames : (registrations.map (·.saga.type.name)).Nodup)
    (hturns : ∀ turn ∈ orchestrator.turnsFrom send request registrations w,
      turn.error? = none ∧ ∃ settled, turn.settled? = some settled ∧
        Truthful message [turn] [settled.outcome] turn.before turn.after) :
    Truthful message (orchestrator.turnsFrom send request registrations w)
      (((orchestrator.turnsFrom send request registrations w).filterMap Turn.settled?).map
        (·.outcome))
      w (reached w (orchestrator.turnsFrom send request registrations w)) := by
  induction registrations generalizing w with
  | nil => exact .nil message w
  | cons registration rest ih =>
    rw [turnsFrom_cons] at hturns ⊢
    generalize hturn : Visit.turn { orchestrator, send, registration, request } w = turn at *
    obtain ⟨herror, settled, hsettled, hfirst⟩ := hturns turn List.mem_cons_self
    rw [if_pos herror] at hturns ⊢
    have hrest := ih (List.nodup_cons.1 hnames).2 fun later hmem =>
      hturns later (List.mem_cons_of_mem _ hmem)
    have hbefore : turn.before = w := by rw [← hturn]; rfl
    have hregistration : turn.registration = registration := by rw [← hturn]; rfl
    rw [hbefore] at hfirst
    rw [List.filterMap_cons_some hsettled]
    refine hfirst.append hrest fun first hmem later hlater hname => ?_
    obtain rfl := List.mem_singleton.1 hmem
    have hmem : later.registration ∈ rest :=
      map_registration_turnsFrom.subset (List.mem_map_of_mem hlater)
    rw [hregistration] at hname
    exact (List.nodup_cons.1 hnames).1 (List.mem_map.2 ⟨_, hmem, hname.symm⟩)

/-- A report tells of turns none of which ended in an error. -/
theorem eq_report_of_gathered {turns : List (Turn A)} {messageType : MessageType}
    {report : Report} (h : (gathered turns).bind (answerOf messageType) = .ok report) :
    (∀ turn ∈ turns, turn.error? = none) ∧
      report = { messageType, outcomes := (turns.filterMap Turn.settled?).map (·.outcome) } := by
  unfold gathered at h
  cases hfound : turns.findSome? Turn.error? with
  | some error =>
    rw [hfound] at h
    cases h
  | none =>
    rw [hfound] at h
    refine ⟨List.findSome?_eq_none_iff.1 hfound, ?_⟩
    change answerOf messageType (turns.filterMap Turn.settled?) = .ok report at h
    unfold answerOf at h
    split at h
    · exact (Except.ok.inj h).symm
    · cases h

/-- A saga that was selected for a message handles it, so its turn comes to something. -/
theorem exists_settled (hreached : orchestrator.directory.Reached log)
    (htarget : request.target = none) {turn : Turn A}
    (hmem : turn ∈ orchestrator.turns nesting request w) (herror : turn.error? = none) :
    ∃ settled, turn.settled? = some settled := by
  have hselected : orchestrator.selected request =
      .ok (orchestrator.directory.matching request.message.type) := by
    unfold selected
    rw [htarget]
  have hmatching : turn.registration ∈ orchestrator.directory.matching request.message.type :=
    (map_registration_turns hselected).subset (List.mem_map_of_mem hmem)
  have hhandles := hreached.handles hmatching
  rcases (turns_steps nesting request w turn hmem).concludes with
    ⟨hnone, -, -⟩ | ⟨stage, handler, result, hhandler, hconcludes, hresult⟩
  · rw [hnone] at hhandles
    cases hhandles
  · rw [Turn.result_eq_ok herror] at hresult
    cases result with
    | ok settled => exact ⟨settled, Except.ok.inj hresult⟩
    | error error => cases hresult

/-- **A report tells the truth.** Where nothing that runs sends messages, wrappers included, and no
two sagas share their name, a report has one outcome for each saga that reacts to the message, in
the order of registration, and the outcomes tell all that the delivery did to the store and the
outbox. -/
theorem report_truthful (hreached : orchestrator.directory.Reached log)
    (hmemory : orchestrator.InMemory) (hsilent : orchestrator.Silent)
    (hnames : (orchestrator.directory.registrations.map (·.saga.type.name)).Nodup)
    (htarget : request.target = none) {report : Report}
    (h : (orchestrator.deliver nesting request w).1 = .ok report) :
    (orchestrator.turns nesting request w).map (·.registration) =
        orchestrator.directory.registrations.filter
          (·.capabilities.reactsTo request.message.type) ∧
      report.messageType = request.message.type ∧
      Truthful request.message.type (orchestrator.turns nesting request w) report.outcomes w
        (orchestrator.deliver nesting request w).2 := by
  have hselected : orchestrator.selected request =
      .ok (orchestrator.directory.registrations.filter
        (·.capabilities.reactsTo request.message.type)) := by
    unfold selected
    rw [htarget]
    exact congrArg Except.ok (hreached.indexed.matching_eq request.message.type)
  have hturns : orchestrator.turns nesting request w =
      orchestrator.turnsFrom (orchestrator.below nesting) request
        (orchestrator.directory.registrations.filter
          (·.capabilities.reactsTo request.message.type)) (begun w) := by
    unfold turns
    rw [hselected]
  rw [answer_eq, hselected] at h
  obtain ⟨hnone, rfl⟩ := eq_report_of_gathered h
  obtain ⟨trace, htold⟩ := orchestrator.deliver_told nesting request w
  have heach : ∀ turn ∈ orchestrator.turns nesting request w, turn.error? = none ∧
      ∃ settled, turn.settled? = some settled ∧
        Truthful request.message.type [turn] [settled.outcome] turn.before turn.after := by
    intro turn hmem
    obtain ⟨settled, hsettled⟩ := exists_settled hreached htarget hmem (hnone turn hmem)
    exact ⟨hnone turn hmem, settled, hsettled, turn_truthful hmemory hsilent hmem hsettled⟩
  have hdistinct : ((orchestrator.directory.registrations.filter
      (·.capabilities.reactsTo request.message.type)).map (·.saga.type.name)).Nodup :=
    hnames.sublist (List.filter_sublist.map _)
  rw [hturns] at hnone heach
  have htruthful := turnsFrom_truthful hdistinct heach
  rw [← hturns] at htruthful
  refine ⟨?_, rfl, ?_⟩
  · rw [hturns]
    exact map_registration_of_error_free hnone
  · -- neither the log nor the count of messages tells of the store or the outbox
    rw [htold]
    exact ⟨htruthful.told, htruthful.saves, htruthful.sent, htruthful.others⟩

open Simulation in
/-- Both sagas of a pair are opened by one message, and go on. -/
theorem report_truthful_pair :
    let request := requestFor none keepBoth
    let w := World.ofResources emptyBench
    let first : Outcome := ⟨⟨"First", "c"⟩, .start, .proceed, false, some "#t1", none⟩
    let second : Outcome := ⟨⟨"Second", "c"⟩, .start, .proceed, false, some "#t2", none⟩
    ((pair "Second").directory.registrations.map (·.saga.type.name)).Nodup ∧
      ((pair "Second").deliver 2 request w).1 = .ok ⟨keepBoth.type, [first, second]⟩ ∧
      ((pair "Second").turns 2 request w).map (·.registration) =
        (pair "Second").directory.registrations.filter (·.capabilities.reactsTo keepBoth.type) ∧
      Truthful keepBoth.type ((pair "Second").turns 2 request w) [first, second] w
        ((pair "Second").deliver 2 request w).2 := by
  intro request w first second
  have hnames : ((pair "Second").directory.registrations.map (·.saga.type.name)).Nodup := by
    decide +kernel
  have hreport : ((pair "Second").deliver 2 request w).1 =
      .ok ⟨keepBoth.type, [first, second]⟩ := by
    decide +kernel
  have hreached :=
    (Directory.Reached.empty.register firstSpec.toSaga).register (secondSpec "Second").toSaga
  have hmemory : (pair "Second").InMemory := ⟨_, rfl⟩
  obtain ⟨hturns, -, htruthful⟩ :=
    report_truthful hreached hmemory (pair_silent "Second") hnames rfl hreport
  exact ⟨hnames, hreport, hturns, htruthful⟩

open Simulation in
/-- A wrapper sends a message of its own while the first saga is at work. Nothing else sends any,
but where the report tells of two saves, four were made. -/
theorem sending_wrapper_not_truthful :
    let wrapper : Wrapper Scripted := .custom fun step =>
      if step.key = ⟨"First", "c"⟩ then
        .send (requestFor none keepOthers) fun _ => return changing id
      else return changing id
    let orchestrator := { pair "Second" with chain := [wrapper] }
    let request := requestFor none keepBoth
    let w := World.ofResources emptyBench
    let first : Outcome := ⟨⟨"First", "c"⟩, .start, .proceed, false, some "#t3", none⟩
    let second : Outcome := ⟨⟨"Second", "c"⟩, .start, .proceed, false, some "#t4", none⟩
    { orchestrator with chain := [] }.Silent ∧ orchestrator.InMemory ∧
      (orchestrator.directory.registrations.map (·.saga.type.name)).Nodup ∧
      (orchestrator.deliver 2 request w).1 = .ok ⟨keepBoth.type, [first, second]⟩ ∧
      (orchestrator.deliver 2 request w).2.store.saves = 4 ∧
      ¬ Truthful keepBoth.type (orchestrator.turns 2 request w) [first, second] w
        (orchestrator.deliver 2 request w).2 := by
  intro wrapper orchestrator request w first second
  have hmade : (orchestrator.deliver 2 request w).2.store.saves = 4 := by decide +kernel
  refine ⟨pair_silent "Second", ⟨_, rfl⟩, by decide +kernel, by decide +kernel, hmade, ?_⟩
  intro htruthful
  have htold : (orchestrator.deliver 2 request w).2.store.saves = 2 := htruthful.saves
  rw [hmade] at htold
  cases htold

end Orchestrator

end Sagas
