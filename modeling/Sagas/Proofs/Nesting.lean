import Sagas.Proofs.Walk

/-!
# Chains nest

A wrapper has two parts. The first one runs before the rest of the chain, and either answers itself
or continues; the second one runs on the answer that comes back. So a run through a chain goes in by
the first parts, the outermost first, as far as the handler or a wrapper that does not continue, and
comes back by the second parts, the innermost first.

* `Wrapper.wrap_run`: a wrapper around some work, told by its two parts.
* `Chain.passes`: the wrappers that a run enters, with the worlds around their first parts.
* `Chain.run_told`: the way in, what is done at the innermost place, and the way back.
* `Chain.ascend_error`: an error on its way back arrives as it is, unless a wrapper farther out
  replaces it.
* `Chain.nests`: chains nest like functions, and what follows for every run through one.
-/

namespace Sagas

variable {A : Application}

/-! ## The two parts of a wrapper -/

/-- What is done with an answer on its way back. -/
abbrev Closing (A : Application) := HandlerResult A.Body → Run A (HandlerResult A.Body)

/-- What a wrapper comes to in its first part. -/
inductive Opening (A : Application) where
  /-- It answers, and nothing inside of it runs. -/
  | answers (result : HandlerResult A.Body)
  /-- It has the rest of the chain run, and then its second part. -/
  | continues (close : Closing A)

/-- Sends the answer of some work back. The state of the saga stays as the work has left it. -/
def Closing.back (close : Closing A) (left : HandlerResult A.Body × A.State) :
    Run A (HandlerResult A.Body × A.State) := do
  let answer ← close left.1
  return (answer, left.2)

/-- The first part of a wrapper. -/
def Wrapper.opening (send : Request A.Body → Run A Answer) (step : StepInfo) :
    Wrapper A → Run A (Opening A)
  | tracing => do
    World.emit [.stepStarted step.key step.message step.stage]
    return .continues fun result => do
      World.emit [endEvent step result]
      return result
  | metrics => do
    World.count [.steps step.key.sagaType step.stage]
    return .continues fun result => do
      World.count (endMetrics step result)
      return result
  | custom before => do
    match ← (before step).run send with
    | .halt result => return .answers result
    | .enclose after => return .continues fun result => (after result).run send

variable (send : Request A.Body → Run A Answer) (step : StepInfo)

/-- **A wrapper is its two parts**: it answers, and the work does not run; or the work runs once
between them. -/
theorem Wrapper.wrap_run (work : Work A) (state : A.State) (wrapper : Wrapper A) :
    (wrapper.wrap send step work).run state =
      wrapper.opening send step >>= fun opening => match opening with
        | .answers result => pure (result, state)
        | .continues close => work.run state >>= Closing.back close := by
  cases wrapper with
  | tracing => rfl
  | metrics => rfl
  | custom before =>
    rw [Wrapper.custom_run, opening, bind_assoc]
    congr 1
    funext around
    cases around <;> rfl

/-! ## The way in -/

/-- A wrapper that a run has entered: what it came to in its first part, and the worlds around that.
-/
structure Pass (A : Application) where
  wrapper : Wrapper A
  before : World A
  opening : Opening A
  after : World A

namespace Pass

/-- What a wrapper answered that did not continue. -/
def answer? (pass : Pass A) : Option (HandlerResult A.Body) := match pass.opening with
  | .answers result => some result
  | .continues _ => none

/-- The second part of a wrapper that continued. -/
def close (pass : Pass A) : Closing A := match pass.opening with
  | .answers _ => pure
  | .continues close => close

theorem close_of_answer {pass : Pass A} {result : HandlerResult A.Body}
    (h : pass.answer? = some result) : pass.close = pure := by
  unfold answer? at h
  unfold close
  split at h
  · rfl
  · cases h

end Pass

namespace Chain

/-- The wrappers that a run enters from a world on: each continues but for the last one, maybe. -/
def passes : Chain A → World A → List (Pass A)
  | [], _ => []
  | wrapper :: rest, w =>
    ⟨wrapper, w, (wrapper.opening send step w).1, (wrapper.opening send step w).2⟩ ::
      match wrapper.opening send step w with
      | (.answers _, _) => []
      | (.continues _, after) => passes rest after

/-- The world at the innermost place. -/
def inside (w : World A) : List (Pass A) → World A
  | [] => w
  | pass :: later => inside pass.after later

/-- What is done at the innermost place: a wrapper has answered there, or it is the work itself. -/
def inmost (work : Work A) (state : A.State) (entered : List (Pass A)) :
    Run A (HandlerResult A.Body × A.State) :=
  match entered.findSome? Pass.answer? with
  | some result => pure (result, state)
  | none => work.run state

/-- The second parts of the wrappers that were entered, the innermost first. -/
def closings (entered : List (Pass A)) : List (Closing A) := entered.reverse.map Pass.close

/-- The way back. -/
def ascend : List (Closing A) → Closing A
  | [], result => pure result
  | close :: outer, result => do
    let answer ← close result
    ascend outer answer

variable {send step} {chain : Chain A} {w : World A} {earlier later : List (Pass A)} {pass : Pass A}
  {result : HandlerResult A.Body}

theorem passes_of_answers {wrapper : Wrapper A} {rest : Chain A} {after : World A}
    (h : wrapper.opening send step w = (.answers result, after)) :
    passes send step (wrapper :: rest) w = [⟨wrapper, w, .answers result, after⟩] := by
  rw [passes, h]

theorem passes_of_continues {wrapper : Wrapper A} {rest : Chain A} {after : World A}
    {close : Closing A} (h : wrapper.opening send step w = (.continues close, after)) :
    passes send step (wrapper :: rest) w =
      ⟨wrapper, w, .continues close, after⟩ :: passes send step rest after := by
  rw [passes, h]

theorem ascend_append (inner outer : List (Closing A)) (result : HandlerResult A.Body) :
    ascend (inner ++ outer) result = ascend inner result >>= ascend outer := by
  induction inner generalizing result with
  | nil => rfl
  | cons close inner ih => simp only [List.cons_append, ascend, ih, bind_assoc]

theorem back_ascend_append (inner outer : List (Closing A))
    (left : HandlerResult A.Body × A.State) :
    Closing.back (ascend (inner ++ outer)) left =
      Closing.back (ascend inner) left >>= Closing.back (ascend outer) := by
  simp only [Closing.back, ascend_append, bind_assoc, pure_bind]

theorem closings_cons : closings (pass :: later) = closings later ++ [pass.close] := by
  unfold closings
  rw [List.reverse_cons, List.map_append]
  rfl

theorem closings_concat : closings (earlier ++ [pass]) = pass.close :: closings earlier := by
  unfold closings
  rw [List.reverse_append, List.map_append]
  rfl

theorem inside_concat : inside w (earlier ++ [pass]) = pass.after := by
  induction earlier generalizing w with
  | nil => rfl
  | cons first earlier ih => exact ih

/-- The wrappers entered are the first ones, in their order. -/
theorem map_wrapper_passes (send : Request A.Body → Run A Answer) (step : StepInfo)
    (chain : Chain A) (w : World A) :
    (chain.passes send step w).map Pass.wrapper = chain.take (chain.passes send step w).length := by
  induction chain generalizing w with
  | nil => rfl
  | cons wrapper rest ih =>
    cases hopened : wrapper.opening send step w with
    | mk opening after =>
      cases opening with
      | answers result =>
        rw [passes_of_answers hopened]
        rfl
      | continues close =>
        rw [passes_of_continues hopened]
        exact congrArg (wrapper :: ·) (ih after)

/-- A wrapper is entered in the world that the one before it has left. -/
theorem entered_of_split (h : chain.passes send step w = earlier ++ pass :: later) :
    pass.before = inside w earlier ∧
      pass.wrapper.opening send step pass.before = (pass.opening, pass.after) := by
  induction chain generalizing w earlier with
  | nil => simp [passes] at h
  | cons wrapper rest ih =>
    rw [passes] at h
    cases earlier with
    | nil =>
      obtain ⟨rfl, -⟩ := List.cons.inj h
      exact ⟨rfl, rfl⟩
    | cons first earlier =>
      obtain ⟨rfl, hrest⟩ := List.cons.inj h
      split at hrest
      · simp at hrest
      · rename_i hopened
        obtain ⟨hbefore, hopening⟩ := ih hrest
        refine ⟨?_, hopening⟩
        rw [hbefore, inside, hopened]

/-- Nothing is entered inside of a wrapper that does not continue. -/
theorem later_of_answer (h : chain.passes send step w = earlier ++ pass :: later)
    (hanswer : pass.answer? = some result) : later = [] := by
  induction chain generalizing w earlier with
  | nil => simp [passes] at h
  | cons wrapper rest ih =>
    rw [passes] at h
    cases earlier with
    | nil =>
      obtain ⟨rfl, hrest⟩ := List.cons.inj h
      split at hrest
      · exact hrest.symm
      · rename_i hopened
        simp [Pass.answer?, hopened] at hanswer
    | cons first earlier =>
      obtain ⟨-, hrest⟩ := List.cons.inj h
      split at hrest
      · simp at hrest
      · exact ih hrest

/-- Where every wrapper that was entered continues, all have been. -/
theorem length_passes (h : ∀ pass ∈ chain.passes send step w, pass.answer? = none) :
    (chain.passes send step w).length = chain.length := by
  induction chain generalizing w with
  | nil => rfl
  | cons wrapper rest ih =>
    rw [passes] at h ⊢
    obtain ⟨hfirst, hrest⟩ := List.forall_mem_cons.1 h
    split at hrest
    · rename_i hopened
      simp [Pass.answer?, hopened] at hfirst
    · rename_i hopened
      rw [hopened]
      exact congrArg (· + 1) (ih hrest)

/-! ## The way back -/

/-- **A run through a chain**: the way in, what is done at the innermost place, the way back. -/
theorem run_told (work : Work A) (state : A.State) (chain : Chain A) (w : World A) :
    (run send step work chain).run state w =
      (inmost work state (chain.passes send step w) >>=
        Closing.back (ascend (closings (chain.passes send step w))))
          (inside w (chain.passes send step w)) := by
  induction chain generalizing w with
  | nil => rfl
  | cons wrapper rest ih =>
    change (wrapper.wrap send step (run send step work rest)).run state w = _
    rw [Wrapper.wrap_run, Run.bind_apply]
    cases hopened : wrapper.opening send step w with
    | mk opening after =>
      cases opening with
      | answers result =>
        rw [passes_of_answers hopened]
        rfl
      | continues close =>
        -- the second part of the outermost wrapper comes last on the way back
        have hback : Closing.back (ascend (closings (⟨wrapper, w, .continues close, after⟩ ::
            passes send step rest after))) = fun left =>
              Closing.back (ascend (closings (passes send step rest after))) left >>=
                Closing.back close := by
          funext left
          rw [closings_cons, back_ascend_append]
          rfl
        rw [passes_of_continues hopened, hback, ← bind_assoc]
        change Closing.back close ((run send step work rest).run state after).1
          ((run send step work rest).run state after).2 = _
        rw [ih]
        rfl

/-- Where every wrapper continues, the work runs once. -/
theorem run_of_continue (h : ∀ pass ∈ chain.passes send step w, pass.answer? = none)
    (work : Work A) (state : A.State) : (run send step work chain).run state w =
      (work.run state >>= Closing.back (ascend (closings (chain.passes send step w))))
        (inside w (chain.passes send step w)) := by
  rw [run_told, inmost, List.findSome?_eq_none_iff.2 h]

/-- A wrapper continues if another one is entered after it. -/
theorem answer?_of_earlier (h : chain.passes send step w = earlier ++ pass :: later) :
    ∀ other ∈ earlier, other.answer? = none := by
  intro other hmem
  obtain ⟨before, between, rfl⟩ := List.append_of_mem hmem
  cases hother : other.answer? with
  | none => rfl
  | some answer =>
    rw [List.append_assoc, List.cons_append] at h
    simpa using later_of_answer h hother

/-- Where a wrapper does not continue, the work does not run. -/
theorem run_of_answer (h : chain.passes send step w = earlier ++ [pass])
    (hanswer : pass.answer? = some result) (work : Work A) (state : A.State) :
    (run send step work chain).run state w =
      Closing.back (ascend (closings earlier)) (result, state) pass.after := by
  have hanswered : (earlier ++ [pass]).findSome? Pass.answer? = some result := by
    rw [List.findSome?_append, List.findSome?_eq_none_iff.2 (answer?_of_earlier h)]
    simpa using hanswer
  rw [run_told, h, inmost, hanswered, closings_concat, inside_concat, Pass.close_of_answer hanswer]
  rfl

/-- **An error on its way back** is the answer of the chain, unless a wrapper farther out replaces
it. -/
theorem ascend_error (outer : List (Closing A)) (fault : Fault) (w : World A) :
    (ascend outer (.error fault) w).1 = .error fault ∨
      ∃ kept close rest w', outer = kept ++ close :: rest ∧
        ascend kept (.error fault) w = (.error fault, w') ∧
        (close (.error fault) w').1 ≠ .error fault := by
  induction outer generalizing w with
  | nil => exact .inl rfl
  | cons close outer ih =>
    by_cases hkeeps : (close (.error fault) w).1 = .error fault
    · have hfirst : ∀ kept, ascend (close :: kept) (.error fault) w =
          ascend kept (.error fault) (close (.error fault) w).2 := by
        intro kept
        rw [ascend, Run.bind_apply, hkeeps]
      rcases ih (close (.error fault) w).2 with
        harrives | ⟨kept, other, rest, w', rfl, hkept, hother⟩
      · exact .inl (by rw [hfirst, harrives])
      · exact .inr ⟨close :: kept, other, rest, w', rfl, by rw [hfirst, hkept], hother⟩
    · exact .inr ⟨[], close, outer, w, rfl, rfl, hkeeps⟩

/-- An error that has come to some place on the way back of a run. -/
theorem answer_of_error {work : Work A} {state : A.State} {inner outer : List (Closing A)}
    {fault : Fault} {w' : World A} (hback : closings (chain.passes send step w) = inner ++ outer)
    (herror : (inmost work state (chain.passes send step w) >>= fun left => ascend inner left.1)
      (inside w (chain.passes send step w)) = (.error fault, w')) :
    ((run send step work chain).run state w).1.1 = .error fault ∨
      ∃ kept close rest w'', outer = kept ++ close :: rest ∧
        ascend kept (.error fault) w' = (.error fault, w'') ∧
        (close (.error fault) w'').1 ≠ .error fault := by
  have hanswer : ((run send step work chain).run state w).1.1 =
      (((inmost work state (chain.passes send step w) >>= fun left => ascend inner left.1) >>=
        ascend outer) (inside w (chain.passes send step w))).1 := by
    rw [run_told, hback, bind_assoc]
    simp only [← ascend_append]
    rfl
  rw [hanswer, Run.bind_apply, herror]
  exact ascend_error outer fault w'

/-! ## Chains nest -/

/-- A chain with one more wrapper, inside of all the others. -/
def push (chain : Chain A) (wrapper : Wrapper A) : Chain A := chain ++ [wrapper]

/-- A chain with more wrappers, put in one after the other. -/
def pushAll (chain wrappers : Chain A) : Chain A := wrappers.foldl push chain

theorem pushAll_eq (chain wrappers : Chain A) : chain.pushAll wrappers = chain ++ wrappers := by
  induction wrappers generalizing chain with
  | nil => exact (List.append_nil _).symm
  | cons wrapper wrappers ih =>
    rw [pushAll, List.foldl_cons]
    exact (ih (chain.push wrapper)).trans (List.append_cons _ _ _).symm

/-- **What a chain does around some work**, in a run that comes to it in a world. -/
structure Nests (send : Request A.Body → Run A Answer) (step : StepInfo) (chain : Chain A)
    (w : World A) : Prop where
  /-- Each wrapper that is entered is so in the world that the one before it has left. -/
  enters : ∀ earlier pass later, chain.passes send step w = earlier ++ pass :: later →
    pass.before = inside w earlier ∧
      pass.wrapper.opening send step pass.before = (pass.opening, pass.after)
  /-- Where every wrapper continues, all are entered, in their order; the work runs exactly once,
  and its answer goes through the second parts, from the innermost to the outermost. -/
  through : (∀ pass ∈ chain.passes send step w, pass.answer? = none) →
    (chain.passes send step w).map Pass.wrapper = chain ∧
      ∀ work state, (run send step work chain).run state w =
        (work.run state >>= Closing.back (ascend (closings (chain.passes send step w))))
          (inside w (chain.passes send step w))
  /-- Where a wrapper does not continue, it is the last one of those entered, which are the first
  ones of the chain, in their order; the work does not run, and the answer of the wrapper goes
  through the second parts of those before it, from the innermost to the outermost. -/
  halts : ∀ earlier pass later result, chain.passes send step w = earlier ++ pass :: later →
    pass.answer? = some result →
      later = [] ∧ (∀ other ∈ earlier, other.answer? = none) ∧
        (earlier ++ [pass]).map Pass.wrapper = chain.take (earlier.length + 1) ∧
        ∀ work state, (run send step work chain).run state w =
          Closing.back (ascend (closings earlier)) (result, state) pass.after
  /-- An error that has come to some place on the way back is the answer of the chain, unless a
  wrapper farther out is handed it and answers something else. -/
  errors : ∀ work state inner outer fault w',
    closings (chain.passes send step w) = inner ++ outer →
    (inmost work state (chain.passes send step w) >>= fun left => ascend inner left.1)
      (inside w (chain.passes send step w)) = (.error fault, w') →
      ((run send step work chain).run state w).1.1 = .error fault ∨
        ∃ kept close rest w'', outer = kept ++ close :: rest ∧
          ascend kept (.error fault) w' = (.error fault, w'') ∧
          (close (.error fault) w'').1 ≠ .error fault

/-- **Chains nest like functions.** A chain that has been put together from two parts does what the
first part does around the second, and so every run goes in to the work or to the wrapper that does
not continue, and back the same way. -/
theorem nests (send : Request A.Body → Run A Answer) (step : StepInfo) :
    (∀ outer inner work,
      run send step work ((Chain.pushAll [] outer).pushAll inner) =
        run send step (run send step work (Chain.pushAll [] inner)) (Chain.pushAll [] outer)) ∧
      ∀ chain w, Chain.Nests send step chain w := by
  refine ⟨fun outer inner work => ?_, fun chain w => ⟨fun _ _ _ => entered_of_split,
    fun h => ⟨?_, run_of_continue h⟩, fun earlier pass later result h hanswer => ?_,
    fun work state inner outer fault w' => answer_of_error⟩⟩
  · simp only [pushAll_eq, List.nil_append]
    exact run_append send step work outer inner
  · rw [map_wrapper_passes, length_passes h, List.take_length]
  · obtain rfl := later_of_answer h hanswer
    have horder := map_wrapper_passes send step chain w
    rw [h, List.length_append] at horder
    exact ⟨rfl, answer?_of_earlier h, horder, run_of_answer h hanswer⟩

end Chain

end Sagas
