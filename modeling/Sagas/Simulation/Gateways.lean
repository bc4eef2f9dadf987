import Sagas.Engine.Step
import Sagas.Factories
import Sagas.Simulation.Script

/-!
# Gateways with faults

The gateways in memory, with the faults that a scenario injects. At each call of a gateway
the oldest fault that still waits for it is consulted; it lets the call pass, or it strikes.
-/

namespace Sagas.Simulation

/-- What strikes at a gateway now, and the faults that wait from then on. -/
def consult (gateway : Gateway) : List Hook → Mishap × List Hook
  | [] => (.none, [])
  | hook :: rest =>
    if hook.gateway = gateway ∧ 0 < hook.times then
      if 0 < hook.skip then (.none, { hook with skip := hook.skip - 1 } :: rest)
      else (hook.mishap, { hook with times := hook.times - 1 } :: rest)
    else
      let (mishap, rest) := consult gateway rest
      (mishap, hook :: rest)

/-- What strikes at a gateway of the store or the outbox. -/
def strike (gateway : Gateway) : StateM (Resources Scripted) Mishap := fun resources =>
  let (mishap, hooks) := consult gateway resources.env.hooks
  (mishap, { resources with env := { resources.env with hooks } })

/-- Keeps the number of issued tokens that scripts know in step with the store. -/
def syncTokens : StateM (Resources Scripted) Unit := modify fun resources =>
  { resources with env := { resources.env with issued := resources.store.saves } }

/-- Saves a record in the store in memory. -/
def keep (record : Record) : StateM (Resources Scripted) (Except StoreError Token) := do
  let resources ← get
  let (result, store) := resources.store.save record
  set { resources with store }
  syncTokens
  return result

/-- Saves the stored record of a saga instance once more, as somebody else would. -/
def touch (key : Key) : StateM (Resources Scripted) Unit := do
  match (← get).store.find? key with
  | some record => discard (keep record)
  | none => return ()

/-- Cancels a signal. -/
def cancelSignal (signal : Signal) : StateM (Resources Scripted) Unit := modify fun resources =>
  { resources with signals := resources.signals.cancel signal }

/-- Loads a record. Faults that follow the read change the store only afterwards. -/
def load (key : Key) (signal : Signal) :
    StateM (Resources Scripted) (Except StoreError (Option Record)) := do
  let mishap ← strike .load
  let found := (← get).store.find? key
  match mishap with
  | .fail (.text reason) => return .error (.backend (.text reason))
  | .conflict => return .error (.conflict key none none)
  | .missing => return .ok none
  | .strip => return .ok (found.map fun record => { record with token := none })
  | .touch =>
    touch key
    return .ok found
  | .cancel =>
    cancelSignal signal
    return .ok found
  | .fail (.typed ..) | .wrong | .none => return .ok found

/-- Saves a record. Faults strike before it. -/
def save (record : Record) (signal : Signal) :
    StateM (Resources Scripted) (Except StoreError Token) := do
  match ← strike .save with
  | .fail (.text reason) => return .error (.backend (.text reason))
  | .conflict => return .error (.conflict record.toKey none none)
  | .touch =>
    touch record.toKey
    keep record
  | .cancel =>
    cancelSignal signal
    keep record
  | .fail (.typed ..) | .missing | .strip | .wrong | .none => keep record

/-- Publishes a message. Faults strike before it. -/
def publish (outgoing : Outgoing Body) (signal : Signal) :
    StateM (Resources Scripted) (Except Fault Unit) := do
  let mishap ← strike .publish
  if let .fail error := mishap then return .error error
  if let .cancel := mishap then cancelSignal signal
  let resources ← get
  let (result, outbox) := resources.outbox.publish outgoing
  set { resources with outbox }
  return result

/-- Resolves an instance. -/
def resolve (factories : Factories) (saga : SagaType) :
    Program Scripted (Except Fault Instance) := do
  let (mishap, hooks) := consult .resolve (← Program.read).hooks
  Program.modify fun bench => { bench with hooks }
  match mishap with
  | .fail error => return .error error
  | .wrong => Program.newInstance fun serial => return .ok ⟨saga.id + 1, serial⟩
  | .cancel =>
    cancelInnermost
    factories.resolve saga
  | .conflict | .touch | .missing | .strip | .none => factories.resolve saga

/-- The gateways of a scenario. -/
def gateways (factories : Factories) : Gateways Scripted where
  load
  save
  publish
  resolve := resolve factories

end Sagas.Simulation
