import Sagas.Text.Quoted

/-!
# Faults

Errors that come from outside of the engine: from handlers, hooks, wrappers and gateways. The
engine passes them on unchanged and never looks inside.
-/

namespace Sagas

/-- An error of the application or of a gateway. -/
inductive Fault where
  /-- A plain text. -/
  | text (message : String)
  /-- A typed error: the name of its type, its fields, and the sentence that describes it. -/
  | typed (type : String) (fields : List (String × String)) (message : String)
  deriving DecidableEq, Repr

namespace Fault

/-- The sentence that describes the fault. -/
def message : Fault → String
  | text message => message
  | typed _ _ message => message

/-- The inspected form: a quoted text, or the type's name with its fields in braces. -/
def inspect : Fault → String
  | text message => Text.quote message
  | typed type [] _ => type
  | typed type fields _ =>
    type ++ " \x7b " ++
      ", ".intercalate (fields.map fun (name, value) => name ++ ": " ++ Text.quote value) ++ " \x7d"

/-- An inspected optional fault. -/
def inspectOption : Option Fault → String
  | none => "None"
  | some fault => "Some(" ++ fault.inspect ++ ")"

end Fault

end Sagas
