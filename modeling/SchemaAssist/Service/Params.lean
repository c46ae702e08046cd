/-
  The parameters of a completion request.

  The checks run in a fixed order, and the first that fails is reported.  The two numbers of a
  position may be anything that reads as an integer.
-/
import SchemaAssist.Document.Basic
import SchemaAssist.Json.Basic
import SchemaAssist.Number.Reading

namespace SchemaAssist.Service

open Number

structure CompletionParams where
  content : String
  position : Position
  trigger : Option String
  deriving DecidableEq, Repr

inductive InvalidParams where
  | notObject
  | content
  | position
  | trigger
  | number (cause : Fault)
  deriving DecidableEq, Repr

def InvalidParams.message : InvalidParams → String
  | notObject => "params must be an object"
  | content => "'content' must be a string"
  | position => "'position' must be an object"
  | trigger => "'triggerCharacter' must be a string"
  | number cause => "invalid position: " ++ cause.message

/-- Why parameters were not taken. -/
inductive ParamsFailure where
  | invalid (reason : InvalidParams)
  /-- An infinite number, which is not counted among the invalid ones. -/
  | fault (fault : Fault)
  deriving DecidableEq, Repr

/-- The integer a value reads as: doubles lose their fraction, truth values are 0 and 1. -/
def toInteger : Json → Except Fault Int
  | .int n => .ok n
  | .bool b => .ok (if b then 1 else 0)
  | .str s => readInteger 10 s.toList
  | .float x =>
    match x with
    | .nan => .error .integerOfNan
    | .infinite _ => .error .integerOfInfinity
    | .finite .. => .ok (x.truncate?.getD 0)
  | v => .error (.integerKind v.kindName)

def coordinate (position : Json) (name : String) : Except ParamsFailure Int :=
  match toInteger ((position.get? name).getD (.int 0)) with
  | .ok n => .ok n
  | .error .integerOfInfinity => .error (.fault .integerOfInfinity)
  | .error cause => .error (.invalid (.number cause))

def readParams (params : Json) : Except ParamsFailure CompletionParams :=
  match params with
  | .obj _ =>
    match params.get? "content" with
    | some (.str content) =>
      match (params.get? "position").getD (.obj []) with
      | .obj members =>
        let rest (trigger : Option String) : Except ParamsFailure CompletionParams := do
          let line ← coordinate (.obj members) "line"
          let column ← coordinate (.obj members) "character"
          pure ⟨content, ⟨line, column⟩, trigger⟩
        match (params.get? "triggerCharacter").getD .null with
        | .null => rest none
        | .str trigger => rest (some trigger)
        | _ => .error (.invalid .trigger)
      | _ => .error (.invalid .position)
    | _ => .error (.invalid .content)
  | _ => .error (.invalid .notObject)

end SchemaAssist.Service
