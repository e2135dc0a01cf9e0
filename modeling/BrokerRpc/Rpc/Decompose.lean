import BrokerRpc.Rpc.Response

/-! # Views of a response

A result is read as a value of the caller's shape. An absent result reads as `null`. A fraction
never reads as a whole number.
-/
namespace BrokerRpc.Response

def shapeFailure : Failure := .decomposition none

def payload (r : Response) : Json := r.result.getD .null

def view {α : Type} (r : Response) (read : Json → Option α) : Except Failure α :=
  match read r.payload with
  | some x => .ok x
  | none => .error shapeFailure

def asBool? : Json → Option Bool
  | .bool b => some b
  | _ => none

def asText? : Json → Option String
  | .str s => some s
  | _ => none

def asWhole? (low high : Int) : Json → Option Int
  | .int n => if low ≤ n ∧ n ≤ high then some n else none
  | _ => none

def asInteger? : Json → Option Int := asWhole? minInteger maxInteger

def asHalfWord? : Json → Option Int := asWhole? 0 0xffffffff

def asOptional? {α : Type} (read : Json → Option α) : Json → Option (Option α)
  | .null => some none
  | v => (read v).map some

def asList? {α : Type} (read : Json → Option α) : Json → Option (List α)
  | .arr items => items.mapM read
  | _ => none

def asMap? {α : Type} (read : Json → Option α) : Json → Option (List (String × α))
  | .obj node => node.mapM fun entry => (read entry.2).map fun v => (entry.1, v)
  | _ => none

/-- The result as text: a string itself, any other value as JSON. -/
def resultText? (r : Response) : Option String :=
  r.result.map fun v =>
    match v with
    | .str s => s
    | other => other.text

/-- Each item of an array result as an object with one member. -/
def keyed (r : Response) (key : String) : Except Failure (List Json) :=
  (r.view (asList? some)).map fun items => items.map fun item => .obj [(key, item)]

/-- The error as the member `status` of an object that is empty without an error. -/
def status (r : Response) : Json := .obj (r.error.map fun e => ("status", e)).toList

end BrokerRpc.Response
