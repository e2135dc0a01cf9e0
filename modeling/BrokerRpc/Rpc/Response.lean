import BrokerRpc.Failure
import BrokerRpc.Rpc.Request

/-! # Responses

A response carries the id of its request and either a result, or an error, or neither. An explicit
`null` result is a result. Shown to a reader, a response hides the value of a result's password.
-/
namespace BrokerRpc

structure Response where
  result : Option Json
  error : Option Json
  id : Json
  deriving DecidableEq, Repr

namespace Response

/-- The code of the error that stands in for an answer that never came. -/
def timeoutCode : Int := 5022

def timeoutMessage : String := "Message timeout which can be caused by communication issues"

def success (id result : Json) : Response := ⟨some result, none, id⟩

def failure (id : Json) (code : Int) (message : String) : Response :=
  ⟨none, some (.obj [("code", .int code), ("message", .str message)]), id⟩

def timeout (id : Json) : Response := failure id timeoutCode timeoutMessage

def ofJson (v : Json) : Except Failure Response := do
  let .obj node := v | throw (.protocol .responseNotObject)
  match Assoc.get? node "jsonrpc" with
  | none => throw (.protocol .versionMissing)
  | some version =>
    if version ≠ .str protocolVersion then throw (.protocol .versionUnsupported)
    let some id := Assoc.get? node "id" | throw (.protocol .idMissing)
    let result := Assoc.get? node "result"
    let error := Assoc.get? node "error"
    if result.isSome && error.isSome then throw (.protocol .resultAndError)
    return ⟨result, error, id⟩

def parse (b : Bytes) : Except Failure Response :=
  match Json.parse b with
  | .ok v => ofJson v
  | .error _ => .error (.protocol .unreadableResponse)

def members (r : Response) : Members :=
  (r.error.map fun e => ("error", e)).toList ++
    [("id", r.id), ("jsonrpc", .str protocolVersion)] ++
    (r.result.map fun v => ("result", v)).toList

def toJson (r : Response) : Json := .obj r.members

def bytes (r : Response) : Bytes := r.toJson.bytes

def isError (r : Response) : Bool := r.error.isSome

/-- The code of an error that is an object with a whole 64-bit code. -/
def errorCode? (r : Response) : Option Int :=
  match r.error with
  | some (.obj node) =>
    match Assoc.get? node "code" with
    | some (.int n) => if minInteger ≤ n ∧ n ≤ maxInteger then some n else none
    | _ => none
  | _ => none

/-- The key that tells ids apart: the written id. -/
def idKey (id : Json) : String := id.text

def hiddenKey : String := "password"

def mask : String := "*****"

/-- The shown value of a member: hidden, or the text itself, or JSON. -/
def shownMember (entry : String × Json) : String :=
  let value :=
    if entry.1 = hiddenKey then mask
    else
      match entry.2 with
      | .str s => s
      | other => other.text
  entry.1 ++ ": " ++ value

def shownResult : Json → String
  | .obj node => "\x7b" ++ ", ".intercalate (node.map shownMember) ++ "\x7d"
  | other => other.text

def text (r : Response) : String :=
  "<JsonRpcResponse id: " ++ r.id.text ++
    match r.result, r.error with
    | some result, _ => " result: " ++ shownResult result ++ ">"
    | none, some error => " error: " ++ error.text ++ ">"
    | none, none => ">"

end Response
end BrokerRpc
