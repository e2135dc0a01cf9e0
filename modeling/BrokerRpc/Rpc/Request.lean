import BrokerRpc.Json.Record
import BrokerRpc.Json.Writer

/-! # Requests

A request names a method and carries parameters. Its id comes back with the answer; a request
without an id, or with the id `null`, is a notification and gets no answer.
-/
namespace BrokerRpc

def protocolVersion : String := "2.0"

def minInteger : Int := -0x8000000000000000

def maxInteger : Int := 0x7fffffffffffffff

structure Request where
  version : String := protocolVersion
  method : String
  params : Json
  id : Option Json
  deriving DecidableEq, Repr

namespace Request

def call (method : String) (params id : Json) : Request := { method, params, id := some id }

def notification (method : String) (params : Json) : Request := { method, params, id := none }

def isNotification (r : Request) : Bool :=
  match r.id with
  | none => true
  | some id => id.isNull

/-- The request with the id `null` left out. -/
def normalized (r : Request) : Request := { r with id := r.id.filter (!·.isNull) }

def toJson (r : Request) : Json :=
  .obj ([("jsonrpc", .str r.version), ("method", .str r.method), ("params", r.params)] ++
    (r.id.map fun id => ("id", id)).toList)

def bytes (r : Request) : Bytes := r.toJson.bytes

def batchBytes (rs : List Request) : Bytes := (Json.arr (rs.map toJson)).bytes

def fields : List Json.Field :=
  [⟨"jsonrpc", .text, true⟩, ⟨"method", .text, true⟩, ⟨"params", .any, false⟩,
   ⟨"id", .optional .any, false⟩]

def textOf : Option Json → String
  | some (.str s) => s
  | _ => ""

def ofRecord (r : Json.Record) : Request :=
  { version := textOf (r.get? "jsonrpc"), method := textOf (r.get? "method")
    params := (r.get? "params").getD .null, id := (r.get? "id").filter (!·.isNull) }

def parse (b : Bytes) : Except Json.Fault Request := return ofRecord (← Json.Record.parse fields b)

theorem isNotification_normalized (r : Request) :
    r.normalized.isNotification = r.isNotification := by
  rcases r with ⟨_, _, _, _ | id⟩
  · rfl
  · cases h : id.isNull <;> simp [normalized, isNotification, Option.filter, h]

end Request

structure RpcError where
  code : Int
  message : String
  data : Option Json := none
  deriving DecidableEq, Repr

namespace RpcError

def fields : List Json.Field :=
  [⟨"code", .whole minInteger maxInteger, true⟩, ⟨"message", .text, true⟩,
   ⟨"data", .optional .any, false⟩]

def numberOf : Option Json → Int
  | some (.int n) => n
  | _ => 0

def parse (b : Bytes) : Except Json.Fault RpcError := do
  let r ← Json.Record.parse fields b
  return { code := numberOf (r.get? "code"), message := Request.textOf (r.get? "message")
           data := (r.get? "data").filter (!·.isNull) }

def bytes (e : RpcError) : Bytes :=
  (Json.obj ([("code", .int e.code), ("message", .str e.message)] ++
    (e.data.map fun data => ("data", data)).toList)).bytes

end RpcError
end BrokerRpc
