/-
  The messages of the service: JSON-RPC 2.0, one object each.
-/
import SchemaAssist.Json.Parser
import SchemaAssist.Json.Printer

namespace SchemaAssist.Service

def protocolVersion : Json := .str "2.0"

def requestMessage (method : Json) (params id : Json) : Json :=
  .obj [("jsonrpc", protocolVersion), ("method", method), ("params", params), ("id", id)]

def resultMessage (result id : Json) : Json :=
  .obj [("jsonrpc", protocolVersion), ("result", result), ("id", id)]

def errorMessage (code : Int) (message : Json) (id : Json) : Json :=
  .obj [("jsonrpc", protocolVersion), ("error", .obj [("code", .int code), ("message", message)]),
    ("id", id)]

inductive ErrorCode where
  | parse
  | invalidParams
  | methodNotFound
  | internal
  deriving DecidableEq, Repr

def ErrorCode.number : ErrorCode → Int
  | parse => -32700
  | invalidParams => -32602
  | methodNotFound => -32601
  | internal => -32603

def errorAnswer (code : ErrorCode) (message : String) (id : Json) : Json :=
  errorMessage code.number (.str message) id

end SchemaAssist.Service
