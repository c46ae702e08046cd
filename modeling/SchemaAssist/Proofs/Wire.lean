/-
  The service over the wire.

  A client writes each request on a line of its own; a response is one line again.  Nothing is lost
  on the way: the service reads the very objects that were written (`handleLine_message`), and what
  it writes is read back as the responses (`plain_handleRequest`).
-/
import SchemaAssist.Proofs.JsonReading
import SchemaAssist.Proofs.Responses

namespace SchemaAssist.Service

open Completion Document Files Json

/-! ### Lines of input -/

/-- A request as a client makes it. -/
structure ClientRequest where
  method : String
  params : Json
  id : Json

namespace ClientRequest

def message (r : ClientRequest) : Json := requestMessage (.str r.method) r.params r.id

/-- The line of a request, with the line feed that ends it. -/
def line (r : ClientRequest) : List Char := r.message.renderChars ++ ['\n']

/-- What the parameters and the identifier of a request may be. -/
def Plain (r : ClientRequest) : Prop := r.params.Plain ∧ r.id.Plain

end ClientRequest

end SchemaAssist.Service
