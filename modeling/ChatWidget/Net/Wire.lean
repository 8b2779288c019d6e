import ChatWidget.Net.Response
/-!
The way to the server and back. Requests are counted as they arrive, and the count decides the answer, so
what a run does is settled by the answers the wire was given. A wire may hold requests back until they
are released one by one.
-/
namespace ChatWidget

structure Request where
  method : String
  url : String
  accept : String
  contentType : Option String := none
  encoding : Option String := none
  cookie : Option String := none
  body : String := ""

/-- What comes back for a request. -/
inductive Answer where
  | response (response : Response)
  | late (reason : String)
  | broken (reason : String)
  /-- Something fails that is no matter of the exchange. -/
  | failed (fault : Fault)

/-- The way to a server: its answers to the first requests, its answer to all others, whether requests
are held back, the requests that have arrived, and the second at which all this happens. -/
structure Wire where
  answers : List Answer := []
  fallback : Answer := .response { status := 204 }
  holds : Bool := false
  arrived : List Request := []
  now : Int := 0

namespace Wire

def answerTo (wire : Wire) (number : Nat) : Answer := wire.answers.getD number wire.fallback

/-- Let a request arrive; it has the number of those before it. -/
def arrive (wire : Wire) (request : Request) : Nat × Wire :=
  (wire.arrived.length, { wire with arrived := wire.arrived ++ [request] })

end Wire

end ChatWidget
