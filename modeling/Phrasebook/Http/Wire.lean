import Phrasebook.Http.Message
/-!
# Responses on a connection

What a response looks like on a connection that is closed after it. The date is put on by the host.
-/

set_option autoImplicit false

namespace Phrasebook.Http

/-- The words that go with a status. -/
def reason : Nat → String
  | 200 => "OK"
  | 400 => "Bad Request"
  | 404 => "Not Found"
  | 405 => "Method Not Allowed"
  | 413 => "Payload Too Large"
  | 415 => "Unsupported Media Type"
  | 422 => "Unprocessable Entity"
  | 429 => "Too Many Requests"
  | 500 => "Internal Server Error"
  | 502 => "Bad Gateway"
  | 503 => "Service Unavailable"
  | _ => ""

namespace Response

/-- The first line. -/
def statusLine (r : Response) : String := "HTTP/1.1 " ++ toString r.status ++ " " ++ reason r.status

/-- The response to a request with this method, as it goes over the connection: the length is told where it
was not, and a request for the head gets no body. -/
def overConnection (r : Response) (method : String) : Response :=
  let headOnly := method == "HEAD"
  let headers := if headOnly && r.body.isEmpty then r.headers
    else r.headers.setDefault "content-length" (Text.encode (toString r.body.length))
  { r with headers := headers.setDefault "connection" (Text.encode "close"), body := if headOnly then [] else r.body }

end Response

end Phrasebook.Http
