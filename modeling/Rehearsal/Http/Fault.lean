import Rehearsal.Url.Basic

/-!
# Failed requests

Why a request got no answer. A fault names the URL once the request was addressed.
-/

namespace Rehearsal.Http

/-- Why a request got no answer. -/
inductive Fault where
  /-- The text is no URL. -/
  | notUrl (fault : UrlFault)
  /-- The URL is not fetched over HTTP. -/
  | schemeNotAllowed (url : Url)
  /-- The URL cannot stand in a request. -/
  | notNameable (url : Url)
  | invalidHeaderName
  | invalidHeaderValue
  /-- No connection could be made. -/
  | unreachable (url : Url)
  /-- A redirect led to a URL that is not fetched over HTTP. -/
  | ledAstray (url : Url)
  /-- The connection was closed before an answer came. -/
  | dropped (url : Url)
  | tooManyRedirects (url : Url)
  deriving DecidableEq

/-- The wording of a fault. -/
def Fault.message : Fault → String
  | .notUrl f => s!"builder error: {f.message}"
  | .schemeNotAllowed u => s!"builder error for url ({u}): URL scheme is not allowed"
  | .notNameable u => s!"builder error for url ({u}): Parsed Url is not a valid Uri"
  | .invalidHeaderName => "builder error: invalid HTTP header name"
  | .invalidHeaderValue => "builder error: failed to parse header value"
  | .unreachable u =>
    s!"error sending request for url ({u}): error trying to connect: tcp connect error: Network is unreachable (os error 101)"
  | .ledAstray u =>
    s!"error sending request for url ({u}): error trying to connect: invalid URL, scheme is not http"
  | .dropped u => s!"error sending request for url ({u}): connection closed before message completed"
  | .tooManyRedirects u => s!"error following redirect for url ({u}): too many redirects"

end Rehearsal.Http
