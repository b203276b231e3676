import ThreatIntel.Credentials.Signer
import ThreatIntel.Exchange.Network
import ThreatIntel.Settings.Basic

/-!
# Sites

A site is a base address with what proves who asks there. A request to it goes to the base address
followed by the path of the request, and over a network the site is a server.
-/

namespace ThreatIntel

/-- A base address, and who asks there. -/
structure Site where
  /-- The base address, without a slash at its end. -/
  base : String
  /-- Who asks. -/
  signer : Credentials.Signer
  deriving DecidableEq, Repr

namespace Site

/-- A text without slashes at its end. -/
def withoutSlashes (text : String) : String :=
  String.ofList (text.toList.reverse.dropWhile (· == '/')).reverse

/-- The site at a base address. -/
def locate (base : String) (signer : Credentials.Signer) : Except Error Site :=
  let base := withoutSlashes base
  match Url.ofText base with
  | .ok _ => .ok ⟨base, signer⟩
  | .error _ => .error (Error.configuration s!"Invalid base URL '{base}'").withCause

/-- The site at a base address with stored credentials. -/
def ofCredentials (base : String) (credentials : Credentials.Settings) : Except Error Site := do
  locate base (← Credentials.Signer.ofSettings credentials)

/-- The site that settings name, which have to be able to work. -/
def ofSettings (settings : Settings) : Except Error Site := do
  settings.validate
  ofCredentials settings.api.baseUrl settings.auth

/-- The address of a request. -/
def url (site : Site) (request : Request) : Except Error Url :=
  match Url.ofText (site.base ++ request.path) with
  | .ok url => .ok (url.withPairs request.query)
  | .error fault =>
      .error (.validation s!"Invalid request path '{request.path}': {fault.message}")

/-- A request as it leaves at a time. -/
def dispatch (site : Site) (time : Int64) (request : Request) : Except Error Dispatch := do
  let url ← site.url request
  let target := String.ofList url.target
  pure ⟨request.method, url, site.signer.headers target request.method time, request.body⟩

/-- The site as a server over a network. -/
def server (site : Site) (network : Network) : Server where
  answer log request := do
    let dispatch ← site.dispatch (network.time log) request
    (network.reply log dispatch).read request

end Site
end ThreatIntel
