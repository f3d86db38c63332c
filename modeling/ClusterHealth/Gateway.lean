import ClusterHealth.Config.Basic
import ClusterHealth.Procedure
import ClusterHealth.Text.Base64
import ClusterHealth.Text.Quoted

/-!
The service gateway. A secret kept in the cluster is exchanged for a token, which then goes with
every request.
-/
namespace ClusterHealth.Gateway
open Text (quoted)

/-- The secret under `key` in a document of the cluster. -/
def secretOfJson (json key : String) : Except ApiError String := do
  let some document := Json.parse? json
    | throw (.token s!"Unable to decode secret: {withheld}")
  let some (.string encoded) := (document.field? "data").bind (Json.field? key)
    | throw (.token s!"Secret has no data field {quoted key}")
  let some bytes := Text.Base64.decode? (Text.trim encoded).toList
    | throw (.token s!"Secret field {quoted key} is not base64: {withheld}")
  let some text := Text.decodeUtf8? bytes
    | throw (.token s!"Secret field {quoted key} is not UTF-8: {withheld}")
  let secret := Text.trim text
  if secret.isEmpty then throw (.token s!"Secret field {quoted key} is blank")
  return secret

/-- The token in an answer to the exchange. -/
def tokenOfJson (body : String) : Except ApiError String :=
  match Json.parse? body with
  | none => .error (.token s!"Unable to decode token response: {withheld}")
  | some document =>
    match ((document.field? "access_token").bind Json.string?).filter (!·.isEmpty) with
    | some token => .ok token
    | none => .error (.token "Token response has no access_token")

def url (c : Config.Gateway) (path : String) : String := Text.trimEnd '/' c.baseUrl ++ path

def clientSecret (c : Config.Gateway) (kubectl : String) :
    Procedure (Except ApiError String) := do
  let args := ["get", "secret", c.secretName, "-n", c.secretNamespace, "-o", "json"]
  match ← .request (.exec .host kubectl args) with
  | .error e => return .error (.token e.message)
  | .ok json => return secretOfJson json c.secretKey

def isSuccess (r : Response) : Bool := 200 ≤ r.status && r.status < 300

/-- Exchanges the secret for a token. -/
def fetchToken (c : Config.Gateway) (kubectl : String) :
    Procedure (Except ApiError String) := do
  match ← clientSecret c kubectl with
  | .error e => return .error e
  | .ok secret =>
    let url := url c c.tokenPath
    let form := [("grant_type", "client_credentials"), ("client_id", c.clientId),
      ("client_secret", secret)]
    match ← .request (.postForm url form) with
    | .error reason => return .error (.token s!"POST {url} failed: {reason}")
    | .ok response =>
      if isSuccess response then return tokenOfJson response.body
      else return .error (.token s!"POST {url} returned status {response.statusText}")

/-- Requests a document with a token at hand. -/
def fetchJson (c : Config.Gateway) (token path : String) : Procedure (Except ApiError Json) := do
  match ← .request (.fetch (url c path) token) with
  | .error reason => return .error (.request path reason)
  | .ok response =>
    if !isSuccess response then return .error (.status path response.status)
    match Json.parse? response.body with
    | some body => return .ok body
    | none => return .error (.decode path withheld)

/-- The token from before, or a new one. -/
def tokenFrom (c : Config.Gateway) (kubectl : String) :
    Option String → Procedure (Except ApiError String)
  | some token => return .ok token
  | none => fetchToken c kubectl

/-- Answers requests for documents and passes on all others. The first token is kept. -/
def answer (c : Config.Gateway) (kubectl : String) :
    (r : Request) → Option String → Procedure (Reply r × Option String)
  | .getJson path, kept => do
    match ← tokenFrom c kubectl kept with
    | .error e => return (.error e, kept)
    | .ok token => return (← fetchJson c token path, some token)
  | r, kept => do return (← .request r, kept)

end ClusterHealth.Gateway
