import AccountAdmin.Text.Quoted
import AccountAdmin.Url.Parse

/-!
# Endpoints

Where the service is and how the program presents itself to it.  A path of the service is put behind
the base URL as text, with exactly one slash between them, and the result is read as a URL; so
everything that is wrong with a base URL shows when any path is resolved.

* `Endpoint.resolve`: the URL of a path.
* `Endpoint.trimSlashes`: a base URL without the slashes at its end, the form in which two of them
  are compared.
-/

namespace AccountAdmin

/-- Where the service is, how long to wait for it, and the name given to it. -/
structure Endpoint where
  baseUrl : String
  /-- Seconds. -/
  connectTimeout : Option UInt64 := none
  /-- Seconds. -/
  readTimeout : Option UInt64 := none
  customUserAgent : Option String := none
  deriving DecidableEq, Repr

namespace Endpoint

/-- The base URL that is used unless another one is given. -/
def defaultBaseUrl : String := "http://localhost:8080/rest"

/-- The name given to the service unless another one is given. -/
def defaultUserAgent : String := "lanadmin/0.1.0"

/-- The default endpoint. -/
def default : Endpoint := { baseUrl := defaultBaseUrl }

/-- The name given to the service. -/
def userAgent (e : Endpoint) : String := e.customUserAgent.getD defaultUserAgent

/-- A text without the slashes at its end. -/
def trimSlashes (s : String) : List Char := (s.toList.reverse.dropWhile (· == '/')).reverse

/-- A base URL and a path with one slash between them. -/
def joined (baseUrl path : String) : List Char :=
  trimSlashes baseUrl ++ (if path.toList.head? = some '/' then path.toList else '/' :: path.toList)

/-- The URL of a path. -/
def resolve (e : Endpoint) (path : String) : Except Url.Fault Url :=
  Url.parseChars (joined e.baseUrl path)

/-- A number of seconds as it is shown in a diagnostic. -/
def secondsText (n : UInt64) : String :=
  if n = 0 then "0ns" else String.ofList (Text.decimal n.toNat) ++ "s"

/-- An optional value as it is shown in a diagnostic. -/
def optionText {α : Type} (show_ : α → String) : Option α → String
  | none => "None"
  | some a => "Some(" ++ show_ a ++ ")"

/-- The endpoint as it is shown in a diagnostic. -/
def diagnostic (e : Endpoint) : String :=
  "HttpConfig \x7b base_url: " ++ Text.quoted e.baseUrl ++
    ", connect_timeout: " ++ optionText secondsText e.connectTimeout ++
    ", read_timeout: " ++ optionText secondsText e.readTimeout ++
    ", custom_user_agent: " ++ optionText Text.quoted e.customUserAgent ++ " \x7d"

end Endpoint

end AccountAdmin
