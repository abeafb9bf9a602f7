import TicketLogin.Address.Pairs
import TicketLogin.Address.Reader
import TicketLogin.Toml.Reader

/-!
# Settings

Settings say where to go after signing in and where the identity provider is. They come from a TOML
file, in which everything may be missing, and then from variables of the environment, of which blank
ones do not count. The login address is either given as a whole or made from a base and the address
of the service.
-/

namespace TicketLogin

structure Provider where
  /-- Where the provider sends the browser back to. -/
  serviceUrl : String
  loginBaseUrl : String
  /-- The whole login address, if it is given. -/
  loginUrl : Option String
  /-- Where tickets are redeemed. -/
  ticketLoginUrl : String
  deriving DecidableEq, Repr

structure Settings where
  landingRoute : String
  provider : Provider
  deriving DecidableEq, Repr

abbrev Environment := String → Option String

structure LoginAddressFault where
  base : String
  fault : AddressFault
  deriving DecidableEq, Repr

def LoginAddressFault.message (f : LoginAddressFault) : String :=
  s!"Invalid IDS login base URL: {f.base}: {f.fault.message}"

namespace Provider

def default : Provider where
  serviceUrl := "https://xdechat.xidian.edu.cn/"
  loginBaseUrl := "https://ids.xidian.edu.cn/authserver/login"
  loginUrl := none
  ticketLoginUrl := "/v1/user/login"

def withSlash (s : String) : String := if s.toList.getLast? = some '/' then s else s ++ "/"

def serviceAddress (p : Provider) : String := withSlash p.serviceUrl

/-- The query pair that tells the provider where to send the browser back to. -/
def servicePair (p : Provider) : Pair := ("service".toList, p.serviceAddress.toList)

/-- Where users sign in: the given address unless it is blank, else the base with the service. -/
def loginAddress (p : Provider) : Except LoginAddressFault String :=
  match p.loginUrl.filter fun url => !Text.allBlank url with
  | some url => .ok url
  | none =>
    match Address.read p.loginBaseUrl with
    | .ok base => .ok (base.addPair p.servicePair).toText
    | .error fault => .error ⟨p.loginBaseUrl, fault⟩

def textOf? : Toml.Item → Option String
  | .text s => some s
  | _ => none

/-- The text of a field, or a default where it is missing. -/
def textOr? (default : String) (name : String) (fields : Toml.Fields) : Option String :=
  match Toml.Fields.get? fields name with
  | none => some default
  | some item => textOf? item

def ofFields? (fields : Toml.Fields) : Option Provider := do
  let serviceUrl ← textOr? default.serviceUrl "service_url" fields
  let loginBaseUrl ← textOr? default.loginBaseUrl "login_base_url" fields
  let loginUrl ← match Toml.Fields.get? fields "login_url" with
    | none => some none
    | some item => (textOf? item).map some
  let ticketLoginUrl ← textOr? default.ticketLoginUrl "ticket_login_url" fields
  return ⟨serviceUrl, loginBaseUrl, loginUrl, ticketLoginUrl⟩

/-- The endpoints in a list of them in order. The last ones may be missing, and more are passed
over. -/
def ofList? (items : List Toml.Item) : Option Provider :=
  ((items.take 4).mapM textOf?).map fun texts =>
    { serviceUrl := texts[0]?.getD default.serviceUrl
      loginBaseUrl := texts[1]?.getD default.loginBaseUrl
      loginUrl := texts[2]?
      ticketLoginUrl := texts[3]?.getD default.ticketLoginUrl }

/-- The endpoints in an item: a table, a list, or a date, which has none of their names. -/
def ofItem? : Toml.Item → Option Provider
  | .table _ fields | .inline fields => ofFields? fields
  | .list items => ofList? items
  | .moment => some default
  | _ => none

end Provider

namespace Settings

def default : Settings := ⟨"/", .default⟩

/-- The settings in the fields of a document. Unknown names are passed over. -/
def ofFields? (fields : Toml.Fields) : Option Settings := do
  let landingRoute ← Provider.textOr? default.landingRoute "landing_route" fields
  let provider ← match Toml.Fields.get? fields "ids" with
    | none => some .default
    | some item => Provider.ofItem? item
  return ⟨landingRoute, provider⟩

def parse? (s : List Char) : Option Settings := (Toml.read? s).bind ofFields?

/-- The value of a variable that is set and not blank. -/
def given? (environment : Environment) (name : String) : Option String :=
  (environment name).filter fun value => !Text.allBlank value

def withEnvironment (s : Settings) (environment : Environment) : Settings :=
  let given? := given? environment
  { s with
    provider :=
      { s.provider with
        serviceUrl := (given? "IDSGATE_IDS_SERVICE_URL").getD s.provider.serviceUrl
        loginUrl := given? "IDSGATE_IDS_LOGIN_URL" <|> s.provider.loginUrl
        ticketLoginUrl := (given? "IDSGATE_TICKET_LOGIN_URL").getD s.provider.ticketLoginUrl } }

def template : List String :=
  ["# idsgate configuration",
   "#",
   "# Environment variables take precedence over this file:",
   "#   IDSGATE_IDS_SERVICE_URL, IDSGATE_IDS_LOGIN_URL, IDSGATE_TICKET_LOGIN_URL",
   "",
   "# Route opened after a successful login (and when already logged in)",
   "landing_route = \"/\"",
   "",
   "[ids]",
   "# Callback the identity provider redirects back to (trailing slash is enforced)",
   "service_url = \"https://xdechat.xidian.edu.cn/\"",
   "",
   "# Identity provider login page; `service` is appended as a query parameter",
   "login_base_url = \"https://ids.xidian.edu.cn/authserver/login\"",
   "",
   "# Full login URL override (skips login_base_url + service)",
   "# login_url = \"\"",
   "",
   "# Ticket redemption endpoint; relative paths resolve against the page origin",
   "ticket_login_url = \"/v1/user/login\""]

def templateText : List Char := template.flatMap fun line => line.toList ++ ['\n']

end Settings

end TicketLogin
