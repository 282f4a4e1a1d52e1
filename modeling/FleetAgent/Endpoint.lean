import FleetAgent.Error
import FleetAgent.Text.Blank
import FleetAgent.Url.Basic

/-!
# The endpoint of the controller

An endpoint says where the controller is and with which token the server shows who it is. It is
read from the variables that the environment sets for the server.

## Main definitions

* `Endpoint`: address, token and certificate.
* `Endpoint.make`: an endpoint of given parts.
* `Endpoint.ofVariables`: an endpoint from a lookup of variables.
-/

namespace FleetAgent

/-- Where the controller is, and the credentials for it. -/
structure Endpoint where
  /-- The address, with the scheme `http` or `https`. -/
  address : Url
  /-- The token. -/
  token : String
  /-- The certificate of the authority to trust, if one is given. -/
  certificate : Option String := none
deriving DecidableEq, Repr

namespace Endpoint

/-- The variable of the address. -/
def addressVar : String := "CONTROLLER_ADDRESS"

/-- The variable of the token. -/
def tokenVar : String := "SERVER_TOKEN"

/-- The variable of the certificate. -/
def certificateVar : String := "CONTROLLER_CERTIFICATE"

/-- An endpoint of given parts. The scheme must be `http` or `https`, and the token must not be
blank. -/
def make (address : Url) (token : String) (certificate : Option String) :
    Except ConfigError Endpoint :=
  if address.scheme ≠ "http" ∧ address.scheme ≠ "https" then
    .error (.invalid addressVar ("unsupported scheme `" ++ address.scheme ++ "`"))
  else if Text.isBlankText token then .error (.invalid tokenVar "token is empty")
  else .ok { address, token, certificate }

/-- An endpoint from a lookup of variables. The address is read first, then the token must be
set; a blank certificate counts as none. -/
def ofVariables (lookup : String → Option String) : Except ConfigError Endpoint :=
  match lookup addressVar with
  | none => .error (.missingVar addressVar)
  | some raw => match Url.parse (Text.trim raw) with
    | .error e => .error (.invalid addressVar e.message)
    | .ok address => match lookup tokenVar with
      | none => .error (.missingVar tokenVar)
      | some token =>
        make address token ((lookup certificateVar).filter fun pem => !Text.isBlankText pem)

/-- Whether the connection is encrypted. -/
def usesTls (e : Endpoint) : Bool := e.address.scheme = "https"

/-- The endpoint in diagnostic output, where the token is not shown. -/
def inspect (e : Endpoint) : String :=
  "ControlPlaneEndpoint \x7b address: " ++ Text.quoted e.address.render ++
    ", token: \"<redacted>\", certificate: " ++ toString e.certificate.isSome ++ " \x7d"

end Endpoint

end FleetAgent
