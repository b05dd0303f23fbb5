import ArenaStandings.Web.App

/-!
# Exchanges

In an exchange a client makes a request, the service handles it, and the client looks at the
response. The client may fail on both ways: it cannot make a request out of everything, and it gives
up on a response that sends it to a text that is no address. `App.exchange` gives the service after
the exchange in any case.
-/

namespace ArenaStandings

/-- Why a client does not get a response. -/
inductive ExchangeFlaw
  /-- There was no request. -/
  | request (flaw : RequestFlaw)
  /-- The response leads to no address. -/
  | location (flaw : AddressFlaw)
  /-- The response leads to an address whose host stands for no name. -/
  | label (bad : BadLabel)
  deriving DecidableEq, Repr

def ExchangeFlaw.message : ExchangeFlaw → String
  | request flaw => flaw.message
  | location flaw => "Invalid URL in location header: " ++ flaw.message ++ "."
  | label bad => bad.message

/-- What is wrong with the address that a response leads to, if it leads to any. -/
def Response.locationFlaw? (response : Response) : Option ExchangeFlaw :=
  (response.headers.find? fun header => header.1 == "location").bind fun header =>
    match Address.parse header.2.toList with
    | .error flaw => some (.location flaw)
    | .ok address =>
      match address.site.hostName with
      | .error bad => some (.label bad)
      | .ok _ => none

namespace App

variable {τ : Type} [LE τ] [DecidableLE τ] [Clock τ] [IntCast τ]

/-- Make a request for an address on a site and handle it at a moment. -/
def exchange (app : App τ) (base : Site) (method address : String)
    (headers : List (String × String)) (moment : String) :
    App τ × Except ExchangeFlaw (Handled τ) :=
  match Request.make base method address headers with
  | .error flaw => (app, .error (.request flaw))
  | .ok request =>
    let handled := app.handle request moment
    match handled.response.locationFlaw? with
    | some flaw => (handled.app, .error flaw)
    | none => (handled.app, .ok handled)

end App

end ArenaStandings
