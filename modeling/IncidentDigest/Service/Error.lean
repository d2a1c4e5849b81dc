import IncidentDigest.Numeral

/-!
What can go wrong between the program and a service.
-/

namespace IncidentDigest

/-- Why a request never became a reply. -/
inductive RequestFault where
  /-- The address or a header cannot be used.  The address is given if it has been understood. -/
  | unusable (address : Option String)
  /-- The connection ended; the address is given as it was requested. -/
  | interrupted (address : String)
  /-- The replies led on too often; the address is the last one that was requested. -/
  | astray (address : String)
  deriving DecidableEq, Repr

def RequestFault.message : RequestFault → String
  | .unusable none => "builder error"
  | .unusable (some address) => "builder error for url (" ++ address ++ ")"
  | .interrupted address => "error sending request for url (" ++ address ++ ")"
  | .astray address => "error following redirect for url (" ++ address ++ ")"

/-- The failure of a call to a service.  Addresses are given as they were put together. -/
inductive ServiceError where
  | timeout (url : String) (seconds : Nat)
  | connect (url : String)
  | status (url : String) (code : Nat) (body : String)
  | decode (url : String)
  | unexpectedShape (url : String)
  | refused (reason : String)
  | request (url : String) (fault : RequestFault)
  deriving DecidableEq, Repr

def ServiceError.message : ServiceError → String
  | .timeout url seconds =>
    "request to " ++ url ++ " timed out after " ++ String.ofList (Numeral.digits seconds) ++ "s"
  | .connect url => "cannot connect to " ++ url
  | .status url code body =>
    "HTTP " ++ String.ofList (Numeral.digits code) ++ " from " ++ url ++ ": " ++ body
  | .decode url => "failed to decode response from " ++ url ++ ": error decoding response body"
  | .unexpectedShape url =>
    "unexpected response shape from " ++ url ++ ": expected a JSON array of scenarios"
  | .refused reason => "Slack API error: " ++ reason
  | .request url fault => "request to " ++ url ++ " failed: " ++ fault.message

end IncidentDigest
