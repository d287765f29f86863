import Mathlib.Tactic

/-! The error type of the plugin and the text shown for each error. -/

namespace TauriVpn

inductive VpnError where
  | unsupported (message : String)
  | invalidProfile (message : String)
  | importFailed (message : String)
  | alreadyRunning
  | notRunning
  | engine (message : String)
  | platform (message : String)
  | io (message : String)
  deriving DecidableEq, Repr

def VpnError.toString : VpnError → String
  | .unsupported message => "unsupported protocol or feature: " ++ message
  | .invalidProfile message => "invalid VPN profile: " ++ message
  | .importFailed message => "import failed: " ++ message
  | .alreadyRunning => "engine is already running"
  | .notRunning => "engine is not running"
  | .engine message => "engine failed: " ++ message
  | .platform message => message
  | .io message => "io error: " ++ message

end TauriVpn
