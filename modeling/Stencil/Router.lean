/-
Routers: what decides whether a link stays on the site. Binding asks a router one thing, whether
an address is on the site, and any router will do. Two are shipped: the open router treats every
address as on the site, so no link is ever taken over; a host router treats exactly the
addresses that start with its host as on the site.
-/
import Stencil.Text.Quoted
namespace Stencil

/-- What binding asks of a router: whether an address is on the site. Going to an address is
not asked of it here; a link's handler records the address it navigates to. -/
structure Router where
  isSameSite : String → Bool

namespace Router

/-- The open router: every address is on the site. -/
def everywhere : Router where
  isSameSite _ := true

/-- The router of a host: the addresses that start with `host` are on the site. -/
def host (host : String) : Router where
  isSameSite url := url.startsWith host

end Router

/-- The routers the library ships, as a configuration chooses them. -/
inductive ShippedRouter where
  /-- the open router -/
  | null
  /-- the router of a host -/
  | host (host : String)
deriving Repr, DecidableEq

namespace ShippedRouter

/-- The router itself. -/
def router : ShippedRouter → Router
  | .null => .everywhere
  | .host h => .host h

/-- The host, if the router has one. -/
def host? : ShippedRouter → Option String
  | .null => none
  | .host h => some h

/-- A diagnostic description of the router. -/
def describe : ShippedRouter → String
  | .null => "NullRouter"
  | .host h => "HostRouter \x7b host: " ++ Text.quoted h ++ " \x7d"

end ShippedRouter

end Stencil
