import StorageRouting.Routing.Resolver
import StorageRouting.Routing.RouteTable

/-
  The effective routing key of a call.

  Key definitions include:
    * `Interceptor`
    * `Interceptor.determineKey`
    * `Interceptor.keyFor`
-/

------------------------------------------------------------
-- Interceptors
------------------------------------------------------------

namespace StorageRouting

/- Attached keys and the chain that resolves dynamic ones. -/
structure Interceptor where
  routes : RouteTable
  chain : ResolverChain
deriving Inhabited

namespace Interceptor

/- Nothing attached, and the standard chain. -/
def standard : Interceptor :=
  ⟨RouteTable.empty, ResolverChain.standard⟩

/-
  The effective key of a literal one: a dynamic key stands for
  what the chain finds, or for no preference when it finds
  nothing.
-/
def determineKey
    (c : Interceptor)
    (literal : String)
    (i : Invocation) : String :=
  if isDynamic literal then
    (c.chain.resolve? i literal).getD ""
  else literal

/- Find the key attached to a call. -/
def findKey
    (c : Interceptor)
    (site : CallSite) : Option String × Interceptor :=
  let (key, routes) := c.routes.findKey site
  (key, { c with routes })

/- The effective key of a call that has a key attached. -/
def keyFor
    (c : Interceptor)
    (site : CallSite)
    (i : Invocation) : Option String × Interceptor :=
  let (literal, c) := c.findKey site
  (literal.map (fun l => c.determineKey l i), c)

end Interceptor

end StorageRouting
