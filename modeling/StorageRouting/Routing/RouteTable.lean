/-
  Routing keys attached to types and methods.

  Key definitions include:
    * `CallSite`
    * `RouteTable`
    * `RouteTable.attached?`
    * `RouteTable.findKey`
-/

------------------------------------------------------------
-- Tables
------------------------------------------------------------

namespace StorageRouting

/- The place of a call: a type and one of its methods. -/
structure CallSite where
  owner : String
  method : String
deriving DecidableEq, Repr

/-
  Attached keys, the latest first, and the answers given so
  far.
-/
structure RouteTable where
  typeKeys : List (String × String)
  methodKeys : List (CallSite × String)
  cache : List (CallSite × Option String)
deriving Inhabited

namespace RouteTable

/- A table in which nothing is attached. -/
def empty : RouteTable :=
  ⟨[], [], []⟩

/- Attach a key to all methods of a type. -/
def annotateType
    (t : RouteTable)
    (owner key : String) : RouteTable :=
  { t with typeKeys := (owner, key) :: t.typeKeys }

/- Attach a key to one method of a type. -/
def annotateMethod
    (t : RouteTable)
    (site : CallSite)
    (key : String) : RouteTable :=
  { t with methodKeys := (site, key) :: t.methodKeys }

/-
  The key attached to a call: the one of its method, else the
  one of its type.
-/
def attached?
    (t : RouteTable)
    (site : CallSite) : Option String :=
  match t.methodKeys.lookup site with
  | some key => some key
  | none => t.typeKeys.lookup site.owner

/-
  The key attached to a call.  The first answer for a call is
  kept and given again.
-/
def findKey
    (t : RouteTable)
    (site : CallSite) : Option String × RouteTable :=
  match t.cache.lookup site with
  | some answer => (answer, t)
  | none =>
      let answer := t.attached? site
      (answer, { t with cache := (site, answer) :: t.cache })

/- The number of calls whose answer is kept. -/
def cachedSites (t : RouteTable) : Nat :=
  t.cache.length

end RouteTable

end StorageRouting
