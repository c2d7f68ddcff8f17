import StorageRouting.Routing.Expression

/-
  Resolvers of dynamic routing keys, and chains of them.

  Key definitions include:
    * `isDynamic`
    * `KeyResolver`
    * `KeyResolver.header`
    * `KeyResolver.session`
    * `KeyResolver.expression`
    * `ResolverChain`
    * `ResolverChain.resolve?`
-/

------------------------------------------------------------
-- Resolvers
------------------------------------------------------------

namespace StorageRouting

/- Whether a routing key is to be computed from the call. -/
def isDynamic (key : String) : Bool :=
  Text.startsWith "#" key

/-
  A resolver: the keys that it handles, and the key that it
  finds in a call.
-/
structure KeyResolver where
  handles : String → Bool
  find? : Invocation → String → Option String

namespace KeyResolver

/-
  The name behind a mark and one more character; there has to
  be one.
-/
def nameBehind?
    (mark key : String) : Option String :=
  match Text.dropStart? mark.toList key.toList with
  | some (_ :: c :: rest) => some (String.ofList (c :: rest))
  | _ => none

/- A text, unless it is empty. -/
def nonEmpty? : Option String → Option String
| some s => if s.isEmpty then none else some s
| none => none

/- Finds a key in a header. -/
def header : KeyResolver where
  handles := Text.startsWith "#header"
  find? i key :=
    match nameBehind? "#header" key with
    | some name => nonEmpty? (i.headerText? name)
    | none => none

/- Finds a key in a session attribute. -/
def session : KeyResolver where
  handles := Text.startsWith "#session"
  find? i key :=
    match nameBehind? "#session" key with
    | some name => nonEmpty? (i.session.get? name)
    | none => none

/- Finds a key by an expression over the arguments. -/
def expression : KeyResolver where
  handles := isDynamic
  find? := Expression.key?

/- Answers the same for all keys that start with a text. -/
def fixed
    (start : String)
    (answer : Option String) : KeyResolver where
  handles := Text.startsWith start
  find? _ _ := answer

end KeyResolver

end StorageRouting

------------------------------------------------------------
-- Chains
------------------------------------------------------------

namespace StorageRouting

/- Resolvers in the order in which they are asked. -/
structure ResolverChain where
  resolvers : List KeyResolver

namespace ResolverChain

/- Headers, then session attributes, then expressions. -/
def standard : ResolverChain :=
  ⟨[KeyResolver.header, KeyResolver.session,
    KeyResolver.expression]⟩

instance : Inhabited ResolverChain :=
  ⟨standard⟩

/-
  The first key that a resolver finds of those that handle the
  text.
-/
def firstOf
    (i : Invocation)
    (key : String) : List KeyResolver → Option String
| [] => none
| r :: rest =>
    if r.handles key then
      match r.find? i key with
      | some found => some found
      | none => firstOf i key rest
    else firstOf i key rest

/- The key that a chain finds. -/
def resolve?
    (chain : ResolverChain)
    (i : Invocation)
    (key : String) : Option String :=
  firstOf i key chain.resolvers

/- The number of resolvers. -/
def length (chain : ResolverChain) : Nat :=
  chain.resolvers.length

/- The form shown in diagnostics. -/
def diagnostic (chain : ResolverChain) : String :=
  "ResolverChain \x7b len: " ++ toString chain.length ++ " \x7d"

end ResolverChain

end StorageRouting
