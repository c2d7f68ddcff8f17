import StorageRouting.Console.Session
import StorageRouting.Scenario.Fleet

/-
  Sessions over a fleet.

  Key definitions include:
    * `Fleet.platform`
-/

------------------------------------------------------------
-- Platforms
------------------------------------------------------------

namespace StorageRouting

/- What sessions are made with. -/
def Fleet.platform : Platform Fleet where
  converters := [Converter.memory, Converter.s3 Fleet.surroundings]
  vault := Fleet.vaultSlot
  now := fun f => f.now

end StorageRouting
