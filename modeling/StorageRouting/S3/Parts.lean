import StorageRouting.Backend.Object

/-
  Bodies that are cut into parts of equal size.

  Key definitions include:
    * `PartSource`
    * `PartSource.next`
-/

------------------------------------------------------------
-- Sources of Parts
------------------------------------------------------------

namespace StorageRouting

/- What is left of a body, behind what was read ahead of it. -/
structure PartSource where
  ahead : Bytes
  body : Body

namespace PartSource

/- A body of which nothing was read yet. -/
def ofBody (body : Body) : PartSource :=
  ⟨Bytes.empty, body⟩

/-
  Read chunks until so many bytes are there.  There are fewer
  when the body ends first.  What was read before an error
  stays there.
-/
def fill
    (size : Nat)
    (ahead : Bytes) :
    Body → Except Error Unit × PartSource
| [] => (.ok (), ⟨ahead, []⟩)
| chunk :: rest =>
    if size ≤ ahead.size then (.ok (), ⟨ahead, chunk :: rest⟩)
    else
      match chunk with
      | .ok bytes => fill size (ahead ++ bytes) rest
      | .error e => (.error e, ⟨ahead, rest⟩)

/-
  The next part; there is none when the body is used up.  Only
  the last part is shorter than the others.
-/
def next
    (size : Nat)
    (s : PartSource) : Except Error (Option Bytes) × PartSource :=
  match fill size s.ahead s.body with
  | (.error e, s) => (.error e, s)
  | (.ok _, ⟨ahead, body⟩) =>
      if ahead.size = 0 then (.ok none, ⟨ahead, body⟩)
      else
        (.ok (some (ahead.extract 0 size)),
          ⟨ahead.extract size ahead.size, body⟩)

/- At least the number of parts that are left. -/
def bound (s : PartSource) : Nat :=
  s.body.foldl
    (fun n chunk =>
      match chunk with
      | .ok bytes => n + bytes.size
      | .error _ => n)
    s.ahead.size

end PartSource

end StorageRouting
