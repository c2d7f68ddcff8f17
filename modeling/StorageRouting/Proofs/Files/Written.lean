import StorageRouting.Files.Tree

/-
  A file that is written is found under the same path, with what
  was written in it.

  Key definitions include:
    * `FileTree.Keeps`

  Main statements:
    * `FileTree.find_of_write`
    * `FileTree.readText_of_write`
-/

------------------------------------------------------------
-- Places
------------------------------------------------------------

namespace StorageRouting

namespace FileTree

variable {t u : FileTree} {path : String} {content : Bytes}

/- Every directory of a tree is one in another tree. -/
def Keeps (t u : FileTree) : Prop :=
  ∀ place,
    t.node? place = some .directory →
    u.node? place = some .directory

/- A way through directories stays where they stay. -/
theorem walk_of_keeps
    (h : Keeps t u)
    {here place steps : List String}
    (hWalk : t.walk here steps = .ok place) :
    u.walk here steps = .ok place := by
  induction steps generalizing here with
  | nil => exact hWalk
  | cons step steps ih =>
      unfold walk at hWalk ⊢
      cases hNode : t.node? here with
      | none => simp [hNode] at hWalk
      | some n =>
          cases n with
          | file bytes => simp [hNode] at hWalk
          | directory =>
              rw [hNode] at hWalk
              rw [h here hNode]
              simp only at hWalk ⊢
              split
              case isTrue hUp =>
                rw [if_pos hUp] at hWalk
                exact ih hWalk
              case isFalse hDown =>
                rw [if_neg hDown] at hWalk
                split
                case isTrue hLong =>
                  rw [if_pos hLong] at hWalk
                  cases hWalk
                case isFalse hShort =>
                  rw [if_neg hShort] at hWalk
                  exact ih hWalk

/- A node that is put at a place stands there. -/
theorem node?_put_self
    {place : List String}
    (hPlace : place ≠ [])
    (n : FileNode) : (t.put place n).node? place = some n := by
  have hSteps : place.isEmpty = false := by simpa using hPlace
  simp [node?, hSteps, put, Dictionary.get?_insert]

/- What is put where no directory stands keeps all directories. -/
theorem keeps_put
    {place : List String}
    (hPlace : place ≠ [])
    (hNone : t.node? place ≠ some .directory)
    (n : FileNode) : Keeps t (t.put place n) := by
  intro other hOther
  have hSteps : place.isEmpty = false := by simpa using hPlace
  unfold node? at hNone hOther ⊢
  by_cases hRoot : other.isEmpty = true
  · rw [if_pos hRoot]
  · rw [if_neg hRoot] at hOther ⊢
    rw [hSteps, if_neg Bool.false_ne_true] at hNone
    rw [put, Dictionary.get?_insert]
    split
    case isTrue hSame =>
      rw [hSame] at hOther
      exact absurd hOther hNone
    case isFalse => exact hOther

end FileTree

end StorageRouting

------------------------------------------------------------
-- Written Files
------------------------------------------------------------

namespace StorageRouting

namespace FileTree

variable {t u : FileTree} {path : String} {content : Bytes}

/- Where the steps of a path start. -/
def origin (t : FileTree) (path : String) : List String :=
  if FilePath.isAbsolute path then [] else t.working

/- A path that can be followed at all. -/
structure Usable (path : String) : Prop where
  some_step : path.isEmpty = false
  no_zero : path.toList.contains (Char.ofNat 0) = false
  short : ¬ pathLimit < path.utf8ByteSize

/- What a usable path leads to is decided where its walk ends. -/
theorem locate_of_usable
    (h : Usable path) :
    t.locate path =
      (t.walk (t.origin path) (FilePath.parts path)).bind
        (fun place =>
          match t.node? place with
          | some (.file _) =>
              if FilePath.namesDirectory path then
                .error .notDirectory
              else .ok place
          | some .directory => .ok place
          | none =>
              match t.node? place.dropLast with
              | some .directory => .ok place
              | some (.file _) => .error .notDirectory
              | none => .error .missing) := by
  unfold locate origin
  simp only [pure, Except.pure, throw, throwThe,
    MonadExceptOf.throw, h.some_step, h.no_zero, if_neg h.short,
    Bool.false_eq_true, if_false]
  rfl

/- Only a usable path leads anywhere. -/
theorem usable_of_locate
    {place : List String}
    (h : t.locate path = .ok place) : Usable path := by
  unfold locate at h
  simp only [bind, Except.bind, pure, Except.pure, throw, throwThe,
    MonadExceptOf.throw] at h
  by_cases hEmpty : path.isEmpty = true
  · rw [if_pos hEmpty] at h
    cases h
  rw [if_neg hEmpty] at h
  by_cases hZero : path.toList.contains (Char.ofNat 0) = true
  · simp only [hZero, if_true] at h
    cases h
  simp only [hZero] at h
  by_cases hLong : pathLimit < path.utf8ByteSize
  · simp only [hLong, if_true] at h
    cases h
  exact ⟨Bool.eq_false_iff.mpr hEmpty, Bool.eq_false_iff.mpr hZero,
    hLong⟩

/- The place that a path leads to is the end of a walk. -/
theorem walk_of_locate
    {place : List String}
    (h : t.locate path = .ok place) :
    t.walk (t.origin path) (FilePath.parts path) = .ok place ∧
    ∀ bytes,
      t.node? place = some (.file bytes) →
      FilePath.namesDirectory path = false := by
  rw [locate_of_usable (usable_of_locate h)] at h
  cases hWalk : t.walk (t.origin path) (FilePath.parts path) with
  | error e =>
      rw [hWalk] at h
      cases h
  | ok found =>
      rw [hWalk] at h
      simp only [Except.bind] at h
      cases hNode : t.node? found with
      | none =>
          simp only [hNode] at h
          split at h
          · cases h
            refine ⟨rfl, ?_⟩
            intro bytes hFile
            rw [hNode] at hFile
            cases hFile
          · cases h
          · cases h
      | some n =>
          cases n with
          | directory =>
              simp only [hNode] at h
              cases h
              refine ⟨rfl, ?_⟩
              intro bytes hFile
              rw [hNode] at hFile
              cases hFile
          | file bytes =>
              simp only [hNode] at h
              split at h
              case isTrue => cases h
              case isFalse hName =>
                cases h
                exact ⟨rfl, fun _ _ => Bool.eq_false_iff.mpr hName⟩

/-
  Writing puts a file where no directory stands, and under a path
  that can name a file.
-/
theorem write_cases
    (h : t.write path content = .ok u) :
    ∃ place,
      t.locate path = .ok place ∧
      t.node? place ≠ some .directory ∧
      FilePath.namesDirectory path = false ∧
      u = t.put place (.file content) := by
  unfold write at h
  cases hLocate : t.locate path with
  | error e =>
      rw [hLocate] at h
      cases h
  | ok place =>
      rw [hLocate] at h
      simp only [bind, Except.bind, pure, Except.pure, throw,
        throwThe, MonadExceptOf.throw] at h
      refine ⟨place, rfl, ?_⟩
      cases hNode : t.node? place with
      | none =>
          simp only [hNode] at h
          split at h
          case isTrue => cases h
          case isFalse hName =>
            cases h
            exact ⟨by simp, Bool.eq_false_iff.mpr hName, rfl⟩
      | some n =>
          cases n with
          | directory =>
              simp only [hNode] at h
              cases h
          | file bytes =>
              simp only [hNode] at h
              cases h
              have hName := (walk_of_locate hLocate).2 bytes hNode
              exact ⟨by simp, hName, rfl⟩

/- What is written under a path is found under it. -/
theorem find_of_write
    (h : t.write path content = .ok u) :
    u.find path = .ok (.file content) := by
  rcases write_cases h with ⟨place, hLocate, hNode, hName, rfl⟩
  have hPlace : place ≠ [] := by
    rintro rfl
    exact hNode rfl
  have hKeeps := keeps_put hPlace hNode (.file content)
  have hFile :=
    node?_put_self (t := t) hPlace (.file content)
  have hWalk := walk_of_keeps hKeeps (walk_of_locate hLocate).1
  have hFound :
      (t.put place (.file content)).locate path = .ok place := by
    rw [locate_of_usable (usable_of_locate hLocate)]
    have hOrigin :
        (t.put place (.file content)).origin path = t.origin path :=
      rfl
    rw [hOrigin, hWalk]
    simp only [Except.bind, hFile, hName, Bool.false_eq_true,
      if_false]
  unfold find
  rw [hFound]
  simp only [bind, Except.bind, hFile]
  rfl

theorem exists?_of_write
    (h : t.write path content = .ok u) : u.exists? path = true := by
  rw [exists?, find_of_write h]

/- A text that is written under a path is read under it. -/
theorem readText_of_write
    {s : String}
    (h : t.write path (Bytes.ofString s) = .ok u) :
    u.readText path = .ok s := by
  unfold readText read
  rw [find_of_write h]
  simp only [bind, Except.bind, pure, Except.pure,
    Bytes.toString?_ofString]

end FileTree

end StorageRouting
