import StorageRouting.Config.Source
import StorageRouting.Proofs.Files.Written
import StorageRouting.Proofs.Toml.Table

/-
  Settings that are saved in a file are loaded from it, named by
  the keys of their backends and with nothing decrypted.

  Key definitions include:
    * `BackendConfig.reread`
    * `Settings.sections`
    * `Settings.RenamedTo`

  Main statements:
    * `BackendConfig.ofValue?_toValue`
    * `Settings.ofText_text`
    * `Settings.load_of_save`
    * `ConfigSource.saved_loads_as_given`
-/

------------------------------------------------------------
-- Entries in Order
------------------------------------------------------------

namespace StorageRouting

namespace Dictionary

variable {α : Type}

/- A name behind all others goes to the end. -/
theorem insertEntry_last
    {name : String}
    {entries : List (String × α)}
    (h : ∀ e ∈ entries, e.1 < name)
    (a : α) :
    insertEntry name a entries = entries ++ [(name, a)] := by
  induction entries with
  | nil => rfl
  | cons e rest ih =>
      rcases e with ⟨k, b⟩
      have hHead : k < name := h (k, b) List.mem_cons_self
      have hRest := ih (fun e he => h e (List.mem_cons_of_mem _ he))
      have hNe : ¬ name = k := by
        rintro rfl
        exact String.lt_irrefl name hHead
      have hNotLess : ¬ name < k := by
        intro hLess
        exact String.lt_irrefl k (String.lt_trans hHead hLess)
      rw [insertEntry, if_neg hNe, if_neg hNotLess, hRest,
        List.cons_append]

/- Ordered entries are put one behind the other. -/
theorem entries_foldl_insert
    (d : Dictionary α)
    (entries : List (String × α))
    (h : (d.entries ++ entries).Pairwise (fun a b => a.1 < b.1)) :
    (entries.foldl (fun d e => d.insert e.1 e.2) d).entries =
      d.entries ++ entries := by
  induction entries generalizing d with
  | nil => simp
  | cons e rest ih =>
      have hLast : ∀ f ∈ d.entries, f.1 < e.1 := by
        intro f hf
        exact (List.pairwise_append.mp h).2.2 f hf e List.mem_cons_self
      have hEntries :
          (d.insert e.1 e.2).entries = d.entries ++ [e] :=
        insertEntry_last hLast e.2
      rw [List.foldl_cons, ih]
      · rw [hEntries, List.append_assoc, List.singleton_append]
      · rw [hEntries, List.append_assoc, List.singleton_append]
        exact h

/- The map of the entries of a map is the map. -/
theorem ofList_entries (d : Dictionary α) : ofList d.entries = d := by
  apply ext_entries
  exact entries_foldl_insert empty d.entries d.ordered

end Dictionary

end StorageRouting

------------------------------------------------------------
-- Backends
------------------------------------------------------------

namespace StorageRouting

namespace BackendConfig

/-
  A configuration as it is read from its written form: without a
  name, and with nothing decrypted.
-/
def reread (c : BackendConfig) : BackendConfig :=
  { c.detached with name := "" }

/- The written form of a configuration is read back. -/
theorem ofValue?_toValue
    (lenient : Bool)
    (c : BackendConfig) :
    ofValue? lenient c.toValue = some c.reread := by
  rcases c with
    ⟨name, kind, endpoint, region, accessKey, secretKey, pathStyle,
      defaultBucket, autoCreateBucket, adapter, decryptor, publicKey⟩
  cases defaultBucket <;> cases adapter <;> cases decryptor <;>
    cases publicKey <;> rfl

/- The fields of a configuration are plain, each under its name. -/
theorem plainFields (c : BackendConfig) : Toml.PlainFields c.fields := by
  rcases c with
    ⟨name, kind, endpoint, region, accessKey, secretKey, pathStyle,
      defaultBucket, autoCreateBucket, adapter, decryptor, publicKey⟩
  constructor
  · cases defaultBucket <;> cases adapter <;> cases decryptor <;>
      cases publicKey <;>
      simp [fields, Value.optional]
  · cases defaultBucket <;> cases adapter <;> cases decryptor <;>
      cases publicKey <;>
      simp [fields, Value.optional]

end BackendConfig

end StorageRouting

------------------------------------------------------------
-- Settings
------------------------------------------------------------

namespace StorageRouting

namespace Settings

/- Settings as they are read from their written form. -/
def reread (s : Settings) : Settings :=
  { s with backends := s.backends.mapEntries (fun _ c => c.reread) }

/- The fields of settings besides their backends. -/
def topFields (s : Settings) : List (String × Value) :=
  [("primary", .string s.primary), ("strict", .bool s.strict),
    ("health", .bool s.health)] ++
    Value.optional "public_key" (s.publicKey.map .string)

/- The backends of settings as tables. -/
def sections (s : Settings) : List Toml.Section :=
  s.backends.entries.map (fun e => ⟨e.1, e.2.fields⟩)

/- The written form is a document of plain fields and tables. -/
theorem fieldsWith_eq_document (s : Settings) :
    s.fieldsWith BackendConfig.toValue =
      Toml.document s.topFields "backends" s.sections := by
  rw [fieldsWith, Toml.document, sections, List.map_map]
  rfl

theorem plainFields (s : Settings) : Toml.PlainFields s.topFields := by
  constructor
  · cases hKey : s.publicKey <;>
      simp [topFields, hKey, Value.optional]
  · cases hKey : s.publicKey <;>
      simp [topFields, hKey, Value.optional]

/- The text of settings denotes their written form. -/
theorem read?_text (s : Settings) :
    Toml.read? s.text = some s.toValue := by
  have hTables : ∀ t ∈ s.sections, Toml.PlainFields t.fields := by
    intro t ht
    rcases List.mem_map.mp ht with ⟨e, _, rfl⟩
    exact e.2.plainFields
  have hNames : (s.sections.map Toml.Section.name).Nodup := by
    rw [sections, List.map_map]
    have hOrdered := List.pairwise_map.mpr s.backends.ordered
    apply hOrdered.imp
    intro a b hLess hSame
    rw [hSame] at hLess
    exact String.lt_irrefl b hLess
  have hKey : "backends" ∉ s.topFields.map Prod.fst := by
    cases hPublic : s.publicKey <;>
      simp [topFields, hPublic, Value.optional]
  rw [text, toValue, fieldsWith_eq_document]
  exact Toml.read?_render s.plainFields hKey hTables hNames

/- The table of backends is read back. -/
theorem backends?_toValue
    (lenient : Bool)
    (d : Dictionary BackendConfig) :
    backends? lenient
        (.object (d.entries.map (fun e => (e.1, e.2.toValue)))) =
      some (d.mapEntries (fun _ c => c.reread)) := by
  have hEntries :
      ∀ entries : List (String × BackendConfig),
        (entries.map (fun e => (e.1, e.2.toValue))).mapM
            (fun f => do
              let c ← BackendConfig.ofValue? lenient f.2
              return (f.1, c)) =
          some (entries.map (fun e => (e.1, e.2.reread))) := by
    intro entries
    induction entries with
    | nil => rfl
    | cons e entries ih =>
        rw [List.map_cons, List.mapM_cons, ih,
          BackendConfig.ofValue?_toValue]
        rfl
  unfold backends?
  dsimp only
  rw [hEntries]
  exact congrArg some
    (Dictionary.ofList_entries
      (d.mapEntries (fun _ c => c.reread)))

/- The written form of settings is read back. -/
theorem ofValue?_toValue
    (lenient : Bool)
    (s : Settings) : ofValue? lenient s.toValue = some s.reread := by
  rcases s with ⟨primary, strict, health, publicKey, backends⟩
  have hBackends := backends?_toValue lenient backends
  cases publicKey <;>
    simp [ofValue?, toValue, fieldsWith, Record.fields?,
      Record.Fields.orElse, Record.Fields.optionalOrElse,
      Record.Fields.nullable, Value.optional, Value.toString?,
      Value.toBool?, List.lookup_cons, hBackends, reread]

/- The text of settings is read back. -/
theorem ofText_text (s : Settings) : ofText s.text = .ok s.reread := by
  unfold ofText
  rw [read?_text]
  simp only [ofValue?_toValue]

/- Reading drops the names, and they come back with the keys. -/
theorem normalize_reread (s : Settings) :
    s.reread.normalize = s.normalize.detached := by
  unfold reread normalize detached
  congr 1
  apply Dictionary.ext_entries
  simp only [Dictionary.mapEntries, List.map_map]
  rfl

/- Names that were set to their keys stay as they are. -/
theorem normalize_normalize (s : Settings) :
    s.normalize.normalize = s.normalize := by
  unfold normalize
  congr 1
  apply Dictionary.ext_entries
  simp only [Dictionary.mapEntries, List.map_map]
  rfl

theorem detached_detached (s : Settings) :
    s.detached.detached = s.detached := by
  unfold detached
  congr 1
  apply Dictionary.ext_entries
  simp only [Dictionary.mapEntries, List.map_map]
  rfl

end Settings

end StorageRouting

------------------------------------------------------------
-- Files
------------------------------------------------------------

namespace StorageRouting

namespace Settings

variable {files saved : FileTree} {path : String} {s : Settings}

/- What is saved is written under the path. -/
theorem write_of_save
    (h : s.save files path = .ok saved) :
    ∃ t : FileTree,
      t.write path (Bytes.ofString s.text) = .ok saved := by
  have hOk :
      ∀ {e : Except FileError FileTree},
        e.mapError Error.ofFile = .ok saved → e = .ok saved := by
    intro e he
    cases e with
    | error f => cases he
    | ok t =>
        cases he
        rfl
  have hWrite := hOk h
  cases hParent : FilePath.parent? path with
  | none =>
      rw [hParent] at hWrite
      exact ⟨files, hWrite⟩
  | some parent =>
      rw [hParent] at hWrite
      cases hMade : files.createDirectories parent with
      | error e =>
          simp only [hMade, bind, Except.bind] at hWrite
          cases hWrite
      | ok t =>
          simp only [hMade, bind, Except.bind] at hWrite
          exact ⟨t, hWrite⟩

/- A change of errors leaves an answer as it is. -/
theorem mapError_ok
    {ε ε' α : Type}
    (f : ε → ε')
    (a : α) : (Except.ok a : Except ε α).mapError f = .ok a :=
  rfl

/- Saved settings are loaded by their keys and undecrypted. -/
theorem load_of_save
    (h : s.save files path = .ok saved) :
    load saved path = .ok s.normalize.detached := by
  rcases write_of_save h with ⟨t, hWrite⟩
  unfold load
  rw [FileTree.exists?_of_write hWrite,
    FileTree.readText_of_write hWrite]
  simp only [Bool.not_true, Bool.false_eq_true, if_false, bind,
    Except.bind, mapError_ok, ofText_text, pure, Except.pure,
    normalize_reread]

/- Settings from a file have their backends named by their keys. -/
theorem normalize_of_load
    (h : load files path = .ok s) : s.normalize = s := by
  unfold load at h
  simp only [bind, Except.bind, pure, Except.pure] at h
  split at h
  · cases h
  split at h
  · cases h
  split at h
  · cases h
  cases h
  exact normalize_normalize _

end Settings

end StorageRouting

------------------------------------------------------------
-- Sources
------------------------------------------------------------

namespace StorageRouting

/-
  Settings are others with each backend named by its key, as far
  as they were not decrypted.
-/
structure Settings.RenamedTo
    (s l : Settings) : Prop where
  primary : l.primary = s.primary
  strict : l.strict = s.strict
  health : l.health = s.health
  publicKey : l.publicKey = s.publicKey
  backends :
    ∀ name,
      (l.backends.get? name).map BackendConfig.detached =
        (s.backends.get? name).map
          (fun c => { c.detached with name })

theorem Settings.renamedTo_normalize (s : Settings) :
    s.RenamedTo s.normalize where
  primary := rfl
  strict := rfl
  health := rfl
  publicKey := rfl
  backends := by
    intro name
    rw [normalize, Dictionary.get?_mapEntries, Option.map_map]
    rfl

theorem Settings.RenamedTo.detached
    {s l : Settings}
    (h : s.RenamedTo l) : s.RenamedTo l.detached where
  primary := h.primary
  strict := h.strict
  health := h.health
  publicKey := h.publicKey
  backends := by
    intro name
    rw [← h.backends name, Settings.detached,
      Dictionary.get?_mapEntries, Option.map_map]
    rfl

/- Settings from any source are named by their keys. -/
theorem ConfigSource.normalize_of_load
    {source : ConfigSource}
    {files : FileTree}
    {s : Settings}
    (h : source.load files = .ok s) : s.normalize = s := by
  cases source with
  | given original =>
      cases h
      exact original.normalize_normalize
  | file path => exact Settings.normalize_of_load h

/-
  Settings that are saved in a file are loaded from it as they
  are when they are given: with each backend named by its key,
  and with nothing decrypted.  If they were loaded themselves,
  what is loaded again is the same.
-/
theorem ConfigSource.saved_loads_as_given
    {files saved : FileTree}
    {path : String}
    {s : Settings}
    (hSaved : s.save files path = .ok saved) :
    ∃ loaded given,
      (ConfigSource.file path).load saved = .ok loaded ∧
      (ConfigSource.given s).load saved = .ok given ∧
      loaded.same given = true ∧
      s.RenamedTo loaded ∧ s.RenamedTo given ∧
      loaded.detached = loaded ∧
      ∀ (earlier : FileTree) (source : ConfigSource),
        source.load earlier = .ok s →
        loaded.same s = true := by
  have hSame : s.normalize.detached.same s.normalize = true := by
    rw [Settings.same, Settings.detached_detached, beq_self_eq_true]
  refine ⟨s.normalize.detached, s.normalize,
    Settings.load_of_save hSaved, rfl, hSame,
    s.renamedTo_normalize.detached, s.renamedTo_normalize,
    s.normalize.detached_detached, ?_⟩
  intro earlier source hLoaded
  rwa [ConfigSource.normalize_of_load hLoaded] at hSame ⊢

/-
  Settings whose texts need quotes, and whose one backend has
  another name than its key and was decrypted.
-/
def Settings.awkward : Settings :=
  { Settings.blank with
    primary := "a\"b'c\\"
    publicKey := some "two\nlines\x7f"
    backends :=
      Dictionary.empty.insert "über.all"
        { BackendConfig.new "other" "" "ak" "" with
          secretKey := ⟨"ENC('')\"\"\")", some 3⟩ } }

theorem ConfigSource.saved_loads_as_given_awkward :
    ∃ saved,
      Settings.awkward.save FileTree.empty "/etc/storage.toml" =
        .ok saved ∧
      ∃ loaded given,
        (ConfigSource.file "/etc/storage.toml").load saved =
          .ok loaded ∧
        (ConfigSource.given Settings.awkward).load saved =
          .ok given ∧
        loaded.same given = true ∧
        Settings.awkward.RenamedTo loaded ∧
        Settings.awkward.RenamedTo given ∧
        loaded.detached = loaded ∧
        ∀ (earlier : FileTree) (source : ConfigSource),
          source.load earlier = .ok Settings.awkward →
          loaded.same Settings.awkward = true := by
  have hSome :
      (Settings.awkward.save FileTree.empty
        "/etc/storage.toml").toOption.isSome = true := by
    decide +kernel
  cases hSaved :
      Settings.awkward.save FileTree.empty "/etc/storage.toml" with
  | error e =>
      rw [hSaved] at hSome
      cases hSome
  | ok saved => exact ⟨saved, rfl, saved_loads_as_given hSaved⟩

end StorageRouting
