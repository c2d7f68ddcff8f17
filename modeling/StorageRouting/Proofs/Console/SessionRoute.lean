import StorageRouting.Console.Run
import StorageRouting.Proofs.Console.HeaderOption
import StorageRouting.Proofs.Registry.FailedStart
import StorageRouting.Proofs.Routing.ExpressionSpelling
import StorageRouting.Scenario.Platform

/-
  The routing key of a session under a header option.  Commands
  see their session through the routes of their calls only, and
  a header key stands for the value of the option whose name it
  has.  An option that was cut inside its value has no name of a
  header; its session has no preference.

  Key definitions include:
    * `Session.Opened`
    * `Session.AsksHeader`
    * `Session.RoutesAs`

  Main statements:
    * `Interceptor.determineKey_header`
    * `Interceptor.determineKey_no_header`
    * `Command.run_congr`
    * `Session.header_option_routes`
-/

------------------------------------------------------------
-- Keys of Headers
------------------------------------------------------------

namespace StorageRouting

namespace Expression

/- The root of what is read ends at the first dot. -/
theorem root_of_parse?
    {name key : String}
    {rest : List Char}
    {e : Expression}
    (hName : IsIdentifier name)
    (hKey : key.toList = '#' :: (name.toList ++ '.' :: rest))
    (h : parse? key = some e) : e.root = name := by
  rcases parse?_eq_some_iff.mp h with ⟨cs, hText, hBody⟩
  have hHead : ∀ c ∈ name.toList.head?, Text.isBlank c = false :=
    fun c hc =>
      isBlank_of_isIdentChar (hName.2 c (List.mem_of_mem_head? hc))
  have hTrim :
      Text.trimChars cs = name.toList ++ '.' :: Text.trimEnd rest := by
    rw [hKey] at hText
    cases hText
    exact Text.trimChars_append_cons hHead rfl rest
  have hEnd :
      ∀ c ∈ ('.' :: Text.trimEnd rest).head?,
        isIdentChar c = false := by
    rintro c ⟨⟩
    rfl
  rw [hTrim] at hBody
  simp only [body?, (takeWhile_identifier hName hEnd).1] at hBody
  split at hBody
  · cases hBody
  · rcases Option.map_eq_some_iff.mp hBody with ⟨path, _, rfl⟩
    exact String.ofList_toList

end Expression

namespace Interceptor

variable {i : Invocation} {key : String}

/- The characters of a header key. -/
theorem toList_headerKey (key : String) :
    ("#header." ++ key).toList =
      "#header".toList ++ '.' :: key.toList := by
  rw [String.toList_append]
  rfl

/- A header key is dynamic. -/
theorem isDynamic_headerKey (key : String) :
    isDynamic ("#header." ++ key) = true := by
  rw [isDynamic, Text.startsWith, toList_headerKey]
  rfl

/- A header key stands for the text of its header. -/
theorem determineKey_header
    {value : String}
    (hKey : key ≠ "")
    (hText : i.headerText? key = some value)
    (hValue : value ≠ "") :
    standard.determineKey ("#header." ++ key) i = value := by
  have hTakes :
      KeyResolver.header.Takes i ("#header." ++ key) value :=
    (KeyResolver.header_takes_iff i _ value).mpr
      ⟨key, ⟨hKey, '.', toList_headerKey key⟩, hText, hValue⟩
  have hFound :
      ResolverChain.standard.resolve? i ("#header." ++ key) =
        some value :=
    ResolverChain.firstOf_of_takes hTakes _
  rw [determineKey, if_pos (isDynamic_headerKey key)]
  simp only [standard, hFound, Option.getD_some]

/-
  A header key stands for no preference in a call that has
  neither headers nor an argument named as the mark.
-/
theorem determineKey_no_header
    (hHeaders : i.headers = [])
    (hArgument : i.argument? "header" = none) :
    standard.determineKey ("#header." ++ key) i = "" := by
  have hMark : Expression.IsIdentifier "header" :=
    ⟨by decide, List.all_eq_true.mp rfl⟩
  have hNoHeader :
      ∀ v, ¬ KeyResolver.header.Takes i ("#header." ++ key) v := by
    intro v hTakes
    rcases (KeyResolver.header_takes_iff i _ v).mp hTakes with
      ⟨name, _, hText, _⟩
    simp [Invocation.headerText?, hHeaders] at hText
  have hNoSession :
      ∀ v, ¬ KeyResolver.session.Takes i ("#header." ++ key) v := by
    intro v hTakes
    rcases (KeyResolver.session_takes_iff i _ v).mp hTakes with
      ⟨name, hName, _⟩
    have hStart := hName.startsWith
    rw [Text.startsWith, toList_headerKey] at hStart
    cases hStart
  have hNothing : Expression.key? i ("#header." ++ key) = none := by
    rw [Expression.key?]
    cases hRead : Expression.parse? ("#header." ++ key) with
    | none => rfl
    | some e =>
        have hRoot :=
          Expression.root_of_parse? hMark (toList_headerKey key) hRead
        have hValue : Expression.rootValue? i "header" = none := by
          simp only [Expression.rootValue?, hArgument]
          rfl
        simp [Expression.eval?, hRoot, hValue]
  have hFound :
      ResolverChain.standard.resolve? i ("#header." ++ key) =
        none := by
    rw [ResolverChain.resolve?, ResolverChain.standard,
      ResolverChain.firstOf_of_not_takes hNoHeader,
      ResolverChain.firstOf_of_not_takes hNoSession,
      ResolverChain.firstOf_singleton (isDynamic_headerKey key)]
    exact hNothing
  rw [determineKey, if_pos (isDynamic_headerKey key)]
  simp only [standard, hFound, Option.getD_none]

end Interceptor

end StorageRouting

------------------------------------------------------------
-- Opened Sessions
------------------------------------------------------------

namespace StorageRouting

namespace Session

variable {σ : Type} {p : Platform σ} {o : SessionOptions}

/-
  A session that options open: over settings, or over those of
  a file.
-/
inductive Opened
    (p : Platform σ)
    (o : SessionOptions) : Session σ → Prop where
| connected
    {settings : Settings}
    {s s' : σ}
    {session : Session σ}
    (h : connect p o settings s = (.ok session, s')) :
    Opened p o session
| established
    {env : ConfigLocation.Environment}
    {w w' : World σ}
    {session : Session σ}
    (h : establish p env o w = (some (.ok session), w')) :
    Opened p o session

/- A session that is established is connected over settings. -/
theorem connect_of_establish
    {env : ConfigLocation.Environment}
    {w w' : World σ}
    {session : Session σ}
    (h : establish p env o w = (some (.ok session), w')) :
    ∃ settings,
      connect p o settings w.backends =
        (.ok session, w'.backends) := by
  let load (files : FileTree) : Except Error Settings :=
    Settings.load files (o.config.getD (ConfigLocation.path env))
  have hLook : Job.look load w = (some (load w.files), w) := rfl
  rw [establish, Job.bind_of_some hLook] at h
  cases hLoad : load w.files with
  | error e =>
      rw [hLoad] at h
      cases h
  | ok settings =>
      rw [hLoad] at h
      rcases hConnect : connect p o settings w.backends with
        ⟨answer, backends⟩
      simp only [Job.ask, hConnect] at h
      cases h
      exact ⟨settings, hConnect⟩

/- A session has the routing key and the headers of its options. -/
theorem Opened.fields
    {session : Session σ}
    (h : Opened p o session) :
    session.backend = o.backend ∧ session.headers = o.headers := by
  have hConnected :
      ∃ settings s s',
        connect p o settings s = (.ok session, s') := by
    cases h with
    | connected h => exact ⟨_, _, _, h⟩
    | established h =>
        rcases connect_of_establish h with ⟨settings, hConnect⟩
        exact ⟨settings, _, _, hConnect⟩
  rcases hConnected with ⟨settings, s, s', hConnect⟩
  simp only [connect] at hConnect
  split at hConnect <;> cases hConnect
  exact ⟨rfl, rfl⟩

/-
  A session that is opened with one header option, and whose
  routing key is a header key.
-/
structure AsksHeader
    (p : Platform σ)
    (option : String × String)
    (key : String)
    (session : Session σ) : Prop where
  opened :
    ∃ config strict,
      Opened p ⟨config, "#header." ++ key, strict, [option]⟩ session

variable
  {option : String × String}
  {key : String}
  {session : Session σ}

/- The route of a call of such a session. -/
theorem AsksHeader.route_eq
    (h : session.AsksHeader p option key)
    (i : Invocation) :
    session.route i =
      ⟨session.registry,
        [Interceptor.standard.determineKey
          ("#header." ++ key) i]⟩ := by
  rcases h.opened with ⟨config, strict, hOpened⟩
  rw [route, hOpened.fields.1]

/- The call of a command has the option as its only header. -/
theorem AsksHeader.invocation_eq
    (h : session.AsksHeader p option key)
    (method : String)
    (args : List (String × Value)) :
    session.invocation method args =
      { (Invocation.new method).header option.1 option.2 with
        args } := by
  rcases h.opened with ⟨config, strict, hOpened⟩
  rw [invocation, hOpened.fields.2]
  rfl

end Session

end StorageRouting

------------------------------------------------------------
-- Commands and Routes
------------------------------------------------------------

namespace StorageRouting

namespace Session

variable {σ : Type}

/-
  Two sessions that commands cannot tell apart: they have the
  same headers, and their calls, none of which has an argument
  named as the mark of headers, have the same routes.
-/
structure RoutesAs (a b : Session σ) : Prop where
  registry : a.registry = b.registry
  now : a.now = b.now
  headers : a.headers = b.headers
  probesHealth : a.probesHealth = b.probesHealth
  route :
    ∀ method args, "header" ∉ args.map Prod.fst →
      a.route (a.invocation method args) =
        b.route (b.invocation method args)

/- Their calls warn of the same headers and go the same way. -/
theorem RoutesAs.direct_eq
    {a b : Session σ}
    (h : a.RoutesAs b)
    (method : String)
    {args : List (String × Value)}
    (hArgs : "header" ∉ args.map Prod.fst) :
    a.direct method args = b.direct method args := by
  simp only [direct, h.headers, h.now, h.route method args hArgs]

end Session

variable {σ : Type} {a b : Session σ}

/- Probes see of a session its registry and its clock. -/
theorem BackendsReport.probe_congr
    (h : a.RoutesAs b)
    (timeout : Timeout) :
    BackendsReport.probe a timeout =
      BackendsReport.probe b timeout := by
  funext w
  simp only [BackendsReport.probe, h.registry, h.now]

/- Commands see of a session what its routes show. -/
theorem Command.run_congr
    (h : a.RoutesAs b)
    (f : Formatter)
    (c : Command) : c.run a f = c.run b f := by
  cases c with
  | backends health timeout =>
      simp only [run, BackendsReport.run,
        BackendsReport.probe_congr h, h.registry, h.probesHealth]
  | list bucket keyStart recursive maxKeys =>
      simp (disch := simp) only [run, BucketListing.run, h.direct_eq]
  | get key destination bucket =>
      simp (disch := simp) only [run, Download.run, h.direct_eq]
  | put file key bucket contentType =>
      simp (disch := simp) only [run, Upload.run, Upload.runWith,
        h.direct_eq]
  | remove keys bucket =>
      simp (disch := simp) only [run, Removal.run, h.direct_eq]
  | stat key bucket =>
      simp (disch := simp) only [run, Lookup.run, h.direct_eq]
  | makeBucket bucket ignoreExisting =>
      simp (disch := simp) only [run, BucketChange.runMake, h.direct_eq]
  | removeBucket bucket =>
      simp (disch := simp) only [run, BucketChange.runRemove, h.direct_eq]
  | getAcl key bucket =>
      simp (disch := simp) only [run, AccessList.runGet, h.direct_eq]
  | setAcl acl key bucket =>
      simp (disch := simp) only [run, AccessList.runSet, h.direct_eq]
  | share key bucket expire method =>
      simp (disch := simp) only [run, SharedLink.run,
        SharedLink.runFor, h.now, h.direct_eq]
  | completions shell => rfl

end StorageRouting

------------------------------------------------------------
-- Sessions Under a Header Option
------------------------------------------------------------

namespace StorageRouting

/- Texts that agree up to letter case are empty together. -/
theorem Text.ne_empty_of_lowerAscii_eq
    {s t : String}
    (hSame : lowerAscii s = lowerAscii t)
    (hFull : t ≠ "") : s ≠ "" := by
  rintro rfl
  apply hFull
  have hChars := congrArg String.toList hSame
  simpa [lowerAscii] using hChars.symm

namespace HeaderOption

variable {value : String}

/- A value on one line is a value of headers. -/
theorem IsInline.isValue
    (h : IsInline value) : Header.isValue value = true := by
  apply List.all_eq_true.mpr
  intro c hc
  have hRange := h.printed c hc
  have hNotLast : c.toNat ≠ 127 := by omega
  simp [hRange.1, hNotLast]

/- A value on one line reads as text. -/
theorem IsInline.isPlain
    (h : IsInline value) : Header.isPlain value = true := by
  apply List.all_eq_true.mpr
  intro c hc
  simp [h.printed c hc]

end HeaderOption

namespace Session

open HeaderOption (IsInline Spacing)

variable
  {σ : Type}
  {p : Platform σ}
  {session : Session σ}
  {name value key : String}

/-
  Under an option with the name of a header, every call leads to
  the value of the option.
-/
theorem AsksHeader.route_value
    (h : session.AsksHeader p (name, value) key)
    (hName : Header.isName name = true)
    (hValue : IsInline value)
    (hSame : Text.lowerAscii key = Text.lowerAscii name)
    (method : String)
    (args : List (String × Value)) :
    session.route (session.invocation method args) =
      ⟨session.registry, [value]⟩ := by
  have hToken := (Header.isName_iff.mp hName).1
  have hHeaders :
      (session.invocation method args).headers =
        [(Text.lowerAscii name, value)] := by
    rw [h.invocation_eq, Invocation.header,
      if_pos ⟨hName, hValue.isValue⟩]
    rfl
  have hText :
      (session.invocation method args).headerText? key =
        some value := by
    simp [Invocation.headerText?, hHeaders, hSame, hValue.isPlain]
  rw [h.route_eq,
    Interceptor.determineKey_header
      (Text.ne_empty_of_lowerAscii_eq hSame hToken.1) hText
      hValue.nonempty]

/-
  Under an option that has no name of a header, calls without an
  argument named as the mark have no preference.
-/
theorem AsksHeader.route_nowhere
    (h : session.AsksHeader p (name, value) key)
    (hName : Header.isName name = false)
    (method : String)
    {args : List (String × Value)}
    (hArgs : "header" ∉ args.map Prod.fst) :
    session.route (session.invocation method args) =
      ⟨session.registry, [""]⟩ := by
  have hHeaders :
      (session.invocation method args).headers = [] := by
    rw [h.invocation_eq, Invocation.header, if_neg (by simp [hName])]
    rfl
  have hArgument :
      (session.invocation method args).argument? "header" =
        none := by
    apply Invocation.argument?_of_not_named
    intro a ha hSame
    exact hArgs (hSame ▸ List.mem_map_of_mem ha)
  rw [h.route_eq,
    Interceptor.determineKey_no_header hHeaders hArgument]

/-
  Commands cannot tell a session whose calls lead to a literal
  key from one with that routing key.
-/
theorem routesAs_literal
    (hLiteral : isDynamic key = false)
    (h :
      ∀ method args, "header" ∉ args.map Prod.fst →
        session.route (session.invocation method args) =
          ⟨session.registry, [key]⟩) :
    session.RoutesAs { session with backend := key } where
  registry := rfl
  now := rfl
  headers := rfl
  probesHealth := rfl
  route method args hArgs := by
    rw [h method args hArgs]
    simp [route, Interceptor.determineKey, hLiteral]

/-
  Under an option that has no name of a header, commands run as
  without a preference.
-/
theorem AsksHeader.run_nowhere
    (h : session.AsksHeader p (name, value) key)
    (hName : Header.isName name = false)
    (f : Formatter)
    (c : Command) :
    c.run session f = c.run { session with backend := "" } f :=
  Command.run_congr
    (routesAs_literal rfl
      (fun method _ hArgs => h.route_nowhere hName method hArgs))
    f c

/-
  What becomes of an option, with blanks around its name and its
  value.  It is read as they are if its separator is "=", or if
  it is ":" and the value has no "="; a session then leads all
  calls to the value, provided that the name is short enough for
  a header.  Behind a ":" a value with a "=" is cut there; the
  name gets the first part and is none of a header, so commands
  run as without a preference.
-/
theorem header_option_routes
    (p : Platform σ)
    (g : Spacing)
    (hName : Header.IsToken name)
    (hValue : IsInline value) :
    (∀ separator,
      separator = '=' ∨ separator = ':' ∧ '=' ∉ value.toList →
        HeaderOption.parse (g.written name separator value) =
          .ok (name, value)) ∧
    (∀ key (session : Session σ),
      session.AsksHeader p (name, value) key →
        Text.lowerAscii key = Text.lowerAscii name →
          (name.length < Width.count 16 →
            (∀ method args,
              session.route (session.invocation method args) =
                ⟨session.registry, [value]⟩) ∧
            (isDynamic value = false →
              ∀ f (c : Command),
                c.run session f =
                  c.run { session with backend := value } f)) ∧
          (Width.count 16 ≤ name.length →
            ∀ f (c : Command),
              c.run session f =
                c.run { session with backend := "" } f)) ∧
    ∀ front back,
      value.toList = front ++ '=' :: back → '=' ∉ front →
        ∃ other rest,
          HeaderOption.parse (g.written name ':' value) =
            .ok (other, rest) ∧
          other.toList =
            name.toList ++ g.behindName ++
              ':' :: Text.trimEnd (g.beforeValue ++ front) ∧
          rest.toList = Text.trimChars back ∧
          ∀ key (session : Session σ),
            session.AsksHeader p (other, rest) key →
              ∀ f (c : Command),
                c.run session f =
                  c.run { session with backend := "" } f := by
  refine ⟨?_, ?_, ?_⟩
  · intro separator hSeparator
    exact HeaderOption.parse_written g hName hValue hSeparator
  · intro key session hAsks hSame
    refine ⟨?_, ?_⟩
    · intro hShort
      have hHeader := Header.isName_iff.mpr ⟨hName, hShort⟩
      have hRoute := hAsks.route_value hHeader hValue hSame
      refine ⟨hRoute, ?_⟩
      intro hLiteral f c
      exact
        Command.run_congr
          (routesAs_literal hLiteral
            (fun method args _ => hRoute method args))
          f c
    · intro hLong f c
      have hNoHeader : Header.isName name = false := by
        rw [← Bool.not_eq_true, Header.isName_iff]
        rintro ⟨_, hShort⟩
        omega
      exact hAsks.run_nowhere hNoHeader f c
  · intro front back hParts hFront
    refine
      ⟨_, _, HeaderOption.parse_cut_in_value g hName hParts hFront,
        String.toList_ofList, String.toList_ofList, ?_⟩
    intro key session hAsks f c
    have hNoHeader :
        Header.isName
          (String.ofList
            (name.toList ++ g.behindName ++
              ':' :: Text.trimEnd (g.beforeValue ++ front))) =
          false := by
      rw [← Bool.not_eq_true, Header.isName_iff]
      rintro ⟨hToken, _⟩
      refine hToken.not_mem (c := ':') rfl ?_
      simp
    exact hAsks.run_nowhere hNoHeader f c

/- Two backends in memory, of which the first is primary. -/
def sampleSettings : Settings :=
  { Settings.blank with
    primary := "s3a"
    backends :=
      Dictionary.ofList
        [("s3a", Registry.memoryConfig "s3a" "memory://local"),
          ("s3b", Registry.memoryConfig "s3b" "memory://local")] }

/- A session over the sample with one header option. -/
def sampleStart
    (option : String × String) :
    Except Error (Session Fleet) × Fleet :=
  connect Fleet.platform ⟨none, "#header.TENANT", false, [option]⟩
    sampleSettings (Fleet.start default)

/-
  Where sessions over the sample lead under options with a blank
  behind their ":", one of which has a "=" in its value.
-/
theorem sampleStart_routes :
    Header.IsToken "tenant" ∧
      (IsInline "s3b" ∧
        HeaderOption.parse "tenant: s3b" = .ok ("tenant", "s3b") ∧
        ∃ session f,
          sampleStart ("tenant", "s3b") = (.ok session, f) ∧
          StorageClient.backendName
              (session.route (session.invocation "ls" [])) =
            .ok "s3b") ∧
      IsInline "s3b=1" ∧
        HeaderOption.parse "tenant: s3b=1" =
          .ok ("tenant: s3b", "1") ∧
        ∃ session f,
          sampleStart ("tenant: s3b", "1") = (.ok session, f) ∧
          ∀ g (c : Command),
            c.run session g =
              c.run { session with backend := "" } g := by
  have hBlank : Text.AllBlank [' '] := by
    intro c hc
    rw [List.mem_singleton.mp hc]
    rfl
  let g : Spacing :=
    ⟨[], [], [' '], [], nofun, nofun, hBlank, nofun⟩
  have hName : Header.IsToken "tenant" :=
    ⟨by decide, List.all_eq_true.mp rfl⟩
  have hValue : IsInline "s3b" :=
    ⟨by decide, by simp,
      ⟨by rintro _ ⟨⟩; rfl, by rintro _ ⟨⟩; rfl⟩⟩
  have hOther : IsInline "s3b=1" :=
    ⟨by decide, by simp,
      ⟨by rintro _ ⟨⟩; rfl, by rintro _ ⟨⟩; rfl⟩⟩
  rcases header_option_routes Fleet.platform g hName hValue with
    ⟨hRead, hRoutes, _⟩
  rcases
      (header_option_routes Fleet.platform g hName hOther).2.2
        "s3b".toList "1".toList rfl (by decide) with
    ⟨other, rest, hCut, hNameCut, hValueCut, hNowhere⟩
  have hOpened :
      ∀ option : String × String,
        ∃ session f, sampleStart option = (.ok session, f) :=
    fun _ => ⟨_, _, rfl⟩
  have hAsks :
      ∀ {option session f},
        sampleStart option = (.ok session, f) →
          session.AsksHeader Fleet.platform option "TENANT" :=
    fun h => ⟨⟨_, _, .connected h⟩⟩
  cases (String.toList_inj.mp hNameCut : other = "tenant: s3b")
  cases (String.toList_inj.mp hValueCut : rest = "1")
  rcases hOpened ("tenant", "s3b") with ⟨session, f, hStart⟩
  rcases hOpened ("tenant: s3b", "1") with ⟨session', f', hStart'⟩
  have hRoute :=
    ((hRoutes "TENANT" session (hAsks hStart) rfl).1 (by decide)).1
      "ls" []
  refine
    ⟨hName,
      ⟨hValue, hRead ':' (.inr ⟨rfl, by decide⟩), session, f,
        hStart, ?_⟩,
      hOther, hCut, session', f', hStart',
      hNowhere "TENANT" session' (hAsks hStart')⟩
  rw [hRoute]
  cases hStart
  rfl

end Session

end StorageRouting
