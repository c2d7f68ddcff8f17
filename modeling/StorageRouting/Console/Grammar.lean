import StorageRouting.Text.Blank

/-
  Command lines: options, positional arguments and subcommands.

  Key definitions include:
    * `OptionSpec`
    * `CommandSpec`
    * `Matched`
    * `LineOutcome`
    * `CommandSpec.read`
-/

------------------------------------------------------------
-- Specifications
------------------------------------------------------------

namespace StorageRouting

/- How often an option is given, and whether with a value. -/
inductive OptionKind where
| flag : OptionKind
| value : OptionKind
| values : OptionKind
deriving DecidableEq, Repr

/- An option: its names, and the values that it accepts. -/
structure OptionSpec where
  name : String
  short : Option Char
  kind : OptionKind
  accepts : String → Bool

namespace OptionSpec

/- An option without a value. -/
def flag
    (name : String)
    (short : Option Char) : OptionSpec :=
  ⟨name, short, .flag, fun _ => true⟩

/- An option with any value. -/
def text
    (name : String)
    (short : Option Char) : OptionSpec :=
  ⟨name, short, .value, fun _ => true⟩

end OptionSpec

/- A positional argument. -/
structure ArgumentSpec where
  name : String
  required : Bool
  many : Bool
  accepts : String → Bool

namespace ArgumentSpec

/- An argument that must be given. -/
def needed (name : String) : ArgumentSpec :=
  ⟨name, true, false, fun _ => true⟩

/- An argument that may be given. -/
def free (name : String) : ArgumentSpec :=
  ⟨name, false, false, fun _ => true⟩

end ArgumentSpec

/-
  A command: options, arguments and subcommands.  One of the
  subcommands must be given when there are any.
-/
inductive CommandSpec where
| mk
    (options : List OptionSpec)
    (arguments : List ArgumentSpec)
    (subcommands : List (String × CommandSpec)) : CommandSpec

namespace CommandSpec

/- The options of a command. -/
def options : CommandSpec → List OptionSpec
| mk options _ _ => options

/- The positional arguments of a command. -/
def arguments : CommandSpec → List ArgumentSpec
| mk _ arguments _ => arguments

/- The subcommands of a command. -/
def subcommands : CommandSpec → List (String × CommandSpec)
| mk _ _ subcommands => subcommands

/- A command without subcommands. -/
def leaf
    (arguments : List ArgumentSpec)
    (options : List OptionSpec) : CommandSpec :=
  mk options arguments []

/- A command that has nothing but subcommands. -/
def group
    (subcommands : List (String × CommandSpec)) : CommandSpec :=
  mk [] [] subcommands

/- The subcommand of a name. -/
def subcommand?
    (c : CommandSpec)
    (name : String) : Option CommandSpec :=
  c.subcommands.lookup name

end CommandSpec

end StorageRouting

------------------------------------------------------------
-- Matches
------------------------------------------------------------

namespace StorageRouting

/- What was given to one command: values by name, in order. -/
structure Matched where
  given : List (String × List String)
deriving DecidableEq, Repr, Inhabited

namespace Matched

/- Nothing was given. -/
def empty : Matched :=
  ⟨[]⟩

/- The values given under a name, if the name was given. -/
def values?
    (m : Matched)
    (name : String) : Option (List String) :=
  m.given.lookup name

/- Whether a name was given. -/
def has
    (m : Matched)
    (name : String) : Bool :=
  (m.values? name).isSome

/- The value given under a name. -/
def value?
    (m : Matched)
    (name : String) : Option String :=
  (m.values? name).bind List.head?

/- Add values under a name. -/
def add
    (m : Matched)
    (name : String)
    (values : List String) : Matched :=
  let old := (m.values? name).getD []
  ⟨(name, old ++ values) :: m.given.filter (·.1 != name)⟩

end Matched

/-
  The outcome of reading a command line: a mistake, a wish for
  help or for the version of a command, or the commands that
  were named with what was given to each, outermost first.
-/
inductive LineOutcome where
| mistake : LineOutcome
| help : LineOutcome
| version (command : List String) : LineOutcome
| matched (levels : List (String × Matched)) : LineOutcome
deriving DecidableEq, Repr

end StorageRouting

------------------------------------------------------------
-- Options
------------------------------------------------------------

namespace StorageRouting

/- What can be given to every command. -/
structure LineSettings where
  shared : List OptionSpec
  hasVersion : Bool

/- How far the reading of one command has come. -/
structure LineState where
  name : String
  spec : CommandSpec
  matched : Matched
  arguments : List ArgumentSpec
  pending : Option OptionSpec
  plain : Bool

namespace LineState

/- The state at the beginning of a command. -/
def start
    (name : String)
    (spec : CommandSpec) : LineState :=
  { name, spec, matched := Matched.empty
    arguments := spec.arguments, pending := none, plain := false }

/- Whether an option must not be given once more. -/
def isSpent
    (s : LineState)
    (o : OptionSpec) : Bool :=
  o.kind != .values && s.matched.has o.name

/- Take an option without a value. -/
def takeFlag?
    (s : LineState)
    (o : OptionSpec) : Option LineState :=
  if s.isSpent o then none
  else some { s with matched := s.matched.add o.name [] }

/- Take an option with its value. -/
def takeValue?
    (s : LineState)
    (o : OptionSpec)
    (value : String) : Option LineState :=
  if s.isSpent o || !o.accepts value then none
  else
    some
      { s with
        matched := s.matched.add o.name [value], pending := none }

/- Take a positional argument. -/
def takeArgument?
    (s : LineState)
    (value : String) : Option LineState :=
  match s.arguments with
  | [] => none
  | a :: rest =>
      if a.accepts value then
        some
          { s with
            matched := s.matched.add a.name [value]
            arguments := if a.many then a :: rest else rest }
      else none

/- The options that can be given here. -/
def options
    (settings : LineSettings)
    (s : LineState) : List OptionSpec :=
  s.spec.options ++ settings.shared

/- Whether an argument that must be given is not. -/
def lacksArgument (s : LineState) : Bool :=
  s.spec.arguments.any (fun a => a.required && !s.matched.has a.name)

/- Whether a command line can end here. -/
def isComplete (s : LineState) : Bool :=
  s.pending.isNone && !s.lacksArgument && s.spec.subcommands.isEmpty

end LineState

/- What comes of a word that begins like an option. -/
inductive OptionOutcome where
| mistake : OptionOutcome
| help : OptionOutcome
| version : OptionOutcome
| taken (s : LineState) : OptionOutcome

namespace OptionOutcome

/- An option that was taken, if it could be. -/
def ofTaken : Option LineState → OptionOutcome
| some s => .taken s
| none => .mistake

end OptionOutcome

namespace LineState

/- Take an option behind two dashes. -/
def takeLong
    (settings : LineSettings)
    (s : LineState)
    (word : List Char) : OptionOutcome :=
  let name := String.ofList (word.takeWhile (· ≠ '='))
  let value :=
    match word.dropWhile (· ≠ '=') with
    | [] => none
    | _ :: v => some (String.ofList v)
  if name = "help" then
    if value.isNone then .help else .mistake
  else if name = "version" ∧ settings.hasVersion then
    if value.isNone then .version else .mistake
  else
    match (s.options settings).find? (·.name == name), value with
    | none, _ => .mistake
    | some o, none =>
        if o.kind = .flag then .ofTaken (s.takeFlag? o)
        else .taken { s with pending := some o }
    | some o, some v =>
        if o.kind = .flag then .mistake
        else .ofTaken (s.takeValue? o v)

/- Take the options of single letters behind one dash. -/
def takeShort
    (settings : LineSettings)
    (s : LineState) : List Char → OptionOutcome
| [] => .taken s
| 'h' :: _ => .help
| c :: rest =>
    if c = 'V' ∧ settings.hasVersion then .version
    else
      match (s.options settings).find? (·.short == some c) with
      | none => .mistake
      | some o =>
          if o.kind = .flag then
            match s.takeFlag? o with
            | some s => takeShort settings s rest
            | none => .mistake
          else
            match rest with
            | [] => .taken { s with pending := some o }
            | '=' :: v => .ofTaken (s.takeValue? o (String.ofList v))
            | v => .ofTaken (s.takeValue? o (String.ofList v))

end LineState

end StorageRouting

------------------------------------------------------------
-- Lines
------------------------------------------------------------

namespace StorageRouting

namespace LineState

/- What a word of a command line is. -/
inductive Word where
| end_ : Word
| long (rest : List Char) : Word
| short (rest : List Char) : Word
| plain : Word

/- Tell what a word is. -/
def Word.of (word : String) : Word :=
  match word.toList with
  | ['-', '-'] => .end_
  | '-' :: '-' :: rest => .long rest
  | ['-'] => .plain
  | '-' :: rest => .short rest
  | _ => .plain

/-
  Whether help about the commands of some names can be given.
  The help of a command with subcommands is one of them, and
  has none of its own.
-/
def helpOutcome (spec : CommandSpec) : List String → LineOutcome
| [] => .help
| name :: rest =>
    match spec.subcommand? name with
    | some spec => helpOutcome spec rest
    | none =>
        if name = "help" ∧ rest.isEmpty ∧ !spec.subcommands.isEmpty
        then .help
        else .mistake

/-
  Read the words of a command line.  The commands around this
  one come outermost last.
-/
def read
    (settings : LineSettings)
    (outer : List (String × Matched)) :
    LineState → List String → LineOutcome
| s, [] =>
    if s.isComplete then
      .matched (((s.name, s.matched) :: outer).reverse)
    else .mistake
| s, word :: rest =>
    let kind := if s.plain then Word.plain else Word.of word
    let option := fun (o : OptionOutcome) =>
      if s.pending.isSome then LineOutcome.mistake
      else
        match o with
        | .mistake => .mistake
        | .help => .help
        | .version => .version ((outer.reverse.map (·.1)) ++ [s.name])
        | .taken s => read settings outer s rest
    match kind, s.pending with
    | .end_, some _ => .mistake
    | .end_, none => read settings outer { s with plain := true } rest
    | .long cs, _ => option (s.takeLong settings cs)
    | .short cs, _ => option (s.takeShort settings cs)
    | .plain, some o =>
        match s.takeValue? o word with
        | some s => read settings outer s rest
        | none => .mistake
    | .plain, none =>
        if s.plain || s.spec.subcommands.isEmpty then
          match s.takeArgument? word with
          | some s => read settings outer s rest
          | none => .mistake
        else if word = "help" then helpOutcome s.spec rest
        else
          match s.spec.subcommand? word with
          | some spec =>
              read settings ((s.name, s.matched) :: outer)
                (start word spec) rest
          | none => .mistake

end LineState

/- Read a command line behind the name of the program. -/
def CommandSpec.read
    (settings : LineSettings)
    (name : String)
    (spec : CommandSpec)
    (words : List String) : LineOutcome :=
  LineState.read settings [] (LineState.start name spec) words

end StorageRouting
