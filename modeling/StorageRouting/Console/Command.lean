import StorageRouting.Access
import StorageRouting.Console.Grammar
import StorageRouting.Console.Header
import StorageRouting.Number.Decimal

/-
  The commands of the program and their arguments.

  Key definitions include:
    * `Shell`
    * `Command`
    * `Command.spec`
    * `Command.ofLevels?`
    * `Command.read`
-/

------------------------------------------------------------
-- Commands
------------------------------------------------------------

namespace StorageRouting

/- A shell for which completions can be made. -/
inductive Shell where
| bash : Shell
| elvish : Shell
| fish : Shell
| powershell : Shell
| zsh : Shell
deriving DecidableEq, Repr

namespace Shell

/- The name of a shell. -/
def name : Shell → String
| .bash => "bash"
| .elvish => "elvish"
| .fish => "fish"
| .powershell => "powershell"
| .zsh => "zsh"

/- All shells. -/
def all : List Shell :=
  [.bash, .elvish, .fish, .powershell, .zsh]

/- The shell of a name. -/
def ofName? (s : String) : Option Shell :=
  all.find? (fun shell => shell.name == s)

end Shell

/- A command with its arguments. -/
inductive Command where
| backends
    (health : Bool)
    (timeout : Nat) : Command
| list
    (bucket keyStart : Option String)
    (recursive : Bool)
    (maxKeys : Option Int) : Command
| get
    (key : String)
    (destination bucket : Option String) : Command
| put
    (file : String)
    (key bucket contentType : Option String) : Command
| remove
    (keys : List String)
    (bucket : Option String) : Command
| stat
    (key : String)
    (bucket : Option String) : Command
| makeBucket
    (bucket : Option String)
    (ignoreExisting : Bool) : Command
| removeBucket (bucket : Option String) : Command
| getAcl (key bucket : Option String) : Command
| setAcl
    (acl : CannedAcl)
    (key bucket : Option String) : Command
| share
    (key : String)
    (bucket : Option String)
    (expire : String)
    (method : LinkMethod) : Command
| completions (shell : Shell) : Command
deriving DecidableEq, Repr

end StorageRouting

------------------------------------------------------------
-- Specifications
------------------------------------------------------------

namespace StorageRouting

namespace Command

/- An option for the bucket. -/
def bucketOption : OptionSpec :=
  OptionSpec.text "bucket" none

/- A path, which must not be empty. -/
def isPath (s : String) : Bool :=
  !s.isEmpty

/- The options and arguments of the access list commands. -/
def aclSpec : CommandSpec :=
  .group
    [("get", .leaf [.free "key"] [bucketOption]),
      ("set",
        .leaf
          [{ ArgumentSpec.needed "acl" with
              accepts := fun s => (CannedAcl.parse? s).isSome },
            .free "key"]
          [bucketOption])]

/- The options and arguments of all commands. -/
def spec : CommandSpec :=
  .group
    [("backends",
        .leaf []
          [.flag "health" none,
            { OptionSpec.text "timeout" none with
              accepts := fun s =>
                (Decimal.unsigned64? s.toList).isSome }]),
      ("ls",
        .leaf [.free "bucket"]
          [.text "prefix" (some 'p'), .flag "recursive" (some 'r'),
            { OptionSpec.text "max-keys" none with
              accepts := fun s =>
                (Decimal.signed? 32 s.toList).isSome }]),
      ("get",
        .leaf
          [.needed "key",
            { ArgumentSpec.free "dest" with accepts := isPath }]
          [bucketOption]),
      ("put",
        .leaf
          [{ ArgumentSpec.needed "file" with accepts := isPath },
            .free "key"]
          [bucketOption, .text "content-type" none]),
      ("rm",
        .leaf [{ ArgumentSpec.needed "keys" with many := true }]
          [bucketOption]),
      ("stat", .leaf [.needed "key"] [bucketOption]),
      ("mb",
        .leaf [.free "bucket"] [.flag "ignore-existing" none]),
      ("rb", .leaf [.free "bucket"] []),
      ("acl", aclSpec),
      ("share",
        .leaf [.needed "key"]
          [bucketOption, .text "expire" (some 'e'),
            { OptionSpec.text "method" (some 'm') with
              accepts := fun s => (LinkMethod.parse? s).isSome }]),
      ("completions",
        .leaf
          [{ ArgumentSpec.needed "shell" with
              accepts := fun s => (Shell.ofName? s).isSome }]
          [])]

end Command

end StorageRouting

------------------------------------------------------------
-- Reading
------------------------------------------------------------

namespace StorageRouting

namespace Command

/- The seconds that a probe may take unless told otherwise. -/
def usualTimeout : Nat :=
  5

/- The time for which a link can be used unless told otherwise. -/
def usualExpire : String :=
  "7d"

/- The command of a name with what was given to it. -/
def ofMatched?
    (name : String)
    (m : Matched) : Option Command :=
  let bucket := m.value? "bucket"
  let key := m.value? "key"
  match name with
  | "backends" =>
      let timeout :=
        (m.value? "timeout").bind
          (fun s => Decimal.unsigned64? s.toList)
      some (.backends (m.has "health") (timeout.getD usualTimeout))
  | "ls" =>
      let maxKeys :=
        (m.value? "max-keys").bind
          (fun s => Decimal.signed? 32 s.toList)
      some
        (.list bucket (m.value? "prefix") (m.has "recursive") maxKeys)
  | "get" => key.map (fun key => .get key (m.value? "dest") bucket)
  | "put" =>
      (m.value? "file").map (fun file =>
        .put file key bucket (m.value? "content-type"))
  | "rm" => (m.values? "keys").map (fun keys => .remove keys bucket)
  | "stat" => key.map (fun key => .stat key bucket)
  | "mb" => some (.makeBucket bucket (m.has "ignore-existing"))
  | "rb" => some (.removeBucket bucket)
  | "share" =>
      let method := (m.value? "method").bind LinkMethod.parse?
      key.map (fun key =>
        .share key bucket ((m.value? "expire").getD usualExpire)
          (method.getD .get))
  | "completions" =>
      ((m.value? "shell").bind Shell.ofName?).map .completions
  | _ => none

/- The command about access lists of a name. -/
def aclOfMatched?
    (name : String)
    (m : Matched) : Option Command :=
  let bucket := m.value? "bucket"
  let key := m.value? "key"
  match name with
  | "get" => some (.getAcl key bucket)
  | "set" =>
      ((m.value? "acl").bind CannedAcl.parse?).map (fun acl =>
        .setAcl acl key bucket)
  | _ => none

/- The command that was named on a command line. -/
def ofLevels? : List (String × Matched) → Option Command
| [_, (name, m)] => ofMatched? name m
| [_, ("acl", _), (name, m)] => aclOfMatched? name m
| _ => none

end Command

/- The outcome of reading a command alone. -/
inductive CommandOutcome where
| mistake : CommandOutcome
| help : CommandOutcome
| command (c : Command) : CommandOutcome

namespace Command

/- Read a command alone, without what all commands share. -/
def read (words : List String) : CommandOutcome :=
  match spec.read ⟨[], false⟩ "" words with
  | .matched levels =>
      match ofLevels? levels with
      | some c => .command c
      | none => .mistake
  | .help => .help
  | _ => .mistake

end Command

end StorageRouting
