import StorageRouting.Console.Command

/-
  Scripts that complete the names of commands in shells.

  Key definitions include:
    * `Shell.script`
-/

------------------------------------------------------------
-- Scripts
------------------------------------------------------------

namespace StorageRouting

namespace Shell

/- A text between braces. -/
def braced (s : String) : String :=
  "\x7b " ++ s ++ " \x7d"

/- The script that completes words behind a program. -/
def script
    (program : String)
    (words : List String) : Shell → String
| .bash =>
    "complete -o default -W '" ++ Text.joinWith " " words ++ "' " ++
      program ++ "\n"
| .elvish =>
    "set edit:completion:arg-completer[" ++ program ++ "] = " ++
      braced ("|@words| put " ++ Text.joinWith " " words) ++ "\n"
| .fish =>
    "complete -c " ++ program ++ " -n __fish_use_subcommand -a '" ++
      Text.joinWith " " words ++ "'\n"
| .powershell =>
    "Register-ArgumentCompleter -Native -CommandName " ++ program ++
      " -ScriptBlock " ++
      braced
        ("param($word) " ++
          Text.joinWith ", " (words.map (fun w => "'" ++ w ++ "'")) ++
          " | Where-Object " ++ braced "$_ -like \"$word*\"") ++ "\n"
| .zsh =>
    "#compdef " ++ program ++ "\ncompadd " ++
      Text.joinWith " " words ++ "\n"

end Shell

end StorageRouting
