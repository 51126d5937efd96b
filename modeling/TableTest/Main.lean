/-
`TableTest.Main` — the command line

Reads the files that the arguments name, lets the program respond, and prints what it leaves.
-/
import TableTest.Program.Respond

namespace TableTest.Program

/-- The number of a system error, which may come with its sign changed. -/
def errorNumber (code : UInt32) : UInt32 := if code < 0x80000000 then code else 0 - code

/-- The fault of a file that could not be read. -/
def fileFault : IO.Error → FileFault
  | .noFileOrDirectory _ _ _ => .notFound
  | .inappropriateType _ code details =>
    match errorNumber code with
    | 20 => .notADirectory
    | 21 => .isADirectory
    | _ => .other details
  | .invalidArgument _ code details =>
    if errorNumber code == 36 then .nameTooLong else .other details
  | e => .other (toString e)

/-- What a path leads to. -/
def readPath (path : String) : IO Found :=
  try
    match String.fromUTF8? (← IO.FS.readBinFile path) with
    | some text => return .text text
    | none => return .unreadable .notText
  catch e =>
    -- what cannot be read may be there all the same
    try
      discard (IO.FS.realPath path)
      return .unreadable (fileFault e)
    catch _ => return .nothing (fileFault e)

def readPaths (paths : List String) : IO Files := do
  let found ← paths.mapM fun path => return (path, ← readPath path)
  return fun path => (found.lookup path).getD (.nothing .notFound)

/-- The path of the user's configuration file. -/
def userConfigPath : IO (Option String) := do
  let configured := (← IO.getEnv "XDG_CONFIG_HOME").filter (Text.startsWith "/")
  let home := (← IO.getEnv "HOME").map (· ++ "/.config")
  return (configured.or home).map (· ++ "/selenese-runner/config.toml")

/-- Whether the terminal takes colours. -/
def takesColours : IO Bool := do
  match ← IO.getEnv "CLICOLOR_FORCE" with
  | some force => if force != "0" then return true
  | none => pure ()
  if (← IO.getEnv "NO_COLOR").isSome then return false
  (← IO.getStdout).isTty

def environmentFor (args : List String) : IO Environment := do
  let env : Environment :=
    { files := fun _ => .nothing .notFound
      userConfig := ← userConfigPath
      coloured := ← takesColours }
  match Arguments.parse args with
  | .ok (.invoke invocation) => return { env with files := ← readPaths (invocation.paths env) }
  | _ => return env

end TableTest.Program

open TableTest.Program in
def main (args : List String) : IO UInt32 := do
  let outcome := respond (← environmentFor args) args
  IO.print outcome.output
  IO.eprint outcome.errors
  return outcome.status.toUInt32
