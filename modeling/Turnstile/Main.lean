/-
The command, in a real directory and environment.
-/
import Turnstile.CommandLine

namespace Turnstile.Main

open Config

/-- The variables that the command looks at. -/
def variableNames : List String :=
  "RUST_LOG" :: (CommandLine.stem ++ "CONFIG") ::
    Settings.keys.map (variableName CommandLine.stem)

/-- The environment, as far as the command looks at it. -/
def environment : IO Environment := do
  let mut env := Environment.empty
  for name in variableNames do
    if let some value ← IO.getEnv name then
      env := env.put name value.toUTF8.toList
  return env

/-- Add a file to those known, if it can be read. -/
def withFile (files : Files) (path : Option String) : IO Files := do
  match path with
  | none => return files
  | some path =>
    try
      let bytes ← IO.FS.readBinFile path
      return files.put path (.file bytes.toList)
    catch _ => return files

end Turnstile.Main

/-- Run the command. -/
def main : IO UInt32 := do
  let env ← Turnstile.Main.environment
  let files ← Turnstile.Main.withFile .empty (Turnstile.CommandLine.configPath? env)
  let files ← Turnstile.Main.withFile files (Turnstile.CommandLine.costPath? ⟨files, env⟩)
  let exit := Turnstile.CommandLine.run ⟨files, env⟩
  for line in exit.lines do
    IO.println line
  return exit.code.toUInt32
