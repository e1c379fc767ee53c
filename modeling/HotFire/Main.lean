import HotFire.Console

/-! Command line: `CONFIG [--simulate] [--verbose]`. The bytes of standard input are
the operator's commands, up to the one that ends a session. -/

namespace HotFire

namespace Main

structure Options where
  config : String
  simulate : Bool
  verbose : Bool

def usage : String := "usage: CONFIG [--simulate] [--verbose]"

def Options.ofArgs? (args : List String) : Option Options :=
  let flags := args.filter (·.startsWith "-")
  let known := ["--simulate", "--verbose", "-v"]
  match args.filter (! ·.startsWith "-") with
  | [config] =>
    if flags.all known.contains then
      some ⟨config, flags.contains "--simulate",
        flags.contains "--verbose" || flags.contains "-v"⟩
    else none
  | _ => none

def report (limit : Severity) (ns : List Notice) : IO Unit := do
  let err ← IO.getStderr
  (Notice.lines limit ns).forM err.putStrLn

/-- A file that cannot be read for another reason than that it is not there is taken
for a directory. -/
def readSource (path : String) : IO ConfigSource := do
  try
    return .bytes (← IO.FS.readBinFile path)
  catch
    | .noFileOrDirectory _ _ _ => return .missing
    | _ => return .directory

partial def serve (limit : Severity) (input : IO.FS.Stream) (c : Console) : IO Unit := do
  let bytes ← input.read 1
  match bytes.toList with
  | [byte] =>
    if byte != sessionEnd then
      let (c, notices) := c.turn byte
      report limit notices
      serve limit input c
  | _ => return

end Main

end HotFire

open HotFire HotFire.Main in
def main (args : List String) : IO UInt32 := do
  let err ← IO.getStderr
  match Options.ofArgs? args with
  | none =>
    err.putStrLn usage
    return 2
  | some options =>
    let limit := if options.verbose then .debug else .info
    let source ← readSource options.config
    report limit (StandConfig.loadNotices options.config source)
    match StandConfig.load options.config source with
    | .error e =>
      err.putStrLn s!"loading {options.config}: {e.message}"
      return 1
    | .ok config =>
      if options.simulate then
        let (console, notices) := Console.ofConfig config
        report limit notices
        serve limit (← IO.getStdin) console
        return 0
      else
        err.putStrLn "no board is attached; run with --simulate"
        return 1
