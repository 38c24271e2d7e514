import TlcpLoad.Load.Test

/-! # Command line

`main [CONFIG]` reads the load test's configuration (by default `streamload.json`), checks
it, runs the test, and logs its progress and final statistics on the error stream. A
configuration that cannot be read or is invalid ends the program with status 1. -/

open TlcpLoad

namespace TlcpLoad.CommandLine

/-- Prints log records on the error stream. -/
def printRecords (records : List LogRecord) : IO Unit := do
  let err ← IO.getStderr
  for r in records do
    err.putStrLn r.render

/-- The error number of a failure code, which may come negated. -/
def errno (code : UInt32) : Nat :=
  if code.toNat ≥ Nat.pow 2 31 then Nat.pow 2 32 - code.toNat else code.toNat

/-- The operating system's description of an error number, for the failures a read meets. -/
def describe : Nat → Option String
  | 2 => some "No such file or directory"
  | 13 => some "Permission denied"
  | 20 => some "Not a directory"
  | 21 => some "Is a directory"
  | _ => none

/-- The operating system's text of a failed read. -/
def failureText (e : IO.Error) : String :=
  let code? : Option UInt32 := match e with
    | .noFileOrDirectory _ code _ | .permissionDenied _ code _ | .inappropriateType _ code _
    | .otherError code _ => some code
    | _ => none
  match code? with
  | some code =>
    match describe (errno code) with
    | some d => OsError.message ⟨d, errno code⟩
    | none => toString e
  | none => toString e

/-- Reads and checks the configuration file. -/
def loadConfig (path : String) : IO (Except ClientError ClientConfig) := do
  try
    let bytes ← IO.FS.readBinFile path
    match Utf8.toString? bytes.toList with
    | some text => pure (ClientConfig.ofJsonText text)
    | none => pure (.error (.config ("read " ++ path ++ ": stream did not contain valid UTF-8")))
  catch e =>
    pure (.error (.config ("read " ++ path ++ ": " ++ failureText e)))

/-- How a failure is shown when the program ends with it. -/
def failureDebugText : ClientError → String
  | .config message => "Config(" ++ Literal.quote message ++ ")"
  | e => e.message

/-- Ends the program with a failure. -/
def fail (e : ClientError) : IO UInt32 := do
  printRecords [⟨.error, "streamload", e.message⟩]
  IO.eprintln ("Error: " ++ failureDebugText e)
  pure 1

/-- The items of a session: drawn at random from the item range, or spread over it. -/
def itemsOf (config : ClientConfig) (id : Nat) : IO (Except WordFault (List String)) := do
  if config.itemRandomExtraction then
    let (first, last) := config.itemRange
    let mut items := []
    for _ in [0:config.itemsPerSession] do
      let n ← IO.rand first last
      items := items ++ [itemName n]
    pure (.ok items)
  else
    pure (config.itemsFor id)

/-- Runs the load test of a checked configuration. -/
def runTest (config : ClientConfig) (test : LoadTest) : IO UInt32 := do
  printRecords test.opening
  let (records, t) := test.report
  printRecords records
  let mut test := t
  for id in [1:config.numberOfSessions + 1] do
    match ← itemsOf config id with
    | .error fault =>
      IO.eprintln ("thread 'main' panicked: " ++ fault.message)
      return 101
    | .ok items =>
      let (records, t) := test.runSession items
      printRecords records
      test := t
    IO.sleep config.delaySessionStartMillis.toUInt32
  IO.sleep (config.sessionDurationSeconds * 1000).toUInt32
  let (records, stats) := test.finish
  printRecords records
  printRecords [⟨.info, "streamload", "Final statistics: " ++ stats.jsonText⟩]
  pure 0

end TlcpLoad.CommandLine

open TlcpLoad.CommandLine in
/-- Runs a load test from the configuration file named on the command line. -/
def main (args : List String) : IO UInt32 := do
  let path := args.headD "streamload.json"
  printRecords [⟨.info, "streamload::config", "Reading configuration from " ++ path⟩]
  match ← loadConfig path with
  | .error e => fail e
  | .ok config =>
    match LoadTest.create config OsError.networkUnreachable with
    | .error e => fail e
    | .ok test => runTest config test
