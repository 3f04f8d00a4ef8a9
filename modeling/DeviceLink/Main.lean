import DeviceLink.Demo.Program

/-!
The demonstration on a command line.  Its only argument is the file with the settings.
The link runs over the standard streams: every line that is read is a frame from the
gateway, every frame to the gateway is written as a line, and the end of the input
interrupts the demonstration.  Nothing is decided here; the program meets the clock, the
streams and the exit code.
-/

namespace DeviceLink
namespace Demo

/-- The settings file if none is named.  It is looked for where the program was started. -/
def standardPath : String := "demo-device.toml"

/--
Print the frames that are on their way out.  They are on the stream before anything else is
read.
-/
def printFrames (output : IO.FS.Stream) (program : Program) : IO Program := do
  let (frames, taken) := program.takeFrames
  for frame in frames do
    output.putStrLn frame
  output.flush
  return taken

/--
The time of an event, in milliseconds since the start of the machine's clock.  It goes into
the event as a text, and nothing depends on it.
-/
def eventTime : IO String := do
  return Decimal.naturalString (← IO.monoMsNow)

/--
Let time pass as it has passed outside.  The program is told the difference to the time that
it knows of already.
-/
def catchUp (started : Nat) (program : Program) : IO Program := do
  let elapsed := Duration.ofMilliseconds ((← IO.monoMsNow) - started)
  let now := program.client.session.now
  return program.advance ⟨elapsed.nanoseconds - now⟩

/--
How long to sleep when nothing has been read.  It bounds by how much a deadline is noticed
late.
-/
def pollMilliseconds : UInt32 := 20

/--
Serve the link until the exit code is settled.  Every round settles the program, prints what
it sends, and looks whether a line has come in meanwhile.
-/
partial def serve (start : Start) (started : Nat) (input output : IO.FS.Stream)
    (line : Option (Task (Except IO.Error String))) (program : Program) : IO UInt32 := do
  let settled := program.settle start (← eventTime)
  let printed ← printFrames output (← catchUp started settled)
  match printed.exitCode? with
  | some code => return code
  | none => pure ()
  match line with
  | none =>
      IO.sleep pollMilliseconds
      serve start started input output none printed
  | some reading =>
      if ← IO.hasFinished reading then
        match reading.get with
        | .ok text =>
            if text.isEmpty then serve start started input output none printed.interrupt
            else
              let next ← IO.asTask input.getLine
              let frame := String.ofList ((text.toList.reverse.dropWhile (· = '\n')).reverse)
              serve start started input output (some next) (printed.receiveText start frame)
        | .error _ => serve start started input output none printed.interrupt
      else
        IO.sleep pollMilliseconds
        serve start started input output line printed

/--
Say on the error stream why the demonstration does not start.  The text names the file where
the reason is in it.
-/
def explain (path : String) (fault : StartFault) : String :=
  match fault with
  | .unreadable => "Error: parsing " ++ path
  | .noLamps => "Error: " ++ path ++ ": no [[devices]] configured"
  | .refused failure => "Error: " ++ failure.message
  | .tooManyWorkers workers =>
      "Error: no permits for " ++ Decimal.naturalString workers ++ " workers"

def run (path : String) : IO UInt32 := do
  let text ← try
      pure (some (← IO.FS.readFile path))
    catch _ => pure none
  match text with
  | none =>
      IO.eprintln ("Error: reading " ++ path)
      return StartFault.errorCode
  | some text =>
      match Start.ofText text with
      | .error fault =>
          IO.eprintln (explain path fault)
          return fault.exitCode
      | .ok start =>
          let input ← IO.getStdin
          let output ← IO.getStdout
          let line ← IO.asTask input.getLine
          serve start (← IO.monoMsNow) input output (some line)
            ((Program.new start).linkUp start)

end Demo
end DeviceLink

def main (arguments : List String) : IO UInt32 :=
  DeviceLink.Demo.run (arguments.head?.getD DeviceLink.Demo.standardPath)
