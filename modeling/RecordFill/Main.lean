import RecordFill.Command.Run

open RecordFill RecordFill.Command

def troubleOf : IO.Error → FileTrouble
  | .noFileOrDirectory _ _ _ => .missing
  | .inappropriateType _ 20 _ => .notDirectory
  | .inappropriateType _ 21 _ => .directory
  | .inappropriateType _ code reason | .permissionDenied _ code reason | .resourceExhausted _ code reason
  | .invalidArgument _ code reason => .other reason code.toNat
  | error => .other (toString error) 5

def attempt (action : IO ByteArray) : IO (Except FileTrouble ByteArray) := do
  try return .ok (← action) catch error => return .error (troubleOf error)

/-- Everything that is left in a stream. -/
partial def readAll (stream : IO.FS.Stream) (read : ByteArray) : IO ByteArray := do
  let chunk ← stream.read 65536
  if chunk.isEmpty then return read else readAll stream (read ++ chunk)

/-- The files and the standard input of the system. -/
def system : Surroundings IO where
  file path := attempt (IO.FS.readBinFile path)
  input := attempt (do readAll (← IO.getStdin) .empty)

/-- How the program is called. -/
def usage : String :=
  "Usage: contactinfo render [INPUT] --data FILE [--config FILE] [--styling] [--prefix TEXT] [--tag NAME]\n" ++
  "                          [--lang en|de] [--like] [--context NAME]\n" ++
  "       contactinfo fields ID --data FILE [--json]\n"

def main (arguments : List String) : IO UInt32 := do
  let outcome ← Command.run system arguments
  IO.print outcome.standardOutput
  match outcome with
  | .help => IO.print usage
  | .wrongUsage => IO.eprint usage
  | .failed _ => IO.eprintln outcome.standardError
  | .printed _ => pure ()
  return outcome.exitCode.toUInt32
