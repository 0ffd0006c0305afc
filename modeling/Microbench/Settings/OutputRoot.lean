import Microbench.Moment
import Microbench.Path
import Microbench.Settings.File

/-!
# Where results go

The output root is the one asked for, else the one of the settings file, else a directory below
that for temporary files. A batch then has a directory of its own in it, named for its start.
-/

namespace Microbench

/-- The environment variables that name a directory for temporary files. -/
structure TemporaryDirectories where
  temp : Option String := none
  tmp : Option String := none
  /-- The one that counts even when it is empty. -/
  tmpdir : Option String := none

namespace OutputRoot

/-- The name of the default output root. -/
def directoryName : String := "isobench"

/-- The output root that nobody asked for. -/
def default (env : TemporaryDirectories) : String :=
  let named := [env.temp, env.tmp].filterMap id |>.find? (!·.isEmpty)
  Path.join (named.getD (env.tmpdir.getD "/tmp")) directoryName

/-- The name of the directory of a batch. -/
def batchName (t : ClockReading) : String :=
  let two := Moment.digitsOf 2
  Moment.yearText t.year ++ two t.month ++ two t.day ++ "-" ++ two t.hour ++ two t.minute ++ two t.second

/-- Where the results of a batch go. -/
def resolve (asked : Option String) (settings : OutputSettings) (env : TemporaryDirectories)
    (started : ClockReading) : String :=
  let root := (asked.or settings.directory).getD (default env)
  if settings.timestamped then Path.join root (batchName started) else root

end OutputRoot

end Microbench
