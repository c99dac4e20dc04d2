import LitTiles.Log.Filter
import LitTiles.Log.Output

/-!
# Setting up the log

A program sets up its log once; later attempts are ignored. The filter is the one that is asked for,
else the one of the environment; a blank filter counts as no filter, and then the internals of the
graphics stack are quietened. Where something else has taken the log already it keeps it.
-/

namespace LitTiles

/-- The filter for programs that do not ask for one. -/
def quietFilter : String := "info,wgpu_core=warn,wgpu_hal=warn,naga=warn"

/-- The filter to use, from the one that is asked for and the one of the environment. -/
def chooseFilter (asked environment : Option String) : String :=
  match asked <|> environment with
  | some f => if f.toList.all isBlank then quietFilter else f
  | none => quietFilter

/-- Who gets the records. -/
inductive LogReceiver where
  /-- Nobody. -/
  | nobody
  /-- The error output, as far as records pass a filter. -/
  | output (filter : LogFilter)
  /-- Something outside, up to some severity. -/
  | foreign (most : Option Severity)
  deriving Inhabited

namespace LogReceiver

/-- The most verbose severity that anybody gets. -/
def most : LogReceiver → Option Severity
  | nobody => none
  | output f => f.most
  | foreign m => m

/-- Whether a record is received. -/
def takes (l : LogReceiver) (r : Record) : Bool :=
  match l with
  | nobody => false
  | output f => f.passes r
  | foreign m => r.severity.passes m

end LogReceiver

/-- The state of the log of a program. -/
structure LogSetup where
  /-- Who gets the records. -/
  receiver : LogReceiver := .nobody
  /-- Whether it was set up. -/
  isSetUp : Bool := false
  /-- What was wrong with the filter. -/
  complaints : List FilterError := []
  /-- What was written about the log itself. -/
  records : List Record := []
  deriving Inhabited

namespace LogSetup

/-- Sets the log up, unless that was done before. -/
def setUp (asked environment : Option String) (s : LogSetup) : LogSetup :=
  if s.isSetUp then s
  else
    let text := chooseFilter asked environment
    let (filter, bad) := LogFilter.read text
    let (receiver, said) :=
      match s.receiver with
      | .foreign m => (LogReceiver.foreign m, "logger already installed, keeping it")
      | _ => (.output filter, "logging initialized with `" ++ text ++ "`")
    { receiver := receiver
      isSetUp := true
      complaints := bad
      records := [⟨.debug, .logging, said⟩] }

/-- Of a list of records, those that are received. -/
def shown (s : LogSetup) (rs : List Record) : List Record := rs.filter s.receiver.takes

/-- What the log writes to the error output: what was wrong with the filter, then the records that
are shown there. -/
def output (s : LogSetup) (rs : List Record) : List OutputLine :=
  let complaints := s.complaints.flatMap fun e =>
    writtenLines ("warning: " ++ e.message ++ ", ignoring it")
  let records := match s.receiver with
    | .output _ => s.shown (s.records ++ rs)
    | _ => []
  complaints ++ records.flatMap (·.lines)

end LogSetup

end LitTiles
