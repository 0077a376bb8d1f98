import ZWave.CommandLine.Options
import ZWave.Controller.Build
import ZWave.Model.Reader
import ZWave.Summary.Json
import ZWave.Summary.Text

/-!
# The simulator

The program brings up the network of a model file and prints a summary of its nodes. It ends with 0,
with 1 if the model cannot be simulated, and with 2 if its arguments are not accepted.
-/

namespace ZWave.CommandLine

/-- How the program ends: its exit code and what it prints. -/
structure Outcome where
  code : Nat := 0
  stdout : String := ""
  stderr : String := ""
deriving DecidableEq

def versionLine : String := "zwave-sim 0.1.0\n"

def usageLine : String := "Usage: zwave-sim [OPTIONS] --model <MODEL>\n"

def helpText : String :=
  "Simulate Z-Wave node bring-up\n\n" ++ usageLine ++ "\nOptions:\n" ++
  "  -m, --model <MODEL>          Network model (YAML)\n" ++
  "  -c, --cycles <CYCLES>        Maximum number of driver cycles [default: 500]\n" ++
  "      --keep-running           Keep running for all cycles even once every node is started\n" ++
  "      --json                   Print the summary as JSON\n" ++
  "      --log-level <LOG_LEVEL>  Log filter [default: info]\n" ++
  "  -h, --help                   Print help\n" ++
  "  -V, --version                Print version\n"

/-- The end of a run whose arguments are not those of a simulation. -/
def Stop.outcome : Stop → Outcome
  | help => { stdout := helpText }
  | version => { stdout := versionLine }
  | usage error => { code := 2, stderr := s!"error: {error.message}\n\n{usageLine}" }

def failure (message : String) : Outcome := { code := 1, stderr := s!"Error: {message}\n" }

/-- The reason for which a file that is not there cannot be read. -/
def missingFile : String := "No such file or directory (os error 2)"

/-- The controller of a simulation at its end. -/
def simulated (o : Options) (c : Controller SimulatedNetwork) : Controller SimulatedNetwork :=
  if o.keepRunning then c.advance o.cycles else c.settle o.cycles

/-- Simulate the network of a model file, of which `contents` is the text or else the reason why it
cannot be read. -/
def simulate (o : Options) (contents : Except String String) : Outcome :=
  match contents with
  | .error reason => failure s!"Model error: {(ModelError.io reason).message}"
  | .ok text =>
    match NetworkModel.load text with
    | .error error => failure s!"Model error: {error.message}"
    | .ok model =>
      match Controller.ofModel model with
      | .error error => failure error.message
      | .ok controller =>
        let summary := (simulated o controller).summary
        { stdout := if o.json then summary.json.pretty ++ "\n" else summary.text }

end ZWave.CommandLine
