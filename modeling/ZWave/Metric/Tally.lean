import ZWave.Metric.Definition
import ZWave.Node.Basic

/-!
# Recorded metrics

Metrics are derived from events: `NodeEvent.samples` says what an event of a node records, and a
`Tally` holds the value of every series that was recorded. A series is a metric under certain
labels.
-/

namespace ZWave

/-- A metric under certain labels. -/
structure Series where
  metric : Metric
  labels : Labels
deriving DecidableEq

/-- One recording. -/
inductive Sample where
  | increment (series : Series)
  | level (series : Series) (value : Nat)
deriving DecidableEq

namespace Sample

def series : Sample → Series
  | increment series => series
  | level series _ => series

/-- The value of the series after the recording. -/
def update : Sample → Nat → Nat
  | increment _, value => value + 1
  | level _ value, _ => value

end Sample

/-! ## What is recorded -/

/-- The label value of a kind of frame. -/
def InboundKind.label : InboundKind → String
  | command => "application_command"
  | update => "application_update"

def DropReason.label : DropReason → String
  | unknownClass => "unknown_command_class"
  | malformed => "malformed"

/-- What an event records on a node of a profile. -/
def NodeEvent.samples (node : NodeId) (profile : Profile) (event : NodeEvent) : List Sample :=
  let series (metric : Metric) (extra : Labels) : Series :=
    ⟨metric, .ofNode (toString node) profile.name extra⟩
  match event with
  | .queued _ .wakeup _ => [.increment (series .framesDeferred [])]
  | .queued _ .write _ => []
  | .sent _ backlog =>
    [.increment (series .framesSent []), .level (series .writeQueueDepth []) backlog]
  | .received kind => [.increment (series .framesReceived [("kind", kind.label)])]
  | .dropped reason => [.increment (series .framesDropped [("reason", reason.label)])]
  | .entered state => [.increment (series .stateTransitions [("state", state.label)])]
  | .retried => [.increment (series .nodeInfoRetries [])]
  | .started => [.increment (series .nodesStarted [])]

/-! ## Values -/

/-- The value of every series that was recorded, in the order of their first recording. -/
structure Tally where
  entries : List (Series × Nat) := []

namespace Tally

/-- `entries` after one recording. -/
def recordIn (sample : Sample) : List (Series × Nat) → List (Series × Nat)
  | [] => [(sample.series, sample.update 0)]
  | (series, value) :: rest =>
    if series = sample.series then (series, sample.update value) :: rest
    else (series, value) :: recordIn sample rest

def record (t : Tally) (sample : Sample) : Tally := ⟨recordIn sample t.entries⟩

def recordAll (t : Tally) (samples : List Sample) : Tally := samples.foldl record t

/-- The value of a series; zero if it was never recorded. -/
def value (t : Tally) (series : Series) : Nat := (t.entries.lookup series).getD 0

end Tally

end ZWave
