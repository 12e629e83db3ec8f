import ChatEngine.Simulation.Report
import ChatEngine.Value.Field

/-!
# Sessions with metrics

Sessions with single metrics and with the registry of all metrics.
-/
namespace ChatEngine.Simulation.Session

open ChatEngine.Value

def labels (v : Value) : LabelSet := LabelSet.ofList (v.textEntriesAt "labels")

def amount (v : Value) : Float := ((v.field? "value").map asFloat).getD 1.0

def seriesReport (type help : String) (s : Series Float) : Value :=
  .list (s.map fun (l, x) => .map [("name", .str "m"), ("type", .str type),
    ("value", Report.float x), ("labels", Report.texts l), ("help", .str help)])

/-- A metric of any type: the values of a counter or gauge, the observations of a histogram, and
the clock that times it. -/
structure Meter where
  series : Series Float := []
  histogram : Histogram Float := []
  clock : Float := 0.0

def useMeter (kind help : String) (bounds : List Float) (m : Meter) (x : Value) : Value × Meter :=
  let l := labels x
  let value := amount x
  match x.textAt "do" with
  | "inc" =>
    if kind == "counter" then match Counter.increase m.series l value with
      | .ok series => (.null, { m with series })
      | .error f => (Report.fault f, m)
    else (.null, { m with series := Gauge.increase m.series l value })
  | "dec" => (.null, { m with series := Gauge.decrease m.series l value })
  | "set" => (.null, { m with series := Gauge.set m.series l value })
  | "get" => (Report.float (Gauge.get m.series l), m)
  | "get_all" => (seriesReport kind help m.series, m)
  | "observe" => (.null, { m with histogram := m.histogram.observe l value })
  | "stats" => (Report.summary (Histogram.summarize 0.0 (m.histogram.observations l)), m)
  | "buckets" =>
    (.list ((m.histogram.buckets bounds l).map fun (b, n) =>
      .list [Report.float b, Report.number n]), m)
  | "sets" => (.list (m.histogram.labelSets.map Report.texts), m)
  | _ =>
    let later := m.clock + value
    (Report.outcome (match x.textAt? "raise" with
      | some message => .error (.runtime message)
      | none => .ok ()),
     { m with histogram := m.histogram.observe l (later - m.clock), clock := later })

def metric (v : Value) : Value :=
  let bounds := Histogram.boundsOf ((v.itemsAt "buckets").map asFloat)
  let step (acc : Meter × List Value) (x : Value) : Meter × List Value :=
    let (result, m) := useMeter (v.textAt "metric") (v.textAt "help") bounds acc.1 x
    (m, result :: acc.2)
  .list ((v.itemsAt "steps").foldl step ({}, [])).2.reverse

def useMetric (m : Metrics) (name action : String) (l : LabelSet) (value : Float) :
    Except Fault Metrics :=
  match CounterId.all.find? (·.key == name), HistogramId.all.find? (·.key == name) with
  | some c, _ => ((m.counter c).increase l value).map (m.setCounter c)
  | _, some h => .ok (m.setHistogram h ((m.histogram h).observe l value))
  | none, none => .ok <| match action with
    | "set" => { m with latency := Gauge.set m.latency l value }
    | "dec" => { m with latency := Gauge.decrease m.latency l value }
    | _ => { m with latency := Gauge.increase m.latency l value }

def metricsRegistry (v : Value) : Value :=
  let step (acc : Metrics × Float × List Value) (x : Value) :
      Except Fault (Metrics × Float × List Value) := do
    let (m, clock, out) := acc
    if x.has "metric" then
      let m ← useMetric m (x.textAt "metric") (x.textAt "do") (labels x) (amount x)
      return (m, clock, out)
    if x.has "advance" then return (m, clock + (x.at_ "advance").asFloat, out)
    if x.has "export" then return (m, clock, Report.exported m clock :: out)
    return (m, clock, Report.overview (← m.overview clock) :: out)
  Report.result (((v.itemsAt "steps").foldlM step ({}, 0.0, [])).map fun (_, _, out) =>
    .list out.reverse)

end ChatEngine.Simulation.Session
