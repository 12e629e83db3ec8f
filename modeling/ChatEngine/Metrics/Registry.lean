import ChatEngine.Text.Trim
import ChatEngine.Metrics.Series

/-!
# The metrics of a bot

All metrics that one bot records: messages seen and processed, answers, failures, calls of the
chat driver and of plugin services, cache look-ups and latency. They can be exported as lines of
text, one sample per line.
-/
namespace ChatEngine

/-- The counters of a bot. -/
inductive CounterId where
  | messagesSeen
  | messagesProcessed
  | pluginAnswers
  | outboundErrors
  | serviceCalls
  | serviceErrors
  | cacheLookups
  deriving DecidableEq, Repr

/-- The histograms of a bot. -/
inductive HistogramId where
  | processing
  | dispatch
  | pluginProcessing
  | service
  deriving DecidableEq, Repr

def metricPrefix : String := "slackscot_"

namespace CounterId

def all : List CounterId :=
  [.messagesSeen, .messagesProcessed, .pluginAnswers, .outboundErrors, .serviceCalls,
   .serviceErrors, .cacheLookups]

def key : CounterId → String
  | .messagesSeen => "messages_seen"
  | .messagesProcessed => "messages_processed"
  | .pluginAnswers => "plugin_answers"
  | .outboundErrors => "outbound_errors"
  | .serviceCalls => "service_calls"
  | .serviceErrors => "service_errors"
  | .cacheLookups => "cache_lookups"

def name (c : CounterId) : String := metricPrefix ++ c.key ++ "_total"

def help : CounterId → String
  | .messagesSeen => "Total message events received"
  | .messagesProcessed => "Total message events processed, by type"
  | .pluginAnswers => "Total answers produced, by plugin"
  | .outboundErrors => "Total failed outbound operations, by operation"
  | .serviceCalls => "Total calls to the chat driver and plugin services, by service and method"
  | .serviceErrors => "Total failed service calls, by service and method"
  | .cacheLookups => "Cache lookups, by cache and result (hit or miss)"

end CounterId

namespace HistogramId

def all : List HistogramId := [.processing, .dispatch, .pluginProcessing, .service]

def key : HistogramId → String
  | .processing => "processing_duration"
  | .dispatch => "dispatch_duration"
  | .pluginProcessing => "plugin_processing_duration"
  | .service => "service_duration"

def name (h : HistogramId) : String := metricPrefix ++ h.key ++ "_seconds"

def help : HistogramId → String
  | .processing => "Message processing duration in seconds, by type"
  | .dispatch => "Time spent routing a message to its partition queue"
  | .pluginProcessing => "Time spent in plugin actions, by plugin"
  | .service => "Service call duration in seconds, by service and method"

end HistogramId

/-- The metrics of one bot. -/
structure Metrics where
  messagesSeen : Counter := []
  messagesProcessed : Counter := []
  pluginAnswers : Counter := []
  outboundErrors : Counter := []
  serviceCalls : Counter := []
  serviceErrors : Counter := []
  cacheLookups : Counter := []
  latency : Gauge := []
  processing : Histogram Float := []
  dispatch : Histogram Float := []
  pluginProcessing : Histogram Float := []
  service : Histogram Float := []
  startedAt : Float := 0.0

namespace Metrics

def counter (m : Metrics) : CounterId → Counter
  | .messagesSeen => m.messagesSeen
  | .messagesProcessed => m.messagesProcessed
  | .pluginAnswers => m.pluginAnswers
  | .outboundErrors => m.outboundErrors
  | .serviceCalls => m.serviceCalls
  | .serviceErrors => m.serviceErrors
  | .cacheLookups => m.cacheLookups

def setCounter (m : Metrics) (id : CounterId) (c : Counter) : Metrics :=
  match id with
  | .messagesSeen => { m with messagesSeen := c }
  | .messagesProcessed => { m with messagesProcessed := c }
  | .pluginAnswers => { m with pluginAnswers := c }
  | .outboundErrors => { m with outboundErrors := c }
  | .serviceCalls => { m with serviceCalls := c }
  | .serviceErrors => { m with serviceErrors := c }
  | .cacheLookups => { m with cacheLookups := c }

def histogram (m : Metrics) : HistogramId → Histogram Float
  | .processing => m.processing
  | .dispatch => m.dispatch
  | .pluginProcessing => m.pluginProcessing
  | .service => m.service

def setHistogram (m : Metrics) (id : HistogramId) (h : Histogram Float) : Metrics :=
  match id with
  | .processing => { m with processing := h }
  | .dispatch => { m with dispatch := h }
  | .pluginProcessing => { m with pluginProcessing := h }
  | .service => { m with service := h }

def count (m : Metrics) (id : CounterId) (labels : List (String × String)) : Metrics :=
  m.setCounter id ((m.counter id).add (LabelSet.ofList labels) 1.0)

def observe (m : Metrics) (id : HistogramId) (labels : List (String × String)) (seconds : Float) :
    Metrics :=
  m.setHistogram id ((m.histogram id).observe (LabelSet.ofList labels) seconds)

/-- Labels in braces, empty for no labels. -/
def labelText (labels : LabelSet) : String :=
  if labels.isEmpty then ""
  else "\x7b" ++ Text.join "," (labels.map fun (k, v) => k ++ "=\"" ++ v ++ "\"") ++ "\x7d"

def headLines (name help type : String) : List String :=
  ["# HELP " ++ name ++ " " ++ help, "# TYPE " ++ name ++ " " ++ type]

def valueLines (name help type : String) (values : Series Float) : List String :=
  headLines name help type
    ++ values.map fun (labels, v) => name ++ labelText labels ++ " " ++ Decimal.floatText v

/-- The lines of a histogram: count and sum of each label set. -/
def histogramLines (name help : String) (h : Histogram Float) : List String :=
  headLines name help "histogram"
    ++ h.flatMap fun (labels, values) =>
      let summary := Histogram.summarize 0.0 values
      [name ++ "_count" ++ labelText labels ++ " " ++ Decimal.intText summary.count,
       name ++ "_sum" ++ labelText labels ++ " " ++ Decimal.floatText summary.sum]

def uptime (m : Metrics) (now : Float) : Float := now - m.startedAt

def exportLines (m : Metrics) (now : Float) : List String :=
  CounterId.all.flatMap (fun c => valueLines c.name c.help "counter" (m.counter c))
    ++ valueLines (metricPrefix ++ "slack_latency_milliseconds") "Last reported latency" "gauge"
      m.latency
    ++ HistogramId.all.flatMap (fun h => histogramLines h.name h.help (m.histogram h))
    ++ headLines (metricPrefix ++ "uptime_seconds") "Bot uptime in seconds" "gauge"
    ++ [metricPrefix ++ "uptime_seconds " ++ Decimal.floatText (m.uptime now)]

def exportText (m : Metrics) (now : Float) : String := Text.join "\n" (m.exportLines now)

/-- The figures of the summary. -/
structure Overview where
  uptime : Float
  seen : Float
  processed : List (String × Float)
  outboundErrors : List (String × Float)
  serviceCalls : List (String × Float)
  serviceErrors : List (String × Float)
  cache : List (String × Float)
  latency : Float
  dispatch : Summary Float

def byService (c : Counter) : Except Fault (List (String × Float)) := do
  let entries ← c.mapM fun (labels, value) => do
    let some service := labels.get? "service" | throw (.missingKey "service")
    let some method := labels.get? "method" | throw (.missingKey "method")
    return (service ++ "." ++ method, value)
  return Entries.ofList entries

def overview (m : Metrics) (now : Float) : Except Fault Overview := do
  let serviceCalls ← byService m.serviceCalls
  let serviceErrors ← byService m.serviceErrors
  return {
    uptime := m.uptime now
    seen := m.messagesSeen.get []
    processed := ["new", "edit", "delete"].map fun kind =>
      (kind, m.messagesProcessed.get [("type", kind)])
    outboundErrors := Entries.ofList <| m.outboundErrors.map fun (labels, value) =>
      ((labels.get? "operation").getD "", value)
    serviceCalls, serviceErrors
    cache := ["hit", "miss"].map fun result =>
      (result, m.cacheLookups.get [("cache", "user_info"), ("result", result)])
    latency := m.latency.get []
    dispatch := Histogram.summarize 0.0 (m.dispatch.observations []) }

end Metrics

end ChatEngine
