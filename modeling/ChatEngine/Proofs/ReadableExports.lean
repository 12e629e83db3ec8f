import ChatEngine.Proofs.NumberTexts

/-!
# Readable exports

Reading an export back. Values of labels are exported as they are, so an export shows what was
recorded exactly if no value has a backslash, a double quote or a line feed in it
(`Metrics.export_is_readable_iff_plain`).
-/

namespace ChatEngine
open Exposition

namespace Exposition

/-- What samples show under a name: labels and numbers. -/
def shown {β : Type} (name : String) (f : Number → β) (samples : List Sample) :
    List (LabelSet × β) :=
  samples.filterMap fun s => if s.name = name then some (s.labels, f s.number) else none

end Exposition

lemma CounterId.mem_all (c : CounterId) : c ∈ all := by cases c <;> decide

lemma HistogramId.mem_all (h : HistogramId) : h ∈ all := by cases h <;> decide

lemma HistogramId.isName_name (h : HistogramId) : isName inMetricName h.name = true := by
  have hkey : h.key.toList.all inMetricName = true := by cases h <;> decide
  exact isName_append (isName_append (by decide) hkey) (by decide)

/-- What an export shows by labels. -/
inductive SampleId where
  | counter (c : CounterId)
  | latency
  | count (h : HistogramId)
  | sum (h : HistogramId)
  | uptime

namespace SampleId

def name : SampleId → String
  | counter c => c.name
  | latency => metricPrefix ++ "slack_latency_milliseconds"
  | count h => h.name ++ "_count"
  | sum h => h.name ++ "_sum"
  | uptime => metricPrefix ++ "uptime_seconds"

def all : List SampleId :=
  CounterId.all.map counter ++ HistogramId.all.map count ++ HistogramId.all.map sum ++
    [latency, uptime]

lemma mem_all (id : SampleId) : id ∈ all := by
  cases id <;> simp [all, CounterId.mem_all, HistogramId.mem_all]

lemma name_injective : Function.Injective name := fun id other h =>
  List.inj_on_of_nodup_map (l := all) (by decide) (mem_all id) (mem_all other) h

lemma isName_name (id : SampleId) : isName inMetricName id.name = true := by
  cases id with
  | counter c =>
    have hkey : c.key.toList.all inMetricName = true := by cases c <;> decide
    exact isName_append (isName_append (by decide) hkey) (by decide)
  | latency => decide
  | count h => exact isName_append h.isName_name (by decide)
  | sum h => exact isName_append h.isName_name (by decide)
  | uptime => decide

end SampleId

namespace Metrics

/-- Whether samples show what was recorded and nothing else: the values of all counters and of the
latency, the counts and sums of all histograms, and how long the bot has been running. -/
structure ShownBy (m : Metrics) (now : Float) (samples : List Sample) : Prop where
  counters (c : CounterId) : shown (SampleId.counter c).name Number.toFloat samples = m.counter c
  latency : shown SampleId.latency.name Number.toFloat samples = m.latency
  counts (h : HistogramId) : shown (SampleId.count h).name Number.toNat? samples =
    (m.histogram h).map fun e => (e.1, some e.2.length)
  sums (h : HistogramId) : shown (SampleId.sum h).name Number.toFloat samples =
    (m.histogram h).map fun e => (e.1, e.2.foldl (· + ·) 0.0)
  uptime : shown SampleId.uptime.name Number.toFloat samples = [([], m.uptime now)]
  names : ∀ s ∈ samples, ∃ id : SampleId, s.name = id.name

/-- All sets of labels under which something was recorded. -/
def labelSets (m : Metrics) : List LabelSet :=
  CounterId.all.flatMap (fun c => (m.counter c).map (·.1)) ++ m.latency.map (·.1) ++
    HistogramId.all.flatMap fun h => (m.histogram h).map (·.1)

/-! ### Lines -/

/-- A line of an export: a comment, or what is shown for labels. -/
inductive Line where
  | comment (text : String)
  | sample (id : SampleId) (labels : LabelSet) (number : String)

namespace Line

def text : Line → String
  | comment text => text
  | sample id labels number => id.name ++ labelText labels ++ " " ++ number

/-- The sample that a line is meant to be. -/
def sample? : Line → Option Sample
  | comment _ => none
  | sample id labels number =>
    (readNumber? number.toList).map fun number => { name := id.name, labels, number }

/-- What a line is meant to show under a name. -/
def shown? {β : Type} (name : String) (f : Number → β) (l : Line) : Option (LabelSet × β) :=
  l.sample?.bind fun s => if s.name = name then some (s.labels, f s.number) else none

/-- Whether the values of a line are written as they are. -/
def Plain : Line → Prop
  | comment _ => True
  | sample _ labels _ => ∀ label ∈ labels, Exposition.Plain label.2

/-- Whether a line is of the form of the format, apart from the values of its labels. -/
def Formed : Line → Prop
  | comment text => text.toList.head? = some '#' ∧ Text.OneLine text
  | sample _ labels number => Named labels ∧ (readNumber? number.toList).isSome = true

end Line

/-- The lines of a counter or gauge. -/
def valueBlock (id : SampleId) (help type : String) (values : Series Float) : List Line :=
  (headLines id.name help type).map .comment ++
    values.map fun e => .sample id e.1 (Decimal.floatText e.2)

def histogramBlock (i : HistogramId) (h : Histogram Float) : List Line :=
  (headLines i.name i.help "histogram").map .comment ++
    h.flatMap fun e => [.sample (.count i) e.1 (Decimal.intText e.2.length),
      .sample (.sum i) e.1 (Decimal.floatText (e.2.foldl (· + ·) 0.0))]

def lines (m : Metrics) (now : Float) : List Line :=
  CounterId.all.flatMap (fun c => valueBlock (.counter c) c.help "counter" (m.counter c)) ++
    valueBlock .latency "Last reported latency" "gauge" m.latency ++
    HistogramId.all.flatMap (fun i => histogramBlock i (m.histogram i)) ++
    valueBlock .uptime "Bot uptime in seconds" "gauge" [([], m.uptime now)]

lemma map_text_valueBlock (id : SampleId) (help type : String) (values : Series Float) :
    (valueBlock id help type values).map Line.text = valueLines id.name help type values := by
  rw [valueBlock, List.map_append, List.map_map, List.map_map]
  exact congrArg (· ++ _) (List.map_id _)

lemma map_text_histogramBlock (i : HistogramId) (h : Histogram Float) :
    (histogramBlock i h).map Line.text = histogramLines i.name i.help h := by
  have hsummary (values : List Float) : (Histogram.summarize 0.0 values).count = values.length ∧
      (Histogram.summarize 0.0 values).sum = values.foldl (· + ·) 0.0 := by
    cases values <;> exact ⟨rfl, rfl⟩
  rw [histogramBlock, List.map_append, List.map_map, List.map_flatMap, histogramLines]
  refine congrArg₂ (· ++ ·) (List.map_id _) (List.flatMap_congr fun e _ => ?_)
  dsimp only
  rw [(hsummary e.2).1, (hsummary e.2).2]
  rfl

lemma exportLines_eq (m : Metrics) (now : Float) :
    m.exportLines now = (m.lines now).map Line.text := by
  have hname : SampleId.uptime.name ++ labelText [] ++ " " = metricPrefix ++ "uptime_seconds " := by
    decide
  have huptime : valueLines SampleId.uptime.name "Bot uptime in seconds" "gauge"
      [([], m.uptime now)] = headLines SampleId.uptime.name "Bot uptime in seconds" "gauge" ++
        [metricPrefix ++ "uptime_seconds " ++ Decimal.floatText (m.uptime now)] := by
    rw [← hname]
    rfl
  unfold exportLines lines
  simp only [List.map_append, List.map_flatMap, map_text_valueBlock, map_text_histogramBlock,
    huptime, List.append_assoc]
  rfl

/-! ### All lines of an export -/

section Lines

variable {P : Line → Prop}

lemma forall_valueBlock {id : SampleId} {help type : String} {values : Series Float} :
    (∀ l ∈ valueBlock id help type values, P l) ↔
      (∀ text ∈ headLines id.name help type, P (.comment text)) ∧
        ∀ e ∈ values, P (.sample id e.1 (Decimal.floatText e.2)) := by
  rw [valueBlock, List.forall_mem_append, List.forall_mem_map, List.forall_mem_map]

lemma forall_histogramBlock {i : HistogramId} {h : Histogram Float} :
    (∀ l ∈ histogramBlock i h, P l) ↔
      (∀ text ∈ headLines i.name i.help "histogram", P (.comment text)) ∧
        ∀ e ∈ h, P (.sample (.count i) e.1 (Decimal.intText e.2.length)) ∧
          P (.sample (.sum i) e.1 (Decimal.floatText (e.2.foldl (· + ·) 0.0))) := by
  rw [histogramBlock, List.forall_mem_append, List.forall_mem_map]
  simp only [List.forall_mem_flatMap, List.forall_mem_cons, List.not_mem_nil, false_implies,
    implies_true, and_true]

lemma forall_lines {m : Metrics} {now : Float} :
    (∀ l ∈ m.lines now, P l) ↔
      (∀ c : CounterId, ∀ l ∈ valueBlock (.counter c) c.help "counter" (m.counter c), P l) ∧
      (∀ l ∈ valueBlock .latency "Last reported latency" "gauge" m.latency, P l) ∧
      (∀ i : HistogramId, ∀ l ∈ histogramBlock i (m.histogram i), P l) ∧
      ∀ l ∈ valueBlock .uptime "Bot uptime in seconds" "gauge" [([], m.uptime now)], P l := by
  simp only [lines, List.forall_mem_append, List.forall_mem_flatMap, CounterId.mem_all,
    HistogramId.mem_all, true_implies, and_assoc]

end Lines

/-! ### What the lines show -/

section Shown

variable {β : Type} {id other : SampleId} {name : String} {f : Number → β} {labels : LabelSet}

lemma shown_filterMap (name : String) (f : Number → β) (lines : List Line) :
    shown name f (lines.filterMap Line.sample?) = lines.filterMap (Line.shown? name f) :=
  List.filterMap_filterMap

lemma shown?_self {number : String} {n : Number} (h : readNumber? number.toList = some n) :
    (Line.sample id labels number).shown? id.name f = some (labels, f n) := by
  change ((readNumber? number.toList).map _).bind _ = _
  rw [h, Option.map_some, Option.bind_some]
  exact if_pos rfl

lemma shown?_other {number : String} (h : other ≠ id) :
    (Line.sample other labels number).shown? id.name f = none := by
  change ((readNumber? number.toList).map _).bind _ = _
  cases readNumber? number.toList with
  | none => rfl
  | some n => exact if_neg (SampleId.name_injective.ne h)

lemma shown?_float (labels : LabelSet) (x : Float) :
    (Line.sample id labels (Decimal.floatText x)).shown? id.name Number.toFloat =
      some (labels, x) := by
  obtain ⟨n, hread, hn⟩ := readNumber?_floatText x
  rw [shown?_self hread, hn]

lemma shown?_count (labels : LabelSet) (k : Nat) :
    (Line.sample id labels (Decimal.intText k)).shown? id.name Number.toNat? =
      some (labels, some k) := by
  obtain ⟨n, hread, hn⟩ := readNumber?_intText k
  rw [shown?_self hread, hn]

lemma shown_comments (comments : List String) :
    (comments.map Line.comment).filterMap (Line.shown? name f) = [] :=
  List.filterMap_eq_nil_iff.mpr fun _ hl => by
    obtain ⟨text, -, rfl⟩ := List.mem_map.mp hl
    rfl

lemma shown_valueBlock_self (help type : String) (values : Series Float) :
    (valueBlock id help type values).filterMap (Line.shown? id.name Number.toFloat) = values := by
  rw [valueBlock, List.filterMap_append, shown_comments, List.nil_append, List.filterMap_map]
  exact (List.filterMap_congr fun e _ => shown?_float e.1 e.2).trans List.filterMap_some

lemma shown_valueBlock_other (h : other ≠ id) (help type : String) (values : Series Float) :
    (valueBlock other help type values).filterMap (Line.shown? id.name f) = [] := by
  rw [valueBlock, List.filterMap_append, shown_comments, List.nil_append, List.filterMap_map]
  exact List.filterMap_eq_nil_iff.mpr fun e _ => shown?_other h

lemma shown_histogramBlock_count (i : HistogramId) (h : Histogram Float) :
    (histogramBlock i h).filterMap (Line.shown? (SampleId.count i).name Number.toNat?) =
      h.map fun e => (e.1, some e.2.length) := by
  rw [histogramBlock, List.filterMap_append, shown_comments, List.nil_append]
  induction h with
  | nil => rfl
  | cons e h ih =>
    rw [List.flatMap_cons, List.filterMap_append, ih, List.map_cons,
      List.filterMap_cons_some (shown?_count e.1 _),
      List.filterMap_cons_none (shown?_other (by nofun))]
    rfl

lemma shown_histogramBlock_sum (i : HistogramId) (h : Histogram Float) :
    (histogramBlock i h).filterMap (Line.shown? (SampleId.sum i).name Number.toFloat) =
      h.map fun e => (e.1, e.2.foldl (· + ·) 0.0) := by
  rw [histogramBlock, List.filterMap_append, shown_comments, List.nil_append]
  induction h with
  | nil => rfl
  | cons e h ih =>
    rw [List.flatMap_cons, List.filterMap_append, ih, List.map_cons,
      List.filterMap_cons_none (shown?_other (by nofun)),
      List.filterMap_cons_some (shown?_float e.1 _)]
    rfl

lemma shown_histogramBlock_other {i : HistogramId} (hcount : .count i ≠ id) (hsum : .sum i ≠ id)
    (h : Histogram Float) : (histogramBlock i h).filterMap (Line.shown? id.name f) = [] := by
  rw [histogramBlock, List.filterMap_append, shown_comments, List.nil_append]
  refine List.filterMap_eq_nil_iff.mpr fun l hl => ?_
  obtain ⟨e, -, hl⟩ := List.mem_flatMap.mp hl
  rcases List.mem_pair.mp hl with rfl | rfl
  · exact shown?_other hcount
  · exact shown?_other hsum

lemma shown_lines (m : Metrics) (now : Float) :
    shown name f ((m.lines now).filterMap Line.sample?) =
      CounterId.all.flatMap (fun c =>
        (valueBlock (.counter c) c.help "counter" (m.counter c)).filterMap (Line.shown? name f)) ++
      (valueBlock .latency "Last reported latency" "gauge" m.latency).filterMap
        (Line.shown? name f) ++
      HistogramId.all.flatMap (fun i =>
        (histogramBlock i (m.histogram i)).filterMap (Line.shown? name f)) ++
      (valueBlock .uptime "Bot uptime in seconds" "gauge" [([], m.uptime now)]).filterMap
        (Line.shown? name f) := by
  rw [shown_filterMap, lines, List.filterMap_append, List.filterMap_append, List.filterMap_append,
    List.filterMap_flatMap, List.filterMap_flatMap]

lemma shown_counters_self (m : Metrics) (c : CounterId) :
    CounterId.all.flatMap (fun d => (valueBlock (.counter d) d.help "counter"
      (m.counter d)).filterMap (Line.shown? (SampleId.counter c).name Number.toFloat)) =
      m.counter c := by
  have hothers (d : CounterId) (hd : d ≠ c) := @shown_valueBlock_other _ (.counter c) (.counter d)
    Number.toFloat (fun h => hd (SampleId.counter.inj h)) d.help "counter" (m.counter d)
  cases c <;> simp [CounterId.all, hothers, shown_valueBlock_self]

lemma shown_counters_other (m : Metrics) (h : ∀ c, .counter c ≠ id) :
    CounterId.all.flatMap (fun c => (valueBlock (.counter c) c.help "counter"
      (m.counter c)).filterMap (Line.shown? id.name f)) = [] :=
  List.flatMap_eq_nil_iff.mpr fun c _ => shown_valueBlock_other (h c) _ _ _

lemma shown_histograms_self (m : Metrics) (i : HistogramId) {id : HistogramId → SampleId}
    (hcount : ∀ j, j ≠ i → .count j ≠ id i) (hsum : ∀ j, j ≠ i → .sum j ≠ id i) :
    HistogramId.all.flatMap (fun j =>
      (histogramBlock j (m.histogram j)).filterMap (Line.shown? (id i).name f)) =
      (histogramBlock i (m.histogram i)).filterMap (Line.shown? (id i).name f) := by
  have hothers (j : HistogramId) (hj : j ≠ i) := @shown_histogramBlock_other _ (id i) f j
    (hcount j hj) (hsum j hj) (m.histogram j)
  cases i <;> simp [HistogramId.all, hothers]

lemma shown_histograms_other (m : Metrics) (hcount : ∀ i, .count i ≠ id)
    (hsum : ∀ i, .sum i ≠ id) :
    HistogramId.all.flatMap (fun i =>
      (histogramBlock i (m.histogram i)).filterMap (Line.shown? id.name f)) = [] :=
  List.flatMap_eq_nil_iff.mpr fun i _ => shown_histogramBlock_other (hcount i) (hsum i) _

end Shown

/-- The lines are meant to show what was recorded. -/
lemma shownBy_lines (m : Metrics) (now : Float) :
    m.ShownBy now ((m.lines now).filterMap Line.sample?) := by
  constructor
  · intro c
    rw [shown_lines, shown_counters_self, shown_valueBlock_other (by nofun),
      shown_histograms_other m (by nofun) (by nofun), shown_valueBlock_other (by nofun),
      List.append_nil, List.append_nil, List.append_nil]
  · rw [shown_lines, shown_counters_other m (by nofun), shown_valueBlock_self,
      shown_histograms_other m (by nofun) (by nofun), shown_valueBlock_other (by nofun),
      List.nil_append, List.append_nil, List.append_nil]
  · intro i
    rw [shown_lines, shown_counters_other m (by nofun), shown_valueBlock_other (by nofun),
      shown_histograms_self m i (fun j hj h => hj (SampleId.count.inj h)) (by nofun),
      shown_histogramBlock_count, shown_valueBlock_other (by nofun), List.nil_append,
      List.nil_append, List.append_nil]
  · intro i
    rw [shown_lines, shown_counters_other m (by nofun), shown_valueBlock_other (by nofun),
      shown_histograms_self m i (by nofun) (fun j hj h => hj (SampleId.sum.inj h)),
      shown_histogramBlock_sum, shown_valueBlock_other (by nofun), List.nil_append, List.nil_append,
      List.append_nil]
  · rw [shown_lines, shown_counters_other m (by nofun), shown_valueBlock_other (by nofun),
      shown_histograms_other m (by nofun) (by nofun), shown_valueBlock_self, List.nil_append,
      List.nil_append, List.nil_append]
  · intro s hs
    obtain ⟨l, -, hl⟩ := List.mem_filterMap.mp hs
    cases l with
    | comment text => cases hl
    | sample id labels number =>
      obtain ⟨n, -, rfl⟩ := Option.map_eq_some_iff.mp hl
      exact ⟨id, rfl⟩

/-! ### Reading the lines -/

lemma not_mem_labelChars {label : String × String} (hname : isName inLabelName label.1 = true)
    (hplain : Exposition.Plain label.2) : '\n' ∉ labelChars label := by
  have hkey := not_mem_name (by decide) hname
  have hvalue := hplain.2.2
  simp [labelChars, hkey, hvalue]

lemma oneLine_labelText {labels : LabelSet} (hnamed : Named labels)
    (hplain : ∀ l ∈ labels, Exposition.Plain l.2) : Text.OneLine (labelText labels) := by
  have hmore : ∀ labels : LabelSet, Named labels → (∀ l ∈ labels, Exposition.Plain l.2) →
      '\n' ∉ moreLabels labels := by
    intro labels
    induction labels with
    | nil => exact fun _ _ => by decide
    | cons label labels ih =>
      intro hnamed hplain
      obtain ⟨hname, hnames⟩ := List.forall_mem_cons.mp hnamed
      obtain ⟨hvalue, hvalues⟩ := List.forall_mem_cons.mp hplain
      simp [moreLabels, not_mem_labelChars hname hvalue, ih hnames hvalues]
  cases labels with
  | nil => exact by decide
  | cons label labels =>
    obtain ⟨hname, hnames⟩ := List.forall_mem_cons.mp hnamed
    obtain ⟨hvalue, hvalues⟩ := List.forall_mem_cons.mp hplain
    unfold Text.OneLine
    rw [toList_labelText]
    simp [not_mem_labelChars hname hvalue, hmore labels hnames hvalues]

namespace Line

lemma toList_text (id : SampleId) (labels : LabelSet) (number : String) :
    (sample id labels number).text.toList = sampleChars id.name labels number.toList := by
  simp [text, sampleChars]

variable {l : Line}

lemma Formed.oneLine (h : l.Formed) (hplain : l.Plain) : Text.OneLine l.text := by
  cases l with
  | comment text => exact h.2
  | sample id labels number =>
    obtain ⟨hnamed, hnumber⟩ := h
    obtain ⟨n, hn⟩ := Option.isSome_iff_exists.mp hnumber
    have hname : '\n' ∉ id.name.toList := not_mem_name (by decide) id.isName_name
    have hlabels : '\n' ∉ (labelText labels).toList := oneLine_labelText hnamed hplain
    have hline : '\n' ∉ number.toList := fun hmem =>
      absurd (inNumber_of_readNumber? hn _ hmem) (by decide)
    unfold Text.OneLine
    rw [toList_text, sampleChars]
    simp [hname, hlabels, hline]

/-- A plain line is read as the sample that it is meant to be. -/
lemma Formed.readLine? (h : l.Formed) (hplain : l.Plain) :
    Exposition.readLine? l.text = some l.sample? := by
  cases l with
  | comment text => exact readLine?_comment h.1
  | sample id labels number =>
    obtain ⟨hnamed, hnumber⟩ := h
    obtain ⟨n, hn⟩ := Option.isSome_iff_exists.mp hnumber
    rw [readLine?_name id.isName_name (toList_text id labels number), toList_text,
      readSample?_written id.isName_name hnamed hplain hn, sample?, hn]
    rfl

/-- The first line of a line that is not plain is not read as the sample it is meant to be. -/
lemma Formed.not_read {id : SampleId} {labels : LabelSet} {number : String}
    (h : (sample id labels number).Formed) (hplain : ¬ (sample id labels number).Plain)
    {read : Option Sample}
    (hread : Exposition.readLine?
      (String.ofList (firstLine (sample id labels number).text.toList)) = some read) :
    ∃ s, read = some s ∧ s.name = id.name ∧ s.labels ≠ labels := by
  cases labels with
  | nil => exact absurd (fun l hl => absurd hl List.not_mem_nil) hplain
  | cons label labels =>
    rw [toList_text] at hread
    have hfirst :
        (String.ofList (firstLine (sampleChars id.name (label :: labels) number.toList))).toList =
        id.name.toList ++
          firstLine ((labelText (label :: labels)).toList ++ ' ' :: number.toList) := by
      rw [String.toList_ofList, sampleChars,
        firstLine_append (not_mem_name (by decide) id.isName_name)]
    rw [readLine?_name id.isName_name hfirst, String.toList_ofList] at hread
    obtain ⟨s, hs, rfl⟩ := Option.map_eq_some_iff.mp hread
    obtain ⟨hsame, hlabels⟩ := plain_of_readSample? id.isName_name h.1 hs
    exact ⟨s, rfl, hsame, fun heq => hplain (hlabels heq)⟩

end Line

/-! ### The form of all lines -/

lemma forall_labelSets {m : Metrics} {P : LabelSet → Prop} :
    (∀ labels ∈ m.labelSets, P labels) ↔
      (∀ c : CounterId, ∀ e ∈ m.counter c, P e.1) ∧ (∀ e ∈ m.latency, P e.1) ∧
        ∀ h : HistogramId, ∀ e ∈ m.histogram h, P e.1 := by
  simp only [labelSets, List.forall_mem_append, List.forall_mem_flatMap, List.forall_mem_map,
    CounterId.mem_all, HistogramId.mem_all, true_implies, and_assoc]

lemma formed_headLines {name help type : String} (hname : isName inMetricName name = true)
    (hhelp : Text.OneLine help) (htype : Text.OneLine type) :
    ∀ text ∈ headLines name help type, (Line.comment text).Formed := by
  have hone : Text.OneLine name := not_mem_name (by decide) hname
  intro text htext
  rcases List.mem_pair.mp htext with rfl | rfl
  · refine ⟨by simp, ?_⟩
    exact (((by decide : Text.OneLine "# HELP ").append hone).append (by decide)).append hhelp
  · refine ⟨by simp, ?_⟩
    exact (((by decide : Text.OneLine "# TYPE ").append hone).append (by decide)).append htype

lemma formed_float (id : SampleId) {labels : LabelSet} (hnamed : Named labels) (x : Float) :
    (Line.sample id labels (Decimal.floatText x)).Formed := by
  obtain ⟨n, hread, -⟩ := readNumber?_floatText x
  exact ⟨hnamed, Option.isSome_of_eq_some hread⟩

lemma formed_count (id : SampleId) {labels : LabelSet} (hnamed : Named labels) (k : Nat) :
    (Line.sample id labels (Decimal.intText k)).Formed := by
  obtain ⟨n, hread, -⟩ := readNumber?_intText k
  exact ⟨hnamed, Option.isSome_of_eq_some hread⟩

/-- The lines of an export are of the form of the format if all labels have names. -/
lemma formed_lines {m : Metrics} (named : ∀ labels ∈ m.labelSets, Named labels) (now : Float) :
    ∀ l ∈ m.lines now, l.Formed := by
  obtain ⟨hcounters, hlatency, hhistograms⟩ := forall_labelSets.mp named
  have hhead (id : SampleId) {help type : String} (hhelp : Text.OneLine help)
      (htype : Text.OneLine type) := formed_headLines id.isName_name hhelp htype
  refine forall_lines.mpr ⟨fun c => ?_, ?_, fun i => ?_, ?_⟩
  · have hhelp : Text.OneLine c.help := by cases c <;> decide
    exact forall_valueBlock.mpr ⟨hhead _ hhelp (by decide),
      fun e he => formed_float _ (hcounters c e he) e.2⟩
  · exact forall_valueBlock.mpr ⟨hhead _ (by decide) (by decide),
      fun e he => formed_float _ (hlatency e he) e.2⟩
  · have hhelp : Text.OneLine i.help := by cases i <;> decide
    exact forall_histogramBlock.mpr ⟨formed_headLines i.isName_name hhelp (by decide),
      fun e he => ⟨formed_count _ (hhistograms i e he) _, formed_float _ (hhistograms i e he) _⟩⟩
  · refine forall_valueBlock.mpr ⟨hhead _ (by decide) (by decide), fun e he => ?_⟩
    obtain rfl := List.mem_singleton.mp he
    exact formed_float _ (fun l hl => absurd hl List.not_mem_nil) _

lemma plain_lines_iff {m : Metrics} {now : Float} :
    (∀ l ∈ m.lines now, l.Plain) ↔
      ∀ labels ∈ m.labelSets, ∀ label ∈ labels, Exposition.Plain label.2 := by
  rw [forall_lines, forall_labelSets]
  simp only [forall_valueBlock, forall_histogramBlock, Line.Plain, implies_true, true_and,
    and_self, List.forall_mem_singleton, List.not_mem_nil, false_implies, and_true]

/-! ### Reading all lines -/

/-- Lines that are plain are read as the samples that they are meant to be. -/
lemma readLines?_text {lines : List Line} (formed : ∀ l ∈ lines, l.Formed)
    (plain : ∀ l ∈ lines, l.Plain) :
    readLines? (lines.map Line.text) = some (lines.filterMap Line.sample?) := by
  induction lines with
  | nil => rfl
  | cons l lines ih =>
    obtain ⟨hformed, hforms⟩ := List.forall_mem_cons.mp formed
    obtain ⟨hplain, hplains⟩ := List.forall_mem_cons.mp plain
    rw [List.map_cons, readLines?_cons, hformed.readLine? hplain, ih hforms hplains,
      List.filterMap_cons]
    cases l.sample? <;> rfl

def labelsOf (name : String) (samples : List Sample) : List LabelSet :=
  samples.filterMap fun s => if s.name = name then some s.labels else none

lemma map_fst_shown {β : Type} (name : String) (f : Number → β) (samples : List Sample) :
    (shown name f samples).map Prod.fst = labelsOf name samples := by
  rw [shown, List.map_filterMap, labelsOf]
  congr 1
  funext s
  split <;> rfl

/-- Whoever shows what was recorded shows the same labels under every name. -/
lemma ShownBy.labelsOf_eq {m : Metrics} {now : Float} {samples samples' : List Sample}
    (h : m.ShownBy now samples) (h' : m.ShownBy now samples') (id : SampleId) :
    labelsOf id.name samples = labelsOf id.name samples' := by
  have hlabels {β : Type} {f : Number → β}
      (hsame : shown id.name f samples = shown id.name f samples') :
      labelsOf id.name samples = labelsOf id.name samples' := by
    rw [← map_fst_shown id.name f, hsame, map_fst_shown]
  cases id with
  | counter c => exact hlabels ((h.counters c).trans (h'.counters c).symm)
  | latency => exact hlabels (h.latency.trans h'.latency.symm)
  | count i => exact hlabels ((h.counts i).trans (h'.counts i).symm)
  | sum i => exact hlabels ((h.sums i).trans (h'.sums i).symm)
  | uptime => exact hlabels (h.uptime.trans h'.uptime.symm)

lemma labelsOf_append (name : String) (samples samples' : List Sample) :
    labelsOf name (samples ++ samples') = labelsOf name samples ++ labelsOf name samples' :=
  List.filterMap_append

/-- Lines that are read with the labels they are meant to have are plain: at the first one that is
not, other labels would be read. -/
lemma plain_of_readLines? {lines : List Line} (formed : ∀ l ∈ lines, l.Formed)
    {samples : List Sample}
    (hread : readLines? (lines.flatMap fun l => Text.split '\n' l.text) = some samples)
    (same : ∀ id : SampleId,
      labelsOf id.name samples = labelsOf id.name (lines.filterMap Line.sample?)) :
    ∀ l ∈ lines, l.Plain := by
  induction lines generalizing samples with
  | nil => exact fun l hl => absurd hl List.not_mem_nil
  | cons l lines ih =>
    obtain ⟨hformed, hforms⟩ := List.forall_mem_cons.mp formed
    have hmeant : (l :: lines).filterMap Line.sample? =
        l.sample?.toList ++ lines.filterMap Line.sample? := by
      rw [List.filterMap_cons]
      cases l.sample? <;> rfl
    rw [List.flatMap_cons] at hread
    rw [hmeant] at same
    have hplain : l.Plain := by
      by_contra hplain
      cases l with
      | comment text => exact hplain trivial
      | sample id labels number =>
        obtain ⟨more, hmore⟩ := split_firstLine (Line.sample id labels number).text
        rw [hmore, List.cons_append, readLines?_cons] at hread
        obtain ⟨read, hfirst, hrest⟩ := Option.bind_eq_some_iff.mp hread
        obtain ⟨rest, -, rfl⟩ := Option.map_eq_some_iff.mp hrest
        obtain ⟨s, rfl, hname, hlabels⟩ := hformed.not_read hplain hfirst
        obtain ⟨n, hn⟩ := Option.isSome_iff_exists.mp hformed.2
        have hsample : (Line.sample id labels number).sample? =
            some { name := id.name, labels, number := n } := by
          rw [Line.sample?, hn]
          rfl
        have hboth : s.labels :: labelsOf id.name rest =
            labels :: labelsOf id.name (lines.filterMap Line.sample?) := by
          have hid := same id
          rw [hsample] at hid
          simpa only [Option.toList_some, List.singleton_append, labelsOf, List.filterMap_cons,
            hname, if_true] using hid
        exact hlabels (List.cons.inj hboth).1
    refine List.forall_mem_cons.mpr ⟨hplain, ?_⟩
    -- the other lines are read alone, and the line gives the same sample on both sides
    rw [(hformed.oneLine hplain).split_eq, List.singleton_append, readLines?_cons,
      hformed.readLine? hplain, Option.bind_some] at hread
    obtain ⟨rest, hrest, rfl⟩ := Option.map_eq_some_iff.mp hread
    refine ih hforms hrest fun id => ?_
    have hid := same id
    rw [labelsOf_append, labelsOf_append] at hid
    exact List.append_cancel_left hid

/-! ### Reading an export -/

lemma split_exportText (m : Metrics) (now : Float) :
    Text.split '\n' (m.exportText now) = (m.lines now).flatMap fun l => Text.split '\n' l.text := by
  have hne : m.exportLines now ≠ [] := by
    unfold exportLines
    exact List.append_ne_nil_of_right_ne_nil _ (List.cons_ne_nil _ _)
  rw [exportText, Text.split_join hne, exportLines_eq, List.flatMap_map]

lemma readable_of_plain {m : Metrics} (named : ∀ labels ∈ m.labelSets, Named labels) (now : Float)
    (plain : ∀ labels ∈ m.labelSets, ∀ label ∈ labels, Exposition.Plain label.2) :
    ∃ samples, readSamples? (m.exportText now) = some samples ∧ m.ShownBy now samples := by
  have hformed := formed_lines named now
  have hplain : ∀ l ∈ m.lines now, l.Plain := plain_lines_iff.mpr plain
  have hone : ∀ text ∈ (m.lines now).map Line.text, Text.OneLine text :=
    List.forall_mem_map.mpr fun l hl => (hformed l hl).oneLine (hplain l hl)
  refine ⟨_, ?_, shownBy_lines m now⟩
  have hlines := Text.flatMap_split hone
  rw [List.flatMap_map] at hlines
  rw [readSamples?, split_exportText, hlines]
  exact readLines?_text hformed hplain

lemma plain_of_readable {m : Metrics} (named : ∀ labels ∈ m.labelSets, Named labels) {now : Float}
    {samples : List Sample} (hread : readSamples? (m.exportText now) = some samples)
    (hshown : m.ShownBy now samples) :
    ∀ labels ∈ m.labelSets, ∀ label ∈ labels, Exposition.Plain label.2 := by
  rw [readSamples?, split_exportText] at hread
  exact plain_lines_iff.mp
    (plain_of_readLines? (formed_lines named now) hread (hshown.labelsOf_eq (shownBy_lines m now)))

/-- An export shows exactly what was recorded if and only if no value of a label has a backslash,
a double quote or a line feed in it: values are exported as they are. -/
theorem export_is_readable_iff_plain (m : Metrics) (now : Float)
    (named : ∀ labels ∈ m.labelSets, Named labels) :
    (∃ samples, readSamples? (m.exportText now) = some samples ∧ m.ShownBy now samples) ↔
      ∀ labels ∈ m.labelSets, ∀ label ∈ labels, Exposition.Plain label.2 :=
  ⟨fun ⟨_, hread, hshown⟩ => plain_of_readable named hread hshown,
    readable_of_plain named now⟩

/-- The metrics after one answer of a plugin. -/
def answered (plugin : String) : Metrics :=
  ({} : Metrics).count .pluginAnswers [("plugin", plugin)]

lemma labelSets_answered (plugin : String) :
    (answered plugin).labelSets = [[("plugin", plugin)]] := by
  have hlabels : LabelSet.ofList [("plugin", plugin)] = [("plugin", plugin)] :=
    List.mergeSort_singleton _
  unfold answered count
  rw [hlabels]
  rfl

theorem answer_of_spaced_name_is_readable :
    (∀ labels ∈ (answered "a, \x7bb\x7d = #c").labelSets, Named labels) ∧
      ∃ samples, readSamples? ((answered "a, \x7bb\x7d = #c").exportText 1.0) = some samples ∧
        (answered "a, \x7bb\x7d = #c").ShownBy 1.0 samples := by
  have hnamed : ∀ labels ∈ (answered "a, \x7bb\x7d = #c").labelSets, Named labels := by
    rw [labelSets_answered]
    decide
  refine ⟨hnamed, (export_is_readable_iff_plain _ 1.0 hnamed).mpr ?_⟩
  rw [labelSets_answered]
  decide

theorem answer_of_quoted_name_is_not_readable :
    ¬ ∃ samples, readSamples? ((answered "say \"hi\"").exportText 1.0) = some samples ∧
      (answered "say \"hi\"").ShownBy 1.0 samples := by
  have hnamed : ∀ labels ∈ (answered "say \"hi\"").labelSets, Named labels := by
    rw [labelSets_answered]
    decide
  rintro ⟨samples, hread, hshown⟩
  have hplain := plain_of_readable hnamed hread hshown
  rw [labelSets_answered] at hplain
  exact absurd hplain (by decide)

end Metrics

end ChatEngine
