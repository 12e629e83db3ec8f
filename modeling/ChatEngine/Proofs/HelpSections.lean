import ChatEngine.Plugin.Registry
import ChatEngine.Proofs.TextLines

/-!
# Sections of the help

The help lists every visible action once. As long as no text in it spreads over lines, its lines are
the introduction and, for commands, hear actions and scheduled actions in this order, a section with
a bullet for each action that is not hidden (`Help.sections`). A kind without such an action has no
section. As bullets are never blank, they are read back from the text (`Help.readBullets`).
-/

namespace ChatEngine

variable {σ : Type}

/-- A plugin whose texts stay on one line each. -/
structure Plugin.OneLine (p : Plugin σ) : Prop where
  name : Text.OneLine p.name
  commands : ∀ c ∈ p.commands, Text.OneLine c.usage ∧ Text.OneLine c.description
  hearActions : ∀ a ∈ p.hearActions, Text.OneLine a.usage ∧ Text.OneLine a.description
  scheduledActions : ∀ s ∈ p.scheduledActions,
    Text.OneLine s.wording ∧ Text.OneLine s.description

/-- Whether the help shows where the times of schedules are: a scheduled action is visible. -/
def Help.ShowsLocation (plugins : List (Plugin σ)) : Prop :=
  ∃ p ∈ plugins, ∃ s ∈ p.scheduledActions, s.hidden = false

namespace Help
open Text

/-! ### Sections -/

/-- A section of the help. -/
structure Section where
  title : String
  bullets : List String

/-- The lines of a section after a blank one. A section without bullets is left out. -/
def Section.lines (s : Section) : List String :=
  if s.bullets = [] then [] else "" :: s.title :: s.bullets

/-- The bullet of a command, with its usage as shown. -/
def commandBullet (r : RegisteredAction σ) : String :=
  bullet (r.plugin.shownUsage r.action.usage) r.action.description

/-- The bullet of a hear action. -/
def hearBullet (r : RegisteredAction σ) : String := bullet r.action.usage r.action.description

/-- The bullet of a scheduled action, under the name of its plugin. -/
def scheduledBullet (location : String) (r : RegisteredSchedule σ) : String :=
  "\t• [`" ++ r.plugin.name ++ "`] `" ++ r.action.wording ++ "` (`" ++ location ++ "`) - "
    ++ r.action.description

/-- The titles of the sections. -/
def titles : List String :=
  ["I currently support the following commands:", "And listen for the following:",
    "And do those things periodically:"]

/-- What the help has to list: the visible actions of each kind, in registration order and then by
their places. -/
def sections (location : String) (plugins : List (Plugin σ)) : List Section :=
  [⟨"I currently support the following commands:",
    ((plugins.flatMap Plugin.registeredCommands).filter (!·.action.hidden)).map commandBullet⟩,
   ⟨"And listen for the following:",
    ((plugins.flatMap Plugin.registeredHearActions).filter (!·.action.hidden)).map hearBullet⟩,
   ⟨"And do those things periodically:",
    ((plugins.flatMap Plugin.registeredSchedules).filter (!·.action.hidden)).map
      (scheduledBullet location)⟩]

/-- Registering actions leaves the visible ones and their order as they are. -/
lemma map_visible {α β : Type} (actions : List α) {hidden : α → Bool} {line : α → String}
    {register : α × Nat → β} {isHidden : β → Bool} {bullet : β → String}
    (hhidden : ∀ e, isHidden (register e) = hidden e.1)
    (hbullet : ∀ e, bullet (register e) = line e.1) :
    (actions.filter (!hidden ·)).map line =
      ((actions.zipIdx.map register).filter (!isHidden ·)).map bullet := by
  have hline : bullet ∘ register = line ∘ Prod.fst := funext hbullet
  have hvisible : (fun b => !isHidden b) ∘ register = (fun a => !hidden a) ∘ Prod.fst :=
    funext fun e => congrArg _ (hhidden e)
  rw [List.filter_map, List.map_map, hline, hvisible, ← List.map_map, ← List.filter_map,
    List.zipIdx_map_fst]

lemma commandLines_eq (p : Plugin σ) :
    commandLines p = (p.registeredCommands.filter (!·.action.hidden)).map commandBullet := by
  unfold commandLines Plugin.registeredCommands
  exact map_visible p.commands (fun _ => rfl) fun _ => rfl

lemma hearLines_eq (p : Plugin σ) :
    hearLines p = (p.registeredHearActions.filter (!·.action.hidden)).map hearBullet := by
  unfold hearLines Plugin.registeredHearActions
  exact map_visible p.hearActions (fun _ => rfl) fun _ => rfl

lemma scheduledLines_eq (location : String) (p : Plugin σ) :
    scheduledLines location p =
      (p.registeredSchedules.filter (!·.action.hidden)).map (scheduledBullet location) := by
  unfold scheduledLines Plugin.registeredSchedules
  exact map_visible p.scheduledActions (fun _ => rfl) fun _ => rfl

lemma group_eq (title : String) (bullets : List String) :
    group title bullets = Section.lines ⟨title, bullets⟩ := by
  simp [group, Section.lines]

/-- The lines are the introduction and the sections. -/
lemma lines_eq (botName version location : String) (plugins : List (Plugin σ)) :
    lines botName version location plugins =
      introduction botName version :: (sections location plugins).flatMap (·.lines) := by
  simp only [lines, sections, group_eq, funext commandLines_eq, funext hearLines_eq,
    funext (scheduledLines_eq location), List.filter_flatMap, List.map_flatMap, List.flatMap_cons,
    List.flatMap_nil, List.append_nil, List.cons_append, List.append_assoc]

/-! ### Lines without breaks -/

lemma bullet_ne_empty (usage description : String) : bullet usage description ≠ "" := by
  unfold bullet
  split <;> simp

lemma scheduledBullet_ne_empty (location : String) (r : RegisteredSchedule σ) :
    scheduledBullet location r ≠ "" := by
  simp [scheduledBullet]

lemma oneLine_bullet {usage description : String} (husage : OneLine usage)
    (hdescription : OneLine description) : OneLine (bullet usage description) := by
  unfold bullet
  split
  · exact OneLine.append (by decide) hdescription
  · exact (((OneLine.append (by decide) husage).append (by decide)).append hdescription)

lemma oneLine_shownUsage {p : Plugin σ} (hp : p.OneLine) {usage : String} (h : OneLine usage) :
    OneLine (p.shownUsage usage) := by
  unfold Plugin.shownUsage
  split
  · exact (hp.name.append (by decide)).append h
  · exact h

lemma oneLine_scheduledBullet {location : String} (place : OneLine location)
    {r : RegisteredSchedule σ} (name : OneLine r.plugin.name)
    (schedule : OneLine r.action.wording) (description : OneLine r.action.description) :
    OneLine (scheduledBullet location r) := by
  have hname := (OneLine.append (by decide : OneLine "\t• [`") name).append
    (by decide : OneLine "`] `")
  have hplace := ((hname.append schedule).append (by decide : OneLine "` (`")).append place
  exact (hplace.append (by decide : OneLine "`) - ")).append description

lemma oneLine_introduction {botName version : String} (hname : OneLine botName)
    (hversion : OneLine version) : OneLine (introduction botName version) := by
  have hstart := (OneLine.append (by decide : OneLine "I'm `") hname).append
    (by decide : OneLine "` (engine version `")
  exact (hstart.append hversion).append (by decide)

lemma exists_of_mem_bullets {β : Type} {registered : Plugin σ → List β} {visible : β → Bool}
    {bullet : β → String} {plugins : List (Plugin σ)} {b : String}
    (hb : b ∈ ((plugins.flatMap registered).filter visible).map bullet) :
    ∃ p ∈ plugins, ∃ r ∈ registered p, visible r = true ∧ bullet r = b := by
  obtain ⟨r, hr, rfl⟩ := List.mem_map.mp hb
  obtain ⟨hr, hvisible⟩ := List.mem_filter.mp hr
  obtain ⟨p, hp, hr⟩ := List.mem_flatMap.mp hr
  exact ⟨p, hp, r, hr, hvisible, rfl⟩

/-- Where no text spreads over lines, neither does a bullet, and none is blank. -/
lemma bullets_plain {location : String} {plugins : List (Plugin σ)}
    (texts : ∀ p ∈ plugins, p.OneLine) (place : ShowsLocation plugins → OneLine location) :
    ∀ s ∈ sections location plugins, ∀ b ∈ s.bullets, OneLine b ∧ b ≠ "" := by
  intro s hs b hb
  simp only [sections, List.mem_cons, List.not_mem_nil, or_false] at hs
  rcases hs with rfl | rfl | rfl
  · obtain ⟨p, hp, r, hr, -, rfl⟩ := exists_of_mem_bullets hb
    obtain ⟨e, he, rfl⟩ := List.mem_map.mp hr
    obtain ⟨husage, hdescription⟩ := (texts p hp).commands e.1 (List.fst_mem_of_mem_zipIdx he)
    exact ⟨oneLine_bullet (oneLine_shownUsage (texts p hp) husage) hdescription,
      bullet_ne_empty _ _⟩
  · obtain ⟨p, hp, r, hr, -, rfl⟩ := exists_of_mem_bullets hb
    obtain ⟨e, he, rfl⟩ := List.mem_map.mp hr
    obtain ⟨husage, hdescription⟩ := (texts p hp).hearActions e.1 (List.fst_mem_of_mem_zipIdx he)
    exact ⟨oneLine_bullet husage hdescription, bullet_ne_empty _ _⟩
  · obtain ⟨p, hp, r, hr, hvisible, rfl⟩ := exists_of_mem_bullets hb
    obtain ⟨e, he, rfl⟩ := List.mem_map.mp hr
    have hscheduled := List.fst_mem_of_mem_zipIdx he
    obtain ⟨hschedule, hdescription⟩ := (texts p hp).scheduledActions e.1 hscheduled
    have hplace : OneLine location := place ⟨p, hp, e.1, hscheduled, by simpa using hvisible⟩
    exact ⟨oneLine_scheduledBullet hplace (texts p hp).name hschedule hdescription,
      scheduledBullet_ne_empty _ _⟩

lemma sections_titles (location : String) (plugins : List (Plugin σ)) :
    (sections location plugins).map (·.title) = titles := rfl

lemma sections_oneLine {location : String} {plugins : List (Plugin σ)}
    (texts : ∀ p ∈ plugins, p.OneLine) (place : ShowsLocation plugins → OneLine location) :
    ∀ line ∈ (sections location plugins).flatMap (·.lines), OneLine line := by
  have htitles : ∀ title ∈ titles, OneLine title := by decide
  intro line hline
  obtain ⟨s, hs, hline⟩ := List.mem_flatMap.mp hline
  unfold Section.lines at hline
  split at hline
  · cases hline
  · rcases List.mem_cons.mp hline with rfl | hline
    · decide
    · rcases List.mem_cons.mp hline with rfl | hbullet
      · rw [← sections_titles location plugins] at htitles
        exact htitles _ (List.mem_map_of_mem hs)
      · exact (bullets_plain texts place s hs line hbullet).1

/-! ### Reading sections back -/

/-- The bullets of a section, if it comes next, and the lines that are left. -/
def readSection (title : String) : List String → List String × List String
  | blank :: first :: rest =>
    if blank = "" ∧ first = title then (rest.takeWhile (· ≠ ""), rest.dropWhile (· ≠ ""))
    else ([], blank :: first :: rest)
  | lines => ([], lines)

/-- The bullets of sections with the given titles, in this order. -/
def readSections : (titles lines : List String) → List (List String)
  | [], _ => []
  | title :: titles, lines =>
    (readSection title lines).1 :: readSections titles (readSection title lines).2

/-- The bullets of commands, hear actions and scheduled actions that stand in a text of help, whose
introduction has the given number of lines. -/
def readBullets (introduction : Nat) (text : String) : List (List String) :=
  readSections titles ((split '\n' text).drop introduction)

lemma readSection_apart {title : String} {sections : List Section}
    (apart : title ∉ sections.map (·.title)) :
    readSection title (sections.flatMap (·.lines) ++ [""]) =
      ([], sections.flatMap (·.lines) ++ [""]) := by
  induction sections with
  | nil => rfl
  | cons s rest ih =>
    rw [List.map_cons, List.mem_cons, not_or] at apart
    rw [List.flatMap_cons, Section.lines]
    split
    · exact ih apart.2
    · exact if_neg fun h => apart.1 h.2.symm

lemma exists_blank_first (sections : List Section) :
    ∃ more, sections.flatMap (·.lines) ++ [""] = "" :: more := by
  induction sections with
  | nil => exact ⟨[], rfl⟩
  | cons s rest ih =>
    rw [List.flatMap_cons, Section.lines]
    split
    · exact ih
    · exact ⟨_, rfl⟩

lemma readSection_lines {s : Section} (filled : ∀ b ∈ s.bullets, b ≠ "")
    {sections : List Section} (apart : s.title ∉ sections.map (·.title)) :
    readSection s.title (s.lines ++ (sections.flatMap (·.lines) ++ [""])) =
      (s.bullets, sections.flatMap (·.lines) ++ [""]) := by
  obtain ⟨more, hmore⟩ := exists_blank_first sections
  have hfilled : ∀ b ∈ s.bullets, decide (b ≠ "") = true := fun b hb => decide_eq_true (filled b hb)
  rw [Section.lines]
  split
  · next hnone => rw [List.nil_append, hnone, readSection_apart apart]
  · rw [hmore, List.cons_append, List.cons_append, readSection, if_pos ⟨rfl, rfl⟩,
      List.takeWhile_append_of_pos hfilled, List.dropWhile_append_of_pos hfilled]
    simp

/-- Sections of different titles and without blank bullets are read back from their lines. -/
lemma readSections_lines {sections : List Section} (distinct : (sections.map (·.title)).Nodup)
    (filled : ∀ s ∈ sections, ∀ b ∈ s.bullets, b ≠ "") :
    readSections (sections.map (·.title)) (sections.flatMap (·.lines) ++ [""]) =
      sections.map (·.bullets) := by
  induction sections with
  | nil => rfl
  | cons s rest ih =>
    rw [List.map_cons, List.nodup_cons] at distinct
    have hread := readSection_lines (filled s List.mem_cons_self) distinct.1
    have hrest := ih distinct.2 fun q hq => filled q (List.mem_cons_of_mem _ hq)
    rw [List.map_cons, List.flatMap_cons, List.append_assoc, readSections, hread, hrest,
      List.map_cons]

end Help

/-- The help lists everything visible exactly once. Its lines are the introduction, and for each
kind of actions of which some are visible a blank line, a title and a bullet for each of them, in
registration order and then by place. The bullets are read back from the text. -/
theorem help_lists_visible_actions_once (botName version : String) {location : String}
    {plugins : List (Plugin σ)} (texts : ∀ p ∈ plugins, p.OneLine)
    (place : Help.ShowsLocation plugins → Text.OneLine location) :
    let text := Help.render botName version location plugins
    let introduction := Text.split '\n' (Help.introduction botName version)
    Text.split '\n' text =
      introduction ++ (Help.sections location plugins).flatMap (·.lines) ++ [""] ∧
    (Text.OneLine botName → Text.OneLine version →
      introduction = [Help.introduction botName version]) ∧
    Help.readBullets introduction.length text =
      (Help.sections location plugins).map (·.bullets) := by
  intro text introduction
  have hsplit : Text.split '\n' text =
      introduction ++ (Help.sections location plugins).flatMap (·.lines) ++ [""] := by
    have hend : text = Text.join "\n" (Help.lines botName version location plugins) ++ "\n" ++ "" :=
      (String.append_empty).symm
    have hnil : Text.split '\n' "" = [""] := rfl
    rw [hend, Text.split_append, hnil, Help.lines_eq, Text.split_join (List.cons_ne_nil _ _),
      List.flatMap_cons, Text.flatMap_split (Help.sections_oneLine texts place)]
  refine ⟨hsplit, fun hname hversion => (Help.oneLine_introduction hname hversion).split_eq, ?_⟩
  have hdistinct : ((Help.sections location plugins).map (·.title)).Nodup := by
    rw [Help.sections_titles]; decide
  have hread := Help.readSections_lines hdistinct fun s hs b hb =>
    (Help.bullets_plain texts place s hs b hb).2
  rw [Help.readBullets, hsplit, List.append_assoc, List.drop_left, ← Help.sections_titles, hread]

namespace Town

/-- A plugin with a visible action of each kind but hear actions. -/
def crier : Plugin Unit where
  name := "crier"
  commands := [{ hidden := true, usage := "hush" }, { usage := "cry", description := "Cry out" }]
  hearActions := [{ hidden := true, description := "Listen" }]
  scheduledActions := [{ schedule := { unit := "hours" }, run := fun _ => pure ()
                         description := "Strike", wording := "Every hour" }]
  namespaced := true

lemma crier_oneLine : crier.OneLine where
  name := by decide
  commands := by decide
  hearActions := by decide
  scheduledActions := by decide

end Town

/-- Of two commands the hidden one has no bullet, and the hidden hear action leaves no section. -/
theorem crier_listens_unseen :
    (∀ p ∈ [Town.crier], p.OneLine) ∧ (Help.ShowsLocation [Town.crier] → Text.OneLine "Local") ∧
      Help.readBullets 1 (Help.render "bot" "1" "Local" [Town.crier]) =
        [["\t• `crier cry` - Cry out"], [], ["\t• [`crier`] `Every hour` (`Local`) - Strike"]] := by
  have texts : ∀ p ∈ [Town.crier], p.OneLine := fun p hp =>
    List.mem_singleton.mp hp ▸ Town.crier_oneLine
  have place (_ : Help.ShowsLocation [Town.crier]) : Text.OneLine "Local" := by decide
  obtain ⟨-, hintroduction, hread⟩ := help_lists_visible_actions_once "bot" "1" texts place
  rw [hintroduction (by decide) (by decide)] at hread
  exact ⟨texts, place, hread.trans (by decide)⟩

end ChatEngine
