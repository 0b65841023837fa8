import Mathlib.Tactic.Common
import TagIndex.Journal.Console

namespace TagIndex

theorem Journal.render_append (threshold : Int) (a b : List JournalEntry) :
    render threshold (a ++ b) = render threshold a ++ render threshold b := by
  simp [render, String.join_append]

theorem Notice.logger_ne_empty (notice : Notice) : notice.logger ≠ "" := by
  cases notice <;> exact of_decide_eq_true rfl

namespace Console

variable {console : Console}

/-- What can be done to a console. -/
inductive Act where
  | enter (source : Bytes)
  | leave
  | addHandler
  | configure (threshold : Int)
  | log (record : Record)

def act (console : Console) : Act → Console
  | .enter source => console.enter source
  | .leave => console.leave
  | .addHandler => console.addHandler
  | .configure threshold => console.configure threshold
  | .log record => console.log record

/-- At most one handler writes to standard error. -/
def Single (console : Console) : Prop := console.handlers.countP (·.toStderr) ≤ 1

theorem receive_toStderr (console : Console) (source : Bytes) (record : Record) :
    (console.receive source record).handlers.map (·.toStderr) =
      console.handlers.map (·.toStderr) := by
  unfold receive
  split_ifs with hadmits hempty hlevel
  · rfl
  · rfl
  · rfl
  · rw [List.map_map]
    refine List.map_congr_left fun handler _ => ?_
    simp only [Function.comp_apply]
    split_ifs <;> rfl

theorem single_iff : Single console ↔ (console.handlers.map (·.toStderr)).count true ≤ 1 := by
  rw [Single, List.count, List.countP_map]
  simp [Function.comp_def]

theorem single_configure (h : Single console) (threshold : Int) :
    Single (console.configure threshold) := by
  rw [single_iff] at h ⊢
  simp only [configure, List.map_map]
  split_ifs with hempty
  · decide
  · exact h

theorem single_act (h : Single console) (action : Act) : Single (console.act action) := by
  cases action with
  | enter source => exact h
  | leave => exact h
  | addHandler =>
    simp only [Single, act, addHandler, List.countP_append]
    exact h
  | configure threshold => exact single_configure h threshold
  | log record =>
    rw [single_iff] at h ⊢
    simp only [act, log, receive_toStderr]
    exact h

theorem single_foldl_act (h : Single console) (acts : List Act) :
    Single (acts.foldl act console) := by
  induction acts generalizing console with
  | nil => exact h
  | cons action rest ih => exact ih (single_act h action)

/-- There are handlers, and all of them lay their lines out. -/
structure LaidOut (console : Console) : Prop where
  handlers_ne_nil : console.handlers ≠ []
  configured : ∀ handler ∈ console.handlers, handler.configured

theorem laidOut_configure (console : Console) (threshold : Int) :
    LaidOut (console.configure threshold) := by
  constructor
  · unfold configure
    by_cases hempty : console.handlers = [] <;> simp [hempty]
  · intro handler hmem
    obtain ⟨before, _, rfl⟩ := List.mem_map.mp hmem
    rfl

/-- To configure a console again only sets its threshold: no line will be shown twice. -/
theorem configure_configure (console : Console) (a b : Int) :
    (console.configure a).configure b = console.configure b := by
  unfold configure
  by_cases hempty : console.handlers = [] <;> simp [hempty]

/-- A handler that was given a text. What is meant for standard error it does not keep. -/
def Handler.given (text : String) (handler : Handler) : Handler :=
  if handler.toStderr then handler else { handler with written := handler.written ++ text }

/-- The console when all of its handlers were given a text. -/
def given (console : Console) (text : String) : Console :=
  { console with
    handlers := console.handlers.map (Handler.given text)
    stderr := if console.handlers.any (·.toStderr) then console.stderr ++ text else console.stderr }

theorem Handler.given_given (first second : String) (handler : Handler) :
    Handler.given second (Handler.given first handler) =
      Handler.given (first ++ second) handler := by
  unfold Handler.given
  split_ifs <;> simp_all [String.append_assoc]

@[simp] theorem Handler.toStderr_given (text : String) (handler : Handler) :
    (Handler.given text handler).toStderr = handler.toStderr := by
  unfold Handler.given
  split_ifs <;> rfl

@[simp] theorem Handler.configured_given (text : String) (handler : Handler) :
    (Handler.given text handler).configured = handler.configured := by
  unfold Handler.given
  split_ifs <;> rfl

theorem given_given (console : Console) (first second : String) :
    (console.given first).given second = console.given (first ++ second) := by
  have hany : (console.handlers.map (Handler.given first)).any (·.toStderr) =
      console.handlers.any (·.toStderr) := by
    simp [List.any_map, Function.comp_def]
  simp only [given, hany, List.map_map]
  congr 1
  · exact List.map_congr_left fun handler _ => Handler.given_given first second handler
  · split_ifs
    · rw [String.append_assoc]
    · rfl

theorem given_empty (console : Console) : console.given "" = console := by
  have hkeep : Handler.given "" = id := by
    funext handler
    unfold Handler.given
    split_ifs <;> simp
  simp [given, hkeep]

theorem LaidOut.given (h : LaidOut console) (text : String) : LaidOut (console.given text) := by
  constructor
  · simpa [Console.given] using h.handlers_ne_nil
  · intro handler hmem
    obtain ⟨before, hbefore, rfl⟩ := List.mem_map.mp hmem
    rw [Handler.configured_given]
    exact h.configured before hbefore

theorem Single.given (h : Single console) (text : String) : Single (console.given text) := by
  simpa [Single, Console.given, List.countP_map, Function.comp_def] using h

/-- A line comes to standard error once, if there is a handler for it. -/
theorem join_stderr_lines (h : Single console) (line : String) :
    String.join ((console.handlers.filter (·.toStderr)).map fun _ => line) =
      if console.handlers.any (·.toStderr) then line else "" := by
  have hany : console.handlers.any (·.toStderr) ↔ console.handlers.filter (·.toStderr) ≠ [] := by
    simp [List.any_eq_true, List.filter_eq_nil_iff]
  rw [Single, List.countP_eq_length_filter] at h
  generalize console.handlers.filter (·.toStderr) = shown at h hany ⊢
  rcases shown with _ | ⟨handler, _ | ⟨other, rest⟩⟩
  · rw [if_neg (hany.not.mpr (by simp))]
    rfl
  · rw [if_pos (hany.mpr (by simp))]
    simp
  · simp at h

theorem receive_laidOut (hlaid : LaidOut console) (hsingle : Single console)
    (entry : JournalEntry) :
    console.receive entry.source entry.notice.record =
      console.given (Journal.render console.threshold [entry]) := by
  have hlevel : 0 < entry.notice.level.value := by
    cases entry.notice.level <;> decide
  have hempty : console.handlers.isEmpty = false := by simpa using hlaid.handlers_ne_nil
  have hline : ∀ handler ∈ console.handlers,
      Handler.line handler entry.source entry.notice.record =
        entry.notice.record.line entry.source := by
    intro handler hmem
    rw [Handler.line, if_pos (hlaid.configured handler hmem)]
  by_cases hshown : console.threshold ≤ entry.notice.level.value
  · have hadmits : console.admits entry.notice.record.level = true := by
      simp [admits, Notice.record, hlevel, hshown]
    have hrender : Journal.render console.threshold [entry] =
        entry.notice.record.line entry.source := by
      simp [Journal.render, hshown]
    have hstderr : (console.handlers.filter (·.toStderr)).map (fun handler =>
          Handler.line handler entry.source entry.notice.record) =
        (console.handlers.filter (·.toStderr)).map fun _ => entry.notice.record.line entry.source :=
      List.map_congr_left fun handler hmem => hline handler (List.mem_filter.mp hmem).1
    simp only [receive, hadmits, hempty, Bool.not_true, Bool.false_eq_true, if_false, hrender,
      hstderr, join_stderr_lines hsingle]
    unfold given
    congr 1
    · refine List.map_congr_left fun handler hmem => ?_
      rw [Handler.given, hline handler hmem]
    · split_ifs <;> simp
  · have hadmits : console.admits entry.notice.record.level = false := by
      simp [admits, Notice.record, hshown]
    have hrender : Journal.render console.threshold [entry] = "" := by
      simp [Journal.render, hshown]
    rw [receive, hadmits, hrender, given_empty]
    rfl

/-- Configured handlers show a journal as the threshold renders it. -/
theorem replay_laidOut (hlaid : LaidOut console) (hsingle : Single console)
    (entries : List JournalEntry) :
    console.replay entries = console.given (Journal.render console.threshold entries) := by
  induction entries generalizing console with
  | nil => exact (given_empty console).symm
  | cons entry rest ih =>
    have hfirst := receive_laidOut hlaid hsingle entry
    have hrest := ih (hlaid.given (Journal.render console.threshold [entry])) (hsingle.given _)
    rw [given_given] at hrest
    change (console.receive entry.source entry.notice.record).replay rest = _
    rw [hfirst, hrest]
    exact congrArg console.given (Journal.render_append console.threshold [entry] rest).symm

/-- Whatever was done to a console before it is configured, each of its streams then shows a journal
once, as the threshold renders it. -/
theorem replay_after_acts (acts : List Act) (threshold : Int) (entries : List JournalEntry) :
    let console := (acts.foldl act {}).configure threshold
    console.replay entries = console.given (Journal.render threshold entries) := by
  intro console
  have hsingle : Single (acts.foldl act {}) := single_foldl_act (by simp [Single]) acts
  exact replay_laidOut (laidOut_configure _ threshold) (single_configure hsingle threshold) entries

theorem receive_enter (console : Console) (outer source : Bytes) (record : Record) :
    (console.enter outer).receive source record = (console.receive source record).enter outer := by
  have hadmits : (console.enter outer).admits record.level = console.admits record.level := rfl
  have hhandlers : (console.enter outer).handlers = console.handlers := rfl
  unfold receive
  rw [hadmits, hhandlers]
  split_ifs <;> rfl

theorem leave_log_enter (console : Console) (source : Bytes) (notice : Notice) :
    ((console.enter source).log notice.record).leave =
      console.receive source notice.record := by
  have hlogger : notice.record.logger ≠ "" := notice.logger_ne_empty
  simp only [log, hlogger, if_false]
  exact congrArg leave (receive_enter console source source notice.record)

/-- To replay a journal is to log each of its notices inside of its source. -/
theorem replay_eq_foldl_act (console : Console) (entries : List JournalEntry) :
    console.replay entries =
      (entries.flatMap fun entry =>
        [.enter entry.source, .log entry.notice.record, .leave]).foldl act console := by
  induction entries generalizing console with
  | nil => rfl
  | cons entry rest ih =>
    have hlogged := leave_log_enter console entry.source entry.notice
    have hrest := ih (console.receive entry.source entry.notice.record)
    rw [← hlogged] at hrest
    rw [List.flatMap_cons, List.foldl_append]
    exact (congrArg (replay · rest) hlogged.symm).trans hrest

/-- A console with one configured handler on standard error, where `text` was shown so far. -/
def listening (threshold : Int) (text : String) : Console :=
  { threshold := threshold
    handlers := [{ toStderr := true, configured := true }]
    stderr := text }

theorem replay_listening (threshold : Int) (text : String) (entries : List JournalEntry) :
    (listening threshold text).replay entries =
      listening threshold (text ++ Journal.render threshold entries) := by
  have hlaid : LaidOut (listening threshold text) := ⟨by simp [listening], by simp [listening]⟩
  exact replay_laidOut hlaid (by simp [Single, listening]) entries

/-- While settings are loaded a run shows warnings. -/
theorem replay_opening (entries : List JournalEntry) :
    (configure {} Level.warning.value).replay entries =
      listening Level.warning.value (Journal.render Level.warning.value entries) := by
  have hreplay := replay_listening Level.warning.value "" entries
  rwa [String.empty_append] at hreplay

end Console

end TagIndex
