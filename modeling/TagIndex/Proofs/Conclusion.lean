import TagIndex.Proofs.Console
import TagIndex.Proofs.Replacement
import TagIndex.Proofs.Tally

namespace TagIndex

namespace Session

variable {store : Store} {reader : Reader} {session done : Session} {path : Bytes}
  {paths : List Bytes} {tags : List Tag} {failure : Failure}

theorem Stops.front_tagsAt {device : Device} {calls : Nat}
    (h : Stops store reader device calls path tags failure) :
    tags <+: tagsAt store reader path := by
  cases h with
  | unreadable hread hfault htags =>
    rw [htags]
    exact List.nil_prefix
  | broken hread hbreaks =>
    rw [tagsAt, hread]
    cases hbreaks with
    | refused hdrafts hcheck =>
      simp only [hdrafts, passing_append]
      exact List.prefix_append _ _
    | unwritten hdrafts hcall =>
      simp only [hdrafts, passing_append]
      exact List.prefix_append _ _

/-- However a batch ends, it has written a front part of the tags of its files. -/
theorem tagFiles_writes_front (store : Store) (reader : Reader) (session : Session)
    (paths : List Bytes) :
    ∃ tags, (session.tagFiles store reader paths).2.sink.chunks =
        session.sink.chunks ++ tags.map Tag.line ∧
      tags <+: paths.flatMap (tagsAt store reader) := by
  rcases h : session.tagFiles store reader paths with ⟨failure | stats, done⟩
  · have hpaths := tagFiles_eq_error_iff.mp h
    obtain ⟨before, path, after, outputs, tags, rfl, hhalts⟩ := halts_of_tagPaths hpaths
    obtain ⟨last, hbroke, _, hlast⟩ := tagPaths_of_halts hhalts
    obtain ⟨_, rfl⟩ := Prod.mk.inj (hpaths.symm.trans (hlast store after fun _ _ => rfl))
    obtain rfl := map_tagsAt_of_yields hhalts.earlier
    refine ⟨_, hbroke.chunks, ?_⟩
    rw [List.flatMap_append, List.flatMap_cons, List.flatMap_def]
    exact (List.prefix_append_right_inj _).mpr
      (hhalts.stops.front_tagsAt.trans (List.prefix_append _ _))
  · exact ⟨_, (tagFiles_ok_sums h).2.1.chunks, List.prefix_refl _⟩

end Session

namespace Program

open Session (tagsAt Counts Yields)

variable {inv : Invocation} {parsed : Arguments.Parsed} {files : List Bytes} {output : Bytes}
  {store : Store} {sink : Sink} {level : Level}

/-- The tag lines of some files, in order. -/
def stream (inv : Invocation) (files : List Bytes) : List Bytes :=
  (files.flatMap (tagsAt inv.store inv.reader)).map Tag.line

theorem tagInto_writes_front (inv : Invocation) (sink : Sink) (files : List Bytes) :
    ∃ part, (tagInto inv inv.store sink files).2.sink.chunks = sink.chunks ++ part ∧
      part <+: stream inv files := by
  obtain ⟨tags, hchunks, hprefix⟩ :=
    Session.tagFiles_writes_front inv.store inv.reader { sink := sink } files
  refine ⟨tags.map Tag.line, ?_, hprefix.map Tag.line⟩
  rw [← hchunks, tagInto]
  rcases hrun : Session.tagFiles inv.store inv.reader { sink := sink } files with
    ⟨failure | stats, last⟩
  · rfl
  · have hflush := Session.chunks_flush last
    dsimp only
    rcases hend : last.flush with ⟨_ | failure, flushed⟩ <;> rw [hend] at hflush <;> exact hflush

/-- What tagging sends to standard output. -/
def streamed (inv : Invocation) (files : List Bytes) (output : Bytes) : List Bytes :=
  if output = stdoutMark then (deliver inv files output).session.sink.chunks else []

/-- What a run with an output is to send to standard output: the tag lines, or nothing. -/
def due (inv : Invocation) (files : List Bytes) (output : Bytes) : List Bytes :=
  if output = stdoutMark then stream inv files else []

theorem due_front (inv : Invocation) (files : List Bytes) (output : Bytes) :
    due inv files output <+: stream inv files := by
  unfold due
  split_ifs
  · exact List.prefix_refl _
  · exact List.nil_prefix

theorem streamed_front (inv : Invocation) (files : List Bytes) (output : Bytes) :
    streamed inv files output <+: due inv files output := by
  unfold streamed due
  split_ifs with hmark
  · obtain ⟨part, hchunks, hprefix⟩ := tagInto_writes_front inv { device := inv.stdout } files
    rw [deliver, if_pos hmark]
    change (tagInto inv inv.store { device := inv.stdout } files).2.sink.chunks <+: _
    rw [hchunks]
    exact hprefix
  · exact List.nil_prefix

theorem streamed_front_stream (inv : Invocation) (files : List Bytes) (output : Bytes) :
    streamed inv files output <+: stream inv files :=
  (streamed_front inv files output).trans (due_front inv files output)

/-- Tagging that ends well processes as many files as the batch does not pass over. -/
theorem tagInto_ok_tagsAt {stats : Stats} {done : Session}
    (h : tagInto inv store sink files = (.ok stats, done)) :
    done.sink.chunks = sink.chunks ++ (files.flatMap (tagsAt store inv.reader)).map Tag.line ∧
      Counts store files stats := by
  obtain ⟨outputs, hyields, hchunks, hcounts⟩ := tagInto_ok h
  obtain rfl := Session.map_tagsAt_of_yields hyields
  rw [← List.flatMap_def] at hchunks
  exact ⟨hchunks, hcounts⟩

/-- The files that tagging reads: with an output file, the new scratch file is among them. -/
def inputStore (inv : Invocation) (output : Bytes) : Store :=
  if output = stdoutMark then inv.store
  else
    let place := Path.spelled inv.store.workdir (Path.ofPlace (scratchPlace inv output))
    inv.store.put place (.file [] 0o600)

/-- Each file is passed over or gives all its tags; `processed` of them are not passed over. -/
structure Treats (store : Store) (reader : Reader) (files : List Bytes) (processed : Nat) :
    Prop where
  yields : ∀ file ∈ files, ∃ tags, Yields store reader file tags
  processed_eq : processed = files.countP (!store.skips ·)

theorem Treats.congr {other : Store} {reader : Reader} {processed : Nat}
    (h : Treats store reader files processed)
    (hread : ∀ file ∈ files, store.read file = other.read file) :
    Treats other reader files processed := by
  have hskips : ∀ file ∈ files, store.skips file = other.skips file := fun file hmem => by
    simp only [Store.skips, hread file hmem]
  constructor
  · intro file hmem
    obtain ⟨tags, htags⟩ := h.yields file hmem
    exact ⟨tags, by simpa only [Yields, hskips file hmem, hread file hmem] using htags⟩
  · rw [h.processed_eq]
    exact List.countP_congr fun file hmem => by rw [hskips file hmem]

theorem treats_of_tagInto {stats : Stats} {done : Session}
    (h : tagInto inv store sink files = (.ok stats, done)) :
    ∃ processed : Nat, stats.processed = processed ∧
      Treats store inv.reader files processed := by
  obtain ⟨outputs, hyields, _, hcounts⟩ := tagInto_ok h
  exact ⟨_, hcounts.1, exists_yields hyields, rfl⟩

theorem outcome_of_tagIntoFile {count : Int}
    (h : (tagIntoFile inv files output).outcome = .ok count) :
    ∃ created stats session, inv.store.create (Path.ofPlace (scratchPlace inv output)) =
        .ok created ∧
      tagInto inv created { device := inv.scratch.device } files = (.ok stats, session) ∧
      stats.processed = count := by
  simp only [tagIntoFile] at h
  split at h
  · cases h
  · rename_i created hcreated
    have hcreate : inv.store.create (Path.ofPlace (scratchPlace inv output)) = .ok created := by
      split at hcreated
      · cases hcreated
      · split_ifs at hcreated
        exact hcreated
    split at h
    · cases h
    · rename_i stats session htag
      refine ⟨created, stats, session, hcreate, htag, ?_⟩
      split_ifs at h
      · split at h
        · cases h
        · exact Except.ok.inj h
      · exact Except.ok.inj h

/-- The number that tagging answers is that of the inputs which are not passed over, whatever the
output is. -/
theorem deliver_ok {count : Int} (h : (deliver inv files output).outcome = .ok count) :
    ∃ processed : Nat, count = processed ∧
      Treats (inputStore inv output) inv.reader files processed := by
  unfold deliver at h
  unfold inputStore
  split_ifs at h ⊢ with hmark
  · rcases hrun : tagInto inv inv.store { device := inv.stdout } files with ⟨failure | stats, done⟩
    · rw [hrun] at h
      cases h
    · rw [hrun] at h
      obtain rfl := Except.ok.inj h
      exact treats_of_tagInto hrun
  · obtain ⟨created, stats, session, hcreate, htag, rfl⟩ := outcome_of_tagIntoFile h
    obtain ⟨_, rfl⟩ := Store.create_ok hcreate
    exact treats_of_tagInto htag

theorem streamed_of_ok {count : Int} (h : (deliver inv files output).outcome = .ok count) :
    streamed inv files output = due inv files output := by
  unfold streamed due
  split_ifs with hmark
  · subst hmark
    simp only [deliver, if_pos] at h ⊢
    rcases hrun : tagInto inv inv.store { device := inv.stdout } files with ⟨failure | stats, done⟩
    · rw [hrun] at h
      cases h
    · exact (tagInto_ok_tagsAt hrun).1
  · rfl

/-- Where nothing was processed, nothing was written. -/
theorem streamed_of_idle (h : (deliver inv files output).outcome = .ok 0) :
    streamed inv files output = [] := by
  rw [streamed_of_ok h, due]
  split_ifs with hmark
  · obtain ⟨processed, hzero, htreats⟩ := deliver_ok h
    rw [inputStore, if_pos hmark] at htreats
    have hcount := htreats.processed_eq
    rw [Int.natCast_eq_zero.mp hzero.symm] at hcount
    -- what is not processed was passed over, and such a path has no tags
    have hskips : ∀ file ∈ files, inv.store.skips file := by
      intro file hmem
      have hnone := List.countP_eq_zero.mp hcount.symm file hmem
      simpa using hnone
    have htags : files.flatMap (tagsAt inv.store inv.reader) = [] := by
      rw [List.flatMap_eq_nil_iff]
      exact fun file hmem => Session.tagsAt_of_skips inv.reader (hskips file hmem)
    rw [stream, htags]
    rfl
  · rfl

/-- The level and the output of a run, if its settings are resolved and name a path. -/
def resolved? (inv : Invocation) (parsed : Arguments.Parsed) : Option (Level × Bytes) :=
  match (loadSettings inv parsed).1 with
  | .ok settings => (Text.toPath? settings.output).map (settings.level, ·)
  | .error _ => none

/-- What is noted about the settings. -/
def settingsEntries (inv : Invocation) (parsed : Arguments.Parsed) : List JournalEntry :=
  (loadSettings inv parsed).2.entries ++
    match (loadSettings inv parsed).1 with
    | .error (.rejected problem) => [⟨noSource, .settingsRejected problem.message⟩]
    | _ => []

/-- The note with which the program gives up tagging, if it does not let the failure escape. -/
def closing (failure : Failure) : List JournalEntry :=
  match failure with
  | .write _ _ | .flush _ => [⟨noSource, .outputFailed failure.message⟩]
  | .fault (.system _) => [⟨noSource, .filesFailed failure.message⟩]
  | .refused _ | .fault (.invalid _) => []

/-- What is noted from the moment the settings hold. -/
def workEntries (tagged : Tagged) : List JournalEntry :=
  tagged.session.journal.entries ++
    match tagged.outcome with
    | .error failure => closing failure
    | .ok _ => []

/-- The log of a run: warnings while the settings are loaded, then what their level lets through. -/
def logText (inv : Invocation) (parsed : Arguments.Parsed) : String :=
  Journal.render Level.warning.value (settingsEntries inv parsed) ++
    match resolved? inv parsed with
    | some (level, output) =>
      Journal.render level.value (workEntries (deliver inv (parsed.files.getD []) output))
    | none => ""

/-- The text and the script for a run that has processed nothing. -/
def usageText (inv : Invocation) : String :=
  Help.noFiles (Text.displayPath (programName inv.program))

def scriptText (inv : Invocation) : Bytes :=
  Bytes.ofString (Help.sortScript (Text.displayPath (programName inv.program)))

/-- How a run concludes whose arguments are accepted. -/
inductive Concludes (inv : Invocation) (parsed : Arguments.Parsed) (result : Result) : Prop
  /-- There are no settings, or no path in them. -/
  | unsettled (hsettings : resolved? inv parsed = none)
      (hending : result.ending = .exit 1 ∨ ∃ cause, result.ending = .escape cause)
      (hstdout : result.stdout.chunks = [])
      (hstderr : result.console.stderr = logText inv parsed)
  | failed {level : Level} {output : Bytes} {failure : Failure}
      (hsettings : resolved? inv parsed = some (level, output))
      (houtcome : (deliver inv (parsed.files.getD []) output).outcome = .error failure)
      (hending : result.ending = .exit 1 ∨ ∃ cause, result.ending = .escape cause)
      (hstdout : result.stdout.chunks = streamed inv (parsed.files.getD []) output)
      (hstderr : result.console.stderr = logText inv parsed)
  /-- Nothing was processed. Standard output may refuse the script, or refuse to flush it. -/
  | idle {level : Level} {output : Bytes}
      (hsettings : resolved? inv parsed = some (level, output))
      (houtcome : (deliver inv (parsed.files.getD []) output).outcome = .ok 0)
      (hending : (result.ending = .exit 1 ∧ result.stdout.chunks = [scriptText inv]) ∨
        ∃ cause, result.ending = .escape cause ∧
          (result.stdout.chunks = [] ∨ result.stdout.chunks = [scriptText inv]))
      (hstderr : result.console.stderr = logText inv parsed ++ usageText inv)
  | tagged {level : Level} {output : Bytes} {count : Int}
      (hsettings : resolved? inv parsed = some (level, output))
      (houtcome : (deliver inv (parsed.files.getD []) output).outcome = .ok count)
      (hcount : 0 < count)
      (hending : result.ending = .exit 0)
      (hstdout : result.stdout.chunks = streamed inv (parsed.files.getD []) output)
      (hstderr : result.console.stderr = logText inv parsed)

/-- The settings end a run early, or they lead to its work. -/
theorem start_of_resolved (h : resolved? inv parsed = some (level, output)) :
    start inv parsed = work inv
      (.listening level.value (Journal.render Level.warning.value (settingsEntries inv parsed)))
      output (parsed.files.getD []) := by
  unfold resolved? at h
  unfold settingsEntries start
  rcases hload : loadSettings inv parsed with ⟨failure | settings, journal⟩
  · rw [hload] at h
    cases h
  · rw [hload] at h
    obtain ⟨path, hpath, hpair⟩ := Option.map_eq_some_iff.mp h
    obtain ⟨rfl, rfl⟩ := Prod.mk.inj hpair
    simp only [hpath, List.append_nil, Console.replay_opening]
    rfl

theorem start_of_unresolved (h : resolved? inv parsed = none) :
    Concludes inv parsed (start inv parsed) := by
  have hlog : logText inv parsed =
      Journal.render Level.warning.value (settingsEntries inv parsed) := by
    rw [logText, h]
    exact String.append_empty
  unfold resolved? at h
  unfold settingsEntries at hlog
  unfold start
  rcases hload : loadSettings inv parsed with ⟨failure | settings, journal⟩ <;>
    rw [hload] at h hlog
  · cases failure with
    | rejected problem =>
      refine .unsettled (by rw [resolved?, hload]) (.inl rfl) rfl ?_
      rw [hlog, Journal.render_append]
      simp only [Console.replay_opening, Console.replay_listening]
      rfl
    | fault | document | mixedKeys | longInteger =>
      refine .unsettled (by rw [resolved?, hload]) (.inr ⟨_, rfl⟩) rfl ?_
      rw [hlog, List.append_nil]
      simp only [Console.replay_opening]
      rfl
  · have hpath : Text.toPath? settings.output = none := Option.map_eq_none_iff.mp h
    simp only [hpath]
    refine .unsettled (by rw [resolved?, hload]; exact h) (.inr ⟨_, rfl⟩) rfl ?_
    rw [hlog, List.append_nil, Console.replay_opening]
    rfl

/-- What a run prints past its log. -/
def printed (inv : Invocation) (outcome : Except Failure Int) : String :=
  if outcome = .ok 0 then usageText inv else ""

theorem conclude_listening (failure : Failure) (result : Result) (threshold : Int)
    (text : String) :
    conclude failure { result with console := .listening threshold text } =
      { conclude failure result with
        console := .listening threshold (text ++ Journal.render threshold (closing failure)) } := by
  have hlogged (notice : Notice) :
      (Console.listening threshold text).replay [⟨noSource, notice⟩] =
        .listening threshold (text ++ Journal.render threshold [⟨noSource, notice⟩]) :=
    Console.replay_listening _ _ _
  have hsilent : text = text ++ Journal.render threshold [] := String.append_empty.symm
  cases failure with
  | refused refusal => simp only [conclude, closing, ← hsilent]
  | write name cause => simp only [conclude, closing, hlogged]
  | flush cause => simp only [conclude, closing, hlogged]
  | fault cause =>
    cases cause with
    | system fault => simp only [conclude, closing, hlogged]
    | invalid message => simp only [conclude, closing, ← hsilent]

theorem offerScript_console (program : String) (result : Result) (console : Console) :
    offerScript program { result with console := console } =
      { offerScript program result with console := console.print (Help.noFiles program) } := by
  simp only [offerScript]
  rcases result.stdout.write (Bytes.ofString (Help.sortScript program)) with ⟨_ | fault, sink⟩
  · dsimp only
    rcases sink.flush with ⟨_ | fault, flushed⟩ <;> rfl
  · rfl

/-- What tagging leaves behind, before the run concludes. -/
def delivered (inv : Invocation) (console : Console) (output : Bytes) (files : List Bytes) :
    Result :=
  let tagged := deliver inv files output
  { ending := .exit 0
    stdout := if output = stdoutMark then tagged.session.sink else { device := inv.stdout }
    console := console.replay tagged.session.journal.entries
    store := tagged.store }

theorem work_eq (inv : Invocation) (console : Console) (output : Bytes) (files : List Bytes) :
    work inv console output files =
      match (deliver inv files output).outcome with
      | .error failure => conclude failure (delivered inv console output files)
      | .ok count =>
        if count = 0 then
          offerScript (Text.displayPath (programName inv.program))
            (delivered inv console output files)
        else delivered inv console output files := rfl

theorem delivered_listening (inv : Invocation) (threshold : Int) (text : String) (output : Bytes)
    (files : List Bytes) :
    let journal := (deliver inv files output).session.journal
    delivered inv (.listening threshold text) output files =
      { delivered inv {} output files with
        console := .listening threshold (text ++ Journal.render threshold journal.entries) } := by
  simp only [delivered, Console.replay_listening]

theorem delivered_chunks (inv : Invocation) (console : Console) (output : Bytes)
    (files : List Bytes) :
    (delivered inv console output files).stdout.chunks = streamed inv files output := by
  simp only [delivered, streamed]
  split_ifs <;> rfl

theorem printed_error (inv : Invocation) (failure : Failure) : printed inv (.error failure) = "" :=
  if_neg nofun

theorem printed_of_ne_zero (inv : Invocation) {count : Int} (h : count ≠ 0) :
    printed inv (.ok count) = "" :=
  if_neg fun heq => h (Except.ok.inj heq)

/-- The work is the same on every console. A console that listens gets the log, and behind it what
is printed past it. -/
theorem work_listening (inv : Invocation) (threshold : Int) (text : String) (output : Bytes)
    (files : List Bytes) :
    let tagged := deliver inv files output
    work inv (.listening threshold text) output files =
      { work inv {} output files with
        console := .listening threshold (text ++ Journal.render threshold (workEntries tagged) ++
          printed inv tagged.outcome) } := by
  intro tagged
  rw [work_eq, work_eq, delivered_listening]
  simp only [tagged]
  cases houtcome : (deliver inv files output).outcome with
  | error failure =>
    simp only [conclude_listening, workEntries, houtcome, Journal.render_append, printed_error,
      String.append_empty, String.append_assoc]
  | ok count =>
    have hentries : workEntries (deliver inv files output) =
        (deliver inv files output).session.journal.entries := by
      rw [workEntries, houtcome, List.append_nil]
    by_cases hcount : count = 0
    · subst hcount
      simp only [offerScript_console, hentries, if_true]
      rfl
    · simp only [hcount, if_false, hentries, printed_of_ne_zero inv hcount, String.append_empty]

theorem conclude_ends (failure : Failure) (result : Result) :
    ((conclude failure result).ending = .exit 1 ∨
      ∃ cause, (conclude failure result).ending = .escape cause) ∧
      (conclude failure result).stdout = result.stdout := by
  cases failure with
  | refused refusal => exact ⟨.inr ⟨_, rfl⟩, rfl⟩
  | write name cause => exact ⟨.inl rfl, rfl⟩
  | flush cause => exact ⟨.inl rfl, rfl⟩
  | fault cause =>
    cases cause with
    | system fault => exact ⟨.inl rfl, rfl⟩
    | invalid message => exact ⟨.inr ⟨_, rfl⟩, rfl⟩

theorem offerScript_ends (program : String) {result : Result}
    (hstdout : result.stdout.chunks = []) :
    let offered := offerScript program result
    let script := Bytes.ofString (Help.sortScript program)
    (offered.ending = .exit 1 ∧ offered.stdout.chunks = [script]) ∨
      ∃ cause, offered.ending = .escape cause ∧
        (offered.stdout.chunks = [] ∨ offered.stdout.chunks = [script]) := by
  intro offered script
  simp only [offered, offerScript, Sink.write]
  cases result.stdout.device.onWrite (result.stdout.writes + 1) with
  | some fault => exact .inr ⟨_, rfl, .inl hstdout⟩
  | none =>
    have hchunks : result.stdout.chunks ++ [script] = [script] := by rw [hstdout, List.nil_append]
    simp only [Sink.flush]
    cases result.stdout.device.onFlush (result.stdout.flushes + 1) with
    | some fault => exact .inr ⟨_, rfl, .inr hchunks⟩
    | none => exact .inl ⟨rfl, hchunks⟩

theorem work_concludes (h : resolved? inv parsed = some (level, output)) :
    Concludes inv parsed (work inv
      (.listening level.value (Journal.render Level.warning.value (settingsEntries inv parsed)))
      output (parsed.files.getD [])) := by
  have hlog : logText inv parsed =
      Journal.render Level.warning.value (settingsEntries inv parsed) ++
        Journal.render level.value (workEntries (deliver inv (parsed.files.getD []) output)) := by
    rw [logText, h]
  have hstreamed := delivered_chunks inv {} output (parsed.files.getD [])
  rw [work_listening, ← hlog, work_eq]
  cases houtcome : (deliver inv (parsed.files.getD []) output).outcome with
  | error failure =>
    obtain ⟨hending, hstdout⟩ :=
      conclude_ends failure (delivered inv {} output (parsed.files.getD []))
    rw [printed_error, String.append_empty]
    exact .failed h houtcome hending ((congrArg Sink.chunks hstdout).trans hstreamed) rfl
  | ok count =>
    by_cases hcount : count = 0
    · subst hcount
      rw [streamed_of_idle houtcome] at hstreamed
      exact .idle h houtcome (offerScript_ends _ hstreamed) rfl
    · have hpositive : 0 < count := by
        obtain ⟨processed, rfl, _⟩ := deliver_ok houtcome
        omega
      rw [printed_of_ne_zero inv hcount, String.append_empty]
      simp only [hcount, if_false]
      exact .tagged h houtcome hpositive rfl hstreamed rfl

theorem run_of_parsed (hparsed : Arguments.parse inv.arguments = .ok parsed)
    (hhelp : parsed.help = false) : run inv = start inv parsed := by
  simp only [run, hparsed, hhelp, Bool.false_eq_true, if_false]

/-- With accepted arguments a run concludes in one of these ways. -/
theorem run_concludes (hparsed : Arguments.parse inv.arguments = .ok parsed)
    (hhelp : parsed.help = false) : Concludes inv parsed (run inv) := by
  rw [run_of_parsed hparsed hhelp]
  cases h : resolved? inv parsed with
  | none => exact start_of_unresolved h
  | some pair =>
    rw [start_of_resolved h]
    exact work_concludes h

theorem ne_append_usageText (text : String) (inv : Invocation) : text ≠ text ++ usageText inv := by
  intro heq
  have hlength := congrArg String.length heq
  have husage : 0 < (usageText inv).length := by
    have hlead : "Usage: ".length = 7 := by decide
    simp only [usageText, Help.noFiles, String.length_append, hlead]
    omega
  rw [String.length_append] at hlength
  omega

/-- The settings are resolved, tagging comes to its end, and of the inputs, each of which is passed
over or gives all its tags, `processed` are not passed over. -/
def Completes (inv : Invocation) (parsed : Arguments.Parsed) (processed : Nat) : Prop :=
  ∃ level output, resolved? inv parsed = some (level, output) ∧
    (∃ count, (deliver inv (parsed.files.getD []) output).outcome = .ok count) ∧
    Treats (inputStore inv output) inv.reader (parsed.files.getD []) processed

theorem Completes.unique {a b : Nat} (ha : Completes inv parsed a) (hb : Completes inv parsed b) :
    a = b := by
  obtain ⟨level, output, hsettings, _, ha⟩ := ha
  obtain ⟨_, _, hsame, _, hb⟩ := hb
  obtain ⟨rfl, rfl⟩ := Prod.mk.inj (Option.some.inj (hsettings.symm.trans hsame))
  exact ha.processed_eq.trans hb.processed_eq.symm

theorem completes_of_ok {count : Int} (hsettings : resolved? inv parsed = some (level, output))
    (houtcome : (deliver inv (parsed.files.getD []) output).outcome = .ok count) :
    ∃ processed : Nat, count = processed ∧ Completes inv parsed processed := by
  obtain ⟨processed, hcount, htreats⟩ := deliver_ok houtcome
  exact ⟨processed, hcount, level, output, hsettings, ⟨count, houtcome⟩, htreats⟩

theorem not_completes_of_unresolved (h : resolved? inv parsed = none) (processed : Nat) :
    ¬Completes inv parsed processed := by
  rintro ⟨_, _, hsome, _⟩
  cases h.symm.trans hsome

theorem not_completes_of_failed {failure : Failure}
    (hsettings : resolved? inv parsed = some (level, output))
    (houtcome : (deliver inv (parsed.files.getD []) output).outcome = .error failure)
    (processed : Nat) : ¬Completes inv parsed processed := by
  rintro ⟨_, _, hsome, ⟨count, hcount⟩, _⟩
  obtain ⟨rfl, rfl⟩ := Prod.mk.inj (Option.some.inj (hsettings.symm.trans hsome))
  cases houtcome.symm.trans hcount

/-- The name of the scratch file is new: nothing has it, and no input either. -/
structure FreshScratch (inv : Invocation) (files : List Bytes) (output : Bytes) : Prop where
  workdir : Path.IsProper inv.store.workdir
  stamp : Bytes.slash ∉ inv.scratch.stamp
  unused : inv.store.item? (scratchPlace inv output) = none
  inputs : ∀ file ∈ files, Path.spelled inv.store.workdir file ≠ scratchPlace inv output

/-- Then the inputs that are passed over are those that were missing before the run. -/
theorem Treats.of_freshScratch {processed : Nat} (hfresh : FreshScratch inv files output)
    (h : Treats (inputStore inv output) inv.reader files processed) :
    Treats inv.store inv.reader files processed := by
  refine h.congr fun file hmem => ?_
  obtain ⟨tags, htags⟩ := h.yields file hmem
  unfold inputStore at htags ⊢
  split_ifs at htags ⊢ with hmark
  · rfl
  · have hproper := isProper_scratchPlace hfresh.workdir hfresh.stamp output
    rw [Path.spelled_ofPlace inv.store.workdir hproper] at htags ⊢
    exact read_withScratch hfresh.unused (hfresh.inputs file hmem) htags

namespace Concludes

variable {result : Result}

theorem exit_code (h : Concludes inv parsed result) :
    (∀ code, result.ending = .exit code → code = 0 ∨ code = 1) ∧
      (result.ending = .exit 0 ↔ ∃ processed, Completes inv parsed processed ∧ 0 < processed) := by
  cases h with
  | unsettled hsettings hending =>
    have hnone := not_completes_of_unresolved hsettings
    rcases hending with hending | ⟨cause, hending⟩ <;> simp [hending, hnone]
  | failed hsettings houtcome hending =>
    have hnone := not_completes_of_failed hsettings houtcome
    rcases hending with hending | ⟨cause, hending⟩ <;> simp [hending, hnone]
  | idle hsettings houtcome hending =>
    obtain ⟨processed, hzero, hcompletes⟩ := completes_of_ok hsettings houtcome
    have hnone : ¬∃ processed, Completes inv parsed processed ∧ 0 < processed := by
      rintro ⟨other, hother, hpositive⟩
      obtain rfl := hcompletes.unique hother
      omega
    rcases hending with ⟨hending, _⟩ | ⟨cause, hending, _⟩ <;> simp [hending, hnone]
  | tagged hsettings houtcome hcount hending =>
    obtain ⟨processed, rfl, hcompletes⟩ := completes_of_ok hsettings houtcome
    have hsome : ∃ processed, Completes inv parsed processed ∧ 0 < processed :=
      ⟨processed, hcompletes, Int.natCast_pos.mp hcount⟩
    simp [hending, hsome]

/-- Apart from the usage and the script of an idle run, a run shows its log and tag lines only. -/
theorem offers (h : Concludes inv parsed result) {code : Nat} (hcode : result.ending = .exit code) :
    (Completes inv parsed 0 ∧ result.stdout.chunks = [scriptText inv] ∧
        result.console.stderr = logText inv parsed ++ usageText inv) ∨
      (¬Completes inv parsed 0 ∧ result.stdout.chunks <+: stream inv (parsed.files.getD []) ∧
        result.console.stderr = logText inv parsed) := by
  cases h with
  | unsettled hsettings hending hstdout hstderr =>
    exact .inr ⟨not_completes_of_unresolved hsettings 0, hstdout ▸ List.nil_prefix, hstderr⟩
  | failed hsettings houtcome hending hstdout hstderr =>
    exact .inr ⟨not_completes_of_failed hsettings houtcome 0,
      hstdout ▸ streamed_front_stream _ _ _, hstderr⟩
  | idle hsettings houtcome hending hstderr =>
    obtain ⟨processed, hzero, hcompletes⟩ := completes_of_ok hsettings houtcome
    obtain rfl := Int.natCast_eq_zero.mp hzero.symm
    rcases hending with ⟨_, hstdout⟩ | ⟨cause, hending, _⟩
    · exact .inl ⟨hcompletes, hstdout, hstderr⟩
    · cases hcode.symm.trans hending
  | tagged hsettings houtcome hcount hending hstdout hstderr =>
    obtain ⟨processed, rfl, hcompletes⟩ := completes_of_ok hsettings houtcome
    refine .inr ⟨?_, hstdout ▸ streamed_front_stream _ _ _, hstderr⟩
    intro hidle
    obtain rfl := hcompletes.unique hidle
    omega

theorem stdout_due (h : Concludes inv parsed result)
    (hsettings : resolved? inv parsed = some (level, output)) :
    (result.ending = .exit 0 → result.stdout.chunks = due inv (parsed.files.getD []) output) ∧
      ∀ failure, (deliver inv (parsed.files.getD []) output).outcome = .error failure →
        result.stdout.chunks <+: due inv (parsed.files.getD []) output := by
  have hunique {a : Level} {b : Bytes} (hsame : resolved? inv parsed = some (a, b)) :
      b = output := (Prod.mk.inj (Option.some.inj (hsame.symm.trans hsettings))).2
  cases h with
  | unsettled hnone => cases hnone.symm.trans hsettings
  | failed hsame houtcome hending hstdout =>
    obtain rfl := hunique hsame
    refine ⟨?_, fun _ _ => hstdout ▸ streamed_front _ _ _⟩
    intro hzero
    rcases hending with hending | ⟨cause, hending⟩ <;> cases hzero.symm.trans hending
  | idle hsame houtcome hending =>
    obtain rfl := hunique hsame
    refine ⟨?_, fun _ hfailure => nomatch houtcome.symm.trans hfailure⟩
    intro hzero
    rcases hending with ⟨hending, _⟩ | ⟨cause, hending, _⟩ <;> cases hzero.symm.trans hending
  | tagged hsame houtcome hcount hending hstdout =>
    obtain rfl := hunique hsame
    exact ⟨fun _ => hstdout.trans (streamed_of_ok houtcome),
      fun _ hfailure => nomatch houtcome.symm.trans hfailure⟩

theorem unmixed (h : Concludes inv parsed result) :
    result.stdout.chunks = [scriptText inv] ∨
      result.stdout.chunks <+: stream inv (parsed.files.getD []) := by
  cases h with
  | unsettled hsettings hending hstdout => exact .inr (hstdout ▸ List.nil_prefix)
  | failed hsettings houtcome hending hstdout => exact .inr (hstdout ▸ streamed_front_stream _ _ _)
  | idle hsettings houtcome hending =>
    rcases hending with ⟨_, hstdout⟩ | ⟨_, _, hstdout | hstdout⟩
    · exact .inl hstdout
    · exact .inr (hstdout ▸ List.nil_prefix)
    · exact .inl hstdout
  | tagged hsettings houtcome hcount hending hstdout =>
    exact .inr (hstdout ▸ streamed_front_stream _ _ _)

end Concludes

/-- The exit code of a run with accepted arguments is zero if its settings are resolved, tagging
comes to its end and some input is not passed over, and else one. Usage and script are printed
exactly if all inputs are passed over, and then the script is all that standard output gets.
Otherwise it gets a front part of the files' tag lines: all of them if the code is zero, none of
them if they go to a file. -/
theorem run_exit_and_output (inv : Invocation) (parsed : Arguments.Parsed)
    (hparsed : Arguments.parse inv.arguments = .ok parsed) (hhelp : parsed.help = false) :
    let result := run inv
    let files := parsed.files.getD []
    (∀ code, result.ending = .exit code → code = 0 ∨ code = 1) ∧
    (result.ending = .exit 0 ↔ ∃ processed, Completes inv parsed processed ∧ 0 < processed) ∧
    (∀ code, result.ending = .exit code →
      (Completes inv parsed 0 ↔ result.stdout.chunks = [scriptText inv] ∧
        result.console.stderr = logText inv parsed ++ usageText inv) ∧
      (¬Completes inv parsed 0 → result.stdout.chunks <+: stream inv files ∧
        result.console.stderr = logText inv parsed)) ∧
    (∀ level output, resolved? inv parsed = some (level, output) →
      (∀ count, (deliver inv files output).outcome = .ok count →
        ∃ processed : Nat, count = processed ∧ Completes inv parsed processed ∧
          (FreshScratch inv files output → Treats inv.store inv.reader files processed)) ∧
      (result.ending = .exit 0 →
        result.stdout.chunks = if output = stdoutMark then stream inv files else []) ∧
      ∀ failure, (deliver inv files output).outcome = .error failure →
        result.stdout.chunks <+: if output = stdoutMark then stream inv files else []) ∧
    (result.stdout.chunks = [scriptText inv] ∨ result.stdout.chunks <+: stream inv files) := by
  intro result files
  have hconcludes : Concludes inv parsed result := run_concludes hparsed hhelp
  obtain ⟨hcodes, hzero⟩ := hconcludes.exit_code
  refine ⟨hcodes, hzero, ?_, ?_, hconcludes.unmixed⟩
  · intro code hcode
    rcases hconcludes.offers hcode with ⟨hidle, hprinted⟩ | ⟨hbusy, hlines, hlog⟩
    · exact ⟨⟨fun _ => hprinted, fun _ => hidle⟩, fun hbusy => absurd hidle hbusy⟩
    · refine ⟨⟨fun hidle => absurd hidle hbusy, ?_⟩, fun _ => ⟨hlines, hlog⟩⟩
      rintro ⟨_, hstderr⟩
      exact absurd (hlog.symm.trans hstderr) (ne_append_usageText _ inv)
  · intro level output hsettings
    refine ⟨?_, hconcludes.stdout_due hsettings⟩
    intro count houtcome
    obtain ⟨processed, hcount, htreats⟩ := deliver_ok houtcome
    exact ⟨processed, hcount, ⟨level, output, hsettings, ⟨count, houtcome⟩, htreats⟩,
      fun hfresh => htreats.of_freshScratch hfresh⟩

/-- Runs over files of which `b.zig` is there, with two bindings, and `d.zig` may not be read. -/
def indexing (arguments : List String) : Invocation :=
  { program := Bytes.ofString "ztags"
    arguments := arguments.map Bytes.ofString
    store := Session.twoBindingsOneDenied
    reader := Session.readTwoBindings
    documents := Yaml.reader fun _ => ""
    scratch := { stamp := Bytes.ofString "k3" } }

theorem resolved?_indexing (arguments : List String) (files : Option (List Bytes)) :
    resolved? (indexing arguments) { files := files } = some (.warning, stdoutMark) := by
  have hbare : resolved? (indexing []) {} = some (.warning, stdoutMark) := by decide +kernel
  exact hbare

theorem resolved?_indexing_into (arguments : List String) (files : Option (List Bytes)) :
    resolved? (indexing arguments)
      { files := files, output := some (.text (Bytes.ofString "tags")) } =
        some (.warning, Bytes.ofString "tags") := by
  have hbare : resolved? (indexing []) { output := some (.text (Bytes.ofString "tags")) } =
      some (.warning, Bytes.ofString "tags") := by decide +kernel
  exact hbare

/-- One run writes to standard output and one to a file. Of two more into the file, the first finds
its only input missing and the second comes to an input that it may not read. -/
theorem run_to_stdout_to_file_idle_denied :
    let toStdout := run (indexing ["a.zig", "b.zig"])
    let toFile := run (indexing ["-o", "tags", "a.zig", "b.zig"])
    let idle := run (indexing ["-o", "tags", "a.zig"])
    let denied := run (indexing ["-o", "tags", "b.zig", "d.zig"])
    let script := "#!/usr/bin/env bash\n# Usage: ./ztags.sh FILE... > tags\nset -euo pipefail\n" ++
      "printf '!_TAG_FILE_FORMAT\\t2\\t/extended format/\\n'\n" ++
      "printf '!_TAG_FILE_SORTED\\t1\\t/0=unsorted, 1=sorted, 2=foldcase/\\n'\n" ++
      "ztags \"$@\" | LC_ALL=C sort -u\n"
    (toStdout.ending = .exit 0 ∧
      toStdout.stdout.chunks = [Session.tagOfA.line, Session.tagOfB.line]) ∧
    (toFile.ending = .exit 0 ∧ toFile.stdout.chunks = []) ∧
    (idle.ending = .exit 1 ∧ idle.stdout.chunks = [Bytes.ofString script] ∧
      idle.console.stderr = "WARNING | source=a.zig | tagging.extractor | " ++
        "Input 'a.zig' not found, skipping...\nUsage: ztags FILE(s)\n\nTo sort and speed up " ++
        "large tag files you may want to use the following pipe-able bash script to generate a " ++
        "tags file\n") ∧
    (denied.ending = .exit 1 ∧ denied.stdout.chunks = [] ∧
      denied.console.stderr =
        "ERROR | source=- | run_ztags | File error: [Errno 13] Permission denied: 'd.zig'\n") := by
  intro toStdout toFile idle denied script
  let a := Bytes.ofString "a.zig"
  let b := Bytes.ofString "b.zig"
  let d := Bytes.ofString "d.zig"
  let tags := Bytes.ofString "tags"
  have hmark : tags ≠ stdoutMark := by decide
  refine ⟨?_, ?_, ?_, ?_⟩
  · obtain ⟨_, hzero, _, hends, _⟩ := run_exit_and_output (indexing ["a.zig", "b.zig"])
      { files := some [a, b] } (by decide) rfl
    obtain ⟨hok, hstdout, _⟩ := hends _ _ (resolved?_indexing _ _)
    obtain ⟨processed, hone, hcompletes, _⟩ := hok 1 (by rfl)
    have hcode := hzero.mpr ⟨processed, hcompletes, by omega⟩
    exact ⟨hcode, (hstdout hcode).trans (by decide)⟩
  · obtain ⟨_, hzero, _, hends, _⟩ := run_exit_and_output
      (indexing ["-o", "tags", "a.zig", "b.zig"])
      { files := some [a, b], output := some (.text tags) } (by decide) rfl
    obtain ⟨hok, hstdout, _⟩ := hends _ _ (resolved?_indexing_into _ _)
    obtain ⟨processed, hone, hcompletes, _⟩ := hok 1 (by rfl)
    have hcode := hzero.mpr ⟨processed, hcompletes, by omega⟩
    exact ⟨hcode, (hstdout hcode).trans (if_neg hmark)⟩
  · let inv := indexing ["-o", "tags", "a.zig"]
    let parsed : Arguments.Parsed := { files := some [a], output := some (.text tags) }
    have hparsed : Arguments.parse inv.arguments = .ok parsed := by decide
    have hsettings : resolved? inv parsed = some (.warning, tags) := resolved?_indexing_into _ _
    obtain ⟨_, _, hprints, hends, _⟩ := run_exit_and_output inv parsed hparsed rfl
    obtain ⟨processed, hnone, hcompletes, _⟩ := (hends .warning tags hsettings).1 0 (by rfl)
    obtain rfl := Int.natCast_eq_zero.mp hnone.symm
    have hidle : idle = start inv parsed := run_of_parsed hparsed rfl
    have hcode : idle.ending = .exit 1 := by
      rw [hidle, start_of_resolved hsettings]
      rfl
    obtain ⟨hstdout, hstderr⟩ := (hprints 1 hcode).1.mp hcompletes
    have hscript : Help.sortScript (Text.displayPath (programName inv.program)) = script := by
      decide +kernel
    rw [scriptText, hscript] at hstdout
    exact ⟨hcode, hstdout, hstderr.trans (by decide +kernel)⟩
  · let inv := indexing ["-o", "tags", "b.zig", "d.zig"]
    let parsed : Arguments.Parsed := { files := some [b, d], output := some (.text tags) }
    have hparsed : Arguments.parse inv.arguments = .ok parsed := by decide
    have hsettings : resolved? inv parsed = some (.warning, tags) := resolved?_indexing_into _ _
    have houtcome : (deliver inv [b, d] tags).outcome =
        .error (.fault (.system (Session.permissionDenied d))) := by rfl
    obtain ⟨_, _, hprints, hends, _⟩ := run_exit_and_output inv parsed hparsed rfl
    have hdenied : denied = start inv parsed := run_of_parsed hparsed rfl
    have hcode : denied.ending = .exit 1 := by
      rw [hdenied, start_of_resolved hsettings]
      rfl
    have hstdout := (hends .warning tags hsettings).2.2 _ houtcome
    rw [if_neg hmark, List.prefix_nil] at hstdout
    have hbusy : ¬Completes inv parsed 0 := not_completes_of_failed hsettings houtcome 0
    obtain ⟨_, hstderr⟩ := (hprints 1 hcode).2 hbusy
    have hlog : logText inv parsed =
        "ERROR | source=- | run_ztags | File error: [Errno 13] Permission denied: 'd.zig'\n" := by
      decide +kernel
    exact ⟨hcode, hstdout, hlog ▸ hstderr⟩

end Program

end TagIndex
