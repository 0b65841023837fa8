import Mathlib.Data.List.Forall2
import TagIndex.Batch
import TagIndex.Proofs.Run

namespace TagIndex

/-- The faults of reading that a batch passes over: nothing is there, or a directory. -/
def Fault.isAbsence : Fault → Bool
  | .system fault => fault.condition = .notFound || fault.condition = .isDirectory
  | .invalid _ => false

/-- Whether a batch passes over a path. -/
def Store.skips (store : Store) (path : Bytes) : Bool :=
  match store.read path with
  | .error fault => fault.isAbsence
  | .ok _ => false

/-- The path in a notice that an input is skipped. -/
def Notice.skipped? : Notice → Option Bytes
  | .directorySkipped path | .missingSkipped path => some path
  | _ => none

/-- The inputs that a journal calls skipped. -/
def Journal.skipped (journal : Journal) : List Bytes :=
  journal.entries.filterMap (·.notice.skipped?)

namespace Session

/-- From `before` to `after` the source stays and no input is called skipped. -/
structure Quiet (before after : Session) : Prop where
  source : after.journal.source = before.journal.source
  skipped : after.journal.skipped = before.journal.skipped

namespace Quiet

theorem refl (session : Session) : Quiet session session := ⟨rfl, rfl⟩

theorem trans {first second third : Session} (h : Quiet first second) (k : Quiet second third) :
    Quiet first third :=
  ⟨k.source.trans h.source, k.skipped.trans h.skipped⟩

theorem note {before after : Session} {notice : Notice} (h : Quiet before after)
    (hnotice : notice.skipped? = none) : Quiet before (after.note notice) := by
  refine ⟨h.source, ?_⟩
  simpa [Session.note, Journal.note, Journal.skipped, List.filterMap_append, hnotice]
    using h.skipped

end Quiet

theorem emit_quiet (session : Session) (tag : Tag) : Quiet session (session.emit tag).2 := by
  unfold emit
  split
  · refine Quiet.note ?_ rfl
    exact ⟨rfl, rfl⟩
  · exact ⟨rfl, rfl⟩
  · exact ⟨rfl, rfl⟩

theorem take_quiet (session : Session) (step : Syntax.Step) :
    Quiet session (session.take step).2 := by
  cases step with
  | skip offset => exact (Quiet.refl session).note rfl
  | tag draft =>
    rw [take, emitDraft]
    split
    · exact emit_quiet session _
    · exact .refl session

theorem perform_quiet (session : Session) (steps : List Syntax.Step) :
    Quiet session (session.perform steps).2 := by
  induction steps generalizing session with
  | nil => exact .refl session
  | cons step rest ih =>
    have hstep := take_quiet session step
    rw [perform]
    split
    · rename_i next hnext
      rw [hnext] at hstep
      exact hstep.trans (ih next)
    · rename_i failure next hnext
      rwa [hnext] at hstep

theorem extract_quiet (session : Session) (tree : Syntax.Tree) (path : Bytes) :
    Quiet session (session.extract tree path).2 := by
  have hrun := perform_quiet session (tree.steps path)
  rw [extract]
  split
  · rename_i done hdone
    rw [hdone] at hrun
    exact hrun.note rfl
  · rename_i failure done hdone
    rwa [hdone] at hrun

/-- A file that can be read is tagged by a session that has noted what the parser says. -/
theorem tagFile_of_read {store : Store} {path source : Bytes} (reader : Reader)
    (session : Session) (h : store.read path = .ok source) :
    ∃ ready : Session, ready.sink = session.sink ∧ ready.written = session.written ∧
      Quiet session ready ∧ session.tagFile store reader path =
        ((ready.extract (reader source) path).1.map fun _ => (reader source).faults,
          (ready.extract (reader source) path).2) := by
  let parsed := (session.parse reader source).2.note (.fileParsed path)
  let ready := if (reader source).faults = 0 then parsed
    else parsed.note (.fileFaulty path (reader source).faults)
  have hparsed : parsed.sink = session.sink ∧ parsed.written = session.written ∧
      Quiet session parsed := by
    simp only [parsed, parse]
    split_ifs
    · exact ⟨rfl, rfl, (((Quiet.refl session).note rfl).note rfl).note rfl⟩
    · exact ⟨rfl, rfl, ((((Quiet.refl session).note rfl).note rfl).note rfl).note rfl⟩
  have hready : ready.sink = session.sink ∧ ready.written = session.written ∧
      Quiet session ready := by
    simp only [ready]
    split_ifs
    · exact hparsed
    · exact ⟨hparsed.1, hparsed.2.1, hparsed.2.2.note rfl⟩
  refine ⟨ready, hready.1, hready.2.1, hready.2.2, ?_⟩
  have htree : (session.parse reader source).1 = reader source := rfl
  simp only [tagFile, h, htree, ready, parsed]
  split <;> rename_i hextract <;> rw [hextract] <;> rfl

theorem skipNotice?_of_isAbsence {fault : Fault} (h : fault.isAbsence) (path : Bytes) :
    ∃ notice, skipNotice? path (.fault fault) = some notice ∧ notice.skipped? = some path := by
  cases fault with
  | invalid message => cases h
  | system fault =>
    simp only [Fault.isAbsence, Bool.or_eq_true, decide_eq_true_eq] at h
    rcases h with h | h <;> simp [skipNotice?, h, Notice.skipped?]

theorem skipNotice?_of_not_isAbsence {fault : Fault} (h : ¬fault.isAbsence) (path : Bytes) :
    skipNotice? path (.fault fault) = none := by
  cases fault with
  | invalid message => rfl
  | system fault =>
    simp only [Fault.isAbsence, Bool.or_eq_true, decide_eq_true_eq, not_or] at h
    simp only [skipNotice?]
    split <;> simp_all

/-- A fault of the sink is never taken for a missing input, whatever its condition. -/
theorem skipNotice?_ofSink (path name : Bytes) (fault : Fault) :
    skipNotice? path (.ofSink name fault) = none := by
  cases fault <;> rfl

theorem not_skips_of_read {store : Store} {path source : Bytes}
    (h : store.read path = .ok source) : store.skips path = false := by
  rw [Store.skips, h]

/-- What a batch gets from a path that does not stop it: nothing from one that it passes over, else
the tags of all drafts. -/
def Yields (store : Store) (reader : Reader) (path : Bytes) (tags : List Tag) : Prop :=
  (store.skips path ∧ tags = []) ∨
    ∃ source, store.read path = .ok source ∧ (reader source).drafts path = tags.map Tag.draft

theorem Yields.unique {store : Store} {reader : Reader} {path : Bytes} {a b : List Tag}
    (h : Yields store reader path a) (k : Yields store reader path b) : a = b := by
  rcases h with ⟨ha, rfl⟩ | ⟨source, hread, ha⟩ <;> rcases k with ⟨hb, rfl⟩ | ⟨other, hother, hb⟩
  · rfl
  · simp [not_skips_of_read hother] at ha
  · simp [not_skips_of_read hread] at hb
  · obtain rfl := Except.ok.inj (hread.symm.trans hother)
    exact (List.map_inj_right fun _ _ heq => Tag.draft_injective heq).mp (ha.symm.trans hb)

/-- How a path stops a batch on a device that had `calls` calls: it cannot be read, or tagging it
breaks behind `tags`. -/
inductive Stops (store : Store) (reader : Reader) (device : Device) (calls : Nat) (path : Bytes)
    (tags : List Tag) : Failure → Prop
  | unreadable {fault : Fault} (hread : store.read path = .error fault)
      (hfault : ¬fault.isAbsence) (htags : tags = []) :
      Stops store reader device calls path tags (.fault fault)
  | broken {source : Bytes} {failure : Failure} (hread : store.read path = .ok source)
      (hbreaks : Breaks device calls ((reader source).drafts path) tags failure) :
      Stops store reader device calls path tags failure

theorem Breaks.skipNotice?_eq_none {device : Device} {calls : Nat} {drafts : List Draft}
    {tags : List Tag} {failure : Failure} (h : Breaks device calls drafts tags failure)
    (path : Bytes) : skipNotice? path failure = none := by
  cases h with
  | refused hdrafts hcheck => rfl
  | unwritten hdrafts hcall => exact skipNotice?_ofSink path _ _

variable {store : Store} {reader : Reader} {session done : Session} {path : Bytes}
  {paths : List Bytes} {tags : List Tag} {failure : Failure}

theorem tagPath_of_skips (reader : Reader) (session : Session) (h : store.skips path) :
    ∃ done, session.tagPath store reader path = (.ok .ofSkipped, done) ∧
      done.sink = session.sink ∧ done.written = session.written ∧
      done.journal.source = session.journal.source ∧
      done.journal.skipped = session.journal.skipped ++ [path] := by
  cases hread : store.read path with
  | ok source => simp [Store.skips, hread] at h
  | error fault =>
    have habsence : fault.isAbsence := by simpa [Store.skips, hread] using h
    obtain ⟨notice, hnotice, hskipped⟩ := skipNotice?_of_isAbsence habsence path
    simp only [tagPath, tagFile, hread, hnotice]
    refine ⟨_, rfl, rfl, rfl, rfl, ?_⟩
    simp [withSource, note, Journal.withSource, Journal.note, Journal.skipped, hskipped]

theorem tagPath_of_fault {fault : Fault} (reader : Reader) (session : Session)
    (hread : store.read path = .error fault) (h : ¬fault.isAbsence) :
    ∃ done, session.tagPath store reader path = (.error (.fault fault), done) ∧
      done.sink = session.sink ∧ done.written = session.written ∧ Quiet session done := by
  simp only [tagPath, tagFile, hread, skipNotice?_of_not_isAbsence h path]
  exact ⟨_, rfl, rfl, rfl, rfl, rfl⟩

/-- A path that can be read counts as processed if its extraction ends well, and stops the batch
otherwise. -/
theorem tagPath_of_read {source : Bytes} (reader : Reader) (session : Session)
    (hread : store.read path = .ok source) :
    ∃ ready last : Session, ready.sink = session.sink ∧ ready.written = session.written ∧
      Quiet session (last.withSource session.journal.source) ∧
      ((∃ count, ready.extract (reader source) path = (.ok count, last) ∧
        session.tagPath store reader path =
          (.ok (.ofFile (last.written - session.written) (reader source).faults),
            last.withSource session.journal.source)) ∨
      ∃ failure, ready.extract (reader source) path = (.error failure, last) ∧
        session.tagPath store reader path =
          (.error failure, last.withSource session.journal.source)) := by
  obtain ⟨ready, hsink, hwritten, hquiet, hfile⟩ :=
    tagFile_of_read reader (session.withSource path) hread
  have hlast := hquiet.trans (extract_quiet ready (reader source) path)
  rcases hrun : ready.extract (reader source) path with ⟨failure | count, last⟩
  · rw [hrun] at hfile hlast
    obtain ⟨tags, _, hbreaks⟩ := breaks_of_extract hrun
    have hnotice := hbreaks.skipNotice?_eq_none path
    refine ⟨ready, last, hsink, hwritten, ⟨rfl, hlast.skipped⟩, .inr ⟨failure, hrun, ?_⟩⟩
    rw [tagPath, hfile]
    simp only [Except.map, hnotice]
  · rw [hrun] at hfile hlast
    refine ⟨ready, last, hsink, hwritten, ⟨rfl, hlast.skipped⟩, .inl ⟨count, hrun, ?_⟩⟩
    rw [tagPath, hfile]
    rfl

/-- From `before` to `after` the source stays, and the paths called skipped are those of `paths`
that a batch passes over. -/
structure Noted (store : Store) (before after : Session) (paths : List Bytes) : Prop where
  source : after.journal.source = before.journal.source
  skipped : after.journal.skipped = before.journal.skipped ++ paths.filter store.skips

theorem Noted.trans {first second third : Session} {a b : List Bytes}
    (h : Noted store first second a) (k : Noted store second third b) :
    Noted store first third (a ++ b) where
  source := k.source.trans h.source
  skipped := by rw [k.skipped, h.skipped, List.filter_append, List.append_assoc]

/-- The counters of processed and skipped files say which paths a batch passed over. -/
def Counts (store : Store) (paths : List Bytes) (stats : Stats) : Prop :=
  stats.processed = paths.countP (!store.skips ·) ∧ stats.skipped = paths.countP store.skips

theorem Counts.add {a b : List Bytes} {s t : Stats} (h : Counts store a s)
    (k : Counts store b t) : Counts store (a ++ b) (s + t) := by
  constructor
  · rw [List.countP_append, Int.natCast_add, ← h.1, ← k.1]
    rfl
  · rw [List.countP_append, Int.natCast_add, ← h.2, ← k.2]
    rfl

/-- The notes of one path, however its tagging ends. -/
theorem tagPath_noted (store : Store) (reader : Reader) (session : Session) (path : Bytes) :
    Noted store session (session.tagPath store reader path).2 [path] := by
  have hquiet {after : Session} (hskips : store.skips path = false) (h : Quiet session after) :
      Noted store session after [path] := ⟨h.source, by simpa [hskips] using h.skipped⟩
  by_cases hskips : store.skips path
  · obtain ⟨done, hdone, _, _, hsource, hskipped⟩ :=
      tagPath_of_skips reader session hskips
    rw [hdone]
    exact ⟨hsource, by simpa [hskips] using hskipped⟩
  · have hskips : store.skips path = false := by simpa using hskips
    cases hread : store.read path with
    | error fault =>
      have hfault : ¬fault.isAbsence := by simpa [Store.skips, hread] using hskips
      obtain ⟨done, hdone, _, _, h⟩ := tagPath_of_fault reader session hread hfault
      rw [hdone]
      exact hquiet hskips h
    | ok source =>
      obtain ⟨_, last, _, _, h, ⟨_, _, hpath⟩ | ⟨_, _, hpath⟩⟩ :=
        tagPath_of_read reader session hread
      · rw [hpath]
        exact hquiet hskips h
      · rw [hpath]
        exact hquiet hskips h

/-- A path that does not stop a batch yields what was written for it. -/
theorem tagPath_ok {stats : Stats} (h : session.tagPath store reader path = (.ok stats, done)) :
    ∃ tags, Yields store reader path tags ∧ Wrote session done tags ∧
      Counts store [path] stats := by
  by_cases hskips : store.skips path
  · obtain ⟨last, hlast, hsink, hwritten, _⟩ := tagPath_of_skips reader session hskips
    obtain ⟨rfl, rfl⟩ : Stats.ofSkipped = stats ∧ last = done := by
      simpa using hlast.symm.trans h
    refine ⟨[], .inl ⟨hskips, rfl⟩, .nil hsink hwritten, ?_⟩
    simp [Counts, hskips, Stats.ofSkipped]
  · have hskips : store.skips path = false := by simpa using hskips
    cases hread : store.read path with
    | error fault =>
      have hfault : ¬fault.isAbsence := by simpa [Store.skips, hread] using hskips
      obtain ⟨last, hlast, _⟩ := tagPath_of_fault reader session hread hfault
      cases hlast.symm.trans h
    | ok source =>
      obtain ⟨ready, last, hsink, hwritten, _, ⟨count, hrun, hpath⟩ | ⟨failure, _, hpath⟩⟩ :=
        tagPath_of_read reader session hread
      · obtain ⟨tags, hdrafts, hwrote, _⟩ := extract_ok hrun
        have hall := (Wrote.nil hsink hwritten).trans hwrote
        obtain ⟨hstats, rfl⟩ := Prod.mk.inj (hpath.symm.trans h)
        obtain rfl := Except.ok.inj hstats
        refine ⟨tags, .inr ⟨source, hread, hdrafts⟩, hall.same_sink rfl rfl, ?_⟩
        simp [Counts, hskips, Stats.ofFile]
      · cases hpath.symm.trans h

theorem tagPath_of_yields (h : Yields store reader path tags)
    (htakes : session.sink.device.Takes session.sink.writes tags.length) :
    ∃ stats done, session.tagPath store reader path = (.ok stats, done) := by
  rcases h with ⟨hskips, _⟩ | ⟨source, hread, hdrafts⟩
  · obtain ⟨done, hdone, _⟩ := tagPath_of_skips reader session hskips
    exact ⟨_, done, hdone⟩
  · obtain ⟨ready, last, hsink, _, _, ⟨_, _, hpath⟩ | ⟨failure, hrun, _⟩⟩ :=
      tagPath_of_read reader session hread
    · exact ⟨_, _, hpath⟩
    · rw [← hsink] at htakes
      obtain ⟨count, done, hok⟩ := extract_of_takes hdrafts htakes
      cases hok.symm.trans hrun

/-- A path that stops a batch does so behind the lines that were written for it. -/
theorem tagPath_of_stops
    (htakes : session.sink.device.Takes session.sink.writes tags.length)
    (h : Stops store reader session.sink.device session.sink.writes path tags failure) :
    ∃ done, session.tagPath store reader path = (.error failure, done) ∧
      Broke session done tags failure := by
  cases h with
  | unreadable hread hfault htags =>
    obtain ⟨done, hdone, hsink, hwritten, _⟩ := tagPath_of_fault reader session hread hfault
    subst htags
    refine ⟨done, hdone, by simp [hsink], by simp [hwritten], ?_⟩
    intro call fault hfrom hto _
    rw [hsink] at hto
    omega
  | @broken source failure hread hbreaks =>
    obtain ⟨ready, last, hsink, hwritten, _, ⟨_, hrun, _⟩ | ⟨other, hrun, hpath⟩⟩ :=
      tagPath_of_read reader session hread
    all_goals
      rw [← hsink] at htakes hbreaks
      obtain ⟨stopped, hstopped, hbroke⟩ := extract_of_breaks htakes hbreaks
      obtain ⟨hsame, rfl⟩ := Prod.mk.inj (hrun.symm.trans hstopped)
    · cases hsame
    · obtain rfl := Except.error.inj hsame
      have hall := (Wrote.nil hsink hwritten).broke hbroke
      exact ⟨_, hpath, hall.chunks, hall.written, hall.told⟩

theorem stops_of_tagPath (h : session.tagPath store reader path = (.error failure, done)) :
    ∃ tags : List Tag, session.sink.device.Takes session.sink.writes tags.length ∧
      Stops store reader session.sink.device session.sink.writes path tags failure := by
  by_cases hskips : store.skips path
  · obtain ⟨last, hlast, _⟩ := tagPath_of_skips reader session hskips
    cases hlast.symm.trans h
  · cases hread : store.read path with
    | error fault =>
      have hfault : ¬fault.isAbsence := by simpa [Store.skips, hread] using hskips
      obtain ⟨last, hlast, _⟩ := tagPath_of_fault reader session hread hfault
      obtain ⟨rfl, _⟩ : .fault fault = failure ∧ last = done := by simpa using hlast.symm.trans h
      exact ⟨[], nofun, .unreadable hread hfault rfl⟩
    | ok source =>
      obtain ⟨ready, last, hsink, _, _, ⟨_, _, hpath⟩ | ⟨other, hrun, hpath⟩⟩ :=
        tagPath_of_read reader session hread
      · cases hpath.symm.trans h
      · obtain ⟨rfl, _⟩ : other = failure ∧ _ = done := by simpa using hpath.symm.trans h
        obtain ⟨tags, htakes, hbreaks⟩ := breaks_of_extract hrun
        rw [hsink] at htakes hbreaks
        exact ⟨tags, htakes, .broken hread hbreaks⟩

theorem tagPaths_append (stats : Stats) (a b : List Bytes) :
    session.tagPaths store reader stats (a ++ b) =
      match session.tagPaths store reader stats a with
      | (.ok stats, next) => next.tagPaths store reader stats b
      | (.error failure, next) => (.error failure, next) := by
  induction a generalizing session stats with
  | nil => rfl
  | cons path rest ih =>
    simp only [List.cons_append, tagPaths]
    rcases session.tagPath store reader path with ⟨failure | one, next⟩
    · rfl
    · exact ih (stats + one)

/-- A batch that comes to its end has what each path yields, in order, and counts the paths. -/
theorem tagPaths_ok {stats total : Stats} {seen : List Bytes} (hseen : Counts store seen stats)
    (h : session.tagPaths store reader stats paths = (.ok total, done)) :
    ∃ outputs, List.Forall₂ (Yields store reader) paths outputs ∧
      Wrote session done outputs.flatten ∧ Counts store (seen ++ paths) total ∧
      Noted store session done paths := by
  induction paths generalizing session stats seen with
  | nil =>
    obtain ⟨rfl, rfl⟩ : stats = total ∧ session = done := by simpa [tagPaths] using h
    exact ⟨[], .nil, .nil rfl rfl, by simpa using hseen, rfl, by simp⟩
  | cons path rest ih =>
    unfold tagPaths at h
    split at h
    · rename_i one next hnext
      obtain ⟨tags, hyields, hwrote, hcounts⟩ := tagPath_ok hnext
      have hnoted := tagPath_noted store reader session path
      rw [hnext] at hnoted
      obtain ⟨outputs, houtputs, hmore, htotal, hrest⟩ := ih (hseen.add hcounts) h
      refine ⟨tags :: outputs, .cons hyields houtputs, hwrote.trans hmore, ?_,
        hnoted.trans hrest⟩
      rwa [List.append_assoc] at htotal
    · cases h

theorem tagPaths_of_yields {outputs : List (List Tag)} (stats : Stats)
    (h : List.Forall₂ (Yields store reader) paths outputs)
    (htakes : session.sink.device.Takes session.sink.writes outputs.flatten.length) :
    ∃ total done, session.tagPaths store reader stats paths = (.ok total, done) ∧
      Wrote session done outputs.flatten := by
  induction h generalizing session stats with
  | nil => exact ⟨stats, session, rfl, .nil rfl rfl⟩
  | @cons path tags rest outputs hyields _ ih =>
    rw [List.flatten_cons, List.length_append] at htakes
    have hfirst : session.sink.device.Takes session.sink.writes tags.length :=
      fun i hi => htakes i (by omega)
    obtain ⟨one, next, hnext⟩ := tagPath_of_yields hyields hfirst
    obtain ⟨found, hfound, hwrote, _⟩ := tagPath_ok hnext
    obtain rfl : found = tags := hfound.unique hyields
    obtain ⟨total, done, hdone, hmore⟩ := ih (stats + one) ((hwrote.takes_iff _).mpr htakes)
    refine ⟨total, done, ?_, hwrote.trans hmore⟩
    rw [tagPaths, hnext]
    exact hdone

theorem tagPaths_congr {other : Store} (stats : Stats)
    (h : ∀ path ∈ paths, other.read path = store.read path) :
    session.tagPaths other reader stats paths = session.tagPaths store reader stats paths := by
  induction paths generalizing session stats with
  | nil => rfl
  | cons path rest ih =>
    have hpath : session.tagPath other reader path = session.tagPath store reader path := by
      simp only [tagPath, tagFile, h path (by simp)]
    rw [tagPaths, tagPaths, hpath]
    rcases session.tagPath store reader path with ⟨failure | one, next⟩
    · rfl
    · exact ih (stats + one) fun path hmem => h path (by simp [hmem])

/-- A batch comes to the paths `before`, gets `outputs` from them, and stops at `path` behind
`tags`. -/
structure Halts (store : Store) (reader : Reader) (session : Session) (before : List Bytes)
    (path : Bytes) (outputs : List (List Tag)) (tags : List Tag) (failure : Failure) : Prop where
  earlier : List.Forall₂ (Yields store reader) before outputs
  takes : session.sink.device.Takes session.sink.writes (outputs.flatten ++ tags).length
  stops : Stops store reader session.sink.device (session.sink.writes + outputs.flatten.length)
    path tags failure

theorem Stops.not_skips {device : Device} {calls : Nat}
    (h : Stops store reader device calls path tags failure) : store.skips path = false := by
  cases h with
  | unreadable hread hfault htags =>
    rw [Store.skips, hread]
    simpa using hfault
  | broken hread hbreaks => exact not_skips_of_read hread

theorem counts_nil (store : Store) : Counts store [] {} := ⟨rfl, rfl⟩

/-- A path that stops a batch does so whatever follows it, in any store that reads the same up to
it. -/
theorem tagPaths_of_halts {before : List Bytes} {outputs : List (List Tag)}
    (h : Halts store reader session before path outputs tags failure) :
    ∃ done, Broke session done (outputs.flatten ++ tags) failure ∧
      Noted store session done before ∧ ∀ (other : Store) (later : List Bytes),
        (∀ q ∈ before ++ [path], other.read q = store.read q) →
        session.tagPaths other reader {} (before ++ path :: later) = (.error failure, done) := by
  obtain ⟨hearlier, htakes, hstops⟩ := h
  rw [List.length_append] at htakes
  obtain ⟨total, next, hnext, hwrote⟩ := tagPaths_of_yields {} hearlier
    fun i hi => htakes i (by omega)
  obtain ⟨_, _, _, _, hnoted⟩ := tagPaths_ok (counts_nil store) hnext
  have hmore := (hwrote.takes_iff tags.length).mpr htakes
  rw [← hwrote.writes, ← hwrote.device] at hstops
  obtain ⟨done, hdone, hbroke⟩ := tagPath_of_stops hmore hstops
  have hlast := tagPath_noted store reader next path
  rw [hdone] at hlast
  refine ⟨done, hwrote.broke hbroke, ?_, ?_⟩
  · have hboth := hnoted.trans hlast
    exact ⟨hboth.source, by simpa [hstops.not_skips] using hboth.skipped⟩
  · intro other later hsame
    have hfront : session.tagPaths store reader {} (before ++ [path]) = (.error failure, done) := by
      rw [tagPaths_append, hnext]
      simp only [tagPaths, hdone]
    rw [List.append_cons, tagPaths_append, tagPaths_congr {} hsame, hfront]

theorem halts_of_tagPaths {stats : Stats}
    (h : session.tagPaths store reader stats paths = (.error failure, done)) :
    ∃ before path after outputs tags, paths = before ++ path :: after ∧
      Halts store reader session before path outputs tags failure := by
  induction paths generalizing session stats with
  | nil => cases h
  | cons first rest ih =>
    unfold tagPaths at h
    split at h
    · rename_i one next hnext
      obtain ⟨made, hyields, hwrote, _⟩ := tagPath_ok hnext
      obtain ⟨before, path, after, outputs, tags, rfl, hearlier, htakes, hstops⟩ := ih h
      refine ⟨first :: before, path, after, made :: outputs, tags, rfl, .cons hyields hearlier,
        ?_, ?_⟩
      · rw [List.flatten_cons, List.append_assoc, List.length_append]
        exact (hwrote.takes_iff _).mp htakes
      · rw [hwrote.device, hwrote.writes, Nat.add_assoc] at hstops
        rwa [List.flatten_cons, List.length_append]
    · rename_i reason last hlast
      obtain ⟨rfl, _⟩ : reason = failure ∧ last = done := by simpa using h
      obtain ⟨tags, htakes, hstops⟩ := stops_of_tagPath hlast
      exact ⟨[], first, rest, [], tags, rfl, .nil, htakes, hstops⟩

theorem tagFiles_eq_error_iff :
    session.tagFiles store reader paths = (.error failure, done) ↔
      session.tagPaths store reader {} paths = (.error failure, done) := by
  unfold tagFiles
  rcases session.tagPaths store reader {} paths with ⟨reason | total, last⟩ <;> simp

theorem tagFiles_ok {stats : Stats}
    (h : session.tagFiles store reader paths = (.ok stats, done)) :
    ∃ outputs, List.Forall₂ (Yields store reader) paths outputs ∧
      Wrote session done outputs.flatten ∧ Counts store paths stats ∧
      Noted store session done paths := by
  unfold tagFiles at h
  split at h
  · rename_i total last hlast
    obtain ⟨hstats, rfl⟩ := Prod.mk.inj h
    obtain rfl := Except.ok.inj hstats
    obtain ⟨outputs, houtputs, hwrote, hcounts, hnoted⟩ := tagPaths_ok (counts_nil store) hlast
    have hquiet : Quiet last (last.note (.runComplete total)) := (Quiet.refl last).note rfl
    exact ⟨outputs, houtputs, hwrote.same_sink rfl rfl, hcounts,
      hquiet.source.trans hnoted.source, hquiet.skipped.trans hnoted.skipped⟩
  · cases h

/-- A batch of paths that all yield comes to its end on a device that takes all their tags. -/
theorem tagFiles_of_yields {outputs : List (List Tag)}
    (h : List.Forall₂ (Yields store reader) paths outputs)
    (htakes : session.sink.device.Takes session.sink.writes outputs.flatten.length) :
    ∃ stats done, session.tagFiles store reader paths = (.ok stats, done) ∧
      Wrote session done outputs.flatten ∧ Counts store paths stats := by
  obtain ⟨total, last, hlast, hwrote⟩ := tagPaths_of_yields {} h htakes
  obtain ⟨_, _, _, hcounts, _⟩ := tagPaths_ok (counts_nil store) hlast
  exact ⟨total, last.note (.runComplete total), by rw [tagFiles, hlast],
    hwrote.same_sink rfl rfl, hcounts⟩

theorem tagFiles_congr {other : Store} (session : Session) (reader : Reader)
    (h : ∀ path ∈ paths, other.read path = store.read path) :
    session.tagFiles other reader paths = session.tagFiles store reader paths := by
  rw [tagFiles, tagFiles, tagPaths_congr {} h]

/-- A batch fails exactly if some path stops it. The sink then holds the lines of all earlier paths
and those that were written for the last one, the journal is back at its source, and nothing behind
that path matters. Whatever a device answers as a system fault is told as a failure to write, and
only inputs that are absent are counted or noted as skipped. -/
theorem tagFiles_stops_at_failure (store : Store) (reader : Reader) (session : Session)
    (paths : List Bytes) :
    ((∃ failure done, session.tagFiles store reader paths = (.error failure, done)) ↔
      ∃ before path after outputs tags failure, paths = before ++ path :: after ∧
        Halts store reader session before path outputs tags failure) ∧
    (∀ before path after outputs tags failure, paths = before ++ path :: after →
      Halts store reader session before path outputs tags failure →
      ∃ done, session.tagFiles store reader paths = (.error failure, done) ∧
        done.sink.chunks = session.sink.chunks ++ (outputs.flatten ++ tags).map Tag.line ∧
        done.written = session.written + (outputs.flatten ++ tags).length ∧
        done.journal.source = session.journal.source ∧
        done.journal.skipped = session.journal.skipped ++ before.filter store.skips ∧
        ∀ (other : Store) (later : List Bytes),
          (∀ q ∈ before ++ [path], other.read q = store.read q) →
          session.tagFiles other reader (before ++ path :: later) = (.error failure, done)) ∧
    (∀ result done, session.tagFiles store reader paths = (result, done) →
      ∀ call cause, session.sink.writes < call → call ≤ done.sink.writes →
        session.sink.device.onWrite call = some (.system cause) →
        ∃ name, result = .error (.write name cause)) ∧
    ∀ stats done, session.tagFiles store reader paths = (.ok stats, done) →
      stats.skipped = paths.countP store.skips ∧
      done.journal.source = session.journal.source ∧
      done.journal.skipped = session.journal.skipped ++ paths.filter store.skips := by
  refine ⟨⟨?_, ?_⟩, ?_, ?_, ?_⟩
  · intro h
    obtain ⟨failure, done, h⟩ := h
    obtain ⟨before, path, after, outputs, tags, heq, hhalts⟩ :=
      halts_of_tagPaths (tagFiles_eq_error_iff.mp h)
    exact ⟨before, path, after, outputs, tags, failure, heq, hhalts⟩
  · intro h
    obtain ⟨before, path, after, outputs, tags, failure, rfl, hhalts⟩ := h
    obtain ⟨done, _, _, hdone⟩ := tagPaths_of_halts hhalts
    exact ⟨failure, done, tagFiles_eq_error_iff.mpr (hdone store after fun _ _ => rfl)⟩
  · intro before path after outputs tags failure heq hhalts
    subst heq
    obtain ⟨done, hbroke, hnoted, hdone⟩ := tagPaths_of_halts hhalts
    have hany : ∀ (other : Store) (later : List Bytes),
        (∀ q ∈ before ++ [path], other.read q = store.read q) →
        session.tagFiles other reader (before ++ path :: later) = (.error failure, done) :=
      fun other later hsame => tagFiles_eq_error_iff.mpr (hdone other later hsame)
    exact ⟨done, hany store after fun _ _ => rfl, hbroke.chunks, hbroke.written, hnoted.source,
      hnoted.skipped, hany⟩
  · intro result done h call cause hfrom hto hfault
    rcases result with failure | stats
    · obtain ⟨before, path, after, outputs, tags, rfl, hhalts⟩ :=
        halts_of_tagPaths (tagFiles_eq_error_iff.mp h)
      obtain ⟨last, hbroke, _, hlast⟩ := tagPaths_of_halts hhalts
      have hsame := (tagFiles_eq_error_iff.mp h).symm.trans (hlast store after fun _ _ => rfl)
      obtain ⟨_, rfl⟩ := Prod.mk.inj hsame
      obtain ⟨name, rfl⟩ := hbroke.told call _ hfrom hto hfault
      exact ⟨name, rfl⟩
    · obtain ⟨_, _, hwrote, _⟩ := tagFiles_ok h
      rw [hwrote.none_of_le hfrom hto] at hfault
      cases hfault
  · intro stats done h
    obtain ⟨_, _, _, hcounts, hnoted⟩ := tagFiles_ok h
    exact ⟨hcounts.2, hnoted.source, hnoted.skipped⟩

/-- A session whose device answers the second call that something is not there. -/
def lostCall : Session :=
  { sink := { device := { onWrite := fun call =>
      if call = 2 then some (.system { condition := .notFound, reason := "gone" }) else none } } }

/-- A store with one file of two bindings. -/
def twoBindings : Store :=
  { workdir := [Bytes.ofString "w"]
    items := [([Bytes.ofString "w", Bytes.ofString "b.zig"],
      .file (Bytes.ofString "const a = 1;\nconst b = 2;") 0o644)] }

/-- The answer to reading a file without the permission to. -/
def permissionDenied (path : Bytes) : SystemFault :=
  { condition := .ofNumber 13, number := some 13, reason := "Permission denied", path := some path }

/-- The same store, in which `d.zig` may not be read. -/
def twoBindingsOneDenied : Store :=
  twoBindings.refuse (Bytes.ofString "d.zig") (permissionDenied (Bytes.ofString "d.zig"))

def readTwoBindings (source : Bytes) : Syntax.Tree :=
  { source := source
    declarations :=
      [{ shape := .binding, name := some ⟨6, 7⟩, init := some { shape := .other } },
       { shape := .binding, name := some ⟨19, 20⟩, init := some { shape := .other } }] }

def tagOfA : Tag :=
  ⟨Bytes.ofString "a", Bytes.ofString "b.zig", Bytes.ofString "const a = 1;", .binding, none,
    by decide, by decide⟩

def tagOfB : Tag :=
  ⟨Bytes.ofString "b", Bytes.ofString "b.zig", Bytes.ofString "const b = 2;", .binding, none,
    nofun, by decide⟩

theorem drafts_readTwoBindings :
    (readTwoBindings (Bytes.ofString "const a = 1;\nconst b = 2;")).drafts
      (Bytes.ofString "b.zig") = [tagOfA, tagOfB].map Tag.draft := rfl

theorem halts_lostCall :
    Halts twoBindings readTwoBindings lostCall [Bytes.ofString "a.zig"] (Bytes.ofString "b.zig")
      [[]] [tagOfA] (.write (Bytes.ofString "b") { condition := .notFound, reason := "gone" }) := by
  refine ⟨.cons (.inl ⟨rfl, rfl⟩) .nil, ?_, ?_⟩
  · intro i hi
    obtain rfl : i = 0 := by simpa using hi
    rfl
  · have hdrafts : (readTwoBindings (Bytes.ofString "const a = 1;\nconst b = 2;")).drafts
        (Bytes.ofString "b.zig") = [tagOfA].map Tag.draft ++ tagOfB.draft :: [] :=
      drafts_readTwoBindings
    have hcall : lostCall.sink.device.onWrite 2 =
        some (.system { condition := .notFound, reason := "gone" }) := rfl
    exact .broken rfl (.unwritten hdrafts hcall)

theorem halts_oneDenied :
    Halts twoBindingsOneDenied readTwoBindings {} [Bytes.ofString "a.zig", Bytes.ofString "b.zig"]
      (Bytes.ofString "d.zig") [[], [tagOfA, tagOfB]] []
      (.fault (.system (permissionDenied (Bytes.ofString "d.zig")))) := by
  refine ⟨.cons (.inl ⟨rfl, rfl⟩) (.cons (.inr ⟨_, rfl, drafts_readTwoBindings⟩) .nil), ?_, ?_⟩
  · exact fun _ _ => rfl
  · exact .unreadable rfl (by decide) rfl

/-- One batch loses its second call, to what is no missing input though it says so; another comes
to an input that it may not read. -/
theorem tagFiles_lostCall_oneDenied :
    let a := Bytes.ofString "a.zig"
    let b := Bytes.ofString "b.zig"
    let d := Bytes.ofString "d.zig"
    let cause : SystemFault := { condition := .notFound, reason := "gone" }
    (∃ done, lostCall.tagFiles twoBindings readTwoBindings [a, b, Bytes.ofString "c.zig"] =
        (.error (.write (Bytes.ofString "b") cause), done) ∧
      done.sink.chunks = [tagOfA.line] ∧ done.written = 1 ∧ done.journal.source = noSource ∧
      done.journal.skipped = [a]) ∧
    ∃ done, ({} : Session).tagFiles twoBindingsOneDenied readTwoBindings [a, b, d, b] =
        (.error (.fault (.system (permissionDenied d))), done) ∧
      done.sink.chunks = [tagOfA.line, tagOfB.line] ∧ done.written = 2 ∧
      done.journal.source = noSource ∧ done.journal.skipped = [a] := by
  intro a b d cause
  refine ⟨?_, ?_⟩
  · obtain ⟨done, hdone, hchunks, hwritten, hsource, hskipped, _⟩ :=
      (tagFiles_stops_at_failure twoBindings readTwoBindings lostCall
        [a, b, Bytes.ofString "c.zig"]).2.1 [a] b [Bytes.ofString "c.zig"] [[]] [tagOfA]
        (.write (Bytes.ofString "b") cause) rfl halts_lostCall
    exact ⟨done, hdone, hchunks, hwritten, hsource, hskipped⟩
  · obtain ⟨done, hdone, hchunks, hwritten, hsource, hskipped, _⟩ :=
      (tagFiles_stops_at_failure twoBindingsOneDenied readTwoBindings {} [a, b, d, b]).2.1
        [a, b] d [b] [[], [tagOfA, tagOfB]] [] (.fault (.system (permissionDenied d))) rfl
        halts_oneDenied
    exact ⟨done, hdone, hchunks, hwritten, hsource, hskipped⟩

end Session

end TagIndex
