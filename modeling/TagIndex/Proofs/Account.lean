import TagIndex.Proofs.Tally

namespace TagIndex

/-- An entry as a log shows it: the record, and the source in force. -/
def JournalEntry.shown (entry : JournalEntry) : Bytes × Record :=
  (entry.source, entry.notice.record)

namespace Journal

def shown (journal : Journal) : List (Bytes × Record) := journal.entries.map JournalEntry.shown

theorem render_shown (threshold : Int) (entries : List JournalEntry) :
    render threshold entries =
      String.join (((entries.map JournalEntry.shown).filter (threshold ≤ ·.2.level)).map fun line =>
        line.2.line line.1) := by
  rw [render, List.filter_map, List.map_map]
  rfl

end Journal

namespace Record

/-- A record that speaks of something emitted: a tag, or the tags of a file. -/
def tellsEmission (record : Record) : Bool := "Emitted ".toList.isPrefixOf record.text.toList

def ofTag (tag : Tag) : Record :=
  { level := 10
    logger := "tagging.emitter"
    text := "Emitted " ++ tag.kind.letter ++ " tag " ++ Text.Utf8.decodeLossy tag.name }

def ofTagged (count : Nat) : Record :=
  { level := 10
    logger := "tagging.traversal"
    text := "Emitted " ++ toString count ++ " tags" }

def ofRun (stats : Stats) : Record :=
  { level := 20
    logger := "tagging.extractor"
    text := "Tagging complete: " ++ stats.summary }

theorem tellsEmission_append (level : Int) (logger rest : String) :
    (Record.mk level logger ("Emitted " ++ rest)).tellsEmission := by
  rw [tellsEmission, String.toList_append, List.isPrefixOf_iff_prefix]
  exact List.prefix_append _ _

/-- Any other first letter tells that nothing was emitted. -/
theorem tellsEmission_of_lead {record : Record} (lead rest : String)
    (htext : record.text = lead ++ rest) (hlead : lead.toList.head?.any (· ≠ 'E')) :
    record.tellsEmission = false := by
  have hemitted : "Emitted ".toList = 'E' :: "mitted ".toList := by decide
  rw [tellsEmission, hemitted, htext, String.toList_append]
  cases hfirst : lead.toList with
  | nil =>
    rw [hfirst] at hlead
    cases hlead
  | cons c cs =>
    rw [hfirst] at hlead
    have hne : c ≠ 'E' := by simpa using hlead
    simp [List.isPrefixOf, hne.symm]

theorem tellsEmission_ofTag (tag : Tag) : (ofTag tag).tellsEmission := by
  simp only [ofTag, String.append_assoc]
  exact tellsEmission_append _ _ _

theorem tellsEmission_ofTagged (count : Nat) : (ofTagged count).tellsEmission := by
  simp only [ofTagged, String.append_assoc]
  exact tellsEmission_append _ _ _

end Record

namespace Syntax

/-- What a session notes when it has taken a step. -/
def Step.notice? : Step → Option Notice
  | .skip offset => some (.membersSkipped offset)
  | .tag draft => draft.check.toOption.map fun tag => .tagEmitted tag.kind tag.name

/-- The records of some steps. -/
def stepRecords (steps : List Step) : List Record :=
  (steps.filterMap Step.notice?).map Notice.record

theorem emissions_of_wanted {steps : List Step} {tags : List Tag}
    (h : wanted steps = tags.map Tag.draft) :
    (stepRecords steps).filter Record.tellsEmission = tags.map Record.ofTag := by
  induction steps generalizing tags with
  | nil =>
    obtain rfl := List.map_eq_nil_iff.mp h.symm
    rfl
  | cons step rest ih =>
    cases step with
    | skip offset =>
      have hsilent : (Notice.membersSkipped offset).record.tellsEmission = false :=
        Record.tellsEmission_of_lead "Skipping members of unsupported container at byte " _ rfl
          (by decide +kernel)
      have hrecords : stepRecords (.skip offset :: rest) =
          (Notice.membersSkipped offset).record :: stepRecords rest := rfl
      rw [hrecords, List.filter_cons_of_neg (by simp [hsilent])]
      exact ih h
    | tag draft =>
      obtain ⟨tag, others, rfl, rfl, hothers⟩ := List.map_eq_cons_iff.mp h.symm
      have hnotice : Step.notice? (.tag tag.draft) = some (.tagEmitted tag.kind tag.name) := by
        rw [Step.notice?, Draft.check_draft]
        rfl
      have hrecords : stepRecords (.tag tag.draft :: rest) =
          Record.ofTag tag :: stepRecords rest := by
        rw [stepRecords, List.filterMap_cons_some hnotice]
        rfl
      rw [hrecords, List.filter_cons_of_pos (Record.tellsEmission_ofTag tag), List.map_cons,
        ih hothers.symm]

theorem level_of_mem_stepRecords {steps : List Step} {record : Record}
    (h : record ∈ stepRecords steps) : record.level = 10 := by
  obtain ⟨notice, hnotice, rfl⟩ := List.mem_map.mp h
  obtain ⟨step, _, hstep⟩ := List.mem_filterMap.mp hnotice
  cases step with
  | skip offset =>
    obtain rfl := Option.some.inj hstep
    rfl
  | tag draft =>
    obtain ⟨tag, _, rfl⟩ := Option.map_eq_some_iff.mp hstep
    rfl

end Syntax

namespace Session

open Syntax (Step wanted)

variable {store : Store} {reader : Reader} {session done : Session} {path : Bytes}
  {paths : List Bytes} {tags : List Tag}

/-- From `before` to `after` the session noted `notices`, under a source that stayed the same. -/
structure Logged (before after : Session) (notices : List Notice) : Prop where
  source : after.journal.source = before.journal.source
  entries : after.journal.entries =
    before.journal.entries ++ notices.map (JournalEntry.mk before.journal.source)

namespace Logged

theorem nil {before after : Session} (h : after.journal = before.journal) :
    Logged before after [] := ⟨by rw [h], by simp [h]⟩

theorem trans {first second third : Session} {a b : List Notice} (h : Logged first second a)
    (k : Logged second third b) : Logged first third (a ++ b) where
  source := k.source.trans h.source
  entries := by rw [k.entries, h.entries, h.source, List.map_append, List.append_assoc]

theorem note (session : Session) (notice : Notice) :
    Logged session (session.note notice) [notice] := ⟨rfl, rfl⟩

theorem shown {before after : Session} {notices : List Notice} (h : Logged before after notices) :
    after.journal.shown = before.journal.shown ++
      notices.map fun notice => (before.journal.source, notice.record) := by
  rw [Journal.shown, h.entries, List.map_append, List.map_map]
  rfl

end Logged

theorem emit_logged {tag : Tag} (h : session.emit tag = (none, done)) :
    Logged session done [.tagEmitted tag.kind tag.name] := by
  unfold emit at h
  split at h
  · obtain ⟨_, rfl⟩ := Prod.mk.inj h
    exact ⟨rfl, rfl⟩
  · cases h
  · cases h

theorem take_logged {step : Step} (h : session.take step = (none, done)) :
    Logged session done step.notice?.toList := by
  cases step with
  | skip offset =>
    obtain ⟨_, rfl⟩ := Prod.mk.inj h
    exact .note session _
  | tag draft =>
    rw [take, emitDraft] at h
    split at h
    · rename_i tag hcheck
      rw [Step.notice?, hcheck]
      exact emit_logged h
    · cases h

theorem perform_logged {steps : List Step} (h : session.perform steps = (none, done)) :
    Logged session done (steps.filterMap Step.notice?) := by
  induction steps generalizing session with
  | nil =>
    obtain ⟨_, rfl⟩ := Prod.mk.inj h
    exact .nil rfl
  | cons step rest ih =>
    unfold perform at h
    split at h
    · rename_i next hnext
      have hboth := (take_logged hnext).trans (ih h)
      cases hnotice : step.notice? with
      | none => simpa [hnotice] using hboth
      | some notice => simpa [hnotice] using hboth
    · cases h

theorem extract_logged {tree : Syntax.Tree} {count : Nat}
    (h : session.extract tree path = (.ok count, done)) :
    Logged session done ((tree.steps path).filterMap Step.notice? ++ [.fileTagged count]) := by
  unfold extract at h
  split at h
  · rename_i last hlast
    obtain ⟨hcount, rfl⟩ := Prod.mk.inj h
    obtain rfl := Except.ok.inj hcount
    exact (perform_logged hlast).trans (.note last _)
  · cases h

/-- What is noted about a source that is read. -/
def sourceNotices (source : Bytes) (tree : Syntax.Tree) : List Notice :=
  [Notice.parserReady] ++ (if tree.faults = 0 then [] else [Notice.faultsParsed tree.faults]) ++
    [Notice.bytesParsed source.length]

theorem parse_logged (reader : Reader) (session : Session) (source : Bytes) :
    Logged session (session.parse reader source).2 (sourceNotices source (reader source)) := by
  simp only [parse, sourceNotices]
  split_ifs
  · exact (Logged.note _ _).trans (.note _ _)
  · exact ((Logged.note _ _).trans (.note _ _)).trans (.note _ _)

/-- A source is read exactly if it is a byte string. Reading notes it and changes nothing else; what
is no byte string leaves the session as it was. -/
theorem parseAny_logged (reader : Reader) (session : Session) (given : Bytes ⊕ Value) :
    let parsed := session.parseAny reader given
    ((∃ tree, parsed.1 = .ok tree) ↔ ∃ source, given = .inl source) ∧
    (∀ refused, parsed.1 = .error refused → parsed.2 = session) ∧
    (∀ source, given = .inl source → parsed.1 = .ok (reader source) ∧
      Logged session parsed.2 (sourceNotices source (reader source))) ∧
    parsed.2.sink = session.sink ∧ parsed.2.written = session.written := by
  cases given with
  | inr value =>
    refine ⟨by simp [parseAny], fun _ _ => rfl, ?_, rfl, rfl⟩
    intro source hsource
    cases hsource
  | inl source =>
    have hsame : (session.parse reader source).2.sink = session.sink ∧
        (session.parse reader source).2.written = session.written := by
      simp only [parse]
      split_ifs <;> exact ⟨rfl, rfl⟩
    refine ⟨by simp [parseAny], ?_, ?_, hsame⟩
    · intro refused hrefused
      cases hrefused
    · intro other hother
      obtain rfl := Sum.inl.inj hother
      exact ⟨rfl, parse_logged reader session source⟩

/-- What is noted about a file between reading and tagging it. -/
def parseNotices (path source : Bytes) (tree : Syntax.Tree) : List Notice :=
  sourceNotices source tree ++ [Notice.fileParsed path] ++
    if tree.faults = 0 then [] else [Notice.fileFaulty path tree.faults]

/-- The record of a file with faulty places, or nothing. -/
def faultRecords (path : Bytes) (count : Nat) : List Record :=
  if count = 0 then []
  else
    [{ level := 30
       logger := "tagging.extractor"
       text := "File " ++ Text.displayPath path ++ " contains syntax errors (" ++ toString count ++
        " error nodes)" }]

theorem parseNotices_warnings (path source : Bytes) (tree : Syntax.Tree) :
    ((parseNotices path source tree).map Notice.record).filter (30 ≤ ·.level) =
      faultRecords path tree.faults := by
  unfold parseNotices sourceNotices faultRecords
  split_ifs <;> rfl

theorem parseNotices_silent (path source : Bytes) (tree : Syntax.Tree) :
    ((parseNotices path source tree).map Notice.record).filter Record.tellsEmission = [] := by
  have hready : Notice.parserReady.record.tellsEmission = false := by decide
  have hfaults (count : Nat) : (Notice.faultsParsed count).record.tellsEmission = false :=
    Record.tellsEmission_of_lead "Parsed tree contains " _ (String.append_assoc ..)
      (by decide +kernel)
  have hbytes (count : Nat) : (Notice.bytesParsed count).record.tellsEmission = false :=
    Record.tellsEmission_of_lead "Parsed " _ (String.append_assoc ..) (by decide +kernel)
  have hparsed : (Notice.fileParsed path).record.tellsEmission = false :=
    Record.tellsEmission_of_lead "Successfully parsed file: " _ rfl (by decide +kernel)
  have hfaulty (count : Nat) : (Notice.fileFaulty path count).record.tellsEmission = false := by
    refine Record.tellsEmission_of_lead "File " (Text.displayPath path ++
      (" contains syntax errors (" ++ (toString count ++ " error nodes)"))) ?_ (by decide +kernel)
    rw [← String.append_assoc, ← String.append_assoc, ← String.append_assoc]
    rfl
  unfold parseNotices sourceNotices
  split_ifs <;> simp [hready, hfaults, hbytes, hparsed, hfaulty]

theorem tagFile_parsed {source : Bytes} (reader : Reader) (session : Session)
    (h : store.read path = .ok source) :
    ∃ ready : Session, Logged session ready (parseNotices path source (reader source)) ∧
      session.tagFile store reader path =
        ((ready.extract (reader source) path).1.map fun _ => (reader source).faults,
          (ready.extract (reader source) path).2) := by
  let parsed := (session.parse reader source).2.note (.fileParsed path)
  let ready := if (reader source).faults = 0 then parsed
    else parsed.note (.fileFaulty path (reader source).faults)
  refine ⟨ready, ?_, ?_⟩
  · have hparsed := (parse_logged reader session source).trans (.note _ (.fileParsed path))
    simp only [ready, parseNotices]
    split_ifs
    · rw [List.append_nil]
      exact hparsed
    · exact hparsed.trans (.note _ _)
  · have htree : (session.parse reader source).1 = reader source := rfl
    simp only [tagFile, h, htree, ready, parsed]
    split <;> rename_i hextract <;> rw [hextract] <;> rfl

/-- The warnings that a path gets in a batch: that it is skipped, or that it has faulty places. -/
def warningsAt (store : Store) (reader : Reader) (path : Bytes) : List Record :=
  match store.read path with
  | .error (.system fault) =>
    if fault.condition = .isDirectory then
      [{ level := 30
         logger := "tagging.extractor"
         text := "Input '" ++ Text.displayPath path ++ "' is a directory, skipping..." }]
    else if fault.condition = .notFound then
      [{ level := 30
         logger := "tagging.extractor"
         text := "Input '" ++ Text.displayPath path ++ "' not found, skipping..." }]
    else []
  | .error (.invalid _) => []
  | .ok source => faultRecords path (reader source).faults

/-- A skipped path has one record, which is the warning it is due. -/
theorem record_of_skipNotice? {fault : Fault} {notice : Notice} (reader : Reader)
    (hread : store.read path = .error fault)
    (hnotice : skipNotice? path (.fault fault) = some notice) :
    warningsAt store reader path = [notice.record] ∧ notice.record.level = 30 ∧
      notice.record.tellsEmission = false := by
  have hdirectory : (Notice.directorySkipped path).record.tellsEmission = false :=
    Record.tellsEmission_of_lead "Input '" _ (String.append_assoc ..) (by decide +kernel)
  have hmissing : (Notice.missingSkipped path).record.tellsEmission = false :=
    Record.tellsEmission_of_lead "Input '" _ (String.append_assoc ..) (by decide +kernel)
  cases fault with
  | invalid message => cases hnotice
  | system fault =>
    simp only [skipNotice?] at hnotice
    simp only [warningsAt, hread]
    split at hnotice
    · rename_i hcondition
      obtain rfl := Option.some.inj hnotice
      rw [if_pos hcondition]
      exact ⟨rfl, rfl, hdirectory⟩
    · rename_i hcondition
      obtain rfl := Option.some.inj hnotice
      rw [if_neg (by simp [hcondition]), if_pos hcondition]
      exact ⟨rfl, rfl, hmissing⟩
    · cases hnotice

/-- What the log shows of a path in a batch, and the tags that were written for it. -/
structure Account where
  path : Bytes
  records : List Record
  tags : List Tag

namespace Account

/-- The records of an account in the log. All of them have the path as their source. -/
def shown (account : Account) : List (Bytes × Record) := account.records.map (account.path, ·)

/-- The records that tell what was emitted for a path: each tag, and at last their number. A path
that is skipped has none. -/
def emissions (store : Store) (account : Account) : List Record :=
  if store.skips account.path then []
  else account.tags.map Record.ofTag ++ [Record.ofTagged account.tags.length]

/-- The account is that of its path: the tags are what the path yields, there is no warning but the
ones that are due, and what was emitted is told of in its turn. -/
structure Fits (store : Store) (reader : Reader) (account : Account) : Prop where
  yields : Yields store reader account.path account.tags
  warnings : account.records.filter (30 ≤ ·.level) = warningsAt store reader account.path
  emissions : account.records.filter Record.tellsEmission = account.emissions store

end Account

theorem fits_of_skips {fault : Fault} {notice : Notice} (reader : Reader)
    (hread : store.read path = .error fault)
    (hnotice : skipNotice? path (.fault fault) = some notice) (hskips : store.skips path) :
    Account.Fits store reader ⟨path, [notice.record], []⟩ := by
  obtain ⟨hwarnings, hlevel, hsilent⟩ := record_of_skipNotice? reader hread hnotice
  refine ⟨.inl ⟨hskips, rfl⟩, ?_, ?_⟩
  · rw [hwarnings]
    simp [hlevel]
  · rw [Account.emissions, if_pos hskips]
    simp [hsilent]

theorem fits_of_read {source : Bytes} (hread : store.read path = .ok source)
    (hdrafts : (reader source).drafts path = tags.map Tag.draft) :
    Account.Fits store reader
      ⟨path, (parseNotices path source (reader source)).map Notice.record ++
        (Syntax.stepRecords ((reader source).steps path) ++ [Record.ofTagged tags.length]),
        tags⟩ := by
  have hquiet : (Syntax.stepRecords ((reader source).steps path)).filter (30 ≤ ·.level) = [] := by
    rw [List.filter_eq_nil_iff]
    intro record hmem
    rw [Syntax.level_of_mem_stepRecords hmem]
    decide
  have hemitted : (Syntax.stepRecords ((reader source).steps path)).filter Record.tellsEmission =
      tags.map Record.ofTag := Syntax.emissions_of_wanted hdrafts
  refine ⟨.inr ⟨source, hread, hdrafts⟩, ?_, ?_⟩
  · rw [List.filter_append, List.filter_append, parseNotices_warnings, hquiet, warningsAt, hread]
    exact List.append_nil _
  · have htotal : [Record.ofTagged tags.length].filter Record.tellsEmission =
        [Record.ofTagged tags.length] :=
      List.filter_cons_of_pos (Record.tellsEmission_ofTagged _)
    have hskips : ¬store.skips path := by simp [not_skips_of_read hread]
    rw [List.filter_append, List.filter_append, parseNotices_silent, hemitted, htotal,
      Account.emissions, if_neg hskips]
    rfl

/-- A path that does not stop a batch adds its account to the journal and nothing else. -/
theorem tagPath_accounted {stats : Stats}
    (h : session.tagPath store reader path = (.ok stats, done)) :
    ∃ account : Account, account.path = path ∧ account.Fits store reader ∧
      Wrote session done account.tags ∧
      done.journal.source = session.journal.source ∧
      done.journal.shown = session.journal.shown ++ account.shown := by
  obtain ⟨tags, hyields, hwrote, _⟩ := tagPath_ok h
  -- the batch goes on behind a path that is skipped and behind one that was read and tagged
  rcases hyields with ⟨hskips, rfl⟩ | ⟨source, hread, hdrafts⟩
  · cases hread : store.read path with
    | ok source => simp [not_skips_of_read hread] at hskips
    | error fault =>
      rw [tagPath, tagFile, hread] at h
      dsimp only at h
      cases hnotice : skipNotice? path (.fault fault) with
      | none =>
        rw [hnotice] at h
        cases h
      | some notice =>
        rw [hnotice] at h
        obtain ⟨_, rfl⟩ := Prod.mk.inj h
        exact ⟨⟨path, [notice.record], []⟩, rfl, fits_of_skips reader hread hnotice hskips,
          hwrote, rfl, List.map_append⟩
  · obtain ⟨ready, hready, hfile⟩ := tagFile_parsed reader (session.withSource path) hread
    rcases hrun : ready.extract (reader source) path with ⟨failure | count, last⟩
    · obtain ⟨_, _, hbreaks⟩ := breaks_of_extract hrun
      rw [tagPath, hfile, hrun] at h
      simp only [Except.map, hbreaks.skipNotice?_eq_none path] at h
      cases h
    · obtain ⟨found, hfound, _, rfl⟩ := extract_ok hrun
      obtain rfl : tags = found :=
        (List.map_inj_right fun _ _ heq => Tag.draft_injective heq).mp (hdrafts.symm.trans hfound)
      have hlogged := hready.trans (extract_logged hrun)
      rw [tagPath, hfile, hrun] at h
      obtain ⟨_, rfl⟩ := Prod.mk.inj h
      refine ⟨_, rfl, fits_of_read hread hdrafts, hwrote, rfl, hlogged.shown.trans ?_⟩
      simp only [Account.shown, Syntax.stepRecords, List.map_append, List.map_map]
      rfl

/-- A batch that comes to its end adds the accounts of its paths, in order. -/
theorem tagPaths_accounted {stats total : Stats}
    (h : session.tagPaths store reader stats paths = (.ok total, done)) :
    ∃ accounts : List Account, accounts.map (·.path) = paths ∧
      (∀ account ∈ accounts, account.Fits store reader) ∧
      Wrote session done (accounts.flatMap (·.tags)) ∧
      done.journal.source = session.journal.source ∧
      done.journal.shown = session.journal.shown ++ accounts.flatMap Account.shown := by
  induction paths generalizing session stats with
  | nil =>
    obtain ⟨_, rfl⟩ := Prod.mk.inj h
    exact ⟨[], rfl, nofun, .nil rfl rfl, rfl, by simp⟩
  | cons path rest ih =>
    unfold tagPaths at h
    split at h
    · rename_i one next hnext
      obtain ⟨account, hpath, hfits, hwrote, hsource, hshown⟩ := tagPath_accounted hnext
      obtain ⟨accounts, hpaths, hall, hmore, hsources, hothers⟩ := ih h
      refine ⟨account :: accounts, by rw [List.map_cons, hpath, hpaths],
        List.forall_mem_cons.mpr ⟨hfits, hall⟩, hwrote.trans hmore, hsources.trans hsource, ?_⟩
      rw [hothers, hshown, List.flatMap_cons, List.append_assoc]
    · cases h

/-- However a batch ends, the journal is back at its source. -/
theorem tagPaths_source (store : Store) (reader : Reader) (session : Session) (stats : Stats)
    (paths : List Bytes) :
    (session.tagPaths store reader stats paths).2.journal.source = session.journal.source := by
  induction paths generalizing session stats with
  | nil => rfl
  | cons path rest ih =>
    have hpath := (tagPath_noted store reader session path).source
    unfold tagPaths
    split
    · rename_i one next hnext
      rw [hnext] at hpath
      exact (ih next _).trans hpath
    · rename_i failure next hnext
      rwa [hnext] at hpath

theorem tagFiles_source (store : Store) (reader : Reader) (session : Session)
    (paths : List Bytes) :
    (session.tagFiles store reader paths).2.journal.source = session.journal.source := by
  have hpaths := tagPaths_source store reader session {} paths
  unfold tagFiles
  split <;> rename_i hrun <;> rwa [hrun] at hpaths

/-- What a filter leaves of some accounts, when it looks at the records alone. -/
theorem filter_shown (accounts : List Account) (keep : Record → Bool) :
    (accounts.flatMap Account.shown).filter (fun line => keep line.2) =
      accounts.flatMap fun account => (account.records.filter keep).map (account.path, ·) := by
  rw [List.filter_flatMap]
  refine List.flatMap_congr fun account _ => ?_
  rw [Account.shown, List.filter_map]
  rfl

theorem warnings_of_fits {accounts : List Account}
    (h : ∀ account ∈ accounts, account.Fits store reader) :
    (accounts.flatMap Account.shown).filter (30 ≤ ·.2.level) =
      (accounts.map (·.path)).flatMap fun path =>
        (warningsAt store reader path).map (path, ·) := by
  rw [filter_shown accounts (30 ≤ ·.level), List.flatMap_map]
  exact List.flatMap_congr fun account hmem => by rw [(h account hmem).warnings]

theorem emissions_of_fits {accounts : List Account}
    (h : ∀ account ∈ accounts, account.Fits store reader) :
    (accounts.flatMap Account.shown).filter (·.2.tellsEmission) =
      accounts.flatMap fun account => (account.emissions store).map (account.path, ·) := by
  rw [filter_shown accounts Record.tellsEmission]
  exact List.flatMap_congr fun account hmem => by rw [(h account hmem).emissions]

/-- The log of a run that comes to its end is the accounts of its paths, in order, and the counters
of the run, noted under the source from before the run. Its warnings are those of the paths: which
of them are directories, are not found or have faulty places. What it calls emitted is each line
that the sink has taken and, behind the lines of a file, their number. Whether the run comes to its
end or not, the source is what it was. -/
theorem tagFiles_log_is_accounts (store : Store) (reader : Reader) (session : Session)
    (paths : List Bytes) :
    (session.tagFiles store reader paths).2.journal.source = session.journal.source ∧
    ∀ stats done, session.tagFiles store reader paths = (.ok stats, done) →
      ∃ (accounts : List Account) (added : List (Bytes × Record)),
        accounts.map (·.path) = paths ∧
        (∀ account ∈ accounts, account.Fits store reader) ∧
        added = accounts.flatMap Account.shown ++ [(session.journal.source, Record.ofRun stats)] ∧
        done.journal.shown = session.journal.shown ++ added ∧
        added.filter (30 ≤ ·.2.level) =
          paths.flatMap (fun path => (warningsAt store reader path).map (path, ·)) ∧
        done.sink.chunks =
          session.sink.chunks ++ (accounts.flatMap (·.tags)).map Tag.line ∧
        added.filter (·.2.tellsEmission) =
          accounts.flatMap (fun account => (account.emissions store).map (account.path, ·)) ∧
        ∀ threshold : Int, Journal.render threshold done.journal.entries =
          Journal.render threshold session.journal.entries ++
            String.join ((added.filter (threshold ≤ ·.2.level)).map fun line =>
              line.2.line line.1) := by
  refine ⟨tagFiles_source store reader session paths, ?_⟩
  intro stats done h
  unfold tagFiles at h
  split at h
  · rename_i total last hlast
    obtain ⟨htotal, rfl⟩ := Prod.mk.inj h
    obtain rfl := Except.ok.inj htotal
    obtain ⟨accounts, hpaths, hfits, hwrote, hsource, hshown⟩ := tagPaths_accounted hlast
    let added := accounts.flatMap Account.shown ++ [(session.journal.source, Record.ofRun total)]
    have hall :
        (last.note (.runComplete total)).journal.shown = session.journal.shown ++ added := by
      rw [note, Journal.note, Journal.shown, List.map_append, ← Journal.shown, hshown, hsource,
        List.append_assoc]
      rfl
    have hsilent : (Record.ofRun total).tellsEmission = false :=
      Record.tellsEmission_of_lead "Tagging complete: " _ rfl (by decide +kernel)
    refine ⟨accounts, added, hpaths, hfits, rfl, hall, ?_, hwrote.chunks, ?_, ?_⟩
    · rw [List.filter_append, warnings_of_fits hfits, hpaths]
      exact List.append_nil _
    · rw [List.filter_append, emissions_of_fits hfits]
      simp [hsilent]
    · intro threshold
      rw [Journal.render_shown, Journal.render_shown, ← Journal.shown, ← Journal.shown, hall,
        List.filter_append, List.map_append, String.join_append]
  · cases h

/-- A session in the middle of a job that has a source of its own. -/
def jobSource : Session := { journal := { source := Bytes.ofString "job" } }

theorem tagFiles_faulty_missing_folder_denied :
    let file := Bytes.ofString "b.zig"
    let denied := Bytes.ofString "d.zig"
    let run := jobSource.tagFiles twoBindings readFaulty
      [file, Bytes.ofString "a.zig", Bytes.ofString ".", file]
    let stats : Stats := { processed := 2, skipped := 2, tags := 4, faults := 6 }
    let emitted (text : String) : Bytes × Record := (file, ⟨10, "tagging.emitter", text⟩)
    let total : Bytes × Record := (file, ⟨10, "tagging.traversal", "Emitted 2 tags"⟩)
    run.1 = .ok stats ∧ run.2.journal.source = Bytes.ofString "job" ∧
    run.2.journal.shown.getLast? = some (Bytes.ofString "job", Record.ofRun stats) ∧
    Journal.render 30 run.2.journal.entries =
      "WARNING | source=b.zig | tagging.extractor | " ++
          "File b.zig contains syntax errors (3 error nodes)\n" ++
        "WARNING | source=a.zig | tagging.extractor | Input 'a.zig' not found, skipping...\n" ++
        "WARNING | source=. | tagging.extractor | Input '.' is a directory, skipping...\n" ++
        "WARNING | source=b.zig | tagging.extractor | " ++
          "File b.zig contains syntax errors (3 error nodes)\n" ∧
    run.2.sink.chunks = [tagOfA.line, tagOfB.line, tagOfA.line, tagOfB.line] ∧
    run.2.journal.shown.filter (·.2.tellsEmission) =
      [emitted "Emitted v tag a", emitted "Emitted v tag b", total,
        emitted "Emitted v tag a", emitted "Emitted v tag b", total] ∧
    let broken := jobSource.tagFiles twoBindingsOneDenied readFaulty [file, denied]
    broken.1 = .error (.fault (.system (permissionDenied denied))) ∧
      broken.2.journal.source = Bytes.ofString "job" := by
  intro file denied run stats emitted total
  obtain ⟨hsource, hlog⟩ := tagFiles_log_is_accounts twoBindings readFaulty jobSource
    [file, Bytes.ofString "a.zig", Bytes.ofString ".", file]
  have hstats : run.1 = .ok stats := by decide +kernel +zetaReduce
  obtain ⟨accounts, added, _, _, hadded, hshown, hwarnings, _, _, hrender⟩ :=
    hlog stats run.2 (Prod.ext hstats rfl)
  obtain ⟨hbroken, _⟩ := tagFiles_log_is_accounts twoBindingsOneDenied readFaulty jobSource
    [file, denied]
  refine ⟨hstats, hsource, ?_, ?_, by decide +kernel +zetaReduce, by decide +kernel +zetaReduce,
    by rfl, hbroken⟩
  · rw [hshown, hadded, ← List.append_assoc]
    exact List.getLast?_concat
  · rw [hrender, hwarnings]
    decide +kernel

end Session

end TagIndex
