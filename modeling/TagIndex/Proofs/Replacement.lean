import TagIndex.Command.Program
import TagIndex.Proofs.Batch
import TagIndex.Proofs.Places
import TagIndex.Yaml.Document

namespace TagIndex.Program

open Session (Yields Counts)

variable {inv : Invocation} {files : List Bytes} {output : Bytes} {store : Store}

/-- The files while the scratch file is there. -/
def withScratch (inv : Invocation) (output : Bytes) : Store :=
  inv.store.put (scratchPlace inv output) (.file [] 0o600)

theorem length_scratchName (scratch : Scratch) (output : Bytes) :
    (scratchName scratch output).length =
      (Path.baseName output).length + scratch.stamp.length + 6 := by
  have hdot : Path.dot.length = 1 := by decide
  have htmp : (Bytes.ofString ".tmp").length = 4 := by decide
  simp only [scratchName, List.length_append, hdot, htmp]
  omega

theorem isName_scratchName {scratch : Scratch} (hstamp : Bytes.slash ∉ scratch.stamp)
    (output : Bytes) : Path.IsName (scratchName scratch output) := by
  have hlength := length_scratchName scratch output
  have hother {name : Bytes} (h : name.length < 6) : scratchName scratch output ≠ name := by
    rintro rfl
    omega
  refine ⟨hother (by decide), hother (by decide), hother (by decide), ?_⟩
  have hdot : Bytes.slash ∉ Path.dot := by decide
  have htmp : Bytes.slash ∉ Bytes.ofString ".tmp" := by decide
  simp [scratchName, hdot, htmp, hstamp, Path.slash_not_mem_baseName output]

theorem isProper_scratchPlace (hworkdir : Path.IsProper inv.store.workdir)
    (hstamp : Bytes.slash ∉ inv.scratch.stamp) (output : Bytes) :
    Path.IsProper (scratchPlace inv output) :=
  (hworkdir.spelled output).dropLast.concat (isName_scratchName hstamp output)

/-- The scratch file never stands where the output goes, because its name is longer. -/
theorem scratchPlace_ne {directory : Place}
    (h : Path.spelled inv.store.workdir output = directory ++ [Path.baseName output]) :
    scratchPlace inv output ≠ Path.spelled inv.store.workdir output := by
  rw [scratchPlace, h]
  intro heq
  have hname : scratchName inv.scratch output = Path.baseName output := by simpa using heq
  have hlength := length_scratchName inv.scratch output
  rw [hname] at hlength
  omega

theorem exists_yields {outputs : List (List Tag)}
    (h : List.Forall₂ (Yields store inv.reader) files outputs) :
    ∀ file ∈ files, ∃ tags, Yields store inv.reader file tags :=
  ((List.forall₂_and_left _ _).mp (h.imp fun _ tags htags => ⟨⟨tags, htags⟩, htags⟩)).1

/-- Tagging into a sink that ends well writes what the files yield. -/
theorem tagInto_ok {sink : Sink} {stats : Stats} {done : Session}
    (h : tagInto inv store sink files = (.ok stats, done)) :
    ∃ outputs, List.Forall₂ (Yields store inv.reader) files outputs ∧
      done.sink.chunks = sink.chunks ++ outputs.flatten.map Tag.line ∧
      Counts store files stats := by
  unfold tagInto at h
  split at h
  · cases h
  · rename_i total last hlast
    have hchunks := Session.chunks_flush last
    obtain ⟨outputs, houtputs, hwrote, hcounts, _⟩ := Session.tagFiles_ok hlast
    split at h
    · rename_i flushed hflush
      obtain ⟨hstats, rfl⟩ := Prod.mk.inj h
      obtain rfl := Except.ok.inj hstats
      rw [hflush] at hchunks
      exact ⟨outputs, houtputs, hchunks.trans hwrote.chunks, hcounts⟩
    · cases h

/-- Files that all yield are written to a device that never refuses. -/
theorem tagInto_steady {outputs : List (List Tag)}
    (h : List.Forall₂ (Yields store inv.reader) files outputs) :
    ∃ stats done, tagInto inv store { device := .steady } files = (.ok stats, done) ∧
      done.sink.chunks = outputs.flatten.map Tag.line ∧ Counts store files stats := by
  let session : Session := { sink := { device := .steady } }
  obtain ⟨stats, last, hlast, hwrote, hcounts⟩ :=
    Session.tagFiles_of_yields h (show session.sink.device.Takes 0 _ from fun _ _ => rfl)
  have hflush : last.flush = (none, { last with sink := last.sink.flush.2 }) := by
    have hdevice : last.sink.device = .steady := hwrote.device
    simp [Session.flush, Sink.flush, hdevice, Device.steady]
  refine ⟨stats, { last with sink := last.sink.flush.2 }, ?_, hwrote.chunks, hcounts⟩
  simp only [session] at hlast
  simp only [tagInto, hlast, hflush]

theorem tagInto_congr {other : Store} (sink : Sink)
    (h : ∀ file ∈ files, other.read file = store.read file) :
    tagInto inv other sink files = tagInto inv store sink files := by
  rw [tagInto, tagInto, Session.tagFiles_congr _ _ h]

/-- An input that does not stop the batch reads as if the scratch file were not there. -/
theorem read_withScratch {path : Bytes} {tags : List Tag}
    (hfresh : inv.store.item? (scratchPlace inv output) = none)
    (hpath : Path.spelled inv.store.workdir path ≠ scratchPlace inv output)
    (h : Yields (withScratch inv output) inv.reader path tags) :
    (withScratch inv output).read path = inv.store.read path := by
  rcases Store.read_put [] 0o600 hfresh hpath with hread | hread
  · exact hread
  · change (withScratch inv output).read path = _ at hread
    -- a path that runs into the scratch file is not absent, so it would have stopped the batch
    rcases h with ⟨hskips, _⟩ | ⟨source, hsource, _⟩
    · rw [Store.skips, hread] at hskips
      cases hskips
    · cases hread.symm.trans hsource

/-- What ends well with the scratch file there, on any device, ends the same without it and on a
device that never refuses. -/
theorem steady_of_tagInto {device : Device} {stats : Stats} {done : Session}
    (hfresh : inv.store.item? (scratchPlace inv output) = none)
    (hinputs : ∀ file ∈ files, Path.spelled inv.store.workdir file ≠ scratchPlace inv output)
    (h : tagInto inv (withScratch inv output) { device := device } files = (.ok stats, done)) :
    ∃ total last, tagInto inv inv.store { device := .steady } files = (.ok total, last) ∧
      last.sink.held = done.sink.held ∧ total.processed = stats.processed := by
  obtain ⟨outputs, hyields, _⟩ := tagInto_ok h
  have hread : ∀ file ∈ files, (withScratch inv output).read file = inv.store.read file := by
    intro file hmem
    obtain ⟨tags, htags⟩ := exists_yields hyields file hmem
    exact read_withScratch hfresh (hinputs file hmem) htags
  rw [tagInto_congr _ hread] at h
  obtain ⟨outputs, hyields, hchunks, hcounts⟩ := tagInto_ok h
  obtain ⟨total, last, hlast, hlines, htotal⟩ := tagInto_steady hyields
  refine ⟨total, last, hlast, ?_, htotal.1.trans hcounts.1.symm⟩
  rw [Sink.held, Sink.held, hlines, hchunks]
  rfl

/-- How a run into a file can end. -/
inductive Settles (inv : Invocation) (files : List Bytes) (output : Bytes) : Tagged → Prop
  /-- No scratch file was made. -/
  | uncreated (fault : Fault) : Settles inv files output ⟨.error (.fault fault), {}, inv.store⟩
  /-- Tagging failed, or the scratch file could not be moved. -/
  | failed (failure : Failure) (session : Session)
      (hfresh : inv.store.item? (scratchPlace inv output) = none) :
      Settles inv files output
        ⟨.error failure, session, (withScratch inv output).remove (scratchPlace inv output)⟩
  /-- Nothing was processed. -/
  | idle {stats : Stats} {session : Session}
      (hfresh : inv.store.item? (scratchPlace inv output) = none)
      (htag : tagInto inv (withScratch inv output) { device := inv.scratch.device } files =
        (.ok stats, session))
      (hidle : ¬0 < stats.processed) :
      Settles inv files output
        ⟨.ok stats.processed, session, (withScratch inv output).remove (scratchPlace inv output)⟩
  /-- The finished scratch file was moved to the output. -/
  | moved {stats : Stats} {session : Session} {store : Store}
      (hfresh : inv.store.item? (scratchPlace inv output) = none)
      (htag : tagInto inv (withScratch inv output) { device := inv.scratch.device } files =
        (.ok stats, session))
      (hbusy : 0 < stats.processed)
      (hmove : (inv.store.put (scratchPlace inv output)
        (.file session.sink.held (outputMode inv.umask))).move (scratchPlace inv output) output =
          .ok store) :
      Settles inv files output
        ⟨.ok stats.processed, session.note (.outputWritten stats.tags output), store⟩

theorem create_scratchPlace {created : Store} (hworkdir : Path.IsProper inv.store.workdir)
    (hstamp : Bytes.slash ∉ inv.scratch.stamp)
    (h : inv.store.create (Path.ofPlace (scratchPlace inv output)) = .ok created) :
    inv.store.item? (scratchPlace inv output) = none ∧ created = withScratch inv output := by
  have hproper := isProper_scratchPlace hworkdir hstamp output
  have hspelled := Path.spelled_ofPlace inv.store.workdir hproper
  obtain ⟨hfresh, hcreated⟩ := Store.create_ok h
  rw [hspelled] at hfresh hcreated
  exact ⟨hfresh, hcreated⟩

theorem finish_ok {place : Place} {content : Bytes} {moved : Store}
    (h : finish inv store place content output = .ok moved) :
    (store.put place (.file content (outputMode inv.umask))).move place output = .ok moved := by
  unfold finish at h
  split at h
  · cases h
  · cases h
  · split at h
    · rename_i hmove
      rw [hmove, Except.ok.inj h]
    · cases h

theorem tagIntoFile_settles (files : List Bytes) (output : Bytes)
    (hworkdir : Path.IsProper inv.store.workdir) (hstamp : Bytes.slash ∉ inv.scratch.stamp) :
    Settles inv files output (tagIntoFile inv files output) := by
  simp only [tagIntoFile]
  split
  · exact .uncreated _
  · rename_i created hcreated
    obtain ⟨hfresh, rfl⟩ : inv.store.item? (scratchPlace inv output) = none ∧
        created = withScratch inv output := by
      split at hcreated
      · cases hcreated
      · split_ifs at hcreated
        exact create_scratchPlace hworkdir hstamp hcreated
    split
    · exact .failed _ _ hfresh
    · rename_i stats session htag
      split_ifs with hbusy
      · split
        · exact .failed _ _ hfresh
        · rename_i moved hmoved
          have hmove := finish_ok hmoved
          rw [withScratch, Store.put_put] at hmove
          exact .moved hfresh htag hbusy hmove
      · exact .idle hfresh htag hbusy

variable {result : Tagged}

/-- A run into a file leaves all files alone, or it answers a positive count and at most the output
is another file than before. -/
theorem Settles.kept_or_moved (h : Settles inv files output result) :
    (∀ place, result.store.item? place = inv.store.item? place) ∨
      (∃ count, 0 < count ∧ result.outcome = .ok count) ∧
        scratchPlace inv output ≠ Path.spelled inv.store.workdir output ∧
        ∀ place ≠ Path.spelled inv.store.workdir output,
          result.store.item? place = inv.store.item? place := by
  cases h with
  | uncreated fault => exact .inl fun _ => rfl
  | failed failure session hfresh => exact .inl (Store.item?_remove_put hfresh)
  | idle hfresh htag hidle => exact .inl (Store.item?_remove_put hfresh)
  | moved hfresh htag hbusy hmove =>
    obtain ⟨⟨directory, hdirectory⟩, _, helse⟩ := Store.move_put_ok hfresh hmove
    exact .inr ⟨⟨_, hbusy, rfl⟩, scratchPlace_ne hdirectory, helse⟩

theorem Settles.workdir_onRead (h : Settles inv files output result) :
    result.store.workdir = inv.store.workdir ∧ result.store.onRead = inv.store.onRead := by
  cases h with
  | uncreated fault => exact ⟨rfl, rfl⟩
  | failed failure session hfresh => exact ⟨rfl, rfl⟩
  | idle hfresh htag hidle => exact ⟨rfl, rfl⟩
  | moved hfresh htag hbusy hmove =>
    obtain ⟨_, _, _, _, rfl⟩ := Store.move_ok hmove
    exact ⟨rfl, rfl⟩

/-- What a run to standard output does, when that never refuses. -/
def direct (inv : Invocation) (files : List Bytes) : Tagged :=
  deliver { inv with stdout := .steady } files stdoutMark

theorem direct_eq (inv : Invocation) (files : List Bytes) :
    direct inv files = ⟨(tagInto inv inv.store { device := .steady } files).1.map (·.processed),
      (tagInto inv inv.store { device := .steady } files).2, inv.store⟩ := rfl

/-- A run into a file that answers a count answers that of the direct run, and a positive one means
that the output has what the direct run wrote. -/
theorem Settles.eq_direct {count : Int} (h : Settles inv files output result)
    (hinputs : ∀ file ∈ files, Path.spelled inv.store.workdir file ≠ scratchPlace inv output)
    (houtcome : result.outcome = .ok count) :
    (direct inv files).outcome = .ok count ∧ (0 < count →
      result.store.item? (Path.spelled inv.store.workdir output) =
        some (.file (direct inv files).session.sink.held (outputMode inv.umask))) := by
  cases h with
  | uncreated fault => cases houtcome
  | failed failure session hfresh => cases houtcome
  | idle hfresh htag hidle =>
    obtain ⟨total, last, hlast, _, hcount⟩ := steady_of_tagInto hfresh hinputs htag
    obtain rfl := Except.ok.inj houtcome
    rw [direct_eq, hlast]
    exact ⟨congrArg Except.ok hcount, fun hpos => absurd hpos hidle⟩
  | moved hfresh htag hbusy hmove =>
    obtain ⟨total, last, hlast, hheld, hcount⟩ := steady_of_tagInto hfresh hinputs htag
    obtain rfl := Except.ok.inj houtcome
    rw [direct_eq, hlast, hheld]
    exact ⟨congrArg Except.ok hcount, fun _ => (Store.move_put_ok hfresh hmove).2.1⟩

/-- Nothing stands in the way of a run into a file: the scratch file can be made, takes everything
and can be moved to the output, and no input reads differently while it is there. -/
structure Unhindered (inv : Invocation) (files : List Bytes) (output : Bytes) : Prop where
  device : inv.scratch.device = .steady
  onCreate : inv.scratch.onCreate = none
  onMode : inv.scratch.onMode = none
  onMove : inv.scratch.onMove = none
  created : inv.store.create (Path.ofPlace (scratchPlace inv output)) = .ok (withScratch inv output)
  read : ∀ file ∈ files, (withScratch inv output).read file = inv.store.read file
  moved : ∀ content, ∃ store, (inv.store.put (scratchPlace inv output)
    (.file content (outputMode inv.umask))).move (scratchPlace inv output) output = .ok store

theorem Unhindered.finish (h : Unhindered inv files output) (content : Bytes) :
    ∃ store, finish inv (withScratch inv output) (scratchPlace inv output) content output =
      .ok store := by
  obtain ⟨store, hstore⟩ := h.moved content
  refine ⟨store, ?_⟩
  rw [Program.finish, h.onMode, h.onMove, withScratch, Store.put_put, hstore]

theorem Unhindered.outcome_eq (h : Unhindered inv files output) :
    (tagIntoFile inv files output).outcome = (direct inv files).outcome := by
  obtain ⟨_, hmove⟩ := h.moved []
  have hzero := Store.not_contains_zero_of_move hmove
  simp only [tagIntoFile, h.onCreate, hzero, Bool.false_eq_true, if_false, h.created, h.device,
    tagInto_congr _ h.read, direct_eq]
  rcases tagInto inv inv.store { device := .steady } files with ⟨failure | stats, session⟩
  · rfl
  · dsimp only
    split_ifs
    · obtain ⟨store, hstore⟩ := h.finish session.sink.held
      rw [hstore]
      rfl
    · rfl

/-- However a run into a file ends, the scratch file is gone and every place but the output's is as
before. The output changes only if the run answers a positive count; then it is the whole of what
the same run writes to standard output, with the same count. If nothing stands in the way, the two
runs answer alike. -/
theorem deliver_replaces_output (inv : Invocation) (files : List Bytes) (output : Bytes)
    (hfile : output ≠ stdoutMark) (hworkdir : Path.IsProper inv.store.workdir)
    (hstamp : Bytes.slash ∉ inv.scratch.stamp)
    (hfresh : inv.store.item? (scratchPlace inv output) = none)
    (hinputs : ∀ file ∈ files, Path.spelled inv.store.workdir file ≠ scratchPlace inv output) :
    let result := deliver inv files output
    let target := Path.spelled inv.store.workdir output
    result.store.item? (scratchPlace inv output) = none ∧
    (result.store.workdir = inv.store.workdir ∧ result.store.onRead = inv.store.onRead) ∧
    (∀ place ≠ target, result.store.item? place = inv.store.item? place) ∧
    (result.store.item? target ≠ inv.store.item? target →
      ∃ count, 0 < count ∧ result.outcome = .ok count) ∧
    (∀ count, result.outcome = .ok count →
      (direct inv files).outcome = .ok count ∧ (0 < count → result.store.item? target =
        some (.file (direct inv files).session.sink.held (outputMode inv.umask)))) ∧
    (Unhindered inv files output → result.outcome = (direct inv files).outcome) := by
  intro result target
  have hresult : result = tagIntoFile inv files output := if_neg hfile
  have hsettles : Settles inv files output result :=
    hresult ▸ tagIntoFile_settles files output hworkdir hstamp
  refine ⟨?_, hsettles.workdir_onRead, ?_, ?_, fun count => hsettles.eq_direct hinputs, ?_⟩
  · rcases hsettles.kept_or_moved with hkept | ⟨_, hne, helse⟩
    · exact (hkept _).trans hfresh
    · exact (helse _ hne).trans hfresh
  · intro place hplace
    rcases hsettles.kept_or_moved with hkept | ⟨_, _, helse⟩
    · exact hkept place
    · exact helse place hplace
  · intro hchanged
    rcases hsettles.kept_or_moved with hkept | ⟨hcount, _⟩
    · exact absurd (hkept target) hchanged
    · exact hcount
  · intro hfree
    rw [hresult]
    exact hfree.outcome_eq

/-- A run whose only input is also its output. -/
def selfIndexing : Invocation :=
  { program := Bytes.ofString "ztags"
    arguments := []
    store := Session.twoBindings
    reader := Session.readTwoBindings
    documents := Yaml.reader fun _ => ""
    stdout := Session.lostCall.sink.device
    scratch := { stamp := Bytes.ofString "k3" } }

/-- The same run where another file may not be read. -/
def selfIndexingOneDenied : Invocation :=
  { selfIndexing with store := Session.twoBindingsOneDenied }

theorem unhindered_selfIndexing :
    Unhindered selfIndexing [Bytes.ofString "b.zig"] (Bytes.ofString "b.zig") := by
  refine ⟨rfl, rfl, rfl, rfl, rfl, ?_, fun content => ⟨_, rfl⟩⟩
  intro file hmem
  obtain rfl := List.mem_singleton.mp hmem
  rfl

/-- An input replaces itself by its own index, and stays what it is when the input behind it may
not be read. -/
theorem deliver_selfIndexing_oneDenied :
    let file := Bytes.ofString "b.zig"
    let denied := Bytes.ofString "d.zig"
    let place := [Bytes.ofString "w", file]
    let whole := deliver selfIndexing [file] file
    let broken := deliver selfIndexingOneDenied [file, denied] file
    (whole.outcome = .ok 1 ∧
      whole.store.item? place = some (.file (Session.tagOfA.line ++ Session.tagOfB.line) 0o644) ∧
      whole.store.item? (scratchPlace selfIndexing file) = none) ∧
    broken.outcome = .error (.fault (.system (Session.permissionDenied denied))) ∧
      broken.store.item? place =
        some (.file (Bytes.ofString "const a = 1;\nconst b = 2;") 0o644) ∧
      broken.store.item? (scratchPlace selfIndexingOneDenied file) = none := by
  intro file denied place whole broken
  have hworkdir : Path.IsProper selfIndexing.store.workdir := by decide
  have hinputs : ∀ path ∈ [file, denied],
      Path.spelled selfIndexing.store.workdir path ≠ scratchPlace selfIndexing file := by decide
  refine ⟨?_, ?_⟩
  · obtain ⟨hscratch, _, _, _, hcount, hfree⟩ :=
      deliver_replaces_output selfIndexing [file] file (by decide) hworkdir (by decide) (by decide)
        fun path hmem => hinputs path (by simp [List.mem_singleton.mp hmem])
    have houtcome : whole.outcome = .ok 1 := hfree unhindered_selfIndexing
    have hheld : (direct selfIndexing [file]).session.sink.held =
        Session.tagOfA.line ++ Session.tagOfB.line := by decide
    have hmode : outputMode selfIndexing.umask = 0o644 := by decide
    have houtput := (hcount 1 houtcome).2 (by decide)
    rw [hheld, hmode] at houtput
    exact ⟨houtcome, houtput, hscratch⟩
  · obtain ⟨hscratch, _, _, hchanged, _⟩ :=
      deliver_replaces_output selfIndexingOneDenied [file, denied] file (by decide) hworkdir
        (by decide) (by decide) hinputs
    have houtcome : broken.outcome =
        .error (.fault (.system (Session.permissionDenied denied))) := by rfl
    have hkept : broken.store.item? place = selfIndexingOneDenied.store.item? place := by
      by_contra hother
      obtain ⟨count, _, hcount⟩ := hchanged hother
      cases houtcome.symm.trans hcount
    exact ⟨houtcome, hkept.trans rfl, hscratch⟩

end TagIndex.Program
