import Mathlib.Algebra.Order.Ring.Int
import TagIndex.Proofs.Batch

namespace TagIndex

namespace Stats

theorem ext {a b : Stats} (hprocessed : a.processed = b.processed)
    (hskipped : a.skipped = b.skipped) (htags : a.tags = b.tags) (hfaults : a.faults = b.faults) :
    a = b := by
  cases a
  cases b
  simp_all

@[simp] theorem tags_add (a b : Stats) : (a + b).tags = a.tags + b.tags := rfl

@[simp] theorem faults_add (a b : Stats) : (a + b).faults = a.faults + b.faults := rfl

end Stats

namespace Session

/-- The tags at the front of some drafts, up to the first draft that is refused. -/
def passing : List Draft → List Tag
  | [] => []
  | draft :: rest =>
    match draft.check with
    | .ok tag => tag :: passing rest
    | .error _ => []

theorem passing_append (tags : List Tag) (rest : List Draft) :
    passing (tags.map Tag.draft ++ rest) = tags ++ passing rest := by
  induction tags with
  | nil => rfl
  | cons tag others ih => simp [passing, ih]

/-- The tags of the file at a path. What cannot be read has none. -/
def tagsAt (store : Store) (reader : Reader) (path : Bytes) : List Tag :=
  match store.read path with
  | .ok source => passing ((reader source).drafts path)
  | .error _ => []

/-- A file tagged on its own, by a session of its own whose sink never refuses. -/
def alone (store : Store) (reader : Reader) (path : Bytes) : Except Failure Nat × Session :=
  ({} : Session).tagFile store reader path

/-- The number of faulty places that tagging a file answers. -/
def faultCount : Except Failure Nat → Nat
  | .ok count => count
  | .error _ => 0

variable {store : Store} {reader : Reader} {session done : Session} {path : Bytes}
  {paths : List Bytes} {tags : List Tag} {stats : Stats}

theorem tagsAt_of_skips (reader : Reader) (h : store.skips path) :
    tagsAt store reader path = [] := by
  cases hread : store.read path with
  | ok source => simp [not_skips_of_read hread] at h
  | error fault => rw [tagsAt, hread]

theorem Yields.tagsAt_eq (h : Yields store reader path tags) : tagsAt store reader path = tags := by
  rcases h with ⟨hskips, rfl⟩ | ⟨source, hread, hdrafts⟩
  · exact tagsAt_of_skips reader hskips
  · have hpass := passing_append tags []
    rw [List.append_nil, ← hdrafts] at hpass
    rw [tagsAt, hread]
    simpa [passing] using hpass

theorem map_tagsAt_of_yields {outputs : List (List Tag)}
    (h : List.Forall₂ (Yields store reader) paths outputs) :
    outputs = paths.map (tagsAt store reader) := by
  induction h with
  | nil => rfl
  | cons hyields _ ih => rw [List.map_cons, hyields.tagsAt_eq, ← ih]

theorem alone_of_skips (reader : Reader) (h : store.skips path) :
    ∃ fault, alone store reader path = (.error (.fault fault), {}) := by
  cases hread : store.read path with
  | ok source => simp [not_skips_of_read hread] at h
  | error fault => exact ⟨fault, by rw [alone, tagFile, hread]⟩

theorem alone_of_read {source : Bytes} (hread : store.read path = .ok source)
    (hdrafts : (reader source).drafts path = tags.map Tag.draft) :
    ∃ last, alone store reader path = (.ok (reader source).faults, last) ∧ Wrote {} last tags := by
  obtain ⟨ready, hsink, hwritten, _, hfile⟩ := tagFile_of_read reader ({} : Session) hread
  have htakes : ready.sink.device.Takes ready.sink.writes tags.length := by
    rw [hsink]
    exact fun _ _ => rfl
  obtain ⟨count, last, hrun⟩ := extract_of_takes hdrafts htakes
  obtain ⟨found, hfound, hwrote, _⟩ := extract_ok hrun
  obtain rfl : tags = found :=
    (List.map_inj_right fun _ _ heq => Tag.draft_injective heq).mp (hdrafts.symm.trans hfound)
  refine ⟨last, ?_, (Wrote.nil hsink hwritten).trans hwrote⟩
  rw [alone, hfile, hrun]
  rfl

/-- A path that yields its tags in a batch gives the same tags alone. -/
theorem Yields.alone_wrote (h : Yields store reader path tags) :
    Wrote {} (alone store reader path).2 tags := by
  rcases h with ⟨hskips, rfl⟩ | ⟨source, hread, hdrafts⟩
  · obtain ⟨fault, hfault⟩ := alone_of_skips reader hskips
    rw [hfault]
    exact .nil rfl rfl
  · obtain ⟨last, hlast, hwrote⟩ := alone_of_read hread hdrafts
    rw [hlast]
    exact hwrote

theorem yields_of_alone {count : Nat} {last : Session}
    (h : alone store reader path = (.ok count, last)) :
    Yields store reader path (tagsAt store reader path) := by
  cases hread : store.read path with
  | error fault =>
    rw [alone, tagFile, hread] at h
    cases h
  | ok source =>
    obtain ⟨ready, _, _, _, hfile⟩ := tagFile_of_read reader ({} : Session) hread
    rw [alone, hfile] at h
    rcases hrun : ready.extract (reader source) path with ⟨failure | emitted, ended⟩
    · rw [hrun] at h
      cases h
    · obtain ⟨tags, hdrafts, _⟩ := extract_ok hrun
      have hyields : Yields store reader path tags := .inr ⟨source, hread, hdrafts⟩
      rwa [hyields.tagsAt_eq]

theorem yields_tagsAt_iff :
    Yields store reader path (tagsAt store reader path) ↔
      store.skips path ∨ ∃ count last, alone store reader path = (.ok count, last) := by
  constructor
  · intro h
    rcases h with ⟨hskips, _⟩ | ⟨source, hread, hdrafts⟩
    · exact .inl hskips
    · obtain ⟨last, hlast, _⟩ := alone_of_read hread hdrafts
      exact .inr ⟨_, last, hlast⟩
  · intro h
    rcases h with hskips | ⟨count, last, hlast⟩
    · exact .inl ⟨hskips, tagsAt_of_skips reader hskips⟩
    · exact yields_of_alone hlast

/-- The counters that a path adds are its share of the session's count and the faults that tagging
it alone answers. -/
theorem tagPath_ok_stats (h : session.tagPath store reader path = (.ok stats, done)) :
    stats.tags = (done.written : Int) - session.written ∧
      stats.faults = faultCount (alone store reader path).1 := by
  obtain ⟨tags, hyields, hwrote, _⟩ := tagPath_ok h
  have hcount := hwrote.written
  rcases hyields with ⟨hskips, rfl⟩ | ⟨source, hread, hdrafts⟩
  · obtain ⟨last, hlast, _⟩ := tagPath_of_skips reader session hskips
    obtain ⟨fault, hfault⟩ := alone_of_skips reader hskips
    obtain rfl := Except.ok.inj (congrArg Prod.fst (hlast.symm.trans h))
    rw [hfault]
    refine ⟨?_, rfl⟩
    simp [Stats.ofSkipped, hcount]
  · obtain ⟨single, hsingle, _⟩ := alone_of_read hread hdrafts
    obtain ⟨ready, last, _, _, _, ⟨count, _, hpath⟩ | ⟨failure, _, hpath⟩⟩ :=
      tagPath_of_read reader session hread
    · obtain ⟨hstats, rfl⟩ := Prod.mk.inj (hpath.symm.trans h)
      obtain rfl := Except.ok.inj hstats
      have hlast : last.written = session.written + tags.length := hcount
      rw [hsingle]
      refine ⟨?_, rfl⟩
      simp only [Stats.ofFile, withSource, hlast]
      omega
    · cases hpath.symm.trans h

theorem tagPaths_ok_stats {total : Stats}
    (h : session.tagPaths store reader stats paths = (.ok total, done)) :
    total.tags - stats.tags = (done.written : Int) - session.written ∧
      total.faults - stats.faults =
        ((paths.map fun path => faultCount (alone store reader path).1).sum : Nat) := by
  induction paths generalizing session stats with
  | nil =>
    obtain ⟨rfl, rfl⟩ : stats = total ∧ session = done := by simpa [tagPaths] using h
    simp
  | cons path rest ih =>
    unfold tagPaths at h
    split at h
    · rename_i one next hnext
      obtain ⟨htags, hfaults⟩ := tagPath_ok_stats hnext
      obtain ⟨hmoreTags, hmoreFaults⟩ := ih h
      simp only [Stats.tags_add, Stats.faults_add] at hmoreTags hmoreFaults
      simp only [List.map_cons, List.sum_cons, Int.natCast_add]
      constructor <;> omega
    · cases h

/-- A batch that comes to its end has written the tags of its files in order, and its counters of
tags and faults are sums over them. -/
theorem tagFiles_ok_sums (h : session.tagFiles store reader paths = (.ok stats, done)) :
    (∀ path ∈ paths, Yields store reader path (tagsAt store reader path)) ∧
      Wrote session done (paths.flatMap (tagsAt store reader)) ∧
      stats.tags = (done.written : Int) - session.written ∧
      stats.faults =
        ((paths.map fun path => faultCount (alone store reader path).1).sum : Nat) := by
  obtain ⟨outputs, hyields, hwrote, _⟩ := tagFiles_ok h
  obtain rfl := map_tagsAt_of_yields hyields
  rw [List.forall₂_map_right_iff, List.forall₂_same] at hyields
  refine ⟨hyields, hwrote, ?_⟩
  unfold tagFiles at h
  split at h
  · rename_i total last hlast
    obtain ⟨hstats, rfl⟩ := Prod.mk.inj h
    obtain rfl := Except.ok.inj hstats
    obtain ⟨htags, hfaults⟩ := tagPaths_ok_stats hlast
    exact ⟨by simpa [note] using htags, by simpa using hfaults⟩
  · cases h

theorem tagFiles_isOk_iff (steady : ∀ call, session.sink.device.onWrite call = none) :
    (∃ stats done, session.tagFiles store reader paths = (.ok stats, done)) ↔
      ∀ path ∈ paths, store.skips path ∨
        ∃ count last, alone store reader path = (.ok count, last) := by
  constructor
  · intro h path hmem
    obtain ⟨stats, done, h⟩ := h
    exact yields_tagsAt_iff.mp ((tagFiles_ok_sums h).1 path hmem)
  · intro h
    have hyields : List.Forall₂ (Yields store reader) paths (paths.map (tagsAt store reader)) := by
      rw [List.forall₂_map_right_iff, List.forall₂_same]
      exact fun path hmem => yields_tagsAt_iff.mpr (h path hmem)
    obtain ⟨stats, done, hdone, _⟩ := tagFiles_of_yields hyields fun i _ => steady _
    exact ⟨stats, done, hdone⟩

theorem held_of_wrote_tagsAt
    (hyields : ∀ path ∈ paths, Yields store reader path (tagsAt store reader path))
    (h : Wrote session done (paths.flatMap (tagsAt store reader))) :
    done.sink.held = session.sink.held ++
        paths.flatMap (fun path => (alone store reader path).2.sink.held) ∧
      done.written = session.written +
        (paths.map fun path => (alone store reader path).2.written).sum := by
  have hlines : ∀ path ∈ paths, (alone store reader path).2.sink.held =
      ((tagsAt store reader path).map Tag.line).flatten := by
    intro path hmem
    simpa [Sink.held] using (hyields path hmem).alone_wrote.held
  have hcount : ∀ path ∈ paths, (alone store reader path).2.written =
      (tagsAt store reader path).length := by
    intro path hmem
    simpa using (hyields path hmem).alone_wrote.written
  constructor
  · rw [h.held, List.flatMap_congr hlines]
    simp [List.flatMap, Function.comp_def, List.flatten_flatten]
  · rw [h.written, List.map_congr_left hcount, List.length_flatMap]

theorem tagFiles_append_ok {front back : List Bytes}
    (h : session.tagFiles store reader (front ++ back) = (.ok stats, done)) :
    ∃ first middle second last, session.tagFiles store reader front = (.ok first, middle) ∧
      middle.tagFiles store reader back = (.ok second, last) ∧
      last.sink.held = done.sink.held ∧ last.written = done.written ∧ stats = first + second := by
  obtain ⟨hyields, hwrote, htags, hfaults⟩ := tagFiles_ok_sums h
  obtain ⟨_, _, _, hcounts, _⟩ := tagFiles_ok h
  have hall {part : List Bytes} (hpart : ∀ path ∈ part, path ∈ front ++ back) :
      List.Forall₂ (Yields store reader) part (part.map (tagsAt store reader)) := by
    rw [List.forall₂_map_right_iff, List.forall₂_same]
    exact fun path hmem => hyields path (hpart path hmem)
  rw [List.flatMap_append] at hwrote
  have htakes := hwrote.takes
  rw [List.length_append] at htakes
  obtain ⟨first, middle, hfirst, hfront, hcountFirst⟩ :=
    tagFiles_of_yields (hall fun path hmem => List.mem_append_left _ hmem) fun i hi => by
      rw [← List.flatMap_def] at hi
      exact htakes i (by omega)
  rw [← List.flatMap_def] at hfront
  obtain ⟨second, last, hsecond, hback, hcountSecond⟩ :=
    tagFiles_of_yields (hall fun path hmem => List.mem_append_right _ hmem)
      (by rw [← List.flatMap_def]; exact (hfront.takes_iff _).mpr htakes)
  rw [← List.flatMap_def] at hback
  have hboth := hfront.trans hback
  have hwritten : last.written = done.written := hboth.written.trans hwrote.written.symm
  refine ⟨first, middle, second, last, hfirst, hsecond, hboth.held.trans hwrote.held.symm,
    hwritten, ?_⟩
  obtain ⟨_, _, htagsFirst, hfaultsFirst⟩ := tagFiles_ok_sums hfirst
  obtain ⟨_, _, htagsSecond, hfaultsSecond⟩ := tagFiles_ok_sums hsecond
  have hsum := hcountFirst.add hcountSecond
  apply Stats.ext
  · rw [hcounts.1, hsum.1]
  · rw [hcounts.2, hsum.2]
  · rw [Stats.tags_add, htags, htagsFirst, htagsSecond, hwritten]
    omega
  · rw [Stats.faults_add, hfaults, hfaultsFirst, hfaultsSecond, List.map_append, List.sum_append,
      Int.natCast_add]

/-- A batch on a sink that never refuses comes to its end exactly if each path is absent or can be
tagged alone. On any sink, a batch that comes to its end has added the bytes that its files give
alone, in order, and its counters are sums over its paths; and if its paths are cut in two, it is
the batch of the first part followed by that of the second. -/
theorem tagFiles_sums_files (store : Store) (reader : Reader) (session : Session)
    (paths : List Bytes) :
    ((∀ call, session.sink.device.onWrite call = none) →
      ((∃ stats done, session.tagFiles store reader paths = (.ok stats, done)) ↔
        ∀ path ∈ paths, store.skips path ∨
          ∃ count last, alone store reader path = (.ok count, last))) ∧
    ∀ stats done, session.tagFiles store reader paths = (.ok stats, done) →
      done.sink.held = session.sink.held ++
        paths.flatMap (fun path => (alone store reader path).2.sink.held) ∧
      (∀ path ∈ paths, (store.skips path ∧ (alone store reader path).2.sink.held = []) ∨
        ∃ count last, alone store reader path = (.ok count, last)) ∧
      stats.processed + stats.skipped = paths.length ∧
      stats.skipped = paths.countP store.skips ∧
      stats.tags = (done.written : Int) - session.written ∧
      stats.tags = ((paths.map fun path => (alone store reader path).2.written).sum : Nat) ∧
      stats.faults = ((paths.map fun path => faultCount (alone store reader path).1).sum : Nat) ∧
      ∀ front back, paths = front ++ back →
        ∃ first middle second last, session.tagFiles store reader front = (.ok first, middle) ∧
          middle.tagFiles store reader back = (.ok second, last) ∧
          last.sink.held = done.sink.held ∧ last.written = done.written ∧
          stats = first + second := by
  refine ⟨tagFiles_isOk_iff, ?_⟩
  intro stats done h
  obtain ⟨hyields, hwrote, htags, hfaults⟩ := tagFiles_ok_sums h
  obtain ⟨_, _, _, hcounts, _⟩ := tagFiles_ok h
  obtain ⟨hheld, hwritten⟩ := held_of_wrote_tagsAt hyields hwrote
  refine ⟨hheld, ?_, ?_, hcounts.2, htags, ?_, hfaults, ?_⟩
  · intro path hmem
    rcases yields_tagsAt_iff.mp (hyields path hmem) with hskips | hlast
    · obtain ⟨fault, hfault⟩ := alone_of_skips reader hskips
      exact .inl ⟨hskips, by rw [hfault]; rfl⟩
    · exact .inr hlast
  · have hlength := List.length_eq_countP_add_countP store.skips (l := paths)
    rw [hcounts.1, hcounts.2]
    simp only [decide_not, Bool.decide_eq_true] at hlength
    omega
  · rw [htags, hwritten]
    omega
  · intro front back hcut
    subst hcut
    exact tagFiles_append_ok h

/-- A session that has counted seven tags before. -/
def sevenWritten : Session := { sink := { chunks := [Bytes.ofString "old\n"] }, written := 7 }

/-- The two bindings, with three faulty places around them. -/
def readFaulty (source : Bytes) : Syntax.Tree := { readTwoBindings source with faults := 3 }

theorem tagFiles_file_missing_folder_denied :
    let file := Bytes.ofString "b.zig"
    let denied := Bytes.ofString "d.zig"
    let paths := [file, Bytes.ofString "a.zig", Bytes.ofString ".", file]
    let run := sevenWritten.tagFiles twoBindings readFaulty paths
    let lines := tagOfA.line ++ tagOfB.line
    (∃ stats, run.1 = .ok stats ∧ run.2.sink.held = Bytes.ofString "old\n" ++ (lines ++ lines) ∧
      stats = { processed := 2, skipped := 2, tags := 4, faults := 6 } ∧ run.2.written = 11) ∧
    ¬∃ stats done, sevenWritten.tagFiles twoBindingsOneDenied readFaulty [file, denied] =
      (.ok stats, done) := by
  intro file denied paths run lines
  refine ⟨?_, ?_⟩
  · obtain ⟨hends, hsums⟩ := tagFiles_sums_files twoBindings readFaulty sevenWritten paths
    have hfile : alone twoBindings readFaulty file =
        (.ok 3, (alone twoBindings readFaulty file).2) := rfl
    have hpaths : ∀ path ∈ paths, twoBindings.skips path ∨
        ∃ count last, alone twoBindings readFaulty path = (.ok count, last) := by
      intro path hmem
      simp only [paths, List.mem_cons, List.not_mem_nil, or_false] at hmem
      rcases hmem with rfl | rfl | rfl | rfl
      · exact .inr ⟨_, _, hfile⟩
      · exact .inl (by decide)
      · exact .inl (by decide)
      · exact .inr ⟨_, _, hfile⟩
    obtain ⟨stats, done, hdone⟩ := (hends fun _ => rfl).mpr hpaths
    obtain ⟨hheld, _, hlength, hskipped, hgrowth, htags, hfaults, _⟩ := hsums stats done hdone
    have hrun : run = (.ok stats, done) := hdone
    have hlines : paths.flatMap (fun path => (alone twoBindings readFaulty path).2.sink.held) =
        lines ++ lines := by decide
    have hcount :
        (paths.map fun path => (alone twoBindings readFaulty path).2.written).sum = 4 := by decide
    have hfaulty :
        (paths.map fun path => faultCount (alone twoBindings readFaulty path).1).sum = 6 := by
      decide
    have hskips : paths.countP twoBindings.skips = 2 := by decide
    have hold : sevenWritten.sink.held = Bytes.ofString "old\n" := by decide
    rw [hlines, hold] at hheld
    rw [hcount] at htags
    rw [hfaulty] at hfaults
    rw [hskips] at hskipped
    have hprocessed : stats.processed = 2 := by
      change stats.processed + stats.skipped = 4 at hlength
      omega
    have hwritten : done.written = 11 := by
      change stats.tags = (done.written : Int) - 7 at hgrowth
      omega
    rw [hrun]
    exact ⟨stats, rfl, hheld, Stats.ext hprocessed hskipped htags hfaults, hwritten⟩
  · intro hends
    have hone := ((tagFiles_sums_files twoBindingsOneDenied readFaulty sevenWritten
      [file, denied]).1 fun _ => rfl).mp hends denied (by simp)
    rcases hone with hskips | ⟨count, last, halone⟩
    · revert hskips
      decide
    · have hfails : (alone twoBindingsOneDenied readFaulty denied).1 =
          .error (.fault (.system (permissionDenied denied))) := rfl
      rw [halone] at hfails
      cases hfails

end Session

end TagIndex
