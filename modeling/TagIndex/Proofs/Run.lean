import TagIndex.Proofs.Draft
import TagIndex.Proofs.PostOrder
import TagIndex.Session

namespace TagIndex

/-- Behind its first `calls` calls the device takes the next `count` writes. -/
def Device.Takes (device : Device) (calls count : Nat) : Prop :=
  ∀ i < count, device.onWrite (calls + i + 1) = none

/-- The failure that a fault of the sink becomes while the tag of a name is written. -/
def Failure.ofSink (name : Bytes) : Fault → Failure
  | .system cause => .write name cause
  | .invalid message => .fault (.invalid message)

end TagIndex

namespace TagIndex.Session

open Syntax (Step wanted)

/-- From `before` to `after` the session wrote `tags`, one call for each. -/
structure Wrote (before after : Session) (tags : List Tag) : Prop where
  device : after.sink.device = before.sink.device
  writes : after.sink.writes = before.sink.writes + tags.length
  chunks : after.sink.chunks = before.sink.chunks ++ tags.map Tag.line
  written : after.written = before.written + tags.length
  takes : before.sink.device.Takes before.sink.writes tags.length

namespace Wrote

theorem nil {before after : Session} (hsink : after.sink = before.sink)
    (hwritten : after.written = before.written) : Wrote before after [] :=
  ⟨by rw [hsink], by simp [hsink], by simp [hsink], by simp [hwritten], nofun⟩

theorem takes_iff {before after : Session} {tags : List Tag} (h : Wrote before after tags)
    (count : Nat) : after.sink.device.Takes after.sink.writes count ↔
      before.sink.device.Takes before.sink.writes (tags.length + count) := by
  unfold Device.Takes
  rw [h.device, h.writes]
  constructor
  · intro hafter i hi
    by_cases hlt : i < tags.length
    · exact h.takes i hlt
    · have hcall := hafter (i - tags.length) (by omega)
      rwa [show before.sink.writes + tags.length + (i - tags.length) + 1 =
        before.sink.writes + i + 1 by omega] at hcall
  · intro hbefore i hi
    have hcall := hbefore (tags.length + i) (by omega)
    rwa [← Nat.add_assoc] at hcall

theorem trans {first second third : Session} {a b : List Tag} (h : Wrote first second a)
    (k : Wrote second third b) : Wrote first third (a ++ b) where
  device := k.device.trans h.device
  writes := by rw [k.writes, h.writes, List.length_append, Nat.add_assoc]
  chunks := by rw [k.chunks, h.chunks, List.map_append, List.append_assoc]
  written := by rw [k.written, h.written, List.length_append, Nat.add_assoc]
  takes := by
    rw [List.length_append]
    exact (h.takes_iff b.length).mp k.takes

/-- Notes and sources do not matter for what was written. -/
theorem same_sink {before after other : Session} {tags : List Tag} (h : Wrote before after tags)
    (hsink : other.sink = after.sink) (hwritten : other.written = after.written) :
    Wrote before other tags := by
  simpa using h.trans (.nil hsink hwritten)

theorem held {before after : Session} {tags : List Tag} (h : Wrote before after tags) :
    after.sink.held = before.sink.held ++ (tags.map Tag.line).flatten := by
  rw [Sink.held, h.chunks, List.flatten_append, Sink.held]

end Wrote

theorem emit_none {session done : Session} {tag : Tag} (h : session.emit tag = (none, done)) :
    Wrote session done [tag] := by
  unfold emit Sink.write at h
  split at h
  · rename_i sink hwrite
    cases hcall : session.sink.device.onWrite (session.sink.writes + 1) with
    | none =>
      simp only [hcall, Prod.mk.injEq, true_and] at hwrite h
      subst hwrite h
      refine ⟨rfl, rfl, rfl, rfl, ?_⟩
      intro i hi
      obtain rfl : i = 0 := by simpa using hi
      exact hcall
    | some fault => simp [hcall] at hwrite
  · cases h
  · cases h

theorem emit_some {session done : Session} {tag : Tag} {failure : Failure}
    (h : session.emit tag = (some failure, done)) :
    ∃ fault, session.sink.device.onWrite (session.sink.writes + 1) = some fault := by
  unfold emit Sink.write at h
  cases hcall : session.sink.device.onWrite (session.sink.writes + 1) with
  | none => simp [hcall] at h
  | some fault => exact ⟨fault, rfl⟩

/-- A tag goes through exactly if the sink takes the call. -/
theorem emit_of_none {session : Session} (tag : Tag)
    (h : session.sink.device.onWrite (session.sink.writes + 1) = none) :
    ∃ done, session.emit tag = (none, done) := by
  rw [emit, Sink.write, h]
  exact ⟨_, rfl⟩

/-- A refused call is counted by the sink and changes nothing else. -/
theorem emit_of_fault {session : Session} {fault : Fault} (tag : Tag)
    (h : session.sink.device.onWrite (session.sink.writes + 1) = some fault) :
    session.emit tag = (some (.ofSink tag.name fault),
      { session with sink := { session.sink with writes := session.sink.writes + 1 } }) := by
  rw [emit, Sink.write, h]
  cases fault <;> rfl

theorem emitDraft_none {session done : Session} {draft : Draft}
    (h : session.emitDraft draft = (none, done)) :
    ∃ tag : Tag, draft = tag.draft ∧ Wrote session done [tag] := by
  unfold emitDraft at h
  split at h
  · rename_i tag hcheck
    exact ⟨tag, Draft.check_eq_ok_iff.mp hcheck, emit_none h⟩
  · cases h

/-- A draft fails because the checks refuse it, without a call to the sink, or because the sink
refuses the call. -/
theorem emitDraft_some {session done : Session} {draft : Draft} {failure : Failure}
    (h : session.emitDraft draft = (some failure, done)) :
    (∃ refusal, draft.check = .error refusal ∧ failure = .refused refusal ∧ done = session) ∨
      ∃ tag fault, draft.check = .ok tag ∧
        session.sink.device.onWrite (session.sink.writes + 1) = some fault := by
  unfold emitDraft at h
  split at h
  · rename_i tag hcheck
    obtain ⟨fault, hfault⟩ := emit_some h
    exact .inr ⟨tag, fault, hcheck, hfault⟩
  · rename_i refusal hcheck
    simp only [Prod.mk.injEq, Option.some.injEq] at h
    exact .inl ⟨refusal, hcheck, h.1.symm, h.2.symm⟩

theorem take_none {session done : Session} {step : Step}
    (h : session.take step = (none, done)) :
    ∃ tags : List Tag, wanted [step] = tags.map Tag.draft ∧ Wrote session done tags := by
  cases step with
  | skip offset =>
    simp only [take, Prod.mk.injEq, true_and] at h
    subst h
    exact ⟨[], rfl, .nil rfl rfl⟩
  | tag draft =>
    obtain ⟨tag, rfl, hwrote⟩ := emitDraft_none h
    exact ⟨[tag], rfl, hwrote⟩

/-- A run that ends well has checked every draft and written its line. -/
theorem perform_none {session done : Session} {steps : List Step}
    (h : session.perform steps = (none, done)) :
    ∃ tags : List Tag, wanted steps = tags.map Tag.draft ∧ Wrote session done tags := by
  induction steps generalizing session with
  | nil =>
    simp only [perform, Prod.mk.injEq, true_and] at h
    subst h
    exact ⟨[], rfl, .nil rfl rfl⟩
  | cons step rest ih =>
    unfold perform at h
    split at h
    · rename_i next hnext
      obtain ⟨first, hfirst, hwrote⟩ := take_none hnext
      obtain ⟨others, hothers, hmore⟩ := ih h
      refine ⟨first ++ others, ?_, hwrote.trans hmore⟩
      have hsplit : wanted (step :: rest) = wanted [step] ++ wanted rest :=
        Syntax.wanted_append [step] rest
      rw [hsplit, List.map_append, hfirst, hothers]
    · cases h

/-- A run whose drafts all pass ends well where the sink takes as many calls. -/
theorem perform_of_takes {session : Session} {steps : List Step} {tags : List Tag}
    (hsteps : wanted steps = tags.map Tag.draft)
    (htakes : session.sink.device.Takes session.sink.writes tags.length) :
    ∃ done, session.perform steps = (none, done) := by
  induction steps generalizing session tags with
  | nil => exact ⟨session, rfl⟩
  | cons step rest ih =>
    cases step with
    | skip offset =>
      simp only [perform, take]
      exact ih hsteps htakes
    | tag draft =>
      obtain ⟨tag, others, rfl, rfl, hothers⟩ := List.map_eq_cons_iff.mp hsteps.symm
      obtain ⟨next, hnext⟩ := emit_of_none tag (htakes 0 (by simp))
      have htake : session.take (.tag tag.draft) = (none, next) := by
        rw [take, emitDraft, Draft.check_draft]
        exact hnext
      have hmore : next.sink.device.Takes next.sink.writes others.length := by
        rw [(emit_none hnext).takes_iff, List.length_singleton, Nat.add_comm]
        exact htakes
      simp only [perform, htake]
      exact ih hothers.symm hmore

/-- A run that fails ends at a draft that fails behind a run that ends well. -/
theorem perform_some {session done : Session} {steps : List Step} {failure : Failure}
    (h : session.perform steps = (some failure, done)) :
    ∃ before draft after next, steps = before ++ .tag draft :: after ∧
      session.perform before = (none, next) ∧ next.emitDraft draft = (some failure, done) := by
  induction steps generalizing session with
  | nil => cases h
  | cons step rest ih =>
    unfold perform at h
    split at h
    · rename_i next hnext
      obtain ⟨before, draft, after, last, rfl, hbefore, hfail⟩ := ih h
      refine ⟨step :: before, draft, after, last, rfl, ?_, hfail⟩
      simp only [perform, hnext, hbefore]
    · rename_i reason next hnext
      cases step with
      | skip offset => cases hnext
      | tag draft => exact ⟨[], draft, rest, session, rfl, rfl, hnext.trans h⟩

theorem extract_ok {session done : Session} {tree : Syntax.Tree} {path : Bytes} {count : Nat}
    (h : session.extract tree path = (.ok count, done)) :
    ∃ tags : List Tag, tree.drafts path = tags.map Tag.draft ∧ Wrote session done tags ∧
      count = tags.length := by
  unfold extract at h
  split at h
  · rename_i last hlast
    obtain ⟨tags, hdrafts, hwrote⟩ := perform_none hlast
    simp only [Prod.mk.injEq, Except.ok.injEq] at h
    obtain ⟨rfl, rfl⟩ := h
    refine ⟨tags, hdrafts, hwrote.same_sink rfl rfl, ?_⟩
    rw [hwrote.written]
    omega
  · cases h

/-- Drafts that do not come to their end on a device that had `calls` calls: behind `tags` a draft
is refused, or the device refuses the call for it. -/
inductive Breaks (device : Device) (calls : Nat) (drafts : List Draft) (tags : List Tag) :
    Failure → Prop
  | refused {draft : Draft} {rest : List Draft} {refusal : Refusal}
      (hdrafts : drafts = tags.map Tag.draft ++ draft :: rest)
      (hcheck : draft.check = .error refusal) : Breaks device calls drafts tags (.refused refusal)
  | unwritten {tag : Tag} {rest : List Draft} {fault : Fault}
      (hdrafts : drafts = tags.map Tag.draft ++ tag.draft :: rest)
      (hcall : device.onWrite (calls + tags.length + 1) = some fault) :
      Breaks device calls drafts tags (.ofSink tag.name fault)

/-- From `before` to `after` the session wrote `tags` and then failed. A fault that the sink
answered on the way is the one that the failure tells. -/
structure Broke (before after : Session) (tags : List Tag) (failure : Failure) : Prop where
  chunks : after.sink.chunks = before.sink.chunks ++ tags.map Tag.line
  written : after.written = before.written + tags.length
  told : ∀ call fault, before.sink.writes < call → call ≤ after.sink.writes →
    before.sink.device.onWrite call = some fault → ∃ name, failure = .ofSink name fault

theorem Wrote.none_of_le {before after : Session} {tags : List Tag} (h : Wrote before after tags)
    {call : Nat} (hfrom : before.sink.writes < call) (hto : call ≤ after.sink.writes) :
    before.sink.device.onWrite call = none := by
  rw [h.writes] at hto
  have hcall := h.takes (call - before.sink.writes - 1) (by omega)
  rwa [show before.sink.writes + (call - before.sink.writes - 1) + 1 = call by omega] at hcall

theorem Wrote.broke {first second third : Session} {a b : List Tag} {failure : Failure}
    (h : Wrote first second a) (k : Broke second third b failure) :
    Broke first third (a ++ b) failure where
  chunks := by rw [k.chunks, h.chunks, List.map_append, List.append_assoc]
  written := by rw [k.written, h.written, List.length_append, Nat.add_assoc]
  told := by
    intro call fault hfrom hto hfault
    by_cases hle : call ≤ second.sink.writes
    · rw [h.none_of_le hfrom hle] at hfault
      cases hfault
    · rw [← h.device] at hfault
      exact k.told call fault (by omega) hto hfault

theorem exists_step_of_wanted {steps : List Step} {drafts rest : List Draft} {draft : Draft}
    (h : wanted steps = drafts ++ draft :: rest) :
    ∃ before after, steps = before ++ .tag draft :: after ∧ wanted before = drafts := by
  obtain ⟨front, back, rfl, hfront, hback⟩ := List.filterMap_eq_append_iff.mp h
  obtain ⟨skips, step, after, rfl, hskips, hstep, _⟩ := List.filterMap_eq_cons_iff.mp hback
  have htag : step = .tag draft := by
    cases step with
    | skip offset => cases hstep
    | tag found => rw [Option.some.inj hstep]
  refine ⟨front ++ skips, after, by rw [htag, List.append_assoc], ?_⟩
  rw [Syntax.wanted_append, show wanted front = drafts from hfront,
    show wanted skips = [] from List.filterMap_eq_nil_iff.mpr hskips, List.append_nil]

/-- What breaks a run of the walk's drafts is what the session fails with. -/
theorem perform_of_breaks {session : Session} {steps : List Step} {tags : List Tag}
    {failure : Failure} (htakes : session.sink.device.Takes session.sink.writes tags.length)
    (hbreaks : Breaks session.sink.device session.sink.writes (wanted steps) tags failure) :
    ∃ done, session.perform steps = (some failure, done) ∧ Broke session done tags failure := by
  -- up to the draft that fails the run ends well
  have hfront {draft : Draft} {rest : List Draft}
      (hdrafts : wanted steps = tags.map Tag.draft ++ draft :: rest) :
      ∃ next, Wrote session next tags ∧ ∀ done, next.emitDraft draft = (some failure, done) →
        session.perform steps = (some failure, done) := by
    obtain ⟨before, after, rfl, hbefore⟩ := exists_step_of_wanted hdrafts
    obtain ⟨next, hnext⟩ := perform_of_takes hbefore htakes
    obtain ⟨found, hfound, hwrote⟩ := perform_none hnext
    obtain rfl : tags = found :=
      (List.map_inj_right fun _ _ heq => Tag.draft_injective heq).mp (hbefore.symm.trans hfound)
    refine ⟨next, hwrote, ?_⟩
    intro done hdone
    rw [perform_append, hnext]
    simp only [perform, take, hdone]
  cases hbreaks with
  | refused hdrafts hcheck =>
    obtain ⟨next, hwrote, hrun⟩ := hfront hdrafts
    refine ⟨next, hrun next (by rw [emitDraft, hcheck]), hwrote.chunks, hwrote.written, ?_⟩
    intro call fault hfrom hto hfault
    rw [hwrote.none_of_le hfrom hto] at hfault
    cases hfault
  | @unwritten tag rest fault hdrafts hcall =>
    obtain ⟨next, hwrote, hrun⟩ := hfront hdrafts
    have hnext : next.sink.device.onWrite (next.sink.writes + 1) = some fault := by
      rw [hwrote.device, hwrote.writes]
      exact hcall
    have hemit : next.emitDraft tag.draft = (some (.ofSink tag.name fault),
        { next with sink := { next.sink with writes := next.sink.writes + 1 } }) := by
      rw [emitDraft, Draft.check_draft]
      exact emit_of_fault tag hnext
    refine ⟨_, hrun _ hemit, hwrote.chunks, hwrote.written, ?_⟩
    intro call other hfrom hto hfault
    by_cases hle : call ≤ next.sink.writes
    · rw [hwrote.none_of_le hfrom hle] at hfault
      cases hfault
    · obtain rfl : call = next.sink.writes + 1 := Nat.le_antisymm hto (by omega)
      rw [← hwrote.device, hnext] at hfault
      obtain rfl := Option.some.inj hfault
      exact ⟨tag.name, rfl⟩

theorem breaks_of_perform {session done : Session} {steps : List Step} {failure : Failure}
    (h : session.perform steps = (some failure, done)) :
    ∃ tags : List Tag, session.sink.device.Takes session.sink.writes tags.length ∧
      Breaks session.sink.device session.sink.writes (wanted steps) tags failure := by
  obtain ⟨before, draft, after, next, rfl, hbefore, hfail⟩ := perform_some h
  obtain ⟨tags, htags, hwrote⟩ := perform_none hbefore
  have hdrafts : wanted (before ++ .tag draft :: after) =
      tags.map Tag.draft ++ draft :: wanted after := by
    rw [Syntax.wanted_append, htags]
    rfl
  refine ⟨tags, hwrote.takes, ?_⟩
  rcases emitDraft_some hfail with ⟨refusal, hcheck, rfl, _⟩ | ⟨tag, fault, hcheck, hcall⟩
  · exact .refused hdrafts hcheck
  · obtain rfl := Draft.check_eq_ok_iff.mp hcheck
    have hemit := emit_of_fault tag hcall
    rw [emitDraft, Draft.check_draft] at hfail
    obtain rfl : Failure.ofSink tag.name fault = failure := by
      simpa using congrArg Prod.fst (hemit.symm.trans hfail)
    rw [hwrote.device, hwrote.writes] at hcall
    exact .unwritten hdrafts hcall

theorem extract_of_takes {session : Session} {tree : Syntax.Tree} {path : Bytes}
    {tags : List Tag} (hdrafts : tree.drafts path = tags.map Tag.draft)
    (htakes : session.sink.device.Takes session.sink.writes tags.length) :
    ∃ count done, session.extract tree path = (.ok count, done) := by
  obtain ⟨done, hdone⟩ := perform_of_takes hdrafts htakes
  rw [extract, hdone]
  exact ⟨_, _, rfl⟩

theorem extract_of_breaks {session : Session} {tree : Syntax.Tree} {path : Bytes}
    {tags : List Tag} {failure : Failure}
    (htakes : session.sink.device.Takes session.sink.writes tags.length)
    (hbreaks : Breaks session.sink.device session.sink.writes (tree.drafts path) tags failure) :
    ∃ done, session.extract tree path = (.error failure, done) ∧
      Broke session done tags failure := by
  obtain ⟨done, hdone, hbroke⟩ := perform_of_breaks htakes hbreaks
  rw [extract, hdone]
  exact ⟨done, rfl, hbroke⟩

theorem breaks_of_extract {session done : Session} {tree : Syntax.Tree} {path : Bytes}
    {failure : Failure} (h : session.extract tree path = (.error failure, done)) :
    ∃ tags : List Tag, session.sink.device.Takes session.sink.writes tags.length ∧
      Breaks session.sink.device session.sink.writes (tree.drafts path) tags failure := by
  unfold extract at h
  split at h
  · cases h
  · rename_i reason last hlast
    simp only [Prod.mk.injEq, Except.error.injEq] at h
    obtain ⟨rfl, _⟩ := h
    exact breaks_of_perform hlast

/-- On a sink that takes every write, only a refused draft makes tagging fail. -/
theorem extract_error_of_steady {session done : Session} {tree : Syntax.Tree} {path : Bytes}
    {failure : Failure} (steady : ∀ call, session.sink.device.onWrite call = none)
    (h : session.extract tree path = (.error failure, done)) :
    ∃ draft ∈ tree.drafts path, ∃ refusal, draft.check = .error refusal ∧
      failure = .refused refusal := by
  unfold extract at h
  split at h
  · cases h
  · rename_i reason last hlast
    obtain ⟨before, draft, after, next, hsteps, hbefore, hfail⟩ := perform_some hlast
    obtain ⟨_, _, hwrote⟩ := perform_none hbefore
    simp only [Prod.mk.injEq, Except.error.injEq] at h
    obtain ⟨rfl, _⟩ := h
    have hmem : draft ∈ tree.drafts path := by
      rw [Syntax.Tree.drafts, hsteps, Syntax.wanted_append]
      exact List.mem_append_right _ List.mem_cons_self
    rcases emitDraft_some hfail with ⟨refusal, hcheck, hreason, _⟩ | ⟨_, fault, _, hfault⟩
    · exact ⟨draft, hmem, refusal, hcheck, hreason⟩
    · -- the device is the same as before the run, and it takes every write
      rw [hwrote.device, steady] at hfault
      cases hfault

/-- On such a sink tagging ends well exactly if every draft passes its checks. -/
theorem extract_isOk_iff {session : Session} {tree : Syntax.Tree} {path : Bytes}
    (steady : ∀ call, session.sink.device.onWrite call = none) :
    (∃ count done, session.extract tree path = (.ok count, done)) ↔
      ∀ draft ∈ tree.drafts path, ∃ tag, draft.check = .ok tag := by
  constructor
  · intro h draft hmem
    obtain ⟨count, done, h⟩ := h
    obtain ⟨tags, hdrafts, _⟩ := extract_ok h
    rw [hdrafts] at hmem
    obtain ⟨tag, _, rfl⟩ := List.mem_map.mp hmem
    exact ⟨tag, Draft.check_draft tag⟩
  · intro hchecked
    rcases h : session.extract tree path with ⟨failure | count, done⟩
    · obtain ⟨draft, hmem, refusal, hrefused, _⟩ := extract_error_of_steady steady h
      obtain ⟨tag, htag⟩ := hchecked draft hmem
      rw [htag] at hrefused
      cases hrefused
    · exact ⟨count, done, rfl⟩

theorem chunks_flush (session : Session) :
    session.flush.2.sink.chunks = session.sink.chunks := by
  have hsink := Sink.chunks_flush session.sink
  unfold flush
  split <;> (rename_i heq; rw [heq] at hsink; exact hsink)

end TagIndex.Session
