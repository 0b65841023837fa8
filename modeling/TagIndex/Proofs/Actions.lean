import TagIndex.Proofs.Batch

namespace TagIndex

/-- The failure that a fault of the sink becomes while it is flushed. -/
def Failure.ofFlush : Fault → Failure
  | .system cause => .flush cause
  | .invalid message => .fault (.invalid message)

namespace Session

open Syntax (Step wanted)

/-- What can be asked of a session. -/
inductive Action where
  | emit (tag : Tag)
  | flush
  | find (source : Bytes) (around : Syntax.Surroundings) (node : Syntax.Node)
  | extract (tree : Syntax.Tree) (path : Bytes)

/-- The drafts that an action wants written. -/
def Action.wants : Action → List Draft
  | .emit tag => [tag.draft]
  | .flush => []
  | .find source around node => wanted (Syntax.steps source around node)
  | .extract tree path => tree.drafts path

/-- What an action answers: a failure, or the number of tags if it is about a whole file. -/
abbrev Answer := Except Failure (Option Nat)

def Answer.failure? : Answer → Option Failure
  | .ok _ => none
  | .error failure => some failure

def Answer.ofFailure? : Option Failure → Answer
  | none => .ok none
  | some failure => .error failure

def act (session : Session) : Action → Answer × Session
  | .emit tag => (session.emit tag).map .ofFailure? id
  | .flush => session.flush.map .ofFailure? id
  | .find source around node =>
    (session.perform (Syntax.steps source around node)).map .ofFailure? id
  | .extract tree path => (session.extract tree path).map (·.map some) id

/-- The session after some actions. A failure does not keep it from the next one. -/
def after (session : Session) (actions : List Action) : Session :=
  actions.foldl (fun session action => (session.act action).2) session

/-- A call to the sink: the tag whose line it was for, and the fault if the sink refused it. -/
structure Call where
  tag : Tag
  fault : Option Fault

def Call.taken (call : Call) : Bool := call.fault.isNone

/-- From `before` to `after` the sink got `calls` and answered as its device says. The lines of the
calls that it took are what it holds, and their number is what the session counts. -/
structure Called (before after : Session) (calls : List Call) : Prop where
  device : after.sink.device = before.sink.device
  writes : after.sink.writes = before.sink.writes + calls.length
  faults : calls.map Call.fault =
    (List.range' (before.sink.writes + 1) calls.length).map before.sink.device.onWrite
  chunks : after.sink.chunks =
    before.sink.chunks ++ (calls.filter Call.taken).map fun call => call.tag.line
  written : after.written = before.written + calls.countP Call.taken

namespace Called

theorem nil {before after : Session} (hsink : after.sink = before.sink)
    (hwritten : after.written = before.written) : Called before after [] :=
  ⟨by rw [hsink], by simp [hsink], rfl, by simp [hsink], by simp [hwritten]⟩

theorem trans {first second third : Session} {a b : List Call} (h : Called first second a)
    (k : Called second third b) : Called first third (a ++ b) where
  device := k.device.trans h.device
  writes := by rw [k.writes, h.writes, List.length_append, Nat.add_assoc]
  faults := by
    have hcalls := k.faults
    rw [h.writes, h.device, Nat.add_right_comm] at hcalls
    rw [List.map_append, List.length_append, h.faults, hcalls, ← List.map_append,
      List.range'_append_1]
  chunks := by rw [k.chunks, h.chunks, List.filter_append, List.map_append, List.append_assoc]
  written := by rw [k.written, h.written, List.countP_append, Nat.add_assoc]

end Called

/-- The calls that are made for some drafts, and the failure that ends them early. -/
inductive Made : List Draft → List Call → Option Failure → Prop
  | nil : Made [] [] none
  | taken {tag : Tag} {rest : List Draft} {calls : List Call} {failure : Option Failure}
      (h : Made rest calls failure) : Made (tag.draft :: rest) (⟨tag, none⟩ :: calls) failure
  | unwritten (tag : Tag) (rest : List Draft) (fault : Fault) :
      Made (tag.draft :: rest) [⟨tag, some fault⟩] (some (.ofSink tag.name fault))
  | refused {draft : Draft} {refusal : Refusal} (rest : List Draft)
      (hcheck : draft.check = .error refusal) : Made (draft :: rest) [] (some (.refused refusal))

theorem emit_called (session : Session) (tag : Tag) :
    Called session (session.emit tag).2
      [⟨tag, session.sink.device.onWrite (session.sink.writes + 1)⟩] := by
  cases hcall : session.sink.device.onWrite (session.sink.writes + 1) with
  | none =>
    obtain ⟨done, hdone⟩ := emit_of_none tag hcall
    have hwrote := emit_none hdone
    rw [hdone]
    exact ⟨hwrote.device, hwrote.writes, by simp [hcall], hwrote.chunks, hwrote.written⟩
  | some fault =>
    rw [emit_of_fault tag hcall]
    exact ⟨rfl, rfl, by simp [hcall], by simp [Call.taken], by simp [Call.taken]⟩

theorem emitDraft_of_draft (session : Session) (tag : Tag) :
    session.emitDraft tag.draft = session.emit tag := by
  rw [emitDraft, Draft.check_draft]

/-- The calls of a run of steps are those of its drafts. -/
theorem perform_called (session : Session) (steps : List Step) :
    ∃ calls, Called session (session.perform steps).2 calls ∧
      Made (wanted steps) calls (session.perform steps).1 := by
  induction steps generalizing session with
  | nil => exact ⟨[], .nil rfl rfl, .nil⟩
  | cons step rest ih =>
    cases step with
    | skip offset =>
      obtain ⟨calls, hcalled, hmade⟩ := ih (session.note (.membersSkipped offset))
      have hnote : Called session (session.note (.membersSkipped offset)) [] := .nil rfl rfl
      exact ⟨calls, hnote.trans hcalled, hmade⟩
    | tag draft =>
      cases hcheck : draft.check with
      | error refusal =>
        simp only [perform, take, emitDraft, hcheck]
        exact ⟨[], .nil rfl rfl, .refused _ hcheck⟩
      | ok tag =>
        obtain rfl := Draft.check_eq_ok_iff.mp hcheck
        have hcalled := emit_called session tag
        simp only [perform, take, emitDraft_of_draft]
        cases hcall : session.sink.device.onWrite (session.sink.writes + 1) with
        | none =>
          obtain ⟨next, hnext⟩ := emit_of_none tag hcall
          obtain ⟨calls, hmore, hmade⟩ := ih next
          rw [hcall, hnext] at hcalled
          rw [hnext]
          exact ⟨_, hcalled.trans hmore, .taken hmade⟩
        | some fault =>
          rw [hcall, emit_of_fault tag hcall] at hcalled
          rw [emit_of_fault tag hcall]
          exact ⟨_, hcalled, .unwritten tag _ fault⟩

/-- The calls that tagging a file makes, however it ends. -/
theorem extract_called (session : Session) (tree : Syntax.Tree) (path : Bytes) :
    ∃ calls failure, Called session (session.extract tree path).2 calls ∧
      Made (tree.drafts path) calls failure ∧
      (session.extract tree path).1 =
        match failure with
        | none => .ok (calls.countP Call.taken)
        | some reason => .error reason := by
  obtain ⟨calls, hcalled, hmade⟩ := perform_called session (tree.steps path)
  rcases hrun : session.perform (tree.steps path) with ⟨_ | reason, done⟩
  · rw [hrun] at hcalled hmade
    have hnote : Called done (done.note (.fileTagged (done.written - session.written))) [] :=
      .nil rfl rfl
    have hcount : done.written - session.written = calls.countP Call.taken := by
      have hwritten : done.written = session.written + calls.countP Call.taken := hcalled.written
      omega
    have hall := hcalled.trans hnote
    rw [List.append_nil] at hall
    refine ⟨calls, none, ?_, hmade, ?_⟩
    · rw [extract, hrun]
      exact hall
    · rw [extract, hrun]
      exact congrArg Except.ok hcount
  · rw [hrun] at hcalled hmade
    refine ⟨calls, some reason, ?_, hmade, ?_⟩
    · rw [extract, hrun]
      exact hcalled
    · rw [extract, hrun]

theorem flush_eq (session : Session) :
    session.flush = ((session.sink.device.onFlush (session.sink.flushes + 1)).map .ofFlush,
      { session with sink := session.sink.flush.2 }) := by
  simp only [flush, Sink.flush]
  rcases session.sink.device.onFlush (session.sink.flushes + 1) with _ | cause | message <;> rfl

theorem failure?_ofFailure? (failure : Option Failure) :
    (Answer.ofFailure? failure).failure? = failure := by
  cases failure <;> rfl

/-- The calls of an action are those of its drafts; only a flush can fail apart from them. -/
theorem act_called (session : Session) (action : Action) :
    ∃ calls failure, Called session (session.act action).2 calls ∧
      Made action.wants calls failure ∧
      (action ≠ .flush → (session.act action).1.failure? = failure) := by
  cases action with
  | emit tag =>
    -- a tag is the run of a single step
    obtain ⟨calls, hcalled, hmade⟩ := perform_called session [.tag tag.draft]
    have hrun : session.perform [.tag tag.draft] = session.emit tag := by
      simp only [perform, take, emitDraft_of_draft]
      rcases session.emit tag with ⟨_ | failure, next⟩ <;> rfl
    rw [hrun] at hcalled hmade
    exact ⟨calls, _, hcalled, hmade, fun _ => failure?_ofFailure? _⟩
  | flush =>
    refine ⟨[], none, ?_, .nil, fun hne => absurd rfl hne⟩
    simp only [act, flush_eq]
    exact ⟨rfl, rfl, rfl, by simp [Sink.flush], rfl⟩
  | find source around node =>
    obtain ⟨calls, hcalled, hmade⟩ := perform_called session (Syntax.steps source around node)
    exact ⟨calls, _, hcalled, hmade, fun _ => failure?_ofFailure? _⟩
  | extract tree path =>
    obtain ⟨calls, failure, hcalled, hmade, houtcome⟩ := extract_called session tree path
    refine ⟨calls, failure, hcalled, hmade, fun _ => ?_⟩
    simp only [act, Prod.map, houtcome]
    cases failure <;> rfl

theorem after_called (session : Session) (actions : List Action) :
    ∃ history : List (List Call),
      List.Forall₂ (fun action calls => ∃ failure, Made action.wants calls failure) actions
        history ∧ Called session (session.after actions) history.flatten := by
  induction actions generalizing session with
  | nil => exact ⟨[], .nil, .nil rfl rfl⟩
  | cons action rest ih =>
    obtain ⟨calls, failure, hcalled, hmade, _⟩ := act_called session action
    obtain ⟨history, hhistory, hmore⟩ := ih (session.act action).2
    exact ⟨calls :: history, .cons ⟨failure, hmade⟩ hhistory, hcalled.trans hmore⟩

/-- The session with some more tags counted before it began. -/
def ahead (count : Nat) (session : Session) : Session :=
  { session with written := count + session.written }

theorem emit_ahead (count : Nat) (session : Session) (tag : Tag) :
    (session.ahead count).emit tag = (session.emit tag).map id (ahead count) := by
  have hsink : (session.ahead count).sink = session.sink := rfl
  simp only [emit, hsink]
  rcases session.sink.write tag.line with ⟨_ | cause | message, sink⟩ <;> rfl

theorem emitDraft_ahead (count : Nat) (session : Session) (draft : Draft) :
    (session.ahead count).emitDraft draft = (session.emitDraft draft).map id (ahead count) := by
  unfold emitDraft
  split
  · exact emit_ahead count session _
  · rfl

theorem perform_ahead (count : Nat) (session : Session) (steps : List Step) :
    (session.ahead count).perform steps = (session.perform steps).map id (ahead count) := by
  induction steps generalizing session with
  | nil => rfl
  | cons step rest ih =>
    have htake : (session.ahead count).take step = (session.take step).map id (ahead count) := by
      cases step with
      | skip offset => rfl
      | tag draft => exact emitDraft_ahead count session draft
    simp only [perform, htake]
    rcases session.take step with ⟨_ | failure, next⟩
    · exact ih next
    · rfl

theorem extract_ahead (count : Nat) (session : Session) (tree : Syntax.Tree) (path : Bytes) :
    (session.ahead count).extract tree path = (session.extract tree path).map id (ahead count) := by
  simp only [extract, perform_ahead]
  rcases session.perform (tree.steps path) with ⟨_ | failure, next⟩
  · -- both counts are moved alike, so their difference stays
    have hcount : (next.ahead count).written - (session.ahead count).written =
        next.written - session.written := Nat.add_sub_add_left _ _ _
    simp only [Prod.map, id, hcount]
    rfl
  · rfl

/-- What was counted before does not change what an action does. -/
theorem act_ahead (count : Nat) (session : Session) (action : Action) :
    (session.ahead count).act action = (session.act action).map id (ahead count) := by
  cases action with
  | emit tag => simp only [act, emit_ahead, Prod.map_map, Function.id_comp, Function.comp_id]
  | flush => simp only [act, flush_eq]; rfl
  | find source around node =>
    simp only [act, perform_ahead, Prod.map_map, Function.id_comp, Function.comp_id]
  | extract tree path =>
    simp only [act, extract_ahead, Prod.map_map, Function.id_comp, Function.comp_id]

/-- After any actions, failed ones among them, the session counts the calls that the sink took, and
the sink holds their lines in the order of the calls. The next action makes the calls of its drafts
up to its first failure and fails as the last of them did; a flush that fails leaves count and
content alone; and every action goes as on a new session over the same sink, but for the count. -/
theorem after_counts_calls (session : Session) (actions : List Action) :
    let now := session.after actions
    (∃ history : List (List Call),
      List.Forall₂ (fun action calls => ∃ failure, Made action.wants calls failure) actions
        history ∧ Called session now history.flatten) ∧
    (∀ action ≠ .flush, ∃ calls, Called now (now.act action).2 calls ∧
      Made action.wants calls (now.act action).1.failure?) ∧
    ((now.act .flush).1.failure? =
        (now.sink.device.onFlush (now.sink.flushes + 1)).map .ofFlush ∧
      (now.act .flush).2.sink.chunks = now.sink.chunks ∧
      (now.act .flush).2.written = now.written) ∧
    ∀ action, let new := ({ now with written := 0 } : Session).act action
      now.act action = (new.1, { new.2 with written := now.written + new.2.written }) := by
  intro now
  refine ⟨after_called session actions, ?_, ?_, ?_⟩
  · intro action hne
    obtain ⟨calls, failure, hcalled, hmade, hfailure⟩ := act_called now action
    rw [← hfailure hne] at hmade
    exact ⟨calls, hcalled, hmade⟩
  · simp only [act, flush_eq]
    exact ⟨failure?_ofFailure? _, rfl, rfl⟩
  · intro action new
    exact act_ahead now.written { now with written := 0 } action

/-- A session whose device refuses the second call and every flush. -/
def lostCallNoFlush : Session :=
  { sink :=
      { device := { lostCall.sink.device with onFlush := fun _ => some (.invalid "closed") } } }

theorem after_lostCall_refusedFlush :
    let file := Bytes.ofString "b.zig"
    let tree := readTwoBindings (Bytes.ofString "const a = 1;\nconst b = 2;")
    let now := lostCallNoFlush.after [.extract tree file, .flush]
    let next := now.act (.extract tree file)
    now.sink.chunks = [tagOfA.line] ∧ now.written = 1 ∧
      (∃ calls, Called now next.2 calls ∧ Made (tree.drafts file) calls none) ∧
      next.2.sink.chunks = [tagOfA.line, tagOfA.line, tagOfB.line] ∧ next.2.written = 3 := by
  intro file tree now next
  have hne : Action.extract tree file ≠ .flush := nofun
  obtain ⟨_, hnext, _⟩ := after_counts_calls lostCallNoFlush [.extract tree file, .flush]
  obtain ⟨calls, hcalled, hmade⟩ := hnext (.extract tree file) hne
  exact ⟨by decide, by decide, ⟨calls, hcalled, hmade⟩, by decide, by decide⟩

end Session

end TagIndex
