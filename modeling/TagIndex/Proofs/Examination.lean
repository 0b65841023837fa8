import Mathlib.Tactic.Common
import TagIndex.Settings.Load

namespace TagIndex

namespace Journal

def notices (journal : Journal) : List Notice := journal.entries.map (·.notice)

def warnings (journal : Journal) : List Notice :=
  journal.notices.filter fun notice => notice.level = .warning

theorem notices_foldl_note (notices : List Notice) (journal : Journal) :
    (notices.foldl note journal).notices = journal.notices ++ notices := by
  induction notices generalizing journal with
  | nil => simp
  | cons notice rest ih =>
    have hnote : (journal.note notice).notices = journal.notices ++ [notice] := by
      simp [Journal.notices, note]
    rw [List.foldl_cons, ih, hnote, List.append_assoc, List.singleton_append]

end Journal

namespace Settings

/-- What the work on settings comes upon. A problem is judged strictly or not; a hitch is passed
over in no mode. -/
inductive Event where
  | loaded (path : Bytes)
  | problem (strict : Bool) (what : Problem)
  | hitch (failure : Failure)

namespace Event

def failure? : Event → Option Failure
  | loaded _ => none
  | problem strict what => if strict then some (.rejected what) else none
  | hitch failure => some failure

/-- What is noted about an event that does not fail. -/
def notice? : Event → Option Notice
  | loaded path => some (.settingsLoaded path)
  | problem _ what => some (.settingIgnored what.message)
  | hitch _ => none

def meet : Event → Check Unit
  | loaded path => note (.settingsLoaded path)
  | problem strict what => report strict what
  | hitch failure => throw failure

end Event

variable {α : Type}

def follow : List Event → Check Unit
  | [] => pure ()
  | event :: rest => do
    event.meet
    follow rest

/-- How work ends whose result is `a` if nothing fails. -/
def verdict (events : List Event) (a : α) : Except Failure α :=
  match events.findSome? Event.failure? with
  | none => .ok a
  | some failure => .error failure

/-- What is noted before the first event that fails. -/
def noted (events : List Event) : List Notice :=
  (events.takeWhile (·.failure?.isNone)).filterMap Event.notice?

theorem follow_append (front back : List Event) :
    follow (front ++ back) = (do follow front; follow back) := by
  induction front with
  | nil => simp [follow]
  | cons event rest ih => simp only [List.cons_append, follow, ih, bind_assoc]

theorem follow_singleton (event : Event) : follow [event] = event.meet := by simp [follow]

/-- Events are met up to the first that fails. -/
theorem run_follow (events : List Event) (a : α) (journal : Journal) :
    (do follow events; return a : Check α).run.run journal =
      (verdict events a, (noted events).foldl Journal.note journal) := by
  induction events generalizing journal with
  | nil => rfl
  | cons event rest ih =>
    cases event with
    | hitch failure => rfl
    | loaded path => exact ih _
    | problem strict what =>
      cases strict with
      | true => rfl
      | false => exact ih _

theorem verdict_eq_ok_iff {events : List Event} {a b : α} :
    verdict events a = .ok b ↔ a = b ∧ ∀ event ∈ events, event.failure? = none := by
  unfold verdict
  cases h : events.findSome? Event.failure? with
  | none =>
    have hnone := List.findSome?_eq_none_iff.mp h
    simpa using fun _ => hnone
  | some failure =>
    obtain ⟨event, hmem, hfailure⟩ := List.exists_of_findSome?_eq_some h
    constructor
    · intro hok
      cases hok
    · intro hall
      rw [hall.2 event hmem] at hfailure
      cases hfailure

theorem verdict_eq_error_iff {events : List Event} {a : α} {failure : Failure} :
    verdict events a = .error failure ↔ events.findSome? Event.failure? = some failure := by
  unfold verdict
  cases events.findSome? Event.failure? <;> simp

/-- The event that a candidate for the level makes, unless it names one. -/
def levelEvent? (strict : Bool) (value : Value) : Option Event :=
  match value.shown? with
  | none => some (.hitch .longInteger)
  | some shown =>
    if (levelOf? shown).isSome then none else some (.problem strict (.unknownLevel shown))

/-- The last level that a candidate names, or else `level`. -/
def chosenLevel (level : Level) (values : List Value) : Level :=
  (values.filterMap fun value => value.shown?.bind levelOf?).getLast?.getD level

/-- The event that a candidate for the output makes, unless it names a path. -/
def outputEvent? (strict : Bool) (wish : Wish) : Option Event :=
  match wish.accepted? with
  | some _ => none
  | none =>
    match wish.quoted? with
    | none => some (.hitch .longInteger)
    | some quoted => some (.problem strict (.unusableOutput quoted))

/-- The last path that a candidate names, or else `output`. -/
def chosenOutput (output : Text) (wishes : List Wish) : Text :=
  (wishes.filterMap Wish.accepted?).getLast?.getD output

theorem resolveLevel_eq (strict : Bool) (level : Level) (values : List Value) :
    resolveLevel strict level values = (do
      follow (values.filterMap (levelEvent? strict))
      return chosenLevel level values) := by
  induction values generalizing level with
  | nil => rfl
  | cons value rest ih =>
    unfold resolveLevel
    cases hshown : value.shown? with
    | none =>
      have hevent : levelEvent? strict value = some (.hitch .longInteger) := by
        simp only [levelEvent?, hshown]
      rw [List.filterMap_cons_some hevent]
      rfl
    | some shown =>
      simp only [wording, pure_bind]
      cases hlevel : levelOf? shown with
      | some named =>
        have hevent : levelEvent? strict value = none := by
          simp [levelEvent?, hshown, hlevel]
        have hchosen : chosenLevel level (value :: rest) = chosenLevel named rest := by
          simp [chosenLevel, hshown, hlevel, List.getLast?_cons]
        rw [List.filterMap_cons_none hevent, hchosen]
        exact ih named
      | none =>
        have hevent : levelEvent? strict value = some (.problem strict (.unknownLevel shown)) := by
          simp [levelEvent?, hshown, hlevel]
        have hchosen : chosenLevel level (value :: rest) = chosenLevel level rest := by
          simp [chosenLevel, hshown, hlevel]
        rw [List.filterMap_cons_some hevent, hchosen]
        simp only [ih, follow, Event.meet, bind_assoc]

theorem resolveOutput_eq (strict : Bool) (output : Text) (wishes : List Wish) :
    resolveOutput strict output wishes = (do
      follow (wishes.filterMap (outputEvent? strict))
      return chosenOutput output wishes) := by
  induction wishes generalizing output with
  | nil => rfl
  | cons wish rest ih =>
    unfold resolveOutput
    cases haccepted : wish.accepted? with
    | some path =>
      have hevent : outputEvent? strict wish = none := by simp only [outputEvent?, haccepted]
      have hchosen : chosenOutput output (wish :: rest) = chosenOutput path rest := by
        simp [chosenOutput, haccepted, List.getLast?_cons]
      rw [List.filterMap_cons_none hevent, hchosen]
      exact ih path
    | none =>
      have hchosen : chosenOutput output (wish :: rest) = chosenOutput output rest := by
        simp [chosenOutput, haccepted]
      rw [hchosen]
      cases hquoted : wish.quoted? with
      | none =>
        have hevent : outputEvent? strict wish = some (.hitch .longInteger) := by
          simp only [outputEvent?, haccepted, hquoted]
        rw [List.filterMap_cons_some hevent]
        rfl
      | some quoted =>
        have hevent : outputEvent? strict wish =
            some (.problem strict (.unusableOutput quoted)) := by
          simp only [outputEvent?, haccepted, hquoted]
        rw [List.filterMap_cons_some hevent]
        simp only [wording, pure_bind, ih, follow, Event.meet, bind_assoc]

/-- The keys of a mapping that are not known. -/
def strangers (payload : Mapping) : List Value :=
  (payload.map (·.1)).filter fun key => !knownKeys.any fun known => key.sameKey (.ofString known)

theorem sameKey_ofString_iff {value : Value} {s : String} :
    value.sameKey (.ofString s) ↔ value = .ofString s := by
  cases value <;> simp [Value.sameKey, Value.ofString, Value.number?]

theorem texts?_eq_some {values : List Value} {keys : List Text} (h : texts? values = some keys) :
    values = keys.map .text := by
  induction values generalizing keys with
  | nil =>
    obtain rfl := Option.some.inj h
    rfl
  | cons value rest ih =>
    cases value with
    | text s =>
      obtain ⟨others, hothers, rfl⟩ := Option.map_eq_some_iff.mp h
      rw [ih hothers, List.map_cons]
    | _ => cases h

theorem texts?_eq_none_iff {values : List Value} :
    texts? values = none ↔ ∃ value ∈ values, ∀ s, value ≠ .text s := by
  induction values with
  | nil => simp [texts?]
  | cons value rest ih =>
    cases value with
    | text s => simp [texts?, ih]
    | _ => simp [texts?]

def keyEvents (strict : Bool) (payload : Mapping) : List Event :=
  match texts? (strangers payload) with
  | none => [.hitch (.mixedKeys (mixedKeysMessage (strangers payload)))]
  | some [] => []
  | some (key :: keys) => [.problem strict (.unknownKeys ((key :: keys).mergeSort inOrder))]

theorem unknownKeys_eq {β : Type} (strict : Bool) (payload : Mapping) (next : Check β) :
    (do
      let unknown ← unknownKeys payload
      if !unknown.isEmpty then report strict (.unknownKeys unknown)
      next) = (do follow (keyEvents strict payload); next) := by
  have hstrangers : ((payload.map (·.1)).filter fun key =>
      !knownKeys.any fun known => key.sameKey (.ofString known)) = strangers payload := rfl
  simp only [unknownKeys, hstrangers, keyEvents]
  rcases texts? (strangers payload) with _ | _ | ⟨key, keys⟩
  · rfl
  · simp [follow]
  · have hne : (key :: keys).mergeSort inOrder ≠ [] := by
      intro hnil
      have hlength := congrArg List.length hnil
      simp at hlength
    simp [hne, follow_singleton, Event.meet]

/-- Whether a mapping asks for strict mode. -/
def asksStrict (payload : Mapping) : Bool := (payload.get? "strict").any (·.isTruthy)

/-- The events of a mapping's settings. Its own wish for strictness comes too late for its keys. -/
def resolveEvents (payload : Mapping) (strict : Bool) (env : Environment)
    (overrides : Overrides) : List Event :=
  keyEvents strict payload ++
    ((levelCandidates payload env overrides).filterMap
        (levelEvent? (asksStrict payload || strict)) ++
      (outputCandidates payload overrides).filterMap
        (outputEvent? (asksStrict payload || strict)))

/-- The settings that are chosen if nothing fails. -/
def chosen (payload : Mapping) (strict : Bool) (env : Environment) (overrides : Overrides) :
    Settings :=
  { level := chosenLevel .warning (levelCandidates payload env overrides)
    output := chosenOutput (Text.ofString "-") (outputCandidates payload overrides)
    strict := asksStrict payload || strict }

theorem resolve_eq (payload : Mapping) (strict : Bool) (env : Environment)
    (overrides : Overrides) :
    resolve payload strict env overrides = (do
      follow (resolveEvents payload strict env overrides)
      return chosen payload strict env overrides) := by
  unfold resolve
  rw [unknownKeys_eq]
  simp only [resolveLevel_eq, resolveOutput_eq, resolveEvents, follow_append, bind_assoc,
    pure_bind]
  rfl

/-- The events of reading a settings file. -/
def fileEvents (store : Store) (documents : DocumentReader) (file : Bytes) (strict : Bool) :
    List Event :=
  match store.read file with
  | .error (.system fault) =>
    if fault.condition = .notFound then [.problem strict (.fileMissing file fault)]
    else [.hitch (.fault (.system fault))]
  | .error fault => [.hitch (.fault fault)]
  | .ok content =>
    match documents content with
    | .error (.malformed detail) => [.problem strict (.fileMalformed file detail)]
    | .error (.failed cause) => [.hitch (.document cause)]
    | .ok .null | .ok (.map _) => []
    | .ok value => [.problem strict (.notMapping value.typeName)]

/-- The mapping in a settings file, empty where there is none. -/
def filePayload (store : Store) (documents : DocumentReader) (file : Bytes) : Mapping :=
  match store.read file with
  | .error _ => []
  | .ok content =>
    match documents content with
    | .ok (.map payload) => payload
    | _ => []

theorem loadFile_eq (store : Store) (documents : DocumentReader) (file : Bytes) (strict : Bool) :
    loadFile store documents file strict = (do
      follow (fileEvents store documents file strict)
      return filePayload store documents file) := by
  unfold loadFile fileEvents filePayload
  cases store.read file with
  | error fault =>
    cases fault with
    | system fault =>
      by_cases habsent : fault.condition = .notFound
      · simp [habsent, follow_singleton, Event.meet]
      · simp only [habsent, if_false]
        rfl
    | invalid message => rfl
  | ok content =>
    dsimp only
    cases documents content with
    | error fault =>
      cases fault with
      | malformed detail => simp only [follow_singleton, Event.meet]
      | failed cause => rfl
    | ok value =>
      cases value with
      | null | map => rfl
      | _ => simp only [follow_singleton, Event.meet]

/-- The mapping that a run starts from. -/
def payloadOf (store : Store) (documents : DocumentReader) (path : Option Bytes)
    (env : Environment) : Mapping :=
  match filePath? path env with
  | none => []
  | some file => filePayload store documents file

def sourceEvents (store : Store) (documents : DocumentReader) (path : Option Bytes)
    (env : Environment) (strict : Bool) : List Event :=
  match filePath? path env with
  | none => []
  | some file => fileEvents store documents file strict ++ [.loaded file]

/-- The events of loading settings. -/
def loadEvents (store : Store) (documents : DocumentReader) (path : Option Bytes)
    (env : Environment) (overrides : Overrides) (strict : Bool) : List Event :=
  sourceEvents store documents path env strict ++
    resolveEvents (payloadOf store documents path env) strict env overrides

theorem load_eq (store : Store) (documents : DocumentReader) (path : Option Bytes)
    (env : Environment) (overrides : Overrides) :
    load store documents path env overrides = (do
      follow (loadEvents store documents path env overrides (strictFlag env false))
      return chosen (payloadOf store documents path env) (strictFlag env false) env overrides) := by
  unfold load loadEvents sourceEvents payloadOf
  cases filePath? path env with
  | none => simp only [pure_bind, resolve_eq, List.nil_append]
  | some file =>
    simp only [loadFile_eq, resolve_eq, follow_append, follow_singleton, Event.meet, bind_assoc,
      pure_bind]

theorem run_resolve (payload : Mapping) (strict : Bool) (env : Environment)
    (overrides : Overrides) (journal : Journal) :
    let events := resolveEvents payload strict env overrides
    (resolve payload strict env overrides).run.run journal =
      (verdict events (chosen payload strict env overrides),
        (noted events).foldl Journal.note journal) := by
  intro events
  rw [resolve_eq, run_follow]

theorem run_load (store : Store) (documents : DocumentReader) (path : Option Bytes)
    (env : Environment) (overrides : Overrides) (journal : Journal) :
    let events := loadEvents store documents path env overrides (strictFlag env false)
    (load store documents path env overrides).run.run journal =
      (verdict events
          (chosen (payloadOf store documents path env) (strictFlag env false) env overrides),
        (noted events).foldl Journal.note journal) := by
  intro events
  rw [load_eq, run_follow]

/-- The warnings that work with some events gives. -/
def warned (events : List Event) : List Notice :=
  (noted events).filter fun notice => notice.level = .warning

theorem warnings_noted (events : List Event) :
    ((noted events).foldl Journal.note {}).warnings = warned events := by
  rw [Journal.warnings, Journal.notices_foldl_note]
  rfl

end Settings

end TagIndex
