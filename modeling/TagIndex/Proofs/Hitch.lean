import Mathlib.Data.List.TakeWhile
import TagIndex.Proofs.Strictness
import TagIndex.Yaml.Document

namespace TagIndex.Settings

variable {store : Store} {documents : DocumentReader} {path : Option Bytes} {env : Environment}
  {overrides : Overrides} {file : Bytes} {failure : Failure} {strict : Bool} {payload : Mapping}

/-- Only the absence of a file is a problem of the settings. -/
def Absent (fault : Fault) : Prop := ∃ cause, fault = .system cause ∧ cause.condition = .notFound

/-- What stands in the way of loading settings, with the failure that it makes. -/
inductive Hitch (store : Store) (documents : DocumentReader) (path : Option Bytes)
    (env : Environment) (overrides : Overrides) : Failure → Prop
  | unreadable {file : Bytes} {fault : Fault} (hfile : filePath? path env = some file)
      (hread : store.read file = .error fault) (hpresent : ¬Absent fault) :
      Hitch store documents path env overrides (.fault fault)
  | valueless {file content : Bytes} {cause : Yaml.Error} (hfile : filePath? path env = some file)
      (hread : store.read file = .ok content)
      (hload : documents content = .error (.failed cause)) :
      Hitch store documents path env overrides (.document cause)
  | strangeKey {pair : Value × Value} (hmem : pair ∈ payloadOf store documents path env)
      (hkey : ∀ s, pair.1 ≠ .text s) : Hitch store documents path env overrides
        (.mixedKeys (mixedKeysMessage (strangers (payloadOf store documents path env))))
  | longLevel {value : Value}
      (hmem : value ∈ levelCandidates (payloadOf store documents path env) env overrides)
      (hlong : value.shown? = none) : Hitch store documents path env overrides .longInteger
  | longOutput {wish : Wish}
      (hmem : wish ∈ outputCandidates (payloadOf store documents path env) overrides)
      (hlong : wish.quoted? = none) : Hitch store documents path env overrides .longInteger

theorem Hitch.ne_rejected (h : Hitch store documents path env overrides failure)
    (problem : Problem) : failure ≠ .rejected problem := by
  cases h <;> nofun

theorem hitch_mem_fileEvents_iff :
    .hitch failure ∈ fileEvents store documents file strict ↔
      (∃ fault, store.read file = .error fault ∧ ¬Absent fault ∧ failure = .fault fault) ∨
      ∃ content cause, store.read file = .ok content ∧
        documents content = .error (.failed cause) ∧ failure = .document cause := by
  unfold fileEvents Absent
  rcases store.read file with (fault | message) | content
  · dsimp only
    split_ifs with habsent <;> simp [habsent]
  · simp
  · dsimp only
    cases hload : documents content with
    | error fault => cases fault <;> simp [hload]
    | ok value => cases value <;> simp [hload]

theorem mem_strangers_of_ne_text {pair : Value × Value} (hmem : pair ∈ payload)
    (hkey : ∀ s, pair.1 ≠ .text s) : pair.1 ∈ strangers payload := by
  refine List.mem_filter.mpr ⟨List.mem_map_of_mem hmem, ?_⟩
  simp only [Bool.not_eq_true', List.any_eq_false, sameKey_ofString_iff]
  intro known _
  exact hkey _

theorem hitch_mem_keyEvents_iff :
    .hitch failure ∈ keyEvents strict payload ↔
      (∃ pair ∈ payload, ∀ s, pair.1 ≠ .text s) ∧
        failure = .mixedKeys (mixedKeysMessage (strangers payload)) := by
  have hkeys : texts? (strangers payload) = none ↔ ∃ pair ∈ payload, ∀ s, pair.1 ≠ .text s := by
    rw [texts?_eq_none_iff]
    constructor
    · intro h
      obtain ⟨key, hkey, hother⟩ := h
      obtain ⟨pair, hmem, rfl⟩ := List.mem_map.mp (List.mem_filter.mp hkey).1
      exact ⟨pair, hmem, hother⟩
    · intro h
      obtain ⟨pair, hmem, hother⟩ := h
      exact ⟨pair.1, mem_strangers_of_ne_text hmem hother, hother⟩
  rw [← hkeys]
  unfold keyEvents
  rcases texts? (strangers payload) with _ | _ | ⟨key, keys⟩ <;> simp

theorem levelEvent?_eq_hitch_iff {value : Value} :
    levelEvent? strict value = some (.hitch failure) ↔
      value.shown? = none ∧ failure = .longInteger := by
  unfold levelEvent?
  cases value.shown? with
  | none => simp [eq_comm]
  | some shown =>
    dsimp only
    split_ifs <;> simp

theorem Wish.accepted?_eq_none {wish : Wish} (h : wish.quoted? = none) :
    wish.accepted? = none := by
  cases wish with
  | path found => cases h
  | value found =>
    cases found with
    | text s => simp [quoted?, Value.quoted?] at h
    | _ => rfl

theorem outputEvent?_eq_hitch_iff {wish : Wish} :
    outputEvent? strict wish = some (.hitch failure) ↔
      wish.quoted? = none ∧ failure = .longInteger := by
  unfold outputEvent?
  cases haccepted : wish.accepted? with
  | some found =>
    have hquoted : wish.quoted? ≠ none := by
      intro hnone
      cases haccepted.symm.trans (Wish.accepted?_eq_none hnone)
    simp [hquoted]
  | none => cases wish.quoted? <;> simp [eq_comm]

/-- The hitches are what loading comes upon beside problems, in every mode. -/
theorem hitch_mem_loadEvents_iff :
    .hitch failure ∈ loadEvents store documents path env overrides strict ↔
      Hitch store documents path env overrides failure := by
  have hsource : .hitch failure ∈ sourceEvents store documents path env strict ↔
      ∃ file, filePath? path env = some file ∧
        .hitch failure ∈ fileEvents store documents file strict := by
    unfold sourceEvents
    cases filePath? path env <;> simp
  simp only [loadEvents, resolveEvents, List.mem_append, List.mem_filterMap, hsource,
    hitch_mem_fileEvents_iff, hitch_mem_keyEvents_iff, levelEvent?_eq_hitch_iff,
    outputEvent?_eq_hitch_iff]
  constructor
  · intro h
    rcases h with ⟨file, hfile, h⟩ | ⟨⟨pair, hmem, hkey⟩, rfl⟩ | ⟨value, hmem, hlong, rfl⟩ |
      ⟨wish, hmem, hlong, rfl⟩
    · rcases h with ⟨fault, hread, hpresent, rfl⟩ | ⟨content, cause, hread, hload, rfl⟩
      · exact .unreadable hfile hread hpresent
      · exact .valueless hfile hread hload
    · exact .strangeKey hmem hkey
    · exact .longLevel hmem hlong
    · exact .longOutput hmem hlong
  · intro h
    cases h with
    | unreadable hfile hread hpresent =>
      exact .inl ⟨_, hfile, .inl ⟨_, hread, hpresent, rfl⟩⟩
    | valueless hfile hread hload =>
      exact .inl ⟨_, hfile, .inr ⟨_, _, hread, hload, rfl⟩⟩
    | strangeKey hmem hkey => exact .inr (.inl ⟨⟨_, hmem, hkey⟩, rfl⟩)
    | longLevel hmem hlong => exact .inr (.inr (.inl ⟨_, hmem, hlong, rfl⟩))
    | longOutput hmem hlong => exact .inr (.inr (.inr ⟨_, hmem, hlong, rfl⟩))

theorem rejected_or_hitch (h : (loadEvents store documents path env overrides strict).findSome?
      Event.failure? = some failure) :
    (∃ problem, failure = .rejected problem) ∨
      Hitch store documents path env overrides failure := by
  obtain ⟨event, hmem, hfailure⟩ := List.exists_of_findSome?_eq_some h
  cases event with
  | loaded file => cases hfailure
  | hitch cause =>
    obtain rfl := Option.some.inj hfailure
    exact .inr (hitch_mem_loadEvents_iff.mp hmem)
  | problem judged what =>
    cases judged with
    | false => cases hfailure
    | true => exact .inl ⟨what, (Option.some.inj hfailure).symm⟩

/-- The first event that fails is a hitch exactly if the failure is no rejection. -/
theorem stumbles_iff :
    (∃ front back, loadEvents store documents path env overrides strict =
        front ++ .hitch failure :: back ∧ ∀ event ∈ front, event.failure? = none) ↔
      (loadEvents store documents path env overrides strict).findSome? Event.failure? =
          some failure ∧
        ∀ problem, failure ≠ .rejected problem := by
  rw [List.findSome?_eq_some_iff]
  constructor
  · intro h
    obtain ⟨front, back, heq, hfront⟩ := h
    have hmem : .hitch failure ∈ loadEvents store documents path env overrides strict := by
      simp [heq]
    exact ⟨⟨front, _, back, heq, rfl, hfront⟩, (hitch_mem_loadEvents_iff.mp hmem).ne_rejected⟩
  · intro h
    obtain ⟨⟨front, event, back, heq, hfailure, hfront⟩, hother⟩ := h
    cases event with
    | loaded file => cases hfailure
    | hitch cause =>
      obtain rfl := Option.some.inj hfailure
      exact ⟨front, back, heq, hfront⟩
    | problem judged what =>
      cases judged with
      | false => cases hfailure
      | true => exact absurd (Option.some.inj hfailure).symm (hother what)

/-- Where neither the caller nor the mapping is strict, problems are passed over. -/
theorem failure?_eq_none_of_lenient {event : Event}
    (hasks : asksStrict (payloadOf store documents path env) = false)
    (hsmooth : ∀ failure, ¬Hitch store documents path env overrides failure)
    (hmem : event ∈ loadEvents store documents path env overrides false) :
    event.failure? = none := by
  have hjudged : (loadEvents store documents path env overrides false).map (Event.judge false) =
      loadEvents store documents path env overrides false := by
    apply loadEvents_judge
    rw [hasks, Bool.or_false]
  rw [← hjudged] at hmem
  obtain ⟨found, hfound, rfl⟩ := List.mem_map.mp hmem
  cases found with
  | loaded file => rfl
  | problem judged what => rfl
  | hitch failure => exact absurd (hitch_mem_loadEvents_iff.mp hfound) (hsmooth failure)

/-- What is passed over is warned about. -/
theorem mem_warned_of_problem {events : List Event} {judged : Bool} {what : Problem}
    (hpassed : ∀ event ∈ events, event.failure? = none)
    (hmem : .problem judged what ∈ events) : .settingIgnored what.message ∈ warned events := by
  have hall : events.takeWhile (·.failure?.isNone) = events := by
    rw [List.takeWhile_eq_self_iff]
    intro event hevent
    rw [hpassed event hevent]
    rfl
  rw [warned, noted, hall]
  refine List.mem_filter.mpr ⟨List.mem_filterMap.mpr ⟨_, hmem, rfl⟩, rfl⟩

/-- Loading settings returns or rejects a problem exactly if it comes upon no hitch before it ends;
any other failure is that of a hitch. Where nobody asks for strictness it returns exactly if there
is no hitch at all, with the last usable values or the defaults, and warns about every problem. -/
theorem load_fails_otherwise_iff (store : Store) (documents : DocumentReader)
    (path : Option Bytes) (env : Environment) (overrides : Overrides) :
    let run := (load store documents path env overrides).run.run {}
    let payload := payloadOf store documents path env
    let events := loadEvents store documents path env overrides (strictFlag env false)
    ((∃ settings, run.1 = .ok settings) ∨ (∃ problem, run.1 = .error (.rejected problem)) ↔
      ¬∃ front failure back, events = front ++ .hitch failure :: back ∧
        ∀ event ∈ front, event.failure? = none) ∧
    (∀ failure, run.1 = .error failure →
      (∃ problem, failure = .rejected problem) ∨
        Hitch store documents path env overrides failure) ∧
    (strictFlag env false = false → asksStrict payload = false →
      ((∃ settings, run.1 = .ok settings) ↔
        ∀ failure, ¬Hitch store documents path env overrides failure) ∧
      ∀ settings, run.1 = .ok settings → settings = chosen payload false env overrides ∧
        ∀ problem, .problem false problem ∈ events →
          .settingIgnored problem.message ∈ run.2.warnings) := by
  intro run payload events
  have houtcome : run.1 = verdict events (chosen payload (strictFlag env false) env overrides) := by
    simp only [run, run_load]
    rfl
  have hwarnings : run.2.warnings = warned events := by
    simp only [run, run_load, warnings_noted]
    rfl
  refine ⟨?_, ?_, ?_⟩
  · constructor
    · rintro hends ⟨front, failure, back, heq, hfront⟩
      obtain ⟨hfirst, hother⟩ := stumbles_iff.mp ⟨front, back, heq, hfront⟩
      have hfails : run.1 = .error failure := houtcome.trans (verdict_eq_error_iff.mpr hfirst)
      rcases hends with ⟨settings, hok⟩ | ⟨problem, hrejected⟩
      · cases hfails.symm.trans hok
      · exact hother problem (Except.error.inj (hfails.symm.trans hrejected))
    · intro hsmooth
      cases hrun : run.1 with
      | ok settings => exact .inl ⟨settings, rfl⟩
      | error failure =>
        have hfirst := verdict_eq_error_iff.mp (houtcome.symm.trans hrun)
        by_contra hends
        have hother : ∀ problem, failure ≠ .rejected problem := by
          intro problem heq
          exact hends (.inr ⟨problem, congrArg _ heq⟩)
        obtain ⟨front, back, heq, hfront⟩ := stumbles_iff.mpr ⟨hfirst, hother⟩
        exact hsmooth ⟨front, failure, back, heq, hfront⟩
  · intro failure hfails
    exact rejected_or_hitch (verdict_eq_error_iff.mp (houtcome.symm.trans hfails))
  · intro hflag hasks
    simp only [events, hflag] at houtcome hwarnings ⊢
    have hreturns : (∃ settings, run.1 = .ok settings) ↔
        ∀ failure, ¬Hitch store documents path env overrides failure := by
      constructor
      · rintro ⟨settings, hok⟩ failure hhitch
        obtain ⟨_, hpassed⟩ := verdict_eq_ok_iff.mp (houtcome.symm.trans hok)
        cases hpassed _ (hitch_mem_loadEvents_iff.mpr hhitch)
      · intro hsmooth
        refine ⟨_, houtcome.trans (verdict_eq_ok_iff.mpr ⟨rfl, ?_⟩)⟩
        intro event hmem
        exact failure?_eq_none_of_lenient hasks hsmooth hmem
    refine ⟨hreturns, ?_⟩
    intro settings hok
    obtain ⟨rfl, hpassed⟩ := verdict_eq_ok_iff.mp (houtcome.symm.trans hok)
    refine ⟨rfl, ?_⟩
    intro problem hmem
    rw [hwarnings]
    exact mem_warned_of_problem hpassed hmem

/-- A store with a directory where the settings file should be. -/
def occupied : Store := { workdir := [], items := [([Bytes.ofString "d"], .directory)] }

/-- A directory makes loading fail in a way that is no rejection, though nobody asks for
strictness. -/
theorem load_directory_escapes :
    let documents := Yaml.reader fun _ => ""
    strictFlag {} false = false ∧
      asksStrict (payloadOf occupied documents (some (Bytes.ofString "d")) {}) = false ∧
      ∃ fault : SystemFault, fault.condition = .isDirectory ∧
        ((load occupied documents (some (Bytes.ofString "d")) {} {}).run.run {}).1 =
          .error (.fault (.system fault)) := by
  intro documents
  refine ⟨rfl, ?_, ?_⟩
  · decide +kernel
  · refine ⟨Obstacle.isDirectory.fault (Bytes.ofString "d"), rfl, ?_⟩
    rfl

end TagIndex.Settings
