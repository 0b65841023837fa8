import TagIndex.Proofs.Examination
import TagIndex.Proofs.Verbosity

namespace TagIndex.Settings

/-- The event as it is when problems are judged strictly, or not. -/
def Event.judge (strict : Bool) : Event → Event
  | .problem _ what => .problem strict what
  | event => event

section Judge

variable (strict other : Bool)

theorem levelEvent?_judge (value : Value) :
    (levelEvent? strict value).map (Event.judge other) = levelEvent? other value := by
  unfold levelEvent?
  cases value.shown? with
  | none => rfl
  | some shown =>
    dsimp only
    split_ifs <;> rfl

theorem outputEvent?_judge (wish : Wish) :
    (outputEvent? strict wish).map (Event.judge other) = outputEvent? other wish := by
  unfold outputEvent?
  cases wish.accepted? with
  | some path => rfl
  | none => cases wish.quoted? <;> rfl

theorem keyEvents_judge (payload : Mapping) :
    (keyEvents strict payload).map (Event.judge other) = keyEvents other payload := by
  unfold keyEvents
  rcases texts? (strangers payload) with _ | _ | ⟨key, keys⟩ <;> rfl

theorem fileEvents_judge (store : Store) (documents : DocumentReader) (file : Bytes) :
    (fileEvents store documents file strict).map (Event.judge other) =
      fileEvents store documents file other := by
  unfold fileEvents
  rcases store.read file with (fault | message) | content
  · dsimp only
    split_ifs <;> rfl
  · rfl
  · dsimp only
    cases documents content with
    | error fault => cases fault <;> rfl
    | ok value => cases value <;> rfl

theorem sourceEvents_judge (store : Store) (documents : DocumentReader) (path : Option Bytes)
    (env : Environment) :
    (sourceEvents store documents path env strict).map (Event.judge other) =
      sourceEvents store documents path env other := by
  unfold sourceEvents
  cases filePath? path env with
  | none => rfl
  | some file => simp [fileEvents_judge, Event.judge]

/-- Another mode comes upon the same events, unless the mapping insists on strictness. -/
theorem loadEvents_judge (store : Store) (documents : DocumentReader) (path : Option Bytes)
    (env : Environment) (overrides : Overrides)
    (h : (asksStrict (payloadOf store documents path env) || other) = other) :
    (loadEvents store documents path env overrides strict).map (Event.judge other) =
      loadEvents store documents path env overrides other := by
  simp only [loadEvents, resolveEvents, List.map_append, sourceEvents_judge, keyEvents_judge,
    List.map_filterMap, levelEvent?_judge, outputEvent?_judge, h]

end Judge

/-- How a strict and a lenient run over the same events end, and what the lenient one warns of. -/
inductive Aligned (strict lenient : Option Failure) (warnings : List Notice) : Prop
  | clear (hstrict : strict = none) (hlenient : lenient = none) (hwarnings : warnings = [])
  | together {failure : Failure} (hstrict : strict = some failure)
      (hlenient : lenient = some failure) (hwarnings : warnings = [])
  | apart {what : Problem} {rest : List Notice} (hstrict : strict = some (.rejected what))
      (hwarnings : warnings = .settingIgnored what.message :: rest)

theorem aligned_judge (events : List Event) :
    Aligned ((events.map (Event.judge true)).findSome? Event.failure?)
      (events.findSome? Event.failure?) (warned events) := by
  induction events with
  | nil => exact .clear rfl rfl rfl
  | cons event rest ih =>
    cases event with
    | loaded path => exact ih
    | hitch failure => exact .together rfl rfl rfl
    | problem strict what =>
      cases strict with
      | true => exact .together rfl rfl rfl
      | false => exact .apart rfl rfl

/-- The strict run returns exactly if the lenient one returns and has not warned, and then with the
same level and output. Otherwise it fails with what the lenient run came upon first: the problem of
its first warning, or the failure that it ended with itself. -/
theorem load_strict_finds_first_problem (store : Store) (documents : DocumentReader)
    (path : Option Bytes) (env : Environment) (overrides : Overrides) (on off : Option Bytes)
    (hon : strictFlag { env with strict := on } false = true)
    (hoff : strictFlag { env with strict := off } false = false) :
    let strict := (load store documents path { env with strict := on } overrides).run.run {}
    let lenient := (load store documents path { env with strict := off } overrides).run.run {}
    ((∃ settings, strict.1 = .ok settings) ↔
      (∃ settings, lenient.1 = .ok settings) ∧ lenient.2.warnings = []) ∧
    (∀ settings other, strict.1 = .ok settings → lenient.1 = .ok other →
      settings.level = other.level ∧ settings.output = other.output) ∧
    ∀ failure, strict.1 = .error failure →
      (∀ warning rest, lenient.2.warnings = warning :: rest →
        ∃ problem, failure = .rejected problem ∧
          warning.text = problem.message ++ "; continuing with defaults") ∧
      (lenient.2.warnings = [] → lenient.1 = .error failure) := by
  intro strict lenient
  let events := loadEvents store documents path env overrides false
  let settled := chosen (payloadOf store documents path env)
  have hstrict :
      strict.1 = verdict (events.map (Event.judge true)) (settled true env overrides) := by
    simp only [strict, run_load, hon, events, loadEvents_judge, Bool.or_true]
    rfl
  have hlenient : lenient.1 = verdict events (settled false env overrides) := by
    simp only [lenient, run_load, hoff]
    rfl
  have hwarnings : lenient.2.warnings = warned events := by
    simp only [lenient, run_load, hoff, warnings_noted]
    rfl
  have haligned := aligned_judge events
  rw [hstrict, hlenient, hwarnings]
  refine ⟨?_, ?_, ?_⟩
  · simp only [verdict]
    cases haligned with
    | clear hs hl hw => simp [hs, hl, hw]
    | together hs hl hw => simp [hs, hl]
    | apart hs hw => simp [hs, hw]
  · intro settings other hok hother
    obtain ⟨rfl, _⟩ := verdict_eq_ok_iff.mp hok
    obtain ⟨rfl, _⟩ := verdict_eq_ok_iff.mp hother
    exact ⟨rfl, rfl⟩
  · intro failure hfailure
    rw [verdict_eq_error_iff] at hfailure ⊢
    cases haligned with
    | clear hs => cases hs.symm.trans hfailure
    | together hs hl hw =>
      obtain rfl := Option.some.inj (hs.symm.trans hfailure)
      exact ⟨fun _ _ hcons => (nomatch hw.symm.trans hcons), fun _ => hl⟩
    | apart hs hw =>
      obtain rfl := Option.some.inj (hs.symm.trans hfailure)
      refine ⟨?_, fun hnil => nomatch hw.symm.trans hnil⟩
      intro warning rest hcons
      obtain ⟨rfl, _⟩ := List.cons.inj (hw.symm.trans hcons)
      exact ⟨_, rfl, rfl⟩

/-- A file that is not there, and a level that is none: strict mode stops at the file. -/
theorem load_missingFile_unknownLevel :
    let store : Store := { workdir := [] }
    let documents := Yaml.reader fun _ => ""
    let path := some (Bytes.ofString "no.yml")
    let overrides : Overrides := { level := some "LOUD" }
    let yes := some (Bytes.ofString " Yes")
    let strict := (load store documents path { strict := yes } overrides).run.run {}
    let lenient := (load store documents path {} overrides).run.run {}
    lenient.2.warnings.map Notice.text =
        ["Config file not found: no.yml; continuing with defaults",
          "Unknown log level 'LOUD'; continuing with defaults"] ∧
      ∃ problem, strict.1 = .error (.rejected problem) ∧
        problem.message ++ "; continuing with defaults" =
          "Config file not found: no.yml; continuing with defaults" := by
  intro store documents path overrides yes strict lenient
  have hon : strictFlag { strict := yes } false = true := by decide +kernel
  have hwarnings : lenient.2.warnings.map Notice.text =
      ["Config file not found: no.yml; continuing with defaults",
        "Unknown log level 'LOUD'; continuing with defaults"] := by decide +kernel
  refine ⟨hwarnings, ?_⟩
  obtain ⟨hreturns, _, hfirst⟩ :=
    load_strict_finds_first_problem store documents path {} overrides yes none hon rfl
  obtain ⟨warning, rest, hwarned, htext, _⟩ := List.map_eq_cons_iff.mp hwarnings
  have hfails : ¬∃ settings, strict.1 = .ok settings := by
    intro hok
    cases hwarned.symm.trans (hreturns.mp hok).2
  cases hstrict : strict.1 with
  | ok settings => exact absurd ⟨settings, hstrict⟩ hfails
  | error failure =>
    obtain ⟨problem, rfl, hproblem⟩ := (hfirst failure hstrict).1 warning rest hwarned
    exact ⟨problem, rfl, hproblem.symm.trans htext⟩

/-- A wish that is a path, or a text that can be one. -/
def Wish.NamesPath : Wish → Prop
  | .value found => ∃ s, found = .text s ∧ s ≠ []
  | .path found => found ≠ []

/-- Every key of the mapping is a known one. -/
def Known (payload : Mapping) : Prop :=
  ∀ pair ∈ payload, ∃ known ∈ knownKeys, pair.1 = .ofString known

theorem levelEvent?_eq_none_iff {strict : Bool} {value : Value} :
    levelEvent? strict value = none ↔ Usable value := by
  unfold levelEvent? Usable
  cases value.shown? with
  | none => simp
  | some shown => simp [Option.isSome_iff_exists]

/-- Judged strictly, a candidate that makes an event ends the work. -/
theorem failure?_levelEvent? {value : Value} {event : Event}
    (h : levelEvent? true value = some event) : event.failure? ≠ none := by
  unfold levelEvent? at h
  cases hshown : value.shown? with
  | none =>
    simp only [hshown, Option.some.injEq] at h
    subst h
    nofun
  | some shown =>
    simp only [hshown] at h
    split_ifs at h
    obtain rfl := Option.some.inj h
    nofun

theorem Wish.accepted?_isSome_iff {wish : Wish} : wish.accepted?.isSome ↔ wish.NamesPath := by
  cases wish with
  | path path => by_cases h : path = [] <;> simp [accepted?, NamesPath, h]
  | value value =>
    cases value with
    | text s => by_cases h : s = [] <;> simp [accepted?, NamesPath, h]
    | _ => simp [accepted?, NamesPath]

theorem outputEvent?_eq_none_iff {strict : Bool} {wish : Wish} :
    outputEvent? strict wish = none ↔ wish.NamesPath := by
  rw [← Wish.accepted?_isSome_iff]
  unfold outputEvent?
  cases wish.accepted? with
  | some path => simp
  | none => cases wish.quoted? <;> simp

theorem failure?_outputEvent? {wish : Wish} {event : Event}
    (h : outputEvent? true wish = some event) : event.failure? ≠ none := by
  unfold outputEvent? at h
  cases haccepted : wish.accepted? with
  | some path => simp [haccepted] at h
  | none =>
    cases hquoted : wish.quoted? <;> simp only [haccepted, hquoted, Option.some.injEq] at h <;>
      subst h <;> nofun

/-- Where every event of a candidate would end the work and none has, no candidate made one. -/
theorem filterMap_eq_nil_of_passed {α : Type} {candidates : List α} {event? : α → Option Event}
    (hfails : ∀ candidate event, event? candidate = some event → event.failure? ≠ none)
    (hpassed : ∀ event ∈ candidates.filterMap event?, event.failure? = none) :
    candidates.filterMap event? = [] := by
  rw [List.eq_nil_iff_forall_not_mem]
  intro event hmem
  obtain ⟨candidate, _, hevent⟩ := List.mem_filterMap.mp hmem
  exact hfails candidate event hevent (hpassed event hmem)

theorem strangers_eq_nil_iff {payload : Mapping} : strangers payload = [] ↔ Known payload := by
  simp only [strangers, List.filter_eq_nil_iff, List.mem_map, Known, Bool.not_eq_true',
    Bool.not_eq_false, List.any_eq_true, sameKey_ofString_iff]
  constructor
  · intro h pair hmem
    exact h pair.1 ⟨pair, hmem, rfl⟩
  · intro h key hkey
    obtain ⟨pair, hmem, rfl⟩ := hkey
    exact h pair hmem

/-- Keys that are texts make a problem at most. -/
theorem keyEvents_of_texts {payload : Mapping} (strict : Bool)
    (h : ∀ pair ∈ payload, ∃ key, pair.1 = .text key) :
    (Known payload ∧ keyEvents strict payload = []) ∨
      ¬Known payload ∧ ∃ keys, (keys.map Value.text).Perm (strangers payload) ∧
        keyEvents strict payload = [.problem strict (.unknownKeys keys)] := by
  unfold keyEvents
  rcases htexts : texts? (strangers payload) with _ | _ | ⟨key, keys⟩
  · obtain ⟨key, hkey, hother⟩ := texts?_eq_none_iff.mp htexts
    obtain ⟨pair, hmem, rfl⟩ := List.mem_map.mp (List.mem_filter.mp hkey).1
    obtain ⟨s, hs⟩ := h pair hmem
    exact absurd hs (hother s)
  · exact .inl ⟨strangers_eq_nil_iff.mp (texts?_eq_some htexts), rfl⟩
  · have hstrangers := texts?_eq_some htexts
    refine .inr ⟨?_, _, ?_, rfl⟩
    · intro hknown
      cases hstrangers.symm.trans (strangers_eq_nil_iff.mpr hknown)
    · rw [hstrangers]
      exact (List.mergeSort_perm _ _).map _

/-- Settings that come out strict have levels and outputs without a fault. Their keys are without
one exactly if the caller was strict or all of them are known; otherwise the keys are warned about,
and nothing else is. -/
theorem resolve_strict_passes_over_keys_only (payload : Mapping) (strict : Bool)
    (env : Environment) (overrides : Overrides) (settings : Settings) (journal : Journal)
    (htexts : ∀ pair ∈ payload, ∃ key, pair.1 = .text key)
    (hrun : (resolve payload strict env overrides).run.run {} = (.ok settings, journal))
    (hstrict : settings.strict = true) :
    (∀ value ∈ levelCandidates payload env overrides, Usable value) ∧
    (∀ wish ∈ outputCandidates payload overrides, wish.NamesPath) ∧
    (Known payload ∧ journal.warnings = [] ↔ strict = true ∨ Known payload) ∧
    (¬Known payload → ∃ keys, (keys.map Value.text).Perm (strangers payload) ∧
      journal.warnings = [.settingIgnored (Problem.unknownKeys keys).message]) := by
  rw [run_resolve] at hrun
  obtain ⟨hverdict, rfl⟩ := Prod.mk.inj hrun
  obtain ⟨rfl, hpassed⟩ := verdict_eq_ok_iff.mp hverdict
  have hflag : (asksStrict payload || strict) = true := hstrict
  simp only [resolveEvents, hflag, List.forall_mem_append] at hpassed
  obtain ⟨hkeys, hlevels, houtputs⟩ := hpassed
  have hlevelNone := filterMap_eq_nil_of_passed (fun _ _ => failure?_levelEvent?) hlevels
  have houtputNone := filterMap_eq_nil_of_passed (fun _ _ => failure?_outputEvent?) houtputs
  have hevents : resolveEvents payload strict env overrides = keyEvents strict payload := by
    rw [resolveEvents, hflag, hlevelNone, houtputNone, List.append_nil, List.append_nil]
  rw [List.filterMap_eq_nil_iff] at hlevelNone houtputNone
  rw [warnings_noted, hevents]
  refine ⟨fun value hmem => levelEvent?_eq_none_iff.mp (hlevelNone value hmem),
    fun wish hmem => outputEvent?_eq_none_iff.mp (houtputNone wish hmem), ?_⟩
  rcases keyEvents_of_texts strict htexts with ⟨hknown, hnone⟩ | ⟨hstrange, keys, hperm, hproblem⟩
  · rw [hnone]
    exact ⟨⟨fun _ => .inr hknown, fun _ => ⟨hknown, rfl⟩⟩, fun hstrange => absurd hknown hstrange⟩
  · have hlenient : strict = false := by
      cases strict with
      | false => rfl
      | true => cases hkeys _ (hproblem ▸ List.mem_singleton_self _)
    subst hlenient
    rw [hproblem]
    refine ⟨?_, fun _ => ⟨keys, hperm, rfl⟩⟩
    constructor
    · intro hclean
      exact absurd hclean.1 hstrange
    · intro h
      rcases h with h | h
      · cases h
      · exact absurd h hstrange

/-- The mapping of `strict: true`, `log_level: info` and `colour: blue`. -/
def colourful : Mapping :=
  [(.ofString "strict", .bool true), (.ofString "log_level", .ofString " info"),
    (.ofString "colour", .ofString "blue")]

theorem not_known_colourful : ¬Known colourful := by
  intro h
  obtain ⟨known, hmem, heq⟩ := h (.ofString "colour", .ofString "blue") (by simp [colourful])
  have hnone : ∀ known ∈ knownKeys, Text.ofString "colour" ≠ Text.ofString known := by decide
  exact hnone known hmem (Value.text.inj heq)

theorem run_eq_ok_of_toOption {α : Type} {check : Check α} {start : Journal} {made : α}
    (h : (check.run.run start).1.toOption = some made) :
    check.run.run start = (.ok made, (check.run.run start).2) := by
  rcases hrun : check.run.run start with ⟨failure | other, journal⟩ <;> rw [hrun] at h
  · cases h
  · obtain rfl : other = made := Option.some.inj h
    rfl

theorem run_resolve_colourful :
    ∃ journal, (resolve colourful false {} {}).run.run {} =
      (.ok { level := .info, strict := true }, journal) ∧ journal.warnings ≠ [] :=
  ⟨_, run_eq_ok_of_toOption (by decide +kernel), by decide +kernel⟩

/-- A mapping asks for strict mode, gets it, and keeps a key that is not known. -/
theorem resolve_keeps_colour :
    ∃ settings journal, (resolve colourful false {} {}).run.run {} = (.ok settings, journal) ∧
      settings.strict = true ∧ ¬Known colourful ∧ journal.warnings ≠ [] := by
  obtain ⟨journal, hrun, hwarned⟩ := run_resolve_colourful
  exact ⟨_, journal, hrun, rfl, not_known_colourful, hwarned⟩

theorem resolve_colourful_warns :
    ∃ journal keys, (resolve colourful false {} {}).run.run {} =
        (.ok { level := .info, strict := true }, journal) ∧
      (keys.map Value.text).Perm (strangers colourful) ∧
      journal.warnings = [.settingIgnored (Problem.unknownKeys keys).message] := by
  have htexts : ∀ pair ∈ colourful, ∃ key, pair.1 = .text key := by
    simp [colourful, Value.ofString]
  obtain ⟨journal, hrun, _⟩ := run_resolve_colourful
  obtain ⟨_, _, _, hkeys⟩ :=
    resolve_strict_passes_over_keys_only colourful false {} {} _ journal htexts hrun rfl
  obtain ⟨keys, hperm, hwarnings⟩ := hkeys not_known_colourful
  exact ⟨journal, keys, hrun, hperm, hwarnings⟩

end TagIndex.Settings
