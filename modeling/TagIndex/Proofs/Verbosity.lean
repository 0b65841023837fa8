import TagIndex.Proofs.Conclusion

namespace TagIndex

theorem Text.display_ofString (s : String) : Text.display (Text.ofString s) = s := by
  have hchars (cs : List Char) : String.join (cs.map fun c => c.toString) = String.ofList cs := by
    induction cs with
    | nil => rfl
    | cons c rest ih =>
      rw [List.map_cons, String.join_cons, ih]
      apply String.ext
      simp
  simp only [Text.display, Text.ofString, List.map_map]
  exact (hchars s.toList).trans (by simp)

namespace Settings

variable {α β : Type} {strict : Bool} {value : Value} {front back : List Value}

/-- What some work on settings notes and how it fails, whatever its result is. -/
def effect (check : Check α) : Check Unit := (fun _ => ()) <$> check

theorem run_map (f : α → β) (check : Check α) (journal : Journal) :
    (f <$> check).run.run journal =
      ((check.run.run journal).1.map f, (check.run.run journal).2) := by
  simp only [ExceptT.run_map, StateT.run_map]
  rfl

/-- What follows and does not look at a result cannot tell apart what has the same effect. -/
theorem bind_of_effect {first second : Check α} (h : effect first = effect second)
    (next : Check β) : (first >>= fun _ => next) = second >>= fun _ => next := by
  have hnext (check : Check α) :
      (check >>= fun _ => next) = effect check >>= fun _ => next := by simp [effect]
  rw [hnext first, hnext second, h]

/-- A candidate that names a level. -/
def Usable (value : Value) : Prop :=
  ∃ shown level, value.shown? = some shown ∧ levelOf? shown = some level

theorem usable_ofString {name : String} (h : (levelOf? name).isSome) :
    Usable (.ofString name) := by
  obtain ⟨level, hlevel⟩ := Option.isSome_iff_exists.mp h
  exact ⟨name, level, congrArg some (Text.display_ofString name), hlevel⟩

theorem usable_ofPath {raw : Bytes} (h : (levelOf? (Text.displayPath raw)).isSome) :
    Usable (.ofPath raw) := by
  obtain ⟨level, hlevel⟩ := Option.isSome_iff_exists.mp h
  exact ⟨Text.displayPath raw, level, rfl, hlevel⟩

theorem usable_of_mem_toList {candidate? : Option α} {toValue : α → Value}
    (h : ∀ candidate ∈ candidate?, Usable (toValue candidate)) :
    ∀ value ∈ (candidate?.map toValue).toList, Usable value := by
  intro value hmem
  obtain ⟨candidate, hcandidate, rfl⟩ := Option.map_eq_some_iff.mp (Option.mem_toList.mp hmem)
  exact h candidate hcandidate

theorem resolveLevel_cons_of_usable (h : Usable value) (level : Level) (rest : List Value) :
    ∃ named, resolveLevel strict level (value :: rest) = resolveLevel strict named rest := by
  obtain ⟨shown, named, hshown, hnamed⟩ := h
  refine ⟨named, ?_⟩
  simp only [resolveLevel, hshown, wording, pure_bind, hnamed]

/-- Usable candidates at the end decide the level and nothing else. -/
theorem effect_resolveLevel_append (h : ∀ value ∈ back, Usable value) (level : Level) :
    effect (resolveLevel strict level (front ++ back)) =
      effect (resolveLevel strict level front) := by
  induction front generalizing level with
  | nil =>
    -- behind the front only the level changes, and the effect forgets it
    induction back generalizing level with
    | nil => rfl
    | cons value rest ih =>
      obtain ⟨named, hstep⟩ := resolveLevel_cons_of_usable (h value List.mem_cons_self) level rest
      rw [List.nil_append, hstep]
      exact ih (fun other hmem => h other (List.mem_cons_of_mem _ hmem)) named
  | cons value rest ih =>
    simp only [List.cons_append, resolveLevel, effect, map_bind]
    refine bind_congr fun shown => ?_
    cases levelOf? shown with
    | some named => exact ih named
    | none =>
      simp only [map_bind]
      refine bind_congr fun _ => ?_
      exact ih level

/-- Two levels in the environment that are the same, or both of which name a level. -/
def Interchangeable (a b : Option Bytes) : Prop :=
  a = b ∨ (∃ raw ∈ a, (levelOf? (Text.displayPath raw)).isSome) ∧
    ∃ raw ∈ b, (levelOf? (Text.displayPath raw)).isSome

/-- Settings without their level. -/
def unlevelled (settings : Settings) : Settings := { settings with level := .warning }

section TwoSources

variable {env other : Environment} {first second : Overrides}
  (henv : Interchangeable env.level other.level)
  (hfirst : ∀ name ∈ first.level, (levelOf? name).isSome)
  (hsecond : ∀ name ∈ second.level, (levelOf? name).isSome)
include henv hfirst hsecond

theorem effect_levelCandidates (payload : Mapping) :
    effect (resolveLevel strict .warning (levelCandidates payload env first)) =
      effect (resolveLevel strict .warning (levelCandidates payload other second)) := by
  have hlast : ∀ value ∈ (first.level.map Value.ofString).toList, Usable value :=
    usable_of_mem_toList fun name hname => usable_ofString (hfirst name hname)
  have hrelast : ∀ value ∈ (second.level.map Value.ofString).toList, Usable value :=
    usable_of_mem_toList fun name hname => usable_ofString (hsecond name hname)
  unfold levelCandidates
  rcases henv with hsame | ⟨⟨a, ha, hausable⟩, ⟨b, hb, hbusable⟩⟩
  · rw [effect_resolveLevel_append hlast, effect_resolveLevel_append hrelast, hsame]
  · have hnamed : ∀ value ∈ (env.level.map Value.ofPath).toList, Usable value := by
      refine usable_of_mem_toList fun raw hraw => usable_ofPath ?_
      exact Option.some.inj (ha.symm.trans hraw) ▸ hausable
    have hrenamed : ∀ value ∈ (other.level.map Value.ofPath).toList, Usable value := by
      refine usable_of_mem_toList fun raw hraw => usable_ofPath ?_
      exact Option.some.inj (hb.symm.trans hraw) ▸ hbusable
    rw [effect_resolveLevel_append hlast, effect_resolveLevel_append hrelast,
      effect_resolveLevel_append hnamed, effect_resolveLevel_append hrenamed]

theorem resolve_unlevelled (houtput : first.output = second.output) (payload : Mapping)
    (strict : Bool) :
    unlevelled <$> resolve payload strict env first =
      unlevelled <$> resolve payload strict other second := by
  simp only [resolve, map_bind, outputCandidates, houtput]
  refine bind_congr fun unknown => ?_
  split_ifs
  · simp only [map_bind, map_pure, unlevelled]
    refine bind_congr fun _ => ?_
    exact bind_of_effect (effect_levelCandidates henv hfirst hsecond payload) _
  · simp only [map_bind, map_pure, unlevelled]
    exact bind_of_effect (effect_levelCandidates henv hfirst hsecond payload) _

theorem load_unlevelled (houtput : first.output = second.output)
    (hpath : env.settingsPath = other.settingsPath) (hstrict : env.strict = other.strict)
    (store : Store) (documents : DocumentReader) (path : Option Bytes) :
    unlevelled <$> load store documents path env first =
      unlevelled <$> load store documents path other second := by
  have hresolve := resolve_unlevelled henv hfirst hsecond houtput
  have hflag : strictFlag env false = strictFlag other false := by
    simp only [strictFlag, hstrict]
  have hfile : filePath? path env = filePath? path other := by
    simp only [filePath?, hpath]
  simp only [load, hflag, hfile]
  cases filePath? path other with
  | none => simp only [map_bind, hresolve]
  | some file => simp only [map_bind, hresolve]

end TwoSources

end Settings

namespace Arguments

/-- The arguments as they were understood, but for the number of `-v` options. -/
def Parsed.unvoiced (parsed : Parsed) : Parsed := { parsed with verbosity := 0 }

theorem parse_alike {first second : List Bytes}
    (h : (parse first).map Parsed.unvoiced = (parse second).map Parsed.unvoiced) :
    (∃ misuse, parse first = .error misuse ∧ parse second = .error misuse) ∨
      ∃ parsed reparsed, parse first = .ok parsed ∧ parse second = .ok reparsed ∧
        parsed.unvoiced = reparsed.unvoiced := by
  cases hfirst : parse first <;> cases hsecond : parse second <;> rw [hfirst, hsecond] at h
  case error.error misuse other =>
    exact .inl ⟨misuse, rfl, congrArg Except.error (Except.error.inj h).symm⟩
  case ok.ok parsed reparsed => exact .inr ⟨parsed, reparsed, rfl, rfl, Except.ok.inj h⟩
  all_goals cases h

end Arguments

namespace Program

open Settings (Interchangeable unlevelled)

variable {inv : Invocation} {arguments : List Bytes} {level : Option Bytes}
  {parsed reparsed : Arguments.Parsed}

/-- A run with other arguments and another level in the environment. -/
def altered (inv : Invocation) (arguments : List Bytes) (level : Option Bytes) : Invocation :=
  { inv with arguments := arguments, environment := { inv.environment with level := level } }

theorem levelOf?_verbosityLevel? (count : Nat) :
    ∀ name ∈ verbosityLevel? count, (Settings.levelOf? name).isSome := by
  intro name hname
  match count with
  | 0 => cases hname
  | 1 =>
    cases hname
    decide
  | _ + 2 =>
    cases hname
    decide

/-- Loading notes the same and ends with settings that differ in their level only. -/
theorem loadSettings_altered (hlevel : Interchangeable inv.environment.level level)
    (hparsed : parsed.unvoiced = reparsed.unvoiced) :
    let first := loadSettings inv parsed
    let second := loadSettings (altered inv arguments level) reparsed
    first.1.map unlevelled = second.1.map unlevelled ∧ first.2 = second.2 := by
  intro first second
  have houtput : parsed.output = reparsed.output := congrArg (·.output) hparsed
  have hfile : parsed.settings = reparsed.settings := congrArg (·.settings) hparsed
  let overrides (parsed : Arguments.Parsed) : Settings.Overrides :=
    { level := verbosityLevel? parsed.verbosity, output := parsed.output.map wish }
  have hload : unlevelled <$> Settings.load inv.store inv.documents
        (parsed.settings.map givenPath) inv.environment (overrides parsed) =
      unlevelled <$> Settings.load inv.store inv.documents (reparsed.settings.map givenPath)
        (altered inv arguments level).environment (overrides reparsed) := by
    rw [hfile]
    apply Settings.load_unlevelled
    · exact hlevel
    · exact levelOf?_verbosityLevel? parsed.verbosity
    · exact levelOf?_verbosityLevel? reparsed.verbosity
    · exact congrArg (Option.map wish) houtput
    · rfl
    · rfl
  have hrun := congrArg (fun check => check.run.run {}) hload
  simp only [Settings.run_map] at hrun
  exact Prod.mk.inj hrun

/-- Two texts that show one log: its early part alike, its late part from the levels given on. -/
def LogAlike (a b : Level) (first second : String) : Prop :=
  ∃ early late rest,
    first = Journal.render Level.warning.value early ++ Journal.render a.value late ++ rest ∧
    second = Journal.render Level.warning.value early ++ Journal.render b.value late ++ rest

theorem LogAlike.refl (a b : Level) (text : String) : LogAlike a b text text := by
  refine ⟨[], [], text, ?_, ?_⟩ <;> simp [Journal.render]

/-- Two results that differ at most in how much of one log they show. -/
structure SameBarLog (a b : Level) (first second : Result) : Prop where
  ending : first.ending = second.ending
  stdout : first.stdout = second.stdout
  store : first.store = second.store
  silenced : first.silenced = second.silenced
  log : LogAlike a b first.console.stderr second.console.stderr

theorem SameBarLog.refl (a b : Level) (result : Result) : SameBarLog a b result result :=
  ⟨rfl, rfl, rfl, rfl, .refl a b _⟩

/-- The level at which the settings of a run want its log. -/
def wantedLevel (inv : Invocation) (parsed : Arguments.Parsed) : Level :=
  match (loadSettings inv parsed).1 with
  | .ok settings => settings.level
  | .error _ => .warning

theorem start_altered (hlevel : Interchangeable inv.environment.level level)
    (hparsed : parsed.unvoiced = reparsed.unvoiced) :
    let other := altered inv arguments level
    SameBarLog (wantedLevel inv parsed) (wantedLevel other reparsed)
      (start inv parsed) (start other reparsed) := by
  intro other
  have hfiles : parsed.files = reparsed.files := congrArg (·.files) hparsed
  have hload : (loadSettings inv parsed).1.map unlevelled =
        (loadSettings other reparsed).1.map unlevelled ∧
      (loadSettings inv parsed).2 = (loadSettings other reparsed).2 :=
    loadSettings_altered hlevel hparsed
  simp only [wantedLevel, start]
  revert hload
  rcases loadSettings inv parsed with ⟨first, journal⟩
  rcases loadSettings other reparsed with ⟨second, rejournal⟩
  rintro ⟨hsettings, rfl⟩
  cases first with
  | error failure =>
    cases second with
    | ok resettings => cases hsettings
    | error refailure =>
      obtain rfl := Except.error.inj hsettings
      cases failure <;> exact .refl _ _ _
  | ok settings =>
    cases second with
    | error refailure => cases hsettings
    | ok resettings =>
      have houtput : settings.output = resettings.output :=
        congrArg (·.output) (Except.ok.inj hsettings)
      simp only [Console.replay_opening, houtput, hfiles]
      cases Text.toPath? resettings.output with
      | none => exact ⟨rfl, rfl, rfl, rfl, .refl _ _ _⟩
      | some output =>
        -- from here on the two runs differ in the threshold of their console
        let text := Journal.render Level.warning.value journal.entries
        let files := reparsed.files.getD []
        change SameBarLog _ _ (work inv (.listening settings.level.value text) output files)
          (work other (.listening resettings.level.value text) output files)
        rw [work_listening, work_listening]
        exact ⟨rfl, rfl, rfl, rfl, journal.entries, workEntries (deliver inv files output),
          printed inv (deliver inv files output).outcome, rfl, rfl⟩

/-- The level at which a run shows its log once its settings hold. -/
def logLevel (inv : Invocation) : Level :=
  match Arguments.parse inv.arguments with
  | .ok parsed => wantedLevel inv parsed
  | .error _ => .warning

/-- Two runs that differ in the number of `-v` options, and in which level the environment names if
it names one, end in the same way with the same standard output and the same files. Their settings
differ in the level only, and on standard error they show one log, from that level on. -/
theorem run_independent_of_level (inv : Invocation) (arguments : List Bytes)
    (level : Option Bytes)
    (harguments : (Arguments.parse inv.arguments).map Arguments.Parsed.unvoiced =
      (Arguments.parse arguments).map Arguments.Parsed.unvoiced)
    (hlevel : Interchangeable inv.environment.level level) :
    let other := altered inv arguments level
    SameBarLog (logLevel inv) (logLevel other) (run inv) (run other) ∧
      ∀ parsed reparsed, Arguments.parse inv.arguments = .ok parsed →
        Arguments.parse arguments = .ok reparsed →
        (loadSettings inv parsed).1.map unlevelled =
          (loadSettings other reparsed).1.map unlevelled ∧
        (loadSettings inv parsed).2 = (loadSettings other reparsed).2 := by
  intro other
  have hother : Arguments.parse other.arguments = Arguments.parse arguments := rfl
  obtain ⟨misuse, hparsed, hreparsed⟩ | ⟨parsed, reparsed, hparsed, hreparsed, hunvoiced⟩ :=
    Arguments.parse_alike harguments
  · have hsame : run inv = run other := by
      simp only [run, hparsed, hother, hreparsed]
      rfl
    refine ⟨hsame ▸ .refl _ _ _, fun _ _ hok => ?_⟩
    cases hparsed.symm.trans hok
  · have hhelp : parsed.help = reparsed.help := congrArg (·.help) hunvoiced
    constructor
    · simp only [run, logLevel, hparsed, hother, hreparsed, hhelp]
      cases reparsed.help with
      | true =>
        simp only [if_true]
        exact .refl _ _ _
      | false => exact start_altered hlevel hunvoiced
    · intro _ _ hfirst hsecond
      obtain rfl := Except.ok.inj (hparsed.symm.trans hfirst)
      obtain rfl := Except.ok.inj (hreparsed.symm.trans hsecond)
      exact loadSettings_altered hlevel hunvoiced

/-- A run where the environment asks for errors only. -/
def indexingAtErrors : Invocation :=
  { indexing ["a.zig", "b.zig"] with environment := { level := some (Bytes.ofString " error ") } }

/-- The same run with two `-v` options, where the environment asks for everything. -/
def indexingAtDebug : Invocation :=
  altered indexingAtErrors (Bytes.ofString "-vv" :: indexingAtErrors.arguments)
    (some (Bytes.ofString "Debug"))

/-- The one run logs nothing and the other one much, but both write the same two lines. -/
theorem run_indexingAtErrors_indexingAtDebug :
    let quiet := run indexingAtErrors
    let loud := run indexingAtDebug
    logLevel indexingAtErrors = .error ∧ logLevel indexingAtDebug = .debug ∧
      quiet.console.stderr = "" ∧ loud.console.stderr ≠ "" ∧ quiet.ending = loud.ending ∧
      quiet.stdout = loud.stdout ∧
      quiet.stdout.chunks = [Session.tagOfA.line, Session.tagOfB.line] := by
  intro quiet loud
  have harguments : (Arguments.parse indexingAtErrors.arguments).map Arguments.Parsed.unvoiced =
      (Arguments.parse indexingAtDebug.arguments).map Arguments.Parsed.unvoiced := by decide
  have hlevel : Interchangeable indexingAtErrors.environment.level
      (some (Bytes.ofString "Debug")) :=
    .inr ⟨⟨_, rfl, by decide +kernel⟩, ⟨_, rfl, by decide +kernel⟩⟩
  have hsame := (run_independent_of_level indexingAtErrors _ _ harguments hlevel).1
  exact ⟨by decide +kernel, by decide +kernel, by decide +kernel, by decide +kernel, hsame.ending,
    hsame.stdout, by decide +kernel⟩

end Program

end TagIndex
