import Mathlib.Data.List.Induction
import Mathlib.Data.List.Lex
import Mathlib.Data.List.Nodup
import TagIndex.Proofs.Strictness

namespace TagIndex

namespace Text

theorem CodePoint.ofValue_value (point : CodePoint) : ofValue point.value = point := by
  cases point with
  | half number => exact ofValue_value_half number
  | char c =>
    have hoff : ¬(firstHalf ≤ c.toNat ∧ c.toNat < firstHalf + 0x800) := by
      have hvalid : c.toNat < 0xD800 ∨ 0xDFFF < c.toNat ∧ c.toNat < 0x110000 := c.valid
      simp only [firstHalf]
      omega
    rw [value, ofValue, dif_neg hoff, Char.ofNat_toNat]

theorem CodePoint.value_injective : Function.Injective CodePoint.value :=
  Function.LeftInverse.injective CodePoint.ofValue_value

/-- A text that comes before another, by the values of their code points. -/
def Before (a b : Text) : Prop := a.map CodePoint.value < b.map CodePoint.value

theorem Before.asymm {a b : Text} (h : a.Before b) : ¬b.Before a := lt_asymm h

theorem Before.ne {a b : Text} (h : a.Before b) : a ≠ b := by
  rintro rfl
  exact lt_irrefl _ h

/-- Texts that stand in order one before the other are given by what they are. -/
theorem eq_of_before {a b : List Text} (ha : a.Pairwise Before) (hb : b.Pairwise Before)
    (h : ∀ text, text ∈ a ↔ text ∈ b) : a = b := by
  have hperm : a.Perm b :=
    (List.perm_ext_iff_of_nodup (ha.imp Before.ne) (hb.imp Before.ne)).mpr h
  exact hperm.eq_of_pairwise (fun _ _ _ _ hab hba => absurd hba hab.asymm) ha hb

end Text

theorem Journal.entries_foldl_note (notices : List Notice) (journal : Journal) :
    (notices.foldl note journal).entries =
      journal.entries ++ notices.map (JournalEntry.mk journal.source) := by
  induction notices generalizing journal with
  | nil => simp
  | cons notice rest ih =>
    rw [List.foldl_cons, ih]
    simp [note]

theorem Level.ofName?_eq_some_iff {name : String} {level : Level} :
    ofName? name = some level ↔ name = level.name := by
  constructor
  · intro h
    have hname := List.find?_some h
    exact (of_decide_eq_true hname).symm
  · rintro rfl
    exact ofName?_name level

namespace Settings

theorem inOrder_iff {a b : Text} : inOrder a b ↔ a = b ∨ a.Before b := by
  induction a generalizing b with
  | nil => cases b <;> simp [inOrder, Text.Before]
  | cons x s ih =>
    cases b with
    | nil => simp [inOrder, Text.Before]
    | cons y t =>
      simp only [inOrder, Bool.or_eq_true, Bool.and_eq_true, decide_eq_true_eq, ih, Text.Before,
        List.map_cons, List.cons_lt_cons_iff, List.cons.injEq,
        Text.CodePoint.value_injective.eq_iff]
      tauto

theorem inOrder_trans (a b c : Text) (hab : inOrder a b) (hbc : inOrder b c) : inOrder a c := by
  rw [inOrder_iff] at hab hbc ⊢
  rcases hab with rfl | hab
  · exact hbc
  · rcases hbc with rfl | hbc
    · exact .inr hab
    · exact .inr (lt_trans hab hbc)

theorem inOrder_total (a b : Text) : inOrder a b || inOrder b a := by
  rw [Bool.or_eq_true, inOrder_iff, inOrder_iff]
  rcases lt_trichotomy (a.map Text.CodePoint.value) (b.map Text.CodePoint.value) with
    hless | hsame | hmore
  · exact .inl (.inr hless)
  · exact .inl (.inl (Text.CodePoint.value_injective.list_map hsame))
  · exact .inr (.inr hmore)

theorem pairwise_mergeSort_inOrder {keys : List Text} (h : keys.Nodup) :
    (keys.mergeSort inOrder).Pairwise Text.Before := by
  have hsorted : (keys.mergeSort inOrder).Pairwise (inOrder · ·) :=
    List.pairwise_mergeSort inOrder_trans inOrder_total keys
  have hdistinct : (keys.mergeSort inOrder).Nodup :=
    (List.mergeSort_perm keys inOrder).nodup_iff.mpr h
  refine (hsorted.and hdistinct).imp ?_
  intro a b hab
  exact (inOrder_iff.mp hab.1).resolve_left hab.2

variable {payload other : Mapping}

/-- The list has the keys of the mapping that are not known, in order. -/
structure Listed (payload : Mapping) (keys : List Text) : Prop where
  sorted : keys.Pairwise Text.Before
  mem_iff : ∀ key, key ∈ keys ↔ .text key ∈ payload.map (·.1) ∧
    key ∉ ["log_level", "output", "strict"].map Text.ofString

theorem Listed.unique {keys others : List Text} (h : Listed payload keys)
    (k : Listed other others) (hsame : other.Perm payload) : keys = others := by
  refine Text.eq_of_before h.sorted k.sorted fun key => ?_
  rw [h.mem_iff, k.mem_iff, (hsame.map (·.1)).mem_iff]

theorem mem_strangers {key : Text} : .text key ∈ strangers payload ↔
    .text key ∈ payload.map (·.1) ∧ key ∉ ["log_level", "output", "strict"].map Text.ofString := by
  have hsame (known : String) : (Value.text key).sameKey (.ofString known) = false ↔
      key ≠ Text.ofString known := by simp [Value.sameKey, Value.ofString]
  simp [strangers, knownKeys, hsame]

/-- Of keys that are texts, those that are not known are judged together, in order. -/
theorem keyEvents_listed (strict : Bool) (htexts : ∀ pair ∈ payload, ∃ key, pair.1 = .text key)
    (hdistinct : (payload.map (·.1)).Nodup) :
    ∃ keys, Listed payload keys ∧ keyEvents strict payload =
      if keys = [] then [] else [.problem strict (.unknownKeys keys)] := by
  cases hfound : texts? (strangers payload) with
  | none =>
    -- a key that is no text would be among the keys of the mapping
    obtain ⟨key, hkey, hother⟩ := texts?_eq_none_iff.mp hfound
    obtain ⟨pair, hmem, rfl⟩ := List.mem_map.mp (List.mem_filter.mp hkey).1
    obtain ⟨s, hs⟩ := htexts pair hmem
    exact absurd hs (hother s)
  | some found =>
    have hstrangers := texts?_eq_some hfound
    have hnodup : found.Nodup := by
      have hkeys : (strangers payload).Nodup := hdistinct.filter _
      rw [hstrangers] at hkeys
      exact hkeys.of_map _
    refine ⟨found.mergeSort inOrder, ⟨pairwise_mergeSort_inOrder hnodup, ?_⟩, ?_⟩
    · intro key
      rw [List.mem_mergeSort, ← mem_strangers, hstrangers]
      simp
    · cases found with
      | nil => simp [keyEvents, hfound]
      | cons first rest =>
        have hne : (first :: rest).mergeSort inOrder ≠ [] := by
          rw [← List.length_pos_iff, List.length_mergeSort]
          exact Nat.succ_pos _
        rw [keyEvents, hfound, if_neg hne]

theorem get?_eq_some_iff {key : String} {value : Value} (hdistinct : (payload.map (·.1)).Nodup) :
    Mapping.get? payload key = some value ↔ (.ofString key, value) ∈ payload := by
  have hfound {pair : Value × Value}
      (h : payload.find? (fun pair => pair.1.sameKey (.ofString key)) = some pair) :
      pair.1 = .ofString key := by
    have hsame := List.find?_some h
    exact sameKey_ofString_iff.mp hsame
  rw [Mapping.get?, Option.map_eq_some_iff]
  constructor
  · rintro ⟨pair, hfind, rfl⟩
    rw [← hfound hfind]
    exact List.mem_of_find?_eq_some hfind
  · intro hmem
    cases hfind : payload.find? fun pair => pair.1.sameKey (.ofString key) with
    | none =>
      have hno := List.find?_eq_none.mp hfind _ hmem
      exact absurd (sameKey_ofString_iff.mpr rfl) hno
    | some pair =>
      have hpair : pair = (.ofString key, value) :=
        List.inj_on_of_nodup_map hdistinct (List.mem_of_find?_eq_some hfind) hmem (hfound hfind)
      exact ⟨pair, rfl, congrArg Prod.snd hpair⟩

theorem get?_perm (hdistinct : (payload.map (·.1)).Nodup) (h : other.Perm payload)
    (key : String) : Mapping.get? other key = Mapping.get? payload key := by
  have hothers : (other.map (·.1)).Nodup := (h.map _).nodup_iff.mpr hdistinct
  ext value
  rw [get?_eq_some_iff hothers, get?_eq_some_iff hdistinct, h.mem_iff]

/-- The order of a mapping's keys makes no difference. -/
theorem run_resolve_perm (strict : Bool) (env : Environment) (overrides : Overrides)
    (journal : Journal) (htexts : ∀ pair ∈ payload, ∃ key, pair.1 = .text key)
    (hdistinct : (payload.map (·.1)).Nodup) (h : other.Perm payload) :
    (resolve other strict env overrides).run.run journal =
      (resolve payload strict env overrides).run.run journal := by
  have hkeys : keyEvents strict other = keyEvents strict payload := by
    obtain ⟨keys, hlisted, hevents⟩ := keyEvents_listed strict htexts hdistinct
    obtain ⟨others, hothers, hsame⟩ := keyEvents_listed strict
      (fun pair hmem => htexts pair (h.mem_iff.mp hmem)) ((h.map _).nodup_iff.mpr hdistinct)
    rw [hevents, hsame, hlisted.unique hothers h]
  have hcandidates : levelCandidates other env overrides = levelCandidates payload env overrides ∧
      outputCandidates other overrides = outputCandidates payload overrides ∧
      asksStrict other = asksStrict payload := by
    simp only [levelCandidates, outputCandidates, setting?, asksStrict, get?_perm hdistinct h,
      and_self]
  obtain ⟨hlevels, houtputs, hstrict⟩ := hcandidates
  simp only [run_resolve, resolveEvents, chosen, hkeys, hlevels, houtputs, hstrict]

section LastNamed

variable {α β : Type}

/-- What the last of the candidates names that names anything, and `fallback` if none does. -/
inductive LastNamed (names : α → β → Prop) (candidates : List α) (fallback : β) : β → Prop
  | named {before after : List α} {candidate : α} {found : β}
      (hcut : candidates = before ++ candidate :: after) (hnames : names candidate found)
      (hafter : ∀ later ∈ after, ∀ other, ¬names later other) :
      LastNamed names candidates fallback found
  | fallback (hnone : ∀ candidate ∈ candidates, ∀ other, ¬names candidate other) :
      LastNamed names candidates fallback fallback

theorem lastNamed_getLast? {names : α → β → Prop} {named? : α → Option β}
    (h : ∀ candidate found, named? candidate = some found ↔ names candidate found)
    (candidates : List α) (fallback : β) :
    LastNamed names candidates fallback
      ((candidates.filterMap named?).getLast?.getD fallback) := by
  -- from the right, since the last candidate decides unless it names nothing
  induction candidates using List.reverseRecOn with
  | nil => exact .fallback nofun
  | append_singleton front last ih =>
    cases hlast : named? last with
    | some found =>
      rw [List.filterMap_append, List.filterMap_cons_some hlast, List.filterMap_nil,
        List.getLast?_concat]
      exact .named rfl ((h last found).mp hlast) nofun
    | none =>
      have hsilent : ∀ other, ¬names last other := by
        intro other hnames
        cases hlast.symm.trans ((h last other).mpr hnames)
      rw [List.filterMap_append, List.filterMap_cons_none hlast, List.filterMap_nil,
        List.append_nil]
      generalize ((front.filterMap named?).getLast?.getD fallback) = found at ih ⊢
      cases ih with
      | named hcut hnames hafter =>
        refine .named (by rw [hcut, List.append_assoc, List.cons_append]) hnames ?_
        exact List.forall_mem_append.mpr ⟨hafter, List.forall_mem_singleton.mpr hsilent⟩
      | fallback hnone =>
        refine .fallback ?_
        exact List.forall_mem_append.mpr ⟨hnone, List.forall_mem_singleton.mpr hsilent⟩

end LastNamed

/-- The text of a value in capitals and without the blanks around it. -/
def normalForm? (value : Value) : Option String :=
  value.shown?.map fun shown => String.ofList (Text.upper (Text.trim shown.toList))

def NamesLevel (value : Value) (level : Level) : Prop := normalForm? value = some level.name

theorem namesLevel_iff {value : Value} {level : Level} :
    value.shown?.bind levelOf? = some level ↔ NamesLevel value level := by
  simp only [NamesLevel, normalForm?, Option.bind_eq_some_iff, Option.map_eq_some_iff, levelOf?,
    Level.ofName?_eq_some_iff]

/-- The output that a wish names: a text that is not empty, or the text of such a path. -/
def Wish.Names : Wish → Text → Prop
  | .value found, output => found = .text output ∧ output ≠ []
  | .path found, output => found ≠ [] ∧ Text.ofPath found = output

theorem Wish.names_iff {wish : Wish} {output : Text} :
    wish.accepted? = some output ↔ wish.Names output := by
  cases wish with
  | path path => simp [accepted?, Names]
  | value value =>
    cases value with
    | text s =>
      simp only [accepted?, Names, Value.text.injEq, Option.ite_none_left_eq_some,
        Option.some.injEq]
      constructor
      · rintro ⟨hne, rfl⟩
        exact ⟨rfl, hne⟩
      · rintro ⟨rfl, hne⟩
        exact ⟨hne, rfl⟩
    | _ => simp [accepted?, Names]

/-- What the mapping, the environment and the caller have for the level, in this order. -/
def levelLayers (payload : Mapping) (env : Environment) (overrides : Overrides) : List Value :=
  [Mapping.get? payload "log_level", env.level.map .ofPath,
    overrides.level.map .ofString].flatMap Option.toList

/-- What the mapping and the caller have for the output. -/
def outputLayers (payload : Mapping) (overrides : Overrides) : List Wish :=
  [(Mapping.get? payload "output").map .value, overrides.output].flatMap Option.toList

/-- A setting that is null is passed over like one that names nothing. -/
theorem filterMap_setting? {β : Type} (named? : Value → Option β) (hnull : named? .null = none)
    (payload : Mapping) (key : String) :
    (setting? payload key).toList.filterMap named? =
      (Mapping.get? payload key).toList.filterMap named? := by
  unfold setting?
  rcases Mapping.get? payload key with _ | value
  · rfl
  · cases value <;> simp [hnull]

theorem chosenLevel_layers (level : Level) (payload : Mapping) (env : Environment)
    (overrides : Overrides) :
    chosenLevel level (levelCandidates payload env overrides) =
      chosenLevel level (levelLayers payload env overrides) := by
  have hlayer := filterMap_setting? (fun value => value.shown?.bind levelOf?) (by decide) payload
    "log_level"
  simp only [chosenLevel, levelCandidates, levelLayers, List.flatMap_cons, List.flatMap_nil,
    List.append_nil, List.append_assoc, List.filterMap_append, hlayer]

theorem chosenOutput_layers (output : Text) (payload : Mapping) (overrides : Overrides) :
    chosenOutput output (outputCandidates payload overrides) =
      chosenOutput output (outputLayers payload overrides) := by
  have hlayer := filterMap_setting? (Wish.accepted? ∘ Wish.value) rfl payload "output"
  simp only [chosenOutput, outputCandidates, outputLayers, List.flatMap_cons, List.flatMap_nil,
    List.append_nil, List.filterMap_append, Option.toList_map, List.filterMap_map, hlayer]

/-- Keys that are not known come to light before anything else. -/
theorem run_resolve_of_listed {keys : List Text} (strict : Bool) (env : Environment)
    (overrides : Overrides) (journal : Journal)
    (hkeys : keyEvents strict payload = [.problem strict (.unknownKeys keys)]) :
    if strict then
      (resolve payload strict env overrides).run.run journal =
        (.error (.rejected (.unknownKeys keys)), journal)
    else
      ∃ rest, ((resolve payload strict env overrides).run.run journal).2.entries =
        journal.entries ++
          ⟨journal.source, .settingIgnored (Problem.unknownKeys keys).message⟩ :: rest := by
  rw [run_resolve, resolveEvents, hkeys]
  cases strict with
  | true => rfl
  | false => exact ⟨_, Journal.entries_foldl_note _ journal⟩

/-- Settings from a mapping whose keys are texts, none of them twice. The last layer that holds
something usable decides a setting, so that there is always a level with a number. Keys that are not
known come up in the order of their code points, and the order of the keys in the mapping makes no
difference to the result and the journal. -/
theorem resolve_follows_precedence (payload : Mapping) (strict : Bool) (env : Environment)
    (overrides : Overrides) (htexts : ∀ pair ∈ payload, ∃ key, pair.1 = .text key)
    (hdistinct : (payload.map (·.1)).Nodup) :
    (∀ start settings journal,
      (resolve payload strict env overrides).run.run start = (.ok settings, journal) →
      LastNamed NamesLevel (levelLayers payload env overrides) .warning settings.level ∧
      LastNamed Wish.Names (outputLayers payload overrides) (Text.ofString "-") settings.output ∧
      (settings.strict ↔ strict ∨ ∃ value, (.ofString "strict", value) ∈ payload ∧
        value.isTruthy) ∧
      (settings.level.name, settings.level.value) ∈ [("DEBUG", 10), ("INFO", 20),
        ("WARNING", 30), ("ERROR", 40), ("CRITICAL", 50)]) ∧
    (∃ keys, Listed payload keys ∧ (keys ≠ [] → ∀ start,
      let run := (resolve payload strict env overrides).run.run start
      if strict then run = (.error (.rejected (.unknownKeys keys)), start)
      else ∃ rest, run.2.entries = start.entries ++
        ⟨start.source, .settingIgnored (Problem.unknownKeys keys).message⟩ :: rest)) ∧
    ∀ other : Mapping, other.Perm payload → ∀ start,
      (resolve other strict env overrides).run.run start =
        (resolve payload strict env overrides).run.run start := by
  refine ⟨?_, ?_, ?_⟩
  · intro start settings journal hrun
    rw [run_resolve] at hrun
    obtain ⟨rfl, _⟩ := verdict_eq_ok_iff.mp (Prod.mk.inj hrun).1
    refine ⟨?_, ?_, ?_, ?_⟩
    · rw [chosen, chosenLevel_layers]
      exact lastNamed_getLast? (fun _ _ => namesLevel_iff) _ _
    · rw [chosen, chosenOutput_layers]
      exact lastNamed_getLast? (fun _ _ => Wish.names_iff) _ _
    · simp only [chosen, asksStrict, Bool.or_eq_true, Option.any_eq_true,
        get?_eq_some_iff hdistinct]
      exact or_comm
    · generalize (chosen payload strict env overrides).level = level
      cases level <;> decide
  · obtain ⟨keys, hlisted, hevents⟩ := keyEvents_listed strict htexts hdistinct
    refine ⟨keys, hlisted, fun hne start => ?_⟩
    rw [if_neg hne] at hevents
    exact run_resolve_of_listed strict env overrides start hevents
  · intro other hperm start
    exact run_resolve_perm strict env overrides start htexts hdistinct hperm

/-- A mapping with two keys that are not known, the later one first. -/
def unsortedKeys : Mapping :=
  [(.ofString "zebra", .int 1), (.ofString "output", .ofString "tags"),
    (.ofString "log_level", .ofString " Debug"), (.ofString "Alpha", .null),
    (.ofString "strict", .int 0)]

/-- A mapping that asks for strict mode, with a word that means the opposite. -/
def strictWord : Mapping :=
  [(.ofString "strict", .ofString "no"), (.ofString "log_level", .ofString "error")]

def unusableEnvironment : Environment := { level := some (Bytes.ofString "loud") }

def unusableOverrides : Overrides := { level := some "", output := some (.path []) }

theorem texts_unsortedKeys : ∀ pair ∈ unsortedKeys, ∃ key, pair.1 = .text key := by
  simp [unsortedKeys, Value.ofString]

theorem keys_unsortedKeys : unsortedKeys.map (·.1) =
    (["zebra", "output", "log_level", "Alpha", "strict"].map Text.ofString).map .text := rfl

theorem nodup_keys {names : List Text} (hnames : names.Nodup)
    (hkeys : payload.map (·.1) = names.map .text) : (payload.map (·.1)).Nodup := by
  rw [hkeys]
  exact hnames.map fun _ _ => Value.text.inj

theorem distinct_unsortedKeys : (unsortedKeys.map (·.1)).Nodup :=
  nodup_keys (by decide) keys_unsortedKeys

theorem texts_strictWord : ∀ pair ∈ strictWord, ∃ key, pair.1 = .text key := by
  simp [strictWord, Value.ofString]

theorem distinct_strictWord : (strictWord.map (·.1)).Nodup := by
  have hnames : (["strict", "log_level"].map Text.ofString).Nodup := by decide
  exact nodup_keys hnames rfl

theorem listed_unsortedKeys :
    Listed unsortedKeys [Text.ofString "Alpha", Text.ofString "zebra"] where
  sorted := List.pairwise_pair.mpr (by unfold Text.Before; decide)
  mem_iff key := by
    rw [keys_unsortedKeys, List.mem_map_of_injective fun _ _ => Value.text.inj]
    simp only [List.map_cons, List.map_nil, List.mem_cons, List.not_mem_nil, or_false]
    constructor
    · rintro (rfl | rfl) <;> decide
    · rintro ⟨hzebra | houtput | hlevel | halpha | hstrict, hunknown⟩
      · exact .inr hzebra
      · exact absurd (.inr (.inl houtput)) hunknown
      · exact absurd (.inl hlevel) hunknown
      · exact .inl halpha
      · exact absurd (.inr (.inr hstrict)) hunknown

theorem run_resolve_unsortedKeys : ∃ journal,
    (resolve unsortedKeys false unusableEnvironment unusableOverrides).run.run {} =
      (.ok { level := .debug, output := Text.ofString "tags" }, journal) := by
  have hchosen : chosen unsortedKeys false unusableEnvironment unusableOverrides =
      { level := .debug, output := Text.ofString "tags" } := by decide +kernel
  have hlenient : (asksStrict unsortedKeys || false) = false := by decide +kernel
  have hlater : ((levelCandidates unsortedKeys unusableEnvironment unusableOverrides).filterMap
        (levelEvent? false) ++
      (outputCandidates unsortedKeys unusableOverrides).filterMap (outputEvent? false)).all
        (·.failure?.isNone) := by decide +kernel
  have hpassed : ∀ event ∈ resolveEvents unsortedKeys false unusableEnvironment unusableOverrides,
      event.failure? = none := by
    obtain ⟨keys, _, hkeys⟩ := keyEvents_listed false texts_unsortedKeys distinct_unsortedKeys
    rw [resolveEvents, hkeys, hlenient, List.forall_mem_append]
    constructor
    · split_ifs
      · exact List.forall_mem_nil _
      · exact List.forall_mem_singleton.mpr rfl
    · intro event hmem
      exact Option.isNone_iff_eq_none.mp (List.all_eq_true.mp hlater event hmem)
  rw [run_resolve, verdict_eq_ok_iff.mpr ⟨hchosen, hpassed⟩]
  exact ⟨_, rfl⟩

/-- Above the mapping no layer is usable, so that the mapping decides; a text that is not empty
turns strict mode on, whatever it says. -/
theorem resolve_unsortedKeys_strictWord :
    let settings : Settings := { level := .debug, output := Text.ofString "tags" }
    (∃ journal, (resolve unsortedKeys false unusableEnvironment unusableOverrides).run.run {} =
        (.ok settings, journal) ∧
      LastNamed NamesLevel (levelLayers unsortedKeys unusableEnvironment unusableOverrides) .warning
        settings.level ∧
      LastNamed Wish.Names (outputLayers unsortedKeys unusableOverrides) (Text.ofString "-")
        settings.output ∧
      (resolve unsortedKeys.reverse false unusableEnvironment unusableOverrides).run.run {} =
        (.ok settings, journal) ∧
      journal.entries.head?.map (·.notice.text) =
        some "Unknown config keys: Alpha, zebra; continuing with defaults") ∧
    ∃ settings journal, (resolve strictWord false {} {}).run.run {} = (.ok settings, journal) ∧
      settings.strict ∧ settings.level = .error ∧
      LastNamed NamesLevel (levelLayers strictWord {} {}) .warning settings.level := by
  intro settings
  constructor
  · obtain ⟨hsettings, ⟨keys, hlisted, hwarned⟩, horder⟩ :=
      resolve_follows_precedence unsortedKeys false unusableEnvironment unusableOverrides
        texts_unsortedKeys distinct_unsortedKeys
    obtain rfl := hlisted.unique listed_unsortedKeys (.refl _)
    obtain ⟨journal, hrun⟩ := run_resolve_unsortedKeys
    obtain ⟨hlevel, houtput, _⟩ := hsettings {} settings journal hrun
    obtain ⟨rest, hentries⟩ := hwarned nofun {}
    rw [hrun] at hentries
    refine ⟨journal, hrun, hlevel, houtput, ?_, ?_⟩
    · rw [horder unsortedKeys.reverse unsortedKeys.reverse_perm, hrun]
    · have htext : (Notice.settingIgnored (Problem.unknownKeys
          [Text.ofString "Alpha", Text.ofString "zebra"]).message).text =
            "Unknown config keys: Alpha, zebra; continuing with defaults" := by decide
      rw [hentries]
      exact congrArg some htext
  · obtain ⟨hsettings, _⟩ := resolve_follows_precedence strictWord false {} {} texts_strictWord
      distinct_strictWord
    obtain ⟨journal, hrun⟩ : ∃ journal, (resolve strictWord false {} {}).run.run {} =
        (.ok { level := .error, strict := true }, journal) :=
      ⟨_, run_eq_ok_of_toOption (by decide +kernel)⟩
    obtain ⟨hlevel, _, hstrict, _⟩ := hsettings {} _ _ hrun
    refine ⟨_, _, hrun, ?_, rfl, hlevel⟩
    exact hstrict.mpr (.inr ⟨.ofString "no", by simp [strictWord], by decide⟩)

end Settings

end TagIndex
