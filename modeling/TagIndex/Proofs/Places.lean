import Mathlib.Tactic.Common
import TagIndex.Store.Basic

namespace TagIndex

namespace Path

/-- The names that an entry of a directory can have. -/
def IsName (name : Bytes) : Prop :=
  name ≠ [] ∧ name ≠ dot ∧ name ≠ dotDot ∧ Bytes.slash ∉ name

instance : DecidablePred IsName := fun _ => inferInstanceAs (Decidable (_ ∧ _))

/-- Places of entries: from the root down every name is one that an entry can have. -/
def IsProper (place : Place) : Prop := ∀ name ∈ place, IsName name

instance : DecidablePred IsProper := fun place =>
  inferInstanceAs (Decidable (∀ name ∈ place, IsName name))

theorem follow_of_isName (place : Place) {name : Bytes} (h : IsName name) :
    follow place name = place ++ [name] := by
  simp [follow, h.1, h.2.1, h.2.2.1]

theorem foldl_follow {names : List Bytes} (h : IsProper names) (place : Place) :
    names.foldl follow place = place ++ names := by
  induction names generalizing place with
  | nil => simp
  | cons name rest ih =>
    rw [List.foldl_cons, follow_of_isName place (h name (by simp)),
      ih fun name hmem => h name (by simp [hmem])]
    simp

theorem IsProper.dropLast {place : Place} (h : IsProper place) : IsProper place.dropLast :=
  fun name hmem => h name ((List.dropLast_sublist place).mem hmem)

theorem IsProper.concat {place : Place} (h : IsProper place) {name : Bytes} (hname : IsName name) :
    IsProper (place ++ [name]) := by
  intro other hmem
  rcases List.mem_append.mp hmem with hmem | hmem
  · exact h other hmem
  · rwa [List.mem_singleton.mp hmem]

theorem IsProper.follow {place : Place} (h : IsProper place) {name : Bytes}
    (hname : Bytes.slash ∉ name) : IsProper (Path.follow place name) := by
  unfold Path.follow
  split_ifs with hstay hup
  · exact h
  · exact h.dropLast
  · exact h.concat ⟨fun heq => hstay (.inl heq), fun heq => hstay (.inr heq), hup, hname⟩

theorem IsProper.foldl_follow {place : Place} (h : IsProper place) {names : List Bytes}
    (hnames : ∀ name ∈ names, Bytes.slash ∉ name) : IsProper (names.foldl Path.follow place) := by
  induction names generalizing place with
  | nil => exact h
  | cons name rest ih =>
    exact ih (h.follow (hnames name (by simp))) fun other hmem => hnames other (by simp [hmem])

theorem slash_not_mem_of_mem_names {path name : Bytes} (h : name ∈ names path) :
    Bytes.slash ∉ name := Bytes.not_mem_of_mem_split h

theorem IsProper.spelled {workdir : Place} (h : IsProper workdir) (path : Bytes) :
    IsProper (Path.spelled workdir path) := by
  have horigin : IsProper (origin workdir path) := by
    unfold origin
    split_ifs
    · exact nofun
    · exact h
  exact horigin.foldl_follow fun _ hmem => slash_not_mem_of_mem_names hmem

theorem slash_not_mem_baseName (path : Bytes) : Bytes.slash ∉ baseName path := by
  have hne : names path ≠ [] := Bytes.split_ne_nil Bytes.slash path
  rw [baseName, List.getLastD_eq_getLast?, List.getLast?_eq_some_getLast hne]
  exact slash_not_mem_of_mem_names (List.getLast_mem hne)

/-- The absolute path of a place spells the place from everywhere. -/
theorem spelled_ofPlace (workdir : Place) {place : Place} (h : IsProper place) :
    spelled workdir (ofPlace place) = place := by
  have horigin : origin workdir (ofPlace place) = [] := by simp [origin, isAbsolute, ofPlace]
  rw [spelled, horigin]
  by_cases hne : place = []
  · subst hne
    decide
  · have hnames : names (ofPlace place) = [] :: place := by
      have hsplit := Bytes.split_join hne fun name hmem => (h name hmem).2.2.2
      rw [names, ofPlace, Bytes.split, if_pos rfl, hsplit]
    rw [hnames, List.foldl_cons, show follow [] [] = [] from rfl, foldl_follow h]
    rfl

end Path

namespace Store

variable {store : Store} {place there : Place} {item : Item}

theorem lookup_filter_ne (items : List (Place × Item)) (place q : Place) :
    (items.filter (·.1 != place)).lookup q = if q = place then none else items.lookup q := by
  induction items with
  | nil => simp
  | cons entry rest ih =>
    obtain ⟨key, value⟩ := entry
    by_cases hkey : key = place
    · rw [List.filter_cons_of_neg (by simpa using hkey), ih]
      by_cases hq : q = place
      · simp [hq]
      · have hbeq : (q == key) = false := by simpa [hkey] using hq
        simp [List.lookup_cons, hbeq, hq]
    · rw [List.filter_cons_of_pos (by simpa using hkey), List.lookup_cons, List.lookup_cons, ih]
      by_cases hq : q = key
      · simp [hq, hkey]
      · have hbeq : (q == key) = false := by simpa using hq
        simp [hbeq]

theorem item?_remove_of_ne {q : Place} (h : q ≠ place) :
    (store.remove place).item? q = store.item? q := by
  simp [item?, remove, lookup_filter_ne, h]

theorem item?_put_of_ne {q : Place} (h : q ≠ place) :
    (store.put place item).item? q = store.item? q := by
  have hbeq : (q == place) = false := by simpa using h
  have hput : (store.put place item).item? q = (store.remove place).item? q := by
    simp only [item?, put, List.lookup_cons, hbeq]
    rfl
  rw [hput, item?_remove_of_ne h]

theorem not_isPrefixOf_workdir (h : store.isDirectory place = false) :
    place.isPrefixOf store.workdir = false := by
  rw [Bool.eq_false_iff]
  intro hprefix
  simp [isDirectory, item?, hprefix] at h

theorem not_isPrefixOf_of_fresh (h : store.item? place = none) :
    place.isPrefixOf store.workdir = false := not_isPrefixOf_workdir (by simp [isDirectory, h])

theorem item?_remove_self (h : place.isPrefixOf store.workdir = false) :
    (store.remove place).item? place = none := by
  simp [item?, remove, lookup_filter_ne, h]

theorem item?_put_self (h : place.isPrefixOf store.workdir = false) :
    (store.put place item).item? place = some item := by
  simp [item?, put, h]

/-- What comes to a fresh place and goes again leaves no trace. -/
theorem item?_remove_put (h : store.item? place = none) (q : Place) :
    ((store.put place item).remove place).item? q = store.item? q := by
  by_cases hq : q = place
  · subst hq
    have hprefix := not_isPrefixOf_of_fresh h
    rw [h]
    exact item?_remove_self hprefix
  · rw [item?_remove_of_ne hq, item?_put_of_ne hq]

@[simp] theorem put_put (store : Store) (place : Place) (item other : Item) :
    (store.put place item).put place other = store.put place other := by
  simp [put, remove]

/-- A walk that is not stopped ends at the place that its names spell. -/
theorem walk_ok {names : List Bytes} (h : store.walk place names = .ok there) :
    there = names.foldl Path.follow place := by
  induction names generalizing place with
  | nil => exact (Except.ok.inj h).symm
  | cons name rest ih =>
    simp only [walk] at h
    split_ifs at h
    exact ih h

theorem entry_ok {names : List Bytes} {origin directory : Place} {name : Bytes}
    (h : store.entry names origin = .ok (directory, name)) :
    name = names.getLastD [] ∧ Path.follow directory name = names.foldl Path.follow origin := by
  simp only [entry] at h
  split at h
  · cases h
  · rename_i found hfound
    split_ifs at h
    obtain ⟨rfl, rfl⟩ := Prod.mk.inj (Except.ok.inj h)
    refine ⟨rfl, ?_⟩
    rw [walk_ok hfound]
    rcases List.eq_nil_or_concat names with rfl | ⟨front, last, rfl⟩
    · rfl
    · simp

theorem resolve_ok {path : Bytes} (h : store.resolve path = .ok there) :
    there = Path.spelled store.workdir path := by
  unfold resolve at h
  split at h
  · cases h
  · cases h
  · split at h
    · rename_i found hfound
      rw [← Except.ok.inj h]
      exact walk_ok hfound
    · cases h

/-- A walk from elsewhere that meets a new file goes on as before, ends at the file, or is stopped
behind it. -/
theorem walk_put (content : Bytes) (mode : Nat) {start : Place} (h : store.item? place = none)
    (hstart : start ≠ place) (names : List Bytes) :
    (store.put place (.file content mode)).walk start names = store.walk start names ∨
      (store.put place (.file content mode)).walk start names = .ok place ∨
      (store.put place (.file content mode)).walk start names = .error .notDirectory := by
  have hself : (store.put place (.file content mode)).item? place = some (.file content mode) :=
    item?_put_self (not_isPrefixOf_of_fresh h)
  induction names generalizing start with
  | nil => exact .inl rfl
  | cons name rest ih =>
    have hdirectory : (store.put place (.file content mode)).isDirectory start =
        store.isDirectory start := by
      rw [isDirectory, isDirectory, item?_put_of_ne hstart]
    simp only [walk, hdirectory]
    by_cases hnext : Path.follow start name = place
    · simp only [hnext, hself, h, Option.isSome_some, Option.isSome_none, if_true,
        Bool.false_eq_true, if_false]
      split_ifs
      · exact .inl rfl
      · exact .inl rfl
      · -- nothing was there before, and no name can follow the new file
        cases rest with
        | nil => exact .inr (.inl rfl)
        | cons other more => exact .inr (.inr (by simp [walk, isDirectory, hself]))
    · rw [item?_put_of_ne hnext]
      split_ifs
      · exact .inl rfl
      · exact .inl rfl
      · exact ih hnext
      · exact .inl rfl

theorem origin_ne (h : store.item? place = none) (path : Bytes) :
    Path.origin store.workdir path ≠ place := by
  rintro rfl
  have hprefix := not_isPrefixOf_of_fresh h
  unfold Path.origin at hprefix
  split_ifs at hprefix
  · cases hprefix
  · rw [List.isPrefixOf_iff_prefix.mpr (List.prefix_refl _)] at hprefix
    cases hprefix

/-- A path that does not spell the place of a new file leads where it led, or is stopped there. -/
theorem resolve_put (content : Bytes) (mode : Nat) {path : Bytes} (h : store.item? place = none)
    (hpath : Path.spelled store.workdir path ≠ place) :
    (store.put place (.file content mode)).resolve path = store.resolve path ∨
      (store.put place (.file content mode)).resolve path =
        .error (.system (Obstacle.notDirectory.fault path)) := by
  have hwalk := walk_put content mode h (origin_ne h path) (Path.names path)
  have hresolve : (store.put place (.file content mode)).resolve path ≠ .ok place :=
    fun hok => hpath (resolve_ok hok).symm
  have hworkdir : (store.put place (.file content mode)).workdir = store.workdir := rfl
  simp only [resolve, hworkdir] at hresolve ⊢
  split
  · exact .inl rfl
  · exact .inl rfl
  · rename_i hrefuse
    rw [hrefuse] at hresolve
    rcases hwalk with hwalk | hwalk | hwalk
    · rw [hwalk]
      exact .inl rfl
    · rw [hwalk] at hresolve
      exact absurd rfl hresolve
    · rw [hwalk]
      exact .inr rfl

theorem read_put (content : Bytes) (mode : Nat) {path : Bytes} (h : store.item? place = none)
    (hpath : Path.spelled store.workdir path ≠ place) :
    (store.put place (.file content mode)).read path = store.read path ∨
      (store.put place (.file content mode)).read path =
        .error (.system (Obstacle.notDirectory.fault path)) := by
  have hanswer : (store.put place (.file content mode)).onRead = store.onRead := rfl
  simp only [read, hanswer]
  split_ifs with hzero
  · exact .inl rfl
  · cases store.onRead path with
    | some fault => exact .inl rfl
    | none =>
      rcases resolve_put content mode h hpath with hresolve | hresolve
      · left
        rw [hresolve]
        cases hthere : store.resolve path with
        | error fault => rfl
        | ok there =>
          have hne : there ≠ place := fun heq => hpath (resolve_ok hthere ▸ heq)
          simp only [item?_put_of_ne hne]
      · right
        rw [hresolve]

/-- A file is made where its path spells, and only if nothing is there. -/
theorem create_ok {path : Bytes} {created : Store} (h : store.create path = .ok created) :
    store.item? (Path.spelled store.workdir path) = none ∧
      created = store.put (Path.spelled store.workdir path) (.file [] 0o600) := by
  unfold create at h
  split at h
  · cases h
  · cases h
  · split at h
    · cases h
    · rename_i directory name hentry
      have hplace : Path.follow directory name = Path.spelled store.workdir path :=
        (entry_ok hentry).2
      simp only [hplace] at h
      split_ifs at h with hsome
      exact ⟨by simpa using hsome, (Except.ok.inj h).symm⟩

/-- A file can be moved to the place that the target spells, by the target's last name. -/
theorem landing_ok {target : Bytes} (h : store.landing target = .ok there) :
    there = Path.spelled store.workdir target ∧ store.isDirectory there = false ∧
      ∃ directory, there = directory ++ [Path.baseName target] := by
  let bare := ((Path.names target).reverse.dropWhile (· = [])).reverse
  have hprefix : bare <+: Path.names target := by
    have hsuffix := List.dropWhile_suffix (l := (Path.names target).reverse) (· = [])
    simpa [bare] using List.reverse_prefix.mpr hsuffix
  simp only [landing] at h
  split at h
  · cases h
  · rename_i directory name hentry
    split_ifs at h with hbusy hslash hthere
    have hbare : bare = Path.names target := hprefix.eq_of_length_le (Nat.le_of_not_lt hslash)
    obtain ⟨hname, hfollow⟩ := entry_ok hentry
    change name = bare.getLastD [] at hname
    change Path.follow directory name = bare.foldl Path.follow _ at hfollow
    rw [hbare] at hname hfollow
    have hlast : Path.follow directory name = directory ++ [name] := by
      simp only [not_or] at hbusy
      simp [Path.follow, hbusy]
    rw [← Except.ok.inj h]
    exact ⟨hfollow, by simpa using hthere, directory, by rw [hlast, hname]; rfl⟩

theorem move_ok {target : Bytes} {moved : Store} (h : store.move place target = .ok moved) :
    ∃ there item, store.landing target = .ok there ∧ store.item? place = some item ∧
      moved = (store.remove place).put there item := by
  unfold move at h
  split at h
  · cases h
  · cases h
  · split at h
    · cases h
    · cases h
    · rename_i there item hlanding hitem
      exact ⟨there, item, hlanding, hitem, (Except.ok.inj h).symm⟩

theorem not_contains_zero_of_move {target : Bytes} {moved : Store}
    (h : store.move place target = .ok moved) : target.contains 0 = false := by
  rw [Bool.eq_false_iff]
  intro hzero
  rw [move, unusable?, if_pos hzero] at h
  cases h

/-- A file that was put at a fresh place and moved to a target is at the target, and all else is as
before the file came. -/
theorem move_put_ok {target content : Bytes} {mode : Nat} {moved : Store}
    (hfresh : store.item? place = none)
    (h : (store.put place (.file content mode)).move place target = .ok moved) :
    (∃ directory, Path.spelled store.workdir target = directory ++ [Path.baseName target]) ∧
      moved.item? (Path.spelled store.workdir target) = some (.file content mode) ∧
      ∀ q ≠ Path.spelled store.workdir target, moved.item? q = store.item? q := by
  obtain ⟨there, item, hlanding, hitem, rfl⟩ := move_ok h
  obtain ⟨hthere, hfile, hdirectory⟩ := landing_ok hlanding
  rw [item?_put_self (not_isPrefixOf_of_fresh hfresh)] at hitem
  obtain rfl := Option.some.inj hitem
  change there = Path.spelled store.workdir target at hthere
  rw [← hthere]
  have hprefix := not_isPrefixOf_workdir hfile
  refine ⟨hdirectory, item?_put_self hprefix, ?_⟩
  intro q hq
  rw [item?_put_of_ne hq, item?_remove_put hfresh]

end Store

end TagIndex
