import TagIndex.Proofs.Pattern
import TagIndex.Scope

namespace TagIndex.Scope

theorem join_cons (sep name : Bytes) (names : List Bytes) :
    Bytes.join sep (name :: names) = name ++ names.flatMap (sep ++ ·) := by
  induction names generalizing name with
  | nil => simp [Bytes.join]
  | cons next rest ih =>
    rw [Bytes.join, ih, List.flatMap_cons, List.append_assoc, List.append_assoc]
    simp

theorem foldl_enter_of_ne_nil {scope : Bytes} (h : scope ≠ []) (names : List Bytes) :
    names.foldl enter scope = scope ++ names.flatMap ([dot] ++ ·) := by
  induction names generalizing scope with
  | nil => simp
  | cons name rest ih =>
    have hstep : enter scope name = scope ++ dot :: name := by simp [enter, h]
    rw [List.foldl_cons, hstep, ih (by simp)]
    simp

/-- From the top of a file, leading empty names leave no trace; all later names are joined. -/
theorem foldl_enter_eq_join (names : List Bytes) :
    names.foldl enter [] = Bytes.join [dot] (names.dropWhile (·.isEmpty)) := by
  induction names with
  | nil => rfl
  | cons name rest ih =>
    cases name with
    | nil => simpa using ih
    | cons byte bytes =>
      rw [List.foldl_cons, enter_nil, foldl_enter_of_ne_nil (by simp)]
      rw [List.dropWhile_cons_of_neg (by simp), join_cons]

theorem foldl_enter_of_forall_ne_nil {names : List Bytes} (h : ∀ name ∈ names, name ≠ []) :
    names.foldl enter [] = Bytes.join [dot] names := by
  rw [foldl_enter_eq_join]
  cases names with
  | nil => rfl
  | cons name rest =>
    have hne := h name (by simp)
    rw [List.dropWhile_cons_of_neg (by simpa using hne)]

theorem join_ne_nil {sep : Bytes} {names : List Bytes} (hne : names ≠ [])
    (h : ∀ name ∈ names, name ≠ []) : Bytes.join sep names ≠ [] := by
  cases names with
  | nil => exact absurd rfl hne
  | cons name rest =>
    rw [join_cons]
    intro hnil
    exact h name (by simp) (List.append_eq_nil_iff.mp hnil).1

def atSign : UInt8 := 64

def quote : UInt8 := 34

/-- The names of containers: an identifier without a dot, or quotes behind an at sign with any text
between them, in which quotes and backslashes stand behind a backslash. -/
inductive Identifier : Bytes → Prop
  | plain {name : Bytes} (hne : name ≠ []) (hdot : dot ∉ name)
      (hquote : ¬[atSign, quote] <+: name) : Identifier name
  | quoted {body : Bytes}
      (hbody : Text.Spelled (fun b => b ≠ quote ∧ b ≠ Bytes.backslash) (fun _ => True) body) :
      Identifier ([atSign, quote] ++ body ++ [quote])

theorem Identifier.ne_nil {name : Bytes} (h : Identifier name) : name ≠ [] := by
  cases h with
  | plain hne _ _ => exact hne
  | quoted _ => simp

/-- What can follow a name in a path: nothing, or a dot and more. -/
def Follows (rest : Bytes) : Prop := ∀ b ∈ rest.head?, b = dot

theorem follows_flatMap (names : List Bytes) : Follows (names.flatMap ([dot] ++ ·)) := by
  cases names <;> simp [Follows]

theorem Follows.head_eq {b : UInt8} {rest : Bytes} (h : Follows (b :: rest)) : b = dot :=
  h b rfl

theorem plain_append_inj {a b moreA moreB : Bytes} (ha : dot ∉ a) (hb : dot ∉ b)
    (hmoreA : Follows moreA) (hmoreB : Follows moreB) (h : a ++ moreA = b ++ moreB) :
    a = b ∧ moreA = moreB := by
  induction a generalizing b with
  | nil =>
    cases b with
    | nil => exact ⟨rfl, h⟩
    | cons c rest =>
      obtain rfl : moreA = c :: (rest ++ moreB) := h
      exact absurd hmoreA.head_eq.symm (List.ne_of_not_mem_cons hb)
  | cons c rest ih =>
    cases b with
    | nil =>
      obtain rfl : moreB = c :: (rest ++ moreA) := h.symm
      exact absurd hmoreB.head_eq.symm (List.ne_of_not_mem_cons ha)
    | cons d others =>
      obtain ⟨rfl, htail⟩ := List.cons.inj h
      obtain ⟨rfl, hmore⟩ :=
        ih (List.not_mem_of_not_mem_cons ha) (List.not_mem_of_not_mem_cons hb) htail
      exact ⟨rfl, hmore⟩

/-- A path that begins with a name without quotes does not begin with quotes. -/
theorem plain_append_ne_quoted {name more rest : Bytes} (hne : name ≠ [])
    (hquote : ¬[atSign, quote] <+: name) (hmore : Follows more) :
    name ++ more ≠ [atSign, quote] ++ rest := by
  intro h
  obtain ⟨b, bytes, rfl⟩ := List.exists_cons_of_ne_nil hne
  obtain ⟨rfl, htail⟩ := List.cons.inj h
  cases bytes with
  | nil =>
    obtain rfl : more = quote :: rest := htail
    exact absurd hmore.head_eq (by decide)
  | cons c bytes =>
    obtain ⟨rfl, _⟩ := List.cons.inj htail
    exact hquote ⟨bytes, rfl⟩

/-- The first name of a path is found from the path alone. -/
theorem Identifier.append_inj {a b moreA moreB : Bytes} (ha : Identifier a) (hb : Identifier b)
    (hmoreA : Follows moreA) (hmoreB : Follows moreB) (h : a ++ moreA = b ++ moreB) :
    a = b ∧ moreA = moreB := by
  cases ha with
  | plain hne hdot hquote =>
    cases hb with
    | plain _ hdot' _ => exact plain_append_inj hdot hdot' hmoreA hmoreB h
    | quoted _ =>
      rw [List.append_assoc, List.append_assoc] at h
      exact absurd h (plain_append_ne_quoted hne hquote hmoreA)
  | quoted hbody =>
    cases hb with
    | plain hne _ hquote =>
      rw [List.append_assoc, List.append_assoc] at h
      exact absurd h.symm (plain_append_ne_quoted hne hquote hmoreB)
    | quoted hbody' =>
      simp only [List.append_assoc, List.append_cancel_left_eq, List.singleton_append] at h
      obtain ⟨rfl, hmore⟩ := hbody.append_close_inj (by simp) (by simp) (by decide) hbody' h
      exact ⟨rfl, hmore⟩

theorem flatMap_dot_inj {names others : List Bytes} (hnames : ∀ name ∈ names, Identifier name)
    (hothers : ∀ name ∈ others, Identifier name)
    (h : names.flatMap ([dot] ++ ·) = others.flatMap ([dot] ++ ·)) : names = others := by
  induction names generalizing others with
  | nil =>
    cases others with
    | nil => rfl
    | cons other more => simp at h
  | cons name rest ih =>
    cases others with
    | nil => simp at h
    | cons other more =>
      have hpath : name ++ rest.flatMap ([dot] ++ ·) = other ++ more.flatMap ([dot] ++ ·) := by
        simpa using h
      obtain ⟨rfl, hmore⟩ := (hnames name (by simp)).append_inj (hothers other (by simp))
        (follows_flatMap rest) (follows_flatMap more) hpath
      have hrest := ih (fun name hmem => hnames name (by simp [hmem]))
        (fun name hmem => hothers name (by simp [hmem])) hmore
      rw [hrest]

theorem join_inj {names others : List Bytes} (hnames : ∀ name ∈ names, Identifier name)
    (hothers : ∀ name ∈ others, Identifier name)
    (h : Bytes.join [dot] names = Bytes.join [dot] others) : names = others := by
  cases names with
  | nil =>
    cases others with
    | nil => rfl
    | cons other more =>
      exact absurd h.symm (join_ne_nil (by simp) fun name hmem => (hothers name hmem).ne_nil)
  | cons name rest =>
    cases others with
    | nil => exact absurd h (join_ne_nil (by simp) fun name hmem => (hnames name hmem).ne_nil)
    | cons other more =>
      rw [join_cons, join_cons] at h
      apply flatMap_dot_inj hnames hothers
      rw [List.flatMap_cons, List.flatMap_cons, List.append_assoc, List.append_assoc, h]

/-- Entering containers one after another joins their names with dots, but for leading empty names,
and no two chains of identifiers have the same path. -/
theorem foldl_enter_unambiguous :
    (∀ names : List Bytes,
      names.foldl enter [] = Bytes.join [dot] (names.dropWhile (·.isEmpty))) ∧
    ∀ names others : List Bytes, (∀ name ∈ names, Identifier name) →
      (∀ name ∈ others, Identifier name) →
      names.foldl enter [] = others.foldl enter [] → names = others := by
  refine ⟨foldl_enter_eq_join, ?_⟩
  intro names others hnames hothers h
  rw [foldl_enter_of_forall_ne_nil fun name hmem => (hnames name hmem).ne_nil,
    foldl_enter_of_forall_ne_nil fun name hmem => (hothers name hmem).ne_nil] at h
  exact join_inj hnames hothers h

/-- A quoted name with a dot and a quote in it, against two names. -/
theorem foldl_enter_quotedDot :
    let whole := Bytes.ofString "@\"a\\\".b\""
    let first := Bytes.ofString "@\"a\\\"\""
    let second := Bytes.ofString "b"
    Identifier whole ∧ Identifier first ∧ Identifier second ∧
      [whole].foldl enter [] ≠ [first, second].foldl enter [] := by
  intro whole first second
  have hwhole : Identifier whole :=
    .quoted (.alone (by decide) (.pair trivial (.alone (by decide) (.alone (by decide) .nil))))
  have hfirst : Identifier first := .quoted (.alone (by decide) (.pair trivial .nil))
  have hsecond : Identifier second := .plain (by decide) (by decide) (by decide)
  refine ⟨hwhole, hfirst, hsecond, ?_⟩
  intro h
  have hsame := foldl_enter_unambiguous.2 [whole] [first, second] (by simp [hwhole])
    (by simp [hfirst, hsecond]) h
  exact absurd hsame (by simp)

end TagIndex.Scope
